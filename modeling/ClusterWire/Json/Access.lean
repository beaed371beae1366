import ClusterWire.Json.Value

/-! Lenient access to the fields of an object. What is missing or of another
type reads as a default; numbers are cut to their width. -/
namespace ClusterWire.Json

def field (v : Json) (name : String) : Json := (v.field? name).getD .null

def has (v : Json) (name : String) : Bool := (v.field? name).isSome

def integer? : Json → Option Int
  | .number (.natural n) => some n.toNat
  | .number (.negative n) => some n.toInt
  | _ => none

def integer (v : Json) (name : String) (absent : Int := 0) : Int :=
  ((v.field name).integer?).getD absent

def size (v : Json) (name : String) (absent : Nat := 0) : Nat :=
  (v.integer name absent).toNat

def cut (bits : Nat) (n : Int) : Nat := (n % (Nat.pow 2 bits : Int)).toNat

def identity (v : Json) (name : String) : Int64 := Int64.ofInt (v.integer name)

def word8 (v : Json) (name : String) (absent : Int := 0) : UInt8 :=
  UInt8.ofNat (cut 8 (v.integer name absent))

def word32 (v : Json) (name : String) : UInt32 := UInt32.ofNat (cut 32 (v.integer name))

def word64 (v : Json) (name : String) (absent : Int := 0) : UInt64 :=
  UInt64.ofNat (cut 64 (v.integer name absent))

def flag (v : Json) (name : String) : Bool :=
  match v.field name with
  | .bool b => b
  | _ => false

def word (v : Json) (name : String) (absent : String := "") : String :=
  match v.field name with
  | .string s => s
  | _ => absent

def items (v : Json) (name : String) : List Json :=
  match v.field name with
  | .array vs => vs
  | _ => []

def integers (v : Json) (name : String) : List Int :=
  (v.items name).map fun i => i.integer?.getD 0

def identities (v : Json) (name : String) : List Int64 := (v.integers name).map Int64.ofInt

def words (v : Json) (name : String) : List String :=
  (v.items name).filterMap fun
    | .string s => some s
    | _ => none

end ClusterWire.Json
