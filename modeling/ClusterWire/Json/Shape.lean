import ClusterWire.Failure
import ClusterWire.Json.Writer
import ClusterWire.Text.Quoted

/-! Reading typed values out of JSON values, with the faults of those that do
not fit. -/
namespace ClusterWire.Json

inductive ShapeFault where
  | invalidType (found : Json) (expected : String)
  | invalidValue (found : Int) (expected : String)
  | missingField (name : String)
  | invalidLength (length : Nat) (expected : String)
  | refused (reason : String)
deriving Repr

def found : Json → String
  | null => "null"
  | bool b => s!"boolean `{b}`"
  | number (.float x) => s!"floating point `{(Number.float x).text}`"
  | number n => s!"integer `{n.text}`"
  | string s => s!"string {Text.quoted s}"
  | array _ => "sequence"
  | object _ => "map"

def ShapeFault.message : ShapeFault → String
  | invalidType v expected => s!"invalid type: {found v}, expected {expected}"
  | invalidValue n expected => s!"invalid value: integer `{n}`, expected {expected}"
  | missingField name => s!"missing field `{name}`"
  | invalidLength n expected => s!"invalid length {n}, expected {expected}"
  | refused reason => reason

instance : Failure ShapeFault := ⟨fun _ => "Json", ShapeFault.message⟩

abbrev Shape (α : Type) := Json → Except ShapeFault α

namespace Shape

def integer (name : String) (low high : Int) : Shape Int
  | number (.natural n) => within n.toNat
  | number (.negative n) => within n.toInt
  | v => .error (.invalidType v name)
where
  within (n : Int) : Except ShapeFault Int :=
    if low ≤ n ∧ n ≤ high then .ok n else .error (.invalidValue n name)

def int64 : Shape Int64 := fun v => do
  return Int64.ofInt (← integer "i64" Int64.minValue.toInt Int64.maxValue.toInt v)

def int32 : Shape Int32 := fun v => do
  return Int32.ofInt (← integer "i32" Int32.minValue.toInt Int32.maxValue.toInt v)

def natural (name : String) (bits : Nat) : Shape Nat := fun v => do
  return (← integer name 0 (Nat.pow 2 bits - 1) v).toNat

def uint8 : Shape UInt8 := fun v => do return UInt8.ofNat (← natural "u8" 8 v)
def uint32 : Shape UInt32 := fun v => do return UInt32.ofNat (← natural "u32" 32 v)
def uint64 : Shape UInt64 := fun v => do return UInt64.ofNat (← natural "u64" 64 v)
def size : Shape Nat := natural "usize" 64

def boolean : Shape Bool
  | bool b => .ok b
  | v => .error (.invalidType v "a boolean")

def text : Shape String
  | string s => .ok s
  | v => .error (.invalidType v "a string")

def unit : Shape Unit
  | null => .ok ()
  | v => .error (.invalidType v "unit")

def any : Shape Json := .ok

def list {α : Type} (item : Shape α) : Shape (List α)
  | array vs => vs.mapM item
  | v => .error (.invalidType v "a sequence")

def option {α : Type} (item : Shape α) : Shape (Option α)
  | null => .ok none
  | v => (item v).map some

structure Field where
  name : String
  check : Json → Except ShapeFault Unit
  absent : Option Json

def Field.required {α : Type} (name : String) (shape : Shape α) : Field :=
  ⟨name, fun v => (shape v).map fun _ => (), none⟩

def Field.optional {α : Type} (name : String) (shape : Shape α) (absent : Json) : Field :=
  ⟨name, fun v => (shape v).map fun _ => (), some absent⟩

/-- Checks the fields that are given, in their order. Unknown ones pass. -/
def checkGiven (fields : List Field) : List (String × Json) → Except ShapeFault Unit
  | [] => .ok ()
  | (name, v) :: rest => do
    match fields.find? (·.name == name) with
    | some f => f.check v
    | none => pure ()
    checkGiven fields rest

def complete (given : List (String × Json)) : List Field → Except ShapeFault (List (String × Json))
  | [] => .ok []
  | f :: rest =>
    match given.lookup f.name <|> f.absent with
    | some v => do return (f.name, v) :: (← complete given rest)
    | none => .error (.missingField f.name)

def counted (name : String) (n : Nat) : String :=
  if n = 1 then s!"struct {name} with 1 element" else s!"struct {name} with {n} elements"

/-- What becomes of the values behind the last field of a record in a list. -/
inductive Surplus where
  | refused
  | ignored
deriving DecidableEq, Repr

def positional (name : String) (total : Nat) (surplus : Surplus) :
    (index : Nat) → List Field → List Json → Except ShapeFault (List (String × Json))
  | _, [], [] => .ok []
  | index, [], extra =>
    match surplus with
    | .refused => .error (.invalidLength (index + extra.length) "fewer elements in array")
    | .ignored => .ok []
  | index, f :: fields, v :: vs => do
    f.check v
    return (f.name, v) :: (← positional name total surplus (index + 1) fields vs)
  | index, f :: fields, [] =>
    match f.absent with
    | some v => do
      return (f.name, v) :: (← positional name total surplus (index + 1) fields [])
    | none => .error (.invalidLength index (counted name total))

/-- A record, given as an object or as a list of its fields in order. The
answer looks a field up by its name. -/
def recordWith (surplus : Surplus) (name : String) (fields : List Field) :
    Shape (String → Json)
  | object given => do
    checkGiven fields given
    let all ← complete given fields
    return fun n => (all.lookup n).getD .null
  | array vs => do
    let all ← positional name fields.length surplus 0 fields vs
    return fun n => (all.lookup n).getD .null
  | v => .error (.invalidType v s!"struct {name}")

def record (name : String) (fields : List Field) : Shape (String → Json) :=
  recordWith .refused name fields

def pair {α β : Type} (first : Shape α) (second : Shape β) : Shape (α × β)
  | array [] => .error (.invalidLength 0 "a tuple of size 2")
  | array [a] => do
    let _ ← first a
    .error (.invalidLength 1 "a tuple of size 2")
  | array (a :: b :: rest) => do
    let a ← first a
    let b ← second b
    if rest.isEmpty then return (a, b)
    else .error (.invalidLength (rest.length + 2) "fewer elements in array")
  | v => .error (.invalidType v "a tuple of size 2")

end Shape
end ClusterWire.Json
