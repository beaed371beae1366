import ClusterWire.Decimal.Binary64
import ClusterWire.Utf8

/-! JSON values. Whole numbers of 64 bits stay exact, and the fields of an
object are kept in the order of their names. -/
namespace ClusterWire

inductive Json.Number where
  | natural (n : UInt64)
  | negative (n : Int64)
  | float (x : Binary64)
deriving DecidableEq, Repr

inductive Json where
  | null
  | bool (b : Bool)
  | number (n : Json.Number)
  | string (s : String)
  | array (items : List Json)
  | object (fields : List (String × Json))
deriving Repr, Inhabited

namespace Json

/-- Puts a field in its place; a later value of the same name wins. -/
def insertField (name : String) (value : Json) : List (String × Json) → List (String × Json)
  | [] => [(name, value)]
  | (n, v) :: rest =>
    if name = n then (name, value) :: rest
    else if name < n then (name, value) :: (n, v) :: rest
    else (n, v) :: insertField name value rest

def ofFields (fields : List (String × Json)) : Json :=
  .object (fields.foldl (fun sorted (n, v) => insertField n v sorted) [])

def ofNat (n : Nat) : Json := .number (.natural (UInt64.ofNat n))

def ofInt64 (i : Int64) : Json :=
  if 0 ≤ i then .number (.natural i.toUInt64) else .number (.negative i)

def ofOption {α : Type} (f : α → Json) : Option α → Json
  | some x => f x
  | none => null

def ofList {α : Type} (f : α → Json) (xs : List α) : Json := .array (xs.map f)

def ofIdentities (ids : List Int64) : Json := ofList ofInt64 ids

/-- An object with one more field; other values stay as they are. -/
def withField (v : Json) (name : String) (value : Json) : Json :=
  match v with
  | object fields => .object (insertField name value fields)
  | v => v

def isNull : Json → Bool
  | null => true
  | _ => false

def field? (name : String) : Json → Option Json
  | object fields => (fields.find? (·.1 == name)).map (·.2)
  | _ => none

end Json
end ClusterWire
