import ClusterWire.Toml.Scalar

/-! Whole TOML documents, as JSON objects. A table is written once: under a
header, by the points of its keys, or in braces; only headers may come back to
a table that they passed through before. -/
namespace ClusterWire.Toml

/-- How a table came about: under a header of its own, on the way to another
header, or by the points of a key. -/
inductive Standing where
  | declared
  | passed
  | dotted
deriving DecidableEq, Repr

/-- What a key stands for: a value, a table that may still grow, or the tables
of a repeated header. -/
inductive Node where
  | value (v : Json)
  | table (standing : Standing) (entries : List (String × Node))
  | series (tables : List (List (String × Node)))
deriving Inhabited

abbrev Entries := List (String × Node)

namespace Entries

def put (key : String) (node : Node) : Entries → Entries
  | [] => [(key, node)]
  | (k, n) :: rest => if k = key then (key, node) :: rest else (k, n) :: put key node rest

/-- Changes the table at the end of a path and creates those on the way. The
points of a key do not lead into declared tables. -/
def descend (dotted : Bool) (change : Standing → Entries → Option (Standing × Entries)) :
    List String → Standing → Entries → Option (Standing × Entries)
  | [], standing, es => change standing es
  | key :: path, standing, es => do
    let child ← match es.lookup key with
      | none => (descend dotted change path (if dotted then .dotted else .passed) []).map node
      | some (.value _) => none
      | some (.series tables) => do
        let (_, last) ← descend dotted change path .declared (← tables.getLast?)
        some (.series (tables.dropLast ++ [last]))
      | some (.table s children) =>
        if dotted ∧ s = .declared then none else (descend dotted change path s children).map node
    return (standing, put key child es)
where
  node (t : Standing × Entries) : Node := .table t.1 t.2

/-- Adds a value under a key of one part or more. A table that keys with points
made takes only such keys, any other table only a key of one part. -/
def assign (path : List String) (key : String) (value : Json) :
    Standing → Entries → Option (Standing × Entries) :=
  descend true (fun standing es =>
    if (standing = .dotted) = path.isEmpty ∨ (es.lookup key).isSome then none
    else some (standing, put key (.value value) es)) path

def declare (path : List String) (key : String) :
    Standing → Entries → Option (Standing × Entries) :=
  descend false (fun standing es =>
    match es.lookup key with
    | none => some (standing, put key (.table .declared []) es)
    | some (.table .passed children) => some (standing, put key (.table .declared children) es)
    | some _ => none) path

def extend (path : List String) (key : String) :
    Standing → Entries → Option (Standing × Entries) :=
  descend false (fun standing es =>
    match es.lookup key with
    | none => some (standing, put key (.series [[]]) es)
    | some (.series tables) => some (standing, put key (.series (tables ++ [[]])) es)
    | some _ => none) path

end Entries

mutual

def Node.toJson : Node → Json
  | .value v => v
  | .table _ entries => Json.ofFields (fields entries)
  | .series tables => .array (tablesOf tables)

def fields : List (String × Node) → List (String × Json)
  | [] => []
  | (key, node) :: rest => (key, node.toJson) :: fields rest

def tablesOf : List (List (String × Node)) → List Json
  | [] => []
  | entries :: rest => Json.ofFields (fields entries) :: tablesOf rest

end

def pair (value : Reader Json) : Reader ((List String × String) × Json) := fun cs => do
  let (key, rest) ← key cs
  let (v, rest) ← value (skipBlanks (← mark '=' (skipBlanks rest)))
  return ((key, v), rest)

/-- Items of an array up to its bracket, with fillers and a last comma as one
likes; `fuel` bounds their number. -/
def items (value : Reader Json) : Nat → Reader (List Json)
  | 0, _ => none
  | fuel + 1, cs =>
    match skipFiller false cs with
    | ']' :: rest => some ([], rest)
    | cs => do
      let (v, rest) ← value cs
      match skipFiller false rest with
      | ']' :: rest => some ([v], rest)
      | ',' :: rest => do
        let (vs, rest) ← items value fuel rest
        return (v :: vs, rest)
      | _ => none

def pairs (value : Reader Json) : Nat → Entries → Reader Entries
  | 0, _, _ => none
  | fuel + 1, es, cs => do
    let (((path, key), v), rest) ← pair value (skipBlanks cs)
    let (_, es) ← es.assign path key v .declared
    match skipBlanks rest with
    | '}' :: rest => some (es, rest)
    | ',' :: rest => pairs value fuel es rest
    | _ => none

def table (value : Reader Json) : Reader Json := fun cs =>
  match skipBlanks cs with
  | '}' :: rest => some (Json.ofFields [], rest)
  | cs => do
    let (es, rest) ← pairs value (cs.length + 1) [] cs
    return (Json.ofFields (fields es), rest)

/-- A value with at most `levels` brackets around what is inside. -/
def value : (levels : Nat) → Reader Json
  | levels, '[' :: rest =>
    match levels with
    | 0 => none
    | levels + 1 => (items (value levels) (rest.length + 1) rest).map fun (vs, rest) =>
      (.array vs, rest)
  | levels, '{' :: rest =>
    match levels with
    | 0 => none
    | levels + 1 => table (value levels) rest
  | _, '"' :: rest => (string ('"' :: rest)).map fun (s, rest) => (.string s, rest)
  | _, '\'' :: rest => (string ('\'' :: rest)).map fun (s, rest) => (.string s, rest)
  | _, cs => scalar cs

/-- What was read of a document: its tables and the header that the next pair
stands under. -/
structure Document where
  root : Entries
  header : List String

namespace Document

def change (d : Document) (f : Standing → Entries → Option (Standing × Entries)) :
    Option Entries :=
  (f .declared d.root).map (·.2)

def assign (d : Document) (path : List String) (key : String) (v : Json) : Option Document := do
  let root ← d.change (Entries.descend false (Entries.assign path key v) d.header)
  return { d with root }

def declare (d : Document) (path : List String) (key : String) : Option Document := do
  return ⟨← d.change (Entries.declare path key), path ++ [key]⟩

def extend (d : Document) (path : List String) (key : String) : Option Document := do
  return ⟨← d.change (Entries.extend path key), path ++ [key]⟩

def line (d : Document) : Reader Document
  | '[' :: '[' :: rest => do
    let ((path, key), rest) ← key rest
    let rest ← mark ']' (← mark ']' rest)
    return (← d.extend path key, rest)
  | '[' :: rest => do
    let ((path, key), rest) ← key rest
    return (← d.declare path key, ← mark ']' rest)
  | cs => do
    let (((path, key), v), rest) ← pair (value (depthLimit - 1)) cs
    return (← d.assign path key v, rest)

def lines : Nat → Document → List Char → Option Document
  | 0, _, _ => none
  | fuel + 1, d, cs =>
    match skipBlanks cs with
    | [] => some d
    | c :: rest => do
      let (d, rest) ← if c = '#' ∨ (lineEnd? (c :: rest)).isSome then some (d, c :: rest)
        else d.line (c :: rest)
      lines fuel d (← endLine? rest)

end Document

/-- The tables of a document, as one JSON object. A byte order mark may stand
in front. -/
def read? (text : String) : Option Json := do
  let cs := match text.toList with
    | '\uFEFF' :: cs => cs
    | cs => cs
  let d ← Document.lines (cs.length + 1) ⟨[], []⟩ cs
  return Json.ofFields (fields d.root)

end ClusterWire.Toml
