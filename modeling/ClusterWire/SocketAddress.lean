import ClusterWire.Bytes

/-! Socket addresses: `a.b.c.d:port`, and `[groups]:port` with `::` for a run
of zero groups and an optional numeric scope. -/
namespace ClusterWire

inductive SocketAddress where
  | v4 (a b c d : UInt8) (port : UInt16)
  | v6 (groups : List UInt16) (scope : UInt32) (port : UInt16)
deriving DecidableEq, Repr

namespace SocketAddress

def loopback (port : UInt16) : SocketAddress := .v4 127 0 0 1 port

def hostText : SocketAddress → String
  | v4 a b c d _ => ipv4Text a b c d
  | v6 groups scope _ =>
    let scope := if scope = 0 then "" else s!"%{scope.toNat}"
    s!"[{groupsText groups}{scope}]"
where
  ipv4Text (a b c d : UInt8) : String := s!"{a.toNat}.{b.toNat}.{c.toNat}.{d.toNat}"
  hexGroup (g : UInt16) : String := String.ofList (Nat.toDigits 16 g.toNat)
  joined (groups : List UInt16) : String := ":".intercalate (groups.map hexGroup)
  zeroRun (groups : List UInt16) : Nat := (groups.takeWhile (· == 0)).length
  /-- Start and length of the first longest run of zeros. -/
  longestRun (groups : List UInt16) : Nat × Nat :=
    (List.range groups.length).foldl (fun best i =>
      let n := zeroRun (groups.drop i)
      if best.2 < n then (i, n) else best) (0, 0)
  groupsText (groups : List UInt16) : String :=
    match groups with
    | [0, 0, 0, 0, 0, 0xFFFF, x, y] =>
      let low (g : UInt16) : UInt8 := UInt8.ofNat (g.toNat % 256)
      let high (g : UInt16) : UInt8 := UInt8.ofNat (g.toNat / 256)
      s!"::ffff:{ipv4Text (high x) (low x) (high y) (low y)}"
    | groups =>
      let (start, run) := longestRun groups
      if run < 2 then joined groups
      else s!"{joined (groups.take start)}::{joined (groups.drop (start + run))}"

def port : SocketAddress → UInt16
  | v4 _ _ _ _ p | v6 _ _ p => p

def text (a : SocketAddress) : String := s!"{a.hostText}:{a.port.toNat}"

abbrev Reader (α : Type) := List Char → Option (α × List Char)

def literal (c : Char) : List Char → Option (List Char)
  | d :: rest => if c = d then some rest else none
  | [] => none

def digitValue? (radix : Nat) (c : Char) : Option Nat :=
  (Bytes.hexValue? c).filter (· < radix)

def digits (radix : Nat) : List Char → Nat → Nat → Nat × Nat × List Char
  | [], n, count => (n, count, [])
  | c :: rest, n, count =>
    match digitValue? radix c with
    | some d => digits radix rest (n * radix + d) (count + 1)
    | none => (n, count, c :: rest)

def number (radix limit : Nat) : Reader Nat := fun cs =>
  let (n, count, rest) := digits radix cs 0 0
  if count = 0 ∨ limit < n then none else some (n, rest)

def octet : Reader UInt8 := fun cs =>
  let (n, count, rest) := digits 10 cs 0 0
  if count = 0 ∨ 3 < count ∨ 255 < n ∨ (cs.head? = some '0' ∧ 1 < count) then none
  else some (UInt8.ofNat n, rest)

def ipv4 : Reader (UInt8 × UInt8 × UInt8 × UInt8) := fun cs => do
  let (a, cs) ← octet cs
  let (b, cs) ← octet (← literal '.' cs)
  let (c, cs) ← octet (← literal '.' cs)
  let (d, cs) ← octet (← literal '.' cs)
  return ((a, b, c, d), cs)

def group : Reader UInt16 := fun cs =>
  let (n, count, rest) := digits 16 cs 0 0
  if count = 0 ∨ 4 < count then none else some (UInt16.ofNat n, rest)

def pair (high low : UInt8) : UInt16 := UInt16.ofNat (high.toNat * 256 + low.toNat)

/-- Up to `room` groups; the last two may be written as an IPv4 address. Each
group but the first follows a colon. -/
def groups : (room : Nat) → (first : Bool) → List Char → List UInt16 × Bool × List Char
  | 0, _, cs => ([], false, cs)
  | room + 1, first, cs =>
    match if first then some cs else literal ':' cs with
    | none => ([], false, cs)
    | some inner =>
      match if 0 < room then ipv4 inner else none with
      | some ((a, b, c, d), rest) => ([pair a b, pair c d], true, rest)
      | none =>
        match group inner with
        | none => ([], false, cs)
        | some (g, rest) =>
          let (gs, dotted, rest) := groups room false rest
          (g :: gs, dotted, rest)

def ipv6 : Reader (List UInt16) := fun cs => do
  let (head, dotted, cs) := groups 8 true cs
  if head.length = 8 then return (head, cs)
  if dotted then none
  let cs ← literal ':' (← literal ':' cs)
  let (tail, _, cs) := groups (7 - head.length) true cs
  return (head ++ List.replicate (8 - head.length - tail.length) 0 ++ tail, cs)

def portNumber : Reader UInt16 := fun cs => do
  let (n, cs) ← number 10 65535 (← literal ':' cs)
  return (UInt16.ofNat n, cs)

def scope (cs : List Char) : Nat × List Char :=
  match (literal '%' cs).bind (number 10 (UInt32.size - 1)) with
  | some found => found
  | none => (0, cs)

def socketV4 : Reader SocketAddress := fun cs => do
  let ((a, b, c, d), cs) ← ipv4 cs
  let (port, cs) ← portNumber cs
  return (.v4 a b c d port, cs)

def socketV6 : Reader SocketAddress := fun cs => do
  let (groups, cs) ← ipv6 (← literal '[' cs)
  let (scope, cs) := scope cs
  let (port, cs) ← portNumber (← literal ']' cs)
  return (.v6 groups (UInt32.ofNat scope) port, cs)

def ofText? (s : String) : Option SocketAddress :=
  match socketV4 s.toList <|> socketV6 s.toList with
  | some (a, []) => some a
  | _ => none

def syntaxFault : String := "invalid socket address syntax"

end SocketAddress
end ClusterWire
