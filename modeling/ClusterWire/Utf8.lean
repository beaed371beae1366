import ClusterWire.Bytes

/-! UTF-8: the bytes of a text, and the text of bytes with the place and the
extent of the first fault. -/
namespace ClusterWire.Utf8

/-- The first fault of a byte string. `length` is the number of bytes that
cannot go on, and absent when the bytes end inside a character. -/
structure Fault where
  index : Nat
  length : Option Nat
deriving DecidableEq, Repr

def Fault.message (f : Fault) : String :=
  match f.length with
  | some n => s!"invalid utf-8 sequence of {n} bytes from index {f.index}"
  | none => s!"incomplete utf-8 byte sequence from index {f.index}"

def encode (s : String) : Bytes :=
  s.toList.flatMap String.utf8EncodeChar

/-- What a first byte announces: its own bits of the code point, how many
bytes follow, and the range of the next one. -/
structure Lead where
  bits : Nat
  more : Nat
  low : UInt8
  high : UInt8

/- The narrower second bytes rule out overlong forms, surrogates, and code
points above U+10FFFF. -/
def lead? (b : UInt8) : Option Lead :=
  if b < 0x80 then some ⟨b.toNat, 0, 0x80, 0xBF⟩
  else if b < 0xC2 then none
  else if b < 0xE0 then some ⟨b.toNat % 32, 1, 0x80, 0xBF⟩
  else if b < 0xF0 then
    some ⟨b.toNat % 16, 2, if b = 0xE0 then 0xA0 else 0x80, if b = 0xED then 0x9F else 0xBF⟩
  else if b < 0xF5 then
    some ⟨b.toNat % 8, 3, if b = 0xF0 then 0x90 else 0x80, if b = 0xF4 then 0x8F else 0xBF⟩
  else none

/-- Reads `more` further bytes of a character of which `seen` were read; only
the first of them is held to `low` and `high`. -/
def tail? (more : Nat) (low high : UInt8) (code seen : Nat) (bs : Bytes) :
    Except (Option Nat) (Nat × Bytes) :=
  match more, bs with
  | 0, rest => .ok (code, rest)
  | _ + 1, [] => .error none
  | more + 1, b :: rest =>
    if low ≤ b ∧ b ≤ high then
      tail? more 0x80 0xBF (code * 64 + b.toNat % 64) (seen + 1) rest
    else .error (some seen)

def next? (b : UInt8) (rest : Bytes) : Except (Option Nat) (Nat × Nat × Bytes) :=
  match lead? b with
  | none => .error (some 1)
  | some l => do
    let (code, rest) ← tail? l.more l.low l.high l.bits 1 rest
    return (code, l.more + 1, rest)

def decodeFrom : Nat → Nat → Bytes → Except Fault (List Char)
  | _, _, [] => .ok []
  | 0, _, _ => .ok []
  | fuel + 1, index, b :: rest =>
    match next? b rest with
    | .error length => .error ⟨index, length⟩
    | .ok (code, size, rest) => do
      let cs ← decodeFrom fuel (index + size) rest
      return Char.ofNat code :: cs

def decode (bs : Bytes) : Except Fault String :=
  (decodeFrom bs.length 0 bs).map String.ofList

end ClusterWire.Utf8
