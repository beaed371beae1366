import ClusterWire.Deflate.Bits

/-! Canonical prefix codes, given by the length of each symbol's code: codes
of one length are consecutive, in the order of their symbols, and shorter
codes come before longer ones. -/
namespace ClusterWire.Deflate

/-- How many codes there are of each length from 1 to 15, and the symbols in
the order of their codes. -/
structure Code where
  counts : List Nat
  symbols : List Nat
deriving DecidableEq, Repr

namespace Code

def symbolsOf (length : Nat) (lengths : List Nat) : List Nat :=
  (lengths.zipIdx.filter (·.1 == length)).map (·.2)

def codeLengths : List Nat := (List.range 15).map (· + 1)

def ofLengths (lengths : List Nat) : Code where
  counts := codeLengths.map fun n => lengths.count n
  symbols := codeLengths.flatMap fun n => symbolsOf n lengths

/-- The part of the code space in use, in units of `2 ^ -15`. -/
def space (c : Code) : Nat :=
  c.counts.foldl (fun used count => 2 * used + count) 0

def isFull (c : Code) : Bool := c.space == 0x8000

/-- A code is full, unless it is empty or has one symbol only, which then takes
one bit: half of the space. -/
def isSound (c : Code) : Bool :=
  c.isFull || c.symbols.isEmpty || (c.symbols.length == 1 && c.space == 0x4000)

/-- Reads a symbol: `first` is the first code of the present length, `code`
the bits read so far. -/
def walk : List Nat → (code first : Nat) → (symbols : List Nat) → Bits → Except Fault (Nat × Bits)
  | [], _, _, _, _ => .error .corrupt
  | _ :: _, _, _, _, [] => .error .incomplete
  | count :: counts, code, first, symbols, b :: bits =>
    let code := code + b.toNat
    if code < first + count then
      match symbols[code - first]? with
      | some s => .ok (s, bits)
      | none => .error .corrupt
    else walk counts (2 * code) (2 * (first + count)) (symbols.drop count) bits

/-- Reads a symbol of a sound code. The bit of a lone symbol is zero; the other
bit is refused at once, as any bit is by the empty code. -/
def read (c : Code) (bits : Bits) : Except Fault (Nat × Bits) :=
  if c.isFull then walk c.counts 0 0 c.symbols bits
  else
    match c.symbols, bits with
    | _, [] => .error .incomplete
    | [s], false :: rest => .ok (s, rest)
    | _, _ :: _ => .error .corrupt

end Code
end ClusterWire.Deflate
