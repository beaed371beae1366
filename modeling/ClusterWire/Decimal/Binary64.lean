/-! Double-precision numbers by their 64 bits, with every rounding done on
exact natural numbers: the nearest representable value, ties to the even
fraction. -/
namespace ClusterWire

/-- A sign bit, eleven bits of exponent, fifty-two of fraction. -/
structure Binary64 where
  bits : UInt64
deriving DecidableEq, Repr

namespace Binary64

/-- `2 ^ 63`, the weight of the sign. -/
abbrev signBit : Nat := 0x8000000000000000

/-- `2 ^ 52`, the weight of the bit that normal numbers leave out. -/
abbrev hiddenBit : Nat := 0x10000000000000

abbrev topExponent : Nat := 0x7FF

def isNegative (x : Binary64) : Bool := decide (signBit ≤ x.bits.toNat)

def magnitude (x : Binary64) : Nat := x.bits.toNat % signBit

/-- `m` and `e` with `|x| = m * 2 ^ e / 2 ^ 1074`. -/
def parts (x : Binary64) : Nat × Nat :=
  let exponent := x.magnitude / hiddenBit
  let fraction := x.magnitude % hiddenBit
  if exponent = 0 then (fraction, 0) else (fraction + hiddenBit, exponent - 1)

def isZero (x : Binary64) : Bool := x.magnitude == 0

def isInfinite (x : Binary64) : Bool := decide (topExponent * hiddenBit ≤ x.magnitude)

/-- The quotient rounded to the nearest integer, a half to the even one. -/
def roundedQuotient (num den : Nat) : Nat :=
  let q := num / den
  let twice := 2 * (num % den)
  if den < twice ∨ (twice = den ∧ q % 2 = 1) then q + 1 else q

/-- The nonnegative number nearest to `num / den`. -/
def ofRatio (num den : Nat) : Binary64 :=
  let scaled := num * Nat.pow 2 1074
  let whole := scaled / den
  let e := if whole < 2 * hiddenBit then 0 else whole.log2 - 52
  let magnitude := e * hiddenBit + roundedQuotient scaled (den * Nat.pow 2 e)
  ⟨UInt64.ofNat (min magnitude (topExponent * hiddenBit))⟩

def ofNat (n : Nat) : Binary64 := ofRatio n 1

def zero : Binary64 := ⟨0⟩

def neg (x : Binary64) : Binary64 :=
  if x.isNegative then ⟨UInt64.ofNat x.magnitude⟩
  else ⟨UInt64.ofNat (signBit + x.magnitude)⟩

def product (x y : Binary64) : Binary64 :=
  ofRatio (x.parts.1 * y.parts.1 * Nat.pow 2 (x.parts.2 + y.parts.2)) (Nat.pow 2 2148)

def quotient (x y : Binary64) : Binary64 :=
  ofRatio (x.parts.1 * Nat.pow 2 x.parts.2) (y.parts.1 * Nat.pow 2 y.parts.2)

def tenTo (k : Nat) : Binary64 := ofNat (Nat.pow 10 k)

end Binary64
end ClusterWire
