import ClusterWire.Decimal.Binary64

/-! The fewest decimal digits that read back as the same double, and of those
the ones nearest to it. -/
namespace ClusterWire.Decimal

/-- `0.d₁d₂… * 10 ^ point`, where `digits` spells `d₁d₂…`. -/
structure Digits where
  digits : List Nat
  point : Int
deriving DecidableEq, Repr

/-- A positive ratio with the interval of reals that round to the same
double; `closed` says whether its ends belong to it. -/
structure Interval where
  value : Nat
  low : Nat
  high : Nat
  denominator : Nat
  closed : Bool

/- In quarters of a unit in the last place. Just above a power of two the gap
below is half as wide. -/
def interval (m e : Nat) : Interval where
  value := 4 * m * Nat.pow 2 e
  low := (if m = Binary64.hiddenBit ∧ 0 < e then 4 * m - 1 else 4 * m - 2) * Nat.pow 2 e
  high := (4 * m + 2) * Nat.pow 2 e
  denominator := 4 * Nat.pow 2 1074
  closed := m % 2 == 0

def digitsOf (n : Nat) : List Nat :=
  (Nat.toDigits 10 n).map fun c => c.toNat - 48

/-- The least `t` from `start` on with `value * 10 ^ t ≥ den`, looking at
`fuel` candidates. -/
def leadingZeros (value den : Nat) : Nat → Nat → Nat
  | 0, t => t
  | fuel + 1, t => if den ≤ value * Nat.pow 10 t then t else leadingZeros value den fuel (t + 1)

/-- `p` with `10 ^ (p - 1) ≤ value / den < 10 ^ p`. The least double is above
`10 ^ -324`. -/
def magnitude (value den : Nat) : Int :=
  if den ≤ value then (digitsOf (value / den)).length
  else 1 - (leadingZeros value den 330 1 : Int)

def Interval.holds (i : Interval) (c : Nat) (k : Int) : Bool :=
  let point := c * i.denominator * Nat.pow 10 k.toNat
  let scale := Nat.pow 10 (-k).toNat
  if i.closed then i.low * scale ≤ point && point ≤ i.high * scale
  else i.low * scale < point && point < i.high * scale

/-- The point of the grid of step `10 ^ k` that lies in the interval, the
nearer one of two, the even one of two as near. -/
def Interval.nearest? (i : Interval) (k : Int) : Option Nat :=
  let num := i.value * Nat.pow 10 (-k).toNat
  let den := i.denominator * Nat.pow 10 k.toNat
  let below := num / den
  let twice := 2 * (num % den)
  match i.holds below k, i.holds (below + 1) k with
  | false, false => none
  | true, false => some below
  | false, true => some (below + 1)
  | true, true =>
    if twice < den ∨ (twice = den ∧ below % 2 = 0) then some below else some (below + 1)

/-- Tries grids of `count` digits and more. Seventeen always suffice. -/
def Interval.search (i : Interval) (p : Int) : Nat → Nat → Nat × Int
  | 0, count => (i.value * Nat.pow 10 count / i.denominator, -count)
  | fuel + 1, count =>
    match i.nearest? (p - count) with
    | some c => (c, p - count)
    | none => i.search p fuel (count + 1)

def shortest (x : Binary64) : Digits :=
  let i := interval x.parts.1 x.parts.2
  let (c, k) := i.search (magnitude i.value i.denominator) 17 1
  let all := digitsOf c
  ⟨(all.reverse.dropWhile (· == 0)).reverse, all.length + k⟩

/-- How a number is laid out: which exponents of the leading digit are
written positionally, and the sign that a positive exponent gets. -/
structure Layout where
  least : Int
  greatest : Int
  plus : String

def text (ds : List Nat) : String :=
  String.ofList (ds.map fun d => Char.ofNat (48 + d))

def zeros (n : Nat) : String := String.ofList (List.replicate n '0')

def positional (d : Digits) : String :=
  if d.point ≤ 0 then s!"0.{zeros (-d.point).toNat}{text d.digits}"
  else
    let n := d.point.toNat
    if d.digits.length ≤ n then s!"{text d.digits}{zeros (n - d.digits.length)}.0"
    else s!"{text (d.digits.take n)}.{text (d.digits.drop n)}"

def scientific (plus : String) (d : Digits) : String :=
  let fraction := if d.digits.length ≤ 1 then "" else s!".{text (d.digits.drop 1)}"
  let exponent := d.point - 1
  let sign := if 0 ≤ exponent then plus else "-"
  s!"{text (d.digits.take 1)}{fraction}e{sign}{exponent.natAbs}"

def Layout.render (layout : Layout) (x : Binary64) : String :=
  let sign := if x.isNegative then "-" else ""
  if x.isZero then s!"{sign}0.0"
  else
    let d := shortest x
    if layout.least ≤ d.point - 1 ∧ d.point - 1 ≤ layout.greatest then s!"{sign}{positional d}"
    else s!"{sign}{scientific layout.plus d}"

end ClusterWire.Decimal
