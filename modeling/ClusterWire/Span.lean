/-! Lengths of time in whole nanoseconds, and their text in the largest unit
that leaves a whole part. -/
namespace ClusterWire

structure Span where
  nanoseconds : Nat
deriving DecidableEq, Repr

namespace Span

def ofMilliseconds (n : Nat) : Span := ⟨n * 1000000⟩
def ofSeconds (n : Nat) : Span := ⟨n * 1000000000⟩

def decimals (width n : Nat) : String :=
  let digits := Nat.toDigits 10 n
  let padded := List.replicate (width - digits.length) '0' ++ digits
  String.ofList (padded.reverse.dropWhile (· == '0')).reverse

/-- A number of units of `10 ^ width` nanoseconds. -/
def inUnit (width : Nat) (unit : String) (n : Nat) : String :=
  let fraction := n % Nat.pow 10 width
  if fraction = 0 then s!"{n / Nat.pow 10 width}{unit}"
  else s!"{n / Nat.pow 10 width}.{decimals width fraction}{unit}"

def text (s : Span) : String :=
  let n := s.nanoseconds
  if 1000000000 ≤ n then inUnit 9 "s" n
  else if 1000000 ≤ n then inUnit 6 "ms" n
  else if 1000 ≤ n then inUnit 3 "µs" n
  else inUnit 0 "ns" n

end Span
end ClusterWire
