/-! A periodic timer. A tick that comes late by more than five milliseconds
delays those after it. Times are in milliseconds. -/
namespace ClusterWire

structure Ticker where
  period : Nat
  due : Nat
deriving DecidableEq, Repr

namespace Ticker

/-- How late a tick may be without a delay of the next. -/
def tolerance : Nat := 5

/-- A timer that ticks at once and then every `period`, but at most every
millisecond. -/
def start (period now : Nat) : Ticker := ⟨max period 1, now⟩

def after (t : Ticker) (now : Nat) : Ticker :=
  { t with due := if t.due + tolerance < now then now + t.period else t.due + t.period }

def take (t : Ticker) (now : Nat) : Nat → Ticker × Nat
  | 0 => (t, 0)
  | fuel + 1 =>
    if t.due ≤ now then
      let (t, n) := (t.after now).take now fuel
      (t, n + 1)
    else (t, 0)

/-- Takes all ticks due at `now`. After the first of them the next is due at
most the tolerance before `now`, and a tick is a millisecond at least. -/
def tick (t : Ticker) (now : Nat) : Ticker × Nat := t.take now (tolerance + 2)

end Ticker
end ClusterWire
