/-! Admission of connections: each holds a slot while it lasts, and there are
only so many. -/
namespace ClusterWire

structure Slots where
  limit : Nat
  active : Nat
deriving DecidableEq, Repr

namespace Slots

def ofLimit (limit : Nat) : Slots := ⟨limit, 0⟩

def admit? (s : Slots) : Option Slots :=
  if s.active < s.limit then some { s with active := s.active + 1 } else none

def release (s : Slots) : Slots := { s with active := s.active - 1 }

end Slots
end ClusterWire
