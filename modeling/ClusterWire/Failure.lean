/-! What all faults have in common: a text for people, and a short name for
counters and logs. -/
namespace ClusterWire

class Failure (ε : Type) where
  label : ε → String
  message : ε → String

end ClusterWire
