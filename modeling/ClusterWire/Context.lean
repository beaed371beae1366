/-! The context of a call: the identity it runs for, 0 for none, and the
sequence number of the request that started it, 0 where nobody waits. -/
namespace ClusterWire

structure CallContext where
  identity : Int64
  sequence : Int64
deriving DecidableEq, Repr, Inhabited

namespace CallContext

/-- The context of work that no request started. -/
def forIdentity (identity : Int64) : CallContext := ⟨identity, 0⟩

def hasIdentity (c : CallContext) : Bool := 0 < c.identity
def expectsResponse (c : CallContext) : Bool := c.sequence != 0

end CallContext
end ClusterWire
