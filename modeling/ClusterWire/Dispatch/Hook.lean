import ClusterWire.Activity
import ClusterWire.Context
import ClusterWire.World

/-! Who a request runs for, and what runs before its handler. -/
namespace ClusterWire.Dispatch

abbrev Extractor := Session → Message → Int64

/-- Requests between servers name their caller; a client's run for the first
identity bound to its session. -/
def defaultExtractor : Extractor := fun s m =>
  match m.family with
  | .internal => m.caller
  | .external => s.primary?.getD 0

/-- Runs before the handler; false drops the message without an answer. -/
abbrev Hook := SessionId → Message → CallContext → Activity World Bool

def rejecting (protocols : List ProtocolId) : Hook := fun _ m _ =>
  .finish (!protocols.contains m.protocol)

def rebind (id : SessionId) (identity : Int64) (t : Sessions) : Sessions :=
  if (t.resolve identity).isNone then (t.bind identity id).1 else t

/-- Lets nobody in without an identity, except for the login protocols. A
request between servers whose identity has no session here binds it to its
link, so that pushes find their way back. -/
def loginGate (logins : List ProtocolId) : Hook := fun id m ctx =>
  if logins.contains m.protocol then .finish true
  else if !ctx.hasIdentity then .finish false
  else
    match m.family with
    | .external => .finish true
    | .internal =>
      .act (fun w => w.withSessions (rebind id ctx.identity w.sessions)) fun _ => .finish true

end ClusterWire.Dispatch
