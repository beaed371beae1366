import ClusterWire.Connection.Admission
import ClusterWire.Connection.Inbox
import ClusterWire.Connection.Writer
import ClusterWire.Dispatch

/-! Connections. The first two bytes decide on the framing and the family; from
then on one side reads messages and hands them over, the other writes what the
session is sent, until the client leaves, is idle for too long, breaks the
protocol, or the server shuts down. -/
namespace ClusterWire

abbrev Dispatch.Job := Int64 × Activity World (Aside World)

/-- A message of a client. Heartbeats are answered here and never reach the
dispatcher. -/
def Dispatcher.receive (d : Dispatcher) (t : Sessions) (id : SessionId) (m : Message) :
    Sessions × Option Dispatch.Job :=
  match m.kind, t.session? id with
  | .heartbeatRequest, some s => ((t.send id (.heartbeatResponse s.family)).1, none)
  | .heartbeatRequest, none | .heartbeatResponse, _ => (t, none)
  | _, _ => (t, d.dispatch t id m)

structure Connection where
  remote : SocketAddress
  limit : Nat
  inbox : Inbox
  writer : Writer
  leaving : Option Leaving := none

namespace Connection

inductive Event where
  | read
  | idle
  | shutdown
  | closed
  | write (succeeds : Bool)
deriving DecidableEq, Repr

def session (c : Connection) : SessionId := c.writer.session

/-- The family and the inbox of a connection that starts like this. A WebSocket
client is never another server. -/
def framing? : Preamble → Option (Family × Inbox)
  | .binary family => some (family, .stream [] false)
  | .webSocket => some (.external, .messages [])
  | .needMore | .reject _ _ => none

def open? (t : Sessions) (remote : SocketAddress) (limit : Nat) (type : UInt8)
    (preamble : Preamble) : Option (Sessions × Connection) :=
  (framing? preamble).map fun (family, inbox) =>
    let (t, id) := t.create remote family type
    (t, { remote := remote, limit := limit, inbox := inbox, writer := { session := id } })

/-- The end of reading: the session is closed, and its identities released. -/
def leave (c : Connection) (t : Sessions) (leaving : Leaving) : Sessions × Connection :=
  ((t.disconnect c.session).1, { c with leaving := some leaving })

def read (d : Dispatcher) (c : Connection) (t : Sessions) :
    Sessions × Connection × Option Dispatch.Job :=
  match c.inbox.next c.limit c.remote with
  | .nothing => (t, c, none)
  | .message m left =>
    let (t, job) := d.receive t c.session m
    (t, { c with inbox := left }, job)
  | .ended leaving =>
    let (t, c) := c.leave t leaving
    (t, c, none)
  | .overrun =>
    let (t, c) := c.leave t (.failed (.internal "read past the end of a frame"))
    (t, c, none)

/-- One step of a connection. A step that is not due changes nothing. -/
def step (d : Dispatcher) (c : Connection) (t : Sessions) (event : Event) :
    Sessions × Connection × Option Dispatch.Job :=
  let leaveIf (due : Bool) : Sessions × Connection × Option Dispatch.Job :=
    if due then
      let (t, c) := c.leave t .orderly
      (t, c, none)
    else (t, c, none)
  match event, c.leaving with
  | .write succeeds, _ =>
    let (t, writer) := c.writer.step t succeeds
    (t, { c with writer := writer }, none)
  | .read, none => c.read d t
  | .idle, none | .shutdown, none => leaveIf true
  | .closed, none => leaveIf ((t.session? c.session).any (·.closed))
  | _, some _ => (t, c, none)

end Connection
end ClusterWire
