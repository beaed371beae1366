import ClusterWire.Connection
import ClusterWire.Server

/-! Serving a connection from its first byte to its last: what comes in is read
and handed over, the workers run, and what the session was sent goes out. -/
namespace ClusterWire

inductive Service.Stage where
  | preamble (held : Bytes)
  | talking (connection : Connection)
  | finished

structure Service where
  server : Server
  remote : SocketAddress
  schedule : Schedule World
  stage : Service.Stage := .preamble []

namespace Service

def start (server : Server) (remote : SocketAddress) (cores : Nat) : Service :=
  { server := server, remote := remote, schedule := server.schedule cores }

variable (reach : SocketAddress → Option (Option String))

def step (s : Service) (c : Connection) (event : Connection.Event) : Service × Connection :=
  let w := s.schedule.state
  let (t, c, job) := c.step s.server.dispatcher w.sessions event
  let schedule := { s.schedule with state := w.withSessions t }
  ({ s with schedule := (schedule.submitAll job.toList).settle reach }, c)

def readAll : (fuel : Nat) → Service → Connection → Service × Connection
  | 0, s, c => (s, c)
  | fuel + 1, s, c =>
    match c.leaving, c.inbox.next c.limit c.remote with
    | some _, _ | none, .nothing => (s, c)
    | none, _ =>
      let (s, c) := s.step reach c .read
      readAll fuel s c

/-- Has the writer write all that waits, and look at the session once. -/
def flush (s : Service) (c : Connection) : Service × Connection × Bytes :=
  let w := s.schedule.state
  let queued := ((w.sessions.session? c.session).map (·.queue.length)).getD 0
  let (writer, t) := (c.writer.flush (queued + 2) w.sessions).swap
  ({ s with schedule := { s.schedule with state := w.withSessions t } },
   { c with writer := { writer with written := [] } }, writer.bytes)

def serve (s : Service) (c : Connection) (unread : Nat) : Service × Bytes :=
  let (s, c) := s.readAll reach (unread + 1) c
  let (s, c) := s.step reach c .closed
  let (s, c, out) := s.flush c
  ({ s with stage := if c.writer.stage = .stopped then .finished else .talking c }, out)

/-- Opens the connection when its framing is known. One that carries no stream
of frames is over. -/
def greet (s : Service) (held : Bytes) : Service × Bytes :=
  match Preamble.ofBytes held with
  | .needMore => ({ s with stage := .preamble held }, [])
  | .binary family =>
    let w := s.schedule.state
    let config := s.server.config
    match Connection.open? w.sessions s.remote config.frameLimit config.defaultType
      (.binary family) with
    | none => ({ s with stage := .finished }, [])
    | some (t, c) =>
      let s := { s with schedule := { s.schedule with state := w.withSessions t } }
      s.serve reach { c with inbox := c.inbox.feed held } held.length
  | .webSocket | .reject _ _ => ({ s with stage := .finished }, [])

def receive (s : Service) (bs : Bytes) : Service × Bytes :=
  match s.stage with
  | .preamble held => s.greet reach (held ++ bs)
  | .talking c =>
    let c := { c with inbox := c.inbox.feed bs }
    match c.inbox with
    | .stream held _ => s.serve reach c held.length
    | .messages waiting => s.serve reach c waiting.length
  | .finished => (s, [])

def finish (s : Service) : Service × Bytes :=
  match s.stage with
  | .talking c => s.serve reach { c with inbox := c.inbox.finish } 1
  | .preamble _ | .finished => ({ s with stage := .finished }, [])

def isFinished (s : Service) : Bool :=
  match s.stage with
  | .finished => true
  | _ => false

end Service
end ClusterWire
