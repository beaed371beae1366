import ClusterWire.Frame
import ClusterWire.Session

/-! The writer of a connection. It looks at its session's queue, and writes what waits
longest; when there is nothing in the queue, it looks whether the session was closed, and
otherwise starts over. To look at the queue and to look at the session are two steps: others
may send and close between them. -/
namespace ClusterWire

/-- What a writer looks at next. -/
inductive Writer.Stage where
  | queue
  | session
  | stopped
deriving DecidableEq, Repr

structure Writer where
  session : SessionId
  written : List Bytes := []
  stage : Writer.Stage := .queue
deriving DecidableEq, Repr

namespace Writer

def bytes (w : Writer) : Bytes := w.written.flatten

/-- A writer that stops hangs up its queue with whatever is in it. -/
def stop (w : Writer) (t : Sessions) : Sessions × Writer :=
  (t.modify w.session fun s => { s with listening := false, queue := [] },
   { w with stage := .stopped })

/-- Writes the message at the head of the queue. A message without a frame, or
a write that fails, closes the session and stops the writer. -/
def write (w : Writer) (t : Sessions) (m : Message) (rest : List Message) (succeeds : Bool) :
    Sessions × Writer :=
  match Frame.encode m, succeeds with
  | .ok frame, true =>
    (t.modify w.session fun s => { s with queue := rest },
     { w with written := w.written ++ [frame] })
  | _, _ => w.stop (t.close w.session)

/-- The next look of a writer. One that finds its session closed does not look
at the queue again. -/
def step (w : Writer) (t : Sessions) (succeeds : Bool) : Sessions × Writer :=
  match w.stage, t.session? w.session with
  | .queue, some s =>
    match s.queue with
    | m :: rest => w.write t m rest succeeds
    | [] => (t, { w with stage := .session })
  | .session, some s => if s.closed then w.stop t else (t, { w with stage := .queue })
  | .stopped, _ | _, none => (t, w)

def flush : (fuel : Nat) → Writer → Sessions → Sessions × Writer
  | 0, w, t => (t, w)
  | fuel + 1, w, t =>
    let (t, w) := w.step t true
    flush fuel w t

end Writer
end ClusterWire
