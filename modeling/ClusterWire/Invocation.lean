import ClusterWire.Rpc
import ClusterWire.Session

/-! Outstanding calls, by their sequence number. A call ends once: its waiter
gets a result, or the caller it was relayed for gets a frame. -/
namespace ClusterWire

/-- A moment, in nanoseconds since the clock was started. -/
abbrev Instant := Nat

/-- Who learns the result of a call: the waiter of a slot, or the caller on a
session, under the number of the caller's own request. -/
inductive Completion where
  | waiter (slot : Nat)
  | forward (replyTo : SessionId)
deriving DecidableEq, Repr

structure Invocation where
  sequence : Int64
  parent : Int64
  caller : Int64
  protocol : ProtocolId
  synchronous : Bool
  timeout : Span
  deadline : Instant
  completion : Completion
deriving DecidableEq, Repr

namespace Invocation

def waiting (now : Instant) (ctx : CallContext) (sequence : Int64) (protocol : ProtocolId)
    (synchronous : Bool) (timeout : Span) (slot : Nat) : Invocation where
  sequence := sequence
  parent := ctx.sequence
  caller := ctx.identity
  protocol := protocol
  synchronous := synchronous
  timeout := timeout
  deadline := now + timeout.nanoseconds
  completion := .waiter slot

def forwarding (now : Instant) (ctx : CallContext) (sequence : Int64) (protocol : ProtocolId)
    (replyTo : SessionId) (timeout : Span) : Invocation where
  sequence := sequence
  parent := ctx.sequence
  caller := ctx.identity
  protocol := protocol
  synchronous := false
  timeout := timeout
  deadline := now + timeout.nanoseconds
  completion := .forward replyTo

def isForward (i : Invocation) : Bool :=
  match i.completion with
  | .forward _ => true
  | .waiter _ => false

def timeoutFault (i : Invocation) : RpcFault := .timeout i.protocol i.sequence i.timeout

end Invocation

/-- How a call ends: a slot is filled, a frame goes to a session, or nobody
hears of it. -/
inductive Ending where
  | filled (slot : Nat) (result : Except RpcFault Message)
  | sent (session : SessionId) (m : Message)
  | silent
deriving Repr

namespace Invocation

def errorFrame (serializer : Serializer) (family : Family) (sequence : Int64)
    (response : ErrorResponse) : Message :=
  .errorResponse family sequence (serializer.encode response.toJson)

def caller? (i : Invocation) (serializers : Serializers) (sessions : Sessions)
    (replyTo : SessionId) : Option (Session × Serializer) := do
  if i.parent = 0 then none
  let s ← sessions.session? replyTo
  let serializer ← serializers.find? s.serializeType
  return (s, serializer)

/-- The end of a call by a response of a link with serializer `link`. A body
that cannot be re-encoded is answered as an unknown error. -/
def completed (i : Invocation) (serializers : Serializers) (sessions : Sessions)
    (link : Serializer) (m : Message) : Ending :=
  match i.completion with
  | .waiter slot => .filled slot (.ok m)
  | .forward replyTo =>
    match i.caller? serializers sessions replyTo with
    | none => .silent
    | some (s, serializer) =>
      match link.transcode serializer m.body with
      | .ok body => .sent replyTo (.response s.family i.parent m.protocol body)
      | .error _ =>
        .sent replyTo (errorFrame serializer s.family i.parent ⟨.unknown, "unknown error"⟩)

def failed (i : Invocation) (serializers : Serializers) (sessions : Sessions)
    (fault : RpcFault) : Ending :=
  match i.completion with
  | .waiter slot => .filled slot (.error fault)
  | .forward replyTo =>
    match i.caller? serializers sessions replyTo with
    | none => .silent
    | some (s, serializer) =>
      .sent replyTo (errorFrame serializer s.family i.parent fault.response)

end Invocation

/-- The calls that are out, the last sequence number given, and the results
that waiters got. -/
structure Invocations where
  lastSequence : Int64
  pending : List Invocation
  results : List (Nat × Except RpcFault Message)
deriving Repr

instance : Inhabited Invocations := ⟨⟨0, [], []⟩⟩

structure Desk where
  sessions : Sessions
  calls : Invocations
deriving Repr, Inhabited

namespace Invocations

def empty : Invocations := ⟨0, [], []⟩

/-- Numbers count from 1; 0 is for messages that answer nothing. -/
def next (t : Invocations) : Invocations × Int64 :=
  ({ t with lastSequence := t.lastSequence + 1 }, t.lastSequence + 1)

def find? (t : Invocations) (sequence : Int64) : Option Invocation :=
  t.pending.find? (·.sequence == sequence)

def contains (t : Invocations) (sequence : Int64) : Bool := (t.find? sequence).isSome

def erase (t : Invocations) (sequence : Int64) : Invocations :=
  { t with pending := t.pending.filter (·.sequence != sequence) }

theorem find?_erase (t : Invocations) (sequence other : Int64) :
    (t.erase sequence).find? other = if other = sequence then none else t.find? other := by
  simp only [find?, erase, List.find?_filter]
  split
  · rename_i same
    simp [same]
  · rename_i differ
    congr 1
    funext i
    by_cases h : i.sequence = other <;> simp [h, differ]

def result? (t : Invocations) (slot : Nat) : Option (Except RpcFault Message) :=
  t.results.lookup slot

def awaits (t : Invocations) (slot : Nat) : Bool :=
  t.pending.any (·.completion == .waiter slot)

end Invocations

namespace Desk

def conclude (d : Desk) : Ending → Desk
  | .filled slot result =>
    { d with calls := { d.calls with results := d.calls.results ++ [(slot, result)] } }
  | .sent session m => { d with sessions := (d.sessions.send session m).1 }
  | .silent => d

def remove (d : Desk) (sequence : Int64) : Desk × Option Invocation :=
  ({ d with calls := d.calls.erase sequence }, d.calls.find? sequence)

def finish (d : Desk) (sequence : Int64) (ending : Invocation → Ending) : Desk × Bool :=
  match d.remove sequence with
  | (_, none) => (d, false)
  | (d, some i) => (d.conclude (ending i), true)

/-- Ends a call by its response; late and unknown responses are dropped. -/
def complete (serializers : Serializers) (link : Serializer) (d : Desk) (m : Message) :
    Desk × Bool :=
  d.finish m.sequence fun i => i.completed serializers d.sessions link m

def fail (serializers : Serializers) (d : Desk) (sequence : Int64) (fault : RpcFault) :
    Desk × Bool :=
  d.finish sequence fun i => i.failed serializers d.sessions fault

/-- Adds a call. An older one under the same number is abandoned. -/
def add (serializers : Serializers) (d : Desk) (i : Invocation) : Desk :=
  let abandoned := match d.calls.find? i.sequence with
    | some older => older.failed serializers d.sessions (.abandoned older.protocol)
    | none => .silent
  let calls := d.calls.erase i.sequence
  { d with calls := { calls with pending := calls.pending ++ [i] } }.conclude abandoned

def expire (serializers : Serializers) : Desk → List Invocation → Desk
  | d, [] => d
  | d, i :: rest => expire serializers (d.fail serializers i.sequence i.timeoutFault).1 rest

/-- Ends every call whose deadline is at or before `now`; counts them. -/
def evict (serializers : Serializers) (d : Desk) (now : Instant) : Desk × Nat :=
  let expired := d.calls.pending.filter (·.deadline ≤ now)
  (d.expire serializers expired, expired.length)

/-- What a waiter finds: its result, an abandoned call, a timeout at the
deadline, or nothing yet. -/
inductive Waited where
  | result (result : Except RpcFault Message)
  | pending
deriving Repr

/-- Looks for the result of a call. At the deadline the call is taken out of
the table. -/
def poll (d : Desk) (i : Invocation) (slot : Nat) (now : Instant) : Desk × Waited :=
  match d.calls.result? slot with
  | some result => (d, .result result)
  | none =>
    if !d.calls.awaits slot then (d, .result (.error (.abandoned i.protocol)))
    else if i.deadline ≤ now then
      ((d.remove i.sequence).1, .result (.error i.timeoutFault))
    else (d, .pending)

end Desk
end ClusterWire
