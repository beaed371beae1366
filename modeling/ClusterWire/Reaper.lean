import ClusterWire.Invocation
import ClusterWire.Ticker

/-! Outstanding calls under a running clock. The reaper ends, at every tick,
the calls whose deadline has passed; waiters watch their own deadlines. -/
namespace ClusterWire

structure Watch where
  desk : Desk
  clock : Nat := 0
  reaper : Option Ticker := none
deriving Repr

namespace Watch

def nanosecondsPerMillisecond : Nat := 1000000

def now (w : Watch) : Instant := w.clock * nanosecondsPerMillisecond

variable (serializers : Serializers)

def sweep (w : Watch) : Watch :=
  match w.reaper with
  | none => w
  | some ticker =>
    match ticker.tick w.clock with
    | (_, 0) => w
    | (ticker, _) =>
      { w with reaper := some ticker, desk := (w.desk.evict serializers w.now).1 }

def advance (w : Watch) (milliseconds : Nat) : Watch :=
  { w with clock := w.clock + milliseconds }.sweep serializers

/-- Starts a reaper, which sweeps at once and then every `period`. -/
def startReaper (w : Watch) (period : Nat) : Watch :=
  { w with reaper := some (.start period w.clock) }.sweep serializers

def stopReaper (w : Watch) : Watch := { w with reaper := none }

/-- The first millisecond at which a call has expired. -/
def expiry (i : Invocation) : Nat :=
  (i.deadline + nanosecondsPerMillisecond - 1) / nanosecondsPerMillisecond

def nextMoment (w : Watch) (i : Invocation) : Nat :=
  match w.reaper with
  | some ticker => min ticker.due (expiry i)
  | none => expiry i

def waitSteps (i : Invocation) (slot : Nat) : Nat → Watch → Watch × Except RpcFault Message
  | 0, w => (w, .error i.timeoutFault)
  | steps + 1, w =>
    match w.desk.poll i slot w.now with
    | (desk, .result result) => ({ w with desk := desk }, result)
    | (desk, .pending) =>
      let w := { w with desk := desk }
      waitSteps i slot steps (w.advance serializers (w.nextMoment i - w.clock))

/-- Waits for the result of a call, up to its deadline. Every step takes a
millisecond at least. -/
def wait (w : Watch) (i : Invocation) (slot : Nat) : Watch × Except RpcFault Message :=
  waitSteps serializers i slot (expiry i - w.clock + 2) w

end Watch
end ClusterWire
