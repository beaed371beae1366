import ClusterWire.Proofs.Link.Duties
import ClusterWire.Proofs.Link.Tasks

/-! A server and its links. Its tasks, the tasks of its links, the reaper, waiters and
everything else take turns in any order. A frame is written in one step here; one whose write
is waited for and fails later is a write that succeeds with the link lost after it. Beside the
state of the program there is a record of the calls that were offered to links, and of those
that have ended. -/
namespace ClusterWire

/-- A call whose request was offered to a link, and whether the queue of the link took it. -/
structure Offer where
  link : LinkId
  call : Invocation
  taken : Bool
deriving DecidableEq, Repr

structure Traffic where
  world : World
  tasks : List Task := []
  offers : List Offer := []
  ended : List Ended := []

namespace Traffic

/-- What may happen next: a task begins or takes a step, the task of a link does, calls are
looked at for their deadlines by the reaper or by a waiter, a client drops its link, or
something else. -/
inductive Move where
  | start (t : Task)
  | work (k : Nat) (reason : Option String)
  | link (z : Serializer) (id : LinkId) (event : LinkEvent)
  | reap (now : Instant)
  | wait (i : Invocation) (slot : Nat) (now : Instant)
  | close (address : SocketAddress)
  | elsewhere (w : World)

variable (serializers : Serializers)

def calls (x : Traffic) : Invocations := x.world.calls

def desk (x : Traffic) : Desk := x.world.board.desk

/-- The calls that the next step of a task offers. -/
def offered (x : Traffic) (t : Task) : List Offer :=
  match t.holding.post? with
  | some p => p.call.toList.map fun i => ⟨p.link, i, x.world.board.accepts p.link⟩
  | none => []

/-- The calls that end in the next step of a task. -/
def endedBy (x : Traffic) (t : Task) : List Ended :=
  match t.holding.post? with
  | some p => x.desk.endsAll t.serializers (x.world.board.postEvents p.link p.call)
  | none => []

def step (x : Traffic) : Move → Traffic
  | .start t => { x with tasks := x.tasks ++ [t] }
  | .work k reason =>
    match x.tasks[k]? with
    | none => x
    | some t =>
      { world := (t.work reason x.world).1
        tasks := x.tasks.set k (t.work reason x.world).2
        offers := x.offers ++ x.offered t
        ended := x.ended ++ x.endedBy t }
  | .link z id event =>
    { x with
      world := { x.world with board := x.world.board.step serializers z id event }
      ended := x.ended ++ x.desk.endsAll serializers (x.world.board.callEvents z id event) }
  | .reap now =>
    { x with
      world := x.world.withDesk (x.desk.step serializers (.evict now))
      ended := x.ended ++ x.desk.ends serializers (.evict now) }
  | .wait i slot now =>
    { x with
      world := x.world.withDesk (x.desk.step serializers (.wait i slot now))
      ended := x.ended ++ x.desk.ends serializers (.wait i slot now) }
  | .close address => { x with world := x.world.withPeers (x.world.peers.detach address) }
  | .elsewhere w => { x with world := w }

/-- Tasks begin at their beginning. The numbers of calls are never 0: their counter does not
come round. What happens elsewhere leaves calls and links alone. -/
def Admits (x : Traffic) : Move → Prop
  | .start t => t.Fresh
  | .work k _ => ∀ t, x.tasks[k]? = some t → t.holding.takes = true → x.calls.next.2 ≠ 0
  | .elsewhere w => w.calls = x.calls ∧ w.peers.links = x.world.peers.links
  | _ => True

/-- Whatever may happen to a server that has no calls and no links yet. -/
inductive Run : Traffic → Prop where
  | start {w : World} (calls : w.calls = .empty) (links : w.peers.links = []) : Run { world := w }
  | step {x : Traffic} (move : Move) : Run x → x.Admits move → Run (x.step serializers move)

/-- The link took the request of the call. -/
def Took (x : Traffic) (id : LinkId) (i : Invocation) : Prop := ⟨id, i, true⟩ ∈ x.offers

/-- A request under the number is in the link's queue or in flight on it. -/
def Carries (x : Traffic) (id : LinkId) (n : Int64) : Prop :=
  ∃ l, x.world.peers.link? id = some l ∧ l.Carries n

end Traffic

namespace Invocations

/-- The number was given to a call. -/
def Gave (t : Invocations) (n : Int64) : Prop := n ≠ 0 ∧ n.toUInt64 ≤ t.lastSequence.toUInt64

/-- Numbers count on until they come round to 0. -/
theorem toNat_next {t : Invocations} (counts : t.next.2 ≠ 0) :
    t.next.2.toUInt64.toNat = t.lastSequence.toUInt64.toNat + 1 := by
  have small := t.lastSequence.toUInt64.toNat_lt
  have sum : t.next.2.toUInt64.toNat = (t.lastSequence.toUInt64.toNat + 1) % 2 ^ 64 := by
    rw [next, Int64.toUInt64_add, UInt64.toNat_add]
    rfl
  have nonzero : t.next.2.toUInt64.toNat ≠ 0 := by
    intro zero
    have same : t.next.2.toUInt64 = 0 := UInt64.toNat.inj zero
    exact counts (congrArg Int64.ofUInt64 same)
  omega

theorem gave_next {t : Invocations} (counts : t.next.2 ≠ 0) : t.next.1.Gave t.next.2 :=
  ⟨counts, UInt64.le_refl _⟩

theorem Gave.next {t : Invocations} {n : Int64} (gave : t.Gave n) (counts : t.next.2 ≠ 0) :
    t.next.1.Gave n ∧ n ≠ t.next.2 := by
  have above := toNat_next counts
  have below := UInt64.le_iff_toNat_le.mp gave.2
  constructor
  · refine ⟨gave.1, UInt64.le_iff_toNat_le.mpr ?_⟩
    change n.toUInt64.toNat ≤ t.next.2.toUInt64.toNat
    omega
  · intro same
    rw [← same] at above
    omega

end Invocations
end ClusterWire
