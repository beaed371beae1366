import ClusterWire.Proofs.Invocation.Moves
import ClusterWire.Proofs.Secrecy.Lockstep
import ClusterWire.World
import Mathlib.Data.List.Forall2

/-! Failures that a remote caller cannot tell apart. Only a remote error passes its code and text
on; of all others the caller learns one of three fixed answers, and this by the code alone. Desks
and links that only differ in such failures go on so. -/
namespace ClusterWire

namespace RpcFault

def isRemote : RpcFault → Bool
  | remote .. => true
  | _ => false

/-- The same failure, or two that are not remote and have the same code. -/
inductive Alike : RpcFault → RpcFault → Prop where
  | refl (fault : RpcFault) : Alike fault fault
  | hidden {fault other : RpcFault} (own : fault.isRemote = false) (also : other.isRemote = false)
      (code : fault.errorCode = other.errorCode) : Alike fault other

/-- What a caller is told of failures that are not remote. -/
def fixed : List ErrorResponse :=
  [⟨.timeout, "timeout"⟩, ⟨.unsupportedProtocol, "unsupported protocol"⟩,
    ⟨.unknown, "unknown error"⟩]

theorem wireMessage_hidden {fault : RpcFault} (own : fault.isRemote = false) :
    fault.wireMessage = if fault.errorCode = .timeout then "timeout"
      else if fault.errorCode = .unsupportedProtocol then "unsupported protocol"
      else "unknown error" := by
  cases fault with
  | remote => cases own
  | timeout | connection | abandoned | unknownMethod | callStyleMismatch | codec | frame | cluster =>
    rfl

/-- Callers are told the same of failures that are alike. -/
theorem Alike.response {fault other : RpcFault} (alike : fault.Alike other) :
    fault.response = other.response := by
  cases alike with
  | refl => rfl
  | hidden own also code =>
    rw [RpcFault.response, RpcFault.response, wireMessage_hidden own, wireMessage_hidden also, code]

theorem response_fixed {fault : RpcFault} (own : fault.isRemote = false) :
    fault.response ∈ fixed := by
  cases fault with
  | remote => cases own
  | timeout => exact .head _
  | cluster => exact .tail _ (.head _)
  | connection | abandoned | unknownMethod | callStyleMismatch | codec | frame =>
    exact .tail _ (.tail _ (.head _))

end RpcFault

namespace Ending

/-- The same end, but for what a waiter finds in its slot. -/
inductive Alike : Ending → Ending → Prop where
  | filled (slot : Nat) {result other : Except RpcFault Message}
      (same : Paired RpcFault.Alike Eq result other) : Alike (.filled slot result) (.filled slot other)
  | sent (id : SessionId) (m : Message) : Alike (.sent id m) (.sent id m)
  | silent : Alike .silent .silent

theorem Alike.refl (ending : Ending) : ending.Alike ending := by
  cases ending with
  | filled slot result =>
    cases result with
    | ok m => exact .filled slot (.ok rfl)
    | error fault => exact .filled slot (.error (.refl fault))
  | sent id m => exact .sent id m
  | silent => exact .silent

end Ending

theorem Invocation.failed_alike (i : Invocation) (serializers : Serializers) (t : Sessions)
    {fault other : RpcFault} (alike : fault.Alike other) :
    (i.failed serializers t fault).Alike (i.failed serializers t other) := by
  cases held : i.completion with
  | waiter slot =>
    simp only [failed, held]
    exact .filled slot (.error alike)
  | forward replyTo =>
    simp only [failed, held, alike.response]
    exact .refl _

/-- Two desks that only differ in what waiters find. -/
structure Desk.Near (d e : Desk) : Prop where
  sessions : d.sessions = e.sessions
  last : d.calls.lastSequence = e.calls.lastSequence
  pending : d.calls.pending = e.calls.pending
  results : List.Forall₂ (fun a b => a.1 = b.1 ∧ Paired RpcFault.Alike Eq a.2 b.2)
    d.calls.results e.calls.results

/-- The same event, but for the failure that ends a call. -/
inductive CallEvent.Alike : CallEvent → CallEvent → Prop where
  | refl (event : CallEvent) : Alike event event
  | fail (sequence : Int64) {fault other : RpcFault} (alike : fault.Alike other) :
      Alike (.fail sequence fault) (.fail sequence other)

namespace Desk.Near

variable {d e : Desk} (serializers : Serializers)

theorem find? (near : d.Near e) (sequence : Int64) :
    d.calls.find? sequence = e.calls.find? sequence := by
  rw [Invocations.find?, near.pending]
  rfl

theorem conclude (near : d.Near e) {ending other : Ending} (alike : ending.Alike other) :
    (d.conclude ending).Near (e.conclude other) := by
  cases alike with
  | filled slot same =>
    exact ⟨near.sessions, near.last, near.pending,
      List.rel_append near.results (.cons ⟨rfl, same⟩ .nil)⟩
  | sent id m =>
    exact ⟨congrArg (fun t => (t.send id m).1) near.sessions, near.last, near.pending, near.results⟩
  | silent => exact near

theorem remove (near : d.Near e) (sequence : Int64) :
    (d.remove sequence).1.Near (e.remove sequence).1 :=
  ⟨near.sessions, near.last, congrArg (List.filter _) near.pending, near.results⟩

theorem finish (near : d.Near e) (sequence : Int64) {ending other : Invocation → Ending}
    (alike : ∀ i, (ending i).Alike (other i)) :
    (d.finish sequence ending).1.Near (e.finish sequence other).1 := by
  have removed := near.remove sequence
  have found := near.find? sequence
  unfold Desk.finish
  simp only [Desk.remove, ← found] at removed ⊢
  cases d.calls.find? sequence with
  | none => exact near
  | some i => exact removed.conclude (alike i)

theorem fail (near : d.Near e) (sequence : Int64) {fault other : RpcFault}
    (alike : fault.Alike other) :
    (d.fail serializers sequence fault).1.Near (e.fail serializers sequence other).1 :=
  near.finish sequence fun i => by
    rw [near.sessions]
    exact i.failed_alike serializers e.sessions alike

theorem complete (near : d.Near e) (link : Serializer) (m : Message) :
    (d.complete serializers link m).1.Near (e.complete serializers link m).1 :=
  near.finish m.sequence fun i => by
    rw [near.sessions]
    exact .refl _

theorem add (near : d.Near e) (i : Invocation) :
    (d.add serializers i).Near (e.add serializers i) := by
  have entered : Desk.Near
      { d with calls := { d.calls.erase i.sequence with
          pending := (d.calls.erase i.sequence).pending ++ [i] } }
      { e with calls := { e.calls.erase i.sequence with
          pending := (e.calls.erase i.sequence).pending ++ [i] } } :=
    ⟨near.sessions, near.last, congrArg (·.filter (·.sequence != i.sequence) ++ [i]) near.pending,
      near.results⟩
  simp only [Desk.add, ← near.find?]
  refine entered.conclude ?_
  rw [near.sessions]
  exact .refl _

theorem expire (near : d.Near e) (expired : List Invocation) :
    (d.expire serializers expired).Near (e.expire serializers expired) := by
  induction expired generalizing d e with
  | nil => exact near
  | cons i rest ih => exact ih (near.fail serializers i.sequence (.refl _))

theorem evict (near : d.Near e) (now : Instant) :
    (d.evict serializers now).1.Near (e.evict serializers now).1 := by
  unfold Desk.evict
  rw [near.pending]
  exact near.expire serializers _

theorem isSome_result? (near : d.Near e) (slot : Nat) :
    (d.calls.result? slot).isSome = (e.calls.result? slot).isSome := by
  have lists : ∀ {xs ys : List (Nat × Except RpcFault Message)},
      List.Forall₂ (fun a b => a.1 = b.1 ∧ Paired RpcFault.Alike Eq a.2 b.2) xs ys →
        (xs.lookup slot).isSome = (ys.lookup slot).isSome := by
    intro xs ys same
    induction same with
    | nil => rfl
    | @cons a b _ _ same _ ih =>
      obtain ⟨n, result⟩ := a
      obtain ⟨m, other⟩ := b
      obtain rfl : n = m := same.1
      rw [List.lookup_cons, List.lookup_cons]
      cases slot == n with
      | true => rfl
      | false => exact ih
  exact lists near.results

/-- Whether there is a result already is the same, and that is all that a look changes by. -/
theorem poll (near : d.Near e) (i : Invocation) (slot : Nat) (now : Instant) :
    (d.poll i slot now).1.Near (e.poll i slot now).1 := by
  have found := near.isSome_result? slot
  have waits : d.calls.awaits slot = e.calls.awaits slot := by
    rw [Invocations.awaits, near.pending]
    rfl
  unfold Desk.poll
  rw [waits]
  cases own : d.calls.result? slot with
  | some result =>
    rw [own] at found
    obtain ⟨other, also⟩ := Option.isSome_iff_exists.mp found.symm
    rw [also]
    exact near
  | none =>
    rw [own] at found
    rw [Option.isSome_eq_false_iff.mp found.symm |> Option.isNone_iff_eq_none.mp]
    dsimp only
    split
    · exact near
    · split
      · exact near.remove i.sequence
      · exact near

theorem step (near : d.Near e) {event other : CallEvent} (alike : event.Alike other) :
    (d.step serializers event).Near (e.step serializers other) := by
  cases alike with
  | fail sequence alike => exact near.fail serializers sequence alike
  | refl =>
    cases event with
    | next => exact ⟨near.sessions, congrArg (· + 1) near.last, near.pending, near.results⟩
    | add i => exact near.add serializers i
    | complete link m => exact near.complete serializers link m
    | fail sequence fault => exact near.fail serializers sequence (.refl fault)
    | remove sequence => exact near.remove sequence
    | evict now => exact near.evict serializers now
    | wait i slot now => exact near.poll i slot now
    | elsewhere t => exact ⟨rfl, near.last, near.pending, near.results⟩

end Desk.Near
end ClusterWire
