import ClusterWire.Proofs.Frame.RoundTrip
import ClusterWire.Proofs.Invocation.History
import ClusterWire.Proofs.Invocation.Series
import ClusterWire.Proofs.Link.Duties
import ClusterWire.Proofs.Link.Outgoing
import ClusterWire.Reaper

/-! A call at its caller. Its request is queued as the call is entered; the first frame under
its number fills the slot of the call, and the caller finds it there from then on. -/
namespace ClusterWire

namespace Desk

variable (serializers : Serializers) {d : Desk} {slot : Nat}

/-- A slot that is filled stays as it is. -/
theorem result?_step (unique : d.calls.Unique) {result : Except RpcFault Message}
    (filled : d.calls.result? slot = some result) (event : CallEvent) :
    (d.step serializers event).calls.Unique ∧
      (d.step serializers event).calls.result? slot = some result := by
  by_cases outside : ∃ sessions, event = .elsewhere sessions
  · obtain ⟨sessions, rfl⟩ := outside
    exact ⟨unique, filled⟩
  · have moves := step_moves serializers unique event fun sessions same => outside ⟨sessions, same⟩
    refine ⟨moves.unique, ?_⟩
    rw [Invocations.result?] at filled ⊢
    rw [moves.results, List.lookup_append, filled]
    rfl

theorem result?_steps (unique : d.calls.Unique) {result : Except RpcFault Message}
    (filled : d.calls.result? slot = some result) (events : List CallEvent) :
    (d.steps serializers events).calls.result? slot = some result := by
  induction events generalizing d with
  | nil => exact filled
  | cons event rest ih =>
    obtain ⟨kept, still⟩ := result?_step serializers unique filled event
    exact ih kept still

/-- A call is out: it was entered with a slot of its own, and nothing has ended it since. -/
inductive Waits (call : Invocation) : Desk → Prop where
  | entered {d : Desk} {added : List Invocation} {ended : List Ended} :
      Run serializers d added ended → d.Admits (.add call) →
        Waits call (d.step serializers (.add call))
  | spared {d : Desk} (event : CallEvent) :
      Waits call d → d.Admits event → event.Spares call → Waits call (d.step serializers event)

theorem Waits.out {call : Invocation} (waits : Waits serializers call d) :
    call ∈ d.calls.pending ∧ ∃ added ended, Run serializers d added ended := by
  induction waits with
  | @entered d added ended history admits =>
    obtain ⟨fault, -, entered⟩ := d.add_eq_fail serializers call
    refine ⟨?_, _, _, history.step (.add call) admits⟩
    rw [Desk.step, entered]
    exact List.mem_append_right _ (List.mem_singleton_self call)
  | spared event _ admits spares ih =>
    obtain ⟨out, added, ended, history⟩ := ih
    exact ⟨mem_step serializers (accounts_of_run serializers history).unique out spares,
      _, _, history.step event admits⟩

end Desk

/-- A caller that finds its slot filled takes what is there. -/
theorem Watch.wait_of_result (serializers : Serializers) {w : Watch} {slot : Nat}
    {result : Except RpcFault Message} (filled : w.desk.calls.result? slot = some result)
    (i : Invocation) : (w.wait serializers i slot).2 = result := by
  have looks : ∀ steps, (waitSteps serializers i slot (steps + 1) w).2 = result := by
    intro steps
    simp only [waitSteps, Desk.poll, filled]
  exact looks (expiry i - w.clock + 1)

namespace Board

variable (serializers : Serializers) {b : Board} {id : LinkId} {l : Link}

/-- The first response under the number of a call that is out fills its slot for good, and no
subscriber hears of it. -/
theorem filled_of_answer {call : Invocation} (waits : b.desk.Waits serializers call) {slot : Nat}
    (own : call.completion = .waiter slot) (there : b.peers.link? id = some l)
    (running : l.phase = .running) (link : Serializer) {answer : Message}
    (kind : answer.kind = .response) (same : answer.sequence = call.sequence)
    (asked : call.sequence ≠ 0) (succeeds : Bool) :
    (b.step serializers link id (.receive answer succeeds)).peers.clients = b.peers.clients ∧
    ∀ events, ((b.step serializers link id (.receive answer succeeds)).desk.steps serializers
      events).calls.result? slot = some (.ok answer) := by
  obtain ⟨out, added, ended, history⟩ := waits.out
  have accounts := Desk.accounts_of_run serializers history
  have number : answer.sequence ≠ 0 := same ▸ asked
  have stepped : b.step serializers link id (.receive answer succeeds) =
      { desk := (b.desk.complete serializers link answer).1
        peers := b.peers.modifyLink id fun l =>
          { l with inFlight := l.inFlight.filter (· != answer.sequence) } } := by
    simp only [step, there, running, receive, kind, number, if_false]
  have found : b.desk.calls.find? answer.sequence = some call := by
    rw [same]
    exact Invocations.find?_of_mem accounts.unique out
  have moves := Desk.complete_moves serializers accounts.unique link answer
  have ends : b.desk.ends serializers (.complete link answer) =
      [⟨call, .filled slot (.ok answer)⟩] := by
    simp only [Desk.ends, Desk.endsOf, found, Invocation.completed, own, Option.toList_some,
      List.map_cons, List.map_nil]
  rw [stepped]
  refine ⟨rfl, fun events => Desk.result?_steps serializers moves.unique ?_ events⟩
  have empty := Desk.result?_of_pending accounts.once out own
  rw [Invocations.result?] at empty ⊢
  rw [moves.results, ends, List.lookup_append, empty]
  simp [Ending.fill?]

/-- A response under 0 ends no call. -/
theorem desk_of_pushed (link : Serializer) (b : Board) (id : LinkId) {m : Message}
    (pushed : m.sequence = 0) (succeeds : Bool) :
    (b.step serializers link id (.receive m succeeds)).desk = b.desk := by
  have quiet : b.callEvents link id (.receive m succeeds) = [] := by
    unfold callEvents
    split
    · rfl
    · split
      · rename_i same
        cases same
        exact if_neg fun answers => answers.2 pushed
      · rename_i same
        cases same
      · rfl
  rw [desk_step, quiet]
  rfl

end Board

namespace Peer

variable (settings : PeerSettings)

/-- A link that takes a request queues it, and its call is out from then on. -/
theorem Sending.queued {s : Sending} {link : LinkId} (stage : s.stage = .posting link)
    {call : Invocation} (carried : s.call = some call) {w : World} {added : List Invocation}
    {ended : List Ended} (history : Desk.Run settings.serializers w.board.desk added ended)
    (fresh : w.board.desk.Admits (.add call)) {l : Link} (there : w.peers.link? link = some l)
    (takes : l.phase ≠ .stopped) (reason : Option String) :
    (s.work settings reason w).1.board.desk.Waits settings.serializers call ∧
    (s.work settings reason w).1.peers.link? link = some { l with queue := l.queue ++ [s.message] } ∧
    (s.work settings reason w).2.stage = .ended (.ok ()) := by
  have accepts := w.board.accepts_of_phase there takes
  have entered : w.board.postEvents link s.call = [.add call] := by
    simp only [Board.postEvents, carried, accepts, if_true]
  have desk := w.board.desk_enqueue settings.serializers s.address link s.message s.call
  have result := w.board.enqueue_result settings.serializers s.address link s.message s.call
  rw [entered] at desk
  rw [accepts, if_pos rfl] at result
  simp only [work, stage, World.post]
  refine ⟨?_, ?_, congrArg _ result⟩
  · rw [desk]
    exact .entered history fresh
  · exact w.board.link?_enqueue settings.serializers s.address s.message s.call there takes

namespace Outgoing

/-- Where a call is after steps that found the world like that. -/
def after (o : Outgoing) (found : List (Option String × World)) : Outgoing :=
  found.foldl (fun o x => (o.work settings x.1 x.2).2) o

/-- What is on its way is the request of the call, made up under the number that was given to
the call. -/
def Sound (given : Int64 → Prop) (o : Outgoing) : Prop :=
  match o.stage with
  | .numbering => True
  | .timing n => given n
  | .sending call s => ∃ now n, given n ∧ call = o.invocation settings now n ∧
      s.message = o.request settings n ∧ s.call = some call

variable {given : Int64 → Prop}

theorem sound_work {o : Outgoing} (sound : o.Sound settings given) (reason : Option String)
    {w : World} (gives : given w.calls.next.2) :
    (o.work settings reason w).2.Sound settings given := by
  obtain ⟨address, ctx, protocol, argument, synchronous, stage⟩ := o
  cases stage with
  | numbering => exact gives
  | timing n => exact ⟨w.now, n, sound, rfl, rfl, rfl⟩
  | sending call s =>
    obtain ⟨now, n, number, own, message, carried⟩ := sound
    have kept : (s.work settings reason w).2.message = s.message ∧
        (s.work settings reason w).2.call = s.call := by
      unfold Sending.work
      cases s.stage <;> exact ⟨rfl, rfl⟩
    exact ⟨now, n, number, own, kept.1.trans message, kept.2.trans carried⟩

theorem sound_after {o : Outgoing} (sound : o.Sound settings given)
    {found : List (Option String × World)} (gives : ∀ x ∈ found, given x.2.calls.next.2) :
    (o.after settings found).Sound settings given := by
  induction found generalizing o with
  | nil => exact sound
  | cons x rest ih =>
    obtain ⟨here, later⟩ := List.forall_mem_cons.mp gives
    exact ih (o.sound_work settings sound x.1 here) later

theorem kept_after (o : Outgoing) (found : List (Option String × World)) :
    (o.after settings found).request settings = o.request settings ∧
    (o.after settings found).invocation settings = o.invocation settings := by
  induction found generalizing o with
  | nil => exact ⟨rfl, rfl⟩
  | cons x rest ih =>
    obtain ⟨request, invocation⟩ := ih (o.work settings x.1 x.2).2
    have same : (o.work settings x.1 x.2).2.request settings = o.request settings ∧
        (o.work settings x.1 x.2).2.invocation settings = o.invocation settings := by
      unfold work
      cases o.stage <;> exact ⟨rfl, rfl⟩
    exact ⟨request.trans same.1, invocation.trans same.2⟩

/-- What the caller gets if it waits for its call now, with a value decoded as it came. -/
def obtains (call : Invocation) (w : Watch) : Except RpcFault Json := do
  decodeResponse settings.link Json.Shape.any
    (← (w.wait settings.serializers call (slot call.sequence)).2)

theorem obtains_of_filled {call : Invocation} {w : Watch} {answer : Message}
    (filled : w.desk.calls.result? (slot call.sequence) = some (.ok answer)) :
    obtains settings call w = decodeResponse settings.link Json.Shape.any answer := by
  rw [obtains, Watch.wait_of_result settings.serializers filled call]
  rfl

end Outgoing
end Peer
end ClusterWire
