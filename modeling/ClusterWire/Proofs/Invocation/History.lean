import ClusterWire.Proofs.Invocation.Moves

/-! The history of a table of calls. Calls enter it and end in many ways and in
any order. Every call that was ever added is out, or has ended once, and its
slot or its caller has heard of that end at most. -/
namespace ClusterWire

namespace Desk

/-! Slots. A slot is handed out with its call and is not copied: the slot of a
call that is added is neither filled nor waited for in the table. -/

def Admits (d : Desk) : CallEvent → Prop
  | .add i => ∀ slot, i.slot? = some slot →
      d.calls.result? slot = none ∧ d.calls.awaits slot = false
  | _ => True

end Desk

namespace Invocations

def slots (t : Invocations) : List Nat :=
  t.results.map (·.1) ++ t.pending.filterMap (·.slot?)

theorem slot?_eq_some {i : Invocation} {slot : Nat} :
    i.slot? = some slot ↔ i.completion = .waiter slot := by
  unfold Invocation.slot?
  split
  · rename_i held
    simp [held]
  · rename_i held
    simp [held]

theorem not_mem_slots {t : Invocations} {slot : Nat} (empty : t.result? slot = none)
    (unheard : t.awaits slot = false) : slot ∉ t.slots := by
  simp only [slots, List.mem_append, not_or]
  constructor
  · intro held
    obtain ⟨entry, inside, same⟩ := List.mem_map.mp held
    have none := List.lookup_eq_none_iff.mp empty entry inside
    simp [same] at none
  · intro held
    obtain ⟨i, out, same⟩ := List.mem_filterMap.mp held
    have found : t.awaits slot = true :=
      List.any_eq_true.mpr ⟨i, out, by simp [slot?_eq_some.mp same]⟩
    rw [unheard] at found
    cases found

end Invocations

theorem fills_sublist {ended : List Ended} (suits : ∀ x ∈ ended, x.ending.Suits x.call) :
    ((ended.filterMap (·.ending.fill?)).map (·.1)).Sublist
      ((ended.map (·.call)).filterMap (·.slot?)) := by
  induction ended with
  | nil => exact .slnil
  | cons x rest ih =>
    have tail := ih fun y held => suits y (List.mem_cons_of_mem x held)
    have head := suits x List.mem_cons_self
    obtain ⟨i, ending⟩ := x
    cases ending with
    | filled slot result =>
      have own : i.slot? = some slot := Invocations.slot?_eq_some.mpr head.1
      simpa [Ending.fill?, own] using tail.cons_cons slot
    | sent id m =>
      have held : i.completion = .forward id := head.1
      have other : i.slot? = none := by simp [Invocation.slot?, held]
      simpa [Ending.fill?, other] using tail
    | silent =>
      have more : (rest.map (·.call)).filterMap (·.slot?) |>.Sublist
          (((⟨i, .silent⟩ :: rest : List Ended).map (·.call)).filterMap (·.slot?)) :=
        ((List.sublist_cons_self _ rest).map _).filterMap _
      simpa [Ending.fill?] using tail.trans more

namespace Desk

variable (serializers : Serializers)

/-- No slot is filled twice, nor will be. -/
theorem Moves.slots_nodup {d e : Desk} {added : List Invocation} {ended : List Ended}
    (moves : Moves d added ended e)
    (once : (d.calls.slots ++ added.filterMap (·.slot?)).Nodup) : e.calls.slots.Nodup := by
  have calls := (moves.calls.filterMap Invocation.slot?)
  -- Slots go from calls in the table to results, never back, and none is lost
  -- but with a call that ends unheard.
  have all : (d.calls.results.map (·.1) ++ ((ended.map (·.call)).filterMap (·.slot?)
      ++ e.calls.pending.filterMap (·.slot?))).Nodup := by
    have same : (d.calls.slots ++ added.filterMap (·.slot?)).Perm
        (d.calls.results.map (·.1) ++ ((ended.map (·.call)).filterMap (·.slot?)
          ++ e.calls.pending.filterMap (·.slot?))) := by
      rw [Invocations.slots, List.append_assoc]
      rw [List.filterMap_append, List.filterMap_append] at calls
      exact (calls.symm.trans List.perm_append_comm).append_left _
    exact same.nodup_iff.mp once
  rw [Invocations.slots, moves.results, List.map_append, List.append_assoc]
  exact all.sublist (((fills_sublist moves.suits).append_right _).append_left _)

/-- Whatever may happen to a table from the start on, with the calls that were
added and those that ended on the way. -/
inductive Run : Desk → List Invocation → List Ended → Prop where
  | start (sessions : Sessions) : Run ⟨sessions, .empty⟩ [] []
  | step {d : Desk} {added : List Invocation} {ended : List Ended} (event : CallEvent) :
      Run d added ended → d.Admits event →
        Run (d.step serializers event) (added ++ event.added) (ended ++ d.ends serializers event)

/-- What the history of a table says about it. -/
structure Accounts (d : Desk) (added : List Invocation) (ended : List Ended) : Prop where
  unique : d.calls.Unique
  calls : (d.calls.pending ++ ended.map (·.call)).Perm added
  results : d.calls.results = ended.filterMap (·.ending.fill?)
  once : d.calls.slots.Nodup
  suits : ∀ x ∈ ended, x.ending.Suits x.call

theorem once_of_admits {d : Desk} {event : CallEvent} (once : d.calls.slots.Nodup)
    (admits : d.Admits event) :
    (d.calls.slots ++ event.added.filterMap (·.slot?)).Nodup := by
  cases event with
  | add i =>
    cases own : i.slot? with
    | none => simpa [CallEvent.added, own] using once
    | some slot =>
      obtain ⟨empty, unheard⟩ := admits slot own
      have fresh := Invocations.not_mem_slots empty unheard
      rw [CallEvent.added, List.filterMap_cons_some own, List.filterMap_nil, List.nodup_append]
      refine ⟨once, by simp, fun other held new same => ?_⟩
      rw [List.mem_singleton] at same
      exact fun equal => fresh (same ▸ equal ▸ held)
  | _ => simpa [CallEvent.added] using once

theorem accounts_step {d : Desk} {added : List Invocation} {ended : List Ended}
    (accounts : Accounts d added ended) (event : CallEvent) (admits : d.Admits event) :
    Accounts (d.step serializers event) (added ++ event.added)
      (ended ++ d.ends serializers event) := by
  have once := once_of_admits accounts.once admits
  by_cases outside : ∃ sessions, event = .elsewhere sessions
  · obtain ⟨sessions, rfl⟩ := outside
    have kept : Accounts { d with sessions := sessions } added ended := { accounts with }
    change Accounts _ (added ++ []) (ended ++ [])
    rwa [List.append_nil, List.append_nil]
  · have moves := step_moves serializers accounts.unique event fun sessions same =>
      outside ⟨sessions, same⟩
    exact {
      unique := moves.unique
      calls := by
        have front := moves.calls.append_right (ended.map (·.call))
        have back := accounts.calls.append_right event.added
        refine List.Perm.trans ?_ (front.trans (List.Perm.trans ?_ back))
        · rw [List.map_append, List.append_assoc]
          exact List.perm_append_comm.append_left _
        · rw [List.append_assoc, List.append_assoc]
          exact List.perm_append_comm.append_left _
      results := by rw [moves.results, accounts.results, List.filterMap_append]
      once := moves.slots_nodup once
      suits := fun x held => (List.mem_append.mp held).elim (accounts.suits x) (moves.suits x) }

theorem accounts_of_run {d : Desk} {added : List Invocation} {ended : List Ended}
    (run : Run serializers d added ended) : Accounts d added ended := by
  induction run with
  | start sessions => exact ⟨.nil, .nil, rfl, .nil, by simp⟩
  | step event _ admits ih => exact accounts_step serializers ih event admits

/-- The slot of a call that is out is empty. -/
theorem result?_of_pending {d : Desk} (once : d.calls.slots.Nodup) {i : Invocation}
    (out : i ∈ d.calls.pending) {slot : Nat} (waits : i.completion = .waiter slot) :
    d.calls.result? slot = none := by
  refine List.lookup_eq_none_iff.mpr fun entry held => ?_
  rw [bne_iff_ne]
  intro same
  exact (List.nodup_append.mp once).2.2 entry.1 (List.mem_map.mpr ⟨entry, held, rfl⟩) slot
    (List.mem_filterMap.mpr ⟨i, out, Invocations.slot?_eq_some.mpr waits⟩) same.symm

theorem add_abandons {d : Desk} (once : d.calls.slots.Nodup) {i older : Invocation} {slot : Nat}
    (found : d.calls.find? i.sequence = some older) (waits : older.completion = .waiter slot) :
    (d.add serializers i).calls.result? slot = some (.error (.abandoned older.protocol)) := by
  have empty := result?_of_pending once (List.mem_of_find?_eq_some found) waits
  have filled : (d.add serializers i).calls.results =
      d.calls.results ++ [(slot, .error (.abandoned older.protocol))] := by
    simp [add, found, Invocation.failed, waits, conclude, Invocations.erase]
  rw [Invocations.result?] at empty ⊢
  rw [filled, List.lookup_append, empty]
  simp

theorem find?_add {d : Desk} (unique : d.calls.Unique) (i : Invocation) :
    (d.add serializers i).calls.find? i.sequence = some i := by
  have moves := add_moves serializers unique i
  have held : i ∈ (d.add serializers i).calls.pending := by
    simp only [add, conclude_pending]
    simp
  exact Invocations.find?_of_mem moves.unique held

theorem length_frames_le {d : Desk} {added : List Invocation} {ended : List Ended}
    (calls : (d.calls.pending ++ ended.map (·.call)).Perm added) (i : Invocation) :
    (ended.filter fun x => x.call == i && x.ending.isFrame).length ≤ added.count i := by
  have frames : (ended.filter fun x => x.call == i && x.ending.isFrame).length ≤
      (ended.map (·.call)).count i := by
    rw [List.count, List.countP_map, ← List.countP_eq_length_filter]
    refine List.countP_mono_left fun x _ both => ?_
    exact (Bool.and_eq_true _ _ ▸ both).1
  rw [← calls.count_eq i, List.count_append]
  omega

/-- The history of the calls of a table. The calls that were added are those in the table, each
under its own number, and those that have ended. No slot is filled twice; a slot holds a response
only if the response carries the number of the slot's call; a relayed call has sent no more frames
than it was added times, each to its own caller. The slots and sessions change in a step by what
ends in it. A call that is added takes the place of an older one under its number, which is
abandoned, and a number under which nothing is out cannot be completed or failed. -/
structure EndsOnce (d : Desk) (added : List Invocation) (ended : List Ended) : Prop where
  calls : (d.calls.pending ++ ended.map (·.call)).Perm added
  numbered : ∀ i ∈ d.calls.pending, d.calls.find? i.sequence = some i
  filled : (d.calls.results.map (·.1)).Nodup
  answered : ∀ slot m, (slot, .ok m) ∈ d.calls.results →
    ∃ x ∈ ended, x.call.completion = .waiter slot ∧ x.call.sequence = m.sequence
  suits : ∀ x ∈ ended, x.ending.Suits x.call
  frames : ∀ i, (ended.filter fun x => x.call == i && x.ending.isFrame).length ≤ added.count i
  moves : ∀ event, (∀ sessions, event ≠ .elsewhere sessions) →
    Moves d event.added (d.ends serializers event) (d.step serializers event)
  abandons : ∀ i older, d.calls.find? i.sequence = some older →
    d.ends serializers (.add i) =
      [⟨older, older.failed serializers d.sessions (.abandoned older.protocol)⟩] ∧
    ∀ slot, older.completion = .waiter slot →
      (d.add serializers i).calls.result? slot = some (.error (.abandoned older.protocol))
  keeps : ∀ i, (d.add serializers i).calls.find? i.sequence = some i
  uncompleted : ∀ link m, d.calls.find? m.sequence = none →
    d.complete serializers link m = (d, false)
  unfailed : ∀ sequence fault, d.calls.find? sequence = none →
    d.fail serializers sequence fault = (d, false)

/-- After any run every call is in the table or has ended, and never both or twice. -/
theorem calls_end_once {d : Desk} {added : List Invocation} {ended : List Ended}
    (run : Run serializers d added ended) : EndsOnce serializers d added ended := by
  have accounts := accounts_of_run serializers run
  refine ⟨accounts.calls, fun i out => Invocations.find?_of_mem accounts.unique out,
    (List.nodup_append.mp accounts.once).1, ?_, accounts.suits,
    length_frames_le accounts.calls, fun event own => step_moves serializers accounts.unique event own,
    ?_, find?_add serializers accounts.unique, fun _ _ none => finish_eq_of_none none _,
    fun _ _ none => finish_eq_of_none none _⟩
  · intro slot m held
    rw [accounts.results] at held
    obtain ⟨x, done, fill⟩ := List.mem_filterMap.mp held
    have suits := accounts.suits x done
    obtain ⟨call, ending⟩ := x
    cases ending with
    | filled other result =>
      cases fill
      exact ⟨_, done, suits.1, (suits.2 m rfl).symm⟩
    | sent id frame => cases fill
    | silent => cases fill
  · intro i older found
    refine ⟨by simp [ends, endsOf, found], fun slot waits => ?_⟩
    exact add_abandons serializers accounts.once found waits

def calling (slot : Nat) : Invocation := .waiting 0 ⟨7, 3⟩ 1 ⟨10, 3⟩ true (.ofSeconds 5) slot

def response : Message := .response .internal 1 ⟨10, 3⟩ []

def twice : Desk :=
  ((((⟨.empty, .empty⟩ : Desk).step .standard (.add (calling 0))).step .standard
    (.add (calling 1))).step .standard (.complete .json response))

theorem twice_run : Run .standard twice [calling 0, calling 1]
    [⟨calling 0, .filled 0 (.error (.abandoned ⟨10, 3⟩))⟩, ⟨calling 1, .filled 1 (.ok response)⟩] := by
  refine .step (.complete .json response) (.step (.add (calling 1))
    (.step (.add (calling 0)) (.start .empty) ?_) ?_) trivial
  · rintro slot ⟨⟩
    exact ⟨rfl, rfl⟩
  · rintro slot ⟨⟩
    exact ⟨rfl, rfl⟩

theorem calls_end_once_twice :
    twice.calls.pending = [] ∧ (1, .ok response) ∈ twice.calls.results ∧
    (twice.calls.results.map (·.1)).Nodup := by
  have accounts := calls_end_once .standard twice_run
  refine ⟨rfl, ?_, accounts.filled⟩
  exact List.mem_cons_of_mem _ List.mem_cons_self

end Desk
end ClusterWire
