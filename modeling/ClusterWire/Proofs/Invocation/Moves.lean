import ClusterWire.Invocation

/-! What one operation does to a table of calls. Each is told as the calls that
it adds and those that end in it; the table, the slots and the sessions change
by these and by nothing else. -/
namespace ClusterWire

structure Ended where
  call : Invocation
  ending : Ending

namespace Ending

def fill? : Ending → Option (Nat × Except RpcFault Message)
  | filled slot result => some (slot, result)
  | _ => none

def tell (t : Sessions) : Ending → Sessions
  | sent id m => (t.send id m).1
  | _ => t

def isFrame : Ending → Bool
  | sent _ _ => true
  | _ => false

/-- An end that a call can have: its own slot is filled, with no other response
than one of its number, or its own caller gets a frame under the caller's
number. -/
def Suits (i : Invocation) : Ending → Prop
  | filled slot result =>
    i.completion = .waiter slot ∧ ∀ m, result = .ok m → m.sequence = i.sequence
  | sent id m => i.completion = .forward id ∧ m.sequence = i.parent
  | silent => True

end Ending

namespace Invocation

def slot? (i : Invocation) : Option Nat :=
  match i.completion with
  | .waiter slot => some slot
  | .forward _ => none

theorem completed_suits (i : Invocation) (serializers : Serializers) (sessions : Sessions)
    (link : Serializer) (m : Message) (own : m.sequence = i.sequence) :
    (i.completed serializers sessions link m).Suits i := by
  unfold completed
  split
  · rename_i slot held
    refine ⟨held, fun other same => ?_⟩
    cases same
    exact own
  · rename_i replyTo held
    split
    · trivial
    · split <;> exact ⟨held, rfl⟩

theorem failed_suits (i : Invocation) (serializers : Serializers) (sessions : Sessions)
    (fault : RpcFault) : (i.failed serializers sessions fault).Suits i := by
  unfold failed
  split
  · rename_i slot held
    exact ⟨held, fun _ same => by cases same⟩
  · rename_i replyTo held
    split
    · trivial
    · exact ⟨held, rfl⟩

end Invocation

/-- What happens to a table of calls. `wait` is a look of a waiter for the result
of its call; `elsewhere` is whatever else befalls the sessions. -/
inductive CallEvent where
  | next
  | add (i : Invocation)
  | complete (link : Serializer) (m : Message)
  | fail (sequence : Int64) (fault : RpcFault)
  | remove (sequence : Int64)
  | evict (now : Instant)
  | wait (i : Invocation) (slot : Nat) (now : Instant)
  | elsewhere (sessions : Sessions)

def CallEvent.added : CallEvent → List Invocation
  | add i => [i]
  | _ => []

namespace Desk

variable (serializers : Serializers)

def step (d : Desk) : CallEvent → Desk
  | .next => { d with calls := d.calls.next.1 }
  | .add i => d.add serializers i
  | .complete link m => (d.complete serializers link m).1
  | .fail sequence fault => (d.fail serializers sequence fault).1
  | .remove sequence => (d.remove sequence).1
  | .evict now => (d.evict serializers now).1
  | .wait i slot now => (d.poll i slot now).1
  | .elsewhere sessions => { d with sessions := sessions }

def endsOf (d : Desk) (sequence : Int64) (ending : Invocation → Ending) : List Ended :=
  (d.calls.find? sequence).toList.map fun i => ⟨i, ending i⟩

def expireEnds : Desk → List Invocation → List Ended
  | _, [] => []
  | d, i :: rest =>
    d.endsOf i.sequence (·.failed serializers d.sessions i.timeoutFault)
      ++ expireEnds (d.fail serializers i.sequence i.timeoutFault).1 rest

def ends (d : Desk) : CallEvent → List Ended
  | .next | .elsewhere _ => []
  | .add i => d.endsOf i.sequence fun older =>
      older.failed serializers d.sessions (.abandoned older.protocol)
  | .complete link m => d.endsOf m.sequence (·.completed serializers d.sessions link m)
  | .fail sequence fault => d.endsOf sequence (·.failed serializers d.sessions fault)
  | .remove sequence => d.endsOf sequence fun _ => .silent
  | .evict now => d.expireEnds serializers (d.calls.pending.filter (·.deadline ≤ now))
  | .wait i slot now =>
    if (d.calls.result? slot).isNone && d.calls.awaits slot && decide (i.deadline ≤ now) then
      d.endsOf i.sequence fun _ => .silent
    else []

end Desk

namespace Invocations

def Unique (t : Invocations) : Prop := (t.pending.map (·.sequence)).Nodup

theorem unique_erase {t : Invocations} (unique : t.Unique) (sequence : Int64) :
    (t.erase sequence).Unique :=
  unique.sublist (List.filter_sublist.map _)

theorem not_mem_erase (t : Invocations) (sequence : Int64) :
    sequence ∉ (t.erase sequence).pending.map (·.sequence) := by
  simp [erase]

theorem erase_perm {t : Invocations} (unique : t.Unique) (sequence : Int64) :
    ((t.erase sequence).pending ++ (t.find? sequence).toList).Perm t.pending := by
  obtain ⟨last, pending, results⟩ := t
  simp only [Unique, erase, find?] at *
  induction pending with
  | nil => exact .nil
  | cons i rest ih =>
    have tail := (List.nodup_cons.mp unique).2
    by_cases same : i.sequence = sequence
    · have none : rest.filter (·.sequence != sequence) = rest := by
        rw [List.filter_eq_self]
        intro j held
        have other : j.sequence ≠ sequence := fun h =>
          (List.nodup_cons.mp unique).1 (List.mem_map.mpr ⟨j, held, h.trans same.symm⟩)
        simpa using other
      simp only [List.filter_cons, List.find?_cons, same, bne_self_eq_false, Bool.false_eq_true,
        if_false, beq_self_eq_true, none, Option.toList_some]
      exact List.perm_append_comm
    · have differs : (i.sequence != sequence) = true := by simpa using same
      have unequal : (i.sequence == sequence) = false := by simpa using same
      simp only [List.filter_cons, List.find?_cons, differs, if_true, unequal, List.cons_append]
      exact (ih tail).cons i

theorem erase_of_none {t : Invocations} {sequence : Int64} (none : t.find? sequence = none) :
    t.erase sequence = t := by
  have kept : t.pending.filter (·.sequence != sequence) = t.pending := by
    rw [List.filter_eq_self]
    intro i out
    simpa using List.find?_eq_none.mp none i out
  simp only [erase, kept]

theorem find?_of_mem {t : Invocations} (unique : t.Unique) {i : Invocation}
    (out : i ∈ t.pending) : t.find? i.sequence = some i := by
  obtain ⟨last, pending, results⟩ := t
  simp only [Unique, find?] at *
  induction pending with
  | nil => cases out
  | cons j rest ih =>
    obtain ⟨fresh, tail⟩ := List.nodup_cons.mp unique
    rcases List.mem_cons.mp out with rfl | out
    · simp
    · have other : (j.sequence == i.sequence) = false := by
        rw [beq_eq_false_iff_ne]
        exact fun h => fresh (List.mem_map.mpr ⟨i, out, h.symm⟩)
      rw [List.find?_cons, other]
      exact ih tail out

theorem sequence_of_find? {t : Invocations} {sequence : Int64} {i : Invocation}
    (found : t.find? sequence = some i) : i.sequence = sequence := by
  simpa using List.find?_some found

end Invocations

namespace Desk

/-- From one desk to another some calls are added and some end: each call is out
or among the ended, and slots and sessions change by the ends alone. -/
structure Moves (d : Desk) (added : List Invocation) (ended : List Ended) (e : Desk) : Prop where
  unique : e.calls.Unique
  calls : (e.calls.pending ++ ended.map (·.call)).Perm (d.calls.pending ++ added)
  results : e.calls.results = d.calls.results ++ ended.filterMap (·.ending.fill?)
  sessions : e.sessions = ended.foldl (fun t x => x.ending.tell t) d.sessions
  suits : ∀ x ∈ ended, x.ending.Suits x.call

namespace Moves

theorem refl {d : Desk} (unique : d.calls.Unique) : Moves d [] [] d where
  unique := unique
  calls := by simp
  results := by simp
  sessions := rfl
  suits := by simp

theorem trans {c d e : Desk} {added more : List Invocation} {ended others : List Ended}
    (first : Moves c added ended d) (second : Moves d more others e) :
    Moves c (added ++ more) (ended ++ others) e where
  unique := second.unique
  calls := by
    have tail : (e.calls.pending ++ others.map (·.call) ++ ended.map (·.call)).Perm
        (d.calls.pending ++ ended.map (·.call) ++ more) := by
      refine (second.calls.append_right _).trans ?_
      rw [List.append_assoc, List.append_assoc]
      exact List.perm_append_comm.append_left _
    have head := first.calls.append_right more
    rw [List.map_append, ← List.append_assoc, ← List.append_assoc]
    refine List.Perm.trans ?_ (tail.trans head)
    rw [List.append_assoc, List.append_assoc]
    exact List.perm_append_comm.append_left _
  results := by
    rw [second.results, first.results, List.filterMap_append, List.append_assoc]
  sessions := by rw [second.sessions, first.sessions, List.foldl_append]
  suits := fun x held => (List.mem_append.mp held).elim (first.suits x) (second.suits x)

end Moves

theorem conclude_pending (d : Desk) (ending : Ending) :
    (d.conclude ending).calls.pending = d.calls.pending := by
  cases ending <;> rfl

theorem conclude_results (d : Desk) (ending : Ending) :
    (d.conclude ending).calls.results = d.calls.results ++ ending.fill?.toList := by
  cases ending <;> simp [conclude, Ending.fill?]

theorem conclude_sessions (d : Desk) (ending : Ending) :
    (d.conclude ending).sessions = ending.tell d.sessions := by
  cases ending <;> rfl

theorem finish_moves {d : Desk} (unique : d.calls.Unique) (sequence : Int64)
    (ending : Invocation → Ending)
    (suits : ∀ i, d.calls.find? sequence = some i → (ending i).Suits i) :
    Moves d [] (d.endsOf sequence ending) (d.finish sequence ending).1 := by
  have calls := Invocations.erase_perm unique sequence
  cases found : d.calls.find? sequence with
  | none =>
    have same : (d.finish sequence ending).1 = d := by simp only [finish, remove, found]
    rw [same, endsOf, found]
    exact .refl unique
  | some i =>
    have ended : (d.finish sequence ending).1 =
        ({ d with calls := d.calls.erase sequence } : Desk).conclude (ending i) := by
      simp only [finish, remove, found]
    rw [ended, endsOf, found]
    rw [found] at calls
    exact {
      unique := by
        rw [Invocations.Unique, conclude_pending]
        exact Invocations.unique_erase unique sequence
      calls := by simpa [conclude_pending] using calls
      results := by
        rw [conclude_results]
        cases filled : (ending i).fill? <;> simp [filled, Invocations.erase]
      sessions := by simp [conclude_sessions]
      suits := by simpa using suits i found }

theorem finish_eq_of_none {d : Desk} {sequence : Int64} (none : d.calls.find? sequence = none)
    (ending : Invocation → Ending) : d.finish sequence ending = (d, false) := by
  simp only [finish, remove, none]

theorem finish_pending (d : Desk) (sequence : Int64) (ending : Invocation → Ending) :
    (d.finish sequence ending).1.calls.pending = (d.calls.erase sequence).pending := by
  cases found : d.calls.find? sequence with
  | none => rw [finish_eq_of_none found, Invocations.erase_of_none found]
  | some i => simp only [finish, remove, found, conclude_pending]

/-- Nothing is out under a number at which a call has ended. -/
theorem find?_finish (d : Desk) (sequence : Int64) (ending : Invocation → Ending) :
    (d.finish sequence ending).1.calls.find? sequence = none := by
  have erased := d.calls.find?_erase sequence sequence
  rw [if_pos rfl] at erased
  rw [Invocations.find?, finish_pending]
  exact erased

theorem remove_eq_finish (d : Desk) (sequence : Int64) :
    (d.remove sequence).1 = (d.finish sequence fun _ => .silent).1 := by
  cases found : d.calls.find? sequence with
  | some i => simp only [finish, remove, found, conclude]
  | none =>
    simp only [finish, remove, found, Invocations.erase_of_none found]

theorem remove_moves {d : Desk} (unique : d.calls.Unique) (sequence : Int64) :
    Moves d [] (d.endsOf sequence fun _ => .silent) (d.remove sequence).1 := by
  rw [remove_eq_finish]
  exact finish_moves unique sequence _ fun _ _ => trivial

variable (serializers : Serializers)

theorem complete_moves {d : Desk} (unique : d.calls.Unique) (link : Serializer) (m : Message) :
    Moves d [] (d.ends serializers (.complete link m)) (d.complete serializers link m).1 :=
  finish_moves unique m.sequence _ fun i found =>
    i.completed_suits serializers d.sessions link m (Invocations.sequence_of_find? found).symm

theorem fail_moves {d : Desk} (unique : d.calls.Unique) (sequence : Int64) (fault : RpcFault) :
    Moves d [] (d.ends serializers (.fail sequence fault)) (d.fail serializers sequence fault).1 :=
  finish_moves unique sequence _ fun i _ => i.failed_suits serializers d.sessions fault

/-- To add a call is to take the older one under its number out, to put it in,
and to tell the end of the older one. -/
theorem add_moves {d : Desk} (unique : d.calls.Unique) (i : Invocation) :
    Moves d [i] (d.ends serializers (.add i)) (d.add serializers i) := by
  have calls := (Invocations.erase_perm unique i.sequence).append_right [i]
  have fresh := Invocations.not_mem_erase d.calls i.sequence
  have kept := Invocations.unique_erase unique i.sequence
  have numbers : (((d.calls.erase i.sequence).pending ++ [i]).map (·.sequence)).Nodup := by
    rw [List.map_append, List.nodup_append]
    refine ⟨kept, by simp, fun a held b same => ?_⟩
    simp only [List.map_cons, List.map_nil, List.mem_singleton] at same
    subst same
    exact fun equal => fresh (equal ▸ held)
  cases found : d.calls.find? i.sequence with
  | none =>
    rw [found] at calls
    simp only [add, ends, endsOf, found, conclude]
    exact {
      unique := numbers
      calls := by simpa using calls
      results := by simp [Invocations.erase]
      sessions := rfl
      suits := by simp }
  | some older =>
    rw [found] at calls
    simp only [add, ends, endsOf, found]
    exact {
      unique := by
        rw [Invocations.Unique, conclude_pending]
        exact numbers
      calls := by
        rw [conclude_pending]
        refine List.Perm.trans ?_ calls
        simp only [List.append_assoc, Option.toList_some, List.map_cons, List.map_nil]
        exact List.perm_append_comm.append_left _
      results := by
        rw [conclude_results]
        cases filled : (older.failed serializers d.sessions (.abandoned older.protocol)).fill? <;>
          simp [filled, Invocations.erase]
      sessions := by simp [conclude_sessions]
      suits := by simpa using older.failed_suits serializers d.sessions (.abandoned older.protocol) }

-- Calls that expire end one by one; each is looked up in what the ones before
-- it have left.
theorem expire_moves {d : Desk} (unique : d.calls.Unique) (expired : List Invocation) :
    Moves d [] (d.expireEnds serializers expired) (d.expire serializers expired) := by
  induction expired generalizing d with
  | nil => exact .refl unique
  | cons i rest ih =>
    have first := fail_moves serializers unique i.sequence i.timeoutFault
    exact first.trans (ih first.unique)

theorem poll_moves {d : Desk} (unique : d.calls.Unique) (i : Invocation) (slot : Nat)
    (now : Instant) :
    Moves d [] (d.ends serializers (.wait i slot now)) (d.poll i slot now).1 := by
  simp only [ends, poll]
  cases d.calls.result? slot with
  | some result => exact .refl unique
  | none =>
    cases d.calls.awaits slot with
    | false => exact .refl unique
    | true =>
      by_cases late : i.deadline ≤ now
      · simpa [late] using remove_moves unique i.sequence
      · simpa [late] using Moves.refl unique

/-- Everything but what befalls the sessions elsewhere moves calls from in the
table to ended, and tells their ends. -/
theorem step_moves {d : Desk} (unique : d.calls.Unique) (event : CallEvent)
    (own : ∀ sessions, event ≠ .elsewhere sessions) :
    Moves d event.added (d.ends serializers event) (d.step serializers event) := by
  cases event with
  | next => exact { Moves.refl unique with }
  | add i => exact add_moves serializers unique i
  | complete link m => exact complete_moves serializers unique link m
  | fail sequence fault => exact fail_moves serializers unique sequence fault
  | remove sequence => exact remove_moves unique sequence
  | evict now => exact expire_moves serializers unique _
  | wait i slot now => exact poll_moves serializers unique i slot now
  | elsewhere sessions => exact absurd rfl (own sessions)

end Desk
end ClusterWire
