import ClusterWire.Proofs.Link.Traffic

/-! Custody of calls. As long as a call is out, the link that took its request carries its
number. Tasks bring numbers of their own to a link, links pass them from the queue into flight,
and let go of a number only once its call has ended. -/
namespace ClusterWire

namespace Traffic

/-- What holds of a server and its links at every moment. -/
structure Kept (x : Traffic) : Prop where
  unique : x.calls.Unique
  fits : ∀ (k : Nat) t, x.tasks[k]? = some t → t.holding.fits
  held : ∀ (k : Nat) t n, x.tasks[k]? = some t → t.holding.number? = some n →
    x.calls.Gave n ∧ ∀ o ∈ x.offers, o.call.sequence ≠ n
  apart : ∀ (j k : Nat) s t n, x.tasks[j]? = some s → x.tasks[k]? = some t →
    s.holding.number? = some n → t.holding.number? = some n → j = k
  gave : ∀ o ∈ x.offers, x.calls.Gave o.call.sequence
  once : (x.offers.map (·.call.sequence)).Nodup
  balance : (x.calls.pending ++ x.ended.map (·.call)).Perm (x.offers.map (·.call))
  taken : ∀ o ∈ x.offers, o.call ∈ x.calls.pending → o.taken = true
  known : ∀ id n, x.Carries id n → ∃ o ∈ x.offers,
    o.link = id ∧ o.taken = true ∧ o.call.sequence = n
  carried : ∀ o ∈ x.offers, o.call ∈ x.calls.pending → x.Carries o.link o.call.sequence
  settled : ∀ id l, x.world.peers.link? id = some l → l.Settled

/-- The tasks hold no other numbers than before. -/
def Lets (x y : Traffic) : Prop :=
  ∀ (k : Nat) t, y.tasks[k]? = some t → t.holding.fits ∧
    ∀ n, t.holding.number? = some n → ∃ s, x.tasks[k]? = some s ∧ s.holding.number? = some n

/-- Calls end, links go on, and tasks hold no other numbers than before. -/
structure Eases (x y : Traffic) : Prop where
  unique : y.calls.Unique
  last : y.calls.lastSequence = x.calls.lastSequence
  ended : ∃ ended, (y.calls.pending ++ ended.map (·.call)).Perm x.calls.pending ∧
    y.ended = x.ended ++ ended
  peers : x.world.peers.Goes y.calls y.world.peers
  offers : y.offers = x.offers
  tasks : x.Lets y

/-- A task brings its call to a link. If the link takes it, the call is out and the link carries
its number. -/
structure Brings (x y : Traffic) (k : Nat) (t : Task) (o : Offer) : Prop where
  own : ∃ s, x.tasks[k]? = some s ∧ s.holding.number? = some o.call.sequence
  tasks : y.tasks = x.tasks.set k t
  fits : t.holding.fits
  none : t.holding.number? = none
  offers : y.offers = x.offers ++ [o]
  last : y.calls.lastSequence = x.calls.lastSequence
  unique : y.calls.Unique
  balance : (y.calls.pending ++ y.ended.map (·.call)).Perm
    (x.calls.pending ++ x.ended.map (·.call) ++ [o.call])
  pending : ∀ i ∈ y.calls.pending, i ∈ x.calls.pending ∨ i = o.call ∧ o.taken = true
  known : ∀ id n, y.Carries id n → x.Carries id n ∨
    id = o.link ∧ n = o.call.sequence ∧ o.taken = true
  carried : ∀ id n, x.Carries id n → y.Carries id n
  carries : o.taken = true → y.Carries o.link o.call.sequence
  settled : ∀ id l, y.world.peers.link? id = some l → l.Settled

namespace Kept

variable {x y : Traffic}

theorem gave_of_last {n : Int64} (last : y.calls.lastSequence = x.calls.lastSequence)
    (gave : x.calls.Gave n) : y.calls.Gave n := by
  rw [Invocations.Gave, last]
  exact gave

theorem eases (kept : x.Kept) (eases : x.Eases y) : y.Kept := by
  obtain ⟨ended, calls, record⟩ := eases.ended
  have still : ∀ i ∈ y.calls.pending, i ∈ x.calls.pending :=
    fun i out => calls.subset (List.mem_append_left _ out)
  constructor
  · exact eases.unique
  · exact fun k t entry => (eases.tasks k t entry).1
  · intro k t n entry number
    obtain ⟨s, before, same⟩ := (eases.tasks k t entry).2 n number
    obtain ⟨gave, new⟩ := kept.held k s n before same
    exact ⟨gave_of_last eases.last gave, eases.offers ▸ new⟩
  · intro j k s t n first second one other
    obtain ⟨s', first', one'⟩ := (eases.tasks j s first).2 n one
    obtain ⟨t', second', other'⟩ := (eases.tasks k t second).2 n other
    exact kept.apart j k s' t' n first' second' one' other'
  · rw [eases.offers]
    exact fun o offer => gave_of_last eases.last (kept.gave o offer)
  · rw [eases.offers]
    exact kept.once
  · rw [eases.offers, record, List.map_append]
    refine List.Perm.trans ?_ kept.balance
    refine List.Perm.trans ?_ (calls.append_right _)
    rw [List.append_assoc]
    exact List.perm_append_comm.append_left _
  · rw [eases.offers]
    exact fun o offer out => kept.taken o offer (still o.call out)
  · rintro id n ⟨l', there, carries⟩
    rw [eases.offers]
    rcases eases.peers.back id l' there with ⟨l, before, goes⟩ | ⟨address, rfl⟩
    · exact kept.known id n ⟨l, before, goes.kept n carries⟩
    · simp [Link.Carries] at carries
  · rw [eases.offers]
    intro o offer out
    obtain ⟨l, before, carries⟩ := kept.carried o offer (still o.call out)
    obtain ⟨l', there, goes⟩ := eases.peers.onward o.link l before
    rcases goes.freed _ carries with held | free
    · exact ⟨l', there, held⟩
    · rw [Invocations.find?_of_mem eases.unique out] at free
      cases free
  · intro id l' there
    rcases eases.peers.back id l' there with ⟨l, before, goes⟩ | ⟨address, rfl⟩
    · exact goes.settled (kept.settled id l before)
    · exact fun stopped => by cases stopped

theorem link?_of_links (links : y.world.peers.links = x.world.peers.links) (id : LinkId) :
    y.world.peers.link? id = x.world.peers.link? id := by
  rw [Peers.link?, links, Peers.link?]

theorem carries_iff {id : LinkId} {l : Link} (there : x.world.peers.link? id = some l) {n : Int64} :
    x.Carries id n ↔ l.Carries n := by
  simp [Carries, there]

/-- What a task holds after one of them has taken a step. -/
theorem lookup_set {k j : Nat} {s t : Task} (tasks : y.tasks = x.tasks.set k t)
    (entry : y.tasks[j]? = some s) : (j = k ∧ s = t) ∨ (j ≠ k ∧ x.tasks[j]? = some s) := by
  rw [tasks, List.getElem?_set] at entry
  split at entry
  · rename_i same
    split at entry
    · exact .inl ⟨same.symm, (Option.some.inj entry).symm⟩
    · cases entry
  · rename_i differ
    exact .inr ⟨Ne.symm differ, entry⟩

/-- A number is taken. -/
theorem number (kept : x.Kept) {k : Nat} {t : Task} (counts : x.calls.next.2 ≠ 0)
    (calls : y.calls = x.calls.next.1) (links : y.world.peers.links = x.world.peers.links)
    (tasks : y.tasks = x.tasks.set k t) (fits : t.holding.fits)
    (number : t.holding.number? = some x.calls.next.2) (offers : y.offers = x.offers)
    (ended : y.ended = x.ended) : y.Kept := by
  have pending : y.calls.pending = x.calls.pending := by rw [calls]; rfl
  have gives : ∀ n, x.calls.Gave n → y.calls.Gave n ∧ n ≠ x.calls.next.2 := by
    intro n gave
    rw [calls]
    exact gave.next counts
  have same := link?_of_links links
  constructor
  · rw [Invocations.Unique, pending]
    exact kept.unique
  · intro j s entry
    rcases lookup_set tasks entry with ⟨-, rfl⟩ | ⟨-, before⟩
    · exact fits
    · exact kept.fits j s before
  · intro j s n entry own
    rw [offers]
    rcases lookup_set tasks entry with ⟨-, rfl⟩ | ⟨-, before⟩
    · cases number.symm.trans own
      refine ⟨?_, fun o offer => (gives _ (kept.gave o offer)).2⟩
      rw [calls]
      exact Invocations.gave_next counts
    · obtain ⟨gave, new⟩ := kept.held j s n before own
      exact ⟨(gives n gave).1, new⟩
  · intro i j s u n first second one other
    rcases lookup_set tasks first with ⟨rfl, rfl⟩ | ⟨-, before⟩
    · rcases lookup_set tasks second with ⟨rfl, -⟩ | ⟨-, behind⟩
      · rfl
      · cases number.symm.trans one
        exact absurd rfl (gives _ (kept.held j u _ behind other).1).2
    · rcases lookup_set tasks second with ⟨rfl, rfl⟩ | ⟨-, behind⟩
      · cases number.symm.trans other
        exact absurd rfl (gives _ (kept.held i s _ before one).1).2
      · exact kept.apart i j s u n before behind one other
  · rw [offers]
    exact fun o offer => (gives _ (kept.gave o offer)).1
  · rw [offers]
    exact kept.once
  · rw [pending, ended, offers]
    exact kept.balance
  · rw [pending, offers]
    exact kept.taken
  · rintro id n ⟨l, there, carries⟩
    rw [offers]
    exact kept.known id n ⟨l, same id ▸ there, carries⟩
  · rw [pending, offers]
    intro o offer out
    obtain ⟨l, there, carries⟩ := kept.carried o offer out
    exact ⟨l, (same o.link).trans there, carries⟩
  · exact fun id l there => kept.settled id l (same id ▸ there)

/-- Every call that is out was offered to a link. -/
theorem offer_of_out (kept : x.Kept) {i : Invocation} (out : i ∈ x.calls.pending) :
    ∃ o ∈ x.offers, o.call = i :=
  List.mem_map.mp (kept.balance.subset (List.mem_append_left _ out))

end Kept

namespace Brings

variable {x y : Traffic} {k : Nat} {t : Task} {o : Offer}

theorem mem_offers (brings : x.Brings y k t o) {p : Offer} (offer : p ∈ y.offers) :
    p ∈ x.offers ∨ p = o := by
  rw [brings.offers] at offer
  exact (List.mem_append.mp offer).imp_right List.mem_singleton.mp

theorem held_before (brings : x.Brings y k t o) {j : Nat} {u : Task} {n : Int64}
    (after : y.tasks[j]? = some u) (number : u.holding.number? = some n) :
    j ≠ k ∧ x.tasks[j]? = some u := by
  rcases Kept.lookup_set brings.tasks after with ⟨-, rfl⟩ | before
  · cases brings.none.symm.trans number
  · exact before

/-- The call is another than those that were offered before, by its number. -/
theorem new (brings : x.Brings y k t o) (kept : x.Kept) :
    x.calls.Gave o.call.sequence ∧ ∀ p ∈ x.offers, p.call.sequence ≠ o.call.sequence := by
  obtain ⟨s, entry, own⟩ := brings.own
  exact kept.held k s _ entry own

/-- Calls of offers that were made before are out only if they were. -/
theorem out_before (brings : x.Brings y k t o) (kept : x.Kept) {p : Offer} (offer : p ∈ x.offers)
    (out : p.call ∈ y.calls.pending) : p.call ∈ x.calls.pending := by
  rcases brings.pending p.call out with before | ⟨same, -⟩
  · exact before
  · exact absurd (congrArg _ same) ((brings.new kept).2 p offer)

theorem taken_of_out (brings : x.Brings y k t o) (kept : x.Kept)
    (out : o.call ∈ y.calls.pending) : o.taken = true := by
  rcases brings.pending o.call out with before | ⟨-, taken⟩
  · obtain ⟨p, offer, same⟩ := kept.offer_of_out before
    exact absurd (congrArg _ same) ((brings.new kept).2 p offer)
  · exact taken

/-- The numbers that tasks still hold are other numbers than that of the call. -/
theorem held (brings : x.Brings y k t o) (kept : x.Kept) {j : Nat} {u : Task} {n : Int64}
    (after : y.tasks[j]? = some u) (number : u.holding.number? = some n) :
    y.calls.Gave n ∧ ∀ p ∈ y.offers, p.call.sequence ≠ n := by
  obtain ⟨differ, before⟩ := brings.held_before after number
  obtain ⟨given, unknown⟩ := kept.held j u n before number
  refine ⟨Kept.gave_of_last brings.last given, fun p offer same => ?_⟩
  rcases brings.mem_offers offer with old | rfl
  · exact unknown p old same
  · obtain ⟨s, entry, own⟩ := brings.own
    exact differ (kept.apart j k u s n before entry number (same ▸ own))

theorem once (brings : x.Brings y k t o) (kept : x.Kept) :
    (y.offers.map (·.call.sequence)).Nodup := by
  rw [brings.offers, List.map_append, List.nodup_append]
  refine ⟨kept.once, by simp, ?_⟩
  intro n listed m this same
  obtain ⟨p, offer, rfl⟩ := List.mem_map.mp listed
  rw [List.map_cons, List.map_nil, List.mem_singleton] at this
  exact (brings.new kept).2 p offer (same.trans this)

theorem kept (brings : x.Brings y k t o) (kept : x.Kept) : y.Kept := by
  constructor
  · exact brings.unique
  · intro j u after
    rcases Kept.lookup_set brings.tasks after with ⟨-, rfl⟩ | ⟨-, before⟩
    · exact brings.fits
    · exact kept.fits j u before
  · exact fun j u n after number => brings.held kept after number
  · intro i j u v n first second one two
    exact kept.apart i j u v n (brings.held_before first one).2 (brings.held_before second two).2
      one two
  · intro p offer
    rcases brings.mem_offers offer with old | rfl
    · exact Kept.gave_of_last brings.last (kept.gave p old)
    · exact Kept.gave_of_last brings.last (brings.new kept).1
  · exact brings.once kept
  · rw [brings.offers, List.map_append]
    exact brings.balance.trans (kept.balance.append_right _)
  · intro p offer out
    rcases brings.mem_offers offer with old | rfl
    · exact kept.taken p old (brings.out_before kept old out)
    · exact brings.taken_of_out kept out
  · intro id n held
    rw [brings.offers]
    rcases brings.known id n held with before | ⟨rfl, rfl, taken⟩
    · obtain ⟨p, offer, facts⟩ := kept.known id n before
      exact ⟨p, List.mem_append_left _ offer, facts⟩
    · exact ⟨o, by simp, rfl, taken, rfl⟩
  · intro p offer out
    rcases brings.mem_offers offer with old | rfl
    · exact brings.carried _ _ (kept.carried p old (brings.out_before kept old out))
    · exact brings.carries (brings.taken_of_out kept out)
  · exact brings.settled

end Brings

namespace Kept

variable {x y : Traffic}

theorem lets_set (kept : x.Kept) {k : Nat} {s t : Task} (entry : x.tasks[k]? = some s)
    (tasks : y.tasks = x.tasks.set k t) (fits : t.holding.fits)
    (number : t.holding.number? = s.holding.number? ∨ t.holding.number? = none) : x.Lets y := by
  intro j u after
  rcases lookup_set tasks after with ⟨rfl, rfl⟩ | ⟨-, before⟩
  · refine ⟨fits, fun n own => ?_⟩
    rcases number with same | none
    · exact ⟨s, entry, same ▸ own⟩
    · cases none.symm.trans own
  · exact ⟨kept.fits j u before, fun n own => ⟨u, before, own⟩⟩

/-- A message that no call waits for is queued, or its link has stopped. -/
theorem notice (kept : x.Kept) {p : Post} (call : p.call = none)
    (silent : Link.tracked? p.message = none) (serializers : Serializers)
    (board : y.world.board =
      (x.world.board.enqueue serializers p.address p.link p.message p.call).1)
    (tasks : x.Lets y) (offers : y.offers = x.offers) (ended : y.ended = x.ended) : y.Kept := by
  have desk : y.desk = x.desk := by
    rw [desk, board, Board.desk_enqueue, call]
    rfl
  have calls : y.calls = x.calls := congrArg Desk.calls desk
  refine kept.eases {
    unique := by rw [calls]; exact kept.unique
    last := by rw [calls]
    ended := ⟨[], by simp [calls], by simp [ended]⟩
    peers := ?_
    offers := offers
    tasks := tasks }
  have peers := x.world.board.peers_enqueue serializers p.address p.link p.message p.call
  rw [← board] at peers
  cases taken : x.world.board.accepts p.link with
  | false =>
    rw [taken] at peers
    exact .of_same (congrArg Peers.links peers)
  | true =>
    rw [taken] at peers
    refine .of_modify (congrArg Peers.links peers) fun l there => ?_
    obtain ⟨_, known, going⟩ := x.world.board.exists_of_accepts taken
    cases known.symm.trans there
    have same : ∀ n, ({ l with queue := l.queue ++ [p.message] } : Link).Carries n ↔
        l.Carries n := fun n => by simp [Link.carries_queue, silent]
    exact {
      address := rfl
      kept := fun n => (same n).mp
      freed := fun n held => .inl ((same n).mpr held)
      settled := fun _ stopped => absurd stopped going }

section Request

variable {k : Nat} {s t : Task} {i : Invocation} {id : LinkId}

/-- A link that has stopped refuses a request, and the call ends at once. -/
theorem brings_refused (kept : x.Kept) (entry : x.tasks[k]? = some s)
    (own : s.holding.number? = some i.sequence) (tasks : y.tasks = x.tasks.set k t)
    (fits : t.holding.fits) (none : t.holding.number? = none)
    (offers : y.offers = x.offers ++ [⟨id, i, false⟩]) (desk : y.desk = x.desk)
    (links : y.world.peers.links = x.world.peers.links)
    (ended : y.ended = x.ended ++ [⟨i, .silent⟩]) : x.Brings y k t ⟨id, i, false⟩ := by
  have calls : y.calls = x.calls := congrArg Desk.calls desk
  have same := link?_of_links links
  refine ⟨⟨s, entry, own⟩, tasks, fits, none, offers, ?_, ?_, ?_, ?_, ?_, ?_, ?_, ?_⟩
  · rw [calls]
  · rw [calls]
    exact kept.unique
  · rw [calls, ended]
    simp
  · rw [calls]
    exact fun j => .inl
  · rintro id n ⟨l, there, carries⟩
    exact .inl ⟨l, same id ▸ there, carries⟩
  · rintro id n ⟨l, there, carries⟩
    exact ⟨l, (same id).trans there, carries⟩
  · rintro ⟨⟩
  · exact fun id l there => kept.settled id l (same id ▸ there)

/-- A link takes a request into its queue, and the call is out. -/
theorem brings_taken (kept : x.Kept) (entry : x.tasks[k]? = some s)
    (own : s.holding.number? = some i.sequence) (tasks : y.tasks = x.tasks.set k t)
    (fits : t.holding.fits) (none : t.holding.number? = none)
    (offers : y.offers = x.offers ++ [⟨id, i, true⟩]) (desk : y.desk = x.desk.entering i)
    (free : ∀ j ∈ x.calls.pending, j.sequence ≠ i.sequence) {l : Link} {m : Message}
    (there : x.world.peers.link? id = some l) (going : l.phase ≠ .stopped)
    (numbered : Link.tracked? m = some i.sequence)
    (links : y.world.peers.links =
      x.world.peers.links.modify id.index fun l => { l with queue := l.queue ++ [m] })
    (ended : y.ended = x.ended) : x.Brings y k t ⟨id, i, true⟩ := by
  have calls : y.calls = (x.desk.entering i).calls := congrArg Desk.calls desk
  have pending : y.calls.pending = x.calls.pending ++ [i] := by rw [calls]; rfl
  have link := Peers.link?_of_modify links
  have here : y.world.peers.link? id = some { l with queue := l.queue ++ [m] } := by
    rw [link, if_pos rfl, there]
    rfl
  have carries : ∀ other n, y.Carries other n ↔ x.Carries other n ∨ other = id ∧ n = i.sequence := by
    intro other n
    by_cases same : other = id
    · subst same
      rw [carries_iff here, carries_iff there, Link.carries_queue, numbered]
      simp [eq_comm]
    · simp only [Carries, link, same, if_false, false_and, or_false]
  refine ⟨⟨s, entry, own⟩, tasks, fits, none, offers, ?_, ?_, ?_, ?_, ?_, ?_, ?_, ?_⟩
  · rw [calls]
    rfl
  · rw [calls]
    exact Desk.unique_entering kept.unique free
  · rw [pending, ended, List.append_assoc, List.append_assoc]
    exact List.perm_append_comm.append_left _
  · rw [pending]
    intro j out
    exact (List.mem_append.mp out).imp_right fun this => ⟨List.mem_singleton.mp this, rfl⟩
  · exact fun id n held => ((carries id n).mp held).imp_right fun ⟨own, same⟩ => ⟨own, same, rfl⟩
  · exact fun id n held => (carries id n).mpr (.inl held)
  · exact fun _ => (carries _ _).mpr (.inr ⟨rfl, rfl⟩)
  · intro other l' there'
    by_cases same : other = id
    · subst same
      cases here.symm.trans there'
      exact fun stopped => absurd stopped going
    · rw [link, if_neg same] at there'
      exact kept.settled other l' there'

/-- A request is queued with its call, or its link has stopped. -/
theorem request (kept : x.Kept) {p : Post} (entry : x.tasks[k]? = some s) (call : p.call = some i)
    (own : s.holding.number? = some i.sequence)
    (numbered : Link.tracked? p.message = some i.sequence) (serializers : Serializers)
    (board : y.world.board =
      (x.world.board.enqueue serializers p.address p.link p.message p.call).1)
    (tasks : y.tasks = x.tasks.set k t) (fits : t.holding.fits) (none : t.holding.number? = none)
    (offers : y.offers = x.offers ++ [⟨p.link, i, x.world.board.accepts p.link⟩])
    (ended : y.ended = x.ended ++
      x.world.board.desk.endsAll serializers (x.world.board.postEvents p.link p.call)) :
    y.Kept := by
  have free : ∀ j ∈ x.calls.pending, j.sequence ≠ i.sequence := by
    intro j out same
    obtain ⟨o, offer, rfl⟩ := kept.offer_of_out out
    exact (kept.held k s _ entry own).2 o offer same
  have fresh : x.world.board.desk.calls.find? i.sequence = Option.none := by
    rw [Invocations.find?, List.find?_eq_none]
    intro j out
    simpa using free j out
  obtain ⟨desk, ends⟩ := x.world.board.post_fresh serializers p.link fresh
  have peers := x.world.board.peers_enqueue serializers p.address p.link p.message p.call
  have behind : y.desk = x.world.board.desk.steps serializers
      (x.world.board.postEvents p.link p.call) := by
    rw [Traffic.desk, board, Board.desk_enqueue]
  rw [← board] at peers
  rw [call, desk] at behind
  rw [call, ends] at ended
  cases taken : x.world.board.accepts p.link with
  | false =>
    rw [taken] at behind ended peers offers
    exact (kept.brings_refused entry own tasks fits none offers behind
      (congrArg Peers.links peers) ended).kept kept
  | true =>
    rw [taken] at behind ended peers offers
    obtain ⟨l, there, going⟩ := x.world.board.exists_of_accepts taken
    have still : y.ended = x.ended := ended.trans (List.append_nil _)
    exact (kept.brings_taken entry own tasks fits none offers behind free there going numbered
      (congrArg Peers.links peers) still).kept kept

end Request

theorem lets_refl (kept : x.Kept) (tasks : y.tasks = x.tasks) : x.Lets y := by
  intro k t entry
  rw [tasks] at entry
  exact ⟨kept.fits k t entry, fun n own => ⟨t, entry, own⟩⟩

variable (serializers : Serializers)

theorem work (kept : x.Kept) (k : Nat) (reason : Option String)
    (admits : x.Admits (.work k reason)) : (x.step serializers (.work k reason)).Kept := by
  cases entry : x.tasks[k]? with
  | none =>
    simp only [step, entry]
    exact kept
  | some s =>
    have fits := kept.fits k s entry
    simp only [step, entry]
    cases s.works reason x.world with
    | quiet calls links number nothing keeps =>
      obtain ⟨opened, fresh, links⟩ := links
      refine kept.eases {
        unique := ?_
        last := congrArg Invocations.lastSequence calls
        ended := ⟨[], ?_, ?_⟩
        peers := .of_opened fresh links
        offers := by simp [offered, nothing]
        tasks := kept.lets_set entry rfl (keeps fits) number }
      · rw [Traffic.calls, calls]
        exact kept.unique
      · rw [Traffic.calls, calls]
        simp [Traffic.calls]
      · simp [endedBy, nothing]
    | number takes nothing calls links number keeps =>
      have counts := admits s entry takes
      exact kept.number counts calls links rfl (keeps counts) number (by simp [offered, nothing])
        (by simp [endedBy, nothing])
    | post p posts world number none carries keeps =>
      have numbered := carries fits
      cases call : p.call with
      | none =>
        rw [call] at numbered
        refine kept.notice call numbered s.serializers world
          (kept.lets_set entry rfl keeps (.inr none)) ?_ ?_
        · simp [offered, posts, call]
        · simp [endedBy, posts, call, Board.postEvents, Desk.endsAll]
      | some i =>
        rw [call] at numbered number
        refine kept.request entry call number numbered s.serializers world rfl keeps none ?_ ?_
        · simp [offered, posts, call]
        · simp only [endedBy, posts]
          rfl

/-- Calls end by events of their own, and the links go on. -/
theorem moves (kept : x.Kept) {ended : List Ended} (moves : Desk.Moves x.desk [] ended y.desk)
    (last : y.calls.lastSequence = x.calls.lastSequence) (record : y.ended = x.ended ++ ended)
    (peers : x.world.peers.Goes y.calls y.world.peers) (offers : y.offers = x.offers)
    (tasks : y.tasks = x.tasks) : y.Kept := by
  have calls := moves.calls
  rw [List.append_nil] at calls
  exact kept.eases {
    unique := moves.unique
    last := last
    ended := ⟨ended, calls, record⟩
    peers := peers
    offers := offers
    tasks := kept.lets_refl tasks }

/-- Neither calls nor links change. -/
theorem apart_from (kept : x.Kept) (calls : y.calls = x.calls)
    (links : y.world.peers.links = x.world.peers.links) (ended : y.ended = x.ended)
    (offers : y.offers = x.offers) (tasks : x.Lets y) : y.Kept := by
  exact kept.eases {
    unique := by rw [calls]; exact kept.unique
    last := by rw [calls]
    ended := ⟨[], by simp [calls], by simp [ended]⟩
    peers := .of_same links
    offers := offers
    tasks := tasks }

theorem link (kept : x.Kept) (z : Serializer) (id : LinkId) (event : LinkEvent) :
    (x.step serializers (.link z id event)).Kept := by
  have desk := x.world.board.desk_step serializers z id event
  have moves := Desk.steps_moves serializers kept.unique
    (x.world.board.heard_callEvents z id event)
  have last := x.world.board.desk.last_steps serializers
    (x.world.board.counts_callEvents z id event)
  rw [← desk] at moves last
  exact kept.moves moves last rfl (x.world.board.goes_step serializers z kept.unique id event)
    rfl rfl

theorem step (kept : x.Kept) (move : Move) (admits : x.Admits move) :
    (x.step serializers move).Kept := by
  cases move with
  | work k reason => exact kept.work serializers k reason admits
  | link z id event => exact kept.link serializers z id event
  | start t =>
    obtain ⟨number, fits⟩ := t.holding_fresh admits
    refine kept.apart_from rfl rfl rfl rfl ?_
    intro k s entry
    rw [Traffic.step, List.getElem?_append] at entry
    split at entry
    · exact ⟨kept.fits k s entry, fun n own => ⟨s, entry, own⟩⟩
    · cases List.mem_singleton.mp (List.mem_of_getElem? entry)
      exact ⟨fits, fun n own => by cases number.symm.trans own⟩
  | reap now =>
    have moves := Desk.step_moves serializers kept.unique (.evict now) (by simp)
    exact kept.moves moves (x.desk.last_step serializers (by simp)) rfl (.of_same rfl) rfl rfl
  | wait i slot now =>
    have moves := Desk.step_moves serializers kept.unique (.wait i slot now) (by simp)
    exact kept.moves moves (x.desk.last_step serializers (by simp)) rfl (.of_same rfl) rfl rfl
  | close address => exact kept.apart_from rfl rfl rfl rfl (kept.lets_refl rfl)
  | elsewhere w => exact kept.apart_from admits.1 admits.2 rfl rfl (kept.lets_refl rfl)

end Kept

theorem kept_of_run {serializers : Serializers} {x : Traffic} (run : Run serializers x) :
    x.Kept := by
  induction run with
  | @start w calls links =>
    have empty : ∀ id, w.peers.link? id = none := fun id => by simp [Peers.link?, links]
    constructor
    · simp [Traffic.calls, calls, Invocations.empty, Invocations.Unique]
    · simp
    · simp
    · simp
    · simp
    · exact .nil
    · simp [Traffic.calls, calls, Invocations.empty]
    · simp
    · rintro id n ⟨l, there, -⟩
      cases (empty id).symm.trans there
    · simp
    · intro id l there
      cases (empty id).symm.trans there
  | step move _ admits ih => exact ih.step serializers move admits

end Traffic
end ClusterWire
