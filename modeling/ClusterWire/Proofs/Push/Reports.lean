import ClusterWire.Proofs.Push.Fanout

/-! What the report of a push to many says, and when it is true. Of the identities on a client's
session that refuses, only the one that comes first in the list is reported missing. -/
namespace ClusterWire.Push

/-- The identity is bound to a session that takes messages. -/
def reaches (t : Sessions) (i : Int64) : Bool := (t.resolve i).any t.accepts

variable {serializers : Serializers} {protocol : ProtocolId} {value : Json} {t u : Sessions}
  {identities : List Int64} {report : PushReport}

theorem exists_stands (sent : many serializers t identities protocol value = (u, .ok report)) :
    ∃ f, Fanout.Stands serializers protocol value t identities (f.links.map (·.1)) f ∧
      u = f.sessions ∧
      report.delivered = identities.filter (!f.undelivered.contains ·) ∧
      report.missing = identities.filter f.undelivered.contains := by
  unfold many at sent
  cases push : protocol.isPush with
  | false =>
    rw [push] at sent
    cases sent
  | true =>
    rw [push] at sent
    dsimp only [Bool.not_true, Bool.false_eq_true, if_false] at sent
    cases walk : identities.foldlM (Fanout.visit serializers protocol value) { sessions := t } with
    | error fault => simp [walk, bind, Except.bind] at sent
    | ok f =>
      cases tour : f.links.foldlM (Fanout.visitLink serializers protocol value) f with
      | error fault => simp [walk, tour, bind, Except.bind] at sent
      | ok g =>
        simp only [walk, tour, bind, Except.bind] at sent
        cases sent
        exact ⟨g, Fanout.stands_tour (Fanout.stands_walk walk) tour, rfl, rfl, rfl⟩

/-- The identity is reported missing: it is bound to no session, or its session refuses the
push. On a client's session only the first identity of the list is. -/
def misses (t : Sessions) (identities : List Int64) (i : Int64) : Bool :=
  match (t.resolve i).bind t.session? with
  | none => true
  | some s =>
    !s.accepts &&
      match s.family with
      | .external => (targetsOf t identities s.id).head? == some i
      | .internal => true

theorem isLost_eq_misses {f : Fanout}
    (stands : f.Stands serializers protocol value t identities (f.links.map (·.1))) {i : Int64}
    (listed : i ∈ identities) : isLost t identities (f.links.map (·.1)) i = misses t identities i := by
  unfold isLost misses
  cases known : (t.resolve i).bind t.session? with
  | none => rfl
  | some s =>
    cases family : s.family with
    | external => simp only [family]
    | internal =>
      obtain ⟨bound, entry⟩ := Fanout.session_of_bind known
      have target : i ∈ targetsOf t identities s.id := mem_targetsOf.mpr ⟨listed, bound⟩
      have visited := (stands.mem_links entry family).mpr (List.ne_nil_of_mem target)
      simp [family, visited]

theorem contains_undelivered {f : Fanout}
    (stands : f.Stands serializers protocol value t identities (f.links.map (·.1))) {i : Int64}
    (listed : i ∈ identities) : f.undelivered.contains i = misses t identities i := by
  rw [← isLost_eq_misses stands listed, Bool.eq_iff_iff, List.contains_iff_mem, stands.lost]
  simp [listed]

theorem report_eq (sent : many serializers t identities protocol value = (u, .ok report)) :
    report.delivered = identities.filter (!misses t identities ·) ∧
    report.missing = identities.filter (misses t identities) := by
  obtain ⟨f, stands, -, delivered, missing⟩ := exists_stands sent
  constructor
  · rw [delivered]
    exact List.filter_congr fun i listed => by rw [contains_undelivered stands listed]
  · rw [missing]
    exact List.filter_congr fun i listed => contains_undelivered stands listed

/-- Every session that an identity of the list is bound to is offered one frame, and no other
session any. -/
theorem offered_once (sent : many serializers t identities protocol value = (u, .ok report))
    {id : SessionId} {s : Session} (known : t.session? id = some s) :
    (targetsOf t identities id = [] → u.session? id = some s) ∧
    (targetsOf t identities id ≠ [] → ∃ m,
      frameFor serializers protocol value s (targetsOf t identities id) = .ok m ∧
        u.session? id = some (s.send m)) := by
  obtain ⟨f, stands, rfl, -⟩ := exists_stands sent
  have name := Sessions.session?_id known
  have offered : isOffered t identities (f.links.map (·.1)) s =
      !(targetsOf t identities id).isEmpty := by
    cases family : s.family with
    | external => simp only [isOffered, family, name]
    | internal =>
      simp only [isOffered, family, name]
      rw [Bool.eq_iff_iff, List.contains_iff_mem, stands.mem_links known family]
      simp
  exact ⟨fun none => stands.spared id s known (by simp [offered, none]),
    fun some => stands.reached id s known (by simp [offered, some])⟩

theorem reaches_eq (t : Sessions) (i : Int64) :
    reaches t i = ((t.resolve i).bind t.session?).any (·.accepts) := by
  unfold reaches Sessions.accepts
  cases t.resolve i with
  | none => rfl
  | some id => cases known : t.session? id <;> simp [known]

/-- No two identities of the list share a client's session that refuses. -/
def Alone (t : Sessions) (identities : List Int64) : Prop :=
  ∀ i ∈ identities, ∀ j ∈ identities, ∀ s, (t.resolve i).bind t.session? = some s →
    (t.resolve j).bind t.session? = some s → s.family = .external → s.accepts = false → i = j

theorem misses_eq_iff_alone : (∀ i ∈ identities, misses t identities i = !reaches t i) ↔
    Alone t identities := by
  constructor
  · intro truthful i first j second s bound also external refuses
    have head : ∀ k ∈ identities, (t.resolve k).bind t.session? = some s →
        (targetsOf t identities s.id).head? = some k := by
      intro k listed known
      have missed := truthful k listed
      rw [reaches_eq] at missed
      simpa [misses, known, external, refuses] using missed
    exact Option.some.inj ((head i first bound).symm.trans (head j second also))
  · intro alone i listed
    rw [reaches_eq]
    unfold misses
    cases known : (t.resolve i).bind t.session? with
    | none => rfl
    | some s =>
      cases family : s.family with
      | internal => simp [family]
      | external =>
        cases refuses : s.accepts with
        | true => simp [refuses]
        | false =>
          obtain ⟨bound, entry⟩ := Fanout.session_of_bind known
          have target : i ∈ targetsOf t identities s.id := mem_targetsOf.mpr ⟨listed, bound⟩
          obtain ⟨first, rest, list⟩ := List.exists_cons_of_ne_nil (List.ne_nil_of_mem target)
          have held : first ∈ targetsOf t identities s.id := list ▸ List.mem_cons_self
          obtain ⟨inside, other⟩ := mem_targetsOf.mp held
          have same : first = i := alone first inside i listed s
            (by rw [other, Option.bind_some, entry]) known family refuses
          simp [family, refuses, list, same]

/-- The report of a push that comes through puts every identity of the list on one of two lists,
which keep its order and its repetitions. A session that an identity is bound to is offered
exactly one frame, and no other session is. An identity is told to be reached exactly if its
session takes the frame, for all of the list, if and only if no two identities share a client's
session that refuses; so a push to one identity always tells the truth. -/
theorem report_true_iff (sent : many serializers t identities protocol value = (u, .ok report)) :
    (∃ missed : Int64 → Bool, report.delivered = identities.filter (!missed ·) ∧
      report.missing = identities.filter missed) ∧
    (∀ id s, t.session? id = some s →
      (targetsOf t identities id = [] → u.session? id = some s) ∧
      (targetsOf t identities id ≠ [] → ∃ m,
        frameFor serializers protocol value s (targetsOf t identities id) = .ok m ∧
          u.session? id = some (s.send m) ∧
          (s.send m).queue = if s.accepts then s.queue ++ [m] else s.queue)) ∧
    ((∀ i ∈ identities, i ∈ report.delivered ↔ reaches t i = true) ↔ Alone t identities) ∧
    ∀ i v reached, one serializers t i protocol value = (v, .ok reached) →
      reached = reaches t i := by
  obtain ⟨delivered, missing⟩ := report_eq sent
  refine ⟨⟨misses t identities, delivered, missing⟩, fun id s known => ?_, ?_, ?_⟩
  · obtain ⟨spared, offered⟩ := offered_once sent known
    refine ⟨spared, fun some => ?_⟩
    obtain ⟨m, framed, there⟩ := offered some
    exact ⟨m, framed, there, s.queue_send m⟩
  · rw [← misses_eq_iff_alone]
    refine forall_congr' fun i => forall_congr' fun listed => ?_
    rw [delivered, List.mem_filter]
    cases misses t identities i <;> cases reaches t i <;> simp [listed]
  · intro i v reached pushed
    unfold one at pushed
    cases outcome : many serializers t [i] protocol value with
    | mk w result =>
      cases result with
      | error fault => simp [outcome, Except.map] at pushed
      | ok report =>
        simp only [outcome, Except.map, Prod.mk.injEq, Except.ok.injEq] at pushed
        have alone : Alone t [i] := by
          intro j first k second _ _ _ _ _
          rw [List.mem_singleton.mp first, List.mem_singleton.mp second]
        have own := misses_eq_iff_alone.mpr alone i List.mem_cons_self
        rw [← pushed.2, (report_eq outcome).1]
        cases here : reaches t i <;> simp [own, here]

open Sessions (Run after)

/-- A client with two identities, and a link whose reader is gone, with two more. -/
def crowd : List SessionEvent :=
  [.create (.loopback 5000) .external 0, .create (.loopback 5001) .internal 1, .bind 7 ⟨1⟩,
    .bind 9 ⟨1⟩, .bind 21 ⟨2⟩, .bind 22 ⟨2⟩, .alter ⟨2⟩ fun s => { s with listening := false }]

theorem report_true_iff_crowd : ∃ u report,
    many .standard (after crowd) [21, 7, 22, 9, 23, 7] ⟨30, -1⟩ .null = (u, .ok report) ∧
    report = ⟨[7, 9, 7], [21, 22, 23]⟩ ∧
    ∀ i ∈ [21, 7, 22, 9, 23, 7], i ∈ report.delivered ↔ reaches (after crowd) i = true := by
  have sent : many .standard (after crowd) [21, 7, 22, 9, 23, 7] ⟨30, -1⟩ .null =
      ((many .standard (after crowd) [21, 7, 22, 9, 23, 7] ⟨30, -1⟩ .null).1,
        .ok ⟨[7, 9, 7], [21, 22, 23]⟩) := rfl
  have checked : [21, 7, 22, 9, 23, 7].all (fun i =>
      misses (after crowd) [21, 7, 22, 9, 23, 7] i == !reaches (after crowd) i) = true := rfl
  have alone := misses_eq_iff_alone.mp fun i listed =>
    eq_of_beq (List.all_eq_true.mp checked i listed)
  obtain ⟨-, -, truthful, -⟩ := report_true_iff sent
  exact ⟨_, _, sent, rfl, truthful.mpr alone⟩

/-- A client with two identities closes its session. -/
def departed : List SessionEvent :=
  [.create (.loopback 5000) .external 0, .bind 7 ⟨1⟩, .bind 9 ⟨1⟩, .alter ⟨1⟩ (·.close)]

theorem departed_run : Run departed (after departed) := by
  refine .step (.alter ⟨1⟩ (·.close)) (.step (.bind 9 ⟨1⟩) (.step (.bind 7 ⟨1⟩)
    (.step (.create (.loopback 5000) .external 0) .start trivial) ?_) ?_) ?_
  · rfl
  · rfl
  · exact ⟨fun _ => rfl, fun _ => rfl, fun _ => rfl⟩

/-- Of two identities on a closed session one is reported as reached. -/
theorem shared_refusal_reported_delivered :
    Run departed (after departed) ∧
    (many .standard (after departed) [7, 9] ⟨30, -1⟩ .null).2.toOption = some ⟨[9], [7]⟩ ∧
    (after departed).resolve 7 = some ⟨1⟩ ∧ (after departed).resolve 9 = some ⟨1⟩ ∧
    (after departed).accepts ⟨1⟩ = false ∧
    (many .standard (after departed) [7, 9] ⟨30, -1⟩ .null).1.session? ⟨1⟩ =
      (after departed).session? ⟨1⟩ :=
  ⟨departed_run, rfl, rfl, rfl, rfl, rfl⟩

end ClusterWire.Push
