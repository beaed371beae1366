import ClusterWire.Proofs.Session.Bindings

/-! Teardown, and what may come behind it. When a connection ends, its session is forgotten
and nothing is bound to it any more. Whoever holds the session can still bind to it, and
binding does not ask whether it is tracked: an identity comes to rest on a session that is
gone exactly where it is bound to it after its teardown. -/
namespace ClusterWire.Sessions

theorem isSome_session?_iff {t : Sessions} {id : SessionId} :
    (t.session? id).isSome ↔ id ∈ t.ids := by
  constructor
  · intro known
    obtain ⟨s, entry⟩ := Option.isSome_iff_exists.mp known
    exact mem_ids entry
  · intro opened
    obtain ⟨s, held, same⟩ := List.mem_map.mp opened
    exact List.find?_isSome.mpr ⟨s, held, by simpa using same⟩

theorem mem_ids_step {t : Sessions} {id : SessionId} (opened : id ∈ t.ids) (event : SessionEvent)
    (admits : t.Admits event) : id ∈ (t.step event).ids := by
  cases event with
  | create remote family type =>
    rw [step, ids_create]
    exact List.mem_append_left _ opened
  | bind i other => rwa [step, ids_bind]
  | release i other => rwa [step, ids_release]
  | disconnect other => rwa [step, ids_disconnect]
  | alter other change => rwa [step, ids_modify t other admits.id]

theorem opened_of_disconnect {events : List SessionEvent} {t : Sessions} (run : Run events t)
    {id : SessionId} (torn : .disconnect id ∈ events) : id ∈ t.ids := by
  induction run with
  | start => cases torn
  | step event _ admits ih =>
    rcases List.mem_append.mp torn with old | new
    · exact mem_ids_step (ih old) event admits
    · cases List.mem_singleton.mp new
      exact mem_ids_step (isSome_session?_iff.mp admits) _ admits

/-- Tracked are the sessions that were opened and not torn down. -/
theorem mem_tracked_of_run {events : List SessionEvent} {t : Sessions} (run : Run events t)
    (id : SessionId) : id ∈ t.tracked ↔ id ∈ t.ids ∧ .disconnect id ∉ events := by
  induction run with
  | start => simp [empty, ids]
  | @step past t event behind admits ih =>
    cases event with
    | create remote family type =>
      have grown : (t.create remote family type).1.tracked = t.tracked ++ [t.newcomer] := rfl
      -- The newcomer cannot have been torn down before it was opened.
      have whole : t.newcomer = id → .disconnect id ∉ past := by
        rintro rfl torn
        have known := isSome_session?_iff.mpr (opened_of_disconnect behind torn)
        rw [(consistent_of_run behind).newcomer_unknown] at known
        cases known
      rw [step, ids_create, grown]
      by_cases new : t.newcomer = id
      · simp [new, whole new]
      · have other : id ≠ t.newcomer := fun h => new h.symm
        simp [other, ih]
    | bind i other => simp [step, tracked_bind, ids_bind, ih]
    | release i other => simp [step, tracked_release, ids_release, ih]
    | disconnect other =>
      rw [step, tracked_disconnect, ids_disconnect]
      by_cases own : id = other <;> simp [own, ih]
    | alter other change => simp [step, ids_modify t other admits.id, ih]

theorem nodup_ids {events : List SessionEvent} {t : Sessions} (run : Run events t) :
    t.ids.Nodup := by
  induction run with
  | start => exact .nil
  | @step past t event behind admits ih =>
    cases event with
    | create remote family type =>
      rw [step, ids_create]
      refine List.nodup_append.mpr ⟨ih, by simp, fun id held new fresh same => ?_⟩
      rw [List.mem_singleton.mp fresh] at same
      have known := isSome_session?_iff.mpr (same ▸ held)
      rw [(consistent_of_run behind).newcomer_unknown] at known
      cases known
    | bind i other => rwa [step, ids_bind]
    | release i other => rwa [step, ids_release]
    | disconnect other => rwa [step, ids_disconnect]
    | alter other change => rwa [step, ids_modify t other admits.id]

theorem nodup_tracked {events : List SessionEvent} {t : Sessions} (run : Run events t) :
    t.tracked.Nodup := by
  induction run with
  | start => exact .nil
  | @step past t event behind admits ih =>
    cases event with
    | create remote family type =>
      have fresh := nodup_ids (behind.step (.create remote family type) admits)
      rw [step, ids_create] at fresh
      refine List.nodup_append.mpr ⟨ih, by simp, fun id held new same => ?_⟩
      have opened := ((mem_tracked_of_run behind id).mp held).1
      exact (List.nodup_append.mp fresh).2.2 id opened new same
    | bind i other => rwa [step, tracked_bind]
    | release i other => rwa [step, tracked_release]
    | disconnect other => exact ih.filter _
    | alter other change => exact ih

/-! A session that is torn down is closed. -/

/-- Whatever befalls a session that is closed, it stays closed. -/
def Lasting (events : List SessionEvent) : Prop :=
  ∀ id change, .alter id change ∈ events → ∀ s, s.closed = true → (change s).closed = true

theorem lasts_closed : Lasts fun s u => s.closed = true → u.closed = true where
  refl _ closed := closed
  trans _ _ _ first second closed := second (first closed)
  adds s i closed := by
    unfold Session.addIdentity
    split <;> exact closed
  removes _ _ closed := closed
  retires _ _ := rfl

/-- A session that is tracked no longer is closed, whatever is bound to it. -/
theorem closed_of_untracked {events : List SessionEvent} {t : Sessions} (run : Run events t)
    (lasting : Lasting events) {id : SessionId} {s : Session} (known : t.session? id = some s)
    (gone : id ∉ t.tracked) : s.closed = true := by
  induction run generalizing s with
  | start => cases known
  | @step past t event behind admits ih =>
    have lasting' : Lasting past := fun id change held =>
      lasting id change (List.mem_append_left _ held)
    have still : id ∈ t.ids → id ∉ t.tracked → s.closed = true := by
      intro opened gone
      obtain ⟨s', before⟩ := Option.isSome_iff_exists.mp (isSome_session?_iff.mpr opened)
      have alters : ∀ other change, event = .alter other change → (∀ s, (change s).id = s.id) ∧
          (other = id → ∀ s, s.closed = true → (change s).closed = true) := by
        rintro other change rfl
        exact ⟨admits.id, fun _ => lasting other change (by simp)⟩
      obtain ⟨u, now, later⟩ := related_step lasts_closed before event alters
      obtain rfl := Option.some.inj (known.symm.trans now)
      exact later (ih lasting' before gone)
    have opened := mem_ids known
    cases event with
    | create remote family type =>
      have grown : (t.create remote family type).1.tracked = t.tracked ++ [t.newcomer] := rfl
      rw [step, grown, List.mem_append, List.mem_singleton, not_or] at gone
      rw [step, session?_create, if_neg gone.2, Option.or_none] at known
      exact ih lasting' known gone.1
    | bind i other =>
      rw [step, ids_bind] at opened
      exact still opened (by rwa [step, tracked_bind] at gone)
    | release i other =>
      rw [step, ids_release] at opened
      exact still opened (by rwa [step, tracked_release] at gone)
    | disconnect other =>
      by_cases own : id = other
      · subst own
        rw [step, disconnect_eq, session?_modify (t.forget id) id id (f := retired) fun _ => rfl]
          at known
        obtain ⟨s', before, rfl⟩ := Option.map_eq_some_iff.mp known
        rw [if_pos (session?_id (t := t) before)]
        rfl
      · rw [step, ids_disconnect] at opened
        refine still opened fun held => gone ?_
        rw [step, tracked_disconnect]
        exact List.mem_filter.mpr ⟨held, by simpa using own⟩
    | alter other change =>
      rw [step, ids_modify t other admits.id] at opened
      exact still opened gone

/-- An identity that is bound behind no teardown rests on no session that was torn down. -/
theorem not_torn_of_run {events : List SessionEvent} {t : Sessions} (run : Run events t)
    (timely : ∀ past i id, past ++ [.bind i id] <+: events → 0 < i → .disconnect id ∉ past)
    {i : Int64} {id : SessionId} (bound : t.resolve i = some id) : .disconnect id ∉ events := by
  induction run with
  | start => cases bound
  | @step past t event behind admits ih =>
    have timely' : ∀ front i id, front ++ [.bind i id] <+: past → 0 < i → .disconnect id ∉ front :=
      fun front i id inside => timely front i id (inside.trans (List.prefix_append _ _))
    have consistent := consistent_of_run behind
    cases event with
    | create remote family type => simpa using ih timely' bound
    | alter other change => simpa using ih timely' bound
    | release j other =>
      refine List.not_mem_append (ih timely' ?_) (by simp)
      by_cases held : t.resolve j = some other
      · rw [step, (consistent.releases held).resolve] at bound
        split at bound
        · cases bound
        · exact bound
      · rwa [step, release_of_stale held] at bound
    | disconnect other =>
      rw [step, (consistent.clears other).resolve] at bound
      split at bound
      · cases bound
      · rename_i elsewhere
        have differs : id ≠ other := fun same => elsewhere (same ▸ bound)
        exact List.not_mem_append (ih timely' bound) (by simpa using fun h => differs h)
    | bind j other =>
      refine List.not_mem_append ?_ (by simp)
      by_cases positive : 0 < j
      · rw [step, resolve_bind t positive] at bound
        split at bound
        · cases bound
          exact timely past j id (List.prefix_refl _) positive
        · exact ih timely' bound
      · rw [step, bind_of_not_pos t positive] at bound
        exact ih timely' bound

theorem Run.of_prefix {events past : List SessionEvent} {t : Sessions} (run : Run events t)
    (front : past <+: events) : Run past (after past) := by
  induction run with
  | start =>
    rw [List.prefix_nil.mp front]
    exact .start
  | step event behind admits ih =>
    rcases List.prefix_concat_iff.mp front with whole | front
    · have run := behind.step event admits
      rw [whole]
      exact after_of_run run ▸ run
    · exact ih front

/-- In a run every identity resolves to a tracked session at every moment if and only if no
identity is bound to a session behind its teardown. The teardown itself leaves nothing bound
to its session. -/
theorem resolves_tracked_iff {events : List SessionEvent} {t : Sessions} (run : Run events t) :
    ((∀ past, past <+: events → ∀ i id, (after past).resolve i = some id →
        ((after past).get? id).isSome ∧ .disconnect id ∉ past) ↔
      ∀ past i id, past ++ [.bind i id] <+: events → 0 < i → .disconnect id ∉ past) ∧
    ∀ i id, (t.disconnect id).1.resolve i ≠ some id := by
  refine ⟨⟨fun tracked past i id front positive torn => ?_, fun timely past front i id bound => ?_⟩,
    fun i id => ?_⟩
  · have bound : (after (past ++ [.bind i id])).resolve i = some id := by
      rw [after_concat, step, resolve_bind _ positive, if_pos rfl]
    exact (tracked _ front i id bound).2 (List.mem_append_left _ torn)
  · have here := run.of_prefix front
    have whole : .disconnect id ∉ past :=
      not_torn_of_run here (fun front' i id inside => timely front' i id (inside.trans front)) bound
    have held := ((consistent_of_run here).agree i id).mp bound
    obtain ⟨s, known⟩ := session_of_mem held
    have tracked := (mem_tracked_of_run here id).mpr ⟨mem_ids known, whole⟩
    refine ⟨?_, whole⟩
    rw [get?, if_pos tracked, known]
    rfl
  · rw [((consistent_of_run run).clears id).resolve]
    split
    · exact fun h => by cases h
    · assumption

theorem resolves_tracked_iff_wandering :
    (after wandering).resolve 7 = some ⟨1⟩ ∧ ((after wandering).get? ⟨1⟩).isSome := by
  -- The only teardown is the last event, and no binding comes behind it.
  have timely : ∀ past i id, past ++ [.bind i id] <+: wandering → 0 < i →
      .disconnect id ∉ past := by
    intro past i id front _ torn
    have short := front.length_le
    simp only [List.length_append, List.length_singleton] at short
    have inside : past <+: wandering.take 7 :=
      List.prefix_take_iff.mpr ⟨(List.prefix_append _ _).trans front, by simp [wandering] at short; omega⟩
    simpa [wandering] using inside.subset torn
  have tracked := (resolves_tracked_iff wandering_run).1.mpr timely wandering (List.prefix_refl _)
  exact ⟨rfl, (tracked 7 ⟨1⟩ rfl).1⟩

/-- A login that comes behind the teardown of its connection. -/
def belated : List SessionEvent :=
  [.create (.loopback 5000) .external 0, .disconnect ⟨1⟩, .bind 77 ⟨1⟩]

/-- The identity rests on a session that is gone. -/
theorem belated_bind_untracked :
    Run belated (after belated) ∧ (after belated).resolve 77 = some ⟨1⟩ ∧
    (after belated).get? ⟨1⟩ = none := by
  refine ⟨?_, rfl, rfl⟩
  refine .step (.bind 77 ⟨1⟩) (.step (.disconnect ⟨1⟩)
    (.step (.create (.loopback 5000) .external 0) .start trivial) ?_) ?_ <;> rfl

end ClusterWire.Sessions
