import ClusterWire.Proofs.Passage.Stream

/-! From the connection to the pool of the backend. The requests that are read become jobs of
the backend in the order in which they are read, each once, and no other job is one of the
link's session. -/
namespace ClusterWire

namespace Sessions

theorem type?_modify (t : Sessions) (id other : SessionId) {f : Session → Session}
    (keeps : ∀ s, (f s).id = s.id) (same : ∀ s, (f s).serializeType = s.serializeType) :
    (t.modify id f).type? other = t.type? other := by
  rw [type?, type?, session?_modify t id other keeps, Option.map_map]
  congr 1
  funext s
  by_cases own : s.id = id <;> simp [own, same]

theorem type?_send (t : Sessions) (id other : SessionId) (m : Message) :
    (t.send id m).1.type? other = t.type? other := by
  refine type?_modify t id other (fun s => s.id_send m) fun s => ?_
  unfold Session.send
  split <;> rfl

end Sessions

namespace Writer

theorem type?_stop (w : Writer) (t : Sessions) (id : SessionId) :
    (w.stop t).1.type? id = t.type? id :=
  t.type?_modify w.session id (fun _ => rfl) fun _ => rfl

theorem type?_step (w : Writer) (t : Sessions) (succeeds : Bool) (id : SessionId) :
    (w.step t succeeds).1.type? id = t.type? id := by
  unfold step
  split
  · split
    · unfold write
      split
      · exact t.type?_modify w.session id (fun _ => rfl) fun _ => rfl
      · exact (w.type?_stop _ id).trans (t.type?_modify w.session id (fun _ => rfl) fun _ => rfl)
    · rfl
  · split
    · exact w.type?_stop t id
    · rfl
  all_goals rfl

end Writer

theorem Dispatcher.type?_receive (d : Dispatcher) (t : Sessions) (id other : SessionId)
    (m : Message) : (d.receive t id m).1.type? other = t.type? other := by
  unfold receive
  split
  · exact t.type?_send id other _
  all_goals rfl

/-- A step of a connection leaves all sessions their serializers. -/
theorem Connection.type?_step (d : Dispatcher) (c : Connection) (t : Sessions) (event : Event)
    (id : SessionId) : (c.step d t event).1.type? id = t.type? id := by
  rcases c.step_cases d t event with same | ⟨succeeds, same⟩ | ⟨m, left, -, same⟩ | ⟨leaving, same⟩
  · rw [same]
  · rw [same]
    exact c.writer.type?_step t succeeds id
  · rw [same]
    exact d.type?_receive t c.session id m
  · rw [same]
    exact Sessions.type?_modify _ c.session id (fun _ => rfl) fun _ => rfl

theorem Dispatcher.duty?_cases (d : Dispatcher) (t : Sessions) (id : SessionId) (m : Message) :
    (∃ u, m.kind = .request ∧ t.session? id = some u ∧
      d.duty? t id m = some (.fresh d ⟨id, m, d.context u m⟩)) ∨
    d.duty? t id m = none ∧ (m.kind = .request → t.session? id = none) := by
  unfold duty?
  cases kind : m.kind with
  | request =>
    cases known : t.session? id with
    | some u => exact .inl ⟨u, rfl, rfl, rfl⟩
    | none => exact .inr ⟨rfl, fun _ => rfl⟩
  | response | heartbeatRequest | heartbeatResponse => exact .inr ⟨rfl, by rintro ⟨⟩⟩

namespace Workshop

variable {d : Dispatcher} {s : Workshop}

theorem request?_dispatch {id : SessionId} {m : Message} {u : Session} (request : m.kind = .request)
    (known : s.world.sessions.session? id = some u) :
    (s.step d (.dispatch id m)).request? s.shift.dealt.length =
      some ⟨id, m, d.context u m⟩ := by
  have duty : d.duty? s.world.sessions id m = some (.fresh d ⟨id, m, d.context u m⟩) := by
    simp only [Dispatcher.duty?, request, known]
  simp [request?, step, event?, duty, Shift.step, Duty.fresh]

/-- A request that is new is the one that is dispatched. -/
theorem request?_new {move : Move} {n : Nat} {q : Request}
    (asked : (s.step d move).request? n = some q) : s.request? n = some q ∨
      move = .dispatch q.session q.message ∧ n = s.shift.dealt.length ∧
        q.message.kind = .request := by
  obtain ⟨deal, dealt, rfl⟩ := Option.map_eq_some_iff.mp asked
  have old : s.shift.dealt[n]? = some deal → s.request? n = some deal.job.request :=
    fun found => Option.map_eq_some_iff.mpr ⟨deal, found, rfl⟩
  simp only [step] at dealt
  cases occurs : s.event? d move with
  | none =>
    rw [occurs] at dealt
    exact .inl (old dealt)
  | some event =>
    rw [occurs] at dealt
    simp only [Option.elim_some, Shift.dealt_step, List.getElem?_append] at dealt
    split at dealt
    · exact .inl (old dealt)
    · rename_i beyond
      have new := List.mem_of_getElem? dealt
      cases happens_of_event occurs with
      | @dispatch id m e job =>
        have last : n - s.shift.dealt.length < 1 := (List.getElem?_eq_some_iff.mp dealt).1
        rcases d.duty?_cases s.world.sessions id m with ⟨u, request, -, duty⟩ | ⟨none, -⟩
        · cases job.symm.trans duty
          rw [List.mem_singleton.mp new]
          exact .inr ⟨rfl, by omega, request⟩
        · cases job.symm.trans none
      | start | work | finish => cases new

theorem lt_of_request? {n : Nat} {q : Request} (asked : s.request? n = some q) :
    n < s.shift.dealt.length := by
  obtain ⟨deal, dealt, -⟩ := Option.map_eq_some_iff.mp asked
  exact (List.getElem?_eq_some_iff.mp dealt).1

end Workshop

namespace Crossing

variable {x : Route} {c : Crossing} {size width : Nat}

/-- The requests that were read of the link are jobs of the backend, in this order, and they are
all jobs of their session. -/
structure Landing (x : Route) (c : Crossing) : Prop where
  known : c.type?.isSome
  read : c.landed.map (·.1) = requests c.read
  jobs : ∀ m n, (m, n) ∈ c.landed → ∃ u,
    c.back.request? n = some ⟨c.reader.session, m, x.backend.context u m⟩
  ascending : (c.landed.map (·.2)).Pairwise (· < ·)
  own : ∀ n q, c.back.request? n = some q → q.session = c.reader.session →
    ∃ m, (m, n) ∈ c.landed

theorem landing_backend (landing : Landing x c) {move : Workshop.Move}
    (admits : c.Admits x (.backend move)) : Landing x (c.step x (.backend move)) := by
  obtain ⟨other, type⟩ := admits
  refine ⟨type.symm ▸ landing.known, landing.read, fun m n listed => ?_, landing.ascending,
    fun n q asked own => ?_⟩
  · obtain ⟨u, asked⟩ := landing.jobs m n listed
    exact ⟨u, Workshop.request?_step asked move⟩
  · rcases Workshop.request?_new asked with before | ⟨rfl, -⟩
    · exact landing.own n q before own
    · exact absurd (congrArg (Workshop.Move.dispatch · q.message) own) (other q.message)

theorem session_reader (known : c.type?.isSome) (event : Connection.Event) :
    (c.afterReader x event).reader.session = c.reader.session := by
  obtain ⟨type, some⟩ := Option.isSome_iff_exists.mp known
  obtain ⟨u, there, -⟩ := Option.map_eq_some_iff.mp some
  exact (Connection.leads_step x.backend c.reader (by rw [there]; rfl) event).2

theorem type?_reader (known : c.type?.isSome) (event : Connection.Event) :
    (c.afterReader x event).type? = c.type? := by
  have same := Connection.type?_step x.backend c.reader c.back.world.sessions event
    c.reader.session
  rw [type?, session_reader known, type?, ← same]
  simp only [afterReader]
  cases c.message? event <;> rfl

theorem mem_requests_map {m m' : Message} {k n : Nat} :
    (m', n) ∈ (requests [m]).map (·, k) ↔ m.kind = .request ∧ m' = m ∧ n = k := by
  by_cases request : m.kind = .request <;> simp [requests, request]

/-- The session is still there when the connection hands over a message. -/
theorem session?_reader (known : c.type?.isSome) (event : Connection.Event) :
    ∃ u, (c.reader.step x.backend c.back.world.sessions event).1.session? c.reader.session =
      some u := by
  rw [type?, ← Connection.type?_step x.backend c.reader c.back.world.sessions event,
    Sessions.type?, Option.isSome_map] at known
  exact Option.isSome_iff_exists.mp known

/-- The requests that are read get the next number. -/
theorem landed_afterReader (known : c.type?.isSome) {event : Connection.Event} {m : Message}
    (read : c.message? event = some m) : (c.afterReader x event).landed =
      c.landed ++ (requests [m]).map (·, c.back.shift.dealt.length) := by
  obtain ⟨u, there⟩ := session?_reader (x := x) known event
  simp only [afterReader, read, requests, List.filter_cons, List.filter_nil]
  congr 1
  rcases x.backend.duty?_cases (c.reader.step x.backend c.back.world.sessions event).1
    c.reader.session m with ⟨u, request, -, duty⟩ | ⟨none, gone⟩
  · simp [duty, request]
  · have other : m.kind ≠ .request := by
      intro request
      cases there.symm.trans (gone request)
    simp [none, other]

theorem landing_read (landing : Landing x c) {event : Connection.Event} {m : Message}
    (read : c.message? event = some m) : Landing x (c.afterReader x event) := by
  have known := landing.known
  have landed := landed_afterReader (x := x) known read
  have kept : ∀ {n q}, c.back.request? n = some q →
      (c.afterReader x event).back.request? n = some q := by
    intro n q asked
    simp only [afterReader, read]
    exact Workshop.request?_step (Workshop.request?_step asked _) _
  constructor
  · rw [type?_reader known]
    exact known
  · have texts : (c.afterReader x event).read = c.read ++ [m] := by
      simp only [afterReader, read, Option.toList_some]
    rw [landed, texts, requests_append, ← landing.read, List.map_append, List.map_map]
    exact congrArg _ (List.map_id _)
  · intro m' n listed
    rw [session_reader known]
    rw [landed] at listed
    rcases List.mem_append.mp listed with before | new
    · obtain ⟨u, asked⟩ := landing.jobs m' n before
      exact ⟨u, kept asked⟩
    · obtain ⟨request, rfl, rfl⟩ := mem_requests_map.mp new
      obtain ⟨u, there⟩ := session?_reader (x := x) known event
      refine ⟨u, ?_⟩
      simp only [afterReader, read]
      exact Workshop.request?_dispatch request there
  · rw [landed, List.map_append]
    refine List.pairwise_append.mpr ⟨landing.ascending, ?_, ?_⟩
    · by_cases request : m.kind = .request <;> simp [requests, request]
    · intro n old k new
      obtain ⟨⟨m', n⟩, before, rfl⟩ := List.mem_map.mp old
      obtain ⟨⟨m'', k⟩, added, rfl⟩ := List.mem_map.mp new
      obtain ⟨-, -, rfl⟩ := mem_requests_map.mp added
      obtain ⟨u, asked⟩ := landing.jobs m' n before
      exact Workshop.lt_of_request? asked
  · intro n q asked own
    rw [session_reader known] at own
    rw [landed]
    simp only [afterReader, read] at asked
    rcases Workshop.request?_new asked with before | ⟨moved, rfl, request⟩
    · obtain ⟨m', listed⟩ := landing.own n q before own
      exact ⟨m', List.mem_append_left _ listed⟩
    · obtain ⟨-, same⟩ := Workshop.Move.dispatch.inj moved
      exact ⟨m, List.mem_append_right _ (mem_requests_map.mpr ⟨same ▸ request, rfl, rfl⟩)⟩

theorem landing_reader (landing : Landing x c) (event : Connection.Event) :
    Landing x (c.afterReader x event) := by
  cases read : c.message? event with
  | some m => exact landing_read landing read
  | none =>
    have known := landing.known
    have landed : (c.afterReader x event).landed = c.landed := by
      simp [afterReader, read]
    have texts : (c.afterReader x event).read = c.read := by
      simp [afterReader, read]
    have asked : (c.afterReader x event).back.request? = c.back.request? := by
      simp only [afterReader, read]
      rfl
    refine ⟨?_, ?_, ?_, ?_, ?_⟩
    · rw [type?_reader known]
      exact known
    · rw [landed, texts]
      exact landing.read
    · rw [landed, asked, session_reader known]
      exact landing.jobs
    · rw [landed]
      exact landing.ascending
    · rw [landed, asked, session_reader known]
      exact landing.own

theorem landing_of_run (run : Run x size width c) : Landing x c := by
  induction run with
  | @start c opening =>
    obtain ⟨-, -, read, landed⟩ := opening.record
    obtain ⟨t, remote, limit, family, type, ⟨events, run⟩, sessions, reader⟩ := opening.reader_eq
    have unknown := (Sessions.consistent_of_run run).newcomer_unknown
    refine ⟨?_, ?_, ?_, ?_, fun n q asked own => absurd own (opening.unused n q asked)⟩
    · rw [type?, sessions, reader]
      change (((t.create remote family type).1.session? t.newcomer).map _).isSome
      rw [Sessions.session?_create, unknown, if_pos rfl]
      rfl
    · rw [read, landed]
      rfl
    · rw [landed]
      rintro m n ⟨⟩
    · rw [landed]
      exact .nil
  | step move run admits ih =>
    cases move with
    | gateway | link | deliver | hangUp => exact ⟨ih.known, ih.read, ih.jobs, ih.ascending, ih.own⟩
    | reader event => exact landing_reader ih event
    | backend move => exact landing_backend ih admits

end Crossing
end ClusterWire
