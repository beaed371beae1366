import ClusterWire.Proofs.Link.Dropped

/-! Whose calls a frame from a peer ends. A response ends the call that is out under its
number, whichever link took the request. -/
namespace ClusterWire
namespace Traffic

variable (serializers : Serializers) {x : Traffic}

/-- The link took a request under the number. -/
def Asked (x : Traffic) (id : LinkId) (n : Int64) : Prop := ∃ i, x.Took id i ∧ i.sequence = n

/-- From one moment to the next no call ends but calls of the link, and those of other links
stay out. -/
def OwnOnly (x y : Traffic) (id : LinkId) : Prop :=
  (∀ e ∈ y.ended.drop x.ended.length, x.Took id e.call) ∧
  ∀ other i, x.Took other i → other ≠ id → i ∈ x.calls.pending → i ∈ y.calls.pending

/-- A response that is matched with a call. -/
def Answers (m : Message) : Prop := m.kind = .response ∧ m.sequence ≠ 0

instance (m : Message) : Decidable (Answers m) := inferInstanceAs (Decidable (_ ∧ _))

/-- What a response does to the calls. -/
theorem receive_answer {m : Message} (answers : Answers m) {id : LinkId} {l : Link}
    (there : x.world.peers.link? id = some l) (running : l.phase = .running) (z : Serializer)
    (succeeds : Bool) :
    (x.step serializers (.link z id (.receive m succeeds))).calls.pending =
      x.calls.pending.filter (·.sequence != m.sequence) ∧
    (x.step serializers (.link z id (.receive m succeeds))).ended = x.ended ++
      (x.calls.find? m.sequence).toList.map fun i =>
        ⟨i, i.completed serializers x.world.sessions z m⟩ := by
  have here : x.world.board.peers.link? id = some l := there
  have events : x.world.board.callEvents z id (.receive m succeeds) = [.complete z m] := by
    simp [Board.callEvents, here, running, answers.1, answers.2]
  constructor
  · simp only [step, calls, World.calls]
    rw [x.world.board.desk_step serializers, events]
    exact Desk.finish_pending _ _ _
  · simp only [step]
    rw [events]
    simp [Desk.endsAll, Desk.ends, Desk.endsOf]
    rfl

/-- A frame that answers no call leaves the calls alone. -/
theorem receive_other {m : Message} (other : ¬ Answers m) (z : Serializer) (id : LinkId)
    (succeeds : Bool) :
    (x.step serializers (.link z id (.receive m succeeds))).calls.pending = x.calls.pending ∧
    (x.step serializers (.link z id (.receive m succeeds))).ended = x.ended := by
  have events : x.world.board.callEvents z id (.receive m succeeds) = [] := by
    unfold Board.callEvents
    split
    · rfl
    · split
      · rename_i same
        cases same
        exact if_neg other
      · rename_i same
        cases same
      · rfl
  constructor
  · simp only [step, calls, World.calls]
    rw [x.world.board.desk_step serializers, events]
    rfl
  · simp only [step]
    rw [events]
    exact List.append_nil _

/-- A frame ends the call that is out under its number, if it is a response with a number, and
nothing else. A response ends calls of its own link only, and leaves those of other links in the
table, exactly if its link took a request under its number or nothing is out under it. -/
theorem response_own_iff {serializers : Serializers} (run : Run serializers x) {id : LinkId} {l : Link}
    (there : x.world.peers.link? id = some l) (running : l.phase = .running) (z : Serializer)
    (m : Message) (succeeds : Bool) :
    ∃ y, x.step serializers (.link z id (.receive m succeeds)) = y ∧
    (¬ Answers m → y.calls.pending = x.calls.pending ∧ y.ended = x.ended) ∧
    (Answers m →
      y.calls.pending = x.calls.pending.filter (·.sequence != m.sequence) ∧
      y.ended = x.ended ++ (x.calls.find? m.sequence).toList.map (fun i =>
        ⟨i, i.completed serializers x.world.sessions z m⟩) ∧
      (x.OwnOnly y id ↔ x.Asked id m.sequence ∨ x.calls.find? m.sequence = none)) := by
  have kept := kept_of_run run
  refine ⟨_, rfl, fun other => receive_other serializers other z id succeeds, fun answers => ?_⟩
  obtain ⟨pending, ended⟩ := receive_answer serializers answers there running z succeeds
  refine ⟨pending, ended, ?_⟩
  rw [OwnOnly, pending, ended, List.drop_left]
  constructor
  · rintro ⟨own, -⟩
    cases found : x.calls.find? m.sequence with
    | none => exact .inr rfl
    | some i =>
      have took := own ⟨i, i.completed serializers x.world.sessions z m⟩ (by simp [found])
      exact .inl ⟨i, took, Invocations.sequence_of_find? found⟩
  · intro condition
    constructor
    · intro e listed
      obtain ⟨i, found, rfl⟩ := List.mem_map.mp listed
      rw [Option.mem_toList] at found
      rcases condition with ⟨j, took, number⟩ | none
      · obtain ⟨other, also⟩ := kept.took_of_out (List.mem_of_find?_eq_some found)
        have same := number.trans (Invocations.sequence_of_find? found).symm
        obtain ⟨-, rfl⟩ := kept.took_once took also same
        exact took
      · cases none.symm.trans found
    · intro other i also differ out
      refine List.mem_filter.mpr ⟨out, ?_⟩
      rw [bne_iff_ne]
      intro same
      rcases condition with ⟨j, took, number⟩ | none
      · exact differ (kept.took_once also took (same.trans number.symm)).1
      · rw [← same, Invocations.find?_of_mem kept.unique out] at none
        cases none

/-- The first peer answers the first call; the second peer has asked for nothing under that
number. -/
def answer : Message := .response .internal 1 ⟨10, 3⟩ []

theorem response_own_iff_asked : asked.calls.pending.map (·.sequence) = [1, 2] ∧
    ∃ y, asked.step .standard (.link .json ⟨0⟩ (.receive answer true)) = y ∧
      y.calls.pending.map (·.sequence) = [2] ∧ asked.OwnOnly y ⟨0⟩ := by
  have there : asked.world.peers.link? ⟨0⟩ = some _ := rfl
  obtain ⟨y, same, -, effect⟩ := response_own_iff asked_run there rfl .json answer true
  obtain ⟨pending, -, own⟩ := effect (by decide)
  refine ⟨rfl, y, same, ?_, own.mpr (.inl ?_)⟩
  · rw [pending]
    rfl
  · exact ⟨_, List.mem_cons_self, rfl⟩

/-- A response on the second link ends the call that went out on the first one. -/
theorem foreign_response_ends_call : Run .standard asked ∧ ∃ i y,
    asked.Took ⟨0⟩ i ∧ ¬ asked.Took ⟨1⟩ i ∧ i ∈ asked.calls.pending ∧
    asked.step .standard (.link .json ⟨1⟩ (.receive answer true)) = y ∧
    i ∉ y.calls.pending ∧ y.calls.result? 1 = some (.ok answer) := by
  refine ⟨asked_run, _, _, List.mem_cons_self, ?_, List.mem_cons_self, rfl, ?_, rfl⟩
  · decide
  · decide

end Traffic
end ClusterWire
