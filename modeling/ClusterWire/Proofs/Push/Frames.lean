import ClusterWire.Proofs.Invocation.Series
import ClusterWire.Push

/-! What a push puts into the queues of sessions. Whether it ends well or not, that is responses
under the number 0, and nothing else. -/
namespace ClusterWire

/-- A response that answers no call. -/
def Message.Pushed (m : Message) : Prop := m.kind = .response ∧ m.sequence = 0

namespace Push

/-- What waits for sessions then is what waited for them before, and pushes. -/
def Adds (t u : Sessions) : Prop := ∀ id, ∀ m ∈ u.queueOf id, m ∈ t.queueOf id ∨ m.Pushed

variable {serializers : Serializers} {protocol : ProtocolId} {value : Json} {t u : Sessions}

theorem Adds.send (adds : Adds t u) {m : Message} (pushed : m.Pushed) (id : SessionId) :
    Adds t (u.send id m).1 := by
  intro other waiting held
  have after := Sessions.session?_modify u id other (f := (·.send m)) (fun s => s.id_send m)
  have before := adds other waiting
  unfold Sessions.queueOf at held before
  rw [Sessions.send, after] at held
  cases known : u.session? other with
  | none =>
    rw [known] at held
    cases held
  | some s =>
    rw [known] at held before
    by_cases own : s.id = id
    · simp only [Option.map_some, own, if_true, Session.queue_send] at held
      split at held
      · rcases List.mem_append.mp held with old | new
        · exact before old
        · cases List.mem_singleton.mp new
          exact .inr pushed
      · exact before held
    · simp only [Option.map_some, own, if_false] at held
      exact before held

theorem pushed_of_frame {s : Session} {m : Message}
    (made : frame serializers protocol s value = .ok m) : m.Pushed := by
  unfold frame at made
  split at made
  · cases made
    exact ⟨rfl, rfl⟩
  · cases made

/-- The state that a walk comes to, or the one that its fault was found in. -/
def Ends {β ε : Type} (holds : β → Prop) (failed : ε → Prop) : Except ε β → Prop
  | .ok state => holds state
  | .error fault => failed fault

theorem foldlM_ends {α β ε : Type} {step : β → α → Except ε β} {holds : β → Prop}
    {failed : ε → Prop} (keeps : ∀ state x, holds state → Ends holds failed (step state x))
    (xs : List α) {state : β} (start : holds state) :
    Ends holds failed (xs.foldlM step state) := by
  induction xs generalizing state with
  | nil => exact start
  | cons x rest ih =>
    have first := keeps state x start
    rw [List.foldlM_cons]
    cases next : step state x with
    | ok state =>
      rw [next] at first
      exact ih first
    | error fault =>
      rw [next] at first
      exact first

namespace Fanout

variable {f : Fanout}

/-- Wherever a push to many stands, it has added nothing but pushes. -/
def Keeps (t : Sessions) : Except (PushFault × Fanout) Fanout → Prop :=
  Ends (fun f => Adds t f.sessions) fun x => Adds t x.2.sessions

theorem adds_offer (adds : Adds t f.sessions) {m : Message} (pushed : m.Pushed) (id : SessionId)
    (identities : List Int64) : Adds t (f.offer id m identities).sessions := by
  unfold offer
  dsimp only
  split
  · exact adds.send pushed id
  · exact adds.send pushed id

theorem keeps_visit (adds : Adds t f.sessions) (i : Int64) :
    Keeps t (f.visit serializers protocol value i) := by
  unfold visit
  split
  · exact adds
  · split
    · exact adds
    · split
      · exact adds
      · dsimp only
        split
        · refine adds_offer ?_ ⟨rfl, rfl⟩ _ _
          exact adds
        · exact adds

theorem keeps_visitLink (adds : Adds t f.sessions) (link : SessionId × List Int64) :
    Keeps t (f.visitLink serializers protocol value link) := by
  unfold visitLink
  split
  · exact adds
  · split
    · rename_i made
      exact adds_offer adds (pushed_of_frame made) _ _
    · exact adds

end Fanout

namespace Broadcast

/-- Wherever a push to everyone stands, it has added nothing but pushes. -/
theorem keeps_visit {b : Broadcast} (adds : Adds t b.sessions) (id : SessionId) :
    Ends (fun b => Adds t b.sessions) (fun x => Adds t x.2.sessions)
      (b.visit serializers protocol value id) := by
  unfold visit
  split
  · exact adds
  · split
    · exact adds
    · split
      · split
        · rename_i made
          exact adds.send (pushed_of_frame made) _
        · exact adds
      · split
        · exact adds.send ⟨rfl, rfl⟩ _
        · exact adds

end Broadcast

theorem adds_refl (t : Sessions) : Adds t t := fun _ _ held => .inl held

/-- What every step of both walks of a push to many keeps holds where the push ends, or of the
fault that it ends with. -/
theorem many_ends (holds : Fanout → Prop) (failed : PushFault × Fanout → Prop)
    (push : protocol.isPush = true) (start : holds { sessions := t })
    (visits : ∀ f i, holds f → Ends holds failed (f.visit serializers protocol value i))
    (tours : ∀ f link, holds f → Ends holds failed (f.visitLink serializers protocol value link))
    (identities : List Int64) :
    (∃ f report, holds f ∧
      many serializers t identities protocol value = (f.sessions, .ok report)) ∨
    ∃ fault f, failed (fault, f) ∧
      many serializers t identities protocol value = (f.sessions, .error fault) := by
  have visited := foldlM_ends visits identities start
  simp only [many, push, Bool.not_true, Bool.false_eq_true, if_false, bind, Except.bind]
  cases walk : identities.foldlM (Fanout.visit serializers protocol value) { sessions := t } with
  | error fault =>
    rw [walk] at visited
    exact .inr ⟨fault.1, fault.2, visited, rfl⟩
  | ok f =>
    rw [walk] at visited
    have toured := foldlM_ends tours f.links visited
    dsimp only
    cases tour : f.links.foldlM (Fanout.visitLink serializers protocol value) f with
    | error fault =>
      rw [tour] at toured
      exact .inr ⟨fault.1, fault.2, toured, rfl⟩
    | ok g =>
      rw [tour] at toured
      exact .inl ⟨g, _, toured, rfl⟩

variable (serializers : Serializers) (t : Sessions) (protocol : ProtocolId) (value : Json)

theorem adds_many (identities : List Int64) :
    Adds t (many serializers t identities protocol value).1 := by
  cases push : protocol.isPush with
  | false =>
    unfold many
    rw [push]
    exact adds_refl t
  | true =>
    rcases many_ends (fun f => Adds t f.sessions) (fun x => Adds t x.2.sessions) push (adds_refl t)
        (fun _ i adds => Fanout.keeps_visit adds i)
        (fun _ link adds => Fanout.keeps_visitLink adds link) identities with
      ⟨f, report, adds, ended⟩ | ⟨fault, f, adds, ended⟩ <;> rw [ended] <;> exact adds

theorem adds_one (identity : Int64) : Adds t (one serializers t identity protocol value).1 :=
  adds_many serializers t protocol value [identity]

theorem adds_broadcast (order : List SessionId) :
    Adds t (broadcast serializers t order protocol value).1 := by
  have walked : Ends (fun b => Adds t b.sessions) (fun x => Adds t x.2.sessions)
      (order.foldlM (Broadcast.visit serializers protocol value) { sessions := t }) :=
    foldlM_ends (fun _ id adds => Broadcast.keeps_visit adds id) order (adds_refl t)
  unfold broadcast
  split
  · exact adds_refl t
  · cases walk : order.foldlM (Broadcast.visit serializers protocol value) { sessions := t } with
    | error fault =>
      rw [walk] at walked
      exact walked
    | ok b =>
      rw [walk] at walked
      exact walked

end Push
end ClusterWire
