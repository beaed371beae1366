import ClusterWire.Proofs.Activity

/-! Two activities side by side. They do the same, step by step, but for a margin: that is what
their states may differ by, and the reasons why there is no connection. Their ends differ as is
said for them, and their panics carry whatever they like. -/
namespace ClusterWire

/-- Both ended well, or both badly, with things that match. -/
inductive Paired {ε δ α β : Type} (fails : ε → δ → Prop) (ends : α → β → Prop) :
    Except ε α → Except δ β → Prop where
  | ok {v : α} {w : β} (same : ends v w) : Paired fails ends (.ok v) (.ok w)
  | error {e : ε} {f : δ} (same : fails e f) : Paired fails ends (.error e) (.error f)

/-- What two runs may differ by. -/
structure Margin (σ : Type) where
  near : σ → σ → Prop
  reasons : Option String → Option String → Prop

/-- No difference at all. -/
def Margin.none (σ : Type) : Margin σ := ⟨Eq, Eq⟩

namespace Activity

variable {σ α β γ δ : Type} {margin : Margin σ}

inductive Like (margin : Margin σ) (ends : α → β → Prop) : Activity σ α → Activity σ β → Prop where
  | finish {v : α} {w : β} (same : ends v w) : Like margin ends (.finish v) (.finish w)
  | crash (p q : Panic) : Like margin ends (.crash p) (.crash q)
  | act {change other : σ → σ} {next : σ → Activity σ α} {beside : σ → Activity σ β}
      (changes : ∀ s t, margin.near s t → margin.near (change s) (other t))
      (rest : ∀ s t, margin.near s t → Like margin ends (next s) (beside t)) :
      Like margin ends (.act change next) (.act other beside)
  | pause (ms : Nat) {next : Activity σ α} {beside : Activity σ β}
      (rest : Like margin ends next beside) : Like margin ends (.pause ms next) (.pause ms beside)
  | connect (address : SocketAddress) {next : Option String → Activity σ α}
      {beside : Option String → Activity σ β}
      (rest : ∀ reason other, margin.reasons reason other →
        Like margin ends (next reason) (beside other)) :
      Like margin ends (.connect address next) (.connect address beside)

/-- Without a margin an activity is like itself. -/
theorem like_self (a : Activity σ α) : Like (.none σ) Eq a a := by
  induction a with
  | finish v => exact .finish rfl
  | crash p => exact .crash p p
  | act change next ih => exact .act (fun _ _ same => congrArg change same) fun s _ same => same ▸ ih s
  | pause ms next ih => exact .pause ms ih
  | connect address next ih => exact .connect address fun reason _ same => same ▸ ih reason

theorem Like.imp {ends weaker : α → β → Prop} (weakens : ∀ v w, ends v w → weaker v w)
    {a : Activity σ α} {b : Activity σ β} (like : Like margin ends a b) : Like margin weaker a b := by
  induction like with
  | finish same => exact .finish (weakens _ _ same)
  | crash p q => exact .crash p q
  | act changes _ ih => exact .act changes ih
  | pause ms _ ih => exact .pause ms ih
  | connect address _ ih => exact .connect address ih

theorem Like.bind {mid : α → β → Prop} {ends : γ → δ → Prop} {a : Activity σ α} {b : Activity σ β}
    {f : α → Activity σ γ} {g : β → Activity σ δ} (first : Like margin mid a b)
    (behind : ∀ v w, mid v w → Like margin ends (f v) (g w)) :
    Like margin ends (a.bind f) (b.bind g) := by
  induction first with
  | finish same => exact behind _ _ same
  | crash p q => exact .crash p q
  | act changes _ ih => exact .act changes ih
  | pause ms _ ih => exact .pause ms ih
  | connect address _ ih => exact .connect address ih

/-- Panics that are caught match, whatever they carry. -/
theorem Like.caught {ends : α → β → Prop} {a : Activity σ α} {b : Activity σ β}
    (like : Like margin ends a b) :
    Like margin (Paired (fun _ _ => True) ends) a.caught b.caught := by
  induction like with
  | finish same => exact .finish (.ok same)
  | crash p q => exact .finish (.error trivial)
  | act changes _ ih => exact .act changes ih
  | pause ms _ ih => exact .pause ms ih
  | connect address _ ih => exact .connect address ih

theorem like_update (margin : Margin σ) {ends : α → β → Prop} {f : σ → σ × α} {g : σ → σ × β}
    (same : ∀ s t, margin.near s t → margin.near (f s).1 (g t).1 ∧ ends (f s).2 (g t).2) :
    Like margin ends (Activity.update f) (Activity.update g) :=
  .act (fun s t near => (same s t near).1) fun s t near => .finish (same s t near).2

theorem like_look : Like margin margin.near look look :=
  .act (fun _ _ near => near) fun _ _ near => .finish near

/-- Matching activities still match after a step each. -/
theorem Like.tick {ends : α → β → Prop} {a : Activity σ α} {b : Activity σ β}
    (like : Like margin ends a b) {s t : σ} (near : margin.near s t) {reason other : Option String}
    (same : margin.reasons reason other) :
    margin.near (a.tick reason s).1 (b.tick other t).1 ∧
    Like margin ends (a.tick reason s).2 (b.tick other t).2 := by
  cases like with
  | finish ends => exact ⟨near, .finish ends⟩
  | crash p q => exact ⟨near, .crash p q⟩
  | act changes rest => exact ⟨changes s t near, rest s t near⟩
  | pause ms rest => exact ⟨near, rest⟩
  | connect address rest => exact ⟨near, rest reason other same⟩

end Activity
end ClusterWire
