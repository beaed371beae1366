import ClusterWire.Activity

/-! Runs of activities among others. While an activity pauses the state may
become any other; a run lists what it found when it went on. -/
namespace ClusterWire
namespace Activity

variable {σ α β : Type} {stays : σ → Prop}

/-- What an activity finds behind a pause: the outcome of a connection attempt,
and the state. -/
abbrev Found (σ : Type) := Option String × σ

/-- A run from one state to another, and how it ends. What `stays` holds all
along. -/
inductive Runs (stays : σ → Prop) : Activity σ α → σ → List (Found σ) → σ → Except Panic α → Prop where
  | finish {v : α} {s : σ} (held : stays s) : Runs stays (.finish v) s [] s (.ok v)
  | crash {p : Panic} {s : σ} (held : stays s) : Runs stays (.crash p) s [] s (.error p)
  | act {change : σ → σ} {next : σ → Activity σ α} {s t : σ} {found : List (Found σ)}
      {r : Except Panic α} (held : stays s) (rest : Runs stays (next s) (change s) found t r) :
      Runs stays (.act change next) s found t r
  | pause {ms : Nat} {next : Activity σ α} {s u t : σ} {reason : Option String}
      {found : List (Found σ)} {r : Except Panic α} (held : stays s)
      (rest : Runs stays next u found t r) : Runs stays (.pause ms next) s ((reason, u) :: found) t r
  | connect {address : SocketAddress} {next : Option String → Activity σ α} {s u t : σ}
      {reason : Option String} {found : List (Found σ)} {r : Except Panic α} (held : stays s)
      (rest : Runs stays (next reason) u found t r) :
      Runs stays (.connect address next) s ((reason, u) :: found) t r

namespace Runs

variable {a : Activity σ α} {s t u : σ} {found : List (Found σ)} {r : Except Panic α}

theorem start (run : Runs stays a s found t r) : stays s := by
  cases run <;> assumption

theorem stop (run : Runs stays a s found t r) : stays t := by
  induction run with
  | finish held | crash held => exact held
  | act _ _ ih | pause _ _ ih | connect _ _ ih => exact ih

theorem imp {other : σ → Prop} (weaker : ∀ s, stays s → other s)
    (run : Runs stays a s found t r) : Runs other a s found t r := by
  induction run with
  | finish held => exact .finish (weaker _ held)
  | crash held => exact .crash (weaker _ held)
  | act held _ ih => exact .act (weaker _ held) ih
  | pause held _ ih => exact .pause (weaker _ held) ih
  | connect held _ ih => exact .connect (weaker _ held) ih

theorem unique {t' : σ} {r' : Except Panic α} (run : Runs stays a s found t r)
    (other : Runs stays a s found t' r') : t = t' ∧ r = r' := by
  induction run with
  | finish held => cases other; exact ⟨rfl, rfl⟩
  | crash held => cases other; exact ⟨rfl, rfl⟩
  | act _ _ ih => cases other with | act _ rest => exact ih rest
  | pause _ _ ih => cases other with | pause _ rest => exact ih rest
  | connect _ _ ih => cases other with | connect _ rest => exact ih rest

end Runs

theorem exists_runs (a : Activity σ α) (s : σ) :
    ∃ found t r, Runs (fun _ => True) a s found t r := by
  induction a generalizing s with
  | finish v => exact ⟨[], s, .ok v, .finish trivial⟩
  | crash p => exact ⟨[], s, .error p, .crash trivial⟩
  | act change next ih =>
    obtain ⟨found, t, r, run⟩ := ih s (change s)
    exact ⟨found, t, r, .act trivial run⟩
  | pause ms next ih =>
    obtain ⟨found, t, r, run⟩ := ih s
    exact ⟨(none, s) :: found, t, r, .pause trivial run⟩
  | connect address next ih =>
    obtain ⟨found, t, r, run⟩ := ih none s
    exact ⟨(none, s) :: found, t, r, .connect trivial run⟩

/-- An activity behind another starts where the first one has finished, unless
that one crashes. -/
theorem runs_bind {a : Activity σ α} {f : α → Activity σ β} {s t : σ} {found : List (Found σ)}
    {r : Except Panic β} :
    Runs stays (a.bind f) s found t r ↔
      (∃ p, r = .error p ∧ Runs stays a s found t (.error p)) ∨
      ∃ front back u v, found = front ++ back ∧ Runs stays a s front u (.ok v) ∧
        Runs stays (f v) u back t r := by
  constructor
  · intro run
    induction a generalizing s found with
    | finish v => exact .inr ⟨[], found, s, v, rfl, .finish run.start, run⟩
    | crash p =>
      cases run with
      | crash held => exact .inl ⟨p, rfl, .crash held⟩
    | act change next ih =>
      cases run with
      | act held rest =>
        rcases ih s rest with ⟨p, same, run⟩ | ⟨front, back, u, v, split, run, behind⟩
        · exact .inl ⟨p, same, .act held run⟩
        · exact .inr ⟨front, back, u, v, split, .act held run, behind⟩
    | pause ms next ih =>
      cases run with
      | pause held rest =>
        rcases ih rest with ⟨p, same, run⟩ | ⟨front, back, u, v, split, run, behind⟩
        · exact .inl ⟨p, same, .pause held run⟩
        · exact .inr ⟨_ :: front, back, u, v, congrArg _ split, .pause held run, behind⟩
    | connect address next ih =>
      cases run with
      | @connect _ _ _ _ _ reason _ _ held rest =>
        rcases ih reason rest with ⟨p, same, run⟩ | ⟨front, back, u, v, split, run, behind⟩
        · exact .inl ⟨p, same, .connect held run⟩
        · exact .inr ⟨_ :: front, back, u, v, congrArg _ split, .connect held run, behind⟩
  · rintro (⟨p, rfl, run⟩ | ⟨front, back, u, v, rfl, run, behind⟩)
    · generalize crashed : (Except.error p : Except Panic α) = r at run
      induction run with
      | finish held => cases crashed
      | crash held => cases crashed; exact .crash held
      | act held _ ih => exact .act held (ih crashed)
      | pause held _ ih => exact .pause held (ih crashed)
      | connect held _ ih => exact .connect held (ih crashed)
    · generalize finished : (Except.ok v : Except Panic α) = r' at run
      induction run with
      | finish held => cases finished; exact behind
      | crash held => cases finished
      | act held _ ih => exact .act held (ih behind finished)
      | pause held _ ih => exact .pause held (ih behind finished)
      | connect held _ ih => exact .connect held (ih behind finished)

theorem runs_caught {a : Activity σ α} {s t : σ} {found : List (Found σ)}
    {r : Except Panic (Except Panic α)} :
    Runs stays a.caught s found t r ↔ ∃ outcome, r = .ok outcome ∧ Runs stays a s found t outcome := by
  constructor
  · intro run
    induction a generalizing s found with
    | finish v => cases run with | finish held => exact ⟨_, rfl, .finish held⟩
    | crash p => cases run with | finish held => exact ⟨_, rfl, .crash held⟩
    | act change next ih =>
      cases run with
      | act held rest =>
        obtain ⟨outcome, same, run⟩ := ih s rest
        exact ⟨outcome, same, .act held run⟩
    | pause ms next ih =>
      cases run with
      | pause held rest =>
        obtain ⟨outcome, same, run⟩ := ih rest
        exact ⟨outcome, same, .pause held run⟩
    | connect address next ih =>
      cases run with
      | @connect _ _ _ _ _ reason _ _ held rest =>
        obtain ⟨outcome, same, run⟩ := ih reason rest
        exact ⟨outcome, same, .connect held run⟩
  · rintro ⟨outcome, rfl, run⟩
    induction run with
    | finish held | crash held => exact .finish held
    | act held _ ih => exact .act held ih
    | pause held _ ih => exact .pause held ih
    | connect held _ ih => exact .connect held ih

/-- One step of an activity. `reason` is the outcome of the connection attempt, if it
waits for one. -/
def tick (reason : Option String) : Activity σ α → σ → σ × Activity σ α
  | finish v, s => (s, .finish v)
  | crash p, s => (s, .crash p)
  | act change next, s => (change s, next s)
  | pause _ next, s => (s, next)
  | connect _ next, s => (s, next reason)

theorem tick_bind {a : Activity σ α} (going : a.isOver = false) (f : α → Activity σ β)
    (reason : Option String) (s : σ) :
    (a.bind f).tick reason s = ((a.tick reason s).1, (a.tick reason s).2.bind f) := by
  cases a with
  | finish | crash => cases going
  | act | pause | connect => rfl

/-- What an activity gives may be changed behind it. -/
theorem tick_map (f : α → β) (a : Activity σ α) (reason : Option String) (s : σ) :
    (f <$> a).tick reason s = ((a.tick reason s).1, f <$> (a.tick reason s).2) := by
  cases a <;> rfl

/-- An activity that has not ended. -/
abbrev Pending (σ α : Type) := { a : Activity σ α // a.isOver = false }

inductive Status (σ α : Type) where
  | ended (outcome : Except Panic α)
  | pending (a : Pending σ α)

def status : Activity σ α → Status σ α
  | finish v => .ended (.ok v)
  | crash p => .ended (.error p)
  | act change next => .pending ⟨.act change next, rfl⟩
  | pause ms next => .pending ⟨.pause ms next, rfl⟩
  | connect address next => .pending ⟨.connect address next, rfl⟩

theorem isOver_bind {a : Activity σ α} (going : a.isOver = false) (f : α → Activity σ β) :
    (a.bind f).isOver = false := by
  cases a with
  | finish | crash => cases going
  | act | pause | connect => rfl

theorem isOver_caught (a : Activity σ α) : a.caught.isOver = a.isOver := by
  cases a <;> rfl

theorem tick_caught {a : Activity σ α} (going : a.isOver = false) (reason : Option String) (s : σ) :
    a.caught.tick reason s = ((a.tick reason s).1, (a.tick reason s).2.caught) := by
  cases a with
  | finish | crash => cases going
  | act | pause | connect => rfl

def Safe (a : Activity σ α) : Prop :=
  ∀ s found t p, ¬ Runs (fun _ => True) a s found t (.error p)

end Activity
end ClusterWire
