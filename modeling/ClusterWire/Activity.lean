import ClusterWire.SocketAddress

/-! Work that may pause. An activity changes a shared state in steps; between
two pauses nothing else happens, and while it pauses anything may. -/
namespace ClusterWire

inductive Panic where
  | text (s : String)
  | other
deriving DecidableEq, Repr

def Panic.message : Panic → String
  | text s => s
  | other => "non-string panic payload"

inductive Activity (σ : Type) (α : Type) : Type where
  | finish (value : α)
  | crash (panic : Panic)
  /-- Changes the state and goes on with what it was before. -/
  | act (change : σ → σ) (next : σ → Activity σ α)
  | pause (milliseconds : Nat) (next : Activity σ α)
  /-- Waits for a connection; a reason says why there is none. -/
  | connect (address : SocketAddress) (next : Option String → Activity σ α)

namespace Activity

variable {σ α β : Type}

def bind : Activity σ α → (α → Activity σ β) → Activity σ β
  | finish v, f => f v
  | crash p, _ => .crash p
  | act change next, f => .act change fun s => (next s).bind f
  | pause ms next, f => .pause ms (next.bind f)
  | connect a next, f => .connect a fun r => (next r).bind f

instance : Monad (Activity σ) where
  pure := .finish
  bind := bind

def look : Activity σ σ := .act id .finish

def update (f : σ → σ × α) : Activity σ α :=
  .act (fun s => (f s).1) fun s => .finish (f s).2

def modify (f : σ → σ) : Activity σ Unit := .act f fun _ => .finish ()

def caught : Activity σ α → Activity σ (Except Panic α)
  | finish v => .finish (.ok v)
  | crash p => .finish (.error p)
  | act change next => .act change fun s => (next s).caught
  | pause ms next => .pause ms next.caught
  | connect a next => .connect a fun r => (next r).caught

/-- Runs up to the end or to a pause, and gives what is left. A pause of no
length is none, nor is a connection attempt whose outcome `reach` knows. -/
def run (reach : SocketAddress → Option (Option String)) : Activity σ α → σ → σ × Activity σ α
  | finish v, s => (s, finish v)
  | crash p, s => (s, crash p)
  | act change next, s => (next s).run reach (change s)
  | pause 0 next, s => next.run reach s
  | pause (n + 1) next, s => (s, pause (n + 1) next)
  | connect a next, s =>
    match reach a with
    | some reason => (next reason).run reach s
    | none => (s, connect a next)

/-- Runs to the end, over all pauses, where `reach` decides about connection
attempts. -/
def conclude (reach : SocketAddress → Option String) : Activity σ α → σ → σ × Except Panic α
  | finish v, s => (s, .ok v)
  | crash p, s => (s, .error p)
  | act change next, s => (next s).conclude reach (change s)
  | pause _ next, s => next.conclude reach s
  | connect a next, s => (next (reach a)).conclude reach s

def resume (reason : Option String) : Activity σ α → Activity σ α
  | pause _ next => next
  | connect _ next => next reason
  | a => a

def isOver : Activity σ α → Bool
  | finish _ | crash _ => true
  | _ => false

@[simp] theorem bind_finish (v : α) (f : α → Activity σ β) : (finish v).bind f = f v := rfl

theorem bind_assoc {γ : Type} (a : Activity σ α) (f : α → Activity σ β) (g : β → Activity σ γ) :
    (a.bind f).bind g = a.bind fun v => (f v).bind g := by
  induction a with
  | finish | crash => rfl
  | act change next ih => simp only [bind, ih]
  | pause ms next ih => simp only [bind, ih]
  | connect a next ih => simp only [bind, ih]

theorem bind_finish_right (a : Activity σ α) : a.bind finish = a := by
  induction a with
  | finish | crash => rfl
  | act change next ih => simp only [bind, ih]
  | pause ms next ih => simp only [bind, ih]
  | connect a next ih => simp only [bind, ih]

instance : LawfulMonad (Activity σ) :=
  .mk' (Activity σ) bind_finish_right (fun _ _ => rfl) bind_assoc

end Activity
end ClusterWire
