import ClusterWire.Message
import ClusterWire.SocketAddress

/-! Live connections and the identities bound to them. Messages for a
connection wait in its session's queue; identities are bound after login, and a
link between servers may carry many of them. -/
namespace ClusterWire

structure SessionId where
  number : Nat
deriving DecidableEq, Repr

def SessionId.text (id : SessionId) : String := s!"session-{id.number}"

def SessionId.closedMessage (id : SessionId) : String := s!"{id.text} is closed"

/-- One connection. `listening` says whether the reader of its queue is still
there. -/
structure Session where
  id : SessionId
  remote : SocketAddress
  family : Family
  serializeType : UInt8
  identities : List Int64 := []
  closed : Bool := false
  listening : Bool := true
  queue : List Message := []
deriving DecidableEq, Repr

namespace Session

def primary? (s : Session) : Option Int64 := s.identities.head?

def addIdentity (s : Session) (identity : Int64) : Session :=
  if identity ∈ s.identities then s else { s with identities := s.identities ++ [identity] }

def removeIdentity (s : Session) (identity : Int64) : Session :=
  { s with identities := s.identities.filter (· != identity) }

def close (s : Session) : Session := { s with closed := true }

def accepts (s : Session) : Bool := !s.closed && s.listening

/-- Offers a message. A session whose queue nobody reads closes at the first
offer. -/
def send (s : Session) (m : Message) : Session :=
  if s.accepts then { s with queue := s.queue ++ [m] } else s.close

@[simp] theorem accepts_close (s : Session) : s.close.accepts = false := by
  simp [close, accepts]

theorem queue_send (s : Session) (m : Message) :
    (s.send m).queue = if s.accepts then s.queue ++ [m] else s.queue := by
  unfold send
  split <;> rfl

@[simp] theorem id_send (s : Session) (m : Message) : (s.send m).id = s.id := by
  unfold send
  split <;> rfl

@[simp] theorem family_send (s : Session) (m : Message) : (s.send m).family = s.family := by
  unfold send
  split <;> rfl

@[simp] theorem id_addIdentity (s : Session) (i : Int64) : (s.addIdentity i).id = s.id := by
  unfold addIdentity
  split <;> rfl

end Session

/-- Every session ever opened, by increasing number; which of them are still
tracked; and the session that each identity is bound to. -/
structure Sessions where
  all : List Session
  tracked : List SessionId
  bound : List (Int64 × SessionId)
deriving DecidableEq, Repr, Inhabited

namespace Sessions

def empty : Sessions := ⟨[], [], []⟩

def session? (t : Sessions) (id : SessionId) : Option Session :=
  t.all.find? (·.id == id)

def get? (t : Sessions) (id : SessionId) : Option Session :=
  if id ∈ t.tracked then t.session? id else none

def modify (t : Sessions) (id : SessionId) (f : Session → Session) : Sessions :=
  { t with all := t.all.map fun s => if s.id = id then f s else s }

theorem session?_modify (t : Sessions) (id other : SessionId) {f : Session → Session}
    (keeps : ∀ s, (f s).id = s.id) :
    (t.modify id f).session? other =
      (t.session? other).map fun s => if s.id = id then f s else s := by
  unfold session? modify
  induction t.all with
  | nil => rfl
  | cons s rest ih =>
    have same : (if s.id = id then f s else s).id = s.id := by
      split
      · exact keeps s
      · rfl
    simp only [List.map_cons, List.find?_cons, same]
    cases s.id == other with
    | true => rfl
    | false => exact ih

/-- Opens a session under the next number, which counts from 1. -/
def create (t : Sessions) (remote : SocketAddress) (family : Family) (type : UInt8) :
    Sessions × SessionId :=
  let id : SessionId := ⟨t.all.length + 1⟩
  ({ t with all := t.all ++ [⟨id, remote, family, type, [], false, true, []⟩]
            tracked := t.tracked ++ [id] }, id)

def resolve (t : Sessions) (identity : Int64) : Option SessionId := t.bound.lookup identity

def unbind (t : Sessions) (identity : Int64) : Sessions :=
  { t with bound := t.bound.filter (·.1 != identity) }

/-- Binds an identity, taking it off the session it was bound to. Identities
up to 0 cannot be bound. -/
def bind (t : Sessions) (identity : Int64) (id : SessionId) : Sessions × Bool :=
  if identity ≤ 0 then (t, false)
  else
    let moved := match t.resolve identity with
      | some previous =>
        if previous = id then t else t.modify previous (·.removeIdentity identity)
      | none => t
    let t := moved.unbind identity
    ({ t with bound := t.bound ++ [(identity, id)] }.modify id (·.addIdentity identity), true)

def release (t : Sessions) (identity : Int64) (id : SessionId) : Sessions × Bool :=
  if t.resolve identity = some id then
    ((t.unbind identity).modify id (·.removeIdentity identity), true)
  else (t, false)

def identitiesOf (t : Sessions) (id : SessionId) : List Int64 :=
  ((t.session? id).map (·.identities)).getD []

/-- Forgets a session, closes it and releases its identities; gives those that
were still bound to it. -/
def disconnect (t : Sessions) (id : SessionId) : Sessions × List Int64 :=
  let released := (t.identitiesOf id).filter fun i => t.resolve i == some id
  ({ t with tracked := t.tracked.filter (· != id)
            bound := t.bound.filter fun b => !released.contains b.1 }.modify id
      fun s => { s with identities := [], closed := true }, released)

def close (t : Sessions) (id : SessionId) : Sessions := t.modify id (·.close)

/-- Drops the reader of a session's queue. -/
def hangUp (t : Sessions) (id : SessionId) : Sessions :=
  t.modify id fun s => { s with listening := false }

def setType (t : Sessions) (id : SessionId) (type : UInt8) : Sessions :=
  t.modify id fun s => { s with serializeType := type }

def accepts (t : Sessions) (id : SessionId) : Bool :=
  ((t.session? id).map (·.accepts)).getD false

def send (t : Sessions) (id : SessionId) (m : Message) : Sessions × Bool :=
  (t.modify id (·.send m), t.accepts id)

def drain (t : Sessions) : Sessions × List (Session × List Message) :=
  ({ t with all := t.all.map fun s => { s with queue := [] } },
   (t.all.filter (!·.queue.isEmpty)).map fun s => (s, s.queue))

end Sessions
end ClusterWire
