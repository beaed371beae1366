import ClusterWire.Proofs.Relay.Answers
import ClusterWire.Proofs.Transcoding

/-! What a relayed request says. From the moment at which its session is looked up until it
is queued on a link it speaks for the identity it runs for, names the address of its caller,
and stands for the value that the caller sent. -/
namespace ClusterWire

namespace Sessions

variable {t : Sessions} {id : SessionId} {s : Session}

/-- The session is there, at the address, in the family and under the serializer of `s`. -/
def Keeps (t : Sessions) (id : SessionId) (s : Session) : Prop :=
  ∃ u, t.session? id = some u ∧ u.remote = s.remote ∧ u.family = s.family ∧
    u.serializeType = s.serializeType

theorem keeps_send (keeps : t.Keeps id s) (other : SessionId) (m : Message) :
    (t.send other m).1.Keeps id s := by
  obtain ⟨u, known, remote, family, type⟩ := keeps
  have after := session?_modify t other id (f := (·.send m)) (fun u => u.id_send m)
  rw [known, Option.map_some] at after
  refine ⟨_, after, ?_⟩
  split
  · unfold Session.send
    split <;> exact ⟨remote, family, type⟩
  · exact ⟨remote, family, type⟩

theorem keeps_sends (keeps : t.Keeps id s) (other : SessionId) (new : List Message) :
    (new.foldl (fun t m => (t.send other m).1) t).Keeps id s := by
  induction new generalizing t with
  | nil => exact keeps
  | cons m rest ih => exact ih (keeps_send keeps other m)

end Sessions

theorem Desk.Moves.keeps {d e : Desk} {added : List Invocation} {ended : List Ended}
    (moves : d.Moves added ended e) {id : SessionId} {s : Session} (keeps : d.sessions.Keeps id s) :
    e.sessions.Keeps id s := by
  rw [moves.sessions]
  clear moves
  generalize d.sessions = t at keeps
  induction ended generalizing t with
  | nil => exact keeps
  | cons x rest ih =>
    have first : (x.ending.tell t).Keeps id s := by
      cases x.ending with
      | sent other m => exact Sessions.keeps_send keeps other m
      | filled | silent => exact keeps
    exact ih _ first

namespace Dispatch

/-- The parcel asks for a protocol on behalf of an identity, names where it comes from, and
stands for a value at the peer. -/
def Parcel.Asks (p : Parcel) (link : Serializer) (protocol : ProtocolId) (identity : Int64)
    (origin : String) (v : Json) : Prop :=
  ∃ sequence body, p.request = .peerRequest sequence protocol identity (some origin) body ∧
    link.decode body = .ok v

namespace Relay

variable {d : Dispatcher} {r : Relay} {client : SessionId} {s : Session} {c : Serializer} {v : Json}

namespace Errand

/-- What a request has found out stands for the value that its caller sent. -/
def Carries (r : Relay) (s : Session) (v : Json) (e : Errand) : Prop :=
  match e.stage with
  | .entering _ t body => t.remote = s.remote ∧ r.settings.link.decode body = .ok v
  | .seeking p | .connecting p | .opening p _ | .posting p _ =>
    p.Asks r.settings.link e.message.protocol e.identity s.remote.text v
  | .answering (.failed (.codec _)) => False
  | _ => True

theorem carries_fresh (id : SessionId) (m : Message) (identity : Int64) :
    (fresh r id m identity).Carries r s v := by
  unfold fresh
  cases r.declared.find? (·.protocol == m.protocol) <;> trivial

theorem asks_enter (e : Errand) (server : ServerInfo) {t : Session} (remote : t.remote = s.remote)
    {body : Bytes} (found : r.settings.link.decode body = .ok v) (w : World) :
    (r.enter server e.session e.message e.ctx t body w).2.Asks r.settings.link e.message.protocol
      e.identity s.remote.text v := by
  unfold enter
  rw [← remote]
  split <;> exact ⟨_, body, rfl, found⟩

theorem openLink_error {w : World} {address : SocketAddress} {reason : Option String}
    {fault : RpcFault} (failed : (w.openLink address reason).2 = .error fault) :
    ∃ why, fault = .connection address.text why := by
  unfold World.openLink at failed
  split at failed
  · cases failed
  · cases failed
    exact ⟨_, rfl⟩
  · cases failed

theorem carries_work {e : Errand} (carries : e.Carries r s v) {w : World}
    (keeps : w.sessions.Keeps e.session s)
    (serializer : r.settings.serializers.find? s.serializeType = some c)
    (sent : c.decode e.message.body = .ok v) (free : v.FloatFree) (reason : Option String) :
    (e.work d r reason w).2.Carries r s v := by
  obtain ⟨id, m, identity, stage⟩ := e
  cases stage with
  | choosing target =>
    simp only [work]
    cases (w.selectPeer target (r.selector _) _).2 with
    | ok server => trivial
    | error fault => cases fault <;> trivial
  | reading server =>
    obtain ⟨u, known, remote, -, type⟩ := keeps
    obtain ⟨body, transcoded, found⟩ := Serializer.transcode_decodes r.settings.link
      (free.lawful (Serializer.orderly_of_decode sent)) sent
    have moved : r.body u m = .ok body := by
      simp only [Relay.body, Serializers.get, type, serializer, bind, Except.bind, transcoded]
    simp only [work, known, Stage.behindLook, moved]
    exact ⟨remote, found⟩
  | entering server t body => exact asks_enter ⟨id, m, identity, _⟩ server carries.1 carries.2 w
  | seeking p =>
    simp only [work]
    cases w.peers.openLink? p.server.address <;> exact carries
  | connecting p => exact carries
  | opening p reason =>
    simp only [work]
    cases opened : (w.openLink p.server.address reason).2 with
    | ok link => exact carries
    | error fault =>
      obtain ⟨why, rfl⟩ := openLink_error opened
      trivial
  | posting p link =>
    have result : (w.post r.settings p.server.address link p.request p.call).2 =
        if w.board.accepts link then .ok () else .error (Board.linkFault p.server.address) :=
      Board.enqueue_result r.settings.serializers w.board _ link _ _
    simp only [work, result]
    cases w.board.accepts link <;> trivial
  | answering outcome => trivial
  | finished | crashed => exact carries

theorem asks_of_parcel {e : Errand} (carries : e.Carries r s v) {p : Parcel}
    (held : e.stage.parcel? = some p) :
    p.Asks r.settings.link e.message.protocol e.identity s.remote.text v := by
  obtain ⟨id, m, identity, stage⟩ := e
  cases stage with
  | seeking | connecting | opening | posting =>
    cases held
    exact carries
  | choosing | reading | entering | answering | finished | crashed => cases held

end Errand

namespace Gateway

/-- A run all along which the client's session is that of `s`. -/
inductive Steady (d : Dispatcher) (r : Relay) (client : SessionId) (s : Session) : Gateway → Prop where
  | start {w : World} (run : Run d r client { world := w }) (keeps : w.sessions.Keeps client s) :
      Steady d r client s { world := w }
  | step {g : Gateway} (move : Move) (steady : Steady d r client s g)
      (admits : g.Admits d r client move)
      (keeps : ∀ w, move = .elsewhere w → w.sessions.Keeps client s) :
      Steady d r client s (g.step d r move)

variable {g : Gateway}

theorem Steady.run (steady : Steady d r client s g) : Run d r client g := by
  induction steady with
  | start run keeps => exact run
  | step move _ admits _ ih => exact ih.step move admits

theorem keeps_behindEvents (sound : g.Sound d r client) (keeps : g.world.sessions.Keeps client s)
    {events : List CallEvent} (heard : ∀ event ∈ events, event.isHeard = true) :
    (g.behindEvents r events).world.sessions.Keeps client s :=
  (Desk.steps_moves r.settings.serializers sound.unique heard).keeps keeps

theorem keeps_step (sound : g.Sound d r client) (keeps : g.world.sessions.Keeps client s)
    (move : Move) (elsewhere : ∀ w, move = .elsewhere w → w.sessions.Keeps client s) :
    (g.step d r move).world.sessions.Keeps client s := by
  cases move with
  | arrive | close => exact keeps
  | elsewhere w => exact elsewhere w rfl
  | reap now =>
    have heard : ∀ event ∈ [CallEvent.evict now], event.isHeard = true := by
      simp [CallEvent.isHeard]
    exact keeps_behindEvents sound keeps heard
  | link id event =>
    have desk := Board.desk_step r.settings.serializers r.settings.link g.world.board id event
    have moves := Desk.steps_moves r.settings.serializers sound.unique
      (Board.heard_callEvents r.settings.link g.world.board id event)
    exact Desk.Moves.keeps (desk ▸ moves) keeps
  | work k reason =>
    cases entry : g.errands[k]? with
    | none =>
      simp only [step, entry]
      exact keeps
    | some e =>
      obtain ⟨events, added, new, heard, advance⟩ := exists_advance sound entry reason
      rw [advance.sessions]
      exact Sessions.keeps_sends (keeps_behindEvents sound keeps heard) e.session new

theorem Steady.keeps (steady : Steady d r client s g) : g.world.sessions.Keeps client s := by
  induction steady with
  | start run keeps => exact keeps
  | step move before _ elsewhere ih => exact keeps_step (sound_of_run before.run) ih move elsewhere

/-- Every request of the client stands for the value that the client sent, as far as it has
come. -/
theorem Steady.carries (steady : Steady d r client s g)
    (serializer : r.settings.serializers.find? s.serializeType = some c) (free : v.FloatFree)
    {k : Nat} {e : Errand} (entry : g.errands[k]? = some e) (own : e.session = client)
    (sent : c.decode e.message.body = .ok v) : e.Carries r s v := by
  induction steady generalizing k e with
  | start run keeps => cases entry
  | @step g move before admits elsewhere ih =>
    cases move with
    | arrive id m identity =>
      rcases Nat.lt_or_ge k g.errands.length with inside | outside
      · exact ih ((List.getElem?_append_left inside).symm.trans entry) own sent
      · have single := (List.getElem?_append_right outside).symm.trans entry
        cases List.mem_singleton.mp (List.mem_of_getElem? single)
        exact Errand.carries_fresh id m identity
    | link | reap | close | elsewhere => exact ih entry own sent
    | work j reason =>
      cases there : g.errands[j]? with
      | none =>
        simp only [Gateway.step, there] at entry
        exact ih entry own sent
      | some e' =>
        rw [step_work there] at entry
        by_cases same : k = j
        · subst same
          rw [List.getElem?_set_self (List.getElem?_eq_some_iff.mp there).1] at entry
          cases entry
          rw [Errand.session_work] at own
          rw [Errand.message_work] at sent
          exact Errand.carries_work (ih there own sent) (own ▸ before.keeps) serializer sent free reason
        · rw [List.getElem?_set_ne (Ne.symm same)] at entry
          exact ih entry own sent

end Gateway
end Relay
end Dispatch
end ClusterWire
