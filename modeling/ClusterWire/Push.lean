import ClusterWire.Codec
import ClusterWire.Failure
import ClusterWire.Session

/-! Fan-out of pushes by identity. A push is a response that answers nothing;
it goes to the session that an identity is bound to at that moment. Identities
behind a link between servers share one frame, which lists them. -/
namespace ClusterWire

/-- A push for several identities at the far end of a link, or the body of a
request with push targets. -/
structure PushEnvelope where
  targets : List Int64
  body : Json
deriving Repr, Inhabited

namespace PushEnvelope

def toJson (e : PushEnvelope) : Json :=
  Json.ofFields [("targets", .ofIdentities e.targets), ("body", e.body)]

def shape : Json.Shape PushEnvelope := fun v => do
  let field ← Json.Shape.record "PushEnvelope"
    [.required "targets" (Json.Shape.list Json.Shape.int64),
     .optional "body" Json.Shape.any .null] v
  return { targets := ← Json.Shape.list Json.Shape.int64 (field "targets")
           body := field "body" }

end PushEnvelope

inductive PushFault where
  | notPushProtocol (protocol : ProtocolId)
  | codec (fault : CodecFault)
deriving Repr

def PushFault.message : PushFault → String
  | notPushProtocol protocol =>
    s!"protocol {protocol.text} is not a push protocol (method id must be negative)"
  | codec fault => fault.message

def PushFault.label : PushFault → String
  | notPushProtocol _ => "NotPushProtocol"
  | codec fault => s!"Codec.{fault.label}"

instance : Failure PushFault := ⟨PushFault.label, PushFault.message⟩

structure PushReport where
  delivered : List Int64
  missing : List Int64
deriving DecidableEq, Repr

namespace Push

def frame (serializers : Serializers) (protocol : ProtocolId) (s : Session) (value : Json) :
    Except PushFault Message :=
  match serializers.get s.serializeType with
  | .ok serializer => .ok (.push s.family protocol (serializer.encode value))
  | .error fault => .error (.codec fault)

/-- What the serializers in use have written for clients, by serialize type. -/
abbrev Bodies := List (UInt8 × Bytes)

/-- The payload for clients of a serialize type. A serializer writes it once. -/
def Bodies.write (serializers : Serializers) (value : Json) (bodies : Bodies)
    (serializeType : UInt8) : Except PushFault (Bytes × Bodies) :=
  match bodies.lookup serializeType with
  | some body => .ok (body, bodies)
  | none =>
    match serializers.get serializeType with
    | .ok serializer =>
      let body := serializer.encode value
      .ok (body, (serializeType, body) :: bodies)
    | .error fault => .error (.codec fault)

/-- Where a push to many stands: the sessions, the clients' sessions that were
offered it, the links with the identities behind them, the identities that it
did not reach, and what has been written for clients. -/
structure Fanout where
  sessions : Sessions
  offered : List SessionId := []
  links : List (SessionId × List Int64) := []
  undelivered : List Int64 := []
  bodies : Bodies := []

def addTarget (link : SessionId) (identity : Int64) :
    List (SessionId × List Int64) → List (SessionId × List Int64)
  | [] => [(link, [identity])]
  | (l, targets) :: rest =>
    if l = link then (l, targets ++ [identity]) :: rest
    else (l, targets) :: addTarget link identity rest

namespace Fanout

def lose (f : Fanout) (identities : List Int64) : Fanout :=
  { f with undelivered := f.undelivered ++ identities }

def offer (f : Fanout) (id : SessionId) (m : Message) (identities : List Int64) : Fanout :=
  let (sessions, accepted) := f.sessions.send id m
  let f := { f with sessions := sessions }
  if accepted then f else f.lose identities

/-- One identity of a push: a client's session is offered the bare payload
once, identities behind a link are collected. -/
def visit (serializers : Serializers) (protocol : ProtocolId) (value : Json)
    (f : Fanout) (identity : Int64) : Except (PushFault × Fanout) Fanout :=
  match (f.sessions.resolve identity).bind f.sessions.session? with
  | none => .ok (f.lose [identity])
  | some s =>
    match s.family with
    | .internal => .ok { f with links := addTarget s.id identity f.links }
    | .external =>
      if s.id ∈ f.offered then .ok f
      else
        let f := { f with offered := f.offered ++ [s.id] }
        match f.bodies.write serializers value s.serializeType with
        | .ok (body, bodies) =>
          .ok ({ f with bodies := bodies }.offer s.id (.push s.family protocol body) [identity])
        | .error fault => .error (fault, f)

/-- One link of a push: an envelope that lists the identities behind it. -/
def visitLink (serializers : Serializers) (protocol : ProtocolId) (value : Json)
    (f : Fanout) (link : SessionId × List Int64) : Except (PushFault × Fanout) Fanout :=
  match f.sessions.session? link.1 with
  | none => .ok (f.lose link.2)
  | some s =>
    match frame serializers protocol s (PushEnvelope.toJson ⟨link.2, value⟩) with
    | .ok m => .ok (f.offer s.id m link.2)
    | .error fault => .error (fault, f)

end Fanout

/-- Pushes to every listed identity. A fault ends the push where it stands. -/
def many (serializers : Serializers) (sessions : Sessions) (identities : List Int64)
    (protocol : ProtocolId) (value : Json) : Sessions × Except PushFault PushReport :=
  if !protocol.isPush then (sessions, .error (.notPushProtocol protocol))
  else
    let run := do
      let f ← identities.foldlM (Fanout.visit serializers protocol value) { sessions := sessions }
      f.links.foldlM (Fanout.visitLink serializers protocol value) f
    match run with
    | .error (fault, f) => (f.sessions, .error fault)
    | .ok f =>
      (f.sessions, .ok
        { delivered := identities.filter (!f.undelivered.contains ·)
          missing := identities.filter f.undelivered.contains })

def one (serializers : Serializers) (sessions : Sessions) (identity : Int64)
    (protocol : ProtocolId) (value : Json) : Sessions × Except PushFault Bool :=
  let (sessions, result) := many serializers sessions [identity] protocol value
  (sessions, result.map fun report => !report.delivered.isEmpty)

/-- Where a push to everyone stands: the sessions, how many took it, and what
has been written for clients. -/
structure Broadcast where
  sessions : Sessions
  count : Nat := 0
  bodies : Bodies := []

namespace Broadcast

def offer (b : Broadcast) (id : SessionId) (m : Message) : Broadcast :=
  let (sessions, accepted) := b.sessions.send id m
  { b with sessions := sessions, count := if accepted then b.count + 1 else b.count }

/-- One session of a push to everyone: a client gets the bare payload, a link an
envelope for every identity behind it. -/
def visit (serializers : Serializers) (protocol : ProtocolId) (value : Json)
    (b : Broadcast) (id : SessionId) : Except (PushFault × Broadcast) Broadcast :=
  match b.sessions.session? id with
  | none => .ok b
  | some s =>
    if s.identities.isEmpty then .ok b
    else
      match s.family with
      | .internal =>
        match frame serializers protocol s (PushEnvelope.toJson ⟨s.identities, value⟩) with
        | .ok m => .ok (b.offer s.id m)
        | .error fault => .error (fault, b)
      | .external =>
        match b.bodies.write serializers value s.serializeType with
        | .ok (body, bodies) =>
          .ok ({ b with bodies := bodies }.offer s.id (.push s.family protocol body))
        | .error fault => .error (fault, b)

end Broadcast

/-- Pushes to every tracked session with an identity, in the given order of
the sessions; counts those that took the push. -/
def broadcast (serializers : Serializers) (sessions : Sessions) (order : List SessionId)
    (protocol : ProtocolId) (value : Json) : Sessions × Except PushFault Nat :=
  if !protocol.isPush then (sessions, .error (.notPushProtocol protocol))
  else
    match order.foldlM (Broadcast.visit serializers protocol value) { sessions := sessions } with
    | .error (fault, b) => (b.sessions, .error fault)
    | .ok b => (b.sessions, .ok b.count)

end Push
end ClusterWire
