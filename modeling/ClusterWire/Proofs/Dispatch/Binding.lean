import ClusterWire.Dispatch.Arguments
import ClusterWire.Proofs.Json.RoundTrip

/-! Arguments by what is bound for them. They are bound one after another, and with push targets
two bindings ask for the body; but only one of them reads it, so what comes of a list of bindings
is told by which of them are in it. -/
namespace ClusterWire

theorem Descriptor.mem_bindAll {bs : List Binding} {d : Descriptor} {b : Binding} :
    b ∈ (d.bindAll bs).bindings ↔ b ∈ d.bindings ∨ b ∈ bs := by
  unfold bindAll
  induction bs generalizing d with
  | nil => simp
  | cons first rest ih => rw [List.foldl_cons, ih, mem_bind, List.mem_cons, or_assoc]

theorem Descriptor.binds_iff {d : Descriptor} {b : Binding} :
    d.binds b = true ↔ b ∈ d.bindings := List.contains_iff_mem

namespace PushEnvelope

/-- The body that an envelope is written with: its field in an object, or the second item of a
list. -/
def written? : Json → Option Json
  | .object fields => fields.lookup "body"
  | .array items => items[1]?
  | _ => none

/-- The body of an envelope is null if it is written without one. -/
theorem body_of_shape {v : Json} {e : PushEnvelope} (read : shape v = .ok e) :
    e.body = (written? v).getD .null := by
  obtain ⟨field, record, read⟩ := Json.ok_of_bind read
  obtain ⟨targets, -, made⟩ := Json.ok_of_bind read
  cases made
  cases v with
  | object fields =>
    obtain ⟨-, -, record⟩ := Json.ok_of_bind record
    obtain ⟨all, complete, same⟩ := Json.ok_of_bind record
    cases same
    simp only [Json.Shape.complete, Json.Shape.Field.required, Json.Shape.Field.optional] at complete
    cases list : fields.lookup "targets" with
    | none => simp [list] at complete
    | some ids =>
      cases body : fields.lookup "body" with
      | none =>
        simp [list, body, bind, Except.bind, pure, Except.pure] at complete
        simp [← complete, written?, body, List.lookup_cons]
      | some w =>
        simp [list, body, bind, Except.bind, pure, Except.pure] at complete
        simp [← complete, written?, body, List.lookup_cons]
  | array items =>
    obtain ⟨all, positional, same⟩ := Json.ok_of_bind record
    cases same
    match items with
    | [] => cases positional
    | [ids] =>
      obtain ⟨-, -, positional⟩ := Json.ok_of_bind positional
      cases positional
      rfl
    | ids :: w :: rest =>
      obtain ⟨-, -, positional⟩ := Json.ok_of_bind positional
      obtain ⟨later, second, same⟩ := Json.ok_of_bind positional
      obtain ⟨-, -, second⟩ := Json.ok_of_bind second
      obtain ⟨none, -, second⟩ := Json.ok_of_bind second
      cases second
      cases same
      rfl
  | null | bool | number | string => cases record

end PushEnvelope

namespace Dispatch

variable {serializers : Serializers} {d : Descriptor} {s : Session} {m : Message} {z : Serializer}
  {v : Json}

theorem decodeBody_eq {α : Type} (known : serializers.find? s.serializeType = some z)
    (read : z.decode m.body = .ok v) (shape : Json.Shape α) :
    decodeBody serializers s m shape =
      (shape v).mapError fun fault => .json (.shape fault) := by
  simp only [decodeBody, Serializers.get, known, Serializer.decodeAs, read, bind, Except.bind]

theorem decodeBody_ok {α : Type} (known : serializers.find? s.serializeType = some z)
    (read : z.decode m.body = .ok v) {shape : Json.Shape α} {x : α} (shaped : shape v = .ok x) :
    decodeBody serializers s m shape = .ok x := by
  rw [decodeBody_eq known read, shaped]
  rfl

theorem decodeBody_error {α : Type} (known : serializers.find? s.serializeType = some z)
    (read : z.decode m.body = .ok v) {shape : Json.Shape α} {fault : Json.ShapeFault}
    (shaped : shape v = .error fault) :
    decodeBody serializers s m shape = .error (.json (.shape fault)) := by
  rw [decodeBody_eq known read, shaped]
  rfl

/-- With push targets the body is the one in their envelope, which is read where they are bound. -/
theorem foldlM_enveloped (targeted : d.binds .pushTargets = true) (bs : List Binding)
    (args : Arguments) : bs.foldlM (bindArgument serializers d s m) args =
      if .pushTargets ∈ bs then
        (decodeBody serializers s m PushEnvelope.shape).map fun e =>
          { args with session := if .session ∈ bs then some s.id else args.session
                      body := e.body, targets := e.targets }
      else .ok { args with session := if .session ∈ bs then some s.id else args.session } := by
  induction bs generalizing args with
  | nil => simp [pure, Except.pure]
  | cons b rest ih =>
    rw [List.foldlM_cons]
    cases b with
    | session =>
      simp only [bindArgument, bind, Except.bind, ih]
      simp
    | identity =>
      simp only [bindArgument, bind, Except.bind, ih]
      simp
    | body =>
      simp only [bindArgument, targeted, if_true, bind, Except.bind, ih]
      simp
    | pushTargets =>
      simp only [bindArgument, bind, Except.bind, pure, Except.pure]
      cases read : decodeBody serializers s m PushEnvelope.shape with
      | error fault => simp [Except.map]
      | ok e =>
        simp only [ih, read]
        simp [Except.map]

/-- Without push targets the body is read where it is bound itself. -/
theorem foldlM_bare (bare : d.binds .pushTargets = false) {bs : List Binding}
    (outside : .pushTargets ∉ bs) (args : Arguments) :
    bs.foldlM (bindArgument serializers d s m) args =
      if .body ∈ bs then
        (decodeBody serializers s m Json.Shape.any).map fun v =>
          { args with session := if .session ∈ bs then some s.id else args.session, body := v }
      else .ok { args with session := if .session ∈ bs then some s.id else args.session } := by
  induction bs generalizing args with
  | nil => simp [pure, Except.pure]
  | cons b rest ih =>
    rw [List.mem_cons, not_or] at outside
    obtain ⟨here, later⟩ := outside
    rw [List.foldlM_cons]
    cases b with
    | session =>
      simp only [bindArgument, bind, Except.bind, ih later]
      simp
    | identity =>
      simp only [bindArgument, bind, Except.bind, ih later]
      simp
    | body =>
      simp only [bindArgument, bare, Bool.false_eq_true, if_false, bind, Except.bind, pure,
        Except.pure]
      cases read : decodeBody serializers s m Json.Shape.any with
      | error fault => simp [Except.map]
      | ok v =>
        simp only [ih later, read]
        simp [Except.map]
    | pushTargets => exact absurd rfl here

/-- What the bindings of a list come to, in whatever order they stand there. -/
def argumentsOf (serializers : Serializers) (s : Session) (m : Message) (ctx : CallContext)
    (bs : List Binding) : Except CodecFault Arguments :=
  let session := if .session ∈ bs then some s.id else none
  if .pushTargets ∈ bs then
    (decodeBody serializers s m PushEnvelope.shape).map fun e => ⟨ctx, session, e.body, e.targets⟩
  else if .body ∈ bs then
    (decodeBody serializers s m Json.Shape.any).map fun v => ⟨ctx, session, v, []⟩
  else .ok ⟨ctx, session, .null, []⟩

theorem argumentsOf_congr {bs cs : List Binding} (same : ∀ b, b ∈ bs ↔ b ∈ cs) (ctx : CallContext) :
    argumentsOf serializers s m ctx bs = argumentsOf serializers s m ctx cs := by
  simp only [argumentsOf, same]

theorem bindArguments_eq (d : Descriptor) (ctx : CallContext) :
    bindArguments serializers d s m ctx = argumentsOf serializers s m ctx d.bindings := by
  unfold bindArguments argumentsOf
  by_cases targeted : .pushTargets ∈ d.bindings
  · have binds : d.binds .pushTargets = true := Descriptor.binds_iff.mpr targeted
    rw [foldlM_enveloped binds]
    simp only [targeted, if_true]
  · have bare : d.binds .pushTargets = false :=
      Bool.eq_false_iff.mpr (mt Descriptor.binds_iff.mp targeted)
    rw [foldlM_bare bare targeted]
    simp only [targeted, if_false]

/-- What a list of bindings comes to, told by which of them are in it. -/
structure Bound (serializers : Serializers) (s : Session) (m : Message) (ctx : CallContext)
    (bs : List Binding) (result : Except CodecFault Arguments) : Prop where
  context : ∀ args, result = .ok args → args.context = ctx
  session : ∀ args, result = .ok args → args.session = if .session ∈ bs then some s.id else none
  enveloped : .pushTargets ∈ bs → result.map (fun args => PushEnvelope.mk args.targets args.body) =
    decodeBody serializers s m PushEnvelope.shape
  written : .pushTargets ∈ bs → ∀ v args, decodeBody serializers s m Json.Shape.any = .ok v →
    result = .ok args → args.body = (PushEnvelope.written? v).getD .null
  plain : .pushTargets ∉ bs → .body ∈ bs → result.map (fun args => (args.targets, args.body)) =
    (decodeBody serializers s m Json.Shape.any).map ([], ·)
  bare : .pushTargets ∉ bs → .body ∉ bs →
    ∃ args, result = .ok args ∧ args.body = .null ∧ args.targets = []

/-- A body that is read in a shape is one that is read at all. -/
theorem shape_of_decodeBody {α : Type} {shape : Json.Shape α} {x : α}
    (read : decodeBody serializers s m Json.Shape.any = .ok v)
    (shaped : decodeBody serializers s m shape = .ok x) : shape v = .ok x := by
  obtain ⟨z, known, shaped⟩ := Json.ok_of_bind shaped
  obtain ⟨w, decoded, shaped⟩ := Json.ok_of_bind shaped
  have found : serializers.find? s.serializeType = some z := by
    cases held : serializers.find? s.serializeType with
    | none => simp [Serializers.get, held] at known
    | some y => simpa [Serializers.get, held] using known
  rw [decodeBody_ok found decoded (show Json.Shape.any w = .ok w from rfl)] at read
  cases read
  cases fits : shape v with
  | error fault =>
    rw [fits] at shaped
    cases shaped
  | ok y =>
    rw [fits] at shaped
    cases shaped
    rfl

theorem bound_argumentsOf (ctx : CallContext) (bs : List Binding) :
    Bound serializers s m ctx bs (argumentsOf serializers s m ctx bs) := by
  unfold argumentsOf
  by_cases targeted : .pushTargets ∈ bs
  · simp only [targeted, if_true]
    cases shaped : decodeBody serializers s m PushEnvelope.shape with
    | error fault =>
      exact ⟨by rintro args ⟨⟩, by rintro args ⟨⟩, fun _ => shaped.symm, by rintro - v args - ⟨⟩,
        fun outside => absurd targeted outside, fun outside => absurd targeted outside⟩
    | ok e =>
      refine ⟨by rintro args ⟨⟩; rfl, by rintro args ⟨⟩; rfl, fun _ => shaped.symm, ?_,
        fun outside => absurd targeted outside, fun outside => absurd targeted outside⟩
      rintro - v args read ⟨⟩
      exact PushEnvelope.body_of_shape (shape_of_decodeBody read shaped)
  · simp only [targeted, if_false]
    by_cases read : .body ∈ bs
    · simp only [read, if_true]
      cases decoded : decodeBody serializers s m Json.Shape.any with
      | error fault =>
        exact ⟨by rintro args ⟨⟩, by rintro args ⟨⟩, fun inside => absurd inside targeted,
          fun inside => absurd inside targeted, fun _ _ => by rw [decoded]; rfl,
          fun _ outside => absurd read outside⟩
      | ok v =>
        exact ⟨by rintro args ⟨⟩; rfl, by rintro args ⟨⟩; rfl, fun inside => absurd inside targeted,
          fun inside => absurd inside targeted, fun _ _ => by rw [decoded]; rfl,
          fun _ outside => absurd read outside⟩
    · simp only [read, if_false]
      exact ⟨by rintro args ⟨⟩; rfl, by rintro args ⟨⟩; rfl, fun inside => absurd inside targeted,
        fun inside => absurd inside targeted, fun _ inside => absurd inside read,
        fun _ _ => ⟨_, rfl, rfl, rfl⟩⟩

/-- Two descriptors for which the same was bound, in any order and any number of times: a request
has the same arguments under both or fails with the same fault. Its session is an argument just
when it is bound; with push targets they and the body come from the envelope, whether or not the
body is bound as well; otherwise the body is what is read if it is bound, and nothing is read if
not. -/
theorem bound_in_any_order (serializers : Serializers) (s : Session) (m : Message)
    (ctx : CallContext) {d e : Descriptor} (fresh : d.bindings = []) (other : e.bindings = [])
    {bs cs : List Binding} (same : ∀ b, b ∈ bs ↔ b ∈ cs) :
    bindArguments serializers (d.bindAll bs) s m ctx =
      bindArguments serializers (e.bindAll cs) s m ctx ∧
    Bound serializers s m ctx bs (bindArguments serializers (d.bindAll bs) s m ctx) := by
  have recorded : ∀ {d : Descriptor} {bs : List Binding}, d.bindings = [] →
      bindArguments serializers (d.bindAll bs) s m ctx = argumentsOf serializers s m ctx bs := by
    intro d bs fresh
    rw [bindArguments_eq]
    refine argumentsOf_congr (fun b => ?_) ctx
    rw [Descriptor.mem_bindAll, fresh]
    simp
  rw [recorded fresh, recorded other]
  exact ⟨argumentsOf_congr same ctx, bound_argumentsOf ctx bs⟩

def plain : Descriptor := { protocol := ⟨10, 3⟩, name := "plain" }

/-- A request with an envelope for identity 7 that has no body. -/
def enveloping : Message := .clientRequest 4 ⟨10, 3⟩ (Utf8.encode "\x7b\"targets\":[7]\x7d")

def theirs : Session := ⟨⟨1⟩, .loopback 5000, .external, 0, [], false, true, []⟩

theorem bound_in_any_order_envelope :
    bindArguments .standard (plain.bindAll [.body, .pushTargets, .session]) theirs enveloping
      ⟨5, 4⟩ = .ok ⟨⟨5, 4⟩, some ⟨1⟩, .null, [7]⟩ ∧
    bindArguments .standard ({ plain with mode := .asynchronous }.bindAll
      [.session, .pushTargets, .session, .pushTargets, .body]) theirs enveloping ⟨5, 4⟩ =
      .ok ⟨⟨5, 4⟩, some ⟨1⟩, .null, [7]⟩ := by
  have same : ∀ b, b ∈ [Binding.body, .pushTargets, .session] ↔
      b ∈ [Binding.session, .pushTargets, .session, .pushTargets, .body] := by
    intro b
    cases b <;> decide
  have either := bound_in_any_order .standard theirs enveloping ⟨5, 4⟩ (d := plain)
    (e := { plain with mode := .asynchronous }) rfl rfl same
  have once : bindArguments .standard (plain.bindAll [.body, .pushTargets, .session]) theirs
      enveloping ⟨5, 4⟩ = .ok ⟨⟨5, 4⟩, some ⟨1⟩, .null, [7]⟩ := by rfl
  exact ⟨once, either.1 ▸ once⟩

end Dispatch
end ClusterWire
