import ClusterWire.Proofs.Registry

/-! What a registry has taken. Protocols are declared and handlers bound in any order. For every
protocol the first registration that is taken describes it and the first binding that is taken
serves it; whatever comes later is refused, and leaves everything as it was. -/
namespace ClusterWire

namespace Descriptor

/-- A synchronous handler that names no response type is described with the one it returns. -/
def returning (d : Descriptor) (responseType : String) : Descriptor :=
  if d.isSynchronous ∧ d.responseType.isNone then { d with responseType := some responseType } else d

end Descriptor

/-- A registration that an application asks for. -/
inductive Registration (H : Type) where
  | declare (d : Descriptor)
  | bind (d : Descriptor) (handler : H)
  | route (d : Descriptor) (responseType : String) (handler : H)

namespace Registration

variable {H : Type}

def descriptor : Registration H → Descriptor
  | declare d | bind d _ => d
  | route d responseType _ => d.returning responseType

def protocol (e : Registration H) : ProtocolId := e.descriptor.protocol

/-- What is bound, if the registration is a binding. -/
def binding? : Registration H → Option (Descriptor × H)
  | declare _ => none
  | bind d handler => some (d, handler)
  | route d responseType handler => some (d.returning responseType, handler)

def attempt (r : Registry H) : Registration H → Except RegistryFault (Registry H)
  | declare d => r.declare d
  | bind d handler => r.bind d handler
  | route d responseType handler => r.route d responseType handler

/-- An earlier registration that leaves no room for this one: any for a declaration, a binding
for a binding. -/
def Precludes (earlier e : Registration H) : Prop :=
  earlier.protocol = e.protocol ∧ (e.binding?.isSome → earlier.binding?.isSome)

theorem precludes_declare {earlier : Registration H} {d : Descriptor} :
    earlier.Precludes (declare d) ↔ earlier.protocol = d.protocol := by
  simp [Precludes, binding?, protocol, descriptor]

/-- Why a registration is refused. -/
def fault (e : Registration H) : RegistryFault :=
  if e.protocol.isReserved then .reservedProtocol e.protocol else .duplicateProtocol e.protocol

theorem binding?_eq_some {e : Registration H} {d : Descriptor} {handler : H}
    (binds : e.binding? = some (d, handler)) : e.descriptor = d := by
  cases e with
  | declare => cases binds
  | bind | route =>
    cases binds
    rfl

end Registration

namespace Registry

variable {H : Type}

theorem route_eq_bind (r : Registry H) (d : Descriptor) (responseType : String) (handler : H) :
    r.route d responseType handler = r.bind (d.returning responseType) handler := by
  unfold route Descriptor.returning
  split <;> rfl

theorem insert_perm (d : Descriptor) (handler : H) (entries : List (Descriptor × H)) :
    (insert d handler entries).Perm ((d, handler) :: entries) := by
  fun_induction insert d handler entries with
  | case1 | case2 => exact .refl _
  | case3 e k rest _ ih => exact (ih.cons (e, k)).trans (.swap _ _ rest)

/-- Handlers are found whatever order they are kept in. -/
theorem find?_insert {d : Descriptor} {handler : H} {entries : List (Descriptor × H)}
    (new : ∀ entry ∈ entries, entry.1.protocol ≠ d.protocol) (id : ProtocolId) :
    (insert d handler entries).find? (·.1.protocol == id) =
      (entries.find? (·.1.protocol == id)).or
        (if d.protocol = id then some (d, handler) else none) := by
  have here : [(d, handler)].find? (·.1.protocol == id) =
      if d.protocol = id then some (d, handler) else none := by
    by_cases own : d.protocol = id <;> simp [own]
  fun_induction insert d handler entries with
  | case1 => exact here
  | case2 e k rest _ =>
    have absent : d.protocol = id → ((e, k) :: rest).find? (·.1.protocol == id) = none := by
      rintro rfl
      exact List.find?_eq_none.mpr fun entry held same => new entry held (eq_of_beq same)
    by_cases own : d.protocol = id
    · rw [absent own]
      simp [own]
    · simp [own, List.find?_cons]
  | case3 e k rest _ ih =>
    have further := ih fun entry held => new entry (List.mem_cons_of_mem _ held)
    rw [List.find?_cons, List.find?_cons]
    split
    · rfl
    · exact further

end Registry

namespace Registration

variable {H : Type}

theorem protocol_of_binding? {e : Registration H} {d : Descriptor} {handler : H}
    (binds : e.binding? = some (d, handler)) : d.protocol = e.protocol := by
  rw [Registration.protocol, binding?_eq_some binds]

/-- What a registration finds in its way. -/
def Blocked (e : Registration H) (r : Registry H) : Prop :=
  if e.binding?.isSome then (r.handler? e.protocol).isSome else (r.lookup e.protocol).isSome

/-- The tables with a registration in them. A binding declares what no one has declared. -/
def enter (e : Registration H) (r : Registry H) : Registry H :=
  { r with
    declared := if (r.lookup e.protocol).isSome then r.declared else r.declared ++ [e.descriptor]
    bound := match e.binding? with
      | none => r.bound
      | some (d, handler) => Registry.insert d handler r.bound }

theorem declared_enter_of_known {e : Registration H} {r : Registry H}
    (known : (r.lookup e.protocol).isSome) : (e.enter r).declared = r.declared := if_pos known

theorem declared_enter_of_new {e : Registration H} {r : Registry H}
    (new : ¬(r.lookup e.protocol).isSome) : (e.enter r).declared = r.declared ++ [e.descriptor] :=
  if_neg new

theorem bound_enter_of_unbound {e : Registration H} (unbound : e.binding? = none)
    (r : Registry H) : (e.enter r).bound = r.bound := by
  simp only [enter, unbound]

theorem bound_enter_of_bound {e : Registration H} {d : Descriptor} {handler : H}
    (binds : e.binding? = some (d, handler)) (r : Registry H) :
    (e.enter r).bound = Registry.insert d handler r.bound := by
  simp only [enter, binds]

theorem new_of_room {e : Registration H} {r : Registry H} {d : Descriptor} {handler : H}
    (binds : e.binding? = some (d, handler)) (room : ¬e.Blocked r) :
    ∀ entry ∈ r.bound, entry.1.protocol ≠ d.protocol := by
  intro entry held same
  apply room
  rw [Blocked, if_pos (Option.isSome_of_eq_some binds), Registry.handler?, List.find?_isSome]
  exact ⟨entry, held, beq_iff_eq.mpr (same.trans (protocol_of_binding? binds))⟩

theorem bind_eq_ok {r s : Registry H} {d : Descriptor} {handler : H} :
    r.bind d handler = .ok s ↔
      d.protocol.isReserved = false ∧ ¬(bind d handler).Blocked r ∧ s = (bind d handler).enter r := by
  unfold Registry.bind
  split
  · rename_i reserved
    simp [reserved]
  · rename_i free
    split
    · rename_i held
      have blocked : (bind d handler).Blocked r := held
      simp [blocked]
    · rename_i room
      have unblocked : ¬(bind d handler).Blocked r := room
      rw [Bool.not_eq_true] at free
      simp only [Except.ok.injEq, free, unblocked, not_false_eq_true, true_and]
      exact eq_comm

theorem declare_eq_ok {r s : Registry H} {d : Descriptor} :
    r.declare d = .ok s ↔
      d.protocol.isReserved = false ∧ ¬(declare d).Blocked r ∧ s = (declare d).enter r := by
  unfold Registry.declare
  split
  · rename_i reserved
    simp [reserved]
  · rename_i free
    split
    · rename_i held
      have blocked : (declare d).Blocked r := held
      simp [blocked]
    · rename_i room
      have unblocked : ¬(declare d).Blocked r := room
      have entered : (declare d).enter r = { r with declared := r.declared ++ [d] } := by
        have grown : ((declare d).enter r).declared = r.declared ++ [d] := if_neg room
        rw [← grown]
        rfl
      rw [Bool.not_eq_true] at free
      simp only [Except.ok.injEq, free, unblocked, not_false_eq_true, true_and, entered]
      exact eq_comm

theorem fault_of_bind {r : Registry H} {d : Descriptor} {handler : H} {fault : RegistryFault}
    (refused : r.bind d handler = .error fault) : fault = (bind d handler).fault := by
  unfold Registry.bind at refused
  split at refused
  · rename_i reserved
    cases refused
    exact (if_pos reserved).symm
  · rename_i free
    split at refused
    · cases refused
      exact (if_neg free).symm
    · cases refused

theorem fault_of_attempt {e : Registration H} {r : Registry H} {fault : RegistryFault}
    (refused : e.attempt r = .error fault) : fault = e.fault := by
  cases e with
  | declare d =>
    change r.declare d = _ at refused
    unfold Registry.declare at refused
    split at refused
    · rename_i reserved
      cases refused
      exact (if_pos reserved).symm
    · rename_i free
      split at refused
      · cases refused
        exact (if_neg free).symm
      · cases refused
  | bind d handler => exact fault_of_bind refused
  | route d responseType handler =>
    change r.route d responseType handler = _ at refused
    rw [r.route_eq_bind] at refused
    exact fault_of_bind refused

/-- A registration is taken when its module is not reserved and nothing is in its way. -/
theorem attempt_eq_ok {e : Registration H} {r s : Registry H} :
    e.attempt r = .ok s ↔ e.protocol.isReserved = false ∧ ¬e.Blocked r ∧ s = e.enter r := by
  cases e with
  | declare d => exact declare_eq_ok
  | bind d handler => exact bind_eq_ok
  | route d responseType handler =>
    change r.route d responseType handler = .ok s ↔ _
    rw [r.route_eq_bind]
    exact bind_eq_ok

end Registration

/-- A registry with the registrations that it has taken, in their order. -/
structure Ledger (H : Type) where
  registry : Registry H := .empty
  taken : List (Registration H) := []

namespace Ledger

variable {H : Type}

def step (w : Ledger H) (e : Registration H) : Ledger H :=
  match e.attempt w.registry with
  | .ok registry => ⟨registry, w.taken ++ [e]⟩
  | .error _ => w

def after (asked : List (Registration H)) : Ledger H := asked.foldl step {}

theorem after_concat (asked : List (Registration H)) (e : Registration H) :
    after (asked ++ [e]) = (after asked).step e := by
  rw [after, List.foldl_append]
  rfl

/-- The tables hold what was taken first. -/
structure Sound (w : Ledger H) : Prop where
  lookup : ∀ id, w.registry.lookup id = (w.taken.find? (·.protocol == id)).map (·.descriptor)
  handler? : ∀ id, w.registry.handler? id =
    (w.taken.filterMap (·.binding?)).find? (·.1.protocol == id)
  free : ∀ e ∈ w.taken, e.protocol.isReserved = false
  declared : ∀ d ∈ w.registry.declared, ∃ e ∈ w.taken, e.descriptor = d
  bound : ∀ entry ∈ w.registry.bound, ∃ e ∈ w.taken, e.binding? = some entry
  single : (w.registry.declared.map (·.protocol)).Nodup
  singleBound : (w.registry.bound.map (·.1.protocol)).Nodup

theorem sound_empty : Sound ({} : Ledger H) where
  lookup _ := rfl
  handler? _ := rfl
  free _ held := by cases held
  declared _ held := by cases held
  bound _ held := by cases held
  single := List.nodup_nil
  singleBound := List.nodup_nil

theorem Sound.lookup_isSome {w : Ledger H} (sound : w.Sound) {id : ProtocolId} :
    (w.registry.lookup id).isSome ↔ ∃ earlier ∈ w.taken, earlier.protocol = id := by
  rw [sound.lookup]
  simp

theorem Sound.handler?_isSome {w : Ledger H} (sound : w.Sound) {id : ProtocolId} :
    (w.registry.handler? id).isSome ↔
      ∃ earlier ∈ w.taken, earlier.protocol = id ∧ earlier.binding?.isSome := by
  rw [sound.handler?, List.find?_isSome]
  constructor
  · rintro ⟨⟨d, handler⟩, held, same⟩
    obtain ⟨earlier, took, binds⟩ := List.mem_filterMap.mp held
    refine ⟨earlier, took, ?_, Option.isSome_of_eq_some binds⟩
    rw [← Registration.protocol_of_binding? binds]
    exact eq_of_beq same
  · rintro ⟨earlier, took, same, bound⟩
    obtain ⟨⟨d, handler⟩, binds⟩ := Option.isSome_iff_exists.mp bound
    refine ⟨(d, handler), List.mem_filterMap.mpr ⟨earlier, took, binds⟩, beq_iff_eq.mpr ?_⟩
    rw [Registration.protocol_of_binding? binds, same]

/-- Only what was taken before can be in the way. -/
theorem Sound.blocked_iff {w : Ledger H} (sound : w.Sound) {e : Registration H} :
    e.Blocked w.registry ↔ ∃ earlier ∈ w.taken, earlier.Precludes e := by
  unfold Registration.Blocked Registration.Precludes
  split
  · rename_i binds
    simp [sound.handler?_isSome, binds]
  · rename_i unbound
    simp [sound.lookup_isSome, unbound]

theorem Sound.taken_iff {w : Ledger H} (sound : w.Sound) {e : Registration H} :
    (∃ r, e.attempt w.registry = .ok r) ↔
      e.protocol.module ≠ 0 ∧ ∀ earlier ∈ w.taken, ¬earlier.Precludes e := by
  simp only [Registration.attempt_eq_ok, exists_and_left, exists_eq, and_true, sound.blocked_iff,
    ProtocolId.isReserved, beq_eq_false_iff_ne, not_exists, not_and]

theorem lookup_enter (e : Registration H) (r : Registry H) (id : ProtocolId) :
    (e.enter r).lookup id =
      (r.lookup id).or (if e.protocol = id then some e.descriptor else none) := by
  have here : [e.descriptor].find? (·.protocol == id) =
      if e.protocol = id then some e.descriptor else none := by
    by_cases own : e.protocol = id
    · simp [own, show e.descriptor.protocol = id from own]
    · simp [own, show e.descriptor.protocol ≠ id from own]
  by_cases known : (r.lookup e.protocol).isSome
  · have kept : (e.enter r).lookup id = r.lookup id := by
      rw [Registry.lookup, Registration.declared_enter_of_known known]
      rfl
    rw [kept]
    by_cases own : e.protocol = id
    · subst own
      rw [Option.or_of_isSome known]
    · rw [if_neg own, Option.or_none]
  · rw [Registry.lookup, Registration.declared_enter_of_new known, List.find?_append, here]
    rfl

theorem handler?_enter {e : Registration H} {r : Registry H} (room : ¬e.Blocked r)
    (id : ProtocolId) :
    (e.enter r).handler? id = (r.handler? id).or (e.binding?.filter (·.1.protocol == id)) := by
  cases binds : e.binding? with
  | none =>
    rw [Registry.handler?, Registration.bound_enter_of_unbound binds, Option.filter_none,
      Option.or_none]
    rfl
  | some entry =>
    rw [Registry.handler?, Registration.bound_enter_of_bound binds,
      Registry.find?_insert (Registration.new_of_room binds room), Option.filter_some]
    simp only [beq_iff_eq]
    rfl

theorem single_enter {r : Registry H} (single : (r.declared.map (·.protocol)).Nodup)
    (e : Registration H) : ((e.enter r).declared.map (·.protocol)).Nodup := by
  by_cases known : (r.lookup e.protocol).isSome
  · rw [Registration.declared_enter_of_known known]
    exact single
  · rw [Registration.declared_enter_of_new known, List.map_append]
    refine List.nodup_append.mpr ⟨single, by simp, ?_⟩
    rintro _ held _ own rfl
    obtain ⟨d, old, same⟩ := List.mem_map.mp held
    rw [List.map_singleton, List.mem_singleton, ← same] at own
    exact known (List.find?_isSome.mpr ⟨d, old, beq_iff_eq.mpr own⟩)

theorem singleBound_enter {r : Registry H} (single : (r.bound.map (·.1.protocol)).Nodup)
    {e : Registration H} (room : ¬e.Blocked r) :
    ((e.enter r).bound.map (·.1.protocol)).Nodup := by
  cases binds : e.binding? with
  | none =>
    rw [Registration.bound_enter_of_unbound binds]
    exact single
  | some entry =>
    rw [Registration.bound_enter_of_bound binds,
      ((Registry.insert_perm entry.1 entry.2 r.bound).map _).nodup_iff, List.map_cons,
      List.nodup_cons]
    refine ⟨fun held => ?_, single⟩
    obtain ⟨other, old, same⟩ := List.mem_map.mp held
    exact Registration.new_of_room binds room other old same

theorem sound_enter {w : Ledger H} (sound : w.Sound) {e : Registration H}
    (free : e.protocol.isReserved = false) (room : ¬e.Blocked w.registry) :
    Sound ⟨e.enter w.registry, w.taken ++ [e]⟩ where
  lookup id := by
    rw [lookup_enter, sound.lookup, List.find?_append, Option.map_or]
    by_cases own : e.protocol = id <;> simp [own]
  handler? id := by
    have here : ([e].filterMap (·.binding?)).find? (·.1.protocol == id) =
        e.binding?.filter (·.1.protocol == id) := by
      cases binds : e.binding? with
      | none => simp [binds]
      | some entry =>
        by_cases own : entry.1.protocol = id <;> simp [binds, own, Option.filter_some]
    rw [handler?_enter room, sound.handler?, List.filterMap_append, List.find?_append, here]
  free := by
    intro other held
    rcases List.mem_append.mp held with old | new
    · exact sound.free other old
    · rw [List.mem_singleton.mp new]
      exact free
  declared := by
    have kept : ∀ d ∈ w.registry.declared, ∃ other ∈ w.taken ++ [e], other.descriptor = d := by
      intro d held
      obtain ⟨other, old, same⟩ := sound.declared d held
      exact ⟨other, List.mem_append_left _ old, same⟩
    by_cases known : (w.registry.lookup e.protocol).isSome
    · rw [Registration.declared_enter_of_known known]
      exact kept
    · rw [Registration.declared_enter_of_new known]
      intro d held
      rcases List.mem_append.mp held with held | new
      · exact kept d held
      · exact ⟨e, List.mem_append_right _ (List.mem_singleton_self e),
          (List.mem_singleton.mp new).symm⟩
  bound := by
    have kept : ∀ entry ∈ w.registry.bound,
        ∃ other ∈ w.taken ++ [e], other.binding? = some entry := by
      intro entry held
      obtain ⟨other, old, same⟩ := sound.bound entry held
      exact ⟨other, List.mem_append_left _ old, same⟩
    cases binds : e.binding? with
    | none =>
      rw [Registration.bound_enter_of_unbound binds]
      exact kept
    | some new =>
      rw [Registration.bound_enter_of_bound binds]
      intro entry held
      rcases Registry.mem_insert.mp held with rfl | held
      · exact ⟨e, List.mem_append_right _ (List.mem_singleton_self e), binds⟩
      · exact kept entry held
  single := single_enter sound.single e
  singleBound := singleBound_enter sound.singleBound room

theorem sound_step {w : Ledger H} (sound : w.Sound) (e : Registration H) : (w.step e).Sound := by
  unfold step
  split
  · rename_i r took
    obtain ⟨free, room, rfl⟩ := Registration.attempt_eq_ok.mp took
    exact sound_enter sound free room
  · exact sound

theorem sound_foldl {w : Ledger H} (sound : w.Sound) (asked : List (Registration H)) :
    (asked.foldl step w).Sound := by
  induction asked generalizing w with
  | nil => exact sound
  | cons e later ih => exact ih (sound_step sound e)

theorem sound_after (asked : List (Registration H)) : (after asked).Sound :=
  sound_foldl sound_empty asked

/-- A registry that was asked for registrations, any of them in any order. -/
structure FirstWins (asked : List (Registration H)) : Prop where
  declares : ∀ d, (∃ r, (after asked).registry.declare d = .ok r) ↔
    d.protocol.module ≠ 0 ∧ ∀ earlier ∈ (after asked).taken, earlier.protocol ≠ d.protocol
  binds : ∀ e : Registration H, e.binding?.isSome →
    ((∃ r, e.attempt (after asked).registry = .ok r) ↔
      e.protocol.module ≠ 0 ∧
        ∀ earlier ∈ (after asked).taken, earlier.binding?.isSome → earlier.protocol ≠ e.protocol)
  takes : ∀ e r, e.attempt (after asked).registry = .ok r →
    after (asked ++ [e]) = ⟨r, (after asked).taken ++ [e]⟩
  refuses : ∀ e fault, e.attempt (after asked).registry = .error fault →
    fault = e.fault ∧ after (asked ++ [e]) = after asked
  lookup : ∀ id, (after asked).registry.lookup id =
    ((after asked).taken.find? (·.protocol == id)).map (·.descriptor)
  handler? : ∀ id, (after asked).registry.handler? id =
    ((after asked).taken.filterMap (·.binding?)).find? (·.1.protocol == id)
  known : ∀ entry ∈ (after asked).registry.bound,
    ((after asked).registry.lookup entry.1.protocol).isSome
  single : ((after asked).registry.declared.map (·.protocol)).Nodup ∧
    ((after asked).registry.bound.map (·.1.protocol)).Nodup
  free : (∀ d ∈ (after asked).registry.declared, d.protocol.module ≠ 0) ∧
    ∀ entry ∈ (after asked).registry.bound, entry.1.protocol.module ≠ 0

theorem first_wins (asked : List (Registration H)) : FirstWins asked where
  declares d := by
    have room := (sound_after asked).taken_iff (e := .declare d)
    simp only [Registration.precludes_declare] at room
    exact room
  binds e bound := by
    rw [(sound_after asked).taken_iff]
    refine and_congr_right fun _ => forall₂_congr fun earlier _ => ?_
    rw [Registration.Precludes, not_and']
    simp [bound]
  takes e r took := by
    rw [after_concat, step, took]
  refuses e fault refused := by
    refine ⟨Registration.fault_of_attempt refused, ?_⟩
    rw [after_concat, step, refused]
  lookup := (sound_after asked).lookup
  handler? := (sound_after asked).handler?
  known entry held := by
    obtain ⟨e, took, binds⟩ := (sound_after asked).bound entry held
    exact (sound_after asked).lookup_isSome.mpr
      ⟨e, took, (Registration.protocol_of_binding? binds).symm⟩
  single := ⟨(sound_after asked).single, (sound_after asked).singleBound⟩
  free := by
    constructor
    · intro d held
      obtain ⟨e, took, rfl⟩ := (sound_after asked).declared d held
      exact ne_of_beq_false ((sound_after asked).free e took)
    · intro entry held
      obtain ⟨e, took, binds⟩ := (sound_after asked).bound entry held
      rw [Registration.protocol_of_binding? binds]
      exact ne_of_beq_false ((sound_after asked).free e took)

end Ledger
end ClusterWire
