import ClusterWire.Proofs.Checks
import ClusterWire.Proofs.Ledger
import Mathlib.Data.List.Nodup

/-! The check of response types before a start. It looks at the handlers that are answered for,
each with the response type that was declared last for its protocol, and tells the fault of the
first protocol that has one. In which order handlers were bound, types declared and the table is
gone through does not show, nor do asynchronous handlers and protocols that are only declared. -/
namespace ClusterWire

namespace ProtocolId

variable {a b c : ProtocolId}

theorem before_iff :
    a.before b ↔ a.module < b.module ∨ a.module = b.module ∧ a.method < b.method := by
  simp [before]

theorem not_before_self (a : ProtocolId) : ¬a.before a := by
  simp [before_iff, Int16.lt_irrefl, Int8.lt_irrefl]

theorem before_trans (first : a.before b) (second : b.before c) : a.before c := by
  rw [before_iff] at *
  rcases first with first | ⟨same, first⟩
  · rcases second with second | ⟨same', _⟩
    · exact .inl (Int16.lt_trans first second)
    · exact .inl (same' ▸ first)
  · rcases second with second | ⟨same', second⟩
    · exact .inl (same ▸ second)
    · exact .inr ⟨same.trans same', Int8.lt_trans first second⟩

theorem before_or (a b : ProtocolId) : a.before b ∨ a = b ∨ b.before a := by
  simp only [before_iff]
  rcases Std.lt_trichotomy a.module b.module with less | same | greater
  · exact .inl (.inl less)
  · rcases Std.lt_trichotomy a.method b.method with less | alike | greater
    · exact .inl (.inr ⟨same, less⟩)
    · cases a
      cases b
      simp_all
    · exact .inr (.inr (.inr ⟨same.symm, greater⟩))
  · exact .inr (.inr (.inl greater))

end ProtocolId

namespace Descriptor

/-- What a handler owes to callers that expect the response type, if any is expected: one that is
answered for names its response type, and the expected one. -/
def Suits (d : Descriptor) (expected : Option String) : Prop :=
  d.mode = .synchronous →
    ∃ actual, d.responseType = some actual ∧ ∀ type, expected = some type → actual = type

/-- What is wrong with a handler of which a response type may be expected. -/
inductive Violates (d : Descriptor) (expected : Option String) : RegistryFault → Prop
  | unnamed (waited : d.mode = .synchronous) (silent : d.responseType = none) :
      Violates d expected (.missingResponseType d.protocol d.name)
  | mismatch {type actual : String} (waited : d.mode = .synchronous)
      (named : d.responseType = some actual) (declared : expected = some type)
      (differ : type ≠ actual) :
      Violates d expected (.responseTypeMismatch d.protocol type actual)

variable {d : Descriptor} {expected : Option String} {fault : RegistryFault}

theorem Violates.waited (violates : d.Violates expected fault) : d.mode = .synchronous := by
  cases violates <;> assumption

theorem check_spec (d : Descriptor) (shapes : List (ProtocolId × String)) :
    (Registry.check shapes d = .ok () ∧ d.Suits (shapes.lookup d.protocol)) ∨
      ∃ fault, Registry.check shapes d = .error fault ∧
        d.Violates (shapes.lookup d.protocol) fault := by
  unfold Registry.check
  split
  · rename_i idle
    have unwaited : d.mode ≠ .synchronous := by simpa [isSynchronous] using idle
    exact .inl ⟨rfl, fun waited => absurd waited unwaited⟩
  · rename_i busy
    have waited : d.mode = .synchronous := by simpa [isSynchronous] using busy
    cases named : d.responseType with
    | none => exact .inr ⟨_, rfl, .unnamed waited named⟩
    | some actual =>
      cases declared : shapes.lookup d.protocol with
      | none => exact .inl ⟨rfl, fun _ => ⟨actual, named, fun _ held => nomatch held⟩⟩
      | some type =>
        dsimp only
        split
        · rename_i same
          refine .inl ⟨rfl, fun _ => ⟨actual, named, fun other held => ?_⟩⟩
          exact same.symm.trans (Option.some.inj held)
        · rename_i differ
          exact .inr ⟨_, rfl, .mismatch waited named rfl differ⟩

theorem Suits.not_violates (suits : d.Suits expected) : ¬d.Violates expected fault := by
  intro violates
  obtain ⟨actual, named, alike⟩ := suits violates.waited
  cases violates with
  | unnamed _ silent =>
    rw [named] at silent
    cases silent
  | mismatch _ named' declared differ =>
    rw [named] at named'
    cases named'
    exact differ (alike _ declared).symm

theorem suits_iff : d.Suits expected ↔ ∀ fault, ¬d.Violates expected fault := by
  refine ⟨fun suits fault => suits.not_violates, fun faultless waited => ?_⟩
  cases named : d.responseType with
  | none => exact absurd (.unnamed waited named) (faultless _)
  | some actual =>
    refine ⟨actual, rfl, fun type declared => ?_⟩
    by_contra differ
    exact faultless _ (.mismatch waited named declared (Ne.symm differ))

theorem check_eq_ok_iff {shapes : List (ProtocolId × String)} :
    Registry.check shapes d = .ok () ↔ d.Suits (shapes.lookup d.protocol) := by
  rcases check_spec d shapes with ⟨passed, suits⟩ | ⟨fault, failed, violates⟩
  · exact iff_of_true passed suits
  · rw [failed]
    exact iff_of_false (fun same => nomatch same) fun suits => suits.not_violates violates

theorem check_eq_error_iff {shapes : List (ProtocolId × String)} :
    Registry.check shapes d = .error fault ↔ d.Violates (shapes.lookup d.protocol) fault := by
  rcases check_spec d shapes with ⟨passed, suits⟩ | ⟨found, failed, violates⟩
  · rw [passed]
    exact iff_of_false (fun same => nomatch same) suits.not_violates
  · rw [failed]
    constructor
    · intro same
      exact Except.error.inj same ▸ violates
    · intro also
      cases violates <;> cases also <;> simp_all

end Descriptor

namespace Registry

variable {H : Type} {r : Registry H} {fault : RegistryFault}

/-- Handlers in the order of their protocols, no protocol twice. -/
def Lined (entries : List (Descriptor × H)) : Prop :=
  entries.Pairwise fun a b => a.1.protocol.before b.1.protocol

theorem lined_insert {d : Descriptor} {handler : H} {entries : List (Descriptor × H)}
    (lined : Lined entries) (new : ∀ entry ∈ entries, entry.1.protocol ≠ d.protocol) :
    Lined (insert d handler entries) := by
  fun_induction insert d handler entries with
  | case1 => exact List.pairwise_singleton _ _
  | case2 e k rest before =>
    obtain ⟨above, _⟩ := List.pairwise_cons.mp lined
    refine List.pairwise_cons.mpr ⟨fun entry held => ?_, lined⟩
    rcases List.mem_cons.mp held with rfl | held
    · exact before
    · exact ProtocolId.before_trans before (above entry held)
  | case3 e k rest behind ih =>
    obtain ⟨above, tail⟩ := List.pairwise_cons.mp lined
    have after : e.protocol.before d.protocol := by
      rcases ProtocolId.before_or e.protocol d.protocol with before | same | after
      · exact before
      · exact absurd same (new (e, k) List.mem_cons_self)
      · exact absurd after behind
    refine List.pairwise_cons.mpr ⟨fun entry held => ?_, ih tail fun entry held =>
      new entry (List.mem_cons_of_mem _ held)⟩
    rcases mem_insert.mp held with rfl | held
    · exact after
    · exact above entry held

theorem verify_eq_ok_iff :
    r.verify = .ok () ↔ ∀ entry ∈ r.bound, entry.1.Suits (r.shapes.lookup entry.1.protocol) := by
  simp only [← Descriptor.check_eq_ok_iff]
  exact Checks.forM_eq_ok_iff

/-- The first handler with a fault is the one whose fault is told. -/
theorem verify_eq_error_iff (lined : Lined r.bound) :
    r.verify = .error fault ↔
      ∃ entry ∈ r.bound, entry.1.Violates (r.shapes.lookup entry.1.protocol) fault ∧
        ∀ other ∈ r.bound, other.1.protocol.before entry.1.protocol →
          other.1.Suits (r.shapes.lookup other.1.protocol) := by
  simp only [← Descriptor.check_eq_ok_iff, ← Descriptor.check_eq_error_iff]
  refine Checks.forM_eq_error_iff.trans ⟨?_, ?_⟩
  · rintro ⟨front, entry, back, split, passed, refused⟩
    rw [split] at lined ⊢
    obtain ⟨_, behind, _⟩ := List.pairwise_append.mp lined
    refine ⟨entry, by simp, refused, fun other held before => ?_⟩
    rcases List.mem_append.mp held with held | held
    · exact passed other held
    · rcases List.mem_cons.mp held with rfl | held
      · exact absurd before (ProtocolId.not_before_self _)
      · have after := (List.pairwise_cons.mp behind).1 other held
        exact absurd (ProtocolId.before_trans before after) (ProtocolId.not_before_self _)
  · rintro ⟨entry, held, refused, passed⟩
    obtain ⟨front, back, split⟩ := List.append_of_mem held
    refine ⟨front, entry, back, split, fun other first => ?_, refused⟩
    rw [split] at lined passed
    obtain ⟨_, _, across⟩ := List.pairwise_append.mp lined
    exact passed other (List.mem_append_left _ first) (across other first entry List.mem_cons_self)

theorem eq_of_protocol {entries : List (Descriptor × H)} (lined : Lined entries)
    {a b : Descriptor × H} (first : a ∈ entries) (second : b ∈ entries)
    (same : a.1.protocol = b.1.protocol) : a = b := by
  induction entries with
  | nil => cases first
  | cons e rest ih =>
    obtain ⟨above, tail⟩ := List.pairwise_cons.mp lined
    have past : ∀ c ∈ rest, e.1.protocol ≠ c.1.protocol := by
      intro c held alike
      have before := above c held
      rw [alike] at before
      exact ProtocolId.not_before_self _ before
    rcases List.mem_cons.mp first with rfl | inFirst
    · rcases List.mem_cons.mp second with rfl | inSecond
      · rfl
      · exact absurd same (past b inSecond)
    · rcases List.mem_cons.mp second with rfl | inSecond
      · exact absurd same.symm (past a inFirst)
      · exact ih tail inFirst inSecond

/-- However the table is gone through, sorting by protocol gives the order in which it is kept. -/
theorem mergeSort_eq_bound (lined : Lined r.bound) {entries : List (Descriptor × H)}
    (same : entries.Perm r.bound) :
    (entries.mergeSort fun a b => !b.1.protocol.before a.1.protocol) = r.bound := by
  let upTo (a b : Descriptor × H) : Bool := !b.1.protocol.before a.1.protocol
  have upTo_iff : ∀ a b, upTo a b ↔ ¬b.1.protocol.before a.1.protocol := by simp [upTo]
  have trans : ∀ a b c, upTo a b → upTo b c → upTo a c := by
    intro a b c first second
    rw [upTo_iff] at *
    intro after
    rcases ProtocolId.before_or a.1.protocol b.1.protocol with before | alike | behind
    · exact second (ProtocolId.before_trans after before)
    · exact second (alike ▸ after)
    · exact first behind
  have total : ∀ a b, (upTo a b || upTo b a) = true := by
    intro a b
    rw [Bool.or_eq_true, upTo_iff, upTo_iff]
    by_contra both
    obtain ⟨first, second⟩ := not_or.mp both
    exact ProtocolId.not_before_self _
      (ProtocolId.before_trans (not_not.mp first) (not_not.mp second))
  have perm := (List.mergeSort_perm entries upTo).trans same
  have ordered : r.bound.Pairwise fun a b => upTo a b = true := lined.imp fun before =>
    (upTo_iff _ _).mpr fun after =>
      ProtocolId.not_before_self _ (ProtocolId.before_trans before after)
  refine List.Perm.eq_of_pairwise ?_ (List.pairwise_mergeSort trans total entries) ordered perm
  intro a b first second before after
  rw [upTo_iff] at before after
  refine eq_of_protocol lined (perm.mem_iff.mp first) second ?_
  rcases ProtocolId.before_or a.1.protocol b.1.protocol with less | alike | greater
  · exact absurd less after
  · exact alike
  · exact absurd greater before

end Registry

/-- What an application asks of a registry before the start. -/
inductive Setup (H : Type) where
  | register (e : Registration H)
  | expect (protocol : ProtocolId) (type : String)

namespace Setup

variable {H : Type}

/-- What is refused leaves the registry as it was. -/
def apply (r : Registry H) : Setup H → Registry H
  | register e => (e.attempt r).toOption.getD r
  | expect protocol type => r.expect protocol type

def registry (asked : List (Setup H)) : Registry H := asked.foldl apply .empty

def binding? : Setup H → Option (Descriptor × H)
  | register e => e.binding?
  | expect _ _ => none

def expected? (id : ProtocolId) : Setup H → Option String
  | register _ => none
  | expect protocol type => if protocol = id then some type else none

/-- Who serves a protocol: the first handler that was to be bound, unless the protocol is reserved. -/
def bound? (asked : List (Setup H)) (id : ProtocolId) : Option (Descriptor × H) :=
  if id.isReserved then none else (asked.filterMap binding?).find? (·.1.protocol == id)

/-- The response type that is expected of a protocol: the last one declared. -/
def shape? (asked : List (Setup H)) (id : ProtocolId) : Option String :=
  asked.reverse.findSome? (expected? id)

theorem shape?_concat (asked : List (Setup H)) (next : Setup H) (id : ProtocolId) :
    shape? (asked ++ [next]) id = (next.expected? id).or (shape? asked id) := by
  simp [shape?, List.findSome?_cons]
  cases next.expected? id <;> rfl

theorem bound?_of_reserved {id : ProtocolId} (reserved : id.isReserved) (asked : List (Setup H)) :
    bound? asked id = none := if_pos reserved

theorem bound?_concat {id : ProtocolId} (free : id.isReserved = false) (asked : List (Setup H))
    (next : Setup H) :
    bound? (asked ++ [next]) id =
      (bound? asked id).or (next.binding?.filter (·.1.protocol == id)) := by
  have here : ([next].filterMap binding?).find? (·.1.protocol == id) =
      next.binding?.filter (·.1.protocol == id) := by
    cases binds : next.binding? with
    | none => simp [binds]
    | some entry => by_cases own : entry.1.protocol = id <;> simp [binds, own, Option.filter_some]
  simp only [bound?, free, Bool.false_eq_true, if_false, List.filterMap_append, List.find?_append,
    here]

theorem apply_register (e : Registration H) (r : Registry H) :
    (register e).apply r = (e.attempt r).toOption.getD r := rfl

/-- A binding is taken where none was, unless its module is reserved. -/
theorem handler?_register (e : Registration H) (r : Registry H) {id : ProtocolId}
    (free : id.isReserved = false) :
    ((register e).apply r).handler? id =
      (r.handler? id).or (e.binding?.filter (·.1.protocol == id)) := by
  rw [apply_register]
  cases attempted : e.attempt r with
  | ok s =>
    obtain ⟨_, room, rfl⟩ := Registration.attempt_eq_ok.mp attempted
    exact Ledger.handler?_enter room id
  | error fault =>
    show r.handler? id = _
    cases binds : e.binding? with
    | none => simp
    | some entry =>
      rw [Option.filter_some]
      split
      · rename_i own
        have home : e.protocol = id :=
          (Registration.protocol_of_binding? binds).symm.trans (eq_of_beq own)
        have blocked : e.Blocked r := by
          by_contra room
          have taken := Registration.attempt_eq_ok.mpr ⟨home ▸ free, room, rfl⟩
          rw [attempted] at taken
          cases taken
        rw [Registration.Blocked, if_pos (Option.isSome_of_eq_some binds), home] at blocked
        exact (Option.or_of_isSome blocked).symm
      · exact Option.or_none.symm

theorem lookup_expect (r : Registry H) (protocol id : ProtocolId) (type : String) :
    (r.expect protocol type).shapes.lookup id =
      if protocol = id then some type else r.shapes.lookup id := by
  have kept : ∀ shapes : List (ProtocolId × String), protocol ≠ id →
      (shapes.filter (·.1 != protocol)).lookup id = shapes.lookup id := by
    intro shapes other
    induction shapes with
    | nil => rfl
    | cons entry rest ih =>
      obtain ⟨own, expected⟩ := entry
      by_cases gone : own = protocol
      · subst gone
        have past : (id == own) = false := beq_eq_false_iff_ne.mpr other.symm
        simpa [List.lookup_cons, past] using ih
      · simp [gone, List.lookup_cons, ih]
  unfold Registry.expect
  rw [List.lookup_cons]
  by_cases own : protocol = id
  · simp [own]
  · have past : (id == protocol) = false := beq_eq_false_iff_ne.mpr (Ne.symm own)
    simp only [past, if_neg own, kept r.shapes own]

theorem built_apply {r : Registry H} (built : r.Built) (next : Setup H) : (next.apply r).Built := by
  cases next with
  | expect protocol type => exact built.expect protocol type
  | register e =>
    rw [apply_register]
    cases attempted : e.attempt r with
    | error fault => exact built
    | ok s =>
      cases e with
      | declare d => exact built.declare d attempted
      | bind d handler => exact built.bind d handler attempted
      | route d responseType handler => exact built.route d responseType handler attempted

theorem lined_apply {r : Registry H} (lined : Registry.Lined r.bound) (next : Setup H) :
    Registry.Lined (next.apply r).bound := by
  cases next with
  | expect protocol type => exact lined
  | register e =>
    rw [apply_register]
    cases attempted : e.attempt r with
    | error fault => exact lined
    | ok s =>
      obtain ⟨_, room, rfl⟩ := Registration.attempt_eq_ok.mp attempted
      show Registry.Lined (e.enter r).bound
      cases binds : e.binding? with
      | none =>
        rw [Registration.bound_enter_of_unbound binds]
        exact lined
      | some entry =>
        rw [Registration.bound_enter_of_bound binds]
        exact Registry.lined_insert lined (Registration.new_of_room binds room)

theorem lookup_apply (r : Registry H) (next : Setup H) (id : ProtocolId) :
    (next.apply r).shapes.lookup id = (next.expected? id).or (r.shapes.lookup id) := by
  cases next with
  | expect protocol type =>
    show (r.expect protocol type).shapes.lookup id = _
    rw [lookup_expect, expected?]
    split <;> rfl
  | register e =>
    rw [apply_register]
    cases attempted : e.attempt r with
    | error fault => rfl
    | ok s =>
      obtain ⟨_, _, rfl⟩ := Registration.attempt_eq_ok.mp attempted
      rfl

/-- The tables are those of the history. -/
structure Mirrors (r : Registry H) (asked : List (Setup H)) : Prop where
  built : r.Built
  lined : Registry.Lined r.bound
  handler? : ∀ id, r.handler? id = bound? asked id
  lookup : ∀ id, r.shapes.lookup id = shape? asked id

theorem mirrors_empty : Mirrors (.empty : Registry H) [] where
  built := .empty
  lined := .nil
  handler? id := by simp [Registry.handler?, Registry.empty, bound?]
  lookup _ := rfl

theorem handler?_of_reserved {r : Registry H} (built : r.Built) {id : ProtocolId}
    (reserved : id.isReserved) : r.handler? id = none := by
  cases found : r.handler? id with
  | none => rfl
  | some entry =>
    have free := built.handled_not_reserved found
    rw [reserved] at free
    cases free

theorem Mirrors.apply {r : Registry H} {asked : List (Setup H)} (mirrors : Mirrors r asked)
    (next : Setup H) : Mirrors (next.apply r) (asked ++ [next]) where
  built := built_apply mirrors.built next
  lined := lined_apply mirrors.lined next
  lookup id := by rw [shape?_concat, ← mirrors.lookup, lookup_apply]
  handler? id := by
    cases reserved : id.isReserved with
    | true =>
      rw [handler?_of_reserved (built_apply mirrors.built next) reserved,
        bound?_of_reserved reserved]
    | false =>
      rw [bound?_concat reserved, ← mirrors.handler?]
      cases next with
      | register e => exact handler?_register e r reserved
      | expect protocol type => exact Option.or_none.symm

theorem mirrors_foldl {r : Registry H} {before : List (Setup H)} (mirrors : Mirrors r before)
    (asked : List (Setup H)) : Mirrors (asked.foldl Setup.apply r) (before ++ asked) := by
  induction asked generalizing r before with
  | nil => simpa using mirrors
  | cons next later ih => simpa using ih (mirrors.apply next)

theorem mirrors_registry (asked : List (Setup H)) : Mirrors (registry asked) asked :=
  mirrors_foldl mirrors_empty asked

theorem Mirrors.mem_bound {r : Registry H} {asked : List (Setup H)} (mirrors : Mirrors r asked)
    {entry : Descriptor × H} : entry ∈ r.bound ↔ bound? asked entry.1.protocol = some entry := by
  rw [← mirrors.handler?]
  constructor
  · intro held
    cases found : r.handler? entry.1.protocol with
    | none => exact absurd (beq_self_eq_true _) (List.find?_eq_none.mp found entry held)
    | some other =>
      have own := Registry.protocol_of_handler? found
      rw [Registry.eq_of_protocol mirrors.lined (List.mem_of_find?_eq_some found) held own]
  · exact List.mem_of_find?_eq_some

theorem protocol_of_bound? {asked : List (Setup H)} {id : ProtocolId} {entry : Descriptor × H}
    (bound : bound? asked id = some entry) : entry.1.protocol = id := by
  rw [← (mirrors_registry asked).handler?] at bound
  exact Registry.protocol_of_handler? bound

/-- What is wrong with the handler of a protocol, after all that was asked for. -/
def Flawed (asked : List (Setup H)) (id : ProtocolId) (fault : RegistryFault) : Prop :=
  ∃ entry, bound? asked id = some entry ∧ entry.1.Violates (shape? asked id) fault

def Sound (asked : List (Setup H)) (id : ProtocolId) : Prop :=
  ∀ entry, bound? asked id = some entry → entry.1.Suits (shape? asked id)

theorem verify_eq_ok_iff (asked : List (Setup H)) :
    (registry asked).verify = .ok () ↔ ∀ id, Sound asked id := by
  have mirrors := mirrors_registry asked
  rw [Registry.verify_eq_ok_iff]
  constructor
  · intro suits id entry bound
    have own := protocol_of_bound? bound
    subst own
    exact mirrors.lookup _ ▸ suits entry (mirrors.mem_bound.mpr bound)
  · intro sound entry held
    rw [mirrors.lookup]
    exact sound _ entry (mirrors.mem_bound.mp held)

theorem verify_eq_error_iff (asked : List (Setup H)) {fault : RegistryFault} :
    (registry asked).verify = .error fault ↔
      ∃ id, Flawed asked id fault ∧ ∀ other : ProtocolId, other.before id → Sound asked other := by
  have mirrors := mirrors_registry asked
  rw [Registry.verify_eq_error_iff mirrors.lined]
  constructor
  · rintro ⟨entry, held, violates, first⟩
    rw [mirrors.lookup] at violates
    refine ⟨_, ⟨entry, mirrors.mem_bound.mp held, violates⟩, fun id before other bound => ?_⟩
    have own := protocol_of_bound? bound
    subst own
    exact mirrors.lookup _ ▸ first other (mirrors.mem_bound.mpr bound) before
  · rintro ⟨id, ⟨entry, bound, violates⟩, first⟩
    have own := protocol_of_bound? bound
    subst own
    refine ⟨entry, mirrors.mem_bound.mpr bound, mirrors.lookup _ ▸ violates, fun other held before => ?_⟩
    rw [mirrors.lookup]
    exact first _ before other (mirrors.mem_bound.mp held)

/-- Histories that leave the same handlers to be answered for, and the same response types expected
of these. -/
structure Alike (asked others : List (Setup H)) : Prop where
  bound : ∀ id d, d.mode = .synchronous →
    ((bound? asked id).map (·.1) = some d ↔ (bound? others id).map (·.1) = some d)
  shape : ∀ id entry, bound? asked id = some entry → entry.1.mode = .synchronous →
    shape? asked id = shape? others id

theorem sound_iff {asked : List (Setup H)} {id : ProtocolId} :
    Sound asked id ↔ ∀ fault, ¬Flawed asked id fault := by
  simp only [Sound, Flawed, Descriptor.suits_iff, not_exists, not_and]
  exact ⟨fun sound fault entry bound => sound entry bound fault,
    fun sound entry bound fault => sound fault entry bound⟩

variable {asked others : List (Setup H)} {id : ProtocolId} {fault : RegistryFault}

theorem Alike.flawed_iff (alike : Alike asked others) :
    Flawed asked id fault ↔ Flawed others id fault := by
  constructor
  · rintro ⟨entry, bound, violates⟩
    have waited := violates.waited
    have there := (alike.bound id entry.1 waited).mp (by rw [bound]; rfl)
    obtain ⟨entry', bound', same⟩ := Option.map_eq_some_iff.mp there
    refine ⟨entry', bound', ?_⟩
    rw [same, ← alike.shape id entry bound waited]
    exact violates
  · rintro ⟨entry, bound, violates⟩
    have waited := violates.waited
    have there := (alike.bound id entry.1 waited).mpr (by rw [bound]; rfl)
    obtain ⟨entry', bound', same⟩ := Option.map_eq_some_iff.mp there
    refine ⟨entry', bound', ?_⟩
    rw [alike.shape id entry' bound' (same ▸ waited), same]
    exact violates

/-- The verdict hangs on nothing but the faults of the protocols. -/
theorem Alike.verify_eq (alike : Alike asked others) :
    (registry others).verify = (registry asked).verify := by
  have same : ∀ id fault, Flawed others id fault ↔ Flawed asked id fault :=
    fun _ _ => alike.flawed_iff.symm
  cases verdict : (registry asked).verify with
  | ok u =>
    rw [verify_eq_ok_iff] at verdict ⊢
    simpa only [sound_iff, same] using verdict
  | error fault =>
    rw [verify_eq_error_iff] at verdict ⊢
    simpa only [sound_iff, same] using verdict

/-- What is said of a registry before the start, after all that was asked of it. -/
structure Checked (asked : List (Setup H)) : Prop where
  bound : ∀ id, (registry asked).handler? id = bound? asked id
  passes : (registry asked).verify = .ok () ↔
    ∀ id entry, bound? asked id = some entry → entry.1.mode = .synchronous →
      ∃ actual, entry.1.responseType = some actual ∧
        ∀ type, shape? asked id = some type → actual = type
  fails : ∀ fault, (registry asked).verify = .error fault ↔
    ∃ id, Flawed asked id fault ∧
      ∀ earlier : ProtocolId, earlier.before id → ∀ fault', ¬Flawed asked earlier fault'
  /-- The table may be gone through in any order. -/
  gone : ∀ entries : List (Descriptor × H), entries.Perm (registry asked).bound →
    (entries.mergeSort fun a b => !b.1.protocol.before a.1.protocol).forM
      (fun entry => Registry.check (registry asked).shapes entry.1) = (registry asked).verify
  /-- What is only declared does not count, nor do handlers that nobody waits for. -/
  idle : Registry.verify
    { registry asked with
      declared := []
      bound := (registry asked).bound.filter (·.1.isSynchronous) } = (registry asked).verify
  /-- It does not count either in which order all this was asked for. -/
  history : ∀ others, Alike asked others → (registry others).verify = (registry asked).verify

/-- A registry passes the check exactly if every handler that is answered for names the response
type that was declared last for its protocol; otherwise the fault of the first protocol is told. -/
theorem checked (asked : List (Setup H)) : Checked asked where
  bound := (mirrors_registry asked).handler?
  passes := verify_eq_ok_iff asked
  fails fault := by
    simpa only [sound_iff] using verify_eq_error_iff asked
  gone entries same := by
    rw [Registry.mergeSort_eq_bound (mirrors_registry asked).lined same]
    rfl
  idle := by
    refine Checks.forM_filter fun entry _ unwaited => ?_
    simp [Registry.check, unwaited]
  history _ alike := alike.verify_eq

end Setup
end ClusterWire
