import ClusterWire.Proofs.Checks
import ClusterWire.Settings.Validation

/-! What settings are like that pass their check, and which settings, checked or not, become the
configuration of a server. -/
namespace ClusterWire.Settings

variable {exist : String → Bool} {s : Settings} {c : ServerConfig}

theorem require_eq_ok_iff {holds : Bool} {fault : Fault} :
    require holds fault = .ok () ↔ holds = true := by
  cases holds <;> simp [require]

def KnownPeer.IsOf (p : KnownPeer) (type : ServerType) (id : UInt32) : Prop :=
  p.serverType = type ∧ p.serverId = id

/-- Settings in which the check finds nothing. -/
structure Valid (exist : String → Bool) (s : Settings) : Prop where
  bindAddress : isAddress s.server.bindAddress
  serverType : Text.isBlankText s.server.serverType = false
  connections : s.server.maxConnections ≠ 0
  connectionTimeout : s.server.connectionTimeout ≠ 0
  callTimeout : s.rpc.timeout ≠ 0
  frameLength : s.rpc.maxFrameLength ≠ 0
  serializer : s.rpc.defaultSerializeType ∈ serializerTypes
  peers : ∀ p ∈ s.cluster.peers,
    isAddress p.address ∧ ¬p.IsOf s.server.serverType s.server.serverId
  registry : ∀ text ∈ s.cluster.registryAddress, isAddress text
  files : ∀ c ∈ s.tls, ∀ path ∈ c.certificate :: c.key :: c.authority.toList, exist path
  level : s.logging.level ∈ levels

theorem Listener.validate_eq_ok_iff {l : Listener} :
    l.validate = .ok () ↔ isAddress l.bindAddress ∧ Text.isBlankText l.serverType = false ∧
      l.maxConnections ≠ 0 ∧ l.connectionTimeout ≠ 0 := by
  simp [validate, Checks.bind_eq_ok_iff, require_eq_ok_iff]

theorem Calls.validate_eq_ok_iff {c : Calls} :
    c.validate = .ok () ↔ c.timeout ≠ 0 ∧ c.maxFrameLength ≠ 0 ∧
      c.defaultSerializeType ∈ serializerTypes := by
  simp [validate, Checks.bind_eq_ok_iff, require_eq_ok_iff]

theorem KnownPeer.validate_eq_ok_iff {l : Listener} {p : KnownPeer} :
    p.validate l = .ok () ↔ isAddress p.address ∧ ¬p.IsOf l.serverType l.serverId := by
  simp [validate, IsOf, Checks.bind_eq_ok_iff, require_eq_ok_iff, Decidable.imp_iff_not_or]

theorem Membership.validate_eq_ok_iff {l : Listener} {m : Membership} :
    m.validate l = .ok () ↔
      (∀ p ∈ m.peers, isAddress p.address ∧ ¬p.IsOf l.serverType l.serverId) ∧
        ∀ text ∈ m.registryAddress, isAddress text := by
  rw [validate, Checks.bind_eq_ok_iff, Checks.forM_eq_ok_iff]
  simp only [KnownPeer.validate_eq_ok_iff]
  cases m.registryAddress <;> simp [require_eq_ok_iff]

theorem validateFiles_eq_ok_iff {c : Certificates} :
    validateFiles exist c = .ok () ↔
      ∀ path ∈ c.certificate :: c.key :: c.authority.toList, exist path := by
  rw [validateFiles, Checks.forM_eq_ok_iff]
  simp only [require_eq_ok_iff]

theorem validate_eq_ok_iff : s.validate exist = .ok () ↔ s.Valid exist := by
  have files : s.validate exist = .ok () ↔ s.server.validate = .ok () ∧ s.rpc.validate = .ok () ∧
      s.cluster.validate s.server = .ok () ∧ (∀ c ∈ s.tls, validateFiles exist c = .ok ()) ∧
      s.logging.validate = .ok () := by
    unfold validate
    cases s.tls <;> simp [Checks.bind_eq_ok_iff]
  rw [files, Listener.validate_eq_ok_iff, Calls.validate_eq_ok_iff,
    Membership.validate_eq_ok_iff, Logging.validate, require_eq_ok_iff, List.contains_iff_mem]
  simp only [validateFiles_eq_ok_iff]
  constructor
  · rintro ⟨⟨address, type, connections, idle⟩, ⟨timeout, length, serializer⟩,
      ⟨peers, registry⟩, files, level⟩
    exact ⟨address, type, connections, idle, timeout, length, serializer, peers, registry,
      files, level⟩
  · intro valid
    exact ⟨⟨valid.bindAddress, valid.serverType, valid.connections, valid.connectionTimeout⟩,
      ⟨valid.callTimeout, valid.frameLength, valid.serializer⟩,
      ⟨valid.peers, valid.registry⟩, valid.files, valid.level⟩

/-! ### The configuration -/

theorem mapM_eq_none_iff {α β : Type} {f : α → Option β} {xs : List α} :
    xs.mapM f = none ↔ ∃ x ∈ xs, f x = none := by
  induction xs with
  | nil => simp
  | cons x rest ih =>
    simp only [List.mem_cons, exists_eq_or_imp, ← ih]
    rw [List.mapM_cons]
    cases f x <;> cases rest.mapM f <;> simp

theorem filterMap_of_mapM {α β : Type} {f : α → Option β} {xs : List α} {ys : List β}
    (mapped : xs.mapM f = some ys) : xs.filterMap f = ys := by
  induction xs generalizing ys with
  | nil => exact Option.some.inj mapped
  | cons x rest ih =>
    rw [List.mapM_cons] at mapped
    obtain ⟨y, first, mapped⟩ := Option.bind_eq_some_iff.mp mapped
    obtain ⟨others, tail, mapped⟩ := Option.bind_eq_some_iff.mp mapped
    cases mapped
    rw [List.filterMap_cons_some first, ih tail]

theorem KnownPeer.info?_eq_none_iff {p : KnownPeer} :
    p.info? = none ↔ SocketAddress.ofText? p.address = none := by
  unfold info?
  cases SocketAddress.ofText? p.address <;> simp

/-- The conversion fails at the first address that cannot be read. -/
theorem serverConfig?_eq_none_iff :
    s.serverConfig? = none ↔ SocketAddress.ofText? s.server.bindAddress = none ∨
      ∃ p ∈ s.cluster.peers, SocketAddress.ofText? p.address = none := by
  simp only [← KnownPeer.info?_eq_none_iff, ← mapM_eq_none_iff]
  unfold serverConfig?
  cases s.cluster.peers.mapM KnownPeer.info? with
  | none => simp
  | some infos => cases SocketAddress.ofText? s.server.bindAddress <;> simp

/-- The workers that a server with these settings is to have. -/
def workersAsked (s : Settings) (cores : Nat) : Nat :=
  if s.server.workerThreads = 0 then 2 * cores else s.server.workerThreads.toNat

/-- What of the settings decides whether a server starts and whom it knows then. -/
structure Becomes (s : Settings) (c : ServerConfig) : Prop where
  address : SocketAddress.ofText? s.server.bindAddress = some c.address
  id : c.id = s.server.serverId
  type : c.type = s.server.serverType
  serializer : c.defaultType = s.rpc.defaultSerializeType
  workers : ∀ cores, c.workerCount cores = s.workersAsked cores
  peers : c.peers = s.cluster.peers.filterMap KnownPeer.info?

theorem becomes_of_serverConfig? (converted : s.serverConfig? = some c) : s.Becomes c := by
  unfold serverConfig? at converted
  obtain ⟨infos, peers, converted⟩ := Option.bind_eq_some_iff.mp converted
  obtain ⟨address, bound, converted⟩ := Option.bind_eq_some_iff.mp converted
  cases converted
  refine ⟨bound, rfl, rfl, rfl, fun cores => ?_, ?_⟩
  · unfold ServerConfig.workerCount workersAsked
    dsimp only
    split <;> rfl
  · exact (filterMap_of_mapM peers).symm

end ClusterWire.Settings
