import ClusterWire.Proofs.Cluster.Changes
import ClusterWire.Proofs.Relay.Homeward
import ClusterWire.Proofs.Settings
import ClusterWire.Startup
import Mathlib.Algebra.Group.Nat.Defs
import Mathlib.Data.List.Find

/-! From settings that pass their check to a running server. All that can still go wrong is that
there is no room for the workers; no check looks at how many are asked for. -/
namespace ClusterWire

theorem Pool.hasRoom_iff {size : Nat} : hasRoom size = true ↔ size < 2 ^ 60 := by
  have half : UInt64.size / 2 = 2 ^ 63 := rfl
  simp only [hasRoom, half, decide_eq_true_eq]
  omega

theorem ServerConfig.clusters_eq (c : ServerConfig) :
    c.clusters = Clusters.registerAll (c.info :: c.peers) .empty := rfl

namespace Settings

variable {exist : String → Bool} {s : Settings} {c : ServerConfig}

/-- The last entry among the peers for a server. -/
def lastPeer? (s : Settings) (type : ServerType) (id : UInt32) : Option KnownPeer :=
  s.cluster.peers.reverse.find? fun p => p.serverType == type && p.serverId == id

theorem lastPeer?_eq_none_iff {type : ServerType} {id : UInt32} :
    s.lastPeer? type id = none ↔ ∀ p ∈ s.cluster.peers, ¬p.IsOf type id := by
  simp [lastPeer?, KnownPeer.IsOf]

/-- What a view holds when it knows of the settings and of nothing else. -/
structure Shows (s : Settings) (view : Clusters) : Prop where
  /-- The server stands in it at the address that it listens on. -/
  own : ∃ address, SocketAddress.ofText? s.server.bindAddress = some address ∧
    view.member? s.server.serverType s.server.serverId =
      some { id := s.server.serverId, type := s.server.serverType, address := address }
  others : ∀ type id, ¬(s.server.serverType = type ∧ s.server.serverId = id) →
    view.member? type id = (s.lastPeer? type id).bind KnownPeer.info?
  /-- No peer is left out, and none is the server itself. -/
  peers : ∀ p ∈ s.cluster.peers, (view.member? p.serverType p.serverId).isSome ∧
    ¬p.IsOf s.server.serverType s.server.serverId
  listed : ∀ m, m ∈ view.listed ↔ view.member? m.type m.id = some m
  once : view.listed.Pairwise fun m n => ¬(m.type = n.type ∧ m.id = n.id)

theorem KnownPeer.of_info? {p : KnownPeer} {info : ServerInfo} (known : p.info? = some info) :
    info.type = p.serverType ∧ info.id = p.serverId := by
  obtain ⟨address, _, known⟩ := Option.bind_eq_some_iff.mp known
  cases known
  exact ⟨rfl, rfl⟩

theorem Valid.info? (valid : s.Valid exist) {p : KnownPeer} (listed : p ∈ s.cluster.peers) :
    ∃ info, p.info? = some info := by
  refine Option.ne_none_iff_exists'.mp fun unknown => ?_
  have unread := KnownPeer.info?_eq_none_iff.mp unknown
  have read : (SocketAddress.ofText? p.address).isSome := (valid.peers p listed).1
  rw [unread] at read
  cases read

theorem Becomes.find?_peers (becomes : s.Becomes c) (valid : s.Valid exist) (type : ServerType)
    (id : UInt32) :
    (c.peers.reverse.find? fun i => i.type == type && i.id == id) =
      (s.lastPeer? type id).bind KnownPeer.info? := by
  rw [becomes.peers, ← List.filterMap_reverse, List.find?_filterMap, lastPeer?]
  congr 1
  refine List.find?_congr fun p listed => ?_
  obtain ⟨info, known⟩ := valid.info? (List.mem_reverse.mp listed)
  obtain ⟨sameType, sameId⟩ := KnownPeer.of_info? known
  simp [known, sameType, sameId]

theorem Becomes.member?_clusters (becomes : s.Becomes c) (valid : s.Valid exist)
    (type : ServerType) (id : UInt32) :
    c.clusters.member? type id = ((s.lastPeer? type id).bind KnownPeer.info?).or
      (if c.type = type ∧ c.id = id then some c.info else none) := by
  have entered := Clusters.member?_registerAll Clusters.sound_empty (c.info :: c.peers) type id
  rw [ServerConfig.clusters_eq, entered, List.reverse_cons, List.find?_append,
    becomes.find?_peers valid, List.find?_singleton, Option.or_assoc]
  congr 1
  by_cases own : c.type = type ∧ c.id = id
  · simp [ServerConfig.info, own]
  · rw [if_neg own, if_neg fun same => own (by simpa [ServerConfig.info] using same)]
    rfl

theorem Becomes.shows (becomes : s.Becomes c) (valid : s.Valid exist) : s.Shows c.clusters := by
  have sound := Clusters.sound_empty.registerAll (c.info :: c.peers)
  have entered := becomes.member?_clusters valid
  rw [becomes.type, becomes.id] at entered
  refine ⟨⟨c.address, becomes.address, ?_⟩, fun type id other => ?_, fun p listed => ⟨?_, ?_⟩,
    fun m => sound.mem_listed, sound.listed_apart⟩
  · -- No peer is the server itself, so none has taken its place.
    have nobody : s.lastPeer? s.server.serverType s.server.serverId = none :=
      lastPeer?_eq_none_iff.mpr fun p listed => (valid.peers p listed).2
    rw [entered, nobody, if_pos ⟨rfl, rfl⟩, ServerConfig.info, becomes.type, becomes.id]
    rfl
  · rw [entered, if_neg other, Option.or_none]
  · rw [entered]
    cases last : s.lastPeer? p.serverType p.serverId with
    | none => exact absurd ⟨rfl, rfl⟩ (lastPeer?_eq_none_iff.mp last p listed)
    | some q =>
      obtain ⟨info, known⟩ := valid.info? (List.mem_reverse.mp (List.mem_of_find?_eq_some last))
      simp [known]
  · exact (valid.peers p listed).2

end Settings

namespace Server

variable {c : ServerConfig} {w : Wiring}

/-- Without routes of its own a server fits together as soon as its serializer is known. -/
theorem exists_build {compressor : Deflate.Compressor} (registry : w.registry = .empty)
    (serializers : w.serializers = .standard compressor)
    (known : c.defaultType ∈ Settings.serializerTypes) : ∃ server, build c w = .ok server := by
  have table : ∃ r, w.table = .ok r ∧ r.verify = .ok () := by
    unfold Wiring.table
    rw [registry]
    cases w.clusterHandlers <;> exact ⟨_, rfl, rfl⟩
  have served : ∃ serializers link,
      (Serializers.standard compressor).withDefault c.defaultType = .ok serializers ∧
        serializers.defaultSerializer = .ok link := by
    rcases List.mem_cons.mp known with json | deflate
    · exact ⟨_, _, by rw [json]; rfl, rfl⟩
    · exact ⟨_, _, by rw [List.mem_singleton.mp deflate]; rfl, rfl⟩
  obtain ⟨r, bound, verified⟩ := table
  obtain ⟨chosen, link, default, linked⟩ := served
  unfold build
  rw [serializers, default, bound]
  simp only [Except.mapError, bind, Except.bind, verified, linked]
  exact ⟨_, rfl⟩

theorem launch_of_build {server : Server} (built : build c w = .ok server) (cores : Nat) :
    launch c w cores =
      if c.workerCount cores < 2 ^ 60 then .ok server else .error .crowded := by
  simp only [launch, built, Pool.hasRoom_iff]
  rfl

end Server

namespace Settings

variable {exist : String → Bool} {s : Settings}

/-- Settings that pass the check become a configuration, and the workers alone decide whether a
server with it comes to run. -/
theorem Valid.launch (valid : s.Valid exist) : ∃ c, s.serverConfig? = some c ∧
    ∀ (w : Wiring) (compressor : Deflate.Compressor), w.registry = .empty →
      w.serializers = .standard compressor → ∃ server, s.Shows server.world.clusters ∧
        ∀ cores, Server.launch c w cores =
          if s.workersAsked cores < 2 ^ 60 then .ok server else .error .crowded := by
  cases converted : s.serverConfig? with
  | none =>
    exfalso
    rcases serverConfig?_eq_none_iff.mp converted with unread | ⟨p, listed, unread⟩
    · simpa [isAddress, unread] using valid.bindAddress
    · simpa [isAddress, unread] using (valid.peers p listed).1
  | some c =>
    have becomes := becomes_of_serverConfig? converted
    refine ⟨c, rfl, fun w compressor registry serializers => ?_⟩
    obtain ⟨server, built⟩ :=
      Server.exists_build registry serializers (becomes.serializer ▸ valid.serializer)
    refine ⟨server, (Server.of_build built).1 ▸ becomes.shows valid, fun cores => ?_⟩
    rw [Server.launch_of_build built, becomes.workers]

/-- Settings become a configuration as soon as their addresses can be read. If they pass the
check, a server comes to run exactly if fewer than 2^60 workers are asked for; it knows itself, at
its own address, and of other servers what is said last of them. -/
theorem starts_iff (s : Settings) :
    (s.serverConfig? = none ↔ SocketAddress.ofText? s.server.bindAddress = none ∨
      ∃ p ∈ s.cluster.peers, SocketAddress.ofText? p.address = none) ∧
    ∀ exist, s.validate exist = .ok () → ∃ c, s.serverConfig? = some c ∧
      ∀ (w : Wiring) (compressor : Deflate.Compressor) (cores : Nat), w.registry = .empty →
        w.serializers = .standard compressor →
        ((∃ server, Server.launch c w cores = .ok server ∧ s.Shows server.world.clusters) ↔
          s.workersAsked cores < 2 ^ 60) ∧
        (2 ^ 60 ≤ s.workersAsked cores → Server.launch c w cores = .error .crowded) := by
  refine ⟨serverConfig?_eq_none_iff, fun exist passed => ?_⟩
  obtain ⟨c, converted, launched⟩ := (validate_eq_ok_iff.mp passed).launch
  refine ⟨c, converted, fun w compressor cores registry serializers => ?_⟩
  obtain ⟨server, shown, launched⟩ := launched w compressor registry serializers
  rw [launched cores]
  refine ⟨⟨?_, fun room => ⟨server, if_pos room, shown⟩⟩, fun many => if_neg (Nat.not_lt.mpr many)⟩
  rintro ⟨other, running, _⟩
  by_contra crowded
  rw [if_neg crowded] at running
  cases running

/-- A battle server beside two chat servers, one of which has moved. -/
def neighbourhood : Settings where
  server := { serverType := "battle", workerThreads := 4 }
  cluster := {
    shardByIdentity := true
    peers := [⟨1, "chat", "10.0.0.1:7000"⟩, ⟨2, "chat", "10.0.0.2:7000"⟩,
      ⟨1, "chat", "[::1]:7000"⟩] }

/-- It relays by identity and serves the cluster's protocols. -/
def relaying : Wiring := { forward := .peers (some .standard), clusterHandlers := true }

theorem starts_iff_neighbourhood : neighbourhood.validate (fun _ => false) = .ok () ∧
    neighbourhood.workersAsked 2 < 2 ^ 60 ∧ ∃ c, neighbourhood.serverConfig? = some c ∧
      ∃ server, Server.launch c relaying 2 = .ok server ∧
        neighbourhood.Shows server.world.clusters ∧
        (server.world.clusters.member? "chat" 1).map (·.address) =
          some (.v6 [0, 0, 0, 0, 0, 0, 0, 1] 0 7000) := by
  have passed : neighbourhood.validate (fun _ => false) = .ok () := by rfl
  have few : neighbourhood.workersAsked 2 < 2 ^ 60 := by decide
  obtain ⟨c, converted, launched⟩ := (starts_iff neighbourhood).2 _ passed
  obtain ⟨server, running, shown⟩ := (launched relaying .stored 2 rfl rfl).1.mpr few
  refine ⟨passed, few, c, converted, server, running, shown, ?_⟩
  rw [shown.others "chat" 1 (by decide)]
  rfl

/-- More workers than there is room for. -/
def throng : Settings where
  server := { workerThreads := 4611686018427387904 }

theorem passed_not_started : throng.validate (fun _ => false) = .ok () ∧
    ∃ c, throng.serverConfig? = some c ∧ Server.launch c {} 1 = .error .crowded := by
  have passed : throng.validate (fun _ => false) = .ok () := by rfl
  obtain ⟨c, converted, launched⟩ := (validate_eq_ok_iff.mp passed).launch
  obtain ⟨_, _, launched⟩ := launched {} .stored rfl rfl
  refine ⟨passed, c, converted, ?_⟩
  rw [launched]
  exact if_neg (by decide)

end Settings

/-- The program refuses the settings that do not pass the check, and of the others those alone
that ask for too many workers: none for an address or for how the server is put together. -/
theorem Startup.assemble_eq_error_iff {exist : String → Bool} {cores : Nat} {path : String}
    {s : Settings} {fault : Fault} :
    assemble exist cores path s = .error fault ↔
      (∃ found, s.validate exist = .error found ∧ fault = .invalid found) ∨
        s.validate exist = .ok () ∧ 2 ^ 60 ≤ s.workersAsked cores ∧
          fault = .server s.logging .crowded := by
  unfold assemble
  cases checked : s.validate exist with
  | error found => simp [Except.mapError, bind, Except.bind, eq_comm]
  | ok u =>
    obtain ⟨c, converted, launched⟩ := (Settings.validate_eq_ok_iff.mp checked).launch
    obtain ⟨server, _, launched⟩ := launched (wiring s.cluster) .stored rfl rfl
    rw [converted]
    dsimp only
    rw [launched]
    by_cases room : s.workersAsked cores < 2 ^ 60
    · rw [if_pos room]
      refine iff_of_false (fun failed => nomatch failed) ?_
      rintro (⟨_, invalid, _⟩ | ⟨_, many, _⟩)
      · cases invalid
      · exact Nat.not_lt.mpr many room
    · rw [if_neg room]
      constructor
      · intro failed
        cases failed
        exact .inr ⟨rfl, Nat.not_lt.mp room, rfl⟩
      · rintro (⟨_, invalid, _⟩ | ⟨_, _, rfl⟩)
        · cases invalid
        · rfl

end ClusterWire
