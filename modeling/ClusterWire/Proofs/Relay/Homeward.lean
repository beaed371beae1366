import ClusterWire.Proofs.Activity
import ClusterWire.Proofs.Cluster.Views
import ClusterWire.Proofs.Json.RoundTrip
import ClusterWire.Proofs.Registry
import ClusterWire.Server

/-! Where requests without a handler go. A server stands in its own view of the
cluster like any other, and neither the selectors nor the relay pass it over:
what its own type is declared to serve may be relayed to the server itself. -/
namespace ClusterWire

theorem Clusters.Reached.trans {first second third : Clusters} (front : Reached first second)
    (back : Reached second third) : Reached first third := by
  induction back with
  | start => exact front
  | register _ info ih => exact .register ih info
  | unregister _ type id ih => exact .unregister ih type id
  | updateLoad _ type id load ih => exact .updateLoad ih type id load

theorem Clusters.reached_registered (infos : List ServerInfo) (cs : Clusters) :
    Reached cs (infos.foldl (fun cs info => (cs.register info).1) cs) := by
  induction infos generalizing cs with
  | nil => exact .start
  | cons info others ih => exact (Reached.register .start info).trans (ih _)

theorem ServerConfig.typed_clusters (c : ServerConfig) : c.clusters.Typed := by
  refine Clusters.typed_of_reached ?_ (Clusters.reached_registered (c.info :: c.peers) .empty)
  intro cluster held
  cases held

namespace Dispatch.Relay

variable {r : Relay} {m : Message} {ctx : CallContext} {w : World} {server : ServerInfo}

/-- The server that is chosen for a request without a handler. -/
def destination (r : Relay) (m : Message) (ctx : CallContext) (w : World) : Option ServerInfo :=
  match r.declared.find? (·.protocol == m.protocol) with
  | none => none
  | some d =>
    match (w.selectPeer d.target (r.selector ctx) ctx).2 with
    | .ok server => some server
    | .error _ => none

/-- A request is relayed to its destination. -/
theorem forward_destination (found : r.destination m ctx w = some server) (id : SessionId)
    (reason : Option String) :
    ((r.forward id m ctx).tick reason w).2 = r.relayTo server id m ctx := by
  unfold destination at found
  unfold forward
  cases known : r.declared.find? (·.protocol == m.protocol) with
  | none =>
    rw [known] at found
    cases found
  | some d =>
    rw [known] at found
    dsimp only at found ⊢
    show (r.chosen id m ctx (w.selectPeer d.target (r.selector ctx) ctx).2) = _
    split at found
    · rename_i choice
      cases found
      rw [choice]
      rfl
    · cases found

/-- One without a destination is not relayed at all. -/
theorem forward_nowhere (nowhere : r.destination m ctx w = none) (id : SessionId)
    (reason : Option String) : ((r.forward id m ctx).tick reason w).2.isOver = true := by
  unfold destination at nowhere
  unfold forward
  cases known : r.declared.find? (·.protocol == m.protocol) with
  | none => rfl
  | some d =>
    rw [known] at nowhere
    dsimp only at nowhere ⊢
    show (r.chosen id m ctx (w.selectPeer d.target (r.selector ctx) ctx).2).isOver = true
    split at nowhere
    · cases nowhere
    · rename_i fault choice
      rw [choice]
      cases fault <;> rfl

theorem type_of_destination (typed : w.clusters.Typed)
    (found : r.destination m ctx w = some server) :
    ∃ d, r.declared.find? (·.protocol == m.protocol) = some d ∧ server.type = d.target := by
  unfold destination at found
  split at found
  · cases found
  · rename_i d known
    refine ⟨d, known, ?_⟩
    split at found
    · rename_i chosen choice
      cases found
      unfold World.selectPeer at choice
      split at choice
      · cases choice
      · rename_i c listed
        split at choice
        · cases choice
        · rename_i selected
          cases choice
          exact typed.type_of_mem listed (Selector.mem_of_select selected)
    · cases found

/-- A request that runs for no identity goes to the only server of its type. -/
theorem destination_alone {d : Descriptor} {c : Cluster} {id : UInt32}
    (known : r.declared.find? (·.protocol == m.protocol) = some d)
    (listed : w.clusters.find? d.target = some c) (held : server ∈ c.members)
    (alone : ∀ m ∈ c.members, m.id = id) (nobody : ctx.hasIdentity = false) :
    ∃ chosen, r.destination m ctx w = some chosen ∧ chosen.id = id := by
  have idle : r.selector ctx = .leastLoaded := by
    unfold selector
    rw [nobody]
    cases r.shards <;> rfl
  obtain ⟨chosen, least⟩ : ∃ chosen, c.leastLoaded? = some chosen := by
    cases least : c.leastLoaded? with
    | some chosen => exact ⟨chosen, rfl⟩
    | none =>
      rw [Cluster.least?_eq_none_iff.mp least] at held
      cases held
  refine ⟨chosen, ?_, alone chosen (Cluster.mem_of_least? least)⟩
  simp only [destination, known, World.selectPeer, listed, idle, Selector.select, least,
    Selector.orElse]

end Dispatch.Relay

namespace Server

variable {c : ServerConfig} {wiring : Wiring} {s : Server} {shards : Option Ident.Layout}

/-- What a server relays by, if it relays. -/
def relay (s : Server) (shards : Option Ident.Layout) : Dispatch.Relay :=
  ⟨s.registry.declared, s.settings, shards⟩

theorem of_build (built : build c wiring = .ok s) :
    s.world.clusters = c.clusters ∧ s.dispatcher = wiring.dispatcher s.registry s.settings := by
  obtain ⟨serializers, _, built⟩ := Json.ok_of_bind built
  obtain ⟨registry, _, built⟩ := Json.ok_of_bind built
  obtain ⟨_, _, built⟩ := Json.ok_of_bind built
  obtain ⟨link, _, built⟩ := Json.ok_of_bind built
  cases built
  exact ⟨rfl, rfl⟩

theorem forward_of_build (built : build c wiring = .ok s) (peers : wiring.forward = .peers shards) :
    s.dispatcher.forward = (s.relay shards).forward := by
  rw [(of_build built).2]
  simp only [Wiring.dispatcher, peers, relay]

theorem typed_of_build (built : build c wiring = .ok s) {view : Clusters}
    (reached : Clusters.Reached s.world.clusters view) : view.Typed := by
  rw [(of_build built).1] at reached
  exact Clusters.typed_of_reached c.typed_clusters reached

/-- A view in which the server is the only one of its type. -/
theorem reached_only_self (c : ServerConfig) (first : Clusters) :
    ∃ view cluster, Clusters.Reached first view ∧ view.find? c.type = some cluster ∧
      c.info ∈ cluster.members ∧ ∀ m ∈ cluster.members, m.id = c.id := by
  obtain ⟨cluster, listed, held⟩ := Clusters.find?_register first c.info
  obtain ⟨view, alone, reached, listed, members⟩ :=
    Clusters.reached_alone (.register .start c.info) listed c.id
  exact ⟨view, alone, reached, listed, (members _).mpr ⟨held, rfl⟩,
    fun m inside => ((members m).mp inside).2⟩

/-- A server that relays to peers never relays to itself, whatever its view of
the cluster comes to be, exactly if its type is declared for no protocol that
it leaves without a handler. It relays a request to the destination that is
chosen for it, and none that has no destination. -/
theorem never_relayed_home_iff (built : build c wiring = .ok s)
    (peers : wiring.forward = .peers shards) :
    s.dispatcher.forward = (s.relay shards).forward ∧
    (∀ id m ctx reason w,
      (∀ server, (s.relay shards).destination m ctx w = some server →
        (((s.relay shards).forward id m ctx).tick reason w).2 =
          (s.relay shards).relayTo server id m ctx) ∧
      ((s.relay shards).destination m ctx w = none →
        (((s.relay shards).forward id m ctx).tick reason w).2.isOver = true)) ∧
    ((∀ (m : Message) (ctx : CallContext) (w : World), m.kind = .request →
        s.registry.handler? m.protocol = none →
        Clusters.Reached s.world.clusters w.clusters →
        ∀ server, (s.relay shards).destination m ctx w = some server →
          (server.type, server.id) ≠ (c.type, c.id)) ↔
      ∀ protocol d, s.registry.lookup protocol = some d →
        s.registry.handler? protocol = none → d.target ≠ c.type) := by
  refine ⟨forward_of_build built peers, fun id m ctx reason w => ⟨fun server found => ?_,
    fun nowhere => ?_⟩, ?_, ?_⟩
  · exact Dispatch.Relay.forward_destination found id reason
  · exact Dispatch.Relay.forward_nowhere nowhere id reason
  · intro away protocol d declared unbound home
    let asked : Message := .clientRequest 1 protocol []
    let ctx : CallContext := ⟨0, 1⟩
    have nobody : ctx.hasIdentity = false := rfl
    obtain ⟨view, cluster, reached, listed, held, alone⟩ :=
      reached_only_self c s.world.clusters
    obtain ⟨chosen, found, own⟩ :=
      Dispatch.Relay.destination_alone (r := s.relay shards) (m := asked)
        (w := { s.world with clusters := view }) declared (home ▸ listed) held alone nobody
    obtain ⟨d', declared', type⟩ :=
      Dispatch.Relay.type_of_destination (typed_of_build built reached) found
    have same : d' = d := Option.some.inj (declared'.symm.trans declared)
    exact away asked ctx { s.world with clusters := view } rfl unbound reached chosen found
      (Prod.ext (type.trans (same ▸ home)) own)
  · intro elsewhere m ctx w _ unbound reached server found same
    obtain ⟨d, declared, type⟩ :=
      Dispatch.Relay.type_of_destination (typed_of_build built reached) found
    exact elsewhere m.protocol d declared unbound (type ▸ congrArg Prod.fst same)

/-- A game server that declares a protocol for game servers and leaves it
without a handler. -/
def trader : Wiring where
  registry := { Registry.empty with declared := [{ protocol := ⟨50, 1⟩, name := "trade.offer" }] }
  forward := .peers none

/-- The trader as a gateway, so that trades are for others. -/
def broker : ServerConfig := { type := "gateway" }

theorem never_relayed_home_iff_broker : ∃ s, build broker trader = .ok s ∧
    trader.forward = .peers none ∧
    ∀ (m : Message) (ctx : CallContext) (w : World), m.kind = .request →
      s.registry.handler? m.protocol = none →
      Clusters.Reached s.world.clusters w.clusters →
      ∀ server, (s.relay none).destination m ctx w = some server →
        (server.type, server.id) ≠ ("gateway", 1) := by
  refine ⟨_, rfl, rfl, (@never_relayed_home_iff broker trader _ none rfl rfl).2.2.mpr ?_⟩
  intro protocol d declared _ home
  have held := List.mem_of_find?_eq_some declared
  rw [List.mem_singleton.mp held] at home
  exact absurd home (by decide)

/-- The trader chooses itself, for a request and again for what it relays of
it, whatever session that came in by. -/
theorem relayed_home_again : trader.registry.Built ∧ ∃ s, build {} trader = .ok s ∧
    s.dispatcher.forward = (s.relay none).forward ∧ s.registry.handler? ⟨50, 1⟩ = none ∧
    (s.relay none).destination (.clientRequest 1 ⟨50, 1⟩ []) ⟨0, 1⟩ s.world =
      some ({} : ServerConfig).info ∧
    ∀ sequence session body,
      (s.relay none).destination
        (Dispatch.Relay.request sequence ⟨0, 1⟩ session (.clientRequest 1 ⟨50, 1⟩ []) body)
        ⟨0, sequence⟩ s.world = some ({} : ServerConfig).info :=
  ⟨.declare .empty { protocol := ⟨50, 1⟩, name := "trade.offer" } rfl, _, rfl, rfl, rfl, rfl,
    fun _ _ _ => rfl⟩

end Server
end ClusterWire
