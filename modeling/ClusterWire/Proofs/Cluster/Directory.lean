import ClusterWire.Cluster.Endpoint
import ClusterWire.Proofs.Cluster.Changes

/-! The view of the cluster as a directory: who is known under each type and id. Whoever asks
for a change, the process itself or a server by a protocol, the view is read like the
directory in which that change was made. -/
namespace ClusterWire

/-- Who is known under each type and id. -/
abbrev Directory := ServerType → UInt32 → Option ServerInfo

def Change.enter (change : Change) (known : Directory) : Directory := fun type id =>
  if change.type = type ∧ change.id = id then change.next (known type id) else known type id

namespace Cluster.Endpoint

def Departure.change (d : Departure) : Change := .unregister d.type d.id

def LoadReport.change (r : LoadReport) : Change := .updateLoad r.type r.id r.load

/-- The change that a call of a protocol asks for. -/
def change? (protocol : ProtocolId) (body : Json) : Option Change :=
  if protocol = registerServer then (ServerInfo.shape body).toOption.map .register
  else if protocol = unregisterServer then (Departure.shape body).toOption.map (·.change)
  else if protocol = reportLoad then (LoadReport.shape body).toOption.map (·.change)
  else none

variable {α : Type} {shape : Json.Shape α} {args : Arguments} {x : α}

theorem conclude_feed (change : α → Clusters → Clusters × Json) (read : shape args.body = .ok x)
    (reach : SocketAddress → Option String) (w : World) :
    (Handler.ofBody shape (fun _ x => feed (change x)) args).conclude reach w =
      ({ w with clusters := (change x w.clusters).1 }, .ok (.ok (change x w.clusters).2)) := by
  rw [Handler.ofBody, read]
  rfl

theorem conclude_malformed {call : Arguments → α → Call World} {fault : Json.ShapeFault}
    (refused : shape args.body = .error fault) (reach : SocketAddress → Option String) (w : World) :
    (Handler.ofBody shape call args).conclude reach w =
      (w, .ok (.error (Handler.malformed fault))) := by
  rw [Handler.ofBody, refused]
  rfl

theorem world_feed {change : α → Clusters → Clusters × Json} (ask : α → Change)
    (own : ∀ x cs, (change x cs).1 = (ask x).apply cs) (reach : SocketAddress → Option String)
    (w : World) :
    ((Handler.ofBody shape (fun _ x => feed (change x)) args).conclude reach w).1 =
      { w with clusters :=
          (((shape args.body).toOption.map ask).map (·.apply w.clusters)).getD w.clusters } := by
  cases read : shape args.body with
  | ok x =>
    rw [conclude_feed change read, own]
    rfl
  | error fault =>
    rw [conclude_malformed read]
    rfl

theorem world_listing (args : Arguments) (reach : SocketAddress → Option String) (w : World) :
    ((listing args).conclude reach w).1 = w := by
  unfold listing
  cases read : listingShape args.body with
  | ok type => rw [conclude_feed _ read]
  | error fault => rw [conclude_malformed read]

/-- A handler leaves the world with the change that its call asks for. -/
theorem world_route {route : Descriptor × String × Handler World} (bound : route ∈ routes)
    (args : Arguments) (reach : SocketAddress → Option String) (w : World) :
    ((route.2.2 args).conclude reach w).1 =
      { w with clusters :=
          ((change? route.1.protocol args.body).map (·.apply w.clusters)).getD w.clusters } := by
  simp only [routes, List.mem_cons, List.not_mem_nil, or_false] at bound
  rcases bound with rfl | rfl | rfl | rfl
  · exact world_feed Change.register (fun _ _ => rfl) reach w
  · exact world_feed Departure.change (fun _ _ => rfl) reach w
  · exact world_feed LoadReport.change (fun _ _ => rfl) reach w
  · exact world_listing args reach w

end Cluster.Endpoint

/-- A way to the view: a change that the process makes itself, or a call of a protocol that
servers announce themselves by. -/
inductive Access where
  | change (change : Change)
  | call (route : Descriptor × String × Handler World) (bound : route ∈ Cluster.Endpoint.routes)
      (args : Arguments)

namespace Access

def change? : Access → Option Change
  | change c => some c
  | call route _ args => Cluster.Endpoint.change? route.1.protocol args.body

def run (reach : SocketAddress → Option String) (w : World) : Access → World
  | change c => { w with clusters := c.apply w.clusters }
  | call route _ args => ((route.2.2 args).conclude reach w).1

theorem clusters_run (reach : SocketAddress → Option String) (w : World) (a : Access) :
    (a.run reach w).clusters = (a.change?.map (·.apply w.clusters)).getD w.clusters := by
  cases a with
  | change c => rfl
  | call route bound args => rw [run, Cluster.Endpoint.world_route bound, change?]

end Access

/-- A world whose view stands for a directory. -/
structure World.Mirrors (w : World) (known : Directory) : Prop where
  sound : w.clusters.Sound
  member? : ∀ type id, w.clusters.member? type id = known type id

namespace World.Mirrors

variable {w : World} {known : Directory}

theorem apply (mirrors : w.Mirrors known) (change : Change) :
    Mirrors { w with clusters := change.apply w.clusters } (change.enter known) where
  sound := mirrors.sound.apply change
  member? type id := by
    rw [Clusters.member?_apply mirrors.sound.lined, mirrors.member?]
    rfl

theorem run (mirrors : w.Mirrors known) (reach : SocketAddress → Option String) (a : Access) :
    (a.run reach w).Mirrors ((a.change?.map (·.enter known)).getD known) := by
  have view := a.clusters_run reach w
  cases asked : a.change? with
  | none =>
    rw [asked] at view
    exact ⟨view ▸ mirrors.sound, view ▸ mirrors.member?⟩
  | some change =>
    have applied := mirrors.apply change
    rw [asked] at view
    exact ⟨view ▸ applied.sound, view ▸ applied.member?⟩

end World.Mirrors

namespace Access

/-- A world without servers, after all that was asked for. -/
def world (reach : SocketAddress → Option String) (w : World) (accesses : List Access) : World :=
  accesses.foldl (run reach) { w with clusters := .empty }

/-- Who is known after all that was asked for. -/
def known (accesses : List Access) : Directory :=
  accesses.foldl (fun known a => (a.change?.map (·.enter known)).getD known) fun _ _ => none

theorem mirrors_foldl {w : World} {known : Directory} (mirrors : w.Mirrors known)
    (reach : SocketAddress → Option String) (accesses : List Access) :
    (accesses.foldl (run reach) w).Mirrors
      (accesses.foldl (fun known a => (a.change?.map (·.enter known)).getD known) known) := by
  induction accesses generalizing w known with
  | nil => exact mirrors
  | cons a later ih => exact ih (mirrors.run reach a)

theorem mirrors_world (reach : SocketAddress → Option String) (w : World)
    (accesses : List Access) : (world reach w accesses).Mirrors (known accesses) :=
  mirrors_foldl ⟨Clusters.sound_empty, fun _ _ => rfl⟩ reach accesses

open Cluster.Endpoint in
/-- All that can be read from a view, or comes of asking it for a change, is read from the
directory. -/
structure Refines (reach : SocketAddress → Option String) (w : World) (known : Directory) :
    Prop where
  register : ∀ info, (w.clusters.register info).2 = (known info.type info.id).isNone
  unregister : ∀ type id, (w.clusters.unregister type id).2 = known type id
  updateLoad : ∀ type id load, (w.clusters.updateLoad type id load).2 = (known type id).isSome
  member? : ∀ type id, w.clusters.member? type id = known type id
  members : ∀ type m, m ∈ w.clusters.members type ↔ known type m.id = some m
  own : ∀ type id m, known type id = some m → m.type = type ∧ m.id = id
  applied : ∀ (change : Change) (type : ServerType) (id : UInt32),
    (change.apply w.clusters).member? type id = change.enter known type id
  called : ∀ route ∈ routes, ∀ args, ((route.2.2 args).conclude reach w).1 =
    { w with clusters :=
        ((Cluster.Endpoint.change? route.1.protocol args.body).map
          (·.apply w.clusters)).getD w.clusters }
  registering : ∀ args info, ServerInfo.shape args.body = .ok info →
    ((registering args).conclude reach w).2 =
      .ok (.ok (.bool (known info.type info.id).isNone))
  unregistering : ∀ args d, Departure.shape args.body = .ok d →
    ((unregistering args).conclude reach w).2 = .ok (.ok (.bool (known d.type d.id).isSome))
  reporting : ∀ args r, LoadReport.shape args.body = .ok r →
    ((reporting args).conclude reach w).2 = .ok (.ok .null)
  listing : ∀ args type, listingShape args.body = .ok type →
    ((listing args).conclude reach w).2 =
      .ok (.ok (Json.ofList ServerInfo.toJson (w.clusters.members type)))
  ascending : ∀ c ∈ w.clusters.all, c.members.Pairwise (·.id < ·.id)
  typed : ∀ c ∈ w.clusters.all, ∀ m ∈ c.members, m.type = c.type
  lined : w.clusters.types.Pairwise (· < ·)
  others : ∀ (change : Change) (type : ServerType), change.type ≠ type →
    (change.apply w.clusters).find? type = w.clusters.find? type
  halved : ∀ c ∈ w.clusters.all,
    (∀ id, c.find? id = Cluster.pick id c.members) ∧
    (∀ info, (c.upsert info).members = Cluster.place info c.members) ∧
    (∀ id, (c.remove id).members = Cluster.pull id c.members) ∧
    ∀ id load, (c.setLoad id load).members = Cluster.refresh id load c.members

open Cluster.Endpoint in
theorem refines_of_mirrors {w : World} {known : Directory} (mirrors : w.Mirrors known)
    (reach : SocketAddress → Option String) : Refines reach w known where
  register info := congrArg Option.isNone (mirrors.member? info.type info.id)
  unregister := mirrors.member?
  updateLoad type id _ := congrArg Option.isSome (mirrors.member? type id)
  member? := mirrors.member?
  members type m := by
    rw [mirrors.sound.mem_members, mirrors.member?]
  own type id m held := mirrors.sound.own_of_member? (held ▸ mirrors.member? type id)
  applied change := (mirrors.apply change).member?
  called _ bound args := world_route bound args reach w
  registering args info read := by
    unfold registering
    rw [conclude_feed _ read, ← mirrors.member?]
    rfl
  unregistering args d read := by
    unfold unregistering
    rw [conclude_feed _ read, ← mirrors.member?]
    rfl
  reporting args r read := by
    unfold reporting
    rw [conclude_feed _ read]
  listing args type read := by
    unfold Cluster.Endpoint.listing
    rw [conclude_feed _ read]
  ascending := mirrors.sound.ascending
  typed := mirrors.sound.typed
  lined := List.pairwise_map.mpr mirrors.sound.lined
  others change type differ := by
    rw [Clusters.find?_apply mirrors.sound.lined, if_neg differ]
  halved c held := by
    have ascending := mirrors.sound.ascending c held
    exact ⟨fun id => (Cluster.pick_eq_find? ascending id).symm,
      fun info => (Cluster.place_eq_insert ascending info).symm,
      fun id => (Cluster.pull_eq_filter ascending id).symm,
      fun id load => (Cluster.refresh_eq_map ascending id load).symm⟩

theorem refines_directory (reach : SocketAddress → Option String) (w : World)
    (accesses : List Access) : Refines reach (world reach w accesses) (known accesses) :=
  refines_of_mirrors (mirrors_world reach w accesses) reach

end Access
end ClusterWire
