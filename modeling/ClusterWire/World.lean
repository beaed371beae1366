import ClusterWire.Link

/-! What the activities of one server share: its clock, its sessions and
calls, its links, and its view of the cluster. -/
namespace ClusterWire

structure World where
  now : Instant
  board : Board
  clusters : Clusters
deriving Repr, Inhabited

namespace World

def empty : World := ⟨0, ⟨⟨.empty, .empty⟩, .empty⟩, .empty⟩

def sessions (w : World) : Sessions := w.board.desk.sessions

def calls (w : World) : Invocations := w.board.desk.calls

def peers (w : World) : Peers := w.board.peers

def withDesk (w : World) (desk : Desk) : World :=
  { w with board := { w.board with desk := desk } }

def withSessions (w : World) (sessions : Sessions) : World :=
  w.withDesk { w.board.desk with sessions := sessions }

def withCalls (w : World) (calls : Invocations) : World :=
  w.withDesk { w.board.desk with calls := calls }

def withPeers (w : World) (peers : Peers) : World :=
  { w with board := { w.board with peers := peers } }

def changeSessions {α : Type} (f : Sessions → Sessions × α) (w : World) : World × α :=
  (w.withSessions (f w.sessions).1, (f w.sessions).2)

def changeClusters {α : Type} (f : Clusters → Clusters × α) (w : World) : World × α :=
  ({ w with clusters := (f w.clusters).1 }, (f w.clusters).2)

end World
end ClusterWire
