import ClusterWire.Json.Shape
import ClusterWire.SocketAddress

/-! Server processes as a cluster knows them. -/
namespace ClusterWire

/-- The role of a server: gateway, game, battle. -/
abbrev ServerType := String

def defaultServerType : ServerType := "game"

/-- One known server process. The load is usually its number of players. -/
structure ServerInfo where
  id : UInt32
  type : ServerType
  address : SocketAddress
  load : UInt32 := 0
deriving DecidableEq, Repr

namespace ServerInfo

def toJson (s : ServerInfo) : Json :=
  Json.ofFields
    [("server_id", .ofNat s.id.toNat), ("server_type", .string s.type),
     ("address", .string s.address.text), ("current_load", .ofNat s.load.toNat)]

def addressShape : Json.Shape SocketAddress
  | .string s =>
    match SocketAddress.ofText? s with
    | some a => .ok a
    | none => .error (.refused SocketAddress.syntaxFault)
  | v => .error (.invalidType v "socket address")

def shape : Json.Shape ServerInfo := fun v => do
  let field ← Json.Shape.record "ServerInfo"
    [.required "server_id" Json.Shape.uint32, .required "server_type" Json.Shape.text,
     .required "address" addressShape, .optional "current_load" Json.Shape.uint32 (.ofNat 0)] v
  return { id := ← Json.Shape.uint32 (field "server_id")
           type := ← Json.Shape.text (field "server_type")
           address := ← addressShape (field "address")
           load := ← Json.Shape.uint32 (field "current_load") }

end ServerInfo
end ClusterWire
