import ClusterWire.Connection.Preamble
import ClusterWire.Server.Fault

/-! What a client has sent and the server has not read yet. A byte stream holds
frame behind frame; over a WebSocket every binary message is one frame. -/
namespace ClusterWire

/-- What a WebSocket brings. Pings and pongs are answered below. -/
inductive WebSocketMessage where
  | binary (data : Bytes)
  | text
  | control
  | closing
  | broken (reason : String)
deriving DecidableEq, Repr

/-- Unread input. A stream may have ended behind the bytes that it holds. -/
inductive Inbox where
  | stream (held : Bytes) (ended : Bool)
  | messages (waiting : List WebSocketMessage)
deriving DecidableEq, Repr

inductive Leaving where
  | orderly
  | failed (fault : ServerFault)
deriving Repr

inductive Inbox.Next where
  | nothing
  | message (m : Message) (left : Inbox)
  | ended (leaving : Leaving)
  /-- A read past the end of the bytes held. -/
  | overrun
deriving Repr

namespace Inbox

/-- The end of a stream, which must not be inside a frame. -/
def endOfStream (remote : SocketAddress) (held : Bytes) : Leaving :=
  if held.isEmpty then .orderly
  else .failed (.violation remote (.truncated Frame.prefixLength held.length))

def nextInStream (limit : Nat) (remote : SocketAddress) (held : Bytes) (ended : Bool) : Next :=
  match Frame.decode limit held with
  | .message m rest => .message m (.stream rest ended)
  | .fault fault _ => .ended (.failed (.violation remote fault))
  | .overrun => .overrun
  | .needMore => if ended then .ended (endOfStream remote held) else .nothing

def textFault : Frame.Fault := .invalidHeader .textMessage

def nextOfMessages (limit : Nat) (remote : SocketAddress) : List WebSocketMessage → Next
  | [] => .nothing
  | .control :: rest => nextOfMessages limit remote rest
  | .closing :: _ => .ended .orderly
  | .broken reason :: _ => .ended (.failed (.webSocket reason))
  | .text :: _ => .ended (.failed (.violation remote textFault))
  | .binary data :: rest =>
    match Frame.decodeExact limit data with
    | none => .overrun
    | some (.ok m) => .message m (.messages rest)
    | some (.error fault) => .ended (.failed (.violation remote fault))

def next (limit : Nat) (remote : SocketAddress) : Inbox → Next
  | .stream held ended => nextInStream limit remote held ended
  | .messages waiting => nextOfMessages limit remote waiting

def feed (bs : Bytes) : Inbox → Inbox
  | .stream held ended => .stream (held ++ bs) ended
  | inbox => inbox

def finish : Inbox → Inbox
  | .stream held _ => .stream held true
  | .messages waiting => .messages (waiting ++ [.closing])

end Inbox
end ClusterWire
