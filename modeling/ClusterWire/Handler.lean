import ClusterWire.Activity
import ClusterWire.Context
import ClusterWire.ErrorCode
import ClusterWire.Session

/-! Request handlers. A handler gets the arguments that its descriptor binds,
may work for a while on the shared state, and ends with a value or a fault. -/
namespace ClusterWire

/-- How a handler fails: expectedly, with a code and a text for the caller, or
in a way that the caller learns nothing of. -/
inductive HandlerFault where
  | domain (code : ErrorCode) (message : String)
  | unexpected (text : String)
deriving DecidableEq, Repr

def HandlerFault.message : HandlerFault → String
  | domain code message => s!"domain error {code.text}: {message}"
  | unexpected text => s!"unexpected error: {text}"

/-- Arguments as bound. What is not bound keeps its default: no session, a
null body, no push targets. -/
structure Arguments where
  context : CallContext
  session : Option SessionId := none
  body : Json := .null
  targets : List Int64 := []
deriving Repr

inductive Call (σ : Type) where
  | crashes (panic : Panic)
  | works (activity : Activity σ (Except HandlerFault Json))

def Call.conclude {σ : Type} (reach : SocketAddress → Option String) (c : Call σ) (s : σ) :
    σ × Except Panic (Except HandlerFault Json) :=
  match c with
  | .crashes panic => (s, .error panic)
  | .works activity => activity.conclude reach s

abbrev Handler (σ : Type) := Arguments → Call σ

namespace Handler

variable {σ : Type}

def malformed (fault : Json.ShapeFault) : HandlerFault :=
  .domain .badRequest s!"malformed request body: {fault.message}"

def ofBody {α : Type} (shape : Json.Shape α) (call : Arguments → α → Call σ) : Handler σ :=
  fun args =>
    match shape args.body with
    | .ok body => call args body
    | .error fault => .works (.finish (.error (malformed fault)))

def answer (v : Json) : Call σ := .works (.finish (.ok v))

def refuse (fault : HandlerFault) : Call σ := .works (.finish (.error fault))

end Handler
end ClusterWire
