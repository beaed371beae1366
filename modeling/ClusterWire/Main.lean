import ClusterWire.Server.Service
import ClusterWire.Startup

/-! The program. It reads its settings, tells what it does on the standard error
output, and serves the client at the other end of its standard input and
output. -/
namespace ClusterWire.Program

open Startup

/-- Looks for a file; what is no file but is there cannot be read. -/
def fileState (path : String) : IO FileState := do
  try
    return .found (← IO.FS.readBinFile path).toList
  catch
    | .noFileOrDirectory .. => return .absent
    | e => return .barred (toString e)

def doesExist (path : String) : IO Bool := do
  match ← fileState path with
  | .absent => return false
  | _ => return true

def provide (path : String) (text : Option String) : IO (Option Fault) := do
  match text with
  | none => return none
  | some text =>
    try
      IO.FS.writeFile path text
      return none
    catch e => return some (.access (toString e))

def namedFiles (s : Settings) : List String :=
  match s.tls with
  | some c => c.certificate :: c.key :: c.authority.toList
  | none => []

/-- Clients come one by one, and there is one core for them. -/
def cores : Nat := 1

def setUp (a : CommandLine.Arguments) : IO (Except Fault Application) := do
  match load (← fileState a.configPath) with
  | .error fault => return .error fault
  | .ok (settings, text) =>
    match ← provide a.configPath text with
    | some fault => return .error fault
    | none =>
      let settings := override a settings
      let there ← (namedFiles settings).filterM doesExist
      return assemble there.contains cores a.configPath settings

def tell (l : Settings.Logging) (events : List LogEvent) : IO Unit := do
  let err ← IO.getStderr
  for e in logged l events do
    err.putStrLn <|
      if l.jsonFormat then
        (Json.ofFields [("level", .string e.level.text), ("message", .string e.text)]).text
      else s!"{e.level.text} {e.text}"

/-- There is no way to other servers from here. -/
def unreachable : SocketAddress → Option (Option String) := fun _ => some (some "unreachable")

partial def serve (s : Service) : IO Unit := do
  let bs ← (← IO.getStdin).read 8192
  let (s, out) := if bs.isEmpty then s.finish unreachable else s.receive unreachable bs.toList
  let output ← IO.getStdout
  output.write (ByteArray.mk out.toArray)
  output.flush
  if !bs.isEmpty && !s.isFinished then serve s

def run (a : Application) : IO Unit := do
  let tell := tell a.settings.logging
  tell (a.opening ++ [Application.listening a.server.config.address.text, Application.waiting])
  serve (.start a.server a.server.config.address cores)
  tell [Application.stopped]

end ClusterWire.Program

open ClusterWire Program in
def main (arguments : List String) : IO UInt32 := do
  match CommandLine.read arguments with
  | .error stop =>
    if !stop.output.isEmpty then IO.println stop.output
    if !stop.complaint.isEmpty then IO.eprintln stop.complaint
    return stop.exitCode.toUInt32
  | .ok arguments =>
    match ← setUp arguments with
    | .error fault =>
      if let .server logging _ := fault then tell logging fault.told
      IO.eprintln fault.complaint
      return fault.exitCode.toUInt32
    | .ok application =>
      run application
      return 0
