/-! The command line. An option takes a value, behind an equals sign or as the
next argument, and is given at most once; a switch takes none. -/
namespace ClusterWire.CommandLine

structure Arguments where
  configPath : String := "config.toml"
  bindAddress : Option String := none
  serverId : Option UInt32 := none
  logLevel : Option String := none
  jsonLogs : Bool := false
deriving DecidableEq, Repr

inductive Parameter where
  | config
  | bind
  | serverId
  | logLevel
deriving DecidableEq, Repr

namespace Parameter

def all : List Parameter := [config, bind, serverId, logLevel]

def name : Parameter → String
  | config => "config"
  | bind => "bind"
  | serverId => "server-id"
  | logLevel => "log-level"

def letter : Parameter → Char
  | config => 'c'
  | bind => 'b'
  | serverId => 'i'
  | logLevel => 'l'

def valueName : Parameter → String
  | config => "FILE"
  | bind => "ADDRESS"
  | serverId => "ID"
  | logLevel => "LEVEL"

def text (p : Parameter) : String := s!"--{p.name} <{p.valueName}>"

def help : Parameter → String
  | config => "Configuration file path [default: config.toml]"
  | bind => "Bind address (e.g., 127.0.0.1:8080)"
  | serverId => "Id of this server within its cluster"
  | logLevel => "Log level (trace, debug, info, warn, error)"

end Parameter

inductive Switch where
  | jsonLogs
  | help
  | version
deriving DecidableEq, Repr

namespace Switch

def all : List Switch := [jsonLogs, help, version]

def name : Switch → String
  | jsonLogs => "json-logs"
  | help => "help"
  | version => "version"

def letter? : Switch → Option Char
  | jsonLogs => none
  | help => some 'h'
  | version => some 'V'

def text (s : Switch) : String := s!"--{s.name}"

def describe : Switch → String
  | jsonLogs => "Output logs in JSON format"
  | help => "Print help"
  | version => "Print version"

end Switch

inductive IntegerFault where
  | empty
  | digit
  | tooLarge
  | tooSmall
deriving DecidableEq, Repr

def IntegerFault.message : IntegerFault → String
  | empty => "cannot parse integer from empty string"
  | digit => "invalid digit found in string"
  | tooLarge => "number too large to fit in target type"
  | tooSmall => "number too small to fit in target type"

/-- Digits of a number that stays at or below `limit`; the first fault from the
left is told. -/
def digits (limit : Nat) (above : IntegerFault) : Nat → List Char → Except IntegerFault Nat
  | n, [] => .ok n
  | n, c :: rest =>
    if !c.isDigit then .error .digit
    else
      let n := n * 10 + (c.toNat - '0'.toNat)
      if limit < n then .error above else digits limit above n rest

def integer : List Char → Except IntegerFault Int
  | [] => .error .empty
  | ['+'] | ['-'] => .error .digit
  | '+' :: rest => (digits 0x7FFFFFFFFFFFFFFF .tooLarge 0 rest).map Int.ofNat
  | '-' :: rest => (digits 0x8000000000000000 .tooSmall 0 rest).map fun n => -(n : Int)
  | cs => (digits 0x7FFFFFFFFFFFFFFF .tooLarge 0 cs).map Int.ofNat

def serverId (value : String) : Except String UInt32 := do
  let n ← (integer value.toList).mapError IntegerFault.message
  if 0 ≤ n ∧ n < UInt32.size then return UInt32.ofNat n.toNat
  else .error s!"{n} is not in 0..=4294967295"

inductive Fault where
  | unexpectedArgument (text : String)
  | missingValue (p : Parameter)
  | surplusValue (value : String) (s : Switch)
  | repeated (text : String)
  | invalidValue (p : Parameter) (value reason : String)
deriving DecidableEq, Repr

def Fault.message : Fault → String
  | unexpectedArgument text => s!"unexpected argument '{text}' found"
  | missingValue p => s!"a value is required for '{p.text}' but none was supplied"
  | surplusValue value s =>
    s!"unexpected value '{value}' for '{s.text}' found; no more were expected"
  | repeated text => s!"the argument '{text}' cannot be used multiple times"
  | invalidValue p value reason => s!"invalid value '{value}' for '{p.text}': {reason}"

inductive Stop where
  | fault (f : Fault)
  | help
  | version
deriving DecidableEq, Repr

/-- A command line read in part: the options that were taken, and the one whose
value comes next or has just come. That one is looked at when the next option
starts, so a fault in between is told first. -/
structure Reading where
  arguments : Arguments := {}
  taken : List Parameter := []
  pending : Option (Parameter × Option String) := none
deriving DecidableEq, Repr

namespace Reading

def set (p : Parameter) (value : String) (a : Arguments) : Except Stop Arguments :=
  match p with
  | .config => .ok { a with configPath := value }
  | .bind => .ok { a with bindAddress := some value }
  | .logLevel => .ok { a with logLevel := some value }
  | .serverId =>
    match CommandLine.serverId value with
    | .ok id => .ok { a with serverId := some id }
    | .error reason => .error (.fault (.invalidValue p value reason))

def take (p : Parameter) (value : String) (r : Reading) : Except Stop Reading := do
  if p ∈ r.taken then .error (.fault (.repeated p.text))
  else return { r with arguments := ← set p value r.arguments, taken := p :: r.taken }

def settle (r : Reading) : Except Stop Reading :=
  match r.pending with
  | none => .ok r
  | some (p, none) => .error (.fault (.missingValue p))
  | some (p, some value) => take p value { r with pending := none }

def option (p : Parameter) (attached : Option String) (r : Reading) : Except Stop Reading := do
  let r ← r.settle
  match attached with
  | some value => r.take p value
  | none => return { r with pending := some (p, none) }

def switch (s : Switch) (r : Reading) : Except Stop Reading := do
  let r ← r.settle
  match s with
  | .help => .error .help
  | .version => .error .version
  | .jsonLogs =>
    if r.arguments.jsonLogs then .error (.fault (.repeated s.text))
    else return { r with arguments := { r.arguments with jsonLogs := true } }

def long (cs : List Char) (r : Reading) : Except Stop Reading :=
  let name := String.ofList (cs.takeWhile (· != '='))
  let attached := match cs.dropWhile (· != '=') with
    | _ :: value => some (String.ofList value)
    | [] => none
  match Parameter.all.find? (·.name == name), Switch.all.find? (·.name == name), attached with
  | some p, _, attached => r.option p attached
  | none, some s, none => r.switch s
  | none, some s, some value => .error (.fault (.surplusValue value s))
  | none, none, _ => .error (.fault (.unexpectedArgument s!"--{name}"))

def short (c : Char) (rest : List Char) (r : Reading) : Except Stop Reading :=
  match Parameter.all.find? (·.letter == c), Switch.all.find? (·.letter? == some c), rest with
  | some p, _, [] => r.option p none
  | some p, _, '=' :: value => r.option p (some (String.ofList value))
  | some p, _, value => r.option p (some (String.ofList value))
  | none, some s, _ => r.switch s
  | none, none, _ => .error (.fault (.unexpectedArgument s!"-{c}"))

def argument (text : String) (r : Reading) : Except Stop Reading :=
  match text.toList, r.pending with
  | '-' :: '-' :: cs, _ => r.long cs
  | '-' :: c :: rest, _ => r.short c rest
  | _, some (p, none) => .ok { r with pending := some (p, some text) }
  | _, _ => .error (.fault (.unexpectedArgument text))

/-- All arguments; behind a double dash there must be none. -/
def all : List String → Reading → Except Stop Reading
  | [], r => r.settle
  | "--" :: [], r => r.settle
  | "--" :: text :: _, _ => .error (.fault (.unexpectedArgument text))
  | text :: rest, r => do all rest (← r.argument text)

end Reading

def read (arguments : List String) : Except Stop Arguments :=
  (Reading.all arguments {}).map (·.arguments)

def program : String := "Horizon"
def programVersion : String := "0.25.2"

def about : String := "Cluster transport and request routing for game servers"

def versionText : String := s!"{program} Server {programVersion}"

def helpLine (left right : String) : String :=
  "  " ++ String.ofList (left.toList.rightpad 25 ' ') ++ right

def helpText : String :=
  let parameters := Parameter.all.map fun p => helpLine s!"-{p.letter}, {p.text}" p.help
  let switches := Switch.all.map fun s =>
    let letter := (s.letter?.map fun c => s!"-{c}, ").getD "    "
    helpLine s!"{letter}{s.text}" s.describe
  "\n".intercalate
    ([about, "", "Usage: horizon [OPTIONS]", "", "Options:"] ++ parameters ++ switches)

def Stop.output : Stop → String
  | fault _ => ""
  | help => helpText
  | version => versionText

def Stop.complaint : Stop → String
  | fault f =>
    "\n".intercalate [s!"error: {f.message}", "", "Usage: horizon [OPTIONS]", "",
      "For more information, try '--help'."]
  | help | version => ""

def Stop.exitCode : Stop → UInt8
  | fault _ => 2
  | help | version => 0

end ClusterWire.CommandLine
