import ClusterWire.Json.Value

/-! The characters of a TOML document: line ends, comments, keys and quoted
strings. A reader gives what it read and the characters behind it, or nothing
when they do not fit. -/
namespace ClusterWire.Toml

abbrev Reader (α : Type) := List Char → Option (α × List Char)

def isBlank (c : Char) : Bool := c == ' ' || c == '\t'

def skipBlanks (cs : List Char) : List Char := cs.dropWhile isBlank

def isText (c : Char) : Bool := c == '\t' || (' ' ≤ c && c != '\x7f')

def lineEnd? : List Char → Option (List Char)
  | '\n' :: rest => some rest
  | '\r' :: '\n' :: rest => some rest
  | _ => none

def endLine? (cs : List Char) : Option (List Char) :=
  let behind := match skipBlanks cs with
    | '#' :: rest => rest.dropWhile isText
    | rest => rest
  match behind with
  | [] => some []
  | behind => lineEnd? behind

/-- Skips blanks, line ends and comments; a comment that no line end follows
stays where it breaks off. -/
def skipFiller : (inComment : Bool) → List Char → List Char
  | _, '\n' :: rest => skipFiller false rest
  | _, '\r' :: '\n' :: rest => skipFiller false rest
  | true, c :: rest => if isText c then skipFiller true rest else c :: rest
  | false, '#' :: rest => skipFiller true rest
  | false, c :: rest => if isBlank c then skipFiller false rest else c :: rest
  | _, [] => []

def isHexDigit (c : Char) : Bool := (Bytes.hexValue? c).isSome

def codePoint (width : Nat) : Reader Char := fun cs =>
  let digits := cs.take width
  let n := digits.foldl (fun n c => n * 16 + (Bytes.hexValue? c).getD 0) 0
  if digits.length = width ∧ digits.all isHexDigit ∧ n.isValidChar then
    some (Char.ofNat n, cs.drop width)
  else none

def escape : Reader Char
  | 'b' :: rest => some ('\x08', rest)
  | 't' :: rest => some ('\t', rest)
  | 'n' :: rest => some ('\n', rest)
  | 'f' :: rest => some ('\x0c', rest)
  | 'r' :: rest => some ('\r', rest)
  | '"' :: rest => some ('"', rest)
  | '\\' :: rest => some ('\\', rest)
  | 'u' :: rest => codePoint 4 rest
  | 'U' :: rest => codePoint 8 rest
  | _ => none

def basic : Nat → Reader (List Char)
  | 0, _ => none
  | fuel + 1, cs =>
    match cs with
    | '"' :: rest => some ([], rest)
    | '\\' :: rest => do
      let (c, rest) ← escape rest
      let (more, rest) ← basic fuel rest
      return (c :: more, rest)
    | c :: rest => do
      if isText c then
        let (more, rest) ← basic fuel rest
        return (c :: more, rest)
      else none
    | [] => none

def literal : Reader (List Char)
  | '\'' :: rest => some ([], rest)
  | c :: rest => do
    if isText c then
      let (more, rest) ← literal rest
      return (c :: more, rest)
    else none
  | [] => none

/-- A run of quotes inside a string of several lines: one or two are text,
from three on the last three close the string. The flag says whether they do. -/
def quoteRun (quote : Char) (cs : List Char) : Option (List Char × Bool × List Char) :=
  let run := cs.takeWhile (· == quote)
  let rest := cs.dropWhile (· == quote)
  if run.length < 3 then some (run, false, rest)
  else if run.length ≤ 5 then some (run.drop 3, true, rest)
  else none

/-- What follows a backslash at the end of a line: the next character that is
neither blank nor a line end. -/
def continued? (cs : List Char) : Option (List Char) := do
  let rest ← lineEnd? (skipBlanks cs)
  return skip rest
where
  skip : List Char → List Char
    | '\n' :: rest => skip rest
    | '\r' :: '\n' :: rest => skip rest
    | c :: rest => if isBlank c then skip rest else c :: rest
    | [] => []

/-- A string of several lines up to its closing quotes. Line ends are written
as line feeds; `escapes` says whether a backslash is special. -/
def lines (quote : Char) (escapes : Bool) : Nat → Reader (List Char)
  | 0, _ => none
  | fuel + 1, cs =>
    match lineEnd? cs, cs with
    | some rest, _ => do
      let (more, rest) ← lines quote escapes fuel rest
      return ('\n' :: more, rest)
    | none, [] => none
    | none, c :: rest =>
      if c = quote then do
        let (run, closes, rest) ← quoteRun quote cs
        if closes then some (run, rest)
        else
          let (more, rest) ← lines quote escapes fuel rest
          return (run ++ more, rest)
      else if escapes ∧ c = '\\' then
        match continued? rest with
        | some rest => lines quote escapes fuel rest
        | none => do
          let (e, rest) ← escape rest
          let (more, rest) ← lines quote escapes fuel rest
          return (e :: more, rest)
      else if isText c then do
        let (more, rest) ← lines quote escapes fuel rest
        return (c :: more, rest)
      else none

/-- A line end right behind the opening quotes is not part of the string. -/
def linesFrom (quote : Char) (escapes : Bool) (cs : List Char) :
    Option (List Char × List Char) :=
  lines quote escapes (cs.length + 1) ((lineEnd? cs).getD cs)

def string : Reader String := fun cs => do
  let (text, rest) ← match cs with
    | '"' :: '"' :: '"' :: rest => linesFrom '"' true rest
    | '\'' :: '\'' :: '\'' :: rest => linesFrom '\'' false rest
    | '"' :: rest => basic (rest.length + 1) rest
    | '\'' :: rest => literal rest
    | _ => none
  return (String.ofList text, rest)

def isKeyChar (c : Char) : Bool := c.isAlphanum || c == '_' || c == '-'

def keyPart : Reader String
  | '"' :: rest => (basic (rest.length + 1) rest).map fun (s, rest) => (String.ofList s, rest)
  | '\'' :: rest => (literal rest).map fun (s, rest) => (String.ofList s, rest)
  | cs =>
    let name := cs.takeWhile isKeyChar
    if name.isEmpty then none else some (String.ofList name, cs.dropWhile isKeyChar)

/-- Keys have fewer parts than this, and values are nested less deep. -/
def depthLimit : Nat := 80

def keyParts : Nat → Reader (List String)
  | 0, _ => none
  | fuel + 1, cs => do
    let (part, rest) ← keyPart (skipBlanks cs)
    match skipBlanks rest with
    | '.' :: rest => do
      let (parts, rest) ← keyParts fuel rest
      return (part :: parts, rest)
    | rest => return ([part], rest)

def key : Reader (List String × String) := fun cs => do
  let (parts, rest) ← keyParts (depthLimit - 1) cs
  return ((parts.dropLast, ← parts.getLast?), rest)

end ClusterWire.Toml
