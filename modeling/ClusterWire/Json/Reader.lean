import ClusterWire.Failure
import ClusterWire.Json.Value

/-! Reading JSON text. A fault names its cause and the place in the text: the
line, and how many bytes of that line were read. -/
namespace ClusterWire.Json

inductive Cause where
  | endInValue
  | endInList
  | endInObject
  | endInString
  | expectedValue
  | expectedIdent
  | expectedColon
  | expectedCommaOrBracket
  | expectedCommaOrBrace
  | keyMustBeString
  | trailingComma
  | trailingCharacters
  | invalidNumber
  | numberOutOfRange
  | invalidEscape
  | controlCharacter
  | invalidCodePoint
  | loneSurrogate
  | endInEscape
  | tooDeep
deriving DecidableEq, Repr

def Cause.message : Cause → String
  | endInValue => "EOF while parsing a value"
  | endInList => "EOF while parsing a list"
  | endInObject => "EOF while parsing an object"
  | endInString => "EOF while parsing a string"
  | expectedValue => "expected value"
  | expectedIdent => "expected ident"
  | expectedColon => "expected `:`"
  | expectedCommaOrBracket => "expected `,` or `]`"
  | expectedCommaOrBrace => "expected `,` or `\x7d`"
  | keyMustBeString => "key must be a string"
  | trailingComma => "trailing comma"
  | trailingCharacters => "trailing characters"
  | invalidNumber => "invalid number"
  | numberOutOfRange => "number out of range"
  | invalidEscape => "invalid escape"
  | controlCharacter => "control character (\\u0000-\\u001F) found while parsing a string"
  | invalidCodePoint => "invalid unicode code point"
  | loneSurrogate => "lone leading surrogate in hex escape"
  | endInEscape => "unexpected end of hex escape"
  | tooDeep => "recursion limit exceeded"

/-- Where reading stopped: the cause, and how many bytes were left. -/
structure Stuck where
  cause : Cause
  left : Nat
deriving DecidableEq, Repr

abbrev Reader (α : Type) := Bytes → Except Stuck (α × Bytes)

def stop {α : Type} (cause : Cause) (rest : Bytes) : Except Stuck α :=
  .error ⟨cause, rest.length⟩

/-- Stops at the first byte of `rest`, which counts as read. -/
def stopAt {α : Type} (cause : Cause) (rest : Bytes) : Except Stuck α :=
  .error ⟨cause, rest.length - 1⟩

def isBlank (b : UInt8) : Bool := b == 0x20 || b == 0x09 || b == 0x0A || b == 0x0D

def skipBlanks (bs : Bytes) : Bytes := bs.dropWhile isBlank

def isDigit (b : UInt8) : Bool := 0x30 ≤ b && b ≤ 0x39

def digit (b : UInt8) : Nat := b.toNat - 0x30

def startsWithDigit : Bytes → Bool
  | b :: _ => isDigit b
  | [] => false

/-- Adds digits to a number as long as it stays at most `limit`; tells how many
it took. -/
def grow (limit : Nat) (n : Nat) : Bytes → Nat × Nat × Bytes
  | [] => (n, 0, [])
  | b :: rest =>
    if isDigit b ∧ n * 10 + digit b ≤ limit then
      let (n, taken, rest) := grow limit (n * 10 + digit b) rest
      (n, taken + 1, rest)
    else (n, 0, b :: rest)

def maxSignificand : Nat := UInt64.size - 1
def maxExponent : Nat := 0x7FFFFFFF

/-- `f * 10 ^ exponent` by powers of ten up to 308, each step rounded, or
nothing beyond the largest double. A significand of 64 bits is zero after
three divisions by `10 ^ 308`. -/
def scale? : Nat → Binary64 → Int → Option Binary64
  | 0, f, _ => some f
  | fuel + 1, f, exponent =>
    if exponent.natAbs ≤ 308 then
      if 0 ≤ exponent then
        let product := f.product (.tenTo exponent.toNat)
        if product.isInfinite then none else some product
      else some (f.quotient (.tenTo exponent.natAbs))
    else if f.isZero then some f
    else if 0 ≤ exponent then none
    else scale? fuel (f.quotient (.tenTo 308)) (exponent + 308)

def signed (negative : Bool) (x : Binary64) : Binary64 := if negative then x.neg else x

def finish (negative : Bool) (significand : Nat) (exponent : Int) (rest : Bytes) :
    Except Stuck (Number × Bytes) :=
  match scale? 4 (.ofNat significand) exponent with
  | some x => .ok (.float (signed negative x), rest)
  | none => stop .numberOutOfRange rest

def clampExponent (e : Int) : Int := max Int32.minValue.toInt (min Int32.maxValue.toInt e)

def readExponentDigits (negative : Bool) (significand : Nat) (start : Int) (down : Bool)
    (bs : Bytes) : Except Stuck (Number × Bytes) :=
  let (e, _, rest) := grow maxExponent 0 bs
  if startsWithDigit rest then
    if significand ≠ 0 ∧ !down then stop .numberOutOfRange (rest.drop 1)
    else .ok (.float (signed negative .zero), rest.dropWhile isDigit)
  else
    finish negative significand (clampExponent (if down then start - e else start + e)) rest

def exponentSign : Bytes → Bool × Bytes
  | 0x2B :: rest => (false, rest)
  | 0x2D :: rest => (true, rest)
  | bs => (false, bs)

def readExponent (negative : Bool) (significand : Nat) (start : Int) (bs : Bytes) :
    Except Stuck (Number × Bytes) :=
  match exponentSign bs with
  | (_, []) => stop .endInValue []
  | (down, b :: rest) =>
    if isDigit b then readExponentDigits negative significand start down (b :: rest)
    else stop .invalidNumber rest

def readScale (negative : Bool) (significand : Nat) (exponent : Int) (bs : Bytes) :
    Except Stuck (Number × Bytes) :=
  match bs with
  | 0x65 :: rest | 0x45 :: rest => readExponent negative significand exponent rest
  | bs => finish negative significand exponent bs

/-- What follows a decimal point. Digits that do not fit are ignored. -/
def readFraction (negative : Bool) (significand : Nat) (exponent : Int) (bs : Bytes) :
    Except Stuck (Number × Bytes) :=
  let (significand, taken, rest) := grow maxSignificand significand bs
  if startsWithDigit rest then
    readScale negative significand (exponent - taken) (rest.dropWhile isDigit)
  else if taken = 0 then
    if rest.isEmpty then stopAt .endInValue rest else stopAt .invalidNumber rest
  else readScale negative significand (exponent - taken) rest

/-- A number without point and exponent, `dropped` digits of which did not fit. -/
def wholeNumber (negative : Bool) (significand dropped : Nat) (bs : Bytes) :
    Except Stuck (Number × Bytes) :=
  if dropped ≠ 0 then finish negative significand dropped bs
  else if !negative then .ok (.natural (UInt64.ofNat significand), bs)
  else if significand = 0 ∨ 0x8000000000000000 < significand then
    .ok (.float (Binary64.ofNat significand).neg, bs)
  else .ok (.negative (Int64.ofInt (-significand)), bs)

def readTail (negative : Bool) (significand dropped : Nat) (bs : Bytes) :
    Except Stuck (Number × Bytes) :=
  match bs with
  | 0x2E :: rest => readFraction negative significand dropped rest
  | 0x65 :: rest | 0x45 :: rest => readExponent negative significand dropped rest
  | bs => wholeNumber negative significand dropped bs

def readNumber (negative : Bool) (bs : Bytes) : Except Stuck (Number × Bytes) :=
  match bs with
  | [] => stop .endInValue bs
  | b :: rest =>
    if b = 0x30 then
      if startsWithDigit rest then stopAt .invalidNumber rest else readTail negative 0 0 rest
    else if isDigit b then
      let (n, _, rest) := grow maxSignificand 0 (b :: rest)
      readTail negative n (rest.takeWhile isDigit).length (rest.dropWhile isDigit)
    else stop .invalidNumber rest

def isPlain (b : UInt8) : Bool := b != 0x22 && b != 0x5C && 0x20 ≤ b

def hexValue? (b : UInt8) : Option Nat := Bytes.hexValue? (Char.ofNat b.toNat)

def readUnit (bs : Bytes) : Except Stuck (Nat × Bytes) :=
  match bs with
  | a :: b :: c :: d :: rest =>
    match hexValue? a, hexValue? b, hexValue? c, hexValue? d with
    | some a, some b, some c, some d => .ok (((a * 16 + b) * 16 + c) * 16 + d, rest)
    | _, _, _, _ => stop .invalidEscape rest
  | _ => stop .endInString []

def readLowSurrogate (high : Nat) (bs : Bytes) : Except Stuck (Nat × Bytes) :=
  match bs with
  | [] => stop .endInString bs
  | 0x5C :: rest =>
    match rest with
    | [] => stop .endInString rest
    | 0x75 :: rest => do
      let (low, rest) ← readUnit rest
      if low < 0xDC00 ∨ 0xDFFF < low then stop .loneSurrogate rest
      else .ok ((high - 0xD800) * 1024 + (low - 0xDC00) + 0x10000, rest)
    | _ :: rest => stop .endInEscape rest
  | _ :: rest => stop .endInEscape rest

def readCodePoint (bs : Bytes) : Except Stuck (Nat × Bytes) := do
  let (n, rest) ← readUnit bs
  if 0xDC00 ≤ n ∧ n ≤ 0xDFFF then stop .loneSurrogate rest
  else if 0xD800 ≤ n ∧ n ≤ 0xDBFF then readLowSurrogate n rest
  else .ok (n, rest)

def readEscape (bs : Bytes) : Except Stuck (Char × Bytes) :=
  match bs with
  | [] => stop .endInString bs
  | b :: rest =>
    match b with
    | 0x22 | 0x5C | 0x2F => .ok (Char.ofNat b.toNat, rest)
    | 0x62 => .ok ('\x08', rest)
    | 0x66 => .ok ('\x0c', rest)
    | 0x6E => .ok ('\n', rest)
    | 0x72 => .ok ('\r', rest)
    | 0x74 => .ok ('\t', rest)
    | 0x75 => do
      let (n, rest) ← readCodePoint rest
      return (Char.ofNat n, rest)
    | _ => stop .invalidEscape rest

/-- The bytes that a string stands for, up to its closing quote and without the
opening one; `fuel` bounds the escapes. -/
def readQuoted : (fuel : Nat) → Bytes → Except Stuck (Bytes × Bytes)
  | 0, bs => stop .endInString bs
  | fuel + 1, bs =>
    let plain := bs.takeWhile isPlain
    match bs.dropWhile isPlain with
    | [] => stop .endInString []
    | 0x22 :: rest => .ok (plain, rest)
    | 0x5C :: rest => do
      let (c, rest) ← readEscape rest
      let (more, rest) ← readQuoted fuel rest
      return (plain ++ String.utf8EncodeChar c ++ more, rest)
    | _ :: rest => stop .controlCharacter rest

/-- The text of a string. All its escapes are read before its characters are
looked at. What fits no character is then counted back from the closing quote,
an escape as the bytes that it stands for. -/
def readString (fuel : Nat) (bs : Bytes) : Except Stuck (String × Bytes) := do
  let (quoted, rest) ← readQuoted fuel bs
  match Utf8.decode quoted with
  | .ok s => return (s, rest)
  | .error fault => .error ⟨.invalidCodePoint, rest.length + (quoted.length - fault.index)⟩

def readWord (value : Json) : Bytes → Bytes → Except Stuck (Json × Bytes)
  | [], bs => .ok (value, bs)
  | _ :: _, [] => stop .endInValue []
  | w :: word, b :: rest => if w = b then readWord value word rest else stop .expectedIdent rest

def readItems (read : Reader Json) : Nat → Bytes → Except Stuck (List Json × Bytes)
  | 0, bs => stopAt .endInList bs
  | fuel + 1, bs => do
    let (v, rest) ← read bs
    match skipBlanks rest with
    | [] => stopAt .endInList []
    | 0x5D :: rest => return ([v], rest)
    | 0x2C :: rest =>
      match skipBlanks rest with
      | [] => stopAt .endInValue []
      | 0x5D :: rest => stopAt .trailingComma (0x5D :: rest)
      | rest => do
        let (vs, rest) ← readItems read fuel rest
        return (v :: vs, rest)
    | rest => stopAt .expectedCommaOrBracket rest

def readArray (fuel : Nat) (read : Reader Json) (bs : Bytes) : Except Stuck (Json × Bytes) :=
  match skipBlanks bs with
  | [] => stopAt .endInList []
  | 0x5D :: rest => .ok (.array [], rest)
  | rest => do
    let (vs, rest) ← readItems read fuel rest
    return (.array vs, rest)

def readField (fuel : Nat) (read : Reader Json) (bs : Bytes) :
    Except Stuck ((String × Json) × Bytes) := do
  let (name, rest) ← readString fuel bs
  match skipBlanks rest with
  | [] => stopAt .endInObject []
  | 0x3A :: rest =>
    let (v, rest) ← read rest
    return ((name, v), rest)
  | rest => stopAt .expectedColon rest

def readFields (read : Reader Json) : Nat → Bytes → Except Stuck (List (String × Json) × Bytes)
  | 0, bs => stopAt .endInObject bs
  | fuel + 1, bs => do
    let (field, rest) ← readField (fuel + 1) read (bs.drop 1)
    match skipBlanks rest with
    | [] => stopAt .endInObject []
    | 0x7D :: rest => return ([field], rest)
    | 0x2C :: rest =>
      match skipBlanks rest with
      | [] => stopAt .endInValue []
      | 0x22 :: rest => do
        let (fields, rest) ← readFields read fuel (0x22 :: rest)
        return (field :: fields, rest)
      | 0x7D :: rest => stopAt .trailingComma (0x7D :: rest)
      | rest => stopAt .keyMustBeString rest
    | rest => stopAt .expectedCommaOrBrace rest

def readObject (fuel : Nat) (read : Reader Json) (bs : Bytes) : Except Stuck (Json × Bytes) :=
  match skipBlanks bs with
  | [] => stopAt .endInObject []
  | 0x7D :: rest => .ok (.object [], rest)
  | 0x22 :: rest => do
    let (fields, rest) ← readFields read fuel (0x22 :: rest)
    return (ofFields fields, rest)
  | rest => stopAt .keyMustBeString rest

/-- A value that starts with `b`; `inside` reads the values in it, unless it
would be nested too deep. -/
def readStarted (fuel : Nat) (inside : Option (Reader Json)) (b : UInt8) (rest : Bytes) :
    Except Stuck (Json × Bytes) :=
  match b with
  | 0x6E => readWord .null [0x75, 0x6C, 0x6C] rest
  | 0x74 => readWord (.bool true) [0x72, 0x75, 0x65] rest
  | 0x66 => readWord (.bool false) [0x61, 0x6C, 0x73, 0x65] rest
  | 0x22 => do
    let (s, rest) ← readString fuel rest
    return (.string s, rest)
  | 0x2D => do
    let (n, rest) ← readNumber true rest
    return (.number n, rest)
  | 0x5B =>
    match inside with
    | some read => readArray fuel read rest
    | none => stopAt .tooDeep (b :: rest)
  | 0x7B =>
    match inside with
    | some read => readObject fuel read rest
    | none => stopAt .tooDeep (b :: rest)
  | b =>
    if isDigit b then do
      let (n, rest) ← readNumber false (b :: rest)
      return (.number n, rest)
    else stopAt .expectedValue (b :: rest)

def readValue (fuel : Nat) : (levels : Nat) → Bytes → Except Stuck (Json × Bytes)
  | levels, bs =>
    match skipBlanks bs with
    | [] => stopAt .endInValue []
    | b :: rest =>
      match levels with
      | 0 => readStarted fuel none b rest
      | levels + 1 => readStarted fuel (some (readValue fuel levels)) b rest

/-- Lists and objects are nested at most this deep. -/
def maxDepth : Nat := 127

def readText (bs : Bytes) : Except Stuck Json := do
  let (v, rest) ← readValue (bs.length + 1) maxDepth bs
  match skipBlanks rest with
  | [] => return v
  | rest => stopAt .trailingCharacters rest

structure SyntaxFault where
  cause : Cause
  line : Nat
  column : Nat
deriving DecidableEq, Repr

def SyntaxFault.message (f : SyntaxFault) : String :=
  s!"{f.cause.message} at line {f.line} column {f.column}"

instance : Failure SyntaxFault := ⟨fun _ => "Json", SyntaxFault.message⟩

/-- Lines count from 1, columns are the bytes read on the last line. -/
def SyntaxFault.of (bs : Bytes) (s : Stuck) : SyntaxFault :=
  let read := bs.take (bs.length - s.left)
  { cause := s.cause
    line := 1 + read.count 0x0A
    column := (read.reverse.takeWhile (· != 0x0A)).length }

def decode (bs : Bytes) : Except SyntaxFault Json :=
  (readText bs).mapError (SyntaxFault.of bs)

def ofText (text : String) : Except SyntaxFault Json := decode (Utf8.encode text)

end ClusterWire.Json
