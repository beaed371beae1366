import ClusterWire.Toml.Text

/-! Numbers, truth values and dates of a TOML document. Each is one run of
characters, which must fit a notation as a whole. -/
namespace ClusterWire.Toml

def digits? (isDigit : Char → Bool) : List Char → Option (List Char)
  | [] => none
  | [c] => if isDigit c then some [c] else none
  | c :: '_' :: rest => if isDigit c then (digits? isDigit rest).map (c :: ·) else none
  | c :: rest => if isDigit c then (digits? isDigit rest).map (c :: ·) else none

def numberOf (radix : Nat) (digits : List Char) : Nat :=
  digits.foldl (fun n c => n * radix + (Bytes.hexValue? c).getD 0) 0

def sign : List Char → Bool × List Char
  | '-' :: rest => (true, rest)
  | '+' :: rest => (false, rest)
  | cs => (false, cs)

def whole? (cs : List Char) : Option (List Char) :=
  match digits? Char.isDigit cs with
  | some ['0'] => some ['0']
  | some ('0' :: _) => none
  | digits => digits

def integerOf (negative : Bool) (n : Nat) : Option Json :=
  let i : Int := if negative then -n else n
  if Int64.minValue.toInt ≤ i ∧ i ≤ Int64.maxValue.toInt then some (.ofInt64 (Int64.ofInt i))
  else none

def integer? (cs : List Char) : Option Json :=
  match cs with
  | '0' :: 'x' :: rest => do integerOf false (numberOf 16 (← digits? isHexDigit rest))
  | '0' :: 'o' :: rest => do integerOf false (numberOf 8 (← digits? isOctal rest))
  | '0' :: 'b' :: rest => do integerOf false (numberOf 2 (← digits? isBinary rest))
  | cs => do
    let (negative, rest) := sign cs
    integerOf negative (numberOf 10 (← whole? rest))
where
  isOctal (c : Char) : Bool := '0' ≤ c && c ≤ '7'
  isBinary (c : Char) : Bool := c == '0' || c == '1'

/-- The number nearest to `digits * 10 ^ exponent`. Far from the range of
doubles the digits do not matter. -/
def nearest (digits : Nat) (exponent : Int) : Binary64 :=
  let size : Int := (Nat.toDigits 10 digits).length + exponent
  if digits = 0 ∨ size < -400 then .zero
  else if 400 < size then .ofNat (Nat.pow 10 400)
  else if 0 ≤ exponent then .ofNat (digits * Nat.pow 10 exponent.toNat)
  else .ofRatio digits (Nat.pow 10 exponent.natAbs)

/-- A float of finite size; below the range there is no limit. -/
def floatOf (negative : Bool) (digits : Nat) (exponent : Int) : Option Json :=
  let x := nearest digits exponent
  if negative then some (.number (.float x.neg))
  else if x.isInfinite then none
  else some (.number (.float x))

def exponent? (cs : List Char) : Option Int := do
  let (negative, rest) := sign cs
  let n := numberOf 10 (← digits? Char.isDigit rest)
  return if negative then -n else n

def isExponentMark (c : Char) : Bool := c == 'e' || c == 'E'

def float? (cs : List Char) : Option Json := do
  let (negative, rest) := sign cs
  let isPart (c : Char) : Bool := c.isDigit || c == '_'
  let whole ← whole? (rest.takeWhile isPart)
  match rest.dropWhile isPart with
  | '.' :: rest => do
    let fraction ← digits? Char.isDigit (rest.takeWhile isPart)
    let digits := numberOf 10 (whole ++ fraction)
    match rest.dropWhile isPart with
    | [] => floatOf negative digits (-fraction.length)
    | e :: rest =>
      if isExponentMark e then do
        floatOf negative digits ((← exponent? rest) - fraction.length)
      else none
  | e :: rest =>
    if isExponentMark e then do floatOf negative (numberOf 10 whole) (← exponent? rest) else none
  | [] => none

def special? (cs : List Char) : Option Json :=
  let (negative, rest) := sign cs
  let of (bits : UInt64) : Option Json :=
    some (.number (.float (if negative then (Binary64.mk bits).neg else ⟨bits⟩)))
  match rest with
  | ['i', 'n', 'f'] => of 0x7FF0000000000000
  | ['n', 'a', 'n'] => of 0x7FF8000000000000
  | _ => none

def bounded (width low high : Nat) : Reader Nat := fun cs =>
  let digits := cs.take width
  let n := numberOf 10 digits
  if digits.length = width ∧ digits.all Char.isDigit ∧ low ≤ n ∧ n ≤ high then
    some (n, cs.drop width)
  else none

def mark (c : Char) : List Char → Option (List Char)
  | d :: rest => if c = d then some rest else none
  | [] => none

def daysIn (year month : Nat) : Nat :=
  if month = 2 then
    if year % 4 = 0 ∧ (year % 100 ≠ 0 ∨ year % 400 = 0) then 29 else 28
  else if month ∈ [4, 6, 9, 11] then 30
  else 31

def date? (cs : List Char) : Option (List Char) := do
  let (year, cs) ← bounded 4 0 9999 cs
  let (month, cs) ← bounded 2 1 12 (← mark '-' cs)
  let (_, cs) ← bounded 2 1 (daysIn year month) (← mark '-' cs)
  return cs

def time? (cs : List Char) : Option (List Char) := do
  let (_, cs) ← bounded 2 0 23 cs
  let (_, cs) ← bounded 2 0 59 (← mark ':' cs)
  let (_, cs) ← bounded 2 0 60 (← mark ':' cs)
  match cs with
  | '.' :: c :: rest => if c.isDigit then some (rest.dropWhile Char.isDigit) else none
  | cs => some cs

def isOffset : List Char → Bool
  | [] | ['Z'] | ['z'] => true
  | '+' :: rest | '-' :: rest =>
    (do
      let (_, rest) ← bounded 2 0 23 rest
      let (_, rest) ← bounded 2 0 59 (← mark ':' rest)
      return rest) == some []
  | _ => false

def isMoment (cs : List Char) : Bool :=
  match date? cs with
  | some [] => true
  | some (c :: rest) => (c == 'T' || c == 't') && ((time? rest).map isOffset).getD false
  | none => time? cs == some []

/-- A date stands as a record of its own, which is none of the other types. -/
def moment? (cs : List Char) : Option Json :=
  if isMoment cs then some (Json.ofFields [("datetime", .string (String.ofList cs))]) else none

def isScalarChar (c : Char) : Bool :=
  c.isAlphanum || c == '_' || c == '+' || c == '-' || c == '.' || c == ':'

def scalarOf (cs : List Char) : Option Json :=
  if cs = ['t', 'r', 'u', 'e'] then some (.bool true)
  else if cs = ['f', 'a', 'l', 's', 'e'] then some (.bool false)
  else moment? cs <|> float? cs <|> special? cs <|> integer? cs

/-- A run of characters that is a scalar. One blank may stand between a date
and a time. -/
def scalar : Reader Json := fun cs =>
  let run := cs.takeWhile isScalarChar
  match date? run, cs.dropWhile isScalarChar with
  | some [], ' ' :: c :: rest =>
    if c.isDigit then
      let rest := c :: rest
      (scalarOf (run ++ 'T' :: rest.takeWhile isScalarChar)).map (·, rest.dropWhile isScalarChar)
    else (scalarOf run).map (·, ' ' :: c :: rest)
  | _, rest => (scalarOf run).map (·, rest)

end ClusterWire.Toml
