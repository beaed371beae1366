import ClusterWire.Json.Value
import ClusterWire.Decimal.Shortest

/-! The compact text of a JSON value, as UTF-8 bytes. -/
namespace ClusterWire.Json

/-- Numbers are written positionally from five places after the point to
sixteen digits before it, and always with a decimal. -/
def floatLayout : Decimal.Layout := ⟨-5, 15, "+"⟩

def Number.text : Number → String
  | natural n => toString n.toNat
  | negative n => toString n.toInt
  | float x => floatLayout.render x

/-- Quotes, backslashes and control characters are escaped, all else is plain. -/
def escape (c : Char) : Bytes :=
  match c with
  | '"' => [0x5C, 0x22]
  | '\\' => [0x5C, 0x5C]
  | '\x08' => [0x5C, 0x62]
  | '\x0c' => [0x5C, 0x66]
  | '\n' => [0x5C, 0x6E]
  | '\r' => [0x5C, 0x72]
  | '\t' => [0x5C, 0x74]
  | c =>
    if c.toNat < 0x20 then
      Utf8.encode s!"\\u00{Bytes.hex [UInt8.ofNat c.toNat]}"
    else String.utf8EncodeChar c

def quoted (s : String) : Bytes :=
  0x22 :: s.toList.flatMap escape ++ [0x22]

mutual

def encode : Json → Bytes
  | null => [0x6E, 0x75, 0x6C, 0x6C]
  | bool true => [0x74, 0x72, 0x75, 0x65]
  | bool false => [0x66, 0x61, 0x6C, 0x73, 0x65]
  | number n => Utf8.encode n.text
  | string s => quoted s
  | array items => 0x5B :: encodeItems items
  | object fields => 0x7B :: encodeFields fields

def encodeItems : List Json → Bytes
  | [] => [0x5D]
  | [v] => encode v ++ [0x5D]
  | v :: rest => encode v ++ 0x2C :: encodeItems rest

def encodeFields : List (String × Json) → Bytes
  | [] => [0x7D]
  | [(n, v)] => quoted n ++ 0x3A :: encode v ++ [0x7D]
  | (n, v) :: rest => quoted n ++ 0x3A :: encode v ++ 0x2C :: encodeFields rest

end

def text (v : Json) : String :=
  match Utf8.decode (encode v) with
  | .ok s => s
  | .error _ => ""

end ClusterWire.Json
