import ClusterWire.Text.Printable

/-! Text in double quotes, as messages show it: quotes, backslashes and
characters that do not print are escaped. -/
namespace ClusterWire.Text

def hexNumber (n : Nat) : String := String.ofList (Nat.toDigits 16 n)

def escape (c : Char) : String :=
  match c with
  | '\x00' => "\\0"
  | '\t' => "\\t"
  | '\n' => "\\n"
  | '\r' => "\\r"
  | '"' => "\\\""
  | '\\' => "\\\\"
  | c => if isPrintable c then c.toString else s!"\\u\x7b{hexNumber c.toNat}\x7d"

def quoted (s : String) : String :=
  s!"\"{String.join (s.toList.map escape)}\""

end ClusterWire.Text
