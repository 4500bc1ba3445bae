import Concord.Text.Printable

/-!
# Quoted text

Messages quote foreign text between double quotes, so that its ends are visible. The quote
and the backslash are escaped by a backslash, four controls by a letter or digit, and any
other character without a mark of its own by its code point.
-/

namespace Concord.Text

/-- The digits of a code point in base sixteen, in lower case. -/
def codePoint (point : Nat) : String :=
  String.ofList (Nat.toDigits 16 point)

/-- One character as it stands inside quotes. -/
def quoteChar (character : Char) : String :=
  match character with
  | '\x00' => "\\0"
  | '\t' => "\\t"
  | '\r' => "\\r"
  | '\n' => "\\n"
  | '\\' => "\\\\"
  | '"' => "\\\""
  | _ =>
    if isPrintable character then character.toString
    else "\\u\x7b" ++ codePoint character.toNat ++ "\x7d"

/-- Text between double quotes. -/
def quoted (text : String) : String :=
  "\"" ++ text.toList.foldl (fun written character => written ++ quoteChar character) "" ++ "\""

/-- Numbers between brackets. -/
def bracketed (numbers : List Nat) : String :=
  "[" ++ String.intercalate ", " (numbers.map toString) ++ "]"

end Concord.Text
