import Concord.Json
import Concord.Text.Hexadecimal

/-!
# Reading JSON

`Json.parse?` reads the one document that makes up a text. The grammar is strict: no
leading zeros, no trailing commas, no raw controls in a text, and only blanks around the
document. Every reader takes characters from the front and gives back the rest; the
recursion is bounded by a budget that the length of the text always covers.
-/

namespace Concord.Json

/-- The characters that may stand between tokens. -/
def isBlank (character : Char) : Bool :=
  character = ' ' || character = '\n' || character = '\r' || character = '\t'

/-- Drop the blanks in front. -/
def skipBlanks (input : List Char) : List Char :=
  input.dropWhile isBlank

/-- The four digits of an escaped code unit. -/
def readUnit? : List Char → Option (Nat × List Char)
  | first :: second :: third :: fourth :: rest =>
    match Text.hexValue? first, Text.hexValue? second, Text.hexValue? third,
      Text.hexValue? fourth with
    | some a, some b, some c, some d => some (((a * 16 + b) * 16 + c) * 16 + d, rest)
    | _, _, _, _ => none
  | _ => none

/-- The character that a one-letter escape stands for. -/
def escaped? : Char → Option Char
  | '"' => some '"'
  | '\\' => some '\\'
  | '/' => some '/'
  | 'b' => some '\x08'
  | 'f' => some '\x0c'
  | 'n' => some '\n'
  | 'r' => some '\r'
  | 't' => some '\t'
  | _ => none

/-- The low half of a surrogate pair, if it comes next. -/
def readLowHalf? : List Char → Option (Nat × List Char)
  | '\\' :: 'u' :: rest =>
    match readUnit? rest with
    | some (unit, remaining) =>
      if 0xDC00 ≤ unit ∧ unit < 0xE000 then some (unit, remaining) else none
    | none => none
  | _ => none

/-- The rest of a text behind its opening quote. `read` holds the characters so far in
reverse, or nothing once an escape has named half of a pair. -/
def readText (budget : Nat) (read : Option (List Char)) (input : List Char) :
    Option (Option String × List Char) :=
  match budget with
  | 0 => none
  | budget + 1 =>
    match input with
    | [] => none
    | '"' :: rest => some (read.map fun characters => String.ofList characters.reverse, rest)
    | '\\' :: 'u' :: rest =>
      match readUnit? rest with
      | none => none
      | some (unit, remaining) =>
        if 0xD800 ≤ unit ∧ unit < 0xDC00 then
          match readLowHalf? remaining with
          | some (low, after) =>
            let point := 0x10000 + (unit - 0xD800) * 1024 + (low - 0xDC00)
            readText budget (read.map (Char.ofNat point :: ·)) after
          | none => readText budget none remaining
        else if 0xDC00 ≤ unit ∧ unit < 0xE000 then
          readText budget none remaining
        else
          readText budget (read.map (Char.ofNat unit :: ·)) remaining
    | '\\' :: letter :: rest =>
      match escaped? letter with
      | some character => readText budget (read.map (character :: ·)) rest
      | none => none
    | character :: rest =>
      if character = '\\' ∨ character.toNat < 32 then none
      else readText budget (read.map (character :: ·)) rest

/-- The digits in front, and what follows them. -/
def splitDigits (input : List Char) : List Char × List Char :=
  (input.takeWhile Char.isDigit, input.dropWhile Char.isDigit)

/-- The whole part of a number: one zero, or digits that do not start with one. -/
def readWhole? (input : List Char) : Option (List Char × List Char) :=
  match splitDigits input with
  | ([], _) => none
  | ('0' :: _ :: _, _) => none
  | (digits, rest) => some (digits, rest)

/-- The fraction of a number, which may be missing. -/
def readFraction? : List Char → Option (List Char × List Char)
  | '.' :: input =>
    match splitDigits input with
    | ([], _) => none
    | (digits, rest) => some ('.' :: digits, rest)
  | input => some ([], input)

/-- The sign of an exponent, which may be missing. -/
def splitSign : List Char → List Char × List Char
  | '+' :: rest => (['+'], rest)
  | '-' :: rest => (['-'], rest)
  | input => ([], input)

/-- The exponent of a number, which may be missing. -/
def readExponent? (input : List Char) : Option (List Char × List Char) :=
  match input with
  | marker :: following =>
    if marker = 'e' ∨ marker = 'E' then
      let (sign, unsigned) := splitSign following
      match splitDigits unsigned with
      | ([], _) => none
      | (digits, rest) => some ('e' :: sign ++ digits, rest)
    else some ([], input)
  | [] => some ([], [])

/-- A number without its sign. -/
def readUnsigned? (input : List Char) : Option (List Char × List Char) := do
  let (whole, afterWhole) ← readWhole? input
  let (fraction, afterFraction) ← readFraction? afterWhole
  let (exponent, rest) ← readExponent? afterFraction
  return (whole ++ fraction ++ exponent, rest)

/-- A number, by its digits. -/
def readNumber? : List Char → Option (Json × List Char)
  | '-' :: input => do
    let (digits, rest) ← readUnsigned? input
    return (.number (String.ofList ('-' :: digits)), rest)
  | input => do
    let (digits, rest) ← readUnsigned? input
    return (.number (String.ofList digits), rest)

mutual

/-- One value, with blanks in front. -/
def readValue (budget : Nat) (input : List Char) : Option (Json × List Char) :=
  match budget with
  | 0 => none
  | budget + 1 =>
    match skipBlanks input with
    | 'n' :: 'u' :: 'l' :: 'l' :: rest => some (.null, rest)
    | 't' :: 'r' :: 'u' :: 'e' :: rest => some (.bool true, rest)
    | 'f' :: 'a' :: 'l' :: 's' :: 'e' :: rest => some (.bool false, rest)
    | '"' :: rest =>
      match readText budget (some []) rest with
      | some (content, remaining) => some (.text content, remaining)
      | none => none
    | '[' :: rest =>
      match skipBlanks rest with
      | ']' :: remaining => some (.array [], remaining)
      | remaining => readItems budget [] remaining
    | '\x7b' :: rest =>
      match skipBlanks rest with
      | '\x7d' :: remaining => some (.object [], remaining)
      | remaining => readMembers budget [] remaining
    | other => readNumber? other

/-- The items of an array from one item on; `read` holds those before it in reverse. -/
def readItems (budget : Nat) (read : List Json) (input : List Char) :
    Option (Json × List Char) :=
  match budget with
  | 0 => none
  | budget + 1 =>
    match readValue budget input with
    | none => none
    | some (item, afterItem) =>
      match skipBlanks afterItem with
      | ',' :: rest => readItems budget (item :: read) rest
      | ']' :: rest => some (.array (item :: read).reverse, rest)
      | _ => none

/-- The members of an object from one member on; `read` holds those before it in reverse. -/
def readMembers (budget : Nat) (read : List (Option String × Json)) (input : List Char) :
    Option (Json × List Char) :=
  match budget with
  | 0 => none
  | budget + 1 =>
    match skipBlanks input with
    | '"' :: afterQuote =>
      match readText budget (some []) afterQuote with
      | none => none
      | some (name, afterName) =>
        match skipBlanks afterName with
        | ':' :: afterColon =>
          match readValue budget afterColon with
          | none => none
          | some (value, afterValue) =>
            match skipBlanks afterValue with
            | ',' :: rest => readMembers budget ((name, value) :: read) rest
            | '\x7d' :: rest => some (.object ((name, value) :: read).reverse, rest)
            | _ => none
        | _ => none
    | _ => none

end

/-- The document that makes up a text, if it is one. -/
def parse? (input : String) : Option Json :=
  let characters := input.toList
  match readValue (2 * characters.length + 2) characters with
  | some (document, rest) => if (skipBlanks rest).isEmpty then some document else none
  | none => none

end Concord.Json
