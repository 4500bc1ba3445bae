import Concord.Json
import Concord.Text.Hexadecimal

/-!
# Writing JSON

`Json.render` writes a document on one line and `Json.pretty` over several, each level two
spaces further in. A text without a value is written as the replacement character.
-/

namespace Concord.Json

/-- One character as it stands inside a text. -/
def escape (character : Char) : List Char :=
  match character with
  | '"' => ['\\', '"']
  | '\\' => ['\\', '\\']
  | '\n' => ['\\', 'n']
  | '\r' => ['\\', 'r']
  | '\t' => ['\\', 't']
  | '\x08' => ['\\', 'b']
  | '\x0c' => ['\\', 'f']
  | _ =>
    if character.toNat < 32 then
      ['\\', 'u', '0', '0', Text.hexDigit (character.toNat / 16),
        Text.hexDigit (character.toNat % 16)]
    else [character]

/-- A text between its quotes. -/
def renderText (content : String) : String :=
  String.ofList ('"' :: content.toList.flatMap escape ++ ['"'])

/-- The written form of a text that may have no value. -/
def renderContent (content : Option String) : String :=
  renderText (content.getD "\ufffd")

mutual

/-- A document on one line. -/
def render : Json → String
  | .null => "null"
  | .bool true => "true"
  | .bool false => "false"
  | .number literal => literal
  | .text content => renderContent content
  | .array items => "[" ++ String.intercalate "," (renderItems items) ++ "]"
  | .object members => "\x7b" ++ String.intercalate "," (renderMembers members) ++ "\x7d"

/-- The items of an array. -/
def renderItems : List Json → List String
  | [] => []
  | item :: rest => render item :: renderItems rest

/-- The members of an object. -/
def renderMembers : List (Option String × Json) → List String
  | [] => []
  | (name, value) :: rest => (renderContent name ++ ":" ++ render value) :: renderMembers rest

end

/-- A line break and the indentation of a level. -/
def newline (level : Nat) : String :=
  "\n" ++ String.ofList (List.replicate (2 * level) ' ')

/-- Lines of a level between brackets. -/
def block (level : Nat) (opening closing : String) : List String → String
  | [] => opening ++ closing
  | lines =>
    opening ++ newline (level + 1) ++ String.intercalate ("," ++ newline (level + 1)) lines ++
      newline level ++ closing

mutual

/-- A document over several lines, inside the given level. -/
def prettyAt (level : Nat) : Json → String
  | .array items => block level "[" "]" (prettyItems (level + 1) items)
  | .object members => block level "\x7b" "\x7d" (prettyMembers (level + 1) members)
  | .null => "null"
  | .bool true => "true"
  | .bool false => "false"
  | .number literal => literal
  | .text content => renderContent content

/-- The items of an array, each on lines of its own. -/
def prettyItems (level : Nat) : List Json → List String
  | [] => []
  | item :: rest => prettyAt level item :: prettyItems level rest

/-- The members of an object, each on lines of its own. -/
def prettyMembers (level : Nat) : List (Option String × Json) → List String
  | [] => []
  | (name, value) :: rest =>
    (renderContent name ++ ": " ++ prettyAt level value) :: prettyMembers level rest

end

/-- A document over several lines. -/
def pretty (document : Json) : String :=
  prettyAt 0 document

end Concord.Json
