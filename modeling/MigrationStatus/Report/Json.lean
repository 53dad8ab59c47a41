/-!
JSON values and their indented form: two spaces a level, one member a line, and an empty list or
object closed at once.
-/

namespace MigrationStatus.Report

/-- A JSON value; the members of an object keep their order. -/
inductive Json where
  | null
  | number (n : Nat)
  | text (content : String)
  | list (items : List Json)
  | object (members : List (String × Json))

namespace Json

/-- One hexadecimal digit. -/
def hexDigit (n : Nat) : Char := (Nat.digitChar n)

/-- A character as it stands inside quotation marks. -/
def escapedChar (c : Char) : List Char :=
  match c with
  | '"' => ['\\', '"']
  | '\\' => ['\\', '\\']
  | '\x08' => ['\\', 'b']
  | '\x0c' => ['\\', 'f']
  | '\n' => ['\\', 'n']
  | '\r' => ['\\', 'r']
  | '\t' => ['\\', 't']
  | c =>
    if c.toNat < 0x20 then
      ['\\', 'u', '0', '0', hexDigit (c.toNat / 16), hexDigit (c.toNat % 16)]
    else [c]

/-- The text between quotation marks. -/
def quoted (content : String) : String :=
  String.ofList ('"' :: content.toList.flatMap escapedChar ++ ['"'])

def indent (depth : Nat) : String := String.ofList (List.replicate (2 * depth) ' ')

/-- Members on lines of their own between two brackets. -/
def bracketed (opening closing : String) (depth : Nat) : List String → String
  | [] => opening ++ closing
  | members =>
    opening ++ "\n" ++ ",\n".intercalate (members.map (indent (depth + 1) ++ ·)) ++ "\n" ++
      indent depth ++ closing

mutual

/-- The indented form of a value that starts on a line of the given depth. -/
def pretty (depth : Nat) : Json → String
  | null => "null"
  | number n => toString n
  | text content => quoted content
  | list items => bracketed "[" "]" depth (prettyItems (depth + 1) items)
  | object members => bracketed "\x7b" "\x7d" depth (prettyMembers (depth + 1) members)

def prettyItems (depth : Nat) : List Json → List String
  | [] => []
  | item :: items => pretty depth item :: prettyItems depth items

def prettyMembers (depth : Nat) : List (String × Json) → List String
  | [] => []
  | (name, value) :: members =>
    (quoted name ++ ": " ++ pretty depth value) :: prettyMembers depth members

end

/-- The value, or `null` for none. -/
def optional {α : Type} (render : α → Json) : Option α → Json
  | some value => render value
  | none => null

end Json

end MigrationStatus.Report
