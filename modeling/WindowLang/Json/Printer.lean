import WindowLang.Json.Basic

namespace WindowLang.Json

/-!
# JSON text

A value has two spellings. The compact one has no white space. The indented one
puts every item of an array and every field of an object on a line of its own,
two columns deeper than its container, and a space behind the colon of a field;
an empty container stays on one line.

In a string, quotation marks, backslashes and control characters below U+0020
are escaped, and nothing else is.
-/

/-- The two last digits of a control character's code point, in hexadecimal. -/
def controlDigits (c : Char) : List Char :=
  [Nat.digitChar (c.toNat / 16), Nat.digitChar (c.toNat % 16)]

/-- The characters that write one character of a string. -/
def escapeChar (c : Char) : List Char :=
  if c = '"' then ['\\', '"']
  else if c = '\\' then ['\\', '\\']
  else if c = '\x08' then ['\\', 'b']
  else if c = '\x0c' then ['\\', 'f']
  else if c = '\n' then ['\\', 'n']
  else if c = '\r' then ['\\', 'r']
  else if c = '\t' then ['\\', 't']
  else if c.toNat < 0x20 then ['\\', 'u', '0', '0'] ++ controlDigits c
  else [c]

/-- A string as JSON text. -/
def writeString (text : String) : String :=
  String.ofList ('"' :: text.toList.flatMap escapeChar ++ ['"'])

/-- A truth value as JSON text. -/
def writeBool (value : Bool) : String :=
  if value then "true" else "false"

mutual

/-- A value as JSON text without white space. -/
def compact : Json → String
  | .null => "null"
  | .bool value => writeBool value
  | .number value => toString value
  | .string text => writeString text
  | .array items => "[" ++ ",".intercalate (compactItems items) ++ "]"
  | .object fields => "\x7b" ++ ",".intercalate (compactFields fields) ++ "\x7d"

/-- The items of an array, each as JSON text without white space. -/
def compactItems : List Json → List String
  | [] => []
  | item :: rest => item.compact :: compactItems rest

/-- The fields of an object, each as JSON text without white space. -/
def compactFields : List (String × Json) → List String
  | [] => []
  | (name, value) :: rest =>
      (writeString name ++ ":" ++ value.compact) :: compactFields rest

end

/-- A new line, indented by two columns for each level of depth. -/
def newLine (depth : Nat) : String :=
  "\n" ++ String.ofList (List.replicate (2 * depth) ' ')

/-- The members of a container between its brackets, each on a line of its own. -/
def block (opening closing : String) (depth : Nat) (members : List String) : String :=
  if members.isEmpty then
    opening ++ closing
  else
    opening ++
      ",".intercalate (members.map fun member => newLine (depth + 1) ++ member) ++
      newLine depth ++ closing

mutual

/-- A value as indented JSON text, where its first line stands at a given depth. -/
def pretty (depth : Nat) : Json → String
  | .null => "null"
  | .bool value => writeBool value
  | .number value => toString value
  | .string text => writeString text
  | .array items => block "[" "]" depth (prettyItems (depth + 1) items)
  | .object fields => block "\x7b" "\x7d" depth (prettyFields (depth + 1) fields)

/-- The items of an array, each as indented JSON text. -/
def prettyItems (depth : Nat) : List Json → List String
  | [] => []
  | item :: rest => item.pretty depth :: prettyItems depth rest

/-- The fields of an object, each as indented JSON text. -/
def prettyFields (depth : Nat) : List (String × Json) → List String
  | [] => []
  | (name, value) :: rest =>
      (writeString name ++ ": " ++ value.pretty depth) :: prettyFields depth rest

end

end WindowLang.Json
