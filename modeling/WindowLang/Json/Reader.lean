import WindowLang.Json.Basic

namespace WindowLang.Json

/-!
# Reading JSON text

The reader takes a value from the front of a text and gives what follows it. It
allows white space between all parts of a value and every escape in a string; a
pair of surrogates stands for one character, and a surrogate alone for none. Of
numbers it knows the natural ones.
-/

/-- White space between the parts of a value. -/
def isGap (c : Char) : Bool :=
  c = ' ' || c = '\n' || c = '\r' || c = '\t'

/-- The text without white space in front. -/
def skipGap (text : List Char) : List Char :=
  text.dropWhile isGap

/-- The value of a hexadecimal digit. -/
def hexDigit? (c : Char) : Option Nat :=
  if c.isDigit then some (c.toNat - '0'.toNat)
  else if 'a' ≤ c ∧ c ≤ 'f' then some (c.toNat - 'a'.toNat + 10)
  else if 'A' ≤ c ∧ c ≤ 'F' then some (c.toNat - 'A'.toNat + 10)
  else none

/-- The value of four hexadecimal digits. -/
def codeUnit? (a b c d : Char) : Option Nat := do
  let a ← hexDigit? a
  let b ← hexDigit? b
  let c ← hexDigit? c
  let d ← hexDigit? d
  return 4096 * a + 256 * b + 16 * c + d

/-- The character with a code point, unless that is a surrogate or too great. -/
def character? (code : Nat) : Option Char :=
  if code.isValidChar then some (Char.ofNat code) else none

/-- The character that a pair of surrogates stands for. -/
def paired? (high low : Nat) : Option Char :=
  if 0xD800 ≤ high ∧ high < 0xDC00 ∧ 0xDC00 ≤ low ∧ low < 0xE000 then
    character? (0x10000 + 1024 * (high - 0xD800) + (low - 0xDC00))
  else
    none

/-- The character that a letter stands for behind a backslash. -/
def escaped? (letter : Char) : Option Char :=
  match letter with
  | '"' => some '"'
  | '\\' => some '\\'
  | '/' => some '/'
  | 'b' => some '\x08'
  | 'f' => some '\x0c'
  | 'n' => some '\n'
  | 'r' => some '\r'
  | 't' => some '\t'
  | _ => none

/-- The first character of a string behind a backslash, and what follows it. -/
def readEscape : List Char → Option (Char × List Char)
  | 'u' :: a :: b :: c :: d :: rest => do
      let unit ← codeUnit? a b c d
      match character? unit, rest with
      | some c, _ => return (c, rest)
      | none, '\\' :: 'u' :: e :: f :: g :: h :: rest =>
          return (← paired? unit (← codeUnit? e f g h), rest)
      | none, _ => none
  | letter :: rest => (escaped? letter).map fun c => (c, rest)
  | [] => none

/-- The characters of a string up to its closing quotation mark, and what follows that. -/
def readCharacters : Nat → List Char → Option (List Char × List Char)
  | 0, _ => none
  | _, [] => none
  | fuel + 1, c :: rest =>
      if c = '"' then
        some ([], rest)
      else if c = '\\' then do
        let (first, rest) ← readEscape rest
        let (others, rest) ← readCharacters fuel rest
        return (first :: others, rest)
      else if c.toNat < 0x20 then
        none
      else do
        let (others, rest) ← readCharacters fuel rest
        return (c :: others, rest)

/-- A string behind its opening quotation mark. -/
def readString (text : List Char) : Option (String × List Char) :=
  (readCharacters text.length text).map fun (characters, rest) =>
    (String.ofList characters, rest)

/-- A natural number; only the number zero starts with the digit zero. -/
def readNumber (text : List Char) : Option (Json × List Char) :=
  let digits := text.takeWhile Char.isDigit
  if digits = [] ∨ (digits.head? = some '0' ∧ digits ≠ ['0']) then
    none
  else
    some (.number (Nat.ofDigitChars 10 digits 0), text.dropWhile Char.isDigit)

mutual

/-- A value in front of a text. -/
def readValue : Nat → List Char → Option (Json × List Char)
  | 0, _ => none
  | fuel + 1, text =>
      match skipGap text with
      | '"' :: rest => (readString rest).map fun (text, rest) => (.string text, rest)
      | '[' :: rest =>
          match skipGap rest with
          | ']' :: rest => some (.array [], rest)
          | rest => (readItems fuel rest).map fun (items, rest) => (.array items, rest)
      | '\x7b' :: rest =>
          match skipGap rest with
          | '\x7d' :: rest => some (.object [], rest)
          | rest => (readFields fuel rest).map fun (fields, rest) => (.object fields, rest)
      | 'n' :: 'u' :: 'l' :: 'l' :: rest => some (.null, rest)
      | 't' :: 'r' :: 'u' :: 'e' :: rest => some (.bool true, rest)
      | 'f' :: 'a' :: 'l' :: 's' :: 'e' :: rest => some (.bool false, rest)
      | rest => readNumber rest

/-- The items of an array up to its closing bracket. -/
def readItems : Nat → List Char → Option (List Json × List Char)
  | 0, _ => none
  | fuel + 1, text => do
      let (item, rest) ← readValue fuel text
      match skipGap rest with
      | ',' :: rest =>
          let (items, rest) ← readItems fuel rest
          return (item :: items, rest)
      | ']' :: rest => return ([item], rest)
      | _ => none

/-- The fields of an object up to its closing brace. -/
def readFields : Nat → List Char → Option (List (String × Json) × List Char)
  | 0, _ => none
  | fuel + 1, text =>
      match skipGap text with
      | '"' :: rest => do
          let (name, rest) ← readString rest
          match skipGap rest with
          | ':' :: rest =>
              let (value, rest) ← readValue fuel rest
              match skipGap rest with
              | ',' :: rest =>
                  let (fields, rest) ← readFields fuel rest
                  return ((name, value) :: fields, rest)
              | '\x7d' :: rest => return ([(name, value)], rest)
              | _ => none
          | _ => none
      | _ => none

end

/-- The value that a text writes, if it writes one and nothing else. -/
def ofText? (text : String) : Option Json :=
  match readValue (2 * text.length + 2) text.toList with
  | some (value, rest) => if skipGap rest = [] then some value else none
  | none => none

/-- A text without the white space outside its strings; `inside` tells where it begins. -/
def squeeze (inside : Bool) : List Char → List Char
  | [] => []
  | '\\' :: c :: rest =>
      if inside then '\\' :: c :: squeeze inside rest else '\\' :: squeeze inside (c :: rest)
  | '"' :: rest => '"' :: squeeze (!inside) rest
  | c :: rest =>
      if !inside && isGap c then squeeze inside rest else c :: squeeze inside rest

end WindowLang.Json
