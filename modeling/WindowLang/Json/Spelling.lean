import WindowLang.Json.Printer
import WindowLang.Json.Reader

namespace WindowLang.Json

/-!
# Spellings of JSON values

A value has many spellings, because white space may stand between any two of its parts. Words,
numbers and strings are written in one way only.
-/

/-- The text is empty or consists of white space. -/
def IsGap (text : List Char) : Prop :=
  ∀ c ∈ text, isGap c = true

/-- The members of a container with a comma between any two, up to its closing bracket. -/
inductive Listed
    {α : Type}
    (closing : Char)
    (spells : α → List Char → Prop) :
    List α → List Char → Prop where
  | last
      {member : α}
      {text gap : List Char}
      (spelled : spells member text)
      (behind : IsGap gap) :
      Listed closing spells [member] (text ++ (gap ++ [closing]))
  | more
      {member : α}
      {members : List α}
      {text gap lead rest : List Char}
      (spelled : spells member text)
      (behind : IsGap gap)
      (before : IsGap lead)
      (others : Listed closing spells members rest) :
      Listed closing spells (member :: members) (text ++ (gap ++ ',' :: (lead ++ rest)))

/-- A container with its brackets. -/
inductive Enclosed
    {α : Type}
    (opening closing : Char)
    (spells : α → List Char → Prop) :
    List α → List Char → Prop where
  | empty
      {gap : List Char}
      (inside : IsGap gap) :
      Enclosed opening closing spells [] (opening :: (gap ++ [closing]))
  | filled
      {members : List α}
      {lead text : List Char}
      (before : IsGap lead)
      (listed : Listed closing spells members text) :
      Enclosed opening closing spells members (opening :: (lead ++ text))

/-- A field of an object: its name and its value, with a colon between them. -/
inductive SpellsField
    (spells : Json → List Char → Prop) :
    String × Json → List Char → Prop where
  | field
      {name : String}
      {value : Json}
      {gap lead text : List Char}
      (behind : IsGap gap)
      (before : IsGap lead)
      (spelled : spells value text) :
      SpellsField spells (name, value)
        ((writeString name).toList ++ (gap ++ ':' :: (lead ++ text)))

/-- The text spells the value. -/
inductive Spells : Json → List Char → Prop where
  | null :
      Spells .null "null".toList
  | bool (value : Bool) :
      Spells (.bool value) (writeBool value).toList
  | number (value : Nat) :
      Spells (.number value) (toString value).toList
  | string (text : String) :
      Spells (.string text) (writeString text).toList
  | array
      {items : List Json}
      {text : List Char}
      (enclosed : Enclosed '[' ']' Spells items text) :
      Spells (.array items) text
  | object
      {fields : List (String × Json)}
      {text : List Char}
      (enclosed : Enclosed '\x7b' '\x7d' (SpellsField Spells) fields text) :
      Spells (.object fields) text

end WindowLang.Json
