import WindowLang.Journal.Record

namespace WindowLang

/-!
# Text without the records of a journal

A written journal can be taken away from a text that it stands in front of. A record
begins with a bracket. It ends with the first line feed behind which there are no four
blanks, for these are what the further lines of a message are indented by.
-/

/-- What the further lines of a record's message begin with. -/
def recordIndent : List Char :=
  [' ', ' ', ' ', ' ']

/-- The text behind the records in front of it; `inside` tells that it begins in one. -/
def behindRecords (inside : Bool) : List Char → List Char
  | [] => []
  | c :: rest =>
      if inside then
        behindRecords (c ≠ '\n' || recordIndent.isPrefixOf rest) rest
      else if c = '[' then
        behindRecords true rest
      else
        c :: rest

/-- The text without the records in front of it. -/
def withoutRecords (text : String) : String :=
  String.ofList (behindRecords false text.toList)

end WindowLang
