namespace WindowLang.Text

/-!
# Lines

A line ends at a line feed. One carriage return directly before that line feed
belongs to the line's end as well. What follows the last line feed is a line of
its own when it is not empty, and is taken as it stands, so that it keeps a
carriage return at its end.

The rule is the same for characters and for bytes, and is stated once for both.
-/

/-- The line without a carriage return at its end. -/
def dropCarriage
    {α : Type}
    [DecidableEq α]
    (carriage : α)
    (line : List α) :
    List α :=
  if line.getLast? = some carriage then line.dropLast else line

/-- The lines of a text, where `feed` ends a line and may follow `carriage`. -/
def splitLines
    {α : Type}
    [DecidableEq α]
    (feed carriage : α)
    (text : List α) :
    List (List α) :=
  let pieces := text.splitOn feed
  pieces.dropLast.map (dropCarriage carriage) ++
    pieces.getLast?.toList.filter fun rest => !rest.isEmpty

/-- The lines of a string. -/
def lines (text : String) : List String :=
  (splitLines '\n' '\r' text.toList).map String.ofList

/-- The lines of a file, as bytes. -/
def byteLines (bytes : List UInt8) : List (List UInt8) :=
  splitLines 0x0A 0x0D bytes

/-- The string that the bytes encode in UTF-8, if they do. -/
def decodeUtf8? (bytes : List UInt8) : Option String :=
  String.fromUTF8? bytes.toByteArray

/-- An empty text has no lines. -/
@[simp] theorem splitLines_nil
    {α : Type}
    [DecidableEq α]
    (feed carriage : α) :
    splitLines feed carriage ([] : List α) = [] := by
  simp [splitLines, List.splitOn_nil]

end WindowLang.Text
