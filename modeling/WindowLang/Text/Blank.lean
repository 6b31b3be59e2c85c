import WindowLang.Text.Ranges

namespace WindowLang.Text

/-!
# Blank characters and trimming

A character is blank when it has the Unicode property `White_Space`. Trimming
removes blank characters from the ends of a text and nothing in between.
-/

/-- Code points with the property `White_Space`. -/
def blankRanges : Ranges := [
  (0x0009, 0x000D), (0x0020, 0x0020), (0x0085, 0x0085), (0x00A0, 0x00A0), (0x1680, 0x1680),
  (0x2000, 0x200A), (0x2028, 0x2029), (0x202F, 0x202F), (0x205F, 0x205F), (0x3000, 0x3000)
]

/-- The character is white space, in Unicode's sense. -/
def isBlank (c : Char) : Bool :=
  blankRanges.contains c.toNat

/-- The characters before the blank ones at the end. -/
def trimRight (characters : List Char) : List Char :=
  (characters.reverse.dropWhile isBlank).reverse

/-- The text without the blank characters at its end. -/
def trimEnd (text : String) : String :=
  String.ofList (trimRight text.toList)

/-- The text without the blank characters at either end. -/
def trim (text : String) : String :=
  String.ofList (trimRight (text.toList.dropWhile isBlank))

/-- Blank characters after a character that is not blank are all that trimming removes. -/
theorem trimRight_append_of_isBlank
    (kept : List Char)
    {last : Char}
    (blanks : List Char)
    (notBlank : isBlank last = false)
    (allBlank : ∀ c ∈ blanks, isBlank c = true) :
    trimRight (kept ++ last :: blanks) = kept ++ [last] := by
  have removed : (blanks.reverse ++ last :: kept.reverse).dropWhile isBlank =
      last :: kept.reverse := by
    rw [List.dropWhile_append_of_pos (by simpa using allBlank)]
    simp [notBlank]
  simp [trimRight, removed]

/-- Trimming a text that ends with a character that is not blank removes what was added to it. -/
theorem trimEnd_append
    {kept : String}
    {last : Char}
    (ends : kept.toList.getLast? = some last)
    (notBlank : isBlank last = false)
    {blanks : String}
    (allBlank : ∀ c ∈ blanks.toList, isBlank c = true) :
    trimEnd (kept ++ blanks) = kept := by
  obtain ⟨front, split⟩ := List.getLast?_eq_some_iff.1 ends
  rw [trimEnd, String.toList_append, split, List.append_assoc,
    List.singleton_append, trimRight_append_of_isBlank front blanks.toList notBlank allBlank,
    ← split, String.ofList_toList]

end WindowLang.Text
