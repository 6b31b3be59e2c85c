import WindowLang.Text.Alphanumeric
import WindowLang.Token.Kind

namespace WindowLang

/-!
# Normal texts

A lexer joins the lexemes inside a string literal by single spaces, so the text
of a literal is made of words and marks with one space between them. Such a text
is normal.
-/

/-- A longest run of alphanumeric characters, or a mark that can stand inside a string. -/
def IsPiece (piece : List Char) : Prop :=
  (piece ≠ [] ∧ ∀ c ∈ piece, Text.isAlphanumeric c = true) ∨
    ∃ mark : Mark, mark ≠ .quotation ∧ piece = [mark.char]

/-- The text is empty, or made of pieces with single spaces between them. -/
def IsNormal (text : String) : Prop :=
  text = "" ∨
    ∃ pieces : List (List Char),
      pieces ≠ [] ∧ (∀ piece ∈ pieces, IsPiece piece) ∧
        text.toList = [' '].intercalate pieces

end WindowLang
