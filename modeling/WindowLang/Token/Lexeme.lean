import WindowLang.Text.Alphanumeric
import WindowLang.Token.Kind

namespace WindowLang

/-!
# Lexemes of a line

A line that starts with a slash is a comment and holds nothing. Any other line
is cut into its words, which are the longest runs of alphanumeric characters,
and its punctuation marks, each of which stands alone. Every other character
only separates.
-/

/-- A word or a mark as it stands in a line. -/
inductive Lexeme where
  /-- A longest run of alphanumeric characters. -/
  | word (text : String)
  /-- One punctuation mark. -/
  | mark (symbol : Mark)
  deriving DecidableEq, Repr

/-- The characters of a lexeme. -/
def Lexeme.text : Lexeme → String
  | .word text => text
  | .mark symbol => String.singleton symbol.char

/-- The word whose letters were collected last first, if there are any. -/
def collected (letters : List Char) : List Lexeme :=
  if letters.isEmpty then [] else [.word (String.ofList letters.reverse)]

/-- The mark that a character writes, if any. -/
def marked (c : Char) : List Lexeme :=
  (Mark.ofChar? c).toList.map .mark

/-- The lexemes of characters that follow the collected letters of a word. -/
def lexemesAfter (letters : List Char) : List Char → List Lexeme
  | [] => collected letters
  | c :: rest =>
      if Text.isAlphanumeric c then
        lexemesAfter (c :: letters) rest
      else
        collected letters ++ marked c ++ lexemesAfter [] rest

/-- A slash in the first column makes a line a comment. -/
def isComment (line : String) : Bool :=
  line.toList.head? = some '/'

/-- The lexemes of a line. -/
def lexemes (line : String) : List Lexeme :=
  if isComment line then [] else lexemesAfter [] line.toList

end WindowLang
