import WindowLang.Token.Basic
import WindowLang.Token.Lexeme

namespace WindowLang

/-!
# Raw lexemes

What a lexer can see of some lines, without saying how they are read: the longest
runs of alphanumeric characters and the marks, in the order of the lines. Where a
line ends, a run ends with it. Lines that are comments show nothing.
-/

/-- The longest runs of alphanumeric characters, and every other character alone. -/
def runs (characters : List Char) : List (List Char) :=
  characters.splitBy fun first second =>
    Text.isAlphanumeric first && Text.isAlphanumeric second

/-- The character is neither alphanumeric nor a mark. -/
def isSeparator (c : Char) : Bool :=
  !Text.isAlphanumeric c && (Mark.ofChar? c).isNone

/-- The raw lexemes of a line that is no comment: its runs, without the separators. -/
def rawLine (line : String) : List (List Char) :=
  (runs line.toList).filter fun run => !run.all isSeparator

/-- The raw lexemes of some lines, one line after the other. -/
def rawLexemes (lines : List String) : List (List Char) :=
  (lines.filter fun line => !isComment line).flatMap rawLine

/-- The raw lexemes that a token was made of: the pieces of a literal's text, or the token itself. -/
def Token.pieces (token : Token) : List (List Char) :=
  if token.kind = .string then
    if token.lexeme.isEmpty then [] else token.lexeme.toList.splitOn ' '
  else
    [token.lexeme.toList]

end WindowLang
