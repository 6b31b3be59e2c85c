import WindowLang.Text.Lines
import WindowLang.Text.Numeral
import WindowLang.Token.Basic
import WindowLang.Token.Lexeme

namespace WindowLang

/-!
# The lexer

The lexer turns lexemes into tokens. What a word means depends on where it
stands: between parentheses only numbers are known, between quotation marks all
lexemes up to the closing mark make up one string, and elsewhere a word is a
keyword or else taken for a number. A lexer carries its state from line to line,
so that a literal may run over several lines.
-/

/-- Where the next lexeme stands. -/
inductive Mode where
  /-- Outside parentheses and quotation marks. -/
  | plain
  /-- Between parentheses. -/
  | inParenthesis
  /-- Between quotation marks. -/
  | inQuotation
  deriving DecidableEq, Repr

/-- The mode after something of a given kind was read. -/
def Mode.after : Mode → Kind → Mode
  | .plain, .mark .quotation => .inQuotation
  | .plain, .mark .openParen => .inParenthesis
  | .inQuotation, .mark .quotation => .plain
  | .inParenthesis, .mark .closeParen => .plain
  | mode, _ => mode

/-- The state of a lexer between two lexemes. -/
structure Lexer where
  /-- Outside parentheses only numerals are numbers. -/
  strict : Bool
  /-- Where the next lexeme stands. -/
  mode : Mode
  /-- The tokens read so far, the newest first. -/
  newest : List Token
  /-- The kind of the token added last, if there is one. -/
  last : Option Kind

namespace Lexer

/-- A lexer that has read nothing. -/
def start (strict : Bool) : Lexer where
  strict := strict
  mode := .plain
  newest := []
  last := none

/-- The tokens read so far, in order. -/
def tokens (lexer : Lexer) : List Token :=
  lexer.newest.reverse

/-- The kind of a word outside parentheses and quotation marks. -/
def plainKind (strict : Bool) (word : String) : Kind :=
  match Keyword.ofWord? word with
  | some keyword => .keyword keyword
  | none =>
      if strict && !Text.isNumeral word.toList then .notFound else .number

/-- What a lexeme is, where the lexer stands. -/
def kindOf (lexer : Lexer) : Lexeme → Kind
  | .mark symbol => .mark symbol
  | .word word =>
      match lexer.mode with
      | .plain => plainKind lexer.strict word
      | .inParenthesis => if Text.isNumeral word.toList then .number else .notFound
      | .inQuotation => .string

/-- The lexer with one more token. -/
def add (lexer : Lexer) (kind : Kind) (text : String) : Lexer :=
  { lexer with newest := ⟨kind, text⟩ :: lexer.newest, last := some kind }

/-- The lexer with the text of a string literal, even if that is empty. -/
def withText (lexer : Lexer) : Lexer :=
  if lexer.last = some (.mark .quotation) then lexer.add .string "" else lexer

/-- The lexer with one more piece of a string literal's text. -/
def addText (lexer : Lexer) (piece : String) : Lexer :=
  if lexer.last = some .string then
    match lexer.newest with
    | text :: older =>
        { lexer with newest := ⟨text.kind, text.lexeme ++ " " ++ piece⟩ :: older }
    | [] => lexer.add .string piece
  else
    lexer.add .string piece

/-- The lexer with a lexeme of a given kind and text where it belongs. -/
def place (lexer : Lexer) (kind : Kind) (text : String) : Lexer :=
  match lexer.mode with
  | .inQuotation =>
      if kind = .mark .quotation then
        lexer.withText.add kind text
      else
        lexer.addText text
  | _ => lexer.add kind text

/-- The lexer after one more lexeme. -/
def read (lexer : Lexer) (lexeme : Lexeme) : Lexer :=
  { lexer.place (lexer.kindOf lexeme) lexeme.text with
    mode := lexer.mode.after (lexer.kindOf lexeme) }

/-- The lexer after one more line. -/
def scanLine (lexer : Lexer) (line : String) : Lexer :=
  (lexemes line).foldl read lexer

/-- The lexer after some lines. -/
def scan (lexer : Lexer) (lines : List String) : Lexer :=
  lines.foldl scanLine lexer

end Lexer

/-- The tokens of some lines. -/
def tokenize (strict : Bool) (lines : List String) : List Token :=
  ((Lexer.start strict).scan lines).tokens

/-- The tokens of a text. -/
def tokenizeText (strict : Bool) (text : String) : List Token :=
  tokenize strict (Text.lines text)

end WindowLang
