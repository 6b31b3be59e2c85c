import WindowLang.Token.Kind

namespace WindowLang

/-!
# Tokens

A token keeps the text it was read from beside its kind. The text of a string
literal is its lexeme; the value of a number is read from its lexeme only where
a number is wanted.
-/

/-- A kind of token and the text that it stands for. -/
structure Token where
  kind : Kind
  lexeme : String
  deriving DecidableEq, Repr

/-- The token of a punctuation mark. -/
def Token.ofMark (mark : Mark) : Token where
  kind := .mark mark
  lexeme := String.singleton mark.char

/-- The token of a keyword. -/
def Token.ofKeyword (keyword : Keyword) : Token where
  kind := .keyword keyword
  lexeme := keyword.spelling

end WindowLang
