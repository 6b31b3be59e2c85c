import WindowLang.Text.Quoted
import WindowLang.Token.Basic

namespace WindowLang

/-!
# Token listings

A listing shows a token stream for people to read: each token as its kind and
its quoted lexeme in brackets, five tokens on a line.
-/

/-- A token as an entry of a listing. -/
def Token.entry (token : Token) : String :=
  "[" ++ token.kind.name ++ ", " ++ Text.quote token.lexeme ++ "]"

/-- Rows of five, the last of which may be shorter. -/
def rowsOfFive {α : Type} : List α → List (List α)
  | [] => []
  | a :: b :: c :: d :: e :: rest => [a, b, c, d, e] :: rowsOfFive rest
  | short => [short]

/-- The listing of a token stream. -/
def listing (tokens : List Token) : String :=
  "\n".intercalate <|
    (rowsOfFive tokens).map fun row => " ".intercalate (row.map Token.entry)

end WindowLang
