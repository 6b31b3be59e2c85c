import WindowLang.Token.Lexer
import WindowLang.Token.Normal

namespace WindowLang

/-!
# The shape of token streams

A token stream that a lexer can give is well moded: following the modes of its
kinds, every token has a kind and a lexeme that the lexer gives in that mode.
-/

/-- The mode after some tokens. -/
def modeAfter (mode : Mode) (tokens : List Token) : Mode :=
  tokens.foldl (fun mode token => mode.after token.kind) mode

/-- A nonempty run of alphanumeric characters. -/
def IsWord (text : String) : Prop :=
  text ≠ "" ∧ ∀ c ∈ text.toList, Text.isAlphanumeric c = true

/-- A token that a lexer gives outside parentheses and quotation marks. -/
def IsPlain (strict : Bool) (token : Token) : Prop :=
  match token.kind with
  | .mark mark => token.lexeme = String.singleton mark.char
  | .keyword word => token.lexeme = word.spelling
  | .number =>
      IsWord token.lexeme ∧ Keyword.ofWord? token.lexeme = none ∧
        (strict = true → Text.isNumeral token.lexeme.toList = true)
  | .notFound =>
      strict = true ∧ IsWord token.lexeme ∧ Keyword.ofWord? token.lexeme = none ∧
        Text.isNumeral token.lexeme.toList = false
  | _ => False

/-- A token that a lexer gives between parentheses. -/
def IsParenthesized (token : Token) : Prop :=
  match token.kind with
  | .mark mark => token.lexeme = String.singleton mark.char
  | .number => Text.isNumeral token.lexeme.toList = true
  | .notFound => IsWord token.lexeme ∧ Text.isNumeral token.lexeme.toList = false
  | _ => False

/-- A token that a lexer gives between quotation marks. -/
def IsLiteralText (token : Token) : Prop :=
  token.kind = .string ∧ IsNormal token.lexeme

/-- From a mode on, every token is one that a lexer gives in the mode it has reached. -/
def WellModed (strict : Bool) : Mode → List Token → Prop
  | _, [] => True
  | .plain, token :: rest =>
      IsPlain strict token ∧ WellModed strict (Mode.plain.after token.kind) rest
  | .inParenthesis, token :: rest =>
      IsParenthesized token ∧ WellModed strict (Mode.inParenthesis.after token.kind) rest
  | .inQuotation, [text] => IsLiteralText text ∧ text.lexeme ≠ ""
  | .inQuotation, text :: closing :: rest =>
      IsLiteralText text ∧ closing = .ofMark .quotation ∧ WellModed strict .plain rest

end WindowLang
