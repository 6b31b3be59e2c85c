import WindowLang.Json.Basic
import WindowLang.Token.Basic

namespace WindowLang

/-!
# Tokens as JSON

A token is an object with the name of its kind and its lexeme.
-/

/-- A token as a JSON value. -/
def Token.toJson (token : Token) : Json :=
  .object [("kind", .string token.kind.name), ("lexeme", .string token.lexeme)]

/-- A token stream as a JSON value. -/
def tokensToJson (tokens : List Token) : Json :=
  .array (tokens.map Token.toJson)

end WindowLang
