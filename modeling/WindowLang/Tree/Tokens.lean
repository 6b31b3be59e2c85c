import WindowLang.Text.Numeral
import WindowLang.Token.Basic
import WindowLang.Tree.Basic

namespace WindowLang

/-!
# The tokens of a window

Every window that the language can describe has a plainest source: its tokens
with their own spellings, separated by single spaces.
-/

/-- The token of a string literal's text. -/
def Token.ofText (text : String) : Token where
  kind := .string
  lexeme := text

/-- The token of an unsigned integer. -/
def Token.ofNumber (number : UInt32) : Token where
  kind := .number
  lexeme := Text.writeUnsigned number

/-- The tokens of a string literal. -/
def quotedTokens (text : String) : List Token :=
  [.ofMark .quotation, .ofText text, .ofMark .quotation]

/-- The tokens of the gaps of a grid, if it has both. -/
def gapTokens : Option UInt32 → Option UInt32 → List Token
  | some horizontal, some vertical =>
      [.ofMark .comma, .ofNumber horizontal, .ofMark .comma, .ofNumber vertical]
  | _, _ => []

/-- The tokens of a layout without its keyword and colon. -/
def Layout.typeTokens : Layout → List Token
  | .flow => [.ofKeyword .flow]
  | .grid rows columns horizontal vertical =>
      [.ofKeyword .grid, .ofMark .openParen, .ofNumber rows, .ofMark .comma, .ofNumber columns] ++
        gapTokens horizontal vertical ++ [.ofMark .closeParen]

/-- The tokens of a layout. -/
def Layout.tokens (layout : Layout) : List Token :=
  .ofKeyword .layout :: layout.typeTokens ++ [.ofMark .colon]

/-- The tokens of a radio button. -/
def radioTokens (label : String) : List Token :=
  .ofKeyword .radio :: quotedTokens label ++ [.ofMark .semicolon]

mutual

/-- The tokens of a widget. -/
def Widget.tokens : Widget → List Token
  | .button caption => .ofKeyword .button :: quotedTokens caption ++ [.ofMark .semicolon]
  | .label text => .ofKeyword .label :: quotedTokens text ++ [.ofMark .semicolon]
  | .textField columns => [.ofKeyword .textfield, .ofNumber columns, .ofMark .semicolon]
  | .radioGroup buttons =>
      .ofKeyword .group :: buttons.flatMap radioTokens ++
        [.ofKeyword .close, .ofMark .semicolon]
  | .panel layout children =>
      .ofKeyword .panel :: layout.tokens ++ Widget.tokensAll children ++
        [.ofKeyword .close, .ofMark .semicolon]

/-- The tokens of some widgets. -/
def Widget.tokensAll : List Widget → List Token
  | [] => []
  | widget :: rest => widget.tokens ++ Widget.tokensAll rest

end

/-- The tokens of a window. -/
def Window.tokens (window : Window) : List Token :=
  .ofKeyword .window :: quotedTokens window.title ++
    [.ofMark .openParen, .ofNumber window.width, .ofMark .comma, .ofNumber window.height,
      .ofMark .closeParen] ++
    window.layout.tokens ++ Widget.tokensAll window.children ++
    [.ofKeyword .close, .ofMark .period]

/-- The lexemes of some tokens, separated by single spaces. -/
def spaced (tokens : List Token) : String :=
  " ".intercalate (tokens.map Token.lexeme)

/-- The plainest source of a window. -/
def Window.source (window : Window) : String :=
  spaced window.tokens

end WindowLang
