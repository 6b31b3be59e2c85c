import WindowLang.Text.Quoted
import WindowLang.Token.Basic

namespace WindowLang

/-!
# Syntax errors

A token stream that is no document is refused with one error. It tells the
position of the first token that cannot be part of a document, counted from one,
and either the chain of expectations that were not met, innermost rule first, or
that panels are nested too deeply.
-/

/-- Rules of the grammar, as errors name them. -/
inductive Rule where
  | gui
  | layout
  | layoutType
  | widget
  | button
  | group
  | label
  | panel
  | textfield
  | radioButton
  deriving DecidableEq, Repr

/-- The name of a rule; the alternatives of the widget rule carry its name in front. -/
def Rule.name : Rule → String
  | .gui => "GUI"
  | .layout => "Layout"
  | .layoutType => "LayoutType"
  | .widget => "Widget"
  | .button => "Widget: Button"
  | .group => "Widget: Group"
  | .label => "Widget: Label"
  | .panel => "Widget: Panel"
  | .textfield => "Widget: Textfield"
  | .radioButton => "RadioButton"

/-- What a rule wants at a token. -/
inductive Expectation where
  /-- A token of one kind. -/
  | token (kind : Kind)
  /-- A number token that writes an unsigned integer. -/
  | unsignedInteger
  /-- One of the two layouts. -/
  | layoutType
  /-- The gaps of a grid, or its end. -/
  | gapsOrClose
  /-- The first keyword of a widget. -/
  | widget
  /-- Nothing more. -/
  | endOfFile
  deriving DecidableEq, Repr

/-- An expectation in words. -/
def Expectation.text : Expectation → String
  | .token kind => kind.name
  | .unsignedInteger => "an unsigned integer"
  | .layoutType => "Flow or Grid"
  | .gapsOrClose => "Comma or CloseParen"
  | .widget => "Button, Group, Label, Panel or Textfield"
  | .endOfFile => "end of file"

/-- A token as an error shows it; without a token, the end of the input. -/
def describe : Option Token → String
  | none => "end of file"
  | some token => token.kind.name ++ " " ++ Text.quote token.lexeme

/-- One link in the chain of a syntax error. -/
inductive Fragment where
  /-- A rule wanted something and found another token or the end. -/
  | unmet (rule : Rule) (expected : Expectation) (found : Option Token)
  /-- A rule failed because the rule for one of its parts did. -/
  | missing (rule : Rule) (part : Rule)
  deriving DecidableEq, Repr

/-- A link of the chain in words. -/
def Fragment.text : Fragment → String
  | .unmet rule expected found =>
      rule.name ++ ": expected " ++ expected.text ++ ", found " ++ describe found
  | .missing rule part =>
      rule.name ++ ": " ++ part.name ++ " pattern not found"

/-- Why a token stream is no document. -/
inductive SyntaxError where
  /-- Expectations were not met, the innermost first. -/
  | unmet (position : Nat) (trail : List Fragment)
  /-- A panel would open inside too many others. -/
  | tooDeep (position : Nat)
  deriving DecidableEq, Repr

namespace SyntaxError

/-- The token at which recognition stopped, counted from one. -/
def position : SyntaxError → Nat
  | .unmet position _ => position
  | .tooDeep position => position

/-- The reason in words. -/
def message : SyntaxError → String
  | .unmet _ trail => "; ".intercalate (trail.map Fragment.text)
  | .tooDeep _ => Rule.panel.name ++ ": nesting too deep"

/-- The error in words, with its position. -/
def display (error : SyntaxError) : String :=
  "incorrect syntax at token " ++ toString error.position ++ ": " ++ error.message

end SyntaxError

end WindowLang
