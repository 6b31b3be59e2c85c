import WindowLang.Grammar.Derivation

namespace WindowLang.Grammar

/-!
# Nesting

Which containers are open behind some tokens is told by the tokens alone, without an
agenda. The keyword of a panel or of a group opens a container, and the closing keyword
with a semicolon behind it closes the one that was opened last.
-/

/-- The containers that are open at a place among tokens. -/
structure Nesting where
  /-- The keywords of the open containers, the innermost first. -/
  containers : List Keyword
  /-- The token before the place is a closing keyword. -/
  closing : Bool
  deriving DecidableEq, Repr

/-- The nesting behind one more token. -/
def Nesting.after (nesting : Nesting) (token : Token) : Nesting :=
  match token.kind with
  | .keyword .panel => ⟨.panel :: nesting.containers, false⟩
  | .keyword .group => ⟨.group :: nesting.containers, false⟩
  | .keyword .close => ⟨nesting.containers, true⟩
  | .mark .semicolon =>
      if nesting.closing then
        ⟨nesting.containers.tail, false⟩
      else
        ⟨nesting.containers, false⟩
  | _ => ⟨nesting.containers, false⟩

/-- The nesting behind some tokens. -/
def nestingBehind (tokens : List Token) : Nesting :=
  tokens.foldl Nesting.after ⟨[], false⟩

/-- The number of panels that some tokens open and do not close. -/
def openPanelsBehind (tokens : List Token) : Nat :=
  (nestingBehind tokens).containers.count .panel

/-- The keywords that widgets begin with. -/
def widgetKeywords : List Keyword :=
  [.button, .group, .label, .panel, .textfield]

/-- A widget may begin behind the tokens: some document goes on there with its keyword. -/
def WidgetMayBegin (tokens : List Token) : Prop :=
  ∃ word first suffix window,
    word ∈ widgetKeywords ∧ first.kind = .keyword word ∧
      WindowForm (tokens ++ first :: suffix) window

end WindowLang.Grammar
