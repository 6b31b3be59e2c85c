import WindowLang.Grammar.Document

namespace WindowLang.Grammar

/-!
# Agendas

An agenda tells, after the first tokens of a document, what is still to come and
which productions are unfinished, the innermost first. Each token either does the
first task of the agenda or cannot stand where it does, and then the agenda tells
which expectations were not met. No token is looked at twice.
-/

/-- What a body holds. -/
inductive Item where
  | widget
  | radioButton
  deriving DecidableEq, Repr

/-- Something still to come. -/
inductive Task where
  /-- A token of one kind. -/
  | token (rule : Rule) (kind : Kind)
  /-- A number token that writes an unsigned integer. -/
  | number (rule : Rule)
  /-- A layout that is part of a rule. -/
  | layout (rule : Rule)
  /-- A layout without its keyword and colon. -/
  | layoutType
  /-- The gaps of a grid and its closing parenthesis, or that parenthesis alone. -/
  | gaps
  /-- The end of a part of a rule that has begun; it takes no token. -/
  | finish (rule part : Rule)
  /-- Items up to the closing keyword, and where the item in progress began. -/
  | body (rule : Rule) (item : Item) (begun : Option Nat)
  deriving DecidableEq, Repr

/-- What is still to come, in order. -/
abbrev Agenda := List Task

/-- The tasks of a string literal. -/
def literalTasks (rule : Rule) : Agenda :=
  [.token rule (.mark .quotation), .token rule .string, .token rule (.mark .quotation)]

/-- The tasks of a layout behind its keyword. -/
def layoutTasks (rule : Rule) : Agenda :=
  [.layoutType, .token .layout (.mark .colon), .finish rule .layout]

/-- The tasks of a grid behind its keyword. -/
def gridTasks : Agenda :=
  [
    .token .layoutType (.mark .openParen),
    .number .layoutType,
    .token .layoutType (.mark .comma),
    .number .layoutType,
    .gaps,
    .finish .layout .layoutType
  ]

/-- The tasks of a grid's gaps behind the first comma. -/
def gapTasks : Agenda :=
  [
    .number .layoutType,
    .token .layoutType (.mark .comma),
    .number .layoutType,
    .token .layoutType (.mark .closeParen)
  ]

/-- The tasks of a widget behind its keyword, if the keyword begins one. -/
def widgetTasks? : Keyword → Option Agenda
  | .button => some (literalTasks .button ++ [.token .button (.mark .semicolon)])
  | .label => some (literalTasks .label ++ [.token .label (.mark .semicolon)])
  | .textfield => some [.number .textfield, .token .textfield (.mark .semicolon)]
  | .group => some [.body .group .radioButton none, .token .group (.mark .semicolon)]
  | .panel =>
      some [.layout .panel, .body .panel .widget none, .token .panel (.mark .semicolon)]
  | _ => none

/-- The tasks of an item behind its first token, if the token begins one. -/
def Item.tasks? (item : Item) (token : Token) : Option Agenda :=
  match item, token.kind with
  | .widget, .keyword word => widgetTasks? word
  | .radioButton, .keyword .radio =>
      some (literalTasks .radioButton ++ [.token .radioButton (.mark .semicolon)])
  | _, _ => none

namespace Agenda

/-- The tasks of a whole document. -/
def start : Agenda :=
  .token .gui (.keyword .window) :: literalTasks .gui ++
    [
      .token .gui (.mark .openParen),
      .number .gui,
      .token .gui (.mark .comma),
      .number .gui,
      .token .gui (.mark .closeParen),
      .layout .gui,
      .body .gui .widget none,
      .token .gui (.mark .period)
    ]

/-- The agenda without the ends of parts in front. -/
def settle : Agenda → Agenda
  | .finish _ _ :: rest => settle rest
  | agenda => agenda

/-- The number of panels whose closing keyword is still to come. -/
def openPanels (agenda : Agenda) : Nat :=
  agenda.countP fun task =>
    match task with
    | .body .panel _ _ => true
    | _ => false

/-- A panel keyword may not come next, because too many panels are open. -/
def isFull (agenda : Agenda) (token : Token) : Bool :=
  decide (token.kind = .keyword .panel) && decide (panelLimit ≤ agenda.openPanels)

/-- The agenda behind a token with the given number of tokens before it. -/
def advance? (agenda : Agenda) (index : Nat) (token : Token) : Option Agenda :=
  match agenda.settle with
  | [] => none
  | .token _ kind :: rest => if token.kind = kind then some rest else none
  | .number _ :: rest =>
      if token.kind = .number ∧ (Text.readUnsigned? token.lexeme).isSome then
        some rest
      else
        none
  | .layout rule :: rest =>
      if token.kind = .keyword .layout then some (layoutTasks rule ++ rest) else none
  | .layoutType :: rest =>
      if token.kind = .keyword .flow then some rest
      else if token.kind = .keyword .grid then some (gridTasks ++ rest)
      else none
  | .gaps :: rest =>
      if token.kind = .mark .closeParen then some rest
      else if token.kind = .mark .comma then some (gapTasks ++ rest)
      else none
  | .finish _ _ :: rest => some rest
  | .body rule item begun :: rest =>
      if token.kind = .keyword .close then
        some rest
      else if isFull (.body rule item begun :: rest) token then
        none
      else
        (item.tasks? token).map fun tasks => tasks ++ .body rule item (some index) :: rest

/-- The agenda behind some tokens with the given number of tokens before them. -/
def run? (agenda : Agenda) (index : Nat) : List Token → Option Agenda
  | [] => some agenda
  | token :: rest =>
      match agenda.advance? index token with
      | none => none
      | some next => next.run? (index + 1) rest

end Agenda

/-- What an item wants at its first token. -/
def Item.unmet (item : Item) (found : Option Token) : Fragment :=
  match item with
  | .widget => .unmet .widget .widget found
  | .radioButton => .unmet .radioButton (.token (.keyword .radio)) found

namespace Task

/-- The expectations that a token does not meet where a task comes next. -/
def refusal (found : Option Token) : Task → List Fragment
  | .token rule kind => [.unmet rule (.token kind) found]
  | .number rule =>
      if found.map Token.kind = some .number then
        [.unmet rule .unsignedInteger found]
      else
        [.unmet rule (.token .number) found]
  | .layout rule => [.unmet .layout (.token (.keyword .layout)) found, .missing rule .layout]
  | .layoutType => [.unmet .layoutType .layoutType found, .missing .layout .layoutType]
  | .gaps => [.unmet .layoutType .gapsOrClose found]
  | .finish rule part => [.missing rule part]
  | .body rule item _ => [item.unmet found, .unmet rule (.token (.keyword .close)) found]

/-- The expectation that an unfinished production adds to a failure further in. -/
def pending? (tokens : List Token) : Task → Option Fragment
  | .finish rule part => some (.missing rule part)
  | .body rule _ (some begun) => some (.unmet rule (.token (.keyword .close)) tokens[begun]?)
  | _ => none

end Task

/-- The expectations not met at the token with the given number of tokens before it. -/
def Agenda.unmet (agenda : Agenda) (tokens : List Token) (index : Nat) : List Fragment :=
  match agenda.settle with
  | [] => [.unmet .gui .endOfFile tokens[index]?]
  | task :: rest => task.refusal tokens[index]? ++ rest.filterMap (Task.pending? tokens)

end WindowLang.Grammar
