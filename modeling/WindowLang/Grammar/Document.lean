import WindowLang.Grammar.Production
import WindowLang.Token.Lexer
import WindowLang.Tree.Basic

namespace WindowLang.Grammar

/-!
# The grammar of documents

One production for each rule of the grammar. A document is a window: its title,
its size, its layout and its widgets, closed by the final keyword and a period.
The next token always tells which alternative applies, so a widget that fails
behind its keyword fails for good.

Groups and panels are recognized beside a watcher, which is given each event. A
document by itself is recognized beside the watcher that notes them all.
-/

open Production

/-- The greatest number of panels that may be open at once. -/
def panelLimit : Nat := 256

/-- A token of one kind. -/
def expect (rule : Rule) (kind : Kind) : Production Token :=
  next rule (.token kind) fun token =>
    if token.kind = kind then .ok token else .error (.token kind)

/-- A punctuation mark. -/
def mark (rule : Rule) (symbol : Mark) : Production Token :=
  expect rule (.mark symbol)

/-- A keyword. -/
def keyword (rule : Rule) (word : Keyword) : Production Token :=
  expect rule (.keyword word)

/-- A number token that writes an unsigned integer. -/
def number (rule : Rule) : Production UInt32 :=
  next rule (.token .number) fun token =>
    if token.kind = .number then
      match Text.readUnsigned? token.lexeme with
      | some value => .ok value
      | none => .error .unsignedInteger
    else
      .error (.token .number)

/-- The text between two quotation marks. -/
def quoted (rule : Rule) : Production String := do
  let _ ← mark rule .quotation
  let text ← expect rule .string
  let _ ← mark rule .quotation
  return text.lexeme

/-- The end of the input, or a token that stands for it; neither is taken. -/
def endOfFile (rule : Rule) : Production Unit :=
  fun state =>
    match state.cursor.rest with
    | [] => (some (), state)
    | token :: _ =>
        if token.kind = .endOfFile then
          (some (), state)
        else
          mismatch rule .endOfFile state

/-- The gaps of a grid and its closing parenthesis, or that parenthesis alone. -/
def gaps : Production (Option UInt32 × Option UInt32) := do
  if ← accept (.mark .closeParen) then
    return (none, none)
  if ← accept (.mark .comma) then
    let horizontal ← number .layoutType
    let _ ← mark .layoutType .comma
    let vertical ← number .layoutType
    let _ ← mark .layoutType .closeParen
    return (some horizontal, some vertical)
  else
    mismatch .layoutType .gapsOrClose

/-- The rows, the columns and the gaps of a grid, in parentheses. -/
def grid : Production Layout := do
  let _ ← mark .layoutType .openParen
  let rows ← number .layoutType
  let _ ← mark .layoutType .comma
  let columns ← number .layoutType
  let (horizontal, vertical) ← gaps
  return .grid rows columns horizontal vertical

/-- One of the two layouts. -/
def layoutType : Production Layout := do
  if ← accept (.keyword .flow) then
    return .flow
  if ← accept (.keyword .grid) then
    grid
  else
    mismatch .layoutType .layoutType

/-- The layout of a container, up to its colon. -/
def layout : Production Layout := do
  let _ ← keyword .layout .layout
  let arrangement ← inside .layout .layoutType layoutType
  let _ ← mark .layout .colon
  return arrangement

/-- Items up to the keyword that closes them. -/
def body
    {α : Type}
    (rule : Rule)
    (item : Production α) :
    Production (List α) :=
  forgetting do
    let items ← many item
    let _ ← keyword rule .close
    return items

/-- What follows a keyword, unless another token stands in its place. -/
def alternative
    (word : Keyword)
    (widget : Production Widget) :
    Production (Option Widget) := do
  if ← accept (.keyword word) then
    some <$> widget
  else
    return none

/-- A button behind its keyword. -/
def button : Production Widget := do
  let text ← quoted .button
  let _ ← mark .button .semicolon
  return .button text

/-- A label behind its keyword. -/
def label : Production Widget := do
  let text ← quoted .label
  let _ ← mark .label .semicolon
  return .label text

/-- A text field behind its keyword. -/
def textField : Production Widget := do
  let columns ← number .textfield
  let _ ← mark .textfield .semicolon
  return .textField columns

/-- One radio button of a group. -/
def radioButton : Production String := do
  let _ ← keyword .radioButton .radio
  let text ← quoted .radioButton
  let _ ← mark .radioButton .semicolon
  return text

/-- What is done with an event of the token taken last. -/
abbrev Watcher := (Nat → Event) → Production Unit

/-- A group of radio buttons behind its keyword, beside a watcher of its events. -/
def groupBeside (watcher : Watcher) : Production Widget := do
  watcher .groupOpened
  let buttons ← body .group radioButton
  let _ ← mark .group .semicolon
  watcher fun position => .groupClosed position buttons.length
  return .radioGroup buttons

/-- A panel behind its keyword, as the given number of open panels, beside a watcher. -/
def panelBeside
    (watcher : Watcher)
    (depth : Nat)
    (widget : Production Widget) :
    Production Widget := do
  watcher fun position => .panelOpened position depth
  let arrangement ← inside .panel .layout layout
  let children ← body .panel widget
  let _ ← mark .panel .semicolon
  watcher fun position => .panelClosed position children.length
  return .panel arrangement children

/-- A widget, where `panel` recognizes what follows the keyword of a panel. -/
def widgetWithBeside
    (watcher : Watcher)
    (panel : Production Widget) :
    Production Widget :=
  rewinding do
    let chosen ← firstOf [
      alternative .button button,
      alternative .group (groupBeside watcher),
      alternative .label label,
      alternative .panel panel,
      alternative .textfield textField
    ]
    match chosen with
    | some widget => return widget
    | none => mismatch .widget .widget

/-- A widget, where so many more panels may open one inside the other. -/
def widgetBeside (watcher : Watcher) : Nat → Production Widget
  | 0 => widgetWithBeside watcher refusePanel
  | room + 1 =>
      widgetWithBeside watcher
        (panelBeside watcher (panelLimit - room) (widgetBeside watcher room))

/-- A document up to its widgets, as a window without any. -/
def documentHead : Production Window := do
  let _ ← keyword .gui .window
  let title ← quoted .gui
  let _ ← mark .gui .openParen
  let width ← number .gui
  let _ ← mark .gui .comma
  let height ← number .gui
  let _ ← mark .gui .closeParen
  let arrangement ← inside .gui .layout layout
  return {
    title := title
    width := width
    height := height
    layout := arrangement
    children := []
  }

/-- A document up to its period, where `widget` recognizes its widgets. -/
def documentUpToPeriod (widget : Production Widget) : Production Window := do
  let head ← documentHead
  let children ← body .gui widget
  let _ ← mark .gui .period
  return { head with children := children }

/-- A whole document beside a watcher. -/
def windowBeside (watcher : Watcher) : Production Window := do
  let recognized ← documentUpToPeriod (widgetBeside watcher panelLimit)
  endOfFile .gui
  return recognized

/-! ## Noting all events -/

/-- A group of radio buttons behind its keyword. -/
def group : Production Widget :=
  groupBeside note

/-- A panel behind its keyword, as the given number of open panels, with its widgets. -/
def panel : Nat → Production Widget → Production Widget :=
  panelBeside note

/-- A widget, where `panel` recognizes what follows the keyword of a panel. -/
def widgetWith : Production Widget → Production Widget :=
  widgetWithBeside note

/-- A widget, where so many more panels may open one inside the other. -/
def widget : Nat → Production Widget :=
  widgetBeside note

/-- A whole document. -/
def window : Production Window :=
  windowBeside note

theorem widget_succ (room : Nat) :
    widget (room + 1) = widgetWith (panel (panelLimit - room) (widget room)) :=
  rfl

end WindowLang.Grammar

namespace WindowLang

/-- What became of a token stream: the window or the error, and the events on the way. -/
structure Recognition where
  outcome : Except SyntaxError Window
  events : List Event

/-- Recognizes a token stream as a document. -/
def recognize (tokens : List Token) : Recognition :=
  match Grammar.window (.start tokens) with
  | (some window, state) => ⟨.ok window, state.events.reverse⟩
  | (none, state) => ⟨.error state.error, state.events.reverse⟩

/-- The window that a token stream describes. -/
def parse (tokens : List Token) : Except SyntaxError Window :=
  (recognize tokens).outcome

/-- The window that a text describes. -/
def parseText (strict : Bool) (text : String) : Except SyntaxError Window :=
  parse (tokenizeText strict text)

end WindowLang
