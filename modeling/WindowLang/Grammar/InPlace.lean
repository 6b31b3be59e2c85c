import WindowLang.Grammar.Document

namespace WindowLang.Grammar

/-!
# Recognition in place

A production of a document goes on with an older diagnosis where it forgets failed attempts,
and the room for panels is an argument of the widget. Here the productions change one
situation instead. A checkpoint tells how long the trail was, and what was added since is cut
off again. The situation counts the panels that are open: a panel is refused by that number,
and counts itself while it is at work, whether it succeeds or fails.

Productions that neither attempt anything nor hold panels are plain: they are the same in
both ways.
-/

/-- A state and the number of panels that are open around its cursor. -/
structure Situation where
  state : State
  openPanels : Nat
  deriving DecidableEq, Repr

/-- What was known before some attempts. -/
structure Checkpoint where
  /-- The number of fragments in the trail. -/
  trail : Nat
  /-- The farthest token at which an expectation had failed. -/
  failedAt : Nat
  deriving DecidableEq, Repr

namespace Situation

/-- The situation with the cursor at another place. -/
def moveTo (situation : Situation) (cursor : Cursor) : Situation where
  state := { situation.state with cursor := cursor }
  openPanels := situation.openPanels

/-- What is known now. -/
def checkpoint (situation : Situation) : Checkpoint where
  trail := situation.state.diagnosis.trail.length
  failedAt := situation.state.diagnosis.failedAt

/-- Forgets the failures since a checkpoint. -/
def discard (situation : Situation) (checkpoint : Checkpoint) : Situation where
  state := {
    situation.state with
    diagnosis := {
      trail := situation.state.diagnosis.trail.take checkpoint.trail
      failedAt := checkpoint.failedAt
    }
  }
  openPanels := situation.openPanels

end Situation

/-- A step of recognition in place: a value or a failure, and the situation behind it. -/
def InPlace (α : Type) : Type :=
  Situation → Option α × Situation

namespace InPlace

variable {α β : Type}

/-- A production that changes the state only. -/
def plain (production : Production α) : InPlace α :=
  fun situation =>
    let answer := production situation.state
    (answer.1, { situation with state := answer.2 })

/-- Recognizes with one production and goes on with another if it succeeds. -/
def andThen
    (first : InPlace α)
    (next : α → InPlace β) :
    InPlace β :=
  fun situation =>
    match first situation with
    | (some value, reached) => next value reached
    | (none, reached) => (none, reached)

instance : Monad InPlace where
  pure value := plain (Production.succeed value)
  bind := andThen

/-- Goes back to where the cursor was if the production fails. -/
def rewinding (production : InPlace α) : InPlace α :=
  fun situation =>
    match production situation with
    | (some value, reached) => (some value, reached)
    | (none, reached) => (none, reached.moveTo situation.state.cursor)

/-- Goes back to the checkpoint before the production if it succeeds. -/
def forgetting (production : InPlace α) : InPlace α :=
  fun situation =>
    match production situation with
    | (some value, reached) => (some value, reached.discard situation.checkpoint)
    | (none, reached) => (none, reached)

/--
Attempts at an item until one fails, but at most one for each token of `bound`
and one more; `items` holds the items so far, the last one first.
-/
def attempts
    (item : InPlace α)
    (bound : List Token)
    (items : List α) :
    InPlace (List α) :=
  fun situation =>
    match item situation with
    | (none, reached) => (some items.reverse, reached)
    | (some value, reached) =>
        match bound with
        | [] => (some (value :: items).reverse, reached)
        | _ :: bound => attempts item bound (value :: items) reached

/-- Items one after the other, as long as they succeed. -/
def many (item : InPlace α) : InPlace (List α) :=
  fun situation =>
    attempts (rewinding (forgetting item)) situation.state.cursor.rest [] situation

/-- Items up to the keyword that closes them. -/
def body
    (rule : Rule)
    (item : InPlace α) :
    InPlace (List α) :=
  forgetting do
    let items ← many item
    let _ ← plain (keyword rule .close)
    return items

/-- The value of the first alternative that does not decline, if there is one. -/
def firstOf : List (InPlace (Option α)) → InPlace (Option α)
  | [] => pure none
  | alternative :: others => do
      match ← alternative with
      | some value => return some value
      | none => firstOf others

/-- What follows a keyword, unless another token stands in its place. -/
def alternative
    (word : Keyword)
    (widget : InPlace Widget) :
    InPlace (Option Widget) := do
  if ← plain (Production.accept (.keyword word)) then
    some <$> widget
  else
    return none

/-- A group of radio buttons behind its keyword. -/
def group : InPlace Widget := do
  plain (Production.note .groupOpened)
  let buttons ← body .group (plain radioButton)
  let _ ← plain (mark .group .semicolon)
  plain (Production.note fun position => .groupClosed position buttons.length)
  return .radioGroup buttons

/-- One panel more is open while the production is at work. -/
def insidePanel (production : InPlace α) : InPlace α :=
  fun situation =>
    let answer := production { situation with openPanels := situation.openPanels + 1 }
    (answer.1, { answer.2 with openPanels := answer.2.openPanels - 1 })

/-- Notes that a panel opened, with the number of panels that are open now. -/
def notePanelOpened : InPlace Unit :=
  fun situation =>
    plain (Production.note fun position => .panelOpened position situation.openPanels) situation

/-- The layout and the widgets of a panel. -/
def panelBody (widget : InPlace Widget) : InPlace Widget := do
  notePanelOpened
  let arrangement ← plain (Production.inside .panel .layout layout)
  let children ← body .panel widget
  let _ ← plain (mark .panel .semicolon)
  plain (Production.note fun position => .panelClosed position children.length)
  return .panel arrangement children

/-- A panel behind its keyword, with its widgets, unless too many panels are open. -/
def panel (widget : InPlace Widget) : InPlace Widget :=
  fun situation =>
    if panelLimit ≤ situation.openPanels then
      plain Production.refusePanel situation
    else
      insidePanel (panelBody widget) situation

/-- A widget, where `panel` recognizes what follows the keyword of a panel. -/
def widgetWith (panel : InPlace Widget) : InPlace Widget :=
  rewinding do
    let chosen ← firstOf [
      alternative .button (plain button),
      alternative .group group,
      alternative .label (plain label),
      alternative .panel panel,
      alternative .textfield (plain textField)
    ]
    match chosen with
    | some widget => return widget
    | none => plain (Production.mismatch .widget .widget)

/-- A widget, where panels are recognized so many levels deep. -/
def widgetUpTo : Nat → InPlace Widget
  | 0 => widgetWith (plain Production.refusePanel)
  | levels + 1 => widgetWith (panel (widgetUpTo levels))

/-- A widget; panels open no deeper than the limit, so these levels are enough. -/
def widget : InPlace Widget :=
  widgetUpTo panelLimit

/-- A document up to its period. -/
def windowUpToPeriod : InPlace Window := do
  let head ← plain documentHead
  let children ← body .gui widget
  let _ ← plain (mark .gui .period)
  return { head with children := children }

/-- A whole document. -/
def window : InPlace Window := do
  let recognized ← windowUpToPeriod
  plain (endOfFile .gui)
  return recognized

/-- What follows a production that succeeds starts where that one left off. -/
theorem bind_apply_of_some
    {first : InPlace α}
    {next : α → InPlace β}
    {situation reached : Situation}
    {value : α}
    (succeeded : first situation = (some value, reached)) :
    (first >>= next) situation = next value reached := by
  change andThen first next situation = next value reached
  simp only [andThen, succeeded]

/-- Nothing follows a production that fails. -/
theorem bind_apply_of_none
    {first : InPlace α}
    {next : α → InPlace β}
    {situation reached : Situation}
    (failed : first situation = (none, reached)) :
    (first >>= next) situation = (none, reached) := by
  change andThen first next situation = (none, reached)
  simp only [andThen, failed]

end InPlace

end WindowLang.Grammar
