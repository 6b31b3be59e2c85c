import WindowLang.Proofs.Document.InPlace
import WindowLang.Tree.Tokens

namespace WindowLang

/-!
# What productions promise about the state

At any place of any token stream, whatever is known there and however many panels are open, a
production moves on and leaves the rest of its situation as it was, or it fails and only adds
to what is known. An alternative may decline too, and then it has changed nothing. So a
repetition ends, and it leaves its items and the failure that ended it, and nothing else.
-/

namespace Grammar

variable {α : Type} {tokens : List Token} {entry : Situation}

namespace Situation

/-- The situation is at a place of the token stream. -/
structure IsIn (tokens : List Token) (situation : Situation) : Prop where
  consumed_le : situation.state.cursor.consumed ≤ tokens.length
  within : situation.state.Within tokens

/-- All is as it was but the cursor and the events. -/
structure IsKept (entry behind : Situation) : Prop where
  trail : behind.state.diagnosis.trail = entry.state.diagnosis.trail
  failedAt : behind.state.diagnosis.failedAt = entry.state.diagnosis.failedAt
  tooDeep : behind.state.tooDeep = entry.state.tooDeep
  openPanels : behind.openPanels = entry.openPanels

/-- A success took tokens of the stream and kept all else. -/
structure Succeeds (tokens : List Token) (entry behind : Situation) : Prop where
  kept : entry.IsKept behind
  forward : entry.state.cursor.consumed < behind.state.cursor.consumed
  isIn : behind.IsIn tokens

/-- A failure only added to what is known, and there is a reason for it. -/
structure Fails (entry behind : Situation) : Prop where
  trail : entry.state.diagnosis.trail <+: behind.state.diagnosis.trail
  failedAt : entry.state.diagnosis.failedAt ≤ behind.state.diagnosis.failedAt
  openPanels : behind.openPanels = entry.openPanels
  /-- A fragment was added, or a panel farther on is nested too deeply. -/
  reason :
    behind.state.tooDeep = entry.state.tooDeep ∧
        entry.state.diagnosis.trail.length < behind.state.diagnosis.trail.length ∨
      ∃ position,
        behind.state.tooDeep = some position ∧ entry.state.cursor.consumed < position

end Situation

/-- The contract of a production that succeeds or fails. -/
def Contract
    (tokens : List Token)
    (production : InPlace α)
    (entry : Situation) :
    Prop :=
  match production entry with
  | (some _, behind) => entry.Succeeds tokens behind
  | (none, behind) => entry.Fails behind

/-- The contract of an alternative, which may decline as well. -/
def ChoiceContract
    (tokens : List Token)
    (alternative : InPlace (Option α))
    (entry : Situation) :
    Prop :=
  match alternative entry with
  | (some (some _), behind) => entry.Succeeds tokens behind
  | (some none, behind) => behind = entry
  | (none, behind) => entry.Fails behind

/--
A repetition attempted its item until an attempt failed: the items are those of the attempts
that succeeded, one behind the other, and the last attempt began at `last` and left `failed`.
-/
structure RepetitionContract
    (tokens : List Token)
    (item : InPlace α)
    (entry : Situation)
    (items : List α)
    (last failed : Situation) :
    Prop where
  passes : Passes item entry items last
  fails : item last = (none, failed)
  /-- There is at most one attempt for each token that was left, and one more. -/
  attempts : items.length + 1 ≤ tokens.length - entry.state.cursor.consumed + 1
  kept : entry.IsKept last
  isIn : last.IsIn tokens
  /-- The items are given, and all but the cursor is as the last attempt left it. -/
  answer : InPlace.many item entry = (some items, failed.moveTo last.state.cursor)
  /-- No bound on the attempts that allows these makes a difference. -/
  unbounded :
    ∀ bound : List Token,
      tokens.length - entry.state.cursor.consumed ≤ bound.length →
        InPlace.attempts (InPlace.rewinding (InPlace.forgetting item)) bound [] entry =
          InPlace.many item entry

/-- What the productions promise in a situation. -/
structure KeepsContract (tokens : List Token) (entry : Situation) : Prop where
  quoted : ∀ rule, Contract tokens (InPlace.plain (quoted rule)) entry
  number : ∀ rule, Contract tokens (InPlace.plain (number rule)) entry
  layout : Contract tokens (InPlace.plain layout) entry
  layoutType : Contract tokens (InPlace.plain layoutType) entry
  radioButton : Contract tokens (InPlace.plain radioButton) entry
  button : ChoiceContract tokens (InPlace.alternative .button (InPlace.plain button)) entry
  group : ChoiceContract tokens (InPlace.alternative .group InPlace.group) entry
  label : ChoiceContract tokens (InPlace.alternative .label (InPlace.plain label)) entry
  panel :
    ChoiceContract tokens (InPlace.alternative .panel (InPlace.panel InPlace.widget)) entry
  textField :
    ChoiceContract tokens (InPlace.alternative .textfield (InPlace.plain textField)) entry
  widget : Contract tokens InPlace.widget entry
  /-- A widget that fails gives back what it took. -/
  rewinds :
    ∀ behind,
      InPlace.widget entry = (none, behind) →
        behind.state.cursor = entry.state.cursor
  radioButtons :
    ∃ items last failed,
      RepetitionContract tokens (InPlace.plain Grammar.radioButton) entry items last failed
  widgets :
    ∃ items last failed,
      RepetitionContract tokens InPlace.widget entry items last failed
  /-- The widget in place is the widget of documents that has the room that is left. -/
  agrees :
    InPlace.widget entry =
      InPlace.plain (Grammar.widget (panelLimit - entry.openPanels)) entry

/-! ## Carrying contracts over -/

/-- Tokens that are left in the stream can be taken without leaving it. -/
theorem Situation.IsIn.takes
    {taken : List Token}
    {reached : State}
    (isIn : entry.IsIn tokens)
    (takes : entry.state.Takes taken reached) :
    entry.state.cursor.consumed + taken.length ≤ tokens.length ∧
      Situation.IsIn tokens ⟨reached, entry.openPanels⟩ := by
  have left : entry.state.cursor.rest.length = tokens.length - entry.state.cursor.consumed := by
    rw [isIn.within, List.length_drop]
  have consumed_le := isIn.consumed_le
  rw [takes.rest, List.length_append] at left
  have enough : entry.state.cursor.consumed + taken.length ≤ tokens.length := by
    omega
  refine ⟨enough, ?_, takes.within isIn.within⟩
  rw [takes.consumed]
  exact enough

theorem Situation.isKept_of_takes
    {taken : List Token}
    {reached : State}
    (takes : entry.state.Takes taken reached) :
    entry.IsKept ⟨reached, entry.openPanels⟩ where
  trail := congrArg Diagnosis.trail takes.diagnosis
  failedAt := congrArg Diagnosis.failedAt takes.diagnosis
  tooDeep := takes.tooDeep
  openPanels := rfl

theorem Situation.succeeds_of_takes
    {taken : List Token}
    {reached : State}
    (isIn : entry.IsIn tokens)
    (takes : entry.state.Takes taken reached)
    (enough : 1 ≤ taken.length) :
    entry.Succeeds tokens ⟨reached, entry.openPanels⟩ where
  kept := isKept_of_takes takes
  forward := by
    rw [takes.consumed]
    omega
  isIn := (isIn.takes takes).2

theorem Situation.fails_of_learns
    {reached : State}
    (learns : entry.state.Learns reached) :
    entry.Fails ⟨reached, entry.openPanels⟩ where
  trail := learns.trail
  failedAt := learns.failedAt
  openPanels := rfl
  reason := learns.reason

/-- A production in place keeps the contract that the production it agrees with keeps. -/
theorem AgreesAt.contract
    {inPlace : InPlace α}
    {production : Production α}
    (agrees : AgreesAt entry.openPanels inPlace production)
    (orderly : IsOrderly 1 production)
    (isIn : entry.IsIn tokens) :
    Contract tokens inPlace entry := by
  have answered : inPlace entry = InPlace.plain production entry := agrees entry.state
  have answer := orderly entry.state
  unfold Contract
  rw [answered, InPlace.plain]
  generalize production entry.state = result at answer
  cases answer with
  | succeeded takes enough =>
      exact Situation.succeeds_of_takes isIn takes enough
  | failed learns =>
      exact Situation.fails_of_learns learns

theorem AgreesAt.choiceContract
    {inPlace : InPlace Widget}
    {production : Production Widget}
    (agrees : AgreesAt entry.openPanels inPlace production)
    (orderly : IsOrderlyBehindToken production)
    (isIn : entry.IsIn tokens)
    (word : Keyword) :
    ChoiceContract tokens (InPlace.alternative word inPlace) entry := by
  have answered :
      InPlace.alternative word inPlace entry =
        InPlace.plain (Grammar.alternative word production) entry :=
    agrees.alternative word entry.state
  have answer := orderlyChoice_alternative orderly word entry.state
  unfold ChoiceContract
  rw [answered, InPlace.plain]
  generalize Grammar.alternative word production entry.state = result at answer
  cases answer with
  | declined =>
      rfl
  | chosen takes enough =>
      exact Situation.succeeds_of_takes isIn takes enough
  | failed learns =>
      exact Situation.fails_of_learns learns

/-- Items that succeed one after the other succeed in place. -/
theorem AgreesAt.passes
    {depth : Nat}
    {inPlace : InPlace α}
    {production : Production α}
    {state last : State}
    {items : List α}
    (agrees : AgreesAt depth inPlace production)
    (passes : Passes production state items last) :
    Passes inPlace (⟨state, depth⟩ : Situation) items ⟨last, depth⟩ := by
  induction passes with
  | nil state =>
      exact .nil _
  | cons succeeded others inductionHypothesis =>
      exact .cons (agrees.apply_of_some succeeded) inductionHypothesis

theorem AgreesAt.exists_repetition
    {inPlace : InPlace α}
    {production : Production α}
    (agrees : AgreesAt entry.openPanels inPlace production)
    (orderly : IsOrderly 1 production)
    (isIn : entry.IsIn tokens) :
    ∃ items last failed, RepetitionContract tokens inPlace entry items last failed := by
  obtain ⟨taken, items, last, failed, repetition⟩ := orderly.exists_repetition entry.state
  obtain ⟨within, lastIsIn⟩ := isIn.takes repetition.takes
  have enough := repetition.enough
  have attempted
      {bound : List Token}
      (allowed : entry.state.cursor.rest.length ≤ bound.length) :
      InPlace.attempts (InPlace.rewinding (InPlace.forgetting inPlace)) bound [] entry =
        (some items, Situation.moveTo ⟨failed, entry.openPanels⟩ last.cursor) := by
    have agreed := (agrees.forgetting orderly.onlyAdds).rewinding.attempts bound []
    exact agreed.apply_of_some (repetition.answer bound [] allowed)
  have answer := attempted (Nat.le_refl entry.state.cursor.rest.length)
  refine ⟨items, ⟨last, entry.openPanels⟩, ⟨failed, entry.openPanels⟩, ?_⟩
  exact {
    passes := agrees.passes repetition.passes
    fails := agrees.apply_of_none repetition.fails
    attempts := by omega
    kept := Situation.isKept_of_takes repetition.takes
    isIn := lastIsIn
    answer := answer
    unbounded := by
      intro bound allowed
      rw [← List.length_drop, ← isIn.within] at allowed
      exact (attempted allowed).trans answer.symm
  }

/-- A panel in place does what some production does that is orderly behind its keyword. -/
theorem exists_agreesAt_panel (depth : Nat) :
    ∃ production,
      IsOrderlyBehindToken production ∧
        AgreesAt depth (InPlace.panel InPlace.widget) production := by
  by_cases below : depth < panelLimit
  · have isItem := isOrderlyItem_widget (panelLimit - (depth + 1))
    exact ⟨_, (IsOrderly.panel isItem (depth + 1)).behindToken,
      .panel_of_lt below (.widget (depth + 1)) isItem.orderly⟩
  · exact ⟨_, isOrderlyBehindToken_refusePanel, .panel_of_le _ (Nat.not_lt.1 below)⟩

/-- A widget in place that fails gives back what it took. -/
theorem cursor_of_widget_eq_none
    {behind : Situation}
    (failed : InPlace.widget entry = (none, behind)) :
    behind.state.cursor = entry.state.cursor := by
  rw [InPlace.widget_eq, InPlace.widgetWith, InPlace.rewinding] at failed
  split at failed
  · cases failed
  · cases failed
    rfl

end Grammar

open Grammar

/--
Every production keeps its contract, at every place of every token stream, whatever has failed
before and however many panels are open. If it succeeds, it has moved on within the stream,
and the trail, the farthest failure, the number of open panels and the mark of too deep a
panel are as before; an alternative that declines has changed nothing. If it fails, it has
added to the trail or met too deep a panel, with as many panels open as before, and a widget
has given back what it took. So a repetition makes one attempt more than it gives items, of
which there are no more than tokens were left, and it leaves nothing but what its last attempt
recorded.
-/
theorem productions_keep_contract
    {tokens : List Token}
    {entry : Situation}
    (isIn : entry.IsIn tokens) :
    KeepsContract tokens entry := by
  obtain ⟨panel, panelOrderly, panelAgrees⟩ := exists_agreesAt_panel entry.openPanels
  have lineOrderly (rule : Rule) (build : String → Widget) :=
    (IsOrderly.line rule build (IsOrderly.quoted rule)).behindToken
  have fieldOrderly := IsOrderly.line .textfield Widget.textField (IsOrderly.number .textfield)
  have widgetOrderly := (isOrderlyItem_widget (panelLimit - entry.openPanels)).orderly
  exact {
    quoted := fun rule =>
      (AgreesAt.plain _).contract ((IsOrderly.quoted rule).mono (by decide)) isIn
    number := fun rule => (AgreesAt.plain _).contract (IsOrderly.number rule) isIn
    layout := (AgreesAt.plain _).contract (IsOrderly.layout.mono (by decide)) isIn
    layoutType := (AgreesAt.plain _).contract IsOrderly.layoutType isIn
    radioButton := (AgreesAt.plain _).contract isOrderlyItem_radioButton.orderly isIn
    button := (AgreesAt.plain button).choiceContract (lineOrderly .button .button) isIn .button
    group := AgreesAt.group.choiceContract IsOrderly.group.behindToken isIn .group
    label := (AgreesAt.plain label).choiceContract (lineOrderly .label .label) isIn .label
    panel := panelAgrees.choiceContract panelOrderly isIn .panel
    textField :=
      (AgreesAt.plain textField).choiceContract fieldOrderly.behindToken isIn .textfield
    widget := (AgreesAt.widget entry.openPanels).contract widgetOrderly isIn
    rewinds := fun _ => cursor_of_widget_eq_none
    radioButtons :=
      (AgreesAt.plain _).exists_repetition isOrderlyItem_radioButton.orderly isIn
    widgets := (AgreesAt.widget entry.openPanels).exists_repetition widgetOrderly isIn
    agrees := AgreesAt.widget entry.openPanels entry.state
  }

/-- A button, and a panel behind it. -/
def buttonAndPanel : List Token := [
  .ofKeyword .button, .ofMark .quotation, .ofText "A", .ofMark .quotation,
  .ofMark .semicolon, .ofKeyword .panel]

/-- A failure is known already, and no panel more may open. -/
def fullSituation : Situation where
  state := {
    cursor := ⟨buttonAndPanel, 0⟩
    diagnosis := ⟨[.missing .panel .layout], 4⟩
    tooDeep := none
    events := []
  }
  openPanels := panelLimit

theorem fullSituation_keeps_contract :
    fullSituation.IsIn buttonAndPanel ∧
      KeepsContract buttonAndPanel fullSituation ∧
      InPlace.many InPlace.widget fullSituation =
        (some [.button "A"],
          {
            state := {
              cursor := ⟨[.ofKeyword .panel], 5⟩
              diagnosis := ⟨[.missing .panel .layout], 4⟩
              tooDeep := some 6
              events := []
            }
            openPanels := panelLimit
          }) := by
  have isIn : fullSituation.IsIn buttonAndPanel := ⟨by decide, rfl⟩
  exact ⟨isIn, productions_keep_contract isIn, rfl⟩

end WindowLang
