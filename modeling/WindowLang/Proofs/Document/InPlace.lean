import WindowLang.Grammar.InPlace
import WindowLang.Proofs.Document.Contract

namespace WindowLang.Grammar

/-!
# Recognition in place agrees with the productions

Where failures are forgotten, cutting off the trail at a checkpoint gives back the trail that
was there, for no production takes a fragment away. A panel that counts itself leaves the
number of open panels as it was, so that this number and the room that is left always make up
the limit. So each production in place does what the production of the same name does, and it
looks into as many levels of panels as may be open.
-/

variable {α β : Type} {depth : Nat}

/-- The production in place does what the other one does where so many panels are open. -/
def AgreesAt
    (depth : Nat)
    (inPlace : InPlace α)
    (production : Production α) :
    Prop :=
  ∀ state : State, inPlace ⟨state, depth⟩ = InPlace.plain production ⟨state, depth⟩

/-- Where the production succeeds, it takes no fragment of the trail away. -/
def OnlyAdds (production : Production α) : Prop :=
  ∀ (state reached : State) (value : α),
    production state = (some value, reached) →
      state.diagnosis.trail <+: reached.diagnosis.trail

theorem IsOrderly.onlyAdds
    {least : Nat}
    {production : Production α}
    (orderly : IsOrderly least production) :
    OnlyAdds production := by
  intro state reached value succeeded
  have answer := orderly state
  rw [succeeded] at answer
  cases answer with
  | succeeded takes enough =>
      exact takes.diagnosis.symm ▸ List.prefix_rfl

/-- A repetition succeeds with what its last attempt added. -/
theorem IsOrderly.onlyAdds_many
    {item : Production α}
    (orderly : IsOrderly 1 item) :
    OnlyAdds (Production.many item) := by
  intro state reached values succeeded
  obtain ⟨taken, items, last, failed, repetition⟩ := orderly.exists_repetition state
  rw [repetition.many_eq] at succeeded
  cases succeeded
  exact ((orderly.learns_of_none repetition.fails).prepend repetition.takes).trail

theorem OnlyAdds.bind
    {production : Production α}
    {next : α → Production β}
    (first : OnlyAdds production)
    (others : ∀ value, OnlyAdds (next value)) :
    OnlyAdds (production >>= next) := by
  intro state reached result succeeded
  cases answered : production state with
  | mk answer middle =>
      cases answer with
      | none =>
          rw [Production.bind_apply_of_none answered] at succeeded
          cases succeeded
      | some value =>
          rw [Production.bind_apply_of_some answered] at succeeded
          exact (first state middle value answered).trans
            (others value middle reached result succeeded)

/-- Cutting off what was added gives back the diagnosis at the checkpoint. -/
theorem Situation.discard_checkpoint
    {state reached : State}
    (added : state.diagnosis.trail <+: reached.diagnosis.trail) :
    Situation.discard ⟨reached, depth⟩ (Situation.checkpoint ⟨state, depth⟩) =
      ⟨{ reached with diagnosis := state.diagnosis }, depth⟩ := by
  have cut := List.prefix_iff_eq_take.1 added
  simp only [discard, checkpoint, ← cut]

namespace AgreesAt

variable {inPlace : InPlace α} {production : Production α}

theorem apply_of_some
    {state reached : State}
    {value : α}
    (agrees : AgreesAt depth inPlace production)
    (succeeded : production state = (some value, reached)) :
    inPlace ⟨state, depth⟩ = (some value, ⟨reached, depth⟩) := by
  rw [agrees state, InPlace.plain, succeeded]

theorem apply_of_none
    {state reached : State}
    (agrees : AgreesAt depth inPlace production)
    (failed : production state = (none, reached)) :
    inPlace ⟨state, depth⟩ = (none, ⟨reached, depth⟩) := by
  rw [agrees state, InPlace.plain, failed]

/-! ## Composition -/

theorem plain (production : Production α) :
    AgreesAt depth (InPlace.plain production) production :=
  fun _ => rfl

theorem succeed (value : α) :
    AgreesAt depth (pure value) (pure value) :=
  plain (Production.succeed value)

theorem bind
    {next : α → InPlace β}
    {nextProduction : α → Production β}
    (first : AgreesAt depth inPlace production)
    (others : ∀ value, AgreesAt depth (next value) (nextProduction value)) :
    AgreesAt depth (inPlace >>= next) (production >>= nextProduction) := by
  intro state
  cases answered : production state with
  | mk answer reached =>
      cases answer with
      | none =>
          rw [InPlace.bind_apply_of_none (first.apply_of_none answered), InPlace.plain,
            Production.bind_apply_of_none answered]
      | some value =>
          rw [InPlace.bind_apply_of_some (first.apply_of_some answered), InPlace.plain,
            Production.bind_apply_of_some answered]
          exact others value reached

theorem rewinding (agrees : AgreesAt depth inPlace production) :
    AgreesAt depth (InPlace.rewinding inPlace) (Production.rewinding production) := by
  intro state
  unfold InPlace.rewinding InPlace.plain Production.rewinding
  cases answered : production state with
  | mk answer reached =>
      cases answer with
      | none =>
          rw [agrees.apply_of_none answered]
          rfl
      | some value =>
          rw [agrees.apply_of_some answered]

/-- Nothing is lost by a checkpoint if fragments are only added. -/
theorem forgetting
    (agrees : AgreesAt depth inPlace production)
    (onlyAdds : OnlyAdds production) :
    AgreesAt depth (InPlace.forgetting inPlace) (Production.forgetting production) := by
  intro state
  unfold InPlace.forgetting InPlace.plain Production.forgetting
  cases answered : production state with
  | mk answer reached =>
      cases answer with
      | none =>
          rw [agrees.apply_of_none answered]
      | some value =>
          rw [agrees.apply_of_some answered]
          simp only [Situation.discard_checkpoint (onlyAdds state reached value answered)]

/-- Each attempt agrees, and those after it start where it left off. -/
theorem attempts
    (agrees : AgreesAt depth inPlace production)
    (bound : List Token)
    (items : List α) :
    AgreesAt depth (InPlace.attempts inPlace bound items)
      (Production.attempts production bound items) := by
  induction bound generalizing items with
  | nil =>
      intro state
      unfold InPlace.attempts InPlace.plain Production.attempts
      cases answered : production state with
      | mk answer reached =>
          cases answer with
          | none =>
              rw [agrees.apply_of_none answered]
          | some value =>
              rw [agrees.apply_of_some answered]
  | cons token bound inductionHypothesis =>
      intro state
      unfold InPlace.attempts InPlace.plain Production.attempts
      cases answered : production state with
      | mk answer reached =>
          cases answer with
          | none =>
              rw [agrees.apply_of_none answered]
          | some value =>
              rw [agrees.apply_of_some answered]
              exact inductionHypothesis (value :: items) reached

theorem many
    (agrees : AgreesAt depth inPlace production)
    (orderly : IsOrderly 1 production) :
    AgreesAt depth (InPlace.many inPlace) (Production.many production) :=
  fun state =>
    attempts (agrees.forgetting orderly.onlyAdds).rewinding state.cursor.rest [] state

theorem body
    (agrees : AgreesAt depth inPlace production)
    (orderly : IsOrderly 1 production)
    (rule : Rule) :
    AgreesAt depth (InPlace.body rule inPlace) (Grammar.body rule production) := by
  -- The items leave the diagnosis of the attempt that ended them, which the checkpoint cuts off.
  have items :
      OnlyAdds (do
        let items ← Production.many production
        let _ ← keyword rule .close
        return items) :=
    orderly.onlyAdds_many.bind fun items =>
      ((IsOrderly.keyword rule .close).bind fun _ => .succeed items).onlyAdds
  refine forgetting ?_ items
  exact bind (agrees.many orderly) fun items =>
    bind (plain (keyword rule .close)) fun _ => succeed items

/-- Alternatives are tried one by one in both ways. -/
theorem firstOf_cons
    {inPlace : InPlace (Option α)}
    {production : Production (Option α)}
    {others : List (InPlace (Option α))}
    {otherProductions : List (Production (Option α))}
    (first : AgreesAt depth inPlace production)
    (agree : AgreesAt depth (InPlace.firstOf others) (Production.firstOf otherProductions)) :
    AgreesAt depth (InPlace.firstOf (inPlace :: others))
      (Production.firstOf (production :: otherProductions)) := by
  refine bind first fun chosen => ?_
  cases chosen with
  | none =>
      exact agree
  | some value =>
      exact succeed (some value)

theorem firstOf_nil :
    AgreesAt depth (InPlace.firstOf ([] : List (InPlace (Option α)))) (Production.firstOf []) :=
  succeed none

/-! ## Widgets -/

theorem alternative
    {inPlace : InPlace Widget}
    {widget : Production Widget}
    (word : Keyword)
    (agrees : AgreesAt depth inPlace widget) :
    AgreesAt depth (InPlace.alternative word inPlace) (Grammar.alternative word widget) := by
  refine bind (plain (Production.accept (.keyword word))) fun isNext => ?_
  cases isNext with
  | false =>
      exact succeed none
  | true =>
      exact bind agrees fun recognized => succeed (some recognized)

theorem group : AgreesAt depth InPlace.group Grammar.group :=
  bind (plain (Production.note .groupOpened)) fun _ =>
    bind (body (plain radioButton) isOrderlyItem_radioButton.orderly .group) fun buttons =>
      bind (plain (mark .group .semicolon)) fun _ =>
        bind (plain (Production.note fun position => .groupClosed position buttons.length))
          fun _ => succeed (Widget.radioGroup buttons)

/-- A panel takes back the one that it added to the number of open panels. -/
theorem insidePanel (agrees : AgreesAt (depth + 1) inPlace production) :
    AgreesAt depth (InPlace.insidePanel inPlace) production := by
  intro state
  unfold InPlace.insidePanel
  rw [agrees state]
  rfl

theorem panel_of_lt
    {inPlace : InPlace Widget}
    {widget : Production Widget}
    (below : depth < panelLimit)
    (agrees : AgreesAt (depth + 1) inPlace widget)
    (orderly : IsOrderly 1 widget) :
    AgreesAt depth (InPlace.panel inPlace) (Grammar.panel (depth + 1) widget) := by
  have inside :
      AgreesAt (depth + 1) (InPlace.panelBody inPlace) (Grammar.panel (depth + 1) widget) :=
    bind (fun _ => rfl) fun _ =>
      bind (plain (Production.inside .panel .layout layout)) fun arrangement =>
        bind (body agrees orderly .panel) fun children =>
          bind (plain (mark .panel .semicolon)) fun _ =>
            bind (plain (Production.note fun position => .panelClosed position children.length))
              fun _ => succeed (Widget.panel arrangement children)
  intro state
  unfold InPlace.panel
  rw [if_neg (Nat.not_le.2 below)]
  exact inside.insidePanel state

theorem panel_of_le
    (inPlace : InPlace Widget)
    (full : panelLimit ≤ depth) :
    AgreesAt depth (InPlace.panel inPlace) Production.refusePanel := by
  intro state
  unfold InPlace.panel
  rw [if_pos full]

theorem widgetWith
    {inPlace : InPlace Widget}
    {panel : Production Widget}
    (agrees : AgreesAt depth inPlace panel) :
    AgreesAt depth (InPlace.widgetWith inPlace) (Grammar.widgetWith panel) := by
  have alternatives : AgreesAt depth (InPlace.firstOf _) (Production.firstOf _) :=
    firstOf_cons (alternative .button (plain button)) <|
      firstOf_cons (alternative .group group) <|
        firstOf_cons (alternative .label (plain label)) <|
          firstOf_cons (alternative .panel agrees) <|
            firstOf_cons (alternative .textfield (plain textField)) firstOf_nil
  refine rewinding (bind alternatives fun chosen => ?_)
  cases chosen with
  | none =>
      exact plain (Production.mismatch .widget .widget)
  | some widget =>
      exact succeed widget

/-- A widget agrees at a level if the widgets inside its panels agree one level deeper. -/
theorem widgetWith_panel
    {inner : InPlace Widget}
    (agrees :
      depth < panelLimit →
        AgreesAt (depth + 1) inner (Grammar.widget (panelLimit - (depth + 1)))) :
    AgreesAt depth (InPlace.widgetWith (InPlace.panel inner))
      (Grammar.widget (panelLimit - depth)) := by
  -- Below the limit a panel is one level of room, and at the limit the room is used up.
  by_cases below : depth < panelLimit
  · have room : panelLimit - depth = panelLimit - (depth + 1) + 1 := by
      omega
    have opened : panelLimit - (panelLimit - (depth + 1)) = depth + 1 := by
      omega
    rw [room, Grammar.widget_succ, opened]
    exact widgetWith (panel_of_lt below (agrees below) (isOrderlyItem_widget _).orderly)
  · have noRoom : panelLimit - depth = 0 := by
      omega
    rw [noRoom]
    exact widgetWith (panel_of_le inner (Nat.not_lt.1 below))

theorem widgetUpTo
    {levels : Nat}
    (enough : panelLimit - depth ≤ levels) :
    AgreesAt depth (InPlace.widgetUpTo levels) (Grammar.widget (panelLimit - depth)) := by
  induction levels generalizing depth with
  | zero =>
      rw [Nat.le_zero.1 enough]
      exact widgetWith (plain Production.refusePanel)
  | succ levels inductionHypothesis =>
      exact widgetWith_panel fun _ => inductionHypothesis (by omega)

/-- The number of open panels and the room that is left make up the limit. -/
theorem widget (depth : Nat) :
    AgreesAt depth InPlace.widget (Grammar.widget (panelLimit - depth)) :=
  widgetUpTo (Nat.sub_le _ _)

theorem windowUpToPeriod :
    AgreesAt 0 InPlace.windowUpToPeriod (documentUpToPeriod (Grammar.widget panelLimit)) :=
  bind (plain documentHead) fun head =>
    bind (body (widget 0) (isOrderlyItem_widget panelLimit).orderly .gui) fun children =>
      bind (plain (mark .gui .period)) fun _ =>
        succeed { head with children := children }

/-- Recognized in place, a document is recognized as it is by its productions. -/
theorem window : AgreesAt 0 InPlace.window Grammar.window :=
  bind windowUpToPeriod fun recognized =>
    bind (plain (endOfFile .gui)) fun _ =>
      succeed recognized

end AgreesAt

/-- A widget holds panels that hold widgets, without a bound on the levels. -/
theorem InPlace.widget_eq : widget = widgetWith (panel widget) := by
  funext ⟨state, depth⟩
  have unfolded :
      AgreesAt depth (widgetWith (panel widget)) (Grammar.widget (panelLimit - depth)) :=
    .widgetWith_panel fun _ => .widget (depth + 1)
  rw [AgreesAt.widget depth state, unfolded state]

end WindowLang.Grammar
