import WindowLang.Proofs.Document.Choice
import WindowLang.Proofs.Production.Items

namespace WindowLang.Grammar

/-!
# Widgets

The production of a widget recognizes exactly the widgets of the grammar with no
more panels one inside the other than there is room for, and behaves as an item
of a body. The proof is by induction on that room.
-/

variable {tokens : List Token} {depth : Nat}

/-- The form of a radio button. -/
def RadioForm (taken : List Token) (text : String) : Prop :=
  ∃ word later,
    taken = word :: later ∧ word.kind = .keyword .radio ∧ LineForm QuotedForm id later text

theorem radiosForm_iff
    {taken : List Token}
    {texts : List String} :
    RadiosForm taken texts ↔ ListForm RadioForm taken texts := by
  constructor
  · intro derives
    induction derives with
    | nil =>
        exact .nil
    | @cons word semicolon literal rest text texts isRadio derives ends _ inductionHypothesis =>
        have first : RadioForm (word :: literal ++ [semicolon]) text :=
          ⟨word, literal ++ [semicolon], rfl, isRadio, literal, semicolon, text, rfl, derives,
            ends, rfl⟩
        simpa using ListForm.cons first inductionHypothesis
  · intro derives
    induction derives with
    | nil =>
        exact .nil
    | cons first _ inductionHypothesis =>
        obtain ⟨word, _, rfl, isRadio, literal, semicolon, text, rfl, derives, ends, rfl⟩ := first
        simpa using RadiosForm.cons isRadio derives ends inductionHypothesis

theorem widgetsForm_iff
    {room : Nat}
    {taken : List Token}
    {widgets : List Widget} :
    WidgetsForm room taken widgets ↔ ListForm (WidgetForm room) taken widgets := by
  constructor
  · intro derives
    induction widgets generalizing taken with
    | nil =>
        cases derives
        exact .nil
    | cons widget widgets inductionHypothesis =>
        cases derives with
        | cons derives others =>
            exact .cons derives (inductionHypothesis others)
  · intro derives
    induction derives with
    | nil =>
        exact .nil
    | cons first _ inductionHypothesis =>
        exact .cons first inductionHypothesis

/-- The form of a panel behind its keyword, with room for so many panels, itself included. -/
def PanelForm : Nat → List Token → Widget → Prop
  | 0 => fun _ _ => False
  | room + 1 =>
      Sequence LayoutForm fun layout =>
        LineForm (BodyForm (WidgetForm room)) (Widget.panel layout)

/-- The form of a widget behind its keyword. -/
def WidgetBehind (room : Nat) : Keyword → List Token → Widget → Prop
  | .button => LineForm QuotedForm Widget.button
  | .label => LineForm QuotedForm Widget.label
  | .textfield => LineForm NumberForm Widget.textField
  | .group => LineForm (BodyForm RadioForm) Widget.radioGroup
  | .panel => PanelForm room
  | _ => fun _ _ => False

/-- A widget is its keyword and what follows it. -/
theorem widgetForm_iff
    {room : Nat}
    {taken : List Token}
    {widget : Widget} :
    WidgetForm room taken widget ↔
      ∃ token later word,
        taken = token :: later ∧ token.kind = .keyword word ∧
          WidgetBehind room word later widget := by
  constructor
  · intro derives
    cases derives with
    | @button _ _ semicolon literal text isButton derives ends =>
        exact ⟨_, _, .button, rfl, isButton, literal, semicolon, text, rfl, derives, ends, rfl⟩
    | @label _ _ semicolon literal text isLabel derives ends =>
        exact ⟨_, _, .label, rfl, isLabel, literal, semicolon, text, rfl, derives, ends, rfl⟩
    | @textField _ _ number semicolon columns isTextField writes ends =>
        exact ⟨_, _, .textfield, rfl, isTextField, [number], semicolon, columns, rfl,
          ⟨number, rfl, writes⟩, ends, rfl⟩
    | @group _ _ close semicolon radios texts isGroup derives closes ends =>
        exact ⟨_, _, .group, rfl, isGroup, radios ++ [close], semicolon, texts, by simp,
          ⟨radios, close, rfl, radiosForm_iff.1 derives, closes⟩, ends, rfl⟩
    | @panel room _ close semicolon arrangement widgets layout children isPanel derivesLayout
        derivesChildren closes ends =>
        exact ⟨_, _, .panel, rfl, isPanel, arrangement, widgets ++ [close] ++ [semicolon], layout,
          by simp, derivesLayout, widgets ++ [close], semicolon, children, rfl,
          ⟨widgets, close, rfl, widgetsForm_iff.1 derivesChildren, closes⟩, ends, rfl⟩
  · rintro ⟨token, later, word, rfl, isWord, behind⟩
    cases word with
    | button =>
        obtain ⟨literal, semicolon, text, rfl, derives, ends, rfl⟩ := behind
        exact .button isWord derives ends
    | label =>
        obtain ⟨literal, semicolon, text, rfl, derives, ends, rfl⟩ := behind
        exact .label isWord derives ends
    | textfield =>
        obtain ⟨_, semicolon, columns, rfl, ⟨number, rfl, writes⟩, ends, rfl⟩ := behind
        exact .textField isWord writes ends
    | group =>
        obtain ⟨_, semicolon, texts, rfl, ⟨radios, close, rfl, derives, closes⟩, ends, rfl⟩ :=
          behind
        simpa using WidgetForm.group isWord (radiosForm_iff.2 derives) closes ends
    | panel =>
        cases room with
        | zero =>
            exact behind.elim
        | succ room =>
            obtain ⟨arrangement, _, layout, rfl, derivesLayout, _, semicolon, children, rfl,
              ⟨widgets, close, rfl, derives, closes⟩, ends, rfl⟩ := behind
            simpa using
              WidgetForm.panel isWord derivesLayout (widgetsForm_iff.2 derives) closes ends
    | _ =>
        exact behind.elim

namespace Performs

theorem button (room : Nat) :
    Performs tokens depth (literalTasks .button ++ [.token .button (.mark .semicolon)])
      (WidgetBehind room .button) Grammar.button :=
  line .button Widget.button (quoted .button)

theorem label (room : Nat) :
    Performs tokens depth (literalTasks .label ++ [.token .label (.mark .semicolon)])
      (WidgetBehind room .label) Grammar.label :=
  line .label Widget.label (quoted .label)

theorem textField (room : Nat) :
    Performs tokens depth [.number .textfield, .token .textfield (.mark .semicolon)]
      (WidgetBehind room .textfield) Grammar.textField :=
  line .textfield Widget.textField (number .textfield)

end Performs

/-- A radio button behind its keyword. -/
def radioBehindKeyword : Production String :=
  line .radioButton id (quoted .radioButton)

theorem tasks?_radioButton_eq_none
    {token : Token}
    (notRadio : token.kind ≠ .keyword .radio) :
    Item.tasks? .radioButton token = none := by
  unfold Item.tasks?
  split <;> simp_all

theorem performsItem_radioButton :
    PerformsItem tokens depth .radioButton RadioForm radioButton where
  outcome {state} rule begun within notClose := by
    rcases state.next_or_other (.keyword .radio) with ⟨token, more, next, isRadio⟩ | notRadio
    · have answered : radioButton state = radioBehindKeyword state.advance :=
        Production.bind_apply_of_some (expect_of_kind .radioButton next isRadio)
      have behind :
          Performs tokens depth
            (literalTasks .radioButton ++ [.token .radioButton (.mark .semicolon)])
            (LineForm QuotedForm id) radioBehindKeyword :=
        Performs.line .radioButton id (Performs.quoted .radioButton)
      have begins :
          Item.tasks? .radioButton token =
            some (literalTasks .radioButton ++ [.token .radioButton (.mark .semicolon)]) := by
        simp [Item.tasks?, isRadio]
      rw [answered]
      refine (Outcome.beginItem next begins (by simp [isRadio])
        (behind.outcome ((State.takes_advance next).within within))).mono ?_
      rintro taken text ⟨later, rfl, derives⟩
      exact ⟨token, later, rfl, isRadio, derives⟩
    · have answered :
          radioButton state =
            Production.mismatch .radioButton (.token (.keyword .radio)) state :=
        Production.bind_apply_of_none (expect_of_ne .radioButton notRadio)
      rw [answered]
      exact Outcome.declineItem
        (fun token found => tasks?_radioButton_eq_none (notRadio token found)) notClose within
  declines {state} noRadio := by
    have notRadio :
        ∀ token, state.cursor.rest.head? = some token → token.kind ≠ .keyword .radio := by
      intro token found isRadio
      have noTasks := noRadio token found
      simp [Item.tasks?, isRadio] at noTasks
    exact Production.bind_apply_of_none (expect_of_ne .radioButton notRadio)
  complete {state taken left text} derives split := by
    obtain ⟨word, later, rfl, isRadio, behindDerives⟩ := derives
    have answered : radioButton state = radioBehindKeyword state.advance :=
      Production.bind_apply_of_some (expect_of_kind .radioButton split isRadio)
    rw [answered]
    exact complete_of_accepted tokens depth
      (Performs.line .radioButton id (Performs.quoted .radioButton)) split behindDerives
  nonempty := by
    rintro taken text ⟨word, later, rfl, _⟩
    exact List.cons_ne_nil word later

/-- Noting an event adds nothing to a form. -/
theorem sequence_noted
    {α : Type}
    (next : Unit → List Token → α → Prop) :
    Sequence (fun (front : List Token) (_ : Unit) => front = []) next = next () := by
  funext taken value
  apply propext
  constructor
  · rintro ⟨front, back, _, rfl, rfl, derives⟩
    exact derives
  · intro derives
    exact ⟨[], taken, (), rfl, rfl, derives⟩

theorem Performs.group (room : Nat) :
    Performs tokens depth
      [.body .group .radioButton none, .token .group (.mark .semicolon)]
      (WidgetBehind room .group) Grammar.group := by
  have performs :
      Performs tokens depth
        [.body .group .radioButton none, .token .group (.mark .semicolon)]
        _ Grammar.group :=
    bind (note .groupOpened) (fun _ =>
      bind (body .group performsItem_radioButton) (fun buttons =>
        bind (mark .group .semicolon) (fun _ =>
          bind (note fun position => .groupClosed position buttons.length) (fun _ =>
            succeed (Widget.radioGroup buttons)) rfl) rfl) rfl) rfl
  refine performs.congr fun taken widget => ?_
  simp only [sequence_noted]
  constructor
  · rintro ⟨front, _, buttons, rfl, derives, _, _, semicolon, rfl, ⟨rfl, ends⟩, rfl, rfl⟩
    exact ⟨front, semicolon, buttons, rfl, derives, ends, rfl⟩
  · rintro ⟨front, semicolon, buttons, rfl, derives, ends, rfl⟩
    exact ⟨front, [semicolon], buttons, rfl, derives, [semicolon], [], semicolon, rfl,
      ⟨rfl, ends⟩, rfl, rfl⟩

/-- The tasks of a panel behind its keyword. -/
def panelTasks : Agenda :=
  [.layout .panel, .body .panel .widget none, .token .panel (.mark .semicolon)]

theorem Performs.panel
    {room : Nat}
    {widget : Production Widget}
    (performs : PerformsItem tokens (depth + 1) .widget (WidgetForm room) widget) :
    Performs tokens depth panelTasks (WidgetBehind (room + 1) .panel)
      (Grammar.panel (depth + 1) widget) := by
  have children :
      Performs tokens depth [.body .panel .widget none] (BodyForm (WidgetForm room))
        (Grammar.body .panel widget) := by
    apply Performs.body
    rwa [show Agenda.openPanels [.body .panel .widget none] = 1 from rfl, Nat.add_comm]
  have performs : Performs tokens depth panelTasks _ (Grammar.panel (depth + 1) widget) :=
    bind (note fun position => .panelOpened position (depth + 1)) (fun _ =>
      bind (layout .panel) (fun arrangement =>
        bind (by simpa [Agenda.openPanels] using children) (fun widgets =>
          bind (mark .panel .semicolon) (fun _ =>
            bind (note fun position => .panelClosed position widgets.length) (fun _ =>
              succeed (Widget.panel arrangement widgets)) rfl) rfl) rfl) rfl) rfl
  refine performs.congr fun taken widget => ?_
  simp only [sequence_noted]
  constructor
  · rintro ⟨arrangement, _, layout, rfl, derivesLayout, front, _, widgets, rfl, derives, _, _,
      semicolon, rfl, ⟨rfl, ends⟩, rfl, rfl⟩
    exact ⟨arrangement, _, layout, rfl, derivesLayout, front, semicolon, widgets, rfl, derives,
      ends, rfl⟩
  · rintro ⟨arrangement, _, layout, rfl, derivesLayout, front, semicolon, widgets, rfl, derives,
      ends, rfl⟩
    exact ⟨arrangement, _, layout, rfl, derivesLayout, front, [semicolon], widgets, rfl, derives,
      [semicolon], [], semicolon, rfl, ⟨rfl, ends⟩, rfl, rfl⟩

theorem lookup_eq_none_iff
    {panel : Production Widget}
    {word : Keyword} :
    (alternatives panel).lookup word = none ↔ widgetTasks? word = none := by
  cases word with
  | button | group | label | panel | textfield =>
      constructor
      · intro absent
        cases absent
      · intro absent
        cases absent
  | _ =>
      exact ⟨fun _ => rfl, fun _ => rfl⟩

theorem tasks?_widget_eq_none_iff
    {token : Token} :
    Item.tasks? .widget token = none ↔
      ∀ word, token.kind = .keyword word → widgetTasks? word = none := by
  cases isKind : token.kind with
  | keyword word =>
      simp [Item.tasks?, isKind]
  | _ =>
      simp [Item.tasks?, isKind]

theorem widgetTasks?_ne_none
    {room : Nat}
    {word : Keyword}
    {later : List Token}
    {widget : Widget}
    (behind : WidgetBehind room word later widget) :
    widgetTasks? word ≠ none := by
  cases word with
  | button | group | label | panel | textfield =>
      exact Option.some_ne_none _
  | _ =>
      exact behind.elim

/-- Behind each keyword but that of a panel, the production does the tasks of the widget. -/
theorem performs_of_lookup
    (tokens : List Token)
    (depth : Nat)
    {panel production : Production Widget}
    {word : Keyword}
    (room : Nat)
    (found : (alternatives panel).lookup word = some production)
    (notPanel : word ≠ .panel) :
    ∃ tasks,
      widgetTasks? word = some tasks ∧
        Performs tokens depth tasks (WidgetBehind room word) production := by
  cases word with
  | button =>
      cases found
      exact ⟨_, rfl, Performs.button room⟩
  | label =>
      cases found
      exact ⟨_, rfl, Performs.label room⟩
  | textfield =>
      cases found
      exact ⟨_, rfl, Performs.textField room⟩
  | group =>
      cases found
      exact ⟨_, rfl, Performs.group room⟩
  | panel =>
      exact absurd rfl notPanel
  | _ =>
      cases found

/-- The choice of a widget has the outcome of the alternative that is chosen. -/
theorem Outcome.chooseWidget
    {tasks after : Agenda}
    {form : List Token → Widget → Prop}
    {panel production : Production Widget}
    {word : Keyword}
    {state : State}
    {token : Token}
    {more : List Token}
    (outcome : Outcome tokens depth tasks after form state (production state.advance))
    (found : (alternatives panel).lookup word = some production)
    (next : state.cursor.rest = token :: more)
    (isWord : token.kind = .keyword word) :
    Outcome tokens depth tasks after form state (widgetWith panel state) := by
  cases answered : production state.advance with
  | mk answer reached =>
      rw [answered] at outcome
      cases answer with
      | none =>
          rw [widgetWith_of_none found next isWord answered]
          exact outcome.rewind state.cursor
      | some widget =>
          rw [widgetWith_of_some found next isWord answered]
          exact outcome

/--
The production of a widget is an item of a body, if the production of a panel
answers as the agenda tells behind its keyword.
-/
theorem performsItem_widgetWith
    {room : Nat}
    {panel : Production Widget}
    (panelOutcome :
      ∀ {state : State} {token : Token} {more : List Token} (rule : Rule) (begun : Option Nat),
        state.Within tokens →
          state.cursor.rest = token :: more →
            token.kind = .keyword .panel →
              Outcome tokens depth [.body rule .widget begun]
                [.body rule .widget (some state.cursor.consumed)]
                (fun taken widget =>
                  ∃ later, taken = token :: later ∧ WidgetBehind room .panel later widget)
                state (panel state.advance))
    (panelComplete :
      ∀ {state : State} {token : Token} {later left : List Token} {widget : Widget},
        state.cursor.rest = token :: (later ++ left) →
          WidgetBehind room .panel later widget →
            ∃ reached,
              panel state.advance = (some widget, reached) ∧
                state.Takes (token :: later) reached) :
    PerformsItem tokens depth .widget (WidgetForm room) (widgetWith panel) where
  outcome {state} rule begun within notClose := by
    rcases state.next_alternative panel with
      ⟨token, more, word, production, next, isWord, found⟩ | noAlternative
    · have outcome :
          Outcome tokens depth [.body rule .widget begun]
            [.body rule .widget (some state.cursor.consumed)]
            (fun taken widget =>
              ∃ later, taken = token :: later ∧ WidgetBehind room word later widget)
            state (production state.advance) := by
        by_cases isPanel : word = .panel
        · subst isPanel
          cases found
          exact panelOutcome rule begun within next isWord
        · obtain ⟨tasks, hasTasks, performs⟩ :=
            performs_of_lookup tokens depth room found isPanel
          have begins : Item.tasks? .widget token = some tasks := by
            simpa [Item.tasks?, isWord] using hasTasks
          exact Outcome.beginItem next begins (by simp [isWord, isPanel])
            (performs.outcome ((State.takes_advance next).within within))
      refine (outcome.chooseWidget found next isWord).mono ?_
      rintro taken widget ⟨later, rfl, behind⟩
      exact widgetForm_iff.2 ⟨token, later, word, rfl, isWord, behind⟩
    · rw [widgetWith_of_ne noAlternative]
      refine Outcome.declineItem ?_ notClose within
      intro token found
      exact tasks?_widget_eq_none_iff.2 fun word isWord =>
        lookup_eq_none_iff.1 (noAlternative token word found isWord)
  declines {state} noWidget := by
    apply widgetWith_of_ne
    intro token word found isWord
    exact lookup_eq_none_iff.2 (tasks?_widget_eq_none_iff.1 (noWidget token found) word isWord)
  complete {state taken left widget} derives split := by
    obtain ⟨token, later, word, rfl, isWord, behind⟩ := widgetForm_iff.1 derives
    by_cases isPanel : word = .panel
    · subst isPanel
      obtain ⟨reached, succeeded, takes⟩ := panelComplete split behind
      exact ⟨reached, widgetWith_of_some rfl split isWord succeeded, takes⟩
    · cases found : (alternatives panel).lookup word with
      | none =>
          exact absurd (lookup_eq_none_iff.1 found) (widgetTasks?_ne_none behind)
      | some production =>
          obtain ⟨tasks, _, performs⟩ :=
            performs_of_lookup tokens depth room found isPanel
          obtain ⟨reached, succeeded, takes⟩ :=
            complete_of_accepted tokens depth performs split behind
          exact ⟨reached, widgetWith_of_some found split isWord succeeded, takes⟩
  nonempty derives := by
    obtain ⟨token, later, word, rfl, _⟩ := widgetForm_iff.1 derives
    exact List.cons_ne_nil token later

/-- Where no room is left, the keyword of a panel is where the agenda is stuck. -/
theorem Outcome.refusePanel
    {rule : Rule}
    {begun : Option Nat}
    {form : List Token → Widget → Prop}
    {state : State}
    {token : Token}
    {more : List Token}
    (next : state.cursor.rest = token :: more)
    (isPanel : token.kind = .keyword .panel) :
    Outcome tokens panelLimit [.body rule .widget begun]
      [.body rule .widget (some state.cursor.consumed)] form state
      (Production.refusePanel state.advance) := by
  refine .blocked [] (token :: more) next rfl ?_
  intro rest opened
  have full : Agenda.isFull (.body rule .widget begun :: rest) token = true := by
    rw [List.singleton_append, Agenda.openPanels_body,
      ← Agenda.openPanels_body rule .widget begun] at opened
    simp [Agenda.isFull, isPanel, opened]
  refine ⟨.body rule .widget begun :: rest, ⟨Agenda.Runs.nil rfl _, ?_, ?_⟩, full⟩
  · intro found isNext
    cases isNext
    simp [Agenda.advance?, isPanel, full]
  · intro complete
    cases complete

theorem performsItem_widget
    {room : Nat}
    (bounded : room ≤ panelLimit) :
    PerformsItem tokens (panelLimit - room) .widget (WidgetForm room) (widget room) := by
  induction room with
  | zero =>
      apply performsItem_widgetWith
      · intro state token more rule begun within next isPanel
        exact Outcome.refusePanel next isPanel
      · intro state token later left widget split impossible
        exact impossible.elim
  | succ room inductionHypothesis =>
      have depthOfChildren : panelLimit - (room + 1) + 1 = panelLimit - room := by
        omega
      have children :
          PerformsItem tokens (panelLimit - (room + 1) + 1) .widget (WidgetForm room)
            (widget room) := by
        rw [depthOfChildren]
        exact inductionHypothesis (by omega)
      have performs :
          Performs tokens (panelLimit - (room + 1)) panelTasks (WidgetBehind (room + 1) .panel)
            (panel (panelLimit - room) (widget room)) := by
        rw [← depthOfChildren]
        exact Performs.panel children
      apply performsItem_widgetWith
      · intro state token more rule begun within next isPanel
        have begins : Item.tasks? .widget token = some panelTasks := by
          simp [Item.tasks?, isPanel, widgetTasks?, panelTasks]
        exact Outcome.beginItem next begins (fun _ => by omega)
          (performs.outcome ((State.takes_advance next).within within))
      · intro state token later left widget split behind
        exact complete_of_accepted tokens (panelLimit - (room + 1)) performs split behind

end WindowLang.Grammar
