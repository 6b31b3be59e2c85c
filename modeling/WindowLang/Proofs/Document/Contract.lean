import WindowLang.Proofs.Document.Widgets
import WindowLang.Proofs.Production.Contract

namespace WindowLang.Grammar

/-!
# The contract of widgets

An alternative that finds another keyword than its own declines, and then nothing has changed
at all. Behind its keyword it keeps the contract, and so does the choice among the
alternatives: what was taken before a failure is given back. The proof for panels is by
induction on the room for them.
-/

variable {α : Type} {state : State}

/-- What an alternative may answer: it declines, or it takes a token at least. -/
inductive OrderlyChoice (state : State) : Option (Option α) × State → Prop where
  | declined :
      OrderlyChoice state (some none, state)
  | chosen
      {value : α}
      {reached : State}
      {taken : List Token}
      (takes : state.Takes taken reached)
      (enough : 1 ≤ taken.length) :
      OrderlyChoice state (some (some value), reached)
  | failed
      {reached : State}
      (learns : state.Learns reached) :
      OrderlyChoice state (none, reached)

/-- Behind a token the production keeps the contract of that token and itself. -/
def IsOrderlyBehindToken (production : Production α) : Prop :=
  ∀ (state : State) (token : Token) (more : List Token),
    state.cursor.rest = token :: more → Orderly 1 state (production state.advance)

theorem IsOrderly.behindToken
    {least : Nat}
    {production : Production α}
    (orderly : IsOrderly least production) :
    IsOrderlyBehindToken production :=
  fun state _ _ next =>
    ((orderly state.advance).prepend (State.takes_advance next)).mono (Nat.le_add_right 1 least)

/-- A panel that is refused is nested too deeply at the token taken last. -/
theorem isOrderlyBehindToken_refusePanel :
    IsOrderlyBehindToken (Production.refusePanel : Production α) :=
  fun _ _ _ _ => .failed ⟨List.prefix_rfl, Nat.le_refl _, .inr ⟨_, rfl, Nat.lt_succ_self _⟩⟩

theorem orderlyChoice_alternative
    {production : Production Widget}
    (orderly : IsOrderlyBehindToken production)
    (word : Keyword)
    (state : State) :
    OrderlyChoice state (alternative word production state) := by
  rcases state.next_or_other (.keyword word) with ⟨token, more, next, isWord⟩ | other
  · have chosen : alternative word production state = (some <$> production) state.advance :=
      choice_of_kind next isWord
    rw [chosen]
    have answer := orderly state token more next
    generalize answered : production state.advance = result at answer
    cases answer with
    | @succeeded widget reached taken takes enough =>
        have succeeded : (some <$> production) state.advance = (some (some widget), reached) :=
          Production.bind_apply_of_some answered
        rw [succeeded]
        exact .chosen takes enough
    | @failed reached learns =>
        have failed : (some <$> production) state.advance = (none, reached) :=
          Production.bind_apply_of_none answered
        rw [failed]
        exact .failed learns
  · rw [alternative_of_ne other]
    exact .declined

/-- Alternatives are tried one after the other where those before declined. -/
theorem orderlyChoice_chooseOf
    {rows : List (Keyword × Production Widget)}
    (orderly : ∀ row ∈ rows, IsOrderlyBehindToken row.2)
    (state : State) :
    OrderlyChoice state (chooseOf rows state) := by
  induction rows with
  | nil =>
      exact .declined
  | cons row rows inductionHypothesis =>
      have first := orderlyChoice_alternative (orderly row List.mem_cons_self) row.1 state
      have others := inductionHypothesis fun later member =>
        orderly later (List.mem_cons_of_mem row member)
      unfold chooseOf at others ⊢
      simp only [List.map_cons, Production.firstOf, Production.andThen]
      generalize alternative row.1 row.2 state = answer at first
      cases first with
      | declined =>
          exact others
      | chosen takes enough =>
          exact .chosen takes enough
      | failed learns =>
          exact .failed learns

/-! ## Containers -/

theorem isOrderlyItem_radioButton :
    IsOrderlyItem .radioButton radioButton where
  orderly := IsOrderly.radioButton.mono (by decide)
  declines next closes := (@performsItem_radioButton [] 0).declines_of_close next closes

namespace IsOrderly

theorem group :
    IsOrderly 2 Grammar.group :=
  bind (note .groupOpened) fun _ =>
    bind (isOrderlyItem_radioButton.body .group) fun buttons =>
      bind (mark .group .semicolon) fun _ =>
        bind (note fun position => .groupClosed position buttons.length) fun _ =>
          succeed (Widget.radioGroup buttons)

theorem panel
    {widget : Production Widget}
    (isItem : IsOrderlyItem .widget widget)
    (depth : Nat) :
    IsOrderly 5 (Grammar.panel depth widget) :=
  bind (note fun position => .panelOpened position depth) fun _ =>
    bind (inside .panel .layout layout) fun arrangement =>
      bind (isItem.body .panel) fun children =>
        bind (mark .panel .semicolon) fun _ =>
          bind (note fun position => .panelClosed position children.length) fun _ =>
            succeed (Widget.panel arrangement children)

end IsOrderly

/-! ## Widgets -/

/-- Every alternative is orderly behind its keyword if that of the panel is. -/
theorem isOrderlyBehindToken_of_mem
    {panel : Production Widget}
    (orderly : IsOrderlyBehindToken panel) :
    ∀ row ∈ alternatives panel, IsOrderlyBehindToken row.2 := by
  have button := IsOrderly.line .button Widget.button (IsOrderly.quoted .button)
  have label := IsOrderly.line .label Widget.label (IsOrderly.quoted .label)
  have textField := IsOrderly.line .textfield Widget.textField (IsOrderly.number .textfield)
  intro row member
  simp only [alternatives, List.mem_cons, List.not_mem_nil, or_false] at member
  rcases member with rfl | rfl | rfl | rfl | rfl
  · exact button.behindToken
  · exact IsOrderly.group.behindToken
  · exact label.behindToken
  · exact orderly
  · exact textField.behindToken

/-- A widget is an orderly item if a panel is orderly behind its keyword. -/
theorem isOrderlyItem_widgetWith
    {panel : Production Widget}
    (orderly : IsOrderlyBehindToken panel) :
    IsOrderlyItem .widget (widgetWith panel) where
  orderly state := by
    have answer := orderlyChoice_chooseOf (isOrderlyBehindToken_of_mem orderly) state
    rw [widgetWith_eq]
    unfold Production.rewinding
    generalize answered : chooseOf (alternatives panel) state = result at answer
    cases answer with
    | declined =>
        have declined : chosenWidget panel state = Production.mismatch .widget .widget state :=
          Production.bind_apply_of_some answered
        rw [declined]
        exact .mismatch .widget .widget
    | @chosen widget reached taken takes enough =>
        have chosen : chosenWidget panel state = (some widget, reached) :=
          Production.bind_apply_of_some answered
        rw [chosen]
        exact .succeeded takes enough
    | @failed reached learns =>
        have failed : chosenWidget panel state = (none, reached) :=
          Production.bind_apply_of_none answered
        rw [failed]
        exact .failed (learns.rewind state.cursor)
  declines next closes := widgetWith_of_close next closes

theorem isOrderlyItem_widget (room : Nat) :
    IsOrderlyItem .widget (widget room) := by
  induction room with
  | zero =>
      exact isOrderlyItem_widgetWith isOrderlyBehindToken_refusePanel
  | succ room inductionHypothesis =>
      exact isOrderlyItem_widgetWith (IsOrderly.panel inductionHypothesis _).behindToken

end WindowLang.Grammar
