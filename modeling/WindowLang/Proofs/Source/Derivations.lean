import WindowLang.Grammar.Derivation
import WindowLang.Proofs.Document.Acceptance
import WindowLang.Proofs.Source.Normality
import WindowLang.Tree.Tokens

namespace WindowLang

/-!
# Derivations and normal windows

The tokens of a normal window derive it. The other way round, what tokens derive
has its texts from them, gives its grids both gaps or neither, and nests no more
panels than the grammar allows. So it is normal if the texts of the tokens are.
-/

open Grammar

theorem writes_ofNumber (number : UInt32) :
    Writes (.ofNumber number) number :=
  ⟨rfl, Text.readUnsigned?_writeUnsigned number⟩

theorem quotedForm_quotedTokens (text : String) :
    QuotedForm (quotedTokens text) text :=
  .literal rfl rfl rfl

/-- A layout with both gaps or neither is derived from its tokens. -/
theorem layoutForm_tokens
    {layout : Layout}
    (even : layout.IsEven) :
    LayoutForm layout.tokens layout := by
  refine .layout rfl ?_ rfl
  cases layout with
  | flow =>
      exact .flow rfl
  | grid rows columns horizontal vertical =>
      cases horizontal with
      | none =>
          cases vertical with
          | none =>
              exact .grid rfl rfl (writes_ofNumber rows) rfl (writes_ofNumber columns) rfl
          | some vertical =>
              cases even
      | some horizontal =>
          cases vertical with
          | none =>
              cases even
          | some vertical =>
              exact .gridWithGaps rfl rfl (writes_ofNumber rows) rfl (writes_ofNumber columns)
                rfl (writes_ofNumber horizontal) rfl (writes_ofNumber vertical) rfl

theorem radiosForm_tokens (buttons : List String) :
    RadiosForm (buttons.flatMap radioTokens) buttons := by
  induction buttons with
  | nil =>
      exact .nil
  | cons button buttons inductionHypothesis =>
      have split :
          (button :: buttons).flatMap radioTokens =
            .ofKeyword .radio :: quotedTokens button ++
              .ofMark .semicolon :: buttons.flatMap radioTokens := by
        simp [radioTokens]
      rw [split]
      exact .cons rfl (quotedForm_quotedTokens button) rfl inductionHypothesis

mutual

/-- A normal widget is derived from its tokens. -/
theorem widgetForm_tokens :
    (widget : Widget) →
    {room : Nat} →
    widget.IsNormal room →
    WidgetForm room widget.tokens widget
  | .button caption, _, _ =>
      .button rfl (quotedForm_quotedTokens caption) rfl
  | .label text, _, _ =>
      .label rfl (quotedForm_quotedTokens text) rfl
  | .textField columns, _, _ =>
      .textField rfl (writes_ofNumber columns) rfl
  | .radioGroup buttons, _, _ =>
      .group rfl (radiosForm_tokens buttons) rfl rfl
  | .panel _ _, 0, isNormal =>
      absurd isNormal Widget.not_isNormal_panel_zero
  | .panel _ children, _ + 1, isNormal => by
      obtain ⟨even, areNormal⟩ := Widget.isNormal_panel_iff.1 isNormal
      exact .panel rfl (layoutForm_tokens even) (widgetsForm_tokens children areNormal) rfl rfl

/-- Normal widgets are derived from their tokens. -/
theorem widgetsForm_tokens :
    (widgets : List Widget) →
    {room : Nat} →
    AreNormal room widgets →
    WidgetsForm room (Widget.tokensAll widgets) widgets
  | [], _, _ => .nil
  | widget :: widgets, _, areNormal => by
      obtain ⟨isNormal, others⟩ := areNormal_cons_iff.1 areNormal
      exact .cons (widgetForm_tokens widget isNormal) (widgetsForm_tokens widgets others)

end

/-- A normal window is derived from its tokens. -/
theorem windowForm_tokens
    {window : Window}
    (isNormal : window.IsNormal panelLimit) :
    WindowForm window.tokens window := by
  obtain ⟨_, even, areNormal⟩ := Window.isNormal_iff.1 isNormal
  exact .window rfl (quotedForm_quotedTokens window.title) rfl (writes_ofNumber window.width) rfl
    (writes_ofNumber window.height) rfl (layoutForm_tokens even)
    (widgetsForm_tokens window.children areNormal) rfl rfl

/-- A normal window is parsed from its tokens. -/
theorem parse_tokens
    {window : Window}
    (isNormal : window.IsNormal panelLimit) :
    parse window.tokens = .ok window :=
  parse_of_describes
    ⟨window.tokens, [], (List.append_nil _).symm, windowForm_tokens isNormal, .inl rfl⟩

/-- Every string token holds a normal text. -/
def HoldNormalTexts (tokens : List Token) : Prop :=
  ∀ token ∈ tokens, token.kind = .string → IsNormal token.lexeme

theorem HoldNormalTexts.of_subset
    {tokens part : List Token}
    (normal : HoldNormalTexts tokens)
    (subset : part ⊆ tokens) :
    HoldNormalTexts part :=
  fun token among => normal token (subset among)

theorem isNormal_of_quotedForm
    {tokens : List Token}
    {text : String}
    (derives : QuotedForm tokens text)
    (normal : HoldNormalTexts tokens) :
    IsNormal text := by
  cases derives with
  | literal opens isText closes =>
      exact normal _ (by simp) isText

/-- A layout that is derived has both gaps or neither. -/
theorem isEven_of_layoutForm
    {tokens : List Token}
    {layout : Layout}
    (derives : LayoutForm tokens layout) :
    layout.IsEven := by
  cases derives with
  | layout isLayout derives ends =>
      cases derives with
      | flow isFlow =>
          trivial
      | grid isGrid opens writesRows separates writesColumns closes =>
          rfl
      | gridWithGaps isGrid opens writesRows separates writesColumns separates₂
          writesHorizontal separates₃ writesVertical closes =>
          rfl

mutual

/-- Whatever its texts are, a derived widget has even grids and room for its panels. -/
theorem isEven_and_nesting_le_of_widgetForm :
    (widget : Widget) →
    {room : Nat} →
    {tokens : List Token} →
    WidgetForm room tokens widget →
    (∀ layout ∈ widget.preorder.filterMap Widget.layout?, layout.IsEven) ∧ widget.nesting ≤ room
  | .button _, _, _, _ => ⟨List.forall_mem_nil _, Nat.zero_le _⟩
  | .label _, _, _, _ => ⟨List.forall_mem_nil _, Nat.zero_le _⟩
  | .textField _, _, _, _ => ⟨List.forall_mem_nil _, Nat.zero_le _⟩
  | .radioGroup _, _, _, _ => ⟨List.forall_mem_nil _, Nat.zero_le _⟩
  | .panel _ children, _, _, .panel _ derivesLayout derivesChildren _ _ => by
      obtain ⟨even, bound⟩ := isEven_and_nesting_le_of_widgetsForm children derivesChildren
      exact ⟨List.forall_mem_cons.2 ⟨isEven_of_layoutForm derivesLayout, even⟩,
        Nat.succ_le_succ bound⟩

theorem isEven_and_nesting_le_of_widgetsForm :
    (widgets : List Widget) →
    {room : Nat} →
    {tokens : List Token} →
    WidgetsForm room tokens widgets →
    (∀ layout ∈ (Widget.preorderAll widgets).filterMap Widget.layout?, layout.IsEven) ∧
      Widget.nestingAll widgets ≤ room
  | [], _, _, _ => ⟨List.forall_mem_nil _, Nat.zero_le _⟩
  | widget :: widgets, _, _, .cons derives others => by
      obtain ⟨even, bound⟩ := isEven_and_nesting_le_of_widgetForm widget derives
      obtain ⟨othersEven, othersBound⟩ := isEven_and_nesting_le_of_widgetsForm widgets others
      rw [Widget.preorderAll, List.filterMap_append]
      exact ⟨List.forall_mem_append.2 ⟨even, othersEven⟩, Nat.max_le.2 ⟨bound, othersBound⟩⟩

end

/-- A window that is described has even grids and is nested no deeper than the limit. -/
theorem isEven_and_nesting_le_of_describes
    {tokens : List Token}
    {window : Window}
    (describes : Describes tokens window) :
    (∀ layout ∈ window.layouts, layout.IsEven) ∧ window.nesting ≤ panelLimit := by
  obtain ⟨document, rest, rfl, derives, _⟩ := describes
  cases derives with
  | window isWindow derivesTitle opens writesWidth separates writesHeight closesSize
      derivesLayout derivesChildren closes ends =>
      obtain ⟨even, bound⟩ := isEven_and_nesting_le_of_widgetsForm _ derivesChildren
      exact ⟨List.forall_mem_cons.2 ⟨isEven_of_layoutForm derivesLayout, even⟩, bound⟩

theorem isNormal_of_radiosForm
    {tokens : List Token}
    {texts : List String}
    (derives : RadiosForm tokens texts)
    (normal : HoldNormalTexts tokens) :
    ∀ text ∈ texts, IsNormal text := by
  induction derives with
  | nil =>
      exact List.forall_mem_nil _
  | cons isRadio derives ends others inductionHypothesis =>
      have first := isNormal_of_quotedForm derives (normal.of_subset fun _ among => by simp [among])
      have rest := inductionHypothesis (normal.of_subset fun _ among => by simp [among])
      exact List.forall_mem_cons.2 ⟨first, rest⟩

mutual

/-- A widget that is derived from normal texts is normal. -/
theorem isNormal_of_widgetForm :
    (widget : Widget) →
    {room : Nat} →
    {tokens : List Token} →
    WidgetForm room tokens widget →
    HoldNormalTexts tokens →
    widget.IsNormal room
  | .button _, _, _, .button _ derives _, normal => by
      simpa using isNormal_of_quotedForm derives (normal.of_subset fun _ among => by simp [among])
  | .label _, _, _, .label _ derives _, normal => by
      simpa using isNormal_of_quotedForm derives (normal.of_subset fun _ among => by simp [among])
  | .textField _, _, _, _, _ =>
      Widget.isNormal_textField
  | .radioGroup _, _, _, .group _ derives _ _, normal => by
      simpa using isNormal_of_radiosForm derives (normal.of_subset fun _ among => by simp [among])
  | .panel _ children, _, _, .panel _ derivesLayout derivesChildren _ _, normal => by
      refine Widget.isNormal_panel_iff.2 ⟨isEven_of_layoutForm derivesLayout, ?_⟩
      exact areNormal_of_widgetsForm children derivesChildren
        (normal.of_subset fun _ among => by simp [among])

/-- Widgets that are derived from normal texts are normal. -/
theorem areNormal_of_widgetsForm :
    (widgets : List Widget) →
    {room : Nat} →
    {tokens : List Token} →
    WidgetsForm room tokens widgets →
    HoldNormalTexts tokens →
    AreNormal room widgets
  | [], room, _, _, _ =>
      areNormal_nil room
  | widget :: widgets, _, _, .cons derives others, normal =>
      areNormal_cons_iff.2
        ⟨isNormal_of_widgetForm widget derives (normal.of_subset fun _ among => by simp [among]),
          areNormal_of_widgetsForm widgets others (normal.of_subset fun _ among => by simp [among])⟩

end

/-- A window that is described by tokens with normal texts is normal. -/
theorem isNormal_of_describes
    {tokens : List Token}
    {window : Window}
    (describes : Describes tokens window)
    (normal : HoldNormalTexts tokens) :
    window.IsNormal panelLimit := by
  obtain ⟨document, rest, rfl, derives, _⟩ := describes
  cases derives with
  | window isWindow derivesTitle opens writesWidth separates writesHeight closesSize
      derivesLayout derivesChildren closes ends =>
      refine Window.isNormal_iff.2 ⟨?_, isEven_of_layoutForm derivesLayout, ?_⟩
      · exact isNormal_of_quotedForm derivesTitle (normal.of_subset fun _ among => by simp [among])
      · exact areNormal_of_widgetsForm _ derivesChildren
          (normal.of_subset fun _ among => by simp [among])

end WindowLang
