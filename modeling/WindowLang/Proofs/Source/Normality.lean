import WindowLang.Tree.Normal

namespace WindowLang

/-!
# Normal widgets

Whether a window is normal is told by its parts: its title, its layout, and its
widgets one by one, where a panel takes one of the panels that may be open.
-/

/-- A widget that can be described with at most so many panels open at once. -/
structure Widget.IsNormal (room : Nat) (widget : Widget) : Prop where
  texts : ∀ text ∈ widget.preorder.flatMap Widget.texts, WindowLang.IsNormal text
  layouts : ∀ layout ∈ widget.preorder.filterMap Widget.layout?, layout.IsEven
  nesting : widget.nesting ≤ room

/-- Widgets that can be described with at most so many panels open at once. -/
structure AreNormal (room : Nat) (widgets : List Widget) : Prop where
  texts : ∀ text ∈ (Widget.preorderAll widgets).flatMap Widget.texts, IsNormal text
  layouts : ∀ layout ∈ (Widget.preorderAll widgets).filterMap Widget.layout?, layout.IsEven
  nesting : Widget.nestingAll widgets ≤ room

theorem Window.isNormal_iff
    {limit : Nat}
    {window : Window} :
    window.IsNormal limit ↔
      WindowLang.IsNormal window.title ∧ window.layout.IsEven ∧
        AreNormal limit window.children := by
  constructor
  · rintro ⟨texts, layouts, nesting⟩
    obtain ⟨title, texts⟩ := List.forall_mem_cons.1 texts
    obtain ⟨layout, layouts⟩ := List.forall_mem_cons.1 layouts
    exact ⟨title, layout, texts, layouts, nesting⟩
  · rintro ⟨title, layout, texts, layouts, nesting⟩
    exact ⟨List.forall_mem_cons.2 ⟨title, texts⟩, List.forall_mem_cons.2 ⟨layout, layouts⟩,
      nesting⟩

theorem areNormal_nil (room : Nat) :
    AreNormal room [] where
  texts := List.forall_mem_nil _
  layouts := List.forall_mem_nil _
  nesting := Nat.zero_le room

theorem areNormal_cons_iff
    {room : Nat}
    {widget : Widget}
    {widgets : List Widget} :
    AreNormal room (widget :: widgets) ↔ widget.IsNormal room ∧ AreNormal room widgets := by
  constructor
  · rintro ⟨texts, layouts, nesting⟩
    simp only [Widget.preorderAll, List.flatMap_append, List.filterMap_append,
      List.forall_mem_append] at texts layouts
    have nestings := Nat.max_le.1 nesting
    exact ⟨⟨texts.1, layouts.1, nestings.1⟩, texts.2, layouts.2, nestings.2⟩
  · rintro ⟨⟨texts, layouts, nesting⟩, othersTexts, othersLayouts, othersNesting⟩
    constructor
    · simp only [Widget.preorderAll, List.flatMap_append, List.forall_mem_append]
      exact ⟨texts, othersTexts⟩
    · simp only [Widget.preorderAll, List.filterMap_append, List.forall_mem_append]
      exact ⟨layouts, othersLayouts⟩
    · exact Nat.max_le.2 ⟨nesting, othersNesting⟩

/-- A widget other than a panel is normal if its own texts are. -/
theorem Widget.isNormal_iff_of_leaf
    {room : Nat}
    {widget : Widget}
    (alone : widget.preorder = [widget])
    (noLayout : widget.layout? = none)
    (noPanel : widget.nesting = 0) :
    widget.IsNormal room ↔ ∀ text ∈ widget.texts, WindowLang.IsNormal text := by
  constructor
  · rintro ⟨texts, _, _⟩
    rwa [alone, List.flatMap_singleton] at texts
  · intro texts
    constructor
    · rwa [alone, List.flatMap_singleton]
    · rw [alone, List.filterMap_cons_none noLayout]
      exact List.forall_mem_nil _
    · rw [noPanel]
      exact Nat.zero_le room

@[simp] theorem Widget.isNormal_button_iff
    {room : Nat}
    {caption : String} :
    (Widget.button caption).IsNormal room ↔ WindowLang.IsNormal caption := by
  rw [isNormal_iff_of_leaf rfl rfl rfl]
  simp [texts]

@[simp] theorem Widget.isNormal_label_iff
    {room : Nat}
    {text : String} :
    (Widget.label text).IsNormal room ↔ WindowLang.IsNormal text := by
  rw [isNormal_iff_of_leaf rfl rfl rfl]
  simp [texts]

@[simp] theorem Widget.isNormal_textField
    {room : Nat}
    {columns : UInt32} :
    (Widget.textField columns).IsNormal room := by
  rw [isNormal_iff_of_leaf rfl rfl rfl]
  simp [texts]

@[simp] theorem Widget.isNormal_radioGroup_iff
    {room : Nat}
    {buttons : List String} :
    (Widget.radioGroup buttons).IsNormal room ↔
      ∀ text ∈ buttons, WindowLang.IsNormal text :=
  isNormal_iff_of_leaf rfl rfl rfl

/-- A panel is normal where another panel may be open. -/
@[simp] theorem Widget.isNormal_panel_iff
    {room : Nat}
    {layout : Layout}
    {children : List Widget} :
    (Widget.panel layout children).IsNormal (room + 1) ↔
      layout.IsEven ∧ AreNormal room children := by
  constructor
  · rintro ⟨texts, layouts, nesting⟩
    obtain ⟨even, layouts⟩ := List.forall_mem_cons.1 layouts
    exact ⟨even, texts, layouts, Nat.le_of_succ_le_succ nesting⟩
  · rintro ⟨even, texts, layouts, nesting⟩
    exact ⟨texts, List.forall_mem_cons.2 ⟨even, layouts⟩, Nat.succ_le_succ nesting⟩

@[simp] theorem Widget.not_isNormal_panel_zero
    {layout : Layout}
    {children : List Widget} :
    ¬ (Widget.panel layout children).IsNormal 0 := by
  intro isNormal
  exact Nat.not_succ_le_zero _ isNormal.nesting

end WindowLang
