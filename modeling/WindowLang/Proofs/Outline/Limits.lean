import WindowLang.Proofs.Outline.Drawing
import WindowLang.Proofs.Source.Derivations

namespace WindowLang

/-!
# How far accepted documents are indented

The limit on open panels bounds the depth of every line: around the widgets of the
innermost panel stand the window and 256 panels, and the buttons of a group there stand one
level deeper. So an accepted document is drawn with every indentation up to 254 columns, and
the deepest one is drawn with no other.
-/

open Grammar

/-! ## Accepted documents -/

/-- A line of an accepted document stands at most in the window, its panels and a group. -/
theorem depth_le_of_parse
    {tokens : List Token}
    {window : Window}
    (accepted : parse tokens = .ok window)
    {line : Line}
    (among : line ∈ window.outline) :
    line.depth ≤ panelLimit + 2 := by
  obtain ⟨_, bound⟩ := isEven_and_nesting_le_of_describes (describes_of_parse accepted)
  exact Nat.le_trans (Window.depth_le_of_mem_outline among) (Nat.add_le_add_right bound 2)

/-- An accepted document is drawn if lines as deep as the limit allows can be indented. -/
theorem render_of_parse
    {tokens : List Token}
    {window : Window}
    (accepted : parse tokens = .ok window)
    {indent : Nat}
    (narrow : (panelLimit + 2) * indent ≤ indentationLimit) :
    window.render indent = .ok (String.join (window.outline.map (Line.drawn indent))) := by
  refine Window.render_eq_ok_iff.2 ⟨fun line among => ?_, rfl⟩
  have deepest := depth_le_of_parse accepted among
  exact Nat.le_trans (Nat.mul_le_mul_right indent deepest) narrow

/-! ## The deepest document -/

/-- So many panels, one inside the other, around a group with one button. -/
def panelsAround : Nat → Widget
  | 0 => .radioGroup [""]
  | count + 1 => .panel .flow [panelsAround count]

/-- The button stands one level deeper than the group. -/
theorem exists_deepest_line (count depth : Nat) :
    ∃ line ∈ (panelsAround count).outline depth, line.depth = depth + count + 1 := by
  induction count generalizing depth with
  | zero =>
      exact ⟨⟨depth + 1, radioText ""⟩, by simp [panelsAround, Widget.outline], rfl⟩
  | succ count inductionHypothesis =>
      obtain ⟨line, among, isDeepest⟩ := inductionHypothesis (depth + 1)
      refine ⟨line, ?_, by omega⟩
      simp [panelsAround, Widget.outline, Widget.outlineAll, among]

theorem isNormal_panelsAround (count : Nat) :
    (panelsAround count).IsNormal count := by
  induction count with
  | zero =>
      have empty : ∀ text ∈ [""], IsNormal text := by
        simp [IsNormal]
      exact Widget.isNormal_radioGroup_iff.2 empty
  | succ count inductionHypothesis =>
      exact Widget.isNormal_panel_iff.2
        ⟨trivial, areNormal_cons_iff.2 ⟨inductionHypothesis, areNormal_nil count⟩⟩

/-- A window with as many panels as may be open at once around the button of a group. -/
def deepestWindow : Window :=
  ⟨"", 1, 1, .flow, [panelsAround panelLimit]⟩

theorem parse_deepestWindow :
    parse deepestWindow.tokens = .ok deepestWindow := by
  have isNormal : deepestWindow.IsNormal panelLimit :=
    Window.isNormal_iff.2 ⟨.inl rfl, trivial,
      areNormal_cons_iff.2 ⟨isNormal_panelsAround panelLimit, areNormal_nil panelLimit⟩⟩
  exact parse_tokens isNormal

/-- The button is indented too far as soon as lines of its depth cannot be indented. -/
theorem render_deepestWindow
    {indent : Nat}
    (wide : indentationLimit < (panelLimit + 2) * indent) :
    ∃ fault, deepestWindow.render indent = .error fault := by
  obtain ⟨line, among, isDeepest⟩ := exists_deepest_line panelLimit 1
  have inOutline : line ∈ deepestWindow.outline := by
    simp [deepestWindow, Window.outline, Widget.outlineAll, among]
  have depth : line.depth = panelLimit + 2 := by omega
  exact Window.render_eq_error_iff.2 ⟨line, inOutline, depth ▸ wide⟩

/--
No line of an accepted document is deeper than 258, the window, 256 panels and a group being
around it. With an indentation of at most 254 columns for each level its lines are therefore
indented by at most 65532 columns, and all of them are drawn. From 255 columns on there is an
accepted document that is not drawn.
-/
theorem accepted_documents_are_drawn :
    (∀ tokens window,
        parse tokens = .ok window →
          (∀ line ∈ window.outline, line.depth ≤ 258) ∧
            ∀ indent ≤ 254,
              (∀ line ∈ window.outline, line.depth * indent ≤ 65532) ∧
                window.render indent =
                  .ok (String.join (window.outline.map (Line.drawn indent)))) ∧
      ∀ indent, 255 ≤ indent →
        ∃ tokens window fault,
          parse tokens = .ok window ∧ window.render indent = .error fault := by
  constructor
  · intro tokens window accepted
    have deepest : ∀ line ∈ window.outline, line.depth ≤ 258 :=
      fun line among => depth_le_of_parse accepted among
    refine ⟨deepest, fun indent small => ⟨fun line among => ?_, ?_⟩⟩
    · exact Nat.mul_le_mul (deepest line among) small
    · apply render_of_parse accepted
      simp only [panelLimit, indentationLimit]
      omega
  · intro indent large
    have wide : indentationLimit < (panelLimit + 2) * indent := by
      simp only [panelLimit, indentationLimit]
      omega
    obtain ⟨fault, failed⟩ := render_deepestWindow wide
    exact ⟨deepestWindow.tokens, deepestWindow, fault, parse_deepestWindow, failed⟩

theorem deepestWindow_is_drawn :
    (∃ text, deepestWindow.render 254 = .ok text) ∧
      ∃ tokens window fault,
        parse tokens = .ok window ∧ window.render 255 = .error fault := by
  obtain ⟨drawn, notDrawn⟩ := accepted_documents_are_drawn
  obtain ⟨_, fits⟩ := drawn deepestWindow.tokens deepestWindow parse_deepestWindow
  exact ⟨⟨_, (fits 254 (Nat.le_refl 254)).2⟩, notDrawn 255 (Nat.le_refl 255)⟩

end WindowLang
