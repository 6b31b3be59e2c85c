import WindowLang.Outline.Renderer
import WindowLang.Outline.Tree
import WindowLang.Tree.Normal

namespace WindowLang

/-!
# Rendering the lines of a tree

The calls for a window draw the lines of its tree one after the other: a renderer that
counts the open containers is always as deep as the tree. So an outline is rendered if
none of its lines is indented too far, and a window's nesting bounds how far they are.
-/

/-! ## Drawing lines -/

/-- A line as it is drawn. -/
def Line.drawn (indent : Nat) (line : Line) : String :=
  String.ofList (List.replicate (line.depth * indent) ' ') ++ line.text ++ "\n"

/-- The line is not indented too far. -/
def Line.Fits (indent : Nat) (line : Line) : Prop :=
  line.depth * indent ≤ indentationLimit

theorem Line.write_of_fits
    {indent : Nat}
    {line : Line}
    (fits : line.Fits indent) :
    line.write indent = .ok (line.drawn indent) :=
  if_pos fits

theorem Line.write_of_not_fits
    {indent : Nat}
    {line : Line}
    (tooWide : ¬ line.Fits indent) :
    line.write indent = .error ⟨line.depth * indent⟩ :=
  if_neg tooWide

/-- Lines of which none is indented too far are written as they are drawn. -/
theorem mapM_write_of_fits
    {indent : Nat}
    {lines : List Line}
    (fits : ∀ line ∈ lines, line.Fits indent) :
    lines.mapM (Line.write indent) = .ok (lines.map (Line.drawn indent)) := by
  induction lines with
  | nil =>
      rfl
  | cons line lines inductionHypothesis =>
      obtain ⟨first, others⟩ := List.forall_mem_cons.1 fits
      rw [List.mapM_cons, Line.write_of_fits first, inductionHypothesis others]
      rfl

/-- Lines of which one is indented too far are not written. -/
theorem mapM_write_of_not_fits
    {indent : Nat}
    {lines : List Line}
    (tooWide : ∃ line ∈ lines, ¬ line.Fits indent) :
    ∃ fault, lines.mapM (Line.write indent) = .error fault := by
  induction lines with
  | nil =>
      obtain ⟨line, among, _⟩ := tooWide
      cases among
  | cons line lines inductionHypothesis =>
      rw [List.mapM_cons]
      by_cases fits : line.Fits indent
      · have behind : ∃ line ∈ lines, ¬ line.Fits indent := by
          simpa [fits] using tooWide
        obtain ⟨fault, failed⟩ := inductionHypothesis behind
        rw [Line.write_of_fits fits, failed]
        exact ⟨fault, rfl⟩
      · rw [Line.write_of_not_fits fits]
        exact ⟨_, rfl⟩

/-! ## Calls and their lines -/

/-- The lines of some calls, from a depth on. -/
def linesOf (depth : Nat) : List Call → List Line
  | [] => []
  | call :: rest => call.lines depth ++ linesOf (call.depthAfter depth) rest

/-- A call and those behind it draw one after the other. -/
theorem Outliner.drawAll_cons
    (outliner : Outliner)
    (call : Call)
    (rest : List Call) :
    outliner.drawAll (call :: rest) = (do
      let first ← outliner.draw call
      let others ← (outliner.after call).drawAll rest
      return first ++ others) := by
  unfold Outliner.drawAll
  rw [Outliner.steps]
  cases outliner.draw call with
  | error fault =>
      rfl
  | ok text =>
      change String.join <$> (Except.ok text :: _ : List _).mapM id = _
      rw [List.mapM_cons]
      cases ((outliner.after call).steps rest).mapM id with
      | error fault =>
          rfl
      | ok texts =>
          exact congrArg Except.ok String.join_cons

/-- Lines and those behind them are written one after the other. -/
theorem join_mapM_append
    (indent : Nat)
    (lines others : List Line) :
    String.join <$> (lines ++ others).mapM (Line.write indent) = (do
      let first ← String.join <$> lines.mapM (Line.write indent)
      let second ← String.join <$> others.mapM (Line.write indent)
      return first ++ second) := by
  rw [List.mapM_append]
  cases lines.mapM (Line.write indent) with
  | error fault =>
      rfl
  | ok texts =>
      cases others.mapM (Line.write indent) with
      | error fault =>
          rfl
      | ok otherTexts =>
          exact congrArg Except.ok String.join_append

/-- Calls draw their lines one after the other. -/
theorem Outliner.drawAll_eq
    (outliner : Outliner)
    (calls : List Call) :
    outliner.drawAll calls =
      String.join <$> (linesOf outliner.depth calls).mapM (Line.write outliner.indent) := by
  induction calls generalizing outliner with
  | nil =>
      rfl
  | cons call rest inductionHypothesis =>
      rw [Outliner.drawAll_cons, inductionHypothesis, linesOf, join_mapM_append]
      rfl

mutual

theorem linesOf_calls_append :
    (widget : Widget) →
    (depth : Nat) →
    (rest : List Call) →
    linesOf depth (widget.calls ++ rest) = widget.outline depth ++ linesOf depth rest
  | .button _, _, _ => rfl
  | .label _, _, _ => rfl
  | .textField _, _, _ => rfl
  | .radioGroup _, _, _ => rfl
  | .panel layout children, depth, rest => by
      have inside := linesOf_callsAll_append children (depth + 1) (.endPanel :: rest)
      rw [Widget.calls, Widget.outline, List.cons_append, List.append_assoc]
      exact congrArg (Line.mk depth (panelText layout) :: ·) inside

theorem linesOf_callsAll_append :
    (widgets : List Widget) →
    (depth : Nat) →
    (rest : List Call) →
    linesOf depth (Widget.callsAll widgets ++ rest) =
      Widget.outlineAll depth widgets ++ linesOf depth rest
  | [], _, _ => rfl
  | widget :: widgets, depth, rest => by
      rw [Widget.callsAll, Widget.outlineAll, List.append_assoc, linesOf_calls_append widget,
        linesOf_callsAll_append widgets, List.append_assoc]

end

/-- The calls for a window have the lines of its tree. -/
theorem linesOf_calls (window : Window) :
    linesOf 0 window.calls = window.outline := by
  have inside := linesOf_callsAll_append window.children 1 []
  rw [List.append_nil, linesOf, List.append_nil] at inside
  rw [Window.calls, linesOf, Window.outline]
  exact congrArg (Line.mk 0 _ :: ·) inside

/-- A window is rendered as the lines of its tree. -/
theorem Window.render_eq
    (indent : Nat)
    (window : Window) :
    window.render indent = String.join <$> window.outline.mapM (Line.write indent) := by
  rw [Window.render, Outliner.drawAll_eq, linesOf_calls]

theorem Window.render_eq_ok_iff
    {indent : Nat}
    {window : Window}
    {text : String} :
    window.render indent = .ok text ↔
      (∀ line ∈ window.outline, line.Fits indent) ∧
        text = String.join (window.outline.map (Line.drawn indent)) := by
  rw [Window.render_eq]
  by_cases fits : ∀ line ∈ window.outline, line.Fits indent
  · rw [mapM_write_of_fits fits]
    change Except.ok (String.join _) = _ ↔ _
    rw [Except.ok.injEq, eq_comm, and_iff_right fits]
  · obtain ⟨fault, failed⟩ := mapM_write_of_not_fits (by simpa using fits)
    rw [failed]
    change Except.error fault = _ ↔ _
    simp [fits]

/-! ## How deep lines are -/

mutual

theorem Widget.depth_le_of_mem_outline :
    (widget : Widget) →
    (depth : Nat) →
    ∀ line ∈ widget.outline depth, line.depth ≤ depth + widget.nesting + 1
  | .button _, depth => by
      simp [Widget.outline, Nat.add_assoc]
  | .label _, depth => by
      simp [Widget.outline, Nat.add_assoc]
  | .textField _, depth => by
      simp [Widget.outline, Nat.add_assoc]
  | .radioGroup buttons, depth => by
      simp [Widget.outline, Widget.nesting]
  | .panel layout children, depth => by
      refine List.forall_mem_cons.2 ⟨?_, fun line among => ?_⟩
      · rw [Nat.add_assoc]
        exact Nat.le_add_right _ _
      · have inside := Widget.depth_le_of_mem_outlineAll children (depth + 1) line among
        rw [Widget.nesting]
        omega

theorem Widget.depth_le_of_mem_outlineAll :
    (widgets : List Widget) →
    (depth : Nat) →
    ∀ line ∈ Widget.outlineAll depth widgets, line.depth ≤ depth + Widget.nestingAll widgets + 1
  | [], _ =>
      List.forall_mem_nil _
  | widget :: widgets, depth => by
      intro line among
      have least := Nat.le_max_left widget.nesting (Widget.nestingAll widgets)
      have leastOthers := Nat.le_max_right widget.nesting (Widget.nestingAll widgets)
      rw [Widget.nestingAll]
      rcases List.mem_append.1 among with first | others
      · have bound := Widget.depth_le_of_mem_outline widget depth line first
        omega
      · have bound := Widget.depth_le_of_mem_outlineAll widgets depth line others
        omega

end

/-- The buttons of a group in the innermost panel are the deepest lines. -/
theorem Window.depth_le_of_mem_outline
    {window : Window}
    {line : Line}
    (among : line ∈ window.outline) :
    line.depth ≤ window.nesting + 2 := by
  rcases List.mem_cons.1 among with rfl | inside
  · exact Nat.zero_le _
  · have bound := Widget.depth_le_of_mem_outlineAll window.children 1 line inside
    rw [Window.nesting]
    omega

/-- A window whose deepest lines are not indented too far is rendered. -/
theorem Window.render_of_nesting_le
    {indent : Nat}
    {window : Window}
    (narrow : (window.nesting + 2) * indent ≤ indentationLimit) :
    window.render indent = .ok (String.join (window.outline.map (Line.drawn indent))) := by
  refine Window.render_eq_ok_iff.2 ⟨fun line among => ?_, rfl⟩
  exact Nat.le_trans (Nat.mul_le_mul_right indent (Window.depth_le_of_mem_outline among)) narrow

end WindowLang
