import WindowLang.Proofs.Outline.Rows

namespace WindowLang

/-!
# What an outline looks like

An outline has one line for the window, for each widget and for each radio button, and
nothing that a window's texts hold can break a line. It fails exactly if one of those
lines is indented too far: a renderer that counts the open containers is as deep behind a
widget as it was before it, so what it is asked to draw are the lines of the tree.
-/

/-! ## Lines of a text -/

/-- Lines with a line feed behind each of them are cut apart again. -/
theorem splitOn_flatMap_feed
    {lines : List (List Char)}
    (unbroken : ∀ line ∈ lines, '\n' ∉ line) :
    (lines.flatMap fun line => line ++ ['\n']).splitOn '\n' = lines ++ [[]] := by
  induction lines with
  | nil =>
      rfl
  | cons line lines inductionHypothesis =>
      obtain ⟨first, others⟩ := List.forall_mem_cons.1 unbroken
      rw [List.flatMap_cons, List.append_assoc, List.singleton_append,
        List.splitOn_append_cons_self, List.splitOn_eq_singleton first,
        inductionHypothesis others, List.singleton_append, List.cons_append]

/-- A text of lines, each with a line feed behind it, has those lines. -/
theorem lines_of_fed
    {lines : List (List Char)}
    (unbroken : ∀ line ∈ lines, '\n' ∉ line)
    (noCarriage : ∀ line ∈ lines, line.getLast? ≠ some '\r')
    {text : String}
    (fed : text.toList = lines.flatMap fun line => line ++ ['\n']) :
    Text.lines text = lines.map String.ofList := by
  have kept : lines.map (Text.dropCarriage '\r') = lines.map id :=
    List.map_congr_left fun line among => if_neg (noCarriage line among)
  rw [Text.lines, Text.splitLines, fed, splitOn_flatMap_feed unbroken]
  simp [kept]

/-! ## Lines of a tree -/

/-- The characters of a line behind its indentation. -/
def Line.characters (indent : Nat) (line : Line) : List Char :=
  List.replicate (line.depth * indent) ' ' ++ line.text.toList

theorem Line.toList_drawn (indent : Nat) (line : Line) :
    (line.drawn indent).toList = line.characters indent ++ ['\n'] := by
  simp [Line.drawn, Line.characters]

/-- No line of a tree holds a line feed, whatever the texts of the window hold. -/
theorem Window.feed_not_mem_outline
    {window : Window}
    {line : Line}
    (among : line ∈ window.outline) :
    '\n' ∉ line.text.toList := by
  rw [Window.outline_eq] at among
  obtain ⟨row, _, rfl⟩ := List.mem_map.1 among
  exact row.caption.feed_not_mem_text

/-- Nor does a line end with a carriage return, which would belong to the line feed behind it. -/
theorem Window.getLast?_ne_carriage
    {window : Window}
    {line : Line}
    (among : line ∈ window.outline)
    (indent : Nat) :
    (line.characters indent).getLast? ≠ some '\r' := by
  rw [Window.outline_eq] at among
  obtain ⟨row, _, rfl⟩ := List.mem_map.1 among
  obtain ⟨last, ends, notBlank⟩ := row.caption.getLast?_text
  intro carriage
  have isLast : (row.line.characters indent).getLast? = some last := by
    have textEnds : row.line.text.toList.getLast? = some last := ends
    rw [Line.characters, List.getLast?_append, textEnds]
    rfl
  obtain rfl : last = '\r' := Option.some.inj (isLast.symm.trans carriage)
  revert notBlank
  decide

mutual

theorem Widget.length_outline :
    (widget : Widget) →
    (depth : Nat) →
    (widget.outline depth).length =
      widget.count + (widget.preorder.flatMap Widget.buttons).length
  | .button _, _ => rfl
  | .label _, _ => rfl
  | .textField _, _ => rfl
  | .radioGroup buttons, depth => by
      simp [Widget.outline, Widget.count, Widget.preorder, Widget.buttons, Nat.add_comm]
  | .panel layout children, depth => by
      have inside := Widget.length_outlineAll children (depth + 1)
      simp [Widget.outline, Widget.count, Widget.preorder, Widget.buttons, inside]
      omega

theorem Widget.length_outlineAll :
    (widgets : List Widget) →
    (depth : Nat) →
    (Widget.outlineAll depth widgets).length =
      Widget.countAll widgets + ((Widget.preorderAll widgets).flatMap Widget.buttons).length
  | [], _ => rfl
  | widget :: widgets, depth => by
      rw [Widget.outlineAll, Widget.countAll, Widget.preorderAll, List.flatMap_append,
        List.length_append, List.length_append, Widget.length_outline widget depth,
        Widget.length_outlineAll widgets depth]
      omega

end

/-- A tree has a line for the window, for each widget and for each radio button. -/
theorem Window.length_outline (window : Window) :
    window.outline.length = 1 + window.widgetCount + window.buttons.length := by
  have inside := Widget.length_outlineAll window.children 1
  rw [Window.outline, List.length_cons, inside, Window.widgetCount, Window.buttons,
    Window.widgets]
  omega

/-! ## The depth of a renderer -/

mutual

/-- Behind a widget a renderer is as it was before it. -/
theorem Outliner.after_calls :
    (widget : Widget) →
    (outliner : Outliner) →
    widget.calls.foldl Outliner.after outliner = outliner
  | .button _, _ => rfl
  | .label _, _ => rfl
  | .textField _, _ => rfl
  | .radioGroup _, _ => rfl
  | .panel layout children, outliner => by
      have inside := Outliner.after_callsAll children (outliner.after (.beginPanel layout))
      rw [Widget.calls, List.foldl_cons, List.foldl_append, inside]
      rfl

theorem Outliner.after_callsAll :
    (widgets : List Widget) →
    (outliner : Outliner) →
    (Widget.callsAll widgets).foldl Outliner.after outliner = outliner
  | [], _ => rfl
  | widget :: widgets, outliner => by
      rw [Widget.callsAll, List.foldl_append, Outliner.after_calls widget,
        Outliner.after_callsAll widgets]

end

/-! ## Outlines -/

/-- Rendering fails exactly if a line of the tree is indented too far. -/
theorem Window.render_eq_error_iff
    {indent : Nat}
    {window : Window} :
    (∃ fault, window.render indent = .error fault) ↔
      ∃ line ∈ window.outline, indentationLimit < line.depth * indent := by
  constructor
  · rintro ⟨fault, failed⟩
    refine Classical.byContradiction fun noneTooWide => ?_
    have fits : ∀ line ∈ window.outline, line.Fits indent := by
      intro line among
      exact Nat.le_of_not_lt fun tooWide => noneTooWide ⟨line, among, tooWide⟩
    rw [Window.render_eq_ok_iff.2 ⟨fits, rfl⟩] at failed
    cases failed
  · rintro ⟨line, among, tooWide⟩
    obtain ⟨fault, failed⟩ :=
      mapM_write_of_not_fits ⟨line, among, Nat.not_le.2 tooWide⟩
    rw [Window.render_eq, failed]
    exact ⟨fault, rfl⟩

/-- A rendered outline is its lines, each indented and with a line feed behind it. -/
theorem Window.toList_of_render_eq_ok
    {indent : Nat}
    {window : Window}
    {text : String}
    (rendered : window.render indent = .ok text) :
    text.toList = (window.outline.map (Line.characters indent)).flatMap (· ++ ['\n']) := by
  obtain ⟨_, rfl⟩ := Window.render_eq_ok_iff.1 rendered
  rw [String.toList_join, List.flatMap_map, List.flatMap_map]
  exact congrArg (window.outline.flatMap ·) (funext (Line.toList_drawn indent))

/-- The lines of a rendered outline are those of the tree. -/
theorem Window.lines_of_render
    {indent : Nat}
    {window : Window}
    {text : String}
    (rendered : window.render indent = .ok text) :
    Text.lines text =
      (window.outline.map (Line.characters indent)).map String.ofList := by
  refine lines_of_fed ?_ ?_ (Window.toList_of_render_eq_ok rendered)
  · refine List.forall_mem_map.2 fun line among => ?_
    simp [Line.characters, Window.feed_not_mem_outline among]
  · exact List.forall_mem_map.2 fun line among => Window.getLast?_ne_carriage among indent

/--
Rendering fails exactly if a line of the window's tree would be indented by more than 65535
columns. Otherwise the outline is those lines, each behind its indentation and before a
line feed. No line holds a line feed, so an outline has as many lines as the tree, one for
the window and for each widget and radio button; and in whatever state a renderer is, the
calls for a widget leave it in that state.
-/
theorem outline_is_drawn_line_by_line
    (indent : Nat)
    (window : Window) :
    ((∃ fault, window.render indent = .error fault) ↔
        ∃ line ∈ window.outline, 65535 < line.depth * indent) ∧
      ((¬ ∃ line ∈ window.outline, 65535 < line.depth * indent) →
        ∃ text,
          window.render indent = .ok text ∧
            text.toList =
              (window.outline.flatMap fun line =>
                List.replicate (line.depth * indent) ' ' ++ line.text.toList ++ ['\n']) ∧
            (Text.lines text).length = 1 + window.widgetCount + window.buttons.length) ∧
      (∀ line ∈ window.outline, '\n' ∉ line.text.toList) ∧
      ∀ (outliner : Outliner) (widget : Widget),
        widget.calls.foldl Outliner.after outliner = outliner := by
  refine ⟨Window.render_eq_error_iff, fun narrow => ?_,
    fun _ among => Window.feed_not_mem_outline among,
    fun outliner widget => Outliner.after_calls widget outliner⟩
  cases rendered : window.render indent with
  | error fault =>
      exact absurd (Window.render_eq_error_iff.1 ⟨fault, rendered⟩) narrow
  | ok text =>
      refine ⟨text, rfl, ?_, ?_⟩
      · rw [Window.toList_of_render_eq_ok rendered, List.flatMap_map]
        rfl
      · rw [Window.lines_of_render rendered, List.length_map, List.length_map,
          Window.length_outline]

/-- A window whose only radio button stands three levels deep. -/
def deepButton : Window :=
  ⟨"a\nb", 3, 4, .flow, [.panel .flow [.radioGroup ["\r"], .panel .flow []]]⟩

theorem deepButton_is_drawn :
    (∃ text,
        deepButton.render 21845 = .ok text ∧
          (Text.lines text).length = 5) ∧
      ∃ fault, deepButton.render 21846 = .error fault := by
  have depths : deepButton.outline.map Line.depth = [0, 1, 2, 3, 2] := by
    rfl
  have narrow : ¬ ∃ line ∈ deepButton.outline, 65535 < line.depth * 21845 := by
    rintro ⟨line, among, tooWide⟩
    have depth : line.depth ∈ deepButton.outline.map Line.depth := List.mem_map_of_mem among
    rw [depths] at depth
    have bound : ∀ depth ∈ [0, 1, 2, 3, 2], depth * 21845 ≤ 65535 := by
      decide
    exact absurd tooWide (Nat.not_lt.2 (bound _ depth))
  have wide : ∃ line ∈ deepButton.outline, 65535 < line.depth * 21846 := by
    have deepest : 3 ∈ deepButton.outline.map Line.depth := by
      rw [depths]
      decide
    obtain ⟨line, among, depth⟩ := List.mem_map.1 deepest
    exact ⟨line, among, by rw [depth]; decide⟩
  obtain ⟨text, rendered, _, lines⟩ :=
    (outline_is_drawn_line_by_line 21845 deepButton).2.1 narrow
  exact ⟨⟨text, rendered, lines⟩, (outline_is_drawn_line_by_line 21846 deepButton).1.2 wide⟩

end WindowLang
