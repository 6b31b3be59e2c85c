import WindowLang.Proofs.Document.Acceptance
import WindowLang.Proofs.Outline.Captions
import WindowLang.Proofs.Outline.Rendering
import WindowLang.Proofs.Source.Derivations

namespace WindowLang

/-!
# Reading an outline

A row of an outline is a caption at a depth. What is drawn tells the rows: line
breaks end them, and the spaces in front of a caption tell how deep it is. The rows
tell the tree: what belongs to a widget is deeper than the widget, and what comes behind
it is not. So an outline determines its window.
-/

/-- A caption and the depth at which it stands. -/
structure Row where
  depth : Nat
  caption : Caption

/-- The line of a row. -/
def Row.line (row : Row) : Line where
  depth := row.depth
  text := row.caption.text

/-- The caption of a widget itself. -/
def Widget.caption : Widget → Caption
  | .button caption => .button caption
  | .label text => .label text
  | .textField columns => .textField columns
  | .radioGroup _ => .radioGroup
  | .panel layout _ => .panel layout

mutual

/-- The rows inside a widget that stands at a depth. -/
def Widget.inner (depth : Nat) : Widget → List Row
  | .button _ => []
  | .label _ => []
  | .textField _ => []
  | .radioGroup buttons => buttons.map fun caption => ⟨depth + 1, .radio caption⟩
  | .panel _ children => Widget.rowsAll (depth + 1) children

/-- The rows of some widgets that stand at a depth. -/
def Widget.rowsAll (depth : Nat) : List Widget → List Row
  | [] => []
  | widget :: rest =>
      ⟨depth, widget.caption⟩ :: (widget.inner depth ++ Widget.rowsAll depth rest)

end

/-- The rows of a window. -/
def Window.rows (window : Window) : List Row :=
  ⟨0, .window window.title window.width window.height window.layout⟩ ::
    Widget.rowsAll 1 window.children

/-! ## Rows and lines -/

mutual

theorem Widget.outline_eq :
    (widget : Widget) →
    (depth : Nat) →
    widget.outline depth =
      ⟨depth, widget.caption.text⟩ :: (widget.inner depth).map Row.line
  | .button _, _ => rfl
  | .label _, _ => rfl
  | .textField _, _ => rfl
  | .radioGroup buttons, depth => by
      simp [Widget.outline, Widget.inner, Widget.caption, Caption.text, Row.line]
  | .panel layout children, depth => by
      rw [Widget.outline, Widget.inner, Widget.outlineAll_eq children (depth + 1)]
      rfl

theorem Widget.outlineAll_eq :
    (widgets : List Widget) →
    (depth : Nat) →
    Widget.outlineAll depth widgets = (Widget.rowsAll depth widgets).map Row.line
  | [], _ => rfl
  | widget :: widgets, depth => by
      rw [Widget.outlineAll, Widget.rowsAll, Widget.outline_eq widget depth,
        Widget.outlineAll_eq widgets depth, List.map_cons, List.map_append]
      rfl

end

/-- The lines of a window's tree are the lines of its rows. -/
theorem Window.outline_eq (window : Window) :
    window.outline = window.rows.map Row.line := by
  rw [Window.outline, Window.rows, List.map_cons, Widget.outlineAll_eq]
  rfl

mutual

theorem Widget.isEven_of_mem_inner :
    (widget : Widget) →
    (depth : Nat) →
    (∀ layout ∈ widget.preorder.filterMap Widget.layout?, layout.IsEven) →
    widget.caption.IsEven ∧ ∀ row ∈ widget.inner depth, row.caption.IsEven
  | .button _, _, _ => ⟨trivial, List.forall_mem_nil _⟩
  | .label _, _, _ => ⟨trivial, List.forall_mem_nil _⟩
  | .textField _, _, _ => ⟨trivial, List.forall_mem_nil _⟩
  | .radioGroup _, _, _ => by
      simp [Widget.inner, Widget.caption, Caption.IsEven]
  | .panel _ children, depth, even => by
      obtain ⟨own, others⟩ := List.forall_mem_cons.1 even
      exact ⟨own, Widget.isEven_of_mem_rowsAll children (depth + 1) others⟩

theorem Widget.isEven_of_mem_rowsAll :
    (widgets : List Widget) →
    (depth : Nat) →
    (∀ layout ∈ (Widget.preorderAll widgets).filterMap Widget.layout?, layout.IsEven) →
    ∀ row ∈ Widget.rowsAll depth widgets, row.caption.IsEven
  | [], _, _ =>
      List.forall_mem_nil _
  | widget :: widgets, depth, even => by
      rw [Widget.preorderAll, List.filterMap_append] at even
      obtain ⟨own, others⟩ := List.forall_mem_append.1 even
      obtain ⟨ownCaption, inside⟩ := Widget.isEven_of_mem_inner widget depth own
      exact List.forall_mem_cons.2 ⟨ownCaption,
        List.forall_mem_append.2 ⟨inside, Widget.isEven_of_mem_rowsAll widgets depth others⟩⟩

end

/-- The captions of a window with even layouts are even. -/
theorem Window.isEven_of_mem_rows
    {window : Window}
    (even : ∀ layout ∈ window.layouts, layout.IsEven) :
    ∀ row ∈ window.rows, row.caption.IsEven := by
  obtain ⟨own, others⟩ := List.forall_mem_cons.1 even
  exact List.forall_mem_cons.2 ⟨own, Widget.isEven_of_mem_rowsAll window.children 1 others⟩

/-! ## Rows are told by what is drawn -/

theorem Line.toList_drawn_append
    (indent : Nat)
    (line : Line)
    (rest : List Char) :
    (line.drawn indent).toList ++ rest =
      (List.replicate (line.depth * indent) ' ' ++ line.text.toList) ++ '\n' :: rest := by
  simp [Line.drawn]

/-- The row that is drawn first can be told from what is drawn behind it. -/
theorem Row.drawn_append_inj
    {indent : Nat}
    (indented : 1 ≤ indent)
    {row other : Row}
    (even : row.caption.IsEven)
    (otherEven : other.caption.IsEven)
    {rest behind : List Char}
    (same :
      (row.line.drawn indent).toList ++ rest = (other.line.drawn indent).toList ++ behind) :
    row = other ∧ rest = behind := by
  have unbroken (row : Row) :
      ∀ c ∈ List.replicate (row.depth * indent) ' ' ++ row.caption.text.toList,
        (c != '\n') = true := by
    intro c among
    rcases List.mem_append.1 among with isSpace | inCaption
    · rw [List.eq_of_mem_replicate isSpace]
      rfl
    · have noFeed : c ≠ '\n' := fun feed => row.caption.feed_not_mem_text (feed ▸ inCaption)
      simpa using noFeed
  have spaces (row : Row) :
      ∀ c ∈ List.replicate (row.depth * indent) ' ', (c == ' ') = true := by
    intro c isSpace
    rw [List.eq_of_mem_replicate isSpace]
    rfl
  have stops (row : Row) :
      ∀ c ∈ row.caption.text.toList.head?, (c == ' ') = false := by
    intro c first
    have noSpace : c ≠ ' ' := fun space => row.caption.head?_text_ne (space ▸ first)
    simpa using noSpace
  rw [Line.toList_drawn_append, Line.toList_drawn_append] at same
  -- The first line break ends the line, and the first other character the indentation.
  obtain ⟨sameLine, sameRest⟩ :=
    Text.append_inj_of_forall (unbroken row) (unbroken other) (by simp) (by simp) same
  obtain ⟨sameSpaces, sameText⟩ :=
    Text.append_inj_of_forall (spaces row) (spaces other) (stops row) (stops other) sameLine
  have sameDepth : row.depth = other.depth := by
    have sameWidth : row.depth * indent = other.depth * indent := by
      simpa using congrArg List.length sameSpaces
    exact Nat.eq_of_mul_eq_mul_right indented sameWidth
  have sameCaption := Caption.text_injective even otherEven (String.toList_inj.1 sameText)
  obtain ⟨depth, caption⟩ := row
  obtain ⟨otherDepth, otherCaption⟩ := other
  obtain rfl : depth = otherDepth := sameDepth
  obtain rfl : caption = otherCaption := sameCaption
  exact ⟨rfl, (List.cons.inj sameRest).2⟩

/-- Rows are told by what is drawn of them. -/
theorem rows_eq_of_drawn
    {indent : Nat}
    (indented : 1 ≤ indent)
    {rows others : List Row}
    (even : ∀ row ∈ rows, row.caption.IsEven)
    (othersEven : ∀ row ∈ others, row.caption.IsEven)
    (same :
      rows.flatMap (fun row => (row.line.drawn indent).toList) =
        others.flatMap fun row => (row.line.drawn indent).toList) :
    rows = others := by
  induction rows generalizing others with
  | nil =>
      cases others with
      | nil =>
          rfl
      | cons other others =>
          simp [Line.drawn] at same
  | cons row rows inductionHypothesis =>
      cases others with
      | nil =>
          simp [Line.drawn] at same
      | cons other others =>
          obtain ⟨first, rest⟩ := List.forall_mem_cons.1 even
          obtain ⟨otherFirst, otherRest⟩ := List.forall_mem_cons.1 othersEven
          obtain ⟨sameRow, sameBehind⟩ := Row.drawn_append_inj indented first otherFirst same
          rw [sameRow, inductionHypothesis rest otherRest sameBehind]

/-! ## Widgets are told by their rows -/

mutual

/-- What is inside a widget is deeper than the widget. -/
theorem Widget.lt_depth_of_mem_inner :
    (widget : Widget) →
    (depth : Nat) →
    ∀ row ∈ widget.inner depth, depth < row.depth
  | .button _, _ => List.forall_mem_nil _
  | .label _, _ => List.forall_mem_nil _
  | .textField _, _ => List.forall_mem_nil _
  | .radioGroup _, _ => by
      simp [Widget.inner]
  | .panel _ children, depth =>
      Widget.le_depth_of_mem_rowsAll children (depth + 1)

theorem Widget.le_depth_of_mem_rowsAll :
    (widgets : List Widget) →
    (depth : Nat) →
    ∀ row ∈ Widget.rowsAll depth widgets, depth ≤ row.depth
  | [], _ => List.forall_mem_nil _
  | widget :: widgets, depth =>
      List.forall_mem_cons.2 ⟨Nat.le_refl depth, List.forall_mem_append.2
        ⟨fun row among => Nat.le_of_lt (Widget.lt_depth_of_mem_inner widget depth row among),
          Widget.le_depth_of_mem_rowsAll widgets depth⟩⟩

end

/-- What comes first behind a widget is no deeper than the widget. -/
theorem Widget.depth_of_head?_rowsAll
    (widgets : List Widget)
    (depth : Nat) :
    ∀ row ∈ (Widget.rowsAll depth widgets).head?, row.depth = depth := by
  cases widgets with
  | nil =>
      simp [Widget.rowsAll]
  | cons widget widgets =>
      simp [Widget.rowsAll]

/-- What is inside the first widget ends where a row is no deeper than the widget. -/
theorem Widget.inner_append_inj
    {depth : Nat}
    {widget other : Widget}
    {widgets others : List Widget}
    (same :
      widget.inner depth ++ Widget.rowsAll depth widgets =
        other.inner depth ++ Widget.rowsAll depth others) :
    widget.inner depth = other.inner depth ∧
      Widget.rowsAll depth widgets = Widget.rowsAll depth others := by
  have deeper (widget : Widget) :
      ∀ row ∈ widget.inner depth, decide (depth < row.depth) = true := by
    simpa using widget.lt_depth_of_mem_inner depth
  have stops (widgets : List Widget) :
      ∀ row ∈ (Widget.rowsAll depth widgets).head?,
        decide (depth < row.depth) = false := by
    intro row first
    rw [Widget.depth_of_head?_rowsAll widgets depth row first]
    simp
  exact Text.append_inj_of_forall (deeper widget) (deeper other) (stops widgets) (stops others) same

mutual

/-- A widget is told by its caption and what is inside it. -/
theorem Widget.eq_of_inner :
    (widget other : Widget) →
    (depth : Nat) →
    widget.caption = other.caption →
    widget.inner depth = other.inner depth →
    widget = other
  | .button _, other, _, sameCaption, _ => by
      cases other with
      | button =>
          rw [Caption.button.inj sameCaption]
      | _ =>
          cases sameCaption
  | .label _, other, _, sameCaption, _ => by
      cases other with
      | label =>
          rw [Caption.label.inj sameCaption]
      | _ =>
          cases sameCaption
  | .textField _, other, _, sameCaption, _ => by
      cases other with
      | textField =>
          rw [Caption.textField.inj sameCaption]
      | _ =>
          cases sameCaption
  | .radioGroup buttons, other, depth, sameCaption, sameInner => by
      cases other with
      | radioGroup otherButtons =>
          have oneRow (button otherButton : String)
              (sameRow : Row.mk (depth + 1) (.radio button) = ⟨depth + 1, .radio otherButton⟩) :
              button = otherButton := by
            simpa using sameRow
          rw [(List.map_inj_right oneRow).1 sameInner]
      | _ =>
          cases sameCaption
  | .panel layout children, other, depth, sameCaption, sameInner => by
      cases other with
      | panel otherLayout otherChildren =>
          obtain rfl := Caption.panel.inj sameCaption
          rw [Widget.eq_of_rowsAll children otherChildren (depth + 1) sameInner]
      | _ =>
          cases sameCaption

/-- Widgets are told by their rows. -/
theorem Widget.eq_of_rowsAll :
    (widgets others : List Widget) →
    (depth : Nat) →
    Widget.rowsAll depth widgets = Widget.rowsAll depth others →
    widgets = others
  | [], [], _, _ => rfl
  | [], _ :: _, _, same => nomatch same
  | _ :: _, [], _, same => nomatch same
  | widget :: widgets, other :: others, depth, same => by
      obtain ⟨sameHead, sameTail⟩ := List.cons.inj same
      obtain ⟨sameInner, sameRest⟩ := Widget.inner_append_inj sameTail
      have sameCaption : widget.caption = other.caption := congrArg Row.caption sameHead
      rw [Widget.eq_of_inner widget other depth sameCaption sameInner,
        Widget.eq_of_rowsAll widgets others depth sameRest]

end

/-- A window is told by its rows. -/
theorem Window.eq_of_rows
    {window other : Window}
    (same : window.rows = other.rows) :
    window = other := by
  obtain ⟨title, width, height, layout, children⟩ := window
  obtain ⟨otherTitle, otherWidth, otherHeight, otherLayout, otherChildren⟩ := other
  obtain ⟨sameFirst, sameRest⟩ := List.cons.inj same
  obtain ⟨rfl, rfl, rfl, rfl⟩ := Caption.window.inj (congrArg Row.caption sameFirst)
  rw [Widget.eq_of_rowsAll children otherChildren 1 sameRest]

/-! ## Windows are told by their outlines -/

/-- An outline is drawn row by row. -/
theorem Window.toList_of_render
    {indent : Nat}
    {window : Window}
    {text : String}
    (rendered : window.render indent = .ok text) :
    text.toList = window.rows.flatMap fun row => (row.line.drawn indent).toList := by
  obtain ⟨_, rfl⟩ := Window.render_eq_ok_iff.1 rendered
  rw [Window.outline_eq, List.map_map, String.toList_join, List.flatMap_map]
  rfl

/--
Windows whose grids have both gaps or neither, as all windows that are parsed, are the same
if they are rendered as the same outline, as long as lines are indented at all.
-/
theorem outline_determines_window :
    (∀ tokens window, parse tokens = .ok window → ∀ layout ∈ window.layouts, layout.IsEven) ∧
      ∀ (indent : Nat) (window other : Window) (text : String),
        1 ≤ indent →
        (∀ layout ∈ window.layouts, layout.IsEven) →
        (∀ layout ∈ other.layouts, layout.IsEven) →
        window.render indent = .ok text →
        other.render indent = .ok text →
          window = other := by
  constructor
  · intro tokens window accepted
    exact (isEven_and_nesting_le_of_describes (describes_of_parse accepted)).1
  · intro indent window other text indented even otherEven rendered otherRendered
    have sameDrawn := (Window.toList_of_render rendered).symm.trans
      (Window.toList_of_render otherRendered)
    exact Window.eq_of_rows (rows_eq_of_drawn indented (Window.isEven_of_mem_rows even)
      (Window.isEven_of_mem_rows otherEven) sameDrawn)

/-- A window with a line break in its title, an empty panel, and groups with and without buttons. -/
def brokenTitle : Window :=
  ⟨"a\n\"", 3, 4, .grid 1 2 (some 0) (some 7),
    [.panel .flow [], .radioGroup ["é "], .panel .flow [.radioGroup []]]⟩

/-- The outline of that window, one column for each level. -/
def brokenTitleOutline : String :=
  "Window \"a\\n\\\"\" 3x4 [Grid 1x2 gap 0,7]\n Panel [Flow]\n RadioGroup\n" ++
    "  Radio \"é \"\n Panel [Flow]\n  RadioGroup\n"

/-- The same window, but for a title that has the escape of the line break in its place. -/
def escapedTitle : Window :=
  { brokenTitle with title := "a\\n\"" }

theorem brokenTitle_is_told :
    brokenTitle.render 1 = .ok brokenTitleOutline ∧
      (∀ other : Window,
        (∀ layout ∈ other.layouts, layout.IsEven) →
          other.render 1 = .ok brokenTitleOutline →
            other = brokenTitle) ∧
      escapedTitle.render 1 ≠ .ok brokenTitleOutline := by
  have even : ∀ layout ∈ brokenTitle.layouts, layout.IsEven := by
    simp [brokenTitle, Window.layouts, Window.widgets, Widget.preorderAll, Widget.preorder,
      Widget.layout?, Layout.IsEven]
  have drawn :
      String.join (brokenTitle.outline.map (Line.drawn 1)) = brokenTitleOutline := by
    decide +kernel
  have rendered : brokenTitle.render 1 = .ok brokenTitleOutline := by
    rw [Window.render_of_nesting_le (by decide), drawn]
  have told
      (other : Window)
      (otherEven : ∀ layout ∈ other.layouts, layout.IsEven)
      (otherRendered : other.render 1 = .ok brokenTitleOutline) :
      other = brokenTitle :=
    outline_determines_window.2 1 _ _ _ (by decide) otherEven even otherRendered rendered
  refine ⟨rendered, told, fun otherRendered => ?_⟩
  have sameTitle : escapedTitle.title = brokenTitle.title :=
    congrArg Window.title (told escapedTitle even otherRendered)
  revert sameTitle
  decide

end WindowLang
