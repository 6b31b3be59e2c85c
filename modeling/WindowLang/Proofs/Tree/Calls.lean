import WindowLang.Tree.Replay

namespace WindowLang

/-!
# The tree in the calls

The calls to a renderer lose nothing of a window. A renderer that keeps a stack of the open
containers has, behind the calls for a widget, that widget in the container it had on top
before them, whatever lies below and whatever calls follow; so it ends with the window.
-/

/-! ## Replaying a tree -/

/-- A container to which widgets are added in turn holds them behind those it held. -/
theorem Container.foldl_add (widgets : List Widget) (container : Container) :
    widgets.foldl Container.add container =
      ⟨container.layout, widgets.reverse ++ container.newest⟩ := by
  induction widgets generalizing container with
  | nil =>
      rfl
  | cons widget widgets inductionHypothesis =>
      rw [List.foldl_cons, inductionHypothesis, List.reverse_cons, List.append_assoc]
      rfl

theorem Container.children_foldl_add (layout : Layout) (widgets : List Widget) :
    (widgets.foldl Container.add ⟨layout, []⟩).children = widgets := by
  rw [Container.foldl_add, Container.children, List.append_nil, List.reverse_reverse]

/-- The end of a panel adds it, with what it holds, to the container around it. -/
theorem replay_endPanel
    (panel container : Container)
    (outer : List Container)
    (rest : List Call) :
    replay (panel :: container :: outer) (.endPanel :: rest) =
      replay (container.add (.panel panel.layout panel.children) :: outer) rest :=
  rfl

mutual

/-- The calls for a widget add it to the innermost container. -/
theorem replay_calls :
    (widget : Widget) →
    (container : Container) →
    (outer : List Container) →
    (rest : List Call) →
    replay (container :: outer) (widget.calls ++ rest) =
      replay (container.add widget :: outer) rest
  | .button _, _, _, _ => rfl
  | .label _, _, _, _ => rfl
  | .textField _, _, _, _ => rfl
  | .radioGroup _, _, _, _ => rfl
  | .panel layout children, container, outer, rest => by
      have begun :
          replay (container :: outer) ((Widget.panel layout children).calls ++ rest) =
            replay (⟨layout, []⟩ :: container :: outer)
              (Widget.callsAll children ++ .endPanel :: rest) := by
        simp only [Widget.calls, List.cons_append, List.append_assoc, List.nil_append]
        rfl
      rw [begun, replay_callsAll children, replay_endPanel, Container.children_foldl_add,
        Container.foldl_add]

/-- The calls for some widgets add them to the innermost container, one after the other. -/
theorem replay_callsAll :
    (widgets : List Widget) →
    (container : Container) →
    (outer : List Container) →
    (rest : List Call) →
    replay (container :: outer) (Widget.callsAll widgets ++ rest) =
      replay (widgets.foldl Container.add container :: outer) rest
  | [], _, _, _ => rfl
  | widget :: widgets, container, outer, rest => by
      rw [Widget.callsAll, List.append_assoc, replay_calls widget, replay_callsAll widgets,
        List.foldl_cons]

end

/-- The calls for the widgets of a window leave the window's container alone with them. -/
theorem replay_children (layout : Layout) (children : List Widget) :
    replay [⟨layout, []⟩] (Widget.callsAll children) = some [⟨layout, children.reverse⟩] := by
  have replayed := replay_callsAll children ⟨layout, []⟩ [] []
  rw [List.append_nil, Container.foldl_add, List.append_nil] at replayed
  exact replayed

/-- A window is rebuilt from its calls. -/
theorem Window.ofCalls?_calls (window : Window) :
    Window.ofCalls? window.calls = some window := by
  simp only [Window.calls, Window.ofCalls?, replay_children, Container.children,
    List.reverse_reverse]

/-! ## Nesting -/

theorem Call.AreNested.append
    {first second : List Call}
    (firstNested : AreNested first)
    (secondNested : AreNested second) :
    AreNested (first ++ second) := by
  induction firstNested with
  | nil =>
      exact secondNested
  | leaf isLeaf others inductionHypothesis =>
      exact .leaf isLeaf inductionHypothesis
  | panel within others _ inductionHypothesis =>
      rw [List.cons_append, List.append_assoc, List.cons_append]
      exact .panel within inductionHypothesis

mutual

theorem Widget.areNested_calls :
    (widget : Widget) →
    Call.AreNested widget.calls
  | .button _ => .leaf rfl .nil
  | .label _ => .leaf rfl .nil
  | .textField _ => .leaf rfl .nil
  | .radioGroup _ => .leaf rfl .nil
  | .panel _ children => .panel (Widget.areNested_callsAll children) .nil

theorem Widget.areNested_callsAll :
    (widgets : List Widget) →
    Call.AreNested (Widget.callsAll widgets)
  | [] => .nil
  | widget :: widgets =>
      (Widget.areNested_calls widget).append (Widget.areNested_callsAll widgets)

end

/-- No call for widgets begins a window. -/
theorem Call.AreNested.beginWindow_not_mem
    {calls : List Call}
    (nested : AreNested calls)
    (title : String)
    (width height : UInt32)
    (layout : Layout) :
    .beginWindow title width height layout ∉ calls := by
  induction nested with
  | nil =>
      exact List.not_mem_nil
  | @leaf call rest isLeaf others inductionHypothesis =>
      intro among
      rcases List.mem_cons.1 among with rfl | among
      · cases isLeaf
      · exact inductionHypothesis among
  | panel within others insideHypothesis othersHypothesis =>
      simp [insideHypothesis, othersHypothesis]

/-! ## Counting -/

mutual

theorem Widget.countP_calls :
    (widget : Widget) →
    widget.calls.countP Call.isForWidget = widget.count
  | .button _ => rfl
  | .label _ => rfl
  | .textField _ => rfl
  | .radioGroup _ => rfl
  | .panel _ children => by
      have inside := Widget.countP_callsAll children
      have noWidget : [Call.endPanel].countP Call.isForWidget = 0 := rfl
      rw [Widget.calls, Widget.count, List.countP_cons_of_pos rfl, List.countP_append, inside,
        noWidget, Nat.add_zero, Nat.add_comm]

theorem Widget.countP_callsAll :
    (widgets : List Widget) →
    (Widget.callsAll widgets).countP Call.isForWidget = Widget.countAll widgets
  | [] => rfl
  | widget :: widgets => by
      rw [Widget.callsAll, Widget.countAll, List.countP_append, Widget.countP_calls widget,
        Widget.countP_callsAll widgets]

end

/--
The calls for a window begin with the only one that begins a window. In the others the
beginnings and ends of panels are properly nested, and replaying them with a stack of open
containers leaves the container of the window alone, with the window's children in order.
So a window is rebuilt from its calls, and no other window has the same ones. There is one
call for each widget beside the beginning of the window and the ends of panels.
-/
theorem calls_carry_the_tree (window : Window) :
    (∃ calls,
        window.calls =
            .beginWindow window.title window.width window.height window.layout :: calls ∧
          (∀ title width height layout, .beginWindow title width height layout ∉ calls) ∧
          Call.AreNested calls ∧
          replay [⟨window.layout, []⟩] calls =
            some [⟨window.layout, window.children.reverse⟩]) ∧
      Window.ofCalls? window.calls = some window ∧
      (∀ other : Window, other.calls = window.calls ↔ other = window) ∧
      window.calls.countP Call.isForWidget = window.widgetCount := by
  have nested := Widget.areNested_callsAll window.children
  refine ⟨⟨_, rfl, nested.beginWindow_not_mem, nested, replay_children _ _⟩,
    window.ofCalls?_calls, fun other => ⟨fun same => ?_, fun same => same ▸ rfl⟩,
    Widget.countP_callsAll window.children⟩
  have rebuilt : some other = some window := by
    rw [← other.ofCalls?_calls, same, window.ofCalls?_calls]
  exact Option.some.inj rebuilt

end WindowLang
