import WindowLang.Tree.Call

namespace WindowLang

/-!
# Rebuilding a window from its calls

Whoever receives the calls for a window can rebuild it with a stack of the
containers that are open: a call for a leaf adds it to the innermost container, a
panel is pushed when it begins, and is popped and added when it ends.
-/

/-- A container that is open, with its layout and the widgets it holds so far. -/
structure Container where
  layout : Layout
  /-- The widgets, the last one first. -/
  newest : List Widget

/-- The container with one more widget. -/
def Container.add (container : Container) (widget : Widget) : Container where
  layout := container.layout
  newest := widget :: container.newest

/-- The widgets of a container, in order. -/
def Container.children (container : Container) : List Widget :=
  container.newest.reverse

/-- The innermost of some open containers with one more widget. -/
def addInnermost (widget : Widget) : List Container → Option (List Container)
  | [] => none
  | innermost :: outer => some (innermost.add widget :: outer)

/-- The open containers after a call, the innermost one first. -/
def replayCall (containers : List Container) : Call → Option (List Container)
  | .beginWindow .. => none
  | .button caption => addInnermost (.button caption) containers
  | .label text => addInnermost (.label text) containers
  | .textField columns => addInnermost (.textField columns) containers
  | .radioGroup buttons => addInnermost (.radioGroup buttons) containers
  | .beginPanel layout => some (⟨layout, []⟩ :: containers)
  | .endPanel =>
      match containers with
      | [] => none
      | panel :: outer => addInnermost (.panel panel.layout panel.children) outer

/-- The open containers after some calls. -/
def replay (containers : List Container) : List Call → Option (List Container)
  | [] => some containers
  | call :: rest =>
      match replayCall containers call with
      | none => none
      | some next => replay next rest

/-- The window that some calls describe, if they begin one and leave no panel open. -/
def Window.ofCalls? : List Call → Option Window
  | .beginWindow title width height layout :: calls =>
      match replay [⟨layout, []⟩] calls with
      | some [window] => some ⟨title, width, height, layout, window.children⟩
      | _ => none
  | _ => none

/-- The call adds a widget that holds no others. -/
def Call.isLeaf : Call → Bool
  | .button _ => true
  | .label _ => true
  | .textField _ => true
  | .radioGroup _ => true
  | .beginWindow .. => false
  | .beginPanel _ => false
  | .endPanel => false

/-- The call is the one for a widget, where a panel is told by its beginning. -/
def Call.isForWidget : Call → Bool
  | .beginWindow .. => false
  | .endPanel => false
  | _ => true

/-- Calls for widgets in which the beginnings and the ends of panels are properly nested. -/
inductive Call.AreNested : List Call → Prop where
  | nil : AreNested []
  | leaf
      {call : Call}
      {rest : List Call}
      (isLeaf : call.isLeaf = true)
      (others : AreNested rest) :
      AreNested (call :: rest)
  | panel
      {layout : Layout}
      {inside rest : List Call}
      (within : AreNested inside)
      (others : AreNested rest) :
      AreNested (.beginPanel layout :: (inside ++ .endPanel :: rest))

end WindowLang
