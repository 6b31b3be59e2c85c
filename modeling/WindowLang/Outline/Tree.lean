import WindowLang.Outline.Line

namespace WindowLang

/-!
# The lines of a window's tree

The lines of an outline can be read off the tree itself, without any calls: a
widget stands one level deeper than its container, and the buttons of a radio
group one level deeper than the group.
-/

mutual

/-- The lines of a widget's tree at a given depth. -/
def Widget.outline (depth : Nat) : Widget → List Line
  | .button caption => [⟨depth, buttonText caption⟩]
  | .label text => [⟨depth, labelText text⟩]
  | .textField columns => [⟨depth, textFieldText columns⟩]
  | .radioGroup buttons =>
      ⟨depth, radioGroupText⟩ :: buttons.map fun caption => ⟨depth + 1, radioText caption⟩
  | .panel layout children =>
      ⟨depth, panelText layout⟩ :: Widget.outlineAll (depth + 1) children

/-- The lines of the trees of some widgets at a given depth. -/
def Widget.outlineAll (depth : Nat) : List Widget → List Line
  | [] => []
  | widget :: rest => widget.outline depth ++ Widget.outlineAll depth rest

end

/-- The lines of a window's tree. -/
def Window.outline (window : Window) : List Line :=
  ⟨0, windowText window.title window.width window.height window.layout⟩ ::
    Widget.outlineAll 1 window.children

/-- The radio buttons of a widget itself. -/
def Widget.buttons : Widget → List String
  | .radioGroup buttons => buttons
  | _ => []

/-- All radio buttons of a window. -/
def Window.buttons (window : Window) : List String :=
  window.widgets.flatMap Widget.buttons

end WindowLang
