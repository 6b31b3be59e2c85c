import WindowLang.Tree.Basic

namespace WindowLang

/-!
# Calls to a renderer

A renderer does not see the tree of a window. It is called once for the window
and once for each widget, in the order of the source, and a panel is bracketed by
two calls, so that a renderer can keep track of the containers that are open.
-/

/-- One call to a renderer. -/
inductive Call where
  /-- The window begins. -/
  | beginWindow (title : String) (width height : UInt32) (layout : Layout)
  /-- A button with its label. -/
  | button (label : String)
  /-- A line of text. -/
  | label (text : String)
  /-- An input field with its width in columns. -/
  | textField (columns : UInt32)
  /-- A group of radio buttons. -/
  | radioGroup (buttons : List String)
  /-- A panel begins. -/
  | beginPanel (layout : Layout)
  /-- The panel opened last ends. -/
  | endPanel
  deriving DecidableEq, Repr

mutual

/-- The calls for a widget. -/
def Widget.calls : Widget → List Call
  | .button text => [.button text]
  | .label text => [.label text]
  | .textField columns => [.textField columns]
  | .radioGroup buttons => [.radioGroup buttons]
  | .panel layout children =>
      .beginPanel layout :: (Widget.callsAll children ++ [.endPanel])

/-- The calls for some widgets, one after the other. -/
def Widget.callsAll : List Widget → List Call
  | [] => []
  | widget :: rest => widget.calls ++ Widget.callsAll rest

end

/-- The calls for a window. -/
def Window.calls (window : Window) : List Call :=
  .beginWindow window.title window.width window.height window.layout ::
    Widget.callsAll window.children

end WindowLang
