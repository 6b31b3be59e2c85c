namespace WindowLang

/-!
# Windows and their widgets

A window holds a list of widgets, and a panel holds one of its own, so the
widgets of a window form a tree whose inner nodes are panels. Sizes, gaps and
columns are unsigned 32-bit words.
-/

/-- How a container arranges its widgets. -/
inductive Layout where
  /-- One after the other. -/
  | flow
  /-- In rows and columns, with gaps between them if they are given. -/
  | grid
      (rows : UInt32)
      (columns : UInt32)
      (horizontalGap : Option UInt32)
      (verticalGap : Option UInt32)
  deriving DecidableEq, Repr

/-- A widget of a window. -/
inductive Widget where
  /-- A button with its label. -/
  | button (label : String)
  /-- A line of text. -/
  | label (text : String)
  /-- An input field with its width in columns. -/
  | textField (columns : UInt32)
  /-- Radio buttons, of which one can be chosen. -/
  | radioGroup (buttons : List String)
  /-- A container inside the window. -/
  | panel (layout : Layout) (children : List Widget)
  deriving Repr

/-- A window with the widgets that it holds. -/
structure Window where
  title : String
  width : UInt32
  height : UInt32
  layout : Layout
  children : List Widget
  deriving Repr

/-- The name of a widget's sort. -/
def Widget.sort : Widget → String
  | .button .. => "Button"
  | .label .. => "Label"
  | .textField .. => "TextField"
  | .radioGroup .. => "RadioGroup"
  | .panel .. => "Panel"

/-- The widgets directly inside a widget. -/
def Widget.children : Widget → List Widget
  | .panel _ children => children
  | _ => []

mutual

/-- The number of widgets in a widget's tree, itself included. -/
def Widget.count : Widget → Nat
  | .button _ => 1
  | .label _ => 1
  | .textField _ => 1
  | .radioGroup _ => 1
  | .panel _ children => 1 + Widget.countAll children

/-- The number of widgets in the trees of some widgets. -/
def Widget.countAll : List Widget → Nat
  | [] => 0
  | widget :: rest => widget.count + Widget.countAll rest

end

/-- The number of widgets in a window, panels included. -/
def Window.widgetCount (window : Window) : Nat :=
  Widget.countAll window.children

mutual

/-- A widget and all widgets inside it, in the order of the source. -/
def Widget.preorder : Widget → List Widget
  | .button text => [.button text]
  | .label text => [.label text]
  | .textField columns => [.textField columns]
  | .radioGroup buttons => [.radioGroup buttons]
  | .panel layout children => .panel layout children :: Widget.preorderAll children

/-- Some widgets and all widgets inside them, in the order of the source. -/
def Widget.preorderAll : List Widget → List Widget
  | [] => []
  | widget :: rest => widget.preorder ++ Widget.preorderAll rest

end

/-- All widgets of a window, in the order of the source. -/
def Window.widgets (window : Window) : List Widget :=
  Widget.preorderAll window.children

end WindowLang
