import WindowLang.Token.Normal
import WindowLang.Tree.Basic

namespace WindowLang

/-!
# Windows that have a source

A window can be described in the language if its texts are normal, its grids have
both gaps or neither, and its panels are not nested deeper than a limit.
-/

/-- A grid has both gaps or neither. -/
def Layout.IsEven : Layout → Prop
  | .flow => True
  | .grid _ _ horizontal vertical => horizontal.isSome = vertical.isSome

/-- The texts of a widget itself. -/
def Widget.texts : Widget → List String
  | .button caption => [caption]
  | .label text => [text]
  | .textField _ => []
  | .radioGroup buttons => buttons
  | .panel _ _ => []

/-- The layout of a widget, if it is a container. -/
def Widget.layout? : Widget → Option Layout
  | .panel layout _ => some layout
  | _ => none

/-- All texts of a window. -/
def Window.texts (window : Window) : List String :=
  window.title :: window.widgets.flatMap Widget.texts

/-- All layouts of a window. -/
def Window.layouts (window : Window) : List Layout :=
  window.layout :: window.widgets.filterMap Widget.layout?

mutual

/-- The greatest number of panels open at once in a widget's tree. -/
def Widget.nesting : Widget → Nat
  | .panel _ children => Widget.nestingAll children + 1
  | .button _ => 0
  | .label _ => 0
  | .textField _ => 0
  | .radioGroup _ => 0

/-- The greatest number of panels open at once in the trees of some widgets. -/
def Widget.nestingAll : List Widget → Nat
  | [] => 0
  | widget :: rest => max widget.nesting (Widget.nestingAll rest)

end

/-- The greatest number of panels open at once in a window. -/
def Window.nesting (window : Window) : Nat :=
  Widget.nestingAll window.children

/-- A window that can be described with at most so many panels open at once. -/
structure Window.IsNormal (limit : Nat) (window : Window) : Prop where
  texts : ∀ text ∈ window.texts, WindowLang.IsNormal text
  layouts : ∀ layout ∈ window.layouts, layout.IsEven
  nesting : window.nesting ≤ limit

end WindowLang
