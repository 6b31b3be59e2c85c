import WindowLang.Text.Numeral
import WindowLang.Text.Quoted
import WindowLang.Tree.Call

namespace WindowLang

/-!
# Lines of an outline

An outline shows a window as indented text. Every container and every widget has
a line, and so has every button of a radio group; a line's depth is the number of
containers around it, a radio group counting as one for its buttons.
-/

/-- A line of an outline before it is indented. -/
structure Line where
  depth : Nat
  text : String
  deriving DecidableEq, Repr

/-- Width and height, or rows and columns. -/
def extent (first second : UInt32) : String :=
  Text.writeUnsigned first ++ "x" ++ Text.writeUnsigned second

/-- A layout in words; the gaps of a grid are told if it has both. -/
def Layout.describe : Layout → String
  | .flow => "Flow"
  | .grid rows columns (some horizontal) (some vertical) =>
      "Grid " ++ extent rows columns ++ " gap " ++
        Text.writeUnsigned horizontal ++ "," ++ Text.writeUnsigned vertical
  | .grid rows columns _ _ => "Grid " ++ extent rows columns

/-- The text of a window's line. -/
def windowText (title : String) (width height : UInt32) (layout : Layout) : String :=
  "Window " ++ Text.quote title ++ " " ++ extent width height ++ " [" ++ layout.describe ++ "]"

/-- The text of a button's line. -/
def buttonText (label : String) : String :=
  "Button " ++ Text.quote label

/-- The text of a label's line. -/
def labelText (text : String) : String :=
  "Label " ++ Text.quote text

/-- The text of a text field's line. -/
def textFieldText (columns : UInt32) : String :=
  "TextField (" ++ Text.writeUnsigned columns ++ " columns)"

/-- The text of a radio group's line. -/
def radioGroupText : String :=
  "RadioGroup"

/-- The text of a radio button's line. -/
def radioText (label : String) : String :=
  "Radio " ++ Text.quote label

/-- The text of a panel's line. -/
def panelText (layout : Layout) : String :=
  "Panel [" ++ layout.describe ++ "]"

/-- The lines that a call adds to an outline at a given depth. -/
def Call.lines (depth : Nat) : Call → List Line
  | .beginWindow title width height layout => [⟨depth, windowText title width height layout⟩]
  | .button caption => [⟨depth, buttonText caption⟩]
  | .label text => [⟨depth, labelText text⟩]
  | .textField columns => [⟨depth, textFieldText columns⟩]
  | .radioGroup buttons =>
      ⟨depth, radioGroupText⟩ :: buttons.map fun caption => ⟨depth + 1, radioText caption⟩
  | .beginPanel layout => [⟨depth, panelText layout⟩]
  | .endPanel => []

/-- The depth after a call; the end of a panel that never began changes nothing at depth zero. -/
def Call.depthAfter (depth : Nat) : Call → Nat
  | .beginWindow .. => depth + 1
  | .beginPanel _ => depth + 1
  | .endPanel => depth - 1
  | _ => depth

end WindowLang
