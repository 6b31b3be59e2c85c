import WindowLang.Json.Basic
import WindowLang.Tree.Basic

namespace WindowLang

/-!
# Windows as JSON

Layouts and widgets are objects whose first field names their sort. The gaps of a
grid that has none are null.
-/

/-- An unsigned integer as a JSON value. -/
def wordToJson (word : UInt32) : Json :=
  .number word.toNat

/-- A gap of a grid as a JSON value. -/
def gapToJson : Option UInt32 → Json
  | none => .null
  | some gap => wordToJson gap

/-- A layout as a JSON value. -/
def Layout.toJson : Layout → Json
  | .flow => .object [("kind", .string "Flow")]
  | .grid rows columns horizontal vertical =>
      .object [
        ("kind", .string "Grid"),
        ("rows", wordToJson rows),
        ("cols", wordToJson columns),
        ("hgap", gapToJson horizontal),
        ("vgap", gapToJson vertical)
      ]

mutual

/-- A widget as a JSON value. -/
def Widget.toJson : Widget → Json
  | .button text =>
      .object [("kind", .string "Button"), ("label", .string text)]
  | .label text =>
      .object [("kind", .string "Label"), ("text", .string text)]
  | .textField columns =>
      .object [("kind", .string "TextField"), ("columns", wordToJson columns)]
  | .radioGroup buttons =>
      .object [("kind", .string "RadioGroup"), ("buttons", .array (buttons.map .string))]
  | .panel layout children =>
      .object [
        ("kind", .string "Panel"),
        ("layout", layout.toJson),
        ("children", .array (Widget.toJsonAll children))
      ]

/-- Some widgets as JSON values. -/
def Widget.toJsonAll : List Widget → List Json
  | [] => []
  | widget :: rest => widget.toJson :: Widget.toJsonAll rest

end

/-- A window as a JSON value. -/
def Window.toJson (window : Window) : Json :=
  .object [
    ("title", .string window.title),
    ("width", wordToJson window.width),
    ("height", wordToJson window.height),
    ("layout", window.layout.toJson),
    ("children", .array (Widget.toJsonAll window.children))
  ]

end WindowLang
