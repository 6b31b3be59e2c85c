import WindowLang.Json.Token
import WindowLang.Json.Window
import WindowLang.Text.Numeral

namespace WindowLang

/-!
# Windows and tokens from JSON

What was written as JSON is read back by the name of its sort.
-/

/-- The unsigned integer that a value holds. -/
def wordOfJson? : Json → Option UInt32
  | .number value => Text.word? value
  | _ => none

/-- The gap of a grid that a value holds. -/
def gapOfJson? : Json → Option (Option UInt32)
  | .null => some none
  | value => (wordOfJson? value).map some

/-- The string that a value holds. -/
def stringOfJson? : Json → Option String
  | .string text => some text
  | _ => none

/-- The layout that a value describes. -/
def Layout.ofJson? : Json → Option Layout
  | .object [("kind", .string sort)] =>
      if sort = "Flow" then some .flow else none
  | .object
      [("kind", .string sort), ("rows", rows), ("cols", columns), ("hgap", horizontal),
        ("vgap", vertical)] => do
      if sort = "Grid" then
        return .grid (← wordOfJson? rows) (← wordOfJson? columns)
          (← gapOfJson? horizontal) (← gapOfJson? vertical)
      else
        none
  | _ => none

mutual

/-- The widget that a value describes. -/
def Widget.ofJson? : Json → Option Widget
  | .object [("kind", .string sort), ("label", .string caption)] =>
      if sort = "Button" then some (.button caption) else none
  | .object [("kind", .string sort), ("text", .string text)] =>
      if sort = "Label" then some (.label text) else none
  | .object [("kind", .string sort), ("columns", columns)] =>
      if sort = "TextField" then (wordOfJson? columns).map .textField else none
  | .object [("kind", .string sort), ("buttons", .array buttons)] =>
      if sort = "RadioGroup" then (buttons.mapM stringOfJson?).map .radioGroup else none
  | .object [("kind", .string sort), ("layout", layout), ("children", .array children)] =>
      if sort = "Panel" then
        match Layout.ofJson? layout, Widget.ofJsonAll? children with
        | some layout, some children => some (.panel layout children)
        | _, _ => none
      else
        none
  | _ => none

/-- The widgets that some values describe. -/
def Widget.ofJsonAll? : List Json → Option (List Widget)
  | [] => some []
  | value :: rest =>
      match Widget.ofJson? value, Widget.ofJsonAll? rest with
      | some widget, some widgets => some (widget :: widgets)
      | _, _ => none

end

/-- The window that a value describes. -/
def Window.ofJson? : Json → Option Window
  | .object
      [("title", .string title), ("width", width), ("height", height), ("layout", layout),
        ("children", .array children)] => do
      return {
        title := title
        width := ← wordOfJson? width
        height := ← wordOfJson? height
        layout := ← Layout.ofJson? layout
        children := ← Widget.ofJsonAll? children
      }
  | _ => none

/-- The token that a value describes. -/
def Token.ofJson? : Json → Option Token
  | .object [("kind", .string name), ("lexeme", .string lexeme)] =>
      (Kind.ofName? name).map fun kind => ⟨kind, lexeme⟩
  | _ => none

/-- The token stream that a value describes. -/
def tokensOfJson? : Json → Option (List Token)
  | .array values => values.mapM Token.ofJson?
  | _ => none

end WindowLang
