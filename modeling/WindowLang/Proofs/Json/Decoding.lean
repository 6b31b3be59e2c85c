import WindowLang.Json.Decode
import WindowLang.Proofs.Json.Reading

namespace WindowLang

/-!
# JSON tells windows and tokens

What was written as JSON is read back by the names of its sorts, so that either layout of the
text tells the window, or the token stream, that was written.
-/

/-! ## Values -/

theorem wordOfJson?_wordToJson (word : UInt32) :
    wordOfJson? (wordToJson word) = some word :=
  Text.word?_eq_some_iff.2 rfl

theorem gapOfJson?_gapToJson (gap : Option UInt32) :
    gapOfJson? (gapToJson gap) = some gap := by
  cases gap with
  | none =>
      rfl
  | some gap =>
      exact congrArg (Option.map some) (wordOfJson?_wordToJson gap)

theorem Layout.ofJson?_toJson (layout : Layout) :
    Layout.ofJson? layout.toJson = some layout := by
  cases layout with
  | flow =>
      rfl
  | grid rows columns horizontal vertical =>
      simp [Layout.toJson, Layout.ofJson?, wordOfJson?_wordToJson, gapOfJson?_gapToJson]

/-- Values that are read back one by one are read back together. -/
theorem mapM_map_of_forall
    {α : Type}
    {write : α → Json}
    {read : Json → Option α}
    (readBack : ∀ a, read (write a) = some a)
    (values : List α) :
    (values.map write).mapM read = some values := by
  induction values with
  | nil =>
      rfl
  | cons value values inductionHypothesis =>
      simp [readBack, inductionHypothesis]

mutual

/-- A widget is read back by the name of its sort. -/
theorem Widget.ofJson?_toJson :
    (widget : Widget) →
    Widget.ofJson? widget.toJson = some widget
  | .button _ => rfl
  | .label _ => rfl
  | .textField columns =>
      congrArg (Option.map Widget.textField) (wordOfJson?_wordToJson columns)
  | .radioGroup buttons => by
      have one (caption : String) : stringOfJson? (.string caption) = some caption := rfl
      have all : (buttons.map Json.string).mapM stringOfJson? = some buttons :=
        mapM_map_of_forall one buttons
      simp [Widget.toJson, Widget.ofJson?, all]
  | .panel layout children => by
      simp [Widget.toJson, Widget.ofJson?, Layout.ofJson?_toJson,
        Widget.ofJsonAll?_toJsonAll children]

/-- Widgets are read back one by one. -/
theorem Widget.ofJsonAll?_toJsonAll :
    (widgets : List Widget) →
    Widget.ofJsonAll? (Widget.toJsonAll widgets) = some widgets
  | [] => rfl
  | widget :: widgets => by
      simp [Widget.toJsonAll, Widget.ofJsonAll?, Widget.ofJson?_toJson widget,
        Widget.ofJsonAll?_toJsonAll widgets]

end

theorem Window.ofJson?_toJson (window : Window) :
    Window.ofJson? window.toJson = some window := by
  simp [Window.toJson, Window.ofJson?, wordOfJson?_wordToJson, Layout.ofJson?_toJson,
    Widget.ofJsonAll?_toJsonAll]

theorem Token.ofJson?_toJson (token : Token) :
    Token.ofJson? token.toJson = some token := by
  simp [Token.toJson, Token.ofJson?]

theorem tokensOfJson?_tokensToJson (tokens : List Token) :
    tokensOfJson? (tokensToJson tokens) = some tokens :=
  mapM_map_of_forall Token.ofJson?_toJson tokens

/-! ## Texts -/

/-- What is written as JSON can be told from the text in either layout. -/
structure Json.IsLossless
    {α : Type}
    (write : α → Json)
    (read : Json → Option α) :
    Prop where
  /-- It is read from the text without white space. -/
  read_compact : ∀ a, (ofText? (write a).compact).bind read = some a
  /-- It is read from the indented text. -/
  read_pretty : ∀ a, (ofText? ((write a).pretty 0)).bind read = some a
  /-- The indented text without the white space outside its strings is the other one. -/
  squeeze_pretty : ∀ a, squeeze false ((write a).pretty 0).toList = (write a).compact.toList
  /-- The text without white space is the same only for the same. -/
  compact_inj : ∀ a b, (write a).compact = (write b).compact ↔ a = b
  /-- The indented text is the same only for the same. -/
  pretty_inj : ∀ a b, (write a).pretty 0 = (write b).pretty 0 ↔ a = b

/-- What is told by each of its texts is the same where a text is the same. -/
theorem inj_of_leftInverse
    {α : Type}
    {text : α → String}
    (told : String → Option α)
    (tells : ∀ a, told (text a) = some a)
    (a b : α) :
    text a = text b ↔ a = b := by
  refine ⟨fun same => ?_, fun same => by rw [same]⟩
  have toldBack := tells a
  rw [same, tells b] at toldBack
  exact (Option.some.inj toldBack).symm

/-- What is read back from its value is told by the texts of the value. -/
theorem Json.isLossless_of_readBack
    {α : Type}
    {write : α → Json}
    {read : Json → Option α}
    (readBack : ∀ a, read (write a) = some a) :
    IsLossless write read := by
  let told (text : String) : Option α := (ofText? text).bind read
  have compact (a : α) : told (write a).compact = some a := by
    simp only [told, ofText?_of_spells (spells_compact _)]
    exact readBack a
  have pretty (a : α) : told ((write a).pretty 0) = some a := by
    simp only [told, ofText?_of_spells (spells_pretty _ 0)]
    exact readBack a
  exact ⟨compact, pretty, fun a => Json.squeeze_pretty (write a) 0,
    inj_of_leftInverse told compact, inj_of_leftInverse told pretty⟩

/--
Windows and token streams lose nothing as JSON: each is read back from the text in either
layout, whatever its strings hold, and the layouts differ in white space only.
-/
theorem json_is_lossless :
    Json.IsLossless Window.toJson Window.ofJson? ∧
      Json.IsLossless tokensToJson tokensOfJson? := by
  constructor
  · exact Json.isLossless_of_readBack Window.ofJson?_toJson
  · exact Json.isLossless_of_readBack tokensOfJson?_tokensToJson

/-- A grid with one gap, a control character in a string, and an empty array. -/
example :
    (Layout.grid 1 2 none (some 0)).toJson.compact =
        "\x7b\"kind\":\"Grid\",\"rows\":1,\"cols\":2,\"hgap\":null,\"vgap\":0\x7d" ∧
      (Widget.radioGroup []).toJson.pretty 0 =
        "\x7b\n  \"kind\": \"RadioGroup\",\n  \"buttons\": []\n\x7d" ∧
      (Token.mk .string "\x01é\"").toJson.compact =
        "\x7b\"kind\":\"String\",\"lexeme\":\"\\u0001é\\\"\"\x7d" := by
  decide +kernel

end WindowLang
