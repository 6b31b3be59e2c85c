import WindowLang.Outline.Tree
import WindowLang.Proofs.Text.Quoting
import WindowLang.Text.Blank
import WindowLang.Tree.Normal

namespace WindowLang

/-!
# What a line of an outline tells

Each line of an outline has a caption: it says what stands there, with all its texts and
numbers. A caption's text is one line that begins with a letter and ends with a character
that is not blank, and it tells the caption, as long as a grid has both gaps or neither.
-/

/-- What stands on a line of an outline. -/
inductive Caption where
  | window (title : String) (width height : UInt32) (layout : Layout)
  | button (label : String)
  | label (text : String)
  | textField (columns : UInt32)
  | radioGroup
  | radio (label : String)
  | panel (layout : Layout)

/-- The text of a line with a caption. -/
def Caption.text : Caption → String
  | .window title width height layout => windowText title width height layout
  | .button caption => buttonText caption
  | .label text => labelText text
  | .textField columns => textFieldText columns
  | .radioGroup => radioGroupText
  | .radio caption => radioText caption
  | .panel layout => panelText layout

/-- A grid that the caption tells of has both gaps or neither. -/
def Caption.IsEven : Caption → Prop
  | .window _ _ _ layout => layout.IsEven
  | .panel layout => layout.IsEven
  | _ => True

/-! ## Extents and layouts -/

theorem extent_append_inj
    {rows columns otherRows otherColumns : UInt32}
    {rest other : List Char}
    (restStops : ∀ c ∈ rest.head?, c.isDigit = false)
    (otherStops : ∀ c ∈ other.head?, c.isDigit = false)
    (same :
      (extent rows columns).toList ++ rest = (extent otherRows otherColumns).toList ++ other) :
    rows = otherRows ∧ columns = otherColumns ∧ rest = other := by
  have cross (number : UInt32) (behind : List Char) :
      ∀ c ∈ ('x' :: ((Text.writeUnsigned number).toList ++ behind)).head?, c.isDigit = false := by
    simp
  have split (first second : UInt32) (behind : List Char) :
      (extent first second).toList ++ behind =
        (Text.writeUnsigned first).toList ++
          'x' :: ((Text.writeUnsigned second).toList ++ behind) := by
    simp [extent]
  rw [split, split] at same
  obtain ⟨rfl, behind⟩ := Text.writeUnsigned_append_inj (cross _ _) (cross _ _) same
  obtain ⟨rfl, rfl⟩ := Text.writeUnsigned_append_inj restStops otherStops (List.cons.inj behind).2
  exact ⟨rfl, rfl, rfl⟩

/-- The gaps of a grid as its description tells them. -/
def gapText : Option UInt32 → Option UInt32 → String
  | some horizontal, some vertical =>
      " gap " ++ Text.writeUnsigned horizontal ++ "," ++ Text.writeUnsigned vertical
  | _, _ => ""

theorem Layout.toList_describe_grid
    (rows columns : UInt32)
    (horizontal vertical : Option UInt32) :
    (Layout.grid rows columns horizontal vertical).describe.toList =
      "Grid ".toList ++ ((extent rows columns).toList ++ (gapText horizontal vertical).toList) := by
  cases horizontal with
  | none =>
      simp [Layout.describe, gapText]
  | some horizontal =>
      cases vertical with
      | none | some vertical =>
          simp [Layout.describe, gapText]

theorem gapText_injective
    {horizontal vertical otherHorizontal otherVertical : Option UInt32}
    (even : horizontal.isSome = vertical.isSome)
    (otherEven : otherHorizontal.isSome = otherVertical.isSome)
    (same :
      (gapText horizontal vertical).toList = (gapText otherHorizontal otherVertical).toList) :
    horizontal = otherHorizontal ∧ vertical = otherVertical := by
  match horizontal, vertical, otherHorizontal, otherVertical, even, otherEven with
  | none, none, none, none, _, _ =>
      exact ⟨rfl, rfl⟩
  | none, none, some _, some _, _, _ =>
      simp [gapText] at same
  | some _, some _, none, none, _, _ =>
      simp [gapText] at same
  | some horizontal, some vertical, some otherHorizontal, some otherVertical, _, _ =>
      have split (horizontal vertical : UInt32) :
          (gapText (some horizontal) (some vertical)).toList =
            " gap ".toList ++ ((Text.writeUnsigned horizontal).toList ++
              ',' :: (Text.writeUnsigned vertical).toList) := by
        simp [gapText]
      rw [split, split] at same
      obtain ⟨rfl, behind⟩ := Text.writeUnsigned_append_inj (by simp) (by simp)
        (List.append_cancel_left same)
      obtain rfl := Text.writeUnsigned_injective (List.cons.inj behind).2
      exact ⟨rfl, rfl⟩

theorem head?_gapText
    (horizontal vertical : Option UInt32) :
    ∀ c ∈ (gapText horizontal vertical).toList.head?, c.isDigit = false := by
  cases horizontal with
  | none =>
      simp [gapText]
  | some horizontal =>
      cases vertical with
      | none | some vertical =>
          simp [gapText]

/-- A layout with both gaps or neither is told by its description. -/
theorem Layout.describe_injective
    {layout other : Layout}
    (even : layout.IsEven)
    (otherEven : other.IsEven)
    (same : layout.describe.toList = other.describe.toList) :
    layout = other := by
  cases layout with
  | flow =>
      cases other with
      | flow =>
          rfl
      | grid rows columns horizontal vertical =>
          rw [Layout.toList_describe_grid] at same
          simp [Layout.describe] at same
  | grid rows columns horizontal vertical =>
      cases other with
      | flow =>
          rw [Layout.toList_describe_grid] at same
          simp [Layout.describe] at same
      | grid otherRows otherColumns otherHorizontal otherVertical =>
          rw [Layout.toList_describe_grid, Layout.toList_describe_grid] at same
          obtain ⟨rfl, rfl, sameGaps⟩ := extent_append_inj (head?_gapText _ _)
            (head?_gapText _ _) (List.append_cancel_left same)
          obtain ⟨rfl, rfl⟩ := gapText_injective even otherEven sameGaps
          rfl

/-! ## Captions -/

/-- The word in front of a caption's text. -/
def Caption.word : Caption → String
  | .window .. => "Window"
  | .button _ => "Button"
  | .label _ => "Label"
  | .textField _ => "TextField"
  | .radioGroup => "RadioGroup"
  | .radio _ => "Radio"
  | .panel _ => "Panel"

/-- What a caption's text tells behind its word. -/
def Caption.rest : Caption → String
  | .window title width height layout =>
      " " ++ Text.quote title ++ " " ++ extent width height ++ " [" ++ layout.describe ++ "]"
  | .button caption => " " ++ Text.quote caption
  | .label text => " " ++ Text.quote text
  | .textField columns => " (" ++ Text.writeUnsigned columns ++ " columns)"
  | .radioGroup => ""
  | .radio caption => " " ++ Text.quote caption
  | .panel layout => " [" ++ layout.describe ++ "]"

theorem Caption.toList_text (caption : Caption) :
    caption.text.toList = caption.word.toList ++ caption.rest.toList := by
  cases caption with
  | window title width height layout =>
      simp [Caption.text, windowText, Caption.word, Caption.rest]
  | button caption =>
      simp [Caption.text, buttonText, Caption.word, Caption.rest]
  | label text =>
      simp [Caption.text, labelText, Caption.word, Caption.rest]
  | textField columns =>
      simp [Caption.text, textFieldText, Caption.word, Caption.rest]
  | radioGroup =>
      simp [Caption.text, radioGroupText, Caption.word, Caption.rest]
  | radio caption =>
      simp [Caption.text, radioText, Caption.word, Caption.rest]
  | panel layout =>
      simp [Caption.text, panelText, Caption.word, Caption.rest]

theorem Caption.isAlpha_word (caption : Caption) :
    ∀ c ∈ caption.word.toList, c.isAlpha = true := by
  cases caption <;> simp [Caption.word]

theorem Caption.head?_rest (caption : Caption) :
    ∀ c ∈ caption.rest.toList.head?, c.isAlpha = false := by
  cases caption <;> simp [Caption.rest]

theorem quoted_injective
    {text other : String}
    (same : (" " ++ Text.quote text).toList = (" " ++ Text.quote other).toList) :
    text = other := by
  have sameQuoted : (Text.quote text).toList ++ [] = (Text.quote other).toList ++ [] := by
    simpa using same
  exact (Text.quote_append_inj sameQuoted).1

theorem bracketed_injective
    {layout other : Layout}
    (even : layout.IsEven)
    (otherEven : other.IsEven)
    (same : (" [" ++ layout.describe ++ "]").toList = (" [" ++ other.describe ++ "]").toList) :
    layout = other := by
  have sameDescription : layout.describe.toList = other.describe.toList := by
    simpa using same
  exact Layout.describe_injective even otherEven sameDescription

/-- With an even layout, a caption is told by its text. -/
theorem Caption.text_injective
    {caption other : Caption}
    (even : caption.IsEven)
    (otherEven : other.IsEven)
    (same : caption.text = other.text) :
    caption = other := by
  rw [← String.toList_inj, Caption.toList_text, Caption.toList_text] at same
  -- The words tell the sorts apart, so only captions of one sort have more to compare.
  obtain ⟨sameWord, sameRest⟩ := Text.append_inj_of_forall caption.isAlpha_word
    other.isAlpha_word caption.head?_rest other.head?_rest same
  cases caption with
  | window title width height layout =>
      cases other with
      | window otherTitle otherWidth otherHeight otherLayout =>
          have split (title : String) (width height : UInt32) (layout : Layout) :
              (Caption.window title width height layout).rest.toList =
                ' ' :: ((Text.quote title).toList ++
                  ' ' :: ((extent width height).toList ++
                    (" [" ++ layout.describe ++ "]").toList)) := by
            simp [Caption.rest]
          rw [split, split] at sameRest
          obtain ⟨rfl, behindTitle⟩ := Text.quote_append_inj (List.cons.inj sameRest).2
          obtain ⟨rfl, rfl, sameLayout⟩ :=
            extent_append_inj (by simp) (by simp) (List.cons.inj behindTitle).2
          rw [bracketed_injective even otherEven sameLayout]
      | _ =>
          simp [Caption.word] at sameWord
  | button text =>
      cases other with
      | button otherText =>
          rw [quoted_injective sameRest]
      | _ =>
          simp [Caption.word] at sameWord
  | label text =>
      cases other with
      | label otherText =>
          rw [quoted_injective sameRest]
      | _ =>
          simp [Caption.word] at sameWord
  | textField columns =>
      cases other with
      | textField otherColumns =>
          have sameNumber :
              (Text.writeUnsigned columns).toList = (Text.writeUnsigned otherColumns).toList := by
            simpa [Caption.rest] using sameRest
          rw [Text.writeUnsigned_injective sameNumber]
      | _ =>
          simp [Caption.word] at sameWord
  | radioGroup =>
      cases other with
      | radioGroup =>
          rfl
      | _ =>
          simp [Caption.word] at sameWord
  | radio text =>
      cases other with
      | radio otherText =>
          rw [quoted_injective sameRest]
      | _ =>
          simp [Caption.word] at sameWord
  | panel layout =>
      cases other with
      | panel otherLayout =>
          rw [bracketed_injective even otherEven sameRest]
      | _ =>
          simp [Caption.word] at sameWord

/-! ## The line of a caption -/

theorem feed_not_mem_extent (first second : UInt32) :
    '\n' ∉ (extent first second).toList := by
  simp [extent, Text.feed_not_mem_writeUnsigned]

theorem feed_not_mem_describe (layout : Layout) :
    '\n' ∉ layout.describe.toList := by
  cases layout with
  | flow =>
      simp [Layout.describe]
  | grid rows columns horizontal vertical =>
      rw [Layout.toList_describe_grid]
      cases horizontal with
      | none =>
          simp [gapText, feed_not_mem_extent]
      | some horizontal =>
          cases vertical with
          | none | some vertical =>
              simp [gapText, feed_not_mem_extent, Text.feed_not_mem_writeUnsigned]

/-- A caption stands on one line. -/
theorem Caption.feed_not_mem_text (caption : Caption) :
    '\n' ∉ caption.text.toList := by
  have noFeed : '\n' ∉ caption.word.toList := by
    intro among
    have isLetter := caption.isAlpha_word _ among
    revert isLetter
    decide
  rw [Caption.toList_text, List.mem_append]
  cases caption <;>
    simp [Caption.rest, noFeed, feed_not_mem_extent, feed_not_mem_describe,
      Text.feed_not_mem_quote, Text.feed_not_mem_writeUnsigned]

/-- A caption does not begin with the space that indents it. -/
theorem Caption.head?_text_ne (caption : Caption) :
    caption.text.toList.head? ≠ some ' ' := by
  rw [Caption.toList_text]
  cases caption <;> simp [Caption.word]

/-- A caption ends with a character that is not blank. -/
theorem Caption.getLast?_text (caption : Caption) :
    ∃ last, caption.text.toList.getLast? = some last ∧ Text.isBlank last = false := by
  cases caption with
  | window title width height layout =>
      exact ⟨']', by simp [List.getLast?_cons, text, windowText], by decide⟩
  | button label =>
      exact ⟨'"', by simp [List.getLast?_cons, text, buttonText, Text.toList_quote], by decide⟩
  | label content =>
      exact ⟨'"', by simp [List.getLast?_cons, text, labelText, Text.toList_quote], by decide⟩
  | textField columns =>
      exact ⟨')', by simp [List.getLast?_cons, text, textFieldText], by decide⟩
  | radioGroup =>
      exact ⟨'p', by simp [List.getLast?_cons, text, radioGroupText], by decide⟩
  | radio label =>
      exact ⟨'"', by simp [List.getLast?_cons, text, radioText, Text.toList_quote], by decide⟩
  | panel layout =>
      exact ⟨']', by simp [List.getLast?_cons, text, panelText], by decide⟩

end WindowLang
