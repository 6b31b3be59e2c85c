import Mathlib.Tactic.SplitIfs
import WindowLang.Json.Spelling

namespace WindowLang.Json

/-!
# The two layouts of JSON text

Both layouts of a value are spellings of it, and every spelling without the white space
outside its strings is the compact one. So the layouts differ in white space only.
-/

/-- What holds of a container if it holds of its members holds of every value. -/
@[elab_as_elim]
theorem induction
    {motive : Json → Prop}
    (null : motive .null)
    (bool : (value : Bool) → motive (.bool value))
    (number : (value : Nat) → motive (.number value))
    (string : (text : String) → motive (.string text))
    (array : (items : List Json) → (∀ item ∈ items, motive item) → motive (.array items))
    (object :
      (fields : List (String × Json)) →
        (∀ field ∈ fields, motive field.2) → motive (.object fields))
    (value : Json) :
    motive value := by
  refine @Json.rec motive (fun items => ∀ item ∈ items, motive item)
    (fun fields => ∀ field ∈ fields, motive field.2) (fun field => motive field.2)
    null bool number string array object ?_ ?_ ?_ ?_ ?_ value
  · exact List.forall_mem_nil _
  · intro item items holds others
    exact List.forall_mem_cons.2 ⟨holds, others⟩
  · exact List.forall_mem_nil _
  · intro field fields holds others
    exact List.forall_mem_cons.2 ⟨holds, others⟩
  · intro name value holds
    exact holds

/-! ## Layouts as lists of members -/

theorem isGap_nil : IsGap [] :=
  List.forall_mem_nil _

theorem isGap_newLine (depth : Nat) :
    IsGap (newLine depth).toList := by
  intro c among
  have feedOrSpace : c = '\n' ∨ c = ' ' := by
    simp only [newLine, String.toList_append, String.toList_ofList, List.mem_append,
      List.mem_replicate] at among
    exact among.imp List.mem_singleton.1 And.right
  rcases feedOrSpace with rfl | rfl
  · rfl
  · rfl

theorem compactItems_eq (items : List Json) :
    compactItems items = items.map compact := by
  induction items with
  | nil =>
      rfl
  | cons item items inductionHypothesis =>
      rw [compactItems, inductionHypothesis, List.map_cons]

/-- A field without white space. -/
def compactField (field : String × Json) : String :=
  writeString field.1 ++ ":" ++ field.2.compact

theorem compactFields_eq (fields : List (String × Json)) :
    compactFields fields = fields.map compactField := by
  induction fields with
  | nil =>
      rfl
  | cons field fields inductionHypothesis =>
      rw [compactFields, inductionHypothesis, List.map_cons]
      rfl

theorem prettyItems_eq (depth : Nat) (items : List Json) :
    prettyItems depth items = items.map (pretty depth) := by
  induction items with
  | nil =>
      rfl
  | cons item items inductionHypothesis =>
      rw [prettyItems, inductionHypothesis, List.map_cons]

/-- A field with a space behind its colon. -/
def prettyField (depth : Nat) (field : String × Json) : String :=
  writeString field.1 ++ ": " ++ field.2.pretty depth

theorem prettyFields_eq (depth : Nat) (fields : List (String × Json)) :
    prettyFields depth fields = fields.map (prettyField depth) := by
  induction fields with
  | nil =>
      rfl
  | cons field fields inductionHypothesis =>
      rw [prettyFields, inductionHypothesis, List.map_cons]
      rfl

/-! ## Both layouts are spellings -/

section Containers

variable
  {α : Type}
  {opening closing : Char}
  {spells : α → List Char → Prop}
  {members : List α}
  {write : α → String}

/-- Members with a gap in front of each are listed behind the first gap. -/
theorem Listed.of_intercalate
    (closing : Char)
    {lead last : List Char}
    (nonempty : members ≠ [])
    (each : ∀ member ∈ members, spells member (write member).toList)
    (isGapLead : IsGap lead)
    (isGapLast : IsGap last) :
    ∃ text,
      Listed closing spells members text ∧
        [','].intercalate (members.map fun member => lead ++ (write member).toList) ++
            (last ++ [closing]) =
          lead ++ text := by
  induction members with
  | nil =>
      exact absurd rfl nonempty
  | cons member members inductionHypothesis =>
      obtain ⟨first, others⟩ := List.forall_mem_cons.1 each
      cases members with
      | nil =>
          exact ⟨_, .last first isGapLast, by simp⟩
      | cons second members =>
          obtain ⟨text, listed, same⟩ := inductionHypothesis (List.cons_ne_nil _ _) others
          rw [List.map_cons] at same
          refine ⟨_, .more first isGap_nil isGapLead listed, ?_⟩
          rw [List.map_cons, List.map_cons, List.intercalate_cons_cons, List.append_assoc, same]
          simp

/-- Members without white space, between brackets. -/
theorem Enclosed.of_compact
    (each : ∀ member ∈ members, spells member (write member).toList) :
    Enclosed opening closing spells members
      (.singleton opening ++ ",".intercalate (members.map write) ++ .singleton closing :
        String).toList := by
  by_cases none : members = []
  · subst none
    simpa using Enclosed.empty isGap_nil
  · obtain ⟨text, listed, same⟩ :=
      Listed.of_intercalate closing none each isGap_nil isGap_nil
    have enclosed : Enclosed opening closing spells members _ := .filled isGap_nil listed
    rw [← same] at enclosed
    simpa [String.toList_intercalate, Function.comp_def] using enclosed

/-- Members on lines of their own, between brackets. -/
theorem Enclosed.of_block
    (each : ∀ member ∈ members, spells member (write member).toList)
    (depth : Nat) :
    Enclosed opening closing spells members
      (block (.singleton opening) (.singleton closing) depth (members.map write)).toList := by
  by_cases none : members = []
  · subst none
    simpa [block] using Enclosed.empty isGap_nil
  · obtain ⟨text, listed, same⟩ := Listed.of_intercalate closing none each
      (isGap_newLine (depth + 1)) (isGap_newLine depth)
    have enclosed : Enclosed opening closing spells members _ :=
      .filled (isGap_newLine (depth + 1)) listed
    rw [← same] at enclosed
    simpa [block, none, String.toList_intercalate, Function.comp_def] using enclosed

end Containers

/-- The text of a value without white space spells it. -/
theorem spells_compact (value : Json) :
    Spells value value.compact.toList := by
  induction value using Json.induction with
  | null => exact .null
  | bool value => exact .bool value
  | number value => exact .number value
  | string text => exact .string text
  | array items inductionHypothesis =>
      have enclosed : Enclosed '[' ']' Spells items _ := .of_compact inductionHypothesis
      rw [compact, compactItems_eq]
      exact .array enclosed
  | object fields inductionHypothesis =>
      have each : ∀ field ∈ fields, SpellsField Spells field (compactField field).toList := by
        intro field among
        have spelled : SpellsField Spells (field.1, field.2) _ :=
          .field isGap_nil isGap_nil (inductionHypothesis field among)
        simpa [compactField] using spelled
      have enclosed : Enclosed '\x7b' '\x7d' (SpellsField Spells) fields _ := .of_compact each
      rw [compact, compactFields_eq]
      exact .object enclosed

/-- The indented text of a value spells it, wherever it stands. -/
theorem spells_pretty
    (value : Json)
    (depth : Nat) :
    Spells value (value.pretty depth).toList := by
  induction value using Json.induction generalizing depth with
  | null => exact .null
  | bool value => exact .bool value
  | number value => exact .number value
  | string text => exact .string text
  | array items inductionHypothesis =>
      have each : ∀ item ∈ items, Spells item (item.pretty (depth + 1)).toList :=
        fun item among => inductionHypothesis item among (depth + 1)
      have enclosed : Enclosed '[' ']' Spells items _ := .of_block each depth
      rw [pretty, prettyItems_eq]
      exact .array enclosed
  | object fields inductionHypothesis =>
      have isGapSpace : IsGap [' '] := by
        simp [IsGap, isGap]
      have each :
          ∀ field ∈ fields, SpellsField Spells field (prettyField (depth + 1) field).toList := by
        intro field among
        have spelled : SpellsField Spells (field.1, field.2) _ :=
          .field isGap_nil isGapSpace (inductionHypothesis field among (depth + 1))
        simpa [prettyField] using spelled
      have enclosed : Enclosed '\x7b' '\x7d' (SpellsField Spells) fields _ := .of_block each depth
      rw [pretty, prettyFields_eq]
      exact .object enclosed

/-! ## Spellings without white space -/

/-- Without the white space outside its strings the text is another one, whatever follows it. -/
def SqueezesTo (text short : List Char) : Prop :=
  ∀ rest, squeeze false (text ++ rest) = short ++ squeeze false rest

theorem SqueezesTo.append
    {first firstShort second secondShort : List Char}
    (squeezesFirst : SqueezesTo first firstShort)
    (squeezesSecond : SqueezesTo second secondShort) :
    SqueezesTo (first ++ second) (firstShort ++ secondShort) := by
  intro rest
  rw [List.append_assoc, squeezesFirst, squeezesSecond, List.append_assoc]

/-- Outside of strings the character is no white space and begins no string. -/
def IsSolid (c : Char) : Prop :=
  isGap c = false ∧ c ≠ '"' ∧ c ≠ '\\'

instance : DecidablePred IsSolid :=
  fun _ => inferInstanceAs (Decidable (_ ∧ _ ∧ _))

/-- Letters and digits are neither white space nor marks. -/
theorem isSolid_of_isAlphanum
    {c : Char}
    (alphanumeric : c.isAlphanum = true) :
    IsSolid c := by
  have differs (other : Char) (noLetter : other.isAlphanum = false) : c ≠ other := by
    rintro rfl
    rw [alphanumeric] at noLetter
    cases noLetter
  refine ⟨?_, differs '"' rfl, differs '\\' rfl⟩
  simp [isGap, differs ' ' rfl, differs '\n' rfl, differs '\r' rfl, differs '\t' rfl]

theorem squeeze_cons_of_isSolid
    {c : Char}
    (solid : IsSolid c)
    (rest : List Char) :
    squeeze false (c :: rest) = c :: squeeze false rest := by
  obtain ⟨noGap, noMark, noSlash⟩ := solid
  rw [squeeze]
  · simp [noGap]
  · exact fun _ _ slash => absurd slash noSlash
  · exact noMark

theorem squeezesTo_of_isSolid
    {text : List Char}
    (solid : ∀ c ∈ text, IsSolid c) :
    SqueezesTo text text := by
  intro rest
  induction text with
  | nil =>
      rfl
  | cons c text inductionHypothesis =>
      obtain ⟨first, others⟩ := List.forall_mem_cons.1 solid
      rw [List.cons_append, squeeze_cons_of_isSolid first, inductionHypothesis others,
        List.cons_append]

/-- Nothing is left of white space. -/
theorem IsGap.squeezesTo
    {gap : List Char}
    (white : IsGap gap) :
    SqueezesTo gap [] := by
  intro rest
  induction gap with
  | nil =>
      rfl
  | cons c gap inductionHypothesis =>
      obtain ⟨first, others⟩ := List.forall_mem_cons.1 white
      have noMark : c ≠ '"' := by
        rintro rfl
        cases first
      have noSlash : c ≠ '\\' := by
        rintro rfl
        cases first
      rw [List.cons_append, squeeze]
      · simpa [first] using inductionHypothesis others
      · exact fun _ _ slash => absurd slash noSlash
      · exact noMark

/-- Within a string a character stands for itself if it does not end it and escapes nothing. -/
theorem squeeze_cons_inside
    {c : Char}
    (noMark : c ≠ '"')
    (noSlash : c ≠ '\\')
    (rest : List Char) :
    squeeze true (c :: rest) = c :: squeeze true rest := by
  rw [squeeze]
  · rfl
  · exact fun _ _ slash => absurd slash noSlash
  · exact noMark

theorem isAlphanum_digitChar :
    ∀ digit < 16, (Nat.digitChar digit).isAlphanum = true := by
  decide

/-- What writes a character of a string is kept. -/
theorem squeeze_escapeChar
    (c : Char)
    (rest : List Char) :
    squeeze true (escapeChar c ++ rest) = escapeChar c ++ squeeze true rest := by
  unfold escapeChar
  split_ifs with mark slash backspace formFeed feed carriage tab control
  · rfl
  · rfl
  · rfl
  · rfl
  · rfl
  · rfl
  · rfl
  · have keepsDigit (digit : Nat) (small : digit < 16) (rest : List Char) :
        squeeze true (Nat.digitChar digit :: rest) = Nat.digitChar digit :: squeeze true rest := by
      obtain ⟨_, noMark, noSlash⟩ := isSolid_of_isAlphanum (isAlphanum_digitChar digit small)
      exact squeeze_cons_inside noMark noSlash rest
    have high := keepsDigit (c.toNat / 16) (by omega) (Nat.digitChar (c.toNat % 16) :: rest)
    have low := keepsDigit (c.toNat % 16) (by omega) rest
    change '\\' :: 'u' :: squeeze true ('0' :: '0' :: (controlDigits c ++ rest)) = _
    rw [squeeze_cons_inside (by decide) (by decide), squeeze_cons_inside (by decide) (by decide)]
    simp only [controlDigits, List.cons_append, List.nil_append, high, low]
  · exact squeeze_cons_inside mark slash rest

theorem squeeze_characters
    (characters rest : List Char) :
    squeeze true (characters.flatMap escapeChar ++ '"' :: rest) =
      characters.flatMap escapeChar ++ '"' :: squeeze false rest := by
  induction characters with
  | nil =>
      rfl
  | cons c characters inductionHypothesis =>
      rw [List.flatMap_cons, List.append_assoc, squeeze_escapeChar, inductionHypothesis,
        List.append_assoc]

theorem toList_writeString (text : String) :
    (writeString text).toList = '"' :: text.toList.flatMap escapeChar ++ ['"'] := by
  rw [writeString, String.toList_ofList]

/-- A string keeps its white space. -/
theorem squeezesTo_writeString (text : String) :
    SqueezesTo (writeString text).toList (writeString text).toList := by
  intro rest
  have characters := squeeze_characters text.toList rest
  rw [toList_writeString]
  simpa [squeeze] using characters

theorem toList_toString (number : Nat) :
    (toString number).toList = Nat.toDigits 10 number := by
  rw [Nat.toString_eq_ofList_toDigits, String.toList_ofList]

theorem isDigit_of_mem_toDigits (number : Nat) :
    ∀ c ∈ Nat.toDigits 10 number, c.isDigit = true :=
  fun _ among => Nat.isDigit_of_mem_toDigits (by decide) (by decide) among

theorem isSolid_of_isDigit
    {c : Char}
    (isDigit : c.isDigit = true) :
    IsSolid c :=
  isSolid_of_isAlphanum (by simp [Char.isAlphanum, isDigit])

theorem squeezesTo_number (number : Nat) :
    SqueezesTo (toString number).toList (toString number).toList := by
  rw [toList_toString]
  exact squeezesTo_of_isSolid fun c among =>
    isSolid_of_isDigit (isDigit_of_mem_toDigits number c among)

section Containers

variable
  {α : Type}
  {opening closing : Char}
  {spells : α → List Char → Prop}
  {members : List α}
  {text : List Char}
  {short : α → String}

theorem squeezesTo_singleton
    {c : Char}
    (solid : IsSolid c) :
    SqueezesTo [c] [c] :=
  squeezesTo_of_isSolid (by simpa using solid)

/-- Listed members without white space have only commas between them. -/
theorem Listed.squeezesTo
    (listed : Listed closing spells members text)
    (each :
      ∀ member ∈ members, ∀ text, spells member text → SqueezesTo text (short member).toList)
    (solid : IsSolid closing) :
    SqueezesTo text ((",".intercalate (members.map short)).toList ++ [closing]) := by
  induction listed with
  | @last member text gap spelled behind =>
      have first := each member List.mem_cons_self text spelled
      have squeezes := first.append (behind.squeezesTo.append (squeezesTo_singleton solid))
      simpa using squeezes
  | @more member members text gap lead rest spelled behind before listed inductionHypothesis =>
      have first := each member List.mem_cons_self text spelled
      have others := inductionHypothesis fun member among =>
        each member (List.mem_cons_of_mem _ among)
      have comma : SqueezesTo [','] [','] := squeezesTo_singleton (by decide)
      have squeezes := first.append
        (behind.squeezesTo.append (comma.append (before.squeezesTo.append others)))
      cases listed with
      | last | more =>
          simpa [String.intercalate_cons_cons] using squeezes

/-- A container without white space has only commas between its members. -/
theorem Enclosed.squeezesTo
    (enclosed : Enclosed opening closing spells members text)
    (each :
      ∀ member ∈ members, ∀ text, spells member text → SqueezesTo text (short member).toList)
    (opens : IsSolid opening)
    (closes : IsSolid closing) :
    SqueezesTo text
      (.singleton opening ++ ",".intercalate (members.map short) ++ .singleton closing :
        String).toList := by
  have first := squeezesTo_singleton opens
  cases enclosed with
  | empty inside =>
      have squeezes := first.append (inside.squeezesTo.append (squeezesTo_singleton closes))
      simpa using squeezes
  | filled before listed =>
      have squeezes := first.append (before.squeezesTo.append (listed.squeezesTo each closes))
      simpa using squeezes

end Containers

/-- Every spelling without the white space outside its strings is the compact one. -/
theorem Spells.squeezesTo
    {value : Json}
    {text : List Char}
    (spelled : Spells value text) :
    SqueezesTo text value.compact.toList := by
  induction value using Json.induction generalizing text with
  | null =>
      cases spelled
      exact fun _ => rfl
  | bool value =>
      cases spelled
      cases value with
      | false | true =>
          exact fun _ => rfl
  | number value =>
      cases spelled
      exact squeezesTo_number value
  | string text =>
      cases spelled
      exact squeezesTo_writeString text
  | array items inductionHypothesis =>
      cases spelled with
      | array enclosed =>
          rw [compact, compactItems_eq]
          exact enclosed.squeezesTo (fun item among _ => inductionHypothesis item among)
            (by decide) (by decide)
  | object fields inductionHypothesis =>
      have each :
          ∀ field ∈ fields, ∀ text, SpellsField Spells field text →
            SqueezesTo text (compactField field).toList := by
        rintro ⟨name, value⟩ among _ ⟨behind, before, spelledValue⟩
        have colon : SqueezesTo [':'] [':'] := squeezesTo_singleton (by decide)
        have valueSqueezes := inductionHypothesis _ among spelledValue
        have squeezes := (squeezesTo_writeString name).append
          (behind.squeezesTo.append (colon.append (before.squeezesTo.append valueSqueezes)))
        simpa [compactField] using squeezes
      cases spelled with
      | object enclosed =>
          rw [compact, compactFields_eq]
          exact enclosed.squeezesTo each (by decide) (by decide)

/-- The indented text without the white space outside its strings is the compact one. -/
theorem squeeze_pretty
    (value : Json)
    (depth : Nat) :
    squeeze false (value.pretty depth).toList = value.compact.toList := by
  have squeezes := (spells_pretty value depth).squeezesTo []
  simpa [squeeze] using squeezes

end WindowLang.Json
