import WindowLang.Proofs.Json.Layouts

namespace WindowLang.Json

/-!
# Spellings are read back

A value is read from each of its spellings, whatever follows it. Every character of a string
is read back from the characters that write it, and a number ends before what follows it
unless that is another digit. So a value can be told from either of its layouts.
-/

/-! ## White space -/

theorem IsGap.skipGap_append
    {gap : List Char}
    (white : IsGap gap)
    (text : List Char) :
    skipGap (gap ++ text) = skipGap text :=
  List.dropWhile_append_of_pos white

theorem skipGap_cons
    {c : Char}
    (noGap : isGap c = false)
    (rest : List Char) :
    skipGap (c :: rest) = c :: rest :=
  List.dropWhile_cons_of_neg (by simp [noGap])

/-- White space before a value is skipped. -/
theorem IsGap.readValue_append
    {gap : List Char}
    (white : IsGap gap)
    (fuel : Nat)
    (text : List Char) :
    readValue fuel (gap ++ text) = readValue fuel text := by
  cases fuel with
  | zero =>
      rfl
  | succ fuel =>
      rw [readValue, readValue, white.skipGap_append]

/-- White space before the items of an array is skipped. -/
theorem IsGap.readItems_append
    {gap : List Char}
    (white : IsGap gap)
    (fuel : Nat)
    (text : List Char) :
    readItems fuel (gap ++ text) = readItems fuel text := by
  cases fuel with
  | zero =>
      rfl
  | succ fuel =>
      rw [readItems, readItems, white.readValue_append]

/-- White space before the fields of an object is skipped. -/
theorem IsGap.readFields_append
    {gap : List Char}
    (white : IsGap gap)
    (fuel : Nat)
    (text : List Char) :
    readFields fuel (gap ++ text) = readFields fuel text := by
  cases fuel with
  | zero =>
      rfl
  | succ fuel =>
      rw [readFields, readFields, white.skipGap_append]

/-! ## Strings -/

theorem hexDigit?_digitChar :
    ∀ digit < 16, hexDigit? (Nat.digitChar digit) = some digit := by
  decide

/-- The code point of a control character is read back from its two last digits. -/
theorem codeUnit?_of_control
    {c : Char}
    (control : c.toNat < 0x20) :
    codeUnit? '0' '0' (Nat.digitChar (c.toNat / 16)) (Nat.digitChar (c.toNat % 16)) =
      some c.toNat := by
  have zero : hexDigit? '0' = some 0 := rfl
  have high := hexDigit?_digitChar (c.toNat / 16) (by omega)
  have low := hexDigit?_digitChar (c.toNat % 16) (by omega)
  have whole : 16 * (c.toNat / 16) + c.toNat % 16 = c.toNat := Nat.div_add_mod _ _
  simp [codeUnit?, zero, high, low, whole]

theorem character?_toNat (c : Char) :
    character? c.toNat = some c := by
  have valid : c.toNat.isValidChar := c.valid
  rw [character?, if_pos valid, Char.ofNat_toNat]

theorem readEscape_of_control
    {c : Char}
    (control : c.toNat < 0x20)
    (rest : List Char) :
    readEscape ('u' :: '0' :: '0' :: (controlDigits c ++ rest)) = some (c, rest) := by
  simp [controlDigits, readEscape, codeUnit?_of_control control, character?_toNat]

/-- A character is read back from what writes it in a string. -/
theorem readCharacters_escapeChar
    (fuel : Nat)
    (c : Char)
    (rest : List Char) :
    readCharacters (fuel + 1) (escapeChar c ++ rest) = (do
      let (others, rest) ← readCharacters fuel rest
      return (c :: others, rest)) := by
  unfold escapeChar
  split_ifs with mark slash backspace formFeed feed carriage tab control
  · rw [mark]
    rfl
  · rw [slash]
    rfl
  · rw [backspace]
    rfl
  · rw [formFeed]
    rfl
  · rw [feed]
    rfl
  · rw [carriage]
    rfl
  · rw [tab]
    rfl
  · have escape := readEscape_of_control control rest
    simp [readCharacters, escape]
  · simp [readCharacters, mark, slash, control]

/-- The characters of a string are read back, up to its closing mark. -/
theorem readCharacters_append
    {characters : List Char}
    {fuel : Nat}
    (enough : characters.length < fuel)
    (rest : List Char) :
    readCharacters fuel (characters.flatMap escapeChar ++ '"' :: rest) =
      some (characters, rest) := by
  induction characters generalizing fuel with
  | nil =>
      obtain ⟨fuel, rfl⟩ := Nat.exists_eq_add_one.2 enough
      rfl
  | cons c characters inductionHypothesis =>
      obtain ⟨fuel, rfl⟩ := Nat.exists_eq_add_one.2 (Nat.zero_lt_of_lt enough)
      have others := inductionHypothesis (Nat.lt_of_succ_lt_succ enough)
      rw [List.flatMap_cons, List.append_assoc, readCharacters_escapeChar, others]
      rfl

theorem length_le_length_flatMap_escapeChar (characters : List Char) :
    characters.length ≤ (characters.flatMap escapeChar).length := by
  induction characters with
  | nil =>
      exact Nat.le_refl 0
  | cons c characters inductionHypothesis =>
      have nonempty : 0 < (escapeChar c).length := by
        unfold escapeChar
        split_ifs <;> simp
      rw [List.flatMap_cons, List.length_append, List.length_cons]
      omega

/-- A string is read back behind its opening mark. -/
theorem readString_append
    (text : String)
    (rest : List Char) :
    readString (text.toList.flatMap escapeChar ++ '"' :: rest) = some (text, rest) := by
  have bound := length_le_length_flatMap_escapeChar text.toList
  rw [readString, readCharacters_append]
  · simp
  · rw [List.length_append, List.length_cons]
    omega

/-! ## Numbers -/

/-- A number that is followed by the text ends before it. -/
def EndsNumber (text : List Char) : Prop :=
  ∀ c ∈ text.head?, c.isDigit = false

theorem endsNumber_cons
    {c : Char}
    (noDigit : c.isDigit = false)
    (rest : List Char) :
    EndsNumber (c :: rest) := by
  simpa [EndsNumber] using noDigit

/-- White space ends a number too. -/
theorem IsGap.endsNumber_append
    {gap text : List Char}
    (white : IsGap gap)
    (ends : EndsNumber text) :
    EndsNumber (gap ++ text) := by
  cases gap with
  | nil =>
      exact ends
  | cons c gap =>
      have noDigit : c.isDigit = false := by
        have isWhite := white c List.mem_cons_self
        simp only [isGap, Bool.or_eq_true, decide_eq_true_eq] at isWhite
        rcases isWhite with ((rfl | rfl) | rfl) | rfl
        · rfl
        · rfl
        · rfl
        · rfl
      exact endsNumber_cons noDigit _

/-- Only the number zero is written with the digit zero in front. -/
theorem head?_toDigits_ne
    {number : Nat}
    (positive : 0 < number) :
    (Nat.toDigits 10 number).head? ≠ some '0' := by
  have noZero : ∀ digit < 10, 0 < digit → Nat.digitChar digit ≠ '0' := by
    decide
  induction number using Nat.strongRecOn with
  | _ number inductionHypothesis =>
      rw [Nat.toDigits_eq_if (by decide)]
      split
      · rename_i small
        simpa using noZero number small positive
      · have front := inductionHypothesis (number / 10) (by omega) (by omega)
        rw [List.head?_append]
        cases digits : (Nat.toDigits 10 (number / 10)).head? with
        | none =>
            exact absurd (List.head?_eq_none_iff.1 digits) Nat.toDigits_ne_nil
        | some c =>
            rwa [digits] at front

/-- A number is read back if what follows does not go on with it. -/
theorem readNumber_append
    (number : Nat)
    {rest : List Char}
    (ends : EndsNumber rest) :
    readNumber (Nat.toDigits 10 number ++ rest) = some (.number number, rest) := by
  have allDigits := isDigit_of_mem_toDigits number
  have taken : (Nat.toDigits 10 number ++ rest).takeWhile Char.isDigit = Nat.toDigits 10 number := by
    rw [List.takeWhile_append_of_pos allDigits]
    cases rest with
    | nil => simp
    | cons c rest => simp [ends c rfl]
  have left : (Nat.toDigits 10 number ++ rest).dropWhile Char.isDigit = rest := by
    rw [List.dropWhile_append_of_pos allDigits]
    cases rest with
    | nil => rfl
    | cons c rest => simp [ends c rfl]
  have wellWritten :
      ¬ (Nat.toDigits 10 number = [] ∨
        (Nat.toDigits 10 number).head? = some '0' ∧ Nat.toDigits 10 number ≠ ['0']) := by
    rintro (none | ⟨zeroInFront, notZero⟩)
    · exact Nat.toDigits_ne_nil none
    · rcases Nat.eq_zero_or_pos number with rfl | positive
      · exact notZero rfl
      · exact head?_toDigits_ne positive zeroInFront
  simp only [readNumber, taken, left, if_neg wellWritten, Nat.ofDigitChars_ten_toDigits]

/-! ## Values -/

/-- The digits of a number begin with one. -/
theorem exists_toDigits_eq_cons (number : Nat) :
    ∃ c rest, Nat.toDigits 10 number = c :: rest ∧ c.isDigit = true := by
  cases digits : Nat.toDigits 10 number with
  | nil =>
      exact absurd digits Nat.toDigits_ne_nil
  | cons c rest =>
      have isDigit := isDigit_of_mem_toDigits number
      rw [digits] at isDigit
      exact ⟨c, rest, rfl, isDigit c List.mem_cons_self⟩

/-- A value begins with a character that is neither white space nor a closing bracket. -/
theorem Spells.exists_cons
    {value : Json}
    {text : List Char}
    (spelled : Spells value text) :
    ∃ c rest, text = c :: rest ∧ isGap c = false ∧ c ≠ ']' := by
  cases spelled with
  | null =>
      exact ⟨'n', _, rfl, by decide⟩
  | bool value =>
      cases value with
      | false => exact ⟨'f', _, rfl, by decide⟩
      | true => exact ⟨'t', _, rfl, by decide⟩
  | number number =>
      obtain ⟨c, rest, digits, isDigit⟩ := exists_toDigits_eq_cons number
      refine ⟨c, rest, by rw [toList_toString, digits], (isSolid_of_isDigit isDigit).1, ?_⟩
      rintro rfl
      cases isDigit
  | string text =>
      rw [toList_writeString]
      exact ⟨'"', _, rfl, by decide⟩
  | array enclosed =>
      cases enclosed with
      | empty | filled => exact ⟨'[', _, rfl, by decide⟩
  | object enclosed =>
      cases enclosed with
      | empty | filled => exact ⟨'\x7b', _, rfl, by decide⟩

/-- The value is read back from each of its spellings, whatever follows. -/
def IsReadBack (value : Json) : Prop :=
  ∀ (text : List Char) (fuel : Nat) (rest : List Char),
    Spells value text → 2 * text.length ≤ fuel + 2 → EndsNumber rest →
      readValue (fuel + 1) (text ++ rest) = some (value, rest)

/-- Items are read back up to the bracket that closes their array. -/
theorem Listed.readItems_append
    {items : List Json}
    {text : List Char}
    (listed : Listed ']' Spells items text)
    (readBack : ∀ item ∈ items, IsReadBack item)
    {fuel : Nat}
    (enough : 2 * text.length ≤ fuel)
    (rest : List Char) :
    readItems fuel (text ++ rest) = some (items, rest) := by
  induction listed generalizing fuel with
  | @last item text gap spelled behind =>
      simp only [List.length_append, List.length_singleton] at enough
      obtain ⟨fuel, rfl⟩ : ∃ less, fuel = less + 2 := ⟨fuel - 2, by omega⟩
      have ends : EndsNumber (gap ++ ']' :: rest) :=
        behind.endsNumber_append (endsNumber_cons (by decide) rest)
      have first := readBack item List.mem_cons_self text fuel _ spelled (by omega) ends
      have closes : skipGap (gap ++ ']' :: rest) = ']' :: rest :=
        behind.skipGap_append _
      simp [readItems, first, closes]
  | @more item items text gap lead others spelled behind before listed inductionHypothesis =>
      simp only [List.length_append, List.length_cons] at enough
      obtain ⟨fuel, rfl⟩ : ∃ less, fuel = less + 2 := ⟨fuel - 2, by omega⟩
      have ends : EndsNumber (gap ++ ',' :: (lead ++ (others ++ rest))) :=
        behind.endsNumber_append (endsNumber_cons (by decide) _)
      have first := readBack item List.mem_cons_self text fuel _ spelled (by omega) ends
      have goesOn :
          skipGap (gap ++ ',' :: (lead ++ (others ++ rest))) = ',' :: (lead ++ (others ++ rest)) :=
        behind.skipGap_append _
      have left : readItems (fuel + 1) (others ++ rest) = some (items, rest) :=
        inductionHypothesis (fun item among => readBack item (List.mem_cons_of_mem _ among))
          (by omega)
      rw [← before.readItems_append] at left
      simp only [List.append_assoc, List.cons_append]
      rw [readItems, first]
      simp [goesOn, left]

/-- A field is read as its name, which its value follows behind a colon. -/
theorem readFields_field
    {gap lead text rest : List Char}
    {value : Json}
    {fuel : Nat}
    (behind : IsGap gap)
    (before : IsGap lead)
    (name : String)
    (first : readValue fuel text = some (value, rest)) :
    (∀ last,
      skipGap rest = '\x7d' :: last →
      readFields (fuel + 1) ((writeString name).toList ++ (gap ++ ':' :: (lead ++ text))) =
        some ([(name, value)], last)) ∧
      ∀ more fields last,
        skipGap rest = ',' :: more →
        readFields fuel more = some (fields, last) →
        readFields (fuel + 1) ((writeString name).toList ++ (gap ++ ':' :: (lead ++ text))) =
          some ((name, value) :: fields, last) := by
  have colon : skipGap (gap ++ ':' :: (lead ++ text)) = ':' :: (lead ++ text) :=
    behind.skipGap_append _
  have isName := readString_append name (gap ++ ':' :: (lead ++ text))
  have mark (rest : List Char) : skipGap ('"' :: rest) = '"' :: rest := rfl
  rw [toList_writeString, List.cons_append, List.cons_append, readFields, mark,
    List.append_assoc, List.singleton_append]
  constructor
  · intro last closes
    simp [isName, colon, before.readValue_append, first, closes]
  · intro more fields last goesOn left
    simp [isName, colon, before.readValue_append, first, goesOn, left]

/-- Fields are read back up to the bracket that closes their object. -/
theorem Listed.readFields_append
    {fields : List (String × Json)}
    {text : List Char}
    (listed : Listed '\x7d' (SpellsField Spells) fields text)
    (readBack : ∀ field ∈ fields, IsReadBack field.2)
    {fuel : Nat}
    (enough : 2 * text.length ≤ fuel)
    (rest : List Char) :
    readFields fuel (text ++ rest) = some (fields, rest) := by
  induction listed generalizing fuel with
  | @last field text gap spelled behind =>
      obtain @⟨name, value, nameGap, lead, text, behindName, before, spelledValue⟩ := spelled
      simp only [List.length_append, List.length_cons, List.length_nil] at enough
      obtain ⟨fuel, rfl⟩ : ∃ less, fuel = less + 2 := ⟨fuel - 2, by omega⟩
      have ends : EndsNumber (gap ++ '\x7d' :: rest) :=
        behind.endsNumber_append (endsNumber_cons (by decide) rest)
      have first := readBack _ List.mem_cons_self text fuel _ spelledValue (by omega) ends
      have closes : skipGap (gap ++ '\x7d' :: rest) = '\x7d' :: rest :=
        behind.skipGap_append _
      have field := (readFields_field behindName before name first).1 rest closes
      simpa using field
  | @more field fields text gap nextLead others spelled behind nextBefore listed
      inductionHypothesis =>
      obtain @⟨name, value, nameGap, lead, text, behindName, before, spelledValue⟩ := spelled
      simp only [List.length_append, List.length_cons] at enough
      obtain ⟨fuel, rfl⟩ : ∃ less, fuel = less + 2 := ⟨fuel - 2, by omega⟩
      have ends : EndsNumber (gap ++ ',' :: (nextLead ++ (others ++ rest))) :=
        behind.endsNumber_append (endsNumber_cons (by decide) _)
      have first := readBack _ List.mem_cons_self text fuel _ spelledValue (by omega) ends
      have goesOn :
          skipGap (gap ++ ',' :: (nextLead ++ (others ++ rest))) =
            ',' :: (nextLead ++ (others ++ rest)) :=
        behind.skipGap_append _
      have left : readFields (fuel + 1) (others ++ rest) = some (fields, rest) :=
        inductionHypothesis (fun field among => readBack field (List.mem_cons_of_mem _ among))
          (by omega)
      rw [← nextBefore.readFields_append] at left
      have field :=
        (readFields_field behindName before name first).2 _ fields rest goesOn left
      simpa using field

/-- A digit begins a number. -/
theorem readValue_of_isDigit
    {c : Char}
    (isDigit : c.isDigit = true)
    (fuel : Nat)
    (rest : List Char) :
    readValue (fuel + 1) (c :: rest) = readNumber (c :: rest) := by
  have differs (other : Char) (noDigit : other.isDigit = false) : c ≠ other := by
    rintro rfl
    rw [isDigit] at noDigit
    cases noDigit
  rw [readValue, skipGap_cons (isSolid_of_isDigit isDigit).1]
  split
  · rename_i same
    exact absurd (List.cons.inj same).1 (differs '"' rfl)
  · rename_i same
    exact absurd (List.cons.inj same).1 (differs '[' rfl)
  · rename_i same
    exact absurd (List.cons.inj same).1 (differs '\x7b' rfl)
  · rename_i same
    exact absurd (List.cons.inj same).1 (differs 'n' rfl)
  · rename_i same
    exact absurd (List.cons.inj same).1 (differs 't' rfl)
  · rename_i same
    exact absurd (List.cons.inj same).1 (differs 'f' rfl)
  · rfl

section Containers

variable
  {fuel : Nat}
  {text rest : List Char}

/-- Listed members begin as the first one does. -/
theorem Listed.exists_cons
    {α : Type}
    {closing : Char}
    {spells : α → List Char → Prop}
    {members : List α}
    {first : Char → Prop}
    (listed : Listed closing spells members text)
    (begins : ∀ member text, spells member text → ∃ c rest, text = c :: rest ∧ first c) :
    ∃ c rest, text = c :: rest ∧ first c := by
  cases listed with
  | last spelled | more spelled =>
      obtain ⟨c, rest, rfl, isFirst⟩ := begins _ _ spelled
      exact ⟨c, _, rfl, isFirst⟩

/-- An array is read back if its items are. -/
theorem Enclosed.readValue_array
    {items : List Json}
    (enclosed : Enclosed '[' ']' Spells items text)
    (readBack : ∀ item ∈ items, IsReadBack item)
    (enough : 2 * text.length ≤ fuel + 2) :
    readValue (fuel + 1) (text ++ rest) = some (.array items, rest) := by
  have opens (text : List Char) : skipGap ('[' :: text) = '[' :: text := rfl
  cases enclosed with
  | @empty gap inside =>
      have closes : skipGap (gap ++ ']' :: rest) = ']' :: rest :=
        inside.skipGap_append _
      simp [readValue, opens, closes]
  | @filled items lead text before listed =>
      simp only [List.length_cons, List.length_append] at enough
      have itemsRead : readItems fuel (text ++ rest) = some (items, rest) :=
        listed.readItems_append readBack (by omega) rest
      obtain ⟨c, others, rfl, noGap, noBracket⟩ :=
        listed.exists_cons fun _ _ spelled => spelled.exists_cons
      have skipped : skipGap (lead ++ c :: (others ++ rest)) = c :: (others ++ rest) := by
        rw [before.skipGap_append, skipGap_cons noGap]
      rw [List.cons_append] at itemsRead
      simp [readValue, opens, skipped, noBracket, itemsRead]

/-- An object is read back if the values of its fields are. -/
theorem Enclosed.readValue_object
    {fields : List (String × Json)}
    (enclosed : Enclosed '\x7b' '\x7d' (SpellsField Spells) fields text)
    (readBack : ∀ field ∈ fields, IsReadBack field.2)
    (enough : 2 * text.length ≤ fuel + 2) :
    readValue (fuel + 1) (text ++ rest) = some (.object fields, rest) := by
  have opens (text : List Char) : skipGap ('\x7b' :: text) = '\x7b' :: text := rfl
  cases enclosed with
  | @empty gap inside =>
      have closes : skipGap (gap ++ '\x7d' :: rest) = '\x7d' :: rest :=
        inside.skipGap_append _
      simp [readValue, opens, closes]
  | @filled fields lead text before listed =>
      simp only [List.length_cons, List.length_append] at enough
      have fieldsRead : readFields fuel (text ++ rest) = some (fields, rest) :=
        listed.readFields_append readBack (by omega) rest
      have beginsName (field : String × Json) (text : List Char)
          (spelled : SpellsField Spells field text) :
          ∃ c rest, text = c :: rest ∧ c = '"' := by
        cases spelled
        rw [toList_writeString]
        exact ⟨'"', _, rfl, rfl⟩
      obtain ⟨c, others, rfl, rfl⟩ := listed.exists_cons beginsName
      have skipped : skipGap (lead ++ '"' :: (others ++ rest)) = '"' :: (others ++ rest) :=
        before.skipGap_append _
      rw [List.cons_append] at fieldsRead
      simp [readValue, opens, skipped, fieldsRead]

end Containers

/-- Every value is read back. -/
theorem isReadBack (value : Json) :
    IsReadBack value := by
  induction value using Json.induction with
  | null =>
      intro text fuel rest spelled enough ends
      cases spelled
      rfl
  | bool value =>
      intro text fuel rest spelled enough ends
      cases spelled
      cases value with
      | false => rfl
      | true => rfl
  | number number =>
      intro text fuel rest spelled enough ends
      cases spelled
      obtain ⟨c, others, digits, isDigit⟩ := exists_toDigits_eq_cons number
      have isNumber := readNumber_append number ends
      rw [toList_toString]
      rw [digits, List.cons_append] at isNumber ⊢
      rw [readValue_of_isDigit isDigit, isNumber]
  | string literal =>
      intro text fuel rest spelled enough ends
      cases spelled
      have isText := readString_append literal rest
      have opens (text : List Char) : skipGap ('"' :: text) = '"' :: text := rfl
      rw [toList_writeString]
      simp [readValue, opens, isText]
  | array items inductionHypothesis =>
      intro text fuel rest spelled enough ends
      cases spelled with
      | array enclosed => exact enclosed.readValue_array inductionHypothesis enough
  | object fields inductionHypothesis =>
      intro text fuel rest spelled enough ends
      cases spelled with
      | object enclosed => exact enclosed.readValue_object inductionHypothesis enough

/-! ## Texts -/

/-- A text that spells a value is read as that value. -/
theorem ofText?_of_spells
    {value : Json}
    {text : String}
    (spelled : Spells value text.toList) :
    ofText? text = some value := by
  have ends : EndsNumber [] := by
    simp [EndsNumber]
  have enough : 2 * text.toList.length ≤ 2 * text.length + 1 + 2 := by
    rw [String.length_toList]
    omega
  have read := isReadBack value text.toList (2 * text.length + 1) [] spelled enough ends
  rw [List.append_nil] at read
  rw [ofText?, read]
  rfl

/-- A text spells at most one value. -/
theorem Spells.unique
    {value other : Json}
    {text : List Char}
    (spelled : Spells value text)
    (spelledOther : Spells other text) :
    value = other := by
  rw [← String.toList_ofList (l := text)] at spelled spelledOther
  have read := ofText?_of_spells spelled
  rw [ofText?_of_spells spelledOther] at read
  exact (Option.some.inj read).symm

end WindowLang.Json
