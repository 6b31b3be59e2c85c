import Mathlib.Tactic.SplitIfs
import WindowLang.Text.Numeral
import WindowLang.Text.Quoted

namespace WindowLang.Text

/-!
# Texts that tell where they end

Each character is quoted by characters that tell which one it was and where they end,
and none of them is the closing mark of the quotation. So a quoted text can be told from
what follows it, whatever it holds, and it holds no line break. A number can be told from
what follows it if that does not begin with a digit.
-/

/-- Two lists that begin with a longest row of one sort are cut behind it alike. -/
theorem append_inj_of_forall
    {α : Type}
    {sort : α → Bool}
    {first second rest other : List α}
    (firstOfSort : ∀ c ∈ first, sort c = true)
    (secondOfSort : ∀ c ∈ second, sort c = true)
    (restStops : ∀ c ∈ rest.head?, sort c = false)
    (otherStops : ∀ c ∈ other.head?, sort c = false)
    (same : first ++ rest = second ++ other) :
    first = second ∧ rest = other := by
  induction first generalizing second with
  | nil =>
      cases second with
      | nil =>
          exact ⟨rfl, same⟩
      | cons c second =>
          have stops := restStops c (by rw [← List.nil_append rest, same]; rfl)
          simp [secondOfSort c List.mem_cons_self] at stops
  | cons c first inductionHypothesis =>
      cases second with
      | nil =>
          have stops := otherStops c (by rw [← List.nil_append other, ← same]; rfl)
          simp [firstOfSort c List.mem_cons_self] at stops
      | cons d second =>
          obtain ⟨rfl, sameTail⟩ := List.cons.inj same
          obtain ⟨rfl, sameRest⟩ := inductionHypothesis
            (List.forall_mem_cons.1 firstOfSort).2 (List.forall_mem_cons.1 secondOfSort).2 sameTail
          exact ⟨rfl, sameRest⟩

/-! ## Numbers -/

theorem isDigit_of_mem_writeUnsigned (number : UInt32) :
    ∀ c ∈ (writeUnsigned number).toList, c.isDigit = true := by
  have numeral := isNumeral_writeUnsigned number
  simp only [isNumeral, Bool.and_eq_true, List.all_eq_true] at numeral
  exact numeral.2

theorem writeUnsigned_injective
    {number other : UInt32}
    (same : (writeUnsigned number).toList = (writeUnsigned other).toList) :
    number = other := by
  have read := readUnsigned?_writeUnsigned number
  rw [String.toList_inj.1 same, readUnsigned?_writeUnsigned] at read
  exact (Option.some.inj read).symm

theorem feed_not_mem_writeUnsigned (number : UInt32) :
    '\n' ∉ (writeUnsigned number).toList := by
  intro among
  have isDigit := isDigit_of_mem_writeUnsigned number _ among
  revert isDigit
  decide

/-- A number ends where a character follows that is no digit. -/
theorem writeUnsigned_append_inj
    {number other : UInt32}
    {rest behind : List Char}
    (restStops : ∀ c ∈ rest.head?, c.isDigit = false)
    (behindStops : ∀ c ∈ behind.head?, c.isDigit = false)
    (same : (writeUnsigned number).toList ++ rest = (writeUnsigned other).toList ++ behind) :
    number = other ∧ rest = behind := by
  obtain ⟨sameDigits, sameRest⟩ := append_inj_of_forall (isDigit_of_mem_writeUnsigned number)
    (isDigit_of_mem_writeUnsigned other) restStops behindStops same
  exact ⟨writeUnsigned_injective sameDigits, sameRest⟩

/-! ## Code points -/

/-- The value of a hexadecimal digit in small letters. -/
def digitValue (c : Char) : Nat :=
  if c.isDigit then c.toNat - '0'.toNat else c.toNat - 'a'.toNat + 10

/-- The number that hexadecimal digits write. -/
def hexValue (digits : List Char) : Nat :=
  digits.foldl (fun value c => 16 * value + digitValue c) 0

theorem digitValue_digitChar :
    ∀ digit < 16, digitValue (Nat.digitChar digit) = digit := by
  decide

/-- The digits of a number write it. -/
theorem hexValue_toDigits (number : Nat) :
    hexValue (Nat.toDigits 16 number) = number := by
  induction number using Nat.strongRecOn with
  | _ number inductionHypothesis =>
      rw [Nat.toDigits_eq_if (by decide)]
      split
      · rename_i small
        simp [hexValue, digitValue_digitChar number small]
      · have front := inductionHypothesis (number / 16) (by omega)
        have last := digitValue_digitChar (number % 16) (Nat.mod_lt _ (by decide))
        rw [hexValue] at front
        rw [hexValue, List.foldl_append, front, List.foldl_cons, List.foldl_nil, last]
        omega

theorem isAlphanum_of_mem_toDigits
    {number : Nat}
    {c : Char}
    (among : c ∈ Nat.toDigits 16 number) :
    c.isAlphanum = true := by
  have isDigit : ∀ digit < 16, (Nat.digitChar digit).isAlphanum = true := by
    decide
  induction number using Nat.strongRecOn with
  | _ number inductionHypothesis =>
      rw [Nat.toDigits_eq_if (by decide)] at among
      split at among
      · rename_i small
        rw [List.mem_singleton.1 among]
        exact isDigit number small
      · rcases List.mem_append.1 among with front | last
        · exact inductionHypothesis (number / 16) (by omega) front
        · rw [List.mem_singleton.1 last]
          exact isDigit (number % 16) (Nat.mod_lt _ (by decide))

/-- A character that is no letter and no digit does not stand in a number. -/
theorem not_mem_toDigits
    {c : Char}
    (noDigit : c.isAlphanum = false)
    (number : Nat) :
    c ∉ Nat.toDigits 16 number := by
  intro among
  rw [isAlphanum_of_mem_toDigits among] at noDigit
  cases noDigit

/-! ## Quoted characters -/

/-- The character that a letter stands for behind a backslash; the others stand for themselves. -/
def unescape (letter : Char) : Char :=
  if letter = '0' then '\x00'
  else if letter = 't' then '\t'
  else if letter = 'n' then '\n'
  else if letter = 'r' then '\r'
  else letter

/-- The first character that a text quotes, and what follows it. -/
def readQuoted? : List Char → Option (Char × List Char)
  | '\\' :: 'u' :: '\x7b' :: rest =>
      let digits := rest.takeWhile (· ≠ '\x7d')
      some (Char.ofNat (hexValue digits), rest.drop (digits.length + 1))
  | '\\' :: letter :: rest => some (unescape letter, rest)
  | c :: rest => some (c, rest)
  | [] => none

theorem readQuoted?_codePoint (c : Char) (rest : List Char) :
    readQuoted? ('\\' :: 'u' :: '\x7b' :: Nat.toDigits 16 c.toNat ++ '\x7d' :: rest) =
      some (c, rest) := by
  have digits :
      (Nat.toDigits 16 c.toNat ++ '\x7d' :: rest).takeWhile (· ≠ '\x7d') =
        Nat.toDigits 16 c.toNat := by
    rw [List.takeWhile_append_of_pos]
    · simp
    · intro digit among
      simp only [ne_eq, decide_eq_true_eq]
      rintro rfl
      exact not_mem_toDigits (by decide) c.toNat among
  have behind :
      (Nat.toDigits 16 c.toNat ++ '\x7d' :: rest).drop ((Nat.toDigits 16 c.toNat).length + 1) =
        rest := by
    simp
  simp only [readQuoted?, List.cons_append, digits, behind, hexValue_toDigits, Char.ofNat_toNat]

/-- A character is read back from its quotation, whatever follows. -/
theorem readQuoted?_quoteChar (c : Char) (rest : List Char) :
    readQuoted? (quoteChar c ++ rest) = some (c, rest) := by
  unfold quoteChar
  split_ifs with nul tab feed carriage mark slash hidden
  · rw [nul]
    rfl
  · rw [tab]
    rfl
  · rw [feed]
    rfl
  · rw [carriage]
    rfl
  · rw [mark]
    rfl
  · rw [slash]
    rfl
  · have codePoint := readQuoted?_codePoint c rest
    simpa using codePoint
  · simp [readQuoted?, slash]

/-- No character is quoted by something that looks like the closing mark. -/
theorem head?_quoteChar_ne (c : Char) (rest : List Char) :
    (quoteChar c ++ rest).head? ≠ some '"' := by
  by_cases mark : c = '"'
  · simp [mark, quoteChar]
  · unfold quoteChar
    split_ifs <;> simp [mark]

/-- A line feed is quoted without one. -/
theorem feed_not_mem_quoteChar (c : Char) :
    '\n' ∉ quoteChar c := by
  have noFeed := not_mem_toDigits (c := '\n') (by decide) c.toNat
  by_cases feed : c = '\n'
  · rw [feed]
    decide
  · unfold quoteChar
    split_ifs <;> simp [noFeed, Ne.symm feed]

/-- Characters between quotation marks can be told from what follows them. -/
theorem flatMap_quoteChar_append_inj
    {first second rest other : List Char}
    (same :
      first.flatMap quoteChar ++ '"' :: rest = second.flatMap quoteChar ++ '"' :: other) :
    first = second ∧ rest = other := by
  induction first generalizing second with
  | nil =>
      cases second with
      | nil =>
          exact ⟨rfl, (List.cons.inj same).2⟩
      | cons d second =>
          rw [List.flatMap_cons, List.append_assoc] at same
          exact absurd (congrArg List.head? same).symm (head?_quoteChar_ne d _)
  | cons c first inductionHypothesis =>
      cases second with
      | nil =>
          rw [List.flatMap_cons, List.append_assoc] at same
          exact absurd (congrArg List.head? same) (head?_quoteChar_ne c _)
      | cons d second =>
          rw [List.flatMap_cons, List.flatMap_cons, List.append_assoc, List.append_assoc] at same
          have read := congrArg readQuoted? same
          rw [readQuoted?_quoteChar, readQuoted?_quoteChar, Option.some.injEq,
            Prod.mk.injEq] at read
          obtain ⟨rfl, sameTail⟩ := read
          obtain ⟨rfl, sameRest⟩ := inductionHypothesis sameTail
          exact ⟨rfl, sameRest⟩

/-! ## Quoted texts -/

theorem toList_quote (text : String) :
    (quote text).toList = '"' :: text.toList.flatMap quoteChar ++ ['"'] := by
  rw [quote, String.toList_ofList]

/-- A quoted text can be told from what follows it. -/
theorem quote_append_inj
    {first second : String}
    {rest other : List Char}
    (same : (quote first).toList ++ rest = (quote second).toList ++ other) :
    first = second ∧ rest = other := by
  rw [toList_quote, toList_quote] at same
  simp only [List.cons_append, List.append_assoc, List.cons.injEq, true_and,
    List.nil_append] at same
  obtain ⟨sameText, sameRest⟩ := flatMap_quoteChar_append_inj same
  exact ⟨String.toList_inj.1 sameText, sameRest⟩

/-- A quoted text stands on one line. -/
theorem feed_not_mem_quote (text : String) :
    '\n' ∉ (quote text).toList := by
  rw [toList_quote]
  simp [feed_not_mem_quoteChar]

end WindowLang.Text
