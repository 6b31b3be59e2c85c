import WindowLang.Token.Shape
import WindowLang.Tree.Tokens

namespace WindowLang

/-!
# Cutting text into lexemes

A character that is not alphanumeric ends a word. So lexemes joined by spaces are
cut apart again where they were joined, and a normal text is exactly one that
joins lexemes other than quotation marks.
-/

/-- The lexemes of a text that is no comment. -/
def cut (text : String) : List Lexeme :=
  lexemesAfter [] text.toList

/-- The text of some lexemes, separated by single spaces. -/
def joined (lexemes : List Lexeme) : String :=
  " ".intercalate (lexemes.map Lexeme.text)

/-- A lexeme that a line can hold. -/
def Lexeme.IsProper : Lexeme → Prop
  | .word text => IsWord text
  | .mark _ => True

/-- A lexeme that a string literal can hold. -/
def Lexeme.IsText (lexeme : Lexeme) : Prop :=
  lexeme.IsProper ∧ lexeme ≠ .mark .quotation

@[simp] theorem isAlphanumeric_char (mark : Mark) :
    Text.isAlphanumeric mark.char = false := by
  cases mark <;> decide

@[simp] theorem marked_char (mark : Mark) :
    marked mark.char = [.mark mark] := by
  simp [marked]

/-- A character that is not alphanumeric separates what is before it and behind it. -/
theorem lexemesAfter_append_cons
    {c : Char}
    (separates : Text.isAlphanumeric c = false)
    (letters before behind : List Char) :
    lexemesAfter letters (before ++ c :: behind) =
      lexemesAfter letters before ++ marked c ++ lexemesAfter [] behind := by
  induction before generalizing letters with
  | nil =>
      simp [lexemesAfter, separates]
  | cons first before inductionHypothesis =>
      by_cases isLetter : Text.isAlphanumeric first = true
      · rw [List.cons_append, lexemesAfter, if_pos isLetter, lexemesAfter, if_pos isLetter]
        exact inductionHypothesis (first :: letters)
      · rw [List.cons_append, lexemesAfter, if_neg isLetter, inductionHypothesis []]
        simp only [lexemesAfter, if_neg isLetter, List.append_assoc]

theorem lexemesAfter_of_isAlphanumeric
    {characters : List Char}
    (alphanumeric : ∀ c ∈ characters, Text.isAlphanumeric c = true)
    (letters : List Char) :
    lexemesAfter letters characters = collected (characters.reverse ++ letters) := by
  induction characters generalizing letters with
  | nil =>
      rfl
  | cons c characters inductionHypothesis =>
      obtain ⟨first, others⟩ := List.forall_mem_cons.1 alphanumeric
      rw [lexemesAfter, if_pos first, inductionHypothesis others, List.reverse_cons,
        List.append_assoc, List.singleton_append]

theorem cut_word
    {text : String}
    (isWord : IsWord text) :
    cut text = [.word text] := by
  obtain ⟨nonempty, alphanumeric⟩ := isWord
  have someLetter : text.toList ≠ [] := by
    rwa [Ne, String.toList_eq_nil_iff]
  rw [cut, lexemesAfter_of_isAlphanumeric alphanumeric, List.append_nil]
  simp [collected, someLetter]

theorem cut_mark (mark : Mark) :
    cut (String.singleton mark.char) = [.mark mark] := by
  simp [cut, lexemesAfter, collected]

theorem cut_text
    {lexeme : Lexeme}
    (proper : lexeme.IsProper) :
    cut lexeme.text = [lexeme] := by
  cases lexeme with
  | word text =>
      exact cut_word proper
  | mark symbol =>
      exact cut_mark symbol

theorem cut_append_space (first second : String) :
    cut (first ++ " " ++ second) = cut first ++ cut second := by
  have space : Text.isAlphanumeric ' ' = false := by
    decide
  have noMark : marked ' ' = [] := by
    decide
  have split : (first ++ " " ++ second).toList = first.toList ++ ' ' :: second.toList := by
    simp
  rw [cut, split, lexemesAfter_append_cons space, noMark, List.append_nil]
  rfl

/-- Texts joined by spaces are cut one after the other. -/
theorem cut_intercalate (texts : List String) :
    cut (" ".intercalate texts) = texts.flatMap cut := by
  induction texts with
  | nil =>
      rfl
  | cons first others inductionHypothesis =>
      cases others with
      | nil =>
          simp
      | cons second others =>
          rw [String.intercalate_cons_cons, cut_append_space, inductionHypothesis]
          rfl

/-- The lexemes of spaced tokens are those of one token after the other. -/
theorem cut_spaced (tokens : List Token) :
    cut (spaced tokens) = tokens.flatMap fun token => cut token.lexeme := by
  rw [spaced, cut_intercalate, List.flatMap_map]

/-- A proper lexeme is cut out of its own text. -/
theorem flatMap_cut_text
    {lexemes : List Lexeme}
    (proper : ∀ lexeme ∈ lexemes, lexeme.IsProper) :
    (lexemes.flatMap fun lexeme => cut lexeme.text) = lexemes := by
  induction lexemes with
  | nil =>
      rfl
  | cons lexeme lexemes inductionHypothesis =>
      obtain ⟨first, others⟩ := List.forall_mem_cons.1 proper
      rw [List.flatMap_cons, cut_text first, inductionHypothesis others,
        List.singleton_append]

/-- Joined lexemes are cut apart again. -/
theorem cut_joined
    {lexemes : List Lexeme}
    (proper : ∀ lexeme ∈ lexemes, lexeme.IsProper) :
    cut (joined lexemes) = lexemes := by
  rw [joined, cut_intercalate, List.flatMap_map]
  exact flatMap_cut_text proper

theorem isProper_of_mem_collected
    {letters : List Char}
    (alphanumeric : ∀ c ∈ letters, Text.isAlphanumeric c = true) :
    ∀ lexeme ∈ collected letters, lexeme.IsProper := by
  intro lexeme among
  cases letters with
  | nil =>
      cases among
  | cons letter letters =>
      obtain rfl : lexeme = .word (String.ofList (letter :: letters).reverse) :=
        List.mem_singleton.1 among
      constructor
      · simp
      · intro c among
        rw [String.toList_ofList, List.mem_reverse] at among
        exact alphanumeric c among

theorem isProper_of_mem_lexemesAfter
    {letters characters : List Char}
    (alphanumeric : ∀ c ∈ letters, Text.isAlphanumeric c = true) :
    ∀ lexeme ∈ lexemesAfter letters characters, lexeme.IsProper := by
  induction characters generalizing letters with
  | nil =>
      exact isProper_of_mem_collected alphanumeric
  | cons c characters inductionHypothesis =>
      unfold lexemesAfter
      split
      · rename_i isLetter
        exact inductionHypothesis (List.forall_mem_cons.2 ⟨isLetter, alphanumeric⟩)
      · intro lexeme among
        rcases List.mem_append.1 among with before | behind
        · rcases List.mem_append.1 before with ofWord | ofMark
          · exact isProper_of_mem_collected alphanumeric lexeme ofWord
          · obtain ⟨symbol, _, rfl⟩ := List.mem_map.1 ofMark
            trivial
        · exact inductionHypothesis (List.forall_mem_nil _) lexeme behind

/-- Every lexeme of a line is proper. -/
theorem isProper_of_mem_lexemes
    {line : String}
    {lexeme : Lexeme}
    (among : lexeme ∈ lexemes line) :
    lexeme.IsProper := by
  unfold lexemes at among
  split at among
  · cases among
  · exact isProper_of_mem_lexemesAfter (List.forall_mem_nil _) lexeme among

theorem isProper_of_mem_lines
    {lines : List String}
    {lexeme : Lexeme}
    (among : lexeme ∈ lines.flatMap lexemes) :
    lexeme.IsProper := by
  obtain ⟨line, _, ofLine⟩ := List.mem_flatMap.1 among
  exact isProper_of_mem_lexemes ofLine

/-- A piece of a normal text is the text of a lexeme that a literal can hold. -/
theorem isPiece_iff
    {piece : List Char} :
    IsPiece piece ↔ ∃ lexeme : Lexeme, lexeme.IsText ∧ lexeme.text.toList = piece := by
  constructor
  · rintro (⟨nonempty, alphanumeric⟩ | ⟨symbol, notQuotation, rfl⟩)
    · refine ⟨.word (String.ofList piece), ⟨⟨?_, ?_⟩, ?_⟩, ?_⟩
      · simpa using nonempty
      · simpa using alphanumeric
      · intro same
        cases same
      · exact String.toList_ofList
    · refine ⟨.mark symbol, ⟨trivial, ?_⟩, ?_⟩
      · intro same
        cases same
        exact notQuotation rfl
      · exact String.toList_singleton symbol.char
  · rintro ⟨lexeme, ⟨proper, notQuotation⟩, rfl⟩
    cases lexeme with
    | word text =>
        obtain ⟨nonempty, alphanumeric⟩ := proper
        refine .inl ⟨?_, alphanumeric⟩
        simpa [Lexeme.text] using nonempty
    | mark symbol =>
        refine .inr ⟨symbol, ?_, String.toList_singleton symbol.char⟩
        rintro rfl
        exact notQuotation rfl

theorem toList_joined (lexemes : List Lexeme) :
    (joined lexemes).toList = [' '].intercalate (lexemes.map fun lexeme => lexeme.text.toList) := by
  rw [joined, String.toList_intercalate, List.map_map]
  rfl

theorem exists_lexemes_of_isPiece
    {pieces : List (List Char)}
    (arePieces : ∀ piece ∈ pieces, IsPiece piece) :
    ∃ lexemes : List Lexeme,
      (∀ lexeme ∈ lexemes, lexeme.IsText) ∧
        (lexemes.map fun lexeme => lexeme.text.toList) = pieces := by
  induction pieces with
  | nil =>
      exact ⟨[], List.forall_mem_nil _, rfl⟩
  | cons piece pieces inductionHypothesis =>
      obtain ⟨first, others⟩ := List.forall_mem_cons.1 arePieces
      obtain ⟨lexeme, isText, rfl⟩ := isPiece_iff.1 first
      obtain ⟨lexemes, areTexts, rfl⟩ := inductionHypothesis others
      exact ⟨lexeme :: lexemes, List.forall_mem_cons.2 ⟨isText, areTexts⟩, rfl⟩

/-- A normal text joins lexemes that a literal can hold. -/
theorem isNormal_iff
    {text : String} :
    IsNormal text ↔
      ∃ lexemes : List Lexeme, (∀ lexeme ∈ lexemes, lexeme.IsText) ∧ text = joined lexemes := by
  constructor
  · rintro (rfl | ⟨pieces, _, arePieces, same⟩)
    · exact ⟨[], List.forall_mem_nil _, rfl⟩
    · obtain ⟨lexemes, areTexts, rfl⟩ := exists_lexemes_of_isPiece arePieces
      refine ⟨lexemes, areTexts, ?_⟩
      rw [← String.toList_inj, same, toList_joined]
  · rintro ⟨lexemes, areTexts, rfl⟩
    cases lexemes with
    | nil =>
        exact .inl rfl
    | cons lexeme lexemes =>
        refine .inr ⟨(lexeme :: lexemes).map fun lexeme => lexeme.text.toList, ?_, ?_, ?_⟩
        · exact List.cons_ne_nil _ _
        · intro piece among
          obtain ⟨source, amongLexemes, rfl⟩ := List.mem_map.1 among
          exact isPiece_iff.2 ⟨source, areTexts source amongLexemes, rfl⟩
        · exact toList_joined _

theorem text_ne_empty
    {lexeme : Lexeme}
    (proper : lexeme.IsProper) :
    lexeme.text ≠ "" := by
  cases lexeme with
  | word text =>
      exact proper.1
  | mark symbol =>
      simp [Lexeme.text, ← String.toList_inj]

/-- A lexeme that a literal can hold is a normal text on its own. -/
theorem isNormal_text
    {lexeme : Lexeme}
    (isText : lexeme.IsText) :
    IsNormal lexeme.text := by
  refine isNormal_iff.2 ⟨[lexeme], ?_, ?_⟩
  · exact List.forall_mem_cons.2 ⟨isText, List.forall_mem_nil _⟩
  · simp [joined]

/-- A normal text that is not empty may go on with a space and a lexeme. -/
theorem IsNormal.append_space
    {text : String}
    {lexeme : Lexeme}
    (isNormal : IsNormal text)
    (nonempty : text ≠ "")
    (isText : lexeme.IsText) :
    IsNormal (text ++ " " ++ lexeme.text) := by
  obtain ⟨lexemes, areTexts, rfl⟩ := isNormal_iff.1 isNormal
  refine isNormal_iff.2 ⟨lexemes ++ [lexeme], ?_, ?_⟩
  · intro among
    exact List.forall_mem_append.2
      ⟨areTexts, List.forall_mem_cons.2 ⟨isText, List.forall_mem_nil _⟩⟩ among
  · have someLexeme : lexemes.map Lexeme.text ≠ [] := by
      intro none
      exact nonempty (by rw [joined, none, String.intercalate_nil])
    rw [joined, joined, List.map_append, List.map_singleton,
      String.intercalate_append_of_ne_nil someLexeme (List.cons_ne_nil _ _),
      String.intercalate_singleton]

end WindowLang
