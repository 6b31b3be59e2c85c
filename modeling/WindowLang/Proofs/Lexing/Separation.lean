import WindowLang.Proofs.Lexing.RawLexemes
import WindowLang.Proofs.Lexing.Steps

namespace WindowLang

/-!
# What does not matter to a lexer

A lexer goes by the raw lexemes of its lines alone. So it does not matter how lines
are cut, what separates lexemes, and which lines hold none, and that in every state
of the lexer, the middle of a literal included.
-/

/-- Lines with the same raw lexemes lead a lexer to the same state. -/
theorem Lexer.scan_eq_of_rawLexemes_eq
    {first second : List String}
    (lexer : Lexer)
    (same : rawLexemes first = rawLexemes second) :
    lexer.scan first = lexer.scan second := by
  rw [Lexer.scan_eq_foldl, Lexer.scan_eq_foldl, lexemes_eq_of_rawLexemes_eq same]

/-! ## One line in the place of many -/

/-- The lines on one line, without those that are empty or comments. -/
def joinedLine (lines : List String) : String :=
  " ".intercalate (lines.filter fun line => !line.isEmpty && !isComment line)

theorem isComment_intercalate
    {lines : List String}
    (noComments : ∀ line ∈ lines, line ≠ "" ∧ isComment line = false) :
    isComment (" ".intercalate lines) = false := by
  cases lines with
  | nil =>
      rfl
  | cons first others =>
      obtain ⟨nonempty, noComment⟩ := noComments first List.mem_cons_self
      have someCharacter : first.toList ≠ [] := by
        rwa [Ne, String.toList_eq_nil_iff]
      cases others with
      | nil =>
          simpa using noComment
      | cons second others =>
          rw [String.intercalate_cons_cons]
          simpa [isComment, List.head?_append_of_ne_nil _ someCharacter] using noComment

/-- Lines have the lexemes of their joined line. -/
theorem lexemes_joinedLine (lines : List String) :
    lexemes (joinedLine lines) = lines.flatMap lexemes := by
  have noComments :
      ∀ line ∈ lines.filter (fun line => !line.isEmpty && !isComment line),
        line ≠ "" ∧ isComment line = false := by
    intro line among
    simpa using (List.mem_filter.1 among).2
  have noComment : isComment (joinedLine lines) = false :=
    isComment_intercalate noComments
  have isCut : lexemes (joinedLine lines) = cut (joinedLine lines) := by
    simp [lexemes, cut, noComment]
  rw [isCut, joinedLine, cut_intercalate]
  clear noComments noComment isCut
  induction lines with
  | nil =>
      rfl
  | cons line lines inductionHypothesis =>
      rw [List.flatMap_cons, ← inductionHypothesis]
      by_cases empty : line = ""
      · subst empty
        simp [lexemes, isComment, lexemesAfter, collected]
      · cases comment : isComment line with
        | true | false =>
            simp [lexemes, cut, empty, comment]

/-! ## Separators -/

/-- Separators behind which a word cannot go on hold no lexeme. -/
theorem lexemesAfter_separators
    {gap : List Char}
    (separators : ∀ c ∈ gap, isSeparator c = true)
    (behind : List Char) :
    lexemesAfter [] (gap ++ behind) = lexemesAfter [] behind := by
  induction gap with
  | nil =>
      rfl
  | cons c gap inductionHypothesis =>
      obtain ⟨first, others⟩ := List.forall_mem_cons.1 separators
      obtain ⟨separates, noMark⟩ : Text.isAlphanumeric c = false ∧ Mark.ofChar? c = none := by
        simpa [isSeparator] using first
      simp [lexemesAfter, collected, marked, separates, noMark, inductionHypothesis others]

/-- Separators end a word and hold no lexeme. -/
theorem lexemesAfter_gap
    {gap : List Char}
    (nonempty : gap ≠ [])
    (separators : ∀ c ∈ gap, isSeparator c = true)
    (letters before behind : List Char) :
    lexemesAfter letters (before ++ gap ++ behind) =
      lexemesAfter letters before ++ lexemesAfter [] behind := by
  cases gap with
  | nil =>
      exact absurd rfl nonempty
  | cons c gap =>
      obtain ⟨first, others⟩ := List.forall_mem_cons.1 separators
      obtain ⟨separates, noMark⟩ : Text.isAlphanumeric c = false ∧ Mark.ofChar? c = none := by
        simpa [isSeparator] using first
      rw [List.append_assoc, List.cons_append, lexemesAfter_append_cons separates,
        lexemesAfter_separators others]
      simp [marked, noMark]

/-- A line of separators and a comment hold no lexeme. -/
theorem lexemes_of_ignored
    {line : String}
    (ignored : isComment line = true ∨ ∀ c ∈ line.toList, isSeparator c = true) :
    lexemes line = [] := by
  rcases ignored with comment | separators
  · exact if_pos comment
  · have noLexeme := lexemesAfter_separators separators []
    rw [List.append_nil] at noLexeme
    simp [lexemes, noLexeme, lexemesAfter, collected]

/-- Characters of which there is at least one, and which all separate. -/
structure IsGap (gap : String) : Prop where
  nonempty : gap.toList ≠ []
  separators : ∀ c ∈ gap.toList, isSeparator c = true

/-- Between two lexemes one gap is as good as another. -/
theorem lexemes_gap
    {before behind gap other : String}
    (isGap : IsGap gap)
    (isOther : IsGap other)
    (sameSort : isComment (before ++ gap ++ behind) = isComment (before ++ other ++ behind)) :
    lexemes (before ++ gap ++ behind) = lexemes (before ++ other ++ behind) := by
  unfold lexemes
  rw [sameSort]
  simp only [String.toList_append, lexemesAfter_gap isGap.nonempty isGap.separators,
    lexemesAfter_gap isOther.nonempty isOther.separators]

/-! ## Ends of lines -/

/-- A carriage return at the end of a line holds no lexeme. -/
theorem lexemes_append_carriage (line : List Char) :
    lexemes (String.ofList (line ++ ['\r'])) = lexemes (String.ofList line) := by
  have sameSort :
      isComment (String.ofList (line ++ ['\r'])) = isComment (String.ofList line) := by
    cases line with
    | nil | cons c line =>
        simp [isComment]
  have separator : ∀ c ∈ ['\r'], isSeparator c = true :=
    List.all_eq_true.1 (by decide)
  have noLexeme := lexemesAfter_gap (List.cons_ne_nil _ _) separator [] line []
  rw [List.append_nil] at noLexeme
  unfold lexemes
  rw [sameSort, String.toList_ofList, String.toList_ofList, noLexeme]
  simp [lexemesAfter, collected]

theorem lexemes_dropCarriage (line : List Char) :
    lexemes (String.ofList (Text.dropCarriage '\r' line)) = lexemes (String.ofList line) := by
  unfold Text.dropCarriage
  split
  · rename_i carriage
    obtain ⟨kept, rfl⟩ := List.getLast?_eq_some_iff.1 carriage
    rw [List.dropLast_concat, lexemes_append_carriage]
  · rfl

/-- The lexemes of characters that line feeds cut into lines. -/
def lexemesOfFed (characters : List Char) : List Lexeme :=
  (characters.splitOn '\n').flatMap fun line => lexemes (String.ofList line)

/-- How the lines of a text end does not matter to its lexemes. -/
theorem flatMap_lexemes_lines (text : String) :
    (Text.lines text).flatMap lexemes = lexemesOfFed text.toList := by
  have lastLine (rest : List Char) :
      ([rest].filter fun line => !line.isEmpty).flatMap (fun line => lexemes (String.ofList line)) =
        lexemes (String.ofList rest) := by
    cases rest with
    | nil =>
        rfl
    | cons c rest =>
        simp
  have pieces := List.dropLast_concat_getLast (List.splitOn_ne_nil '\n' text.toList)
  rw [Text.lines, Text.splitLines, lexemesOfFed, List.flatMap_map, List.flatMap_append,
    List.flatMap_map, List.getLast?_eq_some_getLast (List.splitOn_ne_nil '\n' text.toList),
    Option.toList_some, lastLine]
  conv => rhs; rw [← pieces]
  simp [lexemes_dropCarriage]

/-- A line feed ends a line. -/
theorem lexemesOfFed_append_cons (before behind : List Char) :
    lexemesOfFed (before ++ '\n' :: behind) = lexemesOfFed before ++ lexemesOfFed behind := by
  rw [lexemesOfFed, List.splitOn_append_cons_self, List.flatMap_append]
  rfl

theorem lexemesOfFed_append_carriage (characters : List Char) :
    lexemesOfFed (characters ++ ['\r']) = lexemesOfFed characters := by
  by_cases fed : '\n' ∈ characters
  · obtain ⟨before, behind, split⟩ := List.append_of_mem fed
    have shorter : behind.length < characters.length := by
      simp [split]
      omega
    rw [split, List.append_assoc, List.cons_append, lexemesOfFed_append_cons,
      lexemesOfFed_append_cons, lexemesOfFed_append_carriage behind]
  · have unfed : '\n' ∉ characters ++ ['\r'] := by
      simp [fed]
    rw [lexemesOfFed, lexemesOfFed, List.splitOn_eq_singleton unfed,
      List.splitOn_eq_singleton fed, List.flatMap_singleton, List.flatMap_singleton,
      lexemes_append_carriage]
termination_by characters.length

/-- A carriage return before a line feed does not matter to the lexemes of a text. -/
theorem flatMap_lexemes_lines_carriage (before behind : String) :
    (Text.lines (before ++ "\r\n" ++ behind)).flatMap lexemes =
      (Text.lines (before ++ "\n" ++ behind)).flatMap lexemes := by
  have withCarriage :
      (before ++ "\r\n" ++ behind).toList =
        (before.toList ++ ['\r']) ++ '\n' :: behind.toList := by
    simp
  have without : (before ++ "\n" ++ behind).toList = before.toList ++ '\n' :: behind.toList := by
    simp
  rw [flatMap_lexemes_lines, flatMap_lexemes_lines, withCarriage, without,
    lexemesOfFed_append_cons, lexemesOfFed_append_cons, lexemesOfFed_append_carriage]

/--
Whatever state a lexer is in, lines with the same raw lexemes lead it to the same state.
So lines may be joined by spaces, and the tokens stay the same. Comments and lines of
separators may be left out, a gap between lexemes may be any other gap that does not
turn the line into a comment, and a line feed may have a carriage return before it.
-/
theorem scan_goes_by_rawLexemes
    (strict : Bool)
    (lexer : Lexer) :
    (∀ first second,
        rawLexemes first = rawLexemes second → lexer.scan first = lexer.scan second) ∧
      (∀ lines, lexer.scan lines = lexer.scan [joinedLine lines]) ∧
      (∀ lines, tokenize strict lines = tokenize strict [joinedLine lines]) ∧
      (∀ before line after,
        (isComment line = true ∨ ∀ c ∈ line.toList, isSeparator c = true) →
          lexer.scan (before ++ line :: after) = lexer.scan (before ++ after)) ∧
      (∀ before gap other behind,
        IsGap gap →
          IsGap other →
            isComment (before ++ gap ++ behind) = isComment (before ++ other ++ behind) →
              lexer.scanLine (before ++ gap ++ behind) =
                lexer.scanLine (before ++ other ++ behind)) ∧
      ∀ before behind,
        lexer.scan (Text.lines (before ++ "\r\n" ++ behind)) =
          lexer.scan (Text.lines (before ++ "\n" ++ behind)) := by
  have scan_joinedLine (lexer : Lexer) (lines : List String) :
      lexer.scan lines = lexer.scan [joinedLine lines] := by
    rw [Lexer.scan_eq_foldl, Lexer.scan_eq_foldl, List.flatMap_singleton, lexemes_joinedLine]
  refine ⟨?_, scan_joinedLine lexer, ?_, ?_, ?_, ?_⟩
  · intro first second same
    exact lexer.scan_eq_of_rawLexemes_eq same
  · intro lines
    rw [tokenize, tokenize, scan_joinedLine]
  · intro before line after ignored
    simp only [Lexer.scan_eq_foldl, List.flatMap_append, List.flatMap_cons,
      lexemes_of_ignored ignored, List.nil_append]
  · intro before gap other behind isGap isOther sameSort
    rw [Lexer.scanLine, Lexer.scanLine, lexemes_gap isGap isOther sameSort]
  · intro before behind
    rw [Lexer.scan_eq_foldl, Lexer.scan_eq_foldl, flatMap_lexemes_lines_carriage]

/-- A lexer in the middle of a literal. -/
def inLiteral : Lexer :=
  .holding true .inQuotation [.ofMark .quotation]

theorem inLiteral_goes_by_rawLexemes :
    rawLexemes ["End . 4", "/ \" (", "", "2\"("] =
        [['E', 'n', 'd'], ['.'], ['4'], ['2'], ['"'], ['(']] ∧
      inLiteral.scan ["End . 4", "/ \" (", "", "2\"("] = inLiteral.scan ["\tEnd.4", "~2 \" ("] ∧
      inLiteral.scan ["End", "/ \" (", "."] = inLiteral.scan ["End", "."] ∧
      inLiteral.scanLine "End 4" = inLiteral.scanLine "End/~4" := by
  obtain ⟨raw, _, _, ignored, gaps, _⟩ := scan_goes_by_rawLexemes true inLiteral
  have space : IsGap " " := ⟨by decide, List.all_eq_true.1 (by decide)⟩
  have slash : IsGap "/~" := ⟨by decide, List.all_eq_true.1 (by decide)⟩
  refine ⟨by decide, raw _ _ (by decide), ?_, ?_⟩
  · exact ignored ["End"] "/ \" (" ["."] (.inl (by decide))
  · exact gaps "End" " " "/~" "4" space slash (by decide)

end WindowLang
