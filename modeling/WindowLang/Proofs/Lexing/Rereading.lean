import WindowLang.Proofs.Lexing.Streams

namespace WindowLang

/-!
# Reading tokens again

A well-moded token stream is read again from its lexemes with spaces between them.
The text of a literal is cut into its lexemes and joined again, an empty text
comes back between its marks, and the line is no comment, for it holds nothing
but lexemes and spaces.
-/

/-- A character of a lexeme, or of the space between two. -/
def IsLexical (c : Char) : Prop :=
  c = ' ' ∨ Text.isAlphanumeric c = true ∨ ∃ mark : Mark, c = mark.char

theorem isLexical_of_isProper
    {lexeme : Lexeme}
    (proper : lexeme.IsProper) :
    ∀ c ∈ lexeme.text.toList, IsLexical c := by
  intro c among
  cases lexeme with
  | word text =>
      exact .inr (.inl (proper.2 c among))
  | mark symbol =>
      rw [Lexeme.text, String.toList_singleton, List.mem_singleton] at among
      exact .inr (.inr ⟨symbol, among⟩)

theorem isLexical_intercalate
    {texts : List String}
    (lexical : ∀ text ∈ texts, ∀ c ∈ text.toList, IsLexical c) :
    ∀ c ∈ (" ".intercalate texts).toList, IsLexical c := by
  induction texts with
  | nil =>
      intro c among
      simp at among
  | cons first others inductionHypothesis =>
      obtain ⟨firstLexical, othersLexical⟩ := List.forall_mem_cons.1 lexical
      have behind := inductionHypothesis othersLexical
      cases others with
      | nil =>
          simpa using firstLexical
      | cons second others =>
          intro c among
          rw [String.intercalate_cons_cons, String.toList_append, String.toList_append] at among
          rcases List.mem_append.1 among with before | inOthers
          · rcases List.mem_append.1 before with inFirst | isSpace
            · exact firstLexical c inFirst
            · exact .inl (List.mem_singleton.1 isSpace)
          · exact behind c inOthers

theorem isLexical_of_isNormal
    {text : String}
    (isNormal : IsNormal text) :
    ∀ c ∈ text.toList, IsLexical c := by
  obtain ⟨lexemes, areTexts, rfl⟩ := isNormal_iff.1 isNormal
  refine isLexical_intercalate fun text among => ?_
  obtain ⟨lexeme, amongLexemes, rfl⟩ := List.mem_map.1 among
  exact isLexical_of_isProper (areTexts lexeme amongLexemes).1

/-- Well-moded tokens hold nothing but lexemes and spaces. -/
theorem WellModed.isLexical
    {strict : Bool}
    {mode : Mode}
    {tokens : List Token}
    (wellModed : WellModed strict mode tokens) :
    ∀ token ∈ tokens, ∀ c ∈ token.lexeme.toList, IsLexical c := by
  fun_induction WellModed strict mode tokens with
  | case1 mode =>
      exact List.forall_mem_nil _
  | case2 token rest inductionHypothesis =>
      obtain ⟨plain, wellModedRest⟩ := wellModed
      obtain ⟨lexeme, proper, rfl⟩ := isPlain_iff.1 plain
      exact List.forall_mem_cons.2
        ⟨isLexical_of_isProper proper, inductionHypothesis wellModedRest⟩
  | case3 token rest inductionHypothesis =>
      obtain ⟨parenthesized, wellModedRest⟩ := wellModed
      obtain ⟨lexeme, proper, rfl⟩ := (isParenthesized_iff strict).1 parenthesized
      exact List.forall_mem_cons.2
        ⟨isLexical_of_isProper proper, inductionHypothesis wellModedRest⟩
  | case4 text =>
      obtain ⟨⟨_, isNormal⟩, _⟩ := wellModed
      exact List.forall_mem_cons.2 ⟨isLexical_of_isNormal isNormal, List.forall_mem_nil _⟩
  | case5 text closing rest inductionHypothesis =>
      obtain ⟨⟨_, isNormal⟩, rfl, wellModedRest⟩ := wellModed
      have closingProper : (Lexeme.mark .quotation).IsProper := trivial
      have closingLexical : ∀ c ∈ (Token.ofMark .quotation).lexeme.toList, IsLexical c :=
        isLexical_of_isProper closingProper
      exact List.forall_mem_cons.2 ⟨isLexical_of_isNormal isNormal,
        List.forall_mem_cons.2 ⟨closingLexical, inductionHypothesis wellModedRest⟩⟩

/-- The lexemes of well-moded tokens, with spaces between them. -/
theorem isLexical_spaced
    {strict : Bool}
    {mode : Mode}
    {tokens : List Token}
    (wellModed : WellModed strict mode tokens) :
    ∀ c ∈ (spaced tokens).toList, IsLexical c := by
  refine isLexical_intercalate fun text among => ?_
  obtain ⟨token, amongTokens, rfl⟩ := List.mem_map.1 among
  exact wellModed.isLexical token amongTokens

theorem not_isLexical
    {c : Char}
    (noSpace : c ≠ ' ')
    (noLetter : Text.isAlphanumeric c = false)
    (noMark : Mark.ofChar? c = none) :
    ¬ IsLexical c := by
  rintro (isSpace | isLetter | ⟨symbol, rfl⟩)
  · exact noSpace isSpace
  · rw [noLetter] at isLetter
    cases isLetter
  · rw [Mark.ofChar?_char] at noMark
    cases noMark

/-- A line of lexemes and spaces is no comment. -/
theorem lexemes_of_isLexical
    {line : String}
    (lexical : ∀ c ∈ line.toList, IsLexical c) :
    lexemes line = cut line := by
  have noSlash : ¬ IsLexical '/' :=
    not_isLexical (by decide) (by decide) (by decide)
  have noComment : isComment line = false := by
    refine decide_eq_false fun startsWithSlash => ?_
    exact noSlash (lexical '/' (List.mem_of_head? startsWithSlash))
  rw [lexemes, noComment]
  rfl

theorem lines_of_not_mem_feed
    {text : String}
    (nonempty : text ≠ "")
    (oneLine : '\n' ∉ text.toList) :
    Text.lines text = [text] := by
  have isNotNil : text.toList ≠ [] := by
    rwa [Ne, String.toList_eq_nil_iff]
  have noPieces : text.toList.splitOn '\n' = [text.toList] :=
    List.splitOn_eq_singleton oneLine
  simp [Text.lines, Text.splitLines, noPieces, isNotNil]

/-- A text of lexemes and spaces is read as one line. -/
theorem tokenizeText_of_isLexical
    {text : String}
    (lexical : ∀ c ∈ text.toList, IsLexical c)
    (strict : Bool) :
    tokenizeText strict text = tokenize strict [text] := by
  by_cases empty : text = ""
  · rw [empty]
    rfl
  · have noFeed : ¬ IsLexical '\n' :=
      not_isLexical (by decide) (by decide) (by decide)
    have oneLine : '\n' ∉ text.toList :=
      fun among => noFeed (lexical '\n' among)
    rw [tokenizeText, lines_of_not_mem_feed empty oneLine]

/-- Lexemes of a literal are added to a text in progress, with spaces between them. -/
theorem read_texts
    {lexemes : List Lexeme}
    (areTexts : ∀ lexeme ∈ lexemes, lexeme.IsText)
    (strict : Bool)
    (text : String)
    (older : List Token) :
    lexemes.foldl Lexer.read (.holding strict .inQuotation (⟨.string, text⟩ :: older)) =
      .holding strict .inQuotation
        (⟨.string, " ".intercalate (text :: lexemes.map Lexeme.text)⟩ :: older) := by
  induction lexemes generalizing text with
  | nil =>
      simp
  | cons lexeme lexemes inductionHypothesis =>
      obtain ⟨first, others⟩ := List.forall_mem_cons.1 areTexts
      rw [List.foldl_cons, Lexer.read_text first, Lexer.addText_string,
        inductionHypothesis others, List.map_cons, String.intercalate_cons_append,
        String.intercalate_cons_cons]

/-- The first lexemes of a literal are its text. -/
theorem read_literal
    {lexemes : List Lexeme}
    {newest : List Token}
    (areTexts : ∀ lexeme ∈ lexemes, lexeme.IsText)
    (nonempty : joined lexemes ≠ "")
    (opened : newest.head?.map Token.kind = some (.mark .quotation))
    (strict : Bool) :
    lexemes.foldl Lexer.read (.holding strict .inQuotation newest) =
      .holding strict .inQuotation (⟨.string, joined lexemes⟩ :: newest) := by
  have noText : newest.head?.map Token.kind ≠ some .string := by
    rw [opened]
    decide
  cases lexemes with
  | nil =>
      exact absurd rfl nonempty
  | cons lexeme lexemes =>
      obtain ⟨first, others⟩ := List.forall_mem_cons.1 areTexts
      rw [List.foldl_cons, Lexer.read_text first, Lexer.addText_of_ne_string noText,
        read_texts others]
      rfl

/-- The lexemes of a literal and its closing mark are its last two tokens. -/
theorem read_closedLiteral
    {lexemes : List Lexeme}
    {newest : List Token}
    (areTexts : ∀ lexeme ∈ lexemes, lexeme.IsText)
    (opened : newest.head?.map Token.kind = some (.mark .quotation))
    (strict : Bool) :
    (lexemes ++ [Lexeme.mark .quotation]).foldl Lexer.read (.holding strict .inQuotation newest) =
      .holding strict .plain (.ofMark .quotation :: ⟨.string, joined lexemes⟩ :: newest) := by
  rw [List.foldl_append]
  by_cases empty : joined lexemes = ""
  · have noLexemes : lexemes = [] := by
      rw [← cut_joined fun lexeme among => (areTexts lexeme among).1, empty]
      rfl
    rw [noLexemes, List.foldl_nil, List.foldl_cons, List.foldl_nil,
      Lexer.read_closing_of_opened opened]
    rfl
  · rw [read_literal areTexts empty opened]
    rfl

/-- Outside of literals a token is read again from its lexeme. -/
theorem read_tokenOf
    {mode : Mode}
    {lexeme : Lexeme}
    (outside : mode ≠ .inQuotation)
    (proper : lexeme.IsProper)
    (strict : Bool)
    (newest : List Token) :
    (cut (tokenOf strict mode lexeme).lexeme).foldl Lexer.read (.holding strict mode newest) =
      .holding strict (mode.after (tokenOf strict mode lexeme).kind)
        (tokenOf strict mode lexeme :: newest) := by
  have alone : cut (tokenOf strict mode lexeme).lexeme = [lexeme] :=
    cut_text proper
  rw [alone, List.foldl_cons, List.foldl_nil, Lexer.read_of_ne_inQuotation outside]

/-- Reading the lexemes of well-moded tokens gives the tokens and their mode. -/
theorem read_wellModed
    {strict : Bool}
    {mode : Mode}
    {tokens newest : List Token}
    (wellModed : WellModed strict mode tokens)
    (opened : mode = .inQuotation → newest.head?.map Token.kind = some (.mark .quotation)) :
    (tokens.flatMap fun token => cut token.lexeme).foldl Lexer.read
        (.holding strict mode newest) =
      .holding strict (modeAfter mode tokens) (tokens.reverse ++ newest) := by
  fun_induction WellModed strict mode tokens generalizing newest with
  | case1 mode =>
      rfl
  | case2 token rest inductionHypothesis =>
      obtain ⟨plain, wellModedRest⟩ := wellModed
      obtain ⟨lexeme, proper, rfl⟩ := isPlain_iff.1 plain
      rw [List.flatMap_cons, List.foldl_append, read_tokenOf (by decide) proper,
        inductionHypothesis wellModedRest]
      · simp [modeAfter]
      · intro inQuotation
        exact congrArg some (eq_quotation_of_after (by decide) inQuotation)
  | case3 token rest inductionHypothesis =>
      obtain ⟨parenthesized, wellModedRest⟩ := wellModed
      obtain ⟨lexeme, proper, rfl⟩ := (isParenthesized_iff strict).1 parenthesized
      rw [List.flatMap_cons, List.foldl_append, read_tokenOf (by decide) proper,
        inductionHypothesis wellModedRest]
      · simp [modeAfter]
      · intro inQuotation
        exact congrArg some (eq_quotation_of_after (by decide) inQuotation)
  | case4 text =>
      obtain ⟨⟨isString, isNormal⟩, nonempty⟩ := wellModed
      obtain ⟨kind, content⟩ := text
      obtain rfl : kind = .string := isString
      obtain ⟨lexemes, areTexts, rfl⟩ := isNormal_iff.1 isNormal
      have proper : ∀ lexeme ∈ lexemes, lexeme.IsProper :=
        fun lexeme among => (areTexts lexeme among).1
      rw [List.flatMap_singleton, cut_joined proper,
        read_literal areTexts nonempty (opened rfl)]
      rfl
  | case5 text closing rest inductionHypothesis =>
      obtain ⟨⟨isString, isNormal⟩, rfl, wellModedRest⟩ := wellModed
      obtain ⟨kind, content⟩ := text
      obtain rfl : kind = .string := isString
      obtain ⟨lexemes, areTexts, rfl⟩ := isNormal_iff.1 isNormal
      have proper : ∀ lexeme ∈ lexemes, lexeme.IsProper :=
        fun lexeme among => (areTexts lexeme among).1
      have closing : cut (Token.ofMark .quotation).lexeme = [Lexeme.mark .quotation] :=
        cut_mark .quotation
      rw [List.flatMap_cons, List.flatMap_cons, ← List.append_assoc, closing,
        cut_joined proper, List.foldl_append, read_closedLiteral areTexts (opened rfl),
        inductionHypothesis wellModedRest (fun _ => rfl)]
      simp [modeAfter, Mode.after, Token.ofMark]

/-- Well-moded tokens are read again from their spaced lexemes. -/
theorem tokenize_spaced
    {strict : Bool}
    {tokens : List Token}
    (wellModed : WellModed strict .plain tokens) :
    tokenize strict [spaced tokens] = tokens := by
  have lexical : ∀ c ∈ (spaced tokens).toList, IsLexical c :=
    isLexical_spaced wellModed
  have read :
      (Lexer.start strict).scanLine (spaced tokens) =
        .holding strict (modeAfter .plain tokens) (tokens.reverse ++ []) := by
    rw [Lexer.scanLine, lexemes_of_isLexical lexical, cut_spaced]
    exact read_wellModed wellModed nofun
  simp only [tokenize, Lexer.scan, List.foldl_cons, List.foldl_nil, read,
    Lexer.tokens_holding, List.append_nil, List.reverse_reverse]

/-- Well-moded tokens are read again from the text of their spaced lexemes. -/
theorem tokenizeText_spaced
    {strict : Bool}
    {tokens : List Token}
    (wellModed : WellModed strict .plain tokens) :
    tokenizeText strict (spaced tokens) = tokens := by
  have lexical : ∀ c ∈ (spaced tokens).toList, IsLexical c :=
    isLexical_spaced wellModed
  rw [tokenizeText_of_isLexical lexical, tokenize_spaced wellModed]

/--
The well-moded token streams are those that come back from the line of their spaced
lexemes, and just those that lines of text give. So the tokens of any lines come back
from one line.
-/
theorem wellModed_iff_comes_back (strict : Bool) :
    (∀ tokens, WellModed strict .plain tokens → tokenize strict [spaced tokens] = tokens) ∧
      (∀ tokens, WellModed strict .plain tokens ↔ ∃ lines, tokenize strict lines = tokens) ∧
      ∀ lines, tokenize strict [spaced (tokenize strict lines)] = tokenize strict lines := by
  refine ⟨fun tokens wellModed => tokenize_spaced wellModed, fun tokens => ?_, fun lines => ?_⟩
  · constructor
    · intro wellModed
      exact ⟨[spaced tokens], tokenize_spaced wellModed⟩
    · rintro ⟨lines, rfl⟩
      exact wellModed_tokenize strict lines
  · exact tokenize_spaced (wellModed_tokenize strict lines)

/-- A quotation mark and a keyword in parentheses, an empty literal and one that is not closed. -/
def nestedMarks : List Token :=
  [.ofMark .openParen, .ofMark .quotation, ⟨.notFound, "End"⟩, .ofMark .closeParen,
    .ofMark .quotation, .ofText "", .ofMark .quotation,
    .ofMark .quotation, .ofText "( End"]

theorem nestedMarks_come_back :
    WellModed true .plain nestedMarks ∧
      spaced nestedMarks = "( \" End ) \"  \" \" ( End" ∧
      tokenize true ["( \" End ) \"  \" \" ( End"] = nestedMarks := by
  have keyword : IsParenthesized ⟨.notFound, "End"⟩ :=
    ⟨isWord_spelling .close, by decide⟩
  have text : IsNormal "( End" := by
    have opening : (Lexeme.mark .openParen).IsText := ⟨trivial, by decide⟩
    have word : (Lexeme.word "End").IsText := ⟨isWord_spelling .close, nofun⟩
    refine isNormal_iff.2 ⟨[.mark .openParen, .word "End"], ?_, rfl⟩
    simp [opening, word]
  have wellModed : WellModed true .plain nestedMarks :=
    ⟨rfl, rfl, keyword, rfl, rfl, ⟨rfl, .inl rfl⟩, rfl, rfl, ⟨rfl, text⟩, by decide⟩
  have line : spaced nestedMarks = "( \" End ) \"  \" \" ( End" := by
    rfl
  have comesBack := (wellModed_iff_comes_back true).1 nestedMarks wellModed
  rw [line] at comesBack
  exact ⟨wellModed, line, comesBack⟩

end WindowLang
