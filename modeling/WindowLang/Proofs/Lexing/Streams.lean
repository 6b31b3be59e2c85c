import WindowLang.Proofs.Lexing.Steps

namespace WindowLang

/-!
# The token streams of lexers

The tokens that lexemes give are those that can stand where the lexemes are read,
and the lexemes of a literal are joined to one text, which is in progress until the
closing mark. Reading keeps the tokens well moded and the mode the one that they
lead to, so every token stream that a lexer gives is well moded.
-/

theorem spelling_of_ofWord?
    {word : String}
    {keyword : Keyword}
    (isKeyword : Keyword.ofWord? word = some keyword) :
    keyword.spelling = word := by
  simpa using List.find?_some isKeyword

theorem isWord_spelling (keyword : Keyword) :
    IsWord keyword.spelling := by
  have letters : keyword.spelling.toList.all Text.isAlphanumeric = true := by
    cases keyword <;> rfl
  have nonempty : keyword.spelling ≠ "" := by
    cases keyword <;> decide
  exact ⟨nonempty, List.all_eq_true.1 letters⟩

/-- Outside of parentheses and literals tokens are what lexemes give there. -/
theorem isPlain_iff
    {strict : Bool}
    {token : Token} :
    IsPlain strict token ↔
      ∃ lexeme : Lexeme, lexeme.IsProper ∧ token = tokenOf strict .plain lexeme := by
  obtain ⟨kind, text⟩ := token
  constructor
  · intro plain
    cases kind with
    | mark symbol =>
        obtain rfl : text = String.singleton symbol.char := plain
        exact ⟨.mark symbol, trivial, rfl⟩
    | keyword word =>
        obtain rfl : text = word.spelling := plain
        refine ⟨.word word.spelling, isWord_spelling word, ?_⟩
        simp [tokenOf, Lexer.kindOf, Lexer.plainKind, Lexeme.text]
    | number =>
        obtain ⟨isWord, noKeyword, isNumeral⟩ := plain
        refine ⟨.word text, isWord, ?_⟩
        cases strict with
        | false =>
            simp [tokenOf, Lexer.kindOf, Lexer.plainKind, Lexeme.text, noKeyword]
        | true =>
            simp [tokenOf, Lexer.kindOf, Lexer.plainKind, Lexeme.text, noKeyword, isNumeral rfl]
    | notFound =>
        obtain ⟨rfl, isWord, noKeyword, noNumeral⟩ := plain
        refine ⟨.word text, isWord, ?_⟩
        simp [tokenOf, Lexer.kindOf, Lexer.plainKind, Lexeme.text, noKeyword, noNumeral]
    | string | endOfFile =>
        exact plain.elim
  · rintro ⟨lexeme, proper, same⟩
    rw [same]
    cases lexeme with
    | mark symbol =>
        exact rfl
    | word word =>
        cases isKeyword : Keyword.ofWord? word with
        | some keyword =>
            simp [IsPlain, tokenOf, Lexer.kindOf, Lexer.plainKind, Lexeme.text, isKeyword,
              spelling_of_ofWord? isKeyword]
        | none =>
            have isWord : IsWord word := proper
            cases strict with
            | false =>
                simp [IsPlain, tokenOf, Lexer.kindOf, Lexer.plainKind, Lexeme.text, isKeyword,
                  isWord]
            | true =>
                cases isNumeral : Text.isNumeral word.toList with
                | true =>
                    simp [IsPlain, tokenOf, Lexer.kindOf, Lexer.plainKind, Lexeme.text,
                      isKeyword, isWord, isNumeral]
                | false =>
                    simp [IsPlain, tokenOf, Lexer.kindOf, Lexer.plainKind, Lexeme.text,
                      isKeyword, isWord, isNumeral]

theorem isWord_of_isNumeral
    {text : String}
    (isNumeral : Text.isNumeral text.toList = true) :
    IsWord text := by
  simp only [Text.isNumeral, Bool.and_eq_true, List.all_eq_true] at isNumeral
  obtain ⟨nonempty, digits⟩ := isNumeral
  constructor
  · rintro rfl
    simp at nonempty
  · intro c among
    exact Text.isAlphanumeric_of_isDigit (digits c among)

/-- Between parentheses tokens are what lexemes give there. -/
theorem isParenthesized_iff
    (strict : Bool)
    {token : Token} :
    IsParenthesized token ↔
      ∃ lexeme : Lexeme, lexeme.IsProper ∧ token = tokenOf strict .inParenthesis lexeme := by
  obtain ⟨kind, text⟩ := token
  constructor
  · intro parenthesized
    cases kind with
    | mark symbol =>
        obtain rfl : text = String.singleton symbol.char := parenthesized
        exact ⟨.mark symbol, trivial, rfl⟩
    | number =>
        have isNumeral : Text.isNumeral text.toList = true := parenthesized
        refine ⟨.word text, isWord_of_isNumeral isNumeral, ?_⟩
        simp [tokenOf, Lexer.kindOf, Lexeme.text, isNumeral]
    | notFound =>
        obtain ⟨isWord, noNumeral⟩ := parenthesized
        refine ⟨.word text, isWord, ?_⟩
        simp [tokenOf, Lexer.kindOf, Lexeme.text, noNumeral]
    | keyword word =>
        exact parenthesized.elim
    | string | endOfFile =>
        exact parenthesized.elim
  · rintro ⟨lexeme, proper, same⟩
    rw [same]
    cases lexeme with
    | mark symbol =>
        exact rfl
    | word word =>
        have isWord : IsWord word := proper
        cases isNumeral : Text.isNumeral word.toList with
        | true =>
            simp [IsParenthesized, tokenOf, Lexer.kindOf, Lexeme.text, isNumeral]
        | false =>
            simp [IsParenthesized, tokenOf, Lexer.kindOf, Lexeme.text, isNumeral, isWord]

/-- A literal begins with a quotation mark. -/
theorem eq_quotation_of_after
    {mode : Mode}
    {kind : Kind}
    (outside : mode ≠ .inQuotation)
    (opens : mode.after kind = .inQuotation) :
    kind = .mark .quotation := by
  unfold Mode.after at opens
  split at opens
  · rfl
  · cases opens
  · cases opens
  · cases opens
  · exact absurd opens outside

@[simp] theorem modeAfter_append
    (mode : Mode)
    (first second : List Token) :
    modeAfter mode (first ++ second) = modeAfter (modeAfter mode first) second :=
  List.foldl_append

/-- The last token is not the text of a literal in progress. -/
def IsSettled (tokens : List Token) : Prop :=
  tokens.getLast?.map Token.kind ≠ some .string

theorem IsSettled.of_cons
    {token : Token}
    {tokens : List Token}
    (settled : IsSettled (token :: tokens)) :
    IsSettled tokens := by
  cases tokens with
  | nil =>
      simp [IsSettled]
  | cons second tokens =>
      simpa [IsSettled] using settled

/-- Well-moded tokens may go on where no text is in progress. -/
theorem WellModed.append
    {strict : Bool}
    {mode : Mode}
    {first second : List Token}
    (wellModed : WellModed strict mode first)
    (settled : IsSettled first)
    (others : WellModed strict (modeAfter mode first) second) :
    WellModed strict mode (first ++ second) := by
  fun_induction WellModed strict mode first with
  | case1 mode =>
      exact others
  | case2 token rest inductionHypothesis =>
      exact ⟨wellModed.1, inductionHypothesis wellModed.2 settled.of_cons others⟩
  | case3 token rest inductionHypothesis =>
      exact ⟨wellModed.1, inductionHypothesis wellModed.2 settled.of_cons others⟩
  | case4 text =>
      obtain ⟨⟨isString, _⟩, _⟩ := wellModed
      simp [IsSettled, isString] at settled
  | case5 text closing rest inductionHypothesis =>
      obtain ⟨⟨isString, isNormal⟩, rfl, wellModedRest⟩ := wellModed
      have sameMode :
          modeAfter .inQuotation (text :: .ofMark .quotation :: rest) = modeAfter .plain rest := by
        simp only [modeAfter, List.foldl_cons, isString]
        rfl
      rw [sameMode] at others
      exact ⟨⟨isString, isNormal⟩, rfl,
        inductionHypothesis wellModedRest settled.of_cons.of_cons others⟩

/-- Every string token of a well-moded stream holds a normal text. -/
theorem WellModed.isNormal
    {strict : Bool}
    {mode : Mode}
    {tokens : List Token}
    (wellModed : WellModed strict mode tokens) :
    ∀ token ∈ tokens, token.kind = .string → IsNormal token.lexeme := by
  fun_induction WellModed strict mode tokens with
  | case1 mode =>
      exact List.forall_mem_nil _
  | case2 token rest inductionHypothesis =>
      obtain ⟨plain, wellModedRest⟩ := wellModed
      refine List.forall_mem_cons.2 ⟨fun isString => ?_, inductionHypothesis wellModedRest⟩
      simp [IsPlain, isString] at plain
  | case3 token rest inductionHypothesis =>
      obtain ⟨parenthesized, wellModedRest⟩ := wellModed
      refine List.forall_mem_cons.2 ⟨fun isString => ?_, inductionHypothesis wellModedRest⟩
      simp [IsParenthesized, isString] at parenthesized
  | case4 text =>
      obtain ⟨⟨_, isNormal⟩, _⟩ := wellModed
      exact List.forall_mem_cons.2 ⟨fun _ => isNormal, List.forall_mem_nil _⟩
  | case5 text closing rest inductionHypothesis =>
      obtain ⟨⟨_, isNormal⟩, rfl, wellModedRest⟩ := wellModed
      refine List.forall_mem_cons.2 ⟨fun _ => isNormal, ?_⟩
      exact List.forall_mem_cons.2 ⟨nofun,
        inductionHypothesis wellModedRest⟩

/--
A lexer knows the kind of its last token, its tokens are well moded and its mode is
the one that they lead to. A literal has just been opened, or its text is in progress
and holds a lexeme.
-/
inductive Lexer.IsSound : Lexer → Prop where
  | settled
      {strict : Bool}
      {mode : Mode}
      {newest : List Token}
      (wellModed : WellModed strict .plain newest.reverse)
      (reached : modeAfter .plain newest.reverse = mode)
      (settled : IsSettled newest.reverse)
      (opened : mode = .inQuotation → newest.head?.map Token.kind = some (.mark .quotation)) :
      IsSound (.holding strict mode newest)
  | inText
      {strict : Bool}
      {older : List Token}
      {text : String}
      (wellModed : WellModed strict .plain older.reverse)
      (reached : modeAfter .plain older.reverse = .inQuotation)
      (settled : IsSettled older.reverse)
      (isNormal : IsNormal text)
      (nonempty : text ≠ "") :
      IsSound (.holding strict .inQuotation (⟨.string, text⟩ :: older))

theorem Lexer.isSound_start (strict : Bool) :
    (Lexer.start strict).IsSound := by
  have settled : IsSettled [] := by
    simp [IsSettled]
  have sound : Lexer.IsSound (.holding strict .plain []) :=
    .settled trivial rfl settled nofun
  exact sound

theorem IsSettled.concat
    {token : Token}
    (noText : token.kind ≠ .string)
    (tokens : List Token) :
    IsSettled (tokens ++ [token]) := by
  simpa [IsSettled] using noText

/-- A token given outside of literals keeps a lexer sound. -/
theorem Lexer.isSound_cons
    {strict : Bool}
    {mode : Mode}
    {newest : List Token}
    {token : Token}
    (wellModed : WellModed strict .plain newest.reverse)
    (reached : modeAfter .plain newest.reverse = mode)
    (settled : IsSettled newest.reverse)
    (fits : WellModed strict mode [token])
    (noText : token.kind ≠ .string)
    (opened : mode.after token.kind = .inQuotation → token.kind = .mark .quotation) :
    Lexer.IsSound (.holding strict (mode.after token.kind) (token :: newest)) := by
  refine .settled ?_ ?_ ?_ ?_
  · rw [List.reverse_cons]
    exact wellModed.append settled (reached ▸ fits)
  · rw [List.reverse_cons, modeAfter_append, reached]
    rfl
  · rw [List.reverse_cons]
    exact .concat noText _
  · intro inQuotation
    exact congrArg some (opened inQuotation)

/-- A literal that is closed keeps a lexer sound. -/
theorem Lexer.isSound_close
    {strict : Bool}
    {older : List Token}
    {text : String}
    (wellModed : WellModed strict .plain older.reverse)
    (reached : modeAfter .plain older.reverse = .inQuotation)
    (settled : IsSettled older.reverse)
    (isNormal : IsNormal text) :
    Lexer.IsSound (.holding strict .plain (.ofMark .quotation :: ⟨.string, text⟩ :: older)) := by
  have tokens :
      List.reverse (.ofMark .quotation :: ⟨.string, text⟩ :: older) =
        older.reverse ++ [⟨.string, text⟩, .ofMark .quotation] := by
    simp
  refine .settled ?_ ?_ ?_ nofun
  · rw [tokens]
    refine wellModed.append settled ?_
    rw [reached]
    exact ⟨⟨rfl, isNormal⟩, rfl, trivial⟩
  · rw [tokens, modeAfter_append, reached]
    rfl
  · rw [tokens]
    simp [IsSettled, Token.ofMark]

/-- Reading a lexeme keeps a lexer sound. -/
theorem Lexer.IsSound.read
    {lexer : Lexer}
    {lexeme : Lexeme}
    (sound : lexer.IsSound)
    (proper : lexeme.IsProper) :
    (lexer.read lexeme).IsSound := by
  cases sound with
  | @settled strict mode newest wellModed reached settled opened =>
      cases mode with
      | plain =>
          have plain : IsPlain strict (tokenOf strict .plain lexeme) :=
            isPlain_iff.2 ⟨lexeme, proper, rfl⟩
          rw [Lexer.read_of_ne_inQuotation (by decide)]
          refine isSound_cons wellModed reached settled ⟨plain, trivial⟩ ?_
            (eq_quotation_of_after (by decide))
          intro isString
          simp [IsPlain, isString] at plain
      | inParenthesis =>
          have parenthesized : IsParenthesized (tokenOf strict .inParenthesis lexeme) :=
            (isParenthesized_iff strict).2 ⟨lexeme, proper, rfl⟩
          rw [Lexer.read_of_ne_inQuotation (by decide)]
          refine isSound_cons wellModed reached settled ⟨parenthesized, trivial⟩ ?_
            (eq_quotation_of_after (by decide))
          intro isString
          simp [IsParenthesized, isString] at parenthesized
      | inQuotation =>
          have lastIsMark : newest.head?.map Token.kind = some (.mark .quotation) :=
            opened rfl
          by_cases closes : lexeme = .mark .quotation
          · rw [closes, Lexer.read_closing_of_opened lastIsMark]
            exact isSound_close wellModed reached settled (.inl rfl)
          · have isText : lexeme.IsText := ⟨proper, closes⟩
            have noText : newest.head?.map Token.kind ≠ some .string := by
              rw [lastIsMark]
              decide
            rw [Lexer.read_text isText, Lexer.addText_of_ne_string noText]
            exact .inText wellModed reached settled (isNormal_text isText)
              (text_ne_empty proper)
  | @inText strict older text wellModed reached settled isNormal nonempty =>
      by_cases closes : lexeme = .mark .quotation
      · have hasText :
            (⟨.string, text⟩ :: older : List Token).head?.map Token.kind ≠
              some (.mark .quotation) := by
          simp
        rw [closes, Lexer.read_closing_of_ne_quotation hasText]
        exact isSound_close wellModed reached settled isNormal
      · have isText : lexeme.IsText := ⟨proper, closes⟩
        rw [Lexer.read_text isText, Lexer.addText_string]
        refine .inText wellModed reached settled (isNormal.append_space nonempty isText) ?_
        simp [nonempty]

/-- Lexemes keep a lexer sound. -/
theorem Lexer.IsSound.foldl
    {lexer : Lexer}
    {lexemes : List Lexeme}
    (sound : lexer.IsSound)
    (proper : ∀ lexeme ∈ lexemes, lexeme.IsProper) :
    (lexemes.foldl Lexer.read lexer).IsSound :=
  List.foldlRecOn _ _ sound fun _ soundSoFar lexeme among => soundSoFar.read (proper lexeme among)

/-- Reading lines keeps a lexer sound. -/
theorem Lexer.IsSound.scan
    {lexer : Lexer}
    (sound : lexer.IsSound)
    (lines : List String) :
    (lexer.scan lines).IsSound := by
  rw [Lexer.scan_eq_foldl]
  exact sound.foldl fun _ among => isProper_of_mem_lines among

/-- The tokens of a sound lexer are well moded. -/
theorem Lexer.IsSound.wellModed
    {lexer : Lexer}
    (sound : lexer.IsSound) :
    WellModed lexer.strict .plain lexer.tokens := by
  cases sound with
  | settled wellModed reached settled opened =>
      exact wellModed
  | @inText strict older text wellModed reached settled isNormal nonempty =>
      rw [Lexer.tokens_holding, List.reverse_cons]
      refine wellModed.append settled ?_
      rw [reached]
      exact ⟨⟨rfl, isNormal⟩, nonempty⟩

/-- Every token stream that a lexer gives is well moded. -/
theorem wellModed_tokenize
    (strict : Bool)
    (lines : List String) :
    WellModed strict .plain (tokenize strict lines) := by
  have wellModed := ((Lexer.isSound_start strict).scan lines).wellModed
  rwa [Lexer.strict_scan] at wellModed

end WindowLang
