import WindowLang.Proofs.Lexing.Streams

namespace WindowLang

/-!
# Strict reading of tokens

Whether only numerals are numbers outside of parentheses makes a difference to the
kind of some tokens and to nothing else. Read with and without it, the same lexemes
lead two lexers in step: their modes agree, and the tokens of the one are those of the
other with the numbers that are no numerals taken for words without meaning.
-/

/-- The token as a strict lexer gives it: a number that is no numeral has no meaning. -/
def Token.strictly (token : Token) : Token :=
  if token.kind = .number ∧ Text.isNumeral token.lexeme.toList = false then
    { token with kind := .notFound }
  else
    token

theorem Token.strictly_of_ne_number
    {token : Token}
    (noNumber : token.kind ≠ .number) :
    token.strictly = token :=
  if_neg fun isNumber => noNumber isNumber.1

@[simp] theorem Token.strictly_ofMark (mark : Mark) :
    (Token.ofMark mark).strictly = .ofMark mark :=
  Token.strictly_of_ne_number nofun

@[simp] theorem Token.strictly_string (text : String) :
    Token.strictly ⟨.string, text⟩ = ⟨.string, text⟩ :=
  Token.strictly_of_ne_number nofun

/-- Numbers and words without meaning lead to no other mode. -/
@[simp] theorem Mode.after_strictly
    (mode : Mode)
    (token : Token) :
    mode.after token.strictly.kind = mode.after token.kind := by
  unfold Token.strictly
  split
  · rename_i changed
    rw [changed.1]
    cases mode with
    | plain | inParenthesis | inQuotation =>
        rfl
  · rfl

/-- A word outside of parentheses and literals is what it was, read strictly. -/
theorem Lexer.plainKind_true (word : String) :
    Token.mk (Lexer.plainKind true word) word =
      (Token.mk (Lexer.plainKind false word) word).strictly := by
  unfold Lexer.plainKind
  cases Keyword.ofWord? word with
  | some keyword =>
      simp [Token.strictly]
  | none =>
      cases isNumeral : Text.isNumeral word.toList with
      | true | false =>
          simp [Token.strictly, isNumeral]

/-- Outside of literals a strict lexer gives the token that it was, read strictly. -/
theorem tokenOf_true
    {mode : Mode}
    (outside : mode ≠ .inQuotation)
    (lexeme : Lexeme) :
    tokenOf true mode lexeme = (tokenOf false mode lexeme).strictly := by
  cases lexeme with
  | mark symbol =>
      exact (Token.strictly_ofMark symbol).symm
  | word word =>
      cases mode with
      | plain =>
          exact Lexer.plainKind_true word
      | inParenthesis =>
          cases isNumeral : Text.isNumeral word.toList with
          | true | false =>
              simp [tokenOf, Lexer.kindOf, Lexeme.text, Token.strictly, isNumeral]
      | inQuotation =>
          exact absurd rfl outside

/-- Strictness does not change which kind of token the last one is, unless it is a number. -/
theorem head?_strictly_iff
    (kind : Kind)
    (noNumber : kind ≠ .number)
    (meaning : kind ≠ .notFound)
    (newest : List Token) :
    (newest.map Token.strictly).head?.map Token.kind = some kind ↔
      newest.head?.map Token.kind = some kind := by
  cases newest with
  | nil =>
      rfl
  | cons token older =>
      simp only [List.map_cons, List.head?_cons, Option.map_some, Option.some.injEq]
      unfold Token.strictly
      split
      · rename_i changed
        rw [changed.1]
        simp [noNumber.symm, meaning.symm]
      · rfl

/-- The second lexer is strict, the first is not, and otherwise they hold the same. -/
inductive Lexer.InStep : Lexer → Lexer → Prop where
  | holding
      (mode : Mode)
      (newest : List Token) :
      InStep (.holding false mode newest) (.holding true mode (newest.map Token.strictly))

theorem Lexer.InStep.start : Lexer.InStep (.start false) (.start true) :=
  .holding .plain []

/-- The closing mark of a literal keeps two lexers in step. -/
theorem Lexer.inStep_closing (newest : List Token) :
    Lexer.InStep ((Lexer.holding false .inQuotation newest).read (.mark .quotation))
      ((Lexer.holding true .inQuotation (newest.map Token.strictly)).read (.mark .quotation)) := by
  have openedToo := head?_strictly_iff (.mark .quotation) nofun nofun newest
  by_cases opened : newest.head?.map Token.kind = some (.mark .quotation)
  · have inStep := Lexer.InStep.holding .plain (.ofMark .quotation :: ⟨.string, ""⟩ :: newest)
    rw [Lexer.read_closing_of_opened opened, Lexer.read_closing_of_opened (openedToo.2 opened)]
    simpa only [List.map_cons, Token.strictly_ofMark, Token.strictly_string] using inStep
  · have inStep := Lexer.InStep.holding .plain (.ofMark .quotation :: newest)
    rw [Lexer.read_closing_of_ne_quotation opened,
      Lexer.read_closing_of_ne_quotation (mt openedToo.1 opened)]
    simpa only [List.map_cons, Token.strictly_ofMark] using inStep

/-- A piece of a literal's text keeps two lexers in step. -/
theorem Lexer.inStep_addText
    (newest : List Token)
    (piece : String) :
    Lexer.InStep ((Lexer.holding false .inQuotation newest).addText piece)
      ((Lexer.holding true .inQuotation (newest.map Token.strictly)).addText piece) := by
  have textToo := head?_strictly_iff .string nofun nofun newest
  by_cases hasText : newest.head?.map Token.kind = some .string
  · cases newest with
    | nil =>
        cases hasText
    | cons token older =>
        obtain ⟨kind, text⟩ := token
        obtain rfl : kind = .string := Option.some.inj hasText
        have inStep := Lexer.InStep.holding .inQuotation (⟨.string, text ++ " " ++ piece⟩ :: older)
        rw [List.map_cons, Token.strictly_string, Lexer.addText_string, Lexer.addText_string]
        simpa only [List.map_cons, Token.strictly_string] using inStep
  · have inStep := Lexer.InStep.holding .inQuotation (⟨.string, piece⟩ :: newest)
    rw [Lexer.addText_of_ne_string hasText, Lexer.addText_of_ne_string (mt textToo.1 hasText)]
    simpa only [List.map_cons, Token.strictly_string] using inStep

/-- A lexeme keeps two lexers in step. -/
theorem Lexer.InStep.read
    {lexer strict : Lexer}
    {lexeme : Lexeme}
    (inStep : Lexer.InStep lexer strict)
    (proper : lexeme.IsProper) :
    Lexer.InStep (lexer.read lexeme) (strict.read lexeme) := by
  cases inStep with
  | holding mode newest =>
      by_cases inQuotation : mode = .inQuotation
      · subst inQuotation
        by_cases closes : lexeme = .mark .quotation
        · rw [closes]
          exact Lexer.inStep_closing newest
        · have isText : lexeme.IsText := ⟨proper, closes⟩
          rw [Lexer.read_text isText, Lexer.read_text isText]
          exact Lexer.inStep_addText newest lexeme.text
      · rw [Lexer.read_of_ne_inQuotation inQuotation, Lexer.read_of_ne_inQuotation inQuotation,
          tokenOf_true inQuotation, Mode.after_strictly]
        exact .holding _ (tokenOf false mode lexeme :: newest)

/-- Lines keep two lexers in step. -/
theorem Lexer.InStep.scan
    {lexer strict : Lexer}
    (inStep : Lexer.InStep lexer strict)
    (lines : List String) :
    Lexer.InStep (lexer.scan lines) (strict.scan lines) := by
  have proper : ∀ lexeme ∈ lines.flatMap lexemes, lexeme.IsProper :=
    fun lexeme among => isProper_of_mem_lines among
  rw [Lexer.scan_eq_foldl, Lexer.scan_eq_foldl]
  generalize lines.flatMap lexemes = lexemes at proper
  induction lexemes generalizing lexer strict with
  | nil =>
      exact inStep
  | cons lexeme lexemes inductionHypothesis =>
      obtain ⟨first, others⟩ := List.forall_mem_cons.1 proper
      exact inductionHypothesis (inStep.read first) others

/-- The tokens of lexers in step are those of the first, read strictly. -/
theorem Lexer.InStep.tokens_eq
    {lexer strict : Lexer}
    (inStep : Lexer.InStep lexer strict) :
    strict.tokens = lexer.tokens.map Token.strictly := by
  cases inStep with
  | holding mode newest =>
      rw [Lexer.tokens_holding, Lexer.tokens_holding, List.map_reverse]

/-- A strict lexer gives the same tokens, read strictly. -/
theorem tokenize_true (lines : List String) :
    tokenize true lines = (tokenize false lines).map Token.strictly :=
  (Lexer.InStep.start.scan lines).tokens_eq

end WindowLang
