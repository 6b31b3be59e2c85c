import WindowLang.Proofs.Lexing.Cutting

namespace WindowLang

/-!
# What one lexeme does

Outside of literals every lexeme gives one token. Within a literal a lexeme is added to
the text, and the closing mark ends it, behind an empty text if there was none. A lexer
that knows the kind of its last token goes on knowing it.
-/

/-- The lexer that holds some tokens, the newest first, and knows the kind of the last one. -/
def Lexer.holding (strict : Bool) (mode : Mode) (newest : List Token) : Lexer where
  strict := strict
  mode := mode
  newest := newest
  last := newest.head?.map Token.kind

@[simp] theorem Lexer.strict_holding
    (strict : Bool)
    (mode : Mode)
    (newest : List Token) :
    (Lexer.holding strict mode newest).strict = strict :=
  rfl

@[simp] theorem Lexer.mode_holding
    (strict : Bool)
    (mode : Mode)
    (newest : List Token) :
    (Lexer.holding strict mode newest).mode = mode :=
  rfl

@[simp] theorem Lexer.tokens_holding
    (strict : Bool)
    (mode : Mode)
    (newest : List Token) :
    (Lexer.holding strict mode newest).tokens = newest.reverse :=
  rfl

/-- The token that a lexeme gives outside of literals. -/
def tokenOf (strict : Bool) (mode : Mode) (lexeme : Lexeme) : Token where
  kind := (Lexer.holding strict mode []).kindOf lexeme
  lexeme := lexeme.text

/-- Outside of literals a lexeme is added as a token. -/
theorem Lexer.read_of_ne_inQuotation
    {mode : Mode}
    (outside : mode ≠ .inQuotation)
    (strict : Bool)
    (newest : List Token)
    (lexeme : Lexeme) :
    (Lexer.holding strict mode newest).read lexeme =
      .holding strict (mode.after (tokenOf strict mode lexeme).kind)
        (tokenOf strict mode lexeme :: newest) := by
  cases mode with
  | plain | inParenthesis =>
      cases lexeme with
      | mark symbol =>
          rfl
      | word word =>
          rfl
  | inQuotation =>
      exact absurd rfl outside

theorem Lexer.with_mode_of_eq
    {lexer : Lexer}
    {mode : Mode}
    (same : lexer.mode = mode) :
    { lexer with mode := mode } = lexer := by
  rw [← same]

/-- Text that is added to a literal does not end it. -/
@[simp] theorem Lexer.mode_addText
    (lexer : Lexer)
    (piece : String) :
    (lexer.addText piece).mode = lexer.mode := by
  unfold Lexer.addText
  split
  · split
    · rfl
    · rfl
  · rfl

/-- Within a literal a lexeme other than the closing mark is added to the text. -/
theorem Lexer.read_text
    {lexeme : Lexeme}
    (isText : lexeme.IsText)
    (strict : Bool)
    (newest : List Token) :
    (Lexer.holding strict .inQuotation newest).read lexeme =
      (Lexer.holding strict .inQuotation newest).addText lexeme.text := by
  have keepsMode :
      ((Lexer.holding strict .inQuotation newest).addText lexeme.text).mode = .inQuotation :=
    Lexer.mode_addText _ _
  cases lexeme with
  | word word =>
      exact Lexer.with_mode_of_eq keepsMode
  | mark symbol =>
      cases symbol with
      | quotation =>
          exact absurd rfl isText.2
      | _ =>
          exact Lexer.with_mode_of_eq keepsMode

/-- The first piece of a literal's text is a token of its own. -/
theorem Lexer.addText_of_ne_string
    {newest : List Token}
    (noText : newest.head?.map Token.kind ≠ some .string)
    (strict : Bool)
    (mode : Mode)
    (piece : String) :
    (Lexer.holding strict mode newest).addText piece =
      .holding strict mode (⟨.string, piece⟩ :: newest) :=
  if_neg noText

/-- Further pieces of a literal's text are added to the last token. -/
theorem Lexer.addText_string
    (strict : Bool)
    (mode : Mode)
    (text piece : String)
    (older : List Token) :
    (Lexer.holding strict mode (⟨.string, text⟩ :: older)).addText piece =
      .holding strict mode (⟨.string, text ++ " " ++ piece⟩ :: older) :=
  rfl

/-- The closing mark of a literal without text is added behind an empty text. -/
theorem Lexer.read_closing_of_opened
    {newest : List Token}
    (opened : newest.head?.map Token.kind = some (.mark .quotation))
    (strict : Bool) :
    (Lexer.holding strict .inQuotation newest).read (.mark .quotation) =
      .holding strict .plain (.ofMark .quotation :: ⟨.string, ""⟩ :: newest) := by
  have withText :
      (Lexer.holding strict .inQuotation newest).withText =
        .holding strict .inQuotation (⟨.string, ""⟩ :: newest) :=
    if_pos opened
  change { (Lexer.holding strict .inQuotation newest).withText.add _ _ with mode := .plain } = _
  rw [withText]
  rfl

/-- The closing mark of a literal with text is added behind the text. -/
theorem Lexer.read_closing_of_ne_quotation
    {newest : List Token}
    (hasText : newest.head?.map Token.kind ≠ some (.mark .quotation))
    (strict : Bool) :
    (Lexer.holding strict .inQuotation newest).read (.mark .quotation) =
      .holding strict .plain (.ofMark .quotation :: newest) := by
  have withText :
      (Lexer.holding strict .inQuotation newest).withText =
        .holding strict .inQuotation newest :=
    if_neg hasText
  change { (Lexer.holding strict .inQuotation newest).withText.add _ _ with mode := .plain } = _
  rw [withText]
  rfl

/-- Where the lexemes are cut into lines does not matter to a lexer. -/
theorem Lexer.scan_eq_foldl
    (lexer : Lexer)
    (lines : List String) :
    lexer.scan lines = (lines.flatMap lexemes).foldl Lexer.read lexer := by
  rw [List.foldl_flatMap]
  rfl

@[simp] theorem Lexer.strict_withText (lexer : Lexer) :
    lexer.withText.strict = lexer.strict := by
  unfold Lexer.withText
  split
  · rfl
  · rfl

@[simp] theorem Lexer.strict_addText
    (lexer : Lexer)
    (piece : String) :
    (lexer.addText piece).strict = lexer.strict := by
  unfold Lexer.addText
  split
  · split
    · rfl
    · rfl
  · rfl

@[simp] theorem Lexer.strict_read
    (lexer : Lexer)
    (lexeme : Lexeme) :
    (lexer.read lexeme).strict = lexer.strict := by
  change (lexer.place _ _).strict = lexer.strict
  unfold Lexer.place
  split
  · split
    · exact lexer.strict_withText
    · exact lexer.strict_addText _
  · rfl

@[simp] theorem Lexer.strict_scan
    (lexer : Lexer)
    (lines : List String) :
    (lexer.scan lines).strict = lexer.strict := by
  rw [Lexer.scan_eq_foldl]
  refine List.foldlRecOn (motive := fun reached : Lexer => reached.strict = lexer.strict) _ _ rfl ?_
  intro reached same lexeme _
  rw [Lexer.strict_read, same]

end WindowLang
