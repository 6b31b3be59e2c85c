import WindowLang.Proofs.Lexing.Streams

namespace WindowLang

/-!
# The state of a lexer

All that a lexer knows is told by its tokens: its mode is the one that their kinds
lead to, and the kind that it keeps is the kind of the last of them. Every token is
one that can stand in the mode that the tokens before it lead to.
-/

/-- A token can stand where the tokens before it have led from a mode. -/
def StandsIn
    (strict : Bool)
    (mode : Mode)
    (before : List Token)
    (token : Token)
    (after : List Token) :
    Prop :=
  match modeAfter mode before with
  | .plain => IsPlain strict token
  | .inParenthesis => IsParenthesized token
  | .inQuotation =>
      -- The text of a literal, which is empty only if the literal is closed.
      (IsLiteralText token ∧
        (after = [] ∧ token.lexeme ≠ "" ∨ after.head? = some (.ofMark .quotation))) ∨
      -- The mark that closes a literal, behind its text.
      (token = .ofMark .quotation ∧ before.getLast?.map Token.kind = some .string)

theorem getLast?_cons_of_kind
    {tokens : List Token}
    {kind : Kind}
    (last : tokens.getLast?.map Token.kind = some kind)
    (token : Token) :
    (token :: tokens).getLast?.map Token.kind = some kind := by
  cases tokens with
  | nil =>
      cases last
  | cons second tokens =>
      rwa [List.getLast?_cons_cons]

/-- More tokens in front change nothing if they lead to where the others start. -/
theorem StandsIn.cons
    {strict : Bool}
    {mode : Mode}
    {first token : Token}
    {before after : List Token}
    (stands : StandsIn strict (mode.after first.kind) before token after) :
    StandsIn strict mode (first :: before) token after := by
  have sameMode : modeAfter mode (first :: before) = modeAfter (mode.after first.kind) before :=
    rfl
  unfold StandsIn at stands ⊢
  rw [sameMode]
  split at stands
  · exact stands
  · exact stands
  · rcases stands with isText | ⟨closes, behindText⟩
    · exact .inl isText
    · exact .inr ⟨closes, getLast?_cons_of_kind behindText first⟩

/-- Every token of a well-moded list stands in the mode that it needs. -/
theorem WellModed.standsIn
    {strict : Bool}
    {mode : Mode}
    {before after : List Token}
    {token : Token}
    (wellModed : WellModed strict mode (before ++ token :: after)) :
    StandsIn strict mode before token after := by
  generalize split : before ++ token :: after = tokens at wellModed
  fun_induction WellModed strict mode tokens generalizing before with
  | case1 mode =>
      simp at split
  | case2 first rest inductionHypothesis =>
      obtain ⟨plain, wellModedRest⟩ := wellModed
      cases before with
      | nil =>
          obtain ⟨rfl, _⟩ := List.cons.inj split
          exact plain
      | cons head before =>
          obtain ⟨rfl, splitRest⟩ := List.cons.inj split
          exact .cons (inductionHypothesis splitRest wellModedRest)
  | case3 first rest inductionHypothesis =>
      obtain ⟨parenthesized, wellModedRest⟩ := wellModed
      cases before with
      | nil =>
          obtain ⟨rfl, _⟩ := List.cons.inj split
          exact parenthesized
      | cons head before =>
          obtain ⟨rfl, splitRest⟩ := List.cons.inj split
          exact .cons (inductionHypothesis splitRest wellModedRest)
  | case4 text =>
      obtain ⟨isText, nonempty⟩ := wellModed
      cases before with
      | nil =>
          obtain ⟨rfl, rfl⟩ := List.cons.inj split
          exact .inl ⟨isText, .inl ⟨rfl, nonempty⟩⟩
      | cons head before =>
          simp at split
  | case5 text closing rest inductionHypothesis =>
      obtain ⟨isText, rfl, wellModedRest⟩ := wellModed
      have inText : Mode.inQuotation.after text.kind = .inQuotation := by
        rw [isText.1]
        rfl
      rcases before with _ | ⟨head, _ | ⟨second, before⟩⟩
      · obtain ⟨rfl, rfl⟩ := List.cons.inj split
        exact .inl ⟨isText, .inr rfl⟩
      · obtain ⟨rfl, splitTail⟩ := List.cons.inj split
        obtain ⟨rfl, _⟩ := List.cons.inj splitTail
        have mode : modeAfter .inQuotation [head] = .inQuotation := inText
        unfold StandsIn
        rw [mode]
        exact .inr ⟨rfl, congrArg some isText.1⟩
      · obtain ⟨rfl, splitTail⟩ := List.cons.inj split
        obtain ⟨rfl, splitRest⟩ := List.cons.inj splitTail
        refine .cons (.cons ?_)
        rw [inText]
        exact inductionHypothesis splitRest wellModedRest

/-- The mode of a sound lexer is the one that its tokens lead to. -/
theorem Lexer.IsSound.modeAfter_tokens
    {lexer : Lexer}
    (sound : lexer.IsSound) :
    modeAfter .plain lexer.tokens = lexer.mode := by
  cases sound with
  | settled wellModed reached settled opened =>
      exact reached
  | inText wellModed reached settled isNormal nonempty =>
      rw [Lexer.tokens_holding, List.reverse_cons, modeAfter_append, reached]
      rfl

/-- A sound lexer keeps the kind of its last token. -/
theorem Lexer.IsSound.last_eq
    {lexer : Lexer}
    (sound : lexer.IsSound) :
    lexer.last = lexer.tokens.getLast?.map Token.kind := by
  have kept
      (strict : Bool)
      (mode : Mode)
      (newest : List Token) :
      (Lexer.holding strict mode newest).last =
        (Lexer.holding strict mode newest).tokens.getLast?.map Token.kind := by
    rw [Lexer.tokens_holding, List.getLast?_reverse]
    rfl
  cases sound with
  | settled wellModed reached settled opened =>
      exact kept _ _ _
  | inText wellModed reached settled isNormal nonempty =>
      exact kept _ _ _

/--
Whatever lines a new lexer has read, its tokens are well moded, and they tell its
state: the mode is the one that their kinds lead to, and the kind that it keeps is
the kind of the last of them. Each token stands in the mode that it needs.
-/
theorem tokens_tell_lexer_state
    (strict : Bool)
    (lines : List String) :
    WellModed strict .plain ((Lexer.start strict).scan lines).tokens ∧
      modeAfter .plain ((Lexer.start strict).scan lines).tokens =
        ((Lexer.start strict).scan lines).mode ∧
      ((Lexer.start strict).scan lines).last =
        ((Lexer.start strict).scan lines).tokens.getLast?.map Token.kind ∧
      ∀ before token after,
        ((Lexer.start strict).scan lines).tokens = before ++ token :: after →
          StandsIn strict .plain before token after := by
  have sound : ((Lexer.start strict).scan lines).IsSound :=
    (Lexer.isSound_start strict).scan lines
  have wellModed := sound.wellModed
  rw [Lexer.strict_scan] at wellModed
  refine ⟨wellModed, sound.modeAfter_tokens, sound.last_eq, ?_⟩
  intro before token after split
  rw [split] at wellModed
  exact WellModed.standsIn wellModed

/-- A literal that goes on behind a comment, and a parenthesis that is not closed. -/
def openLines : List String :=
  ["Label \"a.", "/ \" End", "b\" (End"]

/-- The tokens of the lines, up to the parenthesis. -/
def openTokens : List Token :=
  .ofKeyword .label :: quotedTokens "a . b" ++ [.ofMark .openParen]

theorem openLines_tell_lexer_state :
    ((Lexer.start true).scan openLines).tokens = openTokens ++ [⟨.notFound, "End"⟩] ∧
      modeAfter .plain (openTokens ++ [⟨.notFound, "End"⟩]) =
        ((Lexer.start true).scan openLines).mode ∧
      ((Lexer.start true).scan openLines).last = some .notFound ∧
      StandsIn true .plain openTokens ⟨.notFound, "End"⟩ [] := by
  have tokens :
      ((Lexer.start true).scan openLines).tokens = openTokens ++ [⟨.notFound, "End"⟩] := by
    rfl
  obtain ⟨_, mode, last, stands⟩ := tokens_tell_lexer_state true openLines
  rw [tokens] at mode last stands
  exact ⟨tokens, mode, last, stands openTokens _ [] rfl⟩

end WindowLang
