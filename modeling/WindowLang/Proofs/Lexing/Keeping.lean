import WindowLang.Proofs.Lexing.Modes

namespace WindowLang

/-!
# Tokens are kept

A lexer adds tokens and never takes one back. The only token that it changes is the text of a
literal that is still open, and it changes it by adding pieces at its end. Reading a lexeme
does one of the two, and so does a whole run: once there is a token behind the text, or the
literal is closed, the text stays as it is.
-/

/-- A text that goes on with some pieces, each behind a space. -/
def continued (text : String) (pieces : List String) : String :=
  text ++ String.join (pieces.map (" " ++ ·))

@[simp] theorem continued_nil (text : String) :
    continued text [] = text :=
  String.append_empty

theorem continued_cons
    (text piece : String)
    (pieces : List String) :
    continued text (piece :: pieces) = continued (text ++ " " ++ piece) pieces := by
  simp [continued, String.append_assoc]

/-- What a lexer does with a lexeme. -/
inductive Lexer.ReadsOn (before after : Lexer) : Prop where
  /-- It adds tokens. -/
  | adds
      (token : Token)
      (more : List Token)
      (added : after.tokens = before.tokens ++ token :: more)
  /-- It adds a piece to the text of an open literal. -/
  | continues
      {older : List Token}
      {text piece : String}
      (isOpen : before.mode = .inQuotation)
      (newest : before.tokens = older ++ [⟨.string, text⟩])
      (isPiece : IsPiece piece.toList)
      (staysOpen : after.mode = .inQuotation)
      (continued : after.tokens = older ++ [⟨.string, text ++ " " ++ piece⟩])

/-- A lexer adds tokens, or it adds a piece to the text of an open literal. -/
theorem Lexer.IsSound.readsOn
    {lexer : Lexer}
    {lexeme : Lexeme}
    (sound : lexer.IsSound)
    (proper : lexeme.IsProper) :
    lexer.ReadsOn (lexer.read lexeme) := by
  cases sound with
  | @settled strict mode newest wellModed reached settled opened =>
      by_cases outside : mode ≠ .inQuotation
      · rw [Lexer.read_of_ne_inQuotation outside]
        exact .adds (tokenOf strict mode lexeme) [] List.reverse_cons
      · obtain rfl : mode = .inQuotation := Classical.not_not.1 outside
        have lastIsMark : newest.head?.map Token.kind = some (.mark .quotation) :=
          opened rfl
        by_cases closes : lexeme = .mark .quotation
        · rw [closes, Lexer.read_closing_of_opened lastIsMark]
          exact .adds ⟨.string, ""⟩ [.ofMark .quotation] (by simp)
        · have noText : newest.head?.map Token.kind ≠ some .string := by
            rw [lastIsMark]
            decide
          rw [Lexer.read_text ⟨proper, closes⟩, Lexer.addText_of_ne_string noText]
          exact .adds ⟨.string, lexeme.text⟩ [] List.reverse_cons
  | @inText strict older text wellModed reached settled isNormal nonempty =>
      by_cases closes : lexeme = .mark .quotation
      · have hasText :
            (⟨.string, text⟩ :: older : List Token).head?.map Token.kind ≠
              some (.mark .quotation) := by
          simp
        rw [closes, Lexer.read_closing_of_ne_quotation hasText]
        exact .adds (.ofMark .quotation) [] List.reverse_cons
      · have isPiece : IsPiece lexeme.text.toList := isPiece_iff.2 ⟨lexeme, ⟨proper, closes⟩, rfl⟩
        rw [Lexer.read_text ⟨proper, closes⟩, Lexer.addText_string]
        exact .continues rfl List.reverse_cons isPiece rfl List.reverse_cons

/-- The tokens of a lexer are kept in front of others, but the text of an open literal may go on. -/
inductive Lexer.Keeps (lexer : Lexer) (tokens : List Token) : Prop where
  | all
      (kept : lexer.tokens <+: tokens)
  | continued
      {older : List Token}
      {text : String}
      (pieces : List String)
      (isOpen : lexer.mode = .inQuotation)
      (newest : lexer.tokens = older ++ [⟨.string, text⟩])
      (arePieces : ∀ piece ∈ pieces, IsPiece piece.toList)
      (kept : older ++ [⟨.string, WindowLang.continued text pieces⟩] <+: tokens)

/-- Whatever is kept, the tokens in front of the last one stay. -/
theorem Lexer.Keeps.dropLast_prefix
    {lexer : Lexer}
    {tokens : List Token}
    (keeps : lexer.Keeps tokens) :
    lexer.tokens.dropLast <+: tokens := by
  cases keeps with
  | all kept =>
      exact (List.dropLast_prefix _).trans kept
  | continued pieces isOpen newest arePieces kept =>
      rw [newest, List.dropLast_concat]
      exact (List.prefix_append _ _).trans kept

/-- What is kept after a lexeme was also kept before it. -/
theorem Lexer.ReadsOn.keeps
    {before after : Lexer}
    {tokens : List Token}
    (readsOn : before.ReadsOn after)
    (keeps : after.Keeps tokens) :
    before.Keeps tokens := by
  cases readsOn with
  | adds token more added =>
      -- Only the last token may change, and the tokens of before are in front of it.
      have inFront : before.tokens <+: after.tokens.dropLast := by
        rw [added, List.dropLast_append_of_ne_nil (List.cons_ne_nil _ _)]
        exact List.prefix_append _ _
      exact .all (inFront.trans keeps.dropLast_prefix)
  | @continues older text piece isOpen newest isPiece staysOpen continued =>
      cases keeps with
      | all kept =>
          refine .continued [piece] isOpen newest (List.forall_mem_singleton.2 isPiece) ?_
          rwa [continued_cons, continued_nil, ← continued]
      | continued pieces _ newestAfter arePieces kept =>
          obtain ⟨rfl, sameText⟩ := List.append_inj' (continued.symm.trans newestAfter) rfl
          obtain ⟨_, rfl⟩ := Token.mk.inj (List.singleton_inj.1 sameText)
          refine .continued (piece :: pieces) isOpen newest
            (List.forall_mem_cons.2 ⟨isPiece, arePieces⟩) ?_
          rwa [continued_cons]

/-- A sound lexer keeps its tokens, whatever it reads. -/
theorem Lexer.IsSound.keeps_foldl
    {lexer : Lexer}
    {lexemes : List Lexeme}
    (sound : lexer.IsSound)
    (proper : ∀ lexeme ∈ lexemes, lexeme.IsProper) :
    lexer.Keeps (lexemes.foldl Lexer.read lexer).tokens := by
  induction lexemes generalizing lexer with
  | nil =>
      exact .all (List.prefix_refl _)
  | cons lexeme lexemes inductionHypothesis =>
      obtain ⟨first, others⟩ := List.forall_mem_cons.1 proper
      exact (sound.readsOn first).keeps (inductionHypothesis (sound.read first) others)

/-- A token is the text of a literal that a lexer has not closed yet. -/
structure Lexer.InProgress (lexer : Lexer) (index : Nat) (token : Token) : Prop where
  found : lexer.tokens[index]? = some token
  isText : token.kind = .string
  isOpen : lexer.mode = .inQuotation
  isLast : index + 1 = lexer.tokens.length

/-- A token is the text of a literal that a lexer has closed: the mark is behind it. -/
structure Lexer.IsClosed (lexer : Lexer) (index : Nat) (token : Token) : Prop where
  found : lexer.tokens[index]? = some token
  isText : token.kind = .string
  isFollowed : lexer.tokens[index + 1]? = some (.ofMark .quotation)

/-- Some tokens hold those of a lexer where they were, but the text of an open literal may go on. -/
structure Lexer.IsKeptIn (lexer : Lexer) (tokens : List Token) : Prop where
  /-- A token is where it was and as it was, unless it is a text in progress. -/
  finished :
    ∀ index token,
      lexer.tokens[index]? = some token →
      ¬ lexer.InProgress index token →
      tokens[index]? = some token
  /-- A text in progress is where it was, is still a string, and may go on with more pieces. -/
  inProgress :
    ∀ index token,
      lexer.InProgress index token →
      ∃ pieces : List String,
        (∀ piece ∈ pieces, IsPiece piece.toList) ∧
          tokens[index]? = some ⟨.string, continued token.lexeme pieces⟩
  /-- All tokens but the last one are the same. -/
  inFront :
    tokens.take (lexer.tokens.length - 1) = lexer.tokens.take (lexer.tokens.length - 1)

/-- What a lexer does with the tokens that it has when it reads a line. -/
structure Lexer.OnlyAppends (lexer : Lexer) (line : String) : Prop where
  /-- The line keeps the tokens. -/
  line_keeps : lexer.IsKeptIn (lexer.scanLine line).tokens
  /-- From anywhere within the line on, the rest of it and all lines behind it keep the tokens. -/
  rest_keeps :
    ∀ first second more,
      lexemes line = first ++ second →
      (first.foldl Lexer.read lexer).IsKeptIn ((lexer.scanLine line).scan more).tokens
  /-- Anywhere within the line, a text is in progress, or its literal is closed. -/
  inProgress_or_closed :
    ∀ first second index token,
      lexemes line = first ++ second →
      (first.foldl Lexer.read lexer).tokens[index]? = some token →
      token.kind = .string →
      (first.foldl Lexer.read lexer).InProgress index token ∨
        (first.foldl Lexer.read lexer).IsClosed index token
  /-- A text whose literal is closed is never touched again. -/
  closed_stays :
    ∀ first second more index token,
      lexemes line = first ++ second →
      (first.foldl Lexer.read lexer).IsClosed index token →
      ((lexer.scanLine line).scan more).tokens[index]? = some token

theorem getElem?_of_prefix
    {first second : List Token}
    {index : Nat}
    {token : Token}
    (isPrefix : first <+: second)
    (found : first[index]? = some token) :
    second[index]? = some token := by
  obtain ⟨rest, rfl⟩ := isPrefix
  obtain ⟨inRange, _⟩ := List.getElem?_eq_some_iff.1 found
  rwa [List.getElem?_append_left inRange]

/-- What is found among tokens with one behind them is one of them, or it is the last one. -/
theorem found_in_concat
    {older : List Token}
    {index : Nat}
    {last token : Token}
    (found : (older ++ [last])[index]? = some token) :
    older[index]? = some token ∨ index = older.length ∧ last = token := by
  rcases Nat.lt_or_ge index older.length with inside | outside
  · rw [List.getElem?_append_left inside] at found
    exact .inl found
  · obtain ⟨inRange, _⟩ := List.getElem?_eq_some_iff.1 found
    rw [List.length_append, List.length_singleton] at inRange
    obtain rfl : index = older.length := by omega
    rw [List.getElem?_concat_length] at found
    exact .inr ⟨rfl, Option.some.inj found⟩

theorem Lexer.Keeps.take_eq
    {lexer : Lexer}
    {tokens : List Token}
    (keeps : lexer.Keeps tokens) :
    tokens.take (lexer.tokens.length - 1) = lexer.tokens.take (lexer.tokens.length - 1) := by
  have same := List.prefix_iff_eq_take.1 keeps.dropLast_prefix
  rw [List.length_dropLast] at same
  rw [← same, List.dropLast_eq_take]

/-- Tokens that are kept in front of others are where they were. -/
theorem Lexer.Keeps.isKeptIn
    {lexer : Lexer}
    {tokens : List Token}
    (keeps : lexer.Keeps tokens) :
    lexer.IsKeptIn tokens := by
  have inFront := keeps.take_eq
  cases keeps with
  | all kept =>
      refine ⟨?_, ?_, inFront⟩
      · intro index token found _
        exact getElem?_of_prefix kept found
      · intro index token inProgress
        obtain ⟨kind, text⟩ := token
        obtain rfl : kind = .string := inProgress.isText
        refine ⟨[], List.forall_mem_nil _, ?_⟩
        rw [continued_nil]
        exact getElem?_of_prefix kept inProgress.found
  | @continued older text pieces isOpen newest arePieces kept =>
      have length : lexer.tokens.length = older.length + 1 := by
        rw [newest, List.length_append, List.length_singleton]
      refine ⟨?_, ?_, inFront⟩
      · intro index token found noText
        have among := found
        rw [newest] at among
        rcases found_in_concat among with among | ⟨rfl, rfl⟩
        · exact getElem?_of_prefix ((List.prefix_append _ _).trans kept) among
        · exact absurd ⟨found, rfl, isOpen, length.symm⟩ noText
      · intro index token inProgress
        obtain rfl : index = older.length := by
          have isLast := inProgress.isLast
          omega
        have found := inProgress.found
        rw [newest, List.getElem?_concat_length] at found
        obtain rfl := Option.some.inj found
        exact ⟨pieces, arePieces, getElem?_of_prefix kept List.getElem?_concat_length⟩

/-- A text is in progress, or its literal is closed. -/
theorem Lexer.IsSound.inProgress_or_closed
    {lexer : Lexer}
    {index : Nat}
    {token : Token}
    (sound : lexer.IsSound)
    (found : lexer.tokens[index]? = some token)
    (isText : token.kind = .string) :
    lexer.InProgress index token ∨ lexer.IsClosed index token := by
  obtain ⟨inRange, same⟩ := List.getElem?_eq_some_iff.1 found
  have cut : lexer.tokens = lexer.tokens.take index ++ token :: lexer.tokens.drop (index + 1) := by
    rw [← same, List.getElem_cons_drop inRange, List.take_append_drop]
  have wellModed : WellModed lexer.strict .plain
      (lexer.tokens.take index ++ token :: lexer.tokens.drop (index + 1)) :=
    cut ▸ sound.wellModed
  have stands := wellModed.standsIn
  unfold StandsIn at stands
  split at stands
  · simp [IsPlain, isText] at stands
  · simp [IsParenthesized, isText] at stands
  · rename_i inLiteral
    rcases stands with ⟨_, ⟨atEnd, _⟩ | followed⟩ | ⟨rfl, _⟩
    · have isLast : index + 1 = lexer.tokens.length := by
        have noMore := List.drop_eq_nil_iff.1 atEnd
        omega
      have isOpen : lexer.mode = .inQuotation := by
        rw [← sound.modeAfter_tokens, cut, modeAfter_append, inLiteral, atEnd]
        change Mode.inQuotation.after token.kind = .inQuotation
        rw [isText]
        rfl
      exact .inl ⟨found, isText, isOpen, isLast⟩
    · rw [List.head?_drop] at followed
      exact .inr ⟨found, isText, followed⟩
    · cases isText

/-- No text is both closed and in progress. -/
theorem Lexer.IsClosed.not_inProgress
    {lexer : Lexer}
    {index : Nat}
    {token : Token}
    (closed : lexer.IsClosed index token) :
    ¬ lexer.InProgress index token := by
  intro inProgress
  obtain ⟨inRange, _⟩ := List.getElem?_eq_some_iff.1 closed.isFollowed
  exact absurd inProgress.isLast (Nat.ne_of_lt inRange)

/-- Where a line is cut, there are proper lexemes on both sides. -/
theorem areProper_of_cut
    {line : String}
    {first second : List Lexeme}
    (cut : lexemes line = first ++ second) :
    (∀ lexeme ∈ first, lexeme.IsProper) ∧ ∀ lexeme ∈ second, lexeme.IsProper := by
  refine List.forall_mem_append.1 ?_
  rw [← cut]
  exact fun lexeme among => isProper_of_mem_lexemes among

/--
A line only appends to the tokens that a lexer has reached. Each of them is at its index
and as it was, but a text in progress may go on with more pieces, so only the last one may
differ. The same holds from within the line on, whatever lines follow: a text is in progress
as long as its literal is open, and it is never touched again once that is closed.
-/
theorem lines_only_append
    (strict : Bool)
    (lines : List String)
    (line : String) :
    ((Lexer.start strict).scan lines).OnlyAppends line := by
  have sound : ((Lexer.start strict).scan lines).IsSound :=
    (Lexer.isSound_start strict).scan lines
  generalize (Lexer.start strict).scan lines = lexer at sound
  have soundWithin :
      ∀ first second, lexemes line = first ++ second →
        (first.foldl Lexer.read lexer).IsSound := by
    intro first second cut
    exact sound.foldl (areProper_of_cut cut).1
  have restKeeps :
      ∀ first second more, lexemes line = first ++ second →
        (first.foldl Lexer.read lexer).IsKeptIn ((lexer.scanLine line).scan more).tokens := by
    intro first second more cut
    rw [Lexer.scanLine, cut, List.foldl_append, Lexer.scan_eq_foldl, ← List.foldl_append]
    refine ((soundWithin first second cut).keeps_foldl ?_).isKeptIn
    exact List.forall_mem_append.2
      ⟨(areProper_of_cut cut).2, fun _ among => isProper_of_mem_lines among⟩
  refine ⟨restKeeps [] (lexemes line) [] rfl, restKeeps, ?_, ?_⟩
  · intro first second index token cut found isText
    exact (soundWithin first second cut).inProgress_or_closed found isText
  · intro first second more index token cut closed
    exact (restKeeps first second more cut).finished index token closed.found
      closed.not_inProgress

/-- A lexer that has read a literal up to the end of a line. -/
def openLexer : Lexer :=
  (Lexer.start true).scan ["Label \"a"]

/-- The lexemes that close the literal, in a line that opens another one. -/
def closingLexemes : List Lexeme :=
  [.word "b", .mark .period, .mark .quotation]

theorem openLexer_only_appends :
    openLexer.InProgress 2 ⟨.string, "a"⟩ ∧
      (∃ pieces : List String,
        (∀ piece ∈ pieces, IsPiece piece.toList) ∧
          (openLexer.scanLine "b.\" \"c").tokens[2]? = some ⟨.string, continued "a" pieces⟩) ∧
      (closingLexemes.foldl Lexer.read openLexer).IsClosed 2 ⟨.string, "a b ."⟩ ∧
      ((openLexer.scanLine "b.\" \"c").scan ["d"]).tokens[2]? = some ⟨.string, "a b ."⟩ := by
  have inProgress : openLexer.InProgress 2 ⟨.string, "a"⟩ :=
    ⟨by decide +kernel, rfl, by decide +kernel, by decide +kernel⟩
  have cut : lexemes "b.\" \"c" = closingLexemes ++ [.mark .quotation, .word "c"] := by
    decide +kernel
  have closed : (closingLexemes.foldl Lexer.read openLexer).IsClosed 2 ⟨.string, "a b ."⟩ :=
    ⟨by decide +kernel, rfl, by decide +kernel⟩
  have onlyAppends : openLexer.OnlyAppends "b.\" \"c" :=
    lines_only_append true ["Label \"a"] "b.\" \"c"
  exact ⟨inProgress, onlyAppends.line_keeps.inProgress 2 _ inProgress, closed,
    onlyAppends.closed_stays _ _ ["d"] 2 _ cut closed⟩

end WindowLang
