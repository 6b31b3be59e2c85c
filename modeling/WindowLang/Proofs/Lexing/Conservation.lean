import WindowLang.Proofs.Lexing.RawLexemes
import WindowLang.Proofs.Lexing.Streams

namespace WindowLang

/-!
# No lexeme is lost

Every lexeme that is read comes back out of the tokens, once and in its place: outside of
literals as a token of its own, within a literal as a piece of its text. The empty text
of a literal without lexemes holds no piece.
-/

theorem space_not_mem_text
    {lexeme : Lexeme}
    (proper : lexeme.IsProper) :
    ' ' ∉ lexeme.text.toList := by
  cases lexeme with
  | word text =>
      intro among
      have alphanumeric := proper.2 _ among
      revert alphanumeric
      decide
  | mark symbol =>
      cases symbol <;> decide

/-- Outside of literals no lexeme gives a string. -/
theorem tokenOf_kind_ne_string
    {mode : Mode}
    (outside : mode ≠ .inQuotation)
    (strict : Bool)
    (lexeme : Lexeme) :
    (tokenOf strict mode lexeme).kind ≠ .string := by
  cases lexeme with
  | mark symbol =>
      exact nofun
  | word word =>
      cases mode with
      | plain =>
          change Lexer.plainKind strict word ≠ .string
          unfold Lexer.plainKind
          split
          · exact nofun
          · split
            · exact nofun
            · exact nofun
      | inParenthesis =>
          change (if Text.isNumeral word.toList then Kind.number else .notFound) ≠ .string
          split
          · exact nofun
          · exact nofun
      | inQuotation =>
          exact absurd rfl outside

theorem pieces_of_ne_string
    {token : Token}
    (noText : token.kind ≠ .string) :
    token.pieces = [token.lexeme.toList] :=
  if_neg noText

@[simp] theorem pieces_emptyText :
    (Token.mk .string "").pieces = [] :=
  rfl

theorem pieces_text
    {text : String}
    (nonempty : text ≠ "") :
    (Token.mk .string text).pieces = text.toList.splitOn ' ' := by
  simp [Token.pieces, nonempty]

/-- A lexeme is the only piece of a text that it makes up alone. -/
theorem pieces_of_isProper
    {lexeme : Lexeme}
    (proper : lexeme.IsProper) :
    (Token.mk .string lexeme.text).pieces = [lexeme.text.toList] := by
  rw [pieces_text (text_ne_empty proper), List.splitOn_eq_singleton (space_not_mem_text proper)]

/-- A lexeme behind a space is one more piece of a text. -/
theorem pieces_append_space
    {text : String}
    {lexeme : Lexeme}
    (nonempty : text ≠ "")
    (proper : lexeme.IsProper) :
    (Token.mk .string (text ++ " " ++ lexeme.text)).pieces =
      (Token.mk .string text).pieces ++ [lexeme.text.toList] := by
  have longer : text ++ " " ++ lexeme.text ≠ "" := by
    simp [nonempty]
  have split :
      (text ++ " " ++ lexeme.text).toList = text.toList ++ ' ' :: lexeme.text.toList := by
    simp
  rw [pieces_text longer, pieces_text nonempty, split, List.splitOn_append_cons_self,
    List.splitOn_eq_singleton (space_not_mem_text proper)]

/-- All raw lexemes that a lexer's tokens were made of. -/
def Lexer.pieces (lexer : Lexer) : List (List Char) :=
  lexer.tokens.flatMap Token.pieces

@[simp] theorem Lexer.pieces_holding_cons
    (strict : Bool)
    (mode : Mode)
    (token : Token)
    (newest : List Token) :
    (Lexer.holding strict mode (token :: newest)).pieces =
      newest.reverse.flatMap Token.pieces ++ token.pieces := by
  simp [Lexer.pieces]

/-- One more lexeme is one more piece. -/
theorem Lexer.IsSound.pieces_read
    {lexer : Lexer}
    {lexeme : Lexeme}
    (sound : lexer.IsSound)
    (proper : lexeme.IsProper) :
    (lexer.read lexeme).pieces = lexer.pieces ++ [lexeme.text.toList] := by
  cases sound with
  | @settled strict mode newest wellModed reached settled opened =>
      by_cases outside : mode ≠ .inQuotation
      · rw [Lexer.read_of_ne_inQuotation outside, Lexer.pieces_holding_cons,
          pieces_of_ne_string (tokenOf_kind_ne_string outside strict lexeme)]
        rfl
      · obtain rfl : mode = .inQuotation := not_not.1 outside
        have lastIsMark : newest.head?.map Token.kind = some (.mark .quotation) :=
          opened rfl
        by_cases closes : lexeme = .mark .quotation
        · -- The empty text before the closing mark adds no piece.
          rw [closes, Lexer.read_closing_of_opened lastIsMark, Lexer.pieces_holding_cons]
          simp [Lexer.pieces, Lexeme.text, Token.ofMark, pieces_of_ne_string]
        · have noText : newest.head?.map Token.kind ≠ some .string := by
            rw [lastIsMark]
            decide
          rw [Lexer.read_text ⟨proper, closes⟩, Lexer.addText_of_ne_string noText,
            Lexer.pieces_holding_cons, pieces_of_isProper proper]
          rfl
  | @inText strict older text wellModed reached settled isNormal nonempty =>
      by_cases closes : lexeme = .mark .quotation
      · have hasText :
            (⟨.string, text⟩ :: older : List Token).head?.map Token.kind ≠
              some (.mark .quotation) := by
          simp
        rw [closes, Lexer.read_closing_of_ne_quotation hasText]
        simp [Lexeme.text, Token.ofMark, pieces_of_ne_string]
      · rw [Lexer.read_text ⟨proper, closes⟩, Lexer.addText_string, Lexer.pieces_holding_cons,
          Lexer.pieces_holding_cons, pieces_append_space nonempty proper, List.append_assoc]

/-- Lines add their raw lexemes to those of the tokens, in every state that a lexer reaches. -/
theorem Lexer.IsSound.pieces_scan
    {lexer : Lexer}
    (sound : lexer.IsSound)
    (lines : List String) :
    (lexer.scan lines).pieces = lexer.pieces ++ rawLexemes lines := by
  have proper : ∀ lexeme ∈ lines.flatMap lexemes, lexeme.IsProper :=
    fun _ among => isProper_of_mem_lines among
  rw [Lexer.scan_eq_foldl, rawLexemes_eq]
  generalize lines.flatMap lexemes = lexemes at proper ⊢
  induction lexemes generalizing lexer with
  | nil =>
      exact (List.append_nil _).symm
  | cons lexeme lexemes inductionHypothesis =>
      obtain ⟨first, others⟩ := List.forall_mem_cons.1 proper
      rw [List.foldl_cons, inductionHypothesis (sound.read first) others, sound.pieces_read first,
        List.append_assoc, List.singleton_append, List.map_cons]

/--
The tokens of some lines, with the text of every string cut at its spaces, are the raw
lexemes of the lines: none is missing, none comes twice, and each is in its place.
-/
theorem pieces_of_tokens_eq_rawLexemes
    (strict : Bool)
    (lines : List String) :
    (tokenize strict lines).flatMap Token.pieces = rawLexemes lines :=
  (Lexer.isSound_start strict).pieces_scan lines

/-- A literal over three lines, one of which is a comment, an empty one and one in parentheses. -/
example :
    (tokenize true ["Label \"a.", "/ b\" c", "(d\"\"\"", "(\"e\""]).flatMap Token.pieces =
      ["Label", "\"", "a", ".", "(", "d", "\"", "\"", "\"", "(", "\"", "e", "\""].map
        String.toList := by
  decide +kernel

end WindowLang
