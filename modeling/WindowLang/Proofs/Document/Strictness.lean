import WindowLang.Proofs.Agenda.Unusable
import WindowLang.Proofs.Document.Locality
import WindowLang.Proofs.Lexing.Modes
import WindowLang.Proofs.Lexing.Strictness

namespace WindowLang

/-!
# Strict numbers and documents

A token that no rule takes is refused wherever it stands, whatever it is. So a strict
lexer, which only exchanges such tokens for others of the sort, neither loses a
document nor lets another one through, and a document that is refused is refused at
the same token. Only what is said about that token may differ.
-/

open Grammar

/-- Unusable tokens are exchanged for unusable tokens, and the others stay. -/
def Exchanges (replace : Token → Token) (tokens : List Token) : Prop :=
  ∀ token ∈ tokens, replace token = token ∨ (IsUnusable token ∧ IsUnusable (replace token))

theorem Exchanges.of_append
    {replace : Token → Token}
    {first second : List Token}
    (exchanges : Exchanges replace (first ++ second)) :
    Exchanges replace first ∧ Exchanges replace second :=
  List.forall_mem_append.1 exchanges

/-- Tokens that lead on from the start of a document stay. -/
theorem Exchanges.map_of_runs
    {replace : Token → Token}
    {taken : List Token}
    {agenda : Agenda}
    (exchanges : Exchanges replace taken)
    (runs : Agenda.start.Runs 0 taken agenda) :
    taken.map replace = taken := by
  have stays : ∀ token ∈ taken, replace token = id token := by
    intro token among
    rcases exchanges token among with same | ⟨unusable, _⟩
    · exact same
    · exact absurd unusable (Agenda.not_isUnusable_of_runs runs token among)
  rw [List.map_congr_left stays, List.map_id]

/-- The end of the input stays where it is. -/
theorem Exchanges.atEnd_map_iff
    {replace : Token → Token}
    {left : List Token}
    (exchanges : Exchanges replace left) :
    AtEnd (left.map replace) ↔ AtEnd left := by
  cases left with
  | nil =>
      rfl
  | cons token more =>
      rw [List.map_cons, atEnd_cons_iff, atEnd_cons_iff]
      have goesOn
          {found : Token}
          (unusable : IsUnusable found) :
          found.kind ≠ .endOfFile := by
        intro ends
        rcases unusable.kind with isWord | isNumber
        · rw [ends] at isWord
          cases isWord
        · rw [ends] at isNumber
          cases isNumber
      rcases exchanges token List.mem_cons_self with same | ⟨unusable, unusableToo⟩
      · rw [same]
      · exact iff_of_false (goesOn unusableToo) (goesOn unusable)

/-- Where an agenda is stuck, it is stuck after the exchange. -/
theorem Exchanges.stuck
    {replace : Token → Token}
    {taken left : List Token}
    {agenda : Agenda}
    (exchanges : Exchanges replace left)
    (stuck : Agenda.start.Stuck 0 taken left agenda) :
    Agenda.start.Stuck 0 taken (left.map replace) agenda where
  runs := stuck.runs
  refuses := {
    noAdvance := by
      intro found next
      cases left with
      | nil =>
          cases next
      | cons token more =>
          obtain rfl : replace token = found := Option.some.inj next
          rcases exchanges token List.mem_cons_self with same | ⟨_, unusableToo⟩
          · rw [same]
            exact stuck.refuses.noAdvance token rfl
          · exact Agenda.advance?_of_isUnusable stuck.runs unusableToo _
    notComplete := fun complete ends =>
      stuck.refuses.notComplete complete (exchanges.atEnd_map_iff.1 ends)
  }

/-- The exchange of unusable tokens changes neither a window nor the position of an error. -/
theorem Exchanges.parse_map
    {replace : Token → Token}
    {tokens : List Token}
    (exchanges : Exchanges replace tokens) :
    (parse (tokens.map replace)).mapError SyntaxError.position =
      (parse tokens).mapError SyntaxError.position := by
  have recognition := recognized tokens
  generalize parse tokens = outcome at recognition
  cases recognition with
  | @accepted document rest window split derives runs ends =>
      subst split
      obtain ⟨ofDocument, ofRest⟩ := exchanges.of_append
      have describes : Describes (document ++ rest.map replace) window :=
        ⟨document, rest.map replace, rfl, derives, ofRest.atEnd_map_iff.2 ends⟩
      rw [List.map_append, ofDocument.map_of_runs runs, parse_of_describes describes]
  | @rejected taken left agenda split stuck =>
      subst split
      obtain ⟨ofTaken, ofLeft⟩ := exchanges.of_append
      rw [List.map_append, ofTaken.map_of_runs stuck.runs, parse_of_stuck (ofLeft.stuck stuck)]
      refine congrArg Except.error ?_
      rw [Agenda.position_error, Agenda.position_error]

theorem mapError_eq_ok_iff
    {outcome : Except SyntaxError Window}
    {window : Window} :
    outcome.mapError SyntaxError.position = .ok window ↔ outcome = .ok window := by
  cases outcome with
  | error error =>
      exact iff_of_false nofun nofun
  | ok recognized =>
      constructor
      · intro same
        exact congrArg Except.ok (Except.ok.inj same)
      · intro same
        exact congrArg Except.ok (Except.ok.inj same)

/-- A word that is no numeral writes no unsigned integer, for it has no sign either. -/
theorem readUnsigned?_of_isWord
    {text : String}
    (isWord : IsWord text)
    (noNumeral : Text.isNumeral text.toList = false) :
    Text.readUnsigned? text = none := by
  have unsigned : Text.dropPlus text.toList = text.toList := by
    unfold Text.dropPlus
    split
    · rename_i rest characters
      have isLetter : Text.isAlphanumeric '+' = true :=
        isWord.2 '+' (by rw [characters]; exact List.mem_cons_self)
      exact absurd isLetter (by decide)
    · rfl
  simp [Text.readUnsigned?, unsigned, noNumeral]

/-- Every number of a well-moded stream is a word. -/
theorem WellModed.isWord_of_number
    {strict : Bool}
    {mode : Mode}
    {tokens : List Token}
    {token : Token}
    (wellModed : WellModed strict mode tokens)
    (among : token ∈ tokens)
    (isNumber : token.kind = .number) :
    IsWord token.lexeme := by
  obtain ⟨before, after, rfl⟩ := List.append_of_mem among
  have stands := wellModed.standsIn
  unfold StandsIn at stands
  split at stands
  · simp only [IsPlain, isNumber] at stands
    exact stands.1
  · simp only [IsParenthesized, isNumber] at stands
    exact isWord_of_isNumeral stands
  · rcases stands with ⟨isText, _⟩ | ⟨rfl, _⟩
    · rw [isText.1] at isNumber
      cases isNumber
    · cases isNumber

/-- Reading a well-moded stream strictly exchanges unusable tokens. -/
theorem WellModed.exchanges_strictly
    {strict : Bool}
    {mode : Mode}
    {tokens : List Token}
    (wellModed : WellModed strict mode tokens) :
    Exchanges Token.strictly tokens := by
  intro token among
  by_cases changes : token.kind = .number ∧ Text.isNumeral token.lexeme.toList = false
  · obtain ⟨isNumber, noNumeral⟩ := changes
    have isWord : IsWord token.lexeme := wellModed.isWord_of_number among isNumber
    have strictly : token.strictly.kind = .notFound :=
      congrArg Token.kind (if_pos ⟨isNumber, noNumeral⟩)
    exact .inr ⟨.inr ⟨isNumber, readUnsigned?_of_isWord isWord noNumeral⟩, .inl strictly⟩
  · exact .inl (if_neg changes)

/--
A strict lexer gives the tokens of one that is not, but that a number which is no
numeral has no meaning. The same windows are recognized from them, and an error is
reported at the same position.
-/
theorem strict_numbers_change_diagnostics_only (lines : List String) :
    tokenize true lines = (tokenize false lines).map Token.strictly ∧
      (∀ window,
        parse (tokenize true lines) = .ok window ↔ parse (tokenize false lines) = .ok window) ∧
      (parse (tokenize true lines)).mapError SyntaxError.position =
        (parse (tokenize false lines)).mapError SyntaxError.position := by
  have strictly : tokenize true lines = (tokenize false lines).map Token.strictly :=
    tokenize_true lines
  have same :
      (parse (tokenize true lines)).mapError SyntaxError.position =
        (parse (tokenize false lines)).mapError SyntaxError.position := by
    rw [strictly]
    exact (wellModed_tokenize false lines).exchanges_strictly.parse_map
  refine ⟨strictly, fun window => ?_, same⟩
  rw [← mapError_eq_ok_iff, same, mapError_eq_ok_iff]

end WindowLang
