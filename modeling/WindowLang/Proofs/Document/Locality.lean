import WindowLang.Proofs.Document.ErrorPosition

namespace WindowLang

/-!
# What an error depends on

An error is found at its token, and all that it tells was seen up to there. So the
same error comes back whatever is written behind that token, be it more of a document
or none, and no matter how deep in panels and groups it was found.
-/

open Grammar

/-- The tokens behind the one that is refused do not matter for what is reported. -/
theorem Grammar.Agenda.error_append_cons
    {agenda : Agenda}
    {taken : List Token}
    (runs : Agenda.start.Runs 0 taken agenda)
    (token : Token)
    (more others : List Token) :
    agenda.error (taken ++ token :: more) taken.length =
      agenda.error (taken ++ token :: others) taken.length := by
  obtain ⟨last, ran, same⟩ := runs
  have upToToken :
      ∀ index ≤ taken.length,
        (taken ++ token :: more)[index]? = (taken ++ token :: others)[index]? := by
    intro index before
    rw [List.getElem?_append, List.getElem?_append]
    split
    · rfl
    · have isToken : index - taken.length = 0 := by
        omega
      rw [isToken]
      rfl
  have unmet := Agenda.unmet_congr ran upToToken
  rw [← Agenda.error_congr same, ← Agenda.error_congr same]
  unfold Agenda.error
  rw [upToToken _ (Nat.le_refl _), unmet]

/--
An error at a token comes back with the same position and the same message, panels
nested too deeply included, whatever tokens are put behind that one.
-/
theorem parse_take_append_of_error
    {tokens : List Token}
    {error : SyntaxError}
    (refused : parse tokens = .error error)
    (inside : error.position ≤ tokens.length)
    (rest : List Token) :
    parse (tokens.take error.position ++ rest) = .error error := by
  obtain ⟨taken, left, agenda, rfl, stuck, rfl⟩ := stuck_of_error refused
  rw [Agenda.position_error] at inside ⊢
  cases left with
  | nil =>
      rw [List.append_nil] at inside
      omega
  | cons token more =>
      have upToToken :
          (taken ++ token :: more).take (taken.length + 1) ++ rest = taken ++ token :: rest := by
        simp [List.take_append, List.take_of_length_le]
      have stuckToo : Agenda.start.Stuck 0 taken (token :: rest) agenda :=
        ⟨stuck.runs, stuck.refuses.congr⟩
      rw [upToToken, parse_of_stuck stuckToo]
      exact congrArg Except.error (Agenda.error_append_cons stuck.runs token rest more)

theorem brokenPanel_error_comes_back :
    parse brokenPanel = .error brokenPanelError ∧
      brokenPanelError.position ≤ brokenPanel.length ∧
      ∀ rest, parse (brokenPanel.take 18 ++ rest) = .error brokenPanelError := by
  have refused : parse brokenPanel = .error brokenPanelError := by
    rfl
  have inside : brokenPanelError.position ≤ brokenPanel.length := by
    decide
  exact ⟨refused, inside, parse_take_append_of_error refused inside⟩

end WindowLang
