import WindowLang.Proofs.Agenda.Locality
import WindowLang.Proofs.Document.Acceptance

namespace WindowLang

/-!
# The position of an error

An error is reported at the first token with which no document can begin. The
tokens before it can be completed, because from the agenda that they lead to some
tokens lead to the end of a document; with the token itself the agenda is stuck,
whatever follows.
-/

open Grammar

/-- Tokens that lead the agenda of a document to its end are accepted. -/
theorem accepted_of_runs
    {document rest : List Token}
    (runs : Agenda.start.Runs 0 document [])
    (ends : AtEnd rest) :
    ∃ window, parse (document ++ rest) = .ok window := by
  have recognition := recognized (document ++ rest)
  generalize parse (document ++ rest) = outcome at recognition
  cases recognition with
  | @accepted _ _ window split derives runs ends =>
      exact ⟨window, rfl⟩
  | rejected split stuck =>
      exact (stuck.not_complete split.symm runs ends).elim

/-- Agendas that differ by ends of parts in front report the same error. -/
theorem Grammar.Agenda.error_congr
    {first second : Agenda}
    (same : first.settle = second.settle)
    (tokens : List Token)
    (index : Nat) :
    first.error tokens index = second.error tokens index := by
  unfold Agenda.error Agenda.blocks Agenda.unmet
  rw [same]

/-- Where the agenda of a document is stuck, its error is the one reported. -/
theorem parse_of_stuck
    {taken left : List Token}
    {agenda : Agenda}
    (stuck : Agenda.start.Stuck 0 taken left agenda) :
    parse (taken ++ left) = .error (agenda.error (taken ++ left) taken.length) := by
  have recognition := recognized (taken ++ left)
  generalize parse (taken ++ left) = outcome at recognition
  cases recognition with
  | accepted split derives runs ends =>
      exact (stuck.not_complete split runs ends).elim
  | @rejected takenToo leftToo other split stuckToo =>
      obtain ⟨rfl, same⟩ := stuck.unique stuckToo split
      rw [Agenda.error_congr same]

/-- Where the agenda of a document gets stuck, the tokens are rejected. -/
theorem rejected_of_stuck
    {taken left : List Token}
    {agenda : Agenda}
    (stuck : Agenda.start.Stuck 0 taken left agenda) :
    ∃ error, parse (taken ++ left) = .error error :=
  ⟨_, parse_of_stuck stuck⟩

/-- Tokens that lead the agenda of a document anywhere can be completed to a document. -/
theorem completable_of_runs
    {taken : List Token}
    {agenda : Agenda}
    (runs : Agenda.start.Runs 0 taken agenda) :
    ∃ suffix window, parse (taken ++ suffix) = .ok window := by
  have completed := runs.trans (agenda.runs_completion (0 + taken.length))
  obtain ⟨window, accepted⟩ := accepted_of_runs completed (.inl rfl)
  rw [List.append_nil] at accepted
  exact ⟨agenda.completion, window, accepted⟩

/-- An error comes from an agenda that is stuck at its position. -/
theorem stuck_of_error
    {tokens : List Token}
    {error : SyntaxError}
    (refused : parse tokens = .error error) :
    ∃ taken left agenda,
      tokens = taken ++ left ∧ Agenda.start.Stuck 0 taken left agenda ∧
        error = agenda.error tokens taken.length := by
  have recognition := recognized tokens
  rw [refused] at recognition
  cases recognition with
  | @rejected taken left agenda split stuck =>
      exact ⟨taken, left, agenda, split, stuck, rfl⟩

@[simp] theorem Grammar.Agenda.position_error
    (agenda : Agenda)
    (tokens : List Token)
    (index : Nat) :
    (agenda.error tokens index).position = index + 1 := by
  unfold Agenda.error
  split
  · rfl
  · rfl

/--
The position of an error is the boundary of what can begin a document: the tokens
before it can be completed, and the tokens up to it cannot. It lies behind the
last token exactly if all the tokens can be completed.
-/
theorem error_position_is_boundary
    {tokens : List Token}
    {error : SyntaxError}
    (refused : parse tokens = .error error) :
    1 ≤ error.position ∧
      error.position ≤ tokens.length + 1 ∧
      (∃ suffix window,
        parse (tokens.take (error.position - 1) ++ suffix) = .ok window) ∧
      (error.position ≤ tokens.length →
        ∀ suffix, ∃ later, parse (tokens.take error.position ++ suffix) = .error later) ∧
      (error.position = tokens.length + 1 ↔
        ∃ suffix window, parse (tokens ++ suffix) = .ok window) := by
  obtain ⟨taken, left, agenda, rfl, stuck, rfl⟩ := stuck_of_error refused
  have completable : ∃ suffix window, parse (taken ++ suffix) = .ok window :=
    completable_of_runs stuck.runs
  have rejects
      {token : Token}
      {more : List Token}
      (next : left = token :: more)
      (suffix : List Token) :
      ∃ later, parse (taken ++ token :: suffix) = .error later := by
    subst next
    exact rejected_of_stuck ⟨stuck.runs, stuck.refuses.congr⟩
  rw [Agenda.position_error]
  refine ⟨by omega, by simp, by simpa using completable, ?_, ?_, ?_⟩
  · intro inside suffix
    cases left with
    | nil =>
        simp only [List.append_nil] at inside
        omega
    | cons token more =>
        have upToToken :
            (taken ++ token :: more).take (taken.length + 1) ++ suffix =
              taken ++ token :: suffix := by
          simp [List.take_append, List.take_of_length_le]
        rw [upToToken]
        exact rejects rfl suffix
  · intro behind
    have nothingLeft : left = [] := by
      rw [← List.length_eq_zero_iff]
      simp only [List.length_append] at behind
      omega
    rw [nothingLeft, List.append_nil]
    exact completable
  · rintro ⟨suffix, window, accepted⟩
    cases left with
    | nil =>
        rw [List.append_nil]
    | cons token more =>
        rw [List.append_assoc, List.cons_append] at accepted
        obtain ⟨later, rejected⟩ := rejects rfl (more ++ suffix)
        rw [accepted] at rejected
        cases rejected

/-- A document in which the grid of a panel has a single size. -/
def brokenPanel : List Token := [
  .ofKeyword .window, .ofMark .quotation, .ofText "W", .ofMark .quotation,
  .ofMark .openParen, .ofNumber 1, .ofMark .comma, .ofNumber 1, .ofMark .closeParen,
  .ofKeyword .layout, .ofKeyword .flow, .ofMark .colon,
  .ofKeyword .panel, .ofKeyword .layout, .ofKeyword .grid, .ofMark .openParen, .ofNumber 1,
  .ofMark .closeParen, .ofMark .colon, .ofKeyword .close, .ofMark .semicolon,
  .ofKeyword .close, .ofMark .period]

/-- The error of the document. -/
def brokenPanelError : SyntaxError :=
  .unmet 18 [
    .unmet .layoutType (.token (.mark .comma)) (some (.ofMark .closeParen)),
    .missing .layout .layoutType,
    .missing .panel .layout,
    .unmet .gui (.token (.keyword .close)) (some (.ofKeyword .panel))
  ]

theorem brokenPanel_fails_at_its_grid :
    parse brokenPanel = .error brokenPanelError ∧
      (∃ suffix window, parse (brokenPanel.take 17 ++ suffix) = .ok window) ∧
      ∀ suffix, ∃ later, parse (brokenPanel.take 18 ++ suffix) = .error later := by
  have refused : parse brokenPanel = .error brokenPanelError := by
    rfl
  obtain ⟨_, _, completable, rejects, _⟩ := error_position_is_boundary refused
  exact ⟨refused, completable, rejects (by decide)⟩

end WindowLang
