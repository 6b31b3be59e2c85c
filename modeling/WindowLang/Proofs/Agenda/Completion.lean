import WindowLang.Proofs.Agenda.Run
import WindowLang.Tree.Tokens

namespace WindowLang.Grammar

/-!
# Completing a document

Whatever is still to come can come: every task has tokens that do it, and none of
them opens a panel. So from every agenda some tokens lead to the end of the
document. Where an agenda is stuck, on the other hand, no tokens lead there.
-/

/-- Tokens that do a task, without beginning any item. -/
def Task.completion : Task → List Token
  | .token _ kind => [⟨kind, ""⟩]
  | .number _ => [.ofNumber 0]
  | .layout _ => [.ofKeyword .layout, .ofKeyword .flow, .ofMark .colon]
  | .layoutType => [.ofKeyword .flow]
  | .gaps => [.ofMark .closeParen]
  | .finish _ _ => []
  | .body _ _ _ => [.ofKeyword .close]

namespace Agenda

/-- Tokens that do all tasks of an agenda. -/
def completion (agenda : Agenda) : List Token :=
  agenda.flatMap Task.completion

/-- The completion of a task leads behind it. -/
theorem runs_completion_cons
    (task : Task)
    (rest : Agenda)
    (index : Nat) :
    Runs (task :: rest) index task.completion rest := by
  cases task with
  | token rule kind =>
      refine Runs.cons ?_ (Runs.nil rfl _)
      simp [advance?, settle]
  | number rule =>
      refine Runs.cons ?_ (Runs.nil rfl _)
      have reads : Text.readUnsigned? (Token.ofNumber 0).lexeme = some 0 :=
        Text.readUnsigned?_writeUnsigned 0
      have isNumber : (Token.ofNumber 0).kind = .number := rfl
      simp [advance?, settle, isNumber, reads]
  | layout rule =>
      have settled : settle (.finish rule .layout :: rest) = settle rest := rfl
      exact Runs.cons rfl (Runs.cons rfl (Runs.cons rfl (Runs.nil settled _)))
  | layoutType =>
      exact Runs.cons rfl (Runs.nil rfl _)
  | gaps =>
      exact Runs.cons rfl (Runs.nil rfl _)
  | finish rule part =>
      exact Runs.nil (settle_finish rule part rest) _
  | body rule item begun =>
      refine Runs.cons ?_ (Runs.nil rfl _)
      simp [advance?, Token.ofKeyword]

/-- The completion of an agenda leads to the end of the document. -/
theorem runs_completion (agenda : Agenda) (index : Nat) :
    agenda.Runs index agenda.completion [] := by
  induction agenda generalizing index with
  | nil =>
      exact Runs.nil rfl _
  | cons task rest inductionHypothesis =>
      exact (runs_completion_cons task rest index).trans (inductionHypothesis _)

/-- What an agenda refuses depends on the next token alone. -/
theorem Refuses.congr
    {agenda : Agenda}
    {index : Nat}
    {token : Token}
    {more other : List Token}
    (refuses : agenda.Refuses index (token :: more)) :
    agenda.Refuses index (token :: other) where
  noAdvance := refuses.noAdvance
  notComplete complete := by
    have goesOn := refuses.notComplete complete
    rwa [atEnd_cons_iff] at goesOn ⊢

/-- No run goes past the place where an agenda is stuck. -/
theorem Stuck.not_run_past
    {start agenda reached : Agenda}
    {index : Nat}
    {taken left more : List Token}
    {token : Token}
    (stuck : start.Stuck index taken left agenda)
    (next : left.head? = some token)
    (runs : start.Runs index (taken ++ token :: more) reached) :
    False := by
  obtain ⟨middle, runsTaken, runsOn⟩ := runs.split
  have same : agenda.settle = middle.settle := stuck.runs.unique runsTaken
  have noAdvance := stuck.refuses.noAdvance token next
  rw [advance?_congr same] at noAdvance
  exact runsOn.advances noAdvance

/-- Tokens that lead to the end of a document are not refused on the way, nor behind it. -/
theorem Stuck.not_complete
    {start agenda : Agenda}
    {index : Nat}
    {taken left document rest : List Token}
    (stuck : start.Stuck index taken left agenda)
    (same : taken ++ left = document ++ rest)
    (runs : start.Runs index document [])
    (ends : AtEnd rest) :
    False := by
  rcases List.append_eq_append_iff.1 same with
    ⟨more, rfl, leftShape⟩ | ⟨more, rfl, restShape⟩
  · -- The document goes on where the agenda is stuck, or ends there.
    subst leftShape
    cases more with
    | nil =>
        rw [List.append_nil] at runs
        have complete : agenda.settle = settle [] := stuck.runs.unique runs
        exact stuck.refuses.notComplete complete ends
    | cons token more =>
        exact stuck.not_run_past rfl runs
  · -- The document ended before.
    cases more with
    | nil =>
        subst restShape
        have ran := stuck.runs
        rw [List.append_nil] at ran
        exact stuck.refuses.notComplete (ran.unique runs) ends
    | cons token more =>
        exact runs.not_past_end stuck.runs

end Agenda

end WindowLang.Grammar
