import WindowLang.Proofs.Agenda.Completion
import WindowLang.Proofs.Agenda.OpenBodies

namespace WindowLang.Grammar.Agenda

/-!
# What an agenda has seen

An agenda is stuck at one place of a token stream and at no other, because no run goes
past such a place. What it says there tells of the token that is refused and of tokens
before it, so it does not matter what comes later.
-/

/-- There is one place where an agenda is stuck, and one agenda that it leads to. -/
theorem Stuck.unique
    {start agenda other : Agenda}
    {index : Nat}
    {taken left takenToo leftToo : List Token}
    (stuck : start.Stuck index taken left agenda)
    (stuckToo : start.Stuck index takenToo leftToo other)
    (same : taken ++ left = takenToo ++ leftToo) :
    taken = takenToo ∧ agenda.settle = other.settle := by
  rcases List.append_eq_append_iff.1 same with
    ⟨more, rfl, leftShape⟩ | ⟨more, rfl, leftShape⟩
  · cases more with
    | nil =>
        have runsToo := stuckToo.runs
        rw [List.append_nil] at runsToo
        exact ⟨(List.append_nil taken).symm, stuck.runs.unique runsToo⟩
    | cons token more =>
        have next : left.head? = some token := by
          rw [leftShape]
          rfl
        exact (stuck.not_run_past next stuckToo.runs).elim
  · cases more with
    | nil =>
        have runs := stuck.runs
        rw [List.append_nil] at runs
        exact ⟨List.append_nil takenToo, runs.unique stuckToo.runs⟩
    | cons token more =>
        have next : leftToo.head? = some token := by
          rw [leftShape]
          rfl
        exact (stuckToo.not_run_past next stuck.runs).elim

/-- Every place kept in an agenda that some tokens lead to lies within them. -/
theorem lt_length_of_mem_begunBodies
    {tokens : List Token}
    {agenda : Agenda}
    {body : Rule × Nat}
    (ran : start.run? 0 tokens = some agenda)
    (among : body ∈ begunBodies agenda) :
    body.2 < tokens.length := by
  obtain ⟨inner, around, split⟩ := List.append_of_mem among
  exact (keepsItems_of_run ran body around ⟨inner, split.symm⟩).1

/-- What is pending shows only the tokens that unfinished items began with. -/
theorem pending_congr
    {agenda : Agenda}
    {tokens others : List Token}
    (same : ∀ body ∈ begunBodies agenda, tokens[body.2]? = others[body.2]?) :
    agenda.filterMap (Task.pending? tokens) = agenda.filterMap (Task.pending? others) := by
  induction agenda with
  | nil =>
      rfl
  | cons task rest inductionHypothesis =>
      cases task with
      | body rule item begun =>
          cases begun with
          | none =>
              exact inductionHypothesis same
          | some begun =>
              obtain ⟨sameBegun, sameOthers⟩ := List.forall_mem_cons.1 same
              simp only [List.filterMap_cons, Task.pending?, sameBegun,
                inductionHypothesis sameOthers]
      | finish rule part =>
          exact congrArg (Fragment.missing rule part :: ·) (inductionHypothesis same)
      | _ =>
          exact inductionHypothesis same

/-- What an agenda says at a place tells only of the token there and of those before it. -/
theorem unmet_congr
    {agenda : Agenda}
    {taken tokens others : List Token}
    (ran : start.run? 0 taken = some agenda)
    (same : ∀ index ≤ taken.length, tokens[index]? = others[index]?) :
    agenda.unmet tokens taken.length = agenda.unmet others taken.length := by
  have found : tokens[taken.length]? = others[taken.length]? :=
    same _ (Nat.le_refl _)
  unfold unmet
  rw [found]
  split
  · rfl
  · rename_i task rest settled
    have pending :
        rest.filterMap (Task.pending? tokens) = rest.filterMap (Task.pending? others) := by
      refine pending_congr fun body among => same _ (Nat.le_of_lt ?_)
      exact lt_length_of_mem_begunBodies ran
        ((begunBodies_suffix_of_settle settled).subset among)
    rw [pending]

end WindowLang.Grammar.Agenda
