import WindowLang.Proofs.Production.Outcome

namespace WindowLang.Grammar

/-!
# Repetitions

An item is attempted until it fails. If it takes a token whenever it succeeds, attempts at it
end, and it is a failure that ends them, not the bound on their number. Nothing is left of the
successes but their tokens, and of the failure only what it learnt. What holds along such a
repetition is proved by one induction, which is on the tokens that are left.
-/

variable {α : Type} {state : State} {production : Production α}

/-! ## Attempts -/

theorem attempt_of_some
    {reached : State}
    {value : α}
    (succeeded : production state = (some value, reached))
    (diagnosis : reached.diagnosis = state.diagnosis) :
    Production.rewinding (Production.forgetting production) state = (some value, reached) := by
  simp only [Production.rewinding, Production.forgetting, succeeded, ← diagnosis]

theorem attempt_of_none
    {failed : State}
    (fails : production state = (none, failed)) :
    Production.rewinding (Production.forgetting production) state =
      (none, { failed with cursor := state.cursor }) := by
  simp only [Production.rewinding, Production.forgetting, fails]

/-- An item that failed ends the attempts with the items so far. -/
theorem attempts_of_none
    {failed : State}
    (bound : List Token)
    (items : List α)
    (fails : production state = (none, failed)) :
    Production.attempts (Production.rewinding (Production.forgetting production))
        bound items state =
      (some items.reverse, { failed with cursor := state.cursor }) := by
  unfold Production.attempts
  rw [attempt_of_none fails]

/-- An item that succeeded is followed by further attempts, as long as tokens are left. -/
theorem attempts_of_some
    {reached : State}
    {taken : List Token}
    {value : α}
    {bound : List Token}
    (items : List α)
    (succeeded : production state = (some value, reached))
    (takes : state.Takes taken reached)
    (nonempty : taken ≠ [])
    (enough : state.cursor.rest.length ≤ bound.length) :
    ∃ fewer : List Token,
      reached.cursor.rest.length ≤ fewer.length ∧
        Production.attempts (Production.rewinding (Production.forgetting production))
            bound items state =
          Production.attempts (Production.rewinding (Production.forgetting production))
            fewer (value :: items) reached := by
  have shorter : state.cursor.rest.length = taken.length + reached.cursor.rest.length := by
    rw [takes.rest, List.length_append]
  have positive : 0 < taken.length := List.length_pos_iff.2 nonempty
  cases bound with
  | nil =>
      simp only [List.length_nil] at enough
      omega
  | cons token fewer =>
      simp only [List.length_cons] at enough
      refine ⟨fewer, by omega, ?_⟩
      rw [Production.attempts, attempt_of_some succeeded takes.diagnosis]

/-! ## Items up to a failure -/

/-- The item succeeds again and again on the way from one state to another. -/
inductive Passes {σ : Type} (item : σ → Option α × σ) : σ → List α → σ → Prop where
  | nil (state : σ) : Passes item state [] state
  | cons
      {state middle last : σ}
      {value : α}
      {values : List α}
      (succeeded : item state = (some value, middle))
      (others : Passes item middle values last) :
      Passes item state (value :: values) last

/-- A repetition passed some items, until the next attempt failed. -/
structure Repetition
    (production : Production α)
    (state : State)
    (taken : List Token)
    (values : List α)
    (last failed : State) :
    Prop where
  passes : Passes production state values last
  takes : state.Takes taken last
  /-- Each item took a token at least. -/
  enough : values.length ≤ taken.length
  fails : production last = (none, failed)
  /-- The answer is the same, however many more attempts are allowed. -/
  answer :
    ∀ (bound : List Token) (items : List α),
      state.cursor.rest.length ≤ bound.length →
        Production.attempts (Production.rewinding (Production.forgetting production))
            bound items state =
          (some (items.reverse ++ values), { failed with cursor := last.cursor })

theorem Repetition.nil
    {failed : State}
    (fails : production state = (none, failed)) :
    Repetition production state [] [] state failed where
  passes := .nil state
  takes := .refl state
  enough := Nat.le_refl 0
  fails := fails
  answer bound items _ := by
    rw [attempts_of_none bound items fails, List.append_nil]

/-- One item more in front takes its tokens before those of the others. -/
theorem Repetition.cons
    {middle last failed : State}
    {front taken : List Token}
    {value : α}
    {values : List α}
    (succeeded : production state = (some value, middle))
    (takes : state.Takes front middle)
    (nonempty : front ≠ [])
    (others : Repetition production middle taken values last failed) :
    Repetition production state (front ++ taken) (value :: values) last failed where
  passes := .cons succeeded others.passes
  takes := takes.trans others.takes
  enough := by
    have positive := List.length_pos_iff.2 nonempty
    have enough := others.enough
    rw [List.length_cons, List.length_append]
    omega
  fails := others.fails
  answer bound items enough := by
    obtain ⟨fewer, enoughLeft, goesOn⟩ :=
      attempts_of_some items succeeded takes nonempty enough
    rw [goesOn, others.answer fewer (value :: items) enoughLeft, List.reverse_cons,
      List.append_assoc, List.singleton_append]

theorem Repetition.many_eq
    {taken : List Token}
    {values : List α}
    {last failed : State}
    (repetition : Repetition production state taken values last failed) :
    Production.many production state =
      (some values, { failed with cursor := last.cursor }) :=
  repetition.answer state.cursor.rest [] (Nat.le_refl _)

/--
Induction along a repetition. Each item takes a token, and something is `known` again of the
state behind it. Then what holds where the item fails, and holds in front of an item whenever
it holds behind it, holds of every state of which that is known.
-/
theorem repetition_induction
    {κ : Type}
    (production : Production α)
    (known : κ → State → Prop)
    (motive : κ → State → Prop)
    (failed :
      ∀ {knowledge : κ} {state reached : State},
        known knowledge state →
          production state = (none, reached) →
            motive knowledge state)
    (succeeded :
      ∀ {knowledge : κ} {state middle : State} {value : α},
        known knowledge state →
          production state = (some value, middle) →
            ∃ front later,
              state.Takes front middle ∧ front ≠ [] ∧ known later middle ∧
                (motive later middle → motive knowledge state))
    (knowledge : κ)
    (isKnown : known knowledge state) :
    motive knowledge state := by
  -- Each item that succeeds leaves fewer tokens, which is what the recursion is on.
  induction remaining : state.cursor.rest.length using Nat.strongRecOn
    generalizing knowledge state with
  | ind length inductionHypothesis =>
      cases answered : production state with
      | mk answer middle =>
          cases answer with
          | none =>
              exact failed isKnown answered
          | some value =>
              obtain ⟨front, later, takes, nonempty, isKnownLater, goesOn⟩ :=
                succeeded isKnown answered
              have positive := List.length_pos_iff.2 nonempty
              have fewer : middle.cursor.rest.length < length := by
                rw [← remaining, takes.rest, List.length_append]
                omega
              exact goesOn
                (inductionHypothesis middle.cursor.rest.length fewer later isKnownLater rfl)

end WindowLang.Grammar
