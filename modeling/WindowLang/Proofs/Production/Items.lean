import WindowLang.Proofs.Production.Bodies

namespace WindowLang.Grammar

/-!
# Items of a body

Where the agenda of a body comes next, the first token of an item brings the
tasks of the item in front of it, and any other token but the closing keyword is
refused.
-/

variable {α : Type}
variable {tokens : List Token} {depth : Nat}

/-- The agenda of a body goes on with the tasks of an item that the token begins. -/
theorem Agenda.advance?_body
    {rule : Rule}
    {item : Item}
    {begun : Option Nat}
    {rest tasks : Agenda}
    {token : Token}
    (index : Nat)
    (begins : item.tasks? token = some tasks)
    (room :
      token.kind = .keyword .panel →
        Agenda.openPanels (.body rule item begun :: rest) < panelLimit) :
    Agenda.advance? (.body rule item begun :: rest) index token =
      some (tasks ++ .body rule item (some index) :: rest) := by
  have notClose : token.kind ≠ .keyword .close := by
    intro closes
    rw [item.tasks?_of_close closes] at begins
    cases begins
  have notFull : Agenda.isFull (.body rule item begun :: rest) token = false := by
    unfold Agenda.isFull
    by_cases isPanel : token.kind = .keyword .panel
    · have lessThanLimit := room isPanel
      simp only [isPanel, decide_true, Bool.true_and, decide_eq_false_iff_not]
      omega
    · simp [isPanel]
  simp [Agenda.advance?, notClose, notFull, begins]

/-- An item that its first token begins answers as what follows that token does. -/
theorem Outcome.beginItem
    {rule : Rule}
    {item : Item}
    {begun : Option Nat}
    {tasks : Agenda}
    {form : List Token → α → Prop}
    {state : State}
    {token : Token}
    {more : List Token}
    {answer : Option α × State}
    (next : state.cursor.rest = token :: more)
    (begins : item.tasks? token = some tasks)
    (room : token.kind = .keyword .panel → depth < panelLimit)
    (outcome : Outcome tokens depth tasks [] form state.advance answer) :
    Outcome tokens depth [.body rule item begun]
      [.body rule item (some state.cursor.consumed)]
      (fun taken value => ∃ later, taken = token :: later ∧ form later value)
      state answer := by
  refine (outcome.frame [.body rule item (some state.cursor.consumed)]).prepend
    (State.takes_advance next) ?_
  intro rest opened
  have sameOpen :
      Agenda.openPanels (.body rule item begun :: rest) = depth := by
    rw [Agenda.openPanels_body,
      ← Agenda.openPanels_body rule item (some state.cursor.consumed)]
    exact opened
  have advances :
      Agenda.advance? (.body rule item begun :: rest) state.cursor.consumed token =
        some (tasks ++ .body rule item (some state.cursor.consumed) :: rest) :=
    Agenda.advance?_body _ begins (sameOpen ▸ room)
  refine Agenda.Runs.cons advances (Agenda.Runs.nil ?_ _)
  rw [List.append_assoc, List.singleton_append]

/-- A token that begins no item and does not close the body is refused. -/
theorem Outcome.declineItem
    {rule : Rule}
    {item : Item}
    {begun : Option Nat}
    {form : List Token → α → Prop}
    {state : State}
    (declines :
      ∀ token, state.cursor.rest.head? = some token → item.tasks? token = none)
    (notClose :
      ∀ token, state.cursor.rest.head? = some token → token.kind ≠ .keyword .close)
    (within : state.Within tokens) :
    Outcome tokens depth [.body rule item begun]
      [.body rule item (some state.cursor.consumed)] form state
      (Production.mismatch item.rule item.expected state) := by
  refine .refused [] state.cursor.rest _ rfl rfl rfl rfl ?_
  intro rest opened
  refine ⟨.body rule item begun :: rest, ⟨Agenda.Runs.nil rfl _, ?_, ?_⟩, ?_, ?_⟩
  · intro token next
    simp only [Agenda.advance?, Agenda.settle_body, notClose token next, if_false,
      declines token next, Option.map_none, ite_self]
  · intro complete
    cases complete
  · cases next : state.cursor.rest.head? with
    | none =>
        cases item <;> rfl
    | some token =>
        cases item with
        | radioButton =>
            rfl
        | widget =>
            have noTasks := declines token next
            have notPanel : token.kind ≠ .keyword .panel := by
              intro isPanel
              simp [Item.tasks?, widgetTasks?, isPanel] at noTasks
            simp [Agenda.blocks, Agenda.isFull, notPanel]
  · rw [Agenda.unmet_cons_of_settle (Agenda.settle_body rule item begun rest)]
    simp [Task.refusal, Task.pending?, within.head?_eq, item.unmet_eq]

end WindowLang.Grammar
