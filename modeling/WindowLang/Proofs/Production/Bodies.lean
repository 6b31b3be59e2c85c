import WindowLang.Proofs.Production.Parts
import WindowLang.Proofs.Production.Repetition

namespace WindowLang.Grammar

/-!
# Bodies

A body repeats an item until one fails and then wants its closing keyword. The
item that fails either declines at its first token, and then that keyword may
stand there, or it has begun; then its first token is no closing keyword, and the
body fails with it and adds that it wanted the keyword there.
-/

variable {α : Type}
variable {tokens : List Token} {depth : Nat}

/-- Forms of an item, one after the other. -/
inductive ListForm (form : List Token → α → Prop) : List Token → List α → Prop where
  | nil : ListForm form [] []
  | cons
      {first rest : List Token}
      {value : α}
      {values : List α}
      (derives : form first value)
      (others : ListForm form rest values) :
      ListForm form (first ++ rest) (value :: values)

/-- The form of a body with its closing keyword. -/
def BodyForm
    (form : List Token → α → Prop)
    (taken : List Token)
    (values : List α) :
    Prop :=
  ∃ items close,
    taken = items ++ [close] ∧ ListForm form items values ∧ close.kind = .keyword .close

/-- The rule that wants an item. -/
def Item.rule : Item → Rule
  | .widget => .widget
  | .radioButton => .radioButton

/-- What the rule of an item wants at its first token. -/
def Item.expected : Item → Expectation
  | .widget => .widget
  | .radioButton => .token (.keyword .radio)

theorem Item.unmet_eq (item : Item) (found : Option Token) :
    item.unmet found = .unmet item.rule item.expected found := by
  cases item with
  | widget =>
      rfl
  | radioButton =>
      rfl

theorem Item.tasks?_of_close
    (item : Item)
    {token : Token}
    (closes : token.kind = .keyword .close) :
    item.tasks? token = none := by
  cases item with
  | widget =>
      simp [Item.tasks?, widgetTasks?, closes]
  | radioButton =>
      simp [Item.tasks?, closes]

/-- It does not matter for the open panels which item of a body is in progress. -/
theorem Agenda.openPanels_body
    (rule : Rule)
    (item : Item)
    (begun : Option Nat)
    (rest : Agenda) :
    Agenda.openPanels (.body rule item begun :: rest) =
      Agenda.openPanels [.body rule item none] + rest.openPanels := by
  cases rule <;> simp [openPanels, Nat.add_comm]

/--
The production recognizes an item of a body: where the body does not end, it
answers as the agenda of the body tells; it declines at a token that begins no
item, and takes every form of the item.
-/
structure PerformsItem
    (tokens : List Token)
    (depth : Nat)
    (item : Item)
    (form : List Token → α → Prop)
    (production : Production α) :
    Prop where
  outcome :
    ∀ {state : State} (rule : Rule) (begun : Option Nat),
      state.Within tokens →
      (∀ token, state.cursor.rest.head? = some token → token.kind ≠ .keyword .close) →
        Outcome tokens depth [.body rule item begun]
          [.body rule item (some state.cursor.consumed)] form state (production state)
  declines :
    ∀ {state : State},
      (∀ token, state.cursor.rest.head? = some token → item.tasks? token = none) →
        production state = Production.mismatch item.rule item.expected state
  complete :
    ∀ {state : State} {taken left : List Token} {value : α},
      form taken value →
        state.cursor.rest = taken ++ left →
          ∃ reached, production state = (some value, reached) ∧ state.Takes taken reached
  nonempty :
    ∀ {taken : List Token} {value : α}, form taken value → taken ≠ []

/-- The item is repeated until it fails, and the agenda of the body goes along. -/
def Attempted
    (depth : Nat)
    (rule : Rule)
    (item : Item)
    (form : List Token → α → Prop)
    (production : Production α)
    (begun : Option Nat)
    (state : State) :
    Prop :=
  ∃ taken values last failed begunLast,
    Repetition production state taken values last failed ∧
      ListForm form taken values ∧
      ∀ rest : Agenda,
        Agenda.openPanels (.body rule item begunLast :: rest) = depth →
          Agenda.Runs (.body rule item begun :: rest) state.cursor.consumed taken
            (.body rule item begunLast :: rest)

namespace PerformsItem

/-- No item begins with the closing keyword of a body. -/
theorem declines_of_close
    {item : Item}
    {form : List Token → α → Prop}
    {production : Production α}
    (performs : PerformsItem tokens depth item form production)
    {state : State}
    {close : Token}
    {more : List Token}
    (next : state.cursor.rest = close :: more)
    (closes : close.kind = .keyword .close) :
    production state = Production.mismatch item.rule item.expected state := by
  apply performs.declines
  intro token found
  rw [next] at found
  cases found
  exact item.tasks?_of_close closes

/-- The item is repeated until it fails, and leads the agenda of the body along. -/
theorem exists_repetition
    {item : Item}
    {form : List Token → α → Prop}
    {production : Production α}
    (performs : PerformsItem tokens depth item form production)
    (rule : Rule)
    (begun : Option Nat)
    {state : State}
    (within : state.Within tokens) :
    Attempted depth rule item form production begun state := by
  refine repetition_induction production (fun _ state => state.Within tokens)
    (Attempted depth rule item form production) ?_ ?_ begun within
  · intro begun state failed _ fails
    exact ⟨[], [], state, failed, begun, .nil fails, .nil, fun rest _ => .nil rfl _⟩
  · intro begun state middle value within succeeded
    have notClose :
        ∀ token, state.cursor.rest.head? = some token → token.kind ≠ .keyword .close := by
      intro token found closes
      obtain ⟨more, next⟩ := List.head?_eq_some_iff.1 found
      have declined := performs.declines_of_close next closes
      rw [succeeded] at declined
      cases declined
    have outcome := performs.outcome rule begun within notClose
    rw [succeeded] at outcome
    cases outcome with
    | @taken _ _ front takes derives runs =>
        have nonempty := performs.nonempty derives
        refine ⟨front, some state.cursor.consumed, takes, nonempty, takes.within within, ?_⟩
        rintro ⟨taken, values, last, failed, begunLast, repetition, derivesOthers, runsOn⟩
        refine ⟨front ++ taken, value :: values, last, failed, begunLast,
          .cons succeeded takes nonempty repetition, .cons derives derivesOthers, ?_⟩
        intro rest opened
        have openedFirst :
            Agenda.openPanels ([.body rule item (some state.cursor.consumed)] ++ rest) =
              depth := by
          rw [List.singleton_append, Agenda.openPanels_body,
            ← Agenda.openPanels_body rule item begunLast, opened]
        have first := runs rest openedFirst
        have others := runsOn rest opened
        rw [takes.consumed] at others
        exact first.trans others

/-- Every list of items behind which no further item begins is passed to its end. -/
theorem repetition_of_listForm
    {item : Item}
    {form : List Token → α → Prop}
    {production : Production α}
    (performs : PerformsItem tokens depth item form production)
    {state : State}
    {taken left : List Token}
    {values : List α}
    (derives : ListForm form taken values)
    (split : state.cursor.rest = taken ++ left)
    (noItem : ∀ token, left.head? = some token → item.tasks? token = none) :
    ∃ last,
      Repetition production state taken values last
        (Production.mismatch item.rule item.expected last : Option α × State).2 := by
  induction derives generalizing state with
  | nil =>
      have declined :
          production state = Production.mismatch item.rule item.expected state := by
        apply performs.declines
        rw [split]
        exact noItem
      exact ⟨state, .nil declined⟩
  | @cons first rest value values derives others inductionHypothesis =>
      rw [List.append_assoc] at split
      obtain ⟨middle, succeeded, takes⟩ := performs.complete derives split
      have splitLeft : middle.cursor.rest = rest ++ left :=
        List.append_cancel_left (takes.rest.symm.trans split)
      obtain ⟨last, repetition⟩ := inductionHypothesis splitLeft
      exact ⟨last, .cons succeeded takes (performs.nonempty derives) repetition⟩

end PerformsItem

/-- A body whose items ended before its closing keyword has taken them all. -/
theorem body_of_close
    {production : Production α}
    {item : Item}
    {rule : Rule}
    {state last : State}
    {values : List α}
    {close : Token}
    {more : List Token}
    (repeated :
      Production.many production state =
        (some values,
          { (Production.mismatch item.rule item.expected last : Option α × State).2 with
            cursor := last.cursor }))
    (next : last.cursor.rest = close :: more)
    (closes : close.kind = .keyword .close) :
    body rule production state =
      (some values, { last.advance with diagnosis := state.diagnosis }) := by
  have answered :
      (do
        let items ← Production.many production
        let _ ← keyword rule .close
        return items : Production (List α)) state =
      (some values,
        { last.advance with
          diagnosis := last.diagnosis.unmet item.rule item.expected last.cursor }) := by
    rw [Production.bind_apply_of_some repeated]
    exact Production.bind_apply_of_some (expect_of_kind rule next closes)
  simp only [body, Production.forgetting, answered]

/-- A body fails where another token stands in the place of its closing keyword. -/
theorem body_of_other
    {production : Production α}
    {rule : Rule}
    {state last failed : State}
    {values : List α}
    (repeated :
      Production.many production state =
        (some values, { failed with cursor := last.cursor }))
    (notClose :
      ∀ token, last.cursor.rest.head? = some token → token.kind ≠ .keyword .close) :
    body rule production state =
      (none,
        { failed with
          cursor := last.cursor
          diagnosis :=
            failed.diagnosis.unmet rule (.token (.keyword .close)) last.cursor }) := by
  have answered :
      (do
        let items ← Production.many production
        let _ ← keyword rule .close
        return items : Production (List α)) state =
      (none,
        { failed with
          cursor := last.cursor
          diagnosis :=
            failed.diagnosis.unmet rule (.token (.keyword .close)) last.cursor }) := by
    rw [Production.bind_apply_of_some repeated]
    exact Production.bind_apply_of_none (expect_of_ne rule notClose)
  simp only [body, Production.forgetting, answered]

/--
A body whose last item failed, and where no closing keyword stands in the place
of that item, adds that it wanted the keyword there.
-/
theorem PerformsItem.fail_body
    {item : Item}
    {form : List Token → α → Prop}
    {bodyForm : List Token → List α → Prop}
    {production : Production α}
    {rule : Rule}
    (performs :
      PerformsItem tokens (Agenda.openPanels [.body rule item none] + depth) item form
        production)
    (begun : Option Nat)
    {state failed : State}
    (within : state.Within tokens)
    (notClose :
      ∀ token, state.cursor.rest.head? = some token → token.kind ≠ .keyword .close)
    (fails : production state = (none, failed)) :
    Outcome tokens depth [.body rule item begun] [] bodyForm state
      (none,
        { failed with
          cursor := state.cursor
          diagnosis :=
            failed.diagnosis.unmet rule (.token (.keyword .close)) state.cursor }) := by
  have outcome := performs.outcome rule begun within notClose
  rw [fails] at outcome
  have opened
      {rest : Agenda}
      (isOpen : ([] ++ rest : Agenda).openPanels = depth) :
      Agenda.openPanels ([.body rule item (some state.cursor.consumed)] ++ rest) =
        Agenda.openPanels [.body rule item none] + depth := by
    rw [List.singleton_append, Agenda.openPanels_body]
    simpa using isOpen
  cases outcome with
  | refused taken left added split tooDeep trail failedAt stops =>
      refine .refused taken left
        (added ++ [.unmet rule (.token (.keyword .close)) state.cursor.rest.head?])
        split tooDeep ?_ ?_ ?_
      · simp [Diagnosis.unmet, trail]
      · simp only [Diagnosis.unmet, failedAt]
        omega
      · intro rest isOpen
        obtain ⟨agenda, stuck, unblocked, unmet⟩ := stops rest (opened isOpen)
        refine ⟨agenda, stuck, unblocked, ?_⟩
        simpa [Task.pending?, within.head?_eq] using unmet
  | blocked taken left split tooDeep stops =>
      refine .blocked taken left split tooDeep ?_
      intro rest isOpen
      exact stops rest (opened isOpen)

theorem Performs.body
    {item : Item}
    {form : List Token → α → Prop}
    {production : Production α}
    (rule : Rule)
    (performs :
      PerformsItem tokens (Agenda.openPanels [.body rule item none] + depth) item form
        production) :
    Performs tokens depth [.body rule item none] (BodyForm form)
      (Grammar.body rule production) where
  outcome {state} within := by
    obtain ⟨taken, values, last, failed, begun, repetition, derives, runs⟩ :=
      performs.exists_repetition rule none within
    have runsTo :
        ∀ rest : Agenda,
          ([] ++ rest : Agenda).openPanels = depth →
            Agenda.Runs ([.body rule item none] ++ rest) state.cursor.consumed taken
              ([.body rule item begun] ++ rest) := by
      intro rest opened
      apply runs
      rw [Agenda.openPanels_body]
      simpa using opened
    rcases last.next_or_other (.keyword .close) with ⟨close, more, next, closes⟩ | notClose
    · have declined : production last = Production.mismatch item.rule item.expected last :=
        performs.declines_of_close next closes
      have failedIs :
          failed = (Production.mismatch item.rule item.expected last : Option α × State).2 :=
        congrArg Prod.snd (repetition.fails.symm.trans declined)
      subst failedIs
      have closeTakes : last.Takes [close] last.advance := State.takes_advance next
      have allTaken : state.Takes (taken ++ [close]) last.advance :=
        repetition.takes.trans closeTakes
      have formed : BodyForm form (taken ++ [close]) values :=
        ⟨taken, close, rfl, derives, closes⟩
      rw [body_of_close repetition.many_eq next closes]
      refine .taken ⟨allTaken.rest, allTaken.consumed, rfl, allTaken.tooDeep⟩ formed ?_
      intro rest opened
      refine (runsTo rest opened).trans (Agenda.Runs.cons ?_ (Agenda.Runs.nil rfl _))
      simp [Agenda.advance?, closes]
    · rw [body_of_other repetition.many_eq notClose]
      have outcome :
          Outcome tokens depth [.body rule item begun] []
            (fun (_ : List Token) (_ : List α) => False) last _ :=
        performs.fail_body begun (repetition.takes.within within) notClose repetition.fails
      refine (outcome.prepend repetition.takes runsTo).mono ?_
      rintro later result ⟨more, _, impossible⟩
      exact impossible.elim
  complete {state taken left values} derives split := by
    obtain ⟨front, close, rfl, itemsDerive, closes⟩ := derives
    rw [List.append_assoc, List.singleton_append] at split
    have noItem :
        ∀ token, (close :: left).head? = some token → item.tasks? token = none := by
      intro token found
      cases found
      exact item.tasks?_of_close closes
    obtain ⟨last, repetition⟩ := performs.repetition_of_listForm itemsDerive split noItem
    have takes := repetition.takes
    have next : last.cursor.rest = close :: left :=
      List.append_cancel_left (takes.rest.symm.trans split)
    have closeTakes : last.Takes [close] last.advance := State.takes_advance next
    have allTaken := takes.trans closeTakes
    exact ⟨_, body_of_close repetition.many_eq next closes, allTaken.rest, allTaken.consumed, rfl,
      allTaken.tooDeep⟩

end WindowLang.Grammar
