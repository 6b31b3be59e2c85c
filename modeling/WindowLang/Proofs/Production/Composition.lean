import WindowLang.Proofs.Production.Outcome

namespace WindowLang.Grammar

/-!
# Composing outcomes

Productions are built from few combinators, and each of them has one rule here.
Two productions in a row do the tasks of both, where the tasks of the second are
still to come while the first one is at work, and so tell nothing in the
diagnosis.
-/

variable {α β : Type}
variable {tokens : List Token} {depth : Nat}

/-- After tokens that the agenda admits, the outcome behind them is the outcome. -/
theorem Outcome.prepend
    {before between after : Agenda}
    {form : List Token → α → Prop}
    {state middle : State}
    {first : List Token}
    {answer : Option α × State}
    (takes : state.Takes first middle)
    (runs :
      ∀ rest : Agenda,
        (after ++ rest).openPanels = depth →
          Agenda.Runs (before ++ rest) state.cursor.consumed first (between ++ rest))
    (outcome : Outcome tokens depth between after form middle answer) :
    Outcome tokens depth before after
      (fun all value => ∃ more, all = first ++ more ∧ form more value) state answer := by
  have shifted (later : List Token) :
      middle.cursor.consumed + later.length =
        state.cursor.consumed + (first ++ later).length := by
    rw [takes.consumed, List.length_append, Nat.add_assoc]
  cases outcome with
  | @taken value reached later laterTakes derives laterRuns =>
      refine .taken (takes.trans laterTakes) ⟨later, rfl, derives⟩ ?_
      intro rest opened
      have ranOn := laterRuns rest opened
      rw [takes.consumed] at ranOn
      exact (runs rest opened).trans ranOn
  | @refused reached later left added split tooDeep trail failedAt stops =>
      refine .refused (first ++ later) left added ?_ (tooDeep.trans takes.tooDeep) ?_ ?_ ?_
      · rw [takes.rest, split, List.append_assoc]
      · rw [trail, takes.diagnosis]
      · rw [failedAt, takes.diagnosis, shifted]
      · intro rest opened
        obtain ⟨agenda, stuck, unblocked, unmet⟩ := stops rest opened
        rw [takes.consumed] at stuck
        rw [shifted] at unmet
        exact ⟨agenda, stuck.prepend (runs rest opened), unblocked, unmet⟩
  | @blocked reached later left split tooDeep stops =>
      refine .blocked (first ++ later) left ?_ ?_ ?_
      · rw [takes.rest, split, List.append_assoc]
      · rw [tooDeep, shifted]
      · intro rest opened
        obtain ⟨agenda, stuck, blocks⟩ := stops rest opened
        rw [takes.consumed] at stuck
        exact ⟨agenda, stuck.prepend (runs rest opened), blocks⟩

/-- A failure stays what it is when tasks follow that have not begun. -/
theorem Outcome.fail_append
    {tasks others : Agenda}
    {form : List Token → α → Prop}
    {laterForm : List Token → β → Prop}
    {state reached : State}
    (unbegun : others.filterMap (Task.pending? tokens) = [])
    (outcome :
      Outcome tokens (others.openPanels + depth) tasks [] form state (none, reached)) :
    Outcome tokens depth (tasks ++ others) [] laterForm state (none, reached) := by
  have opened
      {rest : Agenda}
      (isOpen : ([] ++ rest : Agenda).openPanels = depth) :
      ([] ++ (others ++ rest) : Agenda).openPanels = others.openPanels + depth := by
    simpa using isOpen
  cases outcome with
  | refused taken left added split tooDeep trail failedAt stops =>
      refine .refused taken left added split tooDeep trail failedAt ?_
      intro rest isOpen
      obtain ⟨agenda, stuck, unblocked, unmet⟩ := stops (others ++ rest) (opened isOpen)
      refine ⟨agenda, ?_, unblocked, ?_⟩
      · simpa using stuck
      · simpa [unbegun] using unmet
  | blocked taken left split tooDeep stops =>
      refine .blocked taken left split tooDeep ?_
      intro rest isOpen
      obtain ⟨agenda, stuck, blocks⟩ := stops (others ++ rest) (opened isOpen)
      exact ⟨agenda, by simpa using stuck, blocks⟩

/-- Tasks around the tasks of a production stay as they are. -/
theorem Outcome.frame
    {tasks : Agenda}
    {form : List Token → α → Prop}
    {state : State}
    {answer : Option α × State}
    (outer : Agenda)
    (outcome : Outcome tokens depth tasks [] form state answer) :
    Outcome tokens depth (tasks ++ outer) outer form state answer := by
  cases outcome with
  | taken takes derives runs =>
      refine .taken takes derives ?_
      intro rest opened
      rw [List.append_assoc]
      exact runs (outer ++ rest) opened
  | refused taken left added split tooDeep trail failedAt stops =>
      refine .refused taken left added split tooDeep trail failedAt ?_
      intro rest opened
      rw [List.append_assoc]
      exact stops (outer ++ rest) opened
  | blocked taken left split tooDeep stops =>
      refine .blocked taken left split tooDeep ?_
      intro rest opened
      rw [List.append_assoc]
      exact stops (outer ++ rest) opened

/-- Where the cursor is after a failure does not matter. -/
theorem Outcome.rewind
    {before after : Agenda}
    {form : List Token → α → Prop}
    {state reached : State}
    (cursor : Cursor)
    (outcome : Outcome tokens depth before after form state (none, reached)) :
    Outcome tokens depth before after form state
      (none, { reached with cursor := cursor }) := by
  cases outcome with
  | refused taken left added split tooDeep trail failedAt stops =>
      exact .refused taken left added split tooDeep trail failedAt stops
  | blocked taken left split tooDeep stops =>
      exact .blocked taken left split tooDeep stops

/-- An outcome holds for every form that follows from its own. -/
theorem Outcome.mono
    {before after : Agenda}
    {form weaker : List Token → α → Prop}
    {state : State}
    {answer : Option α × State}
    (follows : ∀ taken value, form taken value → weaker taken value)
    (outcome : Outcome tokens depth before after form state answer) :
    Outcome tokens depth before after weaker state answer := by
  cases outcome with
  | taken takes derives runs =>
      exact .taken takes (follows _ _ derives) runs
  | refused taken left added split tooDeep trail failedAt stops =>
      exact .refused taken left added split tooDeep trail failedAt stops
  | blocked taken left split tooDeep stops =>
      exact .blocked taken left split tooDeep stops

/--
Where a simple task does not admit what is next, the outcome is a refusal if the
task's own fragments are what was added.
-/
theorem Outcome.refuse
    {task : Task}
    {form : List Token → α → Prop}
    {state reached : State}
    (simple : task.isSimple = true)
    (tooDeep : reached.tooDeep = state.tooDeep)
    (trail :
      reached.diagnosis.trail =
        state.diagnosis.trail ++ task.refusal state.cursor.rest.head?)
    (failedAt :
      reached.diagnosis.failedAt =
        max state.diagnosis.failedAt (state.cursor.consumed + 1))
    (noAdvance :
      ∀ token,
        state.cursor.rest.head? = some token →
          ∀ rest : Agenda,
            Agenda.advance? (task :: rest) state.cursor.consumed token = none)
    (within : state.Within tokens) :
    Outcome tokens depth [task] [] form state (none, reached) := by
  refine .refused [] state.cursor.rest _ rfl tooDeep trail failedAt ?_
  intro rest opened
  have settled : Agenda.settle (task :: rest) = task :: rest :=
    Agenda.settle_cons_of_isSimple simple rest
  refine ⟨task :: rest, ⟨Agenda.Runs.nil rfl _, ?_, ?_⟩, ?_, ?_⟩
  · intro token next
    exact noAdvance token next rest
  · intro complete
    rw [settled] at complete
    cases complete
  · exact Agenda.blocks_cons_of_isSimple simple rest _
  · rw [Agenda.unmet_cons_of_settle settled]
    simp [within.head?_eq]

/-- A mismatch is a refusal where the task tells nothing else. -/
theorem Outcome.mismatch
    {task : Task}
    {rule : Rule}
    {expected : Expectation}
    {form : List Token → α → Prop}
    {state : State}
    (simple : task.isSimple = true)
    (refusal :
      task.refusal state.cursor.rest.head? =
        [.unmet rule expected state.cursor.rest.head?])
    (noAdvance :
      ∀ token,
        state.cursor.rest.head? = some token →
          ∀ rest : Agenda,
            Agenda.advance? (task :: rest) state.cursor.consumed token = none)
    (within : state.Within tokens) :
    Outcome tokens depth [task] [] form state
      (Production.mismatch rule expected state) := by
  refine Outcome.refuse simple rfl ?_ rfl noAdvance within
  rw [refusal]
  rfl

namespace Performs

/-- A production may be described by any form that is equivalent to its own. -/
theorem congr
    {tasks : Agenda}
    {form same : List Token → α → Prop}
    {production : Production α}
    (performs : Performs tokens depth tasks form production)
    (equivalent : ∀ taken value, form taken value ↔ same taken value) :
    Performs tokens depth tasks same production where
  outcome within :=
    (performs.outcome within).mono fun taken value => (equivalent taken value).1
  complete derives split :=
    performs.complete ((equivalent _ _).2 derives) split

/-- Recognizing nothing does no task. -/
theorem succeed (value : α) :
    Performs tokens depth [] (fun taken result => taken = [] ∧ result = value)
      (pure value : Production α) where
  outcome {state} _ :=
    .taken (.refl state) ⟨rfl, rfl⟩ fun _ _ => Agenda.Runs.nil rfl _
  complete {state taken left result} derives split := by
    obtain ⟨rfl, rfl⟩ := derives
    exact ⟨state, rfl, .refl state⟩

/-- Noting an event does no task. -/
theorem note (event : Nat → Event) :
    Performs tokens depth [] (fun taken _ => taken = []) (Production.note event) where
  outcome {state} _ :=
    .taken ⟨rfl, rfl, rfl, rfl⟩ rfl fun _ _ => Agenda.Runs.nil rfl _
  complete {state taken left result} derives split := by
    subst derives
    exact ⟨_, rfl, rfl, rfl, rfl, rfl⟩

/-- One production after another does the tasks of both. -/
theorem bind
    {tasks others : Agenda}
    {form : List Token → α → Prop}
    {next : α → List Token → β → Prop}
    {production : Production α}
    {continuation : α → Production β}
    (first : Performs tokens (others.openPanels + depth) tasks form production)
    (second :
      ∀ value, Performs tokens depth others (next value) (continuation value))
    (unbegun : others.filterMap (Task.pending? tokens) = []) :
    Performs tokens depth (tasks ++ others) (Sequence form next)
      (production >>= continuation) where
  outcome {state} within := by
    have firstOutcome := first.outcome within
    generalize answered : production state = answer at firstOutcome
    cases firstOutcome with
    | @taken value middle front takes derives runs =>
        rw [Production.bind_apply_of_some answered]
        have runsOn :
            ∀ rest : Agenda,
              ([] ++ rest : Agenda).openPanels = depth →
                Agenda.Runs (tasks ++ others ++ rest) state.cursor.consumed front
                  (others ++ rest) := by
          intro rest opened
          have ran := runs (others ++ rest) (by simpa using opened)
          simpa using ran
        have secondOutcome := (second value).outcome (takes.within within)
        refine (secondOutcome.prepend takes runsOn).mono ?_
        rintro all result ⟨back, rfl, laterDerives⟩
        exact ⟨front, back, value, rfl, derives, laterDerives⟩
    | refused taken left added split tooDeep trail failedAt stops =>
        rw [Production.bind_apply_of_none answered]
        exact Outcome.fail_append unbegun
          (.refused taken left added split tooDeep trail failedAt stops :
            Outcome _ _ _ _ form _ _)
    | blocked taken left split tooDeep stops =>
        rw [Production.bind_apply_of_none answered]
        exact Outcome.fail_append unbegun
          (.blocked taken left split tooDeep stops : Outcome _ _ _ _ form _ _)
  complete {state taken left result} derives split := by
    obtain ⟨front, back, value, rfl, frontDerives, backDerives⟩ := derives
    rw [List.append_assoc] at split
    obtain ⟨middle, succeeded, takes⟩ := first.complete frontDerives split
    have middleSplit : middle.cursor.rest = back ++ left :=
      List.append_cancel_left (takes.rest.symm.trans split)
    obtain ⟨reached, finished, takesOn⟩ := (second value).complete backDerives middleSplit
    refine ⟨reached, ?_, takes.trans takesOn⟩
    rw [Production.bind_apply_of_some succeeded, finished]

/-- Inside a part of a rule, the part's end is one task more, and it tells of a failure. -/
theorem inside
    {tasks : Agenda}
    {form : List Token → α → Prop}
    {production : Production α}
    (performs : Performs tokens depth tasks form production)
    (rule part : Rule) :
    Performs tokens depth (tasks ++ [.finish rule part]) form
      (Production.inside rule part production) where
  outcome {state} within := by
    have outcome := performs.outcome within
    unfold Production.inside
    generalize production state = answer at outcome
    cases outcome with
    | taken takes derives runs =>
        refine .taken takes derives ?_
        intro rest opened
        have ran := runs (.finish rule part :: rest) (by simpa [Agenda.openPanels] using opened)
        simpa using ran.congr (Agenda.settle_finish rule part rest)
    | @refused reached taken left added split tooDeep trail failedAt stops =>
        refine .refused taken left (added ++ [.missing rule part]) split tooDeep ?_ failedAt ?_
        · simp [Diagnosis.missing, trail]
        · intro rest opened
          obtain ⟨agenda, stuck, unblocked, unmet⟩ :=
            stops (.finish rule part :: rest) (by simpa [Agenda.openPanels] using opened)
          refine ⟨agenda, by simpa using stuck, unblocked, ?_⟩
          simpa [Task.pending?] using unmet
    | blocked taken left split tooDeep stops =>
        refine .blocked taken left split tooDeep ?_
        intro rest opened
        obtain ⟨agenda, stuck, blocks⟩ :=
          stops (.finish rule part :: rest) (by simpa [Agenda.openPanels] using opened)
        exact ⟨agenda, by simpa using stuck, blocks⟩
  complete {state taken left result} derives split := by
    obtain ⟨reached, succeeded, takes⟩ := performs.complete derives split
    refine ⟨reached, ?_, takes⟩
    simp only [Production.inside, succeeded]

end Performs

end WindowLang.Grammar
