import WindowLang.Proofs.Agenda.Run

namespace WindowLang.Grammar

/-!
# Outcomes of productions

A production does some tasks of the agenda. It either takes tokens of a certain
form, and the agenda goes on behind those tasks, or it stops where the agenda is
stuck, and adds to the diagnosis what the agenda says is unmet there. A panel
that is nested too deeply is the one failure that leaves another mark.

Outcomes are stated for every agenda around the tasks, so that they compose like
the productions themselves.
-/

variable {α β : Type}

/--
The tokens were taken on the way from one state to another, and nothing but the
events changed beside the cursor.
-/
structure State.Takes
    (state : State)
    (taken : List Token)
    (reached : State) :
    Prop where
  rest : state.cursor.rest = taken ++ reached.cursor.rest
  consumed : reached.cursor.consumed = state.cursor.consumed + taken.length
  diagnosis : reached.diagnosis = state.diagnosis
  tooDeep : reached.tooDeep = state.tooDeep

/-- The cursor of the state is a place in the token stream. -/
def State.Within (tokens : List Token) (state : State) : Prop :=
  state.cursor.rest = tokens.drop state.cursor.consumed

/-- Taking no tokens leads from a state to itself. -/
theorem State.Takes.refl (state : State) :
    state.Takes [] state where
  rest := rfl
  consumed := rfl
  diagnosis := rfl
  tooDeep := rfl

/-- The next token alone leads from a state to the one behind it. -/
theorem State.takes_advance
    {state : State}
    {token : Token}
    {more : List Token}
    (next : state.cursor.rest = token :: more) :
    state.Takes [token] state.advance where
  rest := by
    simp [State.advance, Cursor.advance, next]
  consumed := rfl
  diagnosis := rfl
  tooDeep := rfl

/-- What is taken in two stretches is taken in one. -/
theorem State.Takes.trans
    {state middle reached : State}
    {first second : List Token}
    (firstTakes : state.Takes first middle)
    (secondTakes : middle.Takes second reached) :
    state.Takes (first ++ second) reached where
  rest := by
    rw [firstTakes.rest, secondTakes.rest, List.append_assoc]
  consumed := by
    rw [secondTakes.consumed, firstTakes.consumed, List.length_append, Nat.add_assoc]
  diagnosis := secondTakes.diagnosis.trans firstTakes.diagnosis
  tooDeep := secondTakes.tooDeep.trans firstTakes.tooDeep

/-- Taking tokens stays within the token stream. -/
theorem State.Takes.within
    {tokens taken : List Token}
    {state reached : State}
    (takes : state.Takes taken reached)
    (within : state.Within tokens) :
    reached.Within tokens := by
  unfold State.Within at within ⊢
  rw [takes.consumed, ← List.drop_drop, ← within, takes.rest, List.drop_left]

/-- The next token is found in the stream at its index. -/
theorem State.Within.head?_eq
    {tokens : List Token}
    {state : State}
    (within : state.Within tokens) :
    tokens[state.cursor.consumed]? = state.cursor.rest.head? := by
  rw [within, List.head?_drop]

/--
What a production may answer in a state, if it leads the agenda from the tasks
`before` to the tasks `after` and as many panels are open as `depth` tells.
-/
inductive Outcome
    (tokens : List Token)
    (depth : Nat)
    (before after : Agenda)
    (form : List Token → α → Prop)
    (state : State) :
    Option α × State → Prop where
  /-- Tokens of the form were taken, and the tasks are done. -/
  | taken
      {value : α}
      {reached : State}
      {taken : List Token}
      (takes : state.Takes taken reached)
      (derives : form taken value)
      (runs :
        ∀ rest : Agenda,
          (after ++ rest).openPanels = depth →
            Agenda.Runs (before ++ rest) state.cursor.consumed taken (after ++ rest)) :
      Outcome tokens depth before after form state (some value, reached)
  /-- The agenda is stuck, and its unmet expectations were added to the diagnosis. -/
  | refused
      {reached : State}
      (taken left : List Token)
      (added : List Fragment)
      (split : state.cursor.rest = taken ++ left)
      (tooDeep : reached.tooDeep = state.tooDeep)
      (trail : reached.diagnosis.trail = state.diagnosis.trail ++ added)
      (failedAt :
        reached.diagnosis.failedAt =
          max state.diagnosis.failedAt (state.cursor.consumed + taken.length + 1))
      (stops :
        ∀ rest : Agenda,
          (after ++ rest).openPanels = depth →
            ∃ agenda,
              Agenda.Stuck (before ++ rest) state.cursor.consumed taken left agenda ∧
                agenda.blocks left.head? = false ∧
                agenda.unmet tokens (state.cursor.consumed + taken.length) =
                  added ++ (after ++ rest).filterMap (Task.pending? tokens)) :
      Outcome tokens depth before after form state (none, reached)
  /-- The agenda is stuck at the keyword of a panel, because too many are open. -/
  | blocked
      {reached : State}
      (taken left : List Token)
      (split : state.cursor.rest = taken ++ left)
      (tooDeep :
        reached.tooDeep = some (state.cursor.consumed + taken.length + 1))
      (stops :
        ∀ rest : Agenda,
          (after ++ rest).openPanels = depth →
            ∃ agenda,
              Agenda.Stuck (before ++ rest) state.cursor.consumed taken left agenda ∧
                agenda.blocks left.head? = true) :
      Outcome tokens depth before after form state (none, reached)

/-- One form after the other, where the second may depend on the value of the first. -/
def Sequence
    (first : List Token → α → Prop)
    (next : α → List Token → β → Prop)
    (tokens : List Token)
    (value : β) :
    Prop :=
  ∃ front back middle, tokens = front ++ back ∧ first front middle ∧ next middle back value

theorem Sequence.intro
    {first : List Token → α → Prop}
    {next : α → List Token → β → Prop}
    {front back : List Token}
    {middle : α}
    {value : β}
    (firstDerives : first front middle)
    (nextDerives : next middle back value) :
    Sequence first next (front ++ back) value :=
  ⟨front, back, middle, rfl, firstDerives, nextDerives⟩

/--
The production does the tasks: it answers as the agenda tells in every state, and
takes every form that stands at the cursor.
-/
structure Performs
    (tokens : List Token)
    (depth : Nat)
    (tasks : Agenda)
    (form : List Token → α → Prop)
    (production : Production α) :
    Prop where
  outcome :
    ∀ {state : State},
      state.Within tokens →
        Outcome tokens depth tasks [] form state (production state)
  complete :
    ∀ {state : State} {taken left : List Token} {value : α},
      form taken value →
        state.cursor.rest = taken ++ left →
          ∃ reached, production state = (some value, reached) ∧ state.Takes taken reached

end WindowLang.Grammar
