import WindowLang.Proofs.Production.Composition

namespace WindowLang.Grammar

/-!
# Terminals

The productions that look at one token: they take it if it is what they want, and
otherwise fail with what the agenda tells. A choice looks at one token too, and
goes on with the tasks that the token brings.
-/

variable {α : Type}
variable {tokens : List Token} {depth : Nat}

/-- A token of one kind. -/
def TokenForm (kind : Kind) (taken : List Token) (token : Token) : Prop :=
  taken = [token] ∧ token.kind = kind

/-- A number token. -/
def NumberForm (taken : List Token) (value : UInt32) : Prop :=
  ∃ token, taken = [token] ∧ Writes token value

namespace Performs

/-- A production that reads one token does the task that admits what it reads. -/
theorem next
    {task : Task}
    {rule : Rule}
    {absent : Expectation}
    {read : Token → Except Expectation α}
    (simple : task.isSimple = true)
    (admits :
      ∀ token value,
        read token = .ok value →
          ∀ (rest : Agenda) (index : Nat),
            Agenda.advance? (task :: rest) index token = some rest)
    (refuses :
      ∀ token expected,
        read token = .error expected →
          task.refusal (some token) = [.unmet rule expected (some token)] ∧
            ∀ (rest : Agenda) (index : Nat),
              Agenda.advance? (task :: rest) index token = none)
    (absence : task.refusal none = [.unmet rule absent none]) :
    Performs tokens depth [task]
      (fun taken value => ∃ token, taken = [token] ∧ read token = .ok value)
      (Production.next rule absent read) where
  outcome {state} within := by
    unfold Production.next
    cases next : state.cursor.rest with
    | nil =>
        refine Outcome.mismatch simple ?_ ?_ within
        · simpa [next] using absence
        · intro token impossible
          simp [next] at impossible
    | cons token more =>
        cases answer : read token with
        | ok value =>
            simp only [answer]
            refine .taken (State.takes_advance next) ⟨token, rfl, answer⟩ ?_
            intro rest opened
            exact Agenda.Runs.cons (admits token value answer rest _)
              (Agenda.Runs.nil rfl _)
        | error expected =>
            simp only [answer]
            obtain ⟨refusal, noAdvance⟩ := refuses token expected answer
            refine Outcome.mismatch simple ?_ ?_ within
            · simpa [next] using refusal
            · intro found isNext rest
              simp only [next, List.head?_cons, Option.some.injEq] at isNext
              subst isNext
              exact noAdvance rest _
  complete {state taken left value} derives split := by
    obtain ⟨token, rfl, answer⟩ := derives
    refine ⟨state.advance, ?_, State.takes_advance split⟩
    rw [List.singleton_append] at split
    simp only [Production.next, split, answer]

/-- A token of one kind does the task of such a token. -/
theorem expect (rule : Rule) (kind : Kind) :
    Performs tokens depth [.token rule kind] (TokenForm kind) (Grammar.expect rule kind) := by
  have performs :
      Performs tokens depth [.token rule kind]
        (fun taken value =>
          ∃ token, taken = [token] ∧
            (if token.kind = kind then .ok token else .error (.token kind) :
              Except Expectation Token) = .ok value)
        (Grammar.expect rule kind) := by
    refine Performs.next rfl ?_ ?_ rfl
    · intro token value answer rest index
      by_cases fits : token.kind = kind
      · simp [Agenda.advance?, Agenda.settle, fits]
      · simp [fits] at answer
    · intro token expected answer
      by_cases fits : token.kind = kind
      · simp [fits] at answer
      · simp only [fits, if_false, Except.error.injEq] at answer
        subst answer
        exact ⟨rfl, fun rest index => by simp [Agenda.advance?, Agenda.settle, fits]⟩
  refine performs.congr fun taken value => ?_
  unfold TokenForm
  constructor
  · rintro ⟨token, rfl, answer⟩
    by_cases fits : token.kind = kind
    · simp only [fits, if_true, Except.ok.injEq] at answer
      subst answer
      exact ⟨rfl, fits⟩
    · simp [fits] at answer
  · rintro ⟨rfl, fits⟩
    exact ⟨value, rfl, by simp [fits]⟩

/-- A mark does the task of a token of its kind. -/
theorem mark (rule : Rule) (symbol : Mark) :
    Performs tokens depth [.token rule (.mark symbol)] (TokenForm (.mark symbol))
      (Grammar.mark rule symbol) :=
  expect rule (.mark symbol)

/-- A keyword does the task of a token of its kind. -/
theorem keyword (rule : Rule) (word : Keyword) :
    Performs tokens depth [.token rule (.keyword word)] (TokenForm (.keyword word))
      (Grammar.keyword rule word) :=
  expect rule (.keyword word)

end Performs

/-- What a number token reads as, or what was expected of it. -/
def readNumber (token : Token) : Except Expectation UInt32 :=
  if token.kind = .number then
    match Text.readUnsigned? token.lexeme with
    | some value => .ok value
    | none => .error .unsignedInteger
  else
    .error (.token .number)

/-- A token reads as the number that it writes. -/
theorem readNumber_eq_ok_iff
    {token : Token}
    {value : UInt32} :
    readNumber token = .ok value ↔ Writes token value := by
  unfold readNumber Writes
  by_cases isNumber : token.kind = .number
  · cases read : Text.readUnsigned? token.lexeme <;> simp [isNumber]
  · simp [isNumber]

/-- A token that writes no number is refused for its kind or for its lexeme. -/
theorem refusal_of_readNumber_eq_error
    {rule : Rule}
    {token : Token}
    {expected : Expectation}
    (answer : readNumber token = .error expected) :
    (Task.number rule).refusal (some token) = [.unmet rule expected (some token)] := by
  unfold readNumber at answer
  by_cases isNumber : token.kind = .number
  · cases read : Text.readUnsigned? token.lexeme with
    | none =>
        simp only [isNumber, if_true, read, Except.error.injEq] at answer
        simp [Task.refusal, isNumber, answer]
    | some value =>
        simp [isNumber, read] at answer
  · simp only [isNumber, if_false, Except.error.injEq] at answer
    simp [Task.refusal, isNumber, answer]

/-- The agenda admits a number where the token reads as one. -/
theorem advance?_number
    (rule : Rule)
    (rest : Agenda)
    (index : Nat)
    (token : Token) :
    Agenda.advance? (.number rule :: rest) index token =
      match readNumber token with
      | .ok _ => some rest
      | .error _ => none := by
  unfold readNumber Agenda.advance?
  by_cases isNumber : token.kind = .number
  · cases read : Text.readUnsigned? token.lexeme <;>
      simp [Agenda.settle, isNumber]
  · simp [Agenda.settle, isNumber]

/-- A number token does the task of a number. -/
theorem Performs.number (rule : Rule) :
    Performs tokens depth [.number rule] NumberForm (Grammar.number rule) := by
  have performs :
      Performs tokens depth [.number rule]
        (fun taken value => ∃ token, taken = [token] ∧ readNumber token = .ok value)
        (Grammar.number rule) := by
    refine Performs.next rfl ?_ ?_ rfl
    · intro token value answer rest index
      have read : readNumber token = .ok value := answer
      rw [advance?_number, read]
    · intro token expected answer
      have read : readNumber token = .error expected := answer
      exact ⟨refusal_of_readNumber_eq_error read, fun rest index => by
        rw [advance?_number, read]⟩
  refine performs.congr fun taken value => ?_
  simp only [NumberForm, readNumber_eq_ok_iff]

/-- The next token has a kind, or else any token that is next has another one. -/
theorem State.next_or_other (state : State) (kind : Kind) :
    (∃ token more, state.cursor.rest = token :: more ∧ token.kind = kind) ∨
      ∀ token, state.cursor.rest.head? = some token → token.kind ≠ kind := by
  cases next : state.cursor.rest with
  | nil =>
      right
      intro token impossible
      cases impossible
  | cons token more =>
      by_cases fits : token.kind = kind
      · exact .inl ⟨token, more, rfl, fits⟩
      · right
        intro found isNext
        cases isNext
        exact fits

theorem expect_of_kind
    (rule : Rule)
    {kind : Kind}
    {state : State}
    {token : Token}
    {more : List Token}
    (next : state.cursor.rest = token :: more)
    (fits : token.kind = kind) :
    expect rule kind state = (some token, state.advance) := by
  simp [expect, Production.next, next, fits]

theorem expect_of_ne
    (rule : Rule)
    {kind : Kind}
    {state : State}
    (other : ∀ token, state.cursor.rest.head? = some token → token.kind ≠ kind) :
    expect rule kind state = Production.mismatch rule (.token kind) state := by
  unfold expect Production.next
  cases next : state.cursor.rest with
  | nil =>
      rfl
  | cons token more =>
      have differs : token.kind ≠ kind := other token (by simp [next])
      simp [differs]

/-- A choice goes on behind a token of the kind that it looks for. -/
theorem choice_of_kind
    {kind : Kind}
    {chosen otherwise : Production α}
    {state : State}
    {token : Token}
    {more : List Token}
    (next : state.cursor.rest = token :: more)
    (fits : token.kind = kind) :
    (do if ← Production.accept kind then chosen else otherwise) state =
      chosen state.advance := by
  have accepted : Production.accept kind state = (some true, state.advance) := by
    simp [Production.accept, next, fits]
  rw [Production.bind_apply_of_some accepted]
  rfl

/-- A choice leaves any other token, and the end, to what comes otherwise. -/
theorem choice_of_ne
    {kind : Kind}
    {chosen otherwise : Production α}
    {state : State}
    (other : ∀ token, state.cursor.rest.head? = some token → token.kind ≠ kind) :
    (do if ← Production.accept kind then chosen else otherwise) state =
      otherwise state := by
  have declined : Production.accept kind state = (some false, state) := by
    unfold Production.accept
    cases next : state.cursor.rest with
    | nil =>
        rfl
    | cons token more =>
        have differs : token.kind ≠ kind := other token (by simp [next])
        simp [differs]
  rw [Production.bind_apply_of_some declined]
  rfl

/-- A token that brings tasks is followed by the outcome of the production that does them. -/
theorem Outcome.accepted
    {task : Task}
    {tasks : Agenda}
    {form : List Token → α → Prop}
    {production : Production α}
    {state : State}
    {token : Token}
    {more : List Token}
    (next : state.cursor.rest = token :: more)
    (advances :
      ∀ rest : Agenda,
        rest.openPanels = depth →
          Agenda.advance? (task :: rest) state.cursor.consumed token = some (tasks ++ rest))
    (performs : Performs tokens depth tasks form production)
    (within : state.Within tokens) :
    Outcome tokens depth [task] []
      (fun taken value => ∃ later, taken = token :: later ∧ form later value)
      state (production state.advance) := by
  have takes : state.Takes [token] state.advance := State.takes_advance next
  refine (performs.outcome (takes.within within)).prepend takes ?_
  intro rest opened
  exact Agenda.Runs.cons (advances rest (by simpa using opened)) (Agenda.Runs.nil rfl _)

/-- A form that begins with a token is taken if the production takes what follows. -/
theorem complete_of_accepted
    (tokens : List Token)
    (depth : Nat)
    {tasks : Agenda}
    {form : List Token → α → Prop}
    {production : Production α}
    {state : State}
    {token : Token}
    {later left : List Token}
    {value : α}
    (performs : Performs tokens depth tasks form production)
    (split : state.cursor.rest = token :: (later ++ left))
    (derives : form later value) :
    ∃ reached,
      production state.advance = (some value, reached) ∧
        state.Takes (token :: later) reached := by
  have takes : state.Takes [token] state.advance := State.takes_advance split
  have behind : state.advance.cursor.rest = later ++ left := by
    simp [State.advance, Cursor.advance, split]
  obtain ⟨reached, succeeded, takesOn⟩ := performs.complete derives behind
  exact ⟨reached, succeeded, takes.trans takesOn⟩

end WindowLang.Grammar
