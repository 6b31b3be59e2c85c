import WindowLang.Grammar.Event
import WindowLang.Grammar.SyntaxError

namespace WindowLang.Grammar

/-!
# Productions

A production recognizes part of a document. It starts in a state and gives a
value or fails, and leaves a state in either case: a failure keeps what it learnt
about the input. The cursor tells which tokens are left, and the diagnosis
collects the expectations that were not met.

A production that tried something in vain rewinds the cursor, and one that
succeeded after failed attempts forgets their diagnosis. Events are never taken
back.
-/

/-- A place in the token stream. -/
structure Cursor where
  /-- The tokens that are left. -/
  rest : List Token
  /-- The number of tokens before them. -/
  consumed : Nat
  deriving DecidableEq, Repr

/-- What failed attempts have left behind. -/
structure Diagnosis where
  /-- The expectations not met, in the order in which they failed. -/
  trail : List Fragment
  /-- The farthest token at which an expectation failed, counted from one. -/
  failedAt : Nat
  deriving DecidableEq, Repr

/-- The state between two steps of recognition. -/
structure State where
  cursor : Cursor
  diagnosis : Diagnosis
  /-- The panel keyword that is nested too deeply, counted from one, once it is met. -/
  tooDeep : Option Nat
  /-- The events so far, the newest first. -/
  events : List Event
  deriving DecidableEq, Repr

/-- The cursor behind the next token. -/
def Cursor.advance (cursor : Cursor) : Cursor where
  rest := cursor.rest.tail
  consumed := cursor.consumed + 1

/-- The diagnosis after a rule did not find what it expected at the cursor. -/
def Diagnosis.unmet
    (diagnosis : Diagnosis)
    (rule : Rule)
    (expected : Expectation)
    (cursor : Cursor) :
    Diagnosis where
  trail := diagnosis.trail ++ [.unmet rule expected cursor.rest.head?]
  failedAt := max diagnosis.failedAt (cursor.consumed + 1)

/-- The diagnosis after a rule failed for the lack of one of its parts. -/
def Diagnosis.missing
    (diagnosis : Diagnosis)
    (rule part : Rule) :
    Diagnosis where
  trail := diagnosis.trail ++ [.missing rule part]
  failedAt := diagnosis.failedAt

namespace State

/-- The state before the first token. -/
def start (tokens : List Token) : State where
  cursor := ⟨tokens, 0⟩
  diagnosis := ⟨[], 1⟩
  tooDeep := none
  events := []

/-- The state behind the next token. -/
def advance (state : State) : State :=
  { state with cursor := state.cursor.advance }

/-- The error that a failed document reports; too deep a panel outweighs all else. -/
def error (state : State) : SyntaxError :=
  match state.tooDeep with
  | some position => .tooDeep position
  | none => .unmet state.diagnosis.failedAt state.diagnosis.trail

end State

/-- A step of recognition: a value or a failure, and the state behind it. -/
def Production (α : Type) : Type :=
  State → Option α × State

namespace Production

variable {α β : Type}

/-- Recognizes nothing and succeeds. -/
def succeed (value : α) : Production α :=
  fun state => (some value, state)

/-- Recognizes with one production and goes on with another if it succeeds. -/
def andThen
    (first : Production α)
    (next : α → Production β) :
    Production β :=
  fun state =>
    match first state with
    | (some value, reached) => next value reached
    | (none, reached) => (none, reached)

instance : Monad Production where
  pure := succeed
  bind := andThen

/-- Fails at the next token, where a rule expected something else. -/
def mismatch
    (rule : Rule)
    (expected : Expectation) :
    Production α :=
  fun state =>
    (none, { state with diagnosis := state.diagnosis.unmet rule expected state.cursor })

/--
Takes the next token and reads its value; `read` tells what was expected if it
has none, and `absent` what was expected if no token is left.
-/
def next
    (rule : Rule)
    (absent : Expectation)
    (read : Token → Except Expectation α) :
    Production α :=
  fun state =>
    match state.cursor.rest with
    | [] => mismatch rule absent state
    | token :: _ =>
        match read token with
        | .ok value => (some value, state.advance)
        | .error expected => mismatch rule expected state

/-- Takes the next token if it is of the given kind, and tells whether it did. -/
def accept (kind : Kind) : Production Bool :=
  fun state =>
    match state.cursor.rest with
    | [] => (some false, state)
    | token :: _ =>
        if token.kind = kind then
          (some true, state.advance)
        else
          (some false, state)

/-- Notes an event at the token taken last. -/
def note (event : Nat → Event) : Production Unit :=
  fun state =>
    (some (), { state with events := event state.cursor.consumed :: state.events })

/-- Fails for good, because the panel keyword taken last is nested too deeply. -/
def refusePanel : Production α :=
  fun state => (none, { state with tooDeep := some state.cursor.consumed })

/-- Adds to a failure that a rule failed for the lack of one of its parts. -/
def inside
    (rule part : Rule)
    (production : Production α) :
    Production α :=
  fun state =>
    match production state with
    | (some value, reached) => (some value, reached)
    | (none, reached) =>
        (none, { reached with diagnosis := reached.diagnosis.missing rule part })

/-- Goes back to where the cursor was if the production fails. -/
def rewinding (production : Production α) : Production α :=
  fun state =>
    match production state with
    | (some value, reached) => (some value, reached)
    | (none, reached) => (none, { reached with cursor := state.cursor })

/-- Drops what failed attempts left behind if the production succeeds after all. -/
def forgetting (production : Production α) : Production α :=
  fun state =>
    match production state with
    | (some value, reached) => (some value, { reached with diagnosis := state.diagnosis })
    | (none, reached) => (none, reached)

/--
Attempts at an item until one fails, but at most one for each token of `bound`
and one more; `items` holds the items so far, the last one first.
-/
def attempts
    (item : Production α)
    (bound : List Token)
    (items : List α) :
    Production (List α) :=
  fun state =>
    match item state with
    | (none, reached) => (some items.reverse, reached)
    | (some value, reached) =>
        match bound with
        | [] => (some (value :: items).reverse, reached)
        | _ :: bound => attempts item bound (value :: items) reached

/--
Items one after the other, as long as they succeed. An item takes a token at
least, so the tokens that are left bound the number of attempts.
-/
def many (item : Production α) : Production (List α) :=
  fun state => attempts (rewinding (forgetting item)) state.cursor.rest [] state

/-- The value of the first alternative that does not decline, if there is one. -/
def firstOf : List (Production (Option α)) → Production (Option α)
  | [] => succeed none
  | alternative :: others =>
      andThen alternative fun
        | some value => succeed (some value)
        | none => firstOf others

/-- Recognizing nothing leaves the state as it is. -/
@[simp] theorem pure_apply
    (value : α)
    (state : State) :
    (pure value : Production α) state = (some value, state) :=
  rfl

/-- What follows a production that succeeds starts where that one left off. -/
theorem bind_apply_of_some
    {first : Production α}
    {next : α → Production β}
    {state reached : State}
    {value : α}
    (succeeded : first state = (some value, reached)) :
    (first >>= next) state = next value reached := by
  change andThen first next state = next value reached
  simp only [andThen, succeeded]

/-- Nothing follows a production that fails. -/
theorem bind_apply_of_none
    {first : Production α}
    {next : α → Production β}
    {state reached : State}
    (failed : first state = (none, reached)) :
    (first >>= next) state = (none, reached) := by
  change andThen first next state = (none, reached)
  simp only [andThen, failed]

/-- Recognizing nothing afterwards changes nothing. -/
theorem andThen_succeed (production : Production α) :
    andThen production succeed = production := by
  funext state
  unfold andThen
  split
  · next reached => exact reached.symm
  · next reached => exact reached.symm

/-- Of three productions in a row it does not matter which two are taken together. -/
theorem andThen_andThen
    {γ : Type}
    (first : Production α)
    (second : α → Production β)
    (third : β → Production γ) :
    andThen (andThen first second) third =
      andThen first fun value => andThen (second value) third := by
  funext state
  cases answer : first state with
  | mk value reached => cases value <;> simp only [andThen, answer]

instance : LawfulMonad Production :=
  LawfulMonad.mk' Production andThen_succeed (fun _ _ => rfl) andThen_andThen

end Production

end WindowLang.Grammar
