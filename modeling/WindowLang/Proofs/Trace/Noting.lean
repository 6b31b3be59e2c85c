import WindowLang.Grammar.Walk
import WindowLang.Proofs.Document.Widgets
import WindowLang.Proofs.Trace.Openings

namespace WindowLang.Grammar

/-!
# Noting beside the tokens

A production notes what the tokens that it gets through give to note, each of them once. If it
fails, these are the tokens before the one that it reports, whatever it tries behind its
failure. If it succeeds, its value tells the steps of the events, and the containers that are
open behind it are told by the production.
-/

variable {α β : Type}
variable {openings : Openings} {state : State}

/-! ## What is noted -/

/-- The events from one state to another are those that the tokens give to note. -/
def Openings.Notes
    (openings : Openings)
    (taken : List Token)
    (state reached : State) :
    Prop :=
  reached.events = (openings.trace taken).reverse ++ state.events

/-- The failure that led from one state to another is reported at the position. -/
def State.FailsAt (state reached : State) (position : Nat) : Prop :=
  reached.tooDeep = some position ∨
    reached.tooDeep = state.tooDeep ∧
      reached.diagnosis.failedAt = max state.diagnosis.failedAt position

/-- The openings are those at the cursor of a state, and no closing keyword is before it. -/
structure Openings.Stands (openings : Openings) (state : State) : Prop where
  consumed : openings.consumed = state.cursor.consumed
  closing : openings.closing = false

/-- The tokens leave the containers open, close no body at their end, and give the steps to note. -/
structure Openings.Reaches
    (openings : Openings)
    (containers : List Opening)
    (steps : List Step)
    (taken : List Token) :
    Prop where
  containers : (openings.behind taken).containers = containers
  closing : (openings.behind taken).closing = false
  steps : (openings.trace taken).map Event.step = steps

/-- What a production may answer in a state, if the value and the tokens taken are related. -/
inductive Noted
    (openings : Openings)
    (state : State)
    (related : α → List Token → Prop) :
    Option α × State → Prop where
  | taken
      {value : α}
      {reached : State}
      {taken : List Token}
      (takes : state.Takes taken reached)
      (notes : openings.Notes taken state reached)
      (holds : related value taken) :
      Noted openings state related (some value, reached)
  | failed
      {reached : State}
      (taken left : List Token)
      (split : state.cursor.rest = taken ++ left)
      (notes : openings.Notes taken state reached)
      (fails : state.FailsAt reached (state.cursor.consumed + taken.length + 1)) :
      Noted openings state related (none, reached)

theorem Openings.Notes.trans
    {middle reached : State}
    {first second : List Token}
    (notes : openings.Notes first state middle)
    (notesOn : (openings.behind first).Notes second middle reached) :
    openings.Notes (first ++ second) state reached := by
  unfold Openings.Notes at notes notesOn ⊢
  rw [notesOn, notes, Openings.trace_append, List.reverse_append, List.append_assoc]

/-- A token that gives nothing to note is passed without an event. -/
theorem Openings.notes_advance
    {token : Token}
    (nothing : openings.trace [token] = []) :
    openings.Notes [token] state state.advance := by
  rw [Openings.Notes, nothing]
  rfl

/-- The state in which an event has been noted at the token taken last. -/
def State.noting (state : State) (event : Nat → Event) : State :=
  { state with events := event state.cursor.consumed :: state.events }

/-- A token that gives an event to note is passed with that event. -/
theorem Openings.notes_noting
    {token : Token}
    {event : Nat → Event}
    (consumed : openings.consumed = state.cursor.consumed)
    (isEvent : openings.trace [token] = [event (openings.consumed + 1)]) :
    openings.Notes [token] state (state.advance.noting event) := by
  rw [Openings.Notes, isEvent, consumed]
  rfl

/-- An event beside a token changes nothing of what is taken. -/
theorem State.takes_noting
    {token : Token}
    {more : List Token}
    (event : Nat → Event)
    (next : state.cursor.rest = token :: more) :
    state.Takes [token] (state.advance.noting event) where
  rest := (State.takes_advance next).rest
  consumed := rfl
  diagnosis := rfl
  tooDeep := rfl

/-- Behind tokens that close no body at their end, the openings stand at the cursor again. -/
theorem Openings.Stands.behind
    {middle : State}
    {taken : List Token}
    (stands : openings.Stands state)
    (takes : state.Takes taken middle)
    (closing : (openings.behind taken).closing = false) :
    (openings.behind taken).Stands middle where
  consumed := by
    rw [Openings.consumed_behind, stands.consumed, takes.consumed]
  closing := closing

theorem Openings.Reaches.nil
    (closing : openings.closing = false) :
    openings.Reaches openings.containers [] [] where
  containers := rfl
  closing := closing
  steps := rfl

/-- Tokens in front come first in what is noted, wherever they end. -/
theorem Openings.Reaches.prepend
    {containers : List Opening}
    {steps laterSteps : List Step}
    {first second : List Token}
    (reachesOn : (openings.behind first).Reaches containers laterSteps second)
    (isNoted : (openings.trace first).map Event.step = steps) :
    openings.Reaches containers (steps ++ laterSteps) (first ++ second) where
  containers := by
    rw [Openings.behind_append]
    exact reachesOn.containers
  closing := by
    rw [Openings.behind_append]
    exact reachesOn.closing
  steps := by
    rw [Openings.trace_append, List.map_append, isNoted, reachesOn.steps]

theorem Openings.Reaches.append
    {between containers : List Opening}
    {steps laterSteps : List Step}
    {first second : List Token}
    (reaches : openings.Reaches between steps first)
    (reachesOn : (openings.behind first).Reaches containers laterSteps second) :
    openings.Reaches containers (steps ++ laterSteps) (first ++ second) :=
  reachesOn.prepend reaches.steps

/-! ## Composition -/

namespace Noted

theorem mono
    {related weaker : α → List Token → Prop}
    {answer : Option α × State}
    (follows : ∀ value taken, related value taken → weaker value taken)
    (noted : Noted openings state related answer) :
    Noted openings state weaker answer := by
  cases noted with
  | taken takes notes holds =>
      exact .taken takes notes (follows _ _ holds)
  | failed taken left split notes fails =>
      exact .failed taken left split notes fails

/-- What is noted behind some tokens is noted behind what those tokens give. -/
theorem prepend
    {related : α → List Token → Prop}
    {middle : State}
    {first : List Token}
    {answer : Option α × State}
    (takes : state.Takes first middle)
    (notes : openings.Notes first state middle)
    (noted :
      Noted (openings.behind first) middle (fun value later => related value (first ++ later))
        answer) :
    Noted openings state related answer := by
  cases noted with
  | taken takesOn notesOn holds =>
      exact .taken (takes.trans takesOn) (notes.trans notesOn) holds
  | failed taken left split notesOn fails =>
      have splitAll : state.cursor.rest = (first ++ taken) ++ left := by
        rw [takes.rest, split, List.append_assoc]
      have position :
          middle.cursor.consumed + taken.length + 1 =
            state.cursor.consumed + (first ++ taken).length + 1 := by
        rw [takes.consumed, List.length_append, Nat.add_assoc state.cursor.consumed]
      refine .failed (first ++ taken) left splitAll (notes.trans notesOn) ?_
      unfold State.FailsAt at fails ⊢
      rw [← position, ← takes.tooDeep, ← takes.diagnosis]
      exact fails

/-- What follows a production notes behind the tokens of the first one. -/
theorem bind
    {between : α → List Token → Prop}
    {related : β → List Token → Prop}
    {production : Production α}
    {next : α → Production β}
    (first : Noted openings state between (production state))
    (second :
      ∀ {value : α} {front : List Token} {middle : State},
        state.Takes front middle →
          between value front →
            Noted (openings.behind front) middle
              (fun result back => related result (front ++ back)) (next value middle)) :
    Noted openings state related ((production >>= next) state) := by
  generalize answered : production state = answer at first
  cases first with
  | taken takes notes holds =>
      rw [Production.bind_apply_of_some answered]
      exact (second takes holds).prepend takes notes
  | failed taken left split notes fails =>
      rw [Production.bind_apply_of_none answered]
      exact .failed taken left split notes fails

/-- Where the cursor is after a failure does not matter. -/
theorem rewind
    {related : α → List Token → Prop}
    {reached : State}
    (cursor : Cursor)
    (noted : Noted openings state related (none, reached)) :
    Noted openings state related (none, { reached with cursor := cursor }) := by
  cases noted with
  | failed taken left split notes fails =>
      exact .failed taken left split notes fails

/-- A mismatch is reported at the next token, and nothing is noted. -/
theorem mismatch
    {related : α → List Token → Prop}
    (rule : Rule)
    (expected : Expectation) :
    Noted openings state related (Production.mismatch rule expected state) :=
  .failed [] state.cursor.rest rfl rfl (.inr ⟨rfl, rfl⟩)

/-- Where no room is left, the failure is reported at the keyword of the panel. -/
theorem refusePanel
    {related : α → List Token → Prop} :
    Noted openings state related (Production.refusePanel state.advance) :=
  .failed [] state.cursor.rest rfl rfl (.inl rfl)

end Noted

/-! ## Quiet parts -/

/-- A token of the kind neither begins an item nor closes a body. -/
def isQuiet : Kind → Bool
  | .keyword .close => false
  | .keyword .radio => false
  | .keyword word => !widgetKeywords.contains word
  | _ => true

/-- Behind a quiet token the containers are the same, and there is nothing to note. -/
theorem Openings.reaches_of_isQuiet
    {token : Token}
    (quiet : isQuiet token.kind = true)
    (notClosing : openings.closing = false) :
    openings.Reaches openings.containers [] [token] := by
  have nothing : openings.trace [token] = (openings.event? token).toList :=
    List.append_nil _
  have closes : (openings.behind [token]).closing = decide (token.kind = .keyword .close) := rfl
  have stays :
      (openings.after token).containers = openings.containers ∧ openings.event? token = none := by
    unfold Openings.after Openings.event?
    cases isKind : token.kind with
    | mark symbol =>
        cases symbol with
        | _ =>
            simp [notClosing]
    | keyword word =>
        rw [isKind] at quiet
        cases word with
        | button | label | panel | textfield | group | radio | close =>
            cases quiet
        | _ =>
            exact ⟨rfl, rfl⟩
    | _ =>
        exact ⟨rfl, rfl⟩
  refine ⟨stays.1, ?_, by rw [nothing, stays.2]; rfl⟩
  rw [closes, decide_eq_false_iff_not]
  intro isClose
  rw [isClose] at quiet
  cases quiet

/-- The production takes quiet tokens only, and notes nothing. -/
def Quiet (production : Production α) : Prop :=
  ∀ {state : State} {openings : Openings},
    openings.Stands state →
      Noted openings state (fun _ => openings.Reaches openings.containers []) (production state)

namespace Quiet

/-- Behind a quiet part the openings are those before it, and what follows notes as it does. -/
theorem andThen
    {containers : β → List Opening}
    {steps : β → List Step}
    {production : Production α}
    {next : α → Production β}
    (quiet : Quiet production)
    (stands : openings.Stands state)
    (second :
      ∀ (value : α) {middle : State} {later : Openings},
        later.Stands middle →
          later.containers = openings.containers →
            Noted later middle (fun result => later.Reaches (containers result) (steps result))
              (next value middle)) :
    Noted openings state (fun result => openings.Reaches (containers result) (steps result))
      ((production >>= next) state) := by
  refine (quiet stands).bind fun {value front middle} takes reaches => ?_
  have standsOn := stands.behind takes reaches.closing
  exact (second value standsOn reaches.containers).mono fun _ _ reachesOn =>
    reaches.append reachesOn

theorem bind
    {production : Production α}
    {next : α → Production β}
    (first : Quiet production)
    (others : ∀ value, Quiet (next value)) :
    Quiet (production >>= next) := by
  intro state openings stands
  refine first.andThen stands fun value middle later standsOn same => ?_
  rw [← same]
  exact others value standsOn

theorem succeed (value : α) :
    Quiet (pure value : Production α) :=
  fun stands => .taken (.refl _) rfl (.nil stands.closing)

theorem mismatch (rule : Rule) (expected : Expectation) :
    Quiet (Production.mismatch rule expected : Production α) :=
  fun _ => .mismatch rule expected

theorem inside
    {production : Production α}
    (rule part : Rule)
    (quiet : Quiet production) :
    Quiet (Production.inside rule part production) := by
  intro state openings stands
  have noted := quiet stands
  unfold Production.inside
  generalize production state = answer at noted
  cases noted with
  | taken takes notes holds =>
      exact .taken takes notes holds
  | failed taken left split notes fails =>
      exact .failed taken left split notes fails

/-- A production that reads one token is quiet if all tokens that it takes are. -/
theorem next
    {rule : Rule}
    {absent : Expectation}
    {read : Token → Except Expectation α}
    (quiet : ∀ token value, read token = .ok value → isQuiet token.kind = true) :
    Quiet (Production.next rule absent read) := by
  intro state openings stands
  unfold Production.next
  split
  · exact .mismatch rule absent
  · rename_i token more isNext
    cases answer : read token with
    | error expected =>
        exact .mismatch rule expected
    | ok value =>
        have reaches := Openings.reaches_of_isQuiet (quiet token value answer) stands.closing
        have nothing : openings.trace [token] = [] := List.map_eq_nil_iff.1 reaches.steps
        exact .taken (State.takes_advance isNext) (Openings.notes_advance nothing) reaches

theorem expect
    {kind : Kind}
    (quiet : isQuiet kind = true)
    (rule : Rule) :
    Quiet (Grammar.expect rule kind) := by
  refine next fun token value answer => ?_
  by_cases fits : token.kind = kind
  · rwa [fits]
  · rw [if_neg fits] at answer
    cases answer

theorem mark (rule : Rule) (symbol : Mark) :
    Quiet (Grammar.mark rule symbol) :=
  expect rfl rule

theorem number (rule : Rule) :
    Quiet (Grammar.number rule) := by
  refine next fun token value answer => ?_
  obtain ⟨isNumber, _⟩ := readNumber_eq_ok_iff.1 answer
  rw [isNumber]
  rfl

theorem quoted (rule : Rule) :
    Quiet (Grammar.quoted rule) :=
  bind (mark rule .quotation) fun _ =>
    bind (expect rfl rule) fun text =>
      bind (mark rule .quotation) fun _ => succeed text.lexeme

/-- A line is quiet, and so is the walk through what it recognizes. -/
theorem line
    {part : Production β}
    {build : β → α}
    {walk : α → List Step}
    (rule : Rule)
    (quiet : Quiet part)
    (silent : ∀ item, walk (build item) = [])
    (stands : openings.Stands state) :
    Noted openings state (fun value => openings.Reaches openings.containers (walk value))
      (Grammar.line rule build part state) := by
  refine quiet.andThen stands fun item middle later standsOn same => ?_
  rw [← same]
  refine andThen (mark rule .semicolon) standsOn fun _ last final standsEnd sameEnd => ?_
  rw [← sameEnd]
  refine .taken (.refl last) rfl ?_
  rw [silent item]
  exact .nil standsEnd.closing

theorem endOfFile (rule : Rule) :
    Quiet (Grammar.endOfFile rule) := by
  intro state openings stands
  unfold Grammar.endOfFile
  split
  · exact succeed () stands
  · split
    · exact succeed () stands
    · exact .mismatch rule .endOfFile

/-- A choice by a quiet token is quiet if what it goes on with is. -/
theorem choice
    {kind : Kind}
    {chosen otherwise : Production α}
    (quiet : isQuiet kind = true)
    (first : Quiet chosen)
    (second : Quiet otherwise) :
    Quiet (do if ← Production.accept kind then chosen else otherwise) := by
  intro state openings stands
  rcases state.next_or_other kind with ⟨token, more, isNext, fits⟩ | other
  · have taken :
        (do if ← Production.accept kind then chosen else otherwise) state =
          (Grammar.expect .gui kind >>= fun _ => chosen) state := by
      rw [choice_of_kind isNext fits,
        Production.bind_apply_of_some (expect_of_kind .gui isNext fits)]
    rw [taken]
    exact bind (expect quiet .gui) (fun _ => first) stands
  · rw [choice_of_ne other]
    exact second stands

theorem gaps :
    Quiet Grammar.gaps :=
  choice rfl (succeed (none, none)) <|
    choice rfl
      (bind (number .layoutType) fun horizontal =>
        bind (mark .layoutType .comma) fun _ =>
          bind (number .layoutType) fun vertical =>
            bind (mark .layoutType .closeParen) fun _ =>
              succeed (some horizontal, some vertical))
      (mismatch .layoutType .gapsOrClose)

theorem grid :
    Quiet Grammar.grid :=
  bind (mark .layoutType .openParen) fun _ =>
    bind (number .layoutType) fun rows =>
      bind (mark .layoutType .comma) fun _ =>
        bind (number .layoutType) fun columns =>
          bind gaps fun pair => succeed (Layout.grid rows columns pair.1 pair.2)

theorem layoutType :
    Quiet Grammar.layoutType :=
  choice rfl (succeed Layout.flow) <|
    choice rfl grid (mismatch .layoutType .layoutType)

theorem layout :
    Quiet Grammar.layout :=
  bind (expect rfl .layout) fun _ =>
    bind (inside .layout .layoutType layoutType) fun arrangement =>
      bind (mark .layout .colon) fun _ => succeed arrangement

end Quiet

end WindowLang.Grammar
