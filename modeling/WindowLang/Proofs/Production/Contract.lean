import WindowLang.Proofs.Production.Bodies

namespace WindowLang.Grammar

/-!
# The contract of productions

A production that succeeds has taken tokens and changed nothing else but the events. One that
fails has only added to what was known: the trail that it found is still there, in front, and
the farthest failure is no nearer. Either a fragment was added, or a panel was nested too
deeply. So an item can be attempted again and again: each success uses up a token, and the
failure that ends the repetition is all that it leaves behind.
-/

variable {α β : Type} {least : Nat} {state : State}

/-- A failure led from one state to another. -/
structure State.Learns (state reached : State) : Prop where
  /-- The trail was only added to. -/
  trail : state.diagnosis.trail <+: reached.diagnosis.trail
  failedAt : state.diagnosis.failedAt ≤ reached.diagnosis.failedAt
  /-- There is a reason: a fragment that is new, or too deep a panel farther on. -/
  reason :
    reached.tooDeep = state.tooDeep ∧
        state.diagnosis.trail.length < reached.diagnosis.trail.length ∨
      ∃ position, reached.tooDeep = some position ∧ state.cursor.consumed < position

/-- What a production may answer that takes so many tokens at least where it succeeds. -/
inductive Orderly (least : Nat) (state : State) : Option α × State → Prop where
  | succeeded
      {value : α}
      {reached : State}
      {taken : List Token}
      (takes : state.Takes taken reached)
      (enough : least ≤ taken.length) :
      Orderly least state (some value, reached)
  | failed
      {reached : State}
      (learns : state.Learns reached) :
      Orderly least state (none, reached)

/-- The production keeps the contract in every state. -/
def IsOrderly (least : Nat) (production : Production α) : Prop :=
  ∀ state, Orderly least state (production state)

/-! ## Failures -/

/-- What is learnt behind some tokens is learnt where they began. -/
theorem State.Learns.prepend
    {middle reached : State}
    {taken : List Token}
    (takes : state.Takes taken middle)
    (learns : middle.Learns reached) :
    state.Learns reached where
  trail := takes.diagnosis ▸ learns.trail
  failedAt := takes.diagnosis ▸ learns.failedAt
  reason := by
    refine learns.reason.imp ?_ ?_
    · rintro ⟨tooDeep, added⟩
      exact ⟨tooDeep.trans takes.tooDeep, takes.diagnosis ▸ added⟩
    · rintro ⟨position, isTooDeep, behind⟩
      have moved := takes.consumed
      exact ⟨position, isTooDeep, by omega⟩

/-- A failure that adds one more fragment is a failure. -/
theorem State.Learns.add
    {reached : State}
    {fragment : Fragment}
    {failedAt : Nat}
    (learns : state.Learns reached)
    (noNearer : reached.diagnosis.failedAt ≤ failedAt)
    (cursor : Cursor) :
    state.Learns
      { reached with
        cursor := cursor
        diagnosis := ⟨reached.diagnosis.trail ++ [fragment], failedAt⟩ } where
  trail := learns.trail.trans (List.prefix_append _ _)
  failedAt := Nat.le_trans learns.failedAt noNearer
  reason := by
    refine learns.reason.imp_left ?_
    rintro ⟨tooDeep, added⟩
    refine ⟨tooDeep, ?_⟩
    rw [List.length_append]
    exact Nat.lt_add_right _ added

/-- Where the cursor is after a failure does not matter. -/
theorem State.Learns.rewind
    {reached : State}
    (learns : state.Learns reached)
    (cursor : Cursor) :
    state.Learns { reached with cursor := cursor } where
  trail := learns.trail
  failedAt := learns.failedAt
  reason := learns.reason

namespace Orderly

theorem mismatch
    (rule : Rule)
    (expected : Expectation) :
    Orderly least state (Production.mismatch rule expected state : Option α × State) := by
  refine .failed ⟨List.prefix_append _ _, Nat.le_max_left _ _, .inl ⟨rfl, ?_⟩⟩
  simp [Diagnosis.unmet]

theorem mono
    {fewer : Nat}
    {answer : Option α × State}
    (orderly : Orderly least state answer)
    (bounded : fewer ≤ least) :
    Orderly fewer state answer := by
  cases orderly with
  | succeeded takes enough =>
      exact .succeeded takes (Nat.le_trans bounded enough)
  | failed learns =>
      exact .failed learns

/-- An answer behind some tokens is an answer where they began. -/
theorem prepend
    {middle : State}
    {first : List Token}
    {answer : Option α × State}
    (takes : state.Takes first middle)
    (orderly : Orderly least middle answer) :
    Orderly (first.length + least) state answer := by
  cases orderly with
  | succeeded takesOn enough =>
      refine .succeeded (takes.trans takesOn) ?_
      rw [List.length_append]
      exact Nat.add_le_add_left enough _
  | failed learns =>
      exact .failed (learns.prepend takes)

end Orderly

/-! ## Composition -/

namespace IsOrderly

variable {more : Nat} {production : Production α}

theorem mono
    {fewer : Nat}
    (orderly : IsOrderly least production)
    (bounded : fewer ≤ least) :
    IsOrderly fewer production :=
  fun state => (orderly state).mono bounded

theorem learns_of_none
    {reached : State}
    (orderly : IsOrderly least production)
    (failed : production state = (none, reached)) :
    state.Learns reached := by
  have answer := orderly state
  rw [failed] at answer
  cases answer with
  | failed learns =>
      exact learns

theorem succeed (value : α) :
    IsOrderly 0 (pure value : Production α) :=
  fun state => .succeeded (.refl state) (Nat.zero_le _)

theorem mismatch
    (rule : Rule)
    (expected : Expectation) :
    IsOrderly least (Production.mismatch rule expected : Production α) :=
  fun _ => .mismatch rule expected

theorem note (event : Nat → Event) :
    IsOrderly 0 (Production.note event) := by
  intro state
  have takes : state.Takes [] (Production.note event state).2 := ⟨rfl, rfl, rfl, rfl⟩
  exact .succeeded takes (Nat.le_refl 0)

/-- The tokens of two productions in a row add up. -/
theorem bind
    {next : α → Production β}
    (first : IsOrderly least production)
    (others : ∀ value, IsOrderly more (next value)) :
    IsOrderly (least + more) (production >>= next) := by
  intro state
  have answer := first state
  generalize answered : production state = result at answer
  cases answer with
  | @succeeded value middle taken takes enough =>
      rw [Production.bind_apply_of_some answered]
      exact ((others value middle).prepend takes).mono (Nat.add_le_add_right enough _)
  | failed learns =>
      rw [Production.bind_apply_of_none answered]
      exact .failed learns

theorem inside
    (rule part : Rule)
    (orderly : IsOrderly least production) :
    IsOrderly least (Production.inside rule part production) := by
  intro state
  have answer := orderly state
  unfold Production.inside
  generalize production state = result at answer
  cases answer with
  | succeeded takes enough =>
      exact .succeeded takes enough
  | @failed reached learns =>
      exact .failed (learns.add (Nat.le_refl _) reached.cursor)

theorem next
    (rule : Rule)
    (absent : Expectation)
    (read : Token → Except Expectation α) :
    IsOrderly 1 (Production.next rule absent read) := by
  intro state
  unfold Production.next
  split
  · exact .mismatch rule absent
  · rename_i token later isNext
    split
    · exact .succeeded (State.takes_advance isNext) (Nat.le_refl 1)
    · exact .mismatch rule _

/-- A choice by one token takes a token if what comes otherwise does. -/
theorem choice
    {kind : Kind}
    {chosen otherwise : Production α}
    (first : IsOrderly least chosen)
    (second : IsOrderly 1 otherwise) :
    IsOrderly 1 (do if ← Production.accept kind then chosen else otherwise) := by
  intro state
  rcases state.next_or_other kind with ⟨token, later, isNext, fits⟩ | other
  · rw [choice_of_kind isNext fits]
    exact ((first state.advance).prepend (State.takes_advance isNext)).mono
      (Nat.le_add_right 1 least)
  · rw [choice_of_ne other]
    exact second state

/-! ## Parts -/

theorem expect (rule : Rule) (kind : Kind) :
    IsOrderly 1 (Grammar.expect rule kind) :=
  next rule _ _

theorem mark (rule : Rule) (symbol : Mark) :
    IsOrderly 1 (Grammar.mark rule symbol) :=
  expect rule _

theorem keyword (rule : Rule) (word : Keyword) :
    IsOrderly 1 (Grammar.keyword rule word) :=
  expect rule _

theorem number (rule : Rule) :
    IsOrderly 1 (Grammar.number rule) :=
  next rule _ _

theorem quoted (rule : Rule) :
    IsOrderly 3 (Grammar.quoted rule) :=
  bind (mark rule .quotation) fun _ =>
    bind (expect rule .string) fun text =>
      bind (mark rule .quotation) fun _ => succeed text.lexeme

theorem gaps :
    IsOrderly 1 Grammar.gaps :=
  choice (succeed (none, none)) <|
    choice
      (bind (number .layoutType) fun horizontal =>
        bind (mark .layoutType .comma) fun _ =>
          bind (number .layoutType) fun vertical =>
            bind (mark .layoutType .closeParen) fun _ =>
              succeed (some horizontal, some vertical))
      (mismatch .layoutType .gapsOrClose)

theorem grid :
    IsOrderly 5 Grammar.grid :=
  bind (mark .layoutType .openParen) fun _ =>
    bind (number .layoutType) fun rows =>
      bind (mark .layoutType .comma) fun _ =>
        bind (number .layoutType) fun columns =>
          bind gaps fun pair => succeed (Layout.grid rows columns pair.1 pair.2)

theorem layoutType :
    IsOrderly 1 Grammar.layoutType :=
  choice (succeed Layout.flow) <|
    choice grid (mismatch .layoutType .layoutType)

theorem layout :
    IsOrderly 3 Grammar.layout :=
  bind (keyword .layout .layout) fun _ =>
    bind (inside .layout .layoutType layoutType) fun arrangement =>
      bind (mark .layout .colon) fun _ => succeed arrangement

/-- A line takes its part and a semicolon. -/
theorem line
    {part : Production β}
    (rule : Rule)
    (build : β → α)
    (orderly : IsOrderly least part) :
    IsOrderly (least + 1) (Grammar.line rule build part) :=
  bind orderly fun item =>
    bind (mark rule .semicolon) fun _ => succeed (build item)

theorem radioButton :
    IsOrderly 5 Grammar.radioButton :=
  bind (keyword .radioButton .radio) fun _ =>
    line .radioButton id (quoted .radioButton)

end IsOrderly

/-! ## Repetitions -/

/-- An item that takes a token wherever it succeeds is repeated until it fails. -/
theorem IsOrderly.exists_repetition
    {production : Production α}
    (orderly : IsOrderly 1 production)
    (state : State) :
    ∃ taken values last failed, Repetition production state taken values last failed := by
  refine repetition_induction production (fun (_ : Unit) _ => True)
    (fun _ state =>
      ∃ taken values last failed, Repetition production state taken values last failed)
    ?_ ?_ () trivial
  · intro _ state failed _ fails
    exact ⟨[], [], state, failed, .nil fails⟩
  · intro _ state middle value _ succeeded
    have answer := orderly state
    rw [succeeded] at answer
    cases answer with
    | @succeeded _ _ front takes enough =>
        have nonempty : front ≠ [] := List.length_pos_iff.1 enough
        refine ⟨front, (), takes, nonempty, trivial, ?_⟩
        rintro ⟨taken, values, last, failed, others⟩
        exact ⟨front ++ taken, value :: values, last, failed,
          .cons succeeded takes nonempty others⟩

/--
The production recognizes an item of a body: it takes a token at least, and it declines at a
closing keyword.
-/
structure IsOrderlyItem (item : Item) (production : Production α) : Prop where
  orderly : IsOrderly 1 production
  declines :
    ∀ {state : State} {close : Token} {more : List Token},
      state.cursor.rest = close :: more →
        close.kind = .keyword .close →
          production state = Production.mismatch item.rule item.expected state

/-- A body takes its items and its closing keyword. -/
theorem IsOrderlyItem.body
    {item : Item}
    {production : Production α}
    (isItem : IsOrderlyItem item production)
    (rule : Rule) :
    IsOrderly 1 (Grammar.body rule production) := by
  intro state
  obtain ⟨taken, values, last, failed, repetition⟩ := isItem.orderly.exists_repetition state
  rcases last.next_or_other (.keyword .close) with ⟨close, more, next, closes⟩ | notClose
  · have failedIs :
        failed = (Production.mismatch item.rule item.expected last : Option α × State).2 :=
      congrArg Prod.snd (repetition.fails.symm.trans (isItem.declines next closes))
    subst failedIs
    rw [body_of_close repetition.many_eq next closes]
    have takes := repetition.takes.trans (State.takes_advance next)
    exact .succeeded ⟨takes.rest, takes.consumed, rfl, takes.tooDeep⟩ (by simp)
  · rw [body_of_other repetition.many_eq notClose]
    have learns := (isItem.orderly.learns_of_none repetition.fails).prepend repetition.takes
    exact .failed (learns.add (Nat.le_max_left _ _) last.cursor)

end WindowLang.Grammar
