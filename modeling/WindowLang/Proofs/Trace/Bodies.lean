import WindowLang.Proofs.Trace.Noting

namespace WindowLang.Grammar

/-!
# Noting in bodies

A body attempts its item again and again, and the attempt that fails may have gone far behind
the token where it began. What it noted on the way stays noted, and no other attempt begins
behind it. So the body, too, notes what the tokens before its failure give to note.
-/

variable {α : Type}
variable {openings : Openings} {state : State}
variable {item : Item} {depth : Nat} {walk : α → List Step} {production : Production α}

/-- The tokens are one more item of the innermost container, and give the steps to note. -/
structure Openings.PassesItem
    (openings : Openings)
    (steps : List Step)
    (taken : List Token) :
    Prop where
  nonempty : taken ≠ []
  reaches : openings.Reaches (withItems 1 openings.containers) steps taken

/--
The production recognizes an item where so many panels are open. It takes a token at least,
notes the walk through what it recognizes, and declines at a closing keyword.
-/
structure NotesItem
    (item : Item)
    (depth : Nat)
    (walk : α → List Step)
    (production : Production α) :
    Prop where
  noted :
    ∀ {state : State} {openings : Openings},
      openings.Stands state →
        openings.panels = depth →
          Noted openings state (fun value => openings.PassesItem (walk value)) (production state)
  declines :
    ∀ {state : State} {close : Token} {more : List Token},
      state.cursor.rest = close :: more →
        close.kind = .keyword .close →
          production state = Production.mismatch item.rule item.expected state

/-- Items were taken one after the other, and noted as they were taken. -/
structure NotedItems
    (openings : Openings)
    (walk : α → List Step)
    (production : Production α)
    (state : State)
    (taken : List Token)
    (values : List α)
    (last failed : State) :
    Prop where
  repetition : Repetition production state taken values last failed
  notes : openings.Notes taken state last
  reaches :
    openings.Reaches (withItems values.length openings.containers) (values.flatMap walk) taken

theorem NotedItems.nil
    {failed : State}
    (stands : openings.Stands state)
    (fails : production state = (none, failed)) :
    NotedItems openings walk production state [] [] state failed where
  repetition := .nil fails
  notes := rfl
  reaches := by
    rw [List.length_nil, withItems_zero]
    exact .nil stands.closing

/-- One item before the others is one more item, and its walk comes before theirs. -/
theorem NotedItems.cons
    {middle last failed : State}
    {front taken : List Token}
    {value : α}
    {values : List α}
    (succeeded : production state = (some value, middle))
    (takes : state.Takes front middle)
    (notes : openings.Notes front state middle)
    (passes : openings.PassesItem (walk value) front)
    (others : NotedItems (openings.behind front) walk production middle taken values last failed) :
    NotedItems openings walk production state (front ++ taken) (value :: values) last failed where
  repetition := .cons succeeded takes passes.nonempty others.repetition
  notes := notes.trans others.notes
  reaches := by
    have reachesOn := others.reaches
    rw [passes.reaches.containers, withItems_withItems, Nat.add_comm] at reachesOn
    exact passes.reaches.append reachesOn

namespace NotesItem

/-- The item is repeated until it fails, and its openings stand at each item. -/
theorem exists_repetition
    (notes : NotesItem item depth walk production)
    (stands : openings.Stands state)
    (panels : openings.panels = depth) :
    ∃ taken values last failed,
      NotedItems openings walk production state taken values last failed := by
  refine repetition_induction production
    (fun (openings : Openings) state => openings.Stands state ∧ openings.panels = depth)
    (fun openings state =>
      ∃ taken values last failed,
        NotedItems openings walk production state taken values last failed)
    ?_ ?_ openings ⟨stands, panels⟩
  · rintro openings state failed ⟨stands, _⟩ fails
    exact ⟨[], [], state, failed, .nil stands fails⟩
  · rintro openings state middle value ⟨stands, panels⟩ succeeded
    have noted := notes.noted stands panels
    rw [succeeded] at noted
    cases noted with
    | @taken _ _ front takes notesFront passes =>
        have reaches := passes.reaches
        have standsOn := stands.behind takes reaches.closing
        have panelsOn := (Openings.panels_of_withItems reaches.containers).trans panels
        refine ⟨front, openings.behind front, takes, passes.nonempty, ⟨standsOn, panelsOn⟩, ?_⟩
        rintro ⟨taken, values, last, failed, others⟩
        exact ⟨front ++ taken, value :: values, last, failed,
          .cons succeeded takes notesFront passes others⟩

/-- A body takes items and its closing keyword, or it fails where its last item did. -/
theorem body
    (notes : NotesItem item depth walk production)
    (rule : Rule)
    (stands : openings.Stands state)
    (panels : openings.panels = depth) :
    Noted openings state
      (fun values taken =>
        ∃ front close,
          taken = front ++ [close] ∧ close.kind = .keyword .close ∧
            openings.Reaches (withItems values.length openings.containers)
              (values.flatMap walk) front)
      (Grammar.body rule production state) := by
  obtain ⟨front, values, last, failed, items⟩ := notes.exists_repetition stands panels
  have repetition := items.repetition
  rcases last.next_or_other (.keyword .close) with ⟨close, more, next, closes⟩ | notClose
  · have failedIs :
        failed = (Production.mismatch item.rule item.expected last : Option α × State).2 :=
      congrArg Prod.snd (repetition.fails.symm.trans (notes.declines next closes))
    subst failedIs
    rw [body_of_close repetition.many_eq next closes]
    have takes := repetition.takes.trans (State.takes_advance next)
    have nothing : (openings.behind front).trace [close] = [] := by
      simp [Openings.trace, Openings.event?, closes]
    have notesClose : (openings.behind front).Notes [close] last last.advance :=
      Openings.notes_advance nothing
    exact .taken ⟨takes.rest, takes.consumed, rfl, takes.tooDeep⟩ (items.notes.trans notesClose)
      ⟨front, close, rfl, closes, items.reaches⟩
  · rw [body_of_other repetition.many_eq notClose]
    have standsOn := stands.behind repetition.takes items.reaches.closing
    have panelsOn := (Openings.panels_of_withItems items.reaches.containers).trans panels
    have noted := notes.noted standsOn panelsOn
    rw [repetition.fails] at noted
    refine Noted.prepend repetition.takes items.notes ?_
    cases noted with
    | failed taken left split notesTaken fails =>
        refine .failed taken left split notesTaken (fails.imp_right fun failure => ?_)
        obtain ⟨tooDeep, failedAt⟩ := failure
        refine ⟨tooDeep, ?_⟩
        -- The body adds that it wanted the keyword, but farther on nothing was wanted.
        simp only [Diagnosis.unmet, failedAt]
        omega

end NotesItem

end WindowLang.Grammar
