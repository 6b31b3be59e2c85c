import WindowLang.Proofs.Agenda.OpenBodies

namespace WindowLang

/-!
# The shape of an agenda

An agenda that a document reaches holds the ends of at most one layout, and they
come before all bodies that have begun. So what it says is unmet comes in three
parts: one expectation, the layout that it lies in, and the open bodies.
-/

/-- The rule is not one of a layout. -/
def Rule.isOutside : Rule → Bool
  | .layout => false
  | .layoutType => false
  | _ => true

namespace Grammar

/-- A task of a layout behind the keyword of a grid. -/
def Task.isOfType : Task → Bool
  | .token .layoutType _ => true
  | .number .layoutType => true
  | .gaps => true
  | _ => false

namespace Agenda

/-- The rule whose layout comes where those bodies are open. -/
def container (bodies : List (Rule × Nat)) : Rule :=
  if bodies.isEmpty then .gui else .panel

/-- No task is part of a layout, and layouts belong to the bodies around them. -/
def Outer : Agenda → Prop
  | [] => True
  | .token rule _ :: rest => rule.isOutside = true ∧ Outer rest
  | .number rule :: rest => rule.isOutside = true ∧ Outer rest
  | .layout rule :: rest => rule = container (begunBodies rest) ∧ Outer rest
  | .body _ _ _ :: rest => Outer rest
  | _ :: _ => False

/-- What is still to come of a layout behind its type. -/
def afterType (rest : Agenda) : Agenda :=
  .token .layout (.mark .colon) :: .finish (container (begunBodies rest)) .layout :: rest

/-- The shapes of an agenda: outside of layouts, or at one of the places in a layout. -/
inductive Shaped : Agenda → Prop where
  | outside
      {agenda : Agenda}
      (outer : Outer agenda) :
      Shaped agenda
  | beforeType
      {rest : Agenda}
      (outer : Outer rest) :
      Shaped (.layoutType :: afterType rest)
  | inType
      {front rest : Agenda}
      (steps : ∀ task ∈ front, task.isOfType = true)
      (outer : Outer rest) :
      Shaped (front ++ .finish .layout .layoutType :: afterType rest)
  | behindType
      {rest : Agenda}
      (outer : Outer rest) :
      Shaped (afterType rest)
  | behindColon
      {rest : Agenda}
      (outer : Outer rest) :
      Shaped (.finish (container (begunBodies rest)) .layout :: rest)

theorem Outer.settle_eq
    {agenda : Agenda}
    (outer : Outer agenda) :
    agenda.settle = agenda := by
  cases agenda with
  | nil =>
      rfl
  | cons task rest =>
      cases task with
      | finish rule part =>
          exact outer.elim
      | _ =>
          rfl

/-- The tasks of an item are outside of layouts where its body is open. -/
theorem Outer.tasks
    {rule : Rule}
    {item : Item}
    {token : Token}
    {tasks rest : Agenda}
    (begins : item.tasks? token = some tasks)
    (index : Nat)
    (outer : Outer rest) :
    Outer (tasks ++ .body rule item (some index) :: rest) := by
  obtain ⟨word, _, isItem⟩ := item.begins_of_tasks? begins
  cases isItem with
  | button | label | textField | group | panel | radioButton =>
      simp [Outer, literalTasks, Rule.isOutside, container, begunBodies, Task.begun?, outer]

theorem Outer.advance
    {agenda next : Agenda}
    {index : Nat}
    {token : Token}
    (outer : Outer agenda)
    (advances : agenda.advance? index token = some next) :
    Shaped next := by
  obtain ⟨task, rest, settled, isStep⟩ := advance?_eq_some_iff.1 advances
  obtain rfl : agenda = task :: rest := outer.settle_eq.symm.trans settled
  cases isStep with
  | token isWanted =>
      exact .outside outer.2
  | number isNumber reads =>
      exact .outside outer.2
  | layout isLayout =>
      obtain ⟨rfl, outerRest⟩ := outer
      exact .beforeType outerRest
  | flow | grid | noGaps | gaps =>
      exact outer.elim
  | close closes =>
      exact .outside outer
  | item goesOn notFull begins =>
      have outerRest : Outer rest := outer
      exact .outside (outerRest.tasks begins index)

theorem Shaped.advance_afterType
    {rest next : Agenda}
    {index : Nat}
    {token : Token}
    (outer : Outer rest)
    (advances : (afterType rest).advance? index token = some next) :
    Shaped next := by
  obtain ⟨task, others, settled, isStep⟩ := advance?_eq_some_iff.1 advances
  obtain ⟨rfl, rfl⟩ := List.cons.inj settled
  cases isStep with
  | token isWanted =>
      exact .behindColon outer

/-- Within the type of a layout a step is done, or the gaps of a grid begin. -/
theorem Shaped.advance_inType
    {task : Task}
    {front rest next : Agenda}
    {index : Nat}
    {token : Token}
    (ofType : task.isOfType = true)
    (steps : ∀ step ∈ front, step.isOfType = true)
    (outer : Outer rest)
    (advances :
      advance? (task :: front ++ .finish .layout .layoutType :: afterType rest) index token =
        some next) :
    Shaped next := by
  obtain ⟨first, others, settled, isStep⟩ := advance?_eq_some_iff.1 advances
  have simple : task.isSimple = true := by
    cases task with
    | finish | body =>
        cases ofType
    | _ =>
        rfl
  rw [List.cons_append, settle_cons_of_isSimple simple] at settled
  obtain ⟨rfl, rfl⟩ := List.cons.inj settled
  cases isStep with
  | token | number | noGaps =>
      exact .inType steps outer
  | gaps separates =>
      have gapsOfType : ∀ step ∈ gapTasks, step.isOfType = true := by
        decide
      have all : ∀ step ∈ gapTasks ++ front, step.isOfType = true :=
        List.forall_mem_append.2 ⟨gapsOfType, steps⟩
      exact .inType all outer
  | layout | flow | grid | close | item =>
      cases ofType

/-- Within a layout every token leads to another place in it, or behind it. -/
theorem Shaped.advance
    {agenda next : Agenda}
    {index : Nat}
    {token : Token}
    (shaped : Shaped agenda)
    (advances : agenda.advance? index token = some next) :
    Shaped next := by
  cases shaped with
  | outside outer =>
      exact outer.advance advances
  | @beforeType rest outer =>
      obtain ⟨task, others, settled, isStep⟩ := advance?_eq_some_iff.1 advances
      obtain ⟨rfl, rfl⟩ := List.cons.inj settled
      cases isStep with
      | flow isFlow =>
          exact .behindType outer
      | grid isGrid =>
          have steps : ∀ step ∈ gridTasks.dropLast, step.isOfType = true := by
            decide
          exact .inType steps outer
  | @inType front rest steps outer =>
      cases front with
      | nil =>
          rw [List.nil_append, advance?_congr (settle_finish _ _ (afterType rest))] at advances
          exact advance_afterType outer advances
      | cons task front =>
          obtain ⟨ofType, others⟩ := List.forall_mem_cons.1 steps
          exact advance_inType ofType others outer advances
  | @behindType rest outer =>
      exact advance_afterType outer advances
  | @behindColon rest outer =>
      rw [advance?_congr (settle_finish _ _ rest)] at advances
      exact outer.advance advances

/-- A run keeps the shape. -/
theorem Shaped.run
    {agenda reached : Agenda}
    {index : Nat}
    {tokens : List Token}
    (shaped : Shaped agenda)
    (ran : agenda.run? index tokens = some reached) :
    Shaped reached :=
  run?_keeps Shaped.advance shaped ran

/-- At its start a document is outside of layouts. -/
theorem shaped_start : Shaped start := by
  have outer : Outer start := by
    simp [start, literalTasks, Outer, Rule.isOutside, container, begunBodies, Task.begun?]
  exact .outside outer

end Agenda

end Grammar

end WindowLang
