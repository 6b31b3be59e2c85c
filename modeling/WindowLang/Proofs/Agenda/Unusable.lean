import WindowLang.Proofs.Agenda.Run

namespace WindowLang.Grammar

/-!
# Tokens that no rule takes

A word without meaning and a number that is no unsigned integer stand nowhere in a
document. No agenda of a document goes on with either of them, because no task asks
for a number or for such a word by its kind alone.
-/

/-- A token that no rule of the grammar takes. -/
def IsUnusable (token : Token) : Prop :=
  token.kind = .notFound ∨
    (token.kind = .number ∧ Text.readUnsigned? token.lexeme = none)

theorem IsUnusable.kind
    {token : Token}
    (unusable : IsUnusable token) :
    token.kind = .notFound ∨ token.kind = .number :=
  unusable.imp_right And.left

/-- A task that asks neither for a number nor for a word without meaning by its kind alone. -/
def Task.IsSelective : Task → Prop
  | .token _ kind => kind ≠ .number ∧ kind ≠ .notFound
  | _ => True

namespace Agenda

/-- All tasks of the agenda are selective. -/
def IsSelective (agenda : Agenda) : Prop :=
  ∀ task ∈ agenda, task.IsSelective

theorem isSelective_start : IsSelective start := by
  simp [IsSelective, start, literalTasks, Task.IsSelective]

theorem IsSelective.append
    {first second : Agenda}
    (firstSelective : IsSelective first)
    (secondSelective : IsSelective second) :
    IsSelective (first ++ second) :=
  fun task among => (List.mem_append.1 among).elim (firstSelective task) (secondSelective task)

theorem IsSelective.settle
    {agenda : Agenda}
    (selective : IsSelective agenda) :
    IsSelective agenda.settle := by
  induction agenda with
  | nil =>
      exact selective
  | cons task rest inductionHypothesis =>
      cases task with
      | finish rule part =>
          exact inductionHypothesis (List.forall_mem_cons.1 selective).2
      | _ =>
          exact selective

theorem isSelective_tasks
    {item : Item}
    {token : Token}
    {tasks : Agenda}
    (begins : item.tasks? token = some tasks) :
    IsSelective tasks := by
  obtain ⟨word, _, isItem⟩ := item.begins_of_tasks? begins
  cases isItem with
  | button | label | textField | group | panel | radioButton =>
      simp [IsSelective, literalTasks, Task.IsSelective]

/-- A token leaves the tasks selective. -/
theorem IsSelective.advance
    {agenda next : Agenda}
    {index : Nat}
    {token : Token}
    (selective : IsSelective agenda)
    (advances : agenda.advance? index token = some next) :
    IsSelective next := by
  obtain ⟨task, rest, settled, isStep⟩ := advance?_eq_some_iff.1 advances
  have settledSelective := selective.settle
  rw [settled] at settledSelective
  obtain ⟨_, restSelective⟩ := List.forall_mem_cons.1 settledSelective
  cases isStep with
  | token | number | flow | noGaps | close =>
      exact restSelective
  | layout isLayout =>
      refine IsSelective.append ?_ restSelective
      simp [IsSelective, layoutTasks, Task.IsSelective]
  | grid isGrid =>
      refine IsSelective.append ?_ restSelective
      simp [IsSelective, gridTasks, Task.IsSelective]
  | gaps separates =>
      refine IsSelective.append ?_ restSelective
      simp [IsSelective, gapTasks, Task.IsSelective]
  | item goesOn notFull begins =>
      exact (isSelective_tasks begins).append
        (List.forall_mem_cons.2 ⟨trivial, restSelective⟩)

/-- No unusable token does a selective task. -/
theorem Advances.not_isUnusable
    {index : Nat}
    {token : Token}
    {task : Task}
    {rest next : Agenda}
    (advances : Advances index token rest task next)
    (selective : task.IsSelective) :
    ¬ IsUnusable token := by
  intro unusable
  have otherKind
      {kind : Kind}
      (isKind : token.kind = kind)
      (meaning : kind ≠ .notFound)
      (noNumber : kind ≠ .number) :
      False :=
    unusable.kind.elim (fun isWord => meaning (isKind.symm.trans isWord))
      fun isNumber => noNumber (isKind.symm.trans isNumber)
  cases advances with
  | token isWanted =>
      exact otherKind isWanted selective.2 selective.1
  | number isNumber reads =>
      rcases unusable with isWord | ⟨_, noValue⟩
      · rw [isNumber] at isWord
        cases isWord
      · rw [noValue] at reads
        cases reads
  | layout isLayout =>
      exact otherKind isLayout nofun nofun
  | flow isFlow =>
      exact otherKind isFlow nofun nofun
  | grid isGrid =>
      exact otherKind isGrid nofun nofun
  | noGaps closes =>
      exact otherKind closes nofun nofun
  | gaps separates =>
      exact otherKind separates nofun nofun
  | close closes =>
      exact otherKind closes nofun nofun
  | item goesOn notFull begins =>
      obtain ⟨word, isKeyword, _⟩ := Item.begins_of_tasks? begins
      exact otherKind isKeyword nofun nofun

/-- A selective agenda does not go on with an unusable token. -/
theorem IsSelective.advance?_eq_none
    {agenda : Agenda}
    {token : Token}
    (selective : IsSelective agenda)
    (unusable : IsUnusable token)
    (index : Nat) :
    agenda.advance? index token = none := by
  rw [Option.eq_none_iff_forall_ne_some]
  intro next advances
  obtain ⟨task, rest, settled, isStep⟩ := advance?_eq_some_iff.1 advances
  have settledSelective := selective.settle
  rw [settled] at settledSelective
  exact isStep.not_isUnusable (List.forall_mem_cons.1 settledSelective).1 unusable

/-- Nowhere in a document an unusable token leads on. -/
theorem advance?_of_isUnusable
    {agenda : Agenda}
    {taken : List Token}
    {token : Token}
    (runs : start.Runs 0 taken agenda)
    (unusable : IsUnusable token)
    (index : Nat) :
    agenda.advance? index token = none := by
  obtain ⟨last, ran, same⟩ := runs
  have selective : IsSelective last :=
    run?_keeps IsSelective.advance isSelective_start ran
  rw [← advance?_congr same]
  exact selective.advance?_eq_none unusable index

/-- No token that leads on from the start of a document is unusable. -/
theorem not_isUnusable_of_runs
    {agenda : Agenda}
    {taken : List Token}
    (runs : start.Runs 0 taken agenda) :
    ∀ token ∈ taken, ¬ IsUnusable token := by
  intro token among unusable
  obtain ⟨before, after, rfl⟩ := List.append_of_mem among
  obtain ⟨middle, runsBefore, runsOn⟩ := runs.split
  exact runsOn.advances (advance?_of_isUnusable runsBefore unusable _)

end Agenda

end WindowLang.Grammar
