import WindowLang.Grammar.Nesting
import WindowLang.Proofs.Agenda.Run

namespace WindowLang

/-!
# Open containers

An agenda holds a body and a semicolon for every container that its tokens have opened
and not closed. A token changes both alike, so the open panels of an agenda can be
counted in the tokens before it.
-/

/-- A token of the kind neither begins a widget nor closes a body. -/
def Kind.isInner : Kind → Bool
  | .keyword .close => false
  | .keyword word => !Grammar.widgetKeywords.contains word
  | _ => true

namespace Grammar

/-- The task is no body, and it does not want a token that begins a widget or closes a body. -/
def Task.isInner : Task → Bool
  | .token _ kind => kind.isInner
  | .body _ _ _ => false
  | _ => true

theorem Nesting.after_of_panel
    {token : Token}
    (isPanel : token.kind = .keyword .panel)
    (nesting : Nesting) :
    nesting.after token = ⟨.panel :: nesting.containers, false⟩ := by
  simp [Nesting.after, isPanel]

theorem Nesting.after_of_group
    {token : Token}
    (isGroup : token.kind = .keyword .group)
    (nesting : Nesting) :
    nesting.after token = ⟨.group :: nesting.containers, false⟩ := by
  simp [Nesting.after, isGroup]

theorem Nesting.after_of_close
    {token : Token}
    (closes : token.kind = .keyword .close)
    (nesting : Nesting) :
    nesting.after token = ⟨nesting.containers, true⟩ := by
  simp [Nesting.after, closes]

theorem Nesting.after_of_isInner
    {token : Token}
    (inner : token.kind.isInner = true)
    (containers : List Keyword) :
    Nesting.after ⟨containers, false⟩ token = ⟨containers, false⟩ := by
  unfold Nesting.after
  split
  case h_1 isPanel =>
      rw [isPanel] at inner
      cases inner
  case h_2 isGroup =>
      rw [isGroup] at inner
      cases inner
  case h_3 isClose =>
      rw [isClose] at inner
      cases inner
  · rfl
  · rfl

namespace Agenda

/-- The bodies of an agenda are those of the open containers and of the window around them. -/
inductive Holds : Agenda → List Keyword → Prop where
  | window
      {begun : Option Nat} :
      Holds [.body .gui .widget begun, .token .gui (.mark .period)] []
  | panel
      {begun : Option Nat}
      {rest : Agenda}
      {containers : List Keyword}
      (around : Holds rest containers) :
      Holds (.body .panel .widget begun :: .token .panel (.mark .semicolon) :: rest)
        (.panel :: containers)
  | group
      {begun : Option Nat}
      {rest : Agenda}
      {containers : List Keyword}
      (around : Holds rest containers) :
      Holds (.body .group .radioButton begun :: .token .group (.mark .semicolon) :: rest)
        (.group :: containers)

/-- The agenda at a place with a nesting. -/
inductive Nests : Agenda → Nesting → Prop where
  | within
      {front bodies : Agenda}
      {containers : List Keyword}
      (inner : ∀ task ∈ front, task.isInner = true)
      (holds : Holds bodies containers) :
      Nests (front ++ bodies) ⟨containers, false⟩
  | closed
      {rule : Rule}
      {bodies : Agenda}
      {container : Keyword}
      {containers : List Keyword}
      (holds : Holds bodies containers) :
      Nests (.token rule (.mark .semicolon) :: bodies) ⟨container :: containers, true⟩
  | closedWindow :
      Nests [.token .gui (.mark .period)] ⟨[], true⟩
  | complete :
      Nests [] ⟨[], false⟩

/-- Where nothing else is to come in front, the bodies are at a place of their own. -/
theorem Holds.nests
    {bodies : Agenda}
    {containers : List Keyword}
    (holds : Holds bodies containers) :
    Nests bodies ⟨containers, false⟩ := by
  have nests : Nests ([] ++ bodies) ⟨containers, false⟩ :=
    .within (List.forall_mem_nil _) holds
  exact nests

/-- Which item of a body is in progress does not matter. -/
theorem Holds.begin
    {rule : Rule}
    {item : Item}
    {begun : Option Nat}
    {rest : Agenda}
    {containers : List Keyword}
    (holds : Holds (.body rule item begun :: rest) containers)
    (index : Option Nat) :
    Holds (.body rule item index :: rest) containers := by
  cases holds with
  | window =>
      exact .window
  | panel around =>
      exact .panel around
  | group around =>
      exact .group around

/-- The closing keyword leaves the container open until its semicolon. -/
theorem Holds.close
    {rule : Rule}
    {item : Item}
    {begun : Option Nat}
    {rest : Agenda}
    {containers : List Keyword}
    (holds : Holds (.body rule item begun :: rest) containers) :
    Nests rest ⟨containers, true⟩ := by
  cases holds with
  | window =>
      exact .closedWindow
  | panel around =>
      exact .closed around
  | group around =>
      exact .closed around

/-- An item opens a container if it is a panel or a group. -/
theorem Holds.item
    {bodies tasks : Agenda}
    {containers : List Keyword}
    {item : Item}
    {word : Keyword}
    {token : Token}
    (holds : Holds bodies containers)
    (begins : item.Begins word tasks)
    (isKeyword : token.kind = .keyword word) :
    Nests (tasks ++ bodies) (Nesting.after ⟨containers, false⟩ token) := by
  have inner
      {simple : Agenda}
      (isInner : ∀ task ∈ simple, task.isInner = true)
      (same : Nesting.after ⟨containers, false⟩ token = ⟨containers, false⟩) :
      Nests (simple ++ bodies) (Nesting.after ⟨containers, false⟩ token) := by
    rw [same]
    exact .within isInner holds
  cases begins with
  | button | label | textField | radioButton =>
      exact inner (by decide) (by simp [Nesting.after, isKeyword])
  | group =>
      rw [Nesting.after_of_group isKeyword]
      exact (Holds.group holds).nests
  | panel =>
      have inFront : ∀ task ∈ [Task.layout .panel], task.isInner = true := by
        decide
      have nests :
          Nests
            ([.layout .panel] ++
              .body .panel .widget none :: .token .panel (.mark .semicolon) :: bodies)
            ⟨.panel :: containers, false⟩ :=
        .within inFront (.panel holds)
      rw [Nesting.after_of_panel isKeyword]
      exact nests

theorem Holds.settle_eq
    {bodies : Agenda}
    {containers : List Keyword}
    (holds : Holds bodies containers) :
    bodies.settle = bodies := by
  cases holds with
  | window | panel | group =>
      rfl

theorem Holds.advance
    {bodies next : Agenda}
    {containers : List Keyword}
    {index : Nat}
    {token : Token}
    (holds : Holds bodies containers)
    (advances : bodies.advance? index token = some next) :
    Nests next (Nesting.after ⟨containers, false⟩ token) := by
  obtain ⟨task, rest, settled, isStep⟩ := advance?_eq_some_iff.1 advances
  obtain rfl : bodies = task :: rest := holds.settle_eq.symm.trans settled
  cases isStep with
  | close closes =>
      rw [Nesting.after_of_close closes]
      exact holds.close
  | @item rule item begun tasks goesOn notFull begins =>
      obtain ⟨word, isKeyword, isItem⟩ := item.begins_of_tasks? begins
      exact (holds.begin (some index)).item isItem isKeyword
  | token | number | layout | flow | grid | noGaps | gaps =>
      cases holds

/-- An inner task is done by an inner token, and only inner tasks take its place. -/
theorem Advances.inner
    {index : Nat}
    {token : Token}
    {task : Task}
    {rest next : Agenda}
    (advances : Advances index token rest task next)
    (inner : task.isInner = true) :
    token.kind.isInner = true ∧
      ∃ front, next = front ++ rest ∧ ∀ step ∈ front, step.isInner = true := by
  have nothing : ∀ step ∈ ([] : Agenda), step.isInner = true :=
    List.forall_mem_nil _
  cases advances with
  | token isWanted =>
      exact ⟨isWanted ▸ inner, [], rfl, nothing⟩
  | number isNumber reads =>
      exact ⟨by rw [isNumber]; rfl, [], rfl, nothing⟩
  | @layout rule isLayout =>
      refine ⟨by rw [isLayout]; rfl, layoutTasks rule, rfl, ?_⟩
      simp [layoutTasks, Task.isInner, Kind.isInner]
  | flow isFlow =>
      exact ⟨by rw [isFlow]; rfl, [], rfl, nothing⟩
  | grid isGrid =>
      exact ⟨by rw [isGrid]; rfl, gridTasks, rfl, by decide⟩
  | noGaps closes =>
      exact ⟨by rw [closes]; rfl, [], rfl, nothing⟩
  | gaps separates =>
      exact ⟨by rw [separates]; rfl, gapTasks, rfl, by decide⟩
  | close | item =>
      cases inner

/-- In front of the bodies a token does the first task that is not the end of a part. -/
theorem Nests.advance_within
    {front bodies next : Agenda}
    {containers : List Keyword}
    {index : Nat}
    {token : Token}
    (inner : ∀ task ∈ front, task.isInner = true)
    (holds : Holds bodies containers)
    (advances : (front ++ bodies).advance? index token = some next) :
    Nests next (Nesting.after ⟨containers, false⟩ token) := by
  induction front with
  | nil =>
      exact holds.advance advances
  | cons task front inductionHypothesis =>
      obtain ⟨taskInner, frontInner⟩ := List.forall_mem_cons.1 inner
      by_cases simple : task.isSimple = true
      · obtain ⟨first, rest, settled, isStep⟩ := advance?_eq_some_iff.1 advances
        rw [List.cons_append, settle_cons_of_isSimple simple] at settled
        obtain ⟨rfl, rfl⟩ := List.cons.inj settled
        obtain ⟨tokenInner, added, rfl, addedInner⟩ := isStep.inner taskInner
        rw [Nesting.after_of_isInner tokenInner, ← List.append_assoc]
        exact .within (List.forall_mem_append.2 ⟨addedInner, frontInner⟩) holds
      · cases task with
        | finish rule part =>
            exact inductionHypothesis frontInner advances
        | body rule item begun =>
            cases taskInner
        | _ =>
            exact absurd rfl simple

/-- A token changes the nesting as it changes the agenda. -/
theorem Nests.advance
    {agenda next : Agenda}
    {nesting : Nesting}
    {index : Nat}
    {token : Token}
    (nests : Nests agenda nesting)
    (advances : agenda.advance? index token = some next) :
    Nests next (nesting.after token) := by
  cases nests with
  | within inner holds =>
      exact advance_within inner holds advances
  | @closed rule bodies container containers holds =>
      obtain ⟨task, rest, settled, isStep⟩ := advance?_eq_some_iff.1 advances
      obtain ⟨rfl, rfl⟩ := List.cons.inj settled
      cases isStep with
      | token isWanted =>
          have closedNow :
              Nesting.after ⟨container :: containers, true⟩ token = ⟨containers, false⟩ := by
            simp [Nesting.after, isWanted]
          rw [closedNow]
          exact holds.nests
  | closedWindow =>
      obtain ⟨task, rest, settled, isStep⟩ := advance?_eq_some_iff.1 advances
      obtain ⟨rfl, rfl⟩ := List.cons.inj settled
      cases isStep with
      | token isWanted =>
          have ended : Nesting.after ⟨[], true⟩ token = ⟨[], false⟩ := by
            simp [Nesting.after, isWanted]
          rw [ended]
          exact .complete
  | complete =>
      cases advances

theorem Nests.run
    {agenda reached : Agenda}
    {nesting : Nesting}
    {index : Nat}
    {tokens : List Token}
    (nests : Nests agenda nesting)
    (ran : agenda.run? index tokens = some reached) :
    Nests reached (tokens.foldl Nesting.after nesting) := by
  induction tokens generalizing agenda nesting index with
  | nil =>
      cases ran
      exact nests
  | cons token tokens inductionHypothesis =>
      unfold run? at ran
      split at ran
      · cases ran
      · rename_i next advances
        exact inductionHypothesis (nests.advance advances) ran

theorem nests_start : Nests start ⟨[], false⟩ := by
  have inner : ∀ task ∈ start.take 10, task.isInner = true := by
    decide
  have nests : Nests (start.take 10 ++ start.drop 10) ⟨[], false⟩ :=
    .within inner .window
  exact nests

/-- Tokens lead the agenda of a document to one with their nesting. -/
theorem nests_of_run
    {tokens : List Token}
    {agenda : Agenda}
    (ran : start.run? 0 tokens = some agenda) :
    Nests agenda (nestingBehind tokens) :=
  nests_start.run ran

/-- The open panels of the bodies are those among the containers. -/
theorem Holds.openPanels_eq
    {bodies : Agenda}
    {containers : List Keyword}
    (holds : Holds bodies containers) :
    bodies.openPanels = containers.count .panel := by
  induction holds with
  | window =>
      rfl
  | panel around inductionHypothesis =>
      simpa [openPanels] using inductionHypothesis
  | group around inductionHypothesis =>
      simpa [openPanels] using inductionHypothesis

/-- Where an item of a body may begin, the bodies are all that is still to come. -/
theorem Nests.holds_of_body
    {agenda rest : Agenda}
    {nesting : Nesting}
    {rule : Rule}
    {item : Item}
    {begun : Option Nat}
    (nests : Nests agenda nesting)
    (settled : agenda.settle = .body rule item begun :: rest) :
    Holds (.body rule item begun :: rest) nesting.containers := by
  cases nests with
  | @within front bodies containers inner holds =>
      induction front with
      | nil =>
          rw [List.nil_append, holds.settle_eq] at settled
          rwa [settled] at holds
      | cons task front inductionHypothesis =>
          obtain ⟨taskInner, frontInner⟩ := List.forall_mem_cons.1 inner
          cases task with
          | finish rule part =>
              exact inductionHypothesis frontInner settled
          | body rule item begun =>
              cases taskInner
          | _ =>
              cases settled
  | closed | closedWindow | complete =>
      cases settled

/-- What comes next is an inner task or a body. -/
theorem Nests.inner_of_settle
    {agenda rest : Agenda}
    {nesting : Nesting}
    {task : Task}
    (nests : Nests agenda nesting)
    (settled : agenda.settle = task :: rest) :
    task.isInner = true ∨ ∃ rule item begun, task = .body rule item begun := by
  cases nests with
  | @within front bodies containers inner holds =>
      induction front with
      | nil =>
          rw [List.nil_append, holds.settle_eq] at settled
          cases holds with
          | window | panel | group =>
              cases settled
              exact .inr ⟨_, _, _, rfl⟩
      | cons first front inductionHypothesis =>
          obtain ⟨firstInner, frontInner⟩ := List.forall_mem_cons.1 inner
          cases first with
          | finish rule part =>
              exact inductionHypothesis frontInner settled
          | body rule item begun =>
              cases firstInner
          | _ =>
              cases settled
              exact .inl firstInner
  | closed | closedWindow =>
      cases settled
      exact .inl rfl
  | complete =>
      cases settled

/-- A token that begins a widget is only admitted where a body of widgets wants one. -/
theorem Nests.body_of_widget
    {agenda next : Agenda}
    {nesting : Nesting}
    {index : Nat}
    {token : Token}
    {word : Keyword}
    (nests : Nests agenda nesting)
    (isWidget : word ∈ widgetKeywords)
    (isKeyword : token.kind = .keyword word)
    (advances : agenda.advance? index token = some next) :
    ∃ rule begun rest, agenda.settle = .body rule .widget begun :: rest := by
  have outer : ∀ word ∈ widgetKeywords, Kind.isInner (.keyword word) = false := by
    decide
  obtain ⟨task, rest, settled, isStep⟩ := advance?_eq_some_iff.1 advances
  rcases nests.inner_of_settle settled with inner | ⟨rule, item, begun, rfl⟩
  · obtain ⟨tokenInner, _⟩ := isStep.inner inner
    rw [isKeyword, outer word isWidget] at tokenInner
    cases tokenInner
  · cases isStep with
    | close closes =>
        obtain rfl : word = .close := Kind.keyword.inj (isKeyword.symm.trans closes)
        cases (by decide : Keyword.close ∉ widgetKeywords) isWidget
    | item goesOn notFull begins =>
        cases item with
        | widget =>
            exact ⟨rule, begun, rest, settled⟩
        | radioButton =>
            obtain ⟨other, isOther, isItem⟩ := Item.begins_of_tasks? begins
            obtain rfl : word = other := Kind.keyword.inj (isKeyword.symm.trans isOther)
            cases isItem
            cases (by decide : Keyword.radio ∉ widgetKeywords) isWidget

/-- The ends of parts in front are no panels. -/
@[simp] theorem openPanels_settle (agenda : Agenda) :
    openPanels agenda.settle = openPanels agenda := by
  induction agenda with
  | nil =>
      rfl
  | cons task rest inductionHypothesis =>
      cases task with
      | finish rule part =>
          simpa [openPanels] using inductionHypothesis
      | _ =>
          rfl

/-- An item is itself at most one panel, and only if its keyword is that of a panel. -/
theorem openPanels_of_begins
    {item : Item}
    {word : Keyword}
    {tasks : Agenda}
    (begins : item.Begins word tasks) :
    openPanels tasks = if word = .panel then 1 else 0 := by
  cases begins with
  | button | label | textField | group | panel | radioButton =>
      rfl

/-- No token opens a panel where the limit is reached. -/
theorem openPanels_advance_le
    {agenda next : Agenda}
    {index : Nat}
    {token : Token}
    (below : openPanels agenda ≤ panelLimit)
    (advances : agenda.advance? index token = some next) :
    openPanels next ≤ panelLimit := by
  obtain ⟨task, rest, settled, isStep⟩ := advance?_eq_some_iff.1 advances
  have whole : openPanels [task] + openPanels rest ≤ panelLimit := by
    rw [← openPanels_append, List.singleton_append, ← settled, openPanels_settle]
    exact below
  have behind : openPanels rest ≤ panelLimit := Nat.le_of_add_left_le whole
  cases isStep with
  | token | number | flow | noGaps | close =>
      exact behind
  | layout | grid | gaps =>
      rw [openPanels_append]
      exact Nat.le_trans (Nat.le_of_eq (Nat.zero_add (openPanels rest))) behind
  | @item rule item begun tasks goesOn notFull begins =>
      obtain ⟨word, isKeyword, isItem⟩ := item.begins_of_tasks? begins
      have body :
          openPanels (.body rule item (some index) :: rest) =
            openPanels (.body rule item begun :: rest) := by
        cases rule with
        | _ =>
            rfl
      have counted : openPanels (.body rule item begun :: rest) ≤ panelLimit := by
        rwa [← openPanels_append, List.singleton_append] at whole
      rw [openPanels_append, openPanels_of_begins isItem, body]
      by_cases isPanel : word = .panel
      · subst isPanel
        have room : openPanels (.body rule item begun :: rest) < panelLimit := by
          simpa [isFull, isKeyword] using notFull
        rw [if_pos rfl, Nat.add_comm]
        exact room
      · rw [if_neg isPanel, Nat.zero_add]
        exact counted

/-- No more panels are open than may be. -/
theorem openPanels_le_of_run
    {tokens : List Token}
    {agenda : Agenda}
    (ran : start.run? 0 tokens = some agenda) :
    openPanels agenda ≤ panelLimit :=
  run?_keeps (motive := fun agenda => openPanels agenda ≤ panelLimit)
    openPanels_advance_le (Nat.zero_le _) ran

end Agenda

end Grammar

end WindowLang
