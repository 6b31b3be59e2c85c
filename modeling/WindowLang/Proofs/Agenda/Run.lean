import WindowLang.Grammar.Agenda
import WindowLang.Grammar.Derivation

namespace WindowLang.Grammar

/-!
# Runs of an agenda

Tokens lead from one agenda to another. The ends of parts in front of an agenda
take no token, so agendas that differ only by them admit the same tokens, and
runs are stated up to them. An agenda is stuck where neither the next token fits
nor the document is complete.
-/

/-- A task that takes a token of its own and is no body. -/
def Task.isSimple : Task → Bool
  | .finish _ _ => false
  | .body _ _ _ => false
  | _ => true

/-- The keyword that an item of a body begins with, and the tasks behind it. -/
inductive Item.Begins : Item → Keyword → Agenda → Prop where
  | button :
      Begins .widget .button (literalTasks .button ++ [.token .button (.mark .semicolon)])
  | label :
      Begins .widget .label (literalTasks .label ++ [.token .label (.mark .semicolon)])
  | textField :
      Begins .widget .textfield [.number .textfield, .token .textfield (.mark .semicolon)]
  | group :
      Begins .widget .group
        [.body .group .radioButton none, .token .group (.mark .semicolon)]
  | panel :
      Begins .widget .panel
        [.layout .panel, .body .panel .widget none, .token .panel (.mark .semicolon)]
  | radioButton :
      Begins .radioButton .radio
        (literalTasks .radioButton ++ [.token .radioButton (.mark .semicolon)])

/-- A token that begins an item is one of the keywords. -/
theorem Item.begins_of_tasks?
    {item : Item}
    {token : Token}
    {tasks : Agenda}
    (begins : item.tasks? token = some tasks) :
    ∃ word, token.kind = .keyword word ∧ item.Begins word tasks := by
  unfold Item.tasks? at begins
  split at begins
  · rename_i word isKeyword
    refine ⟨word, isKeyword, ?_⟩
    cases word with
    | button =>
        cases begins
        exact .button
    | label =>
        cases begins
        exact .label
    | textfield =>
        cases begins
        exact .textField
    | group =>
        cases begins
        exact .group
    | panel =>
        cases begins
        exact .panel
    | _ =>
        cases begins
  · rename_i isRadio
    cases begins
    exact ⟨.radio, isRadio, .radioButton⟩
  · cases begins

theorem atEnd_cons_iff
    {token : Token}
    {more : List Token} :
    AtEnd (token :: more) ↔ token.kind = .endOfFile := by
  simp [AtEnd]

namespace Agenda

@[simp] theorem settle_finish
    (rule part : Rule)
    (rest : Agenda) :
    settle (.finish rule part :: rest) = settle rest :=
  rfl

theorem settle_cons_of_isSimple
    {task : Task}
    (simple : task.isSimple = true)
    (rest : Agenda) :
    settle (task :: rest) = task :: rest := by
  cases task with
  | finish rule part =>
      cases simple
  | _ =>
      rfl

@[simp] theorem settle_body
    (rule : Rule)
    (item : Item)
    (begun : Option Nat)
    (rest : Agenda) :
    settle (.body rule item begun :: rest) = .body rule item begun :: rest :=
  rfl

/-- No end of a part stays in front. -/
theorem settle_ne_finish
    (agenda rest : Agenda)
    (rule part : Rule) :
    agenda.settle ≠ .finish rule part :: rest := by
  induction agenda with
  | nil =>
      intro same
      cases same
  | cons task others inductionHypothesis =>
      cases task with
      | finish rule part =>
          exact inductionHypothesis
      | _ =>
          intro same
          cases same

@[simp] theorem openPanels_append (first second : Agenda) :
    openPanels (first ++ second) = openPanels first + openPanels second :=
  List.countP_append

/-- Agendas that differ by ends of parts in front go on alike. -/
theorem advance?_congr
    {first second : Agenda}
    (same : first.settle = second.settle)
    (index : Nat)
    (token : Token) :
    first.advance? index token = second.advance? index token := by
  unfold advance?
  rw [same]

/-- What becomes of an agenda when a token does the task in front of the others. -/
inductive Advances (index : Nat) (token : Token) (rest : Agenda) : Task → Agenda → Prop where
  | token
      {rule : Rule}
      {kind : Kind}
      (isWanted : token.kind = kind) :
      Advances index token rest (.token rule kind) rest
  | number
      {rule : Rule}
      (isNumber : token.kind = .number)
      (reads : (Text.readUnsigned? token.lexeme).isSome = true) :
      Advances index token rest (.number rule) rest
  | layout
      {rule : Rule}
      (isLayout : token.kind = .keyword .layout) :
      Advances index token rest (.layout rule) (layoutTasks rule ++ rest)
  | flow
      (isFlow : token.kind = .keyword .flow) :
      Advances index token rest .layoutType rest
  | grid
      (isGrid : token.kind = .keyword .grid) :
      Advances index token rest .layoutType (gridTasks ++ rest)
  | noGaps
      (closes : token.kind = .mark .closeParen) :
      Advances index token rest .gaps rest
  | gaps
      (separates : token.kind = .mark .comma) :
      Advances index token rest .gaps (gapTasks ++ rest)
  | close
      {rule : Rule}
      {item : Item}
      {begun : Option Nat}
      (closes : token.kind = .keyword .close) :
      Advances index token rest (.body rule item begun) rest
  | item
      {rule : Rule}
      {item : Item}
      {begun : Option Nat}
      {tasks : Agenda}
      (goesOn : token.kind ≠ .keyword .close)
      (notFull : isFull (.body rule item begun :: rest) token = false)
      (begins : item.tasks? token = some tasks) :
      Advances index token rest (.body rule item begun)
        (tasks ++ .body rule item (some index) :: rest)

/-- An agenda goes on exactly where a token does the task in front. -/
theorem advance?_eq_some_iff
    {agenda next : Agenda}
    {index : Nat}
    {token : Token} :
    agenda.advance? index token = some next ↔
      ∃ task rest, agenda.settle = task :: rest ∧ Advances index token rest task next := by
  constructor
  · intro advances
    cases settled : agenda.settle with
    | nil =>
        simp [advance?, settled] at advances
    | cons task rest =>
        refine ⟨task, rest, rfl, ?_⟩
        simp only [advance?, settled] at advances
        cases task with
        | token rule kind =>
            obtain ⟨isWanted, rfl⟩ : token.kind = kind ∧ rest = next := by
              simpa using advances
            exact .token isWanted
        | number rule =>
            obtain ⟨⟨isNumber, reads⟩, rfl⟩ :
                (token.kind = .number ∧ (Text.readUnsigned? token.lexeme).isSome = true) ∧
                  rest = next := by
              simpa using advances
            exact .number isNumber reads
        | layout rule =>
            obtain ⟨isLayout, rfl⟩ :
                token.kind = .keyword .layout ∧ layoutTasks rule ++ rest = next := by
              simpa using advances
            exact .layout isLayout
        | layoutType =>
            simp only at advances
            split at advances
            · cases advances
              exact .flow ‹_›
            · split at advances
              · cases advances
                exact .grid ‹_›
              · cases advances
        | gaps =>
            simp only at advances
            split at advances
            · cases advances
              exact .noGaps ‹_›
            · split at advances
              · cases advances
                exact .gaps ‹_›
              · cases advances
        | finish rule part =>
            exact absurd settled (settle_ne_finish agenda rest rule part)
        | body rule item begun =>
            simp only at advances
            split at advances
            · cases advances
              exact .close ‹_›
            · split at advances
              · cases advances
              · obtain ⟨tasks, begins, rfl⟩ := Option.map_eq_some_iff.1 advances
                exact .item ‹_› (Bool.eq_false_iff.2 ‹_›) begins
  · rintro ⟨task, rest, settled, advances⟩
    unfold advance?
    rw [settled]
    cases advances with
    | token isWanted =>
        exact if_pos isWanted
    | number isNumber reads =>
        exact if_pos ⟨isNumber, reads⟩
    | layout isLayout =>
        exact if_pos isLayout
    | flow isFlow =>
        exact if_pos isFlow
    | grid isGrid =>
        simp [isGrid]
    | noGaps closes =>
        exact if_pos closes
    | gaps separates =>
        simp [separates]
    | close closes =>
        exact if_pos closes
    | item goesOn notFull begins =>
        simp [goesOn, notFull, begins]

/-- A run through two lists of tokens is a run through one after the other. -/
theorem run?_append
    (agenda : Agenda)
    (index : Nat)
    (first second : List Token) :
    agenda.run? index (first ++ second) =
      (agenda.run? index first).bind fun middle =>
        middle.run? (index + first.length) second := by
  induction first generalizing agenda index with
  | nil =>
      rfl
  | cons token rest inductionHypothesis =>
      simp only [List.cons_append, run?]
      cases agenda.advance? index token with
      | none =>
          rfl
      | some next =>
          have shifted : index + 1 + rest.length = index + (rest.length + 1) := by
            omega
          simp only [inductionHypothesis, List.length_cons, shifted]

/-- What every single token keeps is kept by a run. -/
theorem run?_keeps
    {motive : Agenda → Prop}
    (keeps :
      ∀ {agenda next : Agenda} {index : Nat} {token : Token},
        motive agenda → agenda.advance? index token = some next → motive next)
    {agenda reached : Agenda}
    {index : Nat}
    {tokens : List Token}
    (holds : motive agenda)
    (ran : agenda.run? index tokens = some reached) :
    motive reached := by
  induction tokens generalizing agenda index with
  | nil =>
      cases ran
      exact holds
  | cons token tokens inductionHypothesis =>
      unfold run? at ran
      split at ran
      · cases ran
      · rename_i next advances
        exact inductionHypothesis (keeps holds advances) ran

/-- The tokens lead from one agenda to another, up to ends of parts in front of it. -/
def Runs
    (agenda : Agenda)
    (index : Nat)
    (tokens : List Token)
    (reached : Agenda) :
    Prop :=
  ∃ last, agenda.run? index tokens = some last ∧ last.settle = reached.settle

theorem Runs.nil
    {agenda reached : Agenda}
    (same : agenda.settle = reached.settle)
    (index : Nat) :
    agenda.Runs index [] reached :=
  ⟨agenda, rfl, same⟩

/-- A token and then others lead where the others lead from behind the token. -/
theorem Runs.cons
    {agenda next reached : Agenda}
    {index : Nat}
    {token : Token}
    {tokens : List Token}
    (advances : agenda.advance? index token = some next)
    (runs : next.Runs (index + 1) tokens reached) :
    agenda.Runs index (token :: tokens) reached := by
  obtain ⟨last, ran, same⟩ := runs
  refine ⟨last, ?_, same⟩
  simpa only [run?, advances] using ran

theorem Runs.congr
    {agenda first second : Agenda}
    {index : Nat}
    {tokens : List Token}
    (runs : agenda.Runs index tokens first)
    (same : first.settle = second.settle) :
    agenda.Runs index tokens second := by
  obtain ⟨last, ran, reached⟩ := runs
  exact ⟨last, ran, reached.trans same⟩

/-- Where a run starts may be changed by ends of parts in front. -/
theorem Runs.of_settle
    {first second reached : Agenda}
    {index : Nat}
    {tokens : List Token}
    (same : first.settle = second.settle)
    (runs : second.Runs index tokens reached) :
    first.Runs index tokens reached := by
  obtain ⟨last, ran, settled⟩ := runs
  cases tokens with
  | nil =>
      cases ran
      exact Runs.nil (same.trans settled) index
  | cons token rest =>
      refine ⟨last, ?_, settled⟩
      simpa only [run?, advance?_congr same] using ran

/-- Two runs in a row are one run. -/
theorem Runs.trans
    {agenda middle reached : Agenda}
    {index : Nat}
    {first second : List Token}
    (firstRuns : agenda.Runs index first middle)
    (secondRuns : middle.Runs (index + first.length) second reached) :
    agenda.Runs index (first ++ second) reached := by
  obtain ⟨last, ran, same⟩ := firstRuns
  obtain ⟨final, ranOn, settled⟩ := Runs.of_settle same secondRuns
  refine ⟨final, ?_, settled⟩
  rw [run?_append, ran, Option.bind_some, ranOn]

/-- A run through tokens of two stretches passes an agenda between them. -/
theorem Runs.split
    {agenda reached : Agenda}
    {index : Nat}
    {first second : List Token}
    (runs : agenda.Runs index (first ++ second) reached) :
    ∃ middle,
      agenda.Runs index first middle ∧ middle.Runs (index + first.length) second reached := by
  obtain ⟨last, ran, same⟩ := runs
  rw [run?_append, Option.bind_eq_some_iff] at ran
  obtain ⟨middle, ranFirst, ranSecond⟩ := ran
  exact ⟨middle, ⟨middle, ranFirst, rfl⟩, last, ranSecond, same⟩

theorem Runs.unique
    {agenda first second : Agenda}
    {index : Nat}
    {tokens : List Token}
    (runs : agenda.Runs index tokens first)
    (others : agenda.Runs index tokens second) :
    first.settle = second.settle := by
  obtain ⟨last, ran, same⟩ := runs
  obtain ⟨other, ranToo, settled⟩ := others
  rw [ran] at ranToo
  cases ranToo
  exact same.symm.trans settled

/-- A run that takes a token advances by it first. -/
theorem Runs.advances
    {agenda reached : Agenda}
    {index : Nat}
    {token : Token}
    {more : List Token}
    (runs : agenda.Runs index (token :: more) reached) :
    agenda.advance? index token ≠ none := by
  obtain ⟨last, ran, _⟩ := runs
  intro noAdvance
  simp [run?, noAdvance] at ran

/-- Nothing is admitted behind the end of a document. -/
theorem Runs.not_past_end
    {agenda reached : Agenda}
    {index : Nat}
    {document more : List Token}
    {token : Token}
    (complete : agenda.Runs index document [])
    (runs : agenda.Runs index (document ++ token :: more) reached) :
    False := by
  obtain ⟨middle, runsDocument, runsOn⟩ := runs.split
  have ended : middle.settle = settle [] := runsDocument.unique complete
  exact runsOn.advances (advance?_congr ended _ token)

/-- The agenda wants a widget next and finds a panel, but too many panels are open. -/
def blocks (agenda : Agenda) (found : Option Token) : Bool :=
  match agenda.settle, found with
  | .body rule .widget begun :: rest, some token =>
      isFull (.body rule .widget begun :: rest) token
  | _, _ => false

/-- The next token does not fit, and the document is not complete before it. -/
structure Refuses
    (agenda : Agenda)
    (index : Nat)
    (left : List Token) :
    Prop where
  noAdvance : ∀ token, left.head? = some token → agenda.advance? index token = none
  notComplete : agenda.settle = [] → ¬ AtEnd left

/-- The tokens taken lead to an agenda that refuses what is left. -/
structure Stuck
    (start : Agenda)
    (index : Nat)
    (taken left : List Token)
    (agenda : Agenda) :
    Prop where
  runs : start.Runs index taken agenda
  refuses : agenda.Refuses (index + taken.length) left

/-- A run to where another one gets stuck gets stuck there too. -/
theorem Stuck.prepend
    {start middle agenda : Agenda}
    {index : Nat}
    {first second left : List Token}
    (runs : start.Runs index first middle)
    (stuck : middle.Stuck (index + first.length) second left agenda) :
    start.Stuck index (first ++ second) left agenda where
  runs := runs.trans stuck.runs
  refuses := by
    have refuses := stuck.refuses
    rwa [Nat.add_assoc, ← List.length_append] at refuses

theorem blocks_cons_of_isSimple
    {task : Task}
    (simple : task.isSimple = true)
    (rest : Agenda)
    (found : Option Token) :
    blocks (task :: rest) found = false := by
  cases task with
  | finish rule part =>
      cases simple
  | body rule item begun =>
      cases simple
  | _ =>
      rfl

/-- What an agenda wants of the next token, and what is pending behind that. -/
theorem unmet_cons_of_settle
    {agenda rest : Agenda}
    {task : Task}
    (settled : agenda.settle = task :: rest)
    (tokens : List Token)
    (index : Nat) :
    agenda.unmet tokens index =
      task.refusal tokens[index]? ++ rest.filterMap (Task.pending? tokens) := by
  unfold unmet
  rw [settled]

end Agenda

end WindowLang.Grammar
