import WindowLang.Proofs.Agenda.Run

namespace WindowLang.Grammar

/-!
# Open bodies

A body is open from where its first item may begin up to its closing keyword. An
agenda keeps, for every body in it that has begun, where the item in progress
began. Those places are true: the tokens before such a place lead to an agenda in
which that body comes next, with the same bodies open around it.
-/

/-- The body, if the task is one that has begun, with the first token of its unfinished item. -/
def Task.begun? : Task → Option (Rule × Nat)
  | .body rule _ (some begun) => some (rule, begun)
  | _ => none

namespace Agenda

/-- The bodies with an unfinished item, the innermost first, each with where that item began. -/
def begunBodies (agenda : Agenda) : List (Rule × Nat) :=
  agenda.filterMap Task.begun?

/-- The open bodies, the innermost first; the next item of a body in front begins at the index. -/
def openBodies (agenda : Agenda) (index : Nat) : List (Rule × Nat) :=
  match agenda.settle with
  | .body rule _ _ :: rest => (rule, index) :: begunBodies rest
  | settled => begunBodies settled

/-- Before the item begins, its body comes next and the given bodies are open around it. -/
def BeginsItem
    (tokens : List Token)
    (body : Rule × Nat)
    (around : List (Rule × Nat)) :
    Prop :=
  ∃ earlier item begun rest,
    start.run? 0 (tokens.take body.2) = some earlier ∧
      earlier.settle = .body body.1 item begun :: rest ∧ begunBodies rest = around

@[simp] theorem begunBodies_append (first second : Agenda) :
    begunBodies (first ++ second) = begunBodies first ++ begunBodies second :=
  List.filterMap_append

/-- The ends of parts in front hold no bodies. -/
@[simp] theorem begunBodies_settle (agenda : Agenda) :
    begunBodies agenda.settle = begunBodies agenda := by
  induction agenda with
  | nil =>
      rfl
  | cons task rest inductionHypothesis =>
      cases task with
      | finish rule part =>
          exact inductionHypothesis
      | _ =>
          rfl

/-- The bodies behind a task are among those of the whole agenda. -/
theorem begunBodies_suffix_of_settle
    {agenda rest : Agenda}
    {task : Task}
    (settled : agenda.settle = task :: rest) :
    begunBodies rest <:+ begunBodies agenda := by
  have split : begunBodies agenda = begunBodies [task] ++ begunBodies rest := by
    rw [← begunBodies_settle, settled, ← begunBodies_append, List.singleton_append]
  rw [split]
  exact List.suffix_append _ _

/-- No body within an item has begun before the item's second token. -/
theorem begunBodies_tasks
    {item : Item}
    {token : Token}
    {tasks : Agenda}
    (begins : item.tasks? token = some tasks) :
    begunBodies tasks = [] := by
  obtain ⟨word, _, isItem⟩ := item.begins_of_tasks? begins
  cases isItem with
  | button | label | textField | group | panel | radioButton =>
      rfl

/--
A token leaves the bodies that have begun as they are, closes the innermost of
them, or begins an item of the body in front.
-/
theorem begunBodies_advance
    {agenda next : Agenda}
    {index : Nat}
    {token : Token}
    (advances : agenda.advance? index token = some next) :
    begunBodies next <:+ begunBodies agenda ∨
      ∃ rule item begun rest,
        agenda.settle = .body rule item begun :: rest ∧
          begunBodies next = (rule, index) :: begunBodies rest := by
  obtain ⟨task, rest, settled, isStep⟩ := advance?_eq_some_iff.1 advances
  have behind : begunBodies rest <:+ begunBodies agenda :=
    begunBodies_suffix_of_settle settled
  cases isStep with
  | token | number | flow | noGaps | close =>
      exact .inl behind
  | layout | grid | gaps =>
      rw [begunBodies_append]
      exact .inl behind
  | @item rule item begun tasks goesOn notFull begins =>
      refine .inr ⟨rule, item, begun, rest, settled, ?_⟩
      rw [begunBodies_append, begunBodies_tasks begins]
      rfl

/-- Later tokens change nothing about where an item began. -/
theorem BeginsItem.append
    {tokens : List Token}
    {body : Rule × Nat}
    {around : List (Rule × Nat)}
    (begins : BeginsItem tokens body around)
    (before : body.2 ≤ tokens.length)
    (more : List Token) :
    BeginsItem (tokens ++ more) body around := by
  obtain ⟨earlier, item, begun, rest, ran, settled, same⟩ := begins
  refine ⟨earlier, item, begun, rest, ?_, settled, same⟩
  rw [List.take_append_of_le_length before]
  exact ran

/-- The places kept in the agenda behind some tokens are where items began. -/
def KeepsItems (tokens : List Token) (agenda : Agenda) : Prop :=
  ∀ body around, (body :: around) <:+ begunBodies agenda →
    body.2 < tokens.length ∧ BeginsItem tokens body around

theorem KeepsItems.advance
    {tokens : List Token}
    {agenda next : Agenda}
    {token : Token}
    (keeps : KeepsItems tokens agenda)
    (ran : start.run? 0 tokens = some agenda)
    (advances : agenda.advance? tokens.length token = some next) :
    KeepsItems (tokens ++ [token]) next := by
  have older
      {body : Rule × Nat}
      {around : List (Rule × Nat)}
      (kept : (body :: around) <:+ begunBodies agenda) :
      body.2 < (tokens ++ [token]).length ∧ BeginsItem (tokens ++ [token]) body around := by
    obtain ⟨before, begins⟩ := keeps body around kept
    refine ⟨?_, begins.append (Nat.le_of_lt before) [token]⟩
    rw [List.length_append]
    exact Nat.lt_add_right _ before
  intro body around kept
  rcases begunBodies_advance advances with fewer | ⟨rule, item, begun, rest, settled, same⟩
  · exact older (kept.trans fewer)
  · rw [same] at kept
    rcases List.suffix_cons_iff.1 kept with isNewest | isOlder
    · -- The item begins with this token.
      obtain ⟨rfl, rfl⟩ := List.cons.inj isNewest
      refine ⟨by simp, agenda, item, begun, rest, ?_, settled, rfl⟩
      simpa using ran
    · exact older (isOlder.trans (begunBodies_suffix_of_settle settled))

theorem KeepsItems.run
    {tokens more : List Token}
    {agenda reached : Agenda}
    (keeps : KeepsItems tokens agenda)
    (ran : start.run? 0 tokens = some agenda)
    (ranOn : agenda.run? tokens.length more = some reached) :
    KeepsItems (tokens ++ more) reached := by
  induction more generalizing tokens agenda with
  | nil =>
      cases ranOn
      rwa [List.append_nil]
  | cons token more inductionHypothesis =>
      unfold run? at ranOn
      split at ranOn
      · cases ranOn
      · rename_i next advances
        have ranNext : start.run? 0 (tokens ++ [token]) = some next := by
          rw [run?_append, ran, Option.bind_some, Nat.zero_add]
          simp only [run?, advances]
        have length : (tokens ++ [token]).length = tokens.length + 1 :=
          List.length_append
        rw [← length] at ranOn
        have keepsOn := inductionHypothesis (keeps.advance ran advances) ranNext ranOn
        rwa [List.append_assoc] at keepsOn

/-- The places kept in an agenda that tokens lead to from the start are true. -/
theorem keepsItems_of_run
    {tokens : List Token}
    {agenda : Agenda}
    (ran : start.run? 0 tokens = some agenda) :
    KeepsItems tokens agenda := by
  have keepsNone : KeepsItems [] start := by
    intro body around kept
    exact absurd (List.suffix_nil.1 kept) (List.cons_ne_nil body around)
  exact keepsNone.run rfl ran

/-- Every open body is one whose item began, or may begin, where the agenda says. -/
theorem beginsItem_of_open
    {tokens : List Token}
    {agenda : Agenda}
    {body : Rule × Nat}
    {around : List (Rule × Nat)}
    (ran : start.run? 0 tokens = some agenda)
    (isOpen : (body :: around) <:+ agenda.openBodies tokens.length) :
    body.2 ≤ tokens.length ∧ BeginsItem tokens body around := by
  have keeps : KeepsItems tokens agenda :=
    keepsItems_of_run ran
  have begun
      (kept : (body :: around) <:+ begunBodies agenda) :
      body.2 ≤ tokens.length ∧ BeginsItem tokens body around := by
    obtain ⟨before, begins⟩ := keeps body around kept
    exact ⟨Nat.le_of_lt before, begins⟩
  unfold openBodies at isOpen
  split at isOpen
  · rename_i rule item begunAt rest settled
    rcases List.suffix_cons_iff.1 isOpen with isNewest | isOlder
    · obtain ⟨rfl, rfl⟩ := List.cons.inj isNewest
      refine ⟨Nat.le_refl _, agenda, item, begunAt, rest, ?_, settled, rfl⟩
      simpa using ran
    · exact begun (isOlder.trans (begunBodies_suffix_of_settle settled))
  · rw [begunBodies_settle] at isOpen
    exact begun isOpen

end Agenda

end WindowLang.Grammar
