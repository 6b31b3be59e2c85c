import WindowLang.Proofs.Agenda.Shape
import WindowLang.Proofs.Document.ErrorPosition

namespace WindowLang

/-!
# What an error says

The message of an error is told by what is unfinished behind the tokens before it:
one expectation that the next token does not meet, the layout around it if it lies
in one, and a missing end for each body that is open. Nothing that has been
finished before leaves a trace in it.
-/

open Grammar

namespace Grammar.Agenda

/-- The rule that goes on next and what it wants, where the given token is found. -/
def wanted (agenda : Agenda) (found : Option Token) : Rule × Expectation :=
  match agenda.settle with
  | .token rule kind :: _ => (rule, .token kind)
  | .number rule :: _ =>
      if found.map Token.kind = some .number then
        (rule, .unsignedInteger)
      else
        (rule, .token .number)
  | .layout _ :: _ => (.layout, .token (.keyword .layout))
  | .layoutType :: _ => (.layoutType, .layoutType)
  | .gaps :: _ => (.layoutType, .gapsOrClose)
  | .body _ .widget _ :: _ => (.widget, .widget)
  | .body _ .radioButton _ :: _ => (.radioButton, .token (.keyword .radio))
  | _ => (.gui, .endOfFile)

/-- What a failure of a rule means for the layout around it, if it lies in one. -/
def layoutChain (rule owner : Rule) : List Fragment :=
  match rule with
  | .layoutType => [.missing .layout .layoutType, .missing owner .layout]
  | .layout => [.missing owner .layout]
  | _ => []

/-- The missing end of a body whose unfinished item begins at a token. -/
def missingEnd (tokens : List Token) (body : Rule × Nat) : Fragment :=
  .unmet body.1 (.token (.keyword .close)) tokens[body.2]?

/-- What is to be said where an agenda does not go on. -/
def diagnostic
    (agenda : Agenda)
    (tokens : List Token)
    (index : Nat) :
    List Fragment :=
  let (rule, expected) := agenda.wanted tokens[index]?
  let bodies := agenda.openBodies index
  .unmet rule expected tokens[index]? ::
    layoutChain rule (container bodies) ++ bodies.map (missingEnd tokens)

theorem layoutChain_of_isOutside
    {rule : Rule}
    (outside : rule.isOutside = true)
    (owner : Rule) :
    layoutChain rule owner = [] := by
  cases rule with
  | layout | layoutType =>
      cases outside
  | _ =>
      rfl

/-- Outside of layouts only bodies that have begun are pending. -/
theorem Outer.pending
    {agenda : Agenda}
    (outer : Outer agenda)
    (tokens : List Token) :
    agenda.filterMap (Task.pending? tokens) =
      (begunBodies agenda).map (missingEnd tokens) := by
  induction agenda with
  | nil =>
      rfl
  | cons task rest inductionHypothesis =>
      cases task with
      | token rule kind =>
          exact inductionHypothesis outer.2
      | number rule =>
          exact inductionHypothesis outer.2
      | layout rule =>
          exact inductionHypothesis outer.2
      | body rule item begun =>
          have others := inductionHypothesis outer
          cases begun with
          | none =>
              exact others
          | some begun =>
              exact congrArg (missingEnd tokens (rule, begun) :: ·) others
      | layoutType | gaps | finish rule part =>
          exact outer.elim

/-- Behind the type of a layout the layout itself is pending. -/
theorem pending_afterType
    {rest : Agenda}
    (outer : Outer rest)
    (tokens : List Token) :
    (afterType rest).filterMap (Task.pending? tokens) =
      .missing (container (begunBodies rest)) .layout ::
        (begunBodies rest).map (missingEnd tokens) :=
  congrArg (_ :: ·) (outer.pending tokens)

/-- Within the type of a layout the steps in front are not pending themselves. -/
theorem pending_inType
    {front rest : Agenda}
    (steps : ∀ task ∈ front, task.isOfType = true)
    (outer : Outer rest)
    (tokens : List Token) :
    (front ++ .finish .layout .layoutType :: afterType rest).filterMap (Task.pending? tokens) =
      layoutChain .layoutType (container (begunBodies rest)) ++
        (begunBodies rest).map (missingEnd tokens) := by
  have frontPendingFree : front.filterMap (Task.pending? tokens) = [] := by
    rw [List.filterMap_eq_nil_iff]
    intro task among
    have ofType := steps task among
    cases task with
    | token rule kind =>
        rfl
    | number rule =>
        rfl
    | gaps =>
        rfl
    | _ =>
        cases ofType
  rw [List.filterMap_append, frontPendingFree, List.nil_append]
  exact congrArg (Fragment.missing .layout .layoutType :: ·) (pending_afterType outer tokens)

/-- The steps of a type hold no bodies. -/
theorem begunBodies_inType
    {front : Agenda}
    (steps : ∀ task ∈ front, task.isOfType = true)
    (rest : Agenda) :
    begunBodies (front ++ .finish .layout .layoutType :: afterType rest) = begunBodies rest := by
  have none : begunBodies front = [] := by
    rw [begunBodies, List.filterMap_eq_nil_iff]
    intro task among
    have ofType := steps task among
    cases task with
    | body rule item begun =>
        cases ofType
    | _ =>
        rfl
  rw [begunBodies_append, none]
  rfl

/-- An agenda outside of layouts says one expectation and the open bodies. -/
theorem Outer.unmet_eq
    {agenda : Agenda}
    (outer : Outer agenda)
    (tokens : List Token)
    (index : Nat) :
    agenda.unmet tokens index = agenda.diagnostic tokens index := by
  cases agenda with
  | nil =>
      rfl
  | cons task rest =>
      cases task with
      | token rule kind =>
          obtain ⟨outside, outerRest⟩ := outer
          simp only [unmet, diagnostic, settle, wanted, openBodies, Task.refusal,
            outerRest.pending, layoutChain_of_isOutside outside]
          rfl
      | number rule =>
          obtain ⟨outside, outerRest⟩ := outer
          simp only [unmet, diagnostic, settle, wanted, openBodies, Task.refusal,
            outerRest.pending]
          split
          · simp only [layoutChain_of_isOutside outside]
            rfl
          · simp only [layoutChain_of_isOutside outside]
            rfl
      | layout rule =>
          obtain ⟨rfl, outerRest⟩ := outer
          simp only [unmet, diagnostic, settle, wanted, openBodies, Task.refusal,
            outerRest.pending, layoutChain]
          rfl
      | body rule item begun =>
          have outerRest : Outer rest := outer
          cases item with
          | widget =>
              simp only [unmet, diagnostic, settle, wanted, openBodies, Task.refusal,
                outerRest.pending]
              rfl
          | radioButton =>
              simp only [unmet, diagnostic, settle, wanted, openBodies, Task.refusal,
                outerRest.pending]
              rfl
      | layoutType | gaps | finish rule part =>
          exact outer.elim

/-- What an agenda says does not depend on ends of parts in front of it. -/
theorem unmet_eq_of_settle
    {first second : Agenda}
    {tokens : List Token}
    {index : Nat}
    (same : first.settle = second.settle)
    (said : second.unmet tokens index = second.diagnostic tokens index) :
    first.unmet tokens index = first.diagnostic tokens index := by
  unfold unmet diagnostic wanted openBodies at said ⊢
  rw [same]
  exact said

/-- Behind the type of a layout its colon is wanted. -/
theorem unmet_afterType
    {rest : Agenda}
    (outer : Outer rest)
    (tokens : List Token)
    (index : Nat) :
    (afterType rest).unmet tokens index = (afterType rest).diagnostic tokens index := by
  have pending := outer.pending tokens
  simp only [unmet, diagnostic, afterType, settle, wanted, openBodies, Task.refusal,
    List.filterMap_cons, Task.pending?, pending]
  rfl

/-- Within the type of a layout the step in front is wanted. -/
theorem unmet_inType
    {task : Task}
    {front rest : Agenda}
    (ofType : task.isOfType = true)
    (steps : ∀ step ∈ front, step.isOfType = true)
    (outer : Outer rest)
    (tokens : List Token)
    (index : Nat) :
    unmet (task :: front ++ .finish .layout .layoutType :: afterType rest) tokens index =
      diagnostic (task :: front ++ .finish .layout .layoutType :: afterType rest) tokens
        index := by
  have pending := pending_inType steps outer tokens
  have bodies := begunBodies_inType (List.forall_mem_cons.2 ⟨ofType, steps⟩) rest
  rw [List.cons_append] at bodies ⊢
  cases task with
  | token rule kind =>
      cases rule with
      | layoutType =>
          simp only [unmet, diagnostic, settle, wanted, openBodies, Task.refusal, pending,
            bodies]
          rfl
      | _ =>
          cases ofType
  | number rule =>
      cases rule with
      | layoutType =>
          simp only [unmet, diagnostic, settle, wanted, openBodies, Task.refusal, pending,
            bodies]
          split
          · rfl
          · rfl
      | _ =>
          cases ofType
  | gaps =>
      simp only [unmet, diagnostic, settle, wanted, openBodies, Task.refusal, pending, bodies]
      rfl
  | _ =>
      cases ofType

/-- What an agenda says in any of its shapes. -/
theorem Shaped.unmet_eq
    {agenda : Agenda}
    (shaped : Shaped agenda)
    (tokens : List Token)
    (index : Nat) :
    agenda.unmet tokens index = agenda.diagnostic tokens index := by
  cases shaped with
  | outside outer =>
      exact outer.unmet_eq tokens index
  | @beforeType rest outer =>
      have pending := pending_afterType outer tokens
      simp only [unmet, diagnostic, settle, wanted, openBodies, Task.refusal, pending]
      rfl
  | @inType front rest steps outer =>
      cases front with
      | nil =>
          exact unmet_eq_of_settle (settle_finish _ _ _) (unmet_afterType outer tokens index)
      | cons task front =>
          obtain ⟨ofType, others⟩ := List.forall_mem_cons.1 steps
          exact unmet_inType ofType others outer tokens index
  | behindType outer =>
      exact unmet_afterType outer tokens index
  | @behindColon rest outer =>
      exact unmet_eq_of_settle (settle_finish _ _ rest) (outer.unmet_eq tokens index)

end Grammar.Agenda

/--
The message of an error other than of panels nested too deeply is what the agenda
behind the tokens before it gives: the expectation that is not met, the layout
around it, and a missing end for every open body, the innermost first, each with
the token that its unfinished item began with.
-/
theorem error_message_eq_diagnostic
    {tokens : List Token}
    {error : SyntaxError}
    (refused : parse tokens = .error error)
    (notTooDeep : ∀ position, error ≠ .tooDeep position) :
    ∃ agenda,
      Agenda.start.run? 0 (tokens.take (error.position - 1)) = some agenda ∧
        error.message =
          "; ".intercalate
            ((agenda.diagnostic tokens (error.position - 1)).map Fragment.text) ∧
        ∀ body around,
          (body :: around) <:+ agenda.openBodies (error.position - 1) →
            body.2 ≤ error.position - 1 ∧ Agenda.BeginsItem tokens body around := by
  obtain ⟨taken, left, agenda, rfl, stuck, rfl⟩ := stuck_of_error refused
  obtain ⟨last, ran, same⟩ := stuck.runs
  rw [Agenda.position_error, Nat.add_sub_cancel, List.take_left]
  refine ⟨last, ran, ?_, ?_⟩
  · have unblocked : agenda.blocks (taken ++ left)[taken.length]? ≠ true := by
      intro blocked
      exact notTooDeep _ (if_pos blocked)
    have said : last.unmet (taken ++ left) taken.length =
        last.diagnostic (taken ++ left) taken.length :=
      (Agenda.shaped_start.run ran).unmet_eq _ _
    have unmet : agenda.unmet (taken ++ left) taken.length =
        last.unmet (taken ++ left) taken.length := by
      unfold Agenda.unmet
      rw [same]
    rw [Agenda.error, if_neg unblocked, unmet, said]
    rfl
  · intro body around isOpen
    obtain ⟨before, begins⟩ := Agenda.beginsItem_of_open ran isOpen
    exact ⟨before, begins.append before left⟩

/-- The message of a grid with a single size in a panel. -/
def brokenPanelMessage : String :=
  "LayoutType: expected Comma, found CloseParen \")\"; " ++
    "Layout: LayoutType pattern not found; " ++
    "Widget: Panel: Layout pattern not found; " ++
    "GUI: expected End, found Panel \"Panel\""

theorem brokenPanel_message :
    parse brokenPanel = .error brokenPanelError ∧
      brokenPanelError.message = brokenPanelMessage ∧
      ∃ agenda,
        Agenda.start.run? 0 (brokenPanel.take 17) = some agenda ∧
          brokenPanelMessage =
            "; ".intercalate ((agenda.diagnostic brokenPanel 17).map Fragment.text) := by
  have refused : parse brokenPanel = .error brokenPanelError := by
    rfl
  have notTooDeep : ∀ position, brokenPanelError ≠ .tooDeep position := by
    intro position same
    cases same
  have reads : brokenPanelError.message = brokenPanelMessage := by
    decide +kernel
  obtain ⟨agenda, ran, message, _⟩ := error_message_eq_diagnostic refused notTooDeep
  exact ⟨refused, reads, agenda, ran, reads.symm.trans message⟩

end WindowLang
