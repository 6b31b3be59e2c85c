import WindowLang.Proofs.Production.Bodies

namespace WindowLang.Grammar

/-!
# The choice of a widget

The first token of a widget is its keyword, and no two alternatives have the same
one. So the choice among them comes down to a table from keywords to what follows
them, and a token that is in no row of it makes the choice fail where it began.
-/

/-- The alternatives of a widget by their keywords, in the order in which they are tried. -/
def alternatives (panel : Production Widget) : List (Keyword × Production Widget) :=
  [
    (.button, button),
    (.group, group),
    (.label, label),
    (.panel, panel),
    (.textfield, textField)
  ]

/-- The choice among some alternatives. -/
def chooseOf (rows : List (Keyword × Production Widget)) : Production (Option Widget) :=
  Production.firstOf (rows.map fun row => alternative row.1 row.2)

theorem alternative_of_ne
    {word : Keyword}
    {production : Production Widget}
    {state : State}
    (other :
      ∀ token, state.cursor.rest.head? = some token → token.kind ≠ .keyword word) :
    alternative word production state = (some none, state) := by
  unfold alternative
  rw [choice_of_ne other]
  rfl

/-- An alternative that declines leaves the choice to the others. -/
theorem chooseOf_cons_of_ne
    {row : Keyword × Production Widget}
    {rows : List (Keyword × Production Widget)}
    {state : State}
    (other :
      ∀ token, state.cursor.rest.head? = some token → token.kind ≠ .keyword row.1) :
    chooseOf (row :: rows) state = chooseOf rows state := by
  unfold chooseOf
  simp only [List.map_cons, Production.firstOf, Production.andThen, alternative_of_ne other]

/-- Where no keyword of a row comes next, nothing is chosen. -/
theorem chooseOf_of_ne
    {rows : List (Keyword × Production Widget)}
    {state : State}
    (other :
      ∀ row ∈ rows,
        ∀ token, state.cursor.rest.head? = some token → token.kind ≠ .keyword row.1) :
    chooseOf rows state = (some none, state) := by
  induction rows with
  | nil =>
      rfl
  | cons row rows inductionHypothesis =>
      rw [chooseOf_cons_of_ne (other row List.mem_cons_self)]
      exact inductionHypothesis fun later member =>
        other later (List.mem_cons_of_mem row member)

/-- Where the keyword of a row comes next, that row is chosen. -/
theorem chooseOf_of_lookup
    {rows : List (Keyword × Production Widget)}
    {word : Keyword}
    {production : Production Widget}
    {state : State}
    {token : Token}
    {more : List Token}
    (found : rows.lookup word = some production)
    (next : state.cursor.rest = token :: more)
    (isWord : token.kind = .keyword word) :
    chooseOf rows state = (some <$> production) state.advance := by
  induction rows with
  | nil =>
      cases found
  | cons row rows inductionHypothesis =>
      obtain ⟨key, behind⟩ := row
      by_cases same : word = key
      · subst same
        have isBehind : behind = production := by
          simpa using found
        subst isBehind
        have chosen : alternative word behind state = (some <$> behind) state.advance :=
          choice_of_kind next isWord
        unfold chooseOf
        cases answered : behind state.advance with
        | mk answer reached =>
            cases answer with
            | none =>
                have failed : (some <$> behind) state.advance = (none, reached) :=
                  Production.bind_apply_of_none answered
                simp only [List.map_cons, Production.firstOf, Production.andThen, chosen, failed]
            | some value =>
                have succeeded :
                    (some <$> behind) state.advance = (some (some value), reached) :=
                  Production.bind_apply_of_some answered
                simp only [List.map_cons, Production.firstOf, Production.andThen, chosen,
                  succeeded, Production.succeed]
      · have other :
            ∀ token, state.cursor.rest.head? = some token → token.kind ≠ .keyword key := by
          intro found isNext
          rw [next] at isNext
          cases isNext
          simpa [isWord] using same
        rw [chooseOf_cons_of_ne other]
        have foundBehind : rows.lookup word = some production := by
          rwa [List.lookup_cons, beq_false_of_ne same] at found
        exact inductionHypothesis foundBehind

/-- A widget, without the way back where it fails. -/
def chosenWidget (panel : Production Widget) : Production Widget := do
  match ← chooseOf (alternatives panel) with
  | some widget => return widget
  | none => Production.mismatch .widget .widget

theorem widgetWith_eq (panel : Production Widget) :
    widgetWith panel = Production.rewinding (chosenWidget panel) :=
  rfl

theorem widgetWith_of_some
    {panel production : Production Widget}
    {word : Keyword}
    {state reached : State}
    {token : Token}
    {more : List Token}
    {widget : Widget}
    (found : (alternatives panel).lookup word = some production)
    (next : state.cursor.rest = token :: more)
    (isWord : token.kind = .keyword word)
    (succeeded : production state.advance = (some widget, reached)) :
    widgetWith panel state = (some widget, reached) := by
  have mapped : (some <$> production) state.advance = (some (some widget), reached) :=
    Production.bind_apply_of_some succeeded
  have chosen : chosenWidget panel state = (some widget, reached) :=
    Production.bind_apply_of_some ((chooseOf_of_lookup found next isWord).trans mapped)
  simp only [widgetWith_eq, Production.rewinding, chosen]

theorem widgetWith_of_none
    {panel production : Production Widget}
    {word : Keyword}
    {state reached : State}
    {token : Token}
    {more : List Token}
    (found : (alternatives panel).lookup word = some production)
    (next : state.cursor.rest = token :: more)
    (isWord : token.kind = .keyword word)
    (fails : production state.advance = (none, reached)) :
    widgetWith panel state = (none, { reached with cursor := state.cursor }) := by
  have mapped : (some <$> production) state.advance = (none, reached) :=
    Production.bind_apply_of_none fails
  have chosen : chosenWidget panel state = (none, reached) :=
    Production.bind_apply_of_none ((chooseOf_of_lookup found next isWord).trans mapped)
  simp only [widgetWith_eq, Production.rewinding, chosen]

/-- The next token is the keyword of an alternative, or of none. -/
theorem State.next_alternative (panel : Production Widget) (state : State) :
    (∃ token more word production,
      state.cursor.rest = token :: more ∧ token.kind = .keyword word ∧
        (alternatives panel).lookup word = some production) ∨
      ∀ token word,
        state.cursor.rest.head? = some token →
          token.kind = .keyword word → (alternatives panel).lookup word = none := by
  by_cases begins :
      ∃ token more word production,
        state.cursor.rest = token :: more ∧ token.kind = .keyword word ∧
          (alternatives panel).lookup word = some production
  · exact .inl begins
  · right
    intro token word found isWord
    obtain ⟨more, next⟩ := List.head?_eq_some_iff.1 found
    cases row : (alternatives panel).lookup word with
    | none =>
        rfl
    | some production =>
        exact absurd ⟨token, more, word, production, next, isWord, row⟩ begins

/-- A widget declines at a token that no alternative begins with. -/
theorem widgetWith_of_ne
    {panel : Production Widget}
    {state : State}
    (other :
      ∀ token word,
        state.cursor.rest.head? = some token →
          token.kind = .keyword word → (alternatives panel).lookup word = none) :
    widgetWith panel state = Production.mismatch .widget .widget state := by
  have noRow :
      ∀ row ∈ alternatives panel,
        ∀ token, state.cursor.rest.head? = some token → token.kind ≠ .keyword row.1 := by
    intro row member token found isWord
    have absent := List.lookup_eq_none_iff.1 (other token row.1 found isWord) row member
    simp at absent
  have declined :
      chosenWidget panel state = Production.mismatch .widget .widget state :=
    Production.bind_apply_of_some (chooseOf_of_ne noRow)
  simp only [widgetWith_eq, Production.rewinding, declined, Production.mismatch]

/-- A widget declines at a closing keyword. -/
theorem widgetWith_of_close
    {panel : Production Widget}
    {state : State}
    {close : Token}
    {more : List Token}
    (next : state.cursor.rest = close :: more)
    (closes : close.kind = .keyword .close) :
    widgetWith panel state = Production.mismatch .widget .widget state := by
  refine widgetWith_of_ne fun token word found isWord => ?_
  rw [next] at found
  cases found
  rw [closes] at isWord
  cases isWord
  rfl

end WindowLang.Grammar
