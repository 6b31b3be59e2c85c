import WindowLang.Proofs.Production.Terminals

namespace WindowLang.Grammar

/-!
# Parts of a document

String literals, layouts, and the widgets that hold no others, each with the
tasks that its production does and the form that it takes.
-/

variable {α β : Type}
variable {tokens : List Token} {depth : Nat}

theorem sequence_tokenForm_iff
    {kind : Kind}
    {next : Token → List Token → β → Prop}
    {taken : List Token}
    {value : β} :
    Sequence (TokenForm kind) next taken value ↔
      ∃ token rest, taken = token :: rest ∧ token.kind = kind ∧ next token rest value := by
  constructor
  · rintro ⟨front, back, token, rfl, ⟨rfl, fits⟩, derives⟩
    exact ⟨token, back, rfl, fits, derives⟩
  · rintro ⟨token, rest, rfl, fits, derives⟩
    exact ⟨[token], rest, token, rfl, ⟨rfl, fits⟩, derives⟩

theorem sequence_numberForm_iff
    {next : UInt32 → List Token → β → Prop}
    {taken : List Token}
    {value : β} :
    Sequence NumberForm next taken value ↔
      ∃ token number rest,
        taken = token :: rest ∧ Writes token number ∧ next number rest value := by
  constructor
  · rintro ⟨front, back, number, rfl, ⟨token, rfl, writes⟩, derives⟩
    exact ⟨token, number, back, rfl, writes, derives⟩
  · rintro ⟨token, number, rest, rfl, writes, derives⟩
    exact ⟨[token], rest, number, rfl, ⟨token, rfl, writes⟩, derives⟩

/-- The gaps of a grid with its closing parenthesis. -/
inductive GapsForm : List Token → Option UInt32 × Option UInt32 → Prop where
  | absent
      {closing : Token}
      (closes : closing.kind = .mark .closeParen) :
      GapsForm [closing] (none, none)
  | present
      {comma horizontalToken comma₂ verticalToken closing : Token}
      {horizontal vertical : UInt32}
      (separates : comma.kind = .mark .comma)
      (writesHorizontal : Writes horizontalToken horizontal)
      (separates₂ : comma₂.kind = .mark .comma)
      (writesVertical : Writes verticalToken vertical)
      (closes : closing.kind = .mark .closeParen) :
      GapsForm [comma, horizontalToken, comma₂, verticalToken, closing]
        (some horizontal, some vertical)

/-- A layout behind its keyword. -/
def layoutBehindKeyword : Production Layout := do
  let arrangement ← Production.inside .layout .layoutType layoutType
  let _ ← mark .layout .colon
  return arrangement

/-- The gaps of a grid behind the first comma. -/
def gapsBehindComma : Production (Option UInt32 × Option UInt32) := do
  let horizontal ← number .layoutType
  let _ ← mark .layoutType .comma
  let vertical ← number .layoutType
  let _ ← mark .layoutType .closeParen
  return (some horizontal, some vertical)

/-- A part and a semicolon, from which a value is built. -/
def line (rule : Rule) (build : β → α) (part : Production β) : Production α := do
  let item ← part
  let _ ← mark rule .semicolon
  return build item

/-- The form of a part with a semicolon behind it. -/
def LineForm
    (form : List Token → β → Prop)
    (build : β → α)
    (taken : List Token)
    (value : α) :
    Prop :=
  ∃ front semicolon item,
    taken = front ++ [semicolon] ∧ form front item ∧
      semicolon.kind = .mark .semicolon ∧ value = build item

theorem inside_eq
    {rule part : Rule}
    {first second : Production α}
    {state other : State}
    (same : first state = second other) :
    Production.inside rule part first state = Production.inside rule part second other := by
  unfold Production.inside
  rw [same]

namespace Performs

theorem quoted (rule : Rule) :
    Performs tokens depth (literalTasks rule) QuotedForm (Grammar.quoted rule) := by
  have performs : Performs tokens depth (literalTasks rule) _ (Grammar.quoted rule) :=
    bind (mark rule .quotation) (fun _ =>
      bind (expect rule .string) (fun text =>
        bind (mark rule .quotation) (fun _ => succeed text.lexeme) rfl) rfl) rfl
  refine performs.congr fun taken value => ?_
  simp only [sequence_tokenForm_iff]
  constructor
  · rintro ⟨opening, _, rfl, opens, text, _, rfl, isText, closing, _, rfl, closes, rfl, rfl⟩
    exact .literal opens isText closes
  · rintro ⟨opens, isText, closes⟩
    exact ⟨_, _, rfl, opens, _, _, rfl, isText, _, _, rfl, closes, rfl, rfl⟩

theorem gapsBehindComma
    {comma : Token}
    (separates : comma.kind = .mark .comma) :
    Performs tokens depth gapTasks (fun later value => GapsForm (comma :: later) value)
      Grammar.gapsBehindComma := by
  have performs : Performs tokens depth gapTasks _ Grammar.gapsBehindComma :=
    bind (number .layoutType) (fun horizontal =>
      bind (mark .layoutType .comma) (fun _ =>
        bind (number .layoutType) (fun vertical =>
          bind (mark .layoutType .closeParen) (fun _ =>
            succeed (some horizontal, some vertical)) rfl) rfl) rfl) rfl
  refine performs.congr fun taken value => ?_
  simp only [sequence_tokenForm_iff, sequence_numberForm_iff]
  constructor
  · rintro ⟨_, _, _, rfl, writesHorizontal, _, _, rfl, separates₂, _, _, _, rfl,
      writesVertical, _, _, rfl, closes, rfl, rfl⟩
    exact .present separates writesHorizontal separates₂ writesVertical closes
  · intro derives
    cases derives with
    | absent closes =>
        rw [separates] at closes
        cases closes
    | present separates writesHorizontal separates₂ writesVertical closes =>
        exact ⟨_, _, _, rfl, writesHorizontal, _, _, rfl, separates₂, _, _, _, rfl,
          writesVertical, _, _, rfl, closes, rfl, rfl⟩

theorem gaps : Performs tokens depth [.gaps] GapsForm Grammar.gaps where
  outcome {state} within := by
    unfold Grammar.gaps
    rcases state.next_or_other (.mark .closeParen) with
      ⟨token, more, next, closes⟩ | notClosing
    · rw [choice_of_kind next closes]
      have advances (rest : Agenda) :
          Agenda.advance? (.gaps :: rest) state.cursor.consumed token = some rest := by
        simp [Agenda.advance?, Agenda.settle, closes]
      refine (Outcome.accepted next (fun rest _ => advances rest)
        (succeed (none, none)) within).mono ?_
      rintro taken value ⟨later, rfl, rfl, rfl⟩
      exact .absent closes
    · rw [choice_of_ne notClosing]
      rcases state.next_or_other (.mark .comma) with
        ⟨token, more, next, separates⟩ | notComma
      · rw [choice_of_kind next separates]
        have advances (rest : Agenda) :
            Agenda.advance? (.gaps :: rest) state.cursor.consumed token =
              some (gapTasks ++ rest) := by
          simp [Agenda.advance?, Agenda.settle, separates]
        refine (Outcome.accepted next (fun rest _ => advances rest)
          (gapsBehindComma separates) within).mono ?_
        rintro taken value ⟨later, rfl, derives⟩
        exact derives
      · rw [choice_of_ne notComma]
        refine Outcome.mismatch rfl rfl ?_ within
        intro token found rest
        simp [Agenda.advance?, Agenda.settle, notClosing token found, notComma token found]
  complete {state taken left value} derives split := by
    unfold Grammar.gaps
    cases derives with
    | @absent closing closes =>
        rw [choice_of_kind split closes]
        exact complete_of_accepted tokens depth (succeed (none, none)) split ⟨rfl, rfl⟩
    | @present comma horizontalToken comma₂ verticalToken closing horizontal vertical
        separates writesHorizontal separates₂ writesVertical closes =>
        have notClosing :
            ∀ token, state.cursor.rest.head? = some token →
              token.kind ≠ .mark .closeParen := by
          intro token found
          rw [split] at found
          cases found
          simp [separates]
        rw [choice_of_ne notClosing, choice_of_kind split separates]
        exact complete_of_accepted tokens depth (gapsBehindComma separates) split
          (.present separates writesHorizontal separates₂ writesVertical closes)

theorem grid
    {word : Token}
    (isGrid : word.kind = .keyword .grid) :
    Performs tokens depth
      [
        .token .layoutType (.mark .openParen),
        .number .layoutType,
        .token .layoutType (.mark .comma),
        .number .layoutType,
        .gaps
      ]
      (fun later value => LayoutTypeForm (word :: later) value)
      Grammar.grid := by
  have performs :
      Performs tokens depth
        [
          .token .layoutType (.mark .openParen),
          .number .layoutType,
          .token .layoutType (.mark .comma),
          .number .layoutType,
          .gaps
        ]
        _ Grammar.grid :=
    bind (mark .layoutType .openParen) (fun _ =>
      bind (number .layoutType) (fun rows =>
        bind (mark .layoutType .comma) (fun _ =>
          bind (number .layoutType) (fun columns =>
            bind gaps (fun pair => succeed (Layout.grid rows columns pair.1 pair.2))
              rfl) rfl) rfl) rfl) rfl
  refine performs.congr fun taken value => ?_
  simp only [sequence_tokenForm_iff, sequence_numberForm_iff]
  constructor
  · rintro ⟨_, _, rfl, opens, _, _, _, rfl, writesRows, _, _, rfl, separates, _, _, _, rfl,
      writesColumns, _, _, pair, rfl, gaps, rfl, rfl⟩
    cases gaps with
    | absent closes =>
        exact .grid isGrid opens writesRows separates writesColumns closes
    | present separates₂ writesHorizontal separates₃ writesVertical closes =>
        exact .gridWithGaps isGrid opens writesRows separates writesColumns separates₂
          writesHorizontal separates₃ writesVertical closes
  · intro derives
    cases derives with
    | flow isFlow =>
        rw [isGrid] at isFlow
        cases isFlow
    | grid _ opens writesRows separates writesColumns closes =>
        exact ⟨_, _, rfl, opens, _, _, _, rfl, writesRows, _, _, rfl, separates, _, _, _, rfl,
          writesColumns, [_], [], (none, none), rfl, .absent closes, rfl, rfl⟩
    | gridWithGaps _ opens writesRows separates writesColumns separates₂ writesHorizontal
        separates₃ writesVertical closes =>
        exact ⟨_, _, rfl, opens, _, _, _, rfl, writesRows, _, _, rfl, separates, _, _, _, rfl,
          writesColumns, [_, _, _, _, _], [], (some _, some _), rfl,
          .present separates₂ writesHorizontal separates₃ writesVertical closes, rfl, rfl⟩

/-- Behind the keyword of a flow nothing more belongs to the type of a layout. -/
theorem layoutType_of_flow
    {state : State}
    {word : Token}
    {more : List Token}
    (next : state.cursor.rest = word :: more)
    (isFlow : word.kind = .keyword .flow) :
    Grammar.layoutType state = (pure Layout.flow : Production Layout) state.advance :=
  choice_of_kind next isFlow

/-- Behind the keyword of a grid the grid follows. -/
theorem layoutType_of_grid
    {state : State}
    {word : Token}
    {more : List Token}
    (next : state.cursor.rest = word :: more)
    (isGrid : word.kind = .keyword .grid) :
    Grammar.layoutType state = Grammar.grid state.advance := by
  have notFlow :
      ∀ token, state.cursor.rest.head? = some token → token.kind ≠ .keyword .flow := by
    intro token found
    rw [next] at found
    cases found
    simp [isGrid]
  exact (choice_of_ne notFlow).trans (choice_of_kind next isGrid)

/-- A grid is recognized behind its keyword. -/
theorem complete_layoutType_of_grid
    (tokens : List Token)
    (depth : Nat)
    {state : State}
    {word : Token}
    {later left : List Token}
    {value : Layout}
    (next : state.cursor.rest = word :: (later ++ left))
    (isGrid : word.kind = .keyword .grid)
    (form : LayoutTypeForm (word :: later) value) :
    ∃ reached,
      Production.inside .layout .layoutType Grammar.layoutType state = (some value, reached) ∧
        state.Takes (word :: later) reached := by
  rw [inside_eq (layoutType_of_grid next isGrid)]
  exact complete_of_accepted tokens depth ((grid isGrid).inside .layout .layoutType) next form

theorem layoutType :
    Performs tokens depth [.layoutType] LayoutTypeForm
      (Production.inside .layout .layoutType Grammar.layoutType) where
  outcome {state} within := by
    rcases state.next_or_other (.keyword .flow) with ⟨token, more, next, isFlow⟩ | notFlow
    · have advances (rest : Agenda) :
          Agenda.advance? (.layoutType :: rest) state.cursor.consumed token = some rest := by
        simp [Agenda.advance?, Agenda.settle, isFlow]
      rw [inside_eq (layoutType_of_flow next isFlow)]
      refine (Outcome.accepted next (fun rest _ => advances rest)
        (succeed Layout.flow) within).mono ?_
      rintro taken value ⟨later, rfl, rfl, rfl⟩
      exact .flow isFlow
    · rcases state.next_or_other (.keyword .grid) with ⟨token, more, next, isGrid⟩ | notGrid
      · have advances (rest : Agenda) :
            Agenda.advance? (.layoutType :: rest) state.cursor.consumed token =
              some (gridTasks ++ rest) := by
          simp [Agenda.advance?, Agenda.settle, isGrid]
        rw [inside_eq (layoutType_of_grid next isGrid)]
        refine (Outcome.accepted next (fun rest _ => advances rest)
          ((grid isGrid).inside .layout .layoutType) within).mono ?_
        rintro taken value ⟨later, rfl, derives⟩
        exact derives
      · have answered :
            Grammar.layoutType state =
              Production.mismatch .layoutType .layoutType state :=
          (choice_of_ne notFlow).trans (choice_of_ne notGrid)
        rw [inside_eq answered]
        refine Outcome.refuse rfl rfl ?_ rfl ?_ within
        · simp [Diagnosis.missing, Diagnosis.unmet, Task.refusal]
        · intro token found rest
          simp [Agenda.advance?, Agenda.settle, notFlow token found, notGrid token found]
  complete {state taken left value} derives split := by
    cases derives with
    | flow isFlow =>
        have takes := State.takes_advance split
        rw [inside_eq (layoutType_of_flow split isFlow)]
        exact ⟨state.advance, rfl, takes⟩
    | grid isGrid opens writesRows separates writesColumns closes =>
        exact complete_layoutType_of_grid tokens depth split isGrid
          (.grid isGrid opens writesRows separates writesColumns closes)
    | gridWithGaps isGrid opens writesRows separates writesColumns separates₂
        writesHorizontal separates₃ writesVertical closes =>
        exact complete_layoutType_of_grid tokens depth split isGrid
          (.gridWithGaps isGrid opens writesRows separates writesColumns separates₂
            writesHorizontal separates₃ writesVertical closes)

theorem layoutBehindKeyword
    {word : Token}
    (isLayout : word.kind = .keyword .layout) :
    Performs tokens depth [.layoutType, .token .layout (.mark .colon)]
      (fun later value => LayoutForm (word :: later) value)
      Grammar.layoutBehindKeyword := by
  have performs :
      Performs tokens depth [.layoutType, .token .layout (.mark .colon)] _
        Grammar.layoutBehindKeyword :=
    bind layoutType (fun arrangement =>
      bind (mark .layout .colon) (fun _ => succeed arrangement) rfl) rfl
  refine performs.congr fun taken value => ?_
  constructor
  · rintro ⟨type, _, layout, rfl, derives, _, _, colon, rfl, ⟨rfl, ends⟩, rfl, rfl⟩
    exact .layout isLayout derives ends
  · intro derives
    cases derives with
    | @layout _ colon type _ _ derives ends =>
        exact ⟨type, [colon], value, rfl, derives, [colon], [], colon, rfl, ⟨rfl, ends⟩,
          rfl, rfl⟩

theorem layout (rule : Rule) :
    Performs tokens depth [.layout rule] LayoutForm
      (Production.inside rule .layout Grammar.layout) where
  outcome {state} within := by
    rcases state.next_or_other (.keyword .layout) with
      ⟨token, more, next, isLayout⟩ | notLayout
    · have answered : Grammar.layout state = Grammar.layoutBehindKeyword state.advance :=
        Production.bind_apply_of_some (expect_of_kind .layout next isLayout)
      have advances (rest : Agenda) :
          Agenda.advance? (.layout rule :: rest) state.cursor.consumed token =
            some (layoutTasks rule ++ rest) := by
        simp [Agenda.advance?, Agenda.settle, isLayout]
      rw [inside_eq answered]
      refine (Outcome.accepted next (fun rest _ => advances rest)
        ((layoutBehindKeyword isLayout).inside rule .layout) within).mono ?_
      rintro taken value ⟨later, rfl, derives⟩
      exact derives
    · have answered :
          Grammar.layout state =
            Production.mismatch .layout (.token (.keyword .layout)) state :=
        Production.bind_apply_of_none (expect_of_ne .layout notLayout)
      rw [inside_eq answered]
      refine Outcome.refuse rfl rfl ?_ rfl ?_ within
      · simp [Diagnosis.missing, Diagnosis.unmet, Task.refusal]
      · intro token found rest
        simp [Agenda.advance?, Agenda.settle, notLayout token found]
  complete {state taken left value} derives split := by
    cases derives with
    | @layout word colon type _ isLayout derives ends =>
        have answered : Grammar.layout state = Grammar.layoutBehindKeyword state.advance :=
          Production.bind_apply_of_some (expect_of_kind .layout split isLayout)
        rw [inside_eq answered]
        exact complete_of_accepted tokens depth
          ((layoutBehindKeyword isLayout).inside rule .layout) split
          (.layout isLayout derives ends)

/-- A part and the semicolon behind it do the tasks of both. -/
theorem line
    {tasks : Agenda}
    {form : List Token → β → Prop}
    {part : Production β}
    (rule : Rule)
    (build : β → α)
    (performs : Performs tokens depth tasks form part) :
    Performs tokens depth (tasks ++ [.token rule (.mark .semicolon)]) (LineForm form build)
      (Grammar.line rule build part) := by
  have composed :
      Performs tokens depth (tasks ++ [.token rule (.mark .semicolon)]) _
        (Grammar.line rule build part) :=
    bind (by simpa [Agenda.openPanels] using performs) (fun item =>
      bind (mark rule .semicolon) (fun _ => succeed (build item)) rfl) rfl
  refine composed.congr fun taken value => ?_
  constructor
  · rintro ⟨front, _, item, rfl, derives, _, _, semicolon, rfl, ⟨rfl, ends⟩, rfl, rfl⟩
    exact ⟨front, semicolon, item, rfl, derives, ends, rfl⟩
  · rintro ⟨front, semicolon, item, rfl, derives, ends, rfl⟩
    exact ⟨front, [semicolon], item, rfl, derives, [semicolon], [], semicolon, rfl,
      ⟨rfl, ends⟩, rfl, rfl⟩

end Performs

end WindowLang.Grammar
