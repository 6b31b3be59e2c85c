import WindowLang.Grammar.Watched

namespace WindowLang.Grammar

/-!
# Productions beside a watcher

A watched production gives what the unwatched one gives, at the same place and with the
same diagnosis, and has noted the wanted ones of its events. That holds for the
productions that note an event, and each way to put productions together keeps it; so it
holds for a whole document.
-/

variable {α β : Type} {wants : Event → Bool}

/-- The state in which only the wanted events have been noted. -/
def State.watched (wants : Event → Bool) (state : State) : State :=
  { state with events := state.events.filter wants }

/-- A watcher does not move the cursor. -/
theorem State.cursor_watched (wants : Event → Bool) (state : State) :
    (state.watched wants).cursor = state.cursor :=
  rfl

/-- The second production is the first one beside a watcher. -/
def Watches
    (wants : Event → Bool)
    (production watched : Production α) :
    Prop :=
  ∀ state : State,
    watched (state.watched wants) =
      ((production state).1, (production state).2.watched wants)

namespace Watches

variable {production watched : Production α}

/-- A watched production succeeds as the unwatched one does. -/
theorem apply_of_some
    (watches : Watches wants production watched)
    {state reached : State}
    {value : α}
    (succeeded : production state = (some value, reached)) :
    watched (state.watched wants) = (some value, reached.watched wants) := by
  rw [watches state, succeeded]

/-- A watched production fails as the unwatched one does. -/
theorem apply_of_none
    (watches : Watches wants production watched)
    {state reached : State}
    (failed : production state = (none, reached)) :
    watched (state.watched wants) = (none, reached.watched wants) := by
  rw [watches state, failed]

/-! ## Steps -/

theorem succeed (value : α) :
    Watches wants (pure value) (pure value) :=
  fun _ => rfl

theorem mismatch
    (rule : Rule)
    (expected : Expectation) :
    Watches wants (Production.mismatch rule expected : Production α)
      (Production.mismatch rule expected) :=
  fun _ => rfl

theorem refusePanel :
    Watches wants (Production.refusePanel : Production α) Production.refusePanel :=
  fun _ => rfl

theorem next
    (rule : Rule)
    (absent : Expectation)
    (read : Token → Except Expectation α) :
    Watches wants (Production.next rule absent read) (Production.next rule absent read) := by
  intro state
  unfold Production.next
  rw [State.cursor_watched]
  split
  · rfl
  · split
    · rfl
    · rfl

theorem accept (kind : Kind) :
    Watches wants (Production.accept kind) (Production.accept kind) := by
  intro state
  unfold Production.accept
  rw [State.cursor_watched]
  split
  · rfl
  · split
    · rfl
    · rfl

theorem endOfFile (rule : Rule) :
    Watches wants (Grammar.endOfFile rule) (Grammar.endOfFile rule) := by
  intro state
  unfold Grammar.endOfFile
  rw [State.cursor_watched]
  split
  · rfl
  · split
    · rfl
    · rfl

/-- An event is noted beside a watcher exactly if it is wanted. -/
theorem note (event : Nat → Event) :
    Watches wants (Production.note event) (noteWanted wants event) := by
  intro state
  unfold noteWanted
  rw [State.cursor_watched]
  by_cases wanted : wants (event state.cursor.consumed) = true
  · simp [State.watched, Production.note, wanted]
  · simp [State.watched, Production.note, wanted]

/-! ## Composition -/

theorem bind
    {next watchedNext : α → Production β}
    (first : Watches wants production watched)
    (others : ∀ value, Watches wants (next value) (watchedNext value)) :
    Watches wants (production >>= next) (watched >>= watchedNext) := by
  intro state
  cases answer : production state with
  | mk outcome reached =>
      cases outcome with
      | none =>
          rw [Production.bind_apply_of_none answer,
            Production.bind_apply_of_none (first.apply_of_none answer)]
      | some value =>
          rw [Production.bind_apply_of_some answer,
            Production.bind_apply_of_some (first.apply_of_some answer)]
          exact others value reached

theorem ite
    {other watchedOther : Production α}
    (condition : Bool)
    (first : Watches wants production watched)
    (second : Watches wants other watchedOther) :
    Watches wants (if condition then production else other)
      (if condition then watched else watchedOther) := by
  cases condition with
  | true =>
      exact first
  | false =>
      exact second

theorem inside
    (rule part : Rule)
    (watches : Watches wants production watched) :
    Watches wants (Production.inside rule part production)
      (Production.inside rule part watched) := by
  intro state
  unfold Production.inside
  rw [watches state]
  obtain ⟨outcome, reached⟩ := production state
  cases outcome with
  | none =>
      rfl
  | some value =>
      rfl

theorem rewinding (watches : Watches wants production watched) :
    Watches wants (Production.rewinding production) (Production.rewinding watched) := by
  intro state
  unfold Production.rewinding
  rw [watches state]
  obtain ⟨outcome, reached⟩ := production state
  cases outcome with
  | none =>
      rfl
  | some value =>
      rfl

theorem forgetting (watches : Watches wants production watched) :
    Watches wants (Production.forgetting production) (Production.forgetting watched) := by
  intro state
  unfold Production.forgetting
  rw [watches state]
  obtain ⟨outcome, reached⟩ := production state
  cases outcome with
  | none =>
      rfl
  | some value =>
      rfl

/-- Each attempt is watched, and those after it start where it left off. -/
theorem attempts
    (watches : Watches wants production watched)
    (bound : List Token)
    (items : List α) :
    Watches wants (Production.attempts production bound items)
      (Production.attempts watched bound items) := by
  induction bound generalizing items with
  | nil =>
      intro state
      unfold Production.attempts
      rw [watches state]
      obtain ⟨outcome, reached⟩ := production state
      cases outcome with
      | none =>
          rfl
      | some value =>
          rfl
  | cons token bound inductionHypothesis =>
      intro state
      unfold Production.attempts
      rw [watches state]
      obtain ⟨outcome, reached⟩ := production state
      cases outcome with
      | none =>
          rfl
      | some value =>
          exact inductionHypothesis (value :: items) reached

theorem many (watches : Watches wants production watched) :
    Watches wants (Production.many production) (Production.many watched) :=
  fun state => attempts watches.forgetting.rewinding state.cursor.rest [] state

theorem firstOf_nil :
    Watches wants (Production.firstOf ([] : List (Production (Option α))))
      (Production.firstOf []) :=
  succeed none

/-- Alternatives are watched one by one. -/
theorem firstOf_cons
    {alternative watchedAlternative : Production (Option α)}
    {others watchedOthers : List (Production (Option α))}
    (first : Watches wants alternative watchedAlternative)
    (watches : Watches wants (Production.firstOf others) (Production.firstOf watchedOthers)) :
    Watches wants (Production.firstOf (alternative :: others))
      (Production.firstOf (watchedAlternative :: watchedOthers)) := by
  refine bind first fun chosen => ?_
  cases chosen with
  | none =>
      exact watches
  | some value =>
      exact succeed (some value)

/-! ## The grammar -/

theorem mark (rule : Rule) (symbol : Mark) :
    Watches wants (Grammar.mark rule symbol) (Grammar.mark rule symbol) :=
  next rule _ _

theorem keyword (rule : Rule) (word : Keyword) :
    Watches wants (Grammar.keyword rule word) (Grammar.keyword rule word) :=
  next rule _ _

theorem number (rule : Rule) :
    Watches wants (Grammar.number rule) (Grammar.number rule) :=
  next rule _ _

theorem quoted (rule : Rule) :
    Watches wants (Grammar.quoted rule) (Grammar.quoted rule) :=
  bind (mark rule .quotation) fun _ =>
    bind (next rule _ _) fun text =>
      bind (mark rule .quotation) fun _ =>
        succeed text.lexeme

theorem gaps : Watches wants Grammar.gaps Grammar.gaps :=
  bind (accept _) fun closes =>
    ite closes (succeed _) <|
      bind (accept _) fun separates =>
        ite separates
          (bind (number _) fun horizontal =>
            bind (mark _ _) fun _ =>
              bind (number _) fun vertical =>
                bind (mark _ _) fun _ =>
                  succeed (some horizontal, some vertical))
          (mismatch _ _)

theorem grid : Watches wants Grammar.grid Grammar.grid :=
  bind (mark _ _) fun _ =>
    bind (number _) fun rows =>
      bind (mark _ _) fun _ =>
        bind (number _) fun columns =>
          bind gaps fun (horizontal, vertical) =>
            succeed (Layout.grid rows columns horizontal vertical)

theorem layoutType : Watches wants Grammar.layoutType Grammar.layoutType :=
  bind (accept _) fun isFlow =>
    ite isFlow (succeed Layout.flow) <|
      bind (accept _) fun isGrid =>
        ite isGrid grid (mismatch _ _)

theorem layout : Watches wants Grammar.layout Grammar.layout :=
  bind (keyword _ _) fun _ =>
    bind (inside _ _ layoutType) fun arrangement =>
      bind (mark _ _) fun _ =>
        succeed arrangement

theorem body
    (rule : Rule)
    (watches : Watches wants production watched) :
    Watches wants (Grammar.body rule production) (Grammar.body rule watched) :=
  forgetting <|
    bind watches.many fun items =>
      bind (keyword rule .close) fun _ =>
        succeed items

theorem alternative
    {widget watchedWidget : Production Widget}
    (word : Keyword)
    (watches : Watches wants widget watchedWidget) :
    Watches wants (Grammar.alternative word widget) (Grammar.alternative word watchedWidget) :=
  bind (accept _) fun isNext =>
    ite isNext (bind watches fun recognized => succeed (some recognized)) (succeed none)

theorem captioned
    (rule : Rule)
    (make : String → α) :
    Watches wants
      (do
        let text ← Grammar.quoted rule
        let _ ← Grammar.mark rule .semicolon
        return make text)
      (do
        let text ← Grammar.quoted rule
        let _ ← Grammar.mark rule .semicolon
        return make text) :=
  bind (quoted rule) fun text =>
    bind (mark rule .semicolon) fun _ =>
      succeed (make text)

theorem textField : Watches wants Grammar.textField Grammar.textField :=
  bind (number _) fun columns =>
    bind (mark _ _) fun _ =>
      succeed (Widget.textField columns)

theorem radioButton : Watches wants Grammar.radioButton Grammar.radioButton :=
  bind (keyword _ _) fun _ =>
    captioned .radioButton id

/-- A group notes its opening and its closing beside a watcher if they are wanted. -/
theorem group : Watches wants Grammar.group (groupBeside (noteWanted wants)) :=
  bind (note _) fun _ =>
    bind (body _ radioButton) fun buttons =>
      bind (mark _ _) fun _ =>
        bind (note _) fun _ =>
          succeed (Widget.radioGroup buttons)

/-- So does a panel, whose widgets are watched as well. -/
theorem panel
    {widget watchedWidget : Production Widget}
    (depth : Nat)
    (watches : Watches wants widget watchedWidget) :
    Watches wants (Grammar.panel depth widget)
      (panelBeside (noteWanted wants) depth watchedWidget) :=
  bind (note _) fun _ =>
    bind (inside _ _ layout) fun arrangement =>
      bind (body _ watches) fun children =>
        bind (mark _ _) fun _ =>
          bind (note _) fun _ =>
            succeed (Widget.panel arrangement children)

theorem widgetWith
    {panel watchedPanel : Production Widget}
    (watches : Watches wants panel watchedPanel) :
    Watches wants (Grammar.widgetWith panel)
      (widgetWithBeside (noteWanted wants) watchedPanel) := by
  have alternatives : Watches wants (Production.firstOf _) (Production.firstOf _) :=
    firstOf_cons (alternative .button (captioned .button .button)) <|
      firstOf_cons (alternative .group group) <|
        firstOf_cons (alternative .label (captioned .label .label)) <|
          firstOf_cons (alternative .panel watches) <|
            firstOf_cons (alternative .textfield textField) firstOf_nil
  refine rewinding (bind alternatives fun chosen => ?_)
  cases chosen with
  | none =>
      exact mismatch .widget .widget
  | some widget =>
      exact succeed widget

/-- Each level of panels is watched if the levels inside it are. -/
theorem widget (room : Nat) :
    Watches wants (Grammar.widget room) (widgetBeside (noteWanted wants) room) := by
  induction room with
  | zero =>
      exact widgetWith refusePanel
  | succ room inductionHypothesis =>
      exact widgetWith (panel _ inductionHypothesis)

theorem documentHead : Watches wants Grammar.documentHead Grammar.documentHead :=
  bind (keyword _ _) fun _ =>
    bind (quoted _) fun title =>
      bind (mark _ _) fun _ =>
        bind (number _) fun width =>
          bind (mark _ _) fun _ =>
            bind (number _) fun height =>
              bind (mark _ _) fun _ =>
                bind (inside _ _ layout) fun arrangement =>
                  succeed (Window.mk title width height arrangement [])

theorem documentUpToPeriod
    {widget watchedWidget : Production Widget}
    (watches : Watches wants widget watchedWidget) :
    Watches wants (Grammar.documentUpToPeriod widget)
      (Grammar.documentUpToPeriod watchedWidget) :=
  bind documentHead fun head =>
    bind (body _ watches) fun children =>
      bind (mark _ _) fun _ =>
        succeed { head with children := children }

/-- A whole document is recognized beside a watcher as it is without one. -/
theorem window : Watches wants Grammar.window (watchedWindow wants) :=
  bind (documentUpToPeriod (widget panelLimit)) fun recognized =>
    bind (endOfFile _) fun _ =>
      succeed recognized

end Watches

end WindowLang.Grammar
