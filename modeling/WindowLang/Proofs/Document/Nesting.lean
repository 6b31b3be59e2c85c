import WindowLang.Proofs.Agenda.Containers
import WindowLang.Proofs.Document.ErrorPosition

namespace WindowLang

/-!
# Panels nested too deeply

A panel is refused for being nested too deeply exactly where a widget may begin inside
256 open panels. Panels that are closed again leave no trace in that number, and no
expectation that fails on the way out of the open panels replaces the error.
-/

open Grammar

/-! ## Closed widgets -/

/-- Inner tokens behind an inner token or an opened container change no nesting. -/
theorem foldl_after_of_isInner
    {tokens : List Token}
    (inner : ∀ token ∈ tokens, token.kind.isInner = true)
    (containers : List Keyword) :
    tokens.foldl Nesting.after ⟨containers, false⟩ = ⟨containers, false⟩ := by
  induction tokens with
  | nil =>
      rfl
  | cons token tokens inductionHypothesis =>
      obtain ⟨tokenInner, tokensInner⟩ := List.forall_mem_cons.1 inner
      rw [List.foldl_cons, Nesting.after_of_isInner tokenInner]
      exact inductionHypothesis tokensInner

theorem Grammar.QuotedForm.isInner
    {tokens : List Token}
    {text : String}
    (derives : QuotedForm tokens text) :
    ∀ token ∈ tokens, token.kind.isInner = true := by
  cases derives with
  | literal opens isText closes =>
      simp [opens, isText, closes, Kind.isInner]

theorem Grammar.LayoutTypeForm.isInner
    {tokens : List Token}
    {layout : Layout}
    (derives : LayoutTypeForm tokens layout) :
    ∀ token ∈ tokens, token.kind.isInner = true := by
  cases derives with
  | flow isFlow =>
      simp [isFlow, Kind.isInner, widgetKeywords]
  | grid isGrid opens writesRows separates writesColumns closes =>
      simp [isGrid, opens, writesRows.1, separates, writesColumns.1, closes, Kind.isInner,
        widgetKeywords]
  | gridWithGaps isGrid opens writesRows separates writesColumns separates₂ writesHorizontal
      separates₃ writesVertical closes =>
      simp [isGrid, opens, writesRows.1, separates, writesColumns.1, separates₂,
        writesHorizontal.1, separates₃, writesVertical.1, closes, Kind.isInner, widgetKeywords]

theorem Grammar.LayoutForm.isInner
    {tokens : List Token}
    {layout : Layout}
    (derives : LayoutForm tokens layout) :
    ∀ token ∈ tokens, token.kind.isInner = true := by
  cases derives with
  | layout isLayout derives ends =>
      have typeInner := derives.isInner
      simpa [isLayout, ends, Kind.isInner, widgetKeywords, or_imp, forall_and] using typeInner

theorem Grammar.RadiosForm.isInner
    {tokens : List Token}
    {texts : List String}
    (derives : RadiosForm tokens texts) :
    ∀ token ∈ tokens, token.kind.isInner = true := by
  induction derives with
  | nil =>
      exact List.forall_mem_nil _
  | cons isRadio derives ends others inductionHypothesis =>
      have literalInner := derives.isInner
      simpa [isRadio, ends, Kind.isInner, widgetKeywords, or_imp, forall_and] using
        And.intro literalInner inductionHypothesis

/-- A widget without a container leaves the containers as they are. -/
theorem foldl_after_leaf
    {word : Token}
    {rest : List Token}
    {name : Keyword}
    (isLeaf : name ∈ [Keyword.button, .label, .textfield])
    (isKeyword : word.kind = .keyword name)
    (inner : ∀ token ∈ rest, token.kind.isInner = true)
    (nesting : Nesting) :
    (word :: rest).foldl Nesting.after nesting = ⟨nesting.containers, false⟩ := by
  have begun : nesting.after word = ⟨nesting.containers, false⟩ := by
    cases name with
    | button | label | textfield =>
        simp [Nesting.after, isKeyword]
    | _ =>
        simp at isLeaf
  rw [List.foldl_cons, begun, foldl_after_of_isInner inner]

/-- The closing keyword and a semicolon close the innermost container. -/
theorem foldl_after_close
    {close semicolon : Token}
    (closes : close.kind = .keyword .close)
    (ends : semicolon.kind = .mark .semicolon)
    (nesting : Nesting) :
    [close, semicolon].foldl Nesting.after nesting = ⟨nesting.containers.tail, false⟩ := by
  simp [Nesting.after, closes, ends]

mutual

/-- Behind a whole widget the containers are open that were open before it. -/
theorem foldl_after_of_widgetForm :
    (widget : Widget) →
    {room : Nat} →
    {tokens : List Token} →
    WidgetForm room tokens widget →
    (nesting : Nesting) →
    tokens.foldl Nesting.after nesting = ⟨nesting.containers, false⟩
  | .button _, _, _, .button isButton derives ends, nesting => by
      refine foldl_after_leaf (by decide) isButton ?_ nesting
      simpa [ends, Kind.isInner, or_imp, forall_and] using derives.isInner
  | .label _, _, _, .label isLabel derives ends, nesting => by
      refine foldl_after_leaf (by decide) isLabel ?_ nesting
      simpa [ends, Kind.isInner, or_imp, forall_and] using derives.isInner
  | .textField _, _, _, .textField isTextField writes ends, nesting => by
      refine foldl_after_leaf (by decide) isTextField ?_ nesting
      simp [writes.1, ends, Kind.isInner]
  | .radioGroup _, _, _, .group isGroup derives closes ends, nesting => by
      rw [List.foldl_append, foldl_after_close closes ends, List.foldl_cons,
        Nesting.after_of_group isGroup, foldl_after_of_isInner derives.isInner, List.tail_cons]
  | .panel _ children, _, _, .panel isPanel derivesLayout derivesChildren closes ends,
      nesting => by
      rw [List.foldl_append, foldl_after_close closes ends, List.foldl_append,
        containers_foldl_after_of_widgetsForm children derivesChildren, List.foldl_cons,
        Nesting.after_of_panel isPanel, foldl_after_of_isInner derivesLayout.isInner,
        List.tail_cons]

theorem containers_foldl_after_of_widgetsForm :
    (widgets : List Widget) →
    {room : Nat} →
    {tokens : List Token} →
    WidgetsForm room tokens widgets →
    (nesting : Nesting) →
    (tokens.foldl Nesting.after nesting).containers = nesting.containers
  | [], _, _, .nil, _ => rfl
  | widget :: widgets, _, _, .cons derives others, nesting => by
      rw [List.foldl_append, foldl_after_of_widgetForm widget derives,
        containers_foldl_after_of_widgetsForm widgets others]

end

/-- Widgets that are closed again, however many they are, do not count. -/
theorem openPanelsBehind_append_widgets
    (tokens : List Token)
    {room : Nat}
    {siblings : List Token}
    {widgets : List Widget}
    (derives : WidgetsForm room siblings widgets) :
    openPanelsBehind (tokens ++ siblings) = openPanelsBehind tokens := by
  unfold openPanelsBehind nestingBehind
  rw [List.foldl_append, containers_foldl_after_of_widgetsForm widgets derives]

/-! ## The message -/

/-- An agenda that does not go on tells at least what it wants. -/
theorem Grammar.Agenda.exists_unmet_eq
    (agenda : Agenda)
    (tokens : List Token)
    (index : Nat) :
    ∃ rule expected found others,
      agenda.unmet tokens index = .unmet rule expected found :: others := by
  unfold Agenda.unmet
  split
  · exact ⟨_, _, _, _, rfl⟩
  · rename_i task rest settled
    cases task with
    | number rule =>
        simp only [Task.refusal]
        split
        · exact ⟨_, _, _, _, rfl⟩
        · exact ⟨_, _, _, _, rfl⟩
    | finish rule part =>
        exact absurd settled (Agenda.settle_ne_finish agenda rest rule part)
    | body rule item begun =>
        cases item with
        | widget | radioButton =>
            exact ⟨_, _, _, _, rfl⟩
    | _ =>
        exact ⟨_, _, _, _, rfl⟩

/-- A text with others behind it stands in front. -/
theorem prefix_intercalate
    (separator first : String)
    (others : List String) :
    first.toList <+: (separator.intercalate (first :: others)).toList := by
  cases others with
  | nil =>
      simp
  | cons second others =>
      rw [String.intercalate_cons_cons, String.toList_append, String.toList_append,
        List.append_assoc]
      exact List.prefix_append _ _

/-- No chain of unmet expectations reads like a panel that is nested too deeply. -/
theorem message_unmet_ne
    (position : Nat)
    (rule : Rule)
    (expected : Expectation)
    (found : Option Token)
    (others : List Fragment) :
    (SyntaxError.unmet position (.unmet rule expected found :: others)).message ≠
      "Widget: Panel: nesting too deep" := by
  intro same
  have inFront :
      (rule.name ++ ": expected ").toList <+: "Widget: Panel: nesting too deep".toList := by
    have first : (rule.name ++ ": expected ").toList <+:
        (Fragment.unmet rule expected found).text.toList := by
      simp only [Fragment.text, String.toList_append, List.append_assoc]
      exact List.prefix_append_right_inj _ |>.2 (List.prefix_append _ _)
    rw [← same]
    exact first.trans (prefix_intercalate _ _ _)
  revert inFront
  cases rule with
  | _ =>
      decide

/-! ## The place of the error -/

/-- A derived document leads the agenda of a document to its end. -/
theorem runs_of_windowForm
    {document : List Token}
    {window : Window}
    (derives : WindowForm document window) :
    Agenda.start.Runs 0 document [] := by
  have performs : Performs document 0 Agenda.start WindowForm windowUpToPeriod :=
    performs_windowUpToPeriod
  have within : (State.start document).Within document := rfl
  have all : (State.start document).cursor.rest = document ++ [] :=
    (List.append_nil document).symm
  obtain ⟨reached, succeeded, takesAll⟩ := performs.complete derives all
  have outcome := performs.outcome within
  rw [succeeded] at outcome
  cases outcome with
  | @taken _ _ taken takes _ runs =>
      have nothingLeft : reached.cursor.rest = [] :=
        List.append_cancel_left (takesAll.rest.symm.trans all)
      have allTaken : taken = document := by
        have split : document = taken ++ reached.cursor.rest := takes.rest
        rw [nothingLeft, List.append_nil] at split
        exact split.symm
      have runsAll := runs [] rfl
      rw [List.append_nil, allTaken] at runsAll
      exact runsAll

/-- Tokens that lead the agenda of a document to its end are a derived document. -/
theorem windowForm_of_runs
    {document : List Token}
    (runs : Agenda.start.Runs 0 document []) :
    ∃ window, WindowForm document window := by
  have recognition := recognized document
  generalize parse document = outcome at recognition
  cases recognition with
  | @accepted taken rest window split derives runsTaken ends =>
      cases rest with
      | nil =>
          rw [List.append_nil] at split
          exact ⟨window, split ▸ derives⟩
      | cons token more =>
          rw [split] at runs
          exact (runsTaken.not_past_end runs).elim
  | rejected split stuck =>
      rw [← List.append_nil document] at split
      exact (stuck.not_complete split.symm runs (.inl rfl)).elim

/-- Where a body of widgets comes next, the agenda holds the panels that tokens left open. -/
theorem openPanels_eq_openPanelsBehind
    {tokens : List Token}
    {agenda rest : Agenda}
    {rule : Rule}
    {item : Item}
    {begun : Option Nat}
    (ran : Agenda.start.run? 0 tokens = some agenda)
    (settled : agenda.settle = .body rule item begun :: rest) :
    Agenda.openPanels (.body rule item begun :: rest) = openPanelsBehind tokens :=
  ((Agenda.nests_of_run ran).holds_of_body settled).openPanels_eq

/-- A widget may begin exactly where a body of widgets comes next. -/
theorem widgetMayBegin_iff
    {tokens : List Token} :
    WidgetMayBegin tokens ↔
      ∃ agenda rule begun rest,
        Agenda.start.run? 0 tokens = some agenda ∧
          agenda.settle = .body rule .widget begun :: rest := by
  constructor
  · rintro ⟨word, first, suffix, window, isWidget, isKeyword, derives⟩
    obtain ⟨middle, ⟨agenda, ran, same⟩, runsOn⟩ := (runs_of_windowForm derives).split
    have advances : agenda.advance? (0 + tokens.length) first ≠ none := by
      rw [Agenda.advance?_congr same]
      exact runsOn.advances
    obtain ⟨next, advances⟩ := Option.ne_none_iff_exists'.1 advances
    obtain ⟨rule, begun, rest, settled⟩ :=
      (Agenda.nests_of_run ran).body_of_widget isWidget isKeyword advances
    exact ⟨agenda, rule, begun, rest, ran, settled⟩
  · rintro ⟨agenda, rule, begun, rest, ran, settled⟩
    -- A text field needs no room for panels.
    have admitted :
        Agenda.Advances tokens.length (.ofKeyword .textfield) rest (.body rule .widget begun) _ :=
      .item (by decide) rfl rfl
    have advances := Agenda.advance?_eq_some_iff.2 ⟨_, rest, settled, admitted⟩
    have runsOn := Agenda.Runs.cons advances (Agenda.runs_completion _ (tokens.length + 1))
    rw [← Nat.zero_add tokens.length] at runsOn
    have reached : Agenda.start.Runs 0 tokens agenda := ⟨agenda, ran, rfl⟩
    obtain ⟨window, derives⟩ := windowForm_of_runs (reached.trans runsOn)
    exact ⟨.textfield, _, _, window, by decide, rfl, derives⟩

/-- The keyword of a panel is refused where a widget may begin and the limit is reached. -/
theorem parse_of_full
    {before after : List Token}
    {token : Token}
    (mayBegin : WidgetMayBegin before)
    (isPanel : token.kind = .keyword .panel)
    (full : openPanelsBehind before = panelLimit) :
    parse (before ++ token :: after) = .error (.tooDeep (before.length + 1)) := by
  obtain ⟨agenda, rule, begun, rest, ran, settled⟩ := widgetMayBegin_iff.1 mayBegin
  have isFull : Agenda.isFull (.body rule .widget begun :: rest) token = true := by
    simp [Agenda.isFull, isPanel, openPanels_eq_openPanelsBehind ran settled, full]
  have stuck : Agenda.start.Stuck 0 before (token :: after) agenda := {
    runs := ⟨agenda, ran, rfl⟩
    refuses := {
      noAdvance := by
        rintro _ ⟨⟩
        simp [Agenda.advance?, settled, isPanel, isFull]
      notComplete := by
        intro complete
        rw [settled] at complete
        cases complete
    }
  }
  have blocked : agenda.blocks (before ++ token :: after)[before.length]? = true := by
    rw [getElem?_length_of_split rfl]
    simp [Agenda.blocks, settled, isFull]
  rw [parse_of_stuck stuck, Agenda.error, if_pos blocked]

/-- A panel is refused only where a widget may begin and the limit is reached. -/
theorem full_of_blocks
    {taken left : List Token}
    {agenda : Agenda}
    (runs : Agenda.start.Runs 0 taken agenda)
    (blocks : agenda.blocks left.head? = true) :
    ∃ token after,
      left = token :: after ∧ token.kind = .keyword .panel ∧
        WidgetMayBegin taken ∧ openPanelsBehind taken = panelLimit := by
  obtain ⟨last, ran, same⟩ := runs
  unfold Agenda.blocks at blocks
  split at blocks
  · rename_i rule begun rest token settled next
    rw [← same] at settled
    obtain ⟨isPanel, reached⟩ :
        token.kind = .keyword .panel ∧
          panelLimit ≤ Agenda.openPanels (.body rule .widget begun :: rest) := by
      simpa [Agenda.isFull] using blocks
    have atMost := Agenda.openPanels_le_of_run ran
    rw [← Agenda.openPanels_settle, settled] at atMost
    rw [openPanels_eq_openPanelsBehind ran settled] at reached atMost
    obtain ⟨after, split⟩ := List.head?_eq_some_iff.1 next
    exact ⟨token, after, split, isPanel,
      widgetMayBegin_iff.2 ⟨last, rule, begun, rest, ran, settled⟩,
      Nat.le_antisymm atMost reached⟩
  · cases blocks

/--
The error of panels nested too deeply is reported at a position exactly if a panel
begins there, a widget may begin there, and 256 panels are open there, counted by their
keywords and by the closing keywords with a semicolon behind them. Widgets that are
closed again do not count, however many they are.
-/
theorem nesting_error_iff_panels_open
    (tokens : List Token)
    (position : Nat) :
    ((∃ error,
        parse tokens = .error error ∧ error.position = position ∧
          error.message = "Widget: Panel: nesting too deep") ↔
        ∃ before token after,
          tokens = before ++ token :: after ∧ before.length + 1 = position ∧
            token.kind = .keyword .panel ∧ WidgetMayBegin before ∧
            openPanelsBehind before = 256) ∧
      ∀ before siblings room widgets,
        WidgetsForm room siblings widgets →
          openPanelsBehind (before ++ siblings) = openPanelsBehind before := by
  refine ⟨⟨?_, ?_⟩, fun before _ _ _ derives => openPanelsBehind_append_widgets before derives⟩
  · rintro ⟨error, refused, isAt, message⟩
    obtain ⟨taken, left, agenda, rfl, stuck, rfl⟩ := stuck_of_error refused
    rw [Agenda.position_error] at isAt
    by_cases blocked : agenda.blocks (taken ++ left)[taken.length]? = true
    · rw [getElem?_length_of_split rfl] at blocked
      obtain ⟨token, after, rfl, isPanel, mayBegin, full⟩ := full_of_blocks stuck.runs blocked
      exact ⟨taken, token, after, rfl, isAt, isPanel, mayBegin, full⟩
    · obtain ⟨rule, expected, found, others, unmet⟩ :=
        agenda.exists_unmet_eq (taken ++ left) taken.length
      rw [Agenda.error, if_neg blocked, unmet] at message
      exact (message_unmet_ne _ rule expected found others message).elim
  · rintro ⟨before, token, after, rfl, rfl, isPanel, mayBegin, full⟩
    exact ⟨_, parse_of_full mayBegin isPanel full, rfl, rfl⟩

/-- The beginning of a window in which so many panels are open, one inside the other. -/
def openedPanels : Nat → List Token
  | 0 =>
      .ofKeyword .window :: quotedTokens "W" ++
        [.ofMark .openParen, .ofNumber 1, .ofMark .comma, .ofNumber 1, .ofMark .closeParen] ++
        Layout.tokens .flow
  | count + 1 => openedPanels count ++ .ofKeyword .panel :: Layout.tokens .flow

theorem length_openedPanels (count : Nat) :
    (openedPanels count).length = 12 + 4 * count := by
  induction count with
  | zero =>
      rfl
  | succ count inductionHypothesis =>
      have added : (Token.ofKeyword .panel :: Layout.tokens .flow).length = 4 := rfl
      rw [openedPanels, List.length_append, inductionHypothesis, added]
      omega

theorem nestingBehind_openedPanels (count : Nat) :
    nestingBehind (openedPanels count) = ⟨List.replicate count .panel, false⟩ := by
  induction count with
  | zero =>
      rfl
  | succ count inductionHypothesis =>
      have split : nestingBehind (openedPanels (count + 1)) =
          (Token.ofKeyword .panel :: Layout.tokens .flow).foldl Nesting.after
            (nestingBehind (openedPanels count)) :=
        List.foldl_append
      rw [split, inductionHypothesis]
      rfl

theorem openPanelsBehind_openedPanels (count : Nat) :
    openPanelsBehind (openedPanels count) = count := by
  rw [openPanelsBehind, nestingBehind_openedPanels, List.count_replicate_self]

/-- Panels may be opened one inside the other up to the limit. -/
theorem widgetMayBegin_openedPanels
    {count : Nat}
    (below : count ≤ panelLimit) :
    WidgetMayBegin (openedPanels count) := by
  rw [widgetMayBegin_iff]
  induction count with
  | zero =>
      exact ⟨_, .gui, none, _, rfl, rfl⟩
  | succ count inductionHypothesis =>
      obtain ⟨agenda, rule, begun, rest, ran, settled⟩ :=
        inductionHypothesis (Nat.le_of_succ_le below)
      have notFull :
          Agenda.isFull (.body rule .widget begun :: rest) (.ofKeyword .panel) = false := by
        rw [Agenda.isFull, openPanels_eq_openPanelsBehind ran settled,
          openPanelsBehind_openedPanels]
        simpa [Token.ofKeyword] using Nat.lt_of_succ_le below
      have admitted :
          Agenda.Advances (openedPanels count).length (.ofKeyword .panel) rest
            (.body rule .widget begun) _ :=
        .item (by decide) notFull rfl
      have advances := Agenda.advance?_eq_some_iff.2 ⟨_, rest, settled, admitted⟩
      have opened : Agenda.start.Runs 0 (openedPanels count) agenda := ⟨agenda, ran, rfl⟩
      have layout := Agenda.runs_completion_cons (.layout .panel)
        ([.body .panel .widget none, .token .panel (.mark .semicolon)] ++
          .body rule .widget (some (openedPanels count).length) :: rest)
        ((openedPanels count).length + 1)
      have runsOn := Agenda.Runs.cons advances layout
      rw [← Nat.zero_add (openedPanels count).length] at runsOn
      obtain ⟨last, ranAll, same⟩ := opened.trans runsOn
      exact ⟨last, .panel, none, _, ranAll, same⟩

theorem deepestPanel_is_refused :
    ∃ error,
      parse (openedPanels 257) = .error error ∧ error.position = 1037 ∧
        error.message = "Widget: Panel: nesting too deep" := by
  have full : openPanelsBehind (openedPanels 256) = 256 :=
    openPanelsBehind_openedPanels 256
  have position : (openedPanels 256).length + 1 = 1037 := by
    rw [length_openedPanels]
  exact (nesting_error_iff_panels_open _ _).1.2
    ⟨openedPanels 256, .ofKeyword .panel, _, rfl, position, rfl,
      widgetMayBegin_openedPanels (Nat.le_refl _), full⟩

end WindowLang
