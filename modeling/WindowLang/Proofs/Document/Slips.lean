import Mathlib.Algebra.Ring.Int.Defs
import WindowLang.Proofs.Source.Derivations

namespace WindowLang

/-!
# Slips of a single token

Every kind of token but the end of the input is given a weight other than zero, such that
literals aside each layout and each widget weighs nothing, the keyword in front making up for
what belongs to it. Then whole documents weigh nothing either, and a document that has lost or
gained a single token weighs too little or too much to be one.
-/

open Grammar

/-! ## Weights -/

/-- The weight of a keyword, which makes up for the tokens that belong to it. -/
def Keyword.weight : Keyword → Int
  | .window => -8
  | .layout => 1
  | .flow => -2
  | .grid => -5
  | .button => -4
  | .label => -4
  | .panel => -2
  | .textfield => -2
  | .group => -2
  | .radio => -4
  | .close => 1

/-- The weight of a kind of token. -/
def Kind.weight : Kind → Int
  | .mark .comma => -1
  | .mark _ => 1
  | .keyword word => word.weight
  | .string => 1
  | .number => 1
  | .notFound => 1
  | .endOfFile => 0

/-- Only the end of the input weighs nothing. -/
theorem Kind.weight_eq_zero_iff {kind : Kind} :
    kind.weight = 0 ↔ kind = .endOfFile := by
  cases kind with
  | mark symbol =>
      cases symbol <;> decide
  | keyword word =>
      cases word <;> decide
  | _ =>
      decide

/-- What some tokens weigh together. -/
def weigh (tokens : List Token) : Int :=
  (tokens.map fun token => token.kind.weight).sum

@[simp] theorem weigh_nil :
    weigh [] = 0 :=
  rfl

@[simp] theorem weigh_cons (token : Token) (tokens : List Token) :
    weigh (token :: tokens) = token.kind.weight + weigh tokens := by
  simp [weigh]

@[simp] theorem weigh_append (first second : List Token) :
    weigh (first ++ second) = weigh first + weigh second := by
  simp [weigh]

/-! ## Derivations -/

theorem Grammar.QuotedForm.weigh_eq
    {tokens : List Token}
    {text : String}
    (derives : QuotedForm tokens text) :
    weigh tokens = 3 := by
  cases derives with
  | literal opens isText closes =>
      simp [opens, isText, closes, Kind.weight]

theorem Grammar.LayoutTypeForm.weigh_eq
    {tokens : List Token}
    {layout : Layout}
    (derives : LayoutTypeForm tokens layout) :
    weigh tokens = -2 := by
  cases derives with
  | flow isFlow =>
      simp [isFlow, Kind.weight, Keyword.weight]
  | grid isGrid opens writesRows separates writesColumns closes =>
      simp [isGrid, opens, writesRows.1, separates, writesColumns.1, closes, Kind.weight,
        Keyword.weight]
  | gridWithGaps isGrid opens writesRows separates writesColumns separates₂ writesHorizontal
      separates₃ writesVertical closes =>
      -- Each gap is a number with a comma in front, and so weighs nothing.
      simp [isGrid, opens, writesRows.1, separates, writesColumns.1, separates₂,
        writesHorizontal.1, separates₃, writesVertical.1, closes, Kind.weight, Keyword.weight]

theorem Grammar.LayoutForm.weigh_eq
    {tokens : List Token}
    {layout : Layout}
    (derives : LayoutForm tokens layout) :
    weigh tokens = 0 := by
  cases derives with
  | layout isLayout derives ends =>
      simp [isLayout, derives.weigh_eq, ends, Kind.weight, Keyword.weight]

theorem Grammar.RadiosForm.weigh_eq
    {tokens : List Token}
    {texts : List String}
    (derives : RadiosForm tokens texts) :
    weigh tokens = 0 := by
  induction derives with
  | nil =>
      rfl
  | cons isRadio derives ends others inductionHypothesis =>
      simp [isRadio, derives.weigh_eq, ends, inductionHypothesis, Kind.weight, Keyword.weight]

mutual

theorem weigh_of_widgetForm :
    (widget : Widget) →
    {room : Nat} →
    {tokens : List Token} →
    WidgetForm room tokens widget →
    weigh tokens = 0
  | .button _, _, _, .button isButton derives ends => by
      simp [isButton, derives.weigh_eq, ends, Kind.weight, Keyword.weight]
  | .label _, _, _, .label isLabel derives ends => by
      simp [isLabel, derives.weigh_eq, ends, Kind.weight, Keyword.weight]
  | .textField _, _, _, .textField isTextField writes ends => by
      simp [isTextField, writes.1, ends, Kind.weight, Keyword.weight]
  | .radioGroup _, _, _, .group isGroup derives closes ends => by
      simp [isGroup, derives.weigh_eq, closes, ends, Kind.weight, Keyword.weight]
  | .panel _ children, _, _, .panel isPanel derivesLayout derivesChildren closes ends => by
      have inside := weigh_of_widgetsForm children derivesChildren
      simp [isPanel, derivesLayout.weigh_eq, inside, closes, ends, Kind.weight, Keyword.weight]

theorem weigh_of_widgetsForm :
    (widgets : List Widget) →
    {room : Nat} →
    {tokens : List Token} →
    WidgetsForm room tokens widgets →
    weigh tokens = 0
  | [], _, _, .nil => rfl
  | widget :: widgets, _, _, .cons derives others => by
      rw [weigh_append, weigh_of_widgetForm widget derives, weigh_of_widgetsForm widgets others,
        Int.add_zero]

end

/-- A document weighs nothing, however many widgets it has. -/
theorem weigh_of_windowForm
    {tokens : List Token}
    {window : Window}
    (derives : WindowForm tokens window) :
    weigh tokens = 0 := by
  cases derives with
  | window isWindow derivesTitle opens writesWidth separates writesHeight closesSize
      derivesLayout derivesChildren closes ends =>
      have inside := weigh_of_widgetsForm _ derivesChildren
      simp [isWindow, derivesTitle.weigh_eq, opens, writesWidth.1, separates, writesHeight.1,
        closesSize, derivesLayout.weigh_eq, inside, closes, ends, Kind.weight, Keyword.weight]

/-! ## Accepted documents -/

/-- What is accepted without a token for the end of the input is a document and no more. -/
theorem weigh_of_parse
    {tokens : List Token}
    {window : Window}
    (accepted : parse tokens = .ok window)
    (noEnd : ∀ token ∈ tokens, token.kind ≠ .endOfFile) :
    weigh tokens = 0 := by
  obtain ⟨document, rest, rfl, derives, ends⟩ := describes_of_parse accepted
  cases rest with
  | nil =>
      rw [List.append_nil]
      exact weigh_of_windowForm derives
  | cons token more =>
      exact absurd (atEnd_cons_iff.1 ends) (noEnd token (by simp))

theorem rejected_of_weigh_ne
    {tokens : List Token}
    (unbalanced : weigh tokens ≠ 0)
    (noEnd : ∀ token ∈ tokens, token.kind ≠ .endOfFile) :
    ∃ error, parse tokens = .error error := by
  cases answer : parse tokens with
  | error error =>
      exact ⟨error, rfl⟩
  | ok window =>
      exact absurd (weigh_of_parse answer noEnd) unbalanced

/--
No document is left if a single token is removed from an accepted one, nor if a single token
is put in anywhere, be it a second copy of a token that is there or any other. Tokens that
stand for the end of the input are left aside, because what follows such a token is not read.
-/
theorem single_slips_are_rejected
    {tokens : List Token}
    {window : Window}
    (accepted : parse tokens = .ok window)
    (noEnd : ∀ token ∈ tokens, token.kind ≠ .endOfFile) :
    (∀ before token after,
        tokens = before ++ token :: after →
          ∃ error, parse (before ++ after) = .error error) ∧
      ∀ before token after,
        tokens = before ++ after →
          token.kind ≠ .endOfFile →
            ∃ error, parse (before ++ token :: after) = .error error := by
  have balanced := weigh_of_parse accepted noEnd
  constructor
  · rintro before token after rfl
    simp only [List.forall_mem_append, List.forall_mem_cons] at noEnd
    obtain ⟨noEndBefore, notEnd, noEndAfter⟩ := noEnd
    have weighs := mt Kind.weight_eq_zero_iff.1 notEnd
    rw [weigh_append, weigh_cons] at balanced
    refine rejected_of_weigh_ne ?_ (List.forall_mem_append.2 ⟨noEndBefore, noEndAfter⟩)
    rw [weigh_append]
    omega
  · rintro before token after rfl notEnd
    obtain ⟨noEndBefore, noEndAfter⟩ := List.forall_mem_append.1 noEnd
    have weighs := mt Kind.weight_eq_zero_iff.1 notEnd
    rw [weigh_append] at balanced
    refine rejected_of_weigh_ne ?_
      (List.forall_mem_append.2 ⟨noEndBefore, List.forall_mem_cons.2 ⟨notEnd, noEndAfter⟩⟩)
    rw [weigh_append, weigh_cons]
    omega

/-- A window with a grid, a panel around a group and a label, and a text field. -/
def groupedWindow : Window :=
  ⟨"", 2, 3, .grid 1 2 (some 0) (some 1), [.panel .flow [.radioGroup [""], .label ""], .textField 8]⟩

theorem isNormal_groupedWindow :
    groupedWindow.IsNormal panelLimit := by
  have empty : IsNormal "" := .inl rfl
  have inside : AreNormal 255 [.radioGroup [""], .label ""] := by
    simp [areNormal_cons_iff, areNormal_nil, empty]
  have panel : (Widget.panel .flow [.radioGroup [""], .label ""]).IsNormal panelLimit :=
    Widget.isNormal_panel_iff.2 ⟨trivial, inside⟩
  have children : AreNormal panelLimit groupedWindow.children :=
    areNormal_cons_iff.2 ⟨panel, by simp [areNormal_cons_iff, areNormal_nil]⟩
  exact Window.isNormal_iff.2 ⟨empty, rfl, children⟩

theorem groupedWindow_slips_are_rejected :
    (∃ error,
        parse (groupedWindow.tokens.take 38 ++ groupedWindow.tokens.drop 39) = .error error) ∧
      ∃ error,
        parse (groupedWindow.tokens.take 38 ++ .ofKeyword .close ::
          groupedWindow.tokens.drop 38) = .error error := by
  have noEnd : ∀ token ∈ groupedWindow.tokens, token.kind ≠ .endOfFile := by
    decide
  obtain ⟨removed, added⟩ :=
    single_slips_are_rejected (parse_tokens isNormal_groupedWindow) noEnd
  exact ⟨removed _ _ _ rfl, added _ _ _ rfl (by decide)⟩

end WindowLang
