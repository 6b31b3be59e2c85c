import WindowLang.Journal.Filter
import WindowLang.Text.Blank

namespace WindowLang

/-!
# Texts of filters

A filter is written as directives with commas between them. A directive is the name of a
level, the beginning of targets, or both with an equals sign between them. Behind a slash
stands a pattern that messages are searched for. What makes no sense is left out, and a
warning tells of it.
-/

/-- What is wrong with the text of a filter. -/
inductive Misspelling where
  /-- A directive with a name that no level has, or with more than one equals sign. -/
  | directive (text : String)
  /-- A text with more than one slash. -/
  | slashes (text : String)
  /-- A pattern of which no test can be made, for the given reason. -/
  | pattern (reason : String)
  deriving DecidableEq, Repr

/-- What is wrong, in words. -/
def Misspelling.text : Misspelling → String
  | .directive text => "invalid logging spec '" ++ text ++ "'"
  | .slashes text => "invalid logging spec '" ++ text ++ "' (too many '/'s)"
  | .pattern reason => "invalid regex filter - " ++ reason

/-- The line that warns of a misspelling. -/
def Misspelling.warning (misspelling : Misspelling) : String :=
  "warning: " ++ misspelling.text ++ ", ignoring it\n"

/-- The tests that patterns write, or why one writes none. -/
abbrev Patterns := String → Except String (String → Bool)

/-- The text occurs among the characters. -/
def occursIn (text : List Char) : List Char → Bool
  | [] => text.isEmpty
  | c :: rest => text.isPrefixOf (c :: rest) || occursIn text rest

/-- Patterns that stand for their own text, as those without special characters do. -/
def plainPatterns : Patterns :=
  fun pattern => .ok fun message => occursIn pattern.toList message.toList

/-- What the text of a filter says. -/
structure FilterText where
  directives : List Directive
  /-- The test that a message has to pass. -/
  passes : String → Bool := fun _ => true
  misspellings : List Misspelling

/-- The directive that a piece of a filter's text writes. -/
def Directive.ofText (text : String) : Except Misspelling Directive :=
  match text.toList.splitOn '=' with
  | [_] =>
      match Threshold.ofName? text with
      | some threshold => .ok ⟨.all, threshold⟩
      | none => .ok ⟨.startingWith text, .upTo .trace⟩
  | [start, level] =>
      let scope := Scope.startingWith (String.ofList start)
      let name := Text.trim (String.ofList level)
      if name.isEmpty then
        .ok ⟨scope, .upTo .trace⟩
      else
        match Threshold.ofName? name with
        | some threshold => .ok ⟨scope, threshold⟩
        | none => .error (.directive name)
  | _ => .error (.directive text)

namespace FilterText

/-- The pieces between the commas of a text, but for the blank ones. -/
def pieces (text : List Char) : List String :=
  ((text.splitOn ',').map fun piece => Text.trim (String.ofList piece)).filter (!·.isEmpty)

/-- What the directives of a text say. -/
def ofDirectives (text : List Char) : FilterText :=
  let readings := (pieces text).map Directive.ofText
  {
    directives := readings.filterMap Except.toOption
    misspellings := readings.filterMap fun
      | .ok _ => none
      | .error misspelling => some misspelling
  }

/-- What a text says. -/
def read (patterns : Patterns) (text : String) : FilterText :=
  match text.toList.splitOn '/' with
  | [directives] => ofDirectives directives
  | [directives, pattern] =>
      let reading := ofDirectives directives
      match patterns (String.ofList pattern) with
      | .ok passes => { reading with passes := passes }
      | .error reason =>
          { reading with misspellings := reading.misspellings ++ [.pattern reason] }
  | _ => { directives := [], misspellings := [.slashes text] }

/-- The warnings of a text's misspellings. -/
def warnings (reading : FilterText) : String :=
  String.join (reading.misspellings.map Misspelling.warning)

/-- The filter that a text writes; one without directives admits errors only. -/
def filter (reading : FilterText) : Filter :=
  let directives :=
    match reading.directives with
    | [] => [⟨.all, .upTo .error⟩]
    | directives => directives
  { Filter.ofDirectives directives with passes := reading.passes }

/-- A warning is a line, so nothing is warned of exactly if nothing is misspelled. -/
theorem warnings_eq_empty_iff {reading : FilterText} :
    reading.warnings = "" ↔ reading.misspellings = [] := by
  unfold warnings
  constructor
  · intro silent
    cases isSpelled : reading.misspellings with
    | nil =>
        rfl
    | cons misspelling others =>
        rw [isSpelled, ← String.toList_inj] at silent
        simp [Misspelling.warning] at silent
  · intro isSpelled
    rw [isSpelled]
    rfl

/-- Directives are not misspelled exactly if each piece of the text writes one. -/
theorem misspellings_ofDirectives_eq_nil_iff {text : List Char} :
    (ofDirectives text).misspellings = [] ↔
      ∀ piece ∈ pieces text, ∃ directive, Directive.ofText piece = .ok directive := by
  simp only [ofDirectives, List.filterMap_eq_nil_iff, List.forall_mem_map]
  refine forall₂_congr fun piece _ => ?_
  cases Directive.ofText piece with
  | ok directive =>
      simp
  | error misspelling =>
      simp

/-- Each piece of the text writes a directive, and its pattern, if it has one, a test. -/
def IsWellSpelled (patterns : Patterns) (text : String) : Prop :=
  ∃ directives,
    (text.toList.splitOn '/' = [directives] ∨
      ∃ pattern passes,
        text.toList.splitOn '/' = [directives, pattern] ∧
          patterns (String.ofList pattern) = .ok passes) ∧
    ∀ piece ∈ pieces directives, ∃ directive, Directive.ofText piece = .ok directive

/-- A text is warned of exactly if it is not well spelled. -/
theorem warnings_read_eq_empty_iff
    {patterns : Patterns}
    {text : String} :
    (read patterns text).warnings = "" ↔ IsWellSpelled patterns text := by
  rw [warnings_eq_empty_iff]
  unfold read IsWellSpelled
  split
  · rename_i directives alone
    rw [misspellings_ofDirectives_eq_nil_iff]
    simp [alone]
  · rename_i directives pattern both
    rw [both]
    cases test : patterns (String.ofList pattern) with
    | ok passes =>
        constructor
        · intro spelled
          exact ⟨directives, .inr ⟨pattern, passes, rfl, test⟩,
            misspellings_ofDirectives_eq_nil_iff.1 spelled⟩
        · rintro ⟨_, isOne | ⟨_, _, isTwo, _⟩, spelled⟩
          · cases isOne
          · cases isTwo
            exact misspellings_ofDirectives_eq_nil_iff.2 spelled
    | error reason =>
        simp [test]
  · rename_i notOne notTwo
    refine ⟨fun impossible => absurd impossible (List.cons_ne_nil _ _), ?_⟩
    rintro ⟨directives, isOne | ⟨pattern, _, isTwo, _⟩, _⟩
    · exact absurd isOne (notOne directives)
    · exact absurd isTwo (notTwo directives pattern)

example :
    (read plainPatterns "off,a=b=c,wisp_dsl=verbose/parsed").warnings =
      "warning: invalid logging spec 'a=b=c', ignoring it\n" ++
        "warning: invalid logging spec 'verbose', ignoring it\n" := by
  decide +kernel

example :
    (read (fun _ => .error "unclosed group") "trace/(").warnings =
      "warning: invalid regex filter - unclosed group, ignoring it\n" := by
  decide +kernel

end FilterText

end WindowLang
