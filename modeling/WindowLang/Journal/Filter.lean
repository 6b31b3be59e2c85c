import WindowLang.Journal.Level

namespace WindowLang

/-!
# Filters of a journal

A filter has directives and a test of messages. Each directive sets the threshold for a
scope: for all targets, or for those that start with a given text. Of the directives that
apply to a target the one with the longest text decides, and a target to which none applies
is off. A directive that is put into a filter takes the place of one for the same scope.
-/

/-- The targets that a directive is about. -/
inductive Scope where
  /-- All targets. -/
  | all
  /-- The targets that start with a text. -/
  | startingWith (text : String)
  deriving DecidableEq, Repr

/-- The target belongs to the scope. -/
def Scope.covers (target : String) : Scope → Bool
  | .all => true
  | .startingWith text => text.toList.isPrefixOf target.toList

/-- How much of a target the scope fixes, in characters. -/
def Scope.length : Scope → Nat
  | .all => 0
  | .startingWith text => text.length

/-- The threshold for the targets of a scope. -/
structure Directive where
  scope : Scope
  threshold : Threshold
  deriving DecidableEq, Repr

/-- The directives with one more, in the place of one for the same scope or else at the end. -/
def Directive.putInto (directive : Directive) : List Directive → List Directive
  | [] => [directive]
  | earlier :: rest =>
      if earlier.scope = directive.scope then
        directive :: rest
      else
        earlier :: directive.putInto rest

/-- Putting a directive keeps the scopes and adds its own if that is new. -/
theorem Directive.map_scope_putInto
    (directive : Directive)
    (known : List Directive) :
    (directive.putInto known).map Directive.scope =
      if directive.scope ∈ known.map Directive.scope then
        known.map Directive.scope
      else
        known.map Directive.scope ++ [directive.scope] := by
  induction known with
  | nil =>
      rfl
  | cons earlier rest inductionHypothesis =>
      by_cases same : earlier.scope = directive.scope
      · simp [Directive.putInto, same]
      · have other : directive.scope ≠ earlier.scope := Ne.symm same
        by_cases isKnown : directive.scope ∈ rest.map Directive.scope
        · simp only [Directive.putInto, if_neg same, List.map_cons, inductionHypothesis,
            if_pos isKnown, if_pos (List.mem_cons_of_mem _ isKnown)]
        · have new : directive.scope ∉ earlier.scope :: rest.map Directive.scope :=
            fun member => (List.mem_cons.1 member).elim other isKnown
          simp only [Directive.putInto, if_neg same, List.map_cons, inductionHypothesis,
            if_neg isKnown, if_neg new, List.cons_append]

/-- Directives with different scopes stay so when one is put. -/
theorem Directive.nodup_putInto
    {known : List Directive}
    (directive : Directive)
    (distinct : (known.map Directive.scope).Nodup) :
    ((directive.putInto known).map Directive.scope).Nodup := by
  rw [Directive.map_scope_putInto]
  split
  · exact distinct
  · rename_i new
    refine List.nodup_append.2 ⟨distinct, by simp, ?_⟩
    intro scope member added isAdded same
    rw [List.mem_singleton.1 isAdded] at same
    exact new (same ▸ member)

/-- The directives of a list, put one after the other. -/
def Directive.putAll (directives : List Directive) : List Directive :=
  directives.foldl (fun known directive => directive.putInto known) []

/-- However often a scope comes up, one directive is left for it. -/
theorem Directive.nodup_putAll (directives : List Directive) :
    ((Directive.putAll directives).map Directive.scope).Nodup := by
  have kept
      (known : List Directive)
      (distinct : (known.map Directive.scope).Nodup) :
      ((directives.foldl (fun known directive => directive.putInto known) known).map
        Directive.scope).Nodup := by
    induction directives generalizing known with
    | nil =>
        exact distinct
    | cons directive rest inductionHypothesis =>
        exact inductionHypothesis _ (directive.nodup_putInto distinct)
  exact kept [] List.nodup_nil

/-- What a journal lets through. -/
structure Filter where
  /-- The directives, where a later one outweighs an earlier one that fixes as much. -/
  directives : List Directive
  /-- No scope has two directives. -/
  distinct : (directives.map Directive.scope).Nodup
  /-- The test that a message has to pass. -/
  passes : String → Bool

/-- The weightier of a directive found so far and a later one. -/
def weightier (target : String) (found : Option Directive) (directive : Directive) :
    Option Directive :=
  if directive.scope.covers target then
    match found with
    | none => some directive
    | some earlier =>
        if earlier.scope.length ≤ directive.scope.length then some directive else found
  else
    found

/-- The threshold for a target. -/
def Filter.threshold (filter : Filter) (target : String) : Threshold :=
  match filter.directives.foldl (weightier target) none with
  | none => .off
  | some directive => directive.threshold

/-- The filter of some directives in the order in which they are put, without a test. -/
def Filter.ofDirectives (directives : List Directive) : Filter where
  directives := Directive.putAll directives
  distinct := Directive.nodup_putAll directives
  passes := fun _ => true

/-- A filter that treats all targets alike. -/
def Filter.uniform (threshold : Threshold) : Filter :=
  .ofDirectives [⟨.all, threshold⟩]

end WindowLang
