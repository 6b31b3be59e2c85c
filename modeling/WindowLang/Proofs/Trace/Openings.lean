import Mathlib.Data.List.Forall2
import WindowLang.Grammar.Matching

namespace WindowLang.Grammar

/-!
# What is noted of openings

Whatever the tokens are, what they give to note stands at ever later tokens, tells of those
tokens, and matches like brackets: the openings that are not matched are those of the
containers that are still open.
-/

/-! ## Containers -/

theorem withItems_zero (containers : List Opening) :
    withItems 0 containers = containers := by
  cases containers with
  | nil =>
      rfl
  | cons innermost outer =>
      rfl

theorem withItems_withItems (first second : Nat) (containers : List Opening) :
    withItems second (withItems first containers) = withItems (first + second) containers := by
  cases containers with
  | nil =>
      rfl
  | cons innermost outer =>
      simp only [withItems, Nat.add_assoc]

theorem map_keyword_withItems (count : Nat) (containers : List Opening) :
    (withItems count containers).map Opening.keyword = containers.map Opening.keyword := by
  cases containers with
  | nil =>
      rfl
  | cons innermost outer =>
      rfl

namespace Openings

theorem behind_append (openings : Openings) (first second : List Token) :
    openings.behind (first ++ second) = (openings.behind first).behind second :=
  List.foldl_append

theorem trace_append (openings : Openings) (first second : List Token) :
    openings.trace (first ++ second) =
      openings.trace first ++ (openings.behind first).trace second := by
  induction first generalizing openings with
  | nil =>
      rfl
  | cons token first inductionHypothesis =>
      rw [List.cons_append, trace, trace, inductionHypothesis, List.append_assoc]
      rfl

theorem consumed_behind (openings : Openings) (tokens : List Token) :
    (openings.behind tokens).consumed = openings.consumed + tokens.length := by
  induction tokens generalizing openings with
  | nil =>
      rfl
  | cons token tokens inductionHypothesis =>
      have behind : openings.behind (token :: tokens) = (openings.after token).behind tokens := rfl
      rw [behind, inductionHypothesis, List.length_cons, Nat.add_comm tokens.length,
        ← Nat.add_assoc]
      rfl

/-- What is noted is what one of the tokens gives to note. -/
theorem exists_of_mem_trace
    {openings : Openings}
    {tokens : List Token}
    {event : Event}
    (noted : event ∈ openings.trace tokens) :
    ∃ before token after,
      tokens = before ++ token :: after ∧
        (openings.behind before).event? token = some event := by
  induction tokens generalizing openings with
  | nil =>
      cases noted
  | cons token tokens inductionHypothesis =>
      rcases List.mem_append.1 noted with now | later
      · exact ⟨[], token, tokens, rfl, Option.mem_toList.1 now⟩
      · obtain ⟨before, next, after, rfl, gives⟩ := inductionHypothesis later
        exact ⟨token :: before, next, after, rfl, gives⟩

/-! ## Positions -/

theorem position_of_event?
    {openings : Openings}
    {token : Token}
    {event : Event}
    (gives : openings.event? token = some event) :
    event.position = openings.consumed + 1 := by
  unfold event? at gives
  split at gives
  · cases gives
    rfl
  · cases gives
    rfl
  · split at gives
    · obtain ⟨opening, _, rfl⟩ := Option.map_eq_some_iff.1 gives
      unfold Opening.closed
      split
      · rfl
      · rfl
    · cases gives
  · cases gives

/-- What is noted stands at the tokens. -/
theorem position_of_mem_trace
    {openings : Openings}
    {tokens : List Token}
    {event : Event}
    (noted : event ∈ openings.trace tokens) :
    openings.consumed < event.position ∧
      event.position ≤ openings.consumed + tokens.length := by
  obtain ⟨before, token, after, rfl, gives⟩ := exists_of_mem_trace noted
  rw [position_of_event? gives, consumed_behind, List.length_append, List.length_cons]
  omega

/-- No token gives more than one event to note, and later ones give later events. -/
theorem pairwise_position_trace (openings : Openings) (tokens : List Token) :
    ((openings.trace tokens).map Event.position).Pairwise (· < ·) := by
  induction tokens generalizing openings with
  | nil =>
      exact .nil
  | cons token tokens inductionHypothesis =>
      rw [trace, List.map_append, List.pairwise_append]
      refine ⟨?_, inductionHypothesis (openings.after token), ?_⟩
      · cases openings.event? token with
        | none =>
            exact .nil
        | some event =>
            exact List.pairwise_singleton _ _
      · intro first now second later
        obtain ⟨event, isNow, rfl⟩ := List.mem_map.1 now
        obtain ⟨other, isLater, rfl⟩ := List.mem_map.1 later
        have atToken := position_of_event? (Option.mem_toList.1 isNow)
        have behindToken := (position_of_mem_trace isLater).1
        rw [atToken]
        exact behindToken

/-! ## Nesting -/

/-- The containers are those of a nesting. -/
structure Nests (openings : Openings) (nesting : Nesting) : Prop where
  containers : openings.containers.map Opening.keyword = nesting.containers
  closing : openings.closing = nesting.closing

/-- A token changes the containers as it changes the nesting. -/
theorem Nests.after
    {openings : Openings}
    {nesting : Nesting}
    (nests : openings.Nests nesting)
    (token : Token) :
    (openings.after token).Nests (nesting.after token) := by
  obtain ⟨containers, closing⟩ := nests
  unfold Openings.after Nesting.after
  cases isKind : token.kind with
  | mark symbol =>
      cases symbol with
      | semicolon =>
          cases isClosing : openings.closing with
          | false =>
              rw [isClosing] at closing
              exact ⟨by simp [← closing, containers], by simp [← closing]⟩
          | true =>
              rw [isClosing] at closing
              exact ⟨by simp [← closing, ← containers], by simp [← closing]⟩
      | _ =>
          exact ⟨containers, by simp⟩
  | keyword word =>
      cases word with
      | panel | group =>
          exact ⟨by simp [map_keyword_withItems, containers], by simp⟩
      | button | label | textfield | radio =>
          exact ⟨by simp [map_keyword_withItems, containers], by simp⟩
      | _ =>
          exact ⟨containers, by simp⟩
  | _ =>
      exact ⟨containers, by simp⟩

theorem Nests.behind
    {openings : Openings}
    {nesting : Nesting}
    (nests : openings.Nests nesting)
    (tokens : List Token) :
    (openings.behind tokens).Nests (tokens.foldl Nesting.after nesting) := by
  induction tokens generalizing openings nesting with
  | nil =>
      exact nests
  | cons token tokens inductionHypothesis =>
      exact inductionHypothesis (nests.after token)

theorem nests_start (tokens : List Token) :
    (start.behind tokens).Nests (nestingBehind tokens) :=
  Nests.behind ⟨rfl, rfl⟩ tokens

/-- Only the keywords of the containers matter for the number of open panels. -/
theorem panels_eq_count (openings : Openings) :
    openings.panels = (openings.containers.map Opening.keyword).count .panel := by
  rw [List.count, List.countP_map]
  rfl

/-- Items that begin in the innermost container leave the panels as they are. -/
theorem panels_of_withItems
    {openings later : Openings}
    {count : Nat}
    (same : later.containers = withItems count openings.containers) :
    later.panels = openings.panels := by
  rw [panels_eq_count, panels_eq_count, same, map_keyword_withItems]

end Openings

/-! ## Matching -/

theorem forall₂_withItems
    {containers : List Opening}
    {opened : List Event}
    (areOpen : List.Forall₂ Event.Opens opened containers)
    (count : Nat) :
    List.Forall₂ Event.Opens opened (withItems count containers) := by
  cases areOpen with
  | nil =>
      exact .nil
  | cons opens others =>
      refine .cons ?_ others
      cases opens with
      | group =>
          exact .group
      | panel =>
          exact .panel

namespace Openings

/-- What a token gives to note fits behind the openings of the open containers. -/
theorem match_event?
    {openings : Openings}
    {opened : List Event}
    (areOpen : List.Forall₂ Event.Opens opened openings.containers)
    (token : Token) :
    ∃ next,
      (openings.event? token).toList.foldlM Event.match? opened = some next ∧
        List.Forall₂ Event.Opens next (openings.after token).containers := by
  obtain ⟨consumed, containers, closing⟩ := openings
  unfold event? after
  cases isKind : token.kind with
  | mark symbol =>
      cases symbol with
      | semicolon =>
          cases closing with
          | false =>
              exact ⟨opened, rfl, areOpen⟩
          | true =>
              cases areOpen with
              | nil =>
                  exact ⟨[], rfl, .nil⟩
              | cons opens others =>
                  cases opens with
                  | group | panel =>
                      exact ⟨_, rfl, others⟩
      | _ =>
          exact ⟨opened, rfl, areOpen⟩
  | keyword word =>
      cases word with
      | panel =>
          exact ⟨_, rfl, .cons .panel (forall₂_withItems areOpen 1)⟩
      | group =>
          exact ⟨_, rfl, .cons .group (forall₂_withItems areOpen 1)⟩
      | button | label | textfield | radio =>
          exact ⟨opened, rfl, forall₂_withItems areOpen 1⟩
      | _ =>
          exact ⟨opened, rfl, areOpen⟩
  | _ =>
      exact ⟨opened, rfl, areOpen⟩

/-- All that is noted fits, and leaves the openings of the open containers unmatched. -/
theorem match_trace
    {openings : Openings}
    {opened : List Event}
    (areOpen : List.Forall₂ Event.Opens opened openings.containers)
    (tokens : List Token) :
    ∃ last,
      (openings.trace tokens).foldlM Event.match? opened = some last ∧
        List.Forall₂ Event.Opens last (openings.behind tokens).containers := by
  induction tokens generalizing openings opened with
  | nil =>
      exact ⟨opened, rfl, areOpen⟩
  | cons token tokens inductionHypothesis =>
      obtain ⟨next, fits, nextOpen⟩ := match_event? areOpen token
      obtain ⟨last, fitsOn, lastOpen⟩ := inductionHypothesis nextOpen
      refine ⟨last, ?_, lastOpen⟩
      rw [trace, List.foldlM_append, fits]
      exact fitsOn

/-- The openings that tokens leave unmatched are those of the containers that they leave open. -/
theorem unmatched?_trace (tokens : List Token) :
    ∃ opened,
      unmatched? (start.trace tokens) = some opened ∧
        List.Forall₂ Event.Opens opened (openingsBehind tokens) :=
  match_trace .nil tokens

/-- Closings match the openings of the containers that they close. -/
theorem match_closed
    {opened : List Event}
    {containers : List Opening}
    (areOpen : List.Forall₂ Event.Opens opened containers) :
    (containers.map (Opening.closed 0)).foldlM Event.match? opened = some [] := by
  induction areOpen with
  | nil =>
      rfl
  | cons opens others inductionHypothesis =>
      cases opens with
      | group | panel =>
          exact inductionHypothesis

/-- Whatever is noted so far, closings make it well-nested. -/
theorem exists_areNested (tokens : List Token) :
    ∃ more, Event.AreNested (start.trace tokens ++ more) := by
  obtain ⟨opened, fits, areOpen⟩ := unmatched?_trace tokens
  refine ⟨(openingsBehind tokens).map (Opening.closed 0), ?_⟩
  rw [unmatched?] at fits
  rw [Event.AreNested, unmatched?, List.foldlM_append, fits]
  exact match_closed areOpen

/-! ## Telling of tokens -/

theorem consumed_behind_start (tokens : List Token) :
    (start.behind tokens).consumed = tokens.length := by
  rw [consumed_behind]
  exact Nat.zero_add _

/-- One more panel is open behind its keyword. -/
theorem panels_of_panel
    {token : Token}
    (isPanel : token.kind = .keyword .panel)
    (before : List Token) :
    (start.behind before).panels + 1 = openPanelsBehind (before ++ [token]) := by
  have behindPanel : nestingBehind (before ++ [token]) = (nestingBehind before).after token :=
    List.foldl_append
  rw [panels_eq_count, (nests_start before).containers, openPanelsBehind, behindPanel]
  simp [Nesting.after, isPanel]

/-- A semicolon that is noted closes the innermost container, which is a group or a panel. -/
theorem tellsOf_closed
    {before after : List Token}
    {token : Token}
    {opening : Opening}
    (isSemicolon : token.kind = .mark .semicolon)
    (closing : (start.behind before).closing = true)
    (innermost : (start.behind before).containers.head? = some opening) :
    (opening.closed (before.length + 1)).TellsOf (before ++ token :: after) := by
  obtain ⟨outer, split⟩ := List.head?_eq_some_iff.1 innermost
  obtain ⟨opened, _, areOpen⟩ := unmatched?_trace before
  obtain ⟨containers, closes⟩ := nests_start before
  have nesting :
      nestingBehind before = ⟨opening.keyword :: outer.map Opening.keyword, true⟩ := by
    rw [split] at containers
    rw [closing] at closes
    exact congrArg₂ Nesting.mk containers.symm closes.symm
  rw [openingsBehind, split] at areOpen
  cases areOpen with
  | cons opens others =>
      cases opens with
      | group =>
          exact .groupClosed rfl isSemicolon nesting
      | panel =>
          exact .panelClosed rfl isSemicolon nesting

theorem tellsOf_of_event?
    {before after : List Token}
    {token : Token}
    {event : Event}
    (gives : (start.behind before).event? token = some event) :
    event.TellsOf (before ++ token :: after) := by
  unfold event? at gives
  rw [consumed_behind_start] at gives
  split at gives
  · rename_i isPanel
    cases gives
    rw [panels_of_panel isPanel]
    exact .panelOpened rfl isPanel
  · rename_i isGroup
    cases gives
    exact .groupOpened rfl isGroup
  · rename_i isSemicolon
    split at gives
    · rename_i closing
      obtain ⟨opening, innermost, rfl⟩ := Option.map_eq_some_iff.1 gives
      exact tellsOf_closed isSemicolon closing innermost
    · cases gives
  · cases gives

/-- What some tokens give to note tells of them, whatever follows them. -/
theorem tellsOf_of_mem_trace
    {tokens : List Token}
    {event : Event}
    (noted : event ∈ start.trace tokens)
    (left : List Token) :
    event.TellsOf (tokens ++ left) := by
  obtain ⟨before, token, after, rfl, gives⟩ := exists_of_mem_trace noted
  rw [List.append_assoc, List.cons_append]
  exact tellsOf_of_event? gives

end Openings

end WindowLang.Grammar
