import WindowLang.Grammar.Nesting
import WindowLang.Grammar.Openings

namespace WindowLang

/-!
# Matching of events

Events open and close containers like brackets of two kinds. A closing must belong to the
newest opening that is not matched yet, and that one must be of its kind. Besides, an event
tells the place where a token of the right kind stands, and how many panels are open there.
-/

/-- The unmatched openings after one more event, the newest first, if the event fits. -/
def Event.match? (opened : List Event) (event : Event) : Option (List Event) :=
  match event, opened with
  | .groupOpened position, opened => some (.groupOpened position :: opened)
  | .panelOpened position depth, opened => some (.panelOpened position depth :: opened)
  | .groupClosed _ _, .groupOpened _ :: outer => some outer
  | .panelClosed _ _, .panelOpened _ _ :: outer => some outer
  | _, _ => none

/-- The openings that some events leave unmatched, the newest first, if all events fit. -/
def unmatched? (events : List Event) : Option (List Event) :=
  events.foldlM Event.match? []

/-- The events are a well-nested sequence of openings and closings. -/
def Event.AreNested (events : List Event) : Prop :=
  unmatched? events = some []

open Grammar in
/-- The event noted the opening of the container. -/
inductive Event.Opens : Event → Opening → Prop where
  | group
      {position items : Nat} :
      Opens (.groupOpened position) ⟨.group, position, items⟩
  | panel
      {position depth items : Nat} :
      Opens (.panelOpened position depth) ⟨.panel, position, items⟩

open Grammar in
/-- The event is what the token at its position brings about. -/
inductive Event.TellsOf (tokens : List Token) : Event → Prop where
  | groupOpened
      {before after : List Token}
      {token : Token}
      (split : tokens = before ++ token :: after)
      (isGroup : token.kind = .keyword .group) :
      TellsOf tokens (.groupOpened (before.length + 1))
  | panelOpened
      {before after : List Token}
      {token : Token}
      (split : tokens = before ++ token :: after)
      (isPanel : token.kind = .keyword .panel) :
      TellsOf tokens (.panelOpened (before.length + 1) (openPanelsBehind (before ++ [token])))
  | groupClosed
      {before after : List Token}
      {token : Token}
      {outer : List Keyword}
      {buttons : Nat}
      (split : tokens = before ++ token :: after)
      (isSemicolon : token.kind = .mark .semicolon)
      (closes : nestingBehind before = ⟨.group :: outer, true⟩) :
      TellsOf tokens (.groupClosed (before.length + 1) buttons)
  | panelClosed
      {before after : List Token}
      {token : Token}
      {outer : List Keyword}
      {children : Nat}
      (split : tokens = before ++ token :: after)
      (isSemicolon : token.kind = .mark .semicolon)
      (closes : nestingBehind before = ⟨.panel :: outer, true⟩) :
      TellsOf tokens (.panelClosed (before.length + 1) children)

end WindowLang
