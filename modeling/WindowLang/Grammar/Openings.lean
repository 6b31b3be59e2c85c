import WindowLang.Grammar.Event
import WindowLang.Grammar.Nesting

namespace WindowLang.Grammar

/-!
# Openings

Whoever sees the tokens of a document one after the other, and each of them once, can tell
where the open containers began and how many items have begun inside each. That is enough to
note, token by token, which containers are opened and closed.
-/

/-- A container that is open. -/
structure Opening where
  /-- The keyword that opened it. -/
  keyword : Keyword
  /-- The position of that keyword, counted from one. -/
  position : Nat
  /-- The number of items that have begun directly inside it. -/
  items : Nat
  deriving DecidableEq, Repr

/-- Some containers, the innermost first, with so many more items in the innermost one. -/
def withItems (count : Nat) : List Opening → List Opening
  | [] => []
  | innermost :: outer => { innermost with items := innermost.items + count } :: outer

/-- The event that a container is closed. -/
def Opening.closed (position : Nat) (opening : Opening) : Event :=
  if opening.keyword = .group then
    .groupClosed position opening.items
  else
    .panelClosed position opening.items

/-- What is known of the containers at a place among tokens. -/
structure Openings where
  /-- The number of tokens before the place. -/
  consumed : Nat
  /-- The open containers, the innermost first. -/
  containers : List Opening
  /-- The token before the place is a closing keyword. -/
  closing : Bool
  deriving DecidableEq, Repr

namespace Openings

/-- What is known before the first token. -/
def start : Openings where
  consumed := 0
  containers := []
  closing := false

/-- The number of open panels. -/
def panels (openings : Openings) : Nat :=
  openings.containers.countP fun opening => opening.keyword = .panel

/-- What is known behind one more token. -/
def after (openings : Openings) (token : Token) : Openings where
  consumed := openings.consumed + 1
  containers :=
    match token.kind with
    | .keyword .panel => ⟨.panel, openings.consumed + 1, 0⟩ :: withItems 1 openings.containers
    | .keyword .group => ⟨.group, openings.consumed + 1, 0⟩ :: withItems 1 openings.containers
    | .keyword .button => withItems 1 openings.containers
    | .keyword .label => withItems 1 openings.containers
    | .keyword .textfield => withItems 1 openings.containers
    | .keyword .radio => withItems 1 openings.containers
    | .mark .semicolon =>
        if openings.closing then
          openings.containers.tail
        else
          openings.containers
    | _ => openings.containers
  closing := decide (token.kind = .keyword .close)

/-- What is known behind some more tokens. -/
def behind (openings : Openings) (tokens : List Token) : Openings :=
  tokens.foldl after openings

/-- What one more token gives to note. -/
def event? (openings : Openings) (token : Token) : Option Event :=
  match token.kind with
  | .keyword .panel => some (.panelOpened (openings.consumed + 1) (openings.panels + 1))
  | .keyword .group => some (.groupOpened (openings.consumed + 1))
  | .mark .semicolon =>
      if openings.closing then
        openings.containers.head?.map (Opening.closed (openings.consumed + 1))
      else
        none
  | _ => none

/-- What some more tokens give to note, in their order. -/
def trace (openings : Openings) : List Token → List Event
  | [] => []
  | token :: rest => (openings.event? token).toList ++ (openings.after token).trace rest

end Openings

/-- The containers that some tokens open and do not close, the innermost first. -/
def openingsBehind (tokens : List Token) : List Opening :=
  (Openings.start.behind tokens).containers

end WindowLang.Grammar
