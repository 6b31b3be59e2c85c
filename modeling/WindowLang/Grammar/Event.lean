namespace WindowLang

/-!
# Events of recognition

While a document is recognized, the opening and the closing of every group and
panel is noted with the position of the token that brings it about, counted from
one: the keyword for an opening, the last semicolon for a closing.
-/

/-- Something noted while a document is recognized. -/
inductive Event where
  /-- A group of radio buttons began. -/
  | groupOpened (position : Nat)
  /-- A group ended with this many buttons. -/
  | groupClosed (position : Nat) (buttons : Nat)
  /-- A panel began, the given number of panels being open with it. -/
  | panelOpened (position : Nat) (depth : Nat)
  /-- A panel ended with this many widgets directly inside it. -/
  | panelClosed (position : Nat) (children : Nat)
  deriving DecidableEq, Repr

/-- The token that brought an event about. -/
def Event.position : Event → Nat
  | .groupOpened position => position
  | .groupClosed position _ => position
  | .panelOpened position _ => position
  | .panelClosed position _ => position

/-- An event in words. -/
def Event.text : Event → String
  | .groupOpened position =>
      s!"group opened at token {position}"
  | .groupClosed position buttons =>
      s!"group closed at token {position} with {buttons} buttons"
  | .panelOpened position depth =>
      s!"panel opened at token {position} (depth {depth})"
  | .panelClosed position children =>
      s!"panel closed at token {position} with {children} children"

end WindowLang
