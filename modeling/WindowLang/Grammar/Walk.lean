import WindowLang.Grammar.Document

namespace WindowLang

/-!
# Walks through a window

A walk enters and leaves the groups and panels of a window in the order of the
source. It is what remains of the events of recognition when their positions are
taken away.
-/

/-- One step of a walk. -/
inductive Step where
  /-- A group begins. -/
  | enterGroup
  /-- A group ends with this many buttons. -/
  | leaveGroup (buttons : Nat)
  /-- A panel begins, the given number of panels being open with it. -/
  | enterPanel (depth : Nat)
  /-- A panel ends with this many widgets directly inside it. -/
  | leavePanel (children : Nat)
  deriving DecidableEq, Repr

/-- An event without its position. -/
def Event.step : Event → Step
  | .groupOpened _ => .enterGroup
  | .groupClosed _ buttons => .leaveGroup buttons
  | .panelOpened _ depth => .enterPanel depth
  | .panelClosed _ children => .leavePanel children

mutual

/-- The walk through a widget inside so many panels. -/
def Widget.walk (depth : Nat) : Widget → List Step
  | .button _ => []
  | .label _ => []
  | .textField _ => []
  | .radioGroup buttons => [.enterGroup, .leaveGroup buttons.length]
  | .panel _ children =>
      .enterPanel (depth + 1) ::
        (Widget.walkAll (depth + 1) children ++ [.leavePanel children.length])

/-- The walk through some widgets inside so many panels. -/
def Widget.walkAll (depth : Nat) : List Widget → List Step
  | [] => []
  | widget :: rest => widget.walk depth ++ Widget.walkAll depth rest

end

/-- The walk through a window. -/
def Window.walk (window : Window) : List Step :=
  Widget.walkAll 0 window.children

end WindowLang
