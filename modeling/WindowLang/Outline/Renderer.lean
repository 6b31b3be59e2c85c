import WindowLang.Outline.Line

namespace WindowLang

/-!
# Rendering an outline

The renderer of outlines writes the lines of each call, indented by a number of
columns for each level of depth. A line cannot be indented by more than 65535
columns; a call with such a line fails, and nothing is drawn after it.
-/

/-- The greatest indentation of a line, in columns. -/
def indentationLimit : Nat := 65535

/-- A line would have to be indented too far. -/
structure TooWide where
  /-- The indentation that was asked for, in columns. -/
  columns : Nat
  deriving DecidableEq, Repr

/-- The failure in words. -/
def TooWide.message (_ : TooWide) : String :=
  "Formatting argument out of range"

/-- A line with its indentation and its end. -/
def Line.write (indent : Nat) (line : Line) : Except TooWide String :=
  if line.depth * indent ≤ indentationLimit then
    .ok (String.ofList (List.replicate (line.depth * indent) ' ') ++ line.text ++ "\n")
  else
    .error ⟨line.depth * indent⟩

/-- The usual indentation, in columns for each level of depth. -/
def usualIndent : Nat := 2

/-- The state of an outline's renderer between two calls. -/
structure Outliner where
  /-- Columns for each level of depth. -/
  indent : Nat := usualIndent
  /-- The number of containers that are open. -/
  depth : Nat := 0
  deriving DecidableEq, Repr

namespace Outliner

/-- What a call writes. -/
def draw (outliner : Outliner) (call : Call) : Except TooWide String :=
  String.join <$> (call.lines outliner.depth).mapM (Line.write outliner.indent)

/-- The renderer after a call. -/
def after (outliner : Outliner) (call : Call) : Outliner where
  indent := outliner.indent
  depth := call.depthAfter outliner.depth

/-- What each call writes, up to the first one that fails. -/
def steps (outliner : Outliner) : List Call → List (Except TooWide String)
  | [] => []
  | call :: rest =>
      match outliner.draw call with
      | .ok text => .ok text :: (outliner.after call).steps rest
      | .error fault => [.error fault]

/-- What all calls write together. -/
def drawAll (outliner : Outliner) (calls : List Call) : Except TooWide String :=
  String.join <$> (outliner.steps calls).mapM id

end Outliner

/-- The outline of a window, indented by so many columns for each level of depth. -/
def Window.render (indent : Nat) (window : Window) : Except TooWide String :=
  ({ indent := indent } : Outliner).drawAll window.calls

end WindowLang
