import WindowLang.Outline.Renderer

namespace WindowLang

/-!
# Counting in bounds

A renderer counts with numbers that have a greatest one: a product beyond it cannot be
computed, and nothing can be taken from zero. Here a call is the strokes that it takes, one
after the other, and a stroke fails where its arithmetic would leave these bounds. A depth
is not greater than the number of calls, so it needs no bound of its own.
-/

/-- The greatest number of 64 bits, with which a renderer can count. -/
def greatestCount : Nat := 18446744073709551615

/-- What a renderer does within a call. -/
inductive Stroke where
  /-- It writes a line with some text at the present depth. -/
  | write (text : String)
  /-- It goes one level deeper. -/
  | deepen
  /-- It goes back by one level, which has to be there. -/
  | leave
  /-- It goes back by one level, if there is one. -/
  | leaveIfAny
  deriving DecidableEq, Repr

/-- Why a stroke fails. -/
inductive DrawFault where
  /-- The indentation is too great to be computed. -/
  | overflow
  /-- There is no level to go back by. -/
  | underflow
  /-- A line would have to be indented too far. -/
  | tooWide (fault : TooWide)
  deriving DecidableEq, Repr

/-- What has been drawn, and how deep the next line stands. -/
structure Drawing where
  text : String := ""
  depth : Nat := 0
  deriving DecidableEq, Repr

/-- The drawing with more text behind it, at another depth. -/
def Drawing.extend
    (drawing : Drawing)
    (depth : Nat) :
    Except TooWide String → Except DrawFault Drawing
  | .ok text => .ok ⟨drawing.text ++ text, depth⟩
  | .error fault => .error (.tooWide fault)

/-- The drawing after one more stroke. -/
def Drawing.take (indent : Nat) (drawing : Drawing) : Stroke → Except DrawFault Drawing
  | .write text =>
      if drawing.depth * indent ≤ greatestCount then
        drawing.extend drawing.depth ((Line.mk drawing.depth text).write indent)
      else
        .error .overflow
  | .deepen => .ok { drawing with depth := drawing.depth + 1 }
  | .leave =>
      if 0 < drawing.depth then
        .ok { drawing with depth := drawing.depth - 1 }
      else
        .error .underflow
  | .leaveIfAny => .ok { drawing with depth := drawing.depth - 1 }

/-- The drawing after some strokes, of which none has failed. -/
def Drawing.takeAll
    (indent : Nat)
    (drawing : Drawing)
    (strokes : List Stroke) :
    Except DrawFault Drawing :=
  strokes.foldlM (Drawing.take indent) drawing

/-- The strokes of a call. -/
def Call.parts : Call → List Stroke
  | .beginWindow title width height layout =>
      [.write (windowText title width height layout), .deepen]
  | .button caption => [.write (buttonText caption)]
  | .label text => [.write (labelText text)]
  | .textField columns => [.write (textFieldText columns)]
  | .radioGroup buttons =>
      .write radioGroupText :: .deepen :: ((buttons.map radioText).map .write ++ [.leave])
  | .beginPanel layout => [.write (panelText layout), .deepen]
  | .endPanel => [.leaveIfAny]

/-- A drawing that the strokes of some calls lead to, between two calls or within one. -/
def Drawing.Reached (indent : Nat) (calls : List Call) (drawing : Drawing) : Prop :=
  ∃ first rest,
    calls.flatMap Call.parts = first ++ rest ∧ Drawing.takeAll indent {} first = .ok drawing

end WindowLang
