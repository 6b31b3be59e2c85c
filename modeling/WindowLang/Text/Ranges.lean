namespace WindowLang.Text

/-!
# Sets of code points

A property of characters is stored as a table of closed ranges of code points.
Membership asks whether some range of the table holds the code point, so it
needs neither an order nor disjointness of the ranges.
-/

/-- Closed ranges of code points, each as its first and its last member. -/
abbrev Ranges := List (Nat × Nat)

/-- Some range of the table holds the code point. -/
def Ranges.contains (ranges : Ranges) (code : Nat) : Bool :=
  ranges.any fun range => decide (range.1 ≤ code) && decide (code ≤ range.2)

end WindowLang.Text
