import WindowLang.Outline.Counting
import WindowLang.Proofs.Outline.Rendering

namespace WindowLang

/-!
# Renderers count in bounds

A renderer goes one level deeper only behind a line that it has drawn one level above, so
the indentation of that line bounds all that it computes. Every stroke keeps this, within a
call as well as between two calls. So no product is too great to be computed, and no level
is left that was not entered; what a renderer with bounded numbers draws is what one with
unbounded numbers draws, and both fail only where a line would be indented too far.
-/

/-! ## Covered depths -/

/-- A line one level above is not indented too far, if there is a level above. -/
def IsCovered (indent depth : Nat) : Prop :=
  depth = 0 ∨ (depth - 1) * indent ≤ indentationLimit

theorem IsCovered.deeper
    {indent depth : Nat}
    (narrow : depth * indent ≤ indentationLimit) :
    IsCovered indent (depth + 1) :=
  .inr narrow

theorem IsCovered.back
    {indent depth : Nat}
    (covered : IsCovered indent depth) :
    IsCovered indent (depth - 1) := by
  rcases covered with rfl | narrow
  · exact .inl rfl
  · exact .inr (Nat.le_trans (Nat.mul_le_mul_right indent (Nat.sub_le _ 1)) narrow)

/-- What is computed at a covered depth is the indentation of one level, or it is small. -/
theorem IsCovered.product_le
    {indent depth : Nat}
    (covered : IsCovered indent depth) :
    depth * indent ≤ max indent 131070 := by
  match depth, covered with
  | 0, _ =>
      rw [Nat.zero_mul]
      exact Nat.zero_le _
  | 1, _ =>
      rw [Nat.one_mul]
      exact Nat.le_max_left _ _
  | depth + 2, .inr narrow =>
      -- One level is not more than all the levels above.
      have oneLevel : indent ≤ (depth + 1) * indent :=
        Nat.le_mul_of_pos_left indent (Nat.succ_pos depth)
      have levelsAbove : (depth + 1) * indent ≤ 65535 := narrow
      have product : (depth + 2) * indent = (depth + 1) * indent + indent :=
        Nat.succ_mul (depth + 1) indent
      omega

theorem max_le_greatestCount
    {indent : Nat}
    (fits : indent ≤ greatestCount) :
    max indent 131070 ≤ greatestCount :=
  Nat.max_le.2 ⟨fits, by decide⟩

/-- The bound for counting is that of 64 bits. -/
example : greatestCount + 1 = 2 ^ 64 := by decide

/-! ## Strokes from covered depths -/

/-- At a covered depth the indentation of a line can be computed. -/
theorem Drawing.take_write
    {indent : Nat}
    {drawing : Drawing}
    (fits : indent ≤ greatestCount)
    (covered : IsCovered indent drawing.depth)
    (text : String) :
    drawing.take indent (.write text) =
      drawing.extend drawing.depth ((Line.mk drawing.depth text).write indent) :=
  if_pos (Nat.le_trans covered.product_le (max_le_greatestCount fits))

/-- Strokes only lead to covered depths, and they fail only where a line is too wide. -/
inductive StaysCovered (indent : Nat) : Drawing → List Stroke → Prop where
  | done
      {drawing : Drawing}
      (covered : IsCovered indent drawing.depth) :
      StaysCovered indent drawing []
  | takes
      {drawing next : Drawing}
      {stroke : Stroke}
      {rest : List Stroke}
      (covered : IsCovered indent drawing.depth)
      (taken : drawing.take indent stroke = .ok next)
      (behind : StaysCovered indent next rest) :
      StaysCovered indent drawing (stroke :: rest)
  | fails
      {drawing : Drawing}
      {stroke : Stroke}
      {rest : List Stroke}
      {fault : TooWide}
      (covered : IsCovered indent drawing.depth)
      (failed : drawing.take indent stroke = .error (.tooWide fault)) :
      StaysCovered indent drawing (stroke :: rest)

/-- A line is drawn at a covered depth, and the next strokes know that it is not too wide. -/
theorem StaysCovered.write
    {indent : Nat}
    {drawing : Drawing}
    {text : String}
    {rest : List Stroke}
    (fits : indent ≤ greatestCount)
    (covered : IsCovered indent drawing.depth)
    (behind :
      ∀ next : Drawing,
        next.depth = drawing.depth →
        next.depth * indent ≤ indentationLimit →
        StaysCovered indent next rest) :
    StaysCovered indent drawing (.write text :: rest) := by
  have taken := Drawing.take_write fits covered text
  by_cases narrow : (Line.mk drawing.depth text).Fits indent
  · rw [Line.write_of_fits narrow] at taken
    exact .takes covered taken (behind _ rfl narrow)
  · rw [Line.write_of_not_fits narrow] at taken
    exact .fails covered taken

/-- Lines at one depth do not change it. -/
theorem StaysCovered.writes
    {indent : Nat}
    {drawing : Drawing}
    {texts : List String}
    {rest : List Stroke}
    (fits : indent ≤ greatestCount)
    (covered : IsCovered indent drawing.depth)
    (behind :
      ∀ next : Drawing, next.depth = drawing.depth → StaysCovered indent next rest) :
    StaysCovered indent drawing (texts.map Stroke.write ++ rest) := by
  induction texts generalizing drawing with
  | nil =>
      exact behind drawing rfl
  | cons text texts inductionHypothesis =>
      refine .write fits covered fun next same _ => inductionHypothesis ?_ ?_
      · rwa [same]
      · intro last sameLast
        exact behind last (sameLast.trans same)

/-- A call stays at covered depths. -/
theorem staysCovered_parts
    {indent : Nat}
    {drawing : Drawing}
    (fits : indent ≤ greatestCount)
    (covered : IsCovered indent drawing.depth)
    (call : Call) :
    StaysCovered indent drawing call.parts := by
  cases call with
  | beginWindow | beginPanel =>
      refine .write fits covered fun next same narrow => ?_
      exact .takes (same ▸ covered) rfl (.done (.deeper narrow))
  | button | label | textField =>
      exact .write fits covered fun next same narrow => .done (same ▸ covered)
  | radioGroup buttons =>
      refine .write fits covered fun next same narrow => ?_
      refine .takes (same ▸ covered) rfl ?_
      refine .writes fits (.deeper narrow) fun last sameLast => ?_
      have deep : last.depth = next.depth + 1 := sameLast
      have isCovered : IsCovered indent last.depth := deep ▸ .deeper narrow
      have entered : 0 < last.depth := deep ▸ Nat.succ_pos _
      exact .takes isCovered (if_pos entered) (.done isCovered.back)
  | endPanel =>
      exact .takes covered rfl (.done covered.back)

/-! ## Runs of strokes -/

theorem Drawing.takeAll_cons
    (indent : Nat)
    (drawing : Drawing)
    (stroke : Stroke)
    (rest : List Stroke) :
    drawing.takeAll indent (stroke :: rest) =
      drawing.take indent stroke >>= fun next => next.takeAll indent rest :=
  List.foldlM_cons

theorem Drawing.takeAll_append
    (indent : Nat)
    (drawing : Drawing)
    (first second : List Stroke) :
    drawing.takeAll indent (first ++ second) =
      drawing.takeAll indent first >>= fun next => next.takeAll indent second :=
  List.foldlM_append

theorem StaysCovered.covered
    {indent : Nat}
    {drawing : Drawing}
    {strokes : List Stroke}
    (stays : StaysCovered indent drawing strokes) :
    IsCovered indent drawing.depth := by
  cases stays with
  | done covered | takes covered | fails covered =>
      exact covered

/-- Strokes that stay at covered depths lead to one, or they fail at a line that is too wide. -/
theorem StaysCovered.ends
    {indent : Nat}
    {drawing : Drawing}
    {strokes : List Stroke}
    (stays : StaysCovered indent drawing strokes) :
    (∃ last, drawing.takeAll indent strokes = .ok last ∧ IsCovered indent last.depth) ∨
      ∃ fault, drawing.takeAll indent strokes = .error (.tooWide fault) := by
  induction stays with
  | @done drawing covered =>
      exact .inl ⟨drawing, rfl, covered⟩
  | takes covered taken behind inductionHypothesis =>
      rw [Drawing.takeAll_cons, taken]
      exact inductionHypothesis
  | @fails drawing stroke rest fault covered failed =>
      rw [Drawing.takeAll_cons, failed]
      exact .inr ⟨fault, rfl⟩

theorem StaysCovered.covered_of_ok
    {indent : Nat}
    {drawing last : Drawing}
    {strokes : List Stroke}
    (stays : StaysCovered indent drawing strokes)
    (taken : drawing.takeAll indent strokes = .ok last) :
    IsCovered indent last.depth := by
  rcases stays.ends with ⟨reached, takenToo, covered⟩ | ⟨fault, failed⟩
  · obtain rfl := Except.ok.inj (taken.symm.trans takenToo)
    exact covered
  · cases taken.symm.trans failed

theorem StaysCovered.tooWide_of_error
    {indent : Nat}
    {drawing : Drawing}
    {strokes : List Stroke}
    {fault : DrawFault}
    (stays : StaysCovered indent drawing strokes)
    (failed : drawing.takeAll indent strokes = .error fault) :
    ∃ tooWide, fault = .tooWide tooWide := by
  rcases stays.ends with ⟨reached, taken, _⟩ | ⟨tooWide, failedToo⟩
  · cases failed.symm.trans taken
  · exact ⟨tooWide, Except.error.inj (failed.symm.trans failedToo)⟩

/-- More strokes stay at covered depths if they do so from where the first ones lead. -/
theorem StaysCovered.append
    {indent : Nat}
    {drawing : Drawing}
    {first second : List Stroke}
    (stays : StaysCovered indent drawing first)
    (behind :
      ∀ next, drawing.takeAll indent first = .ok next → StaysCovered indent next second) :
    StaysCovered indent drawing (first ++ second) := by
  induction stays with
  | done covered =>
      exact behind _ rfl
  | takes covered taken _ inductionHypothesis =>
      refine .takes covered taken (inductionHypothesis fun last takenBehind => behind last ?_)
      rw [Drawing.takeAll_cons, taken]
      exact takenBehind
  | fails covered failed =>
      exact .fails covered failed

/-- Where strokes stay at covered depths, the first ones do. -/
theorem StaysCovered.of_append
    {indent : Nat}
    {drawing : Drawing}
    {first second : List Stroke}
    (stays : StaysCovered indent drawing (first ++ second)) :
    StaysCovered indent drawing first := by
  induction first generalizing drawing with
  | nil =>
      exact .done stays.covered
  | cons stroke first inductionHypothesis =>
      cases stays with
      | takes covered taken behind =>
          exact .takes covered taken (inductionHypothesis behind)
      | fails covered failed =>
          exact .fails covered failed

/-- Calls stay at covered depths. -/
theorem staysCovered_calls
    {indent : Nat}
    {drawing : Drawing}
    (fits : indent ≤ greatestCount)
    (covered : IsCovered indent drawing.depth)
    (calls : List Call) :
    StaysCovered indent drawing (calls.flatMap Call.parts) := by
  induction calls generalizing drawing with
  | nil =>
      exact .done covered
  | cons call calls inductionHypothesis =>
      have stays := staysCovered_parts fits covered call
      rw [List.flatMap_cons]
      exact stays.append fun next taken => inductionHypothesis (stays.covered_of_ok taken)

/-! ## The number of levels -/

theorem Drawing.depth_of_extend
    {drawing next : Drawing}
    {depth : Nat}
    {outcome : Except TooWide String}
    (drawn : drawing.extend depth outcome = .ok next) :
    next.depth = depth := by
  cases outcome with
  | error fault =>
      cases drawn
  | ok text =>
      obtain rfl := Except.ok.inj drawn
      rfl

theorem Drawing.depth_le_of_take
    {indent : Nat}
    {drawing next : Drawing}
    {stroke : Stroke}
    (taken : drawing.take indent stroke = .ok next) :
    next.depth ≤ drawing.depth + [stroke].count .deepen := by
  cases stroke with
  | write text =>
      simp only [Drawing.take] at taken
      split at taken
      · exact Nat.le_of_eq (Drawing.depth_of_extend taken)
      · cases taken
  | deepen =>
      obtain rfl := Except.ok.inj taken
      exact Nat.le_refl _
  | leave =>
      simp only [Drawing.take] at taken
      split at taken
      · obtain rfl := Except.ok.inj taken
        exact Nat.sub_le _ _
      · cases taken
  | leaveIfAny =>
      obtain rfl := Except.ok.inj taken
      exact Nat.sub_le _ _

/-- Every level is entered by a stroke of its own. -/
theorem Drawing.depth_le_of_takeAll
    {indent : Nat}
    {drawing last : Drawing}
    {strokes : List Stroke}
    (taken : drawing.takeAll indent strokes = .ok last) :
    last.depth ≤ drawing.depth + strokes.count .deepen := by
  induction strokes generalizing drawing with
  | nil =>
      obtain rfl := Except.ok.inj taken
      exact Nat.le_refl _
  | cons stroke rest inductionHypothesis =>
      rw [Drawing.takeAll_cons] at taken
      cases first : drawing.take indent stroke with
      | error fault =>
          rw [first] at taken
          cases taken
      | ok next =>
          rw [first] at taken
          have entered := Drawing.depth_le_of_take first
          have enteredBehind := inductionHypothesis taken
          rw [← List.singleton_append, List.count_append]
          omega

/-- A call enters at most one level. -/
theorem count_deepen_parts_le (call : Call) :
    call.parts.count .deepen ≤ 1 := by
  cases call with
  | beginWindow | beginPanel | button | label | textField | endPanel =>
      simp [Call.parts]
  | radioGroup buttons =>
      simp [Call.parts, List.count_eq_zero]

theorem count_deepen_calls_le (calls : List Call) :
    (calls.flatMap Call.parts).count .deepen ≤ calls.length := by
  induction calls with
  | nil =>
      exact Nat.le_refl _
  | cons call calls inductionHypothesis =>
      have first := count_deepen_parts_le call
      rw [List.flatMap_cons, List.count_append, List.length_cons]
      omega

/-! ## The same drawing -/

/-- Texts that are drawn one behind the other are joined. -/
theorem Drawing.extend_bind
    (drawing : Drawing)
    (depth last : Nat)
    (first second : Except TooWide String) :
    drawing.extend last (do
        let text ← first
        let others ← second
        return text ++ others) =
      drawing.extend depth first >>= fun next => next.extend last second := by
  cases first with
  | error fault =>
      rfl
  | ok text =>
      cases second with
      | error fault =>
          rfl
      | ok others =>
          exact congrArg Except.ok (congrArg (Drawing.mk · last) String.append_assoc.symm)

theorem join_mapM_singleton
    (indent : Nat)
    (line : Line) :
    String.join <$> [line].mapM (Line.write indent) = line.write indent := by
  rw [List.mapM_cons, List.mapM_nil]
  cases line.write indent with
  | error fault =>
      rfl
  | ok text =>
      exact congrArg Except.ok (String.empty_append)

/-- Lines at one depth are drawn one behind the other. -/
theorem Drawing.takeAll_writes
    {indent : Nat}
    {drawing : Drawing}
    (fits : indent ≤ greatestCount)
    (covered : IsCovered indent drawing.depth)
    (texts : List String) :
    drawing.takeAll indent (texts.map .write) =
      drawing.extend drawing.depth
        (String.join <$> (texts.map (Line.mk drawing.depth)).mapM (Line.write indent)) := by
  induction texts generalizing drawing with
  | nil =>
      exact congrArg Except.ok (congrArg (Drawing.mk · drawing.depth) String.append_empty.symm)
  | cons text texts inductionHypothesis =>
      rw [List.map_cons, List.map_cons, Drawing.takeAll_cons, Drawing.take_write fits covered,
        ← List.singleton_append, join_mapM_append, join_mapM_singleton,
        Drawing.extend_bind drawing drawing.depth]
      cases (Line.mk drawing.depth text).write indent with
      | error fault =>
          rfl
      | ok written =>
          exact inductionHypothesis covered

theorem Drawing.takeAll_line
    {indent : Nat}
    {drawing : Drawing}
    (fits : indent ≤ greatestCount)
    (covered : IsCovered indent drawing.depth)
    (text : String) :
    drawing.takeAll indent [.write text] =
      drawing.extend drawing.depth
        (String.join <$> [Line.mk drawing.depth text].mapM (Line.write indent)) :=
  Drawing.takeAll_writes fits covered [text]

/-- A line that opens a level is drawn above it. -/
theorem Drawing.takeAll_opening
    {indent : Nat}
    {drawing : Drawing}
    (fits : indent ≤ greatestCount)
    (covered : IsCovered indent drawing.depth)
    (text : String) :
    drawing.takeAll indent [.write text, .deepen] =
      drawing.extend (drawing.depth + 1)
        (String.join <$> [Line.mk drawing.depth text].mapM (Line.write indent)) := by
  rw [← List.singleton_append, Drawing.takeAll_append, Drawing.takeAll_line fits covered]
  cases String.join <$> [Line.mk drawing.depth text].mapM (Line.write indent) with
  | error fault =>
      rfl
  | ok written =>
      rfl

/-- The lines of an open level are drawn, and it is left. -/
theorem Drawing.takeAll_closing
    {indent : Nat}
    (drawing : Drawing)
    (fits : indent ≤ greatestCount)
    (covered : IsCovered indent drawing.depth)
    (entered : 0 < drawing.depth)
    (texts : List String) :
    drawing.takeAll indent (texts.map .write ++ [.leave]) =
      drawing.extend (drawing.depth - 1)
        (String.join <$> (texts.map (Line.mk drawing.depth)).mapM (Line.write indent)) := by
  rw [Drawing.takeAll_append, Drawing.takeAll_writes fits covered]
  cases String.join <$> (texts.map (Line.mk drawing.depth)).mapM (Line.write indent) with
  | error fault =>
      rfl
  | ok written =>
      have left :
          Drawing.take indent ⟨drawing.text ++ written, drawing.depth⟩ .leave =
            .ok ⟨drawing.text ++ written, drawing.depth - 1⟩ :=
        if_pos entered
      exact congrArg (· >>= pure) left

/-- The strokes of a call draw what the call draws, and they lead to the depth behind it. -/
theorem Drawing.takeAll_parts
    {indent : Nat}
    {drawing : Drawing}
    (fits : indent ≤ greatestCount)
    (covered : IsCovered indent drawing.depth)
    (call : Call) :
    drawing.takeAll indent call.parts =
      drawing.extend (call.depthAfter drawing.depth)
        (Outliner.draw ⟨indent, drawing.depth⟩ call) := by
  cases call with
  | beginWindow | beginPanel =>
      exact Drawing.takeAll_opening fits covered _
  | button | label | textField =>
      exact Drawing.takeAll_line fits covered _
  | radioGroup buttons =>
      have lines :
          Call.lines drawing.depth (.radioGroup buttons) =
            [Line.mk drawing.depth radioGroupText] ++
              (buttons.map radioText).map (Line.mk (drawing.depth + 1)) := by
        rw [List.map_map]
        rfl
      have parts :
          Call.parts (.radioGroup buttons) =
            [.write radioGroupText, .deepen] ++ ((buttons.map radioText).map .write ++ [.leave]) :=
        rfl
      rw [Outliner.draw, lines, parts, join_mapM_append, Drawing.takeAll_append,
        Drawing.takeAll_opening fits covered, Drawing.extend_bind drawing (drawing.depth + 1),
        join_mapM_singleton]
      by_cases narrow : (Line.mk drawing.depth radioGroupText).Fits indent
      · rw [Line.write_of_fits narrow]
        exact Drawing.takeAll_closing ⟨_, _⟩ fits (.deeper narrow) (Nat.succ_pos _) _
      · rw [Line.write_of_not_fits narrow]
        rfl
  | endPanel =>
      exact congrArg Except.ok (congrArg (Drawing.mk · _) String.append_empty.symm)

/-- The strokes of calls draw what the calls draw. -/
theorem Drawing.takeAll_calls
    {indent : Nat}
    {drawing : Drawing}
    (fits : indent ≤ greatestCount)
    (covered : IsCovered indent drawing.depth)
    (calls : List Call) :
    drawing.takeAll indent (calls.flatMap Call.parts) =
      drawing.extend (calls.foldl Call.depthAfter drawing.depth)
        (Outliner.drawAll ⟨indent, drawing.depth⟩ calls) := by
  induction calls generalizing drawing with
  | nil =>
      exact congrArg Except.ok (congrArg (Drawing.mk · drawing.depth) String.append_empty.symm)
  | cons call calls inductionHypothesis =>
      have first := Drawing.takeAll_parts fits covered call
      have stays := staysCovered_parts fits covered call
      rw [List.flatMap_cons, Drawing.takeAll_append, Outliner.drawAll_cons,
        Drawing.extend_bind drawing (call.depthAfter drawing.depth), List.foldl_cons]
      cases drawn : Outliner.draw ⟨indent, drawing.depth⟩ call with
      | error fault =>
          rw [first, drawn]
          rfl
      | ok text =>
          rw [drawn] at first
          rw [first]
          exact inductionHypothesis (stays.covered_of_ok first)

/-! ## Every call of a renderer -/

/-- A call fails just if one of its lines is indented too far. -/
theorem Outliner.draw_eq_error_iff
    (outliner : Outliner)
    (call : Call) :
    (∃ fault, outliner.draw call = .error fault) ↔
      ∃ line ∈ call.lines outliner.depth, indentationLimit < line.depth * outliner.indent := by
  rw [Outliner.draw]
  by_cases fits : ∀ line ∈ call.lines outliner.depth, line.Fits outliner.indent
  · rw [mapM_write_of_fits fits]
    constructor
    · rintro ⟨fault, failed⟩
      cases failed
    · rintro ⟨line, among, tooWide⟩
      exact absurd (fits line among) (Nat.not_le.2 tooWide)
  · have tooWide : ∃ line ∈ call.lines outliner.depth, ¬ line.Fits outliner.indent := by
      simpa using fits
    obtain ⟨fault, failed⟩ := mapM_write_of_not_fits tooWide
    obtain ⟨line, among, noFit⟩ := tooWide
    rw [failed]
    exact ⟨fun _ => ⟨line, among, Nat.not_le.1 noFit⟩, fun _ => ⟨fault, rfl⟩⟩

theorem Drawing.extend_eq_error_iff
    {drawing : Drawing}
    {depth : Nat}
    {outcome : Except TooWide String} :
    (∃ fault, drawing.extend depth outcome = .error fault) ↔
      ∃ fault, outcome = .error fault := by
  cases outcome with
  | error fault =>
      exact ⟨fun _ => ⟨fault, rfl⟩, fun _ => ⟨_, rfl⟩⟩
  | ok text =>
      exact ⟨nofun, nofun⟩

/-- What holds of a renderer to which some calls are made, up to the first one that fails. -/
structure CountsInBounds (indent : Nat) (calls : List Call) : Prop where
  /-- Within a call and between calls, a line one level above is not indented too far. -/
  covered :
    ∀ drawing : Drawing,
      drawing.Reached indent calls →
      drawing.depth = 0 ∨ (drawing.depth - 1) * indent ≤ indentationLimit
  /-- What is computed for a line is one level's indentation at most, or it is small. -/
  product_le :
    ∀ drawing : Drawing,
      drawing.Reached indent calls → drawing.depth * indent ≤ max indent 131070
  /-- No product is too great to be computed. -/
  product_fits :
    max indent 131070 ≤ greatestCount
  /-- There are no more levels than calls. -/
  depth_le :
    ∀ drawing : Drawing, drawing.Reached indent calls → drawing.depth ≤ calls.length
  /-- No stroke leaves the bounds of arithmetic: only the width of a line lets one fail. -/
  fails_by_width :
    ∀ first rest fault,
      calls.flatMap Call.parts = first ++ rest →
      Drawing.takeAll indent {} first = .error fault →
      ∃ tooWide, fault = .tooWide tooWide
  /-- The calls draw what they draw with numbers that have no bounds. -/
  draws_same :
    Drawing.takeAll indent {} (calls.flatMap Call.parts) =
      Drawing.extend {} (calls.foldl Call.depthAfter 0)
        (Outliner.drawAll { indent := indent } calls)
  /-- The next call fails just if one of its lines would be indented too far. -/
  next_fails_iff :
    ∀ (drawing : Drawing) (call : Call),
      Drawing.takeAll indent {} (calls.flatMap Call.parts) = .ok drawing →
      ((∃ fault, drawing.takeAll indent call.parts = .error fault) ↔
        ∃ line ∈ call.lines drawing.depth, indentationLimit < line.depth * indent)

/--
Whatever calls are made to a renderer, in whatever order, its arithmetic stays in bounds.
Every level but the first one is entered behind a line that was drawn one level above, so no
product of depth and indentation is too great, and no level is left that was not entered:
a call fails just if it draws a line that would be indented too far.
-/
theorem renderer_counts_in_bounds
    {indent : Nat}
    (fits : indent ≤ greatestCount)
    (calls : List Call) :
    CountsInBounds indent calls := by
  have coveredAtStart : IsCovered indent (Drawing.mk "" 0).depth := .inl rfl
  have stays : StaysCovered indent {} (calls.flatMap Call.parts) :=
    staysCovered_calls fits coveredAtStart calls
  have covered :
      ∀ drawing : Drawing, drawing.Reached indent calls → IsCovered indent drawing.depth := by
    rintro drawing ⟨first, rest, cut, taken⟩
    rw [cut] at stays
    exact stays.of_append.covered_of_ok taken
  refine ⟨covered, ?_, max_le_greatestCount fits, ?_, ?_, ?_, ?_⟩
  · intro drawing reached
    exact (covered drawing reached).product_le
  · rintro drawing ⟨first, rest, cut, taken⟩
    have entered : drawing.depth ≤ 0 + first.count .deepen := Drawing.depth_le_of_takeAll taken
    have enteredInAll := count_deepen_calls_le calls
    rw [cut, List.count_append] at enteredInAll
    omega
  · intro first rest fault cut failed
    rw [cut] at stays
    exact stays.of_append.tooWide_of_error failed
  · exact Drawing.takeAll_calls fits coveredAtStart calls
  · intro drawing call taken
    rw [Drawing.takeAll_parts fits (stays.covered_of_ok taken), Drawing.extend_eq_error_iff]
    exact Outliner.draw_eq_error_iff ⟨indent, drawing.depth⟩ call

/-- A panel ends that never began, and behind two levels the line of a group is too wide. -/
def unbalancedCalls : List Call :=
  [.endPanel, .beginWindow "" 0 0 .flow, .beginPanel .flow, .radioGroup []]

theorem unbalancedCalls_count_in_bounds :
    65535 ≤ greatestCount ∧
      CountsInBounds 65535 unbalancedCalls ∧
      Drawing.takeAll 65535 {} (unbalancedCalls.flatMap Call.parts) =
        .error (.tooWide ⟨131070⟩) :=
  ⟨by decide, renderer_counts_in_bounds (by decide) unbalancedCalls, rfl⟩

end WindowLang
