import WindowLang.Proofs.Document.Nesting
import WindowLang.Proofs.Document.Slips
import WindowLang.Proofs.Trace.Widgets

namespace WindowLang

/-!
# The trace of recognition

What is noted of a document is told by its tokens alone, by all of them if it is accepted and
by those before its error if it is not. So no token is told of twice, and nothing that lies
behind an error is told of at all.
-/

open Grammar

namespace Grammar

/-! ## A document -/

theorem quiet_documentHead : Quiet documentHead :=
  Quiet.bind (Quiet.expect rfl .gui) fun _ =>
    Quiet.bind (Quiet.quoted .gui) fun title =>
      Quiet.bind (Quiet.mark .gui .openParen) fun _ =>
        Quiet.bind (Quiet.number .gui) fun width =>
          Quiet.bind (Quiet.mark .gui .comma) fun _ =>
            Quiet.bind (Quiet.number .gui) fun height =>
              Quiet.bind (Quiet.mark .gui .closeParen) fun _ =>
                Quiet.bind (Quiet.inside .gui .layout Quiet.layout) fun arrangement =>
                  Quiet.succeed (Window.mk title width height arrangement [])

/-- The end of a document behind its body. -/
def documentEnd (document : Window) : Production Window := do
  let _ ← mark .gui .period
  endOfFile .gui
  return document

theorem window_eq_documentHead :
    window =
      (do
        let head ← documentHead
        let children ← body .gui (widget panelLimit)
        documentEnd { head with children := children }) := by
  simp [window, windowBeside, documentUpToPeriod, documentEnd, widget]

/-- The end of a document notes nothing. -/
theorem noted_documentEnd
    {openings : Openings}
    {state : State}
    (document : Window)
    (consumed : openings.consumed = state.cursor.consumed) :
    Noted openings state
      (fun result taken => result = document ∧ openings.Reaches openings.containers [] taken)
      (documentEnd document state) := by
  rcases state.next_or_other (.mark .period) with ⟨token, more, next, isPeriod⟩ | other
  · have nothing : openings.trace [token] = [] := by
      simp [Openings.trace, Openings.event?, isPeriod]
    have reaches : openings.Reaches openings.containers [] [token] := by
      refine ⟨?_, ?_, by rw [nothing]; rfl⟩
      · simp [Openings.behind, Openings.after, isPeriod]
      · simp [Openings.behind, Openings.after, isPeriod]
    have stands : (openings.behind [token]).Stands state.advance :=
      ⟨congrArg (· + 1) consumed, reaches.closing⟩
    rw [documentEnd, mark, Production.bind_apply_of_some (expect_of_kind .gui next isPeriod)]
    refine Noted.prepend (State.takes_advance next) (Openings.notes_advance nothing) ?_
    refine (Quiet.endOfFile .gui stands).bind fun {_ front middle} takes reachesEnd =>
      .taken (.refl middle) rfl ⟨rfl, ?_⟩
    rw [reaches.containers] at reachesEnd
    simpa using reaches.append reachesEnd
  · rw [documentEnd, mark, Production.bind_apply_of_none (expect_of_ne .gui other)]
    exact .mismatch .gui _

/-- A document notes the walk through the window that it describes. -/
theorem noted_window (tokens : List Token) :
    Noted .start (.start tokens)
      (fun recognized taken => Openings.start.Reaches [] recognized.walk taken)
      (window (.start tokens)) := by
  have stands : Openings.start.Stands (.start tokens) := ⟨rfl, rfl⟩
  rw [window_eq_documentHead]
  refine (quiet_documentHead stands).bind fun {head front middle} takes reaches => ?_
  have standsInside := stands.behind takes reaches.closing
  have panels : (Openings.start.behind front).panels = 0 := by
    rw [Openings.panels_eq_count, reaches.containers]
    rfl
  have notes : NotesItem .widget 0 (Widget.walk 0) (widget panelLimit) :=
    notesItem_widget (Nat.le_refl panelLimit)
  refine (notes.body .gui standsInside panels).bind fun {children inner last} takesInner holds => ?_
  obtain ⟨items, close, rfl, closes, reachesInner⟩ := holds
  obtain ⟨containers, _, steps⟩ := reachesInner.close closes
  have consumed :
      ((Openings.start.behind front).behind (items ++ [close])).consumed =
        last.cursor.consumed := by
    rw [Openings.consumed_behind, standsInside.consumed, takesInner.consumed]
  refine (noted_documentEnd _ consumed).mono ?_
  rintro recognized back ⟨rfl, ends⟩
  rw [containers, reaches.containers] at ends
  have all := reaches.append (ends.prepend steps)
  rw [List.nil_append, List.append_nil, ← walkAll_eq_flatMap] at all
  exact all

/-! ## Recognition -/

/-- What becomes of a token stream, and which of its tokens are told of on the way. -/
inductive Traced (tokens : List Token) : Recognition → Prop where
  | accepted
      {document rest : List Token}
      {window : Window}
      (split : tokens = document ++ rest)
      (runs : Agenda.start.Runs 0 document [])
      (reaches : Openings.start.Reaches [] window.walk document) :
      Traced tokens ⟨.ok window, Openings.start.trace document⟩
  | rejected
      {taken left : List Token}
      {agenda : Agenda}
      {error : SyntaxError}
      (split : tokens = taken ++ left)
      (stuck : Agenda.start.Stuck 0 taken left agenda)
      (position : error.position = taken.length + 1) :
      Traced tokens ⟨.error error, Openings.start.trace taken⟩

/-- The events of a document are those that its tokens give to note, in their order. -/
theorem Openings.Notes.reverse_events
    {tokens taken : List Token}
    {reached : State}
    (notes : Openings.start.Notes taken (.start tokens) reached) :
    reached.events.reverse = Openings.start.trace taken := by
  rw [notes, List.reverse_append, List.reverse_reverse]
  rfl

theorem recognize_of_some
    {tokens taken : List Token}
    {recognized : Window}
    {reached : State}
    (succeeded : window (.start tokens) = (some recognized, reached))
    (notes : Openings.start.Notes taken (.start tokens) reached) :
    recognize tokens = ⟨.ok recognized, Openings.start.trace taken⟩ := by
  rw [recognize, succeeded, ← notes.reverse_events]

theorem recognize_of_none
    {tokens taken : List Token}
    {reached : State}
    (fails : window (.start tokens) = (none, reached))
    (notes : Openings.start.Notes taken (.start tokens) reached) :
    recognize tokens = ⟨.error reached.error, Openings.start.trace taken⟩ := by
  rw [recognize, fails, ← notes.reverse_events]

/-- A failure of a document is reported where it failed. -/
theorem position_of_failsAt
    {tokens : List Token}
    {reached : State}
    {position : Nat}
    (fails : (State.start tokens).FailsAt reached (position + 1)) :
    reached.error.position = position + 1 := by
  unfold State.error
  rcases fails with tooDeep | ⟨notTooDeep, failedAt⟩
  · rw [tooDeep]
    rfl
  · rw [notTooDeep]
    exact failedAt.trans (Nat.max_eq_right (Nat.succ_le_succ (Nat.zero_le _)))

/-- The tokens that a document takes lead its agenda to its end. -/
theorem runs_of_takes
    {tokens taken : List Token}
    {recognized : Window}
    {reached : State}
    (succeeded : window (.start tokens) = (some recognized, reached))
    (takes : (State.start tokens).Takes taken reached) :
    Agenda.start.Runs 0 taken [] := by
  obtain ⟨document, rest, rfl, derives, ends⟩ := describes_of_parse (parse_of_some succeeded)
  obtain ⟨behind, recognizes, takesDocument⟩ := window_of_windowForm derives ends
  rw [recognizes] at succeeded
  cases succeeded
  have same : taken = document :=
    List.append_cancel_right (takes.rest.symm.trans takesDocument.rest)
  rw [same]
  exact runs_of_windowForm derives

/-- What is noted of a token stream is told by the tokens up to its end or its error. -/
theorem traced (tokens : List Token) :
    Traced tokens (recognize tokens) := by
  have noted := noted_window tokens
  generalize answered : window (.start tokens) = answer at noted
  cases noted with
  | @taken recognized reached document takes notes reaches =>
      rw [recognize_of_some answered notes]
      exact .accepted takes.rest (runs_of_takes answered takes) reaches
  | @failed reached taken left split notes fails =>
      rw [recognize_of_none answered notes]
      have position : reached.error.position = taken.length + 1 := by
        rw [← Nat.zero_add taken.length]
        exact position_of_failsAt fails
      obtain ⟨before, behind, agenda, splitToo, stuck, isError⟩ :=
        stuck_of_error (parse_of_none answered)
      rw [isError, Agenda.position_error] at position
      obtain ⟨rfl, rfl⟩ :=
        List.append_inj (splitToo.symm.trans split) (Nat.succ.inj position)
      refine .rejected split stuck ?_
      rw [isError, Agenda.position_error]

/-- The tokens before an error give the same to note without those behind them. -/
theorem events_of_runs
    {taken : List Token}
    {agenda : Agenda}
    (runs : Agenda.start.Runs 0 taken agenda) :
    (recognize taken).events = Openings.start.trace taken := by
  have traced := traced taken
  generalize recognize taken = recognition at traced
  cases traced with
  | @accepted document rest window split runsDocument reaches =>
      cases rest with
      | nil =>
          rw [split, List.append_nil]
      | cons token more =>
          rw [split] at runs
          exact (runsDocument.not_past_end runs).elim
  | @rejected before left other error split stuck position =>
      cases left with
      | nil =>
          rw [split, List.append_nil]
      | cons token more =>
          rw [split] at runs
          exact (stuck.not_run_past rfl runs).elim

end Grammar

/--
The events of recognition are one walk along the tokens. Each tells of a token behind that of
the event before it, and together they begin a well-nested sequence. An accepted document is
walked through from its first group or panel to its last one. Of a rejected one the walk goes
as far as the error: it notes all that the tokens before the error give to note, the openings
that it leaves unmatched are those of the containers that these tokens leave open, and no event
stands at the error or behind it. With these tokens alone the events are the same.
-/
theorem trace_is_faithful_walk (tokens : List Token) :
    (∀ event ∈ (recognize tokens).events, event.TellsOf tokens) ∧
      ((recognize tokens).events.map Event.position).Pairwise (· < ·) ∧
      (∃ more, Event.AreNested ((recognize tokens).events ++ more)) ∧
      (∀ window,
        parse tokens = .ok window →
          Event.AreNested (recognize tokens).events ∧
            (recognize tokens).events.map Event.step = window.walk) ∧
      ∀ error,
        parse tokens = .error error →
          (recognize tokens).events =
              Openings.start.trace (tokens.take (error.position - 1)) ∧
            (∃ opened,
              unmatched? (recognize tokens).events = some opened ∧
                List.Forall₂ Event.Opens opened
                  (openingsBehind (tokens.take (error.position - 1)))) ∧
            (∀ event ∈ (recognize tokens).events, event.position < error.position) ∧
            (recognize (tokens.take (error.position - 1))).events =
              (recognize tokens).events := by
  have traced := traced tokens
  unfold parse
  generalize recognize tokens = recognition at traced
  cases traced with
  | @accepted document rest window split runs reaches =>
      subst split
      refine ⟨fun event noted => Openings.tellsOf_of_mem_trace noted rest,
        Openings.start.pairwise_position_trace document, Openings.exists_areNested document,
        ?_, by rintro _ ⟨⟩⟩
      rintro _ ⟨⟩
      refine ⟨?_, reaches.steps⟩
      obtain ⟨opened, fits, areOpen⟩ := Openings.unmatched?_trace document
      rw [openingsBehind, reaches.containers] at areOpen
      cases areOpen
      exact fits
  | @rejected taken left agenda error split stuck position =>
      subst split
      refine ⟨fun event noted => Openings.tellsOf_of_mem_trace noted left,
        Openings.start.pairwise_position_trace taken, Openings.exists_areNested taken,
        by rintro _ ⟨⟩, ?_⟩
      rintro _ ⟨⟩
      have before : (taken ++ left).take (error.position - 1) = taken := by
        rw [position, Nat.add_sub_cancel, List.take_left]
      rw [before]
      refine ⟨rfl, Openings.unmatched?_trace taken, ?_, events_of_runs stuck.runs⟩
      intro event noted
      have within := (Openings.position_of_mem_trace noted).2
      rw [position]
      exact Nat.lt_succ_of_le (Nat.le_trans within (Nat.le_of_eq (Nat.zero_add _)))

/-- What the events of a panel with a group read. -/
def groupedWindowEvents : List String := [
  "panel opened at token 22 (depth 1)",
  "group opened at token 26",
  "group closed at token 33 with 1 buttons",
  "panel closed at token 40 with 2 children"
]

theorem groupedWindow_and_brokenPanel_are_walked :
    (recognize groupedWindow.tokens).events.map Event.step =
        [.enterPanel 1, .enterGroup, .leaveGroup 1, .leavePanel 2] ∧
      (recognize groupedWindow.tokens).events.map Event.text = groupedWindowEvents ∧
      parse brokenPanel = .error brokenPanelError ∧
      (recognize brokenPanel).events = [.panelOpened 13 1] ∧
      (recognize (brokenPanel.take 17)).events = [.panelOpened 13 1] := by
  have accepted : parse groupedWindow.tokens = .ok groupedWindow :=
    parse_tokens isNormal_groupedWindow
  have refused : parse brokenPanel = .error brokenPanelError := by
    rfl
  have events : (recognize brokenPanel).events = [.panelOpened 13 1] := by
    rfl
  have reads :
      (recognize groupedWindow.tokens).events.map Event.text = groupedWindowEvents := by
    decide +kernel
  obtain ⟨_, _, _, walks, _⟩ := trace_is_faithful_walk groupedWindow.tokens
  obtain ⟨_, _, _, _, stops⟩ := trace_is_faithful_walk brokenPanel
  obtain ⟨_, steps⟩ := walks groupedWindow accepted
  obtain ⟨_, _, _, again⟩ := stops brokenPanelError refused
  exact ⟨steps, reads, refused, events, again.trans events⟩

end WindowLang
