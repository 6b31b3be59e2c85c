import WindowLang.Proofs.Document.Widgets

namespace WindowLang.Grammar

/-!
# Recognition of a document

A document is recognized up to its period as the agenda tells from its start. What
is left must then be the end of the input. So either the tokens describe a window,
or there is a place where the agenda is stuck, and the error is what the agenda
tells there.
-/

variable {tokens : List Token}

/-- A document up to its period. -/
def windowUpToPeriod : Production Window :=
  documentUpToPeriod (widget panelLimit)

theorem window_eq :
    window = do
      let recognized ← windowUpToPeriod
      endOfFile .gui
      return recognized :=
  rfl

theorem performs_body_gui :
    Performs tokens 0 [.body .gui .widget none] (BodyForm (WidgetForm panelLimit))
      (body .gui (widget panelLimit)) := by
  apply Performs.body
  have performs :
      PerformsItem tokens (panelLimit - panelLimit) .widget (WidgetForm panelLimit)
        (widget panelLimit) :=
    performsItem_widget (Nat.le_refl panelLimit)
  simpa [Agenda.openPanels] using performs

/-- The tasks of a document up to its widgets. -/
def Agenda.head : Agenda :=
  .token .gui (.keyword .window) :: literalTasks .gui ++
    [
      .token .gui (.mark .openParen),
      .number .gui,
      .token .gui (.mark .comma),
      .number .gui,
      .token .gui (.mark .closeParen),
      .layout .gui
    ]

/-- A document up to its widgets, as a window without any. -/
inductive HeadForm : List Token → Window → Prop where
  | head
      {word opening widthToken comma heightToken closing : Token}
      {literal arrangement : List Token}
      {title : String}
      {width height : UInt32}
      {layout : Layout}
      (isWindow : word.kind = .keyword .window)
      (derivesTitle : QuotedForm literal title)
      (opens : opening.kind = .mark .openParen)
      (writesWidth : Writes widthToken width)
      (separates : comma.kind = .mark .comma)
      (writesHeight : Writes heightToken height)
      (closesSize : closing.kind = .mark .closeParen)
      (derivesLayout : LayoutForm arrangement layout) :
      HeadForm
        (word :: literal ++ [opening, widthToken, comma, heightToken, closing] ++ arrangement)
        ⟨title, width, height, layout, []⟩

theorem performs_documentHead {depth : Nat} :
    Performs tokens depth Agenda.head HeadForm documentHead := by
  have composed : Performs tokens depth _ _ documentHead :=
    .bind (.keyword .gui .window) (fun _ =>
      .bind (.quoted .gui) (fun title =>
        .bind (.mark .gui .openParen) (fun _ =>
          .bind (.number .gui) (fun width =>
            .bind (.mark .gui .comma) (fun _ =>
              .bind (.number .gui) (fun height =>
                .bind (.mark .gui .closeParen) (fun _ =>
                  .bind (.layout .gui) (fun arrangement =>
                    .succeed (Window.mk title width height arrangement []))
                  rfl) rfl) rfl) rfl) rfl) rfl) rfl) rfl
  have performs : Performs tokens depth Agenda.head _ documentHead := composed
  refine performs.congr fun taken head => ?_
  constructor
  · intro derives
    rw [sequence_tokenForm_iff] at derives
    obtain ⟨word, _, rfl, isWindow, literal, _, title, rfl, derivesTitle, derives⟩ := derives
    simp only [sequence_numberForm_iff, sequence_tokenForm_iff] at derives
    obtain ⟨opening, _, rfl, opens, widthToken, width, _, rfl, writesWidth, comma, _, rfl,
      separates, heightToken, height, _, rfl, writesHeight, closing, _, rfl, closesSize,
      arrangement, _, layout, rfl, derivesLayout, rfl, rfl⟩ := derives
    simpa using
      HeadForm.head isWindow derivesTitle opens writesWidth separates writesHeight closesSize
        derivesLayout
  · intro derives
    cases derives with
    | @head word opening widthToken comma heightToken closing literal arrangement title width
        height layout isWindow derivesTitle opens writesWidth separates writesHeight closesSize
        derivesLayout =>
        have split :
            word :: literal ++ [opening, widthToken, comma, heightToken, closing] ++
                arrangement =
              [word] ++ (literal ++ ([opening] ++ ([widthToken] ++ ([comma] ++ ([heightToken] ++
                ([closing] ++ (arrangement ++ []))))))) := by
          simp
        rw [split]
        exact .intro ⟨rfl, isWindow⟩ (.intro derivesTitle (.intro ⟨rfl, opens⟩
          (.intro ⟨widthToken, rfl, writesWidth⟩ (.intro ⟨rfl, separates⟩
            (.intro ⟨heightToken, rfl, writesHeight⟩ (.intro ⟨rfl, closesSize⟩
              (.intro derivesLayout ⟨rfl, rfl⟩)))))))

/-- A window is its head and behind it the widgets, the closing keyword and the period. -/
theorem windowForm_iff
    {taken : List Token}
    {window : Window} :
    WindowForm taken window ↔
      ∃ front head widgets children close period,
        HeadForm front head ∧ WidgetsForm panelLimit widgets children ∧
          close.kind = .keyword .close ∧ period.kind = .mark .period ∧
          taken = front ++ (widgets ++ [close] ++ [period]) ∧
          window = { head with children := children } := by
  constructor
  · intro derives
    cases derives with
    | window isWindow derivesTitle opens writesWidth separates writesHeight closesSize
        derivesLayout derivesChildren closes ends =>
        exact ⟨_, _, _, _, _, _,
          .head isWindow derivesTitle opens writesWidth separates writesHeight closesSize
            derivesLayout,
          derivesChildren, closes, ends, by simp, rfl⟩
  · rintro ⟨front, head, widgets, children, close, period, derivesHead, derivesChildren, closes,
      ends, rfl, rfl⟩
    cases derivesHead with
    | head isWindow derivesTitle opens writesWidth separates writesHeight closesSize
        derivesLayout =>
        simpa using
          WindowForm.window isWindow derivesTitle opens writesWidth separates writesHeight
            closesSize derivesLayout derivesChildren closes ends

theorem performs_windowUpToPeriod :
    Performs tokens 0 Agenda.start WindowForm windowUpToPeriod := by
  have composed : Performs tokens 0 _ _ windowUpToPeriod :=
    .bind performs_documentHead (fun head =>
      .bind performs_body_gui (fun children =>
        .bind (.mark .gui .period) (fun _ =>
          .succeed { head with children := children })
        rfl) rfl) rfl
  have performs : Performs tokens 0 Agenda.start _ windowUpToPeriod := composed
  refine performs.congr fun taken recognized => ?_
  rw [windowForm_iff]
  constructor
  · rintro ⟨front, _, head, rfl, derivesHead, _, _, children, rfl,
      ⟨widgets, close, rfl, derivesChildren, closes⟩, _, _, period, rfl, ⟨rfl, ends⟩, rfl, rfl⟩
    exact ⟨front, head, widgets, children, close, period, derivesHead,
      widgetsForm_iff.2 derivesChildren, closes, ends, by simp, rfl⟩
  · rintro ⟨front, head, widgets, children, close, period, derivesHead, derivesChildren, closes,
      ends, rfl, rfl⟩
    have bodyDerives : BodyForm (WidgetForm panelLimit) (widgets ++ [close]) children :=
      ⟨widgets, close, rfl, widgetsForm_iff.1 derivesChildren, closes⟩
    exact .intro derivesHead
      (.intro bodyDerives ⟨[period], [], period, rfl, ⟨rfl, ends⟩, rfl, rfl⟩)

/-- What the agenda reports where it is stuck with so many tokens before. -/
def Agenda.error (agenda : Agenda) (tokens : List Token) (index : Nat) : SyntaxError :=
  if agenda.blocks tokens[index]? then
    .tooDeep (index + 1)
  else
    .unmet (index + 1) (agenda.unmet tokens index)

theorem endOfFile_of_atEnd
    {rule : Rule}
    {state : State}
    (ends : AtEnd state.cursor.rest) :
    endOfFile rule state = (some (), state) := by
  unfold endOfFile
  cases next : state.cursor.rest with
  | nil =>
      rfl
  | cons token more =>
      rw [next, atEnd_cons_iff] at ends
      simp [ends]

theorem endOfFile_of_not_atEnd
    {rule : Rule}
    {state : State}
    (goesOn : ¬ AtEnd state.cursor.rest) :
    endOfFile rule state = Production.mismatch rule .endOfFile state := by
  unfold endOfFile
  cases next : state.cursor.rest with
  | nil =>
      exact absurd (.inl next) goesOn
  | cons token more =>
      rw [next, atEnd_cons_iff] at goesOn
      simp [goesOn]

/-- What becomes of a token stream: a window that it describes, or the error of an agenda. -/
inductive Recognized (tokens : List Token) : Except SyntaxError Window → Prop where
  | accepted
      {document rest : List Token}
      {window : Window}
      (split : tokens = document ++ rest)
      (derives : WindowForm document window)
      (runs : Agenda.start.Runs 0 document [])
      (ends : AtEnd rest) :
      Recognized tokens (.ok window)
  | rejected
      {taken left : List Token}
      {agenda : Agenda}
      (split : tokens = taken ++ left)
      (stuck : Agenda.start.Stuck 0 taken left agenda) :
      Recognized tokens (.error (agenda.error tokens taken.length))

theorem parse_of_some
    {recognized : Window}
    {reached : State}
    (succeeded : window (.start tokens) = (some recognized, reached)) :
    parse tokens = .ok recognized := by
  simp only [parse, recognize, succeeded]

theorem parse_of_none
    {reached : State}
    (fails : window (.start tokens) = (none, reached)) :
    parse tokens = .error reached.error := by
  simp only [parse, recognize, fails]

theorem getElem?_length_of_split
    {taken left : List Token}
    (split : tokens = taken ++ left) :
    tokens[taken.length]? = left.head? := by
  rw [split, List.getElem?_append_right (Nat.le_refl _), Nat.sub_self, List.head?_eq_getElem?]

/-- The error of a state is the one that a blocked agenda reports. -/
theorem error_of_tooDeep
    {reached : State}
    {agenda : Agenda}
    {index : Nat}
    (tooDeep : reached.tooDeep = some (index + 1))
    (blocks : agenda.blocks tokens[index]? = true) :
    reached.error = agenda.error tokens index := by
  unfold State.error Agenda.error
  rw [tooDeep, if_pos blocks]

/-- The error of a state is the one that an agenda reports if its diagnosis is the agenda's. -/
theorem error_of_diagnosis
    {reached : State}
    {agenda : Agenda}
    {index : Nat}
    (notTooDeep : reached.tooDeep = none)
    (trail : reached.diagnosis.trail = agenda.unmet tokens index)
    (failedAt : reached.diagnosis.failedAt = index + 1)
    (unblocked : agenda.blocks tokens[index]? = false) :
    reached.error = agenda.error tokens index := by
  unfold State.error Agenda.error
  rw [notTooDeep, unblocked, trail, failedAt]
  rfl

/-- Behind the period nothing but the end of the input is wanted. -/
theorem Agenda.stuck_nil
    {document left : List Token}
    (runs : Agenda.start.Runs 0 document [])
    (goesOn : ¬ AtEnd left) :
    Agenda.start.Stuck 0 document left [] where
  runs := runs
  refuses := {
    noAdvance := fun _ _ => rfl
    notComplete := fun _ => goesOn
  }

/-- A document that goes on behind its period is rejected there. -/
theorem recognized_of_taken
    {recognized : Window}
    {reached : State}
    {document : List Token}
    (answered : windowUpToPeriod (.start tokens) = (some recognized, reached))
    (takes : (State.start tokens).Takes document reached)
    (derives : WindowForm document recognized)
    (runs : Agenda.start.Runs 0 document []) :
    Recognized tokens (parse tokens) := by
  have split : tokens = document ++ reached.cursor.rest := takes.rest
  have behind :
      window (.start tokens) =
        (do
          endOfFile .gui
          return recognized : Production Window) reached := by
    rw [window_eq]
    exact Production.bind_apply_of_some answered
  by_cases ends : AtEnd reached.cursor.rest
  · have succeeded : window (.start tokens) = (some recognized, reached) :=
      behind.trans (Production.bind_apply_of_some (endOfFile_of_atEnd ends))
    rw [parse_of_some succeeded]
    exact .accepted split derives runs ends
  · have fails : window (.start tokens) = Production.mismatch .gui .endOfFile reached :=
      behind.trans (Production.bind_apply_of_none (endOfFile_of_not_atEnd ends))
    have found : tokens[document.length]? = reached.cursor.rest.head? :=
      getElem?_length_of_split split
    have consumed : reached.cursor.consumed = document.length := by
      rw [takes.consumed]
      exact Nat.zero_add _
    have reported :
        (Production.mismatch .gui .endOfFile reached : Option Window × State).2.error =
          Agenda.error [] tokens document.length := by
      refine error_of_diagnosis takes.tooDeep ?_ ?_ rfl
      · simp only [Production.mismatch, Diagnosis.unmet, takes.diagnosis, ← found]
        rfl
      · simp only [Production.mismatch, Diagnosis.unmet, takes.diagnosis, consumed]
        exact Nat.max_eq_right (Nat.succ_le_succ (Nat.zero_le _))
    have rejected : parse tokens = .error (Agenda.error [] tokens document.length) :=
      (parse_of_none fails).trans (congrArg Except.error reported)
    rw [rejected]
    exact .rejected split (Agenda.stuck_nil runs ends)

/-- Every token stream is accepted or rejected as the agenda tells. -/
theorem recognized (tokens : List Token) :
    Recognized tokens (parse tokens) := by
  have within : (State.start tokens).Within tokens := rfl
  have outcome :
      Outcome tokens 0 Agenda.start [] WindowForm (.start tokens)
        (windowUpToPeriod (.start tokens)) :=
    performs_windowUpToPeriod.outcome within
  have fails
      {reached : State}
      (answered : windowUpToPeriod (.start tokens) = (none, reached)) :
      parse tokens = .error reached.error := by
    apply parse_of_none
    rw [window_eq]
    exact Production.bind_apply_of_none answered
  generalize answered : windowUpToPeriod (.start tokens) = answer at outcome
  cases outcome with
  | @taken recognized reached document takes derives runs =>
      have runsAll := runs [] rfl
      rw [List.append_nil] at runsAll
      exact recognized_of_taken answered takes derives runsAll
  | @refused reached taken left added split tooDeep trail failedAt stops =>
      obtain ⟨agenda, stuck, unblocked, unmet⟩ := stops [] rfl
      have length : (State.start tokens).cursor.consumed + taken.length = taken.length :=
        Nat.zero_add _
      rw [List.append_nil] at stuck
      rw [length, List.append_nil, List.filterMap_nil, List.append_nil] at unmet
      rw [length] at failedAt
      have found : tokens[taken.length]? = left.head? := getElem?_length_of_split split
      rw [fails answered, error_of_diagnosis tooDeep (trail.trans unmet.symm)
        (failedAt.trans (Nat.max_eq_right (Nat.succ_le_succ (Nat.zero_le _))))
        (found ▸ unblocked)]
      exact .rejected split stuck
  | @blocked reached taken left split tooDeep stops =>
      obtain ⟨agenda, stuck, blocks⟩ := stops [] rfl
      have length : (State.start tokens).cursor.consumed + taken.length = taken.length :=
        Nat.zero_add _
      rw [List.append_nil] at stuck
      rw [length] at tooDeep
      have found : tokens[taken.length]? = left.head? := getElem?_length_of_split split
      rw [fails answered, error_of_tooDeep tooDeep (found ▸ blocks)]
      exact .rejected split stuck

end WindowLang.Grammar
