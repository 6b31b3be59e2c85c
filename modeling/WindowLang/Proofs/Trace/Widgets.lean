import WindowLang.Proofs.Trace.Bodies

namespace WindowLang.Grammar

/-!
# Noting in widgets

A panel and a group note their opening at their keyword, and their closing at the semicolon
behind the keyword that closes their body; between the two their body notes what is inside.
So the events of a widget tell the walk through it. The proof is by induction on the room for
panels.
-/

variable {α β : Type}
variable {openings : Openings} {state : State} {token : Token} {more : List Token}

/-! ## Beginning and ending -/

/-- The keywords of the items that are no containers. -/
def plainKeywords : List Keyword :=
  [.button, .label, .radio, .textfield]

/-- A keyword of a plain item counts as an item, and there is nothing to note. -/
theorem Openings.reaches_of_plain
    {word : Keyword}
    (isWord : token.kind = .keyword word)
    (plain : word ∈ plainKeywords)
    (openings : Openings) :
    openings.Reaches (withItems 1 openings.containers) [] [token] := by
  have closes : (openings.behind [token]).closing = decide (token.kind = .keyword .close) := rfl
  have steps : (openings.trace [token]).map Event.step =
      (openings.event? token).toList.map Event.step :=
    congrArg (List.map Event.step) (List.append_nil _)
  simp only [plainKeywords, List.mem_cons, List.not_mem_nil, or_false] at plain
  rcases plain with rfl | rfl | rfl | rfl <;>
    exact ⟨by simp [behind, after, isWord], by simp [closes, isWord],
      by simp [steps, event?, isWord]⟩

/-- An item notes nothing if its keyword is plain and a quiet line follows. -/
theorem Noted.plainItem
    {word : Keyword}
    {part : Production β}
    {build : β → α}
    {walk : α → List Step}
    {rule : Rule}
    (stands : openings.Stands state)
    (next : state.cursor.rest = token :: more)
    (isWord : token.kind = .keyword word)
    (plain : word ∈ plainKeywords)
    (quiet : Quiet part)
    (silent : ∀ item, walk (build item) = []) :
    Noted openings state (fun value => openings.PassesItem (walk value))
      (line rule build part state.advance) := by
  have reaches := Openings.reaches_of_plain isWord plain openings
  have takes := State.takes_advance next
  have notes : openings.Notes [token] state state.advance :=
    Openings.notes_advance (List.map_eq_nil_iff.1 reaches.steps)
  have standsOn := stands.behind takes reaches.closing
  refine ((Quiet.line rule quiet silent standsOn).mono ?_).prepend takes notes
  intro value taken reachesOn
  rw [reaches.containers] at reachesOn
  exact ⟨List.cons_ne_nil token taken, reaches.append reachesOn⟩

/-- A container notes its opening at its keyword, and the rest of it notes behind that. -/
theorem Noted.openContainer
    {opened : Nat → Event}
    {related : α → List Token → Prop}
    {production : Production α}
    (stands : openings.Stands state)
    (next : state.cursor.rest = token :: more)
    (gives : openings.event? token = some (opened (openings.consumed + 1)))
    (noted :
      ∀ {begun : State},
        (openings.behind [token]).Stands begun →
          Noted (openings.behind [token]) begun related (production begun)) :
    Noted openings state
      (fun value taken =>
        ∃ later,
          taken = token :: later ∧ openings.trace [token] = [opened (openings.consumed + 1)] ∧
            related value later)
      ((Production.note opened >>= fun _ => production) state.advance) := by
  have isEvent : openings.trace [token] = [opened (openings.consumed + 1)] := by
    rw [Openings.trace, gives]
    rfl
  have notes := Openings.notes_noting stands.consumed isEvent
  have notClosing : (openings.behind [token]).closing = false := by
    refine decide_eq_false fun closes => ?_
    simp [Openings.event?, closes] at gives
  have begins :
      (Production.note opened >>= fun _ => production) state.advance =
        production (state.advance.noting opened) :=
    Production.bind_apply_of_some rfl
  have standsInside : (openings.behind [token]).Stands (state.advance.noting opened) :=
    ⟨congrArg (· + 1) stands.consumed, notClosing⟩
  rw [begins]
  refine ((noted standsInside).mono fun value later holds => ?_).prepend
    (State.takes_noting opened next) notes
  exact ⟨later, rfl, isEvent, holds⟩

/-- A container notes its closing at the semicolon behind its closing keyword. -/
theorem Noted.closeContainer
    {closed : Nat → Event}
    {innermost : Opening}
    {outer : List Opening}
    (rule : Rule)
    (value : α)
    (consumed : openings.consumed = state.cursor.consumed)
    (closing : openings.closing = true)
    (isInnermost : openings.containers = innermost :: outer)
    (closes :
      innermost.closed (openings.consumed + 1) = closed (openings.consumed + 1)) :
    Noted openings state
      (fun result taken =>
        result = value ∧
          openings.Reaches outer [(closed (openings.consumed + 1)).step] taken)
      ((do
        let _ ← mark rule .semicolon
        Production.note closed
        return value : Production α) state) := by
  rcases state.next_or_other (.mark .semicolon) with ⟨token, more, next, isSemicolon⟩ | other
  · have isEvent : openings.trace [token] = [closed (openings.consumed + 1)] := by
      simp [Openings.trace, Openings.event?, isSemicolon, closing, isInnermost, closes]
    have reaches : openings.Reaches outer [(closed (openings.consumed + 1)).step] [token] := by
      refine ⟨?_, ?_, by rw [isEvent]; rfl⟩
      · simp [Openings.behind, Openings.after, isSemicolon, closing, isInnermost]
      · simp [Openings.behind, Openings.after, isSemicolon]
    rw [mark, Production.bind_apply_of_some (expect_of_kind rule next isSemicolon)]
    exact .taken (State.takes_noting closed next) (Openings.notes_noting consumed isEvent)
      ⟨rfl, reaches⟩
  · rw [mark, Production.bind_apply_of_none (expect_of_ne rule other)]
    exact .mismatch rule _

/-! ## Containers -/

/-- A closing keyword leaves the containers as they are until its semicolon. -/
theorem Openings.Reaches.close
    {containers : List Opening}
    {steps : List Step}
    {front : List Token}
    {close : Token}
    (reaches : openings.Reaches containers steps front)
    (closes : close.kind = .keyword .close) :
    (openings.behind (front ++ [close])).containers = containers ∧
      (openings.behind (front ++ [close])).closing = true ∧
      (openings.trace (front ++ [close])).map Event.step = steps := by
  have behindClose :
      openings.behind (front ++ [close]) = (openings.behind front).after close :=
    Openings.behind_append _ _ _
  have nothing : (openings.behind front).trace [close] = [] := by
    simp [Openings.trace, Openings.event?, closes]
  refine ⟨?_, ?_, ?_⟩
  · simp [behindClose, Openings.after, closes, reaches.containers]
  · simp [behindClose, Openings.after, closes]
  · rw [Openings.trace_append, nothing, List.append_nil, reaches.steps]

/-- The body of a container and the semicolon that closes it. -/
def contained
    (rule : Rule)
    (closed : Nat → Nat → Event)
    (build : List α → β)
    (item : Production α) :
    Production β := do
  let items ← body rule item
  let _ ← mark rule .semicolon
  Production.note fun position => closed position items.length
  return build items

/-- The items in a container are walked through before it is left. -/
theorem NotesItem.contained
    {item : Item}
    {depth : Nat}
    {walk : α → List Step}
    {production : Production α}
    {closed : Nat → Nat → Event}
    {innermost : Opening}
    {outer : List Opening}
    (notes : NotesItem item depth walk production)
    (rule : Rule)
    (build : List α → β)
    (stands : openings.Stands state)
    (panels : openings.panels = depth)
    (isInnermost : openings.containers = innermost :: outer)
    (closes :
      ∀ position count,
        Opening.closed position { innermost with items := innermost.items + count } =
          closed position count) :
    Noted openings state
      (fun result taken =>
        ∃ values position,
          result = build values ∧
            openings.Reaches outer
              (values.flatMap walk ++ [(closed position values.length).step]) taken)
      (Grammar.contained rule closed build production state) := by
  refine (notes.body rule stands panels).bind fun {values taken middle} takes holds => ?_
  obtain ⟨front, close, rfl, isClose, reaches⟩ := holds
  obtain ⟨containers, closing, steps⟩ := reaches.close isClose
  have consumed :
      (openings.behind (front ++ [close])).consumed = middle.cursor.consumed := by
    rw [Openings.consumed_behind, stands.consumed, takes.consumed]
  rw [isInnermost] at containers
  refine (Noted.closeContainer rule (build values) consumed closing containers
    (closes _ values.length)).mono ?_
  rintro result taken ⟨rfl, ends⟩
  exact ⟨values, _, rfl, ends.prepend steps⟩

/-! ## Items -/

theorem notesItem_radioButton (depth : Nat) :
    NotesItem .radioButton depth (fun _ => []) radioButton where
  noted {state openings} stands panels := by
    rcases state.next_or_other (.keyword .radio) with ⟨token, more, next, isRadio⟩ | notRadio
    · have answered : radioButton state = radioBehindKeyword state.advance :=
        Production.bind_apply_of_some (expect_of_kind .radioButton next isRadio)
      rw [answered]
      exact Noted.plainItem stands next isRadio (by decide) (Quiet.quoted .radioButton)
        fun _ => rfl
    · have answered :
          radioButton state = Production.mismatch .radioButton (.token (.keyword .radio)) state :=
        Production.bind_apply_of_none (expect_of_ne .radioButton notRadio)
      rw [answered]
      exact .mismatch .radioButton (.token (.keyword .radio))
  declines {state close more} next closes := by
    refine Production.bind_apply_of_none (expect_of_ne .radioButton fun token found => ?_)
    rw [next] at found
    cases found
    simp [closes]

/-- A group is walked through when its semicolon is reached. -/
theorem Noted.group
    (depth : Nat)
    (stands : openings.Stands state)
    (next : state.cursor.rest = token :: more)
    (isGroup : token.kind = .keyword .group) :
    Noted openings state (fun widget => openings.PassesItem (widget.walk depth))
      (group state.advance) := by
  have gives : openings.event? token = some (.groupOpened (openings.consumed + 1)) := by
    simp [Openings.event?, isGroup]
  have isInnermost :
      (openings.behind [token]).containers =
        ⟨.group, openings.consumed + 1, 0⟩ :: withItems 1 openings.containers := by
    simp [Openings.behind, Openings.after, isGroup]
  have closes (position count : Nat) :
      Opening.closed position ⟨.group, openings.consumed + 1, 0 + count⟩ =
        .groupClosed position count := by
    simp [Opening.closed]
  refine (Noted.openContainer stands next gives fun {begun} standsOn =>
    (notesItem_radioButton _).contained .group Widget.radioGroup standsOn rfl isInnermost
      closes).mono ?_
  rintro widget taken ⟨later, rfl, isEvent, values, position, rfl, reaches⟩
  have isEnter : (openings.trace [token]).map Event.step = [.enterGroup] :=
    congrArg (List.map Event.step) isEvent
  have noSteps : values.flatMap (fun _ => ([] : List Step)) = [] :=
    List.flatMap_eq_nil_iff.2 fun _ _ => rfl
  rw [noSteps] at reaches
  exact ⟨List.cons_ne_nil token later, reaches.prepend isEnter⟩

theorem walkAll_eq_flatMap
    (depth : Nat)
    (widgets : List Widget) :
    Widget.walkAll depth widgets = widgets.flatMap (Widget.walk depth) := by
  induction widgets with
  | nil =>
      rfl
  | cons widget widgets inductionHypothesis =>
      rw [Widget.walkAll, inductionHypothesis, List.flatMap_cons]

/-- Behind the opening of a panel its layout notes nothing, and its widgets are inside it. -/
theorem Noted.insidePanel
    {depth : Nat}
    {widget : Production Widget}
    {innermost : Opening}
    {outer : List Opening}
    (notes : NotesItem .widget depth (Widget.walk depth) widget)
    (stands : openings.Stands state)
    (panels : openings.panels = depth)
    (isInnermost : openings.containers = innermost :: outer)
    (closes :
      ∀ position count,
        Opening.closed position { innermost with items := innermost.items + count } =
          .panelClosed position count) :
    Noted openings state
      (fun result taken =>
        ∃ arrangement children,
          result = .panel arrangement children ∧
            openings.Reaches outer
              (Widget.walkAll depth children ++ [.leavePanel children.length]) taken)
      ((do
        let arrangement ← Production.inside .panel .layout layout
        contained .panel .panelClosed (Widget.panel arrangement) widget) state) := by
  refine (Quiet.inside .panel .layout Quiet.layout stands).bind
    fun {arrangement front middle} takes reaches => ?_
  have samePanels : (openings.behind front).panels = openings.panels := by
    rw [Openings.panels_eq_count, Openings.panels_eq_count, reaches.containers]
  refine (notes.contained .panel (Widget.panel arrangement)
    (stands.behind takes reaches.closing) (samePanels.trans panels)
    (reaches.containers.trans isInnermost) closes).mono ?_
  rintro result back ⟨children, position, rfl, reachesOn⟩
  rw [← walkAll_eq_flatMap] at reachesOn
  exact ⟨arrangement, children, rfl, reaches.append reachesOn⟩

/-- A panel is walked through when its semicolon is reached. -/
theorem Noted.panel
    {depth : Nat}
    {widget : Production Widget}
    (notes : NotesItem .widget (depth + 1) (Widget.walk (depth + 1)) widget)
    (stands : openings.Stands state)
    (panels : openings.panels = depth)
    (next : state.cursor.rest = token :: more)
    (isPanel : token.kind = .keyword .panel) :
    Noted openings state (fun widget => openings.PassesItem (widget.walk depth))
      (panel (depth + 1) widget state.advance) := by
  have gives :
      openings.event? token = some (.panelOpened (openings.consumed + 1) (depth + 1)) := by
    simp [Openings.event?, isPanel, panels]
  have isInnermost :
      (openings.behind [token]).containers =
        ⟨.panel, openings.consumed + 1, 0⟩ :: withItems 1 openings.containers := by
    simp [Openings.behind, Openings.after, isPanel]
  have panelsInside : (openings.behind [token]).panels = depth + 1 := by
    rw [Openings.panels_eq_count, isInnermost, List.map_cons, map_keyword_withItems,
      List.count_cons_self, ← Openings.panels_eq_count, panels]
  have closes (position count : Nat) :
      Opening.closed position ⟨.panel, openings.consumed + 1, 0 + count⟩ =
        .panelClosed position count := by
    simp [Opening.closed]
  refine (Noted.openContainer stands next gives fun {begun} standsOn =>
    insidePanel notes standsOn panelsInside isInnermost closes).mono ?_
  rintro _ taken ⟨later, rfl, isEvent, arrangement, children, rfl, reaches⟩
  have isEnter : (openings.trace [token]).map Event.step = [.enterPanel (depth + 1)] :=
    congrArg (List.map Event.step) isEvent
  exact ⟨List.cons_ne_nil token later, reaches.prepend isEnter⟩

/-! ## The choice of a widget -/

/-- The choice of a widget notes what the alternative that is chosen notes. -/
theorem Noted.chooseWidget
    {related : Widget → List Token → Prop}
    {panel production : Production Widget}
    {word : Keyword}
    (noted : Noted openings state related (production state.advance))
    (found : (alternatives panel).lookup word = some production)
    (next : state.cursor.rest = token :: more)
    (isWord : token.kind = .keyword word) :
    Noted openings state related (widgetWith panel state) := by
  cases answered : production state.advance with
  | mk answer reached =>
      rw [answered] at noted
      cases answer with
      | none =>
          rw [widgetWith_of_none found next isWord answered]
          exact noted.rewind state.cursor
      | some widget =>
          rw [widgetWith_of_some found next isWord answered]
          exact noted

/-- The production of a widget notes the walk through it, if that of a panel does. -/
theorem notesItem_widgetWith
    {depth : Nat}
    {panel : Production Widget}
    (panelNoted :
      ∀ {state : State} {openings : Openings} {token : Token} {more : List Token},
        openings.Stands state →
          openings.panels = depth →
            state.cursor.rest = token :: more →
              token.kind = .keyword .panel →
                Noted openings state (fun widget => openings.PassesItem (widget.walk depth))
                  (panel state.advance)) :
    NotesItem .widget depth (Widget.walk depth) (widgetWith panel) where
  noted {state openings} stands panels := by
    rcases state.next_alternative panel with
      ⟨token, more, word, production, next, isWord, found⟩ | noAlternative
    · refine Noted.chooseWidget ?_ found next isWord
      cases word with
      | button =>
          cases found
          exact Noted.plainItem stands next isWord (by decide) (Quiet.quoted .button)
            fun _ => rfl
      | label =>
          cases found
          exact Noted.plainItem stands next isWord (by decide) (Quiet.quoted .label)
            fun _ => rfl
      | textfield =>
          cases found
          exact Noted.plainItem stands next isWord (by decide) (Quiet.number .textfield)
            fun _ => rfl
      | group =>
          cases found
          exact Noted.group depth stands next isWord
      | panel =>
          cases found
          exact panelNoted stands panels next isWord
      | _ =>
          cases found
    · rw [widgetWith_of_ne noAlternative]
      exact .mismatch .widget .widget
  declines next closes := widgetWith_of_close next closes

/-- A widget notes the walk through it, however much room for panels there is. -/
theorem notesItem_widget
    {room : Nat}
    (bounded : room ≤ panelLimit) :
    NotesItem .widget (panelLimit - room) (Widget.walk (panelLimit - room)) (widget room) := by
  induction room with
  | zero =>
      exact notesItem_widgetWith fun _ _ _ _ => .refusePanel
  | succ room inductionHypothesis =>
      have depthOfChildren : panelLimit - room = panelLimit - (room + 1) + 1 := by
        omega
      have children := inductionHypothesis (Nat.le_of_succ_le bounded)
      rw [depthOfChildren] at children
      rw [widget_succ, depthOfChildren]
      exact notesItem_widgetWith fun stands panels next isPanel =>
        Noted.panel children stands panels next isPanel

end WindowLang.Grammar
