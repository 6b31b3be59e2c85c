import WindowLang.Proofs.Lexing.Streams
import WindowLang.Proofs.Source.Normality

namespace WindowLang

/-!
# Segments of a source

The tokens of a window fall into segments that begin and end outside of
parentheses and literals: single words and marks, literals as a whole, and lists
between parentheses. Segments in a row are well moded.
-/

/-- Tokens that begin and end outside of parentheses and literals. -/
structure IsSegment (strict : Bool) (tokens : List Token) : Prop where
  wellModed : WellModed strict .plain tokens
  returns : modeAfter .plain tokens = .plain
  settled : IsSettled tokens

variable {strict : Bool}

theorem IsSettled.append
    {first second : List Token}
    (firstSettled : IsSettled first)
    (secondSettled : IsSettled second) :
    IsSettled (first ++ second) := by
  rw [IsSettled, List.getLast?_append]
  cases last : second.getLast? with
  | none =>
      exact firstSettled
  | some token =>
      rwa [IsSettled, last] at secondSettled

theorem isSegment_nil :
    IsSegment strict [] where
  wellModed := trivial
  returns := rfl
  settled := nofun

/-- Two segments in a row are a segment. -/
theorem IsSegment.append
    {first second : List Token}
    (firstSegment : IsSegment strict first)
    (secondSegment : IsSegment strict second) :
    IsSegment strict (first ++ second) where
  wellModed := by
    refine firstSegment.wellModed.append firstSegment.settled ?_
    rw [firstSegment.returns]
    exact secondSegment.wellModed
  returns := by
    rw [modeAfter_append, firstSegment.returns, secondSegment.returns]
  settled := firstSegment.settled.append secondSegment.settled

/-- A token that opens nothing is a segment. -/
theorem isSegment_singleton
    {token : Token}
    (plain : IsPlain strict token)
    (stays : Mode.plain.after token.kind = .plain) :
    IsSegment strict [token] where
  wellModed := ⟨plain, trivial⟩
  returns := stays
  settled := by
    simp only [IsSettled, List.getLast?_singleton, Option.map_some, ne_eq, Option.some.injEq]
    intro isString
    simp [IsPlain, isString] at plain

theorem isSegment_keyword (word : Keyword) :
    IsSegment strict [.ofKeyword word] :=
  isSegment_singleton rfl rfl

theorem isSegment_mark
    {mark : Mark}
    (stays : Mode.plain.after (.mark mark) = .plain) :
    IsSegment strict [.ofMark mark] :=
  isSegment_singleton rfl stays

/-- A numeral is no keyword. -/
theorem ofWord?_of_isNumeral
    {word : String}
    (numeral : Text.isNumeral word.toList = true) :
    Keyword.ofWord? word = none := by
  cases isKeyword : Keyword.ofWord? word with
  | none =>
      rfl
  | some keyword =>
      rw [← spelling_of_ofWord? isKeyword] at numeral
      cases keyword <;> cases numeral

theorem isSegment_number (number : UInt32) :
    IsSegment strict [.ofNumber number] := by
  have numeral := Text.isNumeral_writeUnsigned number
  exact isSegment_singleton
    ⟨isWord_of_isNumeral numeral, ofWord?_of_isNumeral numeral, fun _ => numeral⟩ rfl

/-- A literal with a normal text is a segment. -/
theorem isSegment_quotedTokens
    {text : String}
    (isNormal : IsNormal text) :
    IsSegment strict (quotedTokens text) where
  wellModed := ⟨rfl, ⟨rfl, isNormal⟩, rfl, trivial⟩
  returns := rfl
  settled := nofun

/-- A token between parentheses that does not close them. -/
def IsListed (token : Token) : Prop :=
  IsParenthesized token ∧ Mode.inParenthesis.after token.kind = .inParenthesis

theorem isListed_number (number : UInt32) :
    IsListed (.ofNumber number) :=
  ⟨Text.isNumeral_writeUnsigned number, rfl⟩

theorem isListed_comma :
    IsListed (.ofMark .comma) :=
  ⟨rfl, rfl⟩

/-- Behind an opened parenthesis the list goes on up to the closing one. -/
theorem wellModed_list
    (strict : Bool)
    {listed : List Token}
    (areListed : ∀ token ∈ listed, IsListed token) :
    WellModed strict .inParenthesis (listed ++ [.ofMark .closeParen]) ∧
      modeAfter .inParenthesis (listed ++ [.ofMark .closeParen]) = .plain := by
  induction listed with
  | nil =>
      exact ⟨⟨rfl, trivial⟩, rfl⟩
  | cons token listed inductionHypothesis =>
      obtain ⟨⟨parenthesized, stays⟩, others⟩ := List.forall_mem_cons.1 areListed
      obtain ⟨wellModed, returns⟩ := inductionHypothesis others
      rw [List.cons_append]
      constructor
      · refine ⟨parenthesized, ?_⟩
        rwa [stays]
      · rwa [modeAfter, List.foldl_cons, stays]

/-- A list between parentheses is a segment. -/
theorem isSegment_list
    {listed : List Token}
    (areListed : ∀ token ∈ listed, IsListed token) :
    IsSegment strict (.ofMark .openParen :: listed ++ [.ofMark .closeParen]) := by
  obtain ⟨wellModed, returns⟩ := wellModed_list strict areListed
  rw [List.cons_append]
  constructor
  · exact ⟨rfl, wellModed⟩
  · exact returns
  · have noText : (Token.ofMark .closeParen).kind ≠ .string := by
      decide
    exact .concat noText (.ofMark .openParen :: listed)

theorem isListed_gapTokens (horizontal vertical : Option UInt32) :
    ∀ token ∈ gapTokens horizontal vertical, IsListed token := by
  cases horizontal with
  | none =>
      exact List.forall_mem_nil _
  | some horizontal =>
      cases vertical with
      | none =>
          exact List.forall_mem_nil _
      | some vertical =>
          simp [gapTokens, isListed_number, isListed_comma]

theorem isSegment_typeTokens (layout : Layout) :
    IsSegment strict layout.typeTokens := by
  cases layout with
  | flow =>
      exact isSegment_keyword .flow
  | grid rows columns horizontal vertical =>
      have areListed :
          ∀ token ∈ [.ofNumber rows, .ofMark .comma, .ofNumber columns] ++
              gapTokens horizontal vertical,
            IsListed token := by
        refine List.forall_mem_append.2 ⟨?_, isListed_gapTokens horizontal vertical⟩
        simp [isListed_number, isListed_comma]
      exact (isSegment_keyword .grid).append (isSegment_list areListed)

theorem isSegment_layoutTokens (layout : Layout) :
    IsSegment strict layout.tokens :=
  ((isSegment_keyword .layout).append (isSegment_typeTokens layout)).append (isSegment_mark rfl)

/-- A keyword, a literal and a semicolon are a segment. -/
theorem isSegment_captioned
    {text : String}
    (word : Keyword)
    (isNormal : IsNormal text) :
    IsSegment strict (.ofKeyword word :: quotedTokens text ++ [.ofMark .semicolon]) :=
  ((isSegment_keyword word).append (isSegment_quotedTokens isNormal)).append (isSegment_mark rfl)

theorem isSegment_radioTokens
    {buttons : List String}
    (areNormal : ∀ text ∈ buttons, IsNormal text) :
    IsSegment strict (buttons.flatMap radioTokens) := by
  induction buttons with
  | nil =>
      exact isSegment_nil
  | cons button buttons inductionHypothesis =>
      obtain ⟨first, others⟩ := List.forall_mem_cons.1 areNormal
      rw [List.flatMap_cons]
      exact (isSegment_captioned .radio first).append (inductionHypothesis others)

/-- The closing keyword of a body and the mark behind it are a segment. -/
theorem isSegment_close
    {mark : Mark}
    (stays : Mode.plain.after (.mark mark) = .plain) :
    IsSegment strict [.ofKeyword .close, .ofMark mark] :=
  (isSegment_keyword .close).append (isSegment_mark stays)

mutual

/-- The tokens of a normal widget are a segment. -/
theorem isSegment_widgetTokens :
    (widget : Widget) →
    {room : Nat} →
    widget.IsNormal room →
    IsSegment strict widget.tokens
  | .button _, _, isNormal =>
      isSegment_captioned .button (Widget.isNormal_button_iff.1 isNormal)
  | .label _, _, isNormal =>
      isSegment_captioned .label (Widget.isNormal_label_iff.1 isNormal)
  | .textField columns, _, _ =>
      ((isSegment_keyword .textfield).append (isSegment_number columns)).append
        (isSegment_mark rfl)
  | .radioGroup _, _, isNormal =>
      ((isSegment_keyword .group).append
        (isSegment_radioTokens (Widget.isNormal_radioGroup_iff.1 isNormal))).append
        (isSegment_close rfl)
  | .panel _ _, 0, isNormal =>
      absurd isNormal Widget.not_isNormal_panel_zero
  | .panel layout children, _ + 1, isNormal => by
      obtain ⟨_, areNormal⟩ := Widget.isNormal_panel_iff.1 isNormal
      have opening : IsSegment strict (.ofKeyword .panel :: layout.tokens) :=
        (isSegment_keyword .panel).append (isSegment_layoutTokens layout)
      exact (opening.append (isSegment_widgetsTokens children areNormal)).append
        (isSegment_close rfl)

/-- The tokens of normal widgets are a segment. -/
theorem isSegment_widgetsTokens :
    (widgets : List Widget) →
    {room : Nat} →
    AreNormal room widgets →
    IsSegment strict (Widget.tokensAll widgets)
  | [], _, _ =>
      isSegment_nil
  | widget :: widgets, _, areNormal => by
      obtain ⟨isNormal, others⟩ := areNormal_cons_iff.1 areNormal
      exact (isSegment_widgetTokens widget isNormal).append
        (isSegment_widgetsTokens widgets others)

end

/-- The tokens of a normal window are a segment. -/
theorem isSegment_windowTokens
    {limit : Nat}
    {window : Window}
    (isNormal : window.IsNormal limit) :
    IsSegment strict window.tokens := by
  obtain ⟨title, _, areNormal⟩ := Window.isNormal_iff.1 isNormal
  have heading : IsSegment strict (.ofKeyword .window :: quotedTokens window.title) :=
    (isSegment_keyword .window).append (isSegment_quotedTokens title)
  have areListed :
      ∀ token ∈ [.ofNumber window.width, .ofMark .comma, .ofNumber window.height],
        IsListed token := by
    simp [isListed_number, isListed_comma]
  have sized := heading.append (isSegment_list areListed)
  have arranged := sized.append (isSegment_layoutTokens window.layout)
  have filled := arranged.append (isSegment_widgetsTokens window.children areNormal)
  exact filled.append (isSegment_close rfl)

end WindowLang
