import WindowLang.Proofs.Document.Acceptance
import WindowLang.Proofs.Lexing.Rereading
import WindowLang.Proofs.Source.Derivations
import WindowLang.Proofs.Source.Segments

namespace WindowLang

/-!
# Windows and their sources

The windows that sources describe are the normal ones. Such a window comes back
from its plainest source: the tokens are read again from the text, and they derive
the window.
-/

open Grammar

/-- A normal window is parsed from its source. -/
theorem parseText_source
    {window : Window}
    (isNormal : window.IsNormal panelLimit)
    (strict : Bool) :
    parseText strict window.source = .ok window := by
  have segment : IsSegment strict window.tokens :=
    isSegment_windowTokens isNormal
  have reread : tokenizeText strict window.source = window.tokens :=
    tokenizeText_spaced segment.wellModed
  rw [parseText, reread]
  exact parse_tokens isNormal

/-- A window that is parsed from a text is normal. -/
theorem isNormal_of_parseText
    {strict : Bool}
    {text : String}
    {window : Window}
    (accepted : parseText strict text = .ok window) :
    window.IsNormal panelLimit := by
  have wellModed : WellModed strict .plain (tokenizeText strict text) :=
    wellModed_tokenize strict (Text.lines text)
  exact isNormal_of_describes (describes_of_parse accepted) wellModed.isNormal

/--
Exactly the normal windows are parsed from sources, and each is parsed from its
own. So a window that was parsed is parsed again from its source.
-/
theorem source_roundtrip (strict : Bool) :
    (∀ window, window.IsNormal panelLimit → parseText strict window.source = .ok window) ∧
      (∀ text window, parseText strict text = .ok window → window.IsNormal panelLimit) ∧
      ∀ text window,
        parseText strict text = .ok window → parseText strict window.source = .ok window := by
  refine ⟨fun window isNormal => parseText_source isNormal strict, ?_, ?_⟩
  · intro text window accepted
    exact isNormal_of_parseText accepted
  · intro text window accepted
    exact parseText_source (isNormal_of_parseText accepted) strict

/-- A window with an empty title, gaps, and a text of marks, a keyword and digits in a panel. -/
def markedWindow : Window :=
  ⟨"", 3, 4, .grid 1 2 (some 0) (some 7), [.panel .flow [.label "( End ; 42"]]⟩

theorem markedWindow_roundtrip :
    markedWindow.IsNormal panelLimit ∧
      parseText true markedWindow.source = .ok markedWindow := by
  have text : IsNormal "( End ; 42" := by
    have isKeyword : (Lexeme.word "End").IsText := ⟨isWord_spelling .close, nofun⟩
    have isNumber : (Lexeme.word "42").IsText := ⟨isWord_of_isNumeral (by decide), nofun⟩
    have opening : (Lexeme.mark .openParen).IsText := ⟨trivial, by decide⟩
    have semicolon : (Lexeme.mark .semicolon).IsText := ⟨trivial, by decide⟩
    refine isNormal_iff.2
      ⟨[.mark .openParen, .word "End", .mark .semicolon, .word "42"], ?_, rfl⟩
    simp [opening, isKeyword, semicolon, isNumber]
  have isNormal : markedWindow.IsNormal panelLimit := by
    refine Window.isNormal_iff.2 ⟨.inl rfl, rfl, areNormal_cons_iff.2 ⟨?_, areNormal_nil _⟩⟩
    refine Widget.isNormal_panel_iff.2 ⟨trivial, areNormal_cons_iff.2 ⟨?_, areNormal_nil _⟩⟩
    exact Widget.isNormal_label_iff.2 text
  obtain ⟨parsed, normal, again⟩ := source_roundtrip true
  have accepted := parsed markedWindow isNormal
  exact ⟨normal _ _ accepted, again _ _ accepted⟩

end WindowLang
