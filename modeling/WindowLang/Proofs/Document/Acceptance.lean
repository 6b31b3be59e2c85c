import WindowLang.Proofs.Document.Recognition
import WindowLang.Tree.Tokens

namespace WindowLang

/-!
# Accepted documents

A token stream is accepted exactly where the grammar derives it, whatever its
lexemes are, and the window it gives is the only one that it describes. So the
rewinding of repetitions neither loses a document nor lets another one through.
-/

open Grammar

/-- A derivable document is taken up to its period, and gives the window of its derivation. -/
theorem window_of_windowForm
    {document rest : List Token}
    {window : Window}
    (derives : WindowForm document window)
    (ends : AtEnd rest) :
    ∃ reached,
      Grammar.window (.start (document ++ rest)) = (some window, reached) ∧
        (State.start (document ++ rest)).Takes document reached := by
  have performs : Performs (document ++ rest) 0 Agenda.start WindowForm windowUpToPeriod :=
    performs_windowUpToPeriod
  have split : (State.start (document ++ rest)).cursor.rest = document ++ rest := rfl
  obtain ⟨reached, succeeded, takes⟩ := performs.complete derives split
  have leftOver : reached.cursor.rest = rest :=
    List.append_cancel_left (takes.rest.symm.trans split)
  have atEnd : AtEnd reached.cursor.rest := by
    rwa [leftOver]
  refine ⟨reached, ?_, takes⟩
  rw [window_eq, Production.bind_apply_of_some succeeded]
  exact Production.bind_apply_of_some (endOfFile_of_atEnd atEnd)

/-- Every derivable document is accepted with the window of its derivation. -/
theorem parse_of_describes
    {tokens : List Token}
    {window : Window}
    (describes : Describes tokens window) :
    parse tokens = .ok window := by
  obtain ⟨document, rest, rfl, derives, ends⟩ := describes
  obtain ⟨reached, recognizes, _⟩ := window_of_windowForm derives ends
  exact parse_of_some recognizes

/-- What is accepted has a derivation of the window that it gives. -/
theorem describes_of_parse
    {tokens : List Token}
    {window : Window}
    (accepted : parse tokens = .ok window) :
    Describes tokens window := by
  have recognition := recognized tokens
  rw [accepted] at recognition
  cases recognition with
  | @accepted document rest window split derives runs ends =>
      exact ⟨document, rest, split, derives, ends⟩

/--
A token stream is accepted with a window exactly if it is a derivation of that
window up to the end of the input, and no other window has such a derivation.
-/
theorem parse_eq_ok_iff_describes
    (tokens : List Token)
    (window : Window) :
    (parse tokens = .ok window ↔ Describes tokens window) ∧
      ∀ other, Describes tokens window → Describes tokens other → other = window := by
  refine ⟨⟨describes_of_parse, parse_of_describes⟩, ?_⟩
  intro other describes describesOther
  have same : Except.ok other = Except.ok window :=
    (parse_of_describes describesOther).symm.trans (parse_of_describes describes)
  exact Except.ok.inj same

/-- The window of a document with a signed width and tokens behind its end. -/
def signedWindow : Window :=
  ⟨"a b", 7, 5, .flow, [.panel .flow [.radioGroup ["x"]]]⟩

/-- The document, up to its period. -/
def signedDocument : List Token :=
  .ofKeyword .window :: quotedTokens "a b" ++
    [.ofMark .openParen, ⟨.number, "+007"⟩, .ofMark .comma, .ofNumber 5, .ofMark .closeParen] ++
    Layout.tokens .flow ++ Widget.tokensAll signedWindow.children ++
    [.ofKeyword .close, .ofMark .period]

theorem signedDocument_describes_signedWindow :
    parse (signedDocument ++ [⟨.endOfFile, ""⟩, .ofMark .comma]) = .ok signedWindow ∧
      ∀ other,
        Describes (signedDocument ++ [⟨.endOfFile, ""⟩, .ofMark .comma]) other →
          other = signedWindow := by
  have title : QuotedForm (quotedTokens "a b") "a b" := .literal rfl rfl rfl
  have width : Writes ⟨.number, "+007"⟩ 7 := ⟨rfl, by decide⟩
  have height : Writes (.ofNumber 5) 5 := ⟨rfl, by decide⟩
  have layout : LayoutForm (Layout.tokens .flow) .flow := .layout rfl (.flow rfl) rfl
  have button : QuotedForm (quotedTokens "x") "x" := .literal rfl rfl rfl
  have radios : RadiosForm (["x"].flatMap radioTokens) ["x"] := .cons rfl button rfl .nil
  have inner : WidgetsForm 255 (Widget.tokensAll [.radioGroup ["x"]]) [.radioGroup ["x"]] :=
    .cons (.group rfl radios rfl rfl) .nil
  have outer : WidgetsForm panelLimit (Widget.tokensAll signedWindow.children) _ :=
    .cons (.panel rfl layout inner rfl rfl) .nil
  have derives : WindowForm signedDocument signedWindow :=
    .window rfl title rfl width rfl height rfl layout outer rfl rfl
  obtain ⟨sameAsDerivation, unique⟩ :=
    parse_eq_ok_iff_describes (signedDocument ++ [⟨.endOfFile, ""⟩, .ofMark .comma]) signedWindow
  have describes : Describes (signedDocument ++ [⟨.endOfFile, ""⟩, .ofMark .comma]) signedWindow :=
    ⟨signedDocument, _, rfl, derives, .inr rfl⟩
  exact ⟨sameAsDerivation.2 describes, fun other => unique other describes⟩

end WindowLang
