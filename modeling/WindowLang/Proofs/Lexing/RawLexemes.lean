import Mathlib.Data.List.SplitBy
import WindowLang.Proofs.Lexing.Cutting
import WindowLang.Token.Raw

namespace WindowLang

/-!
# Lexemes and raw lexemes

The lexemes that are collected letter by letter are the runs of a line that are more
than a separator. They can be cut out of the raw lexemes again, so lines with the
same raw lexemes have the same lexemes.
-/

/-- Alphanumeric characters in a row are one run. -/
theorem runs_of_isAlphanumeric
    {characters : List Char}
    (nonempty : characters ≠ [])
    (alphanumeric : ∀ c ∈ characters, Text.isAlphanumeric c = true) :
    runs characters = [characters] := by
  refine List.splitBy_of_isChain nonempty ?_
  induction characters with
  | nil =>
      exact .nil
  | cons c characters inductionHypothesis =>
      obtain ⟨first, others⟩ := List.forall_mem_cons.1 alphanumeric
      refine List.isChain_cons.2 ⟨fun second isSecond => ?_, ?_⟩
      · simp [first, others second (List.mem_of_mem_head? isSecond)]
      · cases characters with
        | nil =>
            exact .nil
        | cons second characters =>
            exact inductionHypothesis (List.cons_ne_nil _ _) others

/-- A character that is not alphanumeric is a run between the runs around it. -/
theorem runs_append_cons
    {c : Char}
    (separates : Text.isAlphanumeric c = false)
    (before behind : List Char) :
    runs (before ++ c :: behind) = runs before ++ [c] :: runs behind := by
  have alone : runs (c :: behind) = [c] :: runs behind := by
    refine List.splitBy_append (l := [c]) (m := behind) fun last isLast first _ => ?_
    obtain rfl : c = last := by
      simpa using isLast
    simp [separates]
  rw [← alone]
  refine List.splitBy_append_cons behind fun last _ => ?_
  simp [separates]

theorem isSeparator_of_isAlphanumeric
    {c : Char}
    (alphanumeric : Text.isAlphanumeric c = true) :
    isSeparator c = false := by
  simp [isSeparator, alphanumeric]

/-- A separator writes no mark, and any other character that is not alphanumeric writes one. -/
theorem marked_eq_of_ne_alphanumeric
    {c : Char}
    (separates : Text.isAlphanumeric c = false) :
    (marked c).map (fun lexeme => lexeme.text.toList) =
      if isSeparator c then [] else [[c]] := by
  cases isMark : Mark.ofChar? c with
  | none =>
      simp [marked, isSeparator, separates, isMark]
  | some symbol =>
      have writes : symbol.char = c := by
        simpa using List.find?_some isMark
      simp [marked, isSeparator, separates, isMark, Lexeme.text, writes]

/-- The runs of the letters collected so far and of what follows are its lexemes. -/
theorem map_text_lexemesAfter
    {letters : List Char}
    (alphanumeric : ∀ c ∈ letters, Text.isAlphanumeric c = true)
    (characters : List Char) :
    (lexemesAfter letters characters).map (fun lexeme => lexeme.text.toList) =
      (runs (letters.reverse ++ characters)).filter fun run => !run.all isSeparator := by
  have collectedRun
      {letters : List Char}
      (alphanumeric : ∀ c ∈ letters, Text.isAlphanumeric c = true) :
      (collected letters).map (fun lexeme => lexeme.text.toList) =
        (runs letters.reverse).filter fun run => !run.all isSeparator := by
    cases letters with
    | nil =>
        rfl
    | cons letter letters =>
        have reversed : ∀ c ∈ (letter :: letters).reverse, Text.isAlphanumeric c = true :=
          fun c among => alphanumeric c (List.mem_reverse.1 among)
        have isLetter : isSeparator letter = false :=
          isSeparator_of_isAlphanumeric (alphanumeric letter List.mem_cons_self)
        rw [runs_of_isAlphanumeric (by simp) reversed]
        simp [collected, Lexeme.text, isLetter]
  induction characters generalizing letters with
  | nil =>
      rw [List.append_nil]
      exact collectedRun alphanumeric
  | cons c characters inductionHypothesis =>
      by_cases isLetter : Text.isAlphanumeric c = true
      · rw [lexemesAfter, if_pos isLetter,
          inductionHypothesis (List.forall_mem_cons.2 ⟨isLetter, alphanumeric⟩)]
        simp
      · have separates : Text.isAlphanumeric c = false := by
          simpa using isLetter
        have behind := inductionHypothesis (List.forall_mem_nil _)
        rw [List.reverse_nil, List.nil_append] at behind
        rw [lexemesAfter, if_neg isLetter, List.map_append, List.map_append, behind,
          collectedRun alphanumeric, marked_eq_of_ne_alphanumeric separates,
          runs_append_cons separates, List.filter_append]
        cases separator : isSeparator c with
        | true | false =>
            simp [separator]

/-- The raw lexemes of a line are the texts of its lexemes. -/
theorem rawLine_eq (line : String) :
    rawLine line = (cut line).map fun lexeme => lexeme.text.toList :=
  (map_text_lexemesAfter (List.forall_mem_nil _) line.toList).symm

/-- The raw lexemes of lines are the texts of their lexemes. -/
theorem rawLexemes_eq (lines : List String) :
    rawLexemes lines = (lines.flatMap lexemes).map fun lexeme => lexeme.text.toList := by
  induction lines with
  | nil =>
      rfl
  | cons line lines inductionHypothesis =>
      rw [List.flatMap_cons, List.map_append, ← inductionHypothesis]
      cases comment : isComment line with
      | true =>
          simp [rawLexemes, lexemes, comment]
      | false =>
          have isLine := rawLine_eq line
          simp only [cut] at isLine
          simp [rawLexemes, lexemes, comment, isLine]

/-- The lexemes of lines are cut out of their raw lexemes. -/
theorem lexemes_of_rawLexemes (lines : List String) :
    (rawLexemes lines).flatMap (lexemesAfter []) = lines.flatMap lexemes := by
  rw [rawLexemes_eq, List.flatMap_map]
  exact flatMap_cut_text fun lexeme among => isProper_of_mem_lines among

/-- Lines with the same raw lexemes have the same lexemes. -/
theorem lexemes_eq_of_rawLexemes_eq
    {first second : List String}
    (same : rawLexemes first = rawLexemes second) :
    first.flatMap lexemes = second.flatMap lexemes := by
  rw [← lexemes_of_rawLexemes first, same, lexemes_of_rawLexemes second]

end WindowLang
