import WindowLang.Proofs.Text.Quoting
import WindowLang.Text.Lines
import WindowLang.Token.Listing

namespace WindowLang

/-!
# What a listing tells

An entry of a listing tells its token and where it ends, because the kind's name ends at the
comma and the quoted lexeme tells its own end. So a row tells its tokens. No entry holds a
line break, so the lines of a listing are its rows, and the rows tell the token stream.
-/

/-! ## Entries -/

theorem isAlpha_of_mem_name (kind : Kind) :
    ∀ c ∈ kind.name.toList, c.isAlpha = true := by
  have letters : kind.name.toList.all Char.isAlpha = true := by
    cases kind with
    | mark symbol => cases symbol <;> decide
    | keyword word => cases word <;> decide
    | _ => decide
  exact List.all_eq_true.1 letters

theorem Kind.name_injective
    {kind other : Kind}
    (same : kind.name = other.name) :
    kind = other := by
  have found := Kind.ofName?_name kind
  rw [same, Kind.ofName?_name] at found
  exact (Option.some.inj found).symm

theorem Token.toList_entry (token : Token) :
    token.entry.toList =
      '[' :: (token.kind.name.toList ++
        ',' :: ' ' :: ((Text.quote token.lexeme).toList ++ [']'])) := by
  simp [Token.entry]

/-- An entry can be told from what follows it. -/
theorem Token.entry_append_inj
    {token other : Token}
    {rest behind : List Char}
    (same : token.entry.toList ++ rest = other.entry.toList ++ behind) :
    token = other ∧ rest = behind := by
  obtain ⟨kind, lexeme⟩ := token
  obtain ⟨otherKind, otherLexeme⟩ := other
  simp only [Token.toList_entry, List.cons_append, List.append_assoc, List.cons.injEq,
    true_and] at same
  obtain ⟨sameName, sameTail⟩ := Text.append_inj_of_forall (isAlpha_of_mem_name kind)
    (isAlpha_of_mem_name otherKind) (by simp) (by simp) same
  simp only [List.cons.injEq, true_and] at sameTail
  obtain ⟨rfl, sameRest⟩ := Text.quote_append_inj sameTail
  obtain rfl := Kind.name_injective (String.toList_inj.1 sameName)
  exact ⟨rfl, (List.cons.inj sameRest).2⟩

/-! ## Characters of an entry -/

theorem isUnprintable_of_isAlphanum
    {c : Char}
    (alphanumeric : c.isAlphanum = true) :
    Text.isUnprintable c = false := by
  unfold Char.isAlphanum Char.isAlpha Char.isUpper Char.isLower Char.isDigit at alphanumeric
  simp only [Bool.or_eq_true, Bool.and_eq_true, decide_eq_true_eq, UInt32.le_iff_toNat_le,
    ge_iff_le] at alphanumeric
  have ranges :
      ((65 ≤ c.toNat ∧ c.toNat ≤ 90) ∨ (97 ≤ c.toNat ∧ c.toNat ≤ 122)) ∨
        (48 ≤ c.toNat ∧ c.toNat ≤ 57) :=
    alphanumeric
  rw [Bool.eq_false_iff, ne_eq, Text.isUnprintable_of_lt (by omega)]
  omega

theorem isUnprintable_of_all
    {text : List Char}
    (visible : text.all (fun c => !Text.isUnprintable c) = true) :
    ∀ c ∈ text, Text.isUnprintable c = false := by
  simpa using visible

/-- What quotes a character can be seen and breaks no line, whatever the character is. -/
theorem isUnprintable_of_mem_quoteChar
    (quoted : Char) :
    ∀ c ∈ Text.quoteChar quoted, Text.isUnprintable c = false := by
  have digits : ∀ c ∈ Nat.toDigits 16 quoted.toNat, Text.isUnprintable c = false :=
    fun _ among => isUnprintable_of_isAlphanum (Text.isAlphanum_of_mem_toDigits among)
  unfold Text.quoteChar
  split_ifs with nul tab feed carriage mark slash hidden
  · exact isUnprintable_of_all (by decide)
  · exact isUnprintable_of_all (by decide)
  · exact isUnprintable_of_all (by decide)
  · exact isUnprintable_of_all (by decide)
  · exact isUnprintable_of_all (by decide)
  · exact isUnprintable_of_all (by decide)
  · have opening : ∀ c ∈ ['\\', 'u', '\x7b'], Text.isUnprintable c = false :=
      isUnprintable_of_all (by decide)
    have closing : ∀ c ∈ ['\x7d'], Text.isUnprintable c = false :=
      isUnprintable_of_all (by decide)
    exact List.forall_mem_append.2 ⟨List.forall_mem_append.2 ⟨opening, digits⟩, closing⟩
  · simpa using hidden

theorem isUnprintable_of_mem_quote (text : String) :
    ∀ c ∈ (Text.quote text).toList, Text.isUnprintable c = false := by
  have inside : ∀ c ∈ text.toList.flatMap Text.quoteChar, Text.isUnprintable c = false := by
    intro c among
    obtain ⟨quoted, _, writes⟩ := List.mem_flatMap.1 among
    exact isUnprintable_of_mem_quoteChar quoted c writes
  rw [Text.toList_quote]
  have mark : Text.isUnprintable '"' = false := by decide
  exact List.forall_mem_append.2
    ⟨List.forall_mem_cons.2 ⟨mark, inside⟩, List.forall_mem_singleton.2 mark⟩

/-- No character of an entry is unprintable, so none breaks the line. -/
theorem Token.isUnprintable_of_mem_entry (token : Token) :
    ∀ c ∈ token.entry.toList, Text.isUnprintable c = false := by
  have name : ∀ c ∈ token.kind.name.toList, Text.isUnprintable c = false := by
    intro c among
    have isAlpha := isAlpha_of_mem_name token.kind c among
    exact isUnprintable_of_isAlphanum (by simp [Char.isAlphanum, isAlpha])
  have lexeme := isUnprintable_of_mem_quote token.lexeme
  have marks : ∀ c ∈ ['[', ',', ' ', ']'], Text.isUnprintable c = false :=
    isUnprintable_of_all (by decide)
  simp only [List.forall_mem_cons] at marks
  obtain ⟨opening, comma, space, closing⟩ := marks
  rw [Token.toList_entry]
  refine List.forall_mem_cons.2 ⟨opening, List.forall_mem_append.2 ⟨name, ?_⟩⟩
  refine List.forall_mem_cons.2 ⟨comma, List.forall_mem_cons.2 ⟨space, ?_⟩⟩
  exact List.forall_mem_append.2 ⟨lexeme, List.forall_mem_cons.2 closing⟩

theorem Token.feed_not_mem_entry (token : Token) :
    '\n' ∉ token.entry.toList := by
  intro feed
  cases token.isUnprintable_of_mem_entry '\n' feed

/-! ## Rows -/

/-- A row of a listing: its entries with a space between any two. -/
def rowText (row : List Token) : String :=
  " ".intercalate (row.map Token.entry)

theorem toList_rowText_cons
    (token : Token)
    (row : List Token) :
    (rowText (token :: row)).toList =
      token.entry.toList ++ row.flatMap fun next => ' ' :: next.entry.toList := by
  induction row generalizing token with
  | nil =>
      simp [rowText]
  | cons second row inductionHypothesis =>
      have others := inductionHypothesis second
      rw [rowText, List.map_cons, List.map_cons, String.intercalate_cons_cons]
      rw [rowText, List.map_cons] at others
      simp [others]

/-- Entries with a space in front of each tell their tokens. -/
theorem flatMap_entry_injective
    {row other : List Token}
    (same :
      row.flatMap (fun next => ' ' :: next.entry.toList) =
        other.flatMap fun next => ' ' :: next.entry.toList) :
    row = other := by
  induction row generalizing other with
  | nil =>
      cases other with
      | nil => rfl
      | cons next other => simp at same
  | cons token row inductionHypothesis =>
      cases other with
      | nil => simp at same
      | cons next other =>
          simp only [List.flatMap_cons, List.cons_append, List.cons.injEq, true_and] at same
          obtain ⟨rfl, sameRest⟩ := Token.entry_append_inj same
          rw [inductionHypothesis sameRest]

theorem rowText_cons_ne_empty
    (token : Token)
    (row : List Token) :
    rowText (token :: row) ≠ "" := by
  intro empty
  have characters := toList_rowText_cons token row
  rw [empty, Token.toList_entry] at characters
  simp at characters

/-- A row tells its tokens. -/
theorem rowText_injective
    {row other : List Token}
    (same : rowText row = rowText other) :
    row = other := by
  cases row with
  | nil =>
      cases other with
      | nil => rfl
      | cons next other => exact absurd same.symm (rowText_cons_ne_empty next other)
  | cons token row =>
      cases other with
      | nil => exact absurd same (rowText_cons_ne_empty token row)
      | cons next other =>
          have characters := congrArg String.toList same
          rw [toList_rowText_cons, toList_rowText_cons] at characters
          obtain ⟨rfl, sameRest⟩ := Token.entry_append_inj characters
          rw [flatMap_entry_injective sameRest]

/-! ## Rows of five -/

section RowsOfFive

variable {α : Type}

theorem length_lt_five
    {short : List α}
    (notLong : ∀ a b c d e rest, short = a :: b :: c :: d :: e :: rest → False) :
    short.length < 5 := by
  match short, notLong with
  | [], _ | [_], _ | [_, _], _ | [_, _, _], _ | [_, _, _, _], _ => simp
  | a :: b :: c :: d :: e :: rest, notLong => exact (notLong a b c d e rest rfl).elim

theorem flatten_rowsOfFive (items : List α) :
    (rowsOfFive items).flatten = items := by
  fun_induction rowsOfFive items with
  | case1 =>
      rfl
  | case2 a b c d e rest inductionHypothesis =>
      rw [List.flatten_cons, inductionHypothesis]
      rfl
  | case3 short nonempty notLong =>
      exact List.flatten_singleton

theorem length_rowsOfFive (items : List α) :
    (rowsOfFive items).length = (items.length + 4) / 5 := by
  fun_induction rowsOfFive items with
  | case1 =>
      simp
  | case2 a b c d e rest inductionHypothesis =>
      simp only [List.length_cons, inductionHypothesis]
      omega
  | case3 short nonempty notLong =>
      have some := List.length_pos_iff.2 nonempty
      have few := length_lt_five notLong
      rw [List.length_singleton]
      omega

/-- No row is empty and none is longer than five. -/
theorem length_of_mem_rowsOfFive (items : List α) :
    ∀ row ∈ rowsOfFive items, 1 ≤ row.length ∧ row.length ≤ 5 := by
  fun_induction rowsOfFive items with
  | case1 =>
      exact List.forall_mem_nil _
  | case2 a b c d e rest inductionHypothesis =>
      exact List.forall_mem_cons.2 ⟨by simp, inductionHypothesis⟩
  | case3 short nonempty notLong =>
      have some := List.length_pos_iff.2 nonempty
      have few := length_lt_five notLong
      exact List.forall_mem_singleton.2 ⟨some, Nat.le_of_lt few⟩

/-- All rows but the last one are full. -/
theorem length_of_mem_dropLast_rowsOfFive (items : List α) :
    ∀ row ∈ (rowsOfFive items).dropLast, row.length = 5 := by
  fun_induction rowsOfFive items with
  | case1 =>
      exact List.forall_mem_nil _
  | case2 a b c d e rest inductionHypothesis =>
      intro row among
      cases rows : rowsOfFive rest with
      | nil =>
          rw [rows] at among
          cases among
      | cons second others =>
          rw [rows, List.dropLast_cons_of_ne_nil (List.cons_ne_nil _ _), ← rows] at among
          rcases List.mem_cons.1 among with rfl | later
          · rfl
          · exact inductionHypothesis row later
  | case3 short nonempty notLong =>
      exact List.forall_mem_nil _

end RowsOfFive

/-! ## Lines -/

/-- Printable texts with line feeds between them are the lines if none is empty. -/
theorem lines_intercalate
    {texts : List String}
    (nonempty : ∀ text ∈ texts, text ≠ "")
    (printable : ∀ text ∈ texts, ∀ c ∈ text.toList, Text.isUnprintable c = false) :
    Text.lines ("\n".intercalate texts) = texts := by
  rcases List.eq_nil_or_concat texts with rfl | ⟨others, last, rfl⟩
  · simp [Text.lines]
  · rw [List.concat_eq_append] at nonempty printable ⊢
    have unbroken : ∀ line ∈ (others ++ [last]).map String.toList, '\n' ∉ line := by
      refine List.forall_mem_map.2 fun text among feed => ?_
      cases printable text among '\n' feed
    have noCarriage : ∀ text ∈ others, Text.dropCarriage '\r' text.toList = text.toList := by
      intro text among
      refine if_neg fun carriage => ?_
      cases printable text (List.mem_append_left _ among) '\r' (List.mem_of_getLast? carriage)
    have pieces :
        ("\n".intercalate (others ++ [last])).toList.splitOn '\n' =
          others.map String.toList ++ [last.toList] := by
      rw [String.toList_intercalate]
      simpa using List.splitOn_intercalate '\n' unbroken (by simp)
    have lastNonempty : last ≠ "" := nonempty last (by simp)
    have kept : others.map (Text.dropCarriage '\r' ∘ String.toList) = others.map String.toList :=
      List.map_congr_left noCarriage
    simp only [Text.lines, Text.splitLines, pieces, List.dropLast_concat, List.map_map, kept,
      List.getLast?_concat]
    simp [lastNonempty]

theorem isUnprintable_of_mem_rowText (row : List Token) :
    ∀ c ∈ (rowText row).toList, Text.isUnprintable c = false := by
  cases row with
  | nil =>
      exact List.forall_mem_nil _
  | cons token row =>
      rw [toList_rowText_cons]
      refine List.forall_mem_append.2 ⟨token.isUnprintable_of_mem_entry, fun c among => ?_⟩
      obtain ⟨next, _, inside⟩ := List.mem_flatMap.1 among
      rcases List.mem_cons.1 inside with rfl | inEntry
      · rfl
      · exact next.isUnprintable_of_mem_entry c inEntry

/-- The lines of a listing are its rows. -/
theorem lines_listing (tokens : List Token) :
    Text.lines (listing tokens) = (rowsOfFive tokens).map rowText := by
  refine lines_intercalate (List.forall_mem_map.2 fun row among => ?_)
    (List.forall_mem_map.2 fun row _ => isUnprintable_of_mem_rowText row)
  have some := (length_of_mem_rowsOfFive tokens row among).1
  cases row with
  | nil => cases some
  | cons token row => exact rowText_cons_ne_empty token row

theorem listing_injective
    {tokens others : List Token}
    (same : listing tokens = listing others) :
    tokens = others := by
  have sameLines := congrArg Text.lines same
  rw [lines_listing, lines_listing] at sameLines
  have sameRows : rowsOfFive tokens = rowsOfFive others :=
    (List.map_inj_right fun _ _ => rowText_injective).1 sameLines
  rw [← flatten_rowsOfFive tokens, sameRows, flatten_rowsOfFive]

/--
Token streams with the same listing are the same, whatever their lexemes hold. The lines of a
listing are the rows of five tokens, of which only the last one may be shorter, so that there
are as many as fives in the number of tokens, rounded up. No entry holds a line break or
another character that is unprintable.
-/
theorem listing_is_unambiguous :
    (∀ tokens others : List Token, listing tokens = listing others ↔ tokens = others) ∧
      ∀ tokens : List Token,
        Text.lines (listing tokens) = (rowsOfFive tokens).map rowText ∧
          (rowsOfFive tokens).flatten = tokens ∧
          (Text.lines (listing tokens)).length = (tokens.length + 4) / 5 ∧
          (∀ row ∈ (rowsOfFive tokens).dropLast, row.length = 5) ∧
          (∀ row ∈ rowsOfFive tokens, 1 ≤ row.length ∧ row.length ≤ 5) ∧
          ∀ token ∈ tokens,
            '\n' ∉ token.entry.toList ∧
              ∀ c ∈ token.entry.toList, Text.isUnprintable c = false := by
  refine ⟨fun tokens others => ⟨listing_injective, congrArg listing⟩, fun tokens => ?_⟩
  refine ⟨lines_listing tokens, flatten_rowsOfFive tokens, ?_,
    length_of_mem_dropLast_rowsOfFive tokens, length_of_mem_rowsOfFive tokens,
    fun token _ => ⟨token.feed_not_mem_entry, token.isUnprintable_of_mem_entry⟩⟩
  rw [lines_listing, List.length_map, length_rowsOfFive]

/-- Six tokens, whose lexemes hold brackets, quotation marks, backslashes and line breaks. -/
def awkwardTokens : List Token :=
  [⟨.string, "\", [\""⟩, ⟨.endOfFile, "a\nb"⟩, ⟨.number, "\\n"⟩, .ofMark .comma,
    ⟨.keyword .close, "] ["⟩, ⟨.notFound, "\r"⟩]

theorem awkwardTokens_are_told :
    (awkwardTokens.take 5 ∈ (rowsOfFive awkwardTokens).dropLast ∧
        (awkwardTokens.take 5).length = 5) ∧
      (awkwardTokens.drop 5 ∈ rowsOfFive awkwardTokens ∧
        1 ≤ (awkwardTokens.drop 5).length ∧ (awkwardTokens.drop 5).length ≤ 5) ∧
      ⟨.endOfFile, "a\nb"⟩ ∈ awkwardTokens ∧
      '\n' ∉ (Token.mk .endOfFile "a\nb").entry.toList := by
  obtain ⟨_, _, _, full, some, printable⟩ := listing_is_unambiguous.2 awkwardTokens
  have first : awkwardTokens.take 5 ∈ (rowsOfFive awkwardTokens).dropLast := by
    simp [awkwardTokens, rowsOfFive]
  have last : awkwardTokens.drop 5 ∈ rowsOfFive awkwardTokens := by
    simp [awkwardTokens, rowsOfFive]
  have broken : ⟨.endOfFile, "a\nb"⟩ ∈ awkwardTokens := by
    simp [awkwardTokens]
  exact ⟨⟨first, full _ first⟩, ⟨last, some _ last⟩, broken, (printable _ broken).1⟩

end WindowLang
