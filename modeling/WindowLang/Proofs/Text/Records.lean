import WindowLang.Journal.Stripping

namespace WindowLang

/-!
# Taking records away

What a filter has written is taken away again from a text behind it, whatever the
messages of the records are. The text must not begin like a record or like one of its
further lines.
-/

/-- The text begins neither like a record nor like a further line of one. -/
def BeginsPlainly (text : List Char) : Prop :=
  ∀ c, text.head? = some c → c ≠ '[' ∧ c ≠ ' '

/-- Within a record characters of a line are skipped. -/
theorem behindRecords_append_of_not_mem
    {front : List Char}
    (noFeed : '\n' ∉ front)
    (rest : List Char) :
    behindRecords true (front ++ rest) = behindRecords true rest := by
  induction front with
  | nil =>
      rfl
  | cons c front inductionHypothesis =>
      obtain ⟨notFeed, others⟩ : '\n' ≠ c ∧ '\n' ∉ front := by
        simpa using noFeed
      have stays : behindRecords true (c :: front ++ rest) = behindRecords true (front ++ rest) := by
        simp [behindRecords, Ne.symm notFeed]
      rw [stays, inductionHypothesis others]

/-- A record ends where a line feed is followed by no indentation. -/
theorem behindRecords_feed
    {rest : List Char}
    (begins : rest.head? ≠ some ' ') :
    behindRecords true ('\n' :: rest) = behindRecords false rest := by
  have notIndented : recordIndent.isPrefixOf rest = false := by
    cases rest with
    | nil =>
        rfl
    | cons c rest =>
        have notBlank : ' ' ≠ c := fun blank => begins (congrArg some blank.symm)
        simp [recordIndent, List.isPrefixOf, notBlank]
  simp [behindRecords, notIndented]

/-- An indented message is skipped up to the line feed behind it. -/
theorem behindRecords_indented
    (message rest : List Char)
    (begins : rest.head? ≠ some ' ') :
    behindRecords true
        ((message.flatMap fun c => if c = '\n' then ['\n', ' ', ' ', ' ', ' '] else [c]) ++
          '\n' :: rest) =
      behindRecords false rest := by
  induction message with
  | nil =>
      exact behindRecords_feed begins
  | cons c message inductionHypothesis =>
      rw [List.flatMap_cons, List.append_assoc]
      by_cases feed : c = '\n'
      · -- The four blanks keep the record going.
        have goesOn (text : List Char) :
            behindRecords true (['\n', ' ', ' ', ' ', ' '] ++ text) = behindRecords true text := by
          have blanks : '\n' ∉ recordIndent := by
            decide
          rw [← behindRecords_append_of_not_mem blanks text]
          simp [behindRecords, recordIndent, List.isPrefixOf]
        rw [if_pos feed, goesOn, inductionHypothesis]
      · have noFeed : '\n' ∉ [c] := by
          simpa using Ne.symm feed
        rw [if_neg feed, behindRecords_append_of_not_mem noFeed, inductionHypothesis]

/-- What stands before the message of a record is a single line. -/
theorem feed_not_mem_heading (level : Level) (target : Target) :
    '\n' ∉ level.name.toList.rightpad 5 ' ' ++ " ".toList ++ target.path.toList ++ "] ".toList := by
  cases level with
  | _ =>
      cases target with
      | _ =>
          decide

/-- A record in front of a text is taken away. -/
theorem behindRecords_write
    (record : Record)
    {rest : List Char}
    (begins : rest.head? ≠ some ' ') :
    behindRecords false (record.write.toList ++ rest) = behindRecords false rest := by
  have split : record.write.toList ++ rest =
      '[' :: (record.level.name.toList.rightpad 5 ' ' ++ " ".toList ++
          record.target.path.toList ++ "] ".toList ++
        ((record.message.toList.flatMap fun c =>
            if c = '\n' then ['\n', ' ', ' ', ' ', ' '] else [c]) ++ '\n' :: rest)) := by
    simp [Record.write, Record.indented]
  have opens (text : List Char) :
      behindRecords false ('[' :: text) = behindRecords true text := by
    simp [behindRecords]
  rw [split, opens, behindRecords_append_of_not_mem (feed_not_mem_heading _ _),
    behindRecords_indented _ _ begins]

/-- Nothing is taken away from a text without records. -/
theorem behindRecords_of_beginsPlainly
    {text : List Char}
    (plainly : BeginsPlainly text) :
    behindRecords false text = text := by
  cases text with
  | nil =>
      rfl
  | cons c rest =>
      obtain ⟨noBracket, _⟩ := plainly c rfl
      simp [behindRecords, noBracket]

/-- Behind a record another one follows, or the text does. -/
theorem head?_written_ne
    (records : List Record)
    {text : List Char}
    (plainly : BeginsPlainly text) :
    (records.flatMap (fun record => record.write.toList) ++ text).head? ≠ some ' ' := by
  cases records with
  | nil =>
      exact fun blank => (plainly ' ' blank).2 rfl
  | cons record records =>
      simp [Record.write]

/-- All that was written to a journal is taken away from a text behind it. -/
theorem withoutRecords_write
    (records : List Record)
    {text : String}
    (plainly : BeginsPlainly text.toList) :
    withoutRecords (String.join (records.map Record.write) ++ text) = text := by
  have left :
      behindRecords false (records.flatMap (fun record => record.write.toList) ++ text.toList) =
        text.toList := by
    induction records with
    | nil =>
        exact behindRecords_of_beginsPlainly plainly
    | cons record records inductionHypothesis =>
        rw [List.flatMap_cons, List.append_assoc,
          behindRecords_write record (head?_written_ne records plainly), inductionHypothesis]
  rw [withoutRecords, String.toList_append, String.toList_join, List.flatMap_map, left,
    String.ofList_toList]

end WindowLang
