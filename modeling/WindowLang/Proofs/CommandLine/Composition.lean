import WindowLang.CommandLine.Run
import WindowLang.Proofs.Outline.Limits
import WindowLang.Proofs.Outline.Rows
import WindowLang.Proofs.Source.Encoding

namespace WindowLang

/-!
# The command line composes the library

A run reads, cuts, recognizes and prints a file by steps of its own. With a silent
journal it answers what the library's functions give one after the other: the trace of
the tokens, and behind it the error that loading the file gives, or the window in the
format asked for. An accepted document is never too deep to be printed, and trimming
takes nothing from a window's text but the line break that is put back.
-/

/-! ## A silent journal -/

/-- A journal that keeps none of the records writes nothing. -/
theorem Journal.write_of_silent
    {journal : Journal}
    {records : List Record}
    (silent : ∀ record ∈ records, journal.keeps record = false) :
    journal.write records = "" := by
  have none : records.filter journal.keeps = [] := by
    refine List.filter_eq_nil_iff.2 fun record member => ?_
    rw [silent record member]
    exact Bool.false_ne_true
  rw [Journal.write, none]
  rfl

/-- With a logger that warns of nothing and a silent journal a run answers as it ran. -/
theorem Invocation.answer_of_silent
    {invocation : Invocation}
    {logger : Logger}
    {environment : Option String}
    {contents : Except Fault (List UInt8)}
    (unwarned : invocation.warnings logger environment = "")
    (silent :
      ∀ record ∈ (invocation.run contents).records,
        (invocation.journal logger environment).keeps record = false) :
    invocation.answer logger environment contents =
      ⟨(invocation.run contents).exitCode, (invocation.run contents).output,
        (invocation.run contents).complaint⟩ := by
  rw [Invocation.answer, unwarned, Journal.write_of_silent silent, String.append_empty,
    String.empty_append]

/-- A filter that is off for every part of the program keeps no record. -/
theorem Filter.not_admits_of_off
    {filter : Filter}
    (off : ∀ target : Target, filter.threshold target.path = .off)
    (record : Record) :
    filter.admits record = false := by
  rw [Filter.admits, off record.target]
  rfl

/-- No record of recognition is as severe as a warning. -/
theorem Record.not_admits_of_mem_ofRecognition
    {tokens : Nat}
    {recognition : Recognition}
    {record : Record}
    (member : record ∈ Record.ofRecognition tokens recognition) :
    (Threshold.upTo .warn).admits record.level = false := by
  rcases List.mem_append.1 member with isEvent | isOutcome
  · obtain ⟨event, _, rfl⟩ := List.mem_map.1 isEvent
    rfl
  · rw [List.mem_singleton.1 isOutcome]
    rfl

/-- No record of printing a window is as severe as a warning. -/
theorem Invocation.not_admits_of_mem_printRecords
    {invocation : Invocation}
    {window : Window}
    {record : Record}
    (member : record ∈ invocation.printRecords window) :
    (Threshold.upTo .warn).admits record.level = false := by
  rcases List.mem_cons.1 member with rfl | isPrinted
  · rfl
  · cases isFormat : invocation.format with
    | outline =>
        rw [isFormat] at isPrinted
        rw [List.mem_singleton.1 isPrinted]
        rfl
    | json =>
        rw [isFormat] at isPrinted
        cases isPrinted

/-- A run on tokens adds no record that is as severe as a warning. -/
theorem Invocation.not_admits_of_mem_runTokens
    {invocation : Invocation}
    {tokens : List Token}
    {earlier : List Record}
    {record : Record}
    (member : record ∈ (invocation.runTokens tokens earlier).records) :
    record ∈ earlier ∨ (Threshold.upTo .warn).admits record.level = false := by
  let recorded := earlier ++ Record.ofRecognition tokens.length (recognize tokens)
  have recognized
      (isRecorded : record ∈ recorded) :
      record ∈ earlier ∨ (Threshold.upTo .warn).admits record.level = false :=
    (List.mem_append.1 isRecorded).imp_right Record.not_admits_of_mem_ofRecognition
  have printed
      {window : Window}
      (isPrinted : record ∈ recorded ++ invocation.printRecords window) :
      record ∈ earlier ∨ (Threshold.upTo .warn).admits record.level = false :=
    (List.mem_append.1 isPrinted).elim recognized fun isLast =>
      .inr (Invocation.not_admits_of_mem_printRecords isLast)
  unfold Invocation.runTokens at member
  dsimp only at member
  split at member
  · exact recognized member
  · split at member
    · exact printed member
    · exact printed member

/-- No record of a run is as severe as a warning. -/
theorem Invocation.not_admits_of_mem_run
    {invocation : Invocation}
    {contents : Except Fault (List UInt8)}
    {record : Record}
    (member : record ∈ (invocation.run contents).records) :
    (Threshold.upTo .warn).admits record.level = false := by
  unfold Invocation.run at member
  split at member
  · rw [List.mem_singleton.1 member]
    rfl
  · rcases Invocation.not_admits_of_mem_runTokens member with isEarlier | isLater
    · simp only [List.mem_cons, List.not_mem_nil, or_false] at isEarlier
      rcases isEarlier with rfl | rfl | rfl
      · rfl
      · rfl
      · rfl
    · exact isLater

/-- Without the text of a filter no record of a run is kept. -/
theorem Invocation.not_keeps_of_unset
    {invocation : Invocation}
    {environment : Option String}
    (unset : invocation.filterText environment = none)
    (logger : Logger)
    {contents : Except Fault (List UInt8)}
    {record : Record}
    (member : record ∈ (invocation.run contents).records) :
    (invocation.journal logger environment).keeps record = false := by
  rw [Invocation.journal, unset]
  change ((Threshold.upTo .warn).admits record.level && true) = false
  rw [Invocation.not_admits_of_mem_run member]
  rfl

/-! ## The text of a window -/

/-- An outline ends with a caption and a line break, and only the line break is trimmed. -/
theorem Window.trimEnd_of_render
    {indent : Nat}
    {window : Window}
    {text : String}
    (rendered : window.render indent = .ok text) :
    Text.trimEnd text ++ "\n" = text := by
  obtain ⟨rows, row, split⟩ : ∃ rows row, window.rows = rows ++ [row] :=
    ⟨_, _, (List.dropLast_concat_getLast (List.cons_ne_nil _ _)).symm⟩
  obtain ⟨last, captionEnds, notBlank⟩ := row.caption.getLast?_text
  obtain ⟨kept, fed, ends⟩ :
      ∃ kept, text = kept ++ "\n" ∧ kept.toList.getLast? = some last := by
    let above := rows.flatMap fun row => (row.line.drawn indent).toList
    let spaces := List.replicate (row.depth * indent) ' '
    refine ⟨String.ofList (above ++ spaces) ++ row.caption.text, ?_, ?_⟩
    · rw [← String.toList_inj, Window.toList_of_render rendered, split, List.flatMap_append]
      simp [above, spaces, Line.drawn, Row.line]
    · rw [String.toList_append, List.getLast?_append, captionEnds]
      rfl
  have onlyFeed : ∀ c ∈ "\n".toList, Text.isBlank c = true :=
    List.all_eq_true.1 (by decide)
  rw [fed, Text.trimEnd_append ends notBlank onlyFeed]

/-- A container in indented JSON text ends with its closing bracket. -/
theorem Json.block_ends
    (opening closing : String)
    (depth : Nat)
    (members : List String) :
    ∃ front, Json.block opening closing depth members = front ++ closing := by
  unfold Json.block
  split
  · exact ⟨_, rfl⟩
  · exact ⟨_, rfl⟩

/-- The JSON text of a window ends with a bracket. -/
theorem Window.trimEnd_toJson (window : Window) :
    Text.trimEnd (window.toJson.pretty 0) = window.toJson.pretty 0 := by
  obtain ⟨front, split⟩ : ∃ front, window.toJson.pretty 0 = front ++ "\x7d" :=
    Json.block_ends _ _ _ _
  have ends : (window.toJson.pretty 0).toList.getLast? = some '\x7d' := by
    simp [split]
  have trimmed : Text.trimEnd (window.toJson.pretty 0 ++ "") = window.toJson.pretty 0 :=
    Text.trimEnd_append ends (by decide) (by simp)
  rwa [String.append_empty] at trimmed

/-- An accepted document is not too deep to be rendered with the usual indentation. -/
theorem exists_render_of_parse
    {tokens : List Token}
    {window : Window}
    (accepted : parse tokens = .ok window) :
    ∃ text, window.render usualIndent = .ok text :=
  ⟨_, render_of_parse accepted (by decide)⟩

/-! ## Runs -/

/-- What stands in front of a window's text: its tokens, if they are asked for. -/
inductive Invocation.IsTrace (invocation : Invocation) (tokens : List Token) : String → Prop where
  | unasked
      (silent : invocation.tokens = false) :
      invocation.IsTrace tokens ""
  | listed
      (asked : invocation.tokens = true)
      (isOutline : invocation.format = .outline) :
      invocation.IsTrace tokens (listing tokens ++ "\n\n")
  | json
      (asked : invocation.tokens = true)
      (isJson : invocation.format = .json) :
      invocation.IsTrace tokens ((tokensToJson tokens).pretty 0 ++ "\n")

/-- The text that the library makes of a window in the format asked for. -/
inductive Invocation.IsText (invocation : Invocation) (window : Window) : String → Prop where
  | rendered
      {text : String}
      (isOutline : invocation.format = .outline)
      (rendered : window.render usualIndent = .ok text) :
      invocation.IsText window text
  | json
      (isJson : invocation.format = .json) :
      invocation.IsText window (window.toJson.pretty 0 ++ "\n")

theorem Invocation.isTrace_printTokens
    (invocation : Invocation)
    (tokens : List Token) :
    invocation.IsTrace tokens (invocation.printTokens tokens) := by
  unfold Invocation.printTokens
  split
  · rename_i asked
    split
    · rename_i isOutline
      exact .listed asked isOutline
    · rename_i isJson
      exact .json asked isJson
  · rename_i unasked
    exact .unasked (Bool.eq_false_iff.2 unasked)

/-- The window of an accepted document is printed as the library's text, but for its trimmed end. -/
theorem Invocation.exists_printWindow
    (invocation : Invocation)
    {tokens : List Token}
    {window : Window}
    (accepted : parse tokens = .ok window) :
    ∃ printed,
      invocation.printWindow window = .ok printed ∧
        invocation.IsText window (Text.trimEnd printed ++ "\n") := by
  unfold Invocation.printWindow
  split
  · rename_i isOutline
    obtain ⟨text, rendered⟩ := exists_render_of_parse accepted
    refine ⟨text, rendered, ?_⟩
    rw [Window.trimEnd_of_render rendered]
    exact .rendered isOutline rendered
  · rename_i isJson
    refine ⟨_, rfl, ?_⟩
    rw [Window.trimEnd_toJson]
    exact .json isJson

/-- Tokens that are refused end a run with the error behind their trace. -/
theorem Invocation.runTokens_of_error
    {invocation : Invocation}
    {tokens : List Token}
    {error : SyntaxError}
    (refused : parse tokens = .error error)
    (earlier : List Record) :
    ∃ records,
      invocation.runTokens tokens earlier =
        ⟨1, invocation.printTokens tokens, error.display ++ "\n", records⟩ := by
  have outcome : (recognize tokens).outcome = .error error := refused
  simp only [Invocation.runTokens, outcome]
  exact ⟨_, rfl⟩

/-- Tokens that are accepted end a run with the window behind their trace. -/
theorem Invocation.runTokens_of_ok
    {invocation : Invocation}
    {tokens : List Token}
    {window : Window}
    {printed : String}
    (accepted : parse tokens = .ok window)
    (isPrinted : invocation.printWindow window = .ok printed)
    (earlier : List Record) :
    ∃ records,
      invocation.runTokens tokens earlier =
        ⟨0, invocation.printTokens tokens ++ Text.trimEnd printed ++ "\n", "", records⟩ := by
  have outcome : (recognize tokens).outcome = .ok window := accepted
  simp only [Invocation.runTokens, outcome, isPrinted]
  exact ⟨_, rfl⟩

/--
If the logger warns of nothing and its journal keeps no record of the run, a valid command
line answers what the library's functions make of the file. If the file cannot be read, it
says so and prints nothing. Otherwise it prints the trace of the tokens, and then either
loading the file gives a syntax error, which is its complaint, or it gives a window, whose
text follows the trace.
-/
theorem command_line_composes_library
    {arguments : List String}
    {invocation : Invocation}
    {surroundings : Surroundings}
    {environment : Option String}
    (valid : Request.ofArguments arguments = .run invocation)
    (unwarned : invocation.warnings surroundings.logger environment = "")
    (contents : String → Except Fault (List UInt8))
    (silent :
      ∀ record ∈ (invocation.run (contents invocation.file)).records,
        (invocation.journal surroundings.logger environment).keeps record = false) :
    (∀ fault,
        readLines (contents invocation.file) = .error fault →
          (Request.ofArguments arguments).answerIn surroundings environment contents =
            ⟨1, "",
              "Error: " ++ (LoadError.source invocation.file fault).message ++
                "\n\nCaused by:\n    " ++ fault.text ++ "\n"⟩) ∧
      ∀ lines,
        readLines (contents invocation.file) = .ok lines →
          ∃ trace,
            invocation.IsTrace (tokenize invocation.strict lines) trace ∧
              ((∃ error,
                  load invocation.strict invocation.file (contents invocation.file) =
                      .error (.document error) ∧
                    (Request.ofArguments arguments).answerIn surroundings environment contents =
                      ⟨1, trace, error.display ++ "\n"⟩) ∨
                ∃ window text,
                  load invocation.strict invocation.file (contents invocation.file) =
                      .ok window ∧
                    invocation.IsText window text ∧
                    (Request.ofArguments arguments).answerIn surroundings environment contents =
                      ⟨0, trace ++ text, ""⟩) := by
  have answered :
      (Request.ofArguments arguments).answerIn surroundings environment contents =
        invocation.answer surroundings.logger environment (contents invocation.file) := by
    rw [valid, Request.answerIn]
  rw [answered, Invocation.answer_of_silent unwarned silent]
  constructor
  · intro fault isFault
    simp only [Invocation.run, isFault, unreadable]
  · intro lines isRead
    have loaded := load_of_readLines isRead invocation.strict invocation.file
    refine ⟨_, invocation.isTrace_printTokens _, ?_⟩
    simp only [Invocation.run, isRead]
    cases parsed : parse (tokenize invocation.strict lines) with
    | error error =>
        rw [parsed] at loaded
        obtain ⟨_, ran⟩ := Invocation.runTokens_of_error parsed _
        exact .inl ⟨error, loaded, by rw [ran]⟩
    | ok window =>
        rw [parsed] at loaded
        obtain ⟨printed, isPrinted, isText⟩ := invocation.exists_printWindow parsed
        obtain ⟨_, ran⟩ := Invocation.runTokens_of_ok parsed isPrinted _
        exact .inr ⟨window, _, loaded, isText, by rw [ran, String.append_assoc]⟩

/-- A command line that asks for tokens and a window as JSON, with a silent journal. -/
def silentArguments : List String :=
  ["--log", "off", "--tokens", "-f", "json", "a"]

/-- The same command line without a word about the journal. -/
def unloggedArguments : List String :=
  ["--tokens", "-f", "json", "a"]

/-- The source of a window without widgets. -/
def bareSource : String :=
  "Window \"\" (3,4) Layout Flow: End."

def bareWindow : Window :=
  ⟨"", 3, 4, .flow, []⟩

/-- The tokens of that window and the window, as they are printed. -/
def bareAnswer : Answer where
  exitCode := 0
  output :=
    ((tokensToJson bareWindow.tokens).pretty 0 ++ "\n") ++ (bareWindow.toJson.pretty 0 ++ "\n")
  errors := ""

theorem silentArguments_compose_library :
    (Request.ofArguments silentArguments).answer none (fun _ => .error .notFound) =
        ⟨1, "",
          "Error: cannot read a: No such file or directory (os error 2)\n\nCaused by:\n" ++
            "    No such file or directory (os error 2)\n"⟩ ∧
      (Request.ofArguments silentArguments).answer none
          (fun _ => .ok (Text.utf8Bytes bareSource.toList)) =
        bareAnswer ∧
      (Request.ofArguments unloggedArguments).answer none
          (fun _ => .ok (Text.utf8Bytes bareSource.toList)) =
        bareAnswer := by
  have valid :
      Request.ofArguments silentArguments = .run ⟨"a", .json, true, false, some "off"⟩ := by
    decide +kernel
  have validUnlogged :
      Request.ofArguments unloggedArguments = .run ⟨"a", .json, true, false, none⟩ := by
    decide +kernel
  have unwarned :
      Invocation.warnings ⟨"a", .json, true, false, some "off"⟩ Surroundings.plain.logger none =
        "" := by
    decide +kernel
  have silent (record : Record) :
      (Invocation.journal ⟨"a", .json, true, false, some "off"⟩ Surroundings.plain.logger
        none).keeps record = false := by
    refine Filter.not_admits_of_off (fun target => ?_) record
    cases target <;> decide +kernel
  have isRead : readLines (.ok (Text.utf8Bytes bareSource.toList)) = .ok [bareSource] := by
    have lines : Text.lines bareSource = [bareSource] := by
      decide +kernel
    rw [readLines_of_toUTF8 (Text.toUTF8_eq_iff.2 rfl), lines]
  have tokens : tokenize false [bareSource] = bareWindow.tokens := by
    decide +kernel
  have loaded :
      load false "a" (.ok (Text.utf8Bytes bareSource.toList)) = .ok bareWindow := by
    rw [load_of_readLines isRead, tokens]
    rfl
  have composed
      {arguments : List String}
      {log : Option String}
      (valid : Request.ofArguments arguments = .run ⟨"a", .json, true, false, log⟩)
      (unwarned :
        Invocation.warnings ⟨"a", .json, true, false, log⟩ Surroundings.plain.logger none = "")
      (silent :
        ∀ record ∈ (Invocation.run ⟨"a", .json, true, false, log⟩
            (.ok (Text.utf8Bytes bareSource.toList))).records,
          (Invocation.journal ⟨"a", .json, true, false, log⟩ Surroundings.plain.logger
            none).keeps record = false) :
      (Request.ofArguments arguments).answer none
          (fun _ => .ok (Text.utf8Bytes bareSource.toList)) =
        bareAnswer := by
    obtain ⟨trace, isTrace, outcome⟩ :=
      (@command_line_composes_library _ _ .plain none valid unwarned
        (fun _ => .ok (Text.utf8Bytes bareSource.toList)) silent).2 _ isRead
    rw [tokens] at isTrace
    rcases outcome with ⟨error, refused, _⟩ | ⟨window, text, shown, isText, answered⟩
    · rw [loaded] at refused
      cases refused
    · obtain rfl := Except.ok.inj (loaded.symm.trans shown)
      cases isTrace with
      | unasked notAsked =>
          cases notAsked
      | listed _ isOutline =>
          cases isOutline
      | json =>
          cases isText with
          | rendered isOutline =>
              cases isOutline
          | json =>
              exact answered
  refine ⟨?_, composed valid unwarned fun record _ => silent record,
    composed validUnlogged rfl fun record => Invocation.not_keeps_of_unset rfl _⟩
  have unread :=
    @command_line_composes_library _ _ .plain none valid unwarned (fun _ => .error .notFound)
      fun record _ => silent record
  have complaint :
      "Error: " ++ (LoadError.source "a" .notFound).message ++ "\n\nCaused by:\n    " ++
          Fault.notFound.text ++ "\n" =
        "Error: cannot read a: No such file or directory (os error 2)\n\nCaused by:\n" ++
          "    No such file or directory (os error 2)\n" := by
    decide +kernel
  rw [← complaint]
  exact unread.1 .notFound rfl

end WindowLang
