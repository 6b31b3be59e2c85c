import WindowLang.CommandLine.Watched
import WindowLang.Proofs.Production.Watching
import WindowLang.Proofs.Source.Encoding
import WindowLang.Proofs.Text.Records

namespace WindowLang

/-!
# Journals do not interfere

Whatever a journal wants and keeps, a run beside it gives the same result. Each stage
is followed with its value, which is the same for every journal, and with its records,
of which a fair journal keeps those that it keeps at all. The run that filters its
records at the end is the run beside the filter's journal.
-/

open Grammar

variable {α β : Type}

/-- Beside any journal the value is the given one, and fair journals are offered the records. -/
structure Watched.Tells
    (watched : Watched α)
    (value : α)
    (records : List Record) :
    Prop where
  value_eq : ∀ journal, (watched journal).1 = value
  kept_eq : ∀ journal : Journal, journal.IsFair → (watched journal).2 = records.filter journal.keeps

namespace Watched.Tells

theorem pure (value : α) :
    Tells (Pure.pure value : Watched α) value [] where
  value_eq _ := rfl
  kept_eq _ _ := rfl

/-- What follows is offered its records behind those before. -/
theorem bind
    {first : Watched α}
    {next : α → Watched β}
    {value : α}
    {result : β}
    {earlier later : List Record}
    (tells : Tells first value earlier)
    (tellsNext : Tells (next value) result later) :
    Tells (first >>= next) result (earlier ++ later) where
  value_eq journal := by
    change (next (first journal).1 journal).1 = result
    rw [tells.value_eq, tellsNext.value_eq]
  kept_eq journal fair := by
    change (first journal).2 ++ (next (first journal).1 journal).2 = _
    rw [tells.value_eq, tells.kept_eq journal fair, tellsNext.kept_eq journal fair,
      List.filter_append]

/-- What only returns a value offers nothing more. -/
theorem returning
    {first : Watched α}
    {next : α → Watched β}
    {value : α}
    {result : β}
    {records : List Record}
    (tells : Tells first value records)
    (returns : next value = Pure.pure result) :
    Tells (first >>= next) result records := by
  have tellsNext : Tells (next value) result [] := by
    rw [returns]
    exact pure result
  have both := bind tells tellsNext
  rwa [List.append_nil] at both

theorem offer (record : Record) :
    Tells (Watched.offer record) () [record] where
  value_eq _ := rfl
  kept_eq journal _ := by
    by_cases kept : journal.keeps record = true
    · simp [Watched.offer, kept]
    · simp [Watched.offer, kept]

/-- The listing is offered to the journals that want it, and a fair journal keeps no others. -/
theorem tokens (strict : Bool) (lines : List String) :
    Tells (Watched.tokens strict lines) (tokenize strict lines)
      [.tokensRead (tokenize strict lines)] := by
  let tokens := tokenize strict lines
  have ran (journal : Journal) :
      Watched.tokens strict lines journal =
        (tokens, if journal.wants .trace .lexer && journal.keeps (.tokensRead tokens) then
          [.tokensRead tokens] else []) := by
    by_cases wanted : journal.wants .trace .lexer = true
    · simp [Watched.tokens, Bind.bind, Pure.pure, Watched.asks, Watched.offer, wanted, tokens]
    · simp [Watched.tokens, Bind.bind, Pure.pure, Watched.asks, wanted, tokens]
  constructor
  · intro journal
    rw [ran journal]
  · intro journal fair
    rw [ran journal]
    by_cases kept : journal.keeps (.tokensRead tokens) = true
    · have wanted : journal.wants .trace .lexer = true := fair _ kept
      simp [kept, wanted, tokens]
    · simp [kept, tokens]

/-- The parser gives the same outcome, and keeps those of its events that are wanted. -/
theorem recognized (tokens : List Token) :
    Tells (Watched.recognized tokens) (recognize tokens).outcome
      ((recognize tokens).events.map Record.ofEvent) := by
  have ran (journal : Journal) :
      Watched.recognized tokens journal =
        ((recognize tokens).outcome,
          ((recognize tokens).events.map Record.ofEvent).filter journal.keeps) := by
    let wants := fun event => journal.keeps (.ofEvent event)
    have watches : watchedWindow wants (.start tokens) =
        ((window (.start tokens)).1, (window (.start tokens)).2.watched wants) :=
      Watches.window (State.start tokens)
    have kept (state : State) :
        (state.watched wants).events.reverse.map Record.ofEvent =
          (state.events.reverse.map Record.ofEvent).filter journal.keeps := by
      rw [List.filter_map, List.filter_reverse]
      rfl
    unfold Watched.recognized recognize
    rw [watches]
    cases window (.start tokens) with
    | mk outcome reached =>
        cases outcome with
        | none =>
            exact congrArg (Prod.mk _) (kept reached)
        | some window =>
            exact congrArg (Prod.mk _) (kept reached)
  exact ⟨fun journal => by rw [ran journal], fun journal _ => by rw [ran journal]⟩

theorem parsed (tokens : List Token) :
    Tells (Watched.parsed tokens) (parse tokens)
      (Record.ofRecognition tokens.length (recognize tokens)) :=
  bind (recognized tokens) (returning (offer _) rfl)

theorem rendered (indent : Nat) (window : Window) :
    Tells (Watched.rendered indent window) (window.render indent) [.rendering window] :=
  returning (offer _) rfl

theorem lines_of_error
    {path : String}
    {contents : Except Fault (List UInt8)}
    {fault : Fault}
    (isFault : readLines contents = .error fault) :
    Tells (Watched.lines path contents) (.error fault) [] := by
  unfold Watched.lines
  rw [isFault]
  exact pure _

theorem lines_of_ok
    {path : String}
    {contents : Except Fault (List UInt8)}
    {lines : List String}
    (isRead : readLines contents = .ok lines) :
    Tells (Watched.lines path contents) (.ok lines) [.linesRead path lines] := by
  unfold Watched.lines
  rw [isRead]
  exact returning (offer _) rfl

theorem loaded
    (strict : Bool)
    (path : String)
    (contents : Except Fault (List UInt8)) :
    Tells (Watched.loaded strict path contents) (loadFile strict path contents).outcome
      (loadFile strict path contents).records := by
  unfold Watched.loaded loadFile
  cases isRead : readLines contents with
  | error fault =>
      exact returning (lines_of_error isRead) rfl
  | ok lines =>
      change Tells _ _
        ([.linesRead path lines] ++ ([.tokensRead (tokenize strict lines)] ++
          Record.ofRecognition _ (recognize (tokenize strict lines))))
      refine bind (lines_of_ok isRead) ?_
      exact bind (tokens strict lines) (returning (parsed _) rfl)

/-- What a loaded file is shown as, and the records of that. -/
theorem shown
    (indent : Nat)
    (strict : Bool)
    (path : String)
    (contents : Except Fault (List UInt8)) :
    Tells (Watched.shown indent strict path contents)
      ((loadFile strict path contents).outcome.map (Window.render indent))
      ((loadFile strict path contents).records ++
        (loadFile strict path contents).outcome.toOption.toList.map Record.rendering) := by
  have loads := loaded strict path contents
  generalize loadFile strict path contents = loading at loads
  obtain ⟨outcome, records⟩ := loading
  unfold Watched.shown
  cases outcome with
  | error error =>
      exact bind loads (pure _)
  | ok window =>
      exact bind loads (returning (rendered indent window) rfl)

theorem print (invocation : Invocation) (window : Window) :
    Tells (invocation.watchedPrint window) (invocation.printWindow window)
      (invocation.printRecords window) := by
  unfold Invocation.watchedPrint Invocation.printWindow Invocation.printRecords
  cases invocation.format with
  | outline =>
      change Tells _ _ ([.windowParsed invocation.file window] ++ [.rendering window])
      exact bind (offer _) (rendered usualIndent window)
  | json =>
      exact returning (offer _) rfl

/-- A run on tokens offers the records that it adds to the earlier ones. -/
theorem runTokens
    (invocation : Invocation)
    (tokens : List Token)
    (earlier : List Record) :
    ∃ later,
      (invocation.runTokens tokens earlier).records = earlier ++ later ∧
        Tells (invocation.watchedTokens tokens) (invocation.runTokens tokens earlier).result
          later := by
  have parses : Tells (Watched.parsed tokens) (recognize tokens).outcome
      (Record.ofRecognition tokens.length (recognize tokens)) :=
    parsed tokens
  cases outcome : (recognize tokens).outcome with
  | error error =>
      have ran : invocation.runTokens tokens earlier =
          { exitCode := 1
            output := invocation.printTokens tokens
            complaint := error.display ++ "\n"
            records := earlier ++ Record.ofRecognition tokens.length (recognize tokens) } := by
        simp only [Invocation.runTokens, outcome]
      rw [outcome] at parses
      rw [ran]
      exact ⟨_, rfl, returning parses rfl⟩
  | ok window =>
      have result : (invocation.runTokens tokens earlier).result =
          .ofPrinted (invocation.printTokens tokens) (invocation.printWindow window) := by
        simp only [Invocation.runTokens, outcome]
        cases invocation.printWindow window with
        | ok text | error fault =>
            rfl
      have records : (invocation.runTokens tokens earlier).records =
          earlier ++ Record.ofRecognition tokens.length (recognize tokens) ++
            invocation.printRecords window := by
        simp only [Invocation.runTokens, outcome]
        cases invocation.printWindow window with
        | ok text | error fault =>
            rfl
      rw [outcome] at parses
      rw [result, records, List.append_assoc]
      exact ⟨_, rfl, bind parses (returning (print invocation window) rfl)⟩

/-- The records of a run are offered in their order, and the result is that of the run. -/
theorem run
    (invocation : Invocation)
    (contents : Except Fault (List UInt8)) :
    Tells (invocation.watched contents) (invocation.run contents).result
      (invocation.run contents).records := by
  unfold Invocation.watched Invocation.run
  cases isRead : readLines contents with
  | error fault =>
      change Tells _ _ ([.ready] ++ [])
      exact bind (offer .ready) (returning (lines_of_error isRead) rfl)
  | ok lines =>
      obtain ⟨later, records, tells⟩ := runTokens invocation (tokenize invocation.strict lines)
        [.ready, .linesRead invocation.file lines, .tokensRead (tokenize invocation.strict lines)]
      rw [records]
      change Tells _ _
        ([.ready] ++ ([.linesRead invocation.file lines] ++
          ([.tokensRead (tokenize invocation.strict lines)] ++ later)))
      exact bind (offer .ready) (bind (lines_of_ok isRead) (bind (tokens _ lines) tells))

end Watched.Tells

/-! ## The program -/

/-- Whatever the text of its filter, the journal of a run is fair. -/
theorem Invocation.isFair_journal
    (invocation : Invocation)
    (logger : Logger)
    (environment : Option String) :
    (invocation.journal logger environment).IsFair := by
  unfold Invocation.journal
  split
  · exact Filter.isFair_journal _
  · exact logger.isFair_journal _

/-- The answer of the program is the run beside the journal of its filter. -/
theorem Invocation.answer_eq_watched
    (invocation : Invocation)
    (logger : Logger)
    (environment : Option String)
    (contents : Except Fault (List UInt8)) :
    invocation.answer logger environment contents =
      (invocation.watched contents (invocation.journal logger environment)).1.answer
        (invocation.warnings logger environment)
        (invocation.watched contents (invocation.journal logger environment)).2 := by
  have tells := Watched.Tells.run invocation contents
  rw [tells.value_eq, tells.kept_eq _ (invocation.isFair_journal logger environment)]
  rfl

/-- A text with a letter in front begins plainly. -/
theorem beginsPlainly_append
    {front : String}
    {c : Char}
    (first : front.toList.head? = some c)
    (isAlpha : c.isAlpha = true)
    (rest : String) :
    BeginsPlainly (front ++ rest).toList := by
  intro other isFirst
  have same : c = other := by
    rw [String.toList_append, List.head?_append, first] at isFirst
    exact Option.some.inj isFirst
  rw [same] at isAlpha
  constructor
  · rintro rfl
    revert isAlpha
    decide
  · rintro rfl
    revert isAlpha
    decide

theorem SyntaxError.beginsPlainly_display (error : SyntaxError) :
    BeginsPlainly (error.display ++ "\n").toList := by
  have first : "incorrect syntax at token ".toList.head? = some 'i' := by
    simp
  unfold SyntaxError.display
  simp only [String.append_assoc]
  exact beginsPlainly_append first (by decide) _

theorem TooWide.beginsPlainly_message (fault : TooWide) :
    BeginsPlainly (fault.message ++ "\n").toList := by
  have first : fault.message.toList.head? = some 'F' := by
    simp [TooWide.message]
  exact beginsPlainly_append first (by decide) _

theorem beginsPlainly_unreadable (path : String) (fault : Fault) :
    BeginsPlainly (unreadable path fault).toList := by
  have first : "Error: ".toList.head? = some 'E' := by
    simp
  simp only [unreadable, String.append_assoc]
  exact beginsPlainly_append first (by decide) _

/-- A complaint begins neither like a record nor like a further line of one. -/
theorem Invocation.beginsPlainly_complaint
    (invocation : Invocation)
    (contents : Except Fault (List UInt8)) :
    BeginsPlainly (invocation.run contents).complaint.toList := by
  unfold Invocation.run
  split
  · exact beginsPlainly_unreadable invocation.file _
  · unfold Invocation.runTokens
    dsimp only
    split
    · exact SyntaxError.beginsPlainly_display _
    · split
      · rintro _ ⟨⟩
      · exact TooWide.beginsPlainly_message _

/-- Behind the warnings, standard error without the records of the journal is the complaint. -/
theorem Invocation.exists_errors
    (invocation : Invocation)
    (logger : Logger)
    (environment : Option String)
    (contents : Except Fault (List UInt8)) :
    ∃ errors,
      (invocation.answer logger environment contents).errors =
          invocation.warnings logger environment ++ errors ∧
        withoutRecords errors = (invocation.run contents).complaint :=
  ⟨_, String.append_assoc,
    withoutRecords_write _ (invocation.beginsPlainly_complaint contents)⟩

/-- Beside any journal a run complains of what is left without the records. -/
theorem Invocation.withoutRecords_watched
    (invocation : Invocation)
    (contents : Except Fault (List UInt8))
    (journal : Journal) :
    withoutRecords
        (String.join ((invocation.watched contents journal).2.map Record.write) ++
          (invocation.watched contents journal).1.complaint) =
      (invocation.watched contents journal).1.complaint := by
  rw [(Watched.Tells.run invocation contents).value_eq]
  exact withoutRecords_write _ (invocation.beginsPlainly_complaint contents)

/-- A file is shown as it is beside the journal of its threshold. -/
theorem showFile_eq_shown
    (threshold : Threshold)
    (indent : Nat)
    (strict : Bool)
    (path : String)
    (contents : Except Fault (List UInt8)) :
    showFile threshold indent strict path contents =
      ⟨(Watched.shown indent strict path contents (Filter.uniform threshold).journal).1,
        (Watched.shown indent strict path contents (Filter.uniform threshold).journal).2⟩ := by
  have tells := Watched.Tells.shown indent strict path contents
  rw [tells.value_eq, tells.kept_eq _ (Filter.uniform threshold).isFair_journal]
  rfl

/-- The text of a filter is no part of what a run goes by. -/
theorem Invocation.run_withoutLog
    (invocation : Invocation)
    (contents : Except Fault (List UInt8)) :
    invocation.withoutLog.run contents = invocation.run contents :=
  rfl

/-- Invocations that differ by the text of a filter run alike on the file that both name. -/
theorem Invocation.run_eq_of_withoutLog
    {invocation other : Invocation}
    (same : invocation.withoutLog = other.withoutLog)
    (contents : String → Except Fault (List UInt8)) :
    invocation.run (contents invocation.file) = other.run (contents other.file) := by
  have sameFile : invocation.withoutLog.file = other.withoutLog.file :=
    congrArg Invocation.file same
  change invocation.file = other.file at sameFile
  rw [sameFile, ← invocation.run_withoutLog, same, other.run_withoutLog]

/--
Two command lines that name the same file, and differ by the text of the journal's filter
alone, give the same exit code and the same standard output, whatever filters the environment
holds. Standard error begins with what the logger warns of in the text of the filter, and
behind that it is the same without the records; so it is if neither text is warned of.
Loading and rendering a file has the same outcome beside loggers of any two levels.
For where the program comes to ask its journal or to offer a record, no answer of the journal
changes what follows: beside any two journals a run has the same result and a file is shown
the same, and what the program answers and shows is the run and the showing beside the
journal of its filter.
-/
theorem journal_changes_records_only (surroundings : Surroundings) :
    (∀ (first second : List String) (invocation other : Invocation)
        (firstEnvironment secondEnvironment : Option String)
        (contents : String → Except Fault (List UInt8)),
        Request.ofArguments first = .run invocation →
        Request.ofArguments second = .run other →
        invocation.withoutLog = other.withoutLog →
          let answer :=
            (Request.ofArguments first).answerIn surroundings firstEnvironment contents
          let otherAnswer :=
            (Request.ofArguments second).answerIn surroundings secondEnvironment contents
          let warnings := invocation.warnings surroundings.logger firstEnvironment
          let otherWarnings := other.warnings surroundings.logger secondEnvironment
          answer.exitCode = otherAnswer.exitCode ∧ answer.output = otherAnswer.output ∧
            (∃ errors otherErrors,
              answer.errors = warnings ++ errors ∧
                otherAnswer.errors = otherWarnings ++ otherErrors ∧
                withoutRecords errors = withoutRecords otherErrors) ∧
            (warnings = "" → otherWarnings = "" →
              withoutRecords answer.errors = withoutRecords otherAnswer.errors)) ∧
      (∀ (first second : Threshold) (indent : Nat) (strict : Bool) (path : String)
        (contents : Except Fault (List UInt8)),
        (showFile first indent strict path contents).outcome =
          (showFile second indent strict path contents).outcome) ∧
      (∀ (invocation : Invocation) (contents : Except Fault (List UInt8)),
        (∀ journal other : Journal,
          (invocation.watched contents journal).1 = (invocation.watched contents other).1) ∧
        ∀ environment,
          let journal := invocation.journal surroundings.logger environment
          let beside := invocation.watched contents journal
          let warnings := invocation.warnings surroundings.logger environment
          invocation.answer surroundings.logger environment contents =
              beside.1.answer warnings beside.2 ∧
            withoutRecords (String.join (beside.2.map Record.write) ++ beside.1.complaint) =
              beside.1.complaint) ∧
      ∀ (indent : Nat) (strict : Bool) (path : String) (contents : Except Fault (List UInt8)),
        (∀ journal other : Journal,
          (Watched.shown indent strict path contents journal).1 =
            (Watched.shown indent strict path contents other).1) ∧
        ∀ threshold,
          let beside :=
            Watched.shown indent strict path contents (Filter.uniform threshold).journal
          showFile threshold indent strict path contents = ⟨beside.1, beside.2⟩ := by
  refine ⟨?_, ?_, ?_, ?_⟩
  · intro first second invocation other firstEnvironment secondEnvironment contents isRun
      isOtherRun same
    rw [isRun, isOtherRun]
    have ran := Invocation.run_eq_of_withoutLog same contents
    obtain ⟨errors, split, complaint⟩ :=
      invocation.exists_errors surroundings.logger firstEnvironment (contents invocation.file)
    obtain ⟨otherErrors, otherSplit, otherComplaint⟩ :=
      other.exists_errors surroundings.logger secondEnvironment (contents other.file)
    have left : withoutRecords errors = withoutRecords otherErrors := by
      rw [complaint, ran, otherComplaint]
    refine ⟨congrArg Run.exitCode ran, congrArg Run.output ran,
      ⟨errors, otherErrors, split, otherSplit, left⟩, fun noWarnings noOthers => ?_⟩
    change withoutRecords (invocation.answer _ _ _).errors =
      withoutRecords (other.answer _ _ _).errors
    rw [split, otherSplit, noWarnings, noOthers, String.empty_append, String.empty_append, left]
  · intro first second indent strict path contents
    have tells := Watched.Tells.shown indent strict path contents
    rw [showFile_eq_shown first, showFile_eq_shown second, tells.value_eq, tells.value_eq]
  · intro invocation contents
    have tells := Watched.Tells.run invocation contents
    refine ⟨fun journal other => ?_, fun environment => ?_⟩
    · rw [tells.value_eq, tells.value_eq]
    · exact ⟨invocation.answer_eq_watched surroundings.logger environment contents,
        invocation.withoutRecords_watched contents _⟩
  · intro indent strict path contents
    have tells := Watched.Tells.shown indent strict path contents
    refine ⟨fun journal other => ?_, fun threshold => ?_⟩
    · rw [tells.value_eq, tells.value_eq]
    · exact showFile_eq_shown threshold indent strict path contents

/-- A command line with a talkative journal. -/
def tracedArguments : List String :=
  ["--log", "trace", "input.wisp"]

/-- The same command line without a word about the journal. -/
def plainArguments : List String :=
  ["input.wisp"]

theorem tracedArguments_answered_alike :
    let traced := (Request.ofArguments tracedArguments).answer none fun _ => .error .notFound
    let silent :=
      (Request.ofArguments plainArguments).answer (some "off") fun _ => .error .notFound
    traced.errors ≠ silent.errors ∧
      traced.exitCode = silent.exitCode ∧ traced.output = silent.output ∧
        withoutRecords traced.errors = withoutRecords silent.errors := by
  have traced :
      Request.ofArguments tracedArguments =
        .run ⟨"input.wisp", .outline, false, false, some "trace"⟩ := by
    decide +kernel
  have plain :
      Request.ofArguments plainArguments = .run ⟨"input.wisp", .outline, false, false, none⟩ := by
    decide +kernel
  have unwarned :
      Invocation.warnings ⟨"input.wisp", .outline, false, false, some "trace"⟩
        Surroundings.plain.logger none = "" := by
    decide +kernel
  have offUnwarned :
      Invocation.warnings ⟨"input.wisp", .outline, false, false, none⟩
        Surroundings.plain.logger (some "off") = "" := by
    decide +kernel
  have differ :
      ((Request.ofArguments tracedArguments).answer none fun _ => .error .notFound).errors ≠
        ((Request.ofArguments plainArguments).answer (some "off") fun _ =>
          .error .notFound).errors := by
    decide +kernel
  obtain ⟨exitCode, output, _, errors⟩ :=
    (journal_changes_records_only .plain).1 tracedArguments plainArguments _ _ none (some "off")
      (fun _ => .error .notFound) traced plain rfl
  exact ⟨differ, exitCode, output, errors unwarned offUnwarned⟩

/-- The plain command line with a filter that gives a level a name that it does not have. -/
def misspelledArguments : List String :=
  ["--log", "wisp_dsl=verbose", "input.wisp"]

/-- The bytes of a document without widgets. -/
def bareDocument : List UInt8 :=
  Text.utf8Bytes "Window \"\" (3,4) Layout Flow: End.".toList

/-- A misspelled filter is warned of on standard error, and the warning is no record. -/
theorem misspelledArguments_are_warned_of :
    let misspelled :=
      (Request.ofArguments misspelledArguments).answer none fun _ => .ok bareDocument
    let plain := (Request.ofArguments plainArguments).answer none fun _ => .ok bareDocument
    (∃ invocation other,
      Request.ofArguments misspelledArguments = .run invocation ∧
        Request.ofArguments plainArguments = .run other ∧
        invocation.withoutLog = other.withoutLog) ∧
      misspelled.exitCode = 0 ∧ plain.exitCode = 0 ∧ misspelled.output = plain.output ∧
      withoutRecords misspelled.errors =
        "warning: invalid logging spec 'verbose', ignoring it\n" ∧
      withoutRecords plain.errors = "" := by
  refine ⟨⟨⟨"input.wisp", .outline, false, false, some "wisp_dsl=verbose"⟩,
    ⟨"input.wisp", .outline, false, false, none⟩, ?_, ?_, rfl⟩, ?_, ?_, ?_, ?_, ?_⟩
  all_goals decide +kernel

end WindowLang
