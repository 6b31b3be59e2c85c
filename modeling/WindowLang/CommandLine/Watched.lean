import WindowLang.CommandLine.Run
import WindowLang.Grammar.Watched

namespace WindowLang

/-!
# Watched runs

Here each stage asks its journal what it wants and offers it a record where it comes to
it, so that a journal could stand in the way of every later step. A run that leaves its
records to a journal at the end is one of these.
-/

/-- A computation beside a journal gives a value and the records that the journal kept. -/
def Watched (α : Type) : Type :=
  Journal → α × List Record

namespace Watched

instance : Monad Watched where
  pure value := fun _ => (value, [])
  bind first next := fun journal =>
    let (value, earlier) := first journal
    let (result, later) := next value journal
    (result, earlier ++ later)

/-- Asks whether records of the level from the part of the program are wanted. -/
def asks (level : Level) (target : Target) : Watched Bool :=
  fun journal => (journal.wants level target, [])

/-- Offers a record to the journal. -/
def offer (record : Record) : Watched Unit :=
  fun journal => ((), if journal.keeps record then [record] else [])

/-- The lines of the file at a path with the given contents. -/
def lines
    (path : String)
    (contents : Except Fault (List UInt8)) :
    Watched (Except Fault (List String)) := do
  match readLines contents with
  | .error fault => return .error fault
  | .ok lines =>
      offer (.linesRead path lines)
      return .ok lines

/-- The tokens of some lines; their listing is made only for a journal that wants it. -/
def tokens (strict : Bool) (lines : List String) : Watched (List Token) := do
  let tokens := tokenize strict lines
  if ← asks .trace .lexer then
    offer (.tokensRead tokens)
  return tokens

/-- Recognizes a token stream as a document, where the journal keeps events as records. -/
def recognized (tokens : List Token) : Watched (Except SyntaxError Window) :=
  fun journal =>
    match Grammar.watchedWindow (fun event => journal.keeps (.ofEvent event)) (.start tokens) with
    | (some window, state) => (.ok window, state.events.reverse.map Record.ofEvent)
    | (none, state) => (.error state.error, state.events.reverse.map Record.ofEvent)

/-- The window that a token stream describes. -/
def parsed (tokens : List Token) : Watched (Except SyntaxError Window) := do
  let outcome ← recognized tokens
  offer (.ofOutcome tokens.length outcome)
  return outcome

/-- The outline of a window. -/
def rendered (indent : Nat) (window : Window) : Watched (Except TooWide String) := do
  offer (.rendering window)
  return window.render indent

/-- The window in the file at a path with the given contents. -/
def loaded
    (strict : Bool)
    (path : String)
    (contents : Except Fault (List UInt8)) :
    Watched (Except LoadError Window) := do
  match ← lines path contents with
  | .error fault => return .error (.source path fault)
  | .ok lines =>
      let tokens ← tokens strict lines
      let outcome ← parsed tokens
      return outcome.mapError .document

/-- The outline of the window in the file at a path with the given contents. -/
def shown
    (indent : Nat)
    (strict : Bool)
    (path : String)
    (contents : Except Fault (List UInt8)) :
    Watched (Except LoadError (Except TooWide String)) := do
  match ← loaded strict path contents with
  | .error error => return .error error
  | .ok window =>
      let text ← rendered indent window
      return .ok text

end Watched

/-- What a run gives to the outside beside its records. -/
structure Result where
  exitCode : Nat
  /-- The text on standard output. -/
  output : String
  /-- The last text on standard error, empty after a success. -/
  complaint : String
  deriving DecidableEq, Repr

/-- The answer of a run with its result, behind some warnings and the records that were kept. -/
def Result.answer (result : Result) (warnings : String) (kept : List Record) : Answer where
  exitCode := result.exitCode
  output := result.output
  errors := warnings ++ String.join (kept.map Record.write) ++ result.complaint

/-- What a run gives to the outside beside its records. -/
def Run.result (run : Run) : Result where
  exitCode := run.exitCode
  output := run.output
  complaint := run.complaint

/-- The result of a run that has listed its tokens and then printed a window, or failed to. -/
def Result.ofPrinted (listed : String) : Except TooWide String → Result
  | .ok text => ⟨0, listed ++ Text.trimEnd text ++ "\n", ""⟩
  | .error fault => ⟨101, listed, fault.message ++ "\n"⟩

namespace Invocation

/-- The text of a window in the format asked for. -/
def watchedPrint (invocation : Invocation) (window : Window) : Watched (Except TooWide String) := do
  Watched.offer (.windowParsed invocation.file window)
  match invocation.format with
  | .outline => Watched.rendered usualIndent window
  | .json => return .ok (window.toJson.pretty 0)

/-- Runs the program on tokens beside a journal. -/
def watchedTokens (invocation : Invocation) (tokens : List Token) : Watched Result := do
  let listed := invocation.printTokens tokens
  match ← Watched.parsed tokens with
  | .error error => return ⟨1, listed, error.display ++ "\n"⟩
  | .ok window =>
      let printed ← invocation.watchedPrint window
      return .ofPrinted listed printed

/-- Runs the program on a file with the given contents beside a journal. -/
def watched
    (invocation : Invocation)
    (contents : Except Fault (List UInt8)) :
    Watched Result := do
  Watched.offer .ready
  match ← Watched.lines invocation.file contents with
  | .error fault => return ⟨1, "", unreadable invocation.file fault⟩
  | .ok lines =>
      let tokens ← Watched.tokens invocation.strict lines
      invocation.watchedTokens tokens

end Invocation

/-- The run of the program without the text of the journal's filter. -/
def Invocation.withoutLog (invocation : Invocation) : Invocation :=
  { invocation with log := none }

end WindowLang
