import WindowLang.CommandLine.Arguments
import WindowLang.Journal.Logger
import WindowLang.Json.Printer
import WindowLang.Json.Token
import WindowLang.Json.Window
import WindowLang.Source.Loading

namespace WindowLang

/-!
# Running the program

A run reads one file, prints its tokens if they are asked for, and prints the window that
it describes. What it prints and complains of does not depend on the journal: the text of
the journal's filter decides which records are written before the complaint, and the logger
may warn of that text before the first record.
-/

/-- What a run gives to the outside, the journal being unfiltered. -/
structure Run where
  exitCode : Nat
  /-- The text on standard output. -/
  output : String
  /-- The last text on standard error, empty after a success. -/
  complaint : String
  records : List Record

/-- What the program gives to the outside. -/
structure Answer where
  exitCode : Nat
  /-- The text on standard output. -/
  output : String
  /-- The text on standard error. -/
  errors : String
  deriving DecidableEq, Repr

/-- The complaint about a file that cannot be read. -/
def unreadable (path : String) (fault : Fault) : String :=
  "Error: " ++ (LoadError.source path fault).message ++
    "\n\nCaused by:\n    " ++ fault.text ++ "\n"

namespace Invocation

/-- The tokens as they are printed, if they are asked for. -/
def printTokens (invocation : Invocation) (tokens : List Token) : String :=
  if invocation.tokens then
    match invocation.format with
    | .outline => listing tokens ++ "\n\n"
    | .json => (tokensToJson tokens).pretty 0 ++ "\n"
  else
    ""

/-- The text of a window in the format asked for. -/
def printWindow (invocation : Invocation) (window : Window) : Except TooWide String :=
  match invocation.format with
  | .outline => window.render usualIndent
  | .json => .ok (window.toJson.pretty 0)

/-- The records of printing a window. -/
def printRecords (invocation : Invocation) (window : Window) : List Record :=
  .windowParsed invocation.file window ::
    match invocation.format with
    | .outline => [.rendering window]
    | .json => []

/-- Runs the program on tokens that a journal already tells of. -/
def runTokens
    (invocation : Invocation)
    (tokens : List Token)
    (earlier : List Record) :
    Run :=
  let recognition := recognize tokens
  let records := earlier ++ Record.ofRecognition tokens.length recognition
  let listed := invocation.printTokens tokens
  match recognition.outcome with
  | .error error =>
      {
        exitCode := 1
        output := listed
        complaint := error.display ++ "\n"
        records := records
      }
  | .ok window =>
      let records := records ++ invocation.printRecords window
      match invocation.printWindow window with
      | .ok text =>
          {
            exitCode := 0
            output := listed ++ Text.trimEnd text ++ "\n"
            complaint := ""
            records := records
          }
      | .error fault =>
          {
            exitCode := 101
            output := listed
            complaint := fault.message ++ "\n"
            records := records
          }

/-- Runs the program on a file with the given contents. -/
def run (invocation : Invocation) (contents : Except Fault (List UInt8)) : Run :=
  match readLines contents with
  | .error fault =>
      {
        exitCode := 1
        output := ""
        complaint := unreadable invocation.file fault
        records := [.ready]
      }
  | .ok lines =>
      let tokens := tokenize invocation.strict lines
      invocation.runTokens tokens
        [.ready, .linesRead invocation.file lines, .tokensRead tokens]

/--
The text of the journal's filter: the one on the command line or else the one in the
environment, unless it is blank.
-/
def filterText (invocation : Invocation) (environment : Option String) : Option String :=
  (invocation.log.or environment).filter fun text => !(Text.trim text).isEmpty

/-- What the logger warns of in the text of the filter, if there is one. -/
def warnings
    (invocation : Invocation)
    (logger : Logger)
    (environment : Option String) :
    String :=
  match invocation.filterText environment with
  | none => ""
  | some text => logger.warnings text

/-- The journal of the filter's text; without one, warnings and errors pass. -/
def journal
    (invocation : Invocation)
    (logger : Logger)
    (environment : Option String) :
    Journal :=
  match invocation.filterText environment with
  | none => (Filter.uniform (.upTo .warn)).journal
  | some text => logger.journal text

/-- What a run gives to the outside beside a logger. -/
def answer
    (invocation : Invocation)
    (logger : Logger)
    (environment : Option String)
    (contents : Except Fault (List UInt8)) :
    Answer :=
  let result := invocation.run contents
  {
    exitCode := result.exitCode
    output := result.output
    errors :=
      invocation.warnings logger environment ++
        (invocation.journal logger environment).write result.records ++ result.complaint
  }

end Invocation

/-- The program's version. -/
def versionText : String := "wisp-studio 0.1.0\n"

/-- What the program takes from the libraries around it. -/
structure Surroundings where
  logger : Logger
  /-- The account of the arguments. -/
  help : String
  /-- What is said of the arguments if they make no sense. -/
  misuse : String

/-- What the program answers to a request, where `contents` gives the contents of files. -/
def Request.answerIn
    (request : Request)
    (surroundings : Surroundings)
    (environment : Option String)
    (contents : String → Except Fault (List UInt8)) :
    Answer :=
  match request with
  | .version => ⟨0, versionText, ""⟩
  | .help => ⟨0, surroundings.help, ""⟩
  | .misuse => ⟨2, "", surroundings.misuse⟩
  | .run invocation =>
      invocation.answer surroundings.logger environment (contents invocation.file)

/-- One line about the arguments, in place of the texts that tell of each of them. -/
def usageText : String :=
  "Usage: wisp-studio [--format outline|json] [--tokens] [--strict-numbers] " ++
    "[--log FILTER] <FILE>\n"

/-- A logger with plain patterns, and one line for whoever asks about the arguments. -/
def Surroundings.plain : Surroundings where
  logger := .ofPatterns plainPatterns
  help := usageText
  misuse := usageText

/-- What the program answers to a request in plain surroundings. -/
def Request.answer
    (request : Request)
    (environment : Option String)
    (contents : String → Except Fault (List UInt8)) :
    Answer :=
  request.answerIn .plain environment contents

end WindowLang
