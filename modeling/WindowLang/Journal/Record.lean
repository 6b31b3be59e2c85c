import WindowLang.Grammar.Document
import WindowLang.Journal.Filter
import WindowLang.Token.Listing

namespace WindowLang

/-!
# Records of a journal

While a file is read, recognized and rendered, each stage leaves records of what
it did. A record tells its severity, the part of the program it comes from and a
message. Which records are seen is for a filter to decide.
-/

/-- Parts of the program that write records. -/
inductive Target where
  | source
  | lexer
  | parser
  | renderer
  | journal
  | commandLine
  deriving DecidableEq, Repr

/-- The path by which filters and journals name a part of the program. -/
def Target.path : Target → String
  | .source => "wisp_dsl::source"
  | .lexer => "wisp_dsl::lexer"
  | .parser => "wisp_dsl::parser"
  | .renderer => "wisp_render::render"
  | .journal => "wisp_render::logging::init"
  | .commandLine => "wisp_studio"

/-- One record of a journal. -/
structure Record where
  level : Level
  target : Target
  message : String
  deriving DecidableEq, Repr

/-- The filter lets the record through. -/
def Filter.admits (filter : Filter) (record : Record) : Bool :=
  (filter.threshold record.target.path).admits record.level && filter.passes record.message

namespace Record

/-- The journal is ready. -/
def ready : Record where
  level := .debug
  target := .journal
  message := "logging initialized"

/-- The lines of a file have been read. -/
def linesRead (path : String) (lines : List String) : Record where
  level := .debug
  target := .source
  message := s!"read {lines.length} lines from {path}"

/-- The lexer is done. -/
def tokensRead (tokens : List Token) : Record where
  level := .trace
  target := .lexer
  message := "token stream:\n" ++ listing tokens

/-- Something happened while a document was recognized. -/
def ofEvent (event : Event) : Record where
  level := .trace
  target := .parser
  message := event.text

/-- The parser is done with so many tokens. -/
def ofOutcome (tokens : Nat) (outcome : Except SyntaxError Window) : Record where
  level := .debug
  target := .parser
  message :=
    match outcome with
    | .ok window =>
        s!"parsed window {Text.quote window.title} with " ++
          s!"{window.widgetCount} widgets from {tokens} tokens"
    | .error error => error.display

/-- The records of the parser. -/
def ofRecognition (tokens : Nat) (recognition : Recognition) : List Record :=
  recognition.events.map ofEvent ++ [ofOutcome tokens recognition.outcome]

/-- The file has been found to describe a window. -/
def windowParsed (path : String) (window : Window) : Record where
  level := .info
  target := .commandLine
  message := s!"{path} parsed: {window.widgetCount} widgets"

/-- A window is about to be rendered. -/
def rendering (window : Window) : Record where
  level := .debug
  target := .renderer
  message := s!"rendering {Text.quote window.title} ({window.width}x{window.height})"

/-- A message whose further lines are indented by four columns. -/
def indented (message : String) : String :=
  String.ofList <| message.toList.flatMap fun c =>
    if c = '\n' then ['\n', ' ', ' ', ' ', ' '] else [c]

/-- A record as it stands in a written journal, its level filled up to five columns. -/
def write (record : Record) : String :=
  "[" ++ String.ofList (record.level.name.toList.rightpad 5 ' ') ++ " " ++
    record.target.path ++ "] " ++ indented record.message ++ "\n"

end Record

end WindowLang
