namespace WindowLang

/-!
# Arguments of the command line

Arguments are taken one after the other: options by a long or a short name, and
the path of one file. Each option and flag may be given once. Two dashes make all
that follows a path. A request for the version is granted at once, and the first
argument that makes no sense ends the reading.
-/

/-- How a window is printed. -/
inductive Format where
  | outline
  | json
  deriving DecidableEq, Repr

/-- The format with a given name, if any. -/
def Format.ofName? (name : String) : Option Format :=
  if name = "outline" then some .outline
  else if name = "json" then some .json
  else none

/-- What the arguments have said so far. -/
structure Draft where
  file : Option String := none
  format : Option Format := none
  tokens : Bool := false
  strict : Bool := false
  log : Option String := none
  deriving DecidableEq, Repr

/-- A run of the program. -/
structure Invocation where
  /-- The path of the file. -/
  file : String
  /-- How the window is printed. -/
  format : Format
  /-- The tokens are printed first. -/
  tokens : Bool
  /-- Outside parentheses only numerals are numbers. -/
  strict : Bool
  /-- The text of the journal's filter, if the command line gives one. -/
  log : Option String
  deriving DecidableEq, Repr

/-- What a command line asks for. -/
inductive Request where
  /-- A run of the program. -/
  | run (invocation : Invocation)
  /-- The program's version. -/
  | version
  /-- An account of the arguments. -/
  | help
  /-- Nothing that makes sense. -/
  | misuse
  deriving DecidableEq, Repr

namespace Draft

/-- The draft with the path of the file, which is not empty. -/
def withFile (draft : Draft) (path : String) : Option Draft :=
  if draft.file.isNone && !path.isEmpty then
    some { draft with file := some path }
  else
    none

/-- The draft with a format. -/
def withFormat (draft : Draft) (name : String) : Option Draft :=
  match draft.format, Format.ofName? name with
  | none, some format => some { draft with format := some format }
  | _, _ => none

/-- The draft with the text of a filter. -/
def withLog (draft : Draft) (text : String) : Option Draft :=
  if draft.log.isNone then some { draft with log := some text } else none

/-- The draft with the tokens asked for. -/
def withTokens (draft : Draft) : Option Draft :=
  if draft.tokens then none else some { draft with tokens := true }

/-- The draft with strict numbers asked for. -/
def withStrict (draft : Draft) : Option Draft :=
  if draft.strict then none else some { draft with strict := true }

/-- The request of a complete draft. -/
def finish (draft : Draft) : Request :=
  match draft.file with
  | none => .misuse
  | some file =>
      .run {
        file := file
        format := draft.format.getD .outline
        tokens := draft.tokens
        strict := draft.strict
        log := draft.log
      }

end Draft

/-- What one argument means. -/
inductive Meaning where
  /-- A path. -/
  | path (path : String)
  /-- The two dashes before the paths. -/
  | dashes
  /-- A flag, or an option with its value. -/
  | option (set : Draft → Option Draft)
  /-- An option whose value is the next argument. -/
  | awaiting (set : Draft → String → Option Draft)
  /-- A request that is granted at once. -/
  | request (request : Request)

/-- What a long option means, with or without a value behind an equals sign. -/
def Meaning.ofLong (name : String) (value : Option String) : Meaning :=
  match name, value with
  | "format", some value => .option (·.withFormat value)
  | "format", none => .awaiting Draft.withFormat
  | "log", some value => .option (·.withLog value)
  | "log", none => .awaiting Draft.withLog
  | "tokens", none => .option Draft.withTokens
  | "strict-numbers", none => .option Draft.withStrict
  | "version", none => .request .version
  | "help", none => .request .help
  | _, _ => .request .misuse

/-- What a short option means, with what follows its letter. -/
def Meaning.ofShort (letter : Char) (rest : List Char) : Meaning :=
  match letter, rest with
  | 'f', [] => .awaiting Draft.withFormat
  | 'f', '=' :: value => .option (·.withFormat (String.ofList value))
  | 'f', value => .option (·.withFormat (String.ofList value))
  | 'V', _ => .request .version
  | 'h', _ => .request .help
  | _, _ => .request .misuse

/-- What an argument means where options are still possible. -/
def Meaning.ofArgument (argument : String) : Meaning :=
  match argument.toList with
  | ['-', '-'] => .dashes
  | '-' :: '-' :: long =>
      let name := String.ofList (long.takeWhile (· ≠ '='))
      match long.dropWhile (· ≠ '=') with
      | [] => .ofLong name none
      | _ :: value => .ofLong name (some (String.ofList value))
  | '-' :: letter :: rest => .ofShort letter rest
  | _ => .path argument

/-- An argument that can be the value of the option before it. -/
def isValue (argument : String) : Bool :=
  argument = "-" || argument.toList.head? ≠ some '-'

/-- Reads the arguments behind the two dashes. -/
def readPaths (draft : Draft) : List String → Request
  | [] => draft.finish
  | path :: rest =>
      match draft.withFile path with
      | some next => readPaths next rest
      | none => .misuse

/-- Reads arguments, given what those before them said. -/
def readArguments (draft : Draft) : List String → Request
  | [] => draft.finish
  | argument :: rest =>
      match Meaning.ofArgument argument with
      | .dashes => readPaths draft rest
      | .request request => request
      | .path path =>
          match draft.withFile path with
          | some next => readArguments next rest
          | none => .misuse
      | .option set =>
          match set draft with
          | some next => readArguments next rest
          | none => .misuse
      | .awaiting set =>
          match rest with
          | [] => .misuse
          | value :: others =>
              if isValue value then
                match set draft value with
                | some next => readArguments next others
                | none => .misuse
              else
                .misuse

/-- What the arguments ask for. -/
def Request.ofArguments (arguments : List String) : Request :=
  readArguments {} arguments

end WindowLang
