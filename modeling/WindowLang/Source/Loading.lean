import WindowLang.Journal.Record
import WindowLang.Outline.Renderer
import WindowLang.Source.Folder

namespace WindowLang

/-!
# Loading a window from a file

A file is read as lines of UTF-8, its lines are cut into tokens, and the tokens
are recognized as a window. A file that cannot be read is reported with its path,
and nothing of it is recognized.
-/

/-- The lines of a file with the given contents. -/
def readLines (contents : Except Fault (List UInt8)) : Except Fault (List String) :=
  match contents with
  | .error fault => .error fault
  | .ok bytes =>
      match (Text.byteLines bytes).mapM Text.decodeUtf8? with
      | some lines => .ok lines
      | none => .error .notUtf8

/-- Why a file gives no window. -/
inductive LoadError where
  /-- The file cannot be read. -/
  | source (path : String) (fault : Fault)
  /-- The file is not a document. -/
  | document (error : SyntaxError)
  deriving DecidableEq, Repr

/-- The innermost reason in words. -/
def LoadError.cause : LoadError → String
  | .source _ fault => fault.text
  | .document error => error.display

/-- The error in words. -/
def LoadError.message : LoadError → String
  | .source path fault => "cannot read " ++ path ++ ": " ++ fault.text
  | .document error => error.display

/-- What became of a file, and the records on the way. -/
structure Loading where
  outcome : Except LoadError Window
  records : List Record

/-- Loads the file at a path with the given contents. -/
def loadFile
    (strict : Bool)
    (path : String)
    (contents : Except Fault (List UInt8)) :
    Loading :=
  match readLines contents with
  | .error fault => ⟨.error (.source path fault), []⟩
  | .ok lines =>
      let tokens := tokenize strict lines
      let recognition := recognize tokens
      {
        outcome := recognition.outcome.mapError .document
        records :=
          [.linesRead path lines, .tokensRead tokens] ++
            Record.ofRecognition tokens.length recognition
      }

/-- The window in the file at a path with the given contents. -/
def load
    (strict : Bool)
    (path : String)
    (contents : Except Fault (List UInt8)) :
    Except LoadError Window :=
  (loadFile strict path contents).outcome

/-- What became of a file that was to be shown, and the records that a logger let through. -/
structure Showing where
  outcome : Except LoadError (Except TooWide String)
  records : List Record

/-- Loads a file and renders its window, watched by a logger with one threshold. -/
def showFile
    (threshold : Threshold)
    (indent : Nat)
    (strict : Bool)
    (path : String)
    (contents : Except Fault (List UInt8)) :
    Showing :=
  let loading := loadFile strict path contents
  let rendered := loading.outcome.toOption.toList.map Record.rendering
  {
    outcome := loading.outcome.map (Window.render indent)
    records := (loading.records ++ rendered).filter (Filter.uniform threshold).admits
  }

end WindowLang
