import WindowLang.CommandLine.Run

/-!
# The program

The program takes its arguments, reads the one file that they name, and gives the
answer of the library to the outside.
-/

namespace WindowLang

/-- The fault that the system reports when a file cannot be read. -/
def Fault.ofSystem : IO.Error → Fault
  | .noFileOrDirectory .. => .notFound
  | .inappropriateType _ code _ => if code = 21 then .isFolder else .notFolder
  | .invalidArgument .. => .nameTooLong
  | .permissionDenied .. => .other "Permission denied (os error 13)"
  | fault => .other (toString fault)

/-- The contents of the file at a path. -/
def systemContents (path : String) : IO (Except Fault (List UInt8)) := do
  if '\x00' ∈ path.toList then
    return .error .nulInName
  try
    return .ok (← IO.FS.readBinFile path).data.toList
  catch fault =>
    return .error (.ofSystem fault)

/-- Answers the arguments of the command line and gives the exit code. -/
def answerSystem (arguments : List String) : IO UInt32 := do
  let request := Request.ofArguments arguments
  let contents ←
    match request with
    | .run invocation => systemContents invocation.file
    | _ => pure (.error .notFound)
  let answer := request.answer (← IO.getEnv "RUST_LOG") fun _ => contents
  (← IO.getStdout).putStr answer.output
  (← IO.getStderr).putStr answer.errors
  return answer.exitCode.toUInt32

end WindowLang

/-- Runs the program on the arguments of the command line. -/
def main (arguments : List String) : IO UInt32 :=
  WindowLang.answerSystem arguments
