namespace WindowLang

/-!
# Files and paths

A path leads from the working folder, part by part, to a file or a folder. Two
parts are fixed: a single dot stays where it is and two dots go back to the
folder around. Nothing is known of what lies around the working folder, so no
name is found there.
-/

/-- Why the contents of a file are not to be had. -/
inductive Fault where
  /-- No entry has the name. -/
  | notFound
  /-- The path leads to a folder. -/
  | isFolder
  /-- The path goes on behind a file. -/
  | notFolder
  /-- A name, or the whole path, is too long. -/
  | nameTooLong
  /-- The path holds a NUL character. -/
  | nulInName
  /-- The contents are not encoded in UTF-8. -/
  | notUtf8
  /-- Any other reason, in the words of the system. -/
  | other (text : String)
  deriving DecidableEq, Repr

/-- A fault in words. -/
def Fault.text : Fault → String
  | .notFound => "No such file or directory (os error 2)"
  | .isFolder => "Is a directory (os error 21)"
  | .notFolder => "Not a directory (os error 20)"
  | .nameTooLong => "File name too long (os error 36)"
  | .nulInName => "file name contained an unexpected NUL byte"
  | .notUtf8 => "stream did not contain valid UTF-8"
  | .other text => text

/-- What stands under a name in a folder. -/
inductive Entry where
  | file (bytes : List UInt8)
  | folder (entries : List (String × Entry))

/-- The entries of a folder by name. -/
abbrev Folder := List (String × Entry)

/-- Where a path has led so far. -/
inductive Place where
  /-- At a file. -/
  | file (bytes : List UInt8)
  /-- In a folder, inside others of which the innermost comes first. -/
  | folder (entries : Folder) (around : List Folder)
  /-- In a folder around the working folder. -/
  | outside

/-- The greatest length of a name, in bytes. -/
def nameLimit : Nat := 255

/-- The greatest length of a path, in bytes. -/
def pathLimit : Nat := 4095

/-- The place to which a name leads in a folder. -/
def Folder.find (entries : Folder) (around : List Folder) (name : String) :
    Except Fault Place :=
  match entries.lookup name with
  | none => .error .notFound
  | some (.file bytes) => .ok (.file bytes)
  | some (.folder inner) => .ok (.folder inner (entries :: around))

/-- The place one folder further out. -/
def Place.leave : List Folder → Place
  | [] => .outside
  | entries :: around => .folder entries around

/-- The place to which one part of a path leads. -/
def Place.enter (place : Place) (name : String) : Except Fault Place :=
  match place with
  | .file _ => .error .notFolder
  | .outside =>
      if name = "." ∨ name = ".." then .ok .outside
      else if nameLimit < name.utf8ByteSize then .error .nameTooLong
      else .error .notFound
  | .folder entries around =>
      if name = "." then .ok place
      else if name = ".." then .ok (Place.leave around)
      else if nameLimit < name.utf8ByteSize then .error .nameTooLong
      else entries.find around name

/-- The parts of a path; a slash at the end asks for a folder, as a dot behind it would. -/
def pathParts (path : List Char) : List String :=
  let names := (path.splitOn '/').filter fun name => !name.isEmpty
  let last := if path.getLast? = some '/' then ["."] else []
  names.map String.ofList ++ last

/-- The bytes of the file to which a path leads from the working folder. -/
def Folder.contents (folder : Folder) (path : String) : Except Fault (List UInt8) :=
  if '\x00' ∈ path.toList then .error .nulInName
  else if path.toList = [] then .error .notFound
  else if pathLimit < path.utf8ByteSize then .error .nameTooLong
  else
    let start : Place :=
      if path.toList.head? = some '/' then .outside else .folder folder []
    match (pathParts path.toList).foldlM Place.enter start with
    | .error fault => .error fault
    | .ok (.file bytes) => .ok bytes
    | .ok _ => .error .isFolder

end WindowLang
