/-
The files that a run can read.

A store gives the content of each path, or the reason why there is none.  The files are not
written while a run lasts, so a store is a function and not a state.
-/
import ShardClient.Codec.Utf8

namespace ShardClient

/-- Why a file cannot be read. -/
inductive FileError where
  | notFound
  /-- A file stands where the path needs a directory. -/
  | notDirectory
  | isDirectory
  | nameTooLong
  /-- The path contains the character that ends paths. -/
  | nulInName
  /-- The file holds no text. -/
  | notText
  /-- Any other reason, in the words of the system. -/
  | other (text : String)
  deriving DecidableEq, Repr

/-- The wording of an error. -/
def FileError.message : FileError → String
  | .notFound => "No such file or directory (os error 2)"
  | .notDirectory => "Not a directory (os error 20)"
  | .isDirectory => "Is a directory (os error 21)"
  | .nameTooLong => "File name too long (os error 36)"
  | .nulInName => "file name contained an unexpected NUL byte"
  | .notText => "stream did not contain valid UTF-8"
  | .other text => text

/-- The files that a run can read, by path. -/
structure FileStore where
  read : String → Except FileError Bytes

namespace FileStore

/-- The text of a file. -/
def readText (files : FileStore) (path : String) : Except FileError String := do
  let bytes ← files.read path
  match Utf8.decode? bytes with
  | some text => .ok text
  | none => .error .notText

/-- The path of a file in a directory.  The empty path is the current directory. -/
def join (directory name : String) : String :=
  if directory.isEmpty then name
  else if directory.endsWith "/" then directory ++ name
  else directory ++ "/" ++ name

end FileStore

/-- The code of a contract cannot be read. -/
structure CodeFileError where
  path : String
  cause : FileError
  deriving DecidableEq, Repr

/-- The wording of the error. -/
def CodeFileError.message (e : CodeFileError) : String :=
  "cannot read bytecode from " ++ e.path ++ ": " ++ e.cause.message

/-- The code of a contract, from a file. -/
def FileStore.readCode (files : FileStore) (path : String) : Except CodeFileError Bytes :=
  match files.read path with
  | .ok code => .ok code
  | .error cause => .error ⟨path, cause⟩

end ShardClient
