/-
The program.

Requests are written to standard output, one line each: the method, the address, and the body
of one that posts.  The body of the reply is read from standard input, one line; an empty line
means that there was no reply.  So whatever can speak HTTP can carry them.  The log goes to
standard error.
-/
import ShardClient.CommandLine
import ShardClient.Signature.Ed25519

namespace ShardClient

/-- The number by which the system knows names that are too long.  A file that fails to open is
reported with the negated number. -/
def nameTooLongCode : UInt32 := 36

/-- Why a file cannot be read.  A path that leads through a file fails to open, and the path is
reported; a directory opens and fails to be read. -/
def fileError : IO.Error → FileError
  | .noFileOrDirectory .. => .notFound
  | .inappropriateType (some _) .. => .notDirectory
  | .inappropriateType none .. => .isDirectory
  | .invalidArgument (some path) code details =>
    if code = nameTooLongCode || code = 0 - nameTooLongCode then .nameTooLong
    else .other (toString (IO.Error.invalidArgument (some path) code details))
  | e => .other (toString e)

/-- Reads a file. -/
def readFile (path : String) : IO (Except FileError Bytes) := do
  if path.toList.contains '\x00' then pure (.error .nulInName)
  else
    try
      let content ← IO.FS.readBinFile path
      pure (.ok content.toList)
    catch e => pure (.error (fileError e))

/-- The store of files that have been read. -/
def storeOf (found : List (String × Except FileError Bytes)) : FileStore :=
  ⟨fun path => (found.lookup path).getD (.error .notFound)⟩

/-- Carries a request over the standard streams. -/
def exchange (r : HttpRequest) : IO (Option Bytes) := do
  let body := Utf8.decodeLossy (r.body.getD [])
  (← IO.getStdout).putStrLn (r.method ++ " " ++ r.url ++ " " ++ body)
  (← IO.getStdout).flush
  let line ← (← IO.getStdin).getLine
  let text := String.ofList (line.toList.filter fun c => c != '\n' && c != '\r')
  pure (if text.isEmpty then none else some (Utf8.encode text))

/-- The outside of the program. -/
def outside : Outside IO where
  transport := ⟨exchange⟩
  now := IO.monoNanosNow
  pause d := IO.sleep (UInt32.ofNat (d / 1000000))
  log line := do (← IO.getStderr).putStrLn line.render

/-- Reads the files that a command needs: first the configurations, then the files they name. -/
def readFiles (c : CommandLine.Command) : IO FileStore := do
  let mut found := [(c.configPath, ← readFile c.configPath)]
  for path in c.files (storeOf found) do
    found := found ++ [(path, ← readFile path)]
  pure (storeOf found)

end ShardClient

open ShardClient in
def main (args : List String) : IO UInt32 := do
  let files ← match CommandLine.read args with
    | .ok command => readFiles command
    | .error _ => pure (storeOf [])
  CommandLine.runProgram ed25519 outside files args
