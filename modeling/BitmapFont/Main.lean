import BitmapFont.Run

/-!
# The program

The outer layer: the words and variables that a process is given, the files of
the system it runs on, and its standard streams.
-/

namespace BitmapFont

def FileError.ofSystem (error : IO.Error) : FileError :=
  match error with
  | .noFileOrDirectory .. | .noSuchThing .. => .notFound
  | .inappropriateType _ 21 _ => .isDirectory
  | .inappropriateType _ 20 _ => .notDirectory
  | .invalidArgument _ 36 _ => .nameTooLong
  | unknown => .other (toString unknown)

def accessFile {α : Type} (path : String) (operation : IO α) :
    IO (Except FileError α) := do
  if path.contains '\x00' then
    return .error .nulInName
  try
    return .ok (← operation)
  catch error =>
    return .error (.ofSystem error)

instance : FileAccess IO where
  read path := accessFile path do
    return (← IO.FS.readBinFile path).toList
  write path bytes := accessFile path do
    IO.FS.writeBinFile path bytes.toByteArray

end BitmapFont

open BitmapFont in
def main (words : List String) : IO UInt32 := do
  let environment : Environment := {
    outputPath := ← IO.getEnv CommandLine.outputVariable
    logFilter := ← IO.getEnv logVariable }
  let outcome ← run environment words
  let errors ← IO.getStderr
  for line in outcome.errorLines do
    errors.putStrLn line
  let output ← IO.getStdout
  output.write outcome.output.toByteArray
  output.flush
  return outcome.exitCode
