import Clausal.CommandLine.Report

/-! The command line. -/

set_option autoImplicit false

namespace Clausal.CommandLine

/-- The reason a file could not be read, as far as it is one of those known by name. -/
def fileError : IO.Error → FileError
  | .noFileOrDirectory _ _ _ => .notFound
  | .inappropriateType _ code _ => if code = 21 ∨ code = -21 then .isDirectory else .notDirectory
  | .invalidArgument _ 36 _ => .nameTooLong
  | error => .other error.toString

def readText (path : String) : IO (Except FileError String) := do
  try
    match String.fromUTF8? (← IO.FS.readBinFile path) with
    | some text => return .ok text
    | none => return .error .invalidText
  catch error => return .error (fileError error)

/-- Semaphores count in a word of 64 bits, of which they need three for other things. -/
def host : Host :=
  .counting 2305843009213693951 1

def printLines (stream : IO.FS.Stream) (lines : List String) : IO Unit :=
  lines.forM stream.putStrLn

end Clausal.CommandLine

open Clausal Clausal.CommandLine in
def main (arguments : List String) : IO UInt32 := do
  match Arguments.parse arguments with
  | .error error =>
    IO.eprintln ("error: " ++ error.message)
    return 2
  | .ok arguments =>
    let texts ← arguments.files.mapM fun path => return (path, ← readText path)
    match run host arguments fun path => (texts.lookup path).getD (.error .notFound) with
    | some report =>
      printLines (← IO.getStdout) report.output
      printLines (← IO.getStderr) (report.messages ++ report.failure.toList.map ("Error: " ++ ·))
      return report.exitCode.toUInt32
    -- The exit code of a panic.
    | none => return 101
