import Clausal.Meaning.Policy
import Clausal.Sentence.Scan

/-! What makes a compilation fail, and where. -/

set_option autoImplicit false

namespace Clausal

/-- Why a file cannot be read as text. -/
inductive FileError where
  | notFound
  | isDirectory
  | notDirectory
  | nameTooLong
  | nulInPath
  | invalidText
  /-- Anything else the system reports, in its own words. -/
  | other (report : String)
  deriving DecidableEq

def FileError.message : FileError → String
  | .notFound => "No such file or directory (os error 2)"
  | .isDirectory => "Is a directory (os error 21)"
  | .notDirectory => "Not a directory (os error 20)"
  | .nameTooLong => "File name too long (os error 36)"
  | .nulInPath => "file name contained an unexpected NUL byte"
  | .invalidText => "stream did not contain valid UTF-8"
  | .other report => report

inductive Location where
  | source (position : Position)
  | file (path : String)
  deriving DecidableEq

def Location.render : Location → String
  | .source position => position.render
  | .file path => path

inductive Cause where
  | stray (error : StrayCharacter)
  | rejection (error : Rejection)
  | file (error : FileError)
  deriving DecidableEq

def Cause.message : Cause → String
  | .stray error => error.message
  | .rejection error => error.message
  | .file error => error.message

structure Failure where
  cause : Cause
  location : Option Location := none
  deriving DecidableEq

/-- The cause, led by the location if it is known. -/
def Failure.message (failure : Failure) : String :=
  match failure.location with
  | some location => location.render ++ ": " ++ failure.cause.message
  | none => failure.cause.message

end Clausal
