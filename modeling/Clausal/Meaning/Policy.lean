import Clausal.Scope.Basic
import Clausal.Text.Quoted

/-! What is tolerated in a program, and the faults where nothing is. -/

set_option autoImplicit false

namespace Clausal

/-- How scope mismatches are treated. -/
inductive MismatchPolicy where
  /-- A mismatched end marker or a misplaced branch is a fault. -/
  | strict
  /-- Mismatches are repaired and reported. -/
  | lenient
  deriving DecidableEq

/-- How sentences without a meaning are treated. -/
inductive UnknownPolicy where
  /-- Such a sentence becomes an unknown unit and is reported. -/
  | degrade
  /-- Such a sentence is a fault. -/
  | reject
  deriving DecidableEq

structure Options where
  mismatches : MismatchPolicy := .strict
  unknown : UnknownPolicy := .degrade
  deriving DecidableEq

namespace Options

def isLenient (options : Options) : Bool :=
  options.mismatches == .lenient

def rejectsUnknown (options : Options) : Bool :=
  options.unknown == .reject

def setLenient (options : Options) (lenient : Bool) : Options :=
  { options with mismatches := if lenient then .lenient else .strict }

def setRejectUnknown (options : Options) (reject : Bool) : Options :=
  { options with unknown := if reject then .reject else .degrade }

end Options

/-- Why a sentence cannot be read. -/
inductive Fault where
  | mismatchedEnd (requested found : Scope)
  | underflow (requested : Scope)
  | misplacedElif (found : Scope)
  | unrecognized (text : String)
  deriving DecidableEq

/-- A fault of the sentence with the given index. -/
structure Rejection where
  index : Nat
  fault : Fault
  deriving DecidableEq

def Rejection.message (rejection : Rejection) : String :=
  let index := toString rejection.index
  match rejection.fault with
  | .mismatchedEnd requested found =>
    "sentence " ++ index ++ " closes " ++ requested.name ++ " but the innermost open scope is "
      ++ found.name
  | .underflow requested =>
    "sentence " ++ index ++ " closes " ++ requested.name ++ " but no scope is open"
  | .misplacedElif found =>
    "sentence " ++ index ++ " starts an `elif` branch outside of an if block (innermost open scope is "
      ++ found.name ++ ")"
  | .unrecognized text =>
    "could not determine unit (sentence at index " ++ index ++ "): " ++ Text.quoted text

end Clausal
