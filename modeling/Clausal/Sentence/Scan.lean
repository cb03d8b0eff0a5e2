import Clausal.Sentence.Rules

/-! Reading a whole source into sentences.

Characters are read one at a time, each with a look at the one after it. When the input ends, an
open region, an open accessor and a pending fragment are ended in this order, and each is reported.
-/

set_option autoImplicit false

namespace Clausal

/-- A character that no rule claims. -/
structure StrayCharacter where
  index : Nat
  character : Char
  deriving DecidableEq

def StrayCharacter.message (error : StrayCharacter) : String :=
  "could not recognize role of character " ++ Text.quotedChar error.character ++ " at index "
    ++ toString error.index

/-- The sentences of a source and what was found on the way. -/
structure Scanned where
  sentences : List Sentence := []
  notices : List Notice := []
  deriving DecidableEq

namespace Scanner

/-- Read one character, given the one after it. -/
def step (s : Scanner) (c : Char) (next : Option Char) :
    Except StrayCharacter (List Sentence × Scanner) :=
  if s.swallow then .ok ([], s.skip c)
  else
    match s.action? c next with
    | some action =>
      let (sentences, after) := s.perform c action
      .ok (sentences, after.advance c)
    | none => .error ⟨s.index, c⟩

/-- Read a stretch of text that `next` follows, adding the completed sentences to those in hand. -/
def run (s : Scanner) (done : Array Sentence) (next : Option Char) :
    List Char → Except StrayCharacter (Array Sentence × Scanner)
  | [] => .ok (done, s)
  | c :: rest =>
    match s.step c (rest.head?.or next) with
    | .ok (sentences, after) => after.run (done ++ sentences) next rest
    | .error error => .error error

/-- A notice about everything from `start` to the end of the input. -/
def noticeFrom (s : Scanner) (start : Nat) (finding : Finding) : Notice :=
  ⟨finding, some (Span.between start s.index)⟩

/-- End the open region, if any. -/
def endRegion (s : Scanner) : Scanned × Scanner :=
  match s.region with
  | none => ({}, s)
  | some region =>
    ({ sentences := s.ended region.kind region.trims s.index
       notices := [s.noticeFrom s.regionStart region.unclosed] },
      { s with pending := [], region := none })

/-- End the open accessor, if any. -/
def endAccessor (s : Scanner) : Scanned × Scanner :=
  match s.accessor with
  | none => ({}, s)
  | some start =>
    ({ sentences :=
         s.ended .accessorLastItem true s.index
           ++ [Sentence.marker .accessorEnd (Span.between s.index s.index)]
       notices := [s.noticeFrom start .openAccessor] },
      { s with pending := [], accessor := none })

/-- End a fragment that no terminator ended. White space alone is no fragment. -/
def endFragment (s : Scanner) : Scanned :=
  let text := Text.trimWhite s.pending.reverse
  if text.isEmpty then {}
  else
    { sentences := s.ended .unknown true s.index
      notices := [s.noticeFrom s.pendingStart (.missingTerminator (String.ofList text))] }

/-- Everything that the end of the input ends. -/
def finish (s : Scanner) : Scanned :=
  let (inRegion, s) := s.endRegion
  let (inAccessor, s) := s.endAccessor
  let fragment := s.endFragment
  { sentences := inRegion.sentences ++ inAccessor.sentences ++ fragment.sentences
    notices := inRegion.notices ++ inAccessor.notices ++ fragment.notices }

end Scanner

/-- Read a source into its sentences. -/
def scan (source : String) : Except StrayCharacter Scanned :=
  match ({} : Scanner).run #[] none source.toList with
  | .ok (sentences, scanner) =>
    let last := scanner.finish
    .ok { last with sentences := sentences.toList ++ last.sentences }
  | .error error => .error error

/-- Every character has a role, so reading a source never fails. -/
theorem Scanner.step_isOk (s : Scanner) (c : Char) (next : Option Char) :
    ∃ result, s.step c next = .ok result := by
  rw [step]
  split
  · exact ⟨_, rfl⟩
  · obtain ⟨action, claimed⟩ := Option.isSome_iff_exists.mp (s.action?_isSome c next)
    rw [claimed]
    exact ⟨_, rfl⟩

end Clausal
