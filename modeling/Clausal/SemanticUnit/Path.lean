import Clausal.SemanticUnit.Basic
import Clausal.Text.Cut

/-! Taking an accessor path apart.

A path names an item and its members, divided by points. After the first space comes a method, and
after the method's colon its parameters, divided by commas. Empty members and parameters are
dropped.
-/

set_option autoImplicit false

namespace Clausal

namespace AccessorPath

/-- The parts of a list that are not empty, as text. -/
def keepNonempty (parts : List (List Char)) : List String :=
  (parts.filter fun part => !part.isEmpty).map String.ofList

def methodName? (name : List Char) : Option String :=
  let name := Text.trimWhite name
  if name.isEmpty then none else some (String.ofList name)

/-- Split the text after the first space into a method and its parameters. -/
def ofCall (call : List Char) : Option String × List String :=
  match Text.cutFirst ':' call with
  | some (name, parameters) =>
    (methodName? name, keepNonempty ((parameters.splitOn ',').map Text.trimWhite))
  | none => (methodName? call, [])

/-- Split the text before the first space into an item and its members. -/
def ofPath (path : List Char) : String × List String :=
  match path.splitOn '.' with
  | [] => ("", [])
  | item :: members => (String.ofList item, keepNonempty members)

/-- The path that a text denotes. Every text denotes one. -/
def ofText (text : String) : AccessorPath :=
  let squeezed := Text.squeeze text.toList
  match Text.cutFirst ' ' squeezed with
  | some (path, call) =>
    let (item, members) := ofPath path
    let (method, parameters) := ofCall call
    { item, members, method, parameters }
  | none =>
    let (item, members) := ofPath squeezed
    { item, members }

end AccessorPath

end Clausal
