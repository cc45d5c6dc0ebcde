import Mathlib.Data.List.Basic

/-!
# Paths

A path is compared by its components, as `std::path::Path` does on Unix:
repeated and trailing separators do not count, and neither does a `.` except at
the start of a relative path.
-/

namespace ResumeIr.CoreDomain

inductive PathComponent where
  | rootDir
  | curDir
  | parentDir
  | normal (name : List Char)
  deriving DecidableEq

/-- The pieces of a text between the separators. -/
def pathPieces : List Char → List (List Char)
  | [] => [[]]
  | c :: rest =>
      if c = '/' then [] :: pathPieces rest
      else match pathPieces rest with
        | [] => [[c]]
        | piece :: pieces => (c :: piece) :: pieces

/-- The component that a piece stands for, if it counts. -/
def innerComponent (piece : List Char) : Option PathComponent :=
  if piece = [] ∨ piece = ['.'] then none
  else if piece = ['.', '.'] then some .parentDir
  else some (.normal piece)

def isAbsolute (path : String) : Bool :=
  path.toList.head? = some '/'

/-- `path.components()`. -/
def pathComponents (path : String) : List PathComponent :=
  let pieces := pathPieces path.toList
  let inner := pieces.filterMap innerComponent
  if isAbsolute path then .rootDir :: inner
  else if pieces.head? = some ['.'] then .curDir :: inner
  else inner

/-- `base.join(relative)`. -/
def joinPath (base relative : String) : String :=
  if isAbsolute relative ∨ base = "" then relative
  else if base.toList.getLast? = some '/' then base ++ relative
  else base ++ "/" ++ relative

/-- Whether two texts name the same path. -/
def samePath (first second : String) : Bool :=
  decide (pathComponents first = pathComponents second)

end ResumeIr.CoreDomain
