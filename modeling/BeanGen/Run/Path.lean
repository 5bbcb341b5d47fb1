/-!
# Paths

A path is a text whose parts are separated by slashes. A part that itself starts with a slash names
a place from the root, so joining it replaces what was there.
-/

namespace BeanGen.Path

def isAbsolute (path : String) : Bool :=
  path.startsWith "/"

def join (base part : String) : String :=
  if isAbsolute part then part
  else if base.isEmpty || base.endsWith "/" then base ++ part
  else base ++ "/" ++ part

/-- Removes slashes, and points that stand for the place itself, from the end of a path given back
to front. A point that is the whole path stays. -/
def trimBack : List Char → List Char
  | '/' :: rest => trimBack rest
  | '.' :: '/' :: rest => trimBack ('/' :: rest)
  | cs => cs

/-- The path without its last part; `none` if there is no part to take off. -/
def parent? (path : String) : Option String :=
  match trimBack path.toList.reverse with
  | [] => none
  | back =>
    let rest := back.dropWhile (· != '/')
    let trimmed := trimBack rest
    if trimmed.isEmpty && !rest.isEmpty then some "/" else some (String.ofList trimmed.reverse)

/-- A path and the paths that hold it, from the inside to the outside; `bound` is not less than
their number. The empty path, which names no place, is left out. -/
def withHoldersWithin : Nat → String → List String
  | 0, _ => []
  | bound + 1, path =>
    if path.isEmpty then []
    else
      match parent? path with
      | none => [path]
      | some holder => path :: withHoldersWithin bound holder

/-- A path and the paths that hold it, from the inside to the outside. -/
def withHolders (path : String) : List String :=
  withHoldersWithin path.length path

end BeanGen.Path
