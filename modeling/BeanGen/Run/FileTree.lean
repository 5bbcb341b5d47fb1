import BeanGen.Run.Path
import BeanGen.Text.Basic

/-!
# File trees

A file tree maps places to files and directories. A place is the list of names that lead to it, the
innermost name first, so the place that holds another is its tail; the root is the empty list. A
path is resolved name by name, from the root or from the working directory, and every name on the
way has to lie in a directory.
-/

namespace BeanGen.Run

inductive OsFault where
  | notFound
  | notDirectory
  | alreadyThere
  | isDirectory
  | nameTooLong
  | nulInPath
  | notText
  | other (text : String)
  deriving DecidableEq, Repr, Inhabited

def OsFault.message : OsFault → String
  | notFound => "No such file or directory (os error 2)"
  | notDirectory => "Not a directory (os error 20)"
  | alreadyThere => "File exists (os error 17)"
  | isDirectory => "Is a directory (os error 21)"
  | nameTooLong => "File name too long (os error 36)"
  | nulInPath => "file name contained an unexpected NUL byte"
  | notText => "stream did not contain valid UTF-8"
  | other text => text

inductive Node where
  | file (text : String)
  | directory
  deriving DecidableEq, Repr, Inhabited

abbrev Place :=
  List String

/-- Files and directories by their places, and the place from which relative paths start. -/
structure FileTree where
  nodes : List (Place × Node)
  workingDirectory : Place
  deriving Repr, Inhabited

namespace FileTree

def maxNameBytes : Nat :=
  255

def maxPathBytes : Nat :=
  4095

/-- What lies at a place; the root is a directory. -/
def node? (t : FileTree) (p : Place) : Option Node :=
  if p.isEmpty then some .directory else t.nodes.lookup p

def put (t : FileTree) (p : Place) (n : Node) : FileTree :=
  { t with nodes := (p, n) :: t.nodes.filter (·.1 != p) }

def enter (t : FileTree) (p : Place) (name : String) : Except OsFault Place :=
  match t.node? p with
  | none => .error .notFound
  | some (.file _) => .error .notDirectory
  | some .directory =>
    if maxNameBytes < name.utf8ByteSize then .error .nameTooLong
    else if name = "." then .ok p
    else if name = ".." then .ok p.tail
    else .ok (name :: p)

/-- The place that names lead to; nothing has to lie there yet. -/
def walk (t : FileTree) : Place → List String → Except OsFault Place
  | p, [] => .ok p
  | p, name :: rest => do
    let q ← t.enter p name
    walk t q rest

def namesOf (path : String) : List String :=
  (Text.runs (· == '/') path.toList).map String.ofList

def route (t : FileTree) (path : String) : Except OsFault (Place × List String) :=
  if path.toList.contains '\x00' then .error .nulInPath
  else if path.isEmpty then .error .notFound
  else if maxPathBytes < path.utf8ByteSize then .error .nameTooLong
  else .ok (if Path.isAbsolute path then [] else t.workingDirectory, namesOf path)

/-- The place that a path names; nothing has to lie there yet. -/
def locate (t : FileTree) (path : String) : Except OsFault Place := do
  let (start, names) ← t.route path
  t.walk start names

def asksDirectory (path : String) : Bool :=
  path.endsWith "/"

def find (t : FileTree) (path : String) : Except OsFault Node := do
  let p ← t.locate path
  match t.node? p with
  | none => throw .notFound
  | some .directory => return .directory
  | some (.file text) => if asksDirectory path then throw .notDirectory else return .file text

def contains (t : FileTree) (path : String) : Bool :=
  (t.find path).isOk

def readText (t : FileTree) (path : String) : Except OsFault String := do
  match ← t.find path with
  | .file text => return text
  | .directory => throw .isDirectory

def writeText (t : FileTree) (path text : String) : Except OsFault FileTree := do
  let p ← t.locate path
  match t.node? p with
  | some .directory => throw .isDirectory
  | some (.file _) =>
    if asksDirectory path then throw .notDirectory else return t.put p (.file text)
  | none =>
    if asksDirectory path then throw .isDirectory else return t.put p (.file text)

def isDirectory (t : FileTree) (path : String) : Bool :=
  match t.find path with
  | .ok .directory => true
  | _ => false

def makeDir (t : FileTree) (path : String) : Except OsFault FileTree := do
  let p ← t.locate path
  match t.node? p with
  | some _ => throw .alreadyThere
  | none => return t.put p .directory

/-- The tree after an attempt to make a directory, which does no harm where there is one. -/
def orDirectory (t : FileTree) (path : String) (made : Except OsFault FileTree) :
    FileTree × Except OsFault Unit :=
  match made with
  | .ok made => (made, .ok ())
  | .error fault => (t, if t.isDirectory path then .ok () else .error fault)

/-- Makes the first of some paths, each of which lies in the next one. Where it cannot be made
because nothing is there to hold it, the next one is made before it. -/
def makeDirsAlong (t : FileTree) : List String → FileTree × Except OsFault Unit
  | [] => (t, .ok ())
  | path :: holders =>
    match t.makeDir path with
    | .error .notFound =>
      match makeDirsAlong t holders with
      | (t, .ok ()) => t.orDirectory path (t.makeDir path)
      | (t, .error fault) => (t, .error fault)
    | made => t.orDirectory path made

/-- Makes the directories of a path that are not there yet, the innermost only after those that hold
it; what was made before a fault stays. -/
def makeDirs (t : FileTree) (path : String) : FileTree × Except OsFault Unit :=
  t.makeDirsAlong (Path.withHolders path)

def withWorkingDirectory (names : List String) : FileTree :=
  let place := names.reverse
  ⟨(makeDirs ⟨[], []⟩ (String.intercalate "/" ("" :: names))).1.nodes, place⟩

/-- The tree with one more file and the directories on the way to it. -/
def withFile (t : FileTree) (path text : String) : FileTree :=
  let t := match Path.parent? path with
    | some parent => (t.makeDirs parent).1
    | none => t
  match t.writeText path text with
  | .ok t => t
  | .error _ => t

def relativePath? (t : FileTree) (p : Place) : Option String :=
  let start := t.workingDirectory.reverse
  if start.isPrefixOf p.reverse then
    some (String.intercalate "/" (p.reverse.drop start.length))
  else none

def files (t : FileTree) : List (String × String) :=
  t.nodes.filterMap fun (p, n) =>
    match n, t.relativePath? p with
    | .file text, some path => some (path, text)
    | _, _ => none

end FileTree

end BeanGen.Run
