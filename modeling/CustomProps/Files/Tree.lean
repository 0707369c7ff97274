import CustomProps.Files.Error
import CustomProps.Files.Path
/-!
Trees of files and directories, with a directory that relative paths start from. A place in a tree
is the list of names that lead to it from the root.

A path is followed piece by piece. Whatever is entered has to be a directory, also by a piece that
names nothing, so `a/` and `a/.` are refused where `a` is a file. A file can be written where its
directory is, and a directory can be made there once. Names and paths have a greatest length.
-/
namespace CustomProps

/-- What stands at a place. -/
inductive Entry where
  | file (content : ByteArray)
  | directory
deriving Inhabited

namespace Entry

def isDirectory : Entry → Bool
  | .directory => true
  | .file _ => false

/-- The entry is a file of the given content. -/
def holds (content : ByteArray) : Entry → Bool
  | .directory => false
  | .file old => old.data == content.data

end Entry

/-- The names that lead from the root to a place. -/
abbrev Place := List String

structure FileTree where
  entries : List (Place × Entry)
  /-- Where relative paths start. -/
  current : Place

namespace FileTree

/-- What stands at a place; the root is a directory. -/
def entry? (t : FileTree) (here : Place) : Option Entry :=
  if here.isEmpty then some .directory else t.entries.lookup here

/-- The tree with another entry at a place. -/
def put (t : FileTree) (here : Place) (e : Entry) : FileTree :=
  { t with entries := (here, e) :: t.entries.filter fun old => old.1 != here }

/-! ### Following paths -/

/-- The most bytes that a name may have. -/
def nameLimit : Nat := 255

/-- The most bytes that a path may have. -/
def pathLimit : Nat := 4095

/-- The place of a name in a directory. -/
def child (here : Place) (name : String) : Except OsError Place :=
  if nameLimit < name.utf8ByteSize then .error .nameTooLong else .ok (here ++ [name])

/-- The place that a piece leads to from a directory, whether or not anything stands there. -/
def enter (t : FileTree) (here : Place) (piece : String) : Except OsError Place :=
  match t.entry? here with
  | none => .error .notFound
  | some (.file _) => .error .notDirectory
  | some .directory =>
    if Path.isBlank piece then .ok here
    else if piece == ".." then .ok here.dropLast
    else child here piece

/-- Where a path starts, if it can be followed at all. -/
def origin (t : FileTree) (p : Path) : Except OsError Place :=
  if p.text.contains '\x00' then .error .nameWithNul
  else if pathLimit < p.text.utf8ByteSize then .error .nameTooLong
  else
    match p.pieces with
    | "" :: _ :: _ => .ok []
    | _ => if p.isEmpty then .error .notFound else .ok t.current

/-- The place that a path leads to, whether or not anything stands there. -/
def locate (t : FileTree) (p : Path) : Except OsError Place := do
  p.pieces.foldlM t.enter (← t.origin p)

def isDirectory (t : FileTree) (p : Path) : Bool :=
  match t.locate p with
  | .ok place => (t.entry? place).any Entry.isDirectory
  | .error _ => false

/-- The bytes of a file. -/
def read (t : FileTree) (p : Path) : Except OsError ByteArray := do
  match t.entry? (← t.locate p) with
  | some (.file content) => .ok content
  | some .directory => .error .isDirectory
  | none => .error .notFound

/-! ### Adding entries -/

/-- Where an entry is to be added. -/
inductive Target where
  /-- In a directory under a name. -/
  | named (place : Place)
  /-- The path names a directory by what it is: the root, `.` or `..`. -/
  | fixed
deriving DecidableEq, Repr, Inhabited

/-- Where the entry goes that a path names, slashes at its end apart. -/
def target (t : FileTree) (p : Path) : Except OsError Target := do
  let origin ← t.origin p
  let pieces := p.withoutEndSlashes
  match pieces.getLast? with
  | none => return .fixed
  | some last =>
    let parent ← (pieces.dropLast ++ ["."]).foldlM t.enter origin
    if last == "." || last == ".." then return .fixed else return .named (← child parent last)

/-- The tree with a file of the given content; a path that ends in a slash names no file. -/
def write (t : FileTree) (p : Path) (content : ByteArray) : Except OsError FileTree := do
  match ← t.target p with
  | .fixed => .error .isDirectory
  | .named place =>
    if p.withoutEndSlashes != p.pieces || (t.entry? place).any Entry.isDirectory then
      .error .isDirectory
    else .ok (t.put place (.file content))

/-- The tree with a new directory in a directory that is there. -/
def makeDirectory (t : FileTree) (p : Path) : Except OsError FileTree := do
  match ← t.target p with
  | .fixed => .error .alreadyExists
  | .named place =>
    if (t.entry? place).isSome then .error .alreadyExists else .ok (t.put place .directory)

/-! ### Looking at whole trees -/

/-- The files below a place: the names that lead to each from there, and its content. -/
def filesBelowPlace (t : FileTree) (here : Place) : List (List String × ByteArray) :=
  t.entries.filterMap fun (place, e) =>
    match e with
    | .file content =>
      if here.isPrefixOf place then some (place.drop here.length, content) else none
    | .directory => none

/-- The files below the directory that a path leads to. -/
def filesBelow (t : FileTree) (p : Path) : List (List String) :=
  match t.locate p with
  | .ok place => (t.filesBelowPlace place).map Prod.fst
  | .error _ => []

/-- The files below the current directory that are new or have another content than in `before`. -/
def changesSince (t before : FileTree) : List (List String × ByteArray) :=
  (t.filesBelowPlace t.current).filter fun (names, content) =>
    !(before.entry? (t.current ++ names)).any (Entry.holds content)

/-- The tree with an entry at a place, and with directories wherever they are missing on the way. -/
def plant (t : FileTree) (names : Place) (e : Entry) : FileTree :=
  let above := (List.range names.length).map names.take
  (above.foldl (fun t place => if (t.entry? place).isSome then t else t.put place .directory) t).put
    names e

/-- The tree that holds nothing but its current directory. -/
def bare (current : Place) : FileTree := FileTree.plant ⟨[], current⟩ current .directory

end FileTree
end CustomProps
