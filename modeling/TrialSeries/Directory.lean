import TrialSeries.FileError
import TrialSeries.SortedMap
import TrialSeries.Text.Split

/-!
# Directories

A directory is the files and folders that are seen from it, each under the names that lead to it. A
path is followed name by name, and everything on its way has to be a folder. Above the directory and
at the root there are folders in which nothing is known.

Files are read and written as if nothing but a path could be wrong: there is room for every text, all
files may be read and written, and there are no links. So a write fails only for its path, and before
it changes anything.
-/

namespace TrialSeries

/-- The names that lead from a directory to a place. Leading double dots lead out of the directory,
and a first name that is empty stands for the root. -/
abbrev Directory.Place := List String

structure Directory where
  /-- The contents of files under their names with slashes between them. -/
  files : SortedMap String ByteArray
  /-- The folders below the directory. -/
  folders : List Directory.Place

namespace Directory

def empty : Directory := ⟨∅, []⟩

instance : Inhabited Directory := ⟨empty⟩

/-! ## Places -/

def Place.key (place : Place) : String := "/".intercalate place

/-- The place above a place. There is none above the root. -/
def Place.parent (place : Place) : Place :=
  match place.getLast? with
  | none => [".."]
  | some ".." => place ++ [".."]
  | some "" => place
  | some _ => place.dropLast

/-- The directory itself, a folder above it, or the root. -/
def Place.isBase (place : Place) : Bool := place.all fun name ↦ name = ".." || name = ""

/-- What stands at a place. -/
inductive Entry where
  | folder
  | file (content : ByteArray)
  | absent

def entryAt (directory : Directory) (place : Place) : Entry :=
  match directory.files.get? place.key with
  | some content => .file content
  | none => if place.isBase || directory.folders.contains place then .folder else .absent

/-! ## Following paths -/

/-- The names in a path. Repeated slashes count as one. -/
def namesOf (path : String) : List String :=
  ((Text.splitOn '/' path.toList).filter (· ≠ [])).map String.ofList

def startOf (path : String) : Place := if path.toList.head? = some '/' then [""] else []

/-- A path that ends in a slash asks for a folder. -/
def asksForFolder (path : String) : Bool := path.toList.getLast? = some '/'

/-- The place that a name leads to from a place, which has to be a folder. -/
def step (directory : Directory) (place : Place) (name : String) : Except FileError Place :=
  match directory.entryAt place with
  | .absent => .error .notFound
  | .file _ => .error .notFolder
  | .folder =>
    if name = "." then .ok place
    else if name = ".." then .ok place.parent
    else if 255 < name.utf8ByteSize then .error .nameTooLong
    else .ok (place ++ [name])

/-- The place that some names lead to, which a path gives. There need not be anything at it. -/
def follow (directory : Directory) (path : String) (names : List String) :
    Except FileError Place :=
  if '\x00' ∈ path.toList then .error .nulInPath
  else if path = "" then .error .notFound
  else if 4095 < path.utf8ByteSize then .error .nameTooLong
  else names.foldlM directory.step (startOf path)

/-- The place that a path leads to. -/
def placeOf (directory : Directory) (path : String) : Except FileError Place :=
  directory.follow path (namesOf path)

/-! ## Reading and writing -/

/-- The text of the file at a path. -/
def read (directory : Directory) (path : String) : Except FileError String := do
  match directory.entryAt (← directory.placeOf path) with
  | .absent => .error .notFound
  | .folder => .error .isFolder
  | .file content =>
    if asksForFolder path then .error .notFolder
    else match String.fromUTF8? content with
      | some text => .ok text
      | none => .error .notText

/-- There is a file or a folder at a path. -/
def isPresent (directory : Directory) (path : String) : Bool :=
  match directory.placeOf path with
  | .error _ => false
  | .ok place => match directory.entryAt place with
    | .absent => false
    | .folder => true
    | .file _ => !asksForFolder path

/-- Makes a text the content of the file at a path, which may be new. A path that asks for a folder
is refused without a look at its last name, if there is a folder above that. A write that fails
leaves nothing behind, since it fails for its path alone. -/
def write (directory : Directory) (path text : String) : Except FileError Directory :=
  if asksForFolder path then do
    let _ ← directory.follow path ((namesOf path).dropLast ++ ["."])
    .error .isFolder
  else do
    let place ← directory.placeOf path
    match directory.entryAt place with
    | .folder => .error .isFolder
    | _ => .ok { directory with files := directory.files.insert place.key text.toUTF8 }

/-! ## Making a directory -/

/-- Goes on from a place to a folder of the given name, which is made if it is not there. -/
def enter (directory : Directory) (place : Place) (name : String) : Directory × Place :=
  if name = "." then (directory, place)
  else if name = ".." then (directory, place.parent)
  else ({ directory with folders := directory.folders.insert (place ++ [name]) }, place ++ [name])

/-- Adds a file together with the folders that its path goes through. -/
def add (directory : Directory) (path : String) (content : ByteArray) : Directory :=
  let names := namesOf path
  let (directory, folder) := names.dropLast.foldl
    (fun (directory, place) name ↦ directory.enter place name) (directory, startOf path)
  let place : Place := folder ++ names.getLast?.toList
  { directory with files := directory.files.insert place.key content }

/-- The directory of some files, added one by one. -/
def ofFiles (files : List (String × ByteArray)) : Directory :=
  files.foldl (fun directory (path, content) ↦ directory.add path content) empty

end Directory

end TrialSeries
