/-!
# Files

A tree of directories and files below one directory, and how a path finds its way in it. A directory can be
opened, but it cannot be read or written as a file.
-/

namespace Declgen.Command

/-- Why a file is not read or written. -/
inductive FileFault where
  | notFound
  /-- A file stands where the path goes on. -/
  | notDirectory
  | isDirectory
  /-- The bytes are no text. -/
  | invalidText
  /-- Anything else that a system reports, with its number. -/
  | other (description : String) (code : Nat)
deriving DecidableEq

def numbered (description : String) (code : Nat) : String :=
  description ++ " (os error " ++ toString code ++ ")"

def FileFault.message : FileFault → String
  | .notFound => numbered "No such file or directory" 2
  | .notDirectory => numbered "Not a directory" 20
  | .isDirectory => numbered "Is a directory" 21
  | .invalidText => "stream did not contain valid UTF-8"
  | .other description code => numbered description code

/-- What stands at a place. -/
inductive FileEntry where
  | file (content : ByteArray)
  | directory

/-- A place, as the names on the way to it: down from the top directory, up from it, or down from the root, which
has no name. -/
abbrev Place := List String

/-- The top directory and those around it. Nothing is known of what else they hold. -/
def Place.isOuter (place : Place) : Bool := place.all (· == "..") || place == [""]

/-- The directory around a place. -/
def Place.up (place : Place) : Place :=
  if place == [""] then place else if place.isOuter then place ++ [".."] else place.dropLast

/-- What stands below the top directory, by place. -/
structure Files where
  entries : List (Place × FileEntry)

namespace Files

def empty : Files := ⟨[]⟩

def entry? (f : Files) (place : Place) : Option FileEntry :=
  if place.isOuter then some .directory else f.entries.lookup place

def put (f : Files) (place : Place) (entry : FileEntry) : Files :=
  ⟨(place, entry) :: f.entries.filter (·.1 != place)⟩

/-! ## Paths -/

/-- The names of a path. -/
def parts (path : String) : List String := (path.toList.splitOn '/').map String.ofList

/-- One name further down. Only a directory has names below it. -/
def descend (f : Files) (place : Place) (name : String) : Except FileFault Place :=
  match f.entry? place with
  | none => .error .notFound
  | some (.file _) => .error .notDirectory
  | some .directory =>
    if name = "" || name = "." then .ok place
    else if name = ".." then .ok place.up
    else .ok (place ++ [name])

/-- The place that the names of a path lead to. The empty path leads nowhere; a path that starts with a slash starts
at the root. -/
def walk (f : Files) (names : List String) : Except FileFault Place :=
  if names = [""] then .error .notFound
  else names.foldlM f.descend (if names.head? = some "" then [""] else [])

/-- The place of a path. -/
def locate (f : Files) (path : String) : Except FileFault Place := f.walk (parts path)

def find (f : Files) (path : String) : Except FileFault FileEntry := do
  let place ← f.locate path
  match f.entry? place with
  | none => .error .notFound
  | some entry => .ok entry

/-! ## Reading and writing -/

/-- How many bytes a path has. -/
def size (f : Files) (path : String) : Except FileFault Nat := do
  match ← f.find path with
  | .file content => .ok content.size
  | .directory => .ok 0

def read (f : Files) (path : String) : Except FileFault String := do
  match ← f.find path with
  | .file content =>
    match String.fromUTF8? content with
    | some text => .ok text
    | none => .error .invalidText
  | .directory => .error .isDirectory

/-- The directory and the name that a new file is made from; a path that ends in a slash has no such name. -/
def target (path : String) : List String × Option String :=
  let names := (parts path).reverse
  let slashes := names.takeWhile (· == "")
  match names.dropWhile (· == "") with
  | [] => ([], none)
  | name :: rest =>
    (rest.reverse, if slashes.isEmpty && name != "." && name != ".." then some name else none)

/-- Writes a file in a directory that is there. -/
def write (f : Files) (path : String) (content : ByteArray) : Except FileFault Files := do
  let (parent, name) := target path
  let place ← f.walk (if parent.isEmpty then ["."] else parent)
  match f.entry? place with
  | none => .error .notFound
  | some (.file _) => .error .notDirectory
  | some .directory =>
    match name with
    | none => .error .isDirectory
    | some name =>
      match f.entry? (place ++ [name]) with
      | some .directory => .error .isDirectory
      | _ => .ok (f.put (place ++ [name]) (.file content))

/-- Makes a directory, and those it stands in. -/
def makeDirectory (f : Files) (path : String) : Files :=
  let names := (parts path).filter fun n => n != "" && n != "."
  ((List.range names.length).map fun i => names.take (i + 1)).foldl
    (fun f place => if (f.entry? place).isSome then f else f.put place .directory) f

/-- Removes a file, or a directory with all that stands in it. -/
def remove (f : Files) (path : String) : Files :=
  match f.locate path with
  | .ok place => ⟨f.entries.filter fun e => !place.isPrefixOf e.1⟩
  | .error _ => f

end Files

end Declgen.Command
