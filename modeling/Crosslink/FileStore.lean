import Crosslink.Error
import Crosslink.Text.Cut

set_option autoImplicit false

namespace Crosslink

inductive FileFault where
  | notFound
  | permissionDenied
  | alreadyExists
  | isDirectory
  | notDirectory
  | invalidData
  | unexpectedEnd
  | timedOut
  deriving DecidableEq

namespace FileFault

def description : FileFault → String
  | notFound => "entity not found"
  | permissionDenied => "permission denied"
  | alreadyExists => "entity already exists"
  | isDirectory => "is a directory"
  | notDirectory => "not a directory"
  | invalidData => "invalid data"
  | unexpectedEnd => "unexpected end of file"
  | timedOut => "timed out"

/-- The error of a fault. What is not found is reported in the given words, if there are any; of
    all other faults the kind is reported. -/
def toError (fault : FileFault) (words : Option String) : Error :=
  match fault with
  | notFound => ⟨.notFound, words.getD notFound.description⟩
  | _ => ⟨.io, "IOError: " ++ fault.description⟩

def missingFile : String := "No such file or directory (os error 2)"

end FileFault

/-- The names of directories from the working directory to a file or directory. Above the working
    directory they start with `..`, and from the root of all files with `/`. -/
abbrev Location := List String

def Location.enter (l : Location) (part : String) : Location :=
  if part = "" || part = "." then l
  else if part = ".." then
    if l = ["/"] then l else if l.all (· = "..") then l ++ [part] else l.dropLast
  else l ++ [part]

inductive FileEntry where
  | directory
  | file (text : Option String)
  deriving DecidableEq

structure FileStore where
  entries : List (Location × FileEntry) := []
  deriving DecidableEq

namespace FileStore

/-- What stands at a location. The working directory, the directories above it and the root are
    there without an entry. -/
def get? (s : FileStore) (l : Location) : Option FileEntry :=
  if l = ["/"] || l.all (· = "..") then some .directory else s.entries.lookup l

def put (s : FileStore) (l : Location) (e : FileEntry) : FileStore :=
  ⟨(l, e) :: s.entries⟩

def makeDirectories (s : FileStore) (l : Location) : FileStore :=
  (List.range l.length).foldl (fun s i => s.put (l.take (i + 1)) .directory) s

/-- Follows the parts of a path from a location. All but the last part must lead to directories. -/
def follow (s : FileStore) (l : Location) : List String → Except FileFault Location
  | [] => .ok l
  | part :: parts =>
    match s.get? l with
    | none => .error .notFound
    | some (.file _) => .error .notDirectory
    | some .directory => s.follow (l.enter part) parts

def pathParts (path : String) : List String :=
  let parts := (Text.splitOn '/' path.toList).map String.ofList
  match parts with
  | "" :: _ :: _ => "/" :: parts
  | parts => parts

def locate (s : FileStore) (path : String) : Except FileFault Location :=
  if path.isEmpty then .error .notFound else s.follow [] (pathParts path)

def holds (s : FileStore) (path : String) : Bool :=
  match s.locate path with
  | .ok l => (s.get? l).isSome
  | .error _ => false

def read (s : FileStore) (path : String) : Except FileFault String := do
  match s.get? (← s.locate path) with
  | none => .error .notFound
  | some .directory => .error .isDirectory
  | some (.file none) => .error .invalidData
  | some (.file (some text)) => .ok text

def namesDirectory (path : String) : Bool := (pathParts path).getLast? = some ""

/-- The location of a file that may be missing. Its directory must be there. -/
def locateFile (s : FileStore) (path : String) : Except FileFault Location :=
  if path.isEmpty then .error .notFound
  else if namesDirectory path then
    match s.follow [] ((pathParts path).reverse.dropWhile (· = "")).reverse with
    | .ok _ => .error .isDirectory
    | .error fault => .error fault
  else s.follow [] (pathParts path)

def write (s : FileStore) (path text : String) : Except FileFault FileStore := do
  let l ← s.locateFile path
  match s.get? l with
  | some .directory => .error .isDirectory
  | _ => .ok (s.put l (.file (some text)))

def place (s : FileStore) (path : String) (e : FileEntry) : FileStore :=
  let l := (pathParts path).foldl Location.enter []
  match e with
  | .directory => s.makeDirectories l
  | .file _ => (s.makeDirectories l.dropLast).put l e

def toError (fault : FileFault) : Error := fault.toError (some FileFault.missingFile)

end FileStore

end Crosslink
