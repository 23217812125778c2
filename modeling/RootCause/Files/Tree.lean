import RootCause.Files.Path

/-!
Files held in memory, and what reading a path among them gives.

A directory exists where a file lies below it; the root and the working directory always
exist.
-/

namespace RootCause

/-- Why a file has no text. -/
inductive ReadError where
  | notFound
  | isDirectory
  | notADirectory
  | invalidText
  | failed
deriving DecidableEq

def ReadError.message : ReadError → String
  | .notFound => "no such file"
  | .isDirectory => "is a directory"
  | .notADirectory => "not a directory"
  | .invalidText => "not a UTF-8 text"
  | .failed => "cannot be read"

/-- The text that bytes encode. -/
def textOfBytes (bytes : ByteArray) : Except ReadError String :=
  match String.fromUTF8? bytes with
  | some text => .ok text
  | none => .error .invalidText

/-- Files under the names from the root to them, and the working directory. -/
structure FileTree where
  workingDirectory : List String
  files : List (List String × ByteArray)

namespace FileTree

/-- What a place in the tree is. -/
inductive Node where
  | file (bytes : ByteArray)
  | directory
  | missing

def nodeAt (t : FileTree) (place : List String) : Node :=
  match t.files.lookup place with
  | some bytes => .file bytes
  | none =>
    if place.isEmpty || place.isPrefixOf t.workingDirectory ||
        t.files.any (fun f => place.isPrefixOf f.1) then .directory
    else .missing

/-- Follows names from a directory. A name can only be followed in a directory. -/
def resolve (t : FileTree) : (place : List String) → List String → Except ReadError (List String)
  | place, [] => .ok place
  | place, name :: rest =>
    match t.nodeAt place with
    | .file _ => .error .notADirectory
    | .missing => .error .notFound
    | .directory =>
      if name = "." then t.resolve place rest
      else if name = ".." then t.resolve place.dropLast rest
      else t.resolve (place ++ [name]) rest

/-- The place that a path leads to. A slash at its end asks for a directory. -/
def place (t : FileTree) (path : String) : Except ReadError (List String) :=
  let start := if Path.isAbsolute path then [] else t.workingDirectory
  if path.isEmpty then .error .notFound
  else t.resolve start (Path.parts path ++ if path.endsWith "/" then ["."] else [])

def read (t : FileTree) (path : String) : Except ReadError ByteArray := do
  let place ← t.place path
  match t.nodeAt place with
  | .file bytes => .ok bytes
  | .directory => .error .isDirectory
  | .missing => .error .notFound

/-- Whether a file that is missing could be created at a path. -/
def canCreate (t : FileTree) (path : String) : Bool :=
  match t.place path with
  | .error _ => false
  | .ok place =>
    match t.nodeAt place, t.nodeAt place.dropLast with
    | .missing, .directory => true
    | _, _ => false

/-- Puts a file at a path in the directory `base`. -/
def put (t : FileTree) (base : List String) (path : String) (bytes : ByteArray) : FileTree :=
  { t with files := (base ++ (Path.parts path).filter (· ≠ "."), bytes) :: t.files }

end FileTree

end RootCause
