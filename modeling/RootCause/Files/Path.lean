/-!
Paths of files: names separated by slashes.
-/

namespace RootCause

namespace Path

def isAbsolute (path : String) : Bool := path.startsWith "/"

/-- A path seen from a directory. An absolute path stays what it is. -/
def join (directory path : String) : String :=
  if isAbsolute path || directory.isEmpty then path
  else if directory.endsWith "/" then directory ++ path
  else directory ++ "/" ++ path

/-- The names of a path without empty ones. -/
def parts (path : String) : List String :=
  ((path.splitOn "/").filter fun name => !name.isEmpty)

/-- The name of what the path leads to; none where it ends in a step up. -/
def fileName? (path : String) : Option String :=
  match ((parts path).filter (· ≠ ".")).getLast? with
  | some ".." => none
  | name => name

/-- What stands behind the last point of the file name. A point that starts the name does
not count. -/
def extension? (path : String) : Option String :=
  match fileName? path with
  | none => none
  | some name =>
    match (name.splitOn ".").reverse with
    | last :: before :: rest => if rest.isEmpty && before.isEmpty then none else some last
    | _ => none

/-- Whether the extension is the given one, in any letter case. -/
def hasExtension (path extension : String) : Bool :=
  (extension? path).any fun e => e.toLower == extension

end Path

end RootCause
