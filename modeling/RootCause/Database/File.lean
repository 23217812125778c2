import RootCause.Database.Address
import RootCause.Files.Disk
import RootCause.Json.Printer
import RootCause.Source.TableRows

/-!
Databases kept in files: a title line and the tables as a JSON object. An empty file is a
database without rows.
-/

namespace RootCause

namespace Tables

def empty : Tables := ⟨[], [], []⟩

/-- The first line of a database file. -/
def fileTitle : String := "analytics tables\n"

/-- The tables in the text of a database file. -/
def ofFileText? (text : String) : Option Tables :=
  if text.isEmpty then some empty
  else if text.startsWith fileTitle then
    (Json.ofText? (text.drop fileTitle.length).toString).bind fun j => ofJson? j.normalize
  else none

/-- The text of a database file with the given tables. -/
def fileText (tables : Json) : String := fileTitle ++ tables.text

/-- Opens a database. One in memory, and one without a path, has no rows. A missing file is
created unless the database may only be read; then it also has to hold tables. -/
def opened? {m : Type → Type} [Monad m] (disk : Disk m) (a : DatabaseAddress) :
    m (Option Tables) := do
  if a.inMemory || a.path.isEmpty then return some empty
  else
    match ← disk.readText a.path with
    | .ok text => return if a.readOnly && text.isEmpty then none else ofFileText? text
    | .error .notFound =>
      if a.readOnly then return none
      else return if ← disk.create a.path then some empty else none
    | .error _ => return none

end Tables

end RootCause
