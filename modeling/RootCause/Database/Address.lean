import RootCause.Files.Tree
import RootCause.Json.Parser

/-!
Addresses of databases: an optional scheme, a path in percent encoding, and options.
-/

namespace RootCause

/-- Where a database is. A database that may only be read has to be there. -/
structure DatabaseAddress where
  inMemory : Bool
  path : String
  readOnly : Bool
deriving DecidableEq

namespace DatabaseAddress

/-- Drops a start as often as it is there, `most` times at most. -/
def dropAll (start : List Char) : (most : Nat) → List Char → List Char
  | 0, cs => cs
  | most + 1, cs =>
    if start.isPrefixOf cs then dropAll start most (cs.drop start.length) else cs

/-- A text without its scheme. -/
def dropScheme (cs : List Char) : List Char :=
  let cs := dropAll "sqlite:".toList cs.length cs
  dropAll "//".toList cs.length cs

/-- The bytes of a text in which a percent sign and two hexadecimal digits stand for one. -/
def percentDecoded : List Char → List UInt8
  | [] => []
  | '%' :: a :: b :: rest =>
    match Json.hexDigit? a, Json.hexDigit? b with
    | some high, some low => UInt8.ofNat (16 * high + low) :: percentDecoded rest
    | _, _ => '%'.toUInt8 :: percentDecoded (a :: b :: rest)
  | c :: rest => (String.singleton c).toUTF8.toList ++ percentDecoded rest

def decoded? (text : String) : Option String :=
  (textOfBytes ⟨(percentDecoded text.toList).toArray⟩).toOption

/-- An option that the address names. -/
def withOption? (a : DatabaseAddress) (option : String) : Option DatabaseAddress :=
  let (name, value) := match option.splitOn "=" with
    | [] => ("", "")
    | name :: rest => (name, "=".intercalate rest)
  match name, value with
  | "mode", "ro" => some { a with readOnly := true }
  | "mode", "rw" | "mode", "rwc" => some a
  | "mode", "memory" => some { a with inMemory := true }
  | "cache", "private" | "cache", "shared" => some a
  | "immutable", "true" | "immutable", "1" => some { a with readOnly := true }
  | "immutable", "false" | "immutable", "0" => some a
  | _, _ => none

/-- Reads an address; none for an option that is not known and for a path that is no text. -/
def ofText? (text : String) : Option DatabaseAddress := do
  let cs := dropScheme text.toList
  let name := String.ofList (cs.takeWhile (· != '?'))
  let options := ((String.ofList (cs.dropWhile (· != '?'))).drop 1).toString.splitOn "&"
  let path ← if name = ":memory:" then some name else decoded? name
  (options.filter fun o => !o.isEmpty).foldlM withOption? ⟨name = ":memory:", path, false⟩

end DatabaseAddress

end RootCause
