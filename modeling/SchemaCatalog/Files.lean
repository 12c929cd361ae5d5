/-
  `Files` — the files that a program reads, as a value.

  A `Files` answers for every path with the bytes of a plain file or with the reason why there are
  none; nothing else is known of what lies behind it. Paths are texts with slashes.
-/
import SchemaCatalog.Text.Split
import SchemaCatalog.Text.Utf8

namespace SchemaCatalog

/-! ### Paths -/

namespace FilePath

/-- Whether a path starts at the root of the system. -/
def isAbsolute (path : String) : Bool := path.toList.head? = some '/'

/-- The segments of a path that lead somewhere: neither empty nor `.`. -/
def steps (path : String) : List String :=
  ((Text.split '/' path.toList).filter fun s => !s.isEmpty && s != ['.']).map String.ofList

/-- A path below `base`, unless it is absolute. -/
def join (base path : String) : String :=
  if isAbsolute path then path
  else if base.isEmpty then path
  else if base.toList.getLast? = some '/' then base ++ path
  else base ++ "/" ++ path

/-- A reversed path without the slashes and dot segments at its end, unless it is nothing but
slashes: that is the root of the system. -/
def dropIdle : List Char → List Char
  | [] => []
  | '/' :: rest => if rest.all (· = '/') then ['/'] else dropIdle rest
  | '.' :: '/' :: rest => dropIdle ('/' :: rest)
  | cs => cs

/-- The path of the directory that holds `path`, empty for the working directory; `none` for the
root of the system and for the empty path. -/
def parent (path : String) : Option String :=
  let whole := dropIdle path.toList.reverse
  if whole.all (· = '/') then none
  else some (String.ofList (dropIdle (whole.dropWhile (· != '/'))).reverse)

example : parent "conf/./a" = some "conf" ∧ parent "./a" = some "." ∧ parent "a" = some "" := by
  decide +kernel

end FilePath

/-! ### Reading -/

/-- Why a file cannot be read. -/
inductive ReadError where
  | notFound
  | notDirectory
  | isDirectory
  | nameTooLong
  | nulInName
  | notText
  /-- Any other reason, in words. -/
  | failed (reason : String)
deriving DecidableEq, Repr

/-- The wording of a read error. -/
def ReadError.message : ReadError → String
  | notFound => "No such file or directory (os error 2)"
  | notDirectory => "Not a directory (os error 20)"
  | isDirectory => "Is a directory (os error 21)"
  | nameTooLong => "File name too long (os error 36)"
  | nulInName => "file name contained an unexpected NUL byte"
  | notText => "stream did not contain valid UTF-8"
  | failed reason => reason

/-- The files that a program reads. -/
structure Files where
  /-- The bytes of the plain file at a path. -/
  read : (path : String) → Except ReadError Bytes

namespace Files

/-- Files that were read before, by their paths. -/
def ofReads (reads : List (String × Except ReadError Bytes)) : Files :=
  ⟨fun path => (reads.lookup path).getD (.error .notFound)⟩

/-- The bytes of a file that holds text. -/
def readText (files : Files) (path : String) : Except ReadError Bytes :=
  match files.read path with
  | .error e => .error e
  | .ok content => if (Utf8.decode content).isSome then .ok content else .error .notText

/-- Whether a path leads to a plain file. -/
def isFile (files : Files) (path : String) : Bool := (files.read path).isOk

end Files

end SchemaCatalog
