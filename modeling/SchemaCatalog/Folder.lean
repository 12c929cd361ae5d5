/-
  `Folder` — a working directory with all that stands in it.

  `files` are the files that paths lead to from there. A path is walked segment by segment, `.` and `..`
  included, but not through a plain file. Above the working directory and below the root of the system
  there are directories only.
-/
import SchemaCatalog.Files

namespace SchemaCatalog

/-- What stands at a place. -/
inductive FileEntry where
  | file (content : Bytes)
  | directory
deriving DecidableEq, Repr

/-- What stands below the working directory, by the segments that lead there. -/
structure Folder where
  entries : List (List String × FileEntry)
deriving Repr, Inhabited

namespace Folder

/-- The entry for a path relative to the working directory. -/
def ofPaths (entries : List (String × FileEntry)) : Folder :=
  ⟨entries.map fun (path, entry) => (FilePath.steps path, entry)⟩

/-- What stands at the end of `place`: an entry of its own, or a directory on the way to one. -/
def at? (folder : Folder) (place : List String) : Option FileEntry :=
  match folder.entries.lookup place with
  | some entry => some entry
  | none =>
    if place.isEmpty || folder.entries.any fun (p, _) => place.isPrefixOf p then some .directory
    else none

/-- The bytes that the name of a file may have. -/
def maxNameBytes : Nat := 255

/-- The bytes that a path may have. -/
def maxPathBytes : Nat := 4095

/-- Where a walk has come to: a place below the working directory, or a directory outside it. -/
inductive Place where
  | inside (steps : List String)
  | outside
deriving DecidableEq, Repr

/-- Walks on from a place that is a directory. -/
def walk (folder : Folder) : Place → List String → Except ReadError Place
  | place, [] => .ok place
  | .outside, ".." :: rest => folder.walk .outside rest
  | .outside, _ :: _ => .error .notFound
  | .inside place, step :: rest =>
    let next : Place :=
      if step = ".." then
        if place.isEmpty then .outside else .inside place.dropLast
      else .inside (place ++ [step])
    if maxNameBytes < step.utf8ByteSize then .error .nameTooLong else
    match next with
    | .outside => folder.walk .outside rest
    | .inside place =>
      match folder.at? place with
      | none => .error .notFound
      | some .directory => folder.walk (.inside place) rest
      | some (.file _) => if rest.isEmpty then .ok (.inside place) else .error .notDirectory

/-- What a path leads to. A slash or a dot segment at its end asks for a directory. -/
def resolve (folder : Folder) (path : String) : Except ReadError FileEntry := do
  if path.isEmpty then throw .notFound
  if path.toList.contains (Char.ofNat 0) then throw .nulInName
  if maxPathBytes < path.utf8ByteSize then throw .nameTooLong
  let start : Place := if FilePath.isAbsolute path then .outside else .inside []
  let last := (Text.split '/' path.toList).getLast?.getD []
  match ← folder.walk start (FilePath.steps path) with
  | .outside => return .directory
  | .inside place =>
    match folder.at? place with
    | some (.file content) =>
      if last.isEmpty || last = ['.'] then throw .notDirectory else return .file content
    | some .directory => return .directory
    | none => throw .notFound

/-- The bytes of a file. -/
def read (folder : Folder) (path : String) : Except ReadError Bytes :=
  match folder.resolve path with
  | .error e => .error e
  | .ok .directory => .error .isDirectory
  | .ok (.file content) => .ok content

/-- The files of a folder. -/
def files (folder : Folder) : Files := ⟨folder.read⟩

end Folder

end SchemaCatalog
