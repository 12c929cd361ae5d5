/-
  `Split` — characters in pieces between separators.

  `split` cuts at every separator and keeps empty pieces, so it is undone by `join`; `trim` takes
  separators off both ends, and `after?` takes a given beginning off.
-/
namespace SchemaCatalog.Text

/-- The pieces between separators; one more than there are separators. -/
def split (sep : Char) : List Char → List (List Char)
  | [] => [[]]
  | c :: cs =>
    if c = sep then [] :: split sep cs
    else
      match split sep cs with
      | [] => [[c]]
      | piece :: rest => (c :: piece) :: rest

/-- The pieces with a separator between each two. -/
def join (sep : Char) : List (List Char) → List Char
  | [] => []
  | [piece] => piece
  | piece :: rest => piece ++ sep :: join sep rest

/-- What is left without separators at either end. -/
def trim (sep : Char) (cs : List Char) : List Char :=
  ((cs.dropWhile (· = sep)).reverse.dropWhile (· = sep)).reverse

/-- What follows `lead` in characters that start with it. -/
def after? : (lead cs : List Char) → Option (List Char)
  | [], cs => some cs
  | _ :: _, [] => none
  | l :: lead, c :: cs => if l = c then after? lead cs else none

end SchemaCatalog.Text
