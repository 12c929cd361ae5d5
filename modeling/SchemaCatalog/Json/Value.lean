/-
  `Value` — documents, and how they are written.

  The members of an object keep the order they are given in. A free-form object, one whose members
  no record type fixes, has them in ascending order of their names with no name twice:
  `insertMember` keeps that order, a later member taking the place of an earlier one of its name,
  and `sorted` brings a whole document into it. `render` writes a document without blanks.
-/
import SchemaCatalog.Json.Number
import SchemaCatalog.Text.Utf8

namespace SchemaCatalog.Json

/-- A document. -/
inductive Value where
  | null
  | bool (value : Bool)
  | number (value : Number)
  | string (value : String)
  | array (items : List Value)
  | object (members : List (String × Value))
deriving Repr, Inhabited

namespace Value

mutual

/-- Equality of documents, member by member and in order. -/
def decEq : (a b : Value) → Decidable (a = b)
  | null, null => isTrue rfl
  | bool a, bool b => decidable_of_iff (a = b) (by simp)
  | number a, number b => decidable_of_iff (a = b) (by simp)
  | string a, string b => decidable_of_iff (a = b) (by simp)
  | array as, array bs =>
    match decEqItems as bs with
    | isTrue h => isTrue (by rw [h])
    | isFalse h => isFalse (by simpa using h)
  | object as, object bs =>
    match decEqMembers as bs with
    | isTrue h => isTrue (by rw [h])
    | isFalse h => isFalse (by simpa using h)
  | null, bool _ | null, number _ | null, string _ | null, array _ | null, object _
  | bool _, null | bool _, number _ | bool _, string _ | bool _, array _ | bool _, object _
  | number _, null | number _, bool _ | number _, string _ | number _, array _ | number _, object _
  | string _, null | string _, bool _ | string _, number _ | string _, array _ | string _, object _
  | array _, null | array _, bool _ | array _, number _ | array _, string _ | array _, object _
  | object _, null | object _, bool _ | object _, number _ | object _, string _
  | object _, array _ => isFalse (by simp)

/-- Equality of lists of documents. -/
def decEqItems : (as bs : List Value) → Decidable (as = bs)
  | [], [] => isTrue rfl
  | [], _ :: _ | _ :: _, [] => isFalse (by simp)
  | a :: as, b :: bs =>
    match decEq a b, decEqItems as bs with
    | isTrue h, isTrue h' => isTrue (by rw [h, h'])
    | isFalse h, _ => isFalse (by simp [h])
    | _, isFalse h => isFalse (by simp [h])

/-- Equality of lists of members. -/
def decEqMembers : (as bs : List (String × Value)) → Decidable (as = bs)
  | [], [] => isTrue rfl
  | [], _ :: _ | _ :: _, [] => isFalse (by simp)
  | (k, a) :: as, (l, b) :: bs =>
    match decEq a b, decEqMembers as bs with
    | isTrue h, isTrue h' =>
      if hk : k = l then isTrue (by rw [h, h', hk]) else isFalse (by simp [hk])
    | isFalse h, _ => isFalse (by simp [h])
    | _, isFalse h => isFalse (by simp [h])

end

instance : DecidableEq Value := decEq

/-- An integer as a document. -/
def natural (n : Nat) : Value := number (.integer n)

/-- Texts as a document. -/
def strings (texts : List String) : Value := array (texts.map string)

def isNull : Value → Bool
  | null => true
  | _ => false

/-- The text of a document that is one. -/
def text? : Value → Option String
  | string s => some s
  | _ => none

/-- The member `name` of a document that is an object with such a member. -/
def get? (name : String) : Value → Option Value
  | object members => members.lookup name
  | _ => none

/-- Adds a member to members in ascending order of their names, in place of one of its name. -/
def insertMember (name : String) (value : Value) :
    List (String × Value) → List (String × Value)
  | [] => [(name, value)]
  | (k, v) :: rest =>
    match compare name k with
    | .lt => (name, value) :: (k, v) :: rest
    | .eq => (name, value) :: rest
    | .gt => (k, v) :: insertMember name value rest

mutual

/-- The document with the members of every object in ascending order of their names; of several
members of one name the last is kept. -/
def sorted : Value → Value
  | array items => array (sortedItems items)
  | object members => object (sortedMembers [] members)
  | v => v

/-- The items of an array, each sorted. -/
def sortedItems : List Value → List Value
  | [] => []
  | v :: rest => v.sorted :: sortedItems rest

/-- The members of an object, added to the sorted members `done` one after the other. -/
def sortedMembers (done : List (String × Value)) :
    List (String × Value) → List (String × Value)
  | [] => done
  | (k, v) :: rest => sortedMembers (insertMember k v.sorted done) rest

end

/-! ### Writing -/

/-- What stands for a character between the quotes of a literal: a quote, a backslash and the
controls below U+0020 are escaped, nothing else is. -/
def escapeChar (c : Char) : List Char :=
  if c = '"' then ['\\', '"']
  else if c = '\\' then ['\\', '\\']
  else if c = '\n' then ['\\', 'n']
  else if c = '\r' then ['\\', 'r']
  else if c = '\t' then ['\\', 't']
  else if c.toNat = 0x08 then ['\\', 'b']
  else if c.toNat = 0x0C then ['\\', 'f']
  else if c.toNat < 0x10 then ['\\', 'u', '0', '0', '0', Nat.digitChar c.toNat]
  else if c.toNat < 0x20 then ['\\', 'u', '0', '0', '1', Nat.digitChar (c.toNat - 0x10)]
  else [c]

/-- The literal of a text. -/
def stringChars (s : String) : List Char := '"' :: (s.toList.flatMap escapeChar ++ ['"'])

/-- The braces around the members of an object. -/
def openBrace : Char := Char.ofNat 0x7b

/-- The closing one of them. -/
def closeBrace : Char := Char.ofNat 0x7d

mutual

/-- The characters of a document, without blanks. -/
def render : Value → List Char
  | null => ['n', 'u', 'l', 'l']
  | bool true => ['t', 'r', 'u', 'e']
  | bool false => ['f', 'a', 'l', 's', 'e']
  | number n => n.chars
  | string s => stringChars s
  | array [] => ['[', ']']
  | array (v :: rest) => '[' :: (v.render ++ renderItems rest)
  | object [] => [openBrace, closeBrace]
  | object ((k, v) :: rest) =>
    openBrace :: (stringChars k ++ ':' :: (v.render ++ renderMembers rest))

/-- The items after the first one, each after a comma, and the closing bracket. -/
def renderItems : List Value → List Char
  | [] => [']']
  | v :: rest => ',' :: (v.render ++ renderItems rest)

/-- The members after the first one, each after a comma, and the closing brace. -/
def renderMembers : List (String × Value) → List Char
  | [] => [closeBrace]
  | (k, v) :: rest => ',' :: (stringChars k ++ ':' :: (v.render ++ renderMembers rest))

end

/-- The text of a document. -/
def compact (v : Value) : String := String.ofList v.render

end Value

end SchemaCatalog.Json
