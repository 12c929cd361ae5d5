/-
  `Quoted` — text between double quotes, as messages show it.

  A quote and a backslash are written after a backslash, the tab, line feed, carriage return and
  null as `\t`, `\n`, `\r` and `\0`, and any other character that a reader could not see,
  unprintable ones and marks that would join the character before them, as `\u` with its code
  point in braces. A single quote stands as it is.
-/
import SchemaCatalog.Text.GraphemeExtend
import SchemaCatalog.Text.Unprintable

namespace SchemaCatalog.Text

/-- The digits of `n` in base sixteen, lower case and without leading zeros. -/
def hexDigits (n : Nat) : List Char := Nat.toDigits 16 n

/-- What stands for `c` between quotes. -/
def quoteChar (c : Char) : List Char :=
  if c = '"' then ['\\', '"']
  else if c = '\\' then ['\\', '\\']
  else if c = '\t' then ['\\', 't']
  else if c = '\n' then ['\\', 'n']
  else if c = '\r' then ['\\', 'r']
  else if c = Char.ofNat 0 then ['\\', '0']
  else if isUnprintable c || isGraphemeExtend c then
    ['\\', 'u', Char.ofNat 0x7b] ++ hexDigits c.toNat ++ [Char.ofNat 0x7d]
  else [c]

/-- `s` between double quotes. -/
def quoted (s : String) : String :=
  String.ofList ('"' :: s.toList.flatMap quoteChar ++ ['"'])

/-- A text that may be absent: the quoted text as the argument of `Some`, or `None`. -/
def quotedOption : Option String → String
  | none => "None"
  | some s => "Some(" ++ quoted s ++ ")"

end SchemaCatalog.Text
