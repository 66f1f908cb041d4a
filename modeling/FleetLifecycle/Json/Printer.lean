import FleetLifecycle.Json.Basic
import FleetLifecycle.Text.Digits

/-!
# Printing JSON

1. `quoted`, a string with its quotation marks: the mark itself, the backslash and the control
   characters are escaped, nothing else;
2. `compact`, a value on one line without white space;
3. `pretty`, a value over several lines, each level indented by two spaces; empty arrays and
   objects stay on one line.
-/

namespace FleetLifecycle
namespace Json

def escapeChar (c : Char) : List Char :=
  if c = '"' then ['\\', '"']
  else if c = '\\' then ['\\', '\\']
  else if c = '\x08' then ['\\', 'b']
  else if c = '\x0c' then ['\\', 'f']
  else if c = '\n' then ['\\', 'n']
  else if c = '\r' then ['\\', 'r']
  else if c = '\t' then ['\\', 't']
  else if c.toNat < 0x20 then
    ['\\', 'u', '0', '0', Text.hexDigit (Text.nibble (c.toNat / 16)),
      Text.hexDigit (Text.nibble c.toNat)]
  else [c]

def quoted (s : String) : List Char :=
  '"' :: s.toList.flatMap escapeChar ++ ['"']

mutual

def compactChars : Json → List Char
  | .null => ['n', 'u', 'l', 'l']
  | .bool true => ['t', 'r', 'u', 'e']
  | .bool false => ['f', 'a', 'l', 's', 'e']
  | .integer n => Text.decimalInt n
  | .real t => t.toList
  | .string s => quoted s
  | .array items => '[' :: compactItems items ++ [']']
  | .object entries => '\x7b' :: compactEntries entries ++ ['\x7d']

def compactItems : List Json → List Char
  | [] => []
  | [v] => compactChars v
  | v :: items => compactChars v ++ ',' :: compactItems items

def compactEntries : List (String × Json) → List Char
  | [] => []
  | [(k, v)] => quoted k ++ ':' :: compactChars v
  | (k, v) :: entries => quoted k ++ ':' :: compactChars v ++ ',' :: compactEntries entries

end

/-- A line break and the indentation of a level. -/
def newline (level : Nat) : List Char :=
  '\n' :: List.replicate (2 * level) ' '

mutual

/-- A value over several lines; `level` is the indentation of the line it begins on. -/
def prettyChars (level : Nat) : Json → List Char
  | .array [] => ['[', ']']
  | .array (v :: items) =>
    '[' :: prettyItems (level + 1) (v :: items) ++ newline level ++ [']']
  | .object [] => ['\x7b', '\x7d']
  | .object (e :: entries) =>
    '\x7b' :: prettyEntries (level + 1) (e :: entries) ++ newline level ++ ['\x7d']
  | .null => ['n', 'u', 'l', 'l']
  | .bool true => ['t', 'r', 'u', 'e']
  | .bool false => ['f', 'a', 'l', 's', 'e']
  | .integer n => Text.decimalInt n
  | .real t => t.toList
  | .string s => quoted s

def prettyItems (level : Nat) : List Json → List Char
  | [] => []
  | [v] => newline level ++ prettyChars level v
  | v :: items => newline level ++ prettyChars level v ++ ',' :: prettyItems level items

def prettyEntries (level : Nat) : List (String × Json) → List Char
  | [] => []
  | [(k, v)] => newline level ++ quoted k ++ ':' :: ' ' :: prettyChars level v
  | (k, v) :: entries =>
    newline level ++ quoted k ++ ':' :: ' ' :: prettyChars level v ++
      ',' :: prettyEntries level entries

end

/-- A value on one line, without white space. -/
def compact (v : Json) : String :=
  String.ofList (compactChars v)

/-- A value over several lines, indented by two spaces a level. -/
def pretty (v : Json) : String :=
  String.ofList (prettyChars 0 v)

end Json
end FleetLifecycle
