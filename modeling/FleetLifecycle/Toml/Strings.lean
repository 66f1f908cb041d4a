import FleetLifecycle.Toml.Scan

/-!
# Strings and keys of settings text

A string stands between quotation marks, in which a backslash escapes, or between apostrophes, in
which nothing does.  Between three of either it may run over several lines; a line break right
after the opening marks does not count, and up to two marks may stand at the very end.

1. `unit`, `escape`, the characters inside a string;
2. `oneLine` and `manyLines`, the two lengths of a string for either mark;
3. `string`;
4. `simpleKey` and `key`, the names before an equals sign or between the brackets of a header.
-/

namespace FleetLifecycle
namespace Toml

def shortEscape? (c : Char) : Option Char :=
  if c = 'b' then some '\x08'
  else if c = 't' then some '\t'
  else if c = 'n' then some '\n'
  else if c = 'f' then some '\x0c'
  else if c = 'r' then some '\r'
  else if c = '"' then some '"'
  else if c = '\\' then some '\\'
  else none

/-- The character with the number that `width` hexadecimal digits write. -/
def numbered (width : Nat) (cs : List Char) : Option (Char × List Char) := do
  let digits ← (cs.take width).mapM Text.hexValue?
  let n := digits.foldl (fun n d => n * 16 + d.val) 0
  if digits.length = width ∧ n.isValidChar then some (Char.ofNat n, cs.drop width) else none

/-- The character of an escape, after its backslash. -/
def escape : Scan Char
  | [] => none
  | c :: cs =>
    if c = 'u' then numbered 4 cs
    else if c = 'U' then numbered 8 cs
    else (shortEscape? c).map (fun d => (d, cs))

/-- The text after the spaces and line breaks that a backslash at the end of a line removes.  The
fuel is the number of characters. -/
def skipFolded : Nat → List Char → List Char
  | 0, cs => cs
  | fuel + 1, cs =>
    let cs := skipSpaces cs
    match newline cs with
    | some rest => skipFolded fuel rest
    | none => cs

/-- What a backslash at the end of a line leaves of the text. -/
def lineFold (cs : List Char) : Option (List Char) :=
  (newline (skipSpaces cs)).map (fun rest => skipFolded rest.length rest)

def oneLine (mark : Char) (escapes : Bool) : Nat → Scan (List Char)
  | 0, _ => none
  | _ + 1, [] => none
  | fuel + 1, c :: cs =>
    if c = mark then some ([], cs)
    else if c = '\\' ∧ escapes then
      match escape cs with
      | some (d, rest) => (oneLine mark escapes fuel rest).map (fun (ds, r) => (d :: ds, r))
      | none => none
    else if isInline c then (oneLine mark escapes fuel cs).map (fun (ds, r) => (c :: ds, r))
    else none

def marks (mark : Char) (cs : List Char) : Nat × List Char :=
  ((cs.takeWhile (· = mark)).length, cs.dropWhile (· = mark))

/-- The rest of a string over several lines, after its opening marks and a first line break. -/
def manyLines (mark : Char) (escapes : Bool) : Nat → Scan (List Char)
  | 0, _ => none
  | _ + 1, [] => none
  | fuel + 1, c :: cs =>
    if c = mark then
      let (n, rest) := marks mark (c :: cs)
      if 3 ≤ n then
        -- three marks close the string, up to two more stand before them
        let inner := min (n - 3) 2
        some (List.replicate inner mark, List.replicate (n - 3 - inner) mark ++ rest)
      else (manyLines mark escapes fuel rest).map (fun (ds, r) => (List.replicate n mark ++ ds, r))
    else if c = '\\' ∧ escapes then
      match lineFold cs with
      | some rest => manyLines mark escapes fuel rest
      | none =>
        match escape cs with
        | some (d, rest) => (manyLines mark escapes fuel rest).map (fun (ds, r) => (d :: ds, r))
        | none => none
    else
      match newline (c :: cs) with
      | some rest => (manyLines mark escapes fuel rest).map (fun (ds, r) => ('\n' :: ds, r))
      | none =>
        if isInline c then (manyLines mark escapes fuel cs).map (fun (ds, r) => (c :: ds, r))
        else none

/-- A string between marks of one kind. -/
def marked (mark : Char) (escapes : Bool) (cs : List Char) : Option (List Char × List Char) :=
  match after [mark, mark, mark] cs with
  | some rest =>
    -- a line break right after the opening marks does not count
    let body := (newline rest).getD rest
    manyLines mark escapes (body.length + 1) body
  | none => oneLine mark escapes cs.length (cs.drop 1)

def string : Scan String
  | [] => none
  | c :: cs =>
    if c = '"' then (marked '"' true (c :: cs)).map (fun (ds, r) => (String.ofList ds, r))
    else if c = '\'' then (marked '\'' false (c :: cs)).map (fun (ds, r) => (String.ofList ds, r))
    else none

/-! ## Keys -/

def isBare (c : Char) : Bool :=
  c.isAlphanum || c = '-' || c = '_'

/-- One name: a string on one line, or bare characters. -/
def simpleKey : Scan String
  | [] => none
  | c :: cs =>
    if c = '"' then
      (oneLine '"' true (cs.length + 1) cs).map (fun (ds, r) => (String.ofList ds, r))
    else if c = '\'' then
      (oneLine '\'' false (cs.length + 1) cs).map (fun (ds, r) => (String.ofList ds, r))
    else
      match (c :: cs).takeWhile isBare with
      | [] => none
      | name => some (String.ofList name, (c :: cs).dropWhile isBare)

/-- How many names a key may have, and how deep values may nest. -/
def nestingLimit : Nat := 79

def spacedKey : Scan String := fun cs =>
  (simpleKey (skipSpaces cs)).map (fun (name, rest) => (name, skipSpaces rest))

def key : Scan (List String) := fun cs =>
  match separated '.' spacedKey (cs.length + 1) cs with
  | some (names, rest) => if names.length ≤ nestingLimit then some (names, rest) else none
  | none => none

end Toml
end FleetLifecycle
