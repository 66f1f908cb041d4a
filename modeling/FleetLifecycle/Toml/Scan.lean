import FleetLifecycle.Text.Digits

/-!
# Scanning settings text — lines, comments and repetition

A scanner splits something off the front of a text, or fails.

1. `Scan` and the scanners that all others are put together from;
2. spaces, line breaks, comments and the rest of a line;
3. `separated`, one or more things with a separator between them.
-/

namespace FleetLifecycle
namespace Toml

/-- Splits a value off the front of a text. -/
abbrev Scan (α : Type) : Type := List Char → Option (α × List Char)

def after (start : List Char) (cs : List Char) : Option (List Char) :=
  if cs.take start.length = start then some (cs.drop start.length) else none

def isSpace (c : Char) : Bool :=
  c = ' ' || c = '\t'

def skipSpaces (cs : List Char) : List Char :=
  cs.dropWhile isSpace

/-- A character that may stand in a line: a tab, a character from the space on, but no delete. -/
def isInline (c : Char) : Bool :=
  c = '\t' || (0x20 ≤ c.toNat && c.toNat ≠ 0x7F)

def newline : List Char → Option (List Char)
  | '\n' :: cs => some cs
  | '\r' :: '\n' :: cs => some cs
  | _ => none

def skipComment : List Char → List Char
  | '#' :: cs => cs.dropWhile isInline
  | cs => cs

/-- The text after the end of the line, where only a comment may precede the line break. -/
def endOfLine (cs : List Char) : Option (List Char) :=
  match skipComment (skipSpaces cs) with
  | [] => some []
  | cs => newline cs

/-- The text after spaces, line breaks and comments; a comment ends with a line break.  The fuel
is the number of characters. -/
def skipLines : Nat → List Char → List Char
  | 0, cs => cs
  | fuel + 1, cs =>
    let cs := skipSpaces cs
    match cs with
    | '#' :: rest =>
      match newline (rest.dropWhile isInline) with
      | some rest => skipLines fuel rest
      | none => cs
    | cs =>
      match newline cs with
      | some rest => skipLines fuel rest
      | none => cs

/-- The text after everything that may stand between the items of an array. -/
def skipBetween (cs : List Char) : List Char :=
  skipLines cs.length cs

/-- One or more things with a separator between them; where none follows a separator, the text
goes on from the separator.  The fuel bounds the number of things. -/
def separated {α : Type} (sep : Char) (item : Scan α) : Nat → Scan (List α)
  | 0, _ => none
  | fuel + 1, cs =>
    match item cs with
    | none => none
    | some (a, rest) =>
      match rest with
      | [] => some ([a], [])
      | c :: next =>
        if c = sep then
          match separated sep item fuel next with
          | some (as, rest) => some (a :: as, rest)
          | none => some ([a], c :: next)
        else some ([a], c :: next)

/-- One or more digits, with single underscores between them; the underscores do not count. -/
def digitRun (isDigit : Char → Bool) : Scan (List Char)
  | [] => none
  | c :: cs =>
    if isDigit c then
      match cs with
      | '_' :: cs => (digitRun isDigit cs).map (fun (ds, rest) => (c :: ds, rest))
      | cs =>
        match digitRun isDigit cs with
        | some (ds, rest) => some (c :: ds, rest)
        | none => some ([c], cs)
    else none

end Toml
end FleetLifecycle
