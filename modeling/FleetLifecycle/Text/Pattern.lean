import FleetLifecycle.Text.Alphanumeric
import FleetLifecycle.Text.Digits

/-!
# Pattern — the texts that are regular expressions

A regular expression is made of characters, anchors, classes in brackets and groups, with bars
between alternatives and `*`, `+` or `?` after what is repeated.  This file decides whether a text
is one; it does not match anything.

Two parts of the usual language are missing: repetition by a count in braces, and whatever needs a
table of characters, namely `\d`, `\s`, `\w`, `\p`, word boundaries and the flag that ignores case.

1. `escape?`, what follows a backslash;
2. `classRest?`, a class after its opening bracket;
3. `groupStart?`, what follows an opening parenthesis;
4. `isPattern`, the whole text.
-/

namespace FleetLifecycle
namespace Text

/-! ## Escapes -/

/-- The character of a number in hexadecimal digits, of which there are exactly `count`. -/
def hexChar? (count : Nat) (cs : List Char) : Option (Char × List Char) := do
  let digits ← (cs.take count).mapM hexValue?
  let n := digits.foldl (fun n d => n * 16 + d.val) 0
  if digits.length = count ∧ n.isValidChar then return (Char.ofNat n, cs.drop count) else none

/-- What follows a backslash: a character that stands for itself, or none for an anchor. -/
def escape? (cs : List Char) : Option (Option Char × List Char) :=
  match cs with
  | [] => none
  | c :: rest =>
    let literal (c : Char) : Option (Option Char × List Char) := some (some c, rest)
    if c = 'x' then (hexChar? 2 rest).map (fun (c, rest) => (some c, rest))
    else if c = 'u' then (hexChar? 4 rest).map (fun (c, rest) => (some c, rest))
    else if c = 'U' then (hexChar? 8 rest).map (fun (c, rest) => (some c, rest))
    else if c = 'A' ∨ c = 'z' then some (none, rest)
    else if c = 'a' then literal '\x07'
    else if c = 'f' then literal '\x0c'
    else if c = 't' then literal '\t'
    else if c = 'n' then literal '\n'
    else if c = 'r' then literal '\r'
    else if c = 'v' then literal '\x0b'
    -- other letters and digits have no meaning, other signs stand for themselves
    else if 0x80 ≤ c.toNat ∨ c.isAlphanum ∨ c = '<' ∨ c = '>' then none
    else literal c

/-! ## Classes -/

def asciiClasses : List String :=
  ["alnum", "alpha", "ascii", "blank", "cntrl", "digit", "graph", "lower", "print", "punct",
    "space", "upper", "word", "xdigit"]

/-- The text after a named class, whose opening bracket has been taken. -/
def asciiClass? (cs : List Char) : Option (List Char) :=
  match cs with
  | ':' :: cs =>
    let cs := match cs with
      | '^' :: r => r
      | r => r
    let name := cs.takeWhile (· ≠ ':')
    match cs.drop name.length with
    | ':' :: ']' :: rest => if String.ofList name ∈ asciiClasses then some rest else none
    | _ => none
  | _ => none

/-- The text after the beginning of a class: a caret, and then hyphens or a closing bracket, which
stand for themselves here. -/
def classStart (cs : List Char) : List Char :=
  let cs := match cs with
    | '^' :: r => r
    | r => r
  match cs with
  | ']' :: r => r
  | r => r.dropWhile (· = '-')

def classChar? (cs : List Char) : Option (Char × List Char) :=
  match cs with
  | [] => none
  | '\\' :: rest =>
    match escape? rest with
    | some (some c, rest) => some (c, rest)
    | _ => none
  | c :: rest => some (c, rest)

/-- The text after a character of a class or a range of them, which must not be descending. -/
def classRange? (cs : List Char) : Option (List Char) := do
  let (first, rest) ← classChar? cs
  match rest with
  | '-' :: more =>
    -- a hyphen before a closing bracket or a further hyphen makes no range
    if more.head? = some ']' ∨ more.head? = some '-' then return rest
    else
      let (last, rest) ← classChar? more
      if first ≤ last then return rest else none
  | _ => return rest

/-- The text after a class and the `depth` classes around it.  The fuel bounds the parts of a class;
each takes at least one character. -/
def classRest? : Nat → Nat → List Char → Option (List Char)
  | 0, _, _ => none
  | fuel + 1, depth, cs =>
    match cs with
    | [] => none
    | ']' :: rest =>
      match depth with
      | 0 => some rest
      | depth + 1 => classRest? fuel depth rest
    | '[' :: rest =>
      match asciiClass? rest with
      | some rest => classRest? fuel depth rest
      | none => classRest? fuel (depth + 1) (classStart rest)
    -- operations on classes only join what stands around them
    | '&' :: '&' :: rest => classRest? fuel depth rest
    | '-' :: '-' :: rest => classRest? fuel depth rest
    | '~' :: '~' :: rest => classRest? fuel depth rest
    | cs => (classRange? cs).bind (classRest? fuel depth)

/-! ## Groups -/

/-- What an opening parenthesis begins. -/
inductive GroupStart where
  | group (name : Option (List Char))
  /-- Flags for what follows, without a group. -/
  | flags
  deriving DecidableEq, Repr

def isGroupName (cs : List Char) : Bool :=
  match cs with
  | [] => false
  | c :: rest =>
    (c = '_' || (isAlphanumeric c && !c.isDigit)) &&
      rest.all (fun c => c = '_' || c = '.' || c = '[' || c = ']' || isAlphanumeric c)

/-- Whether a text is a list of flags: each at most once, and not ending with the minus sign that
switches off what follows it. -/
def areFlags (cs : List Char) : Bool :=
  cs.all (fun c => "imsUuxR-".toList.contains c) && cs.eraseDups = cs &&
    cs.getLast? ≠ some '-' && !(cs.takeWhile (· ≠ '-')).contains 'i'

/-- The name of a group up to its closing bracket. -/
def namedGroup? (cs : List Char) : Option (GroupStart × List Char) :=
  let name := cs.takeWhile (· ≠ '>')
  match cs.drop name.length with
  | _ :: rest => if isGroupName name then some (.group (some name), rest) else none
  | [] => none

/-- What follows an opening parenthesis: a name, flags, or nothing special.  A group that only looks
ahead or behind is no part of the language. -/
def groupStart? (cs : List Char) : Option (GroupStart × List Char) :=
  match cs with
  | '?' :: 'P' :: '<' :: rest => namedGroup? rest
  | '?' :: '<' :: rest =>
    if rest.head? = some '=' ∨ rest.head? = some '!' then none else namedGroup? rest
  | '?' :: rest =>
    let flags := rest.takeWhile (fun c => c ≠ ':' && c ≠ ')')
    match rest.drop flags.length with
    | ':' :: rest => if areFlags flags then some (.group none, rest) else none
    | ')' :: rest => if areFlags flags ∧ flags ≠ [] then some (.flags, rest) else none
    | _ => none
  | rest => some (.group none, rest)

/-! ## The whole -/

structure PatternState where
  /-- Groups that are not closed yet. -/
  depth : Nat
  /-- Whether something stands before that can be repeated. -/
  repeatable : Bool
  names : List (List Char)

/-- Whether the rest of a text completes a regular expression.  The fuel bounds its parts; each
takes at least one character. -/
def completes : Nat → PatternState → List Char → Bool
  | 0, _, _ => false
  | fuel + 1, s, cs =>
    match cs with
    | [] => s.depth = 0
    | '(' :: rest =>
      match groupStart? rest with
      | some (.flags, rest) => completes fuel { s with repeatable := false } rest
      | some (.group none, rest) =>
        completes fuel { s with depth := s.depth + 1, repeatable := false } rest
      | some (.group (some name), rest) =>
        !s.names.contains name && completes fuel ⟨s.depth + 1, false, name :: s.names⟩ rest
      | none => false
    -- a closed group can be repeated as a whole
    | ')' :: rest => s.depth ≠ 0 && completes fuel ⟨s.depth - 1, true, s.names⟩ rest
    | '[' :: rest =>
      match classRest? (rest.length + 1) 0 (classStart rest) with
      | some rest => completes fuel { s with repeatable := true } rest
      | none => false
    | '\\' :: rest =>
      match escape? rest with
      | some (_, rest) => completes fuel { s with repeatable := true } rest
      | none => false
    | c :: rest =>
      if c = '|' then completes fuel { s with repeatable := false } rest
      else if c = '\x7b' then false
      else if c = '*' ∨ c = '+' ∨ c = '?' then
        -- a question mark after the sign asks for the shortest match
        let rest := if rest.head? = some '?' then rest.drop 1 else rest
        s.repeatable && completes fuel s rest
      else completes fuel { s with repeatable := true } rest

def isPattern (cs : List Char) : Bool :=
  completes (cs.length + 1) ⟨0, false, []⟩ cs

end Text
end FleetLifecycle
