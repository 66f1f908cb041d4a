import FleetLifecycle.Toml.Node
import FleetLifecycle.Toml.Scalar

/-!
# Settings text — sections of entries

A text is a list of entries followed by sections, each a header and its entries.

1. `value`, a value with its parts: arrays run over lines, tables between braces stay on one;
2. `Section` and `sections`, the text cut into its sections;
3. `document?`, the value of a text.
-/

namespace FleetLifecycle
namespace Toml

/-! ## Values -/

/-- An entry: a key, an equals sign and a value, with spaces between them. -/
def entryOf (value : Scan Json) : Scan Line := fun cs => do
  let (names, cs) ← key cs
  let cs ← after ['='] cs
  let (v, cs) ← value (skipSpaces cs)
  match names.getLast? with
  | some last => return (⟨names.dropLast, last, v⟩, cs)
  | none => none

/-- The rest of an array, after its bracket. -/
def arrayOf (value : Scan Json) : Scan Json := fun cs =>
  let item : Scan Json := fun cs =>
    (value (skipBetween cs)).map (fun (v, rest) => (v, skipBetween rest))
  let (items, rest) := (separated ',' item (cs.length + 1) cs).getD ([], cs)
  -- one comma may follow the last item
  let rest := match items, rest with
    | _ :: _, ',' :: rest => rest
    | _, rest => rest
  (after [']'] (skipBetween rest)).map (fun rest => (.array items, rest))

/-- The rest of a table between braces, after the first brace. -/
def inlineTableOf (value : Scan Json) : Scan Json := fun cs => do
  let item : Scan Line := fun cs =>
    (entryOf value cs).map (fun (line, rest) => (line, skipSpaces rest))
  let (lines, rest) := (separated ',' item (cs.length + 1) cs).getD ([], cs)
  -- no comma may follow the last entry: it would still stand here
  let rest ← after ['\x7d'] (skipSpaces rest)
  let entries ← insertLines lines []
  return (.object (entriesToJson entries), rest)

/-- A value whose arrays and tables nest at most `depth` deep. -/
def value : Nat → Scan Json
  | 0, cs => scalar cs
  | depth + 1, cs =>
    match cs with
    | '[' :: rest => arrayOf (value depth) rest
    | '\x7b' :: rest => inlineTableOf (value depth) rest
    | cs => scalar cs

/-! ## Sections -/

inductive Header where
  | table (names : List String)
  | tables (names : List String)
  deriving DecidableEq, Repr

structure Section where
  header : Header
  lines : List Line

def header : Scan Header := fun cs =>
  -- double brackets first, since they begin like single ones
  match after ['[', '['] cs with
  | some rest => do
    let (names, rest) ← key rest
    let rest ← after [']', ']'] rest
    let rest ← endOfLine rest
    return (.tables names, rest)
  | none => do
    let rest ← after ['['] cs
    let (names, rest) ← key rest
    let rest ← after [']'] rest
    let rest ← endOfLine rest
    return (.table names, rest)

def line : Scan Line := fun cs => do
  let (line, rest) ← entryOf (value nestingLimit) cs
  let rest ← endOfLine rest
  return (line, rest)

/-- The entries before the first header, and the sections.  The fuel bounds the number of lines. -/
def sections : Nat → List Char → Option (List Line × List Section)
  | 0, _ => none
  | fuel + 1, cs =>
    match skipSpaces cs with
    | [] => some ([], [])
    | c :: rest =>
      if c = '#' then
        match endOfLine (c :: rest) with
        | some rest => sections fuel rest
        | none => none
      else if c = '[' then do
        let (h, rest) ← header (c :: rest)
        let (lines, more) ← sections fuel rest
        return ([], ⟨h, lines⟩ :: more)
      else
        -- an empty line, or else an entry
        match newline (c :: rest) with
        | some rest => sections fuel rest
        | none => do
          let (l, rest) ← line (c :: rest)
          let (lines, more) ← sections fuel rest
          return (l :: lines, more)

/-- The text without the byte-order mark that may begin it. -/
def skipMark : List Char → List Char
  | '\uFEFF' :: cs => cs
  | cs => cs

def Section.addTo (root : Table) (s : Section) : Option Table :=
  match s.header with
  | .table names => do
    let last ← names.getLast?
    insertTable names.dropLast last s.lines root
  | .tables names => do
    let last ← names.getLast?
    appendTable names.dropLast last s.lines root

/-- The value of a settings text: an object with an entry for each of its keys. -/
def document? (text : String) : Option Json := do
  let cs := skipMark text.toList
  let (lines, more) ← sections (cs.length + 1) cs
  let root ← insertLines lines []
  let root ← more.foldlM Section.addTo root
  return .object (entriesToJson root)

end Toml
end FleetLifecycle
