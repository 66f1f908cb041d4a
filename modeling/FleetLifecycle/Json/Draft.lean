import FleetLifecycle.Json.Number

/-!
# Drafts — the tree of a text before its values are judged

A reader that knows which fields it wants never looks inside the values it does not want, so it
does not mind what they hold.  A draft keeps what such a reader needs: the tree of a text that
follows the grammar of JSON, whatever its strings, its numbers and its nesting amount to.

1. `Draft`, a tree whose strings may hold a lone surrogate and whose numbers are literals;
2. `Draft.scan?`, the draft at the front of a text and the rest, and `Draft.ofText?`;
3. `Draft.value?`, the JSON value of a draft, nested at most `depthLimit` deep;
4. `Json.parse?`, the value of a whole text.
-/

namespace FleetLifecycle

inductive Draft where
  | null
  | bool (value : Bool)
  | number (literal : NumberLiteral)
  /-- A string; `none` if an escape in it is half of a surrogate pair. -/
  | string (value : Option String)
  | array (items : List Draft)
  | object (entries : List (Option String × Draft))
  deriving Repr, Inhabited

namespace Draft

def isSpace (c : Char) : Bool :=
  c = ' ' || c = '\n' || c = '\t' || c = '\r'

def skip (cs : List Char) : List Char :=
  cs.dropWhile isSpace

/-! ## Strings -/

def hex4? : List Char → Option (Nat × List Char)
  | a :: b :: c :: d :: rest => do
    let a ← Text.hexValue? a
    let b ← Text.hexValue? b
    let c ← Text.hexValue? c
    let d ← Text.hexValue? d
    return (a.val * 4096 + b.val * 256 + c.val * 16 + d.val, rest)
  | _ => none

def shortEscape? (c : Char) : Option Char :=
  if c = '"' then some '"'
  else if c = '\\' then some '\\'
  else if c = '/' then some '/'
  else if c = 'b' then some '\x08'
  else if c = 'f' then some '\x0c'
  else if c = 'n' then some '\n'
  else if c = 'r' then some '\r'
  else if c = 't' then some '\t'
  else none

/-- One unit of a string: a character, or an escape for a number of 16 bits. -/
inductive Unit16 where
  | char (c : Char)
  | escaped (n : Nat)
  deriving DecidableEq, Repr

/-- The units of a string up to its closing quotation mark, and the text after that.  A control
character, an unknown escape and a missing quotation mark are faults.  The fuel is the number of
characters. -/
def units? : Nat → List Char → Option (List Unit16 × List Char)
  | 0, _ => none
  | _ + 1, [] => none
  | fuel + 1, c :: cs =>
    if c = '"' then some ([], cs)
    else if c = '\\' then
      match cs with
      | [] => none
      | e :: rest =>
        if e = 'u' then
          match hex4? rest with
          | some (n, rest) => (units? fuel rest).map (fun (us, r) => (.escaped n :: us, r))
          | none => none
        else
          match shortEscape? e with
          | some d => (units? fuel rest).map (fun (us, r) => (.char d :: us, r))
          | none => none
    -- control characters stand in a string only as escapes
    else if c.toNat < 0x20 then none
    else (units? fuel cs).map (fun (us, r) => (.char c :: us, r))

/-- The characters of a list of units: a high and a low surrogate in a row are one character, a
surrogate elsewhere is none. -/
def characters? : List Unit16 → Option (List Char)
  | [] => some []
  | .char c :: us => (characters? us).map (c :: ·)
  | .escaped n :: us =>
    if n < 0xD800 ∨ 0xDFFF < n then (characters? us).map (Char.ofNat n :: ·)
    -- a low surrogate without a high one before it
    else if 0xDC00 ≤ n then none
    else
      match us with
      | .escaped m :: rest =>
        if 0xDC00 ≤ m ∧ m ≤ 0xDFFF then
          (characters? rest).map
            (Char.ofNat (0x10000 + (n - 0xD800) * 1024 + (m - 0xDC00)) :: ·)
        else none
      | _ => none

/-- A string after its opening quotation mark. -/
def text? (cs : List Char) : Option (Option String × List Char) :=
  (units? (cs.length + 1) cs).map (fun (us, rest) => ((characters? us).map String.ofList, rest))

/-! ## Values -/

/-- The text after a given word, if the text begins with it. -/
def word? (word : List Char) (cs : List Char) : Option (List Char) :=
  if cs.take word.length = word then some (cs.drop word.length) else none

def scalar? (cs : List Char) : Option (Draft × List Char) :=
  match cs with
  | [] => none
  | c :: rest =>
    if c = '"' then (text? rest).map (fun (s, rest) => (.string s, rest))
    else if c = 'n' then (word? ['u', 'l', 'l'] rest).map (.null, ·)
    else if c = 't' then (word? ['r', 'u', 'e'] rest).map (.bool true, ·)
    else if c = 'f' then (word? ['a', 'l', 's', 'e'] rest).map (.bool false, ·)
    else (NumberLiteral.scan? cs).map (fun (lit, rest) => (.number lit, rest))

mutual

/-- The draft at the front of a text, and the rest.  The fuel bounds the nesting of calls, of which
there are at most two for each character. -/
def scan? : Nat → List Char → Option (Draft × List Char)
  | 0, _ => none
  | fuel + 1, cs =>
    match skip cs with
    | '[' :: rest =>
      match skip rest with
      | ']' :: rest => some (.array [], rest)
      | rest => (scanItems? fuel rest).map (fun (items, rest) => (.array items, rest))
    | '\x7b' :: rest =>
      match skip rest with
      | '\x7d' :: rest => some (.object [], rest)
      | rest => (scanEntries? fuel rest).map (fun (entries, rest) => (.object entries, rest))
    | rest => scalar? rest

def scanItems? : Nat → List Char → Option (List Draft × List Char)
  | 0, _ => none
  | fuel + 1, cs => do
    let (item, rest) ← scan? fuel cs
    match skip rest with
    | ',' :: rest =>
      let (items, rest) ← scanItems? fuel rest
      return (item :: items, rest)
    | ']' :: rest => return ([item], rest)
    | _ => none

def scanEntries? : Nat → List Char → Option (List (Option String × Draft) × List Char)
  | 0, _ => none
  | fuel + 1, cs =>
    match skip cs with
    | '"' :: rest => do
      let (key, rest) ← text? rest
      match skip rest with
      | ':' :: rest =>
        let (value, rest) ← scan? fuel rest
        match skip rest with
        | ',' :: rest =>
          let (entries, rest) ← scanEntries? fuel rest
          return ((key, value) :: entries, rest)
        | '\x7d' :: rest => return ([(key, value)], rest)
        | _ => none
      | _ => none
    | _ => none

end

/-- The draft of a text that holds one, with nothing but white space around it. -/
def ofText? (s : String) : Option Draft :=
  match scan? (2 * s.length + 2) s.toList with
  | some (draft, rest) => if (skip rest).isEmpty then some draft else none
  | none => none

/-! ## From a draft to a value -/

/-- How many arrays and objects may stand inside one another. -/
def depthLimit : Nat := 127

mutual

/-- The value of a draft whose arrays and objects nest at most `depth` deep; `none` if they nest
deeper, a string holds a lone surrogate, or a number is too large. -/
def value? (depth : Nat) : Draft → Option Json
  | .null => some .null
  | .bool b => some (.bool b)
  | .number lit => lit.toJson?
  | .string s => s.map .string
  | .array items =>
    match depth with
    | 0 => none
    | depth + 1 => (values? depth items).map .array
  | .object entries =>
    match depth with
    | 0 => none
    | depth + 1 => (entries? depth entries).map .object

def values? (depth : Nat) : List Draft → Option (List Json)
  | [] => some []
  | d :: items => do
    let v ← value? depth d
    let vs ← values? depth items
    return v :: vs

def entries? (depth : Nat) : List (Option String × Draft) → Option (List (String × Json))
  | [] => some []
  | (key, d) :: entries => do
    let k ← key
    let v ← value? depth d
    let vs ← entries? depth entries
    return (k, v) :: vs

end

end Draft

def Json.parse? (s : String) : Option Json :=
  (Draft.ofText? s).bind (Draft.value? Draft.depthLimit)

end FleetLifecycle
