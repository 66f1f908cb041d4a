import FleetLifecycle.Text.Digits
import FleetLifecycle.Text.Split

/-!
# Cycle ids — 128 bits that tell one evaluation cycle from all others

An id is written as 32 hexadecimal digits in groups of 8, 4, 4, 4 and 12, with hyphens between
them.  It is read from that form, from the same between braces or after `urn:uuid:` in letters of
either case, and from 32 digits in a row.

1. `CycleId` and `CycleId.text`;
2. `CycleIdError`, what is wrong with a text: it is longer than any id, or else the first character
   that does not belong, or else the digits or groups that are too few or too many;
3. `CycleId.of?` and `CycleId.unwrap`, the four forms;
4. `CycleId.diagnose`, the error of a text that is no id, and `CycleId.read`.
-/

namespace FleetLifecycle

/-- An id: 32 hexadecimal digits. -/
structure CycleId where
  digits : List (Fin 16)
  length_eq : digits.length = 32
  deriving DecidableEq, Repr

namespace CycleId

/-- The digits in groups, with hyphens between them. -/
def grouped (cs : List Char) : List Char :=
  cs.take 8 ++ '-' :: (cs.drop 8).take 4 ++ '-' :: (cs.drop 12).take 4 ++
    '-' :: (cs.drop 16).take 4 ++ '-' :: cs.drop 20

def text (id : CycleId) : String :=
  String.ofList (grouped (id.digits.map Text.hexDigit))

end CycleId

inductive CycleIdError where
  /-- A character that is no hexadecimal digit and no hyphen; positions count bytes from zero. -/
  | character (c : Char) (position : Nat)
  /-- More bytes than any id has, or digits in a row, but not 32 of them. -/
  | length (found : Nat)
  | groupCount (found : Nat)
  | groupLength (group expected found : Nat)
  deriving DecidableEq, Repr

namespace CycleIdError

def message : CycleIdError → String
  | .character c position =>
    "invalid character: found " ++ String.ofList ['\x60', c, '\x60'] ++ " at " ++
      String.ofList (Text.decimal position)
  | .length found =>
    "invalid length: found " ++ String.ofList (Text.decimal found)
  | .groupCount found =>
    "invalid group count: expected 5, found " ++ String.ofList (Text.decimal found)
  | .groupLength group expected found =>
    "invalid group length in group " ++ String.ofList (Text.decimal group) ++ ": expected " ++
      String.ofList (Text.decimal expected) ++ ", found " ++ String.ofList (Text.decimal found)

end CycleIdError

namespace CycleId

def ofDigits? (cs : List Char) : Option CycleId :=
  match cs.mapM Text.hexValue? with
  | some digits => if h : digits.length = 32 then some ⟨digits, h⟩ else none
  | none => none

def ofGroups? (cs : List Char) : Option CycleId :=
  let digits := cs.filter (· ≠ '-')
  if cs = grouped digits then ofDigits? digits else none

/-- What may stand before the groups, in letters of either case. -/
def urn : List Char := "urn:uuid:".toList

/-- The groups of a text between braces or after `urn:uuid:`, and the position they begin at. -/
def unwrap (cs : List Char) : Option (List Char × Nat) :=
  if cs.head? = some '\x7b' ∧ cs.getLast? = some '\x7d' ∧ 1 < cs.length then
    some ((cs.drop 1).dropLast, 1)
  else if (cs.take urn.length).map Char.toLower = urn then some (cs.drop urn.length, urn.length)
  else none

/-- The id in a text of one of the four forms. -/
def of? (cs : List Char) : Option CycleId :=
  match unwrap cs with
  | some (inner, _) => ofGroups? inner
  -- without a frame, a hyphen tells groups from digits in a row
  | none => if '-' ∈ cs then ofGroups? cs else ofDigits? cs

def byteLength (cs : List Char) : Nat :=
  (String.ofList cs).utf8ByteSize

def bareLength : Nat := 32

def groupedLength : Nat := 36

/-- The number of bytes of the longest form, with `urn:uuid:` in front. -/
def maxLength : Nat := urn.length + groupedLength

/-- The part of a text in which faults are looked for. -/
structure Region where
  inner : List Char
  /-- The position that is reported of its first character. -/
  offset : Nat
  /-- Whether digits in a row may have been meant. -/
  mayBeBare : Bool
  deriving DecidableEq, Repr

/-- Where faults of a text are looked for.  A text that is as long as a form without a frame is
taken to be that form.  Within a frame, groups of the right length have positions of their own;
otherwise positions count from the beginning of the text. -/
def region (cs : List Char) : Region :=
  if byteLength cs = groupedLength then ⟨cs, 0, false⟩
  else if byteLength cs = bareLength then ⟨cs, 0, true⟩
  else
    match unwrap cs with
    | some (inner, offset) =>
      ⟨inner, if byteLength inner = groupedLength then 0 else offset, false⟩
    | none => ⟨cs, 0, true⟩

/-- The first character that is no hexadecimal digit and no hyphen. -/
def firstWrong (position : Nat) : List Char → Option CycleIdError
  | [] => none
  | c :: cs =>
    if c = '-' ∨ (Text.hexValue? c).isSome then firstWrong (position + c.utf8Size) cs
    else some (.character c position)

/-- The first group of a length other than its own; `last` is what is reported of the last one. -/
def firstWrongGroup (last : Nat) : Nat → List Nat → List Nat → CycleIdError
  | group, [expected], _ => .groupLength group expected last
  | group, expected :: more, found :: rest =>
    if found = expected then firstWrongGroup last (group + 1) more rest
    else .groupLength group expected found
  | group, _, _ => .groupCount group

def diagnose (cs : List Char) : CycleIdError :=
  let found := byteLength cs
  if maxLength < found then .length found
  else
    let r := region cs
    match firstWrong r.offset r.inner with
    | some e => e
    | none =>
      let hyphens := r.inner.count '-'
      if hyphens = 0 ∧ r.mayBeBare then .length found
      else if hyphens ≠ 4 then .groupCount (hyphens + 1)
      else
        let lengths := (Text.splitAll '-' r.inner).map List.length
        -- of the last group, everything after the first 24 bytes of the text is reported
        firstWrongGroup (found - 24) 0 [8, 4, 4, 4, 12] lengths

def read (s : String) : Except CycleIdError CycleId :=
  match of? s.toList with
  | some id => .ok id
  | none => .error (diagnose s.toList)

end CycleId
end FleetLifecycle
