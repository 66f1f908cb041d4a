import FleetLifecycle.Calendar.LocalTime
import FleetLifecycle.Decimal.Power
import FleetLifecycle.Text.Blank

/-!
# Reading dates and times

Dates and times are read field by field.  A field may be preceded by blanks and may have fewer
digits than its width; the year may be signed, and has more than four digits only with a sign.  A
field out of its range is reported where it stands, a date that its month does not have at the end.

1. `TimeTextError`, the causes and their wording;
2. `number`, `field`, `year`, `literal`, `fraction` and `offset`, pieces that give the rest of the
   text;
3. `LocalTime.read`, a wall-clock time `YYYY-MM-DD HH:MM:SS`;
4. `Instant.read`, an instant with its offset from UTC.
-/

namespace FleetLifecycle

inductive TimeTextError where
  | tooShort
  | invalid
  | outOfRange
  | tooLong
  /-- The local time is none of the offset's, since its instant would be out of range. -/
  | impossible
  deriving DecidableEq, Repr

namespace TimeTextError

def message : TimeTextError → String
  | .tooShort => "premature end of input"
  | .invalid => "input contains invalid characters"
  | .outOfRange => "input is out of range"
  | .tooLong => "trailing input"
  | .impossible => "no possible date and time matching input"

end TimeTextError

namespace TimeText

/-- The largest number that a field holds while it is read. -/
def maxNumber : Nat := signedBound - 1

/-- Further digits of a number, `width` at most; `none` is no bound. -/
def moreDigits (n : Nat) : Option Nat → List Char → Except TimeTextError (Nat × List Char)
  | some 0, cs => .ok (n, cs)
  | _, [] => .ok (n, [])
  | width, c :: cs =>
    if c.isDigit then
      let next := n * 10 + Text.digitValue c
      if maxNumber < next then .error .outOfRange
      else moreDigits next (width.map (· - 1)) cs
    else .ok (n, c :: cs)

def number (width : Option Nat) : List Char → Except TimeTextError (Nat × List Char)
  | [] => .error .tooShort
  | c :: cs =>
    if c.isDigit then moreDigits 0 width (c :: cs) else .error .invalid

def literal (wanted : Char) : List Char → Except TimeTextError (Unit × List Char)
  | [] => .error .tooShort
  | c :: cs => if c = wanted then .ok ((), cs) else .error .invalid

/-- A number of at most two digits within bounds, after blanks. -/
def field (low high : Nat) (cs : List Char) : Except TimeTextError (Nat × List Char) := do
  let (n, cs) ← number (some 2) (Text.trimStart cs)
  if low ≤ n ∧ n ≤ high then .ok (n, cs) else .error .outOfRange

/-- A year, after blanks: up to four digits, or a sign and any number of digits. -/
def year (cs : List Char) : Except TimeTextError (Int × List Char) := do
  let (n, cs) ← match Text.trimStart cs with
    | '-' :: cs => (number none cs).map (fun (n, cs) => (-(n : Int), cs))
    | '+' :: cs => (number none cs).map (fun (n, cs) => ((n : Int), cs))
    | cs => (number (some 4) cs).map (fun (n, cs) => ((n : Int), cs))
  if -(twoTo 31 : Int) ≤ n ∧ n < (twoTo 31 : Int) then .ok (n, cs) else .error .outOfRange

/-- The date, if its month has the day and its year is one that instants have. -/
def checkDate (d : Date) : Except TimeTextError Date :=
  if d.isValid ∧ firstYear ≤ d.year ∧ d.year ≤ lastYear then .ok d else .error .outOfRange

/-- A wall-clock time without the blanks around it. -/
def wallClock (cs : List Char) : Except TimeTextError LocalTime := do
  let (year, cs) ← year cs
  let (_, cs) ← literal '-' cs
  let (month, cs) ← field 1 12 cs
  let (_, cs) ← literal '-' cs
  let (day, cs) ← field 1 31 cs
  let (hour, cs) ← field 0 23 cs
  let (_, cs) ← literal ':' cs
  let (minute, cs) ← field 0 59 cs
  let (_, cs) ← literal ':' cs
  let (second, cs) ← field 0 60 cs
  if cs.isEmpty then
    let date ← checkDate ⟨year, month, day⟩
    return ⟨date, hour, minute, second, 0⟩
  else .error .tooLong

/-- A fraction of a second, if a point follows: nine digits count, more are passed over. -/
def fraction : List Char → Except TimeTextError (Nat × List Char)
  | '.' :: cs => do
    let (n, rest) ← number (some 9) cs
    -- missing digits are zeros at the end
    let used := cs.length - rest.length
    return (n * tenTo (9 - used), rest.dropWhile Char.isDigit)
  | cs => .ok (0, cs)

/-- Two characters of an offset; a lone ASCII character ends the text too early. -/
def pair : List Char → Except TimeTextError (Char × Char × List Char)
  | [] => .error .tooShort
  | [c] => if c.toNat < 0x80 then .error .tooShort else .error .invalid
  | a :: b :: cs => .ok (a, b, cs)

def sign : List Char → Except TimeTextError (Bool × List Char)
  | [] => .error .tooShort
  | c :: cs =>
    if c = '+' then .ok (false, cs)
    else if c = '-' ∨ c = '−' then .ok (true, cs)
    else .error .invalid

/-- An offset from UTC in seconds: the letter Z, the letters UTC, or a sign, two digits of hours
and two of minutes, with colons and blanks between them as one likes. -/
def offset (cs : List Char) : Except TimeTextError (Int × List Char) :=
  match cs with
  | c :: rest =>
    if (cs.take 3).map Char.toLower = ['u', 't', 'c'] then .ok (0, cs.drop 3)
    else if c = 'Z' ∨ c = 'z' then .ok (0, rest)
    else do
      let (negative, cs) ← sign cs
      let (a, b, cs) ← pair cs
      if a.isDigit ∧ b.isDigit then
        let hours := Text.ofDigits [a, b]
        let (a, b, cs) ← pair (cs.dropWhile (fun c => c = ':' || Text.isBlank c))
        if a.isDigit ∧ b.isDigit then
          if '6' ≤ a then .error .outOfRange
          else
            let seconds : Int := (hours * 3600 + Text.ofDigits [a, b] * 60 : Nat)
            return (if negative then -seconds else seconds, cs)
        else .error .invalid
      else .error .invalid
  | [] => .error .tooShort

def separator : List Char → Except TimeTextError (Unit × List Char)
  | [] => .error .tooShort
  | c :: cs => if c = 'T' ∨ c = 't' ∨ c = ' ' then .ok ((), cs) else .error .invalid

/-- An instant: date, separator, time of day with an optional fraction, and offset. -/
def instant (cs : List Char) : Except TimeTextError Instant := do
  let (year, cs) ← year cs
  let (_, cs) ← literal '-' (Text.trimStart cs)
  let (month, cs) ← field 1 12 cs
  let (_, cs) ← literal '-' (Text.trimStart cs)
  let (day, cs) ← field 1 31 cs
  let (_, cs) ← separator cs
  let (hour, cs) ← field 0 23 cs
  let (_, cs) ← literal ':' (Text.trimStart cs)
  let (minute, cs) ← field 0 59 cs
  let (_, cs) ← literal ':' (Text.trimStart cs)
  let (second, cs) ← field 0 60 cs
  let (nanos, cs) ← fraction cs
  let (offset, cs) ← offset (Text.trimStart cs)
  if (Text.trimStart cs).isEmpty then
    -- only now is the date as a whole checked
    let date ← checkDate ⟨year, month, day⟩
    if offset.natAbs < 86400 then
      let (seconds, nanos) := LocalTime.seconds ⟨date, hour, minute, second, nanos⟩
      match Instant.of? (seconds - offset) nanos with
      | some t => .ok t
      | none => .error .impossible
    else .error .outOfRange
  else .error .tooLong

end TimeText

/-- Reads a wall-clock time; blanks around it do not count. -/
def LocalTime.read (s : String) : Except TimeTextError LocalTime :=
  TimeText.wallClock (Text.trimChars s.toList)

def Instant.read (s : String) : Except TimeTextError Instant :=
  TimeText.instant s.toList

end FleetLifecycle
