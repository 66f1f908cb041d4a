import FleetLifecycle.Text.Alphanumeric
import FleetLifecycle.Text.Blank
import FleetLifecycle.Text.Pattern
import FleetLifecycle.Text.Split

/-!
# Log filters — which messages are shown

A filter is a list of directives with commas between them.  A directive names a level, the
beginning of a target, a field that messages must have, or a span; of the directives that a
message meets, the most specific decides.

1. `LogLevel`, and `LogMessage`, what filters know of a message;
2. `LogRule` and `LogDirective`, and `LogDirective.read?`;
3. `LogFilter.read?` and `LogFilter.readLenient`, which passes over what it does not understand;
4. `LogFilter.shows`.
-/

namespace FleetLifecycle

/-- How much is shown, from nothing to everything. -/
inductive LogLevel where
  | off
  | error
  | warn
  | info
  | debug
  | trace
  deriving DecidableEq, Repr

namespace LogLevel

/-- The number of a level, greater for more messages. -/
def rank : LogLevel → Nat
  | .off => 0
  | .error => 1
  | .warn => 2
  | .info => 3
  | .debug => 4
  | .trace => 5

def ofRank? (n : Nat) : Option LogLevel :=
  [off, error, warn, info, debug, trace].find? (fun level => level.rank = n)

/-- The level of a number in decimal digits, which may follow a plus sign. -/
def ofNumber? (cs : List Char) : Option LogLevel :=
  let digits := match cs with
    | '+' :: ds => ds
    | ds => ds
  if digits.isEmpty || !Text.isDigits digits then none else ofRank? (Text.ofDigits digits)

def ofName? (cs : List Char) : Option LogLevel :=
  let name := Text.lowerAscii (String.ofList cs)
  if name = "off" then some .off
  else if name = "error" then some .error
  else if name = "warn" then some .warn
  else if name = "info" then some .info
  else if name = "debug" then some .debug
  else if name = "trace" then some .trace
  else ofNumber? cs

end LogLevel

/-- What filters know of a message: where it comes from, its level, and the names of its fields. -/
structure LogMessage where
  target : String
  level : LogLevel
  fields : List String
  deriving DecidableEq, Repr

/-- Messages are shown up to `level` if their target begins with `target` and they have a field
`field`, as far as these are given. -/
structure LogRule where
  target : Option String
  field : Option String
  level : LogLevel
  deriving DecidableEq, Repr

namespace LogRule

def meets (rule : LogRule) (m : LogMessage) : Bool :=
  rule.target.all (fun t => t.toList.isPrefixOf m.target.toList) &&
    rule.field.all (fun f => f ∈ m.fields)

/-- How many characters the target has, one more than that if there is one at all. -/
def reach (rule : LogRule) : Nat :=
  rule.target.elim 0 (fun t => t.length + 1)

/-- Whether a rule is at least as specific as another: it has a longer target, or one of the same
length and a field where the other has none.  Of two rules with fields the greater name goes
first. -/
def precedes (a b : LogRule) : Bool :=
  if a.reach ≠ b.reach then b.reach < a.reach
  else
    match a.field, b.field with
    | _, none => true
    | none, some _ => false
    | some f, some g => !(f < g)

end LogRule

/-- A part of a filter. -/
inductive LogDirective where
  | messages (rule : LogRule)
  /-- Messages within a span, or with a field of a certain value; the command has no spans. -/
  | span
  deriving DecidableEq, Repr

namespace LogDirective

/-- A character that a target may begin with. -/
def startsTarget (c : Char) : Bool :=
  Text.isAlphanumeric c || c = '_' || c = ':' || c = '-'

/-- A directive while it is read.  Where it is cut is found in `rest`, which has no blanks around
it; the parts are then taken from `whole` at the same counts, so that a blank in front moves
them. -/
structure Cut where
  whole : List Char
  position : Nat
  rest : List Char

namespace Cut

/-- A text before the first cut. -/
def start (cs : List Char) : Cut :=
  ⟨cs, 0, Text.trimChars cs⟩

def upTo (stop : Char → Bool) (cut : Cut) : List Char × Cut :=
  -- counted in the text without blanks, taken from the text with them
  let n := (cut.rest.takeWhile (fun c => !stop c)).length
  ((cut.whole.drop cut.position).take n, ⟨cut.whole, cut.position + n, cut.rest.drop n⟩)

def next (cut : Cut) : Cut :=
  ⟨cut.whole, cut.position + 1, cut.rest.drop 1⟩

def remainder (cut : Cut) : List Char :=
  cut.whole.drop cut.position

end Cut

/-- The level after an equals sign; none is every level. -/
def levelAfter? (cs : List Char) : Option LogLevel :=
  if cs.isEmpty then some .trace else LogLevel.ofName? cs

/-- What may follow the bracket that closes a span: nothing, or a level. -/
def afterSpan? (cut : Cut) : Option LogLevel :=
  match cut.rest with
  | [] => some .trace
  | '=' :: _ => levelAfter? cut.next.remainder
  | _ => none

/-- Digits, perhaps with a point among them, and an exponent after them. -/
def isDecimal (cs : List Char) : Bool :=
  let significand := cs.takeWhile (fun c => c.isDigit || c = '.')
  -- digits may be missing on one side of the point, but not on both
  let fits := significand.count '.' ≤ 1 && significand.any Char.isDigit
  match cs.drop significand.length with
  | [] => fits
  | c :: rest =>
    let digits := match rest with
      | '+' :: r => r
      | '-' :: r => r
      | r => r
    fits && (c = 'e' || c = 'E') && !digits.isEmpty && digits.all Char.isDigit

/-- Whether a text can be the value of a field: a number after a plus sign, or a regular
expression, which all other numbers are. -/
def isValue (cs : List Char) : Bool :=
  match cs with
  | '+' :: number =>
    isDecimal number ||
      Text.lowerAscii (String.ofList number) ∈ ["inf", "infinity", "nan"]
  | cs => Text.isPattern cs

/-- The directive for a target and the field between braces, which may have a value. -/
def ofField? (target : Option String) (field : List Char) (level : LogLevel) :
    Option LogDirective :=
  match Text.splitAll '=' field with
  | [name] =>
    if name.isEmpty then none else some (.messages ⟨target, some (String.ofList name), level⟩)
  | _ :: value :: _ => if isValue value then some .span else none
  | [] => none

/-- A span after its opening bracket: a name, or a field between braces after it. -/
def span? (target : Option String) (cut : Cut) : Option LogDirective :=
  let (name, cut) := cut.upTo (fun c => c = ']' || c = '\x7b')
  match cut.rest with
  | ']' :: _ => (afterSpan? cut.next).map (fun _ => .span)
  | '\x7b' :: _ =>
    let (field, cut) := cut.next.upTo (· = '\x7d')
    match cut.rest with
    | '\x7d' :: ']' :: _ => do
      let level ← afterSpan? cut.next.next
      let directive ← ofField? target field level
      return if name.isEmpty then directive else .span
    | _ => none
  | _ => none

/-- The directive in a text.  A name that is no level is a target with every level. -/
def read? (cs : List Char) : Option LogDirective :=
  let cut := Cut.start cs
  match cut.rest with
  | [] => none
  | '[' :: _ => span? none cut.next
  | c :: _ =>
    if !startsTarget c then none
    else
      let (name, after) := cut.upTo (fun c => c = '=' || c = '[')
      let target := some (String.ofList name)
      match after.rest with
      | [] =>
        -- a word by itself is a level, or else a target
        match LogLevel.ofName? cut.remainder with
        | some level => some (.messages ⟨none, none, level⟩)
        | none => some (.messages ⟨some (String.ofList cut.remainder), none, .trace⟩)
      | '=' :: _ =>
        (levelAfter? after.next.remainder).map (fun level => .messages ⟨target, none, level⟩)
      | _ => span? target after.next

end LogDirective

abbrev LogFilter : Type := List LogDirective

namespace LogFilter

/-- Errors only: what holds when no directive is given. -/
def errorsOnly : LogFilter := [.messages ⟨none, none, .error⟩]

/-- The directives, or errors only when there are none. -/
def orErrors (directives : List LogDirective) : LogFilter :=
  if directives.isEmpty then errorsOnly else directives

def parts (s : String) : List (List Char) :=
  (Text.splitAll ',' s.toList).filter (fun cs => !cs.isEmpty)

/-- The filter in a text, each part of which has to be a directive. -/
def read? (s : String) : Option LogFilter :=
  ((parts s).mapM LogDirective.read?).map orErrors

/-- The filter of those parts of a text that are directives. -/
def readLenient (s : String) : LogFilter :=
  orErrors ((parts s).filterMap LogDirective.read?)

/-- The filter of a variable, or of a level when the variable is not set or not a filter. -/
def choose (given : Option String) (level : String) : LogFilter :=
  match given.bind read? with
  | some f => f
  | none => readLenient level

/-- The rule that decides about a message: of those that it meets the most specific, of two equal
ones the later. -/
def ruleFor? (m : LogMessage) (filter : LogFilter) : Option LogRule :=
  let step (best : Option LogRule) (d : LogDirective) : Option LogRule :=
    match d with
    | .span => best
    | .messages rule =>
      -- `precedes` is not strict, so a later rule replaces an equal one
      if rule.meets m && best.all rule.precedes then some rule else best
  filter.foldl step none

def shows (filter : LogFilter) (m : LogMessage) : Bool :=
  (filter.ruleFor? m).any (fun rule => m.level.rank ≤ rule.level.rank)

end LogFilter
end FleetLifecycle
