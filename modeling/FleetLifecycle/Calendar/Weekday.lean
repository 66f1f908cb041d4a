import FleetLifecycle.Text.Digits

/-!
# Weekdays — numbered from Sunday, as policy tags number them

1. `Weekday`, with `index`, `ofIndex?` and `next`;
2. `isWorkday`, Monday to Friday;
3. `shortName` and `ofName?`, the names of a day.
-/

namespace FleetLifecycle

inductive Weekday where
  | sunday
  | monday
  | tuesday
  | wednesday
  | thursday
  | friday
  | saturday
  deriving DecidableEq, Repr

namespace Weekday

def all : List Weekday :=
  [.sunday, .monday, .tuesday, .wednesday, .thursday, .friday, .saturday]

/-- The number of a day, 0 for Sunday. -/
def index : Weekday → Nat
  | .sunday => 0
  | .monday => 1
  | .tuesday => 2
  | .wednesday => 3
  | .thursday => 4
  | .friday => 5
  | .saturday => 6

def ofIndex? (n : Nat) : Option Weekday :=
  all[n]?

def next : Weekday → Weekday
  | .sunday => .monday
  | .monday => .tuesday
  | .tuesday => .wednesday
  | .wednesday => .thursday
  | .thursday => .friday
  | .friday => .saturday
  | .saturday => .sunday

def isWorkday : Weekday → Bool
  | .saturday => false
  | .sunday => false
  | _ => true

def shortName : Weekday → String
  | .sunday => "Sun"
  | .monday => "Mon"
  | .tuesday => "Tue"
  | .wednesday => "Wed"
  | .thursday => "Thu"
  | .friday => "Fri"
  | .saturday => "Sat"

def longName : Weekday → String
  | .sunday => "Sunday"
  | .monday => "Monday"
  | .tuesday => "Tuesday"
  | .wednesday => "Wednesday"
  | .thursday => "Thursday"
  | .friday => "Friday"
  | .saturday => "Saturday"

/-- The day of a short or full name, in letters of either case. -/
def ofName? (name : String) : Option Weekday :=
  let wanted := Text.lowerAscii name
  all.find? (fun d => Text.lowerAscii d.shortName = wanted || Text.lowerAscii d.longName = wanted)

@[simp]
theorem ofIndex?_index (d : Weekday) : ofIndex? d.index = some d := by
  cases d <;> rfl

theorem index_lt (d : Weekday) : d.index < 7 := by
  cases d <;> decide

theorem index_next (d : Weekday) : d.next.index = (d.index + 1) % 7 := by
  cases d <;> rfl

end Weekday
end FleetLifecycle
