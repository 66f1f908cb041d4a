import FleetLifecycle.Text.Blank
import FleetLifecycle.Zone.Basic

/-!
# Zones by name

Settings name their zone as the IANA database does.  Names are case sensitive; blanks around them
do not count.

1. `Zone.fixed`, a zone whose offset never changes, and `Zone.utc`;
2. `Zone.readIn?`, which looks a name up in a table of zones;
3. `Zone.readIn`, which reports an unknown name as it was given.
-/

namespace FleetLifecycle
namespace Zone

def fixed (name : String) (offset : Int) : Zone :=
  ⟨name, offset, []⟩

def utc : Zone := fixed "UTC" 0

def named? (zones : List Zone) (name : String) : Option Zone :=
  zones.find? (fun z => z.name = name)

/-- The zone in a table of a name with blanks around it. -/
def readIn? (zones : List Zone) (name : String) : Option Zone :=
  named? zones (Text.trim name)

def unknownMessage (name : String) : String :=
  "Unknown timezone '" ++ name ++ "': failed to parse timezone"

def readIn (zones : List Zone) (name : String) : Except String Zone :=
  match readIn? zones name with
  | some z => .ok z
  | none => .error (unknownMessage name)

end Zone
end FleetLifecycle
