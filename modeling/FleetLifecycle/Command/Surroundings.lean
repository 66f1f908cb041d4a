import FleetLifecycle.Command.Paths
import FleetLifecycle.Settings.Reading
import FleetLifecycle.Zone.Library

/-!
# Surroundings — what the programs see of the machine they run on

1. `Surroundings`;
2. `Surroundings.usualPath` and `Surroundings.loadSettings`.
-/

namespace FleetLifecycle

structure Surroundings where
  files : FileSystem
  /-- Something stands at the path, whether or not it can be read. -/
  stands : String → Bool
  env : Variables
  /-- The home directory of the user, if it is known. -/
  home : Option String
  library : ZoneLibrary

namespace Surroundings

/-- The file in which settings are looked for unless another is named. -/
def usualPath (here : Surroundings) : String :=
  defaultSettingsPath here.env here.home

def loadSettings (here : Surroundings) (path : String) : Except SettingsError Settings :=
  Settings.load here.library.zones here.files path

end Surroundings
end FleetLifecycle
