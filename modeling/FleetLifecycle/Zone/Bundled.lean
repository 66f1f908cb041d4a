import FleetLifecycle.Zone.America
import FleetLifecycle.Zone.Europe
import FleetLifecycle.Zone.Library
import FleetLifecycle.Zone.Named
import FleetLifecycle.Zone.Pacific

/-!
# Bundled zones

Some zones of the IANA database come with the programs.  Two names of one place are two zones, each
known by its own name.

1. `Zone.named`, a zone under another name;
2. `ZoneLibrary.bundled`.
-/

namespace FleetLifecycle

def Zone.named (name : String) (z : Zone) : Zone :=
  ⟨name, z.first, z.changes⟩

namespace ZoneLibrary

open Zone

def bundled : ZoneLibrary where
  zones :=
    [utc, fixed "Etc/UTC" 0, fixed "Zulu" 0, fixed "GMT" 0, fixed "GMT0" 0, fixed "GMT+0" 0,
      fixed "Etc/GMT+12" (-43200), fixed "Etc/GMT-14" 50400, named "EST" panama,
      newYork, named "EST5EDT" newYork, losAngeles, panama, stJohns, saoPaulo, buenosAires,
      london, berlin, kyiv, named "Europe/Kiev" kyiv,
      kolkata, named "Asia/Calcutta" kolkata, kathmandu, tokyo, lordHowe, apia, kiritimati]
  localOffset := Zone.localOffset

end ZoneLibrary
end FleetLifecycle
