-- SUMMARY: Writing a level to the control file of a fan, and what a refusal means.
import Cooling.ControlFile

/-!
# Writing a level

A refusal for lack of permission means that fan control is not allowed at all:
the user is not root, or the kernel module was loaded without it. No retry mends
that, so it is a failure of the system. Any other error keeps its number.
-/

namespace Cooling.Fan

def notPermitted (path : String) : Failure :=
  .system s!"Permission denied on {path}. Fan control needs root, and thinkpad_acpi must be loaded with fan_control=1"

def levelRefused (path text : String) (e : OsError) : Failure :=
  if e.code? = some 1 ∨ e.code? = some 13 then notPermitted path
  else .io s!"Failed to set fan level \"{text}\" on {path}" e

/-- Writes the text of a level to a control file. -/
def writeLevel (path text : String) : Attempt Unit :=
  .ofProgram (ControlFile.write path text) (levelRefused path text)

end Cooling.Fan
