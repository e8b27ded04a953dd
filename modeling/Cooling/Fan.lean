-- SUMMARY: What a scheduler can do with a fan of either kind.
import Cooling.Fan.Thinkpad
import Cooling.Fan.Pwm

/-!
# Fans

A fan is that of a ThinkPad or a PWM channel. A PWM channel has no watchdog and
nothing to depulse, so keeping its level for another cycle does nothing.
-/

namespace Cooling

inductive Fan where
  | thinkpad (fan : ThinkpadFan)
  | pwm (fan : PwmFan)
  deriving DecidableEq, Repr

namespace Fan

def path : Fan → String
  | thinkpad fan => fan.path
  | pwm fan => fan.path

/-- The level or mode found at the start. -/
def initialState : Fan → String
  | thinkpad fan => fan.initialLevel
  | pwm fan => fan.initialMode

def takeOver : Fan → Attempt Unit
  | thinkpad fan => fan.takeOver
  | pwm fan => fan.takeOver

def setSpeed (level : Level) : Fan → Attempt Fan
  | thinkpad fan => thinkpad <$> fan.setSpeed level
  | pwm fan => do
    fan.setSpeed level
    return pwm fan

/-- Called once in every cycle after the first, even if the level stays the same. -/
def keep (level : Level) : Fan → Attempt Fan
  | thinkpad fan => thinkpad <$> fan.keep level
  | pwm fan => return pwm fan

def restore : Fan → Attempt Unit
  | thinkpad fan => fan.restore
  | pwm fan => fan.restore

/-- The fan after an attempt to restore it, whatever came of that. -/
def restored : Fan → Fan
  | thinkpad fan => thinkpad fan.restored
  | pwm fan => pwm fan.restored

def release : Fan → Program Unit
  | thinkpad fan => fan.release
  | pwm fan => fan.release

end Fan

end Cooling
