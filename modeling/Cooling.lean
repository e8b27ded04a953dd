import Cooling.Machine.Run
import Cooling.Main
import Cooling.Proofs.Clock
import Cooling.Proofs.Cycles
import Cooling.Proofs.Watchdog
import Cooling.Proofs.Lifecycle
import Cooling.Proofs.Handles
import Cooling.Proofs.Custody
import Cooling.Proofs.Steering
import Cooling.Proofs.Schedule
import Cooling.Proofs.Footprint
import Cooling.Proofs.Readings
import Cooling.Proofs.Documents
import Cooling.Proofs.DutyCycle
import Cooling.Proofs.Depulsing
import Cooling.Proofs.Fields
import Cooling.Proofs.ThermalFile
import Cooling.Proofs.Calibration
import Cooling.Proofs.Building
import Cooling.Proofs.Validity
import Cooling.Proofs.LevelLines
import Cooling.Proofs.Lines
import Cooling.Proofs.StatusText
import Cooling.Proofs.HwmonFile
import Cooling.Proofs.Levels
import Cooling.Proofs.Resting
import Cooling.Proofs.Celsius
import Cooling.Proofs.Arming
import Cooling.Proofs.ModeCycles
import Cooling.Proofs.Backends
import Cooling.Proofs.Slices
