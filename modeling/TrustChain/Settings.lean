import TrustChain.Record

/-!
# Settings

What governs path building and validation. A setting that is absent, or whose value is not of the
type it should have, takes its default. The time of interest is the one setting whose default is not
fixed: it is the current time, which whoever asks for it supplies. Zero stands for no time at all
and disables validity checks.
-/

namespace TrustChain

inductive SettingValue where
  | bool (value : Bool)
  | u8 (value : UInt8)
  | u64 (value : UInt64)
  deriving DecidableEq

structure Settings where
  record : Record SettingValue
  deriving DecidableEq

namespace Settings

def empty : Settings := ⟨Record.empty⟩

/-! ### Names of settings -/

def timeOfInterestName : String := "psTimeOfInterest"

def enforceTrustAnchorValidityName : String := "psEnforceTrustAnchorValidity"

def enforceTrustAnchorConstraintsName : String := "psEnforceTrustAnchorConstraints"

def enforceBasicConstraintsName : String := "psEnforceBasicConstraints"

def initialPathLengthName : String := "psInitialPathLengthConstraint"

def filterWhenBuildingName : String := "psUseValidatorFilterWhenBuilding"

/-! ### Reading -/

def flag (settings : Settings) (name : String) (default : Bool) : Bool :=
  match settings.record.get? name with
  | some (.bool value) => value
  | _ => default

/-- The time of interest, where the settings state one. -/
def statedTime? (settings : Settings) : Option UInt64 :=
  match settings.record.get? timeOfInterestName with
  | some (.u64 value) => some value
  | _ => none

/-- The time at which certificates have to be valid, given the current time. -/
def timeOfInterest (settings : Settings) (now : UInt64) : UInt64 :=
  settings.statedTime?.getD now

/-- Whether the validity of the trust anchor is checked as well. -/
def enforceTrustAnchorValidity (settings : Settings) : Bool :=
  settings.flag enforceTrustAnchorValidityName true

/-- Whether the trust anchor's own path length constraint counts. -/
def enforceTrustAnchorConstraints (settings : Settings) : Bool :=
  settings.flag enforceTrustAnchorConstraintsName false

/-- Whether intermediates need to be entitled to issue certificates. -/
def enforceBasicConstraints (settings : Settings) : Bool :=
  settings.flag enforceBasicConstraintsName true

/-- Whether the search for a path checks signatures or goes by names alone. -/
def filterWhenBuilding (settings : Settings) : Bool :=
  settings.flag filterWhenBuildingName true

/-- The longest path allowed when nothing is said. -/
def maxPathLength : UInt8 := 15

/-- How many intermediates that are not self-issued a path may have. -/
def initialPathLength (settings : Settings) : UInt8 :=
  match settings.record.get? initialPathLengthName with
  | some (.u8 value) => value
  | _ => maxPathLength

/-! ### Writing -/

def set (settings : Settings) (name : String) (value : SettingValue) : Settings :=
  ⟨settings.record.insert name value⟩

def setTimeOfInterest (settings : Settings) (time : UInt64) : Settings :=
  settings.set timeOfInterestName (.u64 time)

def setEnforceTrustAnchorValidity (settings : Settings) (value : Bool) : Settings :=
  settings.set enforceTrustAnchorValidityName (.bool value)

def setEnforceTrustAnchorConstraints (settings : Settings) (value : Bool) : Settings :=
  settings.set enforceTrustAnchorConstraintsName (.bool value)

def setEnforceBasicConstraints (settings : Settings) (value : Bool) : Settings :=
  settings.set enforceBasicConstraintsName (.bool value)

def setInitialPathLength (settings : Settings) (value : UInt8) : Settings :=
  settings.set initialPathLengthName (.u8 value)

def setFilterWhenBuilding (settings : Settings) (value : Bool) : Settings :=
  settings.set filterWhenBuildingName (.bool value)

/-- States the time of interest, so that the clock is not asked again. -/
def pin (settings : Settings) (now : UInt64) : Settings :=
  settings.setTimeOfInterest (settings.timeOfInterest now)

end Settings

end TrustChain
