import Soak.Number.Shortest

/-!
# What can be wrong before a run starts

The causes that stop a run while its configuration is read and its shared state is built.
Failures of the store during a run are no errors of this kind: they are counted.
-/

namespace Soak

/-- What can be wrong with the bands of a mutation policy. -/
inductive PolicyFault where
  /-- The band that always adds ends below zero. -/
  | negativeBand (alwaysAddMax : Int)
  /-- The mixed band ends before it begins. -/
  | bandsOutOfOrder (mixedMax alwaysAddMax : Int)
  /-- The probability is no number from zero to one. -/
  | probability (value : Binary64)
deriving DecidableEq, Repr

/-- What can be wrong with the numbers of a configuration. -/
inductive ConfigFault where
  /-- A negative highest counter. -/
  | negativeMaxItems
  /-- No time between the scans of the monitor. -/
  | zeroInterval
  /-- A highest counter that healthy runs exceed. -/
  | belowCeiling (maxItems ceiling : Int)
  /-- A text that names no action. -/
  | unknownAction (text : String)
deriving DecidableEq, Repr

/-- What stops a run before it starts. -/
inductive SetupError where
  /-- The containers cannot be shared out evenly. -/
  | unevenSplit (total workers : Nat)
  /-- There is nobody to work. -/
  | zeroWorkers
  /-- A counter that does not exist. -/
  | indexOutOfRange (index size : Nat)
  /-- A counter that belongs to another partition. -/
  | notOwned (index min max : Nat)
  /-- A percentage above one hundred. -/
  | percentage (value : Nat)
  /-- A policy whose bands make no sense. -/
  | policy (fault : PolicyFault)
  /-- A configuration whose numbers make no sense. -/
  | config (fault : ConfigFault)
  /-- A file that cannot be read. -/
  | io (text : String)
  /-- A JSON text that cannot be read or decoded. -/
  | malformed
deriving DecidableEq, Repr

/-- What stands in a message for the reason why a JSON text was refused: readers only
tell whether a text is accepted. -/
def jsonFault : String :=
  "<json>"

/-- The wording of a fault of a policy. -/
def PolicyFault.message : PolicyFault → String
  | negativeBand value => s!"always_add_max must be >= 0, got {value}"
  | bandsOutOfOrder mixed always =>
    s!"mixed_max ({mixed}) must be >= always_add_max ({always})"
  | probability value =>
    "add_probability must be within [0, 1], got " ++ Binary64.text Binary64.plain value

/-- The wording of a fault of a configuration. -/
def ConfigFault.message : ConfigFault → String
  | negativeMaxItems => "max_items_per_container must be >= 0"
  | zeroInterval => "monitor interval must be > 0"
  | belowCeiling maxItems ceiling =>
    s!"max_items_per_container ({maxItems}) is below the mutation policy ceiling ({ceiling})"
  | unknownAction text => "unknown action: " ++ text

/-- The wording of an error. -/
def SetupError.message : SetupError → String
  | unevenSplit total workers =>
    s!"{total} containers cannot be split evenly across {workers} workers"
  | zeroWorkers => "Worker count must be at least 1"
  | indexOutOfRange index size =>
    s!"Container index {index} out of range (registry size {size})"
  | notOwned index min max =>
    s!"Container index {index} is not owned by partition [{min}, {max}]"
  | percentage value => s!"Invalid percentage: {value} (expected 0..=100)"
  | policy fault => "Invalid mutation policy: " ++ fault.message
  | config fault => "Configuration error: " ++ fault.message
  | io text => "IO error: " ++ text
  | malformed => "Serialization error: " ++ jsonFault

end Soak
