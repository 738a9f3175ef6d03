import Mathlib.Data.Nat.Notation
import Mathlib.Data.List.Basic
import Mathlib.Tactic.IntervalCases

/-!
# Values shared by the controller and the agent

Unit and job states with their D-Bus spelling, the wildcard, the object paths made from unit
names, and the reader of `a{sv}` property arrays. The two state tables and their two
conversions each are the ones of `protocol.c`; the escape and the property reader are the ones
of the bus utilities.
-/

namespace BlueChi

abbrev BusId := ℕ
/-- The serial number of a method call of a client, on which the reply is sent. -/
abbrev Serial := ℕ

/-- `SYMBOL_WILDCARD`. -/
def symbolWildcard : String := "*"

/-- `is_wildcard`. -/
def isWildcard (name : String) : Bool := name = symbolWildcard

@[simp] theorem isWildcard_iff (name : String) : isWildcard name = true ↔ name = symbolWildcard := by
  simp [isWildcard]

/-! ## Job states -/

inductive JobState
  | waiting | running | invalid
  deriving DecidableEq, Repr

/-- `job_state_to_string`. -/
def jobStateToString : JobState → String
  | .waiting => "waiting"
  | .running => "running"
  | .invalid => "invalid"

/-- `job_state_from_string`. -/
def jobStateFromString (s : String) : JobState :=
  if s = "waiting" then .waiting else if s = "running" then .running else .invalid

theorem jobStateFromString_toString (s : JobState) :
    jobStateFromString (jobStateToString s) = s := by
  cases s <;> decide

/-! ## Unit active states -/

/-- `UnitActiveState`. `invalid` is `_UNIT_ACTIVE_STATE_INVALID`, and `unset` is the `-1` that
`agent_ensure_unit_info` stores, which differs from it. -/
inductive UnitActiveState
  | active | reloading | inactive | failed | activating | deactivating | maintenance
  | invalid | unset
  deriving DecidableEq, Repr

/-- The test `active_state >= 0`. -/
def UnitActiveState.isValid : UnitActiveState → Bool
  | .invalid => false
  | .unset => false
  | _ => true

/-- `unit_active_state_table`, in the order of the enumeration. -/
def unitActiveStateTable : List (UnitActiveState × String) :=
  [(.active, "active"), (.reloading, "reloading"), (.inactive, "inactive"), (.failed, "failed"),
    (.activating, "activating"), (.deactivating, "deactivating"), (.maintenance, "maintenance")]

/-- `active_state_to_string`. -/
def activeStateToString (s : UnitActiveState) : String :=
  ((unitActiveStateTable.find? fun e => e.1 = s).map Prod.snd).getD "invalid"

/-- `active_state_from_string`: the first entry of the table with that text. -/
def activeStateFromString (s : String) : UnitActiveState :=
  ((unitActiveStateTable.find? fun e => e.2 = s).map Prod.fst).getD .invalid

/-- Every valid state survives the trip over the bus. -/
theorem activeStateFromString_toString {s : UnitActiveState} (h : s.isValid = true) :
    activeStateFromString (activeStateToString s) = s := by
  cases s with
  | invalid => cases h
  | unset => cases h
  | _ => decide

/-- The two values outside the table are both spelled `invalid`, which is in no entry. -/
theorem activeStateFromString_toString_of_not_valid {s : UnitActiveState}
    (h : s.isValid = false) : activeStateFromString (activeStateToString s) = .invalid := by
  cases s with
  | invalid => decide
  | unset => decide
  | _ => cases h

/-- `active_state_from_string` never yields the agent's `-1`. -/
theorem activeStateFromString_ne_unset (s : String) : activeStateFromString s ≠ .unset := by
  unfold activeStateFromString
  cases h : unitActiveStateTable.find? fun e => e.2 = s with
  | none => simp
  | some e =>
    have he : e ∈ unitActiveStateTable := List.mem_of_find?_eq_some h
    simp only [unitActiveStateTable, List.mem_cons, List.not_mem_nil, or_false] at he
    rcases he with rfl | rfl | rfl | rfl | rfl | rfl | rfl <;> simp

/-! ## Log levels -/

inductive LogLevel
  | debug | info | warn | error | invalid
  deriving DecidableEq, Repr

/-- `log_level_strings`, up to the invalid level, which no string is compared with. -/
def logLevelStrings : List (LogLevel × String) :=
  [(.debug, "DEBUG"), (.info, "INFO"), (.warn, "WARN"), (.error, "ERROR")]

/-- `string_to_log_level`. -/
def stringToLogLevel (l : String) : LogLevel :=
  ((logLevelStrings.find? fun e => e.2 = l).map (·.1)).getD .invalid

end BlueChi
