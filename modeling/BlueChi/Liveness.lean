import BlueChi.ParseUtil
import BlueChi.Agent.Connection
import BlueChi.Controller.System

/-!
# The heartbeat threshold

The controller and the agent each give the other up when no heartbeat has come for as long as the
configuration says. Both scale the threshold to microseconds in 64 bits, and only the agent knows
that the clock may not be readable.
-/

namespace BlueChi

open ParseUtil

/-! ## The checks -/

/-- The other side is to be given up: checks are enabled, the time can be told, and the heartbeat
was seen too long ago. -/
def HeartbeatOverdue (threshold : ℤ) (now lastSeen : UInt64) : Prop :=
  0 < threshold ∧ now ≠ AgentLink.usecInfinity ∧ lastSeen ≤ now ∧
    threshold * 1000 < (now.toNat : ℤ) - lastSeen.toNat

/-- Both checks decide by `HeartbeatOverdue`, and alike. -/
structure ChecksAgree (s : Controller) (n : NodeId) (agent : AgentLink) (now : UInt64) : Prop where
  overdue : s.livenessExpired n now = true ↔
    HeartbeatOverdue s.heartbeatThresholdMsec now (s.node n).lastSeenMonotonic
  same : agent.controllerExpired now = s.livenessExpired n now

/-- The silence is longer than what the threshold is in 64 bits, and either the clock could not be
read or the threshold does not fit. -/
def OutOfBounds (threshold : ℤ) (now lastSeen : UInt64) : Prop :=
  0 < threshold ∧ lastSeen ≤ now ∧
    threshold.toNat * 1000 % 2 ^ 64 < now.toNat - lastSeen.toNat ∧
    (now = AgentLink.usecInfinity ∨ 2 ^ 64 ≤ threshold.toNat * 1000)

/-- The comparison that both checks make. -/
def silentFor (threshold : ℤ) (now lastSeen : UInt64) : Bool :=
  now - lastSeen > UInt64.ofNat threshold.toNat * 1000

/-- The limit in microseconds is taken modulo `2^64`. -/
lemma silentFor_iff (threshold : ℤ) {now lastSeen : UInt64} (hle : lastSeen ≤ now) :
    silentFor threshold now lastSeen = true ↔
      threshold.toNat * 1000 % 2 ^ 64 < now.toNat - lastSeen.toNat := by
  have hlimit : (UInt64.ofNat threshold.toNat * 1000).toNat = threshold.toNat * 1000 % 2 ^ 64 := by
    rw [UInt64.toNat_mul, UInt64.toNat_ofNat']
    exact Nat.mod_mul_mod _ _ _
  unfold silentFor
  rw [decide_eq_true_eq, gt_iff_lt, UInt64.lt_iff_toNat_lt, hlimit, UInt64.toNat_sub_of_le _ _ hle]

lemma livenessExpired_iff (s : Controller) (n : NodeId) (now : UInt64) :
    s.livenessExpired n now = true ↔ 0 < s.heartbeatThresholdMsec ∧ now ≠ 0 ∧
      (s.node n).lastSeenMonotonic ≤ now ∧
      silentFor s.heartbeatThresholdMsec now (s.node n).lastSeenMonotonic = true := by
  unfold Controller.livenessExpired
  rw [show decide (now - (s.node n).lastSeenMonotonic >
    UInt64.ofNat s.heartbeatThresholdMsec.toNat * 1000) =
      silentFor s.heartbeatThresholdMsec now (s.node n).lastSeenMonotonic from rfl]
  simp only [Bool.and_eq_true, Bool.not_eq_true', decide_eq_false_iff_not, not_le,
    UInt64.not_lt, and_assoc, ne_eq]

lemma controllerExpired_iff (agent : AgentLink) (now : UInt64) :
    agent.controllerExpired now = true ↔ 0 < agent.controllerHeartbeatThresholdMsec ∧
      now ≠ AgentLink.usecInfinity ∧ agent.controllerLastSeenMonotonic ≤ now ∧
      silentFor agent.controllerHeartbeatThresholdMsec now agent.controllerLastSeenMonotonic =
        true := by
  unfold AgentLink.controllerExpired
  rw [show decide (now - agent.controllerLastSeenMonotonic >
    UInt64.ofNat agent.controllerHeartbeatThresholdMsec.toNat * 1000) =
      silentFor agent.controllerHeartbeatThresholdMsec now agent.controllerLastSeenMonotonic from rfl]
  simp only [Bool.and_eq_true, Bool.not_eq_true', decide_eq_false_iff_not, not_le,
    UInt64.not_lt, and_assoc, ne_eq]

/-- Where the limit fits in 64 bits, the check compares with the threshold. -/
lemma overdue_iff {threshold : ℤ} (hpos : 0 < threshold) {now lastSeen : UInt64}
    (hle : lastSeen ≤ now) :
    threshold * 1000 < (now.toNat : ℤ) - lastSeen.toNat ↔
      silentFor threshold now lastSeen = true ∧ threshold.toNat * 1000 < 2 ^ 64 := by
  have hnow : now.toNat < 2 ^ 64 := now.toNat_lt
  have hseen : lastSeen.toNat ≤ now.toNat := UInt64.le_iff_toNat_le.mp hle
  have hcast : (threshold.toNat : ℤ) = threshold := Int.toNat_of_nonneg (le_of_lt hpos)
  rw [silentFor_iff threshold hle]
  by_cases hfits : threshold.toNat * 1000 < 2 ^ 64
  · rw [Nat.mod_eq_of_lt hfits]
    omega
  · omega

/-- The two checks decide as they should unless the silence is out of bounds. -/
theorem checksAgree_iff (s : Controller) (n : NodeId) (agent : AgentLink) (now : UInt64)
    (hthreshold : agent.controllerHeartbeatThresholdMsec = s.heartbeatThresholdMsec)
    (hseen : agent.controllerLastSeenMonotonic = (s.node n).lastSeenMonotonic) :
    ChecksAgree s n agent now ↔
      ¬OutOfBounds s.heartbeatThresholdMsec now (s.node n).lastSeenMonotonic := by
  have hagree : ChecksAgree s n agent now ↔ ((s.livenessExpired n now = true ↔
      HeartbeatOverdue s.heartbeatThresholdMsec now (s.node n).lastSeenMonotonic) ∧
      (agent.controllerExpired now = true ↔ s.livenessExpired n now = true)) :=
    ⟨fun h => ⟨h.overdue, Bool.eq_iff_iff.mp h.same⟩, fun h => ⟨h.1, Bool.eq_iff_iff.mpr h.2⟩⟩
  rw [hagree, controllerExpired_iff, livenessExpired_iff, hthreshold, hseen]
  unfold HeartbeatOverdue OutOfBounds
  generalize s.heartbeatThresholdMsec = threshold
  generalize (s.node n).lastSeenMonotonic = lastSeen
  by_cases hpos : 0 < threshold
  · by_cases hle : lastSeen ≤ now
    · have hsilent := silentFor_iff threshold hle
      have hoverdue := overdue_iff hpos hle
      -- who has been silent for some time is not checked at time 0
      have hzero : silentFor threshold now lastSeen = true → now ≠ 0 := by
        intro hlong heq
        rw [hsilent, heq] at hlong
        simp at hlong
      rw [hoverdue, ← hsilent, ← not_lt]
      simp only [hpos, hle, true_and]
      by_cases hlong : silentFor threshold now lastSeen = true
      · have hnow := hzero hlong
        by_cases hread : now = AgentLink.usecInfinity
        · simp [hread, hread ▸ hnow]
        · simp [hlong, hread, hnow]
      · simp [hlong]
    · simp [hle]
  · simp [hpos]

/-- The longest time in milliseconds whose microseconds exceed 64 bits by the least. -/
def tooLong : ℤ := 18446744073709552

/-- A controller with one node and an agent that have just started, with the same threshold. -/
def checkers (threshold : ℤ) : Controller × AgentLink :=
  (Controller.start threshold [⟨"n", none, []⟩],
    AgentLink.agentLinkNew ⟨none, none, threshold⟩ "tcp:host=127.0.0.1,port=842")

/-- After one second of silence the agent is given up though the limit is many years. -/
theorem checks_disagree : ¬∀ (text : String) (threshold : ℤ), parseLong (some text) = some threshold →
    ∀ (s : Controller) (n : NodeId) (agent : AgentLink) (now : UInt64),
      s.heartbeatThresholdMsec = threshold →
      agent.controllerHeartbeatThresholdMsec = s.heartbeatThresholdMsec →
      agent.controllerLastSeenMonotonic = (s.node n).lastSeenMonotonic → ChecksAgree s n agent now := by
  intro hall
  have hparse : parseLong (some "18446744073709552") = some tooLong := by decide +kernel
  have hagree := hall "18446744073709552" tooLong hparse (checkers tooLong).1 1 (checkers tooLong).2
    1000000 rfl rfl rfl
  have hexpired : (checkers tooLong).1.livenessExpired 1 1000000 = true := by decide +kernel
  have hoverdue := (hagree.overdue.mp hexpired).2.2.2
  exact absurd hoverdue (by decide)

/-- With a threshold of six seconds the agent is given up after seven. -/
theorem checks_agree_sixSeconds : ChecksAgree (checkers 6000).1 1 (checkers 6000).2 7000000 ∧
    (checkers 6000).1.livenessExpired 1 7000000 = true := by
  refine ⟨(checksAgree_iff _ _ _ _ rfl rfl).mpr fun hout => ?_, by decide +kernel⟩
  exact absurd hout.2.2.2 (by decide)

end BlueChi
