import BlueChi.Agent.ProxyFrames

/-!
# The connection state of the agent

A step of the agent makes an attempt to connect (`Attempted`), settles the outcome of the last
one when the reply to its `Register` call arrives, or leaves the connection as it is
(`SameConnection`). The agent is CONNECTED only on the bus of the last attempt, after a reply
that was no error and with both matches installed.

A reply with an error leaves the agent CONNECTING, since its callback returns `-EPERM` as a
`bool`, and a match that cannot be added takes the agent offline without a word. Where neither
happens, and the address of the controller can be found at each tick, all is as it should be.
-/

namespace BlueChi

open Execution

namespace AgentLink

variable {s s' : AgentLink}

/-! ## Attempts -/

/-- From `s` to `s'` the agent makes one attempt to connect, on a new bus if on any. -/
structure Attempted (s s' : AgentLink) : Prop where
  state : s'.connectionState = .connecting
  attempts : attempts s'.log = attempts s.log ++ [s'.peerDbus]
  statuses : statuses s'.log = statuses s.log
  peerMatches : s'.peerMatches = []
  slot : ∀ call, s'.registerCallSlot = some call → call.replied = false ∧ s'.peerDbus = some call.bus
  bus : ∀ bus : ℕ, s'.peerDbus = some bus → s.nextPtr ≤ bus ∧ bus < s'.nextPtr
  nextPtr : s.nextPtr ≤ s'.nextPtr

lemma attempts_emit (s : AgentLink) (o : LinkOutput) :
    attempts (s.emit o).log = attempts s.log ++ attempts [o] := List.filterMap_append

lemma statuses_emit (s : AgentLink) (o : LinkOutput) :
    statuses (s.emit o).log = statuses s.log ++ statuses [o] := List.filterMap_append

lemma attempted_agentConnect (hslot : s.registerCallSlot = none) (hmatches : s.peerMatches = [])
    (calls : ConnectCalls) : Attempted s (s.agentConnect calls).2 := by
  unfold agentConnect
  dsimp only
  split
  · split
    · -- the call is sent on the bus that was opened
      refine ⟨rfl, ?_, ?_, rfl, fun call hcall => ?_, fun bus hbus => ?_, Nat.le_succ _⟩
      · simp [attempts]
      · simp [statuses]
      · cases hcall
        exact ⟨rfl, rfl⟩
      · cases hbus
        exact ⟨le_rfl, Nat.lt_succ_self _⟩
    · refine ⟨rfl, attempts_emit _ _, by simp [statuses], rfl, fun call hcall => ?_,
        fun bus hbus => ?_, Nat.le_succ _⟩
      · exact absurd (hslot.symm.trans hcall) (by simp)
      · cases hbus
        exact ⟨le_rfl, Nat.lt_succ_self _⟩
  · refine ⟨rfl, attempts_emit _ _, by simp [statuses], hmatches, fun call hcall => ?_,
      fun bus hbus => ?_, le_rfl⟩
    · exact absurd (hslot.symm.trans hcall) (by simp)
    · cases hbus

/-- The address of the controller is configured, or the host can be resolved. -/
def HasAddress (s : AgentLink) (calls : ConnectCalls) : Prop :=
  s.controllerAddress ≠ none ∨ s.host.bind calls.resolve ≠ none

/-- With an address the agent closes its bus and makes an attempt. -/
lemma attempted_agentReconnect {calls : ConnectCalls} (h : s.HasAddress calls) :
    Attempted s (s.agentReconnect calls).2 := by
  obtain ⟨address, haddress⟩ : ∃ address,
      ({ s with assembledControllerAddress := none }.ensureAssembledControllerAddress calls) =
        (true, { s with assembledControllerAddress := some address }) := by
    unfold ensureAssembledControllerAddress
    dsimp only [Option.isSome_none]
    cases hcfg : s.controllerAddress with
    | some address => exact ⟨address, rfl⟩
    | none =>
      obtain ⟨address, hresolve⟩ := Option.ne_none_iff_exists'.mp (h.resolve_left (absurd hcfg))
      rw [hresolve]
      exact ⟨address, rfl⟩
  unfold agentReconnect
  dsimp only
  rw [haddress]
  dsimp only
  have hsame : ∀ t : AgentLink, t.nextPtr = s.nextPtr →
      attempts t.log = attempts s.log →
      statuses t.log = statuses s.log →
      Attempted s (t.agentPeerBusClose.agentConnect calls).2 := fun t hptr hattempts hstatuses => by
    obtain ⟨h1, h2, h3, h4, h5, h6, h7⟩ :=
      (attempted_agentConnect rfl rfl calls :
        Attempted t.agentPeerBusClose (t.agentPeerBusClose.agentConnect calls).2)
    exact ⟨h1, h2.trans (by rw [← hattempts]; rfl), h3.trans hstatuses, h4, h5,
      fun bus hbus => hptr ▸ h6 bus hbus, hptr ▸ h7⟩
  split
  · apply hsame
    · rfl
    · simp [attempts]
    · simp [statuses]
  · exact hsame _ rfl rfl rfl

/-- Without an address nothing happens. -/
lemma agentReconnect_of_not {calls : ConnectCalls} (h : ¬ s.HasAddress calls) :
    (s.agentReconnect calls).2 = { s with assembledControllerAddress := none } := by
  have hnone : s.controllerAddress = none ∧ s.host.bind calls.resolve = none := by
    unfold HasAddress at h
    push Not at h
    exact h
  unfold agentReconnect ensureAssembledControllerAddress
  dsimp only [Option.isSome_none]
  rw [hnone.1]
  dsimp only
  rw [hnone.2]
  rfl

/-! ## The status -/

/-- The status that was announced last is the one the agent has. -/
def StatusAgrees (s : AgentLink) : Prop := announcedStatus s.log = s.agentIsOnline

lemma agentIsOnline_of_ne (h : s.connectionState ≠ .connected) : s.agentIsOnline = "offline" := by
  unfold agentIsOnline agentIsConnected
  simp [h]

lemma announcedStatus_emitStatus (s : AgentLink) :
    announcedStatus s.emitStatus.log = s.agentIsOnline := by
  unfold announcedStatus
  rw [emitStatus, statuses_emit]
  simp [statuses]

lemma StatusAgrees.of_same (h : StatusAgrees s) (hs : SameConnection s s') : StatusAgrees s' := by
  unfold StatusAgrees announcedStatus agentIsOnline agentIsConnected at h ⊢
  rw [hs.statuses, hs.state]
  exact h

/-- An agent that was offline is offline while it connects. -/
lemma StatusAgrees.of_attempted (h : StatusAgrees s) (hstate : s.connectionState ≠ .connected)
    (hs : Attempted s s') : StatusAgrees s' := by
  have hoff : s'.connectionState ≠ .connected := by
    rw [hs.state]
    simp
  unfold StatusAgrees announcedStatus at h ⊢
  rw [hs.statuses, h, agentIsOnline_of_ne hstate, agentIsOnline_of_ne hoff]

lemma StatusAgrees.agentReconnect (h : StatusAgrees s) (hstate : s.connectionState ≠ .connected)
    (calls : ConnectCalls) : StatusAgrees (s.agentReconnect calls).2 := by
  by_cases haddress : s.HasAddress calls
  · exact h.of_attempted hstate (attempted_agentReconnect haddress)
  · rw [agentReconnect_of_not haddress]
    exact h

/-- Losing the connection is announced before the next attempt. -/
lemma statusAgrees_agentDisconnected (s : AgentLink) (now nowMonotonic : UInt64)
    (calls : ConnectCalls) : StatusAgrees (s.agentDisconnected now nowMonotonic calls) := by
  unfold agentDisconnected
  refine StatusAgrees.agentReconnect ?_ (by simp [emitStatus]) calls
  exact announcedStatus_emitStatus _

/-! ## The invariant -/

/-- The agent has registered on the bus of its last attempt, and listens to it. -/
def Registered (s : AgentLink) (replies : List (BusId × AgentConnectionState × RegisterReply)) :
    Prop :=
  ∃ bus, (attempts s.log).getLast? = some (some bus) ∧ s.peerDbus = some bus ∧
    (bus, .connecting, .ok) ∈ replies ∧ ∀ member, member ∈ s.peerMatches

/-- The reply to `Register` that is still to come is for the last attempt. -/
structure LinkInv (s : AgentLink)
    (replies : List (BusId × AgentConnectionState × RegisterReply)) : Prop where
  bus : ∀ bus : ℕ, s.peerDbus = some bus → bus < s.nextPtr
  call : ∀ call, s.registerCallSlot = some call → call.bus < s.nextPtr
  pending : ∀ call, s.registerCallSlot = some call → call.replied = false →
    s.connectionState = .connecting ∧ s.peerDbus = some call.bus ∧
      (attempts s.log).getLast? = some (some call.bus) ∧ s.peerMatches = []
  connected : s.connectionState = .connected → Registered s replies

namespace LinkInv

variable {replies replies' : List (BusId × AgentConnectionState × RegisterReply)}

lemma of_same (h : LinkInv s replies) (hs : SameConnection s s') (hsub : replies ⊆ replies') :
    LinkInv s' replies' := by
  refine ⟨fun bus hbus => ?_, fun call hcall => ?_, fun call hcall hreplied => ?_, fun hstate => ?_⟩
  · exact (h.bus bus (hs.peerDbus ▸ hbus)).trans_le hs.nextPtr
  · exact (h.call call (hs.slot ▸ hcall)).trans_le hs.nextPtr
  · rw [hs.state, hs.peerDbus, hs.attempts, hs.peerMatches]
    exact h.pending call (hs.slot ▸ hcall) hreplied
  · obtain ⟨bus, hlast, hbus, hreply, hmatches⟩ := h.connected (hs.state ▸ hstate)
    refine ⟨bus, ?_, ?_, hsub hreply, ?_⟩
    · rw [hs.attempts]
      exact hlast
    · rw [hs.peerDbus]
      exact hbus
    · rw [hs.peerMatches]
      exact hmatches

/-- The address is not a matter of the invariant. -/
lemma emit_controllerAddress (h : LinkInv s replies) (address : String) :
    LinkInv ({ s with assembledControllerAddress := some address, controllerAddress := some address
      }.emit (.controllerAddress address)) replies := by
  have hattempts : attempts (s.log ++ [.controllerAddress (some address)]) = attempts s.log := by
    simp [attempts]
  refine ⟨h.bus, h.call, fun call hcall hreplied => ?_, fun hstate => ?_⟩
  · show s.connectionState = _ ∧ s.peerDbus = _ ∧ (attempts (s.log ++ _)).getLast? = _ ∧ _
    rw [hattempts]
    exact h.pending call hcall hreplied
  · have ⟨bus, hlast, hbus, hreply, hmatches⟩ := h.connected hstate
    refine ⟨bus, ?_, hbus, hreply, hmatches⟩
    show (attempts (s.log ++ _)).getLast? = _
    rw [hattempts]
    exact hlast

lemma of_attempted (hs : Attempted s s') (replies) : LinkInv s' replies := by
  refine ⟨fun bus hbus => (hs.bus bus hbus).2, fun call hcall => ?_, fun call hcall _ => ?_,
    fun hstate => absurd (hs.state.symm.trans hstate) (by simp)⟩
  · exact (hs.bus _ (hs.slot call hcall).2).2
  · refine ⟨hs.state, (hs.slot call hcall).2, ?_, hs.peerMatches⟩
    rw [hs.attempts, List.getLast?_concat, (hs.slot call hcall).2]

/-- No reply is awaited and the agent is not connected. -/
lemma of_idle (hbus : ∀ bus : ℕ, s.peerDbus = some bus → bus < s.nextPtr)
    (hcall : ∀ call, s.registerCallSlot = some call → call.replied = true ∧ call.bus < s.nextPtr)
    (hstate : s.connectionState ≠ .connected) (replies) : LinkInv s replies := by
  refine ⟨hbus, fun call h => (hcall call h).2, fun call h hreplied => ?_, fun h => absurd h hstate⟩
  rw [(hcall call h).1] at hreplied
  cases hreplied

lemma agentReconnect (h : LinkInv s replies) (hstate : s.connectionState ≠ .connected)
    (calls : ConnectCalls) : LinkInv (s.agentReconnect calls).2 replies := by
  by_cases haddress : s.HasAddress calls
  · exact of_attempted (attempted_agentReconnect haddress) replies
  · rw [agentReconnect_of_not haddress]
    exact ⟨h.bus, h.call, h.pending, fun hconnected => absurd hconnected hstate⟩

/-- The connection is lost when no reply is awaited, or a new attempt follows in any case. -/
lemma agentDisconnected (h : LinkInv s replies) {calls : ConnectCalls}
    (hcall : (∀ call, s.registerCallSlot = some call → call.replied = true) ∨ s.HasAddress calls)
    (now nowMonotonic : UInt64) (replies') :
    LinkInv (s.agentDisconnected now nowMonotonic calls) replies' := by
  unfold AgentLink.agentDisconnected
  dsimp only
  by_cases haddress : s.HasAddress calls
  · exact of_attempted (attempted_agentReconnect (by exact haddress)) replies'
  · rw [agentReconnect_of_not (by exact haddress)]
    have hreplied := hcall.resolve_right haddress
    apply of_idle
    · exact h.bus
    · exact fun call hslot => ⟨hreplied call hslot, h.call call hslot⟩
    · show AgentConnectionState.retry ≠ .connected
      simp

/-- The reply to `Register` settles the attempt. -/
lemma agentRegisterCallback (h : LinkInv s replies) {bus : BusId}
    (hslot : s.registerCallSlot = some ⟨bus, false⟩) (reply : RegisterReply)
    (now nowMonotonic : UInt64) (fails : ControllerMember → Bool) (results : ℕ → EmitResult)
    (hreply : (bus, s.connectionState, reply) ∈ replies') :
    LinkInv ({ s with registerCallSlot := some ⟨bus, true⟩ }.agentRegisterCallback reply now
      nowMonotonic fails results) replies' := by
  obtain ⟨hstate, hbus, hlast, hmatches⟩ := h.pending _ hslot rfl
  have hcall : ∀ call : RegisterCall, some (⟨bus, true⟩ : RegisterCall) = some call →
      call.replied = true ∧ call.bus < s.nextPtr := fun call hcall => by
    cases hcall
    exact ⟨rfl, h.call ⟨bus, false⟩ hslot⟩
  have hidle : ∀ t : AgentLink, t.peerDbus = s.peerDbus → t.nextPtr = s.nextPtr →
      t.registerCallSlot = some ⟨bus, true⟩ → t.connectionState ≠ .connected →
      LinkInv t replies' := fun t h1 h2 h3 h4 => by
    apply of_idle
    · rw [h1, h2]
      exact h.bus
    · rw [h3, h2]
      exact hcall
    · exact h4
  unfold AgentLink.agentRegisterCallback agentProcessRegisterCallback
  rw [if_neg (by simpa using hstate)]
  cases reply with
  | error message =>
    -- `-EPERM` counts as success, so the agent goes on CONNECTING
    refine hidle _ ?_ ?_ ?_ ?_
    · rfl
    · rfl
    · rfl
    · show s.connectionState ≠ .connected
      rw [hstate]
      simp
  | unreadable =>
    dsimp only
    exact hidle _ rfl rfl rfl (by simp)
  | ok =>
    dsimp only
    by_cases hheartbeat : fails .heartbeat = true
    · rw [if_pos hheartbeat]
      exact hidle _ rfl rfl rfl (by simp)
    rw [if_neg hheartbeat]
    by_cases hdisconnected : fails .disconnected = true
    · rw [if_pos hdisconnected]
      exact hidle _ rfl rfl rfl (by simp)
    rw [if_neg hdisconnected]
    dsimp only
    refine of_same (?_ : LinkInv _ replies') (sameProxies_reemit results _ _).1 (fun _ => id)
    refine ⟨h.bus, fun call hc => (hcall call hc).2, fun call hc hno => ?_, fun _ => ?_⟩
    · rw [(hcall call hc).1] at hno
      cases hno
    · refine ⟨bus, ?_, hbus, hstate ▸ hreply, fun member => ?_⟩
      · rw [← hlast]
        show (attempts (s.log ++ [_])).getLast? = _
        simp [attempts]
      · cases member <;> simp [addPeerMatch]

end LinkInv

/-! ## The heartbeat timer -/

/-- The state in which the tick tries to connect again. -/
def beforeRetry (s : AgentLink) : AgentLink :=
  { s.dropRegisterCall with connectionRetryCount := s.connectionRetryCount + 1 }

/-- What a tick does in each state. -/
lemma agentHeartbeatTimerCallback_eq (s : AgentLink) (now nowMonotonic : UInt64)
    (calls calls' : ConnectCalls) :
    s.agentHeartbeatTimerCallback now nowMonotonic calls calls' =
      match s.connectionState with
      | .disconnected => s
      | .connected =>
        if s.controllerExpired nowMonotonic then
          (s.agentDisconnected now nowMonotonic calls).retryConnection calls'
        else s.sendHeartbeat
      | _ => (s.beforeRetry.agentReconnect calls').2 := by
  unfold agentHeartbeatTimerCallback beforeRetry dropRegisterCall agentCheckControllerLiveness
  cases hstate : s.connectionState with
  | disconnected => simp [hstate, retryConnection]
  | connected =>
    simp only [hstate, reduceCtorEq, if_false, if_true]
    by_cases hexpired : s.controllerExpired nowMonotonic = true <;> simp [hexpired]
  | retry => simp [hstate, retryConnection]
  | connecting => simp [retryConnection]

lemma sameProxies_sendHeartbeat (s : AgentLink) : SameProxies s s.sendHeartbeat := by
  unfold sendHeartbeat
  split
  · exact .refl s
  · exact sameProxies_emit s rfl

lemma beforeRetry_state (h : s.connectionState = .connecting ∨ s.connectionState = .retry) :
    s.beforeRetry.connectionState = .retry := by
  unfold beforeRetry dropRegisterCall
  rcases h with h | h <;> simp [h]

lemma beforeRetry_eq (s : AgentLink) : s.beforeRetry = { s with
    connectionRetryCount := s.connectionRetryCount + 1
    connectionState := s.beforeRetry.connectionState
    registerCallSlot := s.beforeRetry.registerCallSlot } := by
  unfold beforeRetry dropRegisterCall
  split <;> rfl

/-- No attempt is pending when the tick tries again. -/
lemma LinkInv.beforeRetry {replies} (h : LinkInv s replies)
    (hstate : s.connectionState = .connecting ∨ s.connectionState = .retry) :
    LinkInv s.beforeRetry replies := by
  have hretry := beforeRetry_state hstate
  have hslot : ∀ call, s.beforeRetry.registerCallSlot = some call →
      call.replied = true ∧ call.bus < s.nextPtr := fun call hcall => by
    unfold AgentLink.beforeRetry dropRegisterCall at hcall
    split at hcall
    · cases hcall
    · next hne =>
      refine ⟨?_, h.call call hcall⟩
      by_contra hreplied
      exact hne (h.pending call hcall (by simpa using hreplied)).1
  apply of_idle
  · rw [beforeRetry_eq]
    exact h.bus
  · rw [beforeRetry_eq]
    exact hslot
  · rw [hretry]
    simp

lemma LinkInv.retryConnection {replies} (h : LinkInv s replies) (calls : ConnectCalls) :
    LinkInv (s.retryConnection calls) replies := by
  unfold AgentLink.retryConnection
  split
  · next hretry =>
    apply LinkInv.agentReconnect
    · exact h.of_same (.of_log_eq rfl rfl rfl rfl rfl le_rfl rfl) (fun _ => id)
    · show s.connectionState ≠ .connected
      rw [hretry]
      simp
  · exact h

lemma StatusAgrees.retryConnection (h : StatusAgrees s) (calls : ConnectCalls) :
    StatusAgrees (s.retryConnection calls) := by
  unfold AgentLink.retryConnection
  split
  · next hretry =>
    apply StatusAgrees.agentReconnect
    · exact h
    · show s.connectionState ≠ .connected
      rw [hretry]
      simp
  · exact h

/-! ## Steps -/

section

variable {replies : List (BusId × AgentConnectionState × RegisterReply)}

/-- An agent that listens for the end of its connection awaits no reply. -/
lemma LinkInv.replied_of_mem (h : LinkInv s replies) {member : ControllerMember}
    (hmem : member ∈ s.peerMatches) :
    ∀ call, s.registerCallSlot = some call → call.replied = true := by
  intro call hcall
  by_contra hreplied
  rw [(h.pending call hcall (by simpa using hreplied)).2.2.2] at hmem
  cases hmem

lemma LinkInv.replied_of_connected (h : LinkInv s replies) (hstate : s.connectionState = .connected) :
    ∀ call, s.registerCallSlot = some call → call.replied = true := by
  intro call hcall
  by_contra hreplied
  have hconnecting := (h.pending call hcall (by simpa using hreplied)).1
  rw [hstate] at hconnecting
  cases hconnecting

lemma LinkInv.agentHeartbeatTimerCallback (h : LinkInv s replies) (now nowMonotonic : UInt64)
    (calls calls' : ConnectCalls) :
    LinkInv (s.agentHeartbeatTimerCallback now nowMonotonic calls calls') replies := by
  rw [agentHeartbeatTimerCallback_eq]
  have hretry : ∀ hstate : s.connectionState = .connecting ∨ s.connectionState = .retry,
      LinkInv (s.beforeRetry.agentReconnect calls').2 replies := fun hstate => by
    apply (h.beforeRetry hstate).agentReconnect
    rw [beforeRetry_state hstate]
    simp
  cases hstate : s.connectionState with
  | disconnected => exact h
  | connected =>
    dsimp only
    split
    · exact (h.agentDisconnected (Or.inl (h.replied_of_connected hstate)) _ _ replies).retryConnection _
    · exact h.of_same (sameProxies_sendHeartbeat s).1 (fun _ => id)
  | retry => exact hretry (Or.inr hstate)
  | connecting => exact hretry (Or.inl hstate)

lemma StatusAgrees.agentHeartbeatTimerCallback (h : StatusAgrees s) (now nowMonotonic : UInt64)
    (calls calls' : ConnectCalls) :
    StatusAgrees (s.agentHeartbeatTimerCallback now nowMonotonic calls calls') := by
  rw [agentHeartbeatTimerCallback_eq]
  have hretry : ∀ hstate : s.connectionState = .connecting ∨ s.connectionState = .retry,
      StatusAgrees (s.beforeRetry.agentReconnect calls').2 := fun hstate => by
    have hne : s.beforeRetry.connectionState ≠ .connected := by
      rw [beforeRetry_state hstate]
      simp
    have hne' : s.connectionState ≠ .connected := by
      rcases hstate with hstate | hstate <;> rw [hstate] <;> simp
    apply StatusAgrees.agentReconnect _ hne
    unfold StatusAgrees at h ⊢
    rw [agentIsOnline_of_ne hne, beforeRetry_eq]
    exact h.trans (agentIsOnline_of_ne hne')
  cases hstate : s.connectionState with
  | disconnected => exact h
  | connected =>
    dsimp only
    split
    · exact (statusAgrees_agentDisconnected s _ _ _).retryConnection _
    · exact h.of_same (sameProxies_sendHeartbeat s).1
  | retry => exact hretry (Or.inr hstate)
  | connecting => exact hretry (Or.inl hstate)

/-- Every event keeps the invariant. -/
theorem LinkInv.handle (h : LinkInv s replies) {e : LinkEvent} (hstep : s.handle e = some s') :
    LinkInv s' (replies ++ LinkRun.repliesOf s e) := by
  have hsame : ∀ t, SameConnection s t → t = s' → LinkInv s' (replies ++ LinkRun.repliesOf s e) :=
    fun t ht heq => h.of_same (heq ▸ ht) (List.subset_append_left _ _)
  cases e with
  | registerReply reply now nowMonotonic fails results =>
    unfold AgentLink.handle at hstep
    dsimp only at hstep
    split at hstep
    · next bus hslot =>
      rw [← Option.some.inj hstep]
      apply h.agentRegisterCallback hslot
      simp [LinkRun.repliesOf, hslot]
    · cases hstep
  | disconnected now nowMonotonic calls =>
    simp only [AgentLink.handle] at hstep
    split at hstep
    · next hmem =>
      rw [← Option.some.inj hstep]
      exact h.agentDisconnected (Or.inl (h.replied_of_mem hmem)) _ _ _
    · cases hstep
  | heartbeatTimer now nowMonotonic calls calls' =>
    rw [← Option.some.inj hstep]
    exact (h.agentHeartbeatTimerCallback now nowMonotonic calls calls').of_same (.refl _)
      (List.subset_append_left _ _)
  | controllerHeartbeat now nowMonotonic =>
    simp only [AgentLink.handle] at hstep
    split at hstep
    · exact hsame _ (sameProxies_agentMatchHeartbeat s _ _).1 (Option.some.inj hstep)
    · cases hstep
  | switchController serial address now nowMonotonic calls =>
    rw [← Option.some.inj hstep]
    unfold agentMethodSwitchController
    split
    · exact h.of_same (sameProxies_emit s rfl).1 (List.subset_append_left _ _)
    · dsimp only
      refine of_same (?_ : LinkInv _ replies) (sameProxies_emit _ rfl).1
        (List.subset_append_left _ _)
      -- the new address is configured, so an attempt follows in any case
      refine LinkInv.agentDisconnected (?_ : LinkInv _ replies) (Or.inr (Or.inl (by simp))) _ _ _
      exact h.emit_controllerAddress address
  | createProxy serial localServiceName nodeName unitName exports result =>
    exact hsame _ (sameConnection_agentMethodCreateProxy s ..) (Option.some.inj hstep)
  | removeProxy serial localServiceName nodeName unitName calls =>
    exact hsame _ (sameProxies_agentMethodRemoveProxy s ..).1 (Option.some.inj hstep)
  | target ptr serial call calls =>
    obtain ⟨proxy, -, heq⟩ := Option.map_eq_some_iff.mp hstep
    exact hsame _ ((sameProxies_proxyServiceMethod s _ _ _).trans (sameProxies_answer _ _)).1 heq
  | stop calls =>
    rw [← Option.some.inj hstep]
    unfold agentStop
    refine of_same (?_ : LinkInv _ replies) ((sameProxies_removeAll calls _ _).1.trans
      (.of_log_eq rfl rfl rfl rfl rfl le_rfl rfl)) (List.subset_append_left _ _)
    exact of_idle (by simp [emitStatus, agentPeerBusClose]) (by simp [emitStatus, agentPeerBusClose])
      (by simp [emitStatus]) replies

end

/-! ## Runs -/

/-- The reply to `Register` is an error, or a match cannot be added after it. -/
def Refused (reply : RegisterReply) (fails : ControllerMember → Bool) : Prop :=
  (∃ message, reply = .error message) ∨ reply = .ok ∧ ∃ member, fails member = true

/-- An attempt is made, and what belonged to the attempt before is dropped. -/
structure NewAttempt (s s' : AgentLink) : Prop where
  made : ∃ bus, attempts s'.log = attempts s.log ++ [bus]
  bus : ∀ bus, s.peerDbus = some bus → s'.peerDbus ≠ some bus
  call : ∀ call, s.registerCallSlot = some call → s'.registerCallSlot ≠ some call

/-- What a step has to do: a refused agent tries again, and at the latest with the next tick. -/
def AdvancesConnection (s s' : AgentLink) : LinkEvent → Prop
  | .registerReply reply _ _ fails _ => Refused reply fails → s'.connectionState = .retry
  | .heartbeatTimer .. =>
    s.connectionState = .connecting ∨ s.connectionState = .retry → NewAttempt s s'
  | _ => True

/-- `Register` is not refused, and a tick that tries again finds the address. -/
def ConnectsCleanly (s : AgentLink) : LinkEvent → Prop
  | .registerReply reply _ _ fails _ => ¬ Refused reply fails
  | .heartbeatTimer _ _ _ calls' =>
    s.connectionState = .connecting ∨ s.connectionState = .retry → s.HasAddress calls'
  | _ => True

/-- A tick that tries again makes a new attempt exactly when there is an address. -/
lemma newAttempt_iff {replies} (h : LinkInv s replies)
    (hstate : s.connectionState = .connecting ∨ s.connectionState = .retry)
    (now nowMonotonic : UInt64) (calls calls' : ConnectCalls) :
    NewAttempt s (s.agentHeartbeatTimerCallback now nowMonotonic calls calls') ↔
      s.HasAddress calls' := by
  have heq : s.agentHeartbeatTimerCallback now nowMonotonic calls calls' =
      (s.beforeRetry.agentReconnect calls').2 := by
    rw [agentHeartbeatTimerCallback_eq]
    rcases hstate with hstate | hstate <;> rw [hstate]
  have hlog : attempts s.beforeRetry.log = attempts s.log := by rw [beforeRetry_eq]
  have hptr : s.beforeRetry.nextPtr = s.nextPtr := by rw [beforeRetry_eq]
  have haddress : s.beforeRetry.HasAddress calls' ↔ s.HasAddress calls' := by
    rw [beforeRetry_eq]
    exact Iff.rfl
  rw [heq, ← haddress]
  constructor
  · intro hnew
    by_contra hno
    obtain ⟨bus, hmade⟩ := hnew.made
    rw [agentReconnect_of_not hno] at hmade
    have hlength := congrArg List.length (hlog.symm.trans hmade)
    simp at hlength
  · intro hyes
    have hattempt := attempted_agentReconnect hyes
    refine ⟨⟨_, hattempt.attempts.trans (by rw [hlog])⟩, fun bus hbus hbus' => ?_,
      fun call hcall hcall' => ?_⟩
    · have hle := (hattempt.bus bus hbus').1
      rw [hptr] at hle
      exact absurd (h.bus bus hbus) (not_lt.mpr hle)
    · have hle := (hattempt.bus _ (hattempt.slot call hcall').2).1
      rw [hptr] at hle
      exact absurd (h.call call hcall) (not_lt.mpr hle)

/-- The reply to `Register` leaves the agent in RETRY or with the right status exactly when it
is not refused. -/
lemma statusAgrees_agentRegisterCallback {replies} (h : LinkInv s replies)
    (hstatus : StatusAgrees s) {bus : BusId} (hslot : s.registerCallSlot = some ⟨bus, false⟩)
    (reply : RegisterReply) (now nowMonotonic : UInt64) (fails : ControllerMember → Bool)
    (results : ℕ → EmitResult) :
    (Refused reply fails →
        ({ s with registerCallSlot := some ⟨bus, true⟩ }.agentRegisterCallback reply now
          nowMonotonic fails results).connectionState = .retry) ∧
      StatusAgrees ({ s with registerCallSlot := some ⟨bus, true⟩ }.agentRegisterCallback reply now
        nowMonotonic fails results) ↔ ¬ Refused reply fails := by
  have hstate : s.connectionState = .connecting := (h.pending _ hslot rfl).1
  have hoff : announcedStatus s.log = "offline" := by
    refine hstatus.trans (agentIsOnline_of_ne ?_)
    rw [hstate]
    simp
  unfold agentRegisterCallback agentProcessRegisterCallback
  rw [if_neg (by simpa using hstate)]
  cases reply with
  | error message =>
    -- the agent is CONNECTING still
    have hrefused : Refused (.error message) fails := Or.inl ⟨message, rfl⟩
    refine iff_of_false (fun hboth => ?_) (not_not.mpr hrefused)
    have hretry : s.connectionState = .retry := hboth.1 hrefused
    rw [hstate] at hretry
    cases hretry
  | unreadable =>
    have hfine : ¬ Refused .unreadable fails := by simp [Refused]
    refine iff_of_true ⟨fun hrefused => absurd hrefused hfine, ?_⟩ hfine
    exact hoff.trans (agentIsOnline_of_ne (by simp)).symm
  | ok =>
    dsimp only
    -- once a match fails the agent is in RETRY, but has announced that it is online
    have hfailed : ∀ t : AgentLink, (∃ member, fails member = true) →
        announcedStatus t.log = "online" → ((Refused .ok fails →
          { t with connectionState := .retry }.connectionState = .retry) ∧
          StatusAgrees { t with connectionState := .retry } ↔ ¬ Refused .ok fails) := by
      intro t hfails honline
      refine iff_of_false (fun hboth => ?_) (not_not.mpr (Or.inr ⟨rfl, hfails⟩))
      have hagrees := hboth.2
      rw [StatusAgrees, agentIsOnline_of_ne (by simp)] at hagrees
      rw [honline] at hagrees
      simp at hagrees
    by_cases hheartbeat : fails .heartbeat = true
    · rw [if_pos hheartbeat]
      exact hfailed _ ⟨_, hheartbeat⟩ (announcedStatus_emitStatus _)
    rw [if_neg hheartbeat]
    by_cases hdisconnected : fails .disconnected = true
    · rw [if_pos hdisconnected]
      exact hfailed _ ⟨_, hdisconnected⟩ (announcedStatus_emitStatus _)
    rw [if_neg hdisconnected]
    have hfine : ¬ Refused .ok fails := by
      rintro (⟨message, hmessage⟩ | ⟨-, member, hmember⟩)
      · cases hmessage
      · cases member with
        | heartbeat => exact hheartbeat hmember
        | disconnected => exact hdisconnected hmember
    refine iff_of_true ⟨fun hrefused => absurd hrefused hfine, ?_⟩ hfine
    refine StatusAgrees.of_same ?_ (sameProxies_reemit results _ _).1
    exact announcedStatus_emitStatus _

/-- A step advances and announces its outcome exactly when it is clean. -/
theorem advances_iff {replies} (h : LinkInv s replies) (hstatus : StatusAgrees s) {e : LinkEvent}
    (hstep : s.handle e = some s') :
    AdvancesConnection s s' e ∧ StatusAgrees s' ↔ ConnectsCleanly s e := by
  have hsame : ∀ t, SameConnection s t → t = s' → (True ∧ StatusAgrees s' ↔ True) :=
    fun t ht heq => iff_of_true ⟨trivial, hstatus.of_same (heq ▸ ht)⟩ trivial
  cases e with
  | registerReply reply now nowMonotonic fails results =>
    unfold AgentLink.handle at hstep
    dsimp only at hstep
    split at hstep
    · next bus hslot =>
      rw [← Option.some.inj hstep]
      exact statusAgrees_agentRegisterCallback h hstatus hslot ..
    · cases hstep
  | disconnected now nowMonotonic calls =>
    simp only [AgentLink.handle] at hstep
    split at hstep
    · rw [← Option.some.inj hstep]
      exact iff_of_true ⟨trivial, statusAgrees_agentDisconnected s ..⟩ trivial
    · cases hstep
  | heartbeatTimer now nowMonotonic calls calls' =>
    rw [← Option.some.inj hstep]
    have hagrees := hstatus.agentHeartbeatTimerCallback now nowMonotonic calls calls'
    rw [and_iff_left hagrees]
    exact forall_congr' fun hstate => newAttempt_iff h hstate ..
  | controllerHeartbeat now nowMonotonic =>
    simp only [AgentLink.handle] at hstep
    split at hstep
    · exact hsame _ (sameProxies_agentMatchHeartbeat s _ _).1 (Option.some.inj hstep)
    · cases hstep
  | switchController serial address now nowMonotonic calls =>
    rw [← Option.some.inj hstep]
    refine iff_of_true ⟨trivial, ?_⟩ trivial
    unfold agentMethodSwitchController
    split
    · exact hstatus.of_same (sameProxies_emit s rfl).1
    · exact (statusAgrees_agentDisconnected _ _ _ _).of_same (sameProxies_emit _ rfl).1
  | createProxy serial localServiceName nodeName unitName exports result =>
    exact hsame _ (sameConnection_agentMethodCreateProxy s ..) (Option.some.inj hstep)
  | removeProxy serial localServiceName nodeName unitName calls =>
    exact hsame _ (sameProxies_agentMethodRemoveProxy s ..).1 (Option.some.inj hstep)
  | target ptr serial call calls =>
    obtain ⟨proxy, -, heq⟩ := Option.map_eq_some_iff.mp hstep
    exact hsame _ ((sameProxies_proxyServiceMethod s _ _ _).trans (sameProxies_answer _ _)).1 heq
  | stop calls =>
    rw [← Option.some.inj hstep]
    refine iff_of_true ⟨trivial, ?_⟩ trivial
    unfold agentStop
    refine StatusAgrees.of_same ?_ ((sameProxies_removeAll calls _ _).1.trans
      (.of_log_eq rfl rfl rfl rfl rfl le_rfl rfl))
    exact announcedStatus_emitStatus _

end AgentLink

open AgentLink

namespace LinkRun

variable {r r' : LinkRun}

lemma step_eq_some_iff {e : LinkEvent} : r.step e = some r' ↔
    r.link.stopped = false ∧ r.link.aborted = false ∧ r.link.handle e = some r'.link ∧
      r'.replies = r.replies ++ repliesOf r.link e ∧
      r'.requests = r.requests ++ requestsOf r.link r'.link e ∧
      r'.heard = r.heard ++ heardOf r.link e := by
  unfold step AgentLink.step
  cases r.link.stopped <;> cases r.link.aborted <;> simp [Option.map_eq_some_iff]
  constructor
  · rintro ⟨s, hs, rfl⟩
    exact ⟨hs, rfl, rfl, rfl⟩
  · rintro ⟨hs, hreplies, hrequests, hheard⟩
    exact ⟨r'.link, hs, by rw [← hreplies, ← hrequests, ← hheard]⟩

/-- The agent starts with an attempt, and is in RETRY when that fails. -/
lemma linkInv_start (cfg : LinkConfig) (address : String) (calls : ConnectCalls) :
    ((agentLinkNew cfg address).agentStart calls).LinkInv [] ∧
      ((agentLinkNew cfg address).agentStart calls).StatusAgrees := by
  have hattempt : Attempted (agentLinkNew cfg address) ((agentLinkNew cfg address).agentConnect calls).2 :=
    attempted_agentConnect rfl rfl calls
  have hinv := LinkInv.of_attempted hattempt []
  have hstatus : StatusAgrees ((agentLinkNew cfg address).agentConnect calls).2 := by
    apply StatusAgrees.of_attempted _ _ hattempt
    · rfl
    · simp [agentLinkNew]
  unfold agentStart
  split
  · next heq =>
    rw [heq] at hinv hstatus
    exact ⟨hinv, hstatus⟩
  · next s heq =>
    rw [heq] at hinv hstatus
    have hcall : ∀ call, s.registerCallSlot = some call → call.replied = true ∧ call.bus < s.nextPtr := by
      intro call hcall
      -- `Register` was not sent when the attempt failed
      exfalso
      unfold agentConnect at heq
      dsimp only at heq
      split at heq
      · split at heq
        · cases heq
        · cases heq
          simp [agentLinkNew] at hcall
      · cases heq
        simp [agentLinkNew] at hcall
    refine ⟨?_, ?_⟩
    · apply LinkInv.of_idle
      · exact hinv.bus
      · exact hcall
      · simp
    · have hstate : s.connectionState ≠ .connected := by
        have hconnecting := hattempt.state
        rw [heq] at hconnecting
        rw [hconnecting]
        simp
      exact hstatus.trans ((agentIsOnline_of_ne hstate).trans (agentIsOnline_of_ne (by simp)).symm)

theorem linkInv_of_reachable (h : Reachable linkSystem r) : r.link.LinkInv r.replies := by
  let Inv : LinkRun → Prop := fun r => r.link.LinkInv r.replies
  have hinv : Inv r := by
    refine Reachable.invariant ?_ ?_ h
    · rintro r ⟨cfg, address, calls, rfl⟩
      exact (linkInv_start cfg address calls).1
    · intro r e r' hr hstep
      obtain ⟨-, -, hhandle, hreplies, -⟩ := step_eq_some_iff.mp hstep
      show r'.link.LinkInv r'.replies
      rw [hreplies]
      exact LinkInv.handle hr hhandle
  exact hinv

/-- The agent is CONNECTED only after it has registered on the bus of its last attempt. In runs
whose steps are clean the announced status is the right one; and of the steps from a state with
the right status, those that advance the connection and announce the outcome are the clean
ones. -/
theorem connectionState_settled (h : Reachable linkSystem r) :
    (r.link.connectionState = .connected → r.link.Registered r.replies) ∧
    (ReachableUnder linkSystem (fun r e => r.link.ConnectsCleanly e) r → r.link.StatusAgrees) ∧
    (r.link.StatusAgrees → ∀ e r', linkSystem.step r e = some r' →
      (r.link.AdvancesConnection r'.link e ∧ r'.link.StatusAgrees ↔ r.link.ConnectsCleanly e)) := by
  have hinv := linkInv_of_reachable h
  refine ⟨hinv.connected, fun hclean => ?_, fun hstatus e r' hstep => ?_⟩
  · clear h hinv
    induction hclean with
    | init h0 =>
      obtain ⟨cfg, address, calls, rfl⟩ := h0
      exact (linkInv_start cfg address calls).2
    | step hr hclean hstep ih =>
      obtain ⟨-, -, hhandle, -⟩ := step_eq_some_iff.mp hstep
      exact ((advances_iff (linkInv_of_reachable hr.reachable) ih hhandle).mpr hclean).2
  · obtain ⟨-, -, hhandle, -⟩ := step_eq_some_iff.mp hstep
    exact advances_iff hinv hstatus hhandle

/-- Calls that succeed. -/
def connects : ConnectCalls := ⟨fun _ => none, true, true, true⟩

/-- An agent that waits for the reply to its first `Register` call. -/
def connectingAgent : LinkRun :=
  ⟨(agentLinkNew ⟨none, some "tcp:host=127.0.0.1,port=842", 0⟩
    "tcp:host=127.0.0.1,port=842").agentStart connects, [], [], []⟩

lemma reachable_connectingAgent : Reachable linkSystem connectingAgent :=
  .init ⟨_, _, connects, rfl⟩

/-- In a run with one accepted `Register` call the agent is online, and says so. -/
theorem connectionState_settled_accepted :
    ∃ r, linkSystem.step connectingAgent
        (.registerReply .ok 7 7 (fun _ => false) fun _ => .sent) = some r ∧
      r.link.connectionState = .connected ∧ r.link.Registered r.replies ∧ r.link.StatusAgrees := by
  obtain ⟨r, hr⟩ : ∃ r, linkSystem.step connectingAgent
      (.registerReply .ok 7 7 (fun _ => false) fun _ => .sent) = some r := ⟨_, rfl⟩
  have hclean : connectingAgent.link.ConnectsCleanly
      (.registerReply .ok 7 7 (fun _ => false) fun _ => .sent) := by
    simp [ConnectsCleanly, Refused]
  have hreach : ReachableUnder linkSystem (fun r e => r.link.ConnectsCleanly e) r :=
    .step (.init ⟨_, _, connects, rfl⟩) hclean hr
  have hconnected : r.link.connectionState = .connected := by
    rw [← Option.some.inj hr]
    rfl
  obtain ⟨hregistered, hstatus, -⟩ := connectionState_settled hreach.reachable
  exact ⟨r, hr, hconnected, hregistered hconnected, hstatus hreach⟩

/-- After an error the agent is CONNECTING still. -/
theorem refused_not_retry :
    ¬ ∀ r, Reachable linkSystem r → ∀ e r', linkSystem.step r e = some r' →
      r.link.AdvancesConnection r'.link e := by
  intro h
  have hretry := h _ reachable_connectingAgent
    (.registerReply (.error "Unexpected node name") 7 7 (fun _ => false) fun _ => .sent) _ rfl
    (Or.inl ⟨_, rfl⟩)
  cases hretry

end LinkRun
end BlueChi
