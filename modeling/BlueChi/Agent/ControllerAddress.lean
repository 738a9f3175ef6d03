import BlueChi.Agent.ConnectionState

/-!
# The address of the controller

Each attempt to connect uses the address of the last accepted `SwitchController` request, else
the configured one, else the one the host resolves to at that time. The `ControllerAddress`
property is announced when the new address differs from the one before, which `agent_reconnect`
takes out of the agent first: once the host could not be resolved there is nothing to compare
with, and the next address is used without a word.
-/

namespace BlueChi

open Execution

/-! ## What is announced -/

/-- The announced values of `ControllerAddress`. -/
def addressValues (log : List LinkOutput) : List (Option String) :=
  log.filterMap fun
    | .controllerAddress value => some value
    | _ => none

/-- The value of `ControllerAddress` that was announced last, if not the one from before. -/
def announcedAddress (before : Option String) (log : List LinkOutput) : Option String :=
  (addressValues log).getLastD before

lemma announcedAddress_append (before : Option String) (l l' : List LinkOutput) :
    announcedAddress before (l ++ l') = announcedAddress (announcedAddress before l) l' := by
  unfold announcedAddress addressValues
  rw [List.filterMap_append]
  simp only [List.getLastD_eq_getLast?, List.getLast?_append]
  cases (List.filterMap _ l').getLast? <;> rfl

/-- Each attempt of the log uses `chosen`, and that is the value announced by then. -/
def AttemptsAgree (chosen : Option String) : Option String → List LinkOutput → Prop
  | _, [] => True
  | announced, .attempt address _ :: l =>
    (address.isSome ∧ address = chosen ∧ address = announced) ∧ AttemptsAgree chosen announced l
  | _, .controllerAddress value :: l => AttemptsAgree chosen value l
  | announced, _ :: l => AttemptsAgree chosen announced l

def LinkOutput.isAddress : LinkOutput → Bool
  | .attempt _ _ => true
  | .controllerAddress _ => true
  | _ => false

lemma attemptsAgree_append (chosen announced : Option String) (l l' : List LinkOutput) :
    AttemptsAgree chosen announced (l ++ l') ↔
      AttemptsAgree chosen announced l ∧ AttemptsAgree chosen (announcedAddress announced l) l' := by
  induction l generalizing announced with
  | nil => simp [AttemptsAgree, announcedAddress, addressValues]
  | cons o l ih =>
    have hcons : announcedAddress announced (o :: l) =
        announcedAddress (announcedAddress announced [o]) l := announcedAddress_append _ [o] l
    rw [hcons]
    cases o with
    | attempt address bus =>
      show _ ∧ AttemptsAgree chosen announced (l ++ l') ↔ (_ ∧ AttemptsAgree chosen announced l) ∧ _
      rw [ih]
      exact and_assoc.symm
    | _ => exact ih _

/-- Other messages are no attempts, and announce no address. -/
lemma attemptsAgree_of_isAddress {l : List LinkOutput} (h : ∀ o ∈ l, o.isAddress = false)
    (chosen announced : Option String) : AttemptsAgree chosen announced l := by
  induction l with
  | nil => exact trivial
  | cons o l ih =>
    have ho := h o List.mem_cons_self
    have hl := ih fun o' ho' => h o' (List.mem_cons_of_mem _ ho')
    cases o with
    | attempt => cases ho
    | controllerAddress => cases ho
    | _ => exact hl

lemma announcedAddress_of_isAddress {l : List LinkOutput} (h : ∀ o ∈ l, o.isAddress = false)
    (announced : Option String) : announcedAddress announced l = announced := by
  unfold announcedAddress addressValues
  rw [List.filterMap_eq_nil_iff.mpr fun o ho => ?_]
  · rfl
  · have hno := h o ho
    cases o with
    | controllerAddress => cases hno
    | _ => rfl

namespace AgentLink

variable {s s' s'' : AgentLink}

/-! ## One reconnect -/

/-- The messages of an attempt at `chosen` about its address, where `old` was used before. -/
def attemptOutputs (old chosen : Option String) (bus : Option BusId) : List LinkOutput :=
  match chosen with
  | none => []
  | some address =>
    (if old.isSome ∧ some address ≠ old then [.controllerAddress address] else []) ++
      [.attempt address bus]

/-- From `s` to `s'` the agent tries to connect to `chosen`, where `old` was used before; when
there is no address it only loses the old one. -/
structure Reconnected (old chosen : Option String) (s s' : AgentLink) : Prop where
  addresses : s'.addresses = (s.host, s.controllerAddress, chosen)
  log : ∃ l bus l', s'.log = s.log ++ (l ++ (attemptOutputs old chosen bus ++ l')) ∧
    (∀ o ∈ l, o.isAddress = false) ∧ ∀ o ∈ l', o.isAddress = false

/-- From `s` to `s'` the addresses stay, and no attempt is made. -/
structure SameAddress (s s' : AgentLink) : Prop where
  addresses : s'.addresses = s.addresses
  log : ∃ l, s'.log = s.log ++ l ∧ ∀ o ∈ l, o.isAddress = false

lemma SameConnection.sameAddress (h : SameConnection s s') : SameAddress s s' := by
  have ⟨l, hl, ho⟩ := h.log
  refine ⟨h.addresses, l, hl, fun o hmem => ?_⟩
  have hno := ho o hmem
  cases o with
  | attempt => cases hno
  | controllerAddress => cases hno
  | _ => rfl

lemma sameAddress_emitStatus (s : AgentLink) : SameAddress s s.emitStatus :=
  ⟨rfl, _, rfl, by simp [LinkOutput.isAddress]⟩

namespace SameAddress

lemma of_log_eq (haddresses : s'.addresses = s.addresses) (hlog : s'.log = s.log) :
    SameAddress s s' := ⟨haddresses, [], by rw [hlog, List.append_nil], by simp⟩

lemma trans (h : SameAddress s s') (h' : SameAddress s' s'') : SameAddress s s'' := by
  have ⟨l, hl, ho⟩ := h.log
  have ⟨l', hl', ho'⟩ := h'.log
  refine ⟨h'.addresses.trans h.addresses, l ++ l', by rw [hl', hl, List.append_assoc], ?_⟩
  intro o hmem
  exact (List.mem_append.mp hmem).elim (ho o) (ho' o)

/-- What happens before a reconnect without touching the address. -/
lemma reconnected {old chosen : Option String} (h : SameAddress s s')
    (h' : Reconnected old chosen s' s'') : Reconnected old chosen s s'' := by
  have ⟨l, hl, ho⟩ := h.log
  have ⟨l₁, bus, l₂, hlog, h₁, h₂⟩ := h'.log
  have haddresses := h.addresses
  simp only [AgentLink.addresses, Prod.mk.injEq] at haddresses
  refine ⟨?_, l ++ l₁, bus, l₂, by simp only [hlog, hl, List.append_assoc], ?_, h₂⟩
  · rw [h'.addresses, haddresses.1, haddresses.2.1]
  · intro o hmem
    exact (List.mem_append.mp hmem).elim (ho o) (h₁ o)

end SameAddress

namespace Reconnected

variable {old chosen : Option String}

/-- What happens after a reconnect without touching the address. -/
lemma trans (h : Reconnected old chosen s s') (h' : SameAddress s' s'') :
    Reconnected old chosen s s'' := by
  have ⟨l₁, bus, l₂, hlog, h₁, h₂⟩ := h.log
  have ⟨l, hl, ho⟩ := h'.log
  refine ⟨h'.addresses.trans h.addresses, l₁, bus, l₂ ++ l, ?_, h₁, ?_⟩
  · simp only [hl, hlog, List.append_assoc]
  · intro o hmem
    exact (List.mem_append.mp hmem).elim (h₂ o) (ho o)

/-- After an attempt without an address the next one has nothing to compare with. -/
lemma again (h : Reconnected old none s s') (h' : Reconnected none chosen s' s'') :
    Reconnected none chosen s s'' := by
  have ⟨l₁, bus, l₂, hlog, h₁, h₂⟩ := h.log
  have ⟨l₁', bus', l₂', hlog', h₁', h₂'⟩ := h'.log
  have haddresses := h.addresses
  simp only [AgentLink.addresses, Prod.mk.injEq] at haddresses
  refine ⟨by rw [h'.addresses, haddresses.1, haddresses.2.1], l₁ ++ l₂ ++ l₁', bus', l₂', ?_, ?_, h₂'⟩
  · rw [hlog', hlog]
    simp only [attemptOutputs, List.nil_append, List.append_assoc]
  · intro o hmem
    simp only [List.mem_append] at hmem
    exact hmem.elim (fun hmem => hmem.elim (h₁ o) (h₂ o)) (h₁' o)

/-- What is announced after a reconnect. -/
lemma announced (h : Reconnected old chosen s s') (before : Option String) :
    announcedAddress before s'.log = if old.isSome ∧ chosen.isSome ∧ chosen ≠ old then chosen
      else announcedAddress before s.log := by
  have ⟨l, bus, l', hlog, h₁, h₂⟩ := h.log
  rw [hlog]
  simp only [announcedAddress_append]
  rw [announcedAddress_of_isAddress h₁, announcedAddress_of_isAddress h₂]
  cases hchosen : chosen with
  | none => simp [attemptOutputs, announcedAddress, addressValues]
  | some address =>
    dsimp only [attemptOutputs]
    by_cases hchanged : old.isSome ∧ some address ≠ old
    · rw [if_pos hchanged, if_pos ⟨hchanged.1, rfl, hchanged.2⟩]
      rfl
    · rw [if_neg hchanged, if_neg fun hno => hchanged ⟨hno.1, hno.2.2⟩]
      rfl

/-- The attempt agrees with what is announced unless the old address is missing and the new one
is not the one announced. -/
lemma attemptsAgree_iff (h : Reconnected old chosen s s') {announced : Option String}
    (hold : ∀ address, old = some address → announced = some address) :
    AttemptsAgree chosen announced (s'.log.drop s.log.length) ↔
      (old = none → ∀ address, chosen = some address → announced = some address) := by
  have ⟨l, bus, l', hlog, h₁, h₂⟩ := h.log
  rw [hlog, List.drop_left]
  simp only [attemptsAgree_append]
  have hl := attemptsAgree_of_isAddress h₁ chosen announced
  rw [announcedAddress_of_isAddress h₁]
  have hl' : ∀ announced, AttemptsAgree chosen announced l' :=
    attemptsAgree_of_isAddress h₂ chosen
  rw [and_iff_right hl, and_iff_left (hl' _)]
  cases chosen with
  | none => exact iff_of_true trivial fun _ _ hno => absurd hno (by simp)
  | some address =>
    unfold attemptOutputs
    rw [attemptsAgree_append]
    cases old with
    | none =>
      show _ ∧ (_ ∧ _) ∧ True ↔ _
      simp [AttemptsAgree, announcedAddress, addressValues, eq_comm]
    | some before =>
      rw [hold before rfl]
      refine iff_of_true ?_ fun hno => absurd hno (by simp)
      by_cases hchanged : some address = some before
      · rw [if_neg fun hno => hno.2 hchanged]
        exact ⟨trivial, ⟨rfl, rfl, hchanged⟩, trivial⟩
      · rw [if_pos ⟨rfl, hchanged⟩]
        exact ⟨trivial, ⟨rfl, rfl, rfl⟩, trivial⟩

end Reconnected

/-- The address that a reconnect goes to, if any. -/
def chosenAddress (s : AgentLink) (calls : ConnectCalls) : Option String :=
  s.controllerAddress.or (s.host.bind calls.resolve)

lemma agentConnect_log (s : AgentLink) (calls : ConnectCalls) :
    (s.agentConnect calls).2.addresses = s.addresses ∧
      ∃ bus l, (s.agentConnect calls).2.log = s.log ++ ([.attempt s.assembledControllerAddress bus] ++ l) ∧
        ∀ o ∈ l, o.isAddress = false := by
  unfold agentConnect
  dsimp only
  split
  · split
    · exact ⟨rfl, some s.nextPtr, [.register s.nextPtr], by simp, by simp [LinkOutput.isAddress]⟩
    · exact ⟨rfl, some s.nextPtr, [], by simp, by simp⟩
  · exact ⟨rfl, none, [], by simp, by simp⟩

/-- The configured address goes first, and the host is resolved anew. -/
lemma reconnected_agentReconnect (s : AgentLink) (calls : ConnectCalls) :
    Reconnected s.assembledControllerAddress (s.chosenAddress calls) s (s.agentReconnect calls).2 := by
  have hensure : { s with assembledControllerAddress := none }.ensureAssembledControllerAddress calls =
      ((s.chosenAddress calls).isSome,
        { s with assembledControllerAddress := s.chosenAddress calls }) := by
    unfold ensureAssembledControllerAddress chosenAddress
    dsimp only [Option.isSome_none]
    cases s.controllerAddress with
    | some address => rfl
    | none =>
      dsimp only
      cases s.host.bind calls.resolve <;> rfl
  unfold agentReconnect
  dsimp only
  rw [hensure]
  cases s.chosenAddress calls with
  | none => exact ⟨rfl, [], none, [], by simp [attemptOutputs], by simp, by simp⟩
  | some address =>
    dsimp only [Option.isSome_some]
    -- the old address was taken out, and is compared with the new one
    by_cases hchanged : s.assembledControllerAddress.isSome ∧
        some address ≠ s.assembledControllerAddress
    · rw [if_pos hchanged]
      obtain ⟨haddresses, bus, l, hlog, hl⟩ := agentConnect_log
        ({ s with assembledControllerAddress := some address }.emit
          (.controllerAddress (some address))).agentPeerBusClose calls
      refine ⟨haddresses, [], bus, l, ?_, by simp, hl⟩
      rw [hlog, attemptOutputs, if_pos hchanged]
      simp [agentPeerBusClose]
    · rw [if_neg hchanged]
      obtain ⟨haddresses, bus, l, hlog, hl⟩ := agentConnect_log
        { s with assembledControllerAddress := some address }.agentPeerBusClose calls
      refine ⟨haddresses, [], bus, l, ?_, by simp, hl⟩
      rw [hlog, attemptOutputs, if_neg hchanged]
      simp [agentPeerBusClose]

lemma reconnected_agentDisconnected (s : AgentLink) (now nowMonotonic : UInt64)
    (calls : ConnectCalls) : Reconnected s.assembledControllerAddress (s.chosenAddress calls) s
      (s.agentDisconnected now nowMonotonic calls) := by
  let t : AgentLink := { { s with connectionState := .retry }.emitStatus with
    disconnectTimestamp := now, disconnectTimestampMonotonic := nowMonotonic }
  have hsame : SameAddress s t := ⟨rfl, [_], rfl, by simp [LinkOutput.isAddress]⟩
  exact hsame.reconnected (reconnected_agentReconnect t calls)

/-! ## Steps -/

/-- An event that makes the agent reconnect, with the old address and the new one. A lost
connection is the first reconnect of a tick; without an address a second one follows. -/
def reconnect (s : AgentLink) : LinkEvent → Option (Option String × Option String)
  | .disconnected _ _ calls => some (s.assembledControllerAddress, s.chosenAddress calls)
  | .heartbeatTimer _ nowMonotonic calls calls' =>
    match s.connectionState with
    | .disconnected => none
    | .connected =>
      if s.controllerExpired nowMonotonic then
        match s.chosenAddress calls with
        | some address => some (s.assembledControllerAddress, some address)
        | none => some (none, s.chosenAddress calls')
      else none
    | _ => some (s.assembledControllerAddress, s.chosenAddress calls')
  | _ => none

lemma agentConnect_state (s : AgentLink) (calls : ConnectCalls) :
    (s.agentConnect calls).2.connectionState = .connecting := by
  unfold agentConnect
  dsimp only
  split
  · split <;> rfl
  · rfl

/-- After a lost connection the agent is CONNECTING when it has an address, else in RETRY. -/
lemma agentDisconnected_state (s : AgentLink) (now nowMonotonic : UInt64) (calls : ConnectCalls) :
    (s.agentDisconnected now nowMonotonic calls).connectionState =
      if (s.chosenAddress calls).isSome then .connecting else .retry := by
  have haddress : s.HasAddress calls ↔ (s.chosenAddress calls).isSome := by
    unfold HasAddress chosenAddress
    rw [Option.isSome_or, Bool.or_eq_true, Option.ne_none_iff_isSome, Option.ne_none_iff_isSome]
  unfold agentDisconnected
  dsimp only
  by_cases h : s.HasAddress calls
  · rw [if_pos (haddress.mp h)]
    exact (attempted_agentReconnect (by exact h)).state
  · rw [if_neg (haddress.not.mp h), agentReconnect_of_not (by exact h)]
    rfl

lemma reconnected_retryConnection (hstate : s.connectionState = .retry) (calls : ConnectCalls) :
    Reconnected s.assembledControllerAddress (s.chosenAddress calls) s (s.retryConnection calls) := by
  unfold retryConnection
  rw [if_pos hstate]
  let t : AgentLink := { s with connectionRetryCount := s.connectionRetryCount + 1 }
  have hsame : SameAddress s t := .of_log_eq rfl rfl
  exact hsame.reconnected (reconnected_agentReconnect t calls)

lemma retryConnection_of_ne (hstate : s.connectionState ≠ .retry) (calls : ConnectCalls) :
    s.retryConnection calls = s := by
  unfold retryConnection
  rw [if_neg hstate]

/-- The second reconnect of a tick. -/
lemma reconnected_lost (s : AgentLink) (now nowMonotonic : UInt64) (calls calls' : ConnectCalls)
    (hnone : s.chosenAddress calls = none) : Reconnected none (s.chosenAddress calls') s
      ((s.agentDisconnected now nowMonotonic calls).retryConnection calls') := by
  have hlost := reconnected_agentDisconnected s now nowMonotonic calls
  have hstate := agentDisconnected_state s now nowMonotonic calls
  rw [hnone] at hlost hstate
  have haddresses := hlost.addresses
  simp only [addresses, Prod.mk.injEq] at haddresses
  have hretry := reconnected_retryConnection hstate calls'
  unfold chosenAddress at hretry ⊢
  rw [haddresses.1, haddresses.2.1, haddresses.2.2] at hretry
  exact hlost.again hretry

/-- What a tick does to the address. -/
lemma agentHeartbeatTimerCallback_address (s : AgentLink) (now nowMonotonic : UInt64)
    (calls calls' : ConnectCalls) :
    match s.reconnect (.heartbeatTimer now nowMonotonic calls calls') with
    | none => SameAddress s (s.agentHeartbeatTimerCallback now nowMonotonic calls calls')
    | some (old, chosen) =>
      Reconnected old chosen s (s.agentHeartbeatTimerCallback now nowMonotonic calls calls') := by
  rw [agentHeartbeatTimerCallback_eq]
  have hretry : Reconnected s.assembledControllerAddress (s.chosenAddress calls') s
      (s.beforeRetry.agentReconnect calls').2 := by
    have hsame : SameAddress s s.beforeRetry := by rw [beforeRetry_eq]; exact .of_log_eq rfl rfl
    have hreconnect := reconnected_agentReconnect s.beforeRetry calls'
    rw [show s.beforeRetry.chosenAddress calls' = s.chosenAddress calls' by rw [beforeRetry_eq]; rfl,
      show s.beforeRetry.assembledControllerAddress = s.assembledControllerAddress by
        rw [beforeRetry_eq]] at hreconnect
    exact hsame.reconnected hreconnect
  unfold reconnect
  dsimp only
  cases hstate : s.connectionState with
  | disconnected => exact .of_log_eq rfl rfl
  | connected =>
    dsimp only
    by_cases hexpired : s.controllerExpired nowMonotonic = true
    · rw [if_pos hexpired, if_pos hexpired]
      cases hchosen : s.chosenAddress calls with
      | none => exact reconnected_lost s now nowMonotonic calls calls' hchosen
      | some address =>
        -- the agent is CONNECTING, and does not try again
        have hdisconnected := reconnected_agentDisconnected s now nowMonotonic calls
        have hconnecting := agentDisconnected_state s now nowMonotonic calls
        rw [hchosen] at hdisconnected hconnecting
        dsimp only
        rw [retryConnection_of_ne (by rw [hconnecting]; simp)]
        exact hdisconnected
    · rw [if_neg hexpired, if_neg hexpired]
      exact (sameProxies_sendHeartbeat s).1.sameAddress
  | retry => exact hretry
  | connecting => exact hretry

lemma sameAddress_agentRegisterCallback (s : AgentLink) (reply : RegisterReply)
    (now nowMonotonic : UInt64) (fails : ControllerMember → Bool) (results : ℕ → EmitResult) :
    SameAddress s (s.agentRegisterCallback reply now nowMonotonic fails results) := by
  unfold agentRegisterCallback agentProcessRegisterCallback
  split
  · exact .of_log_eq rfl rfl
  cases reply with
  | error message => exact .of_log_eq rfl rfl
  | unreadable => exact .of_log_eq rfl rfl
  | ok =>
    let t : AgentLink := { s with
      connectionState := .connected
      connectionRetryCount := 0
      controllerLastSeen := now
      controllerLastSeenMonotonic := nowMonotonic
      disconnectTimestamp := 0
      disconnectTimestampMonotonic := 0 }
    have hstatus : SameAddress s t.emitStatus := ⟨rfl, [_], rfl, by simp [LinkOutput.isAddress]⟩
    dsimp only
    by_cases hheartbeat : fails .heartbeat = true
    · rw [if_pos hheartbeat]
      exact hstatus.trans (.of_log_eq rfl rfl)
    rw [if_neg hheartbeat]
    by_cases hdisconnected : fails .disconnected = true
    · rw [if_pos hdisconnected]
      exact hstatus.trans (.of_log_eq rfl rfl)
    rw [if_neg hdisconnected]
    dsimp only
    refine SameAddress.trans ?_ (sameProxies_reemit results _ _).1.sameAddress
    exact hstatus.trans (.of_log_eq rfl rfl)

lemma sameAddress_agentStop (s : AgentLink) (calls : ℕ → RemoveCalls) :
    SameAddress s (s.agentStop calls) := by
  unfold agentStop
  dsimp only
  let t : AgentLink := { s.agentPeerBusClose with connectionState := .disconnected }
  have hstatus : SameAddress s t.emitStatus := ⟨rfl, [_], rfl, by simp [LinkOutput.isAddress]⟩
  have hremoved := (sameProxies_removeAll calls t.emitStatus.proxyServices t.emitStatus).1.sameAddress
  exact (hstatus.trans hremoved).trans (.of_log_eq rfl rfl)

/-- An accepted switch announces the new address before the attempt. -/
structure Switched (address : String) (s s' : AgentLink) : Prop where
  addresses : s'.addresses = (s.host, some address, some address)
  log : ∃ l bus l', s'.log = s.log ++ (.controllerAddress (some address) ::
      (l ++ (.attempt (some address) bus :: l'))) ∧
    (∀ o ∈ l, o.isAddress = false) ∧ ∀ o ∈ l', o.isAddress = false

/-- The request to switch is accepted. -/
def accepts (s : AgentLink) : LinkEvent → Option String
  | .switchController _ address .. =>
    if s.assembledControllerAddress = some address then none else some address
  | _ => none

lemma switched_agentMethodSwitchController {address : String}
    (hnew : s.assembledControllerAddress ≠ some address) (serial : Serial)
    (now nowMonotonic : UInt64) (calls : ConnectCalls) :
    Switched address s (s.agentMethodSwitchController serial address now nowMonotonic calls) := by
  unfold agentMethodSwitchController
  rw [if_neg hnew]
  dsimp only
  let t : AgentLink := { s with
    assembledControllerAddress := some address, controllerAddress := some address }
  have hdisconnected := reconnected_agentDisconnected (t.emit (.controllerAddress address)) now
    nowMonotonic calls
  have hreply : SameAddress _ _ := (sameProxies_emit ((t.emit (.controllerAddress address)
    ).agentDisconnected now nowMonotonic calls) (o := .reply serial) rfl).1.sameAddress
  have ⟨haddresses, l, bus, l', hlog, hl, hl'⟩ := hdisconnected.trans hreply
  refine ⟨haddresses, l, bus, l', ?_, hl, hl'⟩
  rw [hlog]
  show s.log ++ [.controllerAddress (some address)] ++
    (l ++ (attemptOutputs (some address) (some address) bus ++ l')) = _
  simp [attemptOutputs]

/-- What an event does to the address. -/
theorem handle_address {e : LinkEvent} (hstep : s.handle e = some s') :
    match s.reconnect e, s.accepts e with
    | some (old, chosen), _ => Reconnected old chosen s s'
    | none, some address => Switched address s s'
    | none, none => SameAddress s s' := by
  cases e with
  | registerReply reply now nowMonotonic fails results =>
    simp only [handle] at hstep
    split at hstep
    · next bus _ =>
      rw [← Option.some.inj hstep]
      let t : AgentLink := { s with registerCallSlot := some ⟨bus, true⟩ }
      have hsame : SameAddress s t := .of_log_eq rfl rfl
      exact hsame.trans (sameAddress_agentRegisterCallback t ..)
    · cases hstep
  | disconnected now nowMonotonic calls =>
    simp only [handle] at hstep
    split at hstep
    · rw [← Option.some.inj hstep]
      exact reconnected_agentDisconnected s now nowMonotonic calls
    · cases hstep
  | heartbeatTimer now nowMonotonic calls calls' =>
    rw [← Option.some.inj hstep]
    have htick := agentHeartbeatTimerCallback_address s now nowMonotonic calls calls'
    split at htick
    · next hnone => rw [hnone]; exact htick
    · next hsome => rw [hsome]; exact htick
  | controllerHeartbeat now nowMonotonic =>
    simp only [handle] at hstep
    split at hstep
    · rw [← Option.some.inj hstep]
      exact (sameProxies_agentMatchHeartbeat s _ _).1.sameAddress
    · cases hstep
  | switchController serial address now nowMonotonic calls =>
    rw [← Option.some.inj hstep]
    dsimp only [reconnect, accepts]
    by_cases hsame : s.assembledControllerAddress = some address
    · rw [if_pos hsame]
      unfold agentMethodSwitchController
      rw [if_pos hsame]
      exact (sameProxies_emit s rfl).1.sameAddress
    · rw [if_neg hsame]
      exact switched_agentMethodSwitchController hsame ..
  | createProxy serial localServiceName nodeName unitName exports result =>
    rw [← Option.some.inj hstep]
    exact (sameConnection_agentMethodCreateProxy s ..).sameAddress
  | removeProxy serial localServiceName nodeName unitName calls =>
    rw [← Option.some.inj hstep]
    exact (sameProxies_agentMethodRemoveProxy s ..).1.sameAddress
  | target ptr serial call calls =>
    obtain ⟨proxy, _, heq⟩ := Option.map_eq_some_iff.mp hstep
    rw [← heq]
    exact ((sameProxies_proxyServiceMethod s _ _ _).trans (sameProxies_answer _ _)).1.sameAddress
  | stop calls =>
    rw [← Option.some.inj hstep]
    exact sameAddress_agentStop s calls

end AgentLink

open AgentLink

/-! ## Runs -/

/-- A run of the agent: its configuration, the value of `ControllerAddress` that was readable
after `agent_start`, and the address of the last accepted `SwitchController` request. -/
structure AddressRun where
  link : AgentLink
  config : LinkConfig
  readable : Option String
  switched : Option String

namespace AddressRun

/-- `agent_start`: an agent does not start without an address. -/
def start (config : LinkConfig) (calls : ConnectCalls) : Option AddressRun :=
  match { agentLinkNew config "" with assembledControllerAddress := none
    }.ensureAssembledControllerAddress calls with
  | (true, s) => some ⟨s.agentStart calls, config, s.assembledControllerAddress, none⟩
  | (false, _) => none

/-- The request of a client to switch that was answered without an error. -/
def acceptedSwitch (s' : AgentLink) : LinkEvent → Option String
  | .switchController serial address .. =>
    if s'.log.getLast? = some (.reply serial) then some address else none
  | _ => none

def step (r : AddressRun) (e : LinkEvent) : Option AddressRun :=
  (r.link.step e).map fun s => { r with link := s, switched := (acceptedSwitch s e).or r.switched }

def addressSystem : System AddressRun LinkEvent where
  init r := ∃ config calls, start config calls = some r
  step := step

/-- The address that the host has when the agent reconnects. -/
def freshAddress (host : Option String) (s : AgentLink) : LinkEvent → Option String
  | .disconnected _ _ calls => host.bind calls.resolve
  | .heartbeatTimer _ _ calls calls' =>
    if s.agentIsConnected then (host.bind calls.resolve).or (host.bind calls'.resolve)
    else host.bind calls'.resolve
  | .switchController _ _ _ _ calls => host.bind calls.resolve
  | _ => none

/-- The address that the attempts of a step have to use: the one of the last accepted request,
else the configured one, else the one of the host. -/
def dueAddress (r r' : AddressRun) (e : LinkEvent) : Option String :=
  (r'.switched.or r.config.controllerAddress).or (freshAddress r.config.host r.link e)

/-- The value of `ControllerAddress` that was announced last, if not the one readable first. -/
def announced (r : AddressRun) : Option String := announcedAddress r.readable r.link.log

/-- The attempts of a step use the address that is due, which has been announced. -/
def StepAgrees (r : AddressRun) (e : LinkEvent) : Prop :=
  ∀ r', addressSystem.step r e = some r' →
    AttemptsAgree (dueAddress r r' e) r.announced (r'.link.log.drop r.link.log.length)

/-- A reconnect has no old address to compare with, because the host was not resolved. -/
def LacksAddress (s : AgentLink) : LinkEvent → Prop
  | .disconnected .. => s.assembledControllerAddress = none
  | .heartbeatTimer _ nowMonotonic calls _ =>
    match s.connectionState with
    | .disconnected => False
    | .connected => s.controllerExpired nowMonotonic ∧
      (s.assembledControllerAddress = none ∨ s.host.bind calls.resolve = none)
    | _ => s.assembledControllerAddress = none
  | _ => False

/-- Without an old address the host has the address that was announced last. -/
def FindsAnnounced (r : AddressRun) (e : LinkEvent) : Prop :=
  r.link.controllerAddress = none → LacksAddress r.link e → ∀ address,
    freshAddress r.link.host r.link e = some address → r.announced = some address

variable {r r' : AddressRun}

lemma step_eq_some_iff {e : LinkEvent} : addressSystem.step r e = some r' ↔
    (r.link.stopped = false ∧ r.link.aborted = false) ∧ r.link.handle e = some r'.link ∧
      r'.config = r.config ∧ r'.readable = r.readable ∧
      r'.switched = (acceptedSwitch r'.link e).or r.switched := by
  show (r.link.step e).map _ = _ ↔ _
  unfold AgentLink.step
  have hsplit : ∀ s, ({ r with link := s, switched := (acceptedSwitch s e).or r.switched } = r' ↔
      s = r'.link ∧ r'.config = r.config ∧ r'.readable = r.readable ∧
        r'.switched = (acceptedSwitch r'.link e).or r.switched) := fun s => by
    constructor
    · intro h
      rw [← h]
      exact ⟨rfl, rfl, rfl, rfl⟩
    · intro ⟨hlink, hconfig, hreadable, hswitched⟩
      rw [hlink, ← hconfig, ← hreadable, ← hswitched]
  cases r.link.stopped <;> cases r.link.aborted <;> simp [Option.map_eq_some_iff, hsplit]

/-- The configured address is the one that is used, and the one in use has been announced. -/
structure AddressInv (r : AddressRun) : Prop where
  configured : r.link.controllerAddress = r.switched.or r.config.controllerAddress
  host : r.link.host = r.config.host
  used : ∀ address, r.link.controllerAddress = some address →
    r.link.assembledControllerAddress = some address
  announced : ∀ address, r.link.assembledControllerAddress = some address →
    r.announced = some address

/-- The reply tells whether the request was accepted. -/
lemma acceptedSwitch_eq {s s' : AgentLink} {e : LinkEvent} (hstep : s.handle e = some s') :
    acceptedSwitch s' e = s.accepts e := by
  cases e with
  | switchController serial address now nowMonotonic calls =>
    rw [← Option.some.inj hstep]
    unfold acceptedSwitch accepts agentMethodSwitchController
    by_cases hsame : s.assembledControllerAddress = some address
    · simp [hsame]
    · simp [hsame]
  | _ => rfl

/-- A reconnect uses the configured address or the one of the host, and has no old address when
it lacks one. -/
lemma reconnect_eq_some {s : AgentLink} {e : LinkEvent} {old chosen : Option String}
    (h : s.reconnect e = some (old, chosen)) :
    s.accepts e = none ∧ chosen = s.controllerAddress.or (freshAddress s.host s e) ∧
      (∀ address, old = some address → s.assembledControllerAddress = some address) ∧
      (s.controllerAddress = none → (LacksAddress s e ↔ old = none)) ∧
      (s.controllerAddress ≠ none → old = s.assembledControllerAddress) := by
  cases e with
  | disconnected now nowMonotonic calls =>
    have hpair := Prod.ext_iff.mp (Option.some.inj h)
    rw [← show _ = old from hpair.1, ← show _ = chosen from hpair.2]
    exact ⟨rfl, rfl, fun _ => id, fun _ => Iff.rfl, fun _ => rfl⟩
  | heartbeatTimer now nowMonotonic calls calls' =>
    refine ⟨rfl, ?_⟩
    unfold reconnect at h
    unfold freshAddress LacksAddress agentIsConnected
    dsimp only at h ⊢
    have hretry : s.connectionState = .connecting ∨ s.connectionState = .retry →
        some (s.assembledControllerAddress, s.chosenAddress calls') = some (old, chosen) →
        chosen = s.controllerAddress.or (s.host.bind calls'.resolve) ∧
          old = s.assembledControllerAddress := by
      intro _ h
      have hpair := Prod.ext_iff.mp (Option.some.inj h)
      exact ⟨hpair.2.symm, hpair.1.symm⟩
    cases hstate : s.connectionState with
    | disconnected =>
      rw [hstate] at h
      cases h
    | connected =>
      rw [hstate] at h
      dsimp only at h ⊢
      split at h
      · next hexpired =>
        cases hchosen : s.chosenAddress calls with
        | none =>
          have ⟨hnone, hresolve⟩ := Option.or_eq_none_iff.mp hchosen
          rw [hchosen] at h
          have hpair := Prod.ext_iff.mp (Option.some.inj h)
          rw [← show _ = old from hpair.1, ← show _ = chosen from hpair.2]
          refine ⟨?_, fun _ hno => absurd hno (by simp), fun _ => ?_, fun hno => absurd hnone hno⟩
          · simp [chosenAddress, hnone, hresolve]
          · simp [hexpired, hresolve]
        | some address =>
          rw [hchosen] at h
          have hpair := Prod.ext_iff.mp (Option.some.inj h)
          rw [← show _ = old from hpair.1, ← show _ = chosen from hpair.2]
          refine ⟨?_, fun _ => id, fun hnone => ?_, fun _ => rfl⟩
          · rw [← hchosen, chosenAddress]
            unfold chosenAddress at hchosen
            cases hconfigured : s.controllerAddress with
            | some address => simp
            | none =>
              rw [hconfigured] at hchosen
              simp [show s.host.bind calls.resolve = some address from hchosen]
          · rw [chosenAddress, hnone] at hchosen
            simp [hexpired, show s.host.bind calls.resolve = some address from hchosen]
      · cases h
    | retry =>
      rw [hstate] at h
      have ⟨hchosen, hold⟩ := hretry (Or.inr hstate) h
      rw [hchosen, hold]
      exact ⟨rfl, fun _ => id, fun _ => Iff.rfl, fun _ => rfl⟩
    | connecting =>
      rw [hstate] at h
      have ⟨hchosen, hold⟩ := hretry (Or.inl hstate) h
      rw [hchosen, hold]
      exact ⟨rfl, fun _ => id, fun _ => Iff.rfl, fun _ => rfl⟩
  | _ => cases h

/-- Without a reconnect nothing can be lacking. -/
lemma not_lacksAddress {s : AgentLink} {e : LinkEvent} (h : s.reconnect e = none) :
    ¬ LacksAddress s e := by
  cases e with
  | disconnected => cases h
  | heartbeatTimer now nowMonotonic calls calls' =>
    unfold reconnect at h
    unfold LacksAddress
    dsimp only at h ⊢
    cases hstate : s.connectionState with
    | disconnected => exact id
    | connected =>
      rw [hstate] at h
      dsimp only at h ⊢
      intro hlacks
      rw [if_pos hlacks.1] at h
      split at h <;> cases h
    | _ =>
      rw [hstate] at h
      cases h
  | _ => exact id

namespace AddressInv

/-- The address of the host that a reconnect finds has to be the one announced last only when
there is no old address. -/
lemma findsAnnounced_iff (h : AddressInv r) {e : LinkEvent} {old chosen : Option String}
    (hreconnect : r.link.reconnect e = some (old, chosen)) : FindsAnnounced r e ↔
      (old = none → ∀ address, chosen = some address → r.announced = some address) := by
  have ⟨_, hchosen, _, hlacks, hconfigured⟩ := reconnect_eq_some hreconnect
  unfold FindsAnnounced
  cases hcontroller : r.link.controllerAddress with
  | some address =>
    -- the address in use is the configured one
    have hold := hconfigured (by rw [hcontroller]; simp)
    rw [h.used address hcontroller] at hold
    exact iff_of_true (fun hno => absurd hno (by simp)) fun hno => absurd (hold.symm.trans hno) (by simp)
  | none =>
    rw [hlacks hcontroller, hchosen, hcontroller]
    exact ⟨fun hall => hall rfl, fun hall _ => hall⟩

/-- A step agrees exactly when the address it finds has been announced. -/
theorem stepAgrees_iff (h : AddressInv r) {e : LinkEvent} (hstep : addressSystem.step r e = some r') :
    StepAgrees r e ↔ FindsAnnounced r e := by
  have ⟨_, hhandle, hconfig, _, hswitched⟩ := step_eq_some_iff.mp hstep
  rw [acceptedSwitch_eq hhandle] at hswitched
  have haddress := handle_address hhandle
  have hstepAgrees : StepAgrees r e ↔ AttemptsAgree (dueAddress r r' e) r.announced
      (r'.link.log.drop r.link.log.length) := by
    constructor
    · intro hall
      exact hall r' hstep
    · intro hone t ht
      rw [hstep, Option.some.injEq] at ht
      rw [← ht]
      exact hone
  rw [hstepAgrees]
  cases hreconnect : r.link.reconnect e with
  | some pair =>
    have ⟨old, chosen⟩ := pair
    rw [hreconnect] at haddress
    have ⟨haccepts, hchosen, hold, _, _⟩ := reconnect_eq_some hreconnect
    have hdue : dueAddress r r' e = chosen := by
      unfold dueAddress
      rw [hswitched, haccepts, Option.none_or, ← h.configured, ← h.host, hchosen]
    rw [hdue, haddress.attemptsAgree_iff fun address hsome => h.announced address (hold address hsome)]
    exact (h.findsAnnounced_iff hreconnect).symm
  | none =>
    rw [hreconnect] at haddress
    refine iff_of_true ?_ fun _ hlacks => absurd hlacks (not_lacksAddress hreconnect)
    cases haccepts : r.link.accepts e with
    | none =>
      rw [haccepts] at haddress
      have ⟨l, hlog, hl⟩ := haddress.log
      rw [hlog, List.drop_left]
      exact attemptsAgree_of_isAddress hl _ _
    | some address =>
      rw [haccepts] at haddress
      have ⟨l, bus, l', hlog, hl, hl'⟩ := haddress.log
      have hdue : dueAddress r r' e = some address := by
        unfold dueAddress
        rw [hswitched, haccepts]
        rfl
      rw [hlog, List.drop_left, hdue]
      show AttemptsAgree _ (some address) (l ++ _)
      rw [attemptsAgree_append, announcedAddress_of_isAddress hl]
      exact ⟨attemptsAgree_of_isAddress hl _ _, ⟨rfl, rfl, rfl⟩, attemptsAgree_of_isAddress hl' _ _⟩

/-- A step that finds the announced address keeps the invariant. -/
theorem step (h : AddressInv r) {e : LinkEvent} (hfinds : FindsAnnounced r e)
    (hstep : addressSystem.step r e = some r') : AddressInv r' := by
  have ⟨_, hhandle, hconfig, hreadable, hswitched⟩ := step_eq_some_iff.mp hstep
  rw [acceptedSwitch_eq hhandle] at hswitched
  have haddress := handle_address hhandle
  cases hreconnect : r.link.reconnect e with
  | some pair =>
    have ⟨old, chosen⟩ := pair
    rw [hreconnect] at haddress
    have ⟨haccepts, hchosen, hold, _, _⟩ := reconnect_eq_some hreconnect
    have haddresses := haddress.addresses
    simp only [addresses, Prod.mk.injEq] at haddresses
    have ⟨hhost, hcontroller, hassembled⟩ := haddresses
    rw [haccepts, Option.none_or] at hswitched
    refine ⟨?_, ?_, fun address hsome => ?_, fun address hsome => ?_⟩
    · rw [hcontroller, hswitched, hconfig, h.configured]
    · rw [hhost, hconfig, h.host]
    · rw [hassembled, hchosen, ← hcontroller, hsome]
      rfl
    · rw [hassembled] at hsome
      have hfound := (h.findsAnnounced_iff hreconnect).mp hfinds
      rw [AddressRun.announced, hreadable, haddress.announced, hsome]
      split
      · rfl
      · next hsame =>
        -- nothing is announced: the old address is missing, or it is the new one
        cases hbefore : old with
        | none => exact hfound hbefore address hsome
        | some before =>
          rw [hbefore] at hsame
          have heq : some address = some before := by
            by_contra hne
            exact hsame ⟨rfl, rfl, hne⟩
          exact h.announced address (hold address (hbefore.trans heq.symm))
  | none =>
    rw [hreconnect] at haddress
    cases haccepts : r.link.accepts e with
    | none =>
      rw [haccepts] at haddress hswitched
      have haddresses := haddress.addresses
      simp only [addresses, Prod.mk.injEq] at haddresses
      have ⟨hhost, hcontroller, hassembled⟩ := haddresses
      refine ⟨?_, ?_, fun address hsome => ?_, fun address hsome => ?_⟩
      · rw [hcontroller, hswitched, hconfig, h.configured]
        rfl
      · rw [hhost, hconfig, h.host]
      · rw [hassembled]
        exact h.used address (hcontroller ▸ hsome)
      · have ⟨l, hlog, hl⟩ := haddress.log
        rw [AddressRun.announced, hreadable, hlog, announcedAddress_append,
          announcedAddress_of_isAddress hl]
        exact h.announced address (hassembled ▸ hsome)
    | some address =>
      rw [haccepts] at haddress hswitched
      have haddresses := haddress.addresses
      simp only [addresses, Prod.mk.injEq] at haddresses
      have ⟨hhost, hcontroller, hassembled⟩ := haddresses
      refine ⟨?_, ?_, fun address' hsome => ?_, fun address' hsome => ?_⟩
      · rw [hcontroller, hswitched]
        rfl
      · rw [hhost, hconfig, h.host]
      · rw [hassembled, ← hcontroller, hsome]
      · have ⟨l, bus, l', hlog, hl, hl'⟩ := haddress.log
        rw [AddressRun.announced, hreadable, hlog, ← hsome, hassembled, announcedAddress_append]
        show announcedAddress _ ([.controllerAddress (some address)] ++
          (l ++ ([.attempt (some address) bus] ++ l'))) = _
        simp only [announcedAddress_append]
        rw [announcedAddress_of_isAddress hl', announcedAddress_of_isAddress hl]
        rfl

end AddressInv

/-- An agent starts with the configured address or the one of the host. -/
lemma start_eq_some {config : LinkConfig} {calls : ConnectCalls} (h : start config calls = some r) :
    ∃ address, config.controllerAddress.or (config.host.bind calls.resolve) = some address ∧
      r = ⟨(agentLinkNew config address).agentStart calls, config, some address, none⟩ := by
  unfold start ensureAssembledControllerAddress at h
  dsimp only [Option.isSome_none, agentLinkNew] at h
  cases hcontroller : config.controllerAddress with
  | some address =>
    rw [hcontroller] at h
    refine ⟨address, rfl, ?_⟩
    rw [← Option.some.inj h]
    unfold agentLinkNew
    rw [hcontroller]
  | none =>
    rw [hcontroller] at h
    cases hresolve : config.host.bind calls.resolve with
    | some address =>
      simp only [hresolve] at h
      refine ⟨address, rfl, ?_⟩
      rw [← Option.some.inj h]
      unfold agentLinkNew
      rw [hcontroller]
    | none => simp [hresolve] at h

lemma agentStart_log (s : AgentLink) (calls : ConnectCalls) :
    (s.agentStart calls).addresses = s.addresses ∧
      ∃ bus l, (s.agentStart calls).log = s.log ++ ([.attempt s.assembledControllerAddress bus] ++ l) ∧
        ∀ o ∈ l, o.isAddress = false := by
  have hconnect := agentConnect_log s calls
  unfold agentStart
  split
  · next heq =>
    rw [heq] at hconnect
    exact hconnect
  · next heq =>
    rw [heq] at hconnect
    exact hconnect

/-- The first attempt agrees, and the invariant holds after it. -/
lemma addressInv_start {config : LinkConfig} {calls : ConnectCalls} (h : start config calls = some r) :
    AddressInv r ∧ AttemptsAgree (config.controllerAddress.or (config.host.bind calls.resolve))
      r.readable r.link.log := by
  have ⟨address, hchosen, hr⟩ := start_eq_some h
  have ⟨haddresses, bus, l, hlog, hl⟩ := agentStart_log (agentLinkNew config address) calls
  simp only [addresses, Prod.mk.injEq] at haddresses
  have ⟨hhost, hcontroller, hassembled⟩ := haddresses
  rw [hchosen, hr]
  refine ⟨⟨hcontroller, hhost, fun address' hsome => ?_, fun address' hsome => ?_⟩, ?_⟩
  · rw [hassembled]
    rw [hcontroller] at hsome
    rw [show config.controllerAddress = some address' from hsome] at hchosen
    exact hchosen.symm
  · rw [hassembled] at hsome
    show announcedAddress (some address) (AgentLink.log _) = _
    rw [hlog]
    show announcedAddress _ ([] ++ ([_] ++ l)) = _
    rw [announcedAddress_append, announcedAddress_append, announcedAddress_of_isAddress hl]
    exact hsome
  · show AttemptsAgree _ _ (AgentLink.log _)
    rw [hlog]
    exact ⟨⟨rfl, rfl, rfl⟩, attemptsAgree_of_isAddress hl _ _⟩

/-- The first attempt uses the address that is due, and so do all attempts of a run, with a value
that has been announced, exactly when each reconnect that has no old address to compare with
finds the address that was announced last. -/
theorem attempts_agree_iff {config : LinkConfig} {calls : ConnectCalls} {es : List LinkEvent}
    (hstart : start config calls = some r) (hrun : run addressSystem r es = some r') :
    AttemptsAgree (config.controllerAddress.or (config.host.bind calls.resolve)) r.readable r.link.log ∧
        GuardedRun addressSystem StepAgrees r es ↔
      GuardedRun addressSystem FindsAnnounced r es := by
  have ⟨hinv, hfirst⟩ := addressInv_start hstart
  rw [and_iff_right hfirst]
  apply GuardedRun.congr_of_invariant _ _ hinv hrun
  · exact fun s e s' h hstep => h.stepAgrees_iff hstep
  · exact fun s e s' h hfinds hstep => h.step hfinds hstep

/-- The host name, and a resolver that knows it as `address`. -/
def controllerHost : LinkConfig := ⟨some "controller.local", none, 0⟩

def resolvesTo (address : Option String) : ConnectCalls := ⟨fun _ => address, true, true, true⟩

/-- An agent that found its controller at the first address. -/
def startedAgent : AddressRun where
  link := (agentLinkNew controllerHost "tcp:host=10.0.0.1,port=842").agentStart
    (resolvesTo "tcp:host=10.0.0.1,port=842")
  config := controllerHost
  readable := "tcp:host=10.0.0.1,port=842"
  switched := none

/-- One tick, in which the host has that address. -/
def tick (address : Option String) : LinkEvent :=
  .heartbeatTimer 7 7 (resolvesTo none) (resolvesTo address)

/-- The host moves while the agent tries again, which is announced. -/
theorem attempts_agree_moved : ∃ r', run addressSystem startedAgent
      [tick (some "tcp:host=10.0.0.2,port=842")] = some r' ∧
    AttemptsAgree (some "tcp:host=10.0.0.1,port=842") startedAgent.readable startedAgent.link.log ∧
      GuardedRun addressSystem StepAgrees startedAgent [tick (some "tcp:host=10.0.0.2,port=842")] := by
  have ⟨r', hrun⟩ : ∃ r', run addressSystem startedAgent
      [tick (some "tcp:host=10.0.0.2,port=842")] = some r' := ⟨_, rfl⟩
  have hguard : GuardedRun addressSystem FindsAnnounced startedAgent
      [tick (some "tcp:host=10.0.0.2,port=842")] := by
    refine ⟨fun _ hlacks => ?_, fun _ _ => trivial⟩
    have hnone : startedAgent.link.assembledControllerAddress = none := hlacks
    cases hnone
  have hstart : start controllerHost (resolvesTo "tcp:host=10.0.0.1,port=842") =
      some startedAgent := rfl
  exact ⟨r', hrun, (attempts_agree_iff hstart hrun).mpr hguard⟩

/-- When the host could not be resolved in between, the move is not announced. -/
theorem attempts_not_announced : ¬ ∀ config calls r es r', start config calls = some r →
    run addressSystem r es = some r' → GuardedRun addressSystem StepAgrees r es := by
  intro h
  have hall := h controllerHost (resolvesTo "tcp:host=10.0.0.1,port=842") startedAgent
    [tick none, tick (some "tcp:host=10.0.0.2,port=842")] _ rfl rfl
  have hsecond := (hall.2 _ rfl).1 _ rfl
  have hagrees : (some "tcp:host=10.0.0.2,port=842" : Option String) =
      some "tcp:host=10.0.0.1,port=842" := hsecond.1.2.2
  simp at hagrees

end AddressRun
end BlueChi
