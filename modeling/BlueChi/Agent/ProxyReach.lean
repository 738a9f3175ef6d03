import BlueChi.Agent.ConnectionState

/-!
# Reaching the proxies

The controller reaches a proxy over the connection on which it is exported, once it has been
told about it by a `ProxyNew` signal. Both are done for the connection at hand when a proxy is
created. A new connection gets the signals again when the agent registers on it, but no proxy is
exported on it. So the proxies are reached as long as the agent does not reconnect while it has
one, and as long as the signals can be sent (`KeepsProxies`).
-/

namespace BlueChi

open Execution

/-- The `ProxyNew` signal of a proxy. -/
def ProxyService.announcement (proxy : ProxyService) (bus : BusId) : LinkOutput :=
  .proxyNew bus proxy.ptr proxy.nodeName proxy.unitName proxy.objectPath

lemma ProxyService.announcement_congr {proxy proxy' : ProxyService}
    (h : proxy'.key = proxy.key) (bus : BusId) :
    proxy'.announcement bus = proxy.announcement bus := by
  simp only [key, Prod.mk.injEq] at h
  obtain ⟨hptr, hid, hnode, hunit, -, -⟩ := h
  unfold announcement objectPath
  rw [hptr, hid, hnode, hunit]

lemma ProxyService.exportSlot_congr {proxy proxy' : ProxyService}
    (h : proxy'.key = proxy.key) : proxy'.exportSlot = proxy.exportSlot := by
  simp only [key, Prod.mk.injEq] at h
  exact h.2.2.2.2.2

namespace AgentLink

variable {s s' : AgentLink}

/-! ## The invariant -/

/-- The proxies are exported on the peer bus and, once the agent is connected, announced on it. -/
structure ProxyInv (s : AgentLink) : Prop where
  exported : ∀ proxy ∈ s.proxyServices, proxy.exportSlot ≠ none ∧ proxy.exportSlot = s.peerDbus
  announced : s.connectionState = .connected → ∀ proxy ∈ s.proxyServices, ∀ bus,
    s.peerDbus = some bus → proxy.announcement bus ∈ s.log

namespace ProxyInv

lemma of_same (h : ProxyInv s) (hs : SameProxies s s') : ProxyInv s' := by
  refine ⟨fun proxy' hproxy' => ?_, fun hstate proxy' hproxy' bus hbus => ?_⟩
  · obtain ⟨proxy, hproxy, hkey⟩ := hs.kept proxy' hproxy'
    rw [ProxyService.exportSlot_congr hkey, hs.peerDbus]
    exact h.exported proxy hproxy
  · obtain ⟨proxy, hproxy, hkey⟩ := hs.kept proxy' hproxy'
    obtain ⟨l, hl, -⟩ := hs.log
    rw [ProxyService.announcement_congr hkey, hl]
    apply List.mem_append_left
    exact h.announced (hs.state ▸ hstate) proxy hproxy bus (hs.peerDbus ▸ hbus)

lemma congr (h : ProxyInv s) (hlist : s'.proxyServices = s.proxyServices)
    (hbus : s'.peerDbus = s.peerDbus) (hstate : s'.connectionState = s.connectionState)
    (hlog : s'.log = s.log) : ProxyInv s' := by
  refine ⟨?_, ?_⟩
  · rw [hlist, hbus]
    exact h.exported
  · rw [hlist, hbus, hstate, hlog]
    exact h.announced

/-- Any message may be sent. -/
lemma emit (h : ProxyInv s) (o : LinkOutput) : ProxyInv (s.emit o) :=
  ⟨h.exported, fun hstate proxy hproxy bus hbus =>
    List.mem_append_left _ (h.announced hstate proxy hproxy bus hbus)⟩

/-- While the agent is not connected only the export matters. -/
lemma of_not_connected (h : ProxyInv s) (hlist : s'.proxyServices = s.proxyServices)
    (hbus : s'.peerDbus = s.peerDbus) (hstate : s'.connectionState ≠ .connected) :
    ProxyInv s' := by
  refine ⟨fun proxy hproxy => ?_, fun hconnected => absurd hconnected hstate⟩
  rw [hbus]
  exact h.exported proxy (hlist ▸ hproxy)

lemma of_nil (hlist : s.proxyServices = []) : ProxyInv s := by
  refine ⟨fun proxy hproxy => ?_, fun _ proxy hproxy => ?_⟩ <;>
  · rw [hlist] at hproxy
    cases hproxy

end ProxyInv

/-! ## Connecting -/

lemma agentConnect_proxyServices (s : AgentLink) (calls : ConnectCalls) :
    (s.agentConnect calls).2.proxyServices = s.proxyServices := by
  unfold agentConnect
  dsimp only
  split
  · split <;> rfl
  · rfl

lemma ensure_proxyServices (s : AgentLink) (calls : ConnectCalls) :
    (s.ensureAssembledControllerAddress calls).2.proxyServices = s.proxyServices := by
  unfold ensureAssembledControllerAddress
  split
  · rfl
  · split
    · rfl
    · split <;> rfl

lemma agentReconnect_proxyServices (s : AgentLink) (calls : ConnectCalls) :
    (s.agentReconnect calls).2.proxyServices = s.proxyServices := by
  have hensure := ensure_proxyServices { s with assembledControllerAddress := none } calls
  unfold agentReconnect
  dsimp only
  split
  · next heq => exact heq ▸ hensure
  · next heq =>
    rw [agentConnect_proxyServices]
    rw [heq] at hensure
    refine Eq.trans ?_ hensure
    show (if _ then _ else _ : AgentLink).proxyServices = _
    split <;> rfl

/-- Reconnecting without a proxy, or without an address. -/
lemma ProxyInv.agentReconnect (h : ProxyInv s) (hstate : s.connectionState ≠ .connected)
    {calls : ConnectCalls} (hnone : s.HasAddress calls → s.proxyServices = []) :
    ProxyInv (s.agentReconnect calls).2 := by
  by_cases haddress : s.HasAddress calls
  · apply of_nil
    rw [agentReconnect_proxyServices]
    exact hnone haddress
  · rw [agentReconnect_of_not haddress]
    exact h.of_not_connected rfl rfl hstate

lemma ProxyInv.agentDisconnected (h : ProxyInv s) {calls : ConnectCalls}
    (hnone : s.HasAddress calls → s.proxyServices = []) (now nowMonotonic : UInt64) :
    ProxyInv (s.agentDisconnected now nowMonotonic calls) := by
  unfold AgentLink.agentDisconnected
  dsimp only
  apply ProxyInv.agentReconnect
  · exact h.of_not_connected rfl rfl (by simp [emitStatus])
  · simp [emitStatus]
  · exact hnone

/-! ## Registering -/

/-- One round of the loop announces its proxy. -/
lemma reemit_announced {results : ℕ → EmitResult} {bus : BusId} (l : List ProxyService)
    (hstate : s.connectionState = .connected) (hbus : s.peerDbus = some bus)
    (hsent : ∀ proxy ∈ l, results proxy.ptr = .sent) :
    ∀ proxy ∈ l, proxy.announcement bus ∈ (l.foldl (reemitProxyNew results) s).log := by
  induction l generalizing s with
  | nil => simp
  | cons head l ih =>
    have hround : (reemitProxyNew results s head) =
        (s.emit (head.announcement bus)).modifyProxy head.ptr fun proxy =>
          { proxy with sentNewProxy := true } := by
      unfold reemitProxyNew proxyServiceEmitProxyNew
      rw [hstate, hbus, hsent head (List.mem_cons_self ..)]
      rfl
    intro proxy hproxy
    rw [List.foldl_cons, hround]
    rcases List.mem_cons.mp hproxy with rfl | hproxy
    · -- the rounds that follow take nothing out of the log
      obtain ⟨l', hl', -⟩ := (sameProxies_reemit results l ((s.emit (proxy.announcement bus)).modifyProxy
        proxy.ptr fun proxy => { proxy with sentNewProxy := true })).log
      rw [hl']
      apply List.mem_append_left
      exact List.mem_append_right _ (List.mem_singleton_self _)
    · refine ih ?_ ?_ (fun p hp => hsent p (List.mem_cons_of_mem _ hp)) proxy hproxy
      · exact hstate
      · exact hbus

lemma ProxyInv.agentRegisterCallback (h : ProxyInv s) {reply : RegisterReply}
    {fails : ControllerMember → Bool} {results : ℕ → EmitResult}
    (hsent : reply = .ok → (∀ member, fails member = false) →
      ∀ proxy ∈ s.proxyServices, results proxy.ptr = .sent) (now nowMonotonic : UInt64) :
    ProxyInv (s.agentRegisterCallback reply now nowMonotonic fails results) := by
  unfold AgentLink.agentRegisterCallback agentProcessRegisterCallback
  split
  · exact h.congr rfl rfl rfl rfl
  cases reply with
  | error message => exact h
  | unreadable => exact h.of_not_connected rfl rfl (by simp)
  | ok =>
    dsimp only
    by_cases hheartbeat : fails .heartbeat = true
    · rw [if_pos hheartbeat]
      exact h.of_not_connected rfl rfl (by simp)
    rw [if_neg hheartbeat]
    by_cases hdisconnected : fails .disconnected = true
    · rw [if_pos hdisconnected]
      exact h.of_not_connected rfl rfl (by simp)
    rw [if_neg hdisconnected]
    dsimp only
    have hsent := hsent rfl fun member => by
      cases member with
      | heartbeat => simpa using hheartbeat
      | disconnected => simpa using hdisconnected
    -- `t` is the state in which the loop starts, whose proxies are still to be announced
    generalize ht : ({ s with
      connectionState := .connected
      connectionRetryCount := 0
      controllerLastSeen := now
      controllerLastSeenMonotonic := nowMonotonic
      disconnectTimestamp := 0
      disconnectTimestampMonotonic := 0 }.emitStatus.addPeerMatch .heartbeat).addPeerMatch
        .disconnected = t
    have hlist : t.proxyServices = s.proxyServices := by rw [← ht]; rfl
    have hbus : t.peerDbus = s.peerDbus := by rw [← ht]; rfl
    have hstate : t.connectionState = .connected := by rw [← ht]; rfl
    have hsame := sameProxies_reemit results t.proxyServices t
    refine ⟨fun proxy' hproxy' => ?_, fun _ proxy' hproxy' bus hbus' => ?_⟩
    · obtain ⟨proxy, hproxy, hkey⟩ := hsame.kept proxy' hproxy'
      rw [ProxyService.exportSlot_congr hkey, hsame.peerDbus, hbus]
      exact h.exported proxy (hlist ▸ hproxy)
    · obtain ⟨proxy, hproxy, hkey⟩ := hsame.kept proxy' hproxy'
      rw [ProxyService.announcement_congr hkey]
      exact reemit_announced t.proxyServices hstate (hsame.peerDbus ▸ hbus') (hlist ▸ hsent) proxy
        hproxy

/-! ## Creating a proxy -/

/-- The signal is sent to a connected agent, or its result says why not. -/
lemma proxyServiceEmitProxyNew_spec (s : AgentLink) (proxy : ProxyService) (result : EmitResult) :
    (s.proxyServiceEmitProxyNew proxy result).2.2.key = proxy.key ∧
      (s.connectionState = .connected → ∀ bus, s.peerDbus = some bus →
        (s.proxyServiceEmitProxyNew proxy result).1 = result ∧
          (result = .sent →
            proxy.announcement bus ∈ (s.proxyServiceEmitProxyNew proxy result).2.1.log)) := by
  unfold proxyServiceEmitProxyNew
  cases hstate : s.connectionState with
  | connected =>
    cases hbus : s.peerDbus with
    | none => exact ⟨rfl, fun _ bus hnone => absurd hnone (by simp)⟩
    | some bus =>
      cases result with
      | sent =>
        refine ⟨rfl, fun _ bus' hbus' => ⟨rfl, fun _ => ?_⟩⟩
        rw [← Option.some.inj hbus']
        exact List.mem_append_right _ (List.mem_singleton_self _)
      | _ => exact ⟨rfl, fun _ bus' hbus' => ⟨rfl, fun hsent => absurd hsent (by simp)⟩⟩
  | _ => exact ⟨rfl, fun hconnected => absurd hconnected (by simp)⟩

lemma ProxyInv.append (h : ProxyInv s) {proxy : ProxyService} (hexported : proxy.exportSlot ≠ none)
    (hbus : proxy.exportSlot = s.peerDbus) (hannounced : s.connectionState = .connected →
      ∀ bus, s.peerDbus = some bus → proxy.announcement bus ∈ s.log) :
    ProxyInv { s with proxyServices := s.proxyServices ++ [proxy] } := by
  refine ⟨fun p hp => ?_, fun hstate p hp bus hpeer => ?_⟩
  · rcases List.mem_append.mp hp with hp | hp
    · exact h.exported p hp
    · rw [List.mem_singleton.mp hp]
      exact ⟨hexported, hbus⟩
  · rcases List.mem_append.mp hp with hp | hp
    · exact h.announced hstate p hp bus hpeer
    · rw [List.mem_singleton.mp hp]
      exact hannounced hstate bus hpeer

lemma ProxyInv.agentMethodCreateProxy (h : ProxyInv s) (serial : Serial)
    (localServiceName nodeName unitName : String) (exports : Bool) {result : EmitResult}
    (hresult : s.connectionState = .connected → result ≠ .notConnected) :
    ProxyInv (s.agentMethodCreateProxy serial localServiceName nodeName unitName exports result) := by
  unfold AgentLink.agentMethodCreateProxy
  split
  · exact h.emit _
  dsimp only
  have hnew : ProxyInv { s with nextProxyId := s.nextProxyId + 1, nextPtr := s.nextPtr + 1 } :=
    h.congr rfl rfl rfl rfl
  have hstate : { s with nextProxyId := s.nextProxyId + 1, nextPtr := s.nextPtr + 1
    }.connectionState = .connected → result ≠ .notConnected := hresult
  have hpeer : { s with nextProxyId := s.nextProxyId + 1, nextPtr := s.nextPtr + 1 }.peerDbus =
    s.peerDbus := rfl
  generalize { s with nextProxyId := s.nextProxyId + 1, nextPtr := s.nextPtr + 1 } = t at *
  generalize s.proxyServiceNew localServiceName nodeName unitName serial = proxy
  split
  · next bus hbus =>
    have hsame := sameProxies_proxyServiceEmitProxyNew t { proxy with exportSlot := some bus } result
    obtain ⟨hkey, hsent⟩ :=
      proxyServiceEmitProxyNew_spec t { proxy with exportSlot := some bus } result
    split
    · next heq =>
      rw [heq] at hsame
      exact (hnew.of_same hsame).emit _
    · next result' t' proxy' hother heq =>
      rw [heq] at hsame hkey hsent
      have hslot : proxy'.exportSlot = some bus := ProxyService.exportSlot_congr hkey
      apply (hnew.of_same hsame).append
      · rw [hslot]
        simp
      · rw [hslot, hsame.peerDbus, hpeer, hbus]
      · intro hconnected bus' hbus'
        have hconnected' : t.connectionState = .connected := hsame.state ▸ hconnected
        have hbus'' : t.peerDbus = some bus' := hsame.peerDbus ▸ hbus'
        obtain ⟨hresult', hlog⟩ := hsent hconnected' bus' hbus''
        rw [ProxyService.announcement_congr hkey]
        apply hlog
        -- a signal that could not be sent has made the call fail
        cases result with
        | sent => rfl
        | notConnected => exact absurd rfl (hstate hconnected')
        | failed => exact absurd hresult' (by simpa using hother)
  · exact hnew.emit _

/-! ## Steps -/

/-- The event makes the agent connect again. -/
def Reconnects (s : AgentLink) : LinkEvent → Prop
  | .disconnected _ _ calls => s.HasAddress calls
  | .heartbeatTimer _ nowMonotonic calls calls' =>
    match s.connectionState with
    | .disconnected => False
    | .connected =>
      s.controllerExpired nowMonotonic = true ∧ (s.HasAddress calls ∨ s.HasAddress calls')
    | _ => s.HasAddress calls'
  | .switchController _ address .. => s.assembledControllerAddress ≠ some address
  | _ => False

/-- The `ProxyNew` signals that the event calls for can be sent. -/
def AnnouncesProxies (s : AgentLink) : LinkEvent → Prop
  | .registerReply reply _ _ fails results => reply = .ok → (∀ member, fails member = false) →
    ∀ proxy ∈ s.proxyServices, results proxy.ptr = .sent
  | .createProxy _ _ _ _ _ result => s.connectionState = .connected → result ≠ .notConnected
  | _ => True

/-- The event loses no proxy. -/
def KeepsProxies (s : AgentLink) (e : LinkEvent) : Prop :=
  (s.Reconnects e → s.proxyServices = []) ∧ s.AnnouncesProxies e

lemma ProxyInv.retryConnection (h : ProxyInv s) {calls : ConnectCalls}
    (hnone : s.connectionState = .retry → s.HasAddress calls → s.proxyServices = []) :
    ProxyInv (s.retryConnection calls) := by
  unfold AgentLink.retryConnection
  split
  · next hretry =>
    apply ProxyInv.agentReconnect
    · exact h.congr rfl rfl rfl rfl
    · show s.connectionState ≠ .connected
      rw [hretry]
      simp
    · exact hnone hretry
  · exact h

lemma ProxyInv.agentHeartbeatTimerCallback (h : ProxyInv s) {now nowMonotonic : UInt64}
    {calls calls' : ConnectCalls}
    (hnone : s.Reconnects (.heartbeatTimer now nowMonotonic calls calls') → s.proxyServices = []) :
    ProxyInv (s.agentHeartbeatTimerCallback now nowMonotonic calls calls') := by
  rw [agentHeartbeatTimerCallback_eq]
  unfold Reconnects at hnone
  have hretry : ∀ hstate : s.connectionState = .connecting ∨ s.connectionState = .retry,
      (s.HasAddress calls' → s.proxyServices = []) →
        ProxyInv (s.beforeRetry.agentReconnect calls').2 := fun hstate hnone => by
    have hne : s.beforeRetry.connectionState ≠ .connected := by
      rw [beforeRetry_state hstate]
      simp
    apply ProxyInv.agentReconnect _ hne
    · rw [beforeRetry_eq]
      exact hnone
    · apply h.of_not_connected _ _ hne <;> rw [beforeRetry_eq]
  cases hstate : s.connectionState with
  | disconnected => exact h
  | connected =>
    rw [hstate] at hnone
    dsimp only at hnone ⊢
    split
    · next hexpired =>
      by_cases haddress : s.HasAddress calls
      · -- the agent has no proxies, and it gets none
        have hnil := hnone ⟨hexpired, Or.inl haddress⟩
        have hdisconnected : (s.agentDisconnected now nowMonotonic calls).proxyServices = [] :=
          (agentReconnect_proxyServices _ _).trans hnil
        exact (ProxyInv.of_nil hdisconnected).retryConnection fun _ _ => hdisconnected
      · apply (h.agentDisconnected (absurd · haddress) now nowMonotonic).retryConnection
        intro _
        unfold AgentLink.agentDisconnected
        dsimp only
        rw [agentReconnect_of_not (by exact haddress)]
        exact fun haddress' => hnone ⟨hexpired, Or.inr haddress'⟩
    · exact h.of_same (sameProxies_sendHeartbeat s)
  | retry =>
    rw [hstate] at hnone
    exact hretry (Or.inr hstate) hnone
  | connecting =>
    rw [hstate] at hnone
    exact hretry (Or.inl hstate) hnone


/-- Every event that loses no proxy keeps the invariant. -/
theorem ProxyInv.handle (h : ProxyInv s) {e : LinkEvent} (hkeeps : s.KeepsProxies e)
    (hstep : s.handle e = some s') : ProxyInv s' := by
  obtain ⟨hnone, hannounces⟩ := hkeeps
  cases e with
  | registerReply reply now nowMonotonic fails results =>
    unfold AgentLink.handle at hstep
    dsimp only at hstep
    split at hstep
    · rw [← Option.some.inj hstep]
      apply ProxyInv.agentRegisterCallback
      · exact h.congr rfl rfl rfl rfl
      · exact hannounces
    · cases hstep
  | disconnected now nowMonotonic calls =>
    simp only [AgentLink.handle] at hstep
    split at hstep
    · rw [← Option.some.inj hstep]
      exact h.agentDisconnected hnone now nowMonotonic
    · cases hstep
  | heartbeatTimer now nowMonotonic calls calls' =>
    rw [← Option.some.inj hstep]
    exact h.agentHeartbeatTimerCallback hnone
  | controllerHeartbeat now nowMonotonic =>
    simp only [AgentLink.handle] at hstep
    split at hstep
    · rw [← Option.some.inj hstep]
      exact h.of_same (sameProxies_agentMatchHeartbeat s _ _)
    · cases hstep
  | switchController serial address now nowMonotonic calls =>
    rw [← Option.some.inj hstep]
    unfold agentMethodSwitchController
    split
    · exact h.emit _
    · next hnew =>
      dsimp only
      apply ProxyInv.emit
      apply ProxyInv.agentDisconnected
      · apply ProxyInv.emit
        exact h.congr rfl rfl rfl rfl
      · exact fun _ => hnone hnew
  | createProxy serial localServiceName nodeName unitName exports result =>
    rw [← Option.some.inj hstep]
    exact h.agentMethodCreateProxy serial localServiceName nodeName unitName exports hannounces
  | removeProxy serial localServiceName nodeName unitName calls =>
    rw [← Option.some.inj hstep]
    exact h.of_same (sameProxies_agentMethodRemoveProxy s ..)
  | target ptr serial call calls =>
    obtain ⟨proxy, -, rfl⟩ := Option.map_eq_some_iff.mp hstep
    exact h.of_same ((sameProxies_proxyServiceMethod s _ _ _).trans (sameProxies_answer _ _))
  | stop calls =>
    rw [← Option.some.inj hstep]
    exact .of_nil (agentStop_proxyServices s calls)

end AgentLink

/-! ## Runs -/

open AgentLink

namespace LinkRun

variable {r : LinkRun}

lemma agentStart_proxyServices (cfg : LinkConfig) (address : String) (calls : ConnectCalls) :
    ((agentLinkNew cfg address).agentStart calls).proxyServices = [] := by
  have hconnect := agentConnect_proxyServices (agentLinkNew cfg address) calls
  unfold agentStart
  split <;>
  · next heq =>
    rw [heq] at hconnect
    exact hconnect

/-- As long as no event loses a proxy, each proxy of a connected agent is exported on the peer
bus and announced on it. -/
theorem proxies_reached (h : ReachableUnder linkSystem (fun r e => r.link.KeepsProxies e) r)
    (hstate : r.link.connectionState = .connected) {proxy : ProxyService}
    (hproxy : proxy ∈ r.link.proxyServices) :
    ∃ bus, r.link.peerDbus = some bus ∧ proxy.exportSlot = some bus ∧
      proxy.announcement bus ∈ r.link.log := by
  let Inv : LinkRun → Prop := fun r => r.link.ProxyInv
  have hinv : Inv r := by
    refine ReachableUnder.invariant ?_ ?_ h
    · rintro r ⟨cfg, address, calls, rfl⟩
      exact ProxyInv.of_nil (agentStart_proxyServices cfg address calls)
    · intro r e r' hr hkeeps hstep
      obtain ⟨-, -, hhandle, -⟩ := step_eq_some_iff.mp hstep
      exact ProxyInv.handle hr hkeeps hhandle
  obtain ⟨hslot, hbus⟩ := hinv.exported proxy hproxy
  obtain ⟨bus, hexported⟩ := Option.ne_none_iff_exists'.mp hslot
  have hpeer : r.link.peerDbus = some bus := hbus.symm.trans hexported
  exact ⟨bus, hpeer, hexported, hinv.announced hstate proxy hproxy bus hpeer⟩

/-- The reply to `Register` that makes the agent connected. -/
def accepted : LinkEvent := .registerReply .ok 7 7 (fun _ => false) fun _ => .sent

/-- A proxy that is created while the agent waits for that reply. -/
def createProxy : LinkEvent :=
  .createProxy 3 "bluechi-proxy@n_u.service" "n" "u.service" true .notConnected

/-- A proxy that was created before the agent registered is reached afterwards. -/
theorem proxies_reached_after_register : ∃ r proxy,
    run linkSystem connectingAgent [createProxy, accepted] = some r ∧
      proxy ∈ r.link.proxyServices ∧ ∃ bus, r.link.peerDbus = some bus ∧
        proxy.exportSlot = some bus ∧ proxy.announcement bus ∈ r.link.log := by
  obtain ⟨r₁, h₁⟩ : ∃ r, linkSystem.step connectingAgent createProxy = some r := ⟨_, rfl⟩
  obtain ⟨r₂, h₂⟩ : ∃ r', linkSystem.step r₁ accepted = some r' := by
    rw [← Option.some.inj h₁]
    exact ⟨_, rfl⟩
  have hkeeps₁ : connectingAgent.link.KeepsProxies createProxy :=
    ⟨fun hno => hno.elim, fun hconnected => by cases hconnected⟩
  have hkeeps₂ : r₁.link.KeepsProxies accepted :=
    ⟨fun hno => hno.elim, fun _ _ _ _ => rfl⟩
  have hreach : ReachableUnder linkSystem (fun r e => r.link.KeepsProxies e) r₂ :=
    .step (.step (.init ⟨_, _, connects, rfl⟩) hkeeps₁ h₁) hkeeps₂ h₂
  have hrun : run linkSystem connectingAgent [createProxy, accepted] = some r₂ := by
    simp [run_cons, h₁, h₂]
  cases h₁
  cases h₂
  exact ⟨_, _, hrun, List.mem_singleton_self _,
    proxies_reached hreach rfl (List.mem_singleton_self _)⟩

/-- A proxy that is there when the agent reconnects is not reached on the new connection. -/
theorem proxies_lost : ¬ ∀ r, Reachable linkSystem r → r.link.connectionState = .connected →
    ∀ proxy ∈ r.link.proxyServices, proxy.exportSlot = r.link.peerDbus := by
  intro h
  obtain ⟨r, hr, hlost⟩ : ∃ r, run linkSystem connectingAgent
      [createProxy, accepted, .disconnected 8 8 connects, accepted] = some r ∧
      r.link.connectionState = .connected ∧
        r.link.proxyServices.map (·.exportSlot) = [some 1] ∧ r.link.peerDbus = some 3 :=
    ⟨_, rfl, rfl, rfl, rfl⟩
  obtain ⟨hstate, hslots, hbus⟩ := hlost
  have hproxy : ∀ slot ∈ r.link.proxyServices.map (·.exportSlot), slot = some 3 := by
    intro slot hslot
    obtain ⟨proxy, hmem, rfl⟩ := List.mem_map.mp hslot
    exact (h r (reachable_connectingAgent.run hr) hstate proxy hmem).trans hbus
  have hone := hproxy (some 1) (by rw [hslots]; simp)
  simp at hone

end LinkRun
end BlueChi
