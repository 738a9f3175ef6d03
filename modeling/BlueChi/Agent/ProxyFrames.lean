import Mathlib.Data.List.Basic
import BlueChi.Agent.Connection

/-!
# What proxies leave alone

The calls about proxies send messages and take proxies out of the list or change what is known
about them (`SameProxies`). They leave the connection to the controller as it is
(`SameConnection`), and so does the call that adds a proxy.
-/

namespace BlueChi

/-! ## What the log says about the connection -/

/-- The buses of the attempts to connect. -/
def attempts (log : List LinkOutput) : List (Option BusId) :=
  log.filterMap fun
    | .attempt _ bus => some bus
    | _ => none

/-- The announced values of `Status`. -/
def statuses (log : List LinkOutput) : List String :=
  log.filterMap fun
    | .status value => some value
    | _ => none

/-- The value of `Status` that was announced last; it is `offline` at first. -/
def announcedStatus (log : List LinkOutput) : String := (statuses log).getLastD "offline"

def LinkOutput.isConnection : LinkOutput → Bool
  | .attempt _ _ => true
  | .status _ => true
  | .controllerAddress _ => true
  | _ => false

/-- The answer to a request that is still open. -/
def ProxyService.stoppedOutputs (proxy : ProxyService) : List LinkOutput :=
  proxy.requestMessage.toList.map fun serial =>
    .proxyReply proxy.ptr serial "Proxy service stopped"

/-- The `StopUnit` call for the local unit of a proxy. -/
def ProxyService.stopOutputs (proxy : ProxyService) (starts : Bool) : List LinkOutput :=
  if proxy.sentSuccessfulReady && !proxy.dontStopProxy && starts then
    [.stopUnit proxy.ptr proxy.localServiceName]
  else []

/-- What does not change about a proxy. -/
def ProxyService.key (proxy : ProxyService) :
    ℕ × UInt32 × String × String × String × Option BusId :=
  (proxy.ptr, proxy.id, proxy.nodeName, proxy.unitName, proxy.localServiceName, proxy.exportSlot)

namespace AgentLink

variable {s s' s'' : AgentLink}

/-! ## Steps that leave the connection as it is -/

/-- Where the controller is: the host and the address that are configured, and the address that
is used. -/
def addresses (s : AgentLink) : Option String × Option String × Option String :=
  (s.host, s.controllerAddress, s.assembledControllerAddress)

/-- From `s` to `s'` the connection stays as it is, and neither its status nor the address of the
controller is announced. -/
structure SameConnection (s s' : AgentLink) : Prop where
  addresses : s'.addresses = s.addresses
  state : s'.connectionState = s.connectionState
  peerDbus : s'.peerDbus = s.peerDbus
  slot : s'.registerCallSlot = s.registerCallSlot
  peerMatches : s'.peerMatches = s.peerMatches
  nextPtr : s.nextPtr ≤ s'.nextPtr
  log : ∃ l, s'.log = s.log ++ l ∧ ∀ o ∈ l, o.isConnection = false

namespace SameConnection

/-- Nothing is sent. -/
theorem of_log_eq (haddresses : s'.addresses = s.addresses) (hstate : s'.connectionState = s.connectionState)
    (hbus : s'.peerDbus = s.peerDbus) (hslot : s'.registerCallSlot = s.registerCallSlot)
    (hmatches : s'.peerMatches = s.peerMatches) (hptr : s.nextPtr ≤ s'.nextPtr)
    (hlog : s'.log = s.log) : SameConnection s s' :=
  ⟨haddresses, hstate, hbus, hslot, hmatches, hptr, [], by rw [hlog, List.append_nil], by simp⟩

theorem refl (s : AgentLink) : SameConnection s s := of_log_eq rfl rfl rfl rfl rfl le_rfl rfl

theorem trans (h : SameConnection s s') (h' : SameConnection s' s'') : SameConnection s s'' := by
  obtain ⟨l, hl, ho⟩ := h.log
  obtain ⟨l', hl', ho'⟩ := h'.log
  refine ⟨h'.1.trans h.1, h'.2.trans h.2, h'.3.trans h.3, h'.4.trans h.4, h'.5.trans h.5,
    h.6.trans h'.6, l ++ l',
    by rw [hl', hl, List.append_assoc], fun o hmem => ?_⟩
  rcases List.mem_append.mp hmem with hmem | hmem
  · exact ho o hmem
  · exact ho' o hmem

/-- What is read off the messages about the connection stays the same. -/
theorem filterMap_eq {β : Type} {f : LinkOutput → Option β} (h : SameConnection s s')
    (hf : ∀ o, o.isConnection = false → f o = none) : s'.log.filterMap f = s.log.filterMap f := by
  obtain ⟨l, hl, ho⟩ := h.log
  rw [hl, List.filterMap_append, List.filterMap_eq_nil_iff.mpr fun o hmem => hf o (ho o hmem),
    List.append_nil]

theorem attempts (h : SameConnection s s') : attempts s'.log = attempts s.log :=
  h.filterMap_eq fun o ho => by
    cases o with
    | attempt => cases ho
    | _ => rfl

theorem statuses (h : SameConnection s s') : statuses s'.log = statuses s.log :=
  h.filterMap_eq fun o ho => by
    cases o with
    | status => cases ho
    | _ => rfl

end SameConnection

/-- From `s` to `s'` no proxy is added either, and those that stay are the same objects. -/
structure SameProxies (s s' : AgentLink) : Prop extends SameConnection s s' where
  kept : ∀ proxy' ∈ s'.proxyServices, ∃ proxy ∈ s.proxyServices, proxy'.key = proxy.key

namespace SameProxies

theorem refl (s : AgentLink) : SameProxies s s := ⟨.refl s, fun proxy h => ⟨proxy, h, rfl⟩⟩

theorem trans (h : SameProxies s s') (h' : SameProxies s' s'') : SameProxies s s'' := by
  refine ⟨h.1.trans h'.1, fun proxy'' hproxy'' => ?_⟩
  obtain ⟨proxy', hproxy', hkey'⟩ := h'.kept proxy'' hproxy''
  obtain ⟨proxy, hproxy, hkey⟩ := h.kept proxy' hproxy'
  exact ⟨proxy, hproxy, hkey'.trans hkey⟩

/-- The list of the proxies stays the same. -/
theorem of_list_eq (h : SameConnection s s') (hlist : s'.proxyServices = s.proxyServices) :
    SameProxies s s' := ⟨h, fun proxy hproxy => ⟨proxy, hlist ▸ hproxy, rfl⟩⟩

end SameProxies

lemma sameProxies_emit (s : AgentLink) {o : LinkOutput} (ho : o.isConnection = false) :
    SameProxies s (s.emit o) :=
  .of_list_eq ⟨rfl, rfl, rfl, rfl, rfl, le_rfl, [o], rfl, by simpa using ho⟩ rfl

lemma sameProxies_modifyProxy (s : AgentLink) (ptr : ℕ) {f : ProxyService → ProxyService}
    (hf : ∀ proxy, (f proxy).key = proxy.key) : SameProxies s (s.modifyProxy ptr f) := by
  refine ⟨.of_log_eq rfl rfl rfl rfl rfl le_rfl rfl, fun proxy' hproxy' => ?_⟩
  obtain ⟨proxy, hproxy, rfl⟩ := List.mem_map.mp hproxy'
  refine ⟨proxy, hproxy, ?_⟩
  split
  · exact hf proxy
  · rfl

lemma sameProxies_abort (s : AgentLink) : SameProxies s { s with aborted := true } :=
  .of_list_eq (.of_log_eq rfl rfl rfl rfl rfl le_rfl rfl) rfl

/-- Send several messages. -/
def emitAll (s : AgentLink) (l : List LinkOutput) : AgentLink := { s with log := s.log ++ l }

lemma emitAll_nil (s : AgentLink) : s.emitAll [] = s := by
  unfold emitAll
  rw [List.append_nil]

lemma emitAll_append (s : AgentLink) (l l' : List LinkOutput) :
    s.emitAll (l ++ l') = (s.emitAll l).emitAll l' := by
  unfold emitAll
  rw [List.append_assoc]

/-- The `ProxyRemoved` signal of a proxy. -/
def removedOutputs (s : AgentLink) (proxy : ProxyService) (emits : Bool) : List LinkOutput :=
  if proxy.sentNewProxy && s.agentIsConnected && emits then
    s.peerDbus.toList.map fun bus => .proxyRemoved bus proxy.ptr proxy.nodeName proxy.unitName
  else []

/-- What `agent_remove_proxy` sends. -/
def removeOutputs (s : AgentLink) (proxy : ProxyService) (emitRemoved : Bool)
    (calls : RemoveCalls) : List LinkOutput :=
  (if emitRemoved then s.removedOutputs proxy calls.emits else []) ++
    (proxy.stoppedOutputs ++ proxy.stopOutputs calls.startsStop)

lemma proxyServiceEmitProxyRemoved_eq (s : AgentLink) (proxy : ProxyService) (emits : Bool) :
    s.proxyServiceEmitProxyRemoved proxy emits = s.emitAll (s.removedOutputs proxy emits) := by
  unfold proxyServiceEmitProxyRemoved removedOutputs
  cases hbus : s.peerDbus with
  | none =>
    show s = _
    split <;> exact (emitAll_nil s).symm
  | some bus =>
    show (if _ then _ else _) = _
    split
    · rfl
    · exact (emitAll_nil s).symm

lemma agentStopLocalProxyService_eq (s : AgentLink) (proxy : ProxyService) (starts : Bool) :
    (if proxy.sentSuccessfulReady then s.agentStopLocalProxyService proxy starts else s) =
      s.emitAll (proxy.stopOutputs starts) := by
  unfold agentStopLocalProxyService ProxyService.stopOutputs
  cases proxy.sentSuccessfulReady <;> cases proxy.dontStopProxy <;> cases starts <;>
    first | exact (emitAll_nil s).symm | rfl

/-- `agent_remove_proxy` sends these and takes the proxy out of the list. -/
theorem agentRemoveProxy_eq (s : AgentLink) (proxy : ProxyService) (emitRemoved : Bool)
    (calls : RemoveCalls) : s.agentRemoveProxy proxy emitRemoved calls =
      { s.emitAll (s.removeOutputs proxy emitRemoved calls) with
        proxyServices := s.proxyServices.filter fun p => p.ptr ≠ proxy.ptr } := by
  have hremoved : (if emitRemoved then s.proxyServiceEmitProxyRemoved proxy calls.emits else s) =
      s.emitAll (if emitRemoved then s.removedOutputs proxy calls.emits else []) := by
    cases emitRemoved
    · exact (emitAll_nil s).symm
    · exact proxyServiceEmitProxyRemoved_eq s proxy calls.emits
  unfold agentRemoveProxy removeOutputs ProxyService.stoppedOutputs
  dsimp only
  rw [hremoved, emitAll_append, emitAll_append]
  cases proxy.requestMessage with
  | none =>
    rw [agentStopLocalProxyService_eq]
    simp only [Option.toList_none, List.map_nil, emitAll_nil]
    rfl
  | some serial =>
    rw [agentStopLocalProxyService_eq]
    rfl

lemma removeOutputs_isConnection {proxy : ProxyService} {emitRemoved : Bool} {calls : RemoveCalls}
    {o : LinkOutput} (ho : o ∈ s.removeOutputs proxy emitRemoved calls) :
    o.isConnection = false := by
  unfold removeOutputs removedOutputs ProxyService.stoppedOutputs ProxyService.stopOutputs at ho
  simp only [List.mem_append, List.mem_map, Option.mem_toList] at ho
  rcases ho with ho | ho | ho
  · split at ho
    · split at ho
      · obtain ⟨bus, -, rfl⟩ := List.mem_map.mp ho
        rfl
      · cases ho
    · cases ho
  · obtain ⟨serial, -, rfl⟩ := ho
    rfl
  · split at ho
    · rw [List.mem_singleton.mp ho]
      rfl
    · cases ho

lemma sameProxies_agentRemoveProxy (s : AgentLink) (proxy : ProxyService) (emitRemoved : Bool)
    (calls : RemoveCalls) : SameProxies s (s.agentRemoveProxy proxy emitRemoved calls) := by
  rw [agentRemoveProxy_eq]
  exact ⟨⟨rfl, rfl, rfl, rfl, rfl, le_rfl, _, rfl, fun o ho => removeOutputs_isConnection ho⟩,
    fun p hp => ⟨p, List.mem_of_mem_filter hp, rfl⟩⟩

lemma sameProxies_proxyServiceEmitProxyNew (s : AgentLink) (proxy : ProxyService)
    (result : EmitResult) :
    SameProxies s (s.proxyServiceEmitProxyNew proxy result).2.1 := by
  unfold proxyServiceEmitProxyNew
  split
  · exact sameProxies_emit s rfl
  · exact .refl s
  · exact .refl s

lemma sameProxies_proxyServiceInitialStateReached (s : AgentLink) (proxy : ProxyService)
    (success : Bool) (calls : RemoveCalls) :
    SameProxies s (s.proxyServiceInitialStateReached proxy success calls) := by
  unfold proxyServiceInitialStateReached
  split
  · exact sameProxies_abort s
  · split
    · exact (sameProxies_emit s rfl).trans (sameProxies_modifyProxy _ _ fun _ => rfl)
    · dsimp only
      split
      · exact (sameProxies_emit s rfl).trans (sameProxies_modifyProxy _ _ fun _ => rfl)
      · exact (sameProxies_emit s rfl).trans (sameProxies_agentRemoveProxy _ _ _ _)

lemma sameProxies_proxyServiceMethod (s : AgentLink) (proxy : ProxyService)
    (calls : RemoveCalls) (call : TargetCall) :
    SameProxies s (s.proxyServiceMethod proxy calls call) := by
  have hreached := sameProxies_proxyServiceInitialStateReached s proxy
  cases call with
  | targetNew reason => exact .refl s
  | targetStateChanged activeState substate reason =>
    show SameProxies s (s.proxyServiceMethodTargetStateChanged proxy activeState reason calls)
    unfold proxyServiceMethodTargetStateChanged proxyServiceTargetStopped
    split_ifs
    · exact hreached true calls
    · exact hreached false calls
    · exact .refl s
    · exact sameProxies_agentRemoveProxy s proxy true calls
    · exact sameProxies_abort s
    · exact .refl s
    · exact .refl s
  | targetRemoved reason =>
    show SameProxies s (s.proxyServiceMethodTargetRemoved proxy reason calls)
    unfold proxyServiceMethodTargetRemoved
    split
    · exact hreached false calls
    · exact .refl s
  | error message => exact hreached false calls

lemma sameProxies_answer (s : AgentLink) (serial : Serial) :
    SameProxies s (s.answer serial) := by
  unfold answer
  split
  · exact .refl s
  · exact sameProxies_emit s rfl

lemma sameConnection_agentMethodCreateProxy (s : AgentLink) (serial : Serial)
    (localServiceName nodeName unitName : String) (exports : Bool) (result : EmitResult) :
    SameConnection s
      (s.agentMethodCreateProxy serial localServiceName nodeName unitName exports result) := by
  unfold agentMethodCreateProxy
  split
  · exact (sameProxies_emit s rfl).1
  · dsimp only
    have hnew : SameConnection s
        { s with nextProxyId := s.nextProxyId + 1, nextPtr := s.nextPtr + 1 } :=
      .of_log_eq rfl rfl rfl rfl rfl (Nat.le_succ _) rfl
    refine hnew.trans ?_
    split
    · have hsent := fun proxy => sameProxies_proxyServiceEmitProxyNew
        { s with nextProxyId := s.nextProxyId + 1, nextPtr := s.nextPtr + 1 } proxy result
      split
      · next heq => exact (heq ▸ (hsent _).1 :).trans (sameProxies_emit _ rfl).1
      · next heq => exact (heq ▸ (hsent _).1 :).trans (.of_log_eq rfl rfl rfl rfl rfl le_rfl rfl)
    · exact (sameProxies_emit _ rfl).1

lemma sameProxies_agentMethodRemoveProxy (s : AgentLink) (serial : Serial)
    (localServiceName nodeName unitName : String) (calls : RemoveCalls) : SameProxies s
      (s.agentMethodRemoveProxy serial localServiceName nodeName unitName calls) := by
  unfold agentMethodRemoveProxy
  split
  · exact sameProxies_emit s rfl
  · exact (sameProxies_agentRemoveProxy _ _ _ _).trans (sameProxies_emit _ rfl)

lemma sameProxies_agentMatchHeartbeat (s : AgentLink) (now nowMonotonic : UInt64) :
    SameProxies s (s.agentMatchHeartbeat now nowMonotonic) := by
  unfold agentMatchHeartbeat
  split
  · exact .refl s
  · exact .of_list_eq (.of_log_eq rfl rfl rfl rfl rfl le_rfl rfl) rfl

lemma sameProxies_reemit (results : ℕ → EmitResult) (l : List ProxyService) (s : AgentLink) :
    SameProxies s (l.foldl (reemitProxyNew results) s) := by
  induction l generalizing s with
  | nil => exact .refl s
  | cons proxy l ih =>
    refine .trans ?_ (ih _)
    unfold reemitProxyNew
    exact (sameProxies_proxyServiceEmitProxyNew s proxy _).trans
      (sameProxies_modifyProxy _ _ fun _ => rfl)

lemma sameProxies_removeAll (calls : ℕ → RemoveCalls) (l : List ProxyService)
    (s : AgentLink) : SameProxies s
      (l.foldl (fun s proxy => s.agentRemoveProxy proxy false (calls proxy.ptr)) s) := by
  induction l generalizing s with
  | nil => exact .refl s
  | cons proxy l ih => exact (sameProxies_agentRemoveProxy s proxy _ _).trans (ih _)

/-- `agent_stop` removes every proxy. -/
theorem agentStop_proxyServices (s : AgentLink) (calls : ℕ → RemoveCalls) :
    (s.agentStop calls).proxyServices = [] := by
  have hfold : ∀ (l : List ProxyService) (t : AgentLink), (∀ p ∈ t.proxyServices, p ∈ l) →
      (l.foldl (fun s proxy => s.agentRemoveProxy proxy false (calls proxy.ptr)) t).proxyServices
        = [] := fun l => by
    induction l with
    | nil => exact fun t ht => List.eq_nil_iff_forall_not_mem.mpr fun p hp => by cases ht p hp
    | cons proxy l ih =>
      intro t ht
      apply ih
      intro p hp
      dsimp only at hp
      rw [agentRemoveProxy_eq] at hp
      obtain ⟨hmem, hne⟩ := List.mem_filter.mp hp
      rcases List.mem_cons.mp (ht p hmem) with rfl | hmem
      · simp at hne
      · exact hmem
  exact hfold s.proxyServices _ fun _ => id

end AgentLink
end BlueChi
