import Mathlib.Data.List.Nodup
import BlueChi.Agent.ConnectionState

/-!
# Answers to the requests for proxies

An accepted `CreateProxy` call is answered once its proxy has heard of something decisive: that
the target is active, or that it will not become so. What the proxy is told is up to the
controller, and it may be removed at any time. `Account` says where a request stands: it waits,
it was answered with success and its proxy watches the target, or the proxy is gone.
-/

namespace BlueChi

open Execution

/-! ## Decisive events -/

/-- What an event decides about the request: that the target started, or that it did not. -/
def ProxyEvent.decision : ProxyEvent → Option Bool
  | .told (.targetNew _) => none
  | .told (.targetStateChanged activeState _ reason) =>
    if activeStateFromString activeState = .active then some true
    else if AgentLink.reallyStopped activeState reason then some false
    else none
  | .told (.targetRemoved reason) => if reason = "real" then some false else none
  | .told (.error _) => some false
  | .removeProxy => some false
  | .stop => some false

/-- What the proxy at that address has heard of. -/
def eventsFor (heard : List (ℕ × ProxyEvent)) (ptr : ℕ) : List ProxyEvent :=
  (heard.filter fun h => h.1 = ptr).map (·.2)

/-- The decision of the first decisive event. -/
def firstDecision (events : List ProxyEvent) : Option Bool := events.findSome? ProxyEvent.decision

/-- The proxy whose request or whose local unit a message is about. -/
def LinkOutput.proxy? : LinkOutput → Option ℕ
  | .proxyReply ptr _ _ => some ptr
  | .stopUnit ptr _ => some ptr
  | _ => none

/-- The answers to the request of a proxy and the `StopUnit` calls for its local unit. -/
def sentFor (log : List LinkOutput) (ptr : ℕ) : List LinkOutput :=
  log.filter fun o => o.proxy? = some ptr

lemma sentFor_append (log l : List LinkOutput) (ptr : ℕ) :
    sentFor (log ++ l) ptr = sentFor log ptr ++ sentFor l ptr := List.filter_append ..

lemma sentFor_eq_self {l : List LinkOutput} {ptr : ℕ} (h : ∀ o ∈ l, o.proxy? = some ptr) :
    sentFor l ptr = l := List.filter_eq_self.mpr fun o ho => by simpa using h o ho

lemma sentFor_eq_nil {l : List LinkOutput} {ptr : ℕ} (h : ∀ o ∈ l, o.proxy? ≠ some ptr) :
    sentFor l ptr = [] := List.filter_eq_nil_iff.mpr fun o ho => by simpa using h o ho

lemma eventsFor_append (heard l : List (ℕ × ProxyEvent)) (ptr : ℕ) :
    eventsFor (heard ++ l) ptr = eventsFor heard ptr ++ eventsFor l ptr := by
  unfold eventsFor
  rw [List.filter_append, List.map_append]

lemma eventsFor_singleton (ptr ptr' : ℕ) (ev : ProxyEvent) :
    eventsFor [(ptr, ev)] ptr' = if ptr' = ptr then [ev] else [] := by
  unfold eventsFor
  by_cases h : ptr' = ptr
  · simp [h]
  · simp [h, Ne.symm h]

lemma firstDecision_append (events : List ProxyEvent) (ev : ProxyEvent) :
    firstDecision (events ++ [ev]) = (firstDecision events).or ev.decision := by
  unfold firstDecision
  rw [List.findSome?_append]
  simp

/-! ## The state of the requests -/

/-- The fields of a proxy on which the answers depend. -/
structure ProxyEntry where
  ptr : ℕ
  requestMessage : Option Serial
  sentSuccessfulReady : Bool
  dontStopProxy : Bool
  deriving DecidableEq

/-- The entry after a success was sent. -/
def ProxyEntry.markReady (e : ProxyEntry) : ProxyEntry :=
  { e with sentSuccessfulReady := true, requestMessage := none }

def ProxyService.entry (proxy : ProxyService) : ProxyEntry :=
  ⟨proxy.ptr, proxy.requestMessage, proxy.sentSuccessfulReady, proxy.dontStopProxy⟩

namespace AgentLink

variable {s s' s'' : AgentLink} {ptr : ℕ} {serial : Serial} {l l' : List LinkOutput}

def entries (s : AgentLink) : List ProxyEntry := s.proxyServices.map (·.entry)

/-- Where the request of the proxy at `ptr` stands, by the events it has heard of. -/
inductive Account (s : AgentLink) (events : List ProxyEvent) (ptr : ℕ) (serial : Serial) : Prop
  | waiting (listed : ⟨ptr, some serial, false, false⟩ ∈ s.entries) (sent : sentFor s.log ptr = [])
      (decision : firstDecision events = none)
  | ready (listed : ⟨ptr, none, true, false⟩ ∈ s.entries)
      (sent : sentFor s.log ptr = [.proxyReply ptr serial none])
      (decision : firstDecision events = some true) (kept : .removeProxy ∉ events)
  | failed (gone : ptr ∉ s.entries.map (·.ptr)) (message : String)
      (sent : sentFor s.log ptr = [.proxyReply ptr serial (some message)])
      (decision : firstDecision events = some false)
  | ended (gone : ptr ∉ s.entries.map (·.ptr)) (stops : List LinkOutput)
      (sent : sentFor s.log ptr = .proxyReply ptr serial none :: stops)
      (decision : firstDecision events = some true)
      (once : stops = [] ∨ ∃ unit, stops = [.stopUnit ptr unit])
      (kept : .removeProxy ∈ events → stops = [])

/-! ## What happens to one proxy -/

/-- From `s` to `s'` only the proxy at `ptr` is touched, and `l` is sent about it. -/
structure Acts (ptr : ℕ) (l : List LinkOutput) (s s' : AgentLink) : Prop where
  sent : ∀ ptr', sentFor s'.log ptr' = sentFor s.log ptr' ++ if ptr' = ptr then l else []
  others : ∀ e : ProxyEntry, e.ptr ≠ ptr → (e ∈ s'.entries ↔ e ∈ s.entries)
  sublist : (s'.entries.map (·.ptr)).Sublist (s.entries.map (·.ptr))
  nextPtr : s'.nextPtr = s.nextPtr
  flags : (s'.aborted, s'.stopped) = (s.aborted, s.stopped)

namespace Acts

theorem refl (ptr : ℕ) (s : AgentLink) : Acts ptr [] s s :=
  ⟨fun _ => by simp, fun _ _ => Iff.rfl, .refl _, rfl, rfl⟩

theorem trans (h : Acts ptr l s s') (h' : Acts ptr l' s' s'') : Acts ptr (l ++ l') s s'' := by
  refine ⟨fun ptr' => ?_, fun e he => (h'.others e he).trans (h.others e he),
    h'.sublist.trans h.sublist, h'.nextPtr.trans h.nextPtr, h'.flags.trans h.flags⟩
  rw [h'.sent, h.sent, List.append_assoc]
  split <;> simp

end Acts

lemma acts_emit (s : AgentLink) {o : LinkOutput} (ho : o.proxy? = some ptr) :
    Acts ptr [o] s (s.emit o) := by
  refine ⟨fun ptr' => ?_, fun _ _ => Iff.rfl, .refl _, rfl, rfl⟩
  show sentFor (s.log ++ [o]) ptr' = _
  rw [sentFor_append]
  congr 1
  split
  · next h => exact sentFor_eq_self (by simpa [h] using ho)
  · next h => exact sentFor_eq_nil (by simpa [ho] using Ne.symm h)

lemma acts_emit_of_none (ptr : ℕ) (s : AgentLink) {o : LinkOutput} (ho : o.proxy? = none) :
    Acts ptr [] s (s.emit o) := by
  refine ⟨fun ptr' => ?_, fun _ _ => Iff.rfl, .refl _, rfl, rfl⟩
  show sentFor (s.log ++ [o]) ptr' = _
  have hnone : sentFor [o] ptr' = [] := sentFor_eq_nil (by simp [ho])
  rw [sentFor_append, hnone]
  simp

lemma entries_modifyProxy (s : AgentLink) (ptr : ℕ) {f : ProxyService → ProxyService}
    {g : ProxyEntry → ProxyEntry} (hf : ∀ proxy, (f proxy).entry = g proxy.entry) :
    (s.modifyProxy ptr f).entries = s.entries.map fun e => if e.ptr = ptr then g e else e := by
  unfold entries modifyProxy
  rw [List.map_map, List.map_map]
  apply List.map_congr_left
  intro proxy _
  show (if proxy.ptr = ptr then f proxy else proxy).entry =
    if proxy.ptr = ptr then g proxy.entry else proxy.entry
  split
  · exact hf proxy
  · rfl

lemma acts_modifyProxy (s : AgentLink) (ptr : ℕ) {f : ProxyService → ProxyService}
    {g : ProxyEntry → ProxyEntry} (hf : ∀ proxy, (f proxy).entry = g proxy.entry)
    (hg : ∀ e, (g e).ptr = e.ptr) : Acts ptr [] s (s.modifyProxy ptr f) := by
  have hentries := entries_modifyProxy s ptr hf
  refine ⟨fun ptr' => ?_, fun e he => ?_, ?_, rfl, rfl⟩
  · show sentFor s.log ptr' = _
    simp
  · rw [hentries, List.mem_map]
    constructor
    · rintro ⟨e', he', heq⟩
      split at heq
      · next hptr => exact absurd (heq ▸ (hg e').trans hptr) he
      · exact heq ▸ he'
    · intro hmem
      exact ⟨e, hmem, if_neg he⟩
  · have hptrs : (s.modifyProxy ptr f).entries.map (·.ptr) = s.entries.map (·.ptr) := by
      rw [hentries, List.map_map]
      apply List.map_congr_left
      intro e _
      show (if e.ptr = ptr then g e else e).ptr = e.ptr
      split
      · exact hg e
      · rfl
    rw [hptrs]

lemma entries_agentRemoveProxy (s : AgentLink) (proxy : ProxyService) (emitRemoved : Bool)
    (calls : RemoveCalls) : (s.agentRemoveProxy proxy emitRemoved calls).entries =
      s.entries.filter fun e => e.ptr ≠ proxy.ptr := by
  rw [agentRemoveProxy_eq]
  unfold entries
  rw [List.filter_map]
  rfl

/-- A removed proxy has its request answered and its local unit stopped, if need be. -/
lemma acts_agentRemoveProxy (s : AgentLink) (proxy : ProxyService) (emitRemoved : Bool)
    (calls : RemoveCalls) : Acts proxy.ptr (proxy.stoppedOutputs ++ proxy.stopOutputs calls.startsStop)
      s (s.agentRemoveProxy proxy emitRemoved calls) := by
  have hentries := entries_agentRemoveProxy s proxy emitRemoved calls
  have habout : ∀ o ∈ proxy.stoppedOutputs ++ proxy.stopOutputs calls.startsStop,
      o.proxy? = some proxy.ptr := by
    intro o ho
    unfold ProxyService.stoppedOutputs ProxyService.stopOutputs at ho
    rcases List.mem_append.mp ho with ho | ho
    · obtain ⟨serial, -, rfl⟩ := List.mem_map.mp ho
      rfl
    · split at ho
      · rw [List.mem_singleton.mp ho]
        rfl
      · cases ho
  refine ⟨fun ptr' => ?_, fun e he => ?_, ?_, ?_, ?_⟩
  · rw [agentRemoveProxy_eq]
    show sentFor (s.log ++ s.removeOutputs proxy emitRemoved calls) ptr' = _
    rw [sentFor_append]
    unfold removeOutputs
    rw [sentFor_append]
    have hremoved : sentFor (if emitRemoved then s.removedOutputs proxy calls.emits else []) ptr' = [] := by
      apply sentFor_eq_nil
      intro o ho
      unfold removedOutputs at ho
      split at ho
      · split at ho
        · obtain ⟨bus, -, rfl⟩ := List.mem_map.mp ho
          simp [LinkOutput.proxy?]
        · cases ho
      · cases ho
    rw [hremoved, List.nil_append]
    congr 1
    split
    · next h =>
      rw [h]
      exact sentFor_eq_self habout
    · next h =>
      apply sentFor_eq_nil
      intro o ho
      rw [habout o ho]
      simpa using Ne.symm h
  · rw [hentries, List.mem_filter]
    simp [he]
  · rw [hentries]
    exact (List.filter_sublist).map _
  · rw [agentRemoveProxy_eq]
    rfl
  · rw [agentRemoveProxy_eq]
    rfl

lemma gone_agentRemoveProxy (s : AgentLink) (proxy : ProxyService) (emitRemoved : Bool)
    (calls : RemoveCalls) :
    proxy.ptr ∉ (s.agentRemoveProxy proxy emitRemoved calls).entries.map (·.ptr) := by
  rw [entries_agentRemoveProxy]
  intro hmem
  obtain ⟨e, he, heq⟩ := List.mem_map.mp hmem
  simpa [heq] using (List.mem_filter.mp he).2

/-! ## The methods of a proxy -/

lemma initialStateReached_success (s : AgentLink) {proxy : ProxyService}
    (hrequest : proxy.requestMessage = some serial) (calls : RemoveCalls) :
    s.proxyServiceInitialStateReached proxy true calls =
      (s.emit (.proxyReply proxy.ptr serial none)).modifyProxy proxy.ptr fun proxy =>
        { proxy with sentSuccessfulReady := true, requestMessage := none } := by
  unfold proxyServiceInitialStateReached
  rw [hrequest]
  rfl

lemma initialStateReached_failure (s : AgentLink) {proxy : ProxyService}
    (hrequest : proxy.requestMessage = some serial) (hready : proxy.sentSuccessfulReady = false)
    (calls : RemoveCalls) :
    s.proxyServiceInitialStateReached proxy false calls =
      (s.emit (.proxyReply proxy.ptr serial "Proxy service failed to start")).agentRemoveProxy
        { proxy with requestMessage := none } true calls := by
  unfold proxyServiceInitialStateReached
  rw [hrequest]
  dsimp only
  rw [hready]
  rfl

/-- What an event about one proxy has to do: touch no other, and keep the account right. -/
structure Handled (s s' : AgentLink) (events : List ProxyEvent) (ptr : ℕ) (serial : Serial) :
    Prop where
  acts : ∃ l, Acts ptr l s s'
  account : Account s' events ptr serial

/-- A request that waits has heard of no removal. -/
lemma not_removeProxy_of_undecided {events : List ProxyEvent} (h : firstDecision events = none) :
    .removeProxy ∉ events := by
  intro hmem
  have hnone := List.findSome?_eq_none_iff.mp h _ hmem
  cases hnone

/-- The event answers a waiting request with success. -/
lemma handled_success {events : List ProxyEvent} {ev : ProxyEvent} {proxy : ProxyService}
    (hproxy : proxy ∈ s.proxyServices) (hrequest : proxy.requestMessage = some serial)
    (hstop : proxy.dontStopProxy = false) (hsent : sentFor s.log proxy.ptr = [])
    (hundecided : firstDecision events = none) (hdecision : ev.decision = some true)
    (calls : RemoveCalls) :
    Handled s (s.proxyServiceInitialStateReached proxy true calls) (events ++ [ev]) proxy.ptr
      serial := by
  rw [initialStateReached_success s hrequest]
  have hentry : ∀ p : ProxyService, { p with sentSuccessfulReady := true, requestMessage := none
      }.entry = p.entry.markReady := fun _ => rfl
  have hemit : Acts proxy.ptr [_] s (s.emit (.proxyReply proxy.ptr serial none)) :=
    acts_emit s rfl
  have hacts := hemit.trans (acts_modifyProxy _ proxy.ptr hentry fun _ => rfl)
  refine ⟨⟨_, hacts⟩, .ready ?_ ?_ ?_ ?_⟩
  · rw [entries_modifyProxy _ _ hentry]
    refine List.mem_map.mpr ⟨proxy.entry, List.mem_map_of_mem hproxy, ?_⟩
    rw [if_pos (by rfl)]
    simp [ProxyService.entry, ProxyEntry.markReady, hstop]
  · rw [hacts.sent, hsent, if_pos rfl]
    rfl
  · rw [firstDecision_append, hundecided, hdecision]
    rfl
  · intro hmem
    rcases List.mem_append.mp hmem with hmem | hmem
    · exact not_removeProxy_of_undecided hundecided hmem
    · rw [← List.mem_singleton.mp hmem] at hdecision
      cases hdecision

/-- The event answers a waiting request with an error, and the proxy goes. -/
lemma handled_failure {events : List ProxyEvent} {ev : ProxyEvent} {proxy : ProxyService}
    (hrequest : proxy.requestMessage = some serial) (hready : proxy.sentSuccessfulReady = false)
    (hsent : sentFor s.log proxy.ptr = []) (hundecided : firstDecision events = none)
    (hdecision : ev.decision = some false) (calls : RemoveCalls) :
    Handled s (s.proxyServiceInitialStateReached proxy false calls) (events ++ [ev]) proxy.ptr
      serial := by
  rw [initialStateReached_failure s hrequest hready]
  have hemit : Acts proxy.ptr [_] s
      (s.emit (.proxyReply proxy.ptr serial "Proxy service failed to start")) := acts_emit s rfl
  have hacts := hemit.trans (acts_agentRemoveProxy _ { proxy with requestMessage := none } true calls)
  refine ⟨⟨_, hacts⟩, .failed ?_ "Proxy service failed to start" ?_ ?_⟩
  · exact gone_agentRemoveProxy _ { proxy with requestMessage := none } true calls
  · rw [hacts.sent, hsent, if_pos rfl]
    simp [ProxyService.stoppedOutputs, ProxyService.stopOutputs, hready]
  · rw [firstDecision_append, hundecided, hdecision]
    rfl

/-- A waiting proxy is removed. -/
lemma handled_remove_waiting {events : List ProxyEvent} {ev : ProxyEvent} {proxy : ProxyService}
    (hrequest : proxy.requestMessage = some serial) (hready : proxy.sentSuccessfulReady = false)
    (hsent : sentFor s.log proxy.ptr = []) (hundecided : firstDecision events = none)
    (hdecision : ev.decision = some false) (emitRemoved : Bool) (calls : RemoveCalls) :
    Handled s (s.agentRemoveProxy proxy emitRemoved calls) (events ++ [ev]) proxy.ptr serial := by
  have hacts := acts_agentRemoveProxy s proxy emitRemoved calls
  refine ⟨⟨_, hacts⟩, .failed ?_ "Proxy service stopped" ?_ ?_⟩
  · exact gone_agentRemoveProxy s proxy emitRemoved calls
  · rw [hacts.sent, hsent, if_pos rfl]
    simp [ProxyService.stoppedOutputs, ProxyService.stopOutputs, hready, hrequest]
  · rw [firstDecision_append, hundecided, hdecision]
    rfl

/-- A proxy that was reported ready is removed. Its local unit is stopped, but not by
`RemoveProxy`. -/
lemma handled_remove_ready {events : List ProxyEvent} {ev : ProxyEvent} {proxy : ProxyService}
    (hrequest : proxy.requestMessage = none)
    (hsent : sentFor s.log proxy.ptr = [.proxyReply proxy.ptr serial none])
    (hdecided : firstDecision events = some true) (hkept : .removeProxy ∉ events)
    (hstop : ev = .removeProxy → proxy.dontStopProxy = true) (emitRemoved : Bool)
    (calls : RemoveCalls) :
    Handled s (s.agentRemoveProxy proxy emitRemoved calls) (events ++ [ev]) proxy.ptr serial := by
  have hacts := acts_agentRemoveProxy s proxy emitRemoved calls
  refine ⟨⟨_, hacts⟩, .ended ?_ (proxy.stopOutputs calls.startsStop) ?_ ?_ ?_ ?_⟩
  · exact gone_agentRemoveProxy s proxy emitRemoved calls
  · rw [hacts.sent, hsent, if_pos rfl]
    simp [ProxyService.stoppedOutputs, hrequest]
  · rw [firstDecision_append, hdecided]
    rfl
  · unfold ProxyService.stopOutputs
    split
    · exact Or.inr ⟨_, rfl⟩
    · exact Or.inl rfl
  · intro hmem
    rcases List.mem_append.mp hmem with hmem | hmem
    · exact absurd hmem hkept
    · unfold ProxyService.stopOutputs
      rw [hstop (List.mem_singleton.mp hmem).symm]
      simp

/-- The event changes nothing. -/
lemma handled_undecisive {events : List ProxyEvent} {ev : ProxyEvent}
    (h : Account s events ptr serial) (hdecision : (firstDecision events).or ev.decision =
      firstDecision events) (hev : ev ≠ .removeProxy) :
    Handled s s (events ++ [ev]) ptr serial := by
  have hfirst : firstDecision (events ++ [ev]) = firstDecision events := by
    rw [firstDecision_append, hdecision]
  have hmem : .removeProxy ∈ events ++ [ev] → .removeProxy ∈ events := fun hmem => by
    rcases List.mem_append.mp hmem with hmem | hmem
    · exact hmem
    · exact absurd (List.mem_singleton.mp hmem).symm hev
  refine ⟨⟨[], .refl ptr s⟩, ?_⟩
  cases h with
  | waiting listed sent decision => exact .waiting listed sent (hfirst.trans decision)
  | ready listed sent decision kept =>
    exact .ready listed sent (hfirst.trans decision) fun h => kept (hmem h)
  | failed gone message sent decision => exact .failed gone message sent (hfirst.trans decision)
  | ended gone stops sent decision once kept =>
    exact .ended gone stops sent (hfirst.trans decision) once fun h => kept (hmem h)

/-- The controller promises that an error is the first message for a proxy. -/
def PromisedError (events : List ProxyEvent) (call : TargetCall) : Prop :=
  (∃ message, call = .error message) → ∀ told, .told told ∉ events

/-- Each method of a listed proxy keeps the account of its request. -/
theorem handled_proxyServiceMethod {events : List ProxyEvent} {proxy : ProxyService}
    (hproxy : proxy ∈ s.proxyServices) (hnodup : (s.entries.map (·.ptr)).Nodup)
    (haccount : Account s events proxy.ptr serial) {call : TargetCall}
    (herror : PromisedError events call) (calls : RemoveCalls) :
    Handled s (s.proxyServiceMethod proxy calls call) (events ++ [.told call]) proxy.ptr serial := by
  have hentry : proxy.entry ∈ s.entries := List.mem_map_of_mem hproxy
  have hunique : ∀ e ∈ s.entries, e.ptr = proxy.ptr → proxy.entry = e := fun e he heq =>
    List.inj_on_of_nodup_map hnodup hentry he heq.symm
  have hlisted : proxy.ptr ∈ s.entries.map (·.ptr) := List.mem_map_of_mem hentry
  have hundecisive : ∀ hdecision : (ProxyEvent.told call).decision = none,
      Handled s s (events ++ [.told call]) proxy.ptr serial := fun hdecision =>
    handled_undecisive haccount (by rw [hdecision, Option.or_none]) (by simp)
  cases haccount with
  | failed gone => exact absurd hlisted gone
  | ended gone => exact absurd hlisted gone
  | waiting listed sent decision =>
    -- the request is open, so the first decisive call answers it
    have hfields := hunique _ listed rfl
    simp only [ProxyService.entry, ProxyEntry.mk.injEq, true_and] at hfields
    obtain ⟨hrequest, hready, hstop⟩ := hfields
    have hfailure := fun hdecision : (ProxyEvent.told call).decision = some false =>
      handled_failure hrequest hready sent decision hdecision calls
    cases call with
    | targetNew reason => exact hundecisive rfl
    | targetStateChanged activeState substate reason =>
      show Handled s (s.proxyServiceMethodTargetStateChanged proxy activeState reason calls) _ _ _
      unfold proxyServiceMethodTargetStateChanged
      rw [hrequest]
      dsimp only [Option.isSome_some]
      rw [if_pos rfl]
      by_cases hactive : activeStateFromString activeState = .active
      · rw [if_pos hactive]
        exact handled_success hproxy hrequest hstop sent decision
          (by simp [ProxyEvent.decision, hactive]) calls
      · rw [if_neg hactive]
        by_cases hstopped : reallyStopped activeState reason = true
        · rw [if_pos hstopped]
          exact hfailure (by simp [ProxyEvent.decision, hactive, hstopped])
        · rw [if_neg hstopped]
          exact hundecisive (by simp [ProxyEvent.decision, hactive, hstopped])
    | targetRemoved reason =>
      show Handled s (s.proxyServiceMethodTargetRemoved proxy reason calls) _ _ _
      unfold proxyServiceMethodTargetRemoved
      by_cases hreal : reason = "real"
      · rw [if_pos (by simp [hrequest, hreal])]
        exact hfailure (by simp [ProxyEvent.decision, hreal])
      · rw [if_neg (by simp [hreal])]
        exact hundecisive (by simp [ProxyEvent.decision, hreal])
    | error message => exact hfailure rfl
  | ready listed sent decision kept =>
    -- the request was answered; only a target that stops matters now
    have hfields := hunique _ listed rfl
    simp only [ProxyService.entry, ProxyEntry.mk.injEq, true_and] at hfields
    obtain ⟨hrequest, hready, hstop⟩ := hfields
    have hdone : Handled s s (events ++ [.told call]) proxy.ptr serial :=
      handled_undecisive (.ready listed sent decision kept) (by rw [decision]; rfl) (by simp)
    cases call with
    | targetNew reason => exact hdone
    | targetStateChanged activeState substate reason =>
      show Handled s (s.proxyServiceMethodTargetStateChanged proxy activeState reason calls) _ _ _
      unfold proxyServiceMethodTargetStateChanged proxyServiceTargetStopped
      rw [hrequest, hready]
      dsimp only [Option.isSome_none]
      rw [if_neg (by simp), if_pos rfl]
      split
      · rw [if_pos rfl]
        exact handled_remove_ready hrequest sent decision kept (by simp) true calls
      · exact hdone
    | targetRemoved reason =>
      show Handled s (s.proxyServiceMethodTargetRemoved proxy reason calls) _ _ _
      unfold proxyServiceMethodTargetRemoved
      rw [if_neg (by simp [hrequest])]
      exact hdone
    | error message =>
      -- what was decided came from an earlier message
      obtain ⟨ev, hev, hactive⟩ := List.exists_of_findSome?_eq_some decision
      cases ev with
      | told told => exact absurd hev (herror ⟨message, rfl⟩ told)
      | removeProxy => cases hactive
      | stop => cases hactive

/-- Each way to remove a listed proxy keeps the account of its request. -/
theorem handled_agentRemoveProxy {events : List ProxyEvent} {ev : ProxyEvent} {proxy : ProxyService}
    (hproxy : ProxyEntry.mk proxy.ptr proxy.requestMessage proxy.sentSuccessfulReady false ∈ s.entries)
    (hnodup : (s.entries.map (·.ptr)).Nodup) (haccount : Account s events proxy.ptr serial)
    (hdecision : ev.decision = some false)
    (hstop : ev = .removeProxy → proxy.dontStopProxy = true) (emitRemoved : Bool)
    (calls : RemoveCalls) :
    Handled s (s.agentRemoveProxy proxy emitRemoved calls) (events ++ [ev]) proxy.ptr serial := by
  have hunique : ∀ e ∈ s.entries, e.ptr = proxy.ptr →
      ProxyEntry.mk proxy.ptr proxy.requestMessage proxy.sentSuccessfulReady false = e :=
    fun e he heq => List.inj_on_of_nodup_map hnodup hproxy he heq.symm
  have hlisted : proxy.ptr ∈ s.entries.map (·.ptr) := List.mem_map_of_mem hproxy
  cases haccount with
  | failed gone => exact absurd hlisted gone
  | ended gone => exact absurd hlisted gone
  | waiting listed sent decision =>
    have hfields := hunique _ listed rfl
    simp only [ProxyEntry.mk.injEq, true_and, and_true] at hfields
    exact handled_remove_waiting hfields.1 hfields.2 sent decision hdecision emitRemoved calls
  | ready listed sent decision kept =>
    have hfields := hunique _ listed rfl
    simp only [ProxyEntry.mk.injEq, true_and, and_true] at hfields
    exact handled_remove_ready hfields.1 sent decision kept hstop emitRemoved calls

/-- A listed proxy whose request is accounted for may be stopped. -/
lemma entry_of_account {events : List ProxyEvent} {proxy : ProxyService}
    (hproxy : proxy ∈ s.proxyServices) (hnodup : (s.entries.map (·.ptr)).Nodup)
    (haccount : Account s events proxy.ptr serial) :
    proxy.dontStopProxy = false ∧ (proxy.requestMessage.isSome ^^ proxy.sentSuccessfulReady) = true := by
  have hentry : proxy.entry ∈ s.entries := List.mem_map_of_mem hproxy
  have hunique : ∀ e ∈ s.entries, e.ptr = proxy.ptr → proxy.entry = e := fun e he heq =>
    List.inj_on_of_nodup_map hnodup hentry he heq.symm
  have hlisted : proxy.ptr ∈ s.entries.map (·.ptr) := List.mem_map_of_mem hentry
  cases haccount with
  | failed gone => exact absurd hlisted gone
  | ended gone => exact absurd hlisted gone
  | waiting listed sent decision =>
    have hfields := hunique _ listed rfl
    simp only [ProxyService.entry, ProxyEntry.mk.injEq, true_and] at hfields
    exact ⟨hfields.2.2, by rw [hfields.1, hfields.2.1]; rfl⟩
  | ready listed sent decision kept =>
    have hfields := hunique _ listed rfl
    simp only [ProxyService.entry, ProxyEntry.mk.injEq, true_and] at hfields
    exact ⟨hfields.2.2, by rw [hfields.1, hfields.2.1]; rfl⟩

/-! ## What is not about proxies -/

/-- From `s` to `s'` the requests stay as they are. -/
structure SameRequests (s s' : AgentLink) : Prop where
  entries : s'.entries = s.entries
  sent : ∀ ptr, sentFor s'.log ptr = sentFor s.log ptr
  nextPtr : s.nextPtr ≤ s'.nextPtr
  flags : (s'.aborted, s'.stopped) = (s.aborted, s.stopped)

namespace SameRequests

theorem of_log_eq (hlist : s'.proxyServices = s.proxyServices) (hlog : s'.log = s.log)
    (hptr : s.nextPtr ≤ s'.nextPtr)
    (hflags : (s'.aborted, s'.stopped) = (s.aborted, s.stopped)) : SameRequests s s' :=
  ⟨by rw [AgentLink.entries, hlist]; rfl, fun _ => by rw [hlog], hptr, hflags⟩

theorem refl (s : AgentLink) : SameRequests s s := of_log_eq rfl rfl le_rfl rfl

theorem trans (h : SameRequests s s') (h' : SameRequests s' s'') : SameRequests s s'' :=
  ⟨h'.entries.trans h.entries, fun ptr => (h'.sent ptr).trans (h.sent ptr),
    h.nextPtr.trans h'.nextPtr, h'.flags.trans h.flags⟩

/-- Fields that do not matter are changed first. -/
theorem after (h : SameRequests s' s'') (hlist : s'.proxyServices = s.proxyServices)
    (hlog : s'.log = s.log) (hptr : s.nextPtr ≤ s'.nextPtr)
    (hflags : (s'.aborted, s'.stopped) = (s.aborted, s.stopped)) :
    SameRequests s s'' := (of_log_eq hlist hlog hptr hflags).trans h

end SameRequests

lemma sameRequests_emit (s : AgentLink) {o : LinkOutput} (ho : o.proxy? = none) :
    SameRequests s (s.emit o) :=
  ⟨rfl, fun ptr => by simpa using (acts_emit_of_none ptr s ho).sent ptr, le_rfl, rfl⟩

lemma sameRequests_agentConnect (s : AgentLink) (calls : ConnectCalls) :
    SameRequests s (s.agentConnect calls).2 := by
  unfold agentConnect
  dsimp only
  have hattempt : ∀ bus, SameRequests s (s.emit (.attempt s.assembledControllerAddress bus)) :=
    fun bus =>
    sameRequests_emit s rfl
  split
  · split
    · have hregister : SameRequests s
          ((s.emit (.attempt s.assembledControllerAddress (some s.nextPtr))).emit (.register s.nextPtr)) :=
        (hattempt (some s.nextPtr)).trans (sameRequests_emit _ rfl)
      exact hregister.trans (.of_log_eq rfl rfl (Nat.le_succ _) rfl)
    · exact (hattempt (some s.nextPtr)).trans (.of_log_eq rfl rfl (Nat.le_succ _) rfl)
  · exact (hattempt none).trans (.of_log_eq rfl rfl le_rfl rfl)

lemma sameRequests_agentStart (s : AgentLink) (calls : ConnectCalls) :
    SameRequests s (s.agentStart calls) := by
  have hconnect := sameRequests_agentConnect s calls
  unfold agentStart
  split
  · next heq =>
    rw [heq] at hconnect
    exact hconnect
  · next heq =>
    rw [heq] at hconnect
    exact hconnect.trans (.of_log_eq rfl rfl le_rfl rfl)

lemma sameRequests_agentReconnect (s : AgentLink) (calls : ConnectCalls) :
    SameRequests s (s.agentReconnect calls).2 := by
  have hensure : ∀ t : AgentLink, SameRequests t (t.ensureAssembledControllerAddress calls).2 :=
    fun t => by
      unfold ensureAssembledControllerAddress
      split
      · exact .refl t
      · split
        · exact .of_log_eq rfl rfl le_rfl rfl
        · split
          · exact .refl t
          · exact .of_log_eq rfl rfl le_rfl rfl
  have hfirst : SameRequests s
      ({ s with assembledControllerAddress := none }.ensureAssembledControllerAddress calls).2 :=
    (hensure { s with assembledControllerAddress := none }).after rfl rfl le_rfl rfl
  unfold agentReconnect
  dsimp only
  split
  · next heq =>
    rw [heq] at hfirst
    exact hfirst
  · next heq =>
    rw [heq] at hfirst
    refine hfirst.trans (.trans ?_ (sameRequests_agentConnect _ calls))
    split
    · exact (sameRequests_emit _ rfl).trans (.of_log_eq rfl rfl le_rfl rfl)
    · exact .of_log_eq rfl rfl le_rfl rfl

lemma sameRequests_emitStatus (s : AgentLink) : SameRequests s s.emitStatus :=
  sameRequests_emit s rfl

lemma sameRequests_agentDisconnected (s : AgentLink) (now nowMonotonic : UInt64)
    (calls : ConnectCalls) : SameRequests s (s.agentDisconnected now nowMonotonic calls) := by
  unfold agentDisconnected
  dsimp only
  have hretry : SameRequests s { s with connectionState := .retry }.emitStatus :=
    (sameRequests_emitStatus { s with connectionState := .retry }).after rfl rfl le_rfl rfl
  exact hretry.trans ((sameRequests_agentReconnect _ calls).after rfl rfl le_rfl rfl)

lemma sameRequests_retryConnection (s : AgentLink) (calls : ConnectCalls) :
    SameRequests s (s.retryConnection calls) := by
  unfold retryConnection
  split
  · exact (sameRequests_agentReconnect _ calls).after rfl rfl le_rfl rfl
  · exact .refl s

lemma sameRequests_agentHeartbeatTimerCallback (s : AgentLink) (now nowMonotonic : UInt64)
    (calls calls' : ConnectCalls) :
    SameRequests s (s.agentHeartbeatTimerCallback now nowMonotonic calls calls') := by
  have hretry : SameRequests s (s.beforeRetry.agentReconnect calls').2 := by
    refine .trans ?_ (sameRequests_agentReconnect _ calls')
    rw [beforeRetry_eq]
    exact .of_log_eq rfl rfl le_rfl rfl
  rw [agentHeartbeatTimerCallback_eq]
  split
  · exact .refl s
  · split
    · exact (sameRequests_agentDisconnected s _ _ _).trans (sameRequests_retryConnection _ _)
    · unfold sendHeartbeat
      split
      · exact .refl s
      · exact sameRequests_emit s rfl
  · exact hretry

lemma sameRequests_proxyServiceEmitProxyNew (s : AgentLink) (proxy : ProxyService)
    (result : EmitResult) :
    SameRequests s (s.proxyServiceEmitProxyNew proxy result).2.1 ∧
      (s.proxyServiceEmitProxyNew proxy result).2.1.proxyServices = s.proxyServices ∧
      (s.proxyServiceEmitProxyNew proxy result).2.1.nextPtr = s.nextPtr ∧
      (s.proxyServiceEmitProxyNew proxy result).2.2.entry = proxy.entry := by
  unfold proxyServiceEmitProxyNew
  split
  · exact ⟨sameRequests_emit s rfl, rfl, rfl, rfl⟩
  · exact ⟨.refl s, rfl, rfl, rfl⟩
  · exact ⟨.refl s, rfl, rfl, rfl⟩

lemma sameRequests_reemitProxyNew (results : ℕ → EmitResult) (s : AgentLink) (proxy : ProxyService) :
    SameRequests s (reemitProxyNew results s proxy) := by
  have hsent := (sameRequests_proxyServiceEmitProxyNew s proxy (results proxy.ptr)).1
  unfold reemitProxyNew
  generalize s.proxyServiceEmitProxyNew proxy (results proxy.ptr) = sent at *
  obtain ⟨_, t, proxy'⟩ := sent
  refine hsent.trans ⟨?_, fun _ => rfl, le_rfl, rfl⟩
  have hsame : (t.modifyProxy proxy.ptr fun proxy =>
      { proxy with sentNewProxy := proxy'.sentNewProxy }).entries =
      t.entries.map fun e => if e.ptr = proxy.ptr then id e else e :=
    entries_modifyProxy t proxy.ptr fun _ => rfl
  rw [hsame]
  simp

lemma sameRequests_agentRegisterCallback (s : AgentLink) (reply : RegisterReply)
    (now nowMonotonic : UInt64) (fails : ControllerMember → Bool) (results : ℕ → EmitResult) :
    SameRequests s (s.agentRegisterCallback reply now nowMonotonic fails results) := by
  have hreemit : ∀ (l : List ProxyService) (t : AgentLink),
      SameRequests t (l.foldl (reemitProxyNew results) t) := fun l => by
    induction l with
    | nil => exact .refl
    | cons proxy l ih => exact fun t => (sameRequests_reemitProxyNew results t proxy).trans (ih _)
  have honline : ∀ t : AgentLink, t.proxyServices = s.proxyServices → t.log = s.log →
      t.nextPtr = s.nextPtr → (t.aborted, t.stopped) = (s.aborted, s.stopped) →
        SameRequests s t.emitStatus :=
    fun t h1 h2 h3 h4 => (sameRequests_emitStatus t).after h1 h2 h3.ge h4
  unfold agentRegisterCallback agentProcessRegisterCallback
  split
  · exact .of_log_eq rfl rfl le_rfl rfl
  cases reply with
  | error message => exact .refl s
  | unreadable => exact .of_log_eq rfl rfl le_rfl rfl
  | ok =>
    dsimp only
    have hconnected := honline { s with
      connectionState := .connected
      connectionRetryCount := 0
      controllerLastSeen := now
      controllerLastSeenMonotonic := nowMonotonic
      disconnectTimestamp := 0
      disconnectTimestampMonotonic := 0 } rfl rfl rfl rfl
    by_cases hheartbeat : fails .heartbeat = true
    · rw [if_pos hheartbeat]
      exact hconnected.trans (.of_log_eq rfl rfl le_rfl rfl)
    rw [if_neg hheartbeat]
    by_cases hdisconnected : fails .disconnected = true
    · rw [if_pos hdisconnected]
      exact hconnected.trans (.of_log_eq rfl rfl le_rfl rfl)
    rw [if_neg hdisconnected]
    exact hconnected.trans ((hreemit _ _).after rfl rfl le_rfl rfl)

/-- The events about proxies. -/
def aboutProxies : LinkEvent → Bool
  | .createProxy .. => true
  | .removeProxy .. => true
  | .target .. => true
  | .stop _ => true
  | _ => false

/-- All others leave the requests as they are. -/
lemma sameRequests_handle {e : LinkEvent} (he : aboutProxies e = false)
    (hstep : s.handle e = some s') : SameRequests s s' := by
  cases e with
  | registerReply reply now nowMonotonic fails results =>
    unfold AgentLink.handle at hstep
    dsimp only at hstep
    split at hstep
    · rw [← Option.some.inj hstep]
      exact (sameRequests_agentRegisterCallback _ _ _ _ _ _).after rfl rfl le_rfl rfl
    · cases hstep
  | disconnected now nowMonotonic calls =>
    simp only [AgentLink.handle] at hstep
    split at hstep
    · rw [← Option.some.inj hstep]
      exact sameRequests_agentDisconnected s _ _ _
    · cases hstep
  | heartbeatTimer now nowMonotonic calls calls' =>
    rw [← Option.some.inj hstep]
    exact sameRequests_agentHeartbeatTimerCallback s _ _ _ _
  | controllerHeartbeat now nowMonotonic =>
    simp only [AgentLink.handle] at hstep
    split at hstep
    · rw [← Option.some.inj hstep]
      unfold agentMatchHeartbeat
      split
      · exact .refl s
      · exact .of_log_eq rfl rfl le_rfl rfl
    · cases hstep
  | switchController serial address now nowMonotonic calls =>
    rw [← Option.some.inj hstep]
    unfold agentMethodSwitchController
    split
    · exact sameRequests_emit s rfl
    · dsimp only
      refine SameRequests.trans ?_ (sameRequests_emit _ rfl)
      refine SameRequests.trans ?_ (sameRequests_agentDisconnected _ _ _ _)
      exact (sameRequests_emit _ rfl).after rfl rfl le_rfl rfl
  | _ => cases he

/-! ## Accounts of other proxies -/

namespace Account

variable {events : List ProxyEvent}

/-- The proxy at `ptr` is not touched. -/
lemma congr (h : Account s events ptr serial)
    (hlisted : ∀ e : ProxyEntry, e.ptr = ptr → (e ∈ s'.entries ↔ e ∈ s.entries))
    (hsent : sentFor s'.log ptr = sentFor s.log ptr) : Account s' events ptr serial := by
  have hgone : ptr ∉ s.entries.map (·.ptr) → ptr ∉ s'.entries.map (·.ptr) := by
    intro hnot hmem
    obtain ⟨e, he, heq⟩ := List.mem_map.mp hmem
    exact hnot (List.mem_map.mpr ⟨e, (hlisted e heq).mp he, heq⟩)
  cases h with
  | waiting listed sent decision =>
    exact .waiting ((hlisted _ rfl).mpr listed) (hsent.trans sent) decision
  | ready listed sent decision kept =>
    exact .ready ((hlisted _ rfl).mpr listed) (hsent.trans sent) decision kept
  | failed gone message sent decision =>
    exact .failed (hgone gone) message (hsent.trans sent) decision
  | ended gone stops sent decision once kept =>
    exact .ended (hgone gone) stops (hsent.trans sent) decision once kept

lemma of_acts (h : Account s events ptr serial) {ptr' : ℕ} (hacts : Acts ptr' l s s')
    (hne : ptr ≠ ptr') : Account s' events ptr serial := by
  refine h.congr (fun e he => hacts.others e (by rw [he]; exact hne)) ?_
  rw [hacts.sent, if_neg hne, List.append_nil]

lemma of_same (h : Account s events ptr serial) (hs : SameRequests s s') :
    Account s' events ptr serial := h.congr (fun e _ => by rw [hs.entries]) (hs.sent ptr)

end Account

/-! ## All requests -/

/-- Every listed proxy has a request, and every request is accounted for. -/
structure Book (s : AgentLink) (requests : List (ℕ × Serial)) (heard : List (ℕ × ProxyEvent)) :
    Prop where
  nodup : (s.entries.map (·.ptr)).Nodup
  requested : ∀ e ∈ s.entries, ∃ serial, (e.ptr, serial) ∈ requests
  fresh : ∀ req ∈ requests, req.1 < s.nextPtr
  unheard : ∀ ptr, s.nextPtr ≤ ptr → eventsFor heard ptr = []
  unsent : ∀ ptr, s.nextPtr ≤ ptr → sentFor s.log ptr = []
  account : ∀ req ∈ requests, Account s (eventsFor heard req.1) req.1 req.2
  aborted : s.aborted = false
  stopped : s.stopped = true → s.entries = []

namespace Book

variable {requests : List (ℕ × Serial)} {heard : List (ℕ × ProxyEvent)}

lemma of_same (h : Book s requests heard) (hs : SameRequests s s') : Book s' requests heard := by
  refine ⟨?_, ?_, fun req hreq => (h.fresh req hreq).trans_le hs.nextPtr,
    fun ptr hptr => h.unheard ptr (hs.nextPtr.trans hptr), fun ptr hptr => ?_,
    fun req hreq => (h.account req hreq).of_same hs, (congrArg Prod.fst hs.flags).trans h.aborted,
    fun hstop => hs.entries.trans (h.stopped ((congrArg Prod.snd hs.flags).symm.trans hstop))⟩
  · rw [hs.entries]
    exact h.nodup
  · rw [hs.entries]
    exact h.requested
  · rw [hs.sent]
    exact h.unsent ptr (hs.nextPtr.trans hptr)

lemma ptr_lt (h : Book s requests heard) {e : ProxyEntry} (he : e ∈ s.entries) :
    e.ptr < s.nextPtr := by
  obtain ⟨serial, hreq⟩ := h.requested e he
  exact h.fresh _ hreq

/-- An event about one listed proxy. -/
lemma of_handled (h : Book s requests heard) {e : ProxyEntry} (he : e ∈ s.entries)
    {ev : ProxyEvent} (hhandled : ∀ serial, Account s (eventsFor heard e.ptr) e.ptr serial →
      Handled s s' (eventsFor heard e.ptr ++ [ev]) e.ptr serial) :
    Book s' requests (heard ++ [(e.ptr, ev)]) := by
  obtain ⟨serial, hreq⟩ := h.requested e he
  obtain ⟨l, hacts⟩ := (hhandled serial (h.account _ hreq)).acts
  have hevents : ∀ ptr, eventsFor (heard ++ [(e.ptr, ev)]) ptr =
      eventsFor heard ptr ++ if ptr = e.ptr then [ev] else [] := fun ptr => by
    rw [eventsFor_append, eventsFor_singleton]
  have hlt := h.ptr_lt he
  have hother : ∀ ptr, s'.nextPtr ≤ ptr → ptr ≠ e.ptr := by
    intro ptr hptr heq
    rw [hacts.nextPtr] at hptr
    omega
  refine ⟨h.nodup.sublist hacts.sublist, fun e' he' => ?_, ?_, fun ptr hptr => ?_,
    fun ptr hptr => ?_, fun req hreq => ?_, (congrArg Prod.fst hacts.flags).trans h.aborted,
    fun hstop => ?_⟩
  · have hmem : e'.ptr ∈ s.entries.map (·.ptr) := hacts.sublist.subset (List.mem_map_of_mem he')
    obtain ⟨e'', he'', heq⟩ := List.mem_map.mp hmem
    obtain ⟨serial', hreq'⟩ := h.requested e'' he''
    exact ⟨serial', heq ▸ hreq'⟩
  · rw [hacts.nextPtr]
    exact h.fresh
  · rw [hevents, if_neg (hother ptr hptr), List.append_nil]
    exact h.unheard ptr (hacts.nextPtr ▸ hptr)
  · rw [hacts.sent, if_neg (hother ptr hptr), List.append_nil]
    exact h.unsent ptr (hacts.nextPtr ▸ hptr)
  · obtain ⟨ptr, serial'⟩ := req
    dsimp only
    rw [hevents]
    by_cases hptr : ptr = e.ptr
    · subst hptr
      rw [if_pos rfl]
      exact (hhandled serial' (h.account _ hreq)).account
    · rw [if_neg hptr, List.append_nil]
      exact (h.account _ hreq).of_acts hacts hptr
  · rw [h.stopped ((congrArg Prod.snd hacts.flags).symm.trans hstop)] at he
    cases he

/-- A new proxy waits for its target. -/
lemma append (h : Book s requests heard) (hrun : s.stopped = false) {proxy : ProxyService}
    {serial : Serial} {n : ℕ}
    (hentry : proxy.entry = ⟨n, some serial, false, false⟩) (hn : s.nextPtr = n + 1)
    (hnew : ∀ req ∈ requests, req.1 < n) (hunheard : eventsFor heard n = [])
    (hunsent : sentFor s.log n = []) :
    Book { s with proxyServices := s.proxyServices ++ [proxy] } (requests ++ [(n, serial)])
      heard := by
  have hentries : AgentLink.entries { s with proxyServices := s.proxyServices ++ [proxy] } =
      s.entries ++ [⟨n, some serial, false, false⟩] := by
    rw [← hentry]
    exact List.map_append
  have hne : ∀ e ∈ s.entries, e.ptr ≠ n := by
    intro e he
    obtain ⟨serial', hreq⟩ := h.requested e he
    exact (hnew _ hreq).ne
  refine ⟨?_, fun e he => ?_, fun req hreq => ?_, h.unheard, h.unsent, fun req hreq => ?_, h.aborted,
    fun hstop => by cases hrun.symm.trans hstop⟩
  · rw [hentries, List.map_append]
    refine List.nodup_append.mpr ⟨h.nodup, by simp, fun a ha b hb => ?_⟩
    obtain ⟨e, he, rfl⟩ := List.mem_map.mp ha
    rw [List.mem_singleton.mp hb]
    exact hne e he
  · rw [hentries] at he
    rcases List.mem_append.mp he with he | he
    · obtain ⟨serial', hreq⟩ := h.requested e he
      exact ⟨serial', List.mem_append_left _ hreq⟩
    · rw [List.mem_singleton.mp he]
      exact ⟨serial, List.mem_append_right _ (List.mem_singleton_self _)⟩
  · rcases List.mem_append.mp hreq with hreq | hreq
    · exact h.fresh req hreq
    · rw [List.mem_singleton.mp hreq]
      show n < s.nextPtr
      omega
  · rcases List.mem_append.mp hreq with hreq | hreq
    · refine (h.account req hreq).congr (fun e he => ?_) rfl
      rw [hentries, List.mem_append, List.mem_singleton]
      refine or_iff_left fun heq => ?_
      have hlt := hnew req hreq
      rw [← he, heq] at hlt
      exact lt_irrefl _ hlt
    · rw [List.mem_singleton.mp hreq]
      refine .waiting ?_ hunsent (by rw [hunheard]; rfl)
      rw [hentries]
      exact List.mem_append_right _ (List.mem_singleton_self _)

end Book

/-- A `CreateProxy` call is refused, or adds a proxy that holds the request. -/
lemma agentMethodCreateProxy_cases (s : AgentLink) (serial : Serial)
    (localServiceName nodeName unitName : String) (exports : Bool) (result : EmitResult) :
    (SameRequests s
        (s.agentMethodCreateProxy serial localServiceName nodeName unitName exports result) ∧
      (s.agentMethodCreateProxy serial localServiceName nodeName unitName exports
        result).proxyServices = s.proxyServices) ∨
    ∃ t proxy, SameRequests s t ∧ t.proxyServices = s.proxyServices ∧
      t.nextPtr = s.nextPtr + 1 ∧ proxy.entry = ⟨s.nextPtr, some serial, false, false⟩ ∧
      s.agentMethodCreateProxy serial localServiceName nodeName unitName exports result =
        { t with proxyServices := t.proxyServices ++ [proxy] } := by
  have hnew : SameRequests s { s with nextProxyId := s.nextProxyId + 1, nextPtr := s.nextPtr + 1 } :=
    .of_log_eq rfl rfl (Nat.le_succ _) rfl
  have hlist : { s with nextProxyId := s.nextProxyId + 1, nextPtr := s.nextPtr + 1
    }.proxyServices = s.proxyServices := rfl
  have hptr : { s with nextProxyId := s.nextProxyId + 1, nextPtr := s.nextPtr + 1
    }.nextPtr = s.nextPtr + 1 := rfl
  unfold agentMethodCreateProxy
  split
  · exact Or.inl ⟨sameRequests_emit s rfl, rfl⟩
  dsimp only
  generalize { s with nextProxyId := s.nextProxyId + 1, nextPtr := s.nextPtr + 1 } = t at *
  split
  · next bus hbus =>
    obtain ⟨hsame, hsent, hnext, hentry⟩ := sameRequests_proxyServiceEmitProxyNew t
      { s.proxyServiceNew localServiceName nodeName unitName serial with exportSlot := some bus }
      result
    split
    · next heq =>
      rw [heq] at hsame hsent
      exact Or.inl ⟨(hnew.trans hsame).trans (sameRequests_emit _ rfl), hsent.trans hlist⟩
    · next heq =>
      rw [heq] at hsame hsent hnext hentry
      exact Or.inr ⟨_, _, hnew.trans hsame, hsent.trans hlist, hnext.trans hptr, hentry, rfl⟩
  · exact Or.inl ⟨hnew.trans (sameRequests_emit _ rfl), hlist⟩

namespace Book

variable {requests : List (ℕ × Serial)} {heard : List (ℕ × ProxyEvent)}

lemma agentMethodCreateProxy (h : Book s requests heard) (hrun : s.stopped = false) (serial : Serial)
    (localServiceName nodeName unitName : String) (exports : Bool) (result : EmitResult) :
    Book (s.agentMethodCreateProxy serial localServiceName nodeName unitName exports result)
      (requests ++ LinkRun.requestsOf s
        (s.agentMethodCreateProxy serial localServiceName nodeName unitName exports result)
        (.createProxy serial localServiceName nodeName unitName exports result)) heard := by
  have hfree : s.nextPtr ∉ s.proxyServices.map (·.ptr) := by
    intro hmem
    obtain ⟨proxy, hproxy, heq⟩ := List.mem_map.mp hmem
    have hlt := h.ptr_lt (List.mem_map_of_mem hproxy : proxy.entry ∈ s.entries)
    rw [← heq] at hlt
    exact lt_irrefl _ hlt
  unfold LinkRun.requestsOf
  dsimp only
  rcases agentMethodCreateProxy_cases s serial localServiceName nodeName unitName exports result with
    ⟨hsame, hlist⟩ | ⟨t, proxy, hsame, hlist, hnext, hentry, heq⟩
  · rw [hlist, if_neg hfree, List.append_nil]
    exact h.of_same hsame
  · have hptr : proxy.ptr = s.nextPtr := congrArg ProxyEntry.ptr hentry
    rw [heq, if_pos (by simp [hptr])]
    have hrun' : t.stopped = false := (congrArg Prod.snd hsame.flags).trans hrun
    exact (h.of_same hsame).append hrun' hentry hnext h.fresh (h.unheard _ le_rfl)
      ((hsame.sent _).trans (h.unsent _ le_rfl))

/-- One round of the loop of `agent_stop`, or a call of `RemoveProxy`. -/
lemma agentRemoveProxy (h : Book s requests heard) {proxy : ProxyService} {dont : Bool}
    (hproxy : proxy ∈ s.proxyServices) {ev : ProxyEvent} (hdecision : ev.decision = some false)
    (hstop : ev = .removeProxy → dont = true) (emitRemoved : Bool) (calls : RemoveCalls) :
    Book (s.agentRemoveProxy { proxy with dontStopProxy := dont } emitRemoved calls) requests
      (heard ++ [(proxy.ptr, ev)]) := by
  have hentry : proxy.entry ∈ s.entries := List.mem_map_of_mem hproxy
  have hhandled : ∀ serial, Account s (eventsFor heard proxy.ptr) proxy.ptr serial →
      Handled s (s.agentRemoveProxy { proxy with dontStopProxy := dont } emitRemoved calls)
        (eventsFor heard proxy.ptr ++ [ev]) proxy.ptr serial := by
    intro serial haccount
    have hfalse := (entry_of_account hproxy h.nodup haccount).1
    have hlisted : ProxyEntry.mk proxy.ptr proxy.requestMessage proxy.sentSuccessfulReady false ∈
        s.entries := by
      rw [← hfalse]
      exact hentry
    apply handled_agentRemoveProxy
    · exact hlisted
    · exact h.nodup
    · exact haccount
    · exact hdecision
    · exact hstop
  exact h.of_handled hentry hhandled

/-- The loop of `agent_stop`. -/
lemma removeAll (calls : ℕ → RemoveCalls) (l : List ProxyService) {s : AgentLink}
    {heard : List (ℕ × ProxyEvent)} (h : Book s requests heard)
    (hl : ∀ proxy ∈ l, proxy ∈ s.proxyServices) (hnodup : (l.map (·.ptr)).Nodup) :
    Book (l.foldl (fun s proxy => s.agentRemoveProxy proxy false (calls proxy.ptr)) s) requests
      (heard ++ l.map fun proxy => (proxy.ptr, .stop)) := by
  induction l generalizing s heard with
  | nil => simpa using h
  | cons proxy l ih =>
    obtain ⟨hnot, hnodup⟩ := List.nodup_cons.mp hnodup
    have hround : Book (s.agentRemoveProxy proxy false (calls proxy.ptr)) requests
        (heard ++ [(proxy.ptr, .stop)]) :=
      h.agentRemoveProxy (hl proxy (List.mem_cons_self ..)) rfl (by simp) false (calls proxy.ptr)
    have hrest : ∀ p ∈ l, p ∈ (s.agentRemoveProxy proxy false (calls proxy.ptr)).proxyServices := by
      intro p hp
      rw [agentRemoveProxy_eq]
      refine List.mem_filter.mpr ⟨hl p (List.mem_cons_of_mem _ hp), ?_⟩
      have hne : p.ptr ≠ proxy.ptr := fun heq => hnot (List.mem_map.mpr ⟨p, hp, heq⟩)
      simpa using hne
    have hall := ih hround hrest hnodup
    rw [List.append_assoc] at hall
    exact hall

lemma agentStop (h : Book s requests heard) (calls : ℕ → RemoveCalls) :
    Book (s.agentStop calls) requests
      (heard ++ s.proxyServices.map fun proxy => (proxy.ptr, .stop)) := by
  have hoffline : Book { s.agentPeerBusClose with connectionState := .disconnected }.emitStatus
      requests heard :=
    h.of_same ((sameRequests_emitStatus _).after rfl rfl le_rfl rfl)
  have hptrs : s.entries.map (·.ptr) = s.proxyServices.map (·.ptr) := List.map_map
  have hall := hoffline.removeAll calls s.proxyServices (fun _ => id) (hptrs ▸ h.nodup)
  have hnone := agentStop_proxyServices s calls
  exact ⟨hall.nodup, hall.requested, hall.fresh, hall.unheard, hall.unsent, fun req hreq =>
    (hall.account req hreq).congr (fun _ _ => Iff.rfl) rfl, hall.aborted, fun _ => by
      rw [AgentLink.entries, hnone]; rfl⟩

/-- Every event keeps the accounts, if the controller keeps its promise. -/
theorem handle (h : Book s requests heard) (hrun : s.stopped = false) {e : LinkEvent}
    (herror : ∀ ptr serial call calls, e = .target ptr serial call calls →
      PromisedError (eventsFor heard ptr) call)
    (hstep : s.handle e = some s') :
    Book s' (requests ++ LinkRun.requestsOf s s' e) (heard ++ LinkRun.heardOf s e) := by
  have hsame : SameRequests s s' → Book s' (requests ++ []) (heard ++ []) := fun hs => by
    rw [List.append_nil, List.append_nil]
    exact h.of_same hs
  cases e with
  | createProxy serial localServiceName nodeName unitName exports result =>
    show Book s' _ (heard ++ [])
    rw [← Option.some.inj hstep, List.append_nil]
    exact h.agentMethodCreateProxy hrun serial localServiceName nodeName unitName exports result
  | removeProxy serial localServiceName nodeName unitName calls =>
    show Book s' (requests ++ []) _
    rw [← Option.some.inj hstep, List.append_nil]
    unfold LinkRun.heardOf agentMethodRemoveProxy
    dsimp only
    cases hfind : s.agentFindProxy localServiceName nodeName unitName with
    | none =>
      rw [Option.toList_none, List.map_nil, List.append_nil]
      exact h.of_same (sameRequests_emit s rfl)
    | some proxy =>
      have hproxy : proxy ∈ s.proxyServices := List.mem_of_find?_eq_some hfind
      exact (h.agentRemoveProxy hproxy rfl (fun _ => rfl) true calls).of_same
        (sameRequests_emit _ rfl)
  | target ptr serial call calls =>
    obtain ⟨proxy, hfind, rfl⟩ := Option.map_eq_some_iff.mp hstep
    have hproxy : proxy ∈ s.proxyServices := List.mem_of_find?_eq_some hfind
    have hptr : proxy.ptr = ptr := by
      have hsome := List.find?_some hfind
      simp only [Bool.and_eq_true, decide_eq_true_eq] at hsome
      exact hsome.1.1
    subst hptr
    have hentry : proxy.entry ∈ s.entries := List.mem_map_of_mem hproxy
    show Book _ (requests ++ []) _
    rw [List.append_nil]
    have hmethod : Book (s.proxyServiceMethod proxy calls call) requests
        (heard ++ [(proxy.ptr, .told call)]) :=
      h.of_handled hentry fun serial haccount => handled_proxyServiceMethod hproxy h.nodup haccount
        (herror _ _ _ _ rfl) calls
    refine hmethod.of_same ?_
    unfold answer
    split
    · exact .refl _
    · exact sameRequests_emit _ rfl
  | stop calls =>
    show Book s' (requests ++ []) _
    rw [← Option.some.inj hstep, List.append_nil]
    exact h.agentStop calls
  | _ => exact hsame (sameRequests_handle rfl hstep)

end Book

end AgentLink

/-! ## Runs -/

open AgentLink

/-- The answers to the request of a proxy: the serial of the request, and whether it is a
success. -/
def answersTo (log : List LinkOutput) (ptr : ℕ) : List (Serial × Bool) :=
  log.filterMap fun
    | .proxyReply ptr' serial error => if ptr' = ptr then some (serial, error.isNone) else none
    | _ => none

/-- The calls that stop the local unit of a proxy. -/
def stopUnits (log : List LinkOutput) (ptr : ℕ) : List String :=
  log.filterMap fun
    | .stopUnit ptr' unit => if ptr' = ptr then some unit else none
    | _ => none

/-- What the request of a proxy gets in a run: one answer as soon as something decisive was
heard, which says what was decided first, and a local unit that is stopped at most once, after
success and not on behalf of `RemoveProxy`. -/
structure Answered (r : LinkRun) (ptr : ℕ) (serial : Serial) : Prop where
  answers : answersTo r.link.log ptr =
    (firstDecision (eventsFor r.heard ptr)).toList.map fun ok => (serial, ok)
  stopped : r.link.stopped = true → firstDecision (eventsFor r.heard ptr) ≠ none
  stopOnce : (stopUnits r.link.log ptr).length ≤ 1
  stopAfter : ∀ before unit later, r.link.log = before ++ .stopUnit ptr unit :: later →
    .proxyReply ptr serial none ∈ before
  stopKept : .removeProxy ∈ eventsFor r.heard ptr → stopUnits r.link.log ptr = []

namespace LinkRun

variable {r : LinkRun}

/-- A proxy whose target starts, and then fails. -/
def startsAndFails : List LinkEvent :=
  [.registerReply .ok 7 7 (fun _ => false) fun _ => .sent,
    .createProxy 3 "bluechi-proxy@n_u.service" "n" "u.service" true .sent,
    .target 2 4 (.targetStateChanged "inactive" "dead" "virtual") ⟨true, true⟩,
    .target 2 5 (.targetStateChanged "active" "running" "real") ⟨true, true⟩,
    .target 2 6 (.targetStateChanged "failed" "failed" "real") ⟨true, true⟩]

end LinkRun
end BlueChi
