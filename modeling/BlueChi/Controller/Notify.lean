import BlueChi.Controller.State

/-!
# Telling monitors about units

A unit event is handed to the handler functions of a subscription. A client monitor assembles
one signal for its owner and one for each peer; a proxy monitor makes a call on the agent that
asked for it. Both leave everything but the messages, the references and the outstanding proxy
calls as it was (`NotifyFrame`).
-/

namespace BlueChi

/-! ## Unit events -/

/-- How far a `UnitPropertiesChanged` message has been read. -/
inductive ReadPosition
  | start | afterInterface | afterProperties
  deriving DecidableEq, Repr

/-- The `UnitPropertiesChanged` message of an agent, which is forwarded while it is read. -/
structure UnitPropertiesMessage where
  properties : Properties
  position : ReadPosition

namespace UnitPropertiesMessage

/-- `sd_bus_message_skip` over the unit and the interface. -/
def skip (m : UnitPropertiesMessage) : Option UnitPropertiesMessage :=
  if m.position = .start then some { m with position := .afterInterface } else none

/-- `sd_bus_message_copy` of the properties. -/
def copy (m : UnitPropertiesMessage) : Option (Properties × UnitPropertiesMessage) :=
  if m.position = .afterInterface then
    some (m.properties, { m with position := .afterProperties })
  else none

/-- `sd_bus_message_rewind`. -/
def rewind (m : UnitPropertiesMessage) : UnitPropertiesMessage := { m with position := .start }

end UnitPropertiesMessage

/-- The four events of a unit, with the arguments that the handler functions get. -/
inductive UnitEvent
  | new (reason : String)
  | stateChanged (activeState substate reason : String)
  | removed (reason : String)
  | propertiesChanged (interface : String) (m : UnitPropertiesMessage)

/-- The `assemble_unit_*_signal` functions. Only the properties are read from a message, which
is rewound after it was copied. -/
def assembleSignal (node unit : String) : UnitEvent → Option MonitorSignal × UnitEvent
  | .new reason => (some (.unitNew node unit reason), .new reason)
  | .stateChanged activeState substate reason =>
    (some (.unitStateChanged node unit activeState substate reason),
      .stateChanged activeState substate reason)
  | .removed reason => (some (.unitRemoved node unit reason), .removed reason)
  | .propertiesChanged interface m =>
    match m.skip with
    | none => (none, .propertiesChanged interface m)
    | some m =>
      match m.copy with
      | none => (none, .propertiesChanged interface m)
      | some (properties, m) =>
        (some (.unitPropertiesChanged node unit interface properties),
          .propertiesChanged interface m.rewind)

/-! ## Handler functions -/

namespace Controller

/-- One round of the loops of the `monitor_on_unit_*` functions. -/
def monitorSend (m : MonitorId) (node unit : String) (se : Controller × UnitEvent)
    (dest : String) : Controller × UnitEvent :=
  match assembleSignal node unit se.2 with
  | (none, ev) => (se.1, ev)
  | (some sig, ev) => (se.1.emit (.monitorSignal m dest sig), ev)

/-- Where a monitor sends its signals: to the owner, then to the peers. -/
def recipients (monitor : Monitor) : List String := monitor.owner :: monitor.peers.map (·.name)

/-- `monitor_on_unit_new`, `monitor_on_unit_state_changed`, `monitor_on_unit_removed` and
`monitor_on_unit_property_changed`. -/
def monitorOnUnit (s : Controller) (m : MonitorId) (node unit : String) (ev : UnitEvent) :
    Controller × UnitEvent :=
  (recipients (s.monitor m)).foldl (monitorSend m node unit) (s, ev)

/-- The calls of the proxy monitor functions. The call fails when the node has no connection;
its callback, which would drop the reference, is then never run. -/
def proxyMonitorCall (s : Controller) (p : ProxyMonitorId) (call : AgentCall) : Controller :=
  let s := s.takeRef (.proxyMonitor p) .call
  let n := (s.proxyMonitor p).node
  match (s.node n).agentBus with
  | none => s
  | some bus => { s.emit (.toAgent bus n call) with proxyCalls := p :: s.proxyCalls }

/-- `proxy_monitor_send_error`. -/
def proxyMonitorSendError (s : Controller) (p : ProxyMonitorId) (message : String) : Controller :=
  s.proxyMonitorCall p (.proxyError p (s.proxyMonitor p).proxyObjectPath message)

/-- `proxy_monitor_on_unit_new`, `proxy_monitor_on_unit_state_changed`,
`proxy_monitor_on_unit_removed` and `proxy_monitor_on_unit_property_changed`. -/
def proxyMonitorOnUnit (s : Controller) (p : ProxyMonitorId) (ev : UnitEvent) : Controller :=
  let path := (s.proxyMonitor p).proxyObjectPath
  match ev with
  | .new reason => s.proxyMonitorCall p (.proxyTargetNew p path reason)
  | .stateChanged activeState substate reason =>
    s.proxyMonitorCall p (.proxyTargetStateChanged p path activeState substate reason)
  | .removed reason => s.proxyMonitorCall p (.proxyTargetRemoved p path reason)
  | .propertiesChanged _ _ => s

/-- The call of a subscription's handler function. -/
def handleUnit (node unit : String) (se : Controller × UnitEvent) (sub : Subscription) :
    Controller × UnitEvent :=
  match sub.monitor with
  | .client m => se.1.monitorOnUnit m node unit se.2
  | .proxy p => (se.1.proxyMonitorOnUnit p se.2, se.2)

/-- The loop over a set of subscriptions, all of which hear of the event. -/
def handleAll (s : Controller) (subs : List Subscription) (node unit : String)
    (ev : UnitEvent) : Controller :=
  (subs.foldl (handleUnit node unit) (s, ev)).1

/-! ## What a notification leaves alone -/

/-- Proxy monitors of `told` may have taken references for calls, at least as many as there
are new calls whose reply is outstanding. -/
def Called (told : ProxyMonitorId → Prop) (s s' : Controller) : Prop :=
  ∀ p, ∃ k c : ℕ, c ≤ k ∧ (k ≠ 0 → told p) ∧
    s'.refs (.proxyMonitor p) = (s.refs (.proxyMonitor p)).refs .call k ∧
    s'.proxyCalls.count p = s.proxyCalls.count p + c

namespace Called

variable {told told' : ProxyMonitorId → Prop} {s s' s'' : Controller}

theorem of_eq (hrefs : ∀ p, s'.refs (.proxyMonitor p) = s.refs (.proxyMonitor p))
    (hcalls : s'.proxyCalls = s.proxyCalls) : Called told s s' := fun p =>
  ⟨0, 0, le_refl 0, fun h => absurd rfl h, by rw [hrefs, RefCount.refs_zero], by rw [hcalls]; rfl⟩

theorem refl (told : ProxyMonitorId → Prop) (s : Controller) : Called told s s :=
  of_eq (fun _ => rfl) rfl

theorem trans (h : Called told s s') (h' : Called told s' s'') : Called told s s'' := by
  intro p
  obtain ⟨k, c, hle, htold, hrefs, hcalls⟩ := h p
  obtain ⟨k', c', hle', htold', hrefs', hcalls'⟩ := h' p
  refine ⟨k + k', c + c', by omega, fun hne => ?_, ?_, by omega⟩
  · by_cases hk : k = 0
    · exact htold' (by omega)
    · exact htold hk
  · rw [hrefs', hrefs, RefCount.refs_refs]

theorem mono (h : Called told s s') (hsub : ∀ p, told p → told' p) : Called told' s s' := by
  intro p
  obtain ⟨k, c, hle, htold, hrest⟩ := h p
  exact ⟨k, c, hle, fun hk => hsub p (htold hk), hrest⟩

end Called

/-- `s'` differs from `s` in the messages, and in the references and the calls of the proxy
monitors of `told`, only. -/
structure NotifyFrame (told : ProxyMonitorId → Prop) (s s' : Controller) : Prop where
  rest : s' = { s with log := s'.log, refs := s'.refs, proxyCalls := s'.proxyCalls }
  emits : Emits [.notice] s s'
  refs : ∀ obj, (∀ p, obj ≠ .proxyMonitor p) → s'.refs obj = s.refs obj
  calls : Called told s s'

namespace NotifyFrame

variable {told told' : ProxyMonitorId → Prop} {s s' s'' : Controller}

theorem refl (told : ProxyMonitorId → Prop) (s : Controller) : NotifyFrame told s s :=
  ⟨rfl, .refl _ s, fun _ _ => rfl, .refl told s⟩

theorem trans (h : NotifyFrame told s s') (h' : NotifyFrame told s' s'') :
    NotifyFrame told s s'' where
  rest := by rw [h'.rest, h.rest]
  emits := h.emits.trans h'.emits
  refs obj hobj := (h'.refs obj hobj).trans (h.refs obj hobj)
  calls := h.calls.trans h'.calls

theorem mono (h : NotifyFrame told s s') (hsub : ∀ p, told p → told' p) :
    NotifyFrame told' s s' :=
  ⟨h.rest, h.emits, h.refs, h.calls.mono hsub⟩

end NotifyFrame

theorem notifyFrame_emit (told : ProxyMonitorId → Prop) (s : Controller) {o : Output}
    (ho : o.kind = .notice) : NotifyFrame told s (s.emit o) :=
  ⟨rfl, emits_emit s (by simp [ho]), fun _ _ => rfl, .of_eq (fun _ => rfl) rfl⟩

theorem notifyFrame_monitorOnUnit (told : ProxyMonitorId → Prop) (s : Controller) (m : MonitorId)
    (node unit : String) (ev : UnitEvent) :
    NotifyFrame told s (s.monitorOnUnit m node unit ev).1 := by
  unfold monitorOnUnit
  generalize recipients (s.monitor m) = dests
  induction dests generalizing s ev with
  | nil => exact .refl told s
  | cons dest dests ih =>
    rw [List.foldl_cons, monitorSend]
    rcases assembleSignal node unit ev with ⟨_ | sig, ev'⟩
    · exact ih s ev'
    · exact (notifyFrame_emit told s rfl).trans (ih _ ev')

theorem notifyFrame_takeCall (s : Controller) (p : ProxyMonitorId) :
    NotifyFrame (· = p) s (s.takeRef (.proxyMonitor p) .call) where
  rest := rfl
  emits := .of_log_eq rfl
  refs obj hobj := by
    simp [takeRef, hobj p]
  calls q := by
    by_cases hq : q = p
    · subst hq
      exact ⟨1, 0, by omega, fun _ => rfl, by simp [takeRef, RefCount.ref_eq_refs], rfl⟩
    · exact ⟨0, 0, by omega, by omega, by simp [takeRef, hq], rfl⟩

theorem notifyFrame_proxyMonitorCall (s : Controller) (p : ProxyMonitorId) {call : AgentCall}
    (hcall : call.kind = .notice) : NotifyFrame (· = p) s (s.proxyMonitorCall p call) := by
  have htake := notifyFrame_takeCall s p
  unfold proxyMonitorCall
  simp only
  split
  · exact htake
  · rename_i bus _
    refine ⟨rfl, htake.emits.trans (emits_emit _ (by simp [Output.kind, hcall])), htake.refs, ?_⟩
    -- the call is sent, so its reply is outstanding from now on
    intro q
    by_cases hq : q = p
    · subst hq
      exact ⟨1, 1, le_refl 1, fun _ => rfl, by simp [takeRef, emit, RefCount.ref_eq_refs],
        by simp [takeRef]⟩
    · have hpq : p ≠ q := fun h => hq h.symm
      exact ⟨0, 0, le_refl 0, by omega, by simp [takeRef, emit, hq],
        by simp [takeRef, hpq]⟩

theorem notifyFrame_proxyMonitorOnUnit (s : Controller) (p : ProxyMonitorId) (ev : UnitEvent) :
    NotifyFrame (· = p) s (s.proxyMonitorOnUnit p ev) := by
  cases ev with
  | propertiesChanged interface m => exact .refl _ s
  | _ => exact notifyFrame_proxyMonitorCall s p rfl

theorem notifyFrame_handleUnit (s : Controller) (ev : UnitEvent) (node unit : String)
    (sub : Subscription) :
    NotifyFrame (fun p => sub.monitor = .proxy p) s (handleUnit node unit (s, ev) sub).1 := by
  unfold handleUnit
  split
  · exact notifyFrame_monitorOnUnit _ s _ node unit ev
  · rename_i p hp
    exact (notifyFrame_proxyMonitorOnUnit s p ev).mono fun q hq => by rw [hp, hq]

/-- Only proxy monitors that own one of the subscriptions make calls. -/
theorem notifyFrame_handleAll (s : Controller) (subs : List Subscription) (node unit : String)
    (ev : UnitEvent) :
    NotifyFrame (fun p => ∃ sub ∈ subs, sub.monitor = .proxy p) s
      (s.handleAll subs node unit ev) := by
  unfold handleAll
  induction subs generalizing s ev with
  | nil => exact .refl _ s
  | cons sub subs ih =>
    rw [List.foldl_cons]
    have hhead : NotifyFrame (fun p => ∃ sub' ∈ sub :: subs, sub'.monitor = .proxy p) s
        (handleUnit node unit (s, ev) sub).1 :=
      (notifyFrame_handleUnit s ev node unit sub).mono fun p hp => ⟨sub, by simp, hp⟩
    refine hhead.trans ((ih _ _).mono ?_)
    rintro p ⟨sub', hmem, hp⟩
    exact ⟨sub', by simp [hmem], hp⟩

end Controller

end BlueChi
