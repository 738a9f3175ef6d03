import BlueChi.Controller.MetricsCalls

/-!
# The connection that a call goes out on

Every call to an agent goes out on the connection that its node has before or after the step, and so
nothing is said on a connection while a Register can still arrive on it (`fresh_of_clean`). The
notices of the proxies, which concern no method of the agent itself, are left aside.
-/

namespace BlueChi

open Execution

namespace Controller

variable {gap : ℤ} {t : NodeId} {s s' s'' : Controller}

/-! ## Steps that make no connection -/

/-- Node `t` gets no other connection, and what it is told goes out on the one it has. -/
structure Addressed (t : NodeId) (s s' : Controller) : Prop where
  bus : ∀ b, (s'.node t).agentBus = some b → (s.node t).agentBus = some b
  log : ∃ l, s'.log = s.log ++ l ∧
    ∀ b, ∀ c ∈ callsOn t b l, c.kind ≠ .notice → (s.node t).agentBus = some b

namespace Addressed

lemma of_log_eq (hbus : ∀ b, (s'.node t).agentBus = some b → (s.node t).agentBus = some b)
    (hlog : s'.log = s.log) : Addressed t s s' :=
  ⟨hbus, [], by rw [hlog, List.append_nil], by simp [callsOn]⟩

lemma refl (t : NodeId) (s : Controller) : Addressed t s s := of_log_eq (fun _ => id) rfl

lemma trans (h : Addressed t s s') (h' : Addressed t s' s'') : Addressed t s s'' := by
  obtain ⟨l, hl, hcalls⟩ := h.log
  obtain ⟨l', hl', hcalls'⟩ := h'.log
  refine ⟨fun b hb => h.bus b (h'.bus b hb), l ++ l', by rw [hl', hl, List.append_assoc],
    fun b c hc hkind => ?_⟩
  rw [callsOn_append] at hc
  rcases List.mem_append.mp hc with hc | hc
  · exact hcalls b c hc hkind
  · exact h.bus b (hcalls' b c hc hkind)

/-- A message that is no call, or a notice. -/
lemma emit (s : Controller) {o : Output}
    (ho : ∀ bus n call, o = .toAgent bus n call → call.kind = .notice) : Addressed t s (s.emit o) := by
  refine ⟨fun _ => id, [o], rfl, fun b c hc hkind => ?_⟩
  obtain ⟨o', ho', hon⟩ := List.mem_filterMap.mp hc
  obtain rfl := List.mem_singleton.mp ho'
  cases o' with
  | toAgent bus n call =>
    simp only [Output.callOn, Option.ite_none_right_eq_some, Option.some.injEq] at hon
    exact absurd (hon.2 ▸ ho bus n call rfl) hkind
  | _ => cases hon

lemma of_emits {kinds : List OutputKind} (hnode : s'.node = s.node) (h : Emits kinds s s')
    (hkinds : ∀ bus n call, (Output.toAgent bus n call).kind ∈ kinds → call.kind = .notice) :
    Addressed t s s' := by
  obtain ⟨l, hl, hk⟩ := h
  refine ⟨fun b hb => by rwa [hnode] at hb, l, hl, fun b c hc hkind => ?_⟩
  obtain ⟨o, ho, hon⟩ := List.mem_filterMap.mp hc
  cases o with
  | toAgent bus n call =>
    simp only [Output.callOn, Option.ite_none_right_eq_some, Option.some.injEq] at hon
    exact absurd (hon.2 ▸ hkinds bus n call (hk _ ho)) hkind
  | _ => cases hon

lemma modifyNode (s : Controller) (n : NodeId) (f : Node → Node)
    (hbus : (f (s.node n)).agentBus = (s.node n).agentBus) : Addressed t s (s.modifyNode n f) := by
  refine of_log_eq (fun b hb => ?_) rfl
  by_cases hn : n = t
  · subst hn
    rw [modifyNode_node, Function.update_self] at hb
    exact hbus.symm.trans hb
  · rwa [modifyNode_node, Function.update_of_ne (Ne.symm hn)] at hb

lemma sendAgent (s : Controller) (n : NodeId) (call : AgentCall) :
    Addressed t s (s.sendAgent n call) := by
  unfold Controller.sendAgent
  split
  · exact refl t s
  · rename_i bus hbus
    refine ⟨fun _ => id, [.toAgent bus n call], rfl, fun b c hc _ => ?_⟩
    obtain ⟨o, ho, hon⟩ := List.mem_filterMap.mp hc
    rw [List.mem_singleton.mp ho] at hon
    simp only [Output.callOn, Option.ite_none_right_eq_some, Option.some.injEq] at hon
    obtain ⟨⟨rfl, rfl⟩, _⟩ := hon
    exact hbus

lemma nodeUnsetAgentBus (s : Controller) (n : NodeId) : Addressed t s (s.nodeUnsetAgentBus n) := by
  have hclear : Addressed t s (s.modifyNode n fun node =>
      { node with
        disconnectSlot := none, internalControllerSlot := none, metricsMatchingSlot := none,
        agentBus := none, peerSelinuxContext := none, peerIp := none }) := by
    refine of_log_eq (fun b hb => ?_) rfl
    by_cases hn : n = t
    · subst hn
      simp at hb
    · rwa [modifyNode_node, Function.update_of_ne (Ne.symm hn)] at hb
  unfold Controller.nodeUnsetAgentBus
  dsimp only
  split
  · exact hclear.trans (emit _ fun _ _ _ heq => by cases heq)
  · exact hclear

lemma tables : ClosedTables (Addressed t) where
  refl := refl t
  trans := trans
  notify f := of_emits (by rw [f.rest]) f.emits fun _ _ call hkind => by
    simpa [Output.kind] using hkind
  tell s n call _ := sendAgent s n call
  table s n f hf := modifyNode s n f (by rw [hf])

lemma monitors : ClosedMonitors (fun _ => True) (Addressed t) where
  toClosedTables := tables
  reply s _ o ho _ := emit s fun _ _ _ heq => by
    rw [heq] at ho
    cases ho
  clients f := of_log_eq (fun b hb => by rwa [f.rest] at hb) (by rw [f.rest])
  farewell s _ _ _ := emit s fun _ _ _ heq => by cases heq

lemma proxies : ClosedProxies (Addressed t) where
  toClosedTables := tables
  depend s n call _ := sendAgent s n call
  proxies s n f hf := modifyNode s n f (by rw [hf])
  detach := nodeUnsetAgentBus
  proxyMonitor _ _ _ _ := of_log_eq (fun _ => id) rfl
  takeRef _ _ _ _ := of_log_eq (fun _ => id) rfl
  dropRef _ _ _ _ _ := of_log_eq (fun _ => id) rfl
  unlist _ _ _ := of_log_eq (fun _ => id) rfl
  proxyMonitorNew _ _ _ _ _ := of_log_eq (fun _ => id) rfl
  appendSubscription _ _ := of_log_eq (fun _ => id) rfl
  unlistSubscription _ _ := of_log_eq (fun _ => id) rfl
  subscriptionUnref s p o := monitors.subscriptionUnref s _ o
  answered _ _ := of_log_eq (fun _ => id) rfl

lemma requests : ClosedRequests (Addressed t) where
  toClosedProxies := proxies
  announce s o ho := emit s fun _ _ _ heq => by
    rw [heq] at ho
    cases ho
  jobs f := of_log_eq (fun b hb => by rwa [f.rest] at hb) (by rw [f.rest])
  reply s o ho := emit s fun _ _ call heq => by
    rw [heq] at ho
    exact absurd ho call.kind_ne_reply
  ask s n call _ := sendAgent s n call
  requests f := of_log_eq (fun b hb => by rwa [f.node] at hb) (by rw [f.rest])

lemma countOnline (s : Controller) (d : ℤ) : Addressed t s (s.countOnline d) := by
  have hcount : Addressed t s { s with numberOfNodesOnline := s.numberOfNodesOnline + d } :=
    of_log_eq (fun _ => id) rfl
  unfold Controller.countOnline checkSystemStatus
  dsimp only
  split
  · exact hcount.trans (emit _ fun _ _ _ heq => by cases heq)
  · exact hcount

lemma losses : ClosedLosses (Addressed t) where
  toClosedProxies := proxies
  announce := requests.announce
  jobs := requests.jobs
  seen s n _ _ := modifyNode s n _ rfl
  remove s n hname := proxies.removeAnonymous s n hname
    (fun _ _ _ => of_log_eq (fun _ => id) rfl) fun _ => of_log_eq (fun _ => id) rfl
  count := countOnline
  beat s n := sendAgent s n _

lemma quiet : ClosedQuiet (Addressed t) where
  requests := requests
  losses := losses
  monitors := monitors
  addJob s job := requests.toClosedJobs.addJob s job fun _ => of_log_eq (fun _ => id) rfl

lemma nodeEnableMetrics (fails : BusCall → Bool) (s : Controller) (n : NodeId) :
    Addressed t s (nodeEnableMetrics fails s n) := by
  unfold Controller.nodeEnableMetrics
  split
  · simp only
    split
    · exact sendAgent s n _
    · exact (sendAgent s n _).trans (modifyNode _ n _ rfl)
  · exact refl t s

lemma nodeDisableMetrics (s : Controller) (n : NodeId) :
    Addressed t s (nodeDisableMetrics s n) := by
  unfold Controller.nodeDisableMetrics
  split
  · exact (sendAgent s n _).trans (modifyNode _ n _ rfl)
  · exact refl t s

/-- The metrics methods. -/
lemma methodMetricsEnable (s : Controller) (serial : Serial) (exported : Bool)
    (fails : BusCall → Bool) : Addressed t s (s.methodMetricsEnable serial exported fails) := by
  unfold Controller.methodMetricsEnable
  split
  · exact emit s fun _ _ _ heq => by cases heq
  · split
    · exact emit s fun _ _ _ heq => by cases heq
    · have hflag : Addressed t s { s with metricsEnabled := true } := of_log_eq (fun _ => id) rfl
      exact (hflag.trans (tables.foldl (nodeEnableMetrics fails) _ _)).trans
        (emit _ fun _ _ _ heq => by cases heq)

lemma methodMetricsDisable (s : Controller) (serial : Serial) :
    Addressed t s (s.methodMetricsDisable serial) := by
  unfold Controller.methodMetricsDisable
  split
  · exact emit s fun _ _ _ heq => by cases heq
  · have hflag : Addressed t s { s with metricsEnabled := false } := of_log_eq (fun _ => id) rfl
    exact (hflag.trans (tables.foldl nodeDisableMetrics _ _)).trans
      (emit _ fun _ _ _ heq => by cases heq)

end Addressed

/-! ## Steps that make connections -/

/-- Among the calls to agents are only notices and those about units and dependencies. -/
def SaysTables (s s' : Controller) : Prop :=
  ∃ l, s'.log = s.log ++ l ∧ ∀ bus n call, Output.toAgent bus n call ∈ l →
    call.kind = .notice ∨ call.kind = .table ∨ call.kind = .dependency

namespace SaysTables

lemma of_log_eq (hlog : s'.log = s.log) : SaysTables s s' :=
  ⟨[], by rw [hlog, List.append_nil], by simp⟩

lemma trans (h : SaysTables s s') (h' : SaysTables s' s'') : SaysTables s s'' := by
  obtain ⟨l, hl, hk⟩ := h
  obtain ⟨l', hl', hk'⟩ := h'
  refine ⟨l ++ l', by rw [hl', hl, List.append_assoc], fun bus n call hmem => ?_⟩
  exact (List.mem_append.mp hmem).elim (hk bus n call) (hk' bus n call)

lemma emit (s : Controller) {o : Output} (ho : ∀ bus n call, o ≠ .toAgent bus n call) :
    SaysTables s (s.emit o) :=
  ⟨[o], rfl, fun bus n call hmem => absurd (List.mem_singleton.mp hmem).symm (ho bus n call)⟩

lemma sendAgent (s : Controller) (n : NodeId) {call : AgentCall}
    (hcall : call.kind = .table ∨ call.kind = .dependency) : SaysTables s (s.sendAgent n call) := by
  unfold Controller.sendAgent
  split
  · exact of_log_eq rfl
  · refine ⟨_, rfl, fun bus n' call' hmem => ?_⟩
    rw [List.mem_singleton, Output.toAgent.injEq] at hmem
    obtain ⟨_, _, rfl⟩ := hmem
    exact Or.inr hcall

lemma of_emits {kinds : List OutputKind} (h : Emits kinds s s')
    (hkinds : ∀ kind ∈ kinds, kind = .notice ∨ kind = .table ∨ kind = .dependency) :
    SaysTables s s' := by
  obtain ⟨l, hl, hk⟩ := h
  exact ⟨l, hl, fun bus n call hmem => hkinds _ (hk _ hmem)⟩

lemma detach (s : Controller) (n : NodeId) : SaysTables s (s.nodeUnsetAgentBus n) := by
  unfold Controller.nodeUnsetAgentBus
  dsimp only
  split
  · exact (of_log_eq rfl : SaysTables s (s.modifyNode n _)).trans (emit _ (by simp))
  · exact of_log_eq rfl

lemma tables : ClosedTables SaysTables where
  refl _ := of_log_eq rfl
  trans := trans
  notify f := of_emits f.emits (by simp)
  tell s n call hcall := sendAgent s n (Or.inl hcall)
  table _ _ _ _ := of_log_eq rfl

lemma proxies : ClosedProxies SaysTables where
  toClosedTables := tables
  depend s n call hcall := sendAgent s n (Or.inr hcall)
  proxies _ _ _ _ := of_log_eq rfl
  detach := detach
  proxyMonitor _ _ _ _ := of_log_eq rfl
  takeRef _ _ _ _ := of_log_eq rfl
  dropRef _ _ _ _ _ := of_log_eq rfl
  unlist _ _ _ := of_log_eq rfl
  proxyMonitorNew _ _ _ _ _ := of_log_eq rfl
  appendSubscription _ _ := of_log_eq rfl
  unlistSubscription _ _ := of_log_eq rfl
  subscriptionUnref s p o := by
    have f := subscriptionFrame_subscriptionUnref (fun _ => False) s (s.proxyMonitor p).subscription o
    exact of_emits f.emits (by simp)
  answered _ _ := of_log_eq rfl

lemma accepts : ClosedAccepts SaysTables where
  toClosedTables := tables
  depend := proxies.depend
  detach := detach
  link _ _ _ _ := of_log_eq rfl
  status s _ _ := emit s (by simp)
  addMatch _ _ _ _ := of_log_eq rfl
  addNode _ := of_log_eq rfl
  busAlloc _ := of_log_eq rfl
  remove s n hname :=
    proxies.removeAnonymous s n hname (fun _ _ _ => of_log_eq rfl) fun _ => of_log_eq rfl

end SaysTables

/-! ## Every step -/

/-- A call is among the messages about the node. -/
lemma mem_about_of_kind {b : BusId} {l : List Output} {call : AgentCall}
    (hmem : call ∈ callsOn t b l) (hkind : call.kind = .table ∨ call.kind = .dependency) :
    NodeMessage.call b call ∈ l.filterMap (·.about t) := by
  obtain ⟨o, ho, hon⟩ := List.mem_filterMap.mp hmem
  refine List.mem_filterMap.mpr ⟨o, ho, ?_⟩
  cases o with
  | toAgent bus n request =>
    simp only [Output.callOn, Option.ite_none_right_eq_some, Option.some.injEq] at hon
    obtain ⟨⟨rfl, rfl⟩, rfl⟩ := hon
    simp [Output.about, hkind]
  | _ => cases hon

lemma mem_of_callsOn {b : BusId} {l : List Output} {call : AgentCall} (hmem : call ∈ callsOn t b l) :
    Output.toAgent b t call ∈ l := by
  obtain ⟨o, ho, hon⟩ := List.mem_filterMap.mp hmem
  cases o with
  | toAgent bus n request =>
    simp only [Output.callOn, Option.ite_none_right_eq_some, Option.some.injEq] at hon
    obtain ⟨⟨rfl, rfl⟩, rfl⟩ := hon
    exact ho
  | _ => cases hon

/-- The calls of `node_method_register` that are not about units and dependencies go out on the
connection that the node has in the end. -/
lemma saysTables_nodeMethodRegister (hcons : Consistent gap s) (ht : t ∈ s.nodes) (a : NodeId)
    (serial : Serial) (name : String) (now nowMonotonic : UInt64) (peer : PeerInfo)
    (fails : BusCall → Bool) : ∃ u w, SaysTables s u ∧ Addressed t u w ∧
      SaysTables w (s.nodeMethodRegister a serial name now nowMonotonic peer fails) ∧
      ((s.nodeMethodRegister a serial name now nowMonotonic peer fails).node t).agentBus =
        (u.node t).agentBus := by
  unfold nodeMethodRegister
  split
  · exact ⟨s, s, .of_log_eq rfl, .refl t s, .emit s (by simp), rfl⟩
  · exact ⟨s, s, .of_log_eq rfl, .refl t s, .of_log_eq rfl, rfl⟩
  · rename_i n bus htarget hbus
    have ⟨ha, _⟩ := (registerTarget_eq_ok_iff hcons.registry a n name).mp htarget
    have hne : t ≠ a := fun heq => hcons.registry.named t ht (heq ▸ ha)
    have hset := (SaysTables.of_log_eq rfl : SaysTables s (s.modifyNode n fun node =>
      { node with lastSeen := now, lastSeenMonotonic := nowMonotonic })).trans
        (SaysTables.accepts.nodeSetAgentBus _ n bus peer fails)
    dsimp only
    generalize (s.modifyNode n fun node => { node with
      lastSeen := now, lastSeenMonotonic := nowMonotonic }).nodeSetAgentBus n bus peer fails = result
      at hset ⊢
    have ⟨ok, u⟩ := result
    cases ok with
    | false => exact ⟨u, u, hset, .refl t u, .emit u (by simp), rfl⟩
    | true =>
      have hcount : ∀ w : Controller, SaysTables w (w.countOnline 1) ∧ (w.countOnline 1).node = w.node := by
        intro w
        unfold countOnline checkSystemStatus
        dsimp only
        split
        · exact ⟨(SaysTables.of_log_eq rfl : SaysTables w
            { w with numberOfNodesOnline := w.numberOfNodesOnline + 1 }).trans (.emit _ (by simp)), rfl⟩
        · exact ⟨.of_log_eq rfl, rfl⟩
      have hmetrics : Addressed t u (if u.metricsEnabled then u.nodeEnableMetrics fails n else u) ∧
          ((if u.metricsEnabled then u.nodeEnableMetrics fails n else u).node t).agentBus =
            (u.node t).agentBus := by
        split
        · refine ⟨.nodeEnableMetrics fails u n, ?_⟩
          obtain ⟨_, _, _, hview⟩ := still_nodeEnableMetrics (t := t) fails u n
          exact congrArg NodeView.agentBus (Prod.mk.inj hview).1.symm
        · exact ⟨.refl t u, rfl⟩
      simp only
      generalize (if u.metricsEnabled then u.nodeEnableMetrics fails n else u) = w at hmetrics ⊢
      refine ⟨u, w, hset, hmetrics.1, ?_, ?_⟩
      · exact ((SaysTables.detach w a).trans (hcount _).1).trans (.emit _ fun _ _ _ => Output.noConfusion)
      · show (((w.nodeUnsetAgentBus a).countOnline 1).node t).agentBus = (u.node t).agentBus
        rw [(hcount _).2, nodeUnsetAgentBus_node, Function.update_of_ne hne, hmetrics.2]

/-- What a step says to the agent of a node goes out on the connection that the node has before or
after it. -/
theorem calls_of_step (hcons : Consistent gap s) (hwired : Wired s) (ht : t ∈ s.nodes) {e : Event}
    (hclean : e.AttachesCleanly) (hstop : ∀ sync, e ≠ .stop sync) (hstep : s.step e = some s') :
    ∃ l, s'.log = s.log ++ l ∧ ∀ b, ∀ c ∈ callsOn t b l, c.kind ≠ .notice →
      (s.node t).agentBus = some b ∨ (s'.node t).agentBus = some b := by
  have haddressed : Addressed t s s' → ∃ l, s'.log = s.log ++ l ∧ ∀ b, ∀ c ∈ callsOn t b l,
      c.kind ≠ .notice → (s.node t).agentBus = some b ∨ (s'.node t).agentBus = some b := by
    intro haddressed
    obtain ⟨l, hl, hcalls⟩ := haddressed.log
    exact ⟨l, hl, fun b c hc hkind => Or.inl (hcalls b c hc hkind)⟩
  obtain ⟨moves, hmoves, _, l, hlog, hrun⟩ := follows_of_step hcons ht hstop hstep
  have hcourse := course_of_step hcons hwired hclean hstep hmoves
  -- the calls about units and dependencies
  have htables : ∀ b, ∀ c ∈ callsOn t b l, c.kind = .table ∨ c.kind = .dependency →
      (s.node t).agentBus = some b ∨ (s'.node t).agentBus = some b := by
    intro b c hc hkind
    have hmessage := mem_about_of_kind hc hkind
    have hsent : ((s.node t).view.runAll moves).2 = l.filterMap (·.about t) := by rw [hrun]
    have hview : ((s.node t).view.runAll moves).1 = (s'.node t).view := by rw [hrun]
    rw [← hsent] at hmessage
    have hbus := hcourse.bus_of_mem hmessage
    rwa [hview] at hbus
  by_cases hquiet : e.ofMetrics = false
  · exact haddressed (Addressed.quiet.step hstep hquiet)
  have hhandle := (step_eq_some_iff.mp hstep).2
  cases e with
  | accept peer fails =>
    obtain ⟨l', hl', hkinds⟩ := SaysTables.accepts.acceptNodeConnection s peer fails
    rw [Option.some.inj hhandle, hlog, List.append_cancel_left_eq] at hl'
    refine ⟨l, hlog, fun b c hc hkind => ?_⟩
    exact htables b c hc ((hkinds b t c (hl' ▸ mem_of_callsOn hc)).resolve_left hkind)
  | register a serial name now nowMonotonic peer fails =>
    obtain ⟨u, w, ⟨l₁, hl₁, hk₁⟩, haddr, ⟨l₃, hl₃, hk₃⟩, hbus⟩ :=
      saysTables_nodeMethodRegister hcons ht a serial name now nowMonotonic peer fails
    obtain ⟨l₂, hl₂, hk₂⟩ := haddr.log
    have hs' := (whenever_eq_some_iff.mp hhandle).2
    rw [hs'] at hl₃ hbus
    have hl : l = l₁ ++ l₂ ++ l₃ := by
      rw [hlog, hl₂, hl₁, List.append_assoc, List.append_assoc, List.append_cancel_left_eq] at hl₃
      rw [hl₃, List.append_assoc]
    refine ⟨l, hlog, fun b c hc hkind => ?_⟩
    have hparts := hc
    rw [hl, callsOn_append, callsOn_append] at hparts
    rcases List.mem_append.mp hparts with hearly | hlate
    · rcases List.mem_append.mp hearly with hfirst | hmiddle
      · exact htables b c hc ((hk₁ b t c (mem_of_callsOn hfirst)).resolve_left hkind)
      · exact Or.inr (hbus.trans (hk₂ b c hmiddle hkind))
    · exact htables b c hc ((hk₃ b t c (mem_of_callsOn hlate)).resolve_left hkind)
  | enableMetrics serial exported fails =>
    rw [← Option.some.inj hhandle] at haddressed ⊢
    exact haddressed (.methodMetricsEnable s serial exported fails)
  | disableMetrics serial =>
    rw [← Option.some.inj hhandle] at haddressed ⊢
    exact haddressed (.methodMetricsDisable s serial)
  | stop sync => exact absurd rfl (hstop sync)
  | _ => exact absurd rfl hquiet

/-! ## Runs -/

/-- Nothing but notices was said on a connection on which a Register can still arrive. -/
theorem fresh_of_clean (h : ReachableUnder system (fun _ e => e.AttachesCleanly) s)
    (hrun : s.stopped = false) (ht : t ∈ s.nodes) {b : BusId} (hb : ¬Spent b s) :
    ∀ c ∈ callsOn t b s.log, c.kind = .notice := by
  induction h with
  | init hinit =>
    obtain ⟨threshold, cfgs, rfl⟩ := hinit
    have hlog : (start threshold cfgs).log = [] := by
      rw [(Starting.start threshold cfgs).rest]
      rfl
    rw [hlog]
    intro c hc
    exact absurd hc List.not_mem_nil
  | @step s e s' hreach hclean hstep ih =>
    have hrunning := (step_eq_some_iff.mp hstep).1
    have hstop := not_stop hstep hrun
    have hcons := consistent_of_clean hreach hrunning
    have hreach' : ReachableUnder system (fun _ e => e.AttachesCleanly) s' :=
      .step hreach hclean hstep
    have hlink := linkStep_of_step hcons hstop hstep
    have ht' := ht
    rw [nodes_of_step hstop hstep] at ht
    have hwired := wired_of_clean hreach hrunning
    have hwired' := wired_of_clean hreach' hrun
    obtain ⟨l, hlog, hcalls⟩ := calls_of_step hcons hwired ht hclean hstop hstep
    intro c hc
    rw [hlog, callsOn_append] at hc
    rcases List.mem_append.mp hc with hold | hnew
    · exact ih hrunning ht (fun hs => hb (hs.step hclean hlink)) c hold
    · by_contra hkind
      rcases hcalls b c hnew hkind with hbefore | hafter
      · exact hb ((hwired.spent hcons ⟨ht, hbefore⟩).step hclean hlink)
      · exact hb (hwired'.spent (consistent_of_clean hreach' hrun) ⟨ht', hafter⟩)

end Controller
end BlueChi
