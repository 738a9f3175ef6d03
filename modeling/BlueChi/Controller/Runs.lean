import BlueChi.Controller.NodeSteps

/-!
# The invariant along runs

The configuration sets up a consistent state, and every event but the stop keeps it. The gap
between the counter of online nodes and the connections grows only when a signal match fails
while an agent is attached.
-/

namespace BlueChi

open Execution

/-- No match fails whose error path leaves the connection behind. -/
def Event.AttachesCleanly : Event → Prop
  | .register _ _ _ _ _ _ fails => ¬Controller.MatchFails fails
  | _ => True

namespace Controller

variable {gap : ℤ} {s s' : Controller}

/-! ## Start -/

/-- While the configuration is applied there are nodes, and nothing else. -/
structure Starting (s : Controller) : Prop where
  rest : s = { controllerNew with
    nodes := s.nodes, numberOfNodes := s.numberOfNodes,
    heartbeatThresholdMsec := s.heartbeatThresholdMsec, node := s.node, refs := s.refs,
    nextPtr := s.nextPtr }
  registry : Registry s
  node : ∀ n, s.node n = { nodeNew (s.node n).name with
    requiredSelinuxContext := (s.node n).requiredSelinuxContext
    allowedProxyTargets := (s.node n).allowedProxyTargets }
  listed : ∀ n, (s.node n).name ≠ none → n ∈ s.nodes
  refs : ∀ obj, s.refs obj =
    if ∃ n ∈ s.nodes, obj = .node n then RefCount.new .creator else RefCount.free

namespace Starting

lemma new (threshold : ℤ) : Starting { controllerNew with heartbeatThresholdMsec := threshold } :=
  ⟨rfl, ⟨by simp [controllerNew], by simp [controllerNew], by simp [controllerNew],
    by simp [controllerNew], by simp [controllerNew], rfl, by simp [controllerNew]⟩,
    fun n => rfl, fun n hn => absurd rfl hn, fun obj => by simp [controllerNew]⟩

/-- The configured fields of a node. -/
lemma configure (h : Starting s) (n : NodeId) (context : Option String) (targets : List String) :
    Starting (s.modifyNode n fun node => { node with
      requiredSelinuxContext := context.or node.requiredSelinuxContext
      allowedProxyTargets := node.allowedProxyTargets ++ targets }) := by
  have hnames : ∀ k, ((s.modifyNode n fun node => { node with
      requiredSelinuxContext := context.or node.requiredSelinuxContext
      allowedProxyTargets := node.allowedProxyTargets ++ targets }).node k).name =
      (s.node k).name := fun k => by
    by_cases hk : k = n
    · subst hk
      simp
    · simp [hk]
  refine ⟨?_, ⟨h.registry.1, h.registry.2, fun k hk => ?_, fun k hk => ?_, ?_, h.registry.6,
    h.registry.7⟩, fun k => ?_, fun k hk => ?_, h.refs⟩
  · unfold modifyNode
    rw [h.rest]
  · rw [hnames]
    exact h.registry.named k hk
  · rw [hnames]
    exact h.registry.unnamed k hk
  · simp only [hnames]
    exact h.registry.distinct
  · by_cases hk : k = n
    · subst hk
      rw [modifyNode_node, Function.update_self, h.node k]
      rfl
    · rw [modifyNode_node, Function.update_of_ne hk]
      exact h.node k
  · rw [hnames] at hk
    exact h.listed k hk

/-- `controller_add_node` of a name that no node has. -/
lemma addNode (h : Starting s) {name : String} (hname : s.findNode name = none) :
    Starting (s.addNode (some name)) := by
  have hnew : s.nextPtr ∉ s.nodes := fun hmem => lt_irrefl _ (h.registry.fresh _ (Or.inl hmem))
  have hanonymous : s.anonymousNodes = [] := by rw [h.rest]; rfl
  have hold : ∀ k ∈ s.nodes, (s.addNode (some name)).node k = s.node k := fun k hk => by
    have hne : k ≠ s.nextPtr := by
      rintro rfl
      exact hnew hk
    simp [Controller.addNode, nodeAlloc, hne]
  have hself : (s.addNode (some name)).node s.nextPtr = nodeNew (some name) := by
    simp [Controller.addNode, nodeAlloc]
  refine ⟨?_, ⟨?_, ?_, fun k hk => ?_, fun k hk => ?_, ?_, ?_, fun k hk => ?_⟩, fun k => ?_,
    fun k hk => ?_, fun obj => ?_⟩
  · rw [h.rest]
    rfl
  · refine List.nodup_append.mpr ⟨h.registry.nodesNodup, by simp, fun a ha b hb => ?_⟩
    rw [List.mem_singleton] at hb
    rintro rfl
    exact hnew (hb ▸ ha)
  · exact h.registry.anonymousNodup
  · rcases List.mem_append.mp hk with hmem | hmem
    · rw [hold k hmem]
      exact h.registry.named k hmem
    · rw [List.mem_singleton.mp hmem, hself]
      simp [nodeNew]
  · have hmem : k ∈ s.anonymousNodes := hk
    rw [hanonymous] at hmem
    simp at hmem
  · have hmap : (s.nodes ++ [s.nextPtr]).map (fun k => ((s.addNode (some name)).node k).name) =
        s.nodes.map (fun k => (s.node k).name) ++ [some name] := by
      rw [List.map_append, List.map_singleton, hself]
      congr 1
      exact List.map_congr_left fun k hk => by rw [hold k hk]
    rw [show (s.addNode (some name)).nodes = s.nodes ++ [s.nextPtr] from rfl, hmap]
    refine List.nodup_append.mpr ⟨h.registry.distinct, by simp, fun a ha b hb => ?_⟩
    obtain ⟨k, hk, rfl⟩ := List.mem_map.mp ha
    rw [List.mem_singleton] at hb
    rintro heq
    rw [(h.registry.findNode_eq_some_iff name k).mpr ⟨hk, heq.trans hb⟩] at hname
    simp at hname
  · rw [show (s.addNode (some name)).nodes = s.nodes ++ [s.nextPtr] from rfl,
      show (s.addNode (some name)).numberOfNodes = s.numberOfNodes + 1 from rfl,
      h.registry.count]
    simp
  · rcases hk with hmem | hmem
    · rcases List.mem_append.mp hmem with hmem | hmem
      · exact (h.registry.fresh k (Or.inl hmem)).trans (Nat.lt_succ_self _)
      · rw [List.mem_singleton] at hmem
        exact hmem ▸ Nat.lt_succ_self _
    · exact (h.registry.fresh k (Or.inr hmem)).trans (Nat.lt_succ_self _)
  · by_cases hk : k = s.nextPtr
    · rw [hk, hself]
      rfl
    · simp only [Controller.addNode, nodeAlloc, Function.update_of_ne hk]
      exact h.node k
  · by_cases hkp : k = s.nextPtr
    · exact List.mem_append_right _ (List.mem_singleton.mpr hkp)
    · simp only [Controller.addNode, nodeAlloc, Function.update_of_ne hkp] at hk
      exact List.mem_append_left _ (h.listed k hk)
  · have hrefs : (s.addNode (some name)).refs obj =
        if obj = .node s.nextPtr then RefCount.new .creator else s.refs obj := by
      by_cases hobj : obj = .node s.nextPtr
      · subst hobj
        simp [Controller.addNode, nodeAlloc]
      · simp [Controller.addNode, nodeAlloc, hobj]
    have hiff : (∃ n ∈ s.nodes ++ [s.nextPtr], obj = .node n) ↔
        obj = .node s.nextPtr ∨ ∃ n ∈ s.nodes, obj = .node n := by
      simp only [List.mem_append, List.mem_singleton]
      constructor
      · rintro ⟨n, hn | hn, rfl⟩
        · exact Or.inr ⟨n, hn, rfl⟩
        · exact Or.inl (hn ▸ rfl)
      · rintro (rfl | ⟨n, hn, rfl⟩)
        · exact ⟨_, Or.inr rfl, rfl⟩
        · exact ⟨n, Or.inl hn, rfl⟩
    rw [hrefs, h.refs, show (s.addNode (some name)).nodes = s.nodes ++ [s.nextPtr] from rfl,
      if_congr hiff rfl rfl]
    by_cases hobj : obj = .node s.nextPtr <;> simp [hobj]

lemma applyNodeConfig (h : Starting s) (cfg : NodeConfig) : Starting (applyNodeConfig s cfg) := by
  unfold Controller.applyNodeConfig
  simp only
  cases hfind : s.findNode cfg.name with
  | none => exact (h.addNode hfind).configure _ _ _
  | some n => exact h.configure _ _ _

lemma start (threshold : ℤ) (cfgs : List NodeConfig) : Starting (start threshold cfgs) :=
  foldl_keeps (fun _ cfg hs => hs.applyNodeConfig cfg) cfgs (.new threshold)

/-- Nothing is there that could break the invariant. -/
theorem consistent (h : Starting s) : Consistent 0 s := by
  have hbus : ∀ n, (s.node n).agentBus = none := fun n => by rw [h.node n]; rfl
  have hproxies : ∀ n, (s.node n).proxyMonitors = [] := fun n => by rw [h.node n]; rfl
  have htable : ∀ n, (s.node n).unitSubscriptions = [] := fun n => by rw [h.node n]; rfl
  have hdeps : ∀ n, (s.node n).proxyDependencies = [] := fun n => by rw [h.node n]; rfl
  have hall : s.allSubscriptions = [] := by rw [h.rest]; rfl
  have hmonitor : ∀ m, s.monitor m = ⟨0, "", [], false, []⟩ := fun m => by rw [h.rest]; rfl
  have hproxyMonitor : ∀ p, s.proxyMonitor p = ⟨0, ⟨0, 0, .proxy 0, "", []⟩, false, "", none, ""⟩ :=
    fun p => by rw [h.rest]; rfl
  have hrequest : ∀ r, s.request r = ⟨0, .forward 0, false⟩ := fun r => by rw [h.rest]; rfl
  have hfleet : ∀ q, s.fleet q = ⟨0, 0, 0, []⟩ := fun q => by rw [h.rest]; rfl
  have hfree : ∀ obj, (∀ n, obj ≠ .node n) → s.refs obj = RefCount.free := fun obj hobj => by
    rw [h.refs, if_neg]
    rintro ⟨n, -, rfl⟩
    exact hobj n rfl
  have hnode : ∀ n, s.refs (.node n) =
      if n ∈ s.nodes then RefCount.new .creator else RefCount.free := fun n => by
    rw [h.refs]
    congr 1
    simp
  have hanonymous : s.anonymousNodes = [] := by rw [h.rest]; rfl
  have hcalls : s.proxyCalls = [] := by rw [h.rest]; rfl
  refine ⟨h.registry, ⟨fun n => ?_, fun n o hneed => ?_, fun q hq => ?_, fun q => ?_, fun n hn => ?_⟩,
    ⟨h.listed, fun n hn => absurd (hbus n) hn, ?_, ?_⟩, ⟨fun n hjob => ?_, fun n hn => ?_,
      fun n _ hn => absurd (hbus n) hn⟩, fun n _ => ?_, ⟨fun n _ unit sub => ?_, fun n _ => htable n⟩,
    ⟨?_, ?_, fun m sub => ?_, fun m => ?_, fun m => ?_, fun m _ => ?_, fun m hm => ?_⟩,
    ⟨fun k p hp => ?_, fun k => ?_, fun k p hp => ?_, fun p hp => ?_, ?_, fun p => ?_, fun p => ?_,
      fun p => ?_, fun p _ => ?_, fun p _ => ?_⟩, ⟨fun t _ unit => ?_, fun t => ?_, fun t => ?_⟩⟩
  · rw [hnode]
    split
    · exact RefCount.wf_new _
    · exact RefCount.wf_free
  · cases o with
    | creator =>
      have hn : n ∈ s.nodes := hneed.resolve_right (by simp [hanonymous])
      rw [hnode, if_pos hn]
      simp
    | request r => simp [Needed, hfree (.request r) (by simp), RefCount.free] at hneed
    | proxyMonitor p => simp [Needed, hproxyMonitor] at hneed
    | _ => exact hneed.elim
  · simp [hfleet] at hq
  · simp [hfleet]
  · have hout : n ∉ s.nodes := fun hmem => by
      have hlt := h.registry.fresh n (Or.inl hmem)
      omega
    rw [hnode, if_neg hout]
    rfl
  · rw [h.rest]
    simp [controllerNew]
  · have honline : s.numberOfNodesOnline = 0 := by rw [h.rest]; rfl
    simp [honline, nodeHasAgent, hbus]
  · rcases hjob with ⟨job, hjob, -⟩ | ⟨r, serial, job, hreq, -⟩
    · rw [h.rest] at hjob
      simp [controllerNew] at hjob
    · simp [hrequest] at hreq
  · rw [hnode, if_neg hn]
    exact List.nil_sublist _
  · rw [h.node n]
    exact ⟨rfl, rfl, rfl, rfl, rfl⟩
  · simp [Node.subsOf, Node.usubs, htable, hall, Keyed.get]
  · simp [hall]
  · simp [hall]
  · simp [hmonitor, hall]
  · simp [hmonitor]
  · simp [hmonitor, recipients]
  · simp [hmonitor]
  · simp [hmonitor] at hm
  · simp [hproxies] at hp
  · simp [hproxies]
  · simp [hproxies] at hp
  · simp [hproxyMonitor] at hp
  · simp [hall]
  · exact ⟨0, by rw [hproxyMonitor]⟩
  · rw [hfree (.proxyMonitor p) (by simp)]
    exact RefCount.wf_free
  · simp [hcalls]
  · simp [hproxyMonitor]
  · rw [hfree (.proxyMonitor p) (by simp)]
    rfl
  · simp [depCount, hdeps, Keyed.get, proxyCount, hproxies]
  · simp [hdeps]
  · simp [hdeps]

end Starting

/-! ## Steps -/

namespace Consistent

lemma onSignal (h : Consistent gap s) {n : NodeId} (hn : n ∈ s.nodes) (sig : NodeSignal) :
    Consistent gap (s.onSignal n sig) := by
  cases sig with
  | jobDone id result now sync => exact h.of_frame (coreFrame_finishJob sync s id result now)
  | jobStateChanged id state => exact h.of_frame (coreFrame_jobStateChanged s id state)
  | unitPropertiesChanged unit interface properties =>
    exact h.nodeMatchUnitPropertiesChanged n unit interface properties
  | unitNew unit reason => exact h.nodeMatchUnitNew n unit reason
  | unitStateChanged unit activeState substate reason =>
    exact h.nodeMatchUnitStateChanged n unit activeState substate reason
  | unitRemoved unit => exact h.nodeMatchUnitRemoved n unit
  | proxyNew target unit path => exact h.nodeOnMatchProxyNew hn target unit path
  | proxyRemoved target unit => exact h.nodeOnMatchProxyRemoved n target unit
  | heartbeat now nowMonotonic =>
    have hclock : CoreFrame s (s.nodeMatchHeartbeat n now nowMonotonic) :=
      coreFrame_modifyNode s n ⟨rfl, fun _ => rfl, id⟩
    exact h.of_frame hclock

/-- A node with a slot has a connection. -/
lemma agentBus_of_disconnectSlot (h : Consistent gap s) {n : NodeId}
    (hslot : (s.node n).disconnectSlot.isSome = true) : (s.node n).agentBus ≠ none := by
  intro hnone
  rw [(h.detached n hnone).2.1] at hslot
  simp at hslot

/-- Every event but the stop keeps the invariant. -/
theorem step (h : Consistent gap s) {e : Event} (hstop : ∀ sync, e ≠ .stop sync)
    (hstep : s.step e = some s') : ∃ gap', Consistent gap' s' ∧ (e.AttachesCleanly → gap' = gap) := by
  obtain ⟨-, hstep⟩ := step_eq_some_iff.mp hstep
  have hkeep : Consistent gap s' → ∃ gap', Consistent gap' s' ∧ (e.AttachesCleanly → gap' = gap) :=
    fun h' => ⟨gap, h', fun _ => rfl⟩
  cases e with
  | register a serial name now nowMonotonic peer fails =>
    obtain ⟨-, rfl⟩ := whenever_eq_some_iff.mp hstep
    exact h.nodeMethodRegister a serial name now nowMonotonic peer fails
  | accept peer fails => exact hkeep (Option.some.inj hstep ▸ h.acceptNodeConnection peer fails)
  | disconnected n =>
    obtain ⟨hslot, rfl⟩ := whenever_eq_some_iff.mp hstep
    exact hkeep (h.nodeDisconnect (h.agentBus_of_disconnectSlot hslot))
  | heartbeatTimer now => exact hkeep (Option.some.inj hstep ▸ h.heartbeatTimerCallback now)
  | agentSignal bus n sig =>
    obtain ⟨hmatch, rfl⟩ := whenever_eq_some_iff.mp hstep
    exact hkeep (h.onSignal (h.connected.signals _ hmatch) sig)
  | agentReply r m => exact hkeep (h.agentRequestCallback hstep)
  | proxyReply p => exact hkeep (h.proxyMonitorCallback hstep)
  | lifecycle n serial method unit mode startTime started =>
    obtain ⟨hn, rfl⟩ := whenever_eq_some_iff.mp hstep
    exact hkeep (h.nodeRunUnitLifecycleMethod hn ..)
  | forward n serial method failure started =>
    obtain ⟨hn, rfl⟩ := whenever_eq_some_iff.mp hstep
    exact hkeep (h.nodeMethodForward hn ..)
  | jobCancel id serial started =>
    obtain ⟨job, hfind, rfl⟩ := Option.map_eq_some_iff.mp hstep
    exact hkeep (h.jobMethodCancel (List.mem_of_find?_eq_some hfind) serial started)
  | fleet serial method starts =>
    exact hkeep (Option.some.inj hstep ▸ h.agentFleetRequestStart serial method starts)
  | createMonitor serial owner exported =>
    exact hkeep (Option.some.inj hstep ▸ h.createMonitor serial owner exported)
  | subscribe m serial node units =>
    obtain ⟨hm, rfl⟩ := whenever_eq_some_iff.mp hstep
    exact hkeep (h.monitorMethodSubscribe (h.owned.exported m hm) serial node units)
  | unsubscribe m serial subId =>
    obtain ⟨-, rfl⟩ := whenever_eq_some_iff.mp hstep
    exact hkeep (h.monitorMethodUnsubscribe m serial subId)
  | addPeer m serial name =>
    obtain ⟨hm, rfl⟩ := whenever_eq_some_iff.mp hstep
    exact hkeep (h.monitorMethodAddPeer hm serial name)
  | removePeer m serial peerId reason =>
    obtain ⟨hm, rfl⟩ := whenever_eq_some_iff.mp hstep
    exact hkeep (h.monitorMethodRemovePeer hm serial peerId reason)
  | closeMonitor m serial =>
    obtain ⟨-, rfl⟩ := whenever_eq_some_iff.mp hstep
    exact hkeep (h.monitorMethodClose m serial)
  | nameOwnerChanged name newOwner =>
    exact hkeep (Option.some.inj hstep ▸ h.nameOwnerChanged name newOwner)
  | enableMetrics serial exported fails =>
    exact hkeep (Option.some.inj hstep ▸ h.methodMetricsEnable serial exported fails)
  | disableMetrics serial => exact hkeep (Option.some.inj hstep ▸ h.methodMetricsDisable serial)
  | stop sync => exact absurd rfl (hstop sync)

end Consistent

/-! ## Runs -/

/-- After the stop no event is handled. -/
lemma stopped_of_stop {sync : SyncCalls} (hstep : s.step (.stop sync) = some s') :
    s'.stopped = true := by
  rw [← Option.some.inj (step_eq_some_iff.mp hstep).2]
  unfold controllerStop
  simp only
  split <;> rfl

/-- The running controller is consistent. -/
theorem consistent_of_reachable (h : Reachable system s) (hrun : s.stopped = false) :
    ∃ gap, Consistent gap s := by
  let Inv : Controller → Prop := fun s => s.stopped = false → ∃ gap, Consistent gap s
  have hinv : Inv s := by
    refine Reachable.invariant ?_ ?_ h
    · rintro s ⟨threshold, cfgs, rfl⟩ -
      exact ⟨0, (Starting.start threshold cfgs).consistent⟩
    · intro s e s' hs hstep hrun'
      obtain ⟨gap, hgap⟩ := hs (step_eq_some_iff.mp hstep).1
      obtain ⟨gap', hgap', -⟩ := hgap.step (fun sync heq => by
        subst heq
        rw [stopped_of_stop hstep] at hrun'
        simp at hrun') hstep
      exact ⟨gap', hgap'⟩
  exact hinv hrun

/-- The counter of online nodes is right as long as every attach is clean. -/
theorem consistent_of_clean
    (h : ReachableUnder system (fun _ e => e.AttachesCleanly) s) (hrun : s.stopped = false) :
    Consistent 0 s := by
  let Inv : Controller → Prop := fun s => s.stopped = false → Consistent 0 s
  have hinv : Inv s := by
    refine ReachableUnder.invariant ?_ ?_ h
    · rintro s ⟨threshold, cfgs, rfl⟩ -
      exact (Starting.start threshold cfgs).consistent
    · intro s e s' hs hclean hstep hrun'
      obtain ⟨gap', hgap', hsame⟩ := (hs (step_eq_some_iff.mp hstep).1).step (fun sync heq => by
        subst heq
        rw [stopped_of_stop hstep] at hrun'
        simp at hrun') hstep
      exact hsame hclean ▸ hgap'
  exact hinv hrun

end Controller
end BlueChi
