import BlueChi.Controller.ConnectionSteps

/-!
# Nodes come and go

Anonymous nodes are made for incoming connections and freed when they are taken out of their
list. The nodes of the configuration stay and lose their connections.
-/

namespace BlueChi
namespace Controller

variable {gap : ℤ} {s s' : Controller}

namespace Consistent

/-! ## Anonymous nodes -/

/-- Nodes enter or leave the list of anonymous nodes. -/
theorem of_anonymous (h : Consistent gap s) (heq : s' = { s with
      anonymousNodes := s'.anonymousNodes, refs := s'.refs, nextPtr := s'.nextPtr, mem := s'.mem })
    (hproxy : ∀ p, s'.refs (.proxyMonitor p) = s.refs (.proxyMonitor p))
    (hptr : s.nextPtr ≤ s'.nextPtr) (hnodup : s'.anonymousNodes.Nodup)
    (hunnamed : ∀ n ∈ s'.anonymousNodes, (s.node n).name = none)
    (hfresh : ∀ n : ℕ, n ∈ s'.anonymousNodes → n < s'.nextPtr) (hheld : Held s')
    (howners : ∀ n, n ∉ s.nodes → (s'.refs (.node n)).owners.Sublist [.creator])
    (hbus : ∀ n, n ∉ s.nodes → (s.node n).agentBus ≠ none → n ∈ s'.anonymousNodes) :
    Consistent gap s' := by
  have hnode : s'.node = s.node := by rw [heq]
  have hnodes : s'.nodes = s.nodes := by rw [heq]
  have hall : s'.allSubscriptions = s.allSubscriptions := by rw [heq]
  have hmonitor : s'.monitor = s.monitor := by rw [heq]
  have hproxyMonitor : s'.proxyMonitor = s.proxyMonitor := by rw [heq]
  obtain ⟨hreg, -, hcon, hfor, hdet, hind, hown, hpro, hcnt⟩ := h
  refine ⟨⟨hnodes ▸ hreg.1, hnodup, ?_, ?_, ?_, ?_, fun n hn => ?_⟩, hheld,
    ⟨?_, fun n hn => ?_, ?_, ?_⟩, ⟨fun n hjob => ?_, ?_, ?_⟩, hnode ▸ hdet, ⟨?_, ?_⟩,
    ⟨hall ▸ hown.1, fun sub hsub => ?_, ?_, hmonitor ▸ hown.4, hmonitor ▸ hown.5, fun m hm => ?_,
      fun m hm => ?_⟩,
    ⟨fun k p hp => ?_, hnode ▸ hpro.2, ?_, ?_, ?_, hproxyMonitor ▸ hpro.6, fun p => ?_, fun p => ?_,
      fun p hp => ?_, fun p hp => ?_⟩, ⟨fun t ht unit => ?_, hnode ▸ hcnt.2, hnode ▸ hcnt.3⟩⟩
  · rw [hnodes, hnode]
    exact hreg.3
  · rw [hnode]
    exact hunnamed
  · rw [hnodes, hnode]
    exact hreg.5
  · rw [heq]
    exact hreg.6
  · rcases hn with hn | hn
    · exact (hreg.fresh n (Or.inl (hnodes ▸ hn))).trans_le hptr
    · exact hfresh n hn
  · rw [hnodes, hnode]
    exact hcon.1
  · rw [hnode] at hn
    exact (hcon.made n hn).trans_le hptr
  · rw [hnodes, heq]
    exact hcon.3
  · have hcounter : s'.numberOfNodesOnline = s.numberOfNodesOnline := by rw [heq]
    rw [hcounter, hnodes, hnode]
    exact hcon.4
  · have hjobs : s'.jobs = s.jobs := by rw [heq]
    have hrequest : s'.request = s.request := by rw [heq]
    rw [HasJob, hjobs, hrequest] at hjob
    exact hnodes ▸ hfor.jobs n hjob
  · rw [hnodes]
    exact howners
  · rw [hnodes, hnode]
    exact hbus
  · rw [hnodes, hnode, hall]
    exact hind.1
  · rw [hnodes, hnode]
    exact hind.2
  · exact (hown.fresh sub (hall ▸ hsub)).trans_le hptr
  · rw [hmonitor, hall]
    exact hown.3
  · rw [hmonitor]
    exact hown.unused m (hptr.trans hm)
  · exact (hown.exported m (hmonitor ▸ hm)).trans_le hptr
  · rw [hnode] at hp
    obtain ⟨h1, h2, h3, h4, h5, h6, h7, h8, h9⟩ := hpro.listed k p hp
    refine ⟨hnodes ▸ h1, hproxyMonitor ▸ h2, ?_, ?_, hproxyMonitor ▸ h5, hproxyMonitor ▸ h6,
      hproxyMonitor ▸ h7, ?_, ?_⟩
    · rw [hnodes, hnode, hproxyMonitor]
      exact h3
    · rw [hnode, hproxyMonitor]
      exact h4
    · rw [hproxyMonitor, hall]
      exact h8
    · rw [hproxy]
      exact h9
  · rw [hnode, hproxyMonitor]
    exact hpro.3
  · rw [hnode, hproxyMonitor]
    exact hpro.4
  · rw [hnode, hproxyMonitor, hall]
    exact hpro.5
  · rw [hproxy]
    exact hpro.7 p
  · have hcalls : s'.proxyCalls = s.proxyCalls := by rw [heq]
    rw [hcalls, hproxy]
    exact hpro.8 p
  · rw [hproxyMonitor]
    exact hpro.9 p (hptr.trans hp)
  · rw [hproxy]
    exact hpro.10 p (hptr.trans hp)
  · have hcount : s'.proxyCount t unit = s.proxyCount t unit := by
      unfold proxyCount Watches
      rw [hnodes, hnode, hproxyMonitor]
    rw [hnodes] at ht
    rw [hcount, hnode]
    exact hcnt.count t ht unit

/-- A new anonymous node. -/
theorem addNode_none (h : Consistent gap s) : Consistent gap (s.addNode none) := by
  have hout : s.nextPtr ∉ s.nodes := fun hmem => lt_irrefl _ (h.registry.fresh _ (Or.inl hmem))
  have hnew : s.nextPtr ∉ s.anonymousNodes := fun hmem =>
    lt_irrefl _ (h.registry.fresh _ (Or.inr hmem))
  have hnode : Consistent gap (s.modifyNode s.nextPtr fun _ => nodeNew none) :=
    h.modify_unlisted hout (h.name_eq_none hout).symm (fun hbus => absurd rfl hbus)
      (fun _ => ⟨rfl, rfl, rfl, rfl, rfl⟩) (h.proxyMonitors_eq_nil hout).symm rfl (Or.inr rfl)
  have hrefs : ∀ k : ℕ, k ≠ s.nextPtr → (s.addNode none).refs (.node k) = s.refs (.node k) :=
    fun k hk => by simp [addNode, nodeAlloc, hk]
  have hself : (s.addNode none).refs (.node s.nextPtr) = RefCount.new .creator := by
    simp [addNode, nodeAlloc]
  refine hnode.of_anonymous rfl (fun p => by simp [addNode, nodeAlloc]) (Nat.le_succ _) ?_
    (fun n hn => ?_) (fun n hn => ?_) ?_ (fun n hn => ?_) fun n hn hbus => ?_
  · refine List.nodup_append.mpr ⟨h.registry.anonymousNodup, by simp, fun a ha b hb => ?_⟩
    rw [List.mem_singleton] at hb
    rintro rfl
    exact hnew (hb ▸ ha)
  · rcases List.mem_append.mp hn with hold | hself'
    · exact hnode.registry.unnamed n hold
    · rw [List.mem_singleton] at hself'
      simp [hself', nodeNew]
  · rcases List.mem_append.mp hn with hold | hself'
    · exact (h.registry.fresh n (Or.inr hold)).trans (Nat.lt_succ_self _)
    · rw [List.mem_singleton] at hself'
      exact hself' ▸ Nat.lt_succ_self _
  · have hneed : ∀ k o, k ≠ s.nextPtr → Needed (s.addNode none) k o → Needed s k o := by
      intro k o hk hneed
      cases o with
      | creator =>
        rcases hneed with hlisted | hlisted
        · exact Or.inl hlisted
        · refine Or.inr ?_
          rcases List.mem_append.mp hlisted with hold | hself'
          · exact hold
          · exact absurd (List.mem_singleton.mp hself') hk
      | request r => simpa [Needed, addNode, nodeAlloc] using hneed
      | proxyMonitor p => simpa [Needed, addNode, nodeAlloc] using hneed
      | _ => exact hneed
    refine ⟨fun k => ?_, fun k o hk => ?_, fun q hq k => ?_, fun q => h.held.slots q, fun k hk => ?_⟩
    · by_cases hkp : k = s.nextPtr
      · rw [hkp, hself]
        exact RefCount.wf_new _
      · rw [hrefs k hkp]
        exact h.held.wf k
    · by_cases hkp : k = s.nextPtr
      · subst hkp
        rw [hself]
        -- nothing needed the free address
        have hfree := h.held.fresh s.nextPtr (le_refl _)
        cases o with
        | creator => simp
        | request r =>
          have hold : Needed s s.nextPtr (.request r) := by
            simpa [Needed, addNode, nodeAlloc] using hk
          have hmem := h.held.owners _ _ hold
          rw [hfree] at hmem
          simp at hmem
        | proxyMonitor p =>
          have hold : Needed s s.nextPtr (.proxyMonitor p) := by
            simpa [Needed, addNode, nodeAlloc] using hk
          have hmem := h.held.owners _ _ hold
          rw [hfree] at hmem
          simp at hmem
        | _ => simp [Needed] at hk
      · rw [hrefs k hkp]
        exact h.held.owners k o (hneed k o hkp hk)
    · have hle := h.held.fleet q hq k
      by_cases hkp : k = s.nextPtr
      · subst hkp
        rw [h.held.fresh _ (le_refl _)] at hle
        exact hle.trans (Nat.zero_le _)
      · rw [hrefs k hkp]
        exact hle
    · have hle : s.nextPtr + 1 ≤ k := hk
      have hkp : k ≠ s.nextPtr := by
        rintro rfl
        omega
      rw [hrefs k hkp]
      exact h.held.fresh k (Nat.le_of_succ_le hle)
  · by_cases hkp : n = s.nextPtr
    · rw [hkp, hself]
      exact List.Sublist.refl _
    · rw [hrefs n hkp]
      exact h.forListed.owners n hn
  · refine List.mem_append.mpr (Or.inl (hnode.forListed.anonymous n hn hbus))

/-- `controller_remove_node` of an anonymous node, which is freed. -/
lemma removeNode_anonymous_eq (h : Consistent gap s) {n : NodeId} (hn : n ∈ s.anonymousNodes) :
    s.removeNode n = { (s.modifyNode n freedNode).dropRef (.node n) .creator with
      anonymousNodes := s.anonymousNodes.erase n, mem := (s.removeNode n).mem } := by
  have hname := h.registry.unnamed n hn
  have hout : n ∉ s.nodes := fun hmem => h.registry.named n hmem hname
  have hunlist : s.unlistNode n = { s.listRemove .anonymousNodes (n ∈ s.anonymousNodes) with
      anonymousNodes := s.anonymousNodes.erase n } := by
    unfold unlistNode
    rw [hname]
    rfl
  have honly : (s.refs (.node n)).owners = [.creator] := by
    have hcreator := h.held.owners n .creator (Or.inr hn)
    rcases List.sublist_singleton.mp (h.forListed.owners n hout) with hnil | hone
    · rw [hnil] at hcreator
      simp at hcreator
    · exact hone
  have hcount : (s.refs (.node n)).count = 1 := by
    rw [h.held.wf n, honly]
    rfl
  have hoffline : nodeIsOnline ((s.unlistNode n).node n) = false := by
    rw [hunlist]
    simp [nodeIsOnline, hname]
  unfold removeNode
  simp only [hoffline, Bool.false_eq_true, if_false]
  unfold Controller.nodeUnref nodeUnrefFuel
  simp only
  rw [if_pos (by rw [hunlist, isFreed_iff]; simp [hcount]), nodeFinalize_eq]
  · rw [hunlist]
    rfl
  · rw [hunlist]
    exact hname
  · rw [hunlist]
    exact h.proxyMonitors_eq_nil hout

theorem removeNode_anonymous (h : Consistent gap s) {n : NodeId} (hn : n ∈ s.anonymousNodes) :
    Consistent gap (s.removeNode n) := by
  have heq := h.removeNode_anonymous_eq hn
  have hname := h.registry.unnamed n hn
  have hout : n ∉ s.nodes := fun hmem => h.registry.named n hmem hname
  generalize s.removeNode n = s' at heq ⊢
  have hfreed : Consistent gap (s.modifyNode n freedNode) :=
    h.modify_unlisted hout rfl (fun hbus => absurd rfl hbus) (fun _ => ⟨rfl, rfl, rfl, rfl, rfl⟩)
      rfl rfl (Or.inr rfl)
  have hanonymous : s'.anonymousNodes = s.anonymousNodes.erase n := by rw [heq]
  have hmem := fun k => h.registry.anonymousNodup.mem_erase_iff (a := k) (b := n)
  have hcreator := hfreed.held.owners n .creator (Or.inr hn)
  -- the list needs the node no more
  have hheld : Held s' := by
    have hdrop : Held { (s.modifyNode n freedNode) with
        anonymousNodes := s.anonymousNodes.erase n } := by
      refine hfreed.held.of_needed (fun _ => rfl) (fun k o hneed => ?_) rfl (le_refl _)
      cases o with
      | creator =>
        rcases hneed with hlisted | hlisted
        · exact Or.inl hlisted
        · exact Or.inr (List.mem_of_mem_erase hlisted)
      | request r => exact hneed
      | proxyMonitor p => exact hneed
      | _ => exact hneed
    have hdropped := hdrop.dropRef_node (n := n) (o := .creator) hcreator (fun hneed => by
      rcases hneed with hlisted | hlisted
      · exact hout hlisted
      · exact ((hmem n).mp hlisted).1 rfl) (by simp)
    rw [heq]
    refine hdropped.of_needed (fun _ => rfl) (fun k o hneed => ?_) rfl (le_refl _)
    exact hneed.mono rfl rfl rfl rfl (fun _ hr => hr) fun _ hp => hp
  refine hfreed.of_anonymous (by rw [heq]; rfl) (fun p => by rw [heq]; simp) (by rw [heq]; exact le_refl _)
    ?_ (fun k hk => ?_) (fun k hk => ?_) hheld (fun k hk => ?_) fun k hk hbus => ?_
  · rw [hanonymous]
    exact h.registry.anonymousNodup.erase n
  · rw [hanonymous] at hk
    exact hfreed.registry.unnamed k (List.mem_of_mem_erase hk)
  · rw [hanonymous] at hk
    rw [heq]
    exact h.registry.fresh k (Or.inr (List.mem_of_mem_erase hk))
  · rw [heq]
    by_cases hkn : k = n
    · subst hkn
      simpa using List.erase_sublist.trans (h.forListed.owners k hk)
    · simpa [hkn] using h.forListed.owners k hk
  · rw [hanonymous, hmem]
    refine ⟨?_, hfreed.forListed.anonymous k hk hbus⟩
    rintro rfl
    simp [freedNode] at hbus

/-- `controller_accept_node_connection`. -/
theorem acceptNodeConnection (h : Consistent gap s) (peer : PeerInfo) (fails : BusCall → Bool) :
    Consistent gap (s.acceptNodeConnection peer fails) := by
  have hadd : Consistent gap (s.addNode none).busAlloc :=
    h.addNode_none.of_frame (coreFrame_busAlloc _)
  have hmem : s.nextPtr ∈ (s.addNode none).busAlloc.anonymousNodes :=
    List.mem_append_right _ (List.mem_singleton.mpr rfl)
  have hagent : nodeHasAgent ((s.addNode none).busAlloc.node s.nextPtr) = false := by
    simp [addNode, nodeAlloc, busAlloc, nodeNew, nodeHasAgent]
  obtain ⟨hcons, hkeeps⟩ := nodeSetAgentBus_anonymous hadd hmem (s.nextPtr + 1) peer fails hagent
  unfold Controller.acceptNodeConnection
  simp only
  generalize (s.addNode none).busAlloc.nodeSetAgentBus s.nextPtr (s.nextPtr + 1) peer fails = result
    at hcons hkeeps ⊢
  obtain ⟨ok, t⟩ := result
  cases ok with
  | true => exact hcons
  | false => exact hcons.removeNode_anonymous (hkeeps.anonymousNodes.symm ▸ hmem)

/-! ## Registering -/

end Consistent

/-- The conditions under which a name is accepted. -/
lemma registerTarget_eq_ok_iff (hreg : Registry s) (a n : NodeId) (name : String) :
    s.registerTarget a name = .ok n ↔ (s.node a).name = none ∧ n ∈ s.nodes ∧
      (s.node n).name = some name ∧ nodeHasAgent (s.node n) = false ∧
      ((s.node n).requiredSelinuxContext ≠ none →
        (s.node a).peerSelinuxContext = (s.node n).requiredSelinuxContext) := by
  unfold registerTarget
  by_cases ha : (s.node a).name = none
  · rw [if_neg (by simp [ha])]
    cases hfind : s.findNode name with
    | none =>
      simp only [reduceCtorEq, false_iff]
      rintro ⟨-, hn, hname, -⟩
      rw [(hreg.findNode_eq_some_iff name n).mpr ⟨hn, hname⟩] at hfind
      simp at hfind
    | some k =>
      have hk := (hreg.findNode_eq_some_iff name k).mp hfind
      have hiff : ∀ n, n ∈ s.nodes ∧ (s.node n).name = some name ↔ n = k := fun n => by
        rw [← hreg.findNode_eq_some_iff, hfind, Option.some.injEq]
        exact eq_comm
      simp only
      constructor
      · intro hok
        split at hok
        · simp at hok
        · rename_i hcontext
          split at hok
          · simp at hok
          · rename_i hagent
            rw [Except.ok.injEq] at hok
            subst hok
            refine ⟨ha, hk.1, hk.2, by simpa using hagent, fun hrequired => ?_⟩
            by_contra hne
            exact hcontext ⟨Option.isSome_iff_ne_none.mpr hrequired, hne⟩
      · rintro ⟨-, hn, hname, hagent, hcontext⟩
        obtain rfl := (hiff n).mp ⟨hn, hname⟩
        rw [if_neg, if_neg (by simp [hagent])]
        rintro ⟨hrequired, hne⟩
        exact hne (hcontext (Option.isSome_iff_ne_none.mp hrequired))
  · rw [if_pos (Option.isSome_iff_ne_none.mpr ha)]
    simp [ha]

namespace Consistent

/-- `node_enable_metrics`. -/
lemma nodeEnableMetrics (h : Consistent gap s) (fails : BusCall → Bool) (n : NodeId) :
    Consistent gap (s.nodeEnableMetrics fails n) := by
  unfold Controller.nodeEnableMetrics
  split
  · rename_i hagent
    have hf := coreFrame_sendAgent s n .enableMetrics
    have hbus : ((s.sendAgent n .enableMetrics).node n).agentBus ≠ none := by
      rw [(hf.node n).agentBus]
      simpa [nodeHasAgent, Option.isSome_iff_ne_none] using hagent
    simp only
    split
    · exact h.of_frame hf
    · exact (h.of_frame hf).modifySlots rfl hbus rfl
  · exact h

/-- `node_disable_metrics`. -/
lemma nodeDisableMetrics (h : Consistent gap s) (n : NodeId) :
    Consistent gap (s.nodeDisableMetrics n) := by
  unfold Controller.nodeDisableMetrics
  split
  · rename_i hagent
    have hf := coreFrame_sendAgent s n .disableMetrics
    have hbus : ((s.sendAgent n .disableMetrics).node n).agentBus ≠ none := by
      rw [(hf.node n).agentBus]
      simpa [nodeHasAgent, Option.isSome_iff_ne_none] using hagent
    exact (h.of_frame hf).modifySlots rfl hbus rfl
  · exact h

lemma nodeEnableMetrics_keeps (s : Controller) (fails : BusCall → Bool) (n : NodeId) :
    (s.nodeEnableMetrics fails n).nodes = s.nodes := by
  unfold Controller.nodeEnableMetrics
  split
  · simp only
    split <;> simp
  · rfl

/-- `node_method_register`. The counter follows, unless a match fails and the connection is left
behind. -/
theorem nodeMethodRegister (h : Consistent gap s) (a : NodeId) (serial : Serial) (name : String)
    (now nowMonotonic : UInt64) (peer : PeerInfo) (fails : BusCall → Bool) :
    ∃ gap', Consistent gap' (s.nodeMethodRegister a serial name now nowMonotonic peer fails) ∧
      (¬MatchFails fails → gap' = gap) := by
  unfold Controller.nodeMethodRegister
  split
  · exact ⟨gap, h.of_frame (coreFrame_emit _ _), fun _ => rfl⟩
  · exact ⟨gap, h, fun _ => rfl⟩
  · rename_i n bus htarget _
    obtain ⟨ha, hn, hname, hagent, -⟩ := (registerTarget_eq_ok_iff h.registry a n name).mp htarget
    have hclock := coreFrame_modifyNode s n (f := fun node =>
      { node with lastSeen := now, lastSeenMonotonic := nowMonotonic }) ⟨rfl, fun _ => rfl, id⟩
    have hseen := h.of_frame hclock
    have hattach := nodeSetAgentBus_named hseen (n := n) hn
      (by rw [(hclock.node n).nodeHasAgent, hagent]) bus peer fails
    have ha_out : a ∉ s.nodes := fun hmem => h.registry.named a hmem ha
    dsimp only
    generalize (s.modifyNode n fun node => { node with
      lastSeen := now, lastSeenMonotonic := nowMonotonic }).nodeSetAgentBus n bus peer fails = result
      at hattach ⊢
    obtain ⟨ok, t⟩ := result
    cases ok with
    | false =>
      refine ⟨_, hattach.consistent.of_frame (coreFrame_emit _ _), fun hnot => ?_⟩
      rw [agentCount, hattach.failure hnot rfl]
      simp
    | true =>
      simp only
      have hcons := hattach.consistent
      rw [agentCount, if_pos (hattach.success rfl)] at hcons
      have hnodes : t.nodes = s.nodes := hattach.keeps.1
      have hmetrics : Consistent (gap + 1)
          (if t.metricsEnabled then t.nodeEnableMetrics fails n else t) ∧
          (if t.metricsEnabled then t.nodeEnableMetrics fails n else t).nodes = s.nodes := by
        split
        · exact ⟨hcons.nodeEnableMetrics fails n,
            (nodeEnableMetrics_keeps t fails n).trans hnodes⟩
        · exact ⟨hcons, hnodes⟩
      generalize (if t.metricsEnabled = true then t.nodeEnableMetrics fails n else t) = u
        at hmetrics ⊢
      have hunset := hmetrics.1.nodeUnsetAgentBus a
      rw [hmetrics.2, if_neg ha_out, sub_zero] at hunset
      have hcount := (hunset.countOnline 1).of_frame (coreFrame_emit _ (.reply serial .empty))
      rw [add_sub_cancel_right] at hcount
      exact ⟨gap, hcount, fun _ => rfl⟩

/-! ## Losing a connection -/

lemma applyNode_keeps (s : Controller) (n : NodeId) {f : NodeStep}
    (hf : SameButTable (s.node n) (f (s.node n)).1) : KeepsNodes s (s.applyNode n f) := by
  have hnode : ∀ k, SameButTable (s.node k) ((s.applyNode n f).node k) := fun k => by
    rw [applyNode_eq]
    by_cases hk : k = n
    · subst hk
      simpa using hf
    · simp [hk, SameButTable]
  exact ⟨by rw [applyNode_eq], by rw [applyNode_eq], fun k => by rw [hnode k],
    fun k _ => by rw [hnode k]⟩

/-- `node_disconnect` of a node that has a connection. -/
theorem nodeDisconnect (h : Consistent gap s) {n : NodeId} (hbus : (s.node n).agentBus ≠ none) :
    Consistent gap (s.nodeDisconnect n) := by
  have hunits := h.nodeDisconnectUnits n
  have hkeeps := applyNode_keeps s n (tableStep_nodeDisconnectUnits (s.node n)).1
  obtain ⟨hproxies, hkeeps'⟩ := hunits.removeProxyMonitors n
  have hall := hkeeps.trans hkeeps'
  unfold Controller.nodeDisconnect
  simp only
  generalize (((s.applyNode n BlueChi.nodeDisconnectUnits).node n).proxyMonitors.foldl
    (fun s p => Controller.nodeRemoveProxyMonitor Controller.nodeUnref s n p)
      (s.applyNode n BlueChi.nodeDisconnectUnits)) = t at hproxies hall ⊢
  split
  · rename_i hname
    rw [hall.name] at hname
    have hout : n ∉ s.nodes := fun hmem => h.registry.named n hmem hname
    exact hproxies.removeNode_anonymous
      (hall.anonymousNodes.symm ▸ h.forListed.anonymous n hout hbus)
  · rename_i hname
    rw [hall.name] at hname
    have hn := h.connected.listed n hname
    have hjobs : CoreFrame t (t.jobs.foldl (dropJob n) t) := .foldl (coreFrame_dropJob n) _ _
    have hcount := ((hproxies.of_frame hjobs).nodeUnsetAgentBus n).countOnline (-1)
    have hagent : ((t.jobs.foldl (dropJob n) t).node n).agentBus ≠ none := by
      rw [(hjobs.node n).agentBus, hall.agentBus n hn]
      exact hbus
    rw [hjobs.nodes, hall.nodes, if_pos hn, agentCount, nodeHasAgent,
      if_pos (Option.isSome_iff_ne_none.mpr hagent)] at hcount
    rwa [sub_neg_eq_add, sub_add_cancel] at hcount

lemma checkNode (h : Consistent gap s) (now : UInt64) (n : NodeId) :
    Consistent gap (checkNode now s n) := by
  unfold Controller.checkNode
  split
  · rename_i honline
    have hbus : (s.node n).agentBus ≠ none := by
      simp only [nodeIsOnline, nodeHasAgent, Bool.and_eq_true, Option.isSome_iff_ne_none] at honline
      exact honline.2
    split
    · exact h.nodeDisconnect hbus
    · exact h.of_frame (coreFrame_sendAgent _ _ _)
  · exact h

/-- `controller_heartbeat_timer_callback`. -/
theorem heartbeatTimerCallback (h : Consistent gap s) (now : UInt64) :
    Consistent gap (s.heartbeatTimerCallback now) :=
  foldl_keeps (fun _ n ht => ht.checkNode now n) s.nodes h

/-! ## Metrics -/

theorem methodMetricsEnable (h : Consistent gap s) (serial : Serial) (exported : Bool)
    (fails : BusCall → Bool) : Consistent gap (s.methodMetricsEnable serial exported fails) := by
  unfold Controller.methodMetricsEnable
  split
  · exact h.of_frame (coreFrame_emit _ _)
  · split
    · exact h.of_frame (coreFrame_emit _ _)
    · have henabled : Consistent gap { s with metricsEnabled := true } := h.of_frame (.of_eq rfl)
      have hall := foldl_keeps (fun _ n ht => ht.nodeEnableMetrics fails n) s.nodes henabled
      exact hall.of_frame (coreFrame_emit _ _)

theorem methodMetricsDisable (h : Consistent gap s) (serial : Serial) :
    Consistent gap (s.methodMetricsDisable serial) := by
  unfold Controller.methodMetricsDisable
  split
  · exact h.of_frame (coreFrame_emit _ _)
  · have hdisabled : Consistent gap { s with metricsEnabled := false } := h.of_frame (.of_eq rfl)
    have hall := foldl_keeps (fun _ n ht => ht.nodeDisableMetrics n) s.nodes hdisabled
    exact hall.of_frame (coreFrame_emit _ _)

end Consistent

end Controller
end BlueChi
