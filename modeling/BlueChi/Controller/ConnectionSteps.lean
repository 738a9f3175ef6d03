import BlueChi.Controller.ProxySteps

/-!
# Connections keep the invariant

The counter of online nodes follows the connections of the named nodes, except that a signal
match that fails while an agent is attached leaves the connection behind uncounted.
-/

namespace BlueChi
namespace Controller

variable {gap : ℤ} {s s' : Controller}

/-! ## Changing the connection of a node -/

/-- Only the connection and the clocks may differ. -/
def SameButConnection (node node' : Node) : Prop :=
  node' = { node with
    agentBus := node'.agentBus, internalControllerSlot := node'.internalControllerSlot,
    disconnectSlot := node'.disconnectSlot, metricsMatchingSlot := node'.metricsMatchingSlot,
    peerIp := node'.peerIp, peerSelinuxContext := node'.peerSelinuxContext,
    lastSeen := node'.lastSeen, lastSeenMonotonic := node'.lastSeenMonotonic }

/-- 1 for a node that has an agent. -/
def agentCount (node : Node) : ℤ := if nodeHasAgent node then 1 else 0

/-- What the counter misses more when node `n` changes to `node'`. -/
def gapChange (s : Controller) (n : NodeId) (node' : Node) : ℤ :=
  if n ∈ s.nodes then agentCount node' - agentCount (s.node n) else 0

/-- A node after `node_unset_agent_bus`. -/
def detachedNode (node : Node) : Node :=
  { node with
    disconnectSlot := none, internalControllerSlot := none, metricsMatchingSlot := none,
    agentBus := none, peerSelinuxContext := none, peerIp := none }

lemma nodeUnsetAgentBus_eq (s : Controller) (n : NodeId) : s.nodeUnsetAgentBus n =
    { s.modifyNode n detachedNode with log := (s.nodeUnsetAgentBus n).log } := by
  unfold nodeUnsetAgentBus detachedNode
  simp only
  split <;> rfl

lemma nodeUnsetAgentBus_node (s : Controller) (n : NodeId) :
    (s.nodeUnsetAgentBus n).node = Function.update s.node n (detachedNode (s.node n)) := by
  rw [nodeUnsetAgentBus_eq]
  rfl

lemma countP_modifyNode (h : Registry s) (n : NodeId) (f : Node → Node) :
    ((s.nodes.countP fun k => nodeHasAgent ((s.modifyNode n f).node k) : ℕ) : ℤ) =
      (s.nodes.countP fun k => nodeHasAgent (s.node k) : ℕ) + gapChange s n (f (s.node n)) := by
  unfold gapChange agentCount
  split
  · rename_i hn
    have hcount := h.nodesNodup.countP_add hn
      (p := fun k => nodeHasAgent ((s.modifyNode n f).node k)) (q := fun k => nodeHasAgent (s.node k))
      fun k _ hk => by simp [hk]
    simp only [modifyNode_node, Function.update_self] at hcount ⊢
    split at hcount <;> split at hcount <;> simp_all <;> omega
  · rename_i hn
    rw [add_zero, Nat.cast_inj]
    refine List.countP_congr fun k hk => ?_
    have hkn : k ≠ n := by
      rintro rfl
      exact hn hk
    simp [hkn]

namespace Consistent

theorem modifyConnection (h : Consistent gap s) {n : ℕ} {f : Node → Node}
    (hf : SameButConnection (s.node n) (f (s.node n))) (hdetached : (f (s.node n)).Detached)
    (hmade : (f (s.node n)).agentBus ≠ none → n ∈ s.nodes ∨ n ∈ s.anonymousNodes) :
    Consistent (gap + gapChange s n (f (s.node n))) (s.modifyNode n f) := by
  have hsame : ∀ k, SameButConnection (s.node k) ((s.modifyNode n f).node k) := fun k => by
    by_cases hk : k = n
    · subst hk
      simpa using hf
    · simp [hk, SameButConnection]
  have hname : ∀ k, ((s.modifyNode n f).node k).name = (s.node k).name := fun k => by rw [hsame k]
  have htable : ∀ k, ((s.modifyNode n f).node k).unitSubscriptions = (s.node k).unitSubscriptions :=
    fun k => by rw [hsame k]
  have hlists : ∀ k, ((s.modifyNode n f).node k).proxyMonitors = (s.node k).proxyMonitors :=
    fun k => by rw [hsame k]
  have hallowed : ∀ k, ((s.modifyNode n f).node k).allowedProxyTargets =
      (s.node k).allowedProxyTargets := fun k => by rw [hsame k]
  have hdeps : ∀ k, ((s.modifyNode n f).node k).proxyDependencies =
      (s.node k).proxyDependencies := fun k => by rw [hsame k]
  have honline := countP_modifyNode h.registry n f
  obtain ⟨hreg, hheld, hcon, hfor, hdet, hind, hown, hpro, hcnt⟩ := h
  refine ⟨⟨hreg.1, hreg.2, fun k hk => ?_, fun k hk => ?_, ?_, hreg.6, hreg.7⟩, ?_,
    ⟨fun k hk => ?_, fun k hk => ?_, hcon.signals, ?_⟩, ⟨hfor.1, hfor.2, fun k hk hbus => ?_⟩,
    fun k => ?_, ⟨fun k hk unit sub => ?_, fun k hk => ?_⟩,
    ⟨hown.1, hown.2, hown.3, hown.4, hown.5, hown.6, hown.7⟩,
    ⟨fun k p hp => ?_, fun k => ?_, fun k => ?_, fun p hp => ?_, fun sub hsub p hp => ?_, hpro.6,
      hpro.7, hpro.8, hpro.9, hpro.10⟩, ⟨fun t ht unit => ?_, fun t => ?_, fun t => ?_⟩⟩
  · rw [hname]
    exact hreg.named k hk
  · rw [hname]
    exact hreg.unnamed k hk
  · simp only [hname]
    exact hreg.distinct
  · exact hheld.of_needed (fun _ => rfl) (fun _ _ hneed => hneed.mono rfl rfl rfl rfl
      (fun _ hr => hr) fun _ hq => hq) rfl (le_refl _)
  · rw [hname] at hk
    exact hcon.listed k hk
  · by_cases hkn : k = n
    · subst hkn
      exact hreg.fresh k (hmade (by simpa using hk))
    · exact hcon.made k (by simpa [hkn] using hk)
  · have hold := hcon.online
    rw [modifyNode_numberOfNodesOnline, modifyNode_nodes, honline]
    omega
  · by_cases hkn : k = n
    · subst hkn
      exact (hmade (by simpa using hbus)).resolve_left hk
    · exact hfor.anonymous k hk (by simpa [hkn] using hbus)
  · by_cases hkn : k = n
    · subst hkn
      simpa using hdetached
    · simpa [hkn] using hdet k
  · rw [Node.subsOf, Node.usubs, htable]
    simp only [Subscription.Names, hname]
    exact hind.filed k hk unit sub
  · rw [htable]
    exact hind.unlisted k hk
  · rw [hlists] at hp
    obtain ⟨h1, h2, ⟨t, ht, htarget, htname⟩, h4, h5, h6, h7, h8, h9⟩ := hpro.listed k p hp
    exact ⟨h1, h2, ⟨t, ht, htarget, (hname t).trans htname⟩, (hallowed k).symm ▸ h4, h5, h6, h7, h8,
      h9⟩
  · rw [hlists]
    exact hpro.nodup k
  · rw [hlists]
    exact hpro.unique k
  · rw [hlists]
    exact hpro.added p hp
  · rw [hlists]
    exact hpro.owner sub hsub p hp
  · have hcount : (s.modifyNode n f).proxyCount t unit = s.proxyCount t unit := by
      unfold proxyCount Watches
      simp only [hlists, modifyNode_nodes, modifyNode_proxyMonitor]
    rw [hcount, depCount_eq, hdeps]
    exact hcnt.count t ht unit
  · rw [hdeps]
    exact hcnt.keys t
  · rw [hdeps]
    exact hcnt.pos t

/-- The slots of a connection, while the node keeps it. -/
lemma modifySlots (h : Consistent gap s) {n : NodeId} {f : Node → Node}
    (hf : SameButConnection (s.node n) (f (s.node n))) (hagent : (s.node n).agentBus ≠ none)
    (hbus : (f (s.node n)).agentBus = (s.node n).agentBus) : Consistent gap (s.modifyNode n f) := by
  have hlisted : n ∈ s.nodes ∨ n ∈ s.anonymousNodes := by
    by_cases hn : n ∈ s.nodes
    · exact Or.inl hn
    · exact Or.inr (h.forListed.anonymous n hn hagent)
  have hgap : gapChange s n (f (s.node n)) = 0 := by
    unfold gapChange agentCount nodeHasAgent
    simp [hbus]
  have hmodify := h.modifyConnection hf (fun hnone => absurd (hbus ▸ hnone) hagent) fun _ => hlisted
  rwa [hgap, add_zero] at hmodify

/-- `node_unset_agent_bus`. -/
theorem nodeUnsetAgentBus (h : Consistent gap s) (n : NodeId) :
    Consistent (gap - if n ∈ s.nodes then agentCount (s.node n) else 0) (s.nodeUnsetAgentBus n) := by
  have hgap : gapChange s n (detachedNode (s.node n)) =
      -(if n ∈ s.nodes then agentCount (s.node n) else 0) := by
    unfold gapChange
    split
    · simp [agentCount, nodeHasAgent, detachedNode]
    · simp
  have hunset := h.modifyConnection (n := n) (f := detachedNode) rfl
    (fun _ => ⟨rfl, rfl, rfl, rfl, rfl⟩) (fun hbus => absurd rfl hbus)
  rw [hgap, ← sub_eq_add_neg] at hunset
  generalize (gap - if n ∈ s.nodes then agentCount (s.node n) else 0) = gap' at hunset ⊢
  unfold Controller.nodeUnsetAgentBus
  simp only
  split
  · exact hunset.of_frame (coreFrame_emit _ _)
  · exact hunset

/-- The counter of online nodes. -/
theorem countOnline (h : Consistent gap s) (d : ℤ) : Consistent (gap - d) (s.countOnline d) := by
  have hcount : Consistent (gap - d)
      { s with numberOfNodesOnline := s.numberOfNodesOnline + d } := by
    obtain ⟨hreg, hheld, hcon, hfor, hdet, hind, hown, hpro, hcnt⟩ := h
    refine ⟨⟨hreg.1, hreg.2, hreg.3, hreg.4, hreg.5, hreg.6, hreg.7⟩,
      ⟨hheld.1, fun n o hneed => hheld.2 n o (hneed.mono rfl rfl rfl rfl (fun _ hr => hr)
        fun _ hq => hq), hheld.3, hheld.4, hheld.5⟩, ⟨hcon.1, hcon.2, hcon.3, ?_⟩,
      ⟨hfor.1, hfor.2, hfor.3⟩, hdet, ⟨hind.1, hind.2⟩, ⟨hown.1, hown.2, hown.3, hown.4, hown.5, hown.6, hown.7⟩,
      ⟨fun k q hq => ?_, hpro.2, hpro.3, hpro.4, hpro.5, hpro.6, hpro.7, hpro.8, hpro.9, hpro.10⟩,
      ⟨hcnt.1, hcnt.2, hcnt.3⟩⟩
    · have hold := hcon.online
      simp only
      omega
    · obtain ⟨h1, h2, h3, h4, h5, h6, h7, h8, h9⟩ := hpro.listed k q hq
      exact ⟨h1, h2, h3, h4, h5, h6, h7, h8, h9⟩
  exact hcount.of_frame (coreFrame_checkSystemStatus _ _)

/-! ## Attaching an agent -/

lemma addMatch (h : Consistent gap s) {n : NodeId} (hn : n ∈ s.nodes) (bus : BusId)
    (member : AgentMember) : Consistent gap (s.addMatch n bus member) := by
  obtain ⟨hreg, hheld, hcon, hfor, hdet, hind, hown, hpro, hcnt⟩ := h
  refine ⟨⟨hreg.1, hreg.2, hreg.3, hreg.4, hreg.5, hreg.6, hreg.7⟩,
    ⟨hheld.1, fun n o hneed => hheld.2 n o (hneed.mono rfl rfl rfl rfl (fun _ hr => hr)
      fun _ hq => hq), hheld.3, hheld.4, hheld.5⟩, ⟨hcon.1, hcon.2, fun m hm => ?_, hcon.4⟩,
    ⟨hfor.1, hfor.2, hfor.3⟩, hdet, ⟨hind.1, hind.2⟩, ⟨hown.1, hown.2, hown.3, hown.4, hown.5, hown.6, hown.7⟩,
    ⟨fun k q hq => ?_, hpro.2, hpro.3, hpro.4, hpro.5, hpro.6, hpro.7, hpro.8, hpro.9, hpro.10⟩,
    ⟨hcnt.1, hcnt.2, hcnt.3⟩⟩
  · rcases List.mem_append.mp hm with hold | hnew
    · exact hcon.signals m hold
    · rw [List.mem_singleton] at hnew
      subst hnew
      exact hn
  · obtain ⟨h1, h2, h3, h4, h5, h6, h7, h8, h9⟩ := hpro.listed k q hq
    exact ⟨h1, h2, h3, h4, h5, h6, h7, h8, h9⟩

/-- A row of signal matches leaves the nodes alone. -/
lemma addMatches_rest (n : NodeId) (bus : BusId) (fails : BusCall → Bool)
    (members : List AgentMember) (s : Controller) :
    (addMatches n bus fails members s).2 =
      { s with signalMatches := (addMatches n bus fails members s).2.signalMatches } := by
  induction members generalizing s with
  | nil => rfl
  | cons member members ih =>
    rw [addMatches]
    split
    · rfl
    · rw [ih]
      rfl

lemma addMatches {n : NodeId} (bus : BusId) (fails : BusCall → Bool)
    (members : List AgentMember) : ∀ {s : Controller}, Consistent gap s → n ∈ s.nodes →
      Consistent gap (Controller.addMatches n bus fails members s).2 := by
  induction members with
  | nil => exact fun h _ => h
  | cons member members ih =>
    intro s h hn
    rw [Controller.addMatches]
    split
    · exact h
    · exact ih (h.addMatch hn bus member) hn

/-- The matches of a row that does not fail. -/
lemma addMatches_fst (n : NodeId) (bus : BusId) (fails : BusCall → Bool)
    (members : List AgentMember) (s : Controller) :
    (Controller.addMatches n bus fails members s).1 = true ↔
      ∀ member ∈ members, fails (.matchSignal member) = false := by
  induction members generalizing s with
  | nil => simp [Controller.addMatches]
  | cons member members ih =>
    rw [Controller.addMatches]
    by_cases hfail : fails (.matchSignal member) = true
    · simp [hfail]
    · simp [hfail, ih]

end Consistent

/-- A match inside `node_set_agent_bus` fails whose error path keeps the connection. -/
def MatchFails (fails : BusCall → Bool) : Prop :=
  ∃ member ∈ firstMembers ++ [.heartbeat], fails (.matchSignal member) = true

/-- The outcome of `node_set_agent_bus` for a listed node: it is online, or not, or its
connection is left behind. -/
structure Attached (gap : ℤ) (s : Controller) (n : NodeId) (fails : BusCall → Bool)
    (result : Bool × Controller) : Prop where
  keeps : result.2.nodes = s.nodes ∧ result.2.anonymousNodes = s.anonymousNodes
  others : ∀ k, k ≠ n → result.2.node k = s.node k
  name : (result.2.node n).name = (s.node n).name
  consistent : Consistent (gap + agentCount (result.2.node n)) result.2
  success : result.1 = true → nodeHasAgent (result.2.node n) = true
  failure : ¬MatchFails fails → result.1 = false → nodeHasAgent (result.2.node n) = false

lemma applyNode_node (s : Controller) (n : NodeId) {f : NodeStep}
    (hnode : (f (s.node n)).1 = s.node n) : (s.applyNode n f).node = s.node := by
  rw [applyNode_eq, hnode, Function.update_eq_self]

/-- The registrations that follow the match of `Disconnected`. -/
lemma announceAttached (s : Controller) (n : NodeId) :
    ((s.applyNode n nodeSendAgentSubscribeAll).applyNode n nodeStartProxyDependencyAll).node =
      s.node := by
  have hsubscribe := applyNode_node s n (f := nodeSendAgentSubscribeAll) rfl
  rw [applyNode_node _ n rfl, hsubscribe]

lemma detached_of_agentBus {node : Node} {bus : BusId} (h : node.agentBus = some bus) :
    node.Detached := fun hnone => by
  rw [h] at hnone
  simp at hnone

/-- `node_set_agent_bus` from the match of `Disconnected` on. -/
lemma finishAttach (h : Consistent gap s) {n : NodeId} {bus : BusId}
    (hbus : (s.node n).agentBus = some bus) :
    Consistent gap (((s.modifyNode n fun node => { node with disconnectSlot := some bus }).applyNode n
      nodeSendAgentSubscribeAll).applyNode n nodeStartProxyDependencyAll) := by
  have hslot : Consistent gap (s.modifyNode n fun node => { node with disconnectSlot := some bus }) :=
    h.modifySlots rfl (by simp [hbus]) rfl
  exact (hslot.nodeSendAgentSubscribeAll n).nodeStartProxyDependencyAll n

theorem nodeSetAgentBus_named (h : Consistent gap s) {n : NodeId} (hn : n ∈ s.nodes)
    (hagent : nodeHasAgent (s.node n) = false) (bus : BusId) (peer : PeerInfo)
    (fails : BusCall → Bool) : Attached gap s n fails (s.nodeSetAgentBus n bus peer fails) := by
  have hname := h.registry.named n hn
  have hstore := h.modifyConnection (n := n) (f := storeAgentBus bus peer) rfl
    (detached_of_agentBus rfl) fun _ => Or.inl hn
  have hgap : gapChange s n (storeAgentBus bus peer (s.node n)) = 1 := by
    rw [gapChange, if_pos hn, agentCount, agentCount, hagent]
    rfl
  rw [hgap] at hstore
  have hnode₁ : ∀ k, (s.modifyNode n (storeAgentBus bus peer)).node k =
      if k = n then storeAgentBus bus peer (s.node n) else s.node k := fun k => by
    by_cases hk : k = n
    · subst hk
      simp
    · simp [hk]
  -- the result of a failed match: the connection stays
  have hleft : ∀ t : Controller, Consistent (gap + 1) t →
      t.nodes = s.nodes ∧ t.anonymousNodes = s.anonymousNodes →
      t.node = (s.modifyNode n (storeAgentBus bus peer)).node → MatchFails fails →
      Attached gap s n fails (false, t) := by
    intro t ht hkeeps hnode hfail
    have hself : t.node n = storeAgentBus bus peer (s.node n) := by rw [hnode, hnode₁, if_pos rfl]
    refine ⟨hkeeps, fun k hk => by rw [hnode, hnode₁, if_neg hk], by rw [hself]; rfl, ?_, by simp,
      fun hnot => absurd hfail hnot⟩
    rw [hself]
    exact ht
  unfold nodeSetAgentBus
  rw [if_neg (by simp [hagent])]
  unfold nodeAddRegistrations
  rw [hnode₁, if_pos rfl, if_neg (show (storeAgentBus bus peer (s.node n)).name ≠ none from hname)]
  have hrest₁ := Consistent.addMatches_rest n bus fails firstMembers
    (s.modifyNode n (storeAgentBus bus peer))
  have hcons₁ := Consistent.addMatches bus fails firstMembers hstore (n := n) hn
  have hfst₁ := Consistent.addMatches_fst n bus fails firstMembers
    (s.modifyNode n (storeAgentBus bus peer))
  generalize Controller.addMatches n bus fails firstMembers
    (s.modifyNode n (storeAgentBus bus peer)) = result at hrest₁ hcons₁ hfst₁ ⊢
  obtain ⟨ok, t⟩ := result
  simp only at hrest₁ hcons₁ hfst₁
  have hnode_t : t.node = (s.modifyNode n (storeAgentBus bus peer)).node := by rw [hrest₁]
  have hkeeps_t : t.nodes = s.nodes ∧ t.anonymousNodes = s.anonymousNodes := by
    rw [hrest₁]
    exact ⟨rfl, rfl⟩
  cases ok with
  | false =>
    have hsome : ∃ member ∈ firstMembers, fails (.matchSignal member) = true := by
      by_contra hnone
      push Not at hnone
      simpa using hfst₁.mpr fun member hmem => by simpa using hnone member hmem
    obtain ⟨member, hmem, hfail⟩ := hsome
    exact hleft t hcons₁ hkeeps_t hnode_t ⟨member, List.mem_append_left _ hmem, hfail⟩
  | true =>
    simp only
    have hstatus : Consistent (gap + 1) (t.emit (.nodeStatus n (nodeGetStatus (t.node n)))) :=
      hcons₁.of_frame (coreFrame_emit _ _)
    have hn_t : n ∈ (t.emit (.nodeStatus n (nodeGetStatus (t.node n)))).nodes := by
      rw [emit_nodes, hkeeps_t.1]
      exact hn
    have hrest₂ := Consistent.addMatches_rest n bus fails [.heartbeat] (t.emit (.nodeStatus n (nodeGetStatus (t.node n))))
    have hcons₂ := Consistent.addMatches bus fails [.heartbeat] hstatus hn_t
    have hfst₂ := Consistent.addMatches_fst n bus fails [.heartbeat] (t.emit (.nodeStatus n (nodeGetStatus (t.node n))))
    generalize Controller.addMatches n bus fails [.heartbeat] (t.emit (.nodeStatus n (nodeGetStatus (t.node n)))) = result₂
      at hrest₂ hcons₂ hfst₂ ⊢
    obtain ⟨ok, u⟩ := result₂
    simp only at hrest₂ hcons₂ hfst₂
    have hnode_u : u.node = (s.modifyNode n (storeAgentBus bus peer)).node := by
      rw [hrest₂]
      exact hnode_t
    have hkeeps_u : u.nodes = s.nodes ∧ u.anonymousNodes = s.anonymousNodes := by
      rw [hrest₂]
      exact hkeeps_t
    have hself : u.node n = storeAgentBus bus peer (s.node n) := by rw [hnode_u, hnode₁, if_pos rfl]
    have hn_u : n ∈ u.nodes := hkeeps_u.1.symm ▸ hn
    cases ok with
    | false =>
      have hfail : fails (.matchSignal .heartbeat) = true := by
        by_contra hnone
        simpa using hfst₂.mpr (by simpa using hnone)
      exact hleft u hcons₂ hkeeps_u hnode_u ⟨.heartbeat, by simp, hfail⟩
    | true =>
      simp only
      split
      · -- the only error path that drops the connection again
        have hunset := hcons₂.nodeUnsetAgentBus n
        rw [if_pos hn_u, hself, show agentCount (storeAgentBus bus peer (s.node n)) = 1
          from rfl, add_sub_cancel_right] at hunset
        have hnode := nodeUnsetAgentBus_node u n
        refine ⟨?_, fun k hk => ?_, ?_, ?_, by simp, fun _ _ => ?_⟩
        · rw [nodeUnsetAgentBus_eq]
          exact hkeeps_u
        · rw [hnode, Function.update_of_ne hk, hnode_u, hnode₁, if_neg hk]
        · rw [hnode, Function.update_self, hself]
          rfl
        · rw [hnode, Function.update_self]
          simpa [agentCount, nodeHasAgent, detachedNode] using hunset
        · rw [hnode, Function.update_self]
          rfl
      · have hbus : (u.node n).agentBus = some bus := by
          rw [hself]
          rfl
        have hfinish := finishAttach hcons₂ hbus
        have hnode := announceAttached
          (u.modifyNode n fun node => { node with disconnectSlot := some bus }) n
        have hself' : ((((u.modifyNode n fun node => { node with disconnectSlot := some bus }).applyNode
            n nodeSendAgentSubscribeAll).applyNode n nodeStartProxyDependencyAll).node n) =
            { storeAgentBus bus peer (s.node n) with disconnectSlot := some bus } := by
          rw [hnode, modifyNode_node, Function.update_self, hself]
        refine ⟨?_, fun k hk => ?_, ?_, ?_, fun _ => ?_, by simp⟩
        · rw [applyNode_eq, applyNode_eq]
          exact hkeeps_u
        · rw [hnode, modifyNode_node, Function.update_of_ne hk, hnode_u, hnode₁, if_neg hk]
        · rw [hself']
          rfl
        · rw [hself']
          exact hfinish
        · rw [hself']
          rfl

/-- `node_set_agent_bus` for an anonymous node keeps the connection only when it succeeds. -/
theorem nodeSetAgentBus_anonymous (h : Consistent gap s) {n : NodeId} (hn : n ∈ s.anonymousNodes)
    (bus : BusId) (peer : PeerInfo) (fails : BusCall → Bool)
    (hagent : nodeHasAgent (s.node n) = false) :
    Consistent gap (s.nodeSetAgentBus n bus peer fails).2 ∧
      KeepsNodes s (s.nodeSetAgentBus n bus peer fails).2 := by
  have hname := h.registry.unnamed n hn
  have hout : n ∉ s.nodes := fun hmem => h.registry.named n hmem hname
  have hstore := h.modifyConnection (n := n) (f := storeAgentBus bus peer) rfl
    (detached_of_agentBus rfl) fun _ => Or.inr hn
  rw [gapChange, if_neg hout, add_zero] at hstore
  -- all that is changed on the way is this node
  have hkeeps : ∀ t : Controller, t.nodes = s.nodes → t.anonymousNodes = s.anonymousNodes →
      (∀ k, k ≠ n → t.node k = s.node k) → (t.node n).name = none → KeepsNodes s t := by
    intro t hnodes hanonymous hothers hself
    refine ⟨hnodes, hanonymous, fun k => ?_, fun k hk => ?_⟩
    · by_cases hkn : k = n
      · rw [hkn, hself, hname]
      · rw [hothers k hkn]
    · have hkn : k ≠ n := by
        rintro rfl
        exact hout hk
      rw [hothers k hkn]
  have hunset : ∀ t : Controller, Consistent gap t → t.nodes = s.nodes →
      Consistent gap (t.nodeUnsetAgentBus n) := by
    intro t ht hnodes
    have hdetach := ht.nodeUnsetAgentBus n
    rwa [hnodes, if_neg hout, sub_zero] at hdetach
  unfold nodeSetAgentBus
  rw [if_neg (by simp [hagent])]
  unfold nodeAddRegistrations
  rw [if_pos (show ((s.modifyNode n (storeAgentBus bus peer)).node n).name = none by
    simpa [storeAgentBus] using hname)]
  by_cases hvtable : fails .internalVtable = true
  · rw [if_pos hvtable]
    refine ⟨hunset _ hstore rfl, hkeeps _ ?_ ?_ (fun k hk => ?_) ?_⟩
    · rw [nodeUnsetAgentBus_eq]
      rfl
    · rw [nodeUnsetAgentBus_eq]
      rfl
    · simp [nodeUnsetAgentBus_node, hk]
    · simpa [nodeUnsetAgentBus_node, storeAgentBus, detachedNode] using hname
  · rw [if_neg hvtable]
    simp only
    have hslot : Consistent gap ((s.modifyNode n (storeAgentBus bus peer)).modifyNode n
        fun node => { node with internalControllerSlot := some bus }) :=
      hstore.modifySlots rfl (by simp [storeAgentBus]) rfl
    split
    · refine ⟨hunset _ hslot rfl, hkeeps _ ?_ ?_ (fun k hk => ?_) ?_⟩
      · rw [nodeUnsetAgentBus_eq]
        rfl
      · rw [nodeUnsetAgentBus_eq]
        rfl
      · simp [nodeUnsetAgentBus_node, hk]
      · simpa [nodeUnsetAgentBus_node, storeAgentBus, detachedNode] using hname
    · have hbus : (((s.modifyNode n (storeAgentBus bus peer)).modifyNode n
          fun node => { node with internalControllerSlot := some bus }).node n).agentBus = some bus := by
        simp [storeAgentBus]
      refine ⟨finishAttach hslot hbus, hkeeps _ ?_ ?_ (fun k hk => ?_) ?_⟩
      · rw [applyNode_eq, applyNode_eq]
        rfl
      · rw [applyNode_eq, applyNode_eq]
        rfl
      · rw [announceAttached]
        simp [hk]
      · rw [announceAttached]
        simpa [storeAgentBus] using hname

end Controller
end BlueChi
