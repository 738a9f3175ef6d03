import BlueChi.Controller.RequestSteps

/-!
# Subscriptions keep the invariant

A unit signal changes an entry of a table and tells monitors. A monitor's subscription is filed
in its own list, in the list of all subscriptions and in the tables, and taken out of all three.
-/

namespace BlueChi
namespace Controller

variable {gap : ℤ} {s s' : Controller}

/-! ## What a subscription leaves alone -/

namespace SubscriptionFrame

variable {told : ProxyMonitorId → Prop} (f : SubscriptionFrame told s s')

include f

lemma name (n : NodeId) : (s'.node n).name = (s.node n).name := by rw [f.node n]

lemma agentBus (n : NodeId) : (s'.node n).agentBus = (s.node n).agentBus := by rw [f.node n]

lemma proxyMonitors (n : NodeId) : (s'.node n).proxyMonitors = (s.node n).proxyMonitors := by
  rw [f.node n]

lemma names (n : NodeId) (sub : Subscription) : sub.Names (s'.node n) ↔ sub.Names (s.node n) := by
  rw [Subscription.Names, f.name, Subscription.Names]

lemma nodes_eq : s'.nodes = s.nodes := by rw [f.rest]

lemma proxyMonitor_eq : s'.proxyMonitor = s.proxyMonitor := by rw [f.rest]

lemma registry (h : Registry s) : Registry s' where
  nodesNodup := f.nodes_eq ▸ h.nodesNodup
  anonymousNodup := by
    rw [f.rest]
    exact h.anonymousNodup
  named n hn := by
    rw [f.name]
    exact h.named n (f.nodes_eq ▸ hn)
  unnamed n hn := by
    rw [f.rest] at hn
    rw [f.name]
    exact h.unnamed n hn
  distinct := by
    simp only [f.nodes_eq, f.name]
    exact h.distinct
  count := by
    rw [f.rest]
    exact h.count
  fresh n hn := by
    rw [f.rest] at hn ⊢
    exact h.fresh n hn

lemma held (h : Held s) (htold : ∀ p, told p → 0 < (s.refs (.proxyMonitor p)).count) :
    Held s' := by
  have hrest := f.rest
  refine h.of_needed (fun n => f.refs _ rfl) (fun n o hneed => ?_) (by rw [hrest]) (by rw [hrest])
  refine hneed.mono (by rw [hrest]) (by rw [hrest]) (by rw [hrest]) (by rw [hrest])
    (fun r hr => ?_) fun p hp => ?_
  · rwa [f.refs _ rfl] at hr
  · obtain ⟨k, c, -, htold', hrefs, -⟩ := f.calls p
    by_cases hk : k = 0
    · rwa [hrefs, hk, RefCount.refs_zero] at hp
    · exact htold p (htold' hk)

lemma connected (h : Connected gap s) : Connected gap s' where
  listed n hn := by
    rw [f.name] at hn
    rw [f.nodes_eq]
    exact h.listed n hn
  made n hbus := by
    rw [f.agentBus] at hbus
    rw [f.rest]
    exact h.made n hbus
  signals m hm := by
    rw [f.rest] at hm ⊢
    exact h.signals m hm
  online := by
    have hagent : ∀ n, nodeHasAgent (s'.node n) = nodeHasAgent (s.node n) := fun n => by
      rw [nodeHasAgent, f.agentBus, nodeHasAgent]
    have hcounter : s'.numberOfNodesOnline = s.numberOfNodesOnline := by rw [f.rest]
    simp only [hcounter, f.nodes_eq, hagent]
    exact h.online

lemma forListed (h : ForListed s) : ForListed s' where
  jobs n hjob := by
    have hjobs : s'.jobs = s.jobs := by rw [f.rest]
    have hrequest : s'.request = s.request := by rw [f.rest]
    rw [HasJob, hjobs, hrequest] at hjob
    rw [f.nodes_eq]
    exact h.jobs n hjob
  owners n hn := by
    rw [f.nodes_eq] at hn
    rw [f.refs _ rfl]
    exact h.owners n hn
  anonymous n hn hbus := by
    rw [f.nodes_eq] at hn
    rw [f.agentBus] at hbus
    rw [f.rest]
    exact h.anonymous n hn hbus

lemma detached (h : ∀ n, (s.node n).Detached) (n : NodeId) : (s'.node n).Detached := by
  rw [f.node n]
  exact h n

lemma counted (h : Counted s) : Counted s' where
  count t ht unit := by
    have hcount : s'.proxyCount t unit = s.proxyCount t unit := by
      unfold proxyCount Watches
      simp only [f.nodes_eq, f.proxyMonitors, f.proxyMonitor_eq]
    rw [f.nodes_eq] at ht
    rw [hcount, f.node t]
    exact h.count t ht unit
  keys t := by
    rw [f.node t]
    exact h.keys t
  pos t dep hdep := by
    rw [f.node t] at hdep
    exact h.pos t dep hdep

/-- Only proxy monitors that somebody holds take references. -/
lemma unheld (h : Proxied s) (htold : ∀ p, told p → 0 < (s.refs (.proxyMonitor p)).count) (p : ℕ)
    (hp : s.nextPtr ≤ p) : (s'.refs (.proxyMonitor p)).owners = [] := by
  obtain ⟨k, c, -, htold', hrefs, -⟩ := f.calls p
  have hnil := h.unheld p hp
  have hk : k = 0 := by
    by_contra hne
    have hpos := htold p (htold' hne)
    have hwf := h.wf p
    rw [RefCount.WF, hnil] at hwf
    simp only [List.length_nil, Nat.cast_zero] at hwf
    omega
  rw [hrefs, hk, RefCount.refs_zero]
  exact hnil

/-- The listed proxy monitors stay as they are while the subscriptions of client monitors come
and go. -/
lemma proxied (h : Proxied s) (htold : ∀ p, told p → 0 < (s.refs (.proxyMonitor p)).count)
    (hall : ∀ sub, (∃ p, sub.monitor = .proxy p) →
      (sub ∈ s'.allSubscriptions ↔ sub ∈ s.allSubscriptions)) : Proxied s' where
  listed k p hp := by
    rw [f.proxyMonitors] at hp
    obtain ⟨h1, h2, ⟨t, ht, htarget, hname⟩, h4, h5, h6, h7, h8, h9⟩ := h.listed k p hp
    rw [← f.proxyMonitor_eq] at h2 htarget hname h4 h5 h6 h7 h8
    refine ⟨f.nodes_eq ▸ h1, h2, ⟨t, f.nodes_eq ▸ ht, htarget, (f.name t).trans hname⟩, ?_, h5, h6,
      h7, (hall _ ⟨p, h7⟩).mpr h8, ?_⟩
    · rw [f.node k]
      exact h4
    · obtain ⟨j, c, -, -, hrefs, -⟩ := f.calls p
      rw [hrefs]
      exact RefCount.mem_owners_refs h9 _ _
  nodup k := by
    rw [f.proxyMonitors]
    exact h.nodup k
  unique k := by
    rw [f.proxyMonitors, f.proxyMonitor_eq]
    exact h.unique k
  added p hp := by
    rw [f.proxyMonitor_eq] at hp ⊢
    rw [f.proxyMonitors]
    exact h.added p hp
  owner sub hsub p hp := by
    rw [f.proxyMonitor_eq, f.proxyMonitors]
    exact h.owner sub ((hall sub ⟨p, hp⟩).mp hsub) p hp
  proxy := f.proxyMonitor_eq ▸ h.proxy
  wf p := by
    obtain ⟨k, c, -, -, hrefs, -⟩ := f.calls p
    rw [hrefs]
    exact (h.wf p).refs _ _
  calls p := by
    obtain ⟨k, c, hle, -, hrefs, hcalls⟩ := f.calls p
    have hold := h.calls p
    rw [hrefs, hcalls, RefCount.refs, List.count_append, List.count_replicate_self]
    omega
  fresh p hp := by
    rw [f.rest] at hp
    rw [f.proxyMonitor_eq]
    exact h.fresh p hp
  unheld p hp := by
    rw [f.rest] at hp
    exact f.unheld h htold p hp

end SubscriptionFrame

/-! ## Unit events -/

namespace Consistent

/-- Proxy monitors that somebody holds may be told about units. -/
theorem notify (h : Consistent gap s) {told : ProxyMonitorId → Prop} (f : NotifyFrame told s s')
    (htold : ∀ p, told p → 0 < (s.refs (.proxyMonitor p)).count) : Consistent gap s' := by
  have fs := SubscriptionFrame.of_notify f
  have hrest := f.rest
  refine ⟨fs.registry h.registry, fs.held h.held htold, fs.connected h.connected,
    fs.forListed h.forListed, fs.detached h.detached, ⟨?_, ?_⟩, ?_, fs.proxied h.proxied htold (fun sub _ => by rw [hrest]),
    fs.counted h.counted⟩
  · rw [hrest]
    exact h.indexed.filed
  · rw [hrest]
    exact h.indexed.unlisted
  · rw [hrest]
    obtain ⟨h1, h2, h3, h4, h5, h6, h7⟩ := h.owned
    exact ⟨h1, h2, h3, h4, h5, h6, h7⟩

/-- What an effect tells is told to subscriptions of proxy monitors that somebody holds. -/
def Tells (s : Controller) : NodeEffect → Prop
  | .send _ => True
  | .notify subs _ _ => ∀ sub ∈ subs, ∀ p, sub.monitor = .proxy p →
      0 < (s.refs (.proxyMonitor p)).count

theorem runEffect (h : Consistent gap s) (n : NodeId) {eff : NodeEffect} (heff : Tells s eff) :
    Consistent gap (s.runEffect n eff) := by
  cases eff with
  | send call => exact h.of_frame (coreFrame_sendAgent s n call)
  | notify subs unit ev =>
    refine h.notify (notifyFrame_handleAll s subs _ unit ev) ?_
    rintro p ⟨sub, hsub, hp⟩
    exact heff sub hsub p hp

/-- An effect takes references and drops none. -/
lemma tells_runEffect (n : NodeId) (eff : NodeEffect) {eff' : NodeEffect} (h : Tells s eff') :
    Tells (s.runEffect n eff) eff' := by
  have hcount : ∀ p, (s.refs (.proxyMonitor p)).count ≤
      ((s.runEffect n eff).refs (.proxyMonitor p)).count := by
    intro p
    cases eff with
    | send call =>
      rw [Controller.runEffect, (coreFrame_sendAgent s n call).proxyRefs]
    | notify subs unit ev =>
      obtain ⟨k, c, -, -, hrefs, -⟩ := (notifyFrame_handleAll s subs (s.nodeName n) unit ev).calls p
      have hle : (s.refs (.proxyMonitor p)).count ≤ (s.refs (.proxyMonitor p)).count + k := by omega
      rwa [Controller.runEffect, hrefs]
  cases eff' with
  | send call => exact trivial
  | notify subs unit ev => exact fun sub hsub p hp => (h sub hsub p hp).trans_le (hcount p)

/-- A function on a node's table that keeps the lists of subscriptions. -/
theorem applyNode (h : Consistent gap s) (n : NodeId) {f : NodeStep}
    (hcore : SameCore (s.node n) (f (s.node n)).1) (heffs : ∀ eff ∈ (f (s.node n)).2, Tells s eff) :
    Consistent gap (s.applyNode n f) := by
  have hmodify : Consistent gap (s.modifyNode n fun _ => (f (s.node n)).1) :=
    h.of_frame (coreFrame_modifyNode s n hcore)
  unfold Controller.applyNode
  have hloop : ∀ (effs : List NodeEffect) (t : Controller), Consistent gap t →
      (∀ eff ∈ effs, Tells t eff) → Consistent gap (effs.foldl (Controller.runEffect n) t) := by
    intro effs
    induction effs with
    | nil => exact fun t ht _ => ht
    | cons eff effs ih =>
      intro t ht htells
      exact ih _ (ht.runEffect n (htells eff (by simp))) fun eff' heff' =>
        tells_runEffect n eff (htells eff' (by simp [heff']))
  exact hloop _ _ hmodify fun eff heff => heffs eff heff

/-- What is told to the subscriptions of a table is told to listed proxy monitors. -/
lemma tells_of_mild (h : Consistent gap s) {n : NodeId} {eff : NodeEffect}
    (heff : Mild (filedProxies (s.node n)) eff) : Tells s eff := by
  cases eff with
  | send call => exact trivial
  | notify subs unit ev =>
    exact fun sub hsub p hp => h.proxied.count_pos (h.listed_of_filed (heff sub hsub p hp))

/-- The handlers of unit signals. -/
theorem applyNode_tableStep (h : Consistent gap s) (n : NodeId) {f : NodeStep}
    (hf : TableStep (filedProxies (s.node n)) f (s.node n))
    (hsubs : ∀ unit, (f (s.node n)).1.subsOf unit = (s.node n).subsOf unit)
    (hempty : (s.node n).unitSubscriptions = [] → (f (s.node n)).1.unitSubscriptions = []) :
    Consistent gap (s.applyNode n f) := by
  refine h.applyNode n ⟨?_, hsubs, hempty⟩ fun eff heff => h.tells_of_mild (hf.2 eff heff)
  have hsame := hf.1
  unfold SameButTable at hsame
  rw [hsame]

/-- The handlers of unit signals change what is known of the unit. -/
lemma applyNode_modifyUsubs (h : Consistent gap s) (n : NodeId) {f : NodeStep} {unit : String}
    {g : UnitSubscriptions → UnitSubscriptions} (hunit : ∀ usubs, (g usubs).unit = usubs.unit)
    (hsubs : ∀ usubs, (g usubs).subs = usubs.subs)
    (hf : TableStep (filedProxies (s.node n)) f (s.node n))
    (heq : (f (s.node n)).1 = (s.node n).modifyUsubs unit g) : Consistent gap (s.applyNode n f) := by
  refine h.applyNode_tableStep n hf (fun unit' => ?_) fun hnil => ?_
  · rw [heq, subsOf_modifyUsubs hunit hsubs]
  · rw [heq, Node.modifyUsubs, hnil]
    rfl

/-- The four unit signals of an agent. -/
theorem nodeMatchUnitPropertiesChanged (h : Consistent gap s) (n : NodeId)
    (unit interface : String) (properties : Properties) :
    Consistent gap (s.applyNode n (nodeMatchUnitPropertiesChanged unit interface properties)) :=
  h.applyNode_tableStep n (tableStep_nodeMatchUnitPropertiesChanged unit interface properties _)
    (fun _ => rfl) id

theorem nodeMatchUnitNew (h : Consistent gap s) (n : NodeId) (unit reason : String) :
    Consistent gap (s.applyNode n (nodeMatchUnitNew unit reason)) := by
  refine h.applyNode_modifyUsubs n (g := UnitSubscriptions.onNew unit) (fun usubs => ?_)
    (fun usubs => ?_) (tableStep_nodeMatchUnitNew unit reason _) rfl <;>
  · unfold UnitSubscriptions.onNew
    split <;> rfl

theorem nodeMatchUnitStateChanged (h : Consistent gap s) (n : NodeId)
    (unit activeState substate reason : String) :
    Consistent gap (s.applyNode n (nodeMatchUnitStateChanged unit activeState substate reason)) :=
  h.applyNode_modifyUsubs n (g := UnitSubscriptions.onStateChanged activeState substate)
    (fun _ => rfl) (fun _ => rfl) (tableStep_nodeMatchUnitStateChanged unit _ _ reason _) rfl

theorem nodeMatchUnitRemoved (h : Consistent gap s) (n : NodeId) (unit : String) :
    Consistent gap (s.applyNode n (nodeMatchUnitRemoved unit)) :=
  h.applyNode_modifyUsubs n (g := UnitSubscriptions.onRemoved) (fun _ => rfl) (fun _ => rfl)
    (tableStep_nodeMatchUnitRemoved unit _) rfl

/-- The first loop of `node_disconnect`. -/
theorem nodeDisconnectUnits (h : Consistent gap s) (n : NodeId) :
    Consistent gap (s.applyNode n nodeDisconnectUnits) := by
  have hunit : ∀ usubs : UnitSubscriptions, usubs.onDisconnect.unit = usubs.unit := fun usubs => by
    unfold UnitSubscriptions.onDisconnect
    split
    · split <;> rfl
    · rfl
  have hsubs : ∀ usubs : UnitSubscriptions, usubs.onDisconnect.subs = usubs.subs := fun usubs => by
    unfold UnitSubscriptions.onDisconnect
    split
    · split <;> rfl
    · rfl
  refine h.applyNode_tableStep n (tableStep_nodeDisconnectUnits _) (fun unit => ?_) fun hnil => ?_
  · unfold Node.subsOf Node.usubs BlueChi.nodeDisconnectUnits
    rw [Keyed.get_map hunit, Option.map_map]
    congr 2
    funext usubs
    exact hsubs usubs
  · rw [BlueChi.nodeDisconnectUnits, hnil]
    rfl

/-- Messages to the agent about a node's table. -/
lemma applyNode_send (h : Consistent gap s) (n : NodeId) {f : NodeStep}
    (hnode : (f (s.node n)).1 = s.node n)
    (hsend : ∀ eff ∈ (f (s.node n)).2, ∃ call, eff = .send call) :
    Consistent gap (s.applyNode n f) := by
  refine h.applyNode n (by rw [hnode]; exact .refl _) fun eff heff => ?_
  obtain ⟨call, rfl⟩ := hsend eff heff
  exact trivial

theorem nodeSendAgentSubscribeAll (h : Consistent gap s) (n : NodeId) :
    Consistent gap (s.applyNode n nodeSendAgentSubscribeAll) := by
  refine h.applyNode_send n rfl fun eff heff => ?_
  obtain ⟨usubs, -, hmem⟩ := List.mem_flatMap.mp heff
  unfold sendAgentSimpleMessage at hmem
  split at hmem
  · exact ⟨_, List.mem_singleton.mp hmem⟩
  · simp at hmem

theorem nodeStartProxyDependencyAll (h : Consistent gap s) (n : NodeId) :
    Consistent gap (s.applyNode n nodeStartProxyDependencyAll) := by
  refine h.applyNode_send n rfl fun eff heff => ?_
  obtain ⟨dep, -, hmem⟩ := List.mem_flatMap.mp heff
  unfold sendAgentSimpleMessage at hmem
  split at hmem
  · exact ⟨_, List.mem_singleton.mp hmem⟩
  · simp at hmem

end Consistent

end Controller
end BlueChi
