import BlueChi.Library.Lists
import BlueChi.Controller.Filing
import BlueChi.Controller.System

/-!
# The invariant of the running controller

Who is in which list, who holds which reference, and which tables say so. `Registry` and `Held`
are about the nodes and stay true while the controller stops. The rest is true until then:
the tables of the nodes index the list of all subscriptions (`Indexed`), every subscription is
in the list of its client monitor or that of a listed proxy monitor (`Owned`, `Proxied`), the
dependencies of a node count the proxy monitors that watch it (`Counted`), and the counter of
online nodes is right but for connections left behind (`Connected`).
-/

namespace BlueChi

/-- The test of the two branches in which a subscription is filed. -/
def Subscription.Names (sub : Subscription) (node : Node) : Prop :=
  isWildcard sub.node = true ∨ node.name = some sub.node

instance (sub : Subscription) (node : Node) : Decidable (sub.Names node) :=
  inferInstanceAs (Decidable (_ ∨ _))

/-- A node without a connection keeps nothing of an earlier one. -/
def Node.Detached (node : Node) : Prop :=
  node.agentBus = none → node.internalControllerSlot = none ∧ node.disconnectSlot = none ∧
    node.metricsMatchingSlot = none ∧ node.peerIp = none ∧ node.peerSelinuxContext = none

namespace Controller

/-! ## Nodes -/

/-- The two lists of nodes. -/
structure Registry (s : Controller) : Prop where
  nodesNodup : s.nodes.Nodup
  anonymousNodup : s.anonymousNodes.Nodup
  named : ∀ n ∈ s.nodes, (s.node n).name ≠ none
  unnamed : ∀ n ∈ s.anonymousNodes, (s.node n).name = none
  distinct : (s.nodes.map fun n => (s.node n).name).Nodup
  count : s.numberOfNodes = s.nodes.length
  fresh : ∀ n : ℕ, n ∈ s.nodes ∨ n ∈ s.anonymousNodes → n < s.nextPtr

/-- The node must not be freed yet because of this owner: a list has it, or a request or a
proxy monitor that is not freed points to it. -/
def Needed (s : Controller) (n : NodeId) : Owner → Prop
  | .creator => n ∈ s.nodes ∨ n ∈ s.anonymousNodes
  | .request r => 0 < (s.refs (.request r)).count ∧ (s.request r).node = n
  | .proxyMonitor p =>
    0 < (s.refs (.proxyMonitor p)).count ∧ (s.proxyMonitor p).targetNode = some n
  | _ => False

/-- The references of the nodes are those of their owners. -/
structure Held (s : Controller) : Prop where
  wf : ∀ n, (s.refs (.node n)).WF
  owners : ∀ n o, Needed s n o → o ∈ (s.refs (.node n)).owners
  /-- A fleet request that is not done holds each of its nodes. -/
  fleet : ∀ q, (s.fleet q).nDone < (s.fleet q).subReq.length → ∀ n,
    (s.fleet q).subReq.countP (fun sub => sub.node = n) ≤
      (s.refs (.node n)).owners.count (.fleet q)
  /-- A fleet request has a slot for each of its nodes. -/
  slots : ∀ q, ((s.fleet q).subReq.length : ℤ) ≤ (s.fleet q).slots
  fresh : ∀ n : ℕ, s.nextPtr ≤ n → (s.refs (.node n)).owners = []

/-- The connections of the nodes, and the counter of those that are online. The counter misses
`gap` of them, the connections that a failed registration has left behind. -/
structure Connected (gap : ℤ) (s : Controller) : Prop where
  listed : ∀ n, (s.node n).name ≠ none → n ∈ s.nodes
  made : ∀ n : ℕ, (s.node n).agentBus ≠ none → n < s.nextPtr
  signals : ∀ m ∈ s.signalMatches, m.node ∈ s.nodes
  online : s.numberOfNodesOnline + gap = s.nodes.countP fun n => nodeHasAgent (s.node n)

/-- A listed job, or one that a request may still list, is for that node. -/
def HasJob (s : Controller) (n : NodeId) : Prop :=
  (∃ job ∈ s.jobs, job.node = n) ∨
    ∃ r serial job, (s.request r).handler = .lifecycle serial job ∧ job.node = n

/-- Jobs, requests and proxy monitors are for listed nodes. Another node is held by the list of
anonymous nodes at most, so it is freed when it leaves that list. -/
structure ForListed (s : Controller) : Prop where
  jobs : ∀ n, HasJob s n → n ∈ s.nodes
  owners : ∀ n, n ∉ s.nodes → (s.refs (.node n)).owners.Sublist [.creator]
  anonymous : ∀ n, n ∉ s.nodes → (s.node n).agentBus ≠ none → n ∈ s.anonymousNodes

/-! ## Subscriptions -/

/-- The tables of the listed nodes index the list of all subscriptions. -/
structure Indexed (s : Controller) : Prop where
  filed : ∀ n ∈ s.nodes, ∀ unit sub, ((s.node n).subsOf unit).count sub =
    if sub ∈ s.allSubscriptions ∧ sub.Names (s.node n) then sub.units.count unit else 0
  unlisted : ∀ n, n ∉ s.nodes → (s.node n).unitSubscriptions = []

/-- The subscriptions are objects of their own, and those of a client monitor are in its list. -/
structure Owned (s : Controller) : Prop where
  ptrs : (s.allSubscriptions.map (·.ptr)).Nodup
  fresh : ∀ sub ∈ s.allSubscriptions, sub.ptr < s.nextPtr
  client : ∀ m sub, sub ∈ (s.monitor m).subscriptions ↔
    sub ∈ s.allSubscriptions ∧ sub.monitor = .client m
  nodup : ∀ m, (s.monitor m).subscriptions.Nodup
  recipients : ∀ m, (recipients (s.monitor m)).Nodup
  unused : ∀ m : ℕ, s.nextPtr ≤ m → (s.monitor m).subscriptions = []
  exported : ∀ m : ℕ, (s.monitor m).exportSlot = true → m < s.nextPtr

/-! ## Proxy monitors -/

/-- What is true of a proxy monitor in the list of node `k`. -/
structure ListedProxy (s : Controller) (k : NodeId) (p : ProxyMonitorId) : Prop where
  listed : k ∈ s.nodes
  node : (s.proxyMonitor p).node = k
  target : ∃ t ∈ s.nodes, (s.proxyMonitor p).targetNode = some t ∧
    (s.node t).name = some (s.proxyMonitor p).subscription.node
  allowed : (s.proxyMonitor p).subscription.node ∈ (s.node k).allowedProxyTargets
  addedDep : (s.proxyMonitor p).addedDep = true
  units : (s.proxyMonitor p).subscription.units = [(s.proxyMonitor p).unitName]
  monitor : (s.proxyMonitor p).subscription.monitor = .proxy p
  filed : (s.proxyMonitor p).subscription ∈ s.allSubscriptions
  held : .list ∈ (s.refs (.proxyMonitor p)).owners

/-- The proxy monitors and their subscriptions. -/
structure Proxied (s : Controller) : Prop where
  listed : ∀ k, ∀ p ∈ (s.node k).proxyMonitors, ListedProxy s k p
  nodup : ∀ k, (s.node k).proxyMonitors.Nodup
  unique : ∀ k, ∀ p ∈ (s.node k).proxyMonitors, ∀ p' ∈ (s.node k).proxyMonitors,
    (s.proxyMonitor p).targetNode = (s.proxyMonitor p').targetNode →
      (s.proxyMonitor p).unitName = (s.proxyMonitor p').unitName → p = p'
  /-- Only a listed proxy monitor has a dependency. -/
  added : ∀ p, (s.proxyMonitor p).addedDep = true →
    p ∈ (s.node (s.proxyMonitor p).node).proxyMonitors
  /-- Only a listed proxy monitor has a subscription. -/
  owner : ∀ sub ∈ s.allSubscriptions, ∀ p, sub.monitor = .proxy p →
    p ∈ (s.node (s.proxyMonitor p).node).proxyMonitors ∧ (s.proxyMonitor p).subscription = sub
  proxy : ∀ p, ∃ p', (s.proxyMonitor p).subscription.monitor = .proxy p'
  wf : ∀ p, (s.refs (.proxyMonitor p)).WF
  calls : ∀ p, s.proxyCalls.count p ≤ (s.refs (.proxyMonitor p)).owners.count .call
  fresh : ∀ p : ℕ, s.nextPtr ≤ p → (s.proxyMonitor p).addedDep = false
  unheld : ∀ p : ℕ, s.nextPtr ≤ p → (s.refs (.proxyMonitor p)).owners = []

/-- The proxy monitor watches that unit of that node. -/
def Watches (s : Controller) (t : NodeId) (unit : String) (p : ProxyMonitorId) : Bool :=
  (s.proxyMonitor p).targetNode = some t && (s.proxyMonitor p).unitName = unit

/-- The number of listed proxy monitors that watch a unit of a node. -/
def proxyCount (s : Controller) (t : NodeId) (unit : String) : ℕ :=
  (s.nodes.map fun k => (s.node k).proxyMonitors.countP (s.Watches t unit)).sum

/-- The dependencies count the proxy monitors. -/
structure Counted (s : Controller) : Prop where
  count : ∀ t ∈ s.nodes, ∀ unit, depCount (s.node t) unit = s.proxyCount t unit
  keys : ∀ t, ((s.node t).proxyDependencies.map (·.unitName)).Nodup
  pos : ∀ t, ∀ dep ∈ (s.node t).proxyDependencies, 0 < dep.nDeps

/-! ## All together -/

structure Consistent (gap : ℤ) (s : Controller) : Prop where
  registry : Registry s
  held : Held s
  connected : Connected gap s
  forListed : ForListed s
  detached : ∀ n, (s.node n).Detached
  indexed : Indexed s
  owned : Owned s
  proxied : Proxied s
  counted : Counted s

/-! ## First consequences -/

variable {gap : ℤ} {s : Controller}

namespace Registry

lemma name_injective (h : Registry s) {n n' : NodeId} (hn : n ∈ s.nodes) (hn' : n' ∈ s.nodes)
    (heq : (s.node n).name = (s.node n').name) : n = n' :=
  List.inj_on_of_nodup_map h.distinct hn hn' heq

lemma findNode_eq_some_iff (h : Registry s) (name : String) (n : NodeId) :
    s.findNode name = some n ↔ n ∈ s.nodes ∧ (s.node n).name = some name := by
  unfold findNode
  constructor
  · intro hfind
    exact ⟨List.mem_of_find?_eq_some hfind, by simpa using List.find?_some hfind⟩
  · rintro ⟨hn, hname⟩
    have hsome : (s.nodes.find? fun n => (s.node n).name = some name).isSome = true := by
      rw [List.find?_isSome]
      exact ⟨n, hn, by simpa using hname⟩
    obtain ⟨n', hn'⟩ := Option.isSome_iff_exists.mp hsome
    have hname' : (s.node n').name = some name := by simpa using List.find?_some hn'
    rw [hn', h.name_injective (List.mem_of_find?_eq_some hn') hn (hname'.trans hname.symm)]

lemma mem_subscribedNodes_iff (h : Registry s) (sub : Subscription) (n : NodeId) :
    n ∈ s.subscribedNodes sub ↔ n ∈ s.nodes ∧ sub.Names (s.node n) := by
  unfold subscribedNodes subscriptionHasNodeWildcard Subscription.Names
  by_cases hwild : isWildcard sub.node = true
  · simp [hwild]
  · rw [if_neg hwild, Option.mem_toList, h.findNode_eq_some_iff]
    simp [hwild]

lemma subscribedNodes_nodup (h : Registry s) (sub : Subscription) :
    (s.subscribedNodes sub).Nodup := by
  unfold subscribedNodes
  split
  · exact h.nodesNodup
  · cases s.findNode sub.node <;> simp

end Registry

/-- A node that is needed by two owners is not freed when one of them lets go. -/
lemma Held.unref_ne_zero (h : Held s) {n : NodeId} {o o' : Owner}
    (ho : o ∈ (s.refs (.node n)).owners) (ho' : Needed s n o') (hne : o' ≠ o) :
    ((s.refs (.node n)).unref o).count ≠ 0 :=
  (h.wf n).unref_ne_zero ho (h.owners n o' ho') hne

lemma Indexed.mem_subsOf_iff (h : Indexed s) {n : NodeId} (hn : n ∈ s.nodes) (unit : String)
    (sub : Subscription) : sub ∈ (s.node n).subsOf unit ↔
      sub ∈ s.allSubscriptions ∧ sub.Names (s.node n) ∧ unit ∈ sub.units := by
  rw [← List.count_pos_iff, h.filed n hn]
  by_cases hsub : sub ∈ s.allSubscriptions ∧ sub.Names (s.node n)
  · rw [if_pos hsub, List.count_pos_iff]
    exact ⟨fun hunit => ⟨hsub.1, hsub.2, hunit⟩, fun hsub => hsub.2.2⟩
  · rw [if_neg hsub]
    exact ⟨fun hlt => absurd hlt (lt_irrefl 0), fun hall => absurd ⟨hall.1, hall.2.1⟩ hsub⟩

/-- Only listed proxy monitors are told about units. -/
lemma Consistent.listed_of_filed (h : Consistent gap s) {n : NodeId} {p : ProxyMonitorId}
    (hp : filedProxies (s.node n) p) :
    p ∈ (s.node (s.proxyMonitor p).node).proxyMonitors := by
  obtain ⟨unit, sub, hsub, hmonitor⟩ := hp
  by_cases hn : n ∈ s.nodes
  · have hall := ((h.indexed.mem_subsOf_iff hn unit sub).mp hsub).1
    exact (h.proxied.owner sub hall p hmonitor).1
  · rw [Node.subsOf, Node.usubs, h.indexed.unlisted n hn] at hsub
    simp at hsub

/-- A listed proxy monitor is not freed. -/
lemma Proxied.count_pos (h : Proxied s) {k : NodeId} {p : ProxyMonitorId}
    (hp : p ∈ (s.node k).proxyMonitors) : 0 < (s.refs (.proxyMonitor p)).count :=
  (h.wf p).count_pos (h.listed k p hp).held

end Controller
end BlueChi
