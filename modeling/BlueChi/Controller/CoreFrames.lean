import BlueChi.Controller.Invariant

/-!
# Steps that the invariant does not see

Jobs, clocks, replies, and the references of jobs, subscriptions and monitors do not occur in
the invariant. `CoreFrame` says that a step changes nothing else, and `Consistent.of_frame`
that such a step keeps the invariant.
-/

namespace BlueChi
namespace Controller

/-- The fields that may differ do not occur in the invariant, and neither does what the table
knows of the units. -/
structure SameCore (node node' : Node) : Prop where
  rest : node' = { node with
    requiredSelinuxContext := node'.requiredSelinuxContext
    outstandingRequests := node'.outstandingRequests
    unitSubscriptions := node'.unitSubscriptions
    lastSeen := node'.lastSeen
    lastSeenMonotonic := node'.lastSeenMonotonic
    isShutdown := node'.isShutdown }
  subsOf : ∀ unit, node'.subsOf unit = node.subsOf unit
  empty : node.unitSubscriptions = [] → node'.unitSubscriptions = []

/-- The objects whose references occur in the invariant. -/
def inInvariant : Obj → Bool
  | .node _ => true
  | .request _ => true
  | .proxyMonitor _ => true
  | _ => false

/-- Nothing of the invariant differs but what `Held` says of nodes, requests and fleets. -/
structure RestFrame (s s' : Controller) : Prop where
  nodes : s'.nodes = s.nodes
  anonymousNodes : s'.anonymousNodes = s.anonymousNodes
  numberOfNodes : s'.numberOfNodes = s.numberOfNodes
  numberOfNodesOnline : s'.numberOfNodesOnline = s.numberOfNodesOnline
  allSubscriptions : s'.allSubscriptions = s.allSubscriptions
  proxyMonitor : s'.proxyMonitor = s.proxyMonitor
  proxyCalls : s'.proxyCalls = s.proxyCalls
  signalMatches : s'.signalMatches = s.signalMatches
  node : ∀ n, SameCore (s.node n) (s'.node n)
  monitor : ∀ m, SameButSlot (s.monitor m) (s'.monitor m)
  proxyRefs : ∀ p, s'.refs (.proxyMonitor p) = s.refs (.proxyMonitor p)
  nextPtr : s.nextPtr ≤ s'.nextPtr
  hasJob : ∀ n, HasJob s' n → n ∈ s.nodes ∨ HasJob s n

/-- Nothing of the invariant differs. -/
structure CoreFrame (s s' : Controller) : Prop extends RestFrame s s' where
  fleet : s'.fleet = s.fleet
  request : ∀ r, (s'.request r).node = (s.request r).node
  refs : ∀ obj, inInvariant obj = true → s'.refs obj = s.refs obj

namespace SameCore

variable {node node' : Node}

lemma refl (node : Node) : SameCore node node := ⟨rfl, fun _ => rfl, id⟩

lemma trans {a b c : Node} (h : SameCore a b) (h' : SameCore b c) : SameCore a c where
  rest := by rw [h'.rest, h.rest]
  subsOf unit := (h'.subsOf unit).trans (h.subsOf unit)
  empty hnil := h'.empty (h.empty hnil)

lemma name (h : SameCore node node') : node'.name = node.name := by rw [h.rest]
lemma agentBus (h : SameCore node node') : node'.agentBus = node.agentBus := by rw [h.rest]
lemma proxyMonitors (h : SameCore node node') : node'.proxyMonitors = node.proxyMonitors := by
  rw [h.rest]
lemma proxyDependencies (h : SameCore node node') :
    node'.proxyDependencies = node.proxyDependencies := by rw [h.rest]
lemma allowedProxyTargets (h : SameCore node node') :
    node'.allowedProxyTargets = node.allowedProxyTargets := by rw [h.rest]
lemma nodeHasAgent (h : SameCore node node') :
    BlueChi.nodeHasAgent node' = BlueChi.nodeHasAgent node := by
  rw [BlueChi.nodeHasAgent, h.agentBus, BlueChi.nodeHasAgent]
lemma names (h : SameCore node node') (sub : Subscription) : sub.Names node' ↔ sub.Names node := by
  rw [Subscription.Names, h.name, Subscription.Names]
lemma detached (h : SameCore node node') (hdetached : node.Detached) : node'.Detached := by
  unfold Node.Detached at *
  rw [h.rest]
  exact hdetached

end SameCore

namespace RestFrame

variable {gap : ℤ} {s s' s'' : Controller}

theorem refl (s : Controller) : RestFrame s s :=
  ⟨rfl, rfl, rfl, rfl, rfl, rfl, rfl, rfl, fun _ => .refl _, fun _ => .refl _, fun _ => rfl,
    le_refl _, fun _ => Or.inr⟩

theorem trans (h : RestFrame s s') (h' : RestFrame s' s'') : RestFrame s s'' where
  nodes := h'.nodes.trans h.nodes
  anonymousNodes := h'.anonymousNodes.trans h.anonymousNodes
  numberOfNodes := h'.numberOfNodes.trans h.numberOfNodes
  numberOfNodesOnline := h'.numberOfNodesOnline.trans h.numberOfNodesOnline
  allSubscriptions := h'.allSubscriptions.trans h.allSubscriptions
  proxyMonitor := h'.proxyMonitor.trans h.proxyMonitor
  proxyCalls := h'.proxyCalls.trans h.proxyCalls
  signalMatches := h'.signalMatches.trans h.signalMatches
  node n := (h.node n).trans (h'.node n)
  monitor m := (h.monitor m).trans (h'.monitor m)
  proxyRefs p := (h'.proxyRefs p).trans (h.proxyRefs p)
  nextPtr := h.nextPtr.trans h'.nextPtr
  hasJob n hjob := by
    rcases h'.hasJob n hjob with hn | hjob'
    · exact Or.inl (h.nodes ▸ hn)
    · exact h.hasJob n hjob'

variable (f : RestFrame s s')

include f

theorem registry (h : Registry s) : Registry s' where
  nodesNodup := f.nodes ▸ h.nodesNodup
  anonymousNodup := f.anonymousNodes ▸ h.anonymousNodup
  named n hn := by
    rw [(f.node n).name]
    exact h.named n (f.nodes ▸ hn)
  unnamed n hn := by
    rw [(f.node n).name]
    exact h.unnamed n (f.anonymousNodes ▸ hn)
  distinct := by
    simp only [f.nodes, (f.node _).name]
    exact h.distinct
  count := by rw [f.numberOfNodes, f.nodes, h.count]
  fresh n hn := by
    rw [f.nodes, f.anonymousNodes] at hn
    exact (h.fresh n hn).trans_le f.nextPtr

theorem connected (h : Connected gap s) : Connected gap s' where
  listed n hn := by
    rw [(f.node n).name] at hn
    rw [f.nodes]
    exact h.listed n hn
  made n hbus := by
    rw [(f.node n).agentBus] at hbus
    exact (h.made n hbus).trans_le f.nextPtr
  signals m hm := by
    rw [f.signalMatches] at hm
    rw [f.nodes]
    exact h.signals m hm
  online := by
    simp only [f.numberOfNodesOnline, f.nodes, (f.node _).nodeHasAgent]
    exact h.online

theorem forListed (h : ForListed s) (howners : ∀ n, n ∉ s.nodes →
    (s'.refs (.node n)).owners.Sublist (s.refs (.node n)).owners) : ForListed s' where
  jobs n hjob := by
    rw [f.nodes]
    exact (f.hasJob n hjob).elim id (h.jobs n)
  owners n hn := by
    rw [f.nodes] at hn
    exact (howners n hn).trans (h.owners n hn)
  anonymous n hn hbus := by
    rw [f.nodes] at hn
    rw [(f.node n).agentBus] at hbus
    rw [f.anonymousNodes]
    exact h.anonymous n hn hbus

theorem indexed (h : Indexed s) : Indexed s' where
  filed n hn unit sub := by
    rw [f.nodes] at hn
    rw [(f.node n).subsOf, f.allSubscriptions]
    simp only [(f.node n).names]
    exact h.filed n hn unit sub
  unlisted n hn := by
    rw [f.nodes] at hn
    exact (f.node n).empty (h.unlisted n hn)

theorem owned (h : Owned s) : Owned s' where
  ptrs := f.allSubscriptions ▸ h.ptrs
  fresh sub hsub := by
    rw [f.allSubscriptions] at hsub
    exact (h.fresh sub hsub).trans_le f.nextPtr
  client m sub := by
    rw [f.allSubscriptions, (f.monitor m).subscriptions]
    exact h.client m sub
  nodup m := by
    rw [(f.monitor m).subscriptions]
    exact h.nodup m
  recipients m := by
    rw [(f.monitor m).rest]
    exact h.recipients m
  unused m hm := by
    rw [(f.monitor m).subscriptions]
    exact h.unused m (f.nextPtr.trans hm)
  exported m hm := (h.exported m ((f.monitor m).slot hm)).trans_le f.nextPtr

theorem listedProxy {k : NodeId} {p : ProxyMonitorId} (h : ListedProxy s k p) :
    ListedProxy s' k p where
  listed := f.nodes ▸ h.listed
  node := f.proxyMonitor ▸ h.node
  target := by
    obtain ⟨t, ht, htarget, hname⟩ := h.target
    refine ⟨t, f.nodes ▸ ht, f.proxyMonitor ▸ htarget, ?_⟩
    rw [(f.node t).name, f.proxyMonitor, hname]
  allowed := by
    rw [(f.node k).allowedProxyTargets, f.proxyMonitor]
    exact h.allowed
  addedDep := f.proxyMonitor ▸ h.addedDep
  units := f.proxyMonitor ▸ h.units
  monitor := f.proxyMonitor ▸ h.monitor
  filed := by
    rw [f.allSubscriptions, f.proxyMonitor]
    exact h.filed
  held := by
    rw [f.proxyRefs]
    exact h.held

theorem proxied (h : Proxied s) : Proxied s' where
  listed k p hp := by
    rw [(f.node k).proxyMonitors] at hp
    exact f.listedProxy (h.listed k p hp)
  nodup k := by
    rw [(f.node k).proxyMonitors]
    exact h.nodup k
  unique k := by
    rw [(f.node k).proxyMonitors, f.proxyMonitor]
    exact h.unique k
  added p hp := by
    rw [f.proxyMonitor] at hp ⊢
    rw [(f.node _).proxyMonitors]
    exact h.added p hp
  owner sub hsub p hp := by
    rw [f.allSubscriptions] at hsub
    rw [f.proxyMonitor, (f.node _).proxyMonitors]
    exact h.owner sub hsub p hp
  proxy := f.proxyMonitor ▸ h.proxy
  wf p := by
    rw [f.proxyRefs]
    exact h.wf p
  calls p := by
    rw [f.proxyCalls, f.proxyRefs]
    exact h.calls p
  fresh p hp := by
    rw [f.proxyMonitor]
    exact h.fresh p (f.nextPtr.trans hp)
  unheld p hp := by
    rw [f.proxyRefs]
    exact h.unheld p (f.nextPtr.trans hp)

lemma proxyCount_eq (t : NodeId) (unit : String) : s'.proxyCount t unit = s.proxyCount t unit := by
  unfold proxyCount Watches
  simp only [f.nodes, (f.node _).proxyMonitors, f.proxyMonitor]

theorem counted (h : Counted s) : Counted s' where
  count t ht unit := by
    rw [f.nodes] at ht
    rw [f.proxyCount_eq, depCount, (f.node t).proxyDependencies]
    exact h.count t ht unit
  keys t := by
    rw [(f.node t).proxyDependencies]
    exact h.keys t
  pos t dep hdep := by
    rw [(f.node t).proxyDependencies] at hdep
    exact h.pos t dep hdep

theorem detached (h : ∀ n, (s.node n).Detached) : ∀ n, (s'.node n).Detached := fun n =>
  (f.node n).detached (h n)

end RestFrame

/-- A loop keeps what each of its rounds keeps. -/
lemma foldl_keeps {α : Type} {P : Controller → Prop} {f : Controller → α → Controller}
    (hf : ∀ s x, P s → P (f s x)) (xs : List α) {s : Controller} (h : P s) : P (xs.foldl f s) := by
  induction xs generalizing s with
  | nil => exact h
  | cons x xs ih => exact ih (hf s x h)

/-- A step within the frame keeps the invariant if it keeps the references of the nodes right. -/
theorem Consistent.of_rest {gap : ℤ} {s s' : Controller} (h : Consistent gap s) (f : RestFrame s s')
    (hheld : Held s') (howners : ∀ n, n ∉ s.nodes →
      (s'.refs (.node n)).owners.Sublist (s.refs (.node n)).owners) : Consistent gap s' where
  registry := f.registry h.registry
  held := hheld
  connected := f.connected h.connected
  forListed := f.forListed h.forListed howners
  detached := f.detached h.detached
  indexed := f.indexed h.indexed
  owned := f.owned h.owned
  proxied := f.proxied h.proxied
  counted := f.counted h.counted

namespace CoreFrame

variable {s s' s'' : Controller}

theorem refl (s : Controller) : CoreFrame s s :=
  ⟨.refl s, rfl, fun _ => rfl, fun _ _ => rfl⟩

theorem trans (h : CoreFrame s s') (h' : CoreFrame s' s'') : CoreFrame s s'' where
  toRestFrame := h.toRestFrame.trans h'.toRestFrame
  fleet := h'.fleet.trans h.fleet
  request r := (h'.request r).trans (h.request r)
  refs obj hobj := (h'.refs obj hobj).trans (h.refs obj hobj)

theorem foldl {α : Type} {f : Controller → α → Controller} (hf : ∀ s x, CoreFrame s (f s x))
    (xs : List α) (s : Controller) : CoreFrame s (xs.foldl f s) := by
  induction xs generalizing s with
  | nil => exact .refl s
  | cons x xs ih => exact (hf s x).trans (ih _)

variable (f : CoreFrame s s')

include f

lemma needed_iff (n : NodeId) (o : Owner) : Needed s' n o ↔ Needed s n o := by
  cases o with
  | creator => simp only [Needed, f.nodes, f.anonymousNodes]
  | request r => simp only [Needed, f.refs _ (rfl : inInvariant (.request r) = true), f.request]
  | proxyMonitor p => simp only [Needed, f.proxyRefs, f.proxyMonitor]
  | _ => exact Iff.rfl

theorem held (h : Held s) : Held s' where
  wf n := by
    rw [f.refs _ rfl]
    exact h.wf n
  owners n o hneed := by
    rw [f.refs _ rfl]
    exact h.owners n o ((f.needed_iff n o).mp hneed)
  fleet q hq n := by
    rw [f.fleet] at hq ⊢
    rw [f.refs _ rfl]
    exact h.fleet q hq n
  slots q := by
    rw [f.fleet]
    exact h.slots q
  fresh n hn := by
    rw [f.refs _ rfl]
    exact h.fresh n (f.nextPtr.trans hn)

end CoreFrame

theorem Consistent.of_frame {gap : ℤ} {s s' : Controller} (h : Consistent gap s) (f : CoreFrame s s') :
    Consistent gap s' :=
  h.of_rest f.toRestFrame (f.held h.held) fun n _ => by rw [f.refs _ rfl]

/-! ## Functions within the frame -/

theorem CoreFrame.of_jobs {s s' : Controller} (h : s' = { s with
    jobs := s'.jobs, monitors := s'.monitors, metricsEnabled := s'.metricsEnabled,
    exportedJobs := s'.exportedJobs, pendingRequests := s'.pendingRequests,
    startedRequests := s'.startedRequests, callbacks := s'.callbacks, freedFleets := s'.freedFleets,
    nextJobId := s'.nextJobId, nextSubscriptionId := s'.nextSubscriptionId,
    nextMonitorId := s'.nextMonitorId, nextPeerId := s'.nextPeerId, stopped := s'.stopped,
    log := s'.log, mem := s'.mem }) (hjobs : ∀ job ∈ s'.jobs, HasJob s job.node) :
    CoreFrame s s' := by
  have hhas : ∀ n, HasJob s' n → HasJob s n := by
    rintro n (⟨job, hjob, rfl⟩ | hreq)
    · exact hjobs job hjob
    · rw [h] at hreq
      exact Or.inr hreq
  rw [h] at hhas ⊢
  exact ⟨⟨rfl, rfl, rfl, rfl, rfl, rfl, rfl, rfl, fun _ => .refl _, fun _ => .refl _, fun _ => rfl,
    le_refl _, fun n hjob => Or.inr (hhas n hjob)⟩, rfl, fun _ => rfl, fun _ _ => rfl⟩

theorem CoreFrame.of_eq {s s' : Controller} (h : s' = { s with
    monitors := s'.monitors, metricsEnabled := s'.metricsEnabled,
    exportedJobs := s'.exportedJobs, pendingRequests := s'.pendingRequests,
    startedRequests := s'.startedRequests, callbacks := s'.callbacks, freedFleets := s'.freedFleets,
    nextJobId := s'.nextJobId, nextSubscriptionId := s'.nextSubscriptionId,
    nextMonitorId := s'.nextMonitorId, nextPeerId := s'.nextPeerId, stopped := s'.stopped,
    log := s'.log, mem := s'.mem }) : CoreFrame s s' := by
  have hjobs : s'.jobs = s.jobs := by rw [h]
  refine .of_jobs (by rw [h]) fun job hjob => ?_
  exact Or.inl ⟨job, hjobs ▸ hjob, rfl⟩

lemma coreFrame_emit (s : Controller) (o : Output) : CoreFrame s (s.emit o) := .of_eq rfl

lemma coreFrame_sendAgent (s : Controller) (n : NodeId) (call : AgentCall) :
    CoreFrame s (s.sendAgent n call) := by
  unfold sendAgent
  split
  · exact .refl s
  · exact coreFrame_emit s _

lemma coreFrame_modifyNode (s : Controller) (n : NodeId) {f : Node → Node}
    (hf : SameCore (s.node n) (f (s.node n))) : CoreFrame s (s.modifyNode n f) := by
  refine ⟨⟨rfl, rfl, rfl, rfl, rfl, rfl, rfl, rfl, fun n' => ?_, fun _ => .refl _, fun _ => rfl,
    le_refl _, fun _ => Or.inr⟩, rfl, fun _ => rfl, fun _ _ => rfl⟩
  by_cases hn : n' = n
  · subst hn
    simpa using hf
  · simpa [hn] using SameCore.refl _

section

variable (s : Controller) (obj : Obj) (hobj : inInvariant obj = false)

include hobj

lemma coreFrame_newRef : CoreFrame s (s.newRef obj) := by
  have hrefs : ∀ obj', inInvariant obj' = true → obj' ≠ obj := by
    rintro obj' hobj' rfl
    simp [hobj] at hobj'
  exact ⟨⟨rfl, rfl, rfl, rfl, rfl, rfl, rfl, rfl, fun _ => .refl _, fun _ => .refl _,
    fun p => by simp [hrefs (.proxyMonitor p) rfl], le_refl _, fun _ => Or.inr⟩, rfl, fun _ => rfl,
    fun obj' hobj' => by simp [hrefs obj' hobj']⟩

lemma coreFrame_takeRef (o : Owner) : CoreFrame s (s.takeRef obj o) := by
  have hrefs : ∀ obj', inInvariant obj' = true → obj' ≠ obj := by
    rintro obj' hobj' rfl
    simp [hobj] at hobj'
  exact ⟨⟨rfl, rfl, rfl, rfl, rfl, rfl, rfl, rfl, fun _ => .refl _, fun _ => .refl _,
    fun p => by simp [hrefs (.proxyMonitor p) rfl], le_refl _, fun _ => Or.inr⟩, rfl, fun _ => rfl,
    fun obj' hobj' => by simp [hrefs obj' hobj']⟩

lemma coreFrame_dropRef (o : Owner) : CoreFrame s (s.dropRef obj o) := by
  have hrefs : ∀ obj', inInvariant obj' = true → obj' ≠ obj := by
    rintro obj' hobj' rfl
    simp [hobj] at hobj'
  exact ⟨⟨rfl, rfl, rfl, rfl, rfl, rfl, rfl, rfl, fun _ => .refl _, fun _ => .refl _,
    fun p => by simp [hrefs (.proxyMonitor p) rfl], le_refl _, fun _ => Or.inr⟩, rfl, fun _ => rfl,
    fun obj' hobj' => by simp [hrefs obj' hobj']⟩

end

lemma coreFrame_busAlloc (s : Controller) : CoreFrame s s.busAlloc :=
  ⟨⟨rfl, rfl, rfl, rfl, rfl, rfl, rfl, rfl, fun _ => .refl _, fun _ => .refl _, fun _ => rfl,
    Nat.le_succ _, fun _ => Or.inr⟩, rfl, fun _ => rfl, fun _ _ => rfl⟩

/-! ### Monitors and subscriptions -/

lemma coreFrame_unexport (s : Controller) (m : MonitorId) :
    CoreFrame s (s.modifyMonitor m fun monitor => { monitor with exportSlot := false }) := by
  refine ⟨⟨rfl, rfl, rfl, rfl, rfl, rfl, rfl, rfl, fun _ => .refl _, fun m' => ?_, fun _ => rfl,
    le_refl _, fun _ => Or.inr⟩, rfl, fun _ => rfl, fun _ _ => rfl⟩
  by_cases hm : m' = m
  · subst hm
    simpa using ⟨rfl, by simp⟩
  · simpa [hm] using SameButSlot.refl _

lemma coreFrame_monitorUnref (s : Controller) (m : MonitorId) (o : Owner) :
    CoreFrame s (s.monitorUnref m o) := by
  have hdrop : CoreFrame s (s.dropRef (.monitor m) o) := coreFrame_dropRef s _ rfl o
  unfold monitorUnref
  simp only
  split
  · exact hdrop.trans (coreFrame_unexport _ m)
  · exact hdrop

lemma coreFrame_subscriptionUnref (s : Controller) (sub : Subscription) (o : Owner) :
    CoreFrame s (s.subscriptionUnref sub o) := by
  have hdrop : CoreFrame s (s.dropRef (.subscription sub.ptr) o) := coreFrame_dropRef s _ rfl o
  unfold subscriptionUnref
  simp only
  split
  · split
    · exact hdrop.trans (coreFrame_monitorUnref _ _ _)
    · exact hdrop
  · exact hdrop

/-! ### Jobs -/

lemma coreFrame_jobUnref (s : Controller) (ptr : ℕ) (o : Owner) :
    CoreFrame s (s.jobUnref ptr o) := by
  have hdrop : CoreFrame s (s.dropRef (.job ptr) o) := coreFrame_dropRef s _ rfl o
  unfold jobUnref
  simp only
  split
  · exact hdrop.trans (.of_eq rfl)
  · exact hdrop

lemma coreFrame_addJob (s : Controller) {job : Job} (hjob : HasJob s job.node) :
    CoreFrame s (s.addJob job).2 := by
  unfold addJob
  split
  · exact .refl s
  · have hexport : CoreFrame s ((s.jobExport job).emit (.jobNew job)) := .of_eq rfl
    have hlist := hexport.trans (coreFrame_takeRef _ (.job job.ptr) rfl .list)
    refine hlist.trans (.of_jobs rfl fun job' hjob' => ?_)
    rcases List.mem_append.mp hjob' with hold | hnew
    · exact Or.inl ⟨job', hold, rfl⟩
    · rw [List.mem_singleton] at hnew
      exact hnew ▸ hjob

lemma coreFrame_unlistJob (s : Controller) (job : Job) : CoreFrame s (s.unlistJob job) :=
  .of_jobs rfl fun job' hjob' => Or.inl ⟨job', List.mem_of_mem_eraseP hjob', rfl⟩

lemma coreFrame_modifyJob (s : Controller) (ptr : ℕ) {f : Job → Job}
    (hf : ∀ job ∈ s.jobs, job.ptr = ptr → HasJob s (f job).node) : CoreFrame s (s.modifyJob ptr f) := by
  refine .of_jobs rfl fun job hjob => ?_
  obtain ⟨job', hjob', heq⟩ := List.mem_map.mp hjob
  split at heq
  · rename_i hptr
    exact heq ▸ hf job' hjob' hptr
  · exact heq ▸ Or.inl ⟨job', hjob', rfl⟩

lemma coreFrame_removeJob (sync : SyncCalls) (s : Controller) (job : Job) (result : String) :
    CoreFrame s (s.removeJob sync job result) := by
  have hunlist : CoreFrame s ((s.emit (.jobRemoved job (s.nodeName job.node) result)).unlistJob
      job) := (coreFrame_emit s _).trans (coreFrame_unlistJob _ job)
  have hreport : ∀ s : Controller, CoreFrame s (s.metricsProduceJobReport sync job) := by
    intro s
    unfold metricsProduceJobReport
    split
    · exact .refl s
    · split
      · exact .refl s
      · exact coreFrame_emit s _
  unfold removeJob
  refine CoreFrame.trans ?_ (coreFrame_jobUnref _ _ _)
  split
  · exact hunlist.trans (hreport _)
  · exact hunlist

lemma coreFrame_jobStateChanged (s : Controller) (jobId : UInt32) (state : String) :
    CoreFrame s (s.jobStateChanged jobId state) := by
  unfold jobStateChanged
  split
  · exact .refl s
  · rename_i job hfind
    have hmodify : CoreFrame s (s.modifyJob job.ptr fun job =>
        { job with state := jobStateFromString state }) :=
      coreFrame_modifyJob s job.ptr fun job hjob _ => Or.inl ⟨job, hjob, rfl⟩
    exact hmodify.trans (coreFrame_emit _ _)

lemma coreFrame_finishJob (sync : SyncCalls) (s : Controller) (jobId : UInt32) (result : String)
    (now : UInt64) : CoreFrame s (s.finishJob sync jobId result now) := by
  unfold finishJob
  split
  · exact .refl s
  · rename_i job hfind
    have hjob : HasJob s job.node := Or.inl ⟨job, List.mem_of_find?_eq_some hfind, rfl⟩
    refine CoreFrame.trans (coreFrame_modifyJob s job.ptr fun _ _ _ => ?_)
      (coreFrame_removeJob sync _ _ result)
    split <;> exact hjob

lemma coreFrame_dropJob (n : NodeId) (s : Controller) (job : Job) :
    CoreFrame s (dropJob n s job) := by
  unfold dropJob
  split
  · exact (coreFrame_unlistJob s job).trans (coreFrame_jobUnref _ job.ptr .list)
  · exact .refl s

/-! ### Requests and the status of the system -/

lemma coreFrame_unlistRequest (s : Controller) (r : RequestId) :
    CoreFrame s (s.unlistRequest r) := by
  have hnode := coreFrame_modifyNode (s.listRemove (.outstandingRequests (s.request r).node)
    (r ∈ (s.node (s.request r).node).outstandingRequests)) (s.request r).node
    (f := fun node => { node with outstandingRequests := node.outstandingRequests.erase r })
    ⟨rfl, fun _ => rfl, id⟩
  have hlist : CoreFrame s (s.listRemove (.outstandingRequests (s.request r).node)
    (r ∈ (s.node (s.request r).node).outstandingRequests)) := .of_eq rfl
  exact (hlist.trans hnode).trans (.of_eq rfl)

lemma coreFrame_freeUserdata (s : Controller) (handler : RequestHandler) :
    CoreFrame s (s.freeUserdata handler) := by
  cases handler with
  | lifecycle serial job => exact coreFrame_jobUnref s job.ptr .creator
  | _ => exact .refl s

lemma coreFrame_cancel (s : Controller) (r : RequestId) :
    CoreFrame s (s.modifyRequest r fun req => { req with isCancelled := true }) := by
  have hsame : ∀ r', ((s.modifyRequest r fun req => { req with isCancelled := true }).request
      r').node = (s.request r').node ∧ ((s.modifyRequest r fun req =>
        { req with isCancelled := true }).request r').handler = (s.request r').handler := by
    intro r'
    by_cases hr : r' = r
    · subst hr
      simp
    · simp [hr]
  refine ⟨⟨rfl, rfl, rfl, rfl, rfl, rfl, rfl, rfl, fun _ => .refl _, fun _ => .refl _, fun _ => rfl,
    le_refl _, ?_⟩, rfl, fun r' => (hsame r').1, fun _ _ => rfl⟩
  rintro n (hlisted | ⟨r', serial, job, hreq, hnode⟩)
  · exact Or.inr (Or.inl hlisted)
  · exact Or.inr (Or.inr ⟨r', serial, job, (hsame r').2 ▸ hreq, hnode⟩)

lemma coreFrame_checkSystemStatus (s : Controller) (prev : ℤ) :
    CoreFrame s (s.checkSystemStatus prev) := by
  unfold checkSystemStatus
  simp only
  split
  · exact coreFrame_emit s _
  · exact .refl s

end Controller
end BlueChi
