import BlueChi.Controller.System

/-!
# Relations that the controller stays within

A relation between states is shown for all functions of a group by showing it for what they are made
of. `ClosedTables`, `ClosedProxies`, `ClosedJobs`, `ClosedRequests`, `ClosedNodes`, `ClosedLosses`,
`ClosedConnections` and `ClosedMonitors` list these parts, group by group, and each is followed by one
lemma for every function of its group.
-/

namespace BlueChi

/-- The messages about a job. -/
def Output.aboutJob : Output → Bool
  | .jobNew _ => true
  | .jobRemoved .. => true
  | .jobState _ => true
  | .startUnitJobMetrics .. => true
  | _ => false

/-- The call that a message replies to. -/
def Output.answers : Output → Option Serial
  | .reply serial _ => some serial
  | .replyError serial _ => some serial
  | _ => none

namespace Controller

/-- How often the object was freed. -/
def timesFreed (s : Controller) (obj : Obj) : ℕ := s.mem.count (.unref obj 0)

/-- Objects of different groups are different. -/
lemma obj_ne {group : Obj → Bool} (obj : Obj) {obj' : Obj} (hobj : group obj = true)
    (hobj' : group obj' = false) : obj' ≠ obj := fun heq => by
  rw [heq, hobj] at hobj'
  exact Bool.noConfusion hobj'

variable {R : Controller → Controller → Prop}

/-! ## Composition -/

/-- The relation holds over no step and over two stretches if it holds over each. -/
structure Composed (R : Controller → Controller → Prop) : Prop where
  refl : ∀ s, R s s
  trans : ∀ {s s' s''}, R s s' → R s' s'' → R s s''

namespace Composed

lemma foldl (h : Composed R) {α : Type} {f : Controller → α → Controller}
    (hf : ∀ s x, R s (f s x)) (xs : List α) (s : Controller) : R s (xs.foldl f s) := by
  induction xs generalizing s with
  | nil => exact h.refl s
  | cons x xs ih => exact h.trans (hf s x) (ih _)

/-- The later stretch first. -/
lemma after (h : Composed R) {s s' s'' : Controller} (h' : R s' s'') (hfirst : R s s') : R s s'' :=
  h.trans hfirst h'

end Composed

/-! ## Tables -/

/-- The parts of the functions on the tables of unit subscriptions. -/
structure ClosedTables (R : Controller → Controller → Prop) : Prop extends Composed R where
  notify : ∀ {told s s'}, NotifyFrame told s s' → R s s'
  tell : ∀ s n call, call.kind = .table → R s (s.sendAgent n call)
  table : ∀ s n f, SameButTable (s.node n) (f (s.node n)) → R s (s.modifyNode n f)

namespace ClosedTables

lemma runEffect (h : ClosedTables R) {told : ProxyMonitorId → Prop} (s : Controller) (n : NodeId)
    {eff : NodeEffect} (heff : Mild told eff) : R s (s.runEffect n eff) := by
  match eff with
  | .send call => exact h.tell s n call heff
  | .notify subs unit ev => exact h.notify (notifyFrame_handleAll s subs _ unit ev)

lemma applyNode (h : ClosedTables R) {told : ProxyMonitorId → Prop} (s : Controller) (n : NodeId)
    {f : NodeStep} (hf : TableStep told f (s.node n)) : R s (s.applyNode n f) := by
  have heffects : ∀ (effs : List NodeEffect), (∀ eff ∈ effs, Mild told eff) → ∀ t,
      R t (effs.foldl (Controller.runEffect n) t) := by
    intro effs
    induction effs with
    | nil => exact fun _ t => h.refl t
    | cons eff effs ih =>
      intro hmild t
      exact h.trans (h.runEffect t n (hmild eff (by simp)))
        (ih (fun e he => hmild e (by simp [he])) _)
  exact h.trans (h.table s n _ hf.1) (heffects _ hf.2 _)

/-- The subscription is filed in the tables that it names. -/
lemma fileSubscription (h : ClosedTables R) (sub : Subscription) (ns : List NodeId)
    (s : Controller) : R s (ns.foldl (fun s n => s.applyNode n (nodeSubscribe sub)) s) :=
  h.foldl (fun s n => h.applyNode s n (tableStep_nodeSubscribe sub (s.node n))) ns s

/-- It is taken out of the tables again. -/
lemma unfileSubscription (h : ClosedTables R) (sub : Subscription) (ns : List NodeId)
    (s : Controller) : R s (ns.foldl (fun s n => s.applyNode n (nodeUnsubscribe sub)) s) :=
  h.foldl (fun s n => h.applyNode s n (tableStep_nodeUnsubscribe (fun _ => False) sub (s.node n)))
    ns s

end ClosedTables

/-! ## Proxies -/

/-- Only what a node keeps for proxies may differ. -/
def SameButWatches (node node' : Node) : Prop :=
  node' = { node with
    proxyMonitors := node'.proxyMonitors, proxyDependencies := node'.proxyDependencies,
    allowedProxyTargets := node'.allowedProxyTargets }

/-- The objects whose references the functions on proxies count. -/
def ofProxies : Obj → Bool
  | .node _ => true
  | .proxyMonitor _ => true
  | _ => false

/-- The parts of the functions on proxy monitors and of `node_unref`. -/
structure ClosedProxies (R : Controller → Controller → Prop) : Prop extends ClosedTables R where
  depend : ∀ s n call, call.kind = .dependency → R s (s.sendAgent n call)
  proxies : ∀ s n f, SameButWatches (s.node n) (f (s.node n)) → R s (s.modifyNode n f)
  detach : ∀ s n, R s (s.nodeUnsetAgentBus n)
  proxyMonitor : ∀ s p f, SameButDep (s.proxyMonitor p) (f (s.proxyMonitor p)) →
    R s (s.modifyProxyMonitor p f)
  takeRef : ∀ s obj o, ofProxies obj = true → R s (s.takeRef obj o)
  dropRef : ∀ s obj o, ofProxies obj = true → o ≠ .creator ∨ (∀ n, obj ≠ .node n) →
    R s (s.dropRef obj o)
  unlist : ∀ s n member, R s (s.listRemove (.proxyMonitors n) member)
  proxyMonitorNew : ∀ s n name unit path, R s (s.proxyMonitorNew n name unit path)
  appendSubscription : ∀ s p, R s (s.appendSubscription (s.proxyMonitor p).subscription)
  unlistSubscription : ∀ s p, R s (s.unlistSubscription (s.proxyMonitor p).subscription)
  subscriptionUnref : ∀ s p o, R s (s.subscriptionUnref (s.proxyMonitor p).subscription o)
  answered : ∀ s p, R s { s with proxyCalls := s.proxyCalls.erase p }

namespace ClosedProxies

variable (h : ClosedProxies R)

include h

lemma nodeAddProxyDependency (s : Controller) (n : NodeId) (unit : String) :
    R s (s.nodeAddProxyDependency n unit) := by
  apply h.after (h.depend _ n _ rfl)
  exact h.proxies s n _ rfl

lemma nodeRemoveProxyDependency (s : Controller) (n : NodeId) (unit : String) :
    R s (s.nodeRemoveProxyDependency n unit) := by
  unfold Controller.nodeRemoveProxyDependency
  split
  · exact h.refl s
  · split
    · exact h.trans (h.depend s n _ rfl) (h.proxies _ n _ rfl)
    · exact h.proxies s n _ rfl

lemma proxyMonitorDropDep (s : Controller) (p : ProxyMonitorId) : R s (s.proxyMonitorDropDep p) := by
  unfold Controller.proxyMonitorDropDep
  split
  · dsimp only
    refine h.after (h.proxyMonitor _ p _ rfl) ?_
    split
    · exact h.nodeRemoveProxyDependency s _ _
    · exact h.refl s
  · exact h.refl s

lemma addSubscription (s : Controller) (p : ProxyMonitorId) :
    R s (s.addSubscription (s.proxyMonitor p).subscription) :=
  h.trans (h.appendSubscription s p) (h.fileSubscription _ _ _)

lemma removeSubscription (s : Controller) (p : ProxyMonitorId) :
    R s (s.removeSubscription (s.proxyMonitor p).subscription) := by
  have hfile := h.unfileSubscription (s.proxyMonitor p).subscription
    (s.subscribedNodes (s.proxyMonitor p).subscription) s
  have hframe := SubscriptionFrame.foldl (s.subscribedNodes (s.proxyMonitor p).subscription) s
    fun s' n _ => subscriptionFrame_applyNode s' n
      (tableStep_nodeUnsubscribe (fun _ => False) (s.proxyMonitor p).subscription (s'.node n))
  unfold Controller.removeSubscription
  simp only
  generalize List.foldl _ s _ = t at hfile hframe
  -- the proxy monitor still has the subscription when it is unlisted and dropped
  have hsub : (t.proxyMonitor p).subscription = (s.proxyMonitor p).subscription := by
    rw [hframe.rest]
  rw [← hsub]
  apply h.trans hfile
  apply h.trans (h.unlistSubscription t p)
  exact h.subscriptionUnref (t.unlistSubscription (t.proxyMonitor p).subscription) p _

lemma unlistProxyMonitor (s : Controller) (n : NodeId) (p : ProxyMonitorId) :
    R s (s.unlistProxyMonitor n p) := by
  unfold Controller.unlistProxyMonitor
  exact h.trans (h.unlist s n _) (h.proxies _ n _ rfl)

section

variable {unrefNode : Controller → NodeId → Owner → Controller}
  (hunref : ∀ s n p, R s (unrefNode s n (.proxyMonitor p)))

include hunref

lemma proxyMonitorUnref (s : Controller) (p : ProxyMonitorId) (o : Owner) :
    R s (proxyMonitorUnref unrefNode s p o) := by
  have hdrop : R s (s.dropRef (.proxyMonitor p) o) :=
    h.dropRef s _ o rfl (Or.inr fun _ => Obj.noConfusion)
  unfold Controller.proxyMonitorUnref
  simp only
  split
  · apply h.trans hdrop
    refine h.after (h.subscriptionUnref _ p _) ?_
    split
    · exact h.trans (h.proxyMonitorDropDep _ p) (hunref _ _ _)
    · exact h.refl _
  · exact hdrop

lemma nodeRemoveProxyMonitor (s : Controller) (n : NodeId) (p : ProxyMonitorId) :
    R s (nodeRemoveProxyMonitor unrefNode s n p) := by
  unfold Controller.nodeRemoveProxyMonitor
  apply h.trans (h.proxyMonitorDropDep s p)
  apply h.trans (h.removeSubscription _ p)
  exact h.trans (h.unlistProxyMonitor _ n p) (h.proxyMonitorUnref hunref _ p _)

lemma nodeFinalize (s : Controller) (n : NodeId) : R s (nodeFinalize unrefNode s n) := by
  unfold Controller.nodeFinalize
  refine h.trans (h.foldl (fun s p => h.nodeRemoveProxyMonitor hunref s n p)
    (s.node n).proxyMonitors s) ?_
  refine h.after (h.table _ n _ rfl) (h.after (h.detach _ n) ?_)
  exact h.proxies _ n _ rfl

end

lemma nodeUnrefFuel (fuel : ℕ) (s : Controller) (n : NodeId) {o : Owner}
    (hdrop : R s (s.dropRef (.node n) o)) : R s (nodeUnrefFuel fuel s n o) := by
  induction fuel generalizing s n o with
  | zero => exact hdrop
  | succ fuel ih =>
    have hproxy : ∀ s n p, R s (Controller.nodeUnrefFuel fuel s n (.proxyMonitor p)) :=
      fun s n p => ih s n (h.dropRef s _ _ rfl (Or.inl Owner.noConfusion))
    rw [Controller.nodeUnrefFuel]
    split
    · exact h.trans hdrop (h.nodeFinalize hproxy _ n)
    · exact hdrop

/-- The reference is that of a request, a proxy monitor or a fleet request. -/
lemma nodeUnref (s : Controller) (n : NodeId) {o : Owner} (ho : o ≠ .creator) :
    R s (s.nodeUnref n o) :=
  h.nodeUnrefFuel _ s n (h.dropRef s _ o rfl (Or.inl ho))

lemma nodeUnref_proxyMonitor (s : Controller) (n : NodeId) (p : ProxyMonitorId) :
    R s (s.nodeUnref n (.proxyMonitor p)) := h.nodeUnref s n Owner.noConfusion

/-! ### Signals about proxies -/

lemma onProxyMonitor (s : Controller) (n : NodeId) (p : ProxyMonitorId)
    (targetNodeName unitName : String) : R s (s.onProxyMonitor n p targetNodeName unitName) := by
  have herror : ∀ message, R s (s.proxyMonitorSendError p message) := fun message =>
    h.notify (notifyFrame_proxyMonitorCall s p rfl)
  have hset : ∀ s t, R s (s.proxyMonitorSetTargetNode p t) := fun s t => by
    unfold proxyMonitorSetTargetNode
    refine h.after (h.proxyMonitor _ p _ rfl) (h.after (h.nodeAddProxyDependency _ t _) ?_)
    exact h.trans (h.takeRef s (.node t) _ rfl) (h.proxyMonitor _ p _ rfl)
  have happend : ∀ s, R s (s.appendProxyMonitor n p) := fun s => by
    unfold appendProxyMonitor
    exact h.trans (h.takeRef s (.proxyMonitor p) _ rfl) (h.proxies _ n _ rfl)
  unfold Controller.onProxyMonitor
  split
  · exact herror _
  · split
    · refine h.after (happend _) (h.after (h.addSubscription _ p) (h.after (hset _ _) ?_))
      split
      · exact h.nodeRemoveProxyMonitor h.nodeUnref_proxyMonitor s n _
      · exact h.refl s
    · exact herror _

lemma nodeOnMatchProxyNew (s : Controller) (n : NodeId)
    (targetNodeName unitName proxyObjectPath : String) :
    R s (s.nodeOnMatchProxyNew n targetNodeName unitName proxyObjectPath) := by
  unfold Controller.nodeOnMatchProxyNew
  apply h.trans (h.proxyMonitorNew s n targetNodeName unitName proxyObjectPath)
  exact h.trans (h.onProxyMonitor _ n _ _ _) (h.proxyMonitorUnref h.nodeUnref_proxyMonitor _ _ _)

lemma nodeOnMatchProxyRemoved (s : Controller) (n : NodeId) (targetNodeName unitName : String) :
    R s (s.nodeOnMatchProxyRemoved n targetNodeName unitName) := by
  unfold Controller.nodeOnMatchProxyRemoved
  split
  · exact h.refl s
  · exact h.nodeRemoveProxyMonitor h.nodeUnref_proxyMonitor s n _

lemma proxyMonitorCallback {s s' : Controller} {p : ProxyMonitorId}
    (hstep : s.proxyMonitorCallback p = some s') : R s s' := by
  unfold Controller.proxyMonitorCallback at hstep
  split at hstep
  · rw [Option.some.injEq] at hstep
    rw [← hstep]
    exact h.trans (h.answered s p) (h.proxyMonitorUnref h.nodeUnref_proxyMonitor _ p _)
  · simp at hstep

end ClosedProxies

/-! ## Jobs -/

/-- Only the jobs differ: their list, their exports and their references. No node gets a job. -/
structure JobsOnly (s s' : Controller) : Prop where
  rest : s' = { s with
    jobs := s'.jobs, exportedJobs := s'.exportedJobs, refs := s'.refs, nextPtr := s'.nextPtr,
    nextJobId := s'.nextJobId, mem := s'.mem }
  refs : ∀ obj, (∀ ptr, obj ≠ .job ptr) → s'.refs obj = s.refs obj
  nextPtr : s.nextPtr ≤ s'.nextPtr
  freed : ∀ obj, (∀ ptr, obj ≠ .job ptr) → timesFreed s' obj = timesFreed s obj
  nodes : ∀ job ∈ s'.jobs, ∃ job' ∈ s.jobs, job'.node = job.node

/-- The parts of the functions on jobs, but for the one that lists a job. -/
structure ClosedJobs (R : Controller → Controller → Prop) : Prop extends Composed R where
  announce : ∀ s o, o.aboutJob = true → R s (s.emit o)
  jobs : ∀ {s s'}, JobsOnly s s' → R s s'

lemma timesFreed_dropRef (s : Controller) {obj obj' : Obj} (hne : obj' ≠ obj) (o : Owner) :
    timesFreed (s.dropRef obj o) obj' = timesFreed s obj' := by
  have hev : MemEvent.unref obj ((s.refs obj).count - 1) ≠ .unref obj' 0 := fun heq => by
    injection heq with hobj _
    exact hne hobj.symm
  show (s.mem ++ [MemEvent.unref obj ((s.refs obj).count - 1)]).count (.unref obj' 0) = _
  rw [List.count_append, List.count_singleton, beq_false_of_ne hev, if_neg Bool.false_ne_true]
  rfl

lemma timesFreed_listRemove (s : Controller) (list : ListName) (member : Bool) (obj : Obj) :
    timesFreed (s.listRemove list member) obj = timesFreed s obj := by
  show (s.mem ++ [MemEvent.listRemove list member]).count (.unref obj 0) = _
  rw [List.count_append, List.count_singleton]
  rfl

namespace ClosedJobs

variable (h : ClosedJobs R)

include h

/-- The list of the jobs is the same. -/
lemma sameJobs {s s' : Controller} (hrest : s' = { s with
      exportedJobs := s'.exportedJobs, refs := s'.refs, nextPtr := s'.nextPtr,
      nextJobId := s'.nextJobId, mem := s'.mem })
    (hrefs : ∀ obj, (∀ ptr, obj ≠ .job ptr) → s'.refs obj = s.refs obj) (hptr : s.nextPtr ≤ s'.nextPtr)
    (hfreed : ∀ obj, (∀ ptr, obj ≠ .job ptr) → timesFreed s' obj = timesFreed s obj) : R s s' :=
  h.jobs ⟨by rw [hrest], hrefs, hptr, hfreed, fun job hjob => by rw [hrest] at hjob; exact ⟨job, hjob, rfl⟩⟩

lemma jobUnref (s : Controller) (ptr : ℕ) (o : Owner) : R s (s.jobUnref ptr o) := by
  have hdrop : R s (s.dropRef (.job ptr) o) := h.sameJobs rfl
    (fun obj hobj => by simp [dropRef, hobj ptr]) (le_refl _)
    fun obj hobj => timesFreed_dropRef s (hobj ptr) o
  unfold Controller.jobUnref
  simp only
  split
  · exact h.trans hdrop (h.sameJobs rfl (fun _ _ => rfl) (le_refl _) fun _ _ => rfl)
  · exact hdrop

lemma unlistJob (s : Controller) (job : Job) : R s (s.unlistJob job) :=
  h.jobs ⟨rfl, fun _ _ => rfl, le_refl _, fun obj _ => timesFreed_listRemove s _ _ obj,
    fun job hjob => ⟨job, List.mem_of_mem_eraseP hjob, rfl⟩⟩

/-- A job is added if it may be listed. -/
lemma addJob (s : Controller) (job : Job) (happend : ∀ t, R t (Controller.appendJob t job)) :
    R s (s.addJob job).2 := by
  have hexport : R s (s.jobExport job) :=
    h.sameJobs rfl (fun _ _ => rfl) (le_refl _) fun _ _ => rfl
  unfold Controller.addJob
  split
  · exact h.refl s
  · exact h.trans (h.trans hexport (h.announce _ _ rfl)) (happend _)

lemma metricsProduceJobReport (sync : SyncCalls) (s : Controller) (job : Job) :
    R s (s.metricsProduceJobReport sync job) := by
  unfold Controller.metricsProduceJobReport
  split
  · exact h.refl s
  · split
    · exact h.refl s
    · exact h.announce s _ rfl

lemma removeJob (sync : SyncCalls) (s : Controller) (job : Job) (result : String) :
    R s (s.removeJob sync job result) := by
  unfold Controller.removeJob
  refine h.after (h.jobUnref _ _ _) ?_
  apply h.trans (h.trans (h.announce s (.jobRemoved job (s.nodeName job.node) result) rfl)
    (h.unlistJob _ job))
  split
  · exact h.metricsProduceJobReport sync _ job
  · exact h.refl _

lemma modifyJob (s : Controller) (ptr : ℕ) (f : Job → Job)
    (hf : ∀ job ∈ s.jobs, ∃ job' ∈ s.jobs, job'.node = (f job).node) : R s (s.modifyJob ptr f) := by
  refine h.jobs ⟨rfl, fun _ _ => rfl, le_refl _, fun _ _ => rfl, fun job hjob => ?_⟩
  have ⟨old, hold, heq⟩ := List.mem_map.mp hjob
  rw [← heq]
  split
  · exact hf old hold
  · exact ⟨old, hold, rfl⟩

lemma finishJob (sync : SyncCalls) (s : Controller) (id : UInt32) (result : String)
    (now : UInt64) : R s (s.finishJob sync id result now) := by
  unfold Controller.finishJob
  split
  · exact h.refl s
  · rename_i job hfind
    refine h.trans (h.modifyJob s _ _ fun _ _ => ⟨job, List.mem_of_find?_eq_some hfind, ?_⟩)
      (h.removeJob sync _ _ result)
    split
    · rfl
    · rfl

lemma jobStateChanged (s : Controller) (id : UInt32) (state : String) :
    R s (s.jobStateChanged id state) := by
  unfold Controller.jobStateChanged
  split
  · exact h.refl s
  · refine h.trans (h.modifyJob s _ _ fun job hjob => ?_) (h.announce _ _ rfl)
    exact ⟨job, hjob, rfl⟩

lemma dropJob (n : NodeId) (s : Controller) (job : Job) : R s (dropJob n s job) := by
  unfold Controller.dropJob
  split
  · exact h.trans (h.unlistJob s job) (h.jobUnref _ _ _)
  · exact h.refl s

lemma jobNew (s : Controller) (n : NodeId) (unit type : String) (startTime : UInt64) :
    R s (s.jobNew n unit type startTime).2 :=
  h.sameJobs rfl (fun obj hobj => by simp [Controller.jobNew, newRef, hobj s.nextPtr])
    (Nat.le_succ _) fun _ _ => rfl

end ClosedJobs

/-! ## Requests -/

/-- The objects whose references the functions on requests count. -/
def ofAnswers : Obj → Bool
  | .node _ => true
  | .request _ => true
  | _ => false

/-- A lifecycle request is for the node of its job. -/
def AtHome (s : Controller) (r : RequestId) : Prop :=
  ∀ serial job, (s.request r).handler = .lifecycle serial job → job.node = (s.request r).node

/-- The request is for the same node and asks for the same, or is one for the node of its job. -/
def KeepsHome (s s' : Controller) (r : RequestId) : Prop :=
  (s'.request r).node = (s.request r).node ∧ (s'.request r).handler = (s.request r).handler ∨ s'.AtHome r

/-- Only the requests differ, those of fleets included, and their references of the nodes. -/
structure RequestsOnly (s s' : Controller) : Prop where
  rest : s' = { s with
    node := s'.node, request := s'.request, fleet := s'.fleet,
    pendingRequests := s'.pendingRequests, startedRequests := s'.startedRequests,
    callbacks := s'.callbacks, freedFleets := s'.freedFleets, refs := s'.refs, nextPtr := s'.nextPtr, mem := s'.mem }
  node : ∀ n, s'.node n = { s.node n with
    outstandingRequests := (s'.node n).outstandingRequests, isShutdown := (s'.node n).isShutdown }
  refs : ∀ obj, ofAnswers obj = false → s'.refs obj = s.refs obj
  owners : ∀ n : NodeId, ∀ o ∈ (s.refs (.node n)).owners, o ∈ (s'.refs (.node n)).owners
  nextPtr : s.nextPtr ≤ s'.nextPtr
  freed : ∀ obj, ofAnswers obj = false → timesFreed s' obj = timesFreed s obj
  home : ∀ r, KeepsHome s s' r

/-- The parts of the functions on requests. -/
structure ClosedRequests (R : Controller → Controller → Prop) : Prop extends
    ClosedProxies R, ClosedJobs R where
  reply : ∀ s o, o.kind = .reply → R s (s.emit o)
  ask : ∀ s n call, call.kind = .request → R s (s.sendAgent n call)
  requests : ∀ {s s'}, RequestsOnly s s' → R s s'

namespace ClosedRequests

variable (h : ClosedRequests R)

include h

lemma freeUserdata (s : Controller) (handler : RequestHandler) : R s (s.freeUserdata handler) := by
  unfold Controller.freeUserdata
  split
  · exact h.toClosedJobs.jobUnref s _ _
  · exact h.refl s

/-- Only what is waited for and the fleet requests differ. -/
lemma sameRequests {s s' : Controller} (hrest : s' = { s with
      fleet := s'.fleet, pendingRequests := s'.pendingRequests, callbacks := s'.callbacks,
      nextPtr := s'.nextPtr }) (hptr : s.nextPtr ≤ s'.nextPtr) : R s s' := by
  apply h.requests
  rw [hrest]
  exact ⟨rfl, fun _ => rfl, fun _ _ => rfl, fun _ _ => id, hptr, fun _ _ => rfl,
    fun _ => Or.inl ⟨rfl, rfl⟩⟩

lemma unlistRequest (s : Controller) (r : RequestId) : R s (s.unlistRequest r) := by
  refine h.requests ⟨rfl, fun n => ?_, fun _ _ => rfl, fun _ _ => id, le_refl _,
    fun obj _ => timesFreed_listRemove s _ _ obj, fun _ => Or.inl ⟨rfl, rfl⟩⟩
  by_cases hn : n = (s.request r).node
  · rw [hn]
    simp [Controller.unlistRequest, modifyNode]
  · simp [Controller.unlistRequest, modifyNode, hn]

lemma agentRequestUnref (s : Controller) (r : RequestId) (o : Owner) :
    R s (s.agentRequestUnref r o) := by
  have hdrop : R s (s.dropRef (.request r) o) := h.requests
    ⟨rfl, fun _ => rfl, fun obj hobj => by
        simp [dropRef, obj_ne (.request r) rfl hobj], fun _ _ => id, le_refl _,
      fun obj hobj => timesFreed_dropRef s (obj_ne (.request r) rfl hobj) o,
      fun _ => Or.inl ⟨rfl, rfl⟩⟩
  unfold Controller.agentRequestUnref
  simp only
  split
  · exact h.trans (h.trans hdrop (h.freeUserdata _ _)) (h.trans (h.unlistRequest _ r)
      (h.nodeUnref _ _ Owner.noConfusion))
  · exact hdrop

lemma nodeCreateRequest (s : Controller) (n : NodeId) {handler : RequestHandler}
    (hjob : ∀ serial job, handler = .lifecycle serial job → job.node = n) :
    R s (s.nodeCreateRequest n handler) := by
  refine h.requests ⟨rfl, fun n' => ?_, fun obj hobj => ?_, fun n' o ho => ?_, Nat.le_succ _,
    fun _ _ => rfl, fun r => ?_⟩
  · by_cases hn : n' = n
    · rw [hn]
      simp [Controller.nodeCreateRequest, modifyNode]
    · simp [Controller.nodeCreateRequest, modifyNode, hn]
  · have hnode := obj_ne (.node n) rfl hobj
    have hrequest := obj_ne (.request s.nextPtr) rfl hobj
    simp [Controller.nodeCreateRequest, newRef, takeRef, hnode, hrequest]
  · by_cases hn : n' = n
    · rw [hn] at ho ⊢
      simp [Controller.nodeCreateRequest, newRef, takeRef, ho]
    · simp [Controller.nodeCreateRequest, newRef, takeRef, hn, ho]
  · unfold KeepsHome AtHome
    rw [nodeCreateRequest_request]
    by_cases hr : r = s.nextPtr
    · rw [hr, Function.update_self]
      exact Or.inr hjob
    · rw [Function.update_of_ne hr]
      exact Or.inl ⟨rfl, rfl⟩

lemma agentRequestStart (s : Controller) (r : RequestId) (call : AgentCall)
    (hcall : call.kind = .request) : R s (s.agentRequestStart r call) := by
  apply h.trans (h.ask s (s.request r).node call hcall)
  refine h.requests ⟨rfl, fun _ => rfl, fun obj hobj => ?_, fun _ _ => id, le_refl _,
    fun _ _ => rfl, fun _ => Or.inl ⟨rfl, rfl⟩⟩
  have hne := obj_ne (.request r) rfl hobj
  simp [takeRef, hne]

/-- A request is made, and then started or given up. -/
lemma runRequest (s : Controller) (n : NodeId) (serial : Serial) {handler : RequestHandler}
    (hjob : ∀ serial job, handler = .lifecycle serial job → job.node = n)
    (call : RequestId → AgentCall) (hcall : ∀ r, (call r).kind = .request) (started : Bool)
    (failure : String) : R s (s.runRequest n serial handler call started failure) := by
  have hcreate := h.nodeCreateRequest s n hjob
  unfold Controller.runRequest
  simp only
  split
  · exact h.trans (h.trans hcreate (h.agentRequestStart _ _ _ (hcall _))) (h.agentRequestUnref _ _ _)
  · exact h.trans (h.trans hcreate (h.reply _ _ rfl)) (h.agentRequestUnref _ _ _)

/-! ### Fleet requests -/

lemma modifyFleet (s : Controller) (q : FleetId) (f : AgentFleetRequest → AgentFleetRequest) :
    R s (s.modifyFleet q f) :=
  h.sameRequests rfl (le_refl _)

lemma agentFleetRequestFree (s : Controller) (q : FleetId) : R s (s.agentFleetRequestFree q) := by
  have hfree : R s (s.freeFleet q) :=
    h.requests ⟨rfl, fun _ => rfl, fun _ _ => rfl, fun _ _ => id, le_refl _, fun _ _ => rfl,
      fun _ => Or.inl ⟨rfl, rfl⟩⟩
  unfold Controller.agentFleetRequestFree
  apply h.trans hfree
  refine h.foldl (fun s sub => ?_) _ _
  exact h.trans (h.nodeUnref s sub.node Owner.noConfusion) (h.agentRequestUnref _ sub.agentReq _)

lemma agentFleetRequestMaybeDone (s : Controller) (q : FleetId) :
    R s (s.agentFleetRequestMaybeDone q) := by
  unfold Controller.agentFleetRequestMaybeDone
  split
  · unfold agentFleetRequestDone
    simp only
    split
    · exact h.trans (h.reply s _ rfl) (h.agentFleetRequestFree _ q)
    · exact h.trans (h.reply s _ rfl) (h.agentFleetRequestFree _ q)
  · exact h.refl s

lemma agentFleetRequestCallback (s : Controller) (q : FleetId) (r : RequestId) (m : AgentAnswer) :
    R s (s.agentFleetRequestCallback q r m) :=
  h.trans (h.modifyFleet s q _) (h.agentFleetRequestMaybeDone _ q)

lemma startSubRequest (q : FleetId) (method : String) (starts : NodeId → Bool) (s : Controller)
    (n : NodeId) : R s (startSubRequest q method starts s n) := by
  have hcreate : R s (s.nodeCreateRequest n (.fleet q)) := h.nodeCreateRequest s n (by simp)
  unfold Controller.startSubRequest
  split
  · simp only
    split
    · have hstart := h.agentRequestStart (s.nodeCreateRequest n (.fleet q)) s.nextPtr
        (.request s.nextPtr method) rfl
      apply h.trans (h.trans hcreate hstart)
      unfold appendSubRequest
      exact h.trans (h.takeRef _ (.node n) _ rfl) (h.modifyFleet _ q _)
    · exact h.trans hcreate (h.agentRequestUnref _ _ _)
  · exact h.refl s

lemma agentFleetRequestStart (s : Controller) (serial : Serial) (method : String)
    (starts : NodeId → Bool) : R s (s.agentFleetRequestStart serial method starts) := by
  unfold Controller.agentFleetRequestStart
  simp only
  refine h.after (h.agentFleetRequestMaybeDone _ _) (h.after (h.foldl (h.startSubRequest _ _ _) _ _) ?_)
  exact h.sameRequests rfl (Nat.le_succ _)

/-! ### Answers -/

/-- A positive answer to a lifecycle method lists the job. -/
lemma requestCallback (s : Controller) (r : RequestId) (m : AgentAnswer)
    (hlist : ∀ serial job rows, (s.request r).handler = .lifecycle serial job → m = .ok rows →
      R s (s.addJob job).2) : R s (s.requestCallback r m) := by
  unfold Controller.requestCallback
  split
  · exact h.reply s _ rfl
  · rename_i serial job rows hhandler
    have hadd := hlist serial job rows hhandler rfl
    split
    · rename_i heq
      simpa [heq] using hadd
    · rename_i heq
      rw [heq] at hadd
      exact h.trans hadd (h.reply _ _ rfl)
  · exact h.reply s _ rfl
  · exact h.reply s _ rfl
  · exact h.refl s
  · exact h.agentFleetRequestCallback s _ r _

lemma runCallback (s : Controller) (r : RequestId) : R s (s.runCallback r) :=
  h.sameRequests rfl (le_refl _)

lemma agentRequestCallback {s s' : Controller} {r : RequestId} {m : AgentAnswer}
    (hlist : ∀ serial job rows, (s.request r).handler = .lifecycle serial job → m = .ok rows →
      ∀ t, R t (Controller.addJob t job).2)
    (hstep : s.agentRequestCallback r m = some s') : R s s' := by
  unfold Controller.agentRequestCallback at hstep
  split at hstep
  · simp only [Option.some.injEq] at hstep
    rw [← hstep]
    have herase : R s { s with pendingRequests := s.pendingRequests.erase r } :=
      h.sameRequests rfl (le_refl _)
    refine h.after (h.agentRequestUnref _ r _) (h.trans herase ?_)
    split
    · exact h.refl _
    · exact h.trans (h.runCallback _ r) (h.requestCallback _ r m fun serial job rows hhandler hm =>
        hlist serial job rows hhandler hm _)
  · simp at hstep

lemma agentRequestCancel (s : Controller) (r : RequestId) : R s (s.agentRequestCancel r) := by
  have hcancel : R s (s.modifyRequest r fun req => { req with isCancelled := true }) := by
    refine h.requests ⟨rfl, fun _ => rfl, fun _ _ => rfl, fun _ _ => id, le_refl _, fun _ _ => rfl,
      fun r' => Or.inl ?_⟩
    by_cases hr : r' = r
    · rw [hr]
      simp
    · simp [hr]
  apply h.trans (h.trans hcancel (h.runCallback _ r))
  -- the answer to a cancelled request is an error
  refine h.trans (h.requestCallback _ r _ fun _ _ _ _ hm => ?_) (h.agentRequestUnref _ r _)
  simp at hm

lemma nodeShutdown (s : Controller) (n : NodeId) : R s (s.nodeShutdown n) := by
  have hmark : R s (s.modifyNode n fun node => { node with isShutdown := true }) := by
    refine h.requests ⟨rfl, fun n' => ?_, fun _ _ => rfl, fun _ _ => id, le_refl _, fun _ _ => rfl,
      fun _ => Or.inl ⟨rfl, rfl⟩⟩
    by_cases hn : n' = n
    · rw [hn]
      simp [modifyNode]
    · simp [modifyNode, hn]
  exact h.trans hmark (h.foldl h.agentRequestCancel _ _)

/-! ### Methods of nodes and jobs -/

lemma nodeMethodForward (s : Controller) (n : NodeId) (serial : Serial) (method failure : String)
    (started : Bool) : R s (s.nodeMethodForward n serial method failure started) := by
  unfold Controller.nodeMethodForward
  split
  · exact h.reply s _ rfl
  · exact h.runRequest s n serial (by simp) _ (fun _ => rfl) started failure

lemma nodeRunUnitLifecycleMethod (s : Controller) (n : NodeId) (serial : Serial)
    (method : LifecycleMethod) (unit mode : String) (startTime : UInt64) (started : Bool) :
    R s (s.nodeRunUnitLifecycleMethod n serial method unit mode startTime started) := by
  unfold Controller.nodeRunUnitLifecycleMethod
  split
  · exact h.reply s _ rfl
  · have hjob := h.toClosedJobs.jobNew s n unit (lifecycleJobType method) startTime
    refine h.trans hjob (h.runRequest _ n serial (fun serial' job heq => ?_) _ (fun _ => rfl) started _)
    rw [RequestHandler.lifecycle.injEq] at heq
    rw [← heq.2]

lemma jobMethodCancel (s : Controller) (job : Job) (serial : Serial) (started : Bool) :
    R s (s.jobMethodCancel job serial started) := by
  have hrun : R s (s.runRequest job.node serial (.jobCancel serial) (fun r => .jobCancel r job.id) started
      "Failed to call the method to cancel job") :=
    h.runRequest s job.node serial (by simp) _ (fun _ => rfl) started _
  unfold Controller.jobMethodCancel
  split
  · simp only
    split
    · exact h.trans hrun (h.reply _ _ rfl)
    · exact hrun
  · exact h.reply s _ rfl

end ClosedRequests

/-! ## Nodes -/

/-- Only the lists of nodes and the two counters differ. -/
structure RegistryOnly (s s' : Controller) : Prop where
  rest : s' = { s with
    nodes := s'.nodes, anonymousNodes := s'.anonymousNodes, numberOfNodes := s'.numberOfNodes,
    numberOfNodesOnline := s'.numberOfNodesOnline, mem := s'.mem }
  freed : ∀ obj, timesFreed s' obj = timesFreed s obj

/-- The parts of `controller_remove_node`. -/
structure ClosedNodes (R : Controller → Controller → Prop) : Prop extends ClosedRequests R where
  registry : ∀ {s s'}, RegistryOnly s s' → R s s'
  release : ∀ s n, R s (s.dropRef (.node n) .creator)

namespace ClosedNodes

variable (h : ClosedNodes R)

include h

lemma removeNode (s : Controller) (n : NodeId) : R s (s.removeNode n) := by
  have hunlist : R s (s.unlistNode n) := by
    unfold unlistNode
    split
    · exact h.registry ⟨rfl, timesFreed_listRemove s _ _⟩
    · exact h.registry ⟨rfl, timesFreed_listRemove s _ _⟩
  unfold Controller.removeNode
  refine h.after (h.nodeUnrefFuel _ _ n (h.release _ n)) (h.trans hunlist ?_)
  split
  · exact h.trans (h.nodeShutdown _ n) (h.registry ⟨rfl, fun _ => rfl⟩)
  · exact h.refl _

end ClosedNodes

/-- A node without a name leaves the list of anonymous nodes and loses its last reference. -/
lemma ClosedProxies.removeAnonymous (h : ClosedProxies R) (s : Controller) (n : NodeId)
    (hname : (s.node n).name = none)
    (hunlist : ∀ s member nodes, R s { Controller.listRemove s .anonymousNodes member with
      anonymousNodes := nodes })
    (hrelease : ∀ s, R s (Controller.dropRef s (.node n) .creator)) : R s (s.removeNode n) := by
  have hlist : s.unlistNode n = { s.listRemove .anonymousNodes (n ∈ s.anonymousNodes) with
      anonymousNodes := s.anonymousNodes.erase n } := by
    unfold unlistNode
    rw [hname]
    rfl
  -- it is never online, so its requests are left alone
  have hoffline : nodeIsOnline ((s.unlistNode n).node n) = false := by
    rw [hlist]
    show ((s.node n).name.isSome && nodeHasAgent (s.node n)) = false
    rw [hname]
    rfl
  unfold Controller.removeNode
  dsimp only
  rw [hoffline]
  apply h.after (h.nodeUnrefFuel _ _ n (hrelease _))
  show R s (s.unlistNode n)
  rw [hlist]
  exact hunlist s _ _

/-! ## Connections -/

/-- The parts of the handlers of the agents' signals. -/
structure ClosedSignals (R : Controller → Controller → Prop) : Prop extends
    ClosedProxies R, ClosedJobs R where
  seen : ∀ s n now nowMonotonic, R s (s.modifyNode n fun node =>
    { node with lastSeen := now, lastSeenMonotonic := nowMonotonic })

namespace ClosedSignals

variable (h : ClosedSignals R)

include h

lemma onSignal (s : Controller) (n : NodeId) (sig : NodeSignal) : R s (s.onSignal n sig) := by
  match sig with
  | .jobDone id result now sync => exact h.toClosedJobs.finishJob sync s id result now
  | .jobStateChanged id state => exact h.toClosedJobs.jobStateChanged s id state
  | .unitPropertiesChanged unit interface properties =>
    exact h.applyNode s n (tableStep_nodeMatchUnitPropertiesChanged unit interface properties _)
  | .unitNew unit reason => exact h.applyNode s n (tableStep_nodeMatchUnitNew unit reason _)
  | .unitStateChanged unit activeState substate reason =>
    exact h.applyNode s n (tableStep_nodeMatchUnitStateChanged unit activeState substate reason _)
  | .unitRemoved unit => exact h.applyNode s n (tableStep_nodeMatchUnitRemoved unit _)
  | .proxyNew target unit path => exact h.nodeOnMatchProxyNew s n target unit path
  | .proxyRemoved target unit => exact h.nodeOnMatchProxyRemoved s n target unit
  | .heartbeat now nowMonotonic => exact h.seen s n now nowMonotonic

/-- `node_disconnect` ends with the counter of the online nodes, but for an anonymous node. -/
lemma disconnectThenCount (hremove : ∀ s n, (s.node n).name = none → R s (s.removeNode n))
    (s : Controller) (n : NodeId) :
    ∃ s', R s s' ∧ (s.nodeDisconnect n = s' ∨ s.nodeDisconnect n = s'.countOnline (-1)) := by
  have hproxies := h.foldl (fun s p => h.nodeRemoveProxyMonitor h.nodeUnref_proxyMonitor s n p)
    ((s.applyNode n nodeDisconnectUnits).node n).proxyMonitors (s.applyNode n nodeDisconnectUnits)
  have hfirst := h.after hproxies (h.applyNode s n (tableStep_nodeDisconnectUnits (s.node n)))
  unfold Controller.nodeDisconnect
  dsimp only
  split
  · rename_i hname
    exact ⟨_, h.trans hfirst (hremove _ n hname), Or.inl rfl⟩
  · refine ⟨_, h.after (h.detach _ n) (h.trans hfirst ?_), Or.inr rfl⟩
    exact h.foldl (h.toClosedJobs.dropJob n) _ _

end ClosedSignals

/-- The parts of the functions that end connections. -/
structure ClosedLosses (R : Controller → Controller → Prop) : Prop extends ClosedSignals R where
  remove : ∀ s n, (s.node n).name = none → R s (s.removeNode n)
  count : ∀ s d, R s (s.countOnline d)
  beat : ∀ s n, R s (s.sendAgent n .heartbeat)

namespace ClosedLosses

variable (h : ClosedLosses R)

include h

lemma nodeDisconnect (s : Controller) (n : NodeId) : R s (s.nodeDisconnect n) := by
  have ⟨s', hs', hdisconnect⟩ := h.disconnectThenCount h.remove s n
  apply hdisconnect.elim
  · intro heq
    rw [heq]
    exact hs'
  · intro heq
    rw [heq]
    exact h.trans hs' (h.count s' (-1))

lemma heartbeatTimerCallback (s : Controller) (now : UInt64) :
    R s (s.heartbeatTimerCallback now) := by
  refine h.foldl (fun s n => ?_) _ s
  unfold checkNode
  split
  · split
    · exact h.nodeDisconnect s n
    · exact h.beat s n
  · exact h.refl s

end ClosedLosses

/-- Only the fields of the connection of a node may differ. -/
def SameButLink (node node' : Node) : Prop :=
  node' = { node with
    agentBus := node'.agentBus, internalControllerSlot := node'.internalControllerSlot,
    disconnectSlot := node'.disconnectSlot, metricsMatchingSlot := node'.metricsMatchingSlot,
    peerIp := node'.peerIp, peerSelinuxContext := node'.peerSelinuxContext }

/-- The parts of `node_set_agent_bus`. -/
structure ClosedLinks (R : Controller → Controller → Prop) : Prop extends ClosedTables R where
  depend : ∀ s n call, call.kind = .dependency → R s (s.sendAgent n call)
  detach : ∀ s n, R s (s.nodeUnsetAgentBus n)
  link : ∀ s n f, SameButLink (s.node n) (f (s.node n)) → R s (s.modifyNode n f)
  status : ∀ s n status, R s (s.emit (.nodeStatus n status))
  addMatch : ∀ s n bus member, R s (s.addMatch n bus member)

namespace ClosedLinks

variable (h : ClosedLinks R)

include h

lemma addMatches (n : NodeId) (bus : BusId) (fails : BusCall → Bool) (members : List AgentMember)
    (s : Controller) : R s (addMatches n bus fails members s).2 := by
  induction members generalizing s with
  | nil => exact h.refl s
  | cons member members ih =>
    unfold Controller.addMatches
    split
    · exact h.refl s
    · exact h.trans (h.addMatch s n bus member) (ih _)

lemma nodeAddRegistrations (s : Controller) (n : NodeId) (bus : BusId) (fails : BusCall → Bool) :
    R s (s.nodeAddRegistrations n bus fails).2 := by
  unfold Controller.nodeAddRegistrations
  split
  · split
    · exact h.detach s n
    · dsimp only
      exact h.link s n _ rfl
  · have hfirst := h.addMatches n bus fails firstMembers s
    split
    · rename_i heq
      simpa [heq] using hfirst
    · rename_i s' heq
      rw [heq] at hfirst
      exact h.trans hfirst (h.trans (h.status s' n _) (h.addMatches n bus fails _ _))

lemma nodeSetAgentBus (s : Controller) (n : NodeId) (bus : BusId) (peer : PeerInfo)
    (fails : BusCall → Bool) : R s (s.nodeSetAgentBus n bus peer fails).2 := by
  have hstore : R s (s.modifyNode n (storeAgentBus bus peer)) := by
    apply h.link
    rfl
  have hadd := h.nodeAddRegistrations (s.modifyNode n (storeAgentBus bus peer)) n bus fails
  have hdeps : ∀ t, R t (t.applyNode n nodeStartProxyDependencyAll) := fun t => by
    unfold Controller.applyNode
    have hsame : R t (t.modifyNode n fun _ => (nodeStartProxyDependencyAll (t.node n)).1) := by
      apply h.link
      rfl
    apply h.trans hsame
    -- every dependency of the node is one call to its agent
    have hall : ∀ (effs : List NodeEffect), (∀ eff ∈ effs, ∃ unit, eff = .send (.startDep unit)) →
        ∀ t, R t (effs.foldl (Controller.runEffect n) t) := by
      intro effs
      induction effs with
      | nil => exact fun _ t => h.refl t
      | cons eff effs ih =>
        intro heffs t
        have ⟨unit, heff⟩ := heffs eff (by simp)
        rw [List.foldl_cons, heff]
        exact h.trans (h.depend t n (.startDep unit) rfl) (ih (fun e he => heffs e (by simp [he])) _)
    refine hall _ (fun eff heff => ?_) _
    have ⟨dep, _, hdep⟩ := List.mem_flatMap.mp heff
    unfold sendAgentSimpleMessage at hdep
    split at hdep
    · exact ⟨dep.unitName, by simpa using hdep⟩
    · simp at hdep
  unfold Controller.nodeSetAgentBus
  split
  · exact h.refl s
  · split
    · rename_i heq
      rw [heq] at hadd
      exact h.trans hstore hadd
    · rename_i s' heq
      rw [heq] at hadd
      apply h.trans (h.trans hstore hadd)
      dsimp only
      split
      · exact h.detach s' n
      · refine h.after (hdeps _) (h.after (h.applyNode _ n
          (tableStep_nodeSendAgentSubscribeAll (fun _ => False) _)) ?_)
        exact h.link s' n _ rfl

end ClosedLinks

/-- A connection that is attached to a node does not name it. -/
def KeepsNames (s s' : Controller) : Prop := ∀ n, (s'.node n).name = (s.node n).name

lemma KeepsNames.of_modifyNode {s : Controller} {n : NodeId} {f : Node → Node}
    (hf : (f (s.node n)).name = (s.node n).name) : KeepsNames s (s.modifyNode n f) := fun n' => by
  by_cases hn : n' = n
  · rw [hn]
    simpa [modifyNode] using hf
  · simp [modifyNode, hn]

lemma KeepsNames.sendAgent (s : Controller) (n : NodeId) (call : AgentCall) :
    KeepsNames s (s.sendAgent n call) := fun _ => by
  unfold Controller.sendAgent
  split
  · rfl
  · rfl

lemma KeepsNames.links : ClosedLinks KeepsNames where
  refl := fun _ _ => rfl
  trans := fun h h' n => (h' n).trans (h n)
  notify := fun h n => by rw [h.rest]
  tell := fun s n call _ => sendAgent s n call
  table := fun s n f hf => of_modifyNode (by rw [hf])
  depend := fun s n call _ => sendAgent s n call
  detach := fun s n => by
    have hclear := of_modifyNode (s := s) (n := n) (f := fun node =>
      { node with
        disconnectSlot := none, internalControllerSlot := none, metricsMatchingSlot := none,
        agentBus := none, peerSelinuxContext := none, peerIp := none }) rfl
    unfold Controller.nodeUnsetAgentBus
    dsimp only
    split
    · exact hclear
    · exact hclear
  link := fun s n f hf => of_modifyNode (by rw [hf])
  status := fun _ _ _ _ => rfl
  addMatch := fun _ _ _ _ _ => rfl

/-- The parts of `controller_accept_node_connection`. -/
structure ClosedAccepts (R : Controller → Controller → Prop) : Prop extends ClosedLinks R where
  addNode : ∀ s, R s (s.addNode none)
  busAlloc : ∀ s, R s s.busAlloc
  remove : ∀ s n, (s.node n).name = none → R s (s.removeNode n)

lemma ClosedAccepts.acceptNodeConnection (h : ClosedAccepts R) (s : Controller) (peer : PeerInfo) (fails : BusCall → Bool) :
    R s (s.acceptNodeConnection peer fails) := by
  have hset := h.toClosedLinks.nodeSetAgentBus (s.addNode none).busAlloc s.nextPtr (s.nextPtr + 1)
    peer fails
  have hnames := KeepsNames.links.nodeSetAgentBus (s.addNode none).busAlloc s.nextPtr
    (s.nextPtr + 1) peer fails s.nextPtr
  unfold Controller.acceptNodeConnection
  apply h.trans (h.trans (h.addNode s) (h.busAlloc _))
  dsimp only
  split
  · rename_i heq
    simpa [heq] using hset
  · rename_i s' heq
    rw [heq] at hset hnames
    -- the node that is given up is the new one, which has no name
    have hname : (s'.node s.nextPtr).name = none := by
      rw [hnames]
      simp [Controller.addNode, Controller.busAlloc, nodeAlloc, nodeNew]
    exact h.trans hset (h.remove s' _ hname)

/-- The parts of the metrics methods. Only calls of `ok` are answered. -/
structure ClosedMetrics (ok : Serial → Prop) (R : Controller → Controller → Prop) : Prop extends
    ClosedLinks R where
  reply : ∀ s serial o, o.answers = some serial → ok serial → R s (s.emit o)
  flag : ∀ s n call, call.kind = .metrics → R s (s.sendAgent n call)
  metrics : ∀ s b, R s { s with metricsEnabled := b }

namespace ClosedMetrics

variable {ok : Serial → Prop} (h : ClosedMetrics ok R)

include h

lemma nodeEnableMetrics (fails : BusCall → Bool) (s : Controller) (n : NodeId) :
    R s (nodeEnableMetrics fails s n) := by
  unfold Controller.nodeEnableMetrics
  split
  · simp only
    split
    · exact h.flag s n _ rfl
    · exact h.trans (h.flag s n .enableMetrics rfl) (h.link _ n _ rfl)
  · exact h.refl s

lemma nodeDisableMetrics (s : Controller) (n : NodeId) : R s (nodeDisableMetrics s n) := by
  unfold Controller.nodeDisableMetrics
  split
  · exact h.trans (h.flag s n .disableMetrics rfl) (h.link _ n _ rfl)
  · exact h.refl s

lemma methodMetricsEnable (s : Controller) {serial : Serial} (hok : ok serial) (exported : Bool)
    (fails : BusCall → Bool) : R s (s.methodMetricsEnable serial exported fails) := by
  unfold Controller.methodMetricsEnable
  split
  · exact h.reply s serial _ rfl hok
  · split
    · exact h.reply s serial _ rfl hok
    · refine h.after (h.reply _ serial _ rfl hok)
        (h.after (h.foldl (h.nodeEnableMetrics fails) _ _) ?_)
      exact h.metrics s true

lemma methodMetricsDisable (s : Controller) {serial : Serial} (hok : ok serial) :
    R s (s.methodMetricsDisable serial) := by
  unfold Controller.methodMetricsDisable
  split
  · exact h.reply s serial _ rfl hok
  · refine h.after (h.reply _ serial _ rfl hok) (h.after (h.foldl h.nodeDisableMetrics _ _) ?_)
    exact h.metrics s false

/-- `node_method_register` counts a node that is registered, and replies. -/
lemma registerThenCount (hseen : ∀ s n now nowMonotonic, R s (Controller.modifyNode s n fun node =>
      { node with lastSeen := now, lastSeenMonotonic := nowMonotonic }))
    (s : Controller) (a : NodeId) {serial : Serial} (hok : ok serial) (name : String)
    (now nowMonotonic : UInt64) (peer : PeerInfo) (fails : BusCall → Bool) :
    ∃ s', R s s' ∧ (s.nodeMethodRegister a serial name now nowMonotonic peer fails = s' ∨
      s.nodeMethodRegister a serial name now nowMonotonic peer fails =
        (s'.countOnline 1).emit (.reply serial .empty)) := by
  unfold Controller.nodeMethodRegister
  split
  · exact ⟨_, h.reply s serial _ rfl hok, Or.inl rfl⟩
  · exact ⟨s, h.refl s, Or.inl rfl⟩
  · rename_i n bus _ _
    have hset := h.after (h.toClosedLinks.nodeSetAgentBus (s.modifyNode n fun node =>
      { node with lastSeen := now, lastSeenMonotonic := nowMonotonic }) n bus peer fails)
      (hseen s n now nowMonotonic)
    dsimp only
    split
    · rename_i s' heq
      rw [heq] at hset
      exact ⟨_, h.trans hset (h.reply s' serial _ rfl hok), Or.inl rfl⟩
    · rename_i s' heq
      rw [heq] at hset
      refine ⟨_, h.after (h.detach _ a) ?_, Or.inr rfl⟩
      split
      · exact h.trans hset (h.nodeEnableMetrics fails s' n)
      · exact hset

end ClosedMetrics

/-- The parts of the functions that make connections. -/
structure ClosedConnections (ok : Serial → Prop) (R : Controller → Controller → Prop) : Prop extends
    ClosedLosses R, ClosedMetrics ok R, ClosedAccepts R

namespace ClosedConnections

variable {ok : Serial → Prop} (h : ClosedConnections ok R)

include h

lemma nodeMethodRegister (s : Controller) (a : NodeId) {serial : Serial} (hok : ok serial)
    (name : String) (now nowMonotonic : UInt64) (peer : PeerInfo) (fails : BusCall → Bool) :
    R s (s.nodeMethodRegister a serial name now nowMonotonic peer fails) := by
  have ⟨s', hs', hregister⟩ := h.registerThenCount h.seen s a hok name now nowMonotonic peer fails
  apply hregister.elim
  · intro heq
    rw [heq]
    exact hs'
  · intro heq
    rw [heq]
    exact h.trans hs' (h.trans (h.count s' 1) (h.reply _ serial _ rfl hok))

end ClosedConnections

/-! ## Clients -/

/-- The objects that are made for clients, the subscriptions of proxies included. -/
def ofClients : Obj → Bool
  | .monitor _ => true
  | .subscription _ => true
  | _ => false

/-- Only the monitors, the subscriptions and the references of both differ. -/
structure ClientsOnly (s s' : Controller) : Prop where
  rest : s' = { s with
    monitors := s'.monitors, monitor := s'.monitor, allSubscriptions := s'.allSubscriptions,
    refs := s'.refs, nextPtr := s'.nextPtr, nextMonitorId := s'.nextMonitorId,
    nextSubscriptionId := s'.nextSubscriptionId, nextPeerId := s'.nextPeerId, mem := s'.mem }
  refs : ∀ obj, ofClients obj = false → s'.refs obj = s.refs obj
  nextPtr : s.nextPtr ≤ s'.nextPtr
  freed : ∀ obj, ofClients obj = false → timesFreed s' obj = timesFreed s obj

/-- The parts of the functions on monitors. Only calls of `ok` are answered. -/
structure ClosedMonitors (ok : Serial → Prop) (R : Controller → Controller → Prop) : Prop extends
    ClosedTables R where
  reply : ∀ s serial o, o.answers = some serial → ok serial → R s (s.emit o)
  clients : ∀ {s s'}, ClientsOnly s s' → R s s'
  farewell : ∀ s m dest sig, R s (s.emit (.monitorSignal m dest sig))

namespace ClosedMonitors

variable {ok : Serial → Prop} (h : ClosedMonitors ok R)

include h

/-! ### References -/

lemma takeRef (s : Controller) (obj : Obj) (hobj : ofClients obj = true) (o : Owner) :
    R s (s.takeRef obj o) :=
  h.clients ⟨rfl, fun obj' hobj' => by simp [Controller.takeRef, obj_ne obj hobj hobj'],
    le_refl _, fun _ _ => rfl⟩

lemma dropRef (s : Controller) (obj : Obj) (hobj : ofClients obj = true) (o : Owner) :
    R s (s.dropRef obj o) :=
  h.clients ⟨rfl, fun obj' hobj' => by simp [Controller.dropRef, obj_ne obj hobj hobj'],
    le_refl _, fun obj' hobj' => timesFreed_dropRef s (obj_ne obj hobj hobj') o⟩

lemma modifyMonitor (s : Controller) (m : MonitorId) (f : Monitor → Monitor) :
    R s (s.modifyMonitor m f) :=
  h.clients ⟨rfl, fun _ _ => rfl, le_refl _, fun _ _ => rfl⟩

lemma listRemove (s : Controller) (list : ListName) (member : Bool) :
    R s (s.listRemove list member) :=
  h.clients ⟨rfl, fun _ _ => rfl, le_refl _, fun obj _ => timesFreed_listRemove s list member obj⟩

lemma monitorUnref (s : Controller) (m : MonitorId) (o : Owner) : R s (s.monitorUnref m o) := by
  unfold Controller.monitorUnref
  dsimp only
  split
  · exact h.trans (h.dropRef s _ rfl o) (h.modifyMonitor _ m _)
  · exact h.dropRef s _ rfl o

lemma subscriptionUnref (s : Controller) (sub : Subscription) (o : Owner) :
    R s (s.subscriptionUnref sub o) := by
  unfold Controller.subscriptionUnref
  dsimp only
  split
  · apply h.trans (h.dropRef s (.subscription sub.ptr) rfl o)
    split
    · exact h.monitorUnref _ _ _
    · exact h.refl _
  · exact h.dropRef s _ rfl o

/-! ### Subscriptions -/

lemma appendSubscription (s : Controller) (sub : Subscription) :
    R s (s.appendSubscription sub) :=
  h.trans (h.takeRef s _ rfl .allSubscriptions)
    (h.clients ⟨rfl, fun _ _ => rfl, le_refl _, fun _ _ => rfl⟩)

lemma unlistSubscription (s : Controller) (sub : Subscription) :
    R s (s.unlistSubscription sub) :=
  h.trans (h.listRemove s _ _) (h.clients ⟨rfl, fun _ _ => rfl, le_refl _, fun _ _ => rfl⟩)

lemma addSubscription (s : Controller) (sub : Subscription) : R s (s.addSubscription sub) :=
  h.trans (h.appendSubscription s sub) (h.fileSubscription sub _ _)

lemma removeSubscription (s : Controller) (sub : Subscription) :
    R s (s.removeSubscription sub) := by
  unfold Controller.removeSubscription
  apply h.trans (h.unfileSubscription sub (s.subscribedNodes sub) s)
  exact h.after (h.subscriptionUnref _ sub _) (h.unlistSubscription _ sub)

lemma removeMonitorSubscription (s : Controller) (m : MonitorId) (sub : Subscription) :
    R s (s.removeMonitorSubscription m sub) := by
  unfold Controller.removeMonitorSubscription
  apply h.trans (h.removeSubscription s sub)
  apply h.after (h.subscriptionUnref _ sub _)
  exact h.trans (h.listRemove _ _ _) (h.modifyMonitor _ m _)

/-! ### Monitors -/

lemma monitorClose (s : Controller) (m : MonitorId) : R s (s.monitorClose m) := by
  unfold Controller.monitorClose
  apply h.trans (h.foldl (fun s sub => h.removeMonitorSubscription s m sub) _ s)
  unfold closePeers
  apply h.after (h.modifyMonitor _ m _)
  exact h.foldl (fun s (peer : MonitorPeer) => h.farewell s m peer.name _) _ _

lemma removeMonitor (s : Controller) (m : MonitorId) : R s (s.removeMonitor m) := by
  refine h.after (h.monitorUnref _ m _) ?_
  exact h.trans (h.listRemove _ _ _) (h.clients ⟨rfl, fun _ _ => rfl, le_refl _, fun _ _ => rfl⟩)

lemma createMonitor (s : Controller) {serial : Serial} (hok : ok serial) (owner : String)
    (exported : Bool) : R s (s.createMonitor serial owner exported) := by
  have hnew : R s (s.monitorNew owner) := h.clients
    ⟨rfl, fun obj hobj => by
      simp [monitorNew, newRef, obj_ne (.monitor s.nextPtr) rfl hobj], Nat.le_succ _,
      fun _ _ => rfl⟩
  have happend : ∀ t m, R t (t.appendMonitor m) := fun t m =>
    h.trans (h.takeRef t _ rfl .list) (h.clients ⟨rfl, fun _ _ => rfl, le_refl _, fun _ _ => rfl⟩)
  unfold Controller.createMonitor
  apply h.trans hnew
  apply h.after (h.monitorUnref _ _ _)
  dsimp only
  split
  · apply h.after (happend _ _)
    exact h.trans (h.modifyMonitor _ _ _) (h.reply _ serial _ rfl hok)
  · exact h.reply _ serial _ rfl hok

lemma monitorMethodSubscribe (s : Controller) (m : MonitorId) {serial : Serial} (hok : ok serial)
    (node : String) (units : List String) :
    R s (s.monitorMethodSubscribe m serial node units) := by
  have hcreate : R s (s.createMonitorSubscription m node units).2 := h.clients
    ⟨rfl, fun obj hobj => by
      simp [createMonitorSubscription, newRef, Controller.takeRef,
        obj_ne (.subscription s.nextPtr) rfl hobj, obj_ne (.monitor m) rfl hobj],
      Nat.le_succ _, fun _ _ => rfl⟩
  unfold Controller.monitorMethodSubscribe
  apply h.trans hcreate
  apply h.after (h.subscriptionUnref _ _ _)
  apply h.after (h.reply _ serial _ rfl hok)
  apply h.after (h.addSubscription _ _)
  exact h.trans (h.takeRef _ _ rfl _) (h.modifyMonitor _ m _)

lemma monitorMethodUnsubscribe (s : Controller) (m : MonitorId) {serial : Serial}
    (hok : ok serial) (subId : UInt32) : R s (s.monitorMethodUnsubscribe m serial subId) := by
  unfold Controller.monitorMethodUnsubscribe
  split
  · exact h.reply s serial _ rfl hok
  · exact h.trans (h.removeMonitorSubscription s m _) (h.reply _ serial _ rfl hok)

lemma monitorMethodAddPeer (s : Controller) (m : MonitorId) {serial : Serial} (hok : ok serial)
    (name : String) : R s (s.monitorMethodAddPeer m serial name) := by
  unfold Controller.monitorMethodAddPeer
  split
  · exact h.reply s serial _ rfl hok
  · split
    · exact h.reply s serial _ rfl hok
    · apply h.after (h.reply _ serial _ rfl hok)
      exact h.clients ⟨rfl, fun _ _ => rfl, le_refl _, fun _ _ => rfl⟩

lemma monitorMethodRemovePeer (s : Controller) (m : MonitorId) {serial : Serial}
    (hok : ok serial) (peerId : UInt32) (reason : String) :
    R s (s.monitorMethodRemovePeer m serial peerId reason) := by
  unfold Controller.monitorMethodRemovePeer
  split
  · exact h.reply s serial _ rfl hok
  · apply h.after (h.reply _ serial _ rfl hok)
    exact h.trans (h.farewell s m _ _) (h.modifyMonitor _ m _)

lemma monitorMethodClose (s : Controller) (m : MonitorId) {serial : Serial} (hok : ok serial) :
    R s (s.monitorMethodClose m serial) := by
  unfold Controller.monitorMethodClose
  apply h.trans (h.takeRef s (.monitor m) rfl .handler)
  apply h.after (h.monitorUnref _ m _)
  split
  · exact h.reply _ serial _ rfl hok
  · apply h.after (h.reply _ serial _ rfl hok)
    exact h.trans (h.monitorClose _ m) (h.removeMonitor _ m)

lemma nameOwnerChanged (s : Controller) (name newOwner : String) :
    R s (s.nameOwnerChanged name newOwner) := by
  have hclose : ∀ t m, R t (closeOwned name t m) := fun t m => by
    unfold closeOwned
    split
    · exact h.trans (h.monitorClose t m) (h.removeMonitor _ m)
    · exact h.refl t
  unfold Controller.nameOwnerChanged
  split
  · exact h.foldl hclose _ s
  · exact h.refl s

/-- The first half of `controller_stop`. -/
lemma stopClients (hjobs : ClosedJobs R) (sync : SyncCalls) (s : Controller) :
    R s (s.stopClients sync) := by
  unfold Controller.stopClients
  refine h.trans (h.trans (h.foldl (fun s job => ?_) _ _) (h.foldl (fun s sub => ?_) _ _))
    (h.foldl (fun s m => ?_) _ _)
  · exact hjobs.removeJob sync s job _
  · exact h.removeSubscription s sub
  · exact h.removeMonitor s m

end ClosedMonitors

/-! ## Everything but the requests -/

end Controller

/-- The call that an event is about. -/
def Event.serial : Event → Option Serial
  | .register _ serial .. => some serial
  | .lifecycle _ serial .. => some serial
  | .forward _ serial .. => some serial
  | .jobCancel _ serial _ => some serial
  | .fleet serial .. => some serial
  | .createMonitor serial .. => some serial
  | .subscribe _ serial .. => some serial
  | .unsubscribe _ serial _ => some serial
  | .addPeer _ serial _ => some serial
  | .removePeer _ serial .. => some serial
  | .closeMonitor _ serial => some serial
  | .enableMetrics serial .. => some serial
  | .disableMetrics serial => some serial
  | _ => none

/-- The events that make requests to agents, or that end them. -/
def Event.ofRequests : Event → Bool
  | .lifecycle .. => true
  | .forward .. => true
  | .jobCancel .. => true
  | .fleet .. => true
  | .agentReply .. => true
  | .stop _ => true
  | _ => false

/-- The events that make connections, or that end them. -/
def Event.ofConnections : Event → Bool
  | .accept .. => true
  | .register .. => true
  | .disconnected _ => true
  | .heartbeatTimer _ => true
  | _ => false

namespace Controller

/-- The parts of the handlers of signals and calls. -/
structure ClosedCalls (ok : Serial → Prop) (R : Controller → Controller → Prop) : Prop extends
    ClosedSignals R, ClosedMetrics ok R, ClosedMonitors ok R

/-- A signal or a call that has nothing to do with requests stays within the relation if the call may
be answered. -/
theorem ClosedCalls.step {ok : Serial → Prop} (h : ClosedCalls ok R) {s s' : Controller} {e : Event}
    (hstep : s.step e = some s') (he : e.ofRequests = false) (hconn : e.ofConnections = false)
    (hok : ∀ serial, e.serial = some serial → ok serial) : R s s' := by
  have hhandle := (step_eq_some_iff.mp hstep).2
  match e with
  | .agentSignal bus n sig =>
    rw [← (whenever_eq_some_iff.mp hhandle).2]
    exact h.onSignal s n sig
  | .proxyReply p => exact h.proxyMonitorCallback hhandle
  | .createMonitor serial owner exported =>
    rw [← Option.some.inj hhandle]
    exact h.toClosedMonitors.createMonitor s (hok serial rfl) owner exported
  | .subscribe m serial node units =>
    rw [← (whenever_eq_some_iff.mp hhandle).2]
    exact h.toClosedMonitors.monitorMethodSubscribe s m (hok serial rfl) node units
  | .unsubscribe m serial subId =>
    rw [← (whenever_eq_some_iff.mp hhandle).2]
    exact h.toClosedMonitors.monitorMethodUnsubscribe s m (hok serial rfl) subId
  | .addPeer m serial name =>
    rw [← (whenever_eq_some_iff.mp hhandle).2]
    exact h.toClosedMonitors.monitorMethodAddPeer s m (hok serial rfl) name
  | .removePeer m serial peerId reason =>
    rw [← (whenever_eq_some_iff.mp hhandle).2]
    exact h.toClosedMonitors.monitorMethodRemovePeer s m (hok serial rfl) peerId reason
  | .closeMonitor m serial =>
    rw [← (whenever_eq_some_iff.mp hhandle).2]
    exact h.toClosedMonitors.monitorMethodClose s m (hok serial rfl)
  | .nameOwnerChanged name newOwner =>
    rw [← Option.some.inj hhandle]
    exact h.toClosedMonitors.nameOwnerChanged s name newOwner
  | .enableMetrics serial exported fails =>
    rw [← Option.some.inj hhandle]
    exact h.methodMetricsEnable s (hok serial rfl) exported fails
  | .disableMetrics serial =>
    rw [← Option.some.inj hhandle]
    exact h.methodMetricsDisable s (hok serial rfl)

/-- The parts of all the functions but those on requests. -/
structure ClosedAside (ok : Serial → Prop) (R : Controller → Controller → Prop) : Prop extends
    ClosedConnections ok R, ClosedMonitors ok R

/-- An event that has nothing to do with requests stays within the relation if its call may be
answered. -/
theorem ClosedAside.step {ok : Serial → Prop} (h : ClosedAside ok R) {s s' : Controller} {e : Event}
    (hstep : s.step e = some s') (he : e.ofRequests = false)
    (hok : ∀ serial, e.serial = some serial → ok serial) : R s s' := by
  have hcalls : ClosedCalls ok R := { h with }
  by_cases hconn : e.ofConnections = false
  · exact hcalls.step hstep he hconn hok
  have hhandle := (step_eq_some_iff.mp hstep).2
  match e with
  | .accept peer fails =>
    rw [← Option.some.inj hhandle]
    exact h.acceptNodeConnection s peer fails
  | .register a serial name now nowMonotonic peer fails =>
    rw [← (whenever_eq_some_iff.mp hhandle).2]
    exact h.nodeMethodRegister s a (hok serial rfl) name now nowMonotonic peer fails
  | .disconnected n =>
    rw [← (whenever_eq_some_iff.mp hhandle).2]
    exact h.nodeDisconnect s n
  | .heartbeatTimer now =>
    rw [← Option.some.inj hhandle]
    exact h.heartbeatTimerCallback s now

/-- An event that makes or ends requests stays within the relation, but for the stop. -/
theorem ClosedRequests.step (h : ClosedRequests R) {s s' : Controller} {e : Event}
    (hstep : s.step e = some s') (he : e.ofRequests = true) (hstop : ∀ sync, e ≠ .stop sync)
    (hlist : ∀ r serial job rows, e = .agentReply r (.ok rows) →
      (s.request r).handler = .lifecycle serial job → ∀ t, R t (addJob t job).2) : R s s' := by
  have hhandle := (step_eq_some_iff.mp hstep).2
  match e with
  | .lifecycle n serial method unit mode startTime started =>
    rw [← (whenever_eq_some_iff.mp hhandle).2]
    exact h.nodeRunUnitLifecycleMethod s n serial method unit mode startTime started
  | .forward n serial method failure started =>
    rw [← (whenever_eq_some_iff.mp hhandle).2]
    exact h.nodeMethodForward s n serial method failure started
  | .jobCancel id serial started =>
    have ⟨job, _, hjob⟩ := Option.map_eq_some_iff.mp hhandle
    rw [← hjob]
    exact h.jobMethodCancel s job serial started
  | .fleet serial method starts =>
    rw [← Option.some.inj hhandle]
    exact h.agentFleetRequestStart s serial method starts
  | .agentReply r m =>
    exact h.agentRequestCallback (fun serial job rows hhandler hm =>
      hlist r serial job rows (by rw [hm]) hhandler) hhandle
  | .stop sync => exact absurd rfl (hstop sync)

end Controller
end BlueChi
