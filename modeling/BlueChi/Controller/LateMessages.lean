import BlueChi.Controller.Links
import BlueChi.Controller.SystemStatus

/-!
# Messages of dropped connections

A connection that a node was taken from may still deliver messages: the replies to the calls that are
outstanding, and the signals whose matches stay with it. Nothing in the handlers of these messages asks
which connection they come from, so that a late one has the same effect as one in time. As long as no
late message finds anything to do (`Idle`), every listed job is one of a connected node.
-/

namespace BlueChi

open Execution

/-- The request that waits for the reply to a call. -/
def AgentCall.awaitedBy : AgentCall → Option RequestId
  | .lifecycle r .. => some r
  | .jobCancel r _ => some r
  | .request r _ => some r
  | _ => none

/-- The entry is as `node_match_unit_new` leaves it. -/
def UnitSubscriptions.IsNew (unit : String) (usubs : UnitSubscriptions) : Prop :=
  usubs.loaded = true ∧
    (isWildcard unit = true → usubs.activeState = .active ∧ usubs.substate = some "running")

/-- The entry is as `node_match_unit_state_changed` leaves it. -/
def UnitSubscriptions.InState (activeState substate : String) (usubs : UnitSubscriptions) : Prop :=
  usubs.loaded = true ∧ usubs.activeState = activeStateFromString activeState ∧
    usubs.substate = some substate

/-- The condition holds of each entry of the unit. -/
def Node.EachEntry (node : Node) (unit : String) (P : UnitSubscriptions → Prop) : Prop :=
  ∀ usubs ∈ node.unitSubscriptions, usubs.unit = unit → P usubs

namespace Controller

variable {gap : ℤ} {s s' s'' : Controller}

/-- The connection that the call of a request was sent on. -/
def requestBus (s : Controller) (r : RequestId) : Option BusId :=
  s.log.findSome? fun
    | .toAgent bus _ call => if call.awaitedBy = some r then some bus else none
    | _ => none

/-- The call of the request was sent on the connection that is bound to its node. -/
def SentOnBound (s : Controller) (r : RequestId) : Prop :=
  ∃ bus, s.requestBus r = some bus ∧ (s.node (s.request r).node).agentBus = some bus

/-- A reply or a signal that does not arrive on the connection bound to its node. The replies to the calls
of a proxy monitor count as late on every connection. -/
def Late (s : Controller) : Event → Prop
  | .agentReply r _ => ¬s.SentOnBound r
  | .proxyReply _ => True
  | .agentSignal bus n _ => (s.node n).agentBus ≠ some bus
  | _ => False

/-- The callback of the request lists a job. -/
def listsJob (s : Controller) (r : RequestId) (m : AgentAnswer) : Bool :=
  match (s.request r).handler, m with
  | .lifecycle _ job, .ok _ => !(s.request r).isCancelled && !s.jobPathTaken job
  | _, _ => false

/-- The signal tells nothing that its handler would act on. -/
def idleSignal (s : Controller) (n : NodeId) : NodeSignal → Prop
  | .jobDone id _ _ _ => s.jobOfId id = none
  | .unitNew unit _ => (s.node n).EachEntry unit (UnitSubscriptions.IsNew unit)
  | .unitStateChanged unit activeState substate _ =>
    (s.node n).EachEntry unit (UnitSubscriptions.InState activeState substate)
  | .unitRemoved unit => (s.node n).EachEntry unit fun usubs => usubs.loaded = false
  | .proxyNew targetNodeName _ _ =>
    s.findNode targetNodeName = none ∨ targetNodeName ∉ (s.node n).allowedProxyTargets
  | .proxyRemoved targetNodeName unitName => s.nodeFindProxyMonitor n targetNodeName unitName = none
  | .heartbeat now nowMonotonic =>
    now = (s.node n).lastSeen ∧ nowMonotonic = (s.node n).lastSeenMonotonic
  | .jobStateChanged .. => True
  | .unitPropertiesChanged .. => True

/-- A reply that lists no job, or a signal that tells nothing. -/
def Idle (s : Controller) : Event → Prop
  | .agentReply r m => s.listsJob r m = false
  | .agentSignal _ n sig => s.idleSignal n sig
  | _ => True

instance (s : Controller) (r : RequestId) : Decidable (s.SentOnBound r) :=
  decidable_of_iff (s.requestBus r ≠ none ∧ s.requestBus r = (s.node (s.request r).node).agentBus) <| by
    unfold SentOnBound
    cases s.requestBus r with
    | none => simp
    | some bus => simp [eq_comm]

instance (s : Controller) : ∀ e, Decidable (s.Late e)
  | .agentReply r _ => inferInstanceAs (Decidable ¬s.SentOnBound r)
  | .agentSignal bus n _ => inferInstanceAs (Decidable ((s.node n).agentBus ≠ some bus))
  | .proxyReply _ => isTrue trivial
  | .accept .. | .register .. | .disconnected _ | .heartbeatTimer _ | .lifecycle .. | .forward ..
  | .jobCancel .. | .fleet .. | .createMonitor .. | .subscribe .. | .unsubscribe .. | .addPeer ..
  | .removePeer .. | .closeMonitor .. | .nameOwnerChanged .. | .enableMetrics .. | .disableMetrics _
  | .stop _ => isFalse id

/-! ## What a late message leaves alone -/

/-- No job is added or finished, and no node's table or clock changes. A job may change its state. -/
structure Undisturbed (s s' : Controller) : Prop where
  jobs : s'.jobs.map (fun job => { job with state := .waiting }) =
    s.jobs.map fun job => { job with state := .waiting }
  unitSubscriptions : ∀ n, (s'.node n).unitSubscriptions = (s.node n).unitSubscriptions
  lastSeen : ∀ n, (s'.node n).lastSeen = (s.node n).lastSeen
  lastSeenMonotonic : ∀ n, (s'.node n).lastSeenMonotonic = (s.node n).lastSeenMonotonic

namespace Undisturbed

lemma of_node (hjobs : s'.jobs = s.jobs) (hnode : s'.node = s.node) : Undisturbed s s' :=
  ⟨by rw [hjobs], fun n => by rw [hnode], fun n => by rw [hnode], fun n => by rw [hnode]⟩

lemma refl (s : Controller) : Undisturbed s s := of_node rfl rfl

lemma trans (h : Undisturbed s s') (h' : Undisturbed s' s'') : Undisturbed s s'' where
  jobs := h'.jobs.trans h.jobs
  unitSubscriptions n := (h'.unitSubscriptions n).trans (h.unitSubscriptions n)
  lastSeen n := (h'.lastSeen n).trans (h.lastSeen n)
  lastSeenMonotonic n := (h'.lastSeenMonotonic n).trans (h.lastSeenMonotonic n)

/-- The listed jobs are for the same nodes. -/
lemma job_node (h : Undisturbed s s') {job : Job} (hjob : job ∈ s'.jobs) :
    ∃ job' ∈ s.jobs, job'.node = job.node := by
  have hmem : { job with state := .waiting } ∈ s'.jobs.map fun job => { job with state := .waiting } :=
    List.mem_map.mpr ⟨job, hjob, rfl⟩
  rw [h.jobs] at hmem
  have ⟨job', hjob', heq⟩ := List.mem_map.mp hmem
  have hnode := congrArg Job.node heq
  exact ⟨job', hjob', hnode⟩

lemma modifyNode (s : Controller) (n : NodeId) {f : Node → Node}
    (htable : (f (s.node n)).unitSubscriptions = (s.node n).unitSubscriptions)
    (hseen : (f (s.node n)).lastSeen = (s.node n).lastSeen)
    (hmonotonic : (f (s.node n)).lastSeenMonotonic = (s.node n).lastSeenMonotonic) :
    Undisturbed s (s.modifyNode n f) := by
  refine ⟨rfl, fun k => ?_, fun k => ?_, fun k => ?_⟩
  all_goals
    rw [modifyNode_node]
    by_cases hk : k = n
    · rw [hk, Function.update_self]
      assumption
    · rw [Function.update_of_ne hk]

lemma freeUserdata (s : Controller) (handler : RequestHandler) : Undisturbed s (s.freeUserdata handler) := by
  unfold Controller.freeUserdata
  split
  · unfold jobUnref
    dsimp only
    split
    · exact of_node rfl rfl
    · exact of_node rfl rfl
  · exact refl s

lemma unlistRequest (s : Controller) (r : RequestId) : Undisturbed s (s.unlistRequest r) :=
  (modifyNode s (s.request r).node (f := fun node => { node with
    outstandingRequests := node.outstandingRequests.erase r }) rfl rfl rfl).trans (of_node rfl rfl)

/-- A node that somebody else than its creator holds is listed, and not freed. -/
lemma nodeUnref (h : Consistent gap s) {n : NodeId} {o : Owner} (ho : o ∈ (s.refs (.node n)).owners)
    (hcreator : o ≠ .creator) (hneed : ¬Needed s n o)
    (hfleet : ∀ q, o = .fleet q → (s.fleet q).subReq.length ≤ (s.fleet q).nDone) :
    Undisturbed s (s.nodeUnref n o) := by
  have hn : n ∈ s.nodes := by
    by_contra hnot
    have hmem := (h.forListed.owners n hnot).subset ho
    exact hcreator (List.mem_singleton.mp hmem)
  obtain ⟨f, heq, hf⟩ := h.nodeUnref_eq ho hneed hfleet
  have hid : f = id := hf.elim And.right fun hfreed => absurd hn hfreed.1
  rw [heq, hid, modifyNode_id]
  exact of_node rfl rfl

lemma agentRequestUnref (h : Consistent gap s) (r : RequestId) (o : Owner) :
    Undisturbed s (s.agentRequestUnref r o) := by
  have hdrop : Undisturbed s (s.dropRef (.request r) o) := of_node rfl rfl
  unfold Controller.agentRequestUnref
  dsimp only
  split
  · rename_i hfreed
    have hzero := isFreed_iff.mp hfreed
    have hpos : 0 < (s.refs (.request r)).count := by
      simp only [dropRef_refs, Function.update_self, RefCount.count_unref] at hzero
      omega
    have hcore := (coreFrame_freeUserdata (s.dropRef (.request r) o) (s.request r).handler).trans
      (coreFrame_unlistRequest _ r)
    have hlisted := (hdrop.trans (freeUserdata _ (s.request r).handler)).trans (unlistRequest _ r)
    refine hlisted.trans (nodeUnref ((h.dropRef_request r o).of_frame hcore) ?_ (by simp) (fun hneed => ?_)
      (by simp))
    · have hmem := h.held.owners (s.request r).node (.request r) ⟨hpos, rfl⟩
      rw [hcore.refs _ rfl]
      simpa using hmem
    · have hcount := ((hcore.needed_iff _ _).mp hneed).1
      omega
  · exact hdrop

lemma agentFleetRequestFree (h : Consistent gap s) {q : FleetId}
    (hdone : (s.fleet q).subReq.length ≤ (s.fleet q).nDone)
    (hcount : ∀ n, (s.fleet q).subReq.countP (fun sub => sub.node = n) ≤
      (s.refs (.node n)).owners.count (.fleet q)) : Undisturbed s (s.agentFleetRequestFree q) := by
  have hcons : Consistent gap (s.freeFleet q) := h.of_frame (.of_eq rfl)
  have hfree : Undisturbed s (s.freeFleet q) := of_node rfl rfl
  refine hfree.trans (Consistent.freeSlots refl trans (fun ht hhead hdone => ?_)
    (fun r ht => agentRequestUnref ht r .creator) _ hcons hdone hcount).2
  refine nodeUnref ht hhead (by simp) (fun hneed => hneed) fun q' heq => ?_
  rw [Owner.fleet.injEq] at heq
  exact heq ▸ hdone

lemma agentFleetRequestCallback (h : Consistent gap s) (q : FleetId) (r : RequestId) (m : AgentAnswer) :
    Undisturbed s (s.agentFleetRequestCallback q r m) := by
  obtain ⟨hmodify, hcount⟩ := h.answer q r m
  have hanswer : Undisturbed s (s.modifyFleet q fun fleet => AgentFleetRequest.answer fleet r m) :=
    of_node rfl rfl
  unfold Controller.agentFleetRequestCallback
  refine hanswer.trans ?_
  generalize s.modifyFleet q (fun fleet => AgentFleetRequest.answer fleet r m) = t at hmodify hcount
  unfold agentFleetRequestMaybeDone agentFleetRequestDone
  dsimp only
  split
  · rename_i hdone
    have hreply : ∀ o, Undisturbed t ((t.emit o).agentFleetRequestFree q) := fun o =>
      (of_node rfl rfl : Undisturbed t (t.emit o)).trans
        (agentFleetRequestFree (hmodify.of_frame (coreFrame_emit t o)) (le_of_eq hdone.symm) (hcount hdone))
    split
    · exact hreply _
    · exact hreply _
  · exact refl t

/-- The callback of a request that lists no job. -/
lemma requestCallback (h : Consistent gap s) {r : RequestId} {m : AgentAnswer}
    (hlists : ∀ serial job rows, (s.request r).handler = .lifecycle serial job → m = .ok rows →
      s.jobPathTaken job = true) : Undisturbed s (s.requestCallback r m) := by
  have hemit : ∀ o, Undisturbed s (s.emit o) := fun o => of_node rfl rfl
  unfold Controller.requestCallback
  split
  · exact hemit _
  · rename_i serial job rows hhandler
    have hadd : s.addJob job = (false, s) := if_pos (hlists serial job rows hhandler rfl)
    rw [hadd]
    exact refl s
  · exact hemit _
  · exact hemit _
  · exact refl s
  · exact agentFleetRequestCallback h _ r _

lemma agentRequestCallback (h : Consistent gap s) {r : RequestId} {m : AgentAnswer}
    (hlists : s.listsJob r m = false) (hstep : s.agentRequestCallback r m = some s') :
    Undisturbed s s' := by
  unfold Controller.agentRequestCallback at hstep
  split at hstep
  · rw [← Option.some.inj hstep]
    have hfirst : Undisturbed s { s with pendingRequests := s.pendingRequests.erase r } := of_node rfl rfl
    have herase : Consistent gap { s with pendingRequests := s.pendingRequests.erase r } :=
      h.of_frame (.of_eq rfl)
    have hsame : listsJob { s with pendingRequests := s.pendingRequests.erase r } r m = false := hlists
    refine hfirst.trans ?_
    generalize ({ s with pendingRequests := s.pendingRequests.erase r } : Controller) = t at herase hsame
    split
    · exact agentRequestUnref herase r .pending
    · rename_i hcancelled
      have hrun := herase.runCallback r
      have hfree : ∀ serial job rows, ((t.runCallback r).request r).handler = .lifecycle serial job →
          m = .ok rows → (t.runCallback r).jobPathTaken job = true := by
        intro serial job rows hhandler hm
        have htaken : t.listsJob r m = !t.jobPathTaken job := by
          unfold listsJob
          rw [show (t.request r).handler = .lifecycle serial job from hhandler, hm,
            Bool.eq_false_iff.mpr hcancelled]
          rfl
        rw [htaken, Bool.not_eq_false'] at hsame
        exact hsame
      have hran : Undisturbed t (t.runCallback r) := of_node rfl rfl
      exact (hran.trans (requestCallback hrun hfree)).trans
        (agentRequestUnref (hrun.requestCallback r m) r .pending)
  · exact absurd hstep (by simp)

/-- The callback of a call of a proxy monitor may free it, but not the node that it watches. -/
lemma proxyMonitorCallback (h : Consistent gap s) {p : ProxyMonitorId}
    (hstep : s.proxyMonitorCallback p = some s') : Undisturbed s s' := by
  have hcons := h.proxyMonitorCallback hstep
  have hframe := proxyFrame_proxyMonitorCallback hstep
  refine ⟨by rw [hframe.rest], fun n => ?_, fun n => by rw [(hframe.node n).rest],
    fun n => by rw [(hframe.node n).rest]⟩
  by_cases hn : n ∈ s.nodes
  · unfold Controller.proxyMonitorCallback at hstep
    split at hstep
    · rename_i hp
      obtain ⟨herase, howner, hcount⟩ := h.proxyAnswered hp
      rw [← Option.some.inj hstep,
        (herase.proxyMonitorUnref_frame howner (by simp) fun _ => hcount).node n hn]
    · exact absurd hstep (by simp)
  · have hn' : n ∉ s'.nodes := by rwa [hframe.rest]
    rw [h.indexed.unlisted n hn, hcons.indexed.unlisted n hn']

/-- The handlers of the unit signals. -/
lemma applyNode (s : Controller) (n : NodeId) {f : NodeStep} {told : ProxyMonitorId → Prop}
    (hf : TableStep told f (s.node n)) (hnode : (f (s.node n)).1 = s.node n) :
    Undisturbed s (s.applyNode n f) := by
  refine of_node ?_ (applyNode_node s n hnode)
  rw [(subscriptionFrame_applyNode s n hf).rest]

lemma modifyUsubs {node : Node} {unit : String} {f : UnitSubscriptions → UnitSubscriptions}
    (h : node.EachEntry unit fun usubs => f usubs = usubs) : node.modifyUsubs unit f = node := by
  unfold Node.modifyUsubs
  rw [Keyed.modify_eq_self h]

lemma onNew {unit : String} {usubs : UnitSubscriptions} (h : usubs.IsNew unit) :
    usubs.onNew unit = usubs := by
  unfold UnitSubscriptions.onNew
  split
  · rename_i hwild
    rw [← h.1, ← (h.2 hwild).1, ← (h.2 hwild).2]
  · rw [← h.1]

lemma onStateChanged {activeState substate : String} {usubs : UnitSubscriptions}
    (h : usubs.InState activeState substate) : usubs.onStateChanged activeState substate = usubs := by
  unfold UnitSubscriptions.onStateChanged
  rw [← h.1, ← h.2.1, ← h.2.2]

lemma onRemoved {usubs : UnitSubscriptions} (h : usubs.loaded = false) : usubs.onRemoved = usubs := by
  unfold UnitSubscriptions.onRemoved
  rw [← h]

/-- A proxy monitor without a target is freed without anything else. -/
lemma proxyMonitorUnref (s : Controller) {p : ProxyMonitorId} (htarget : (s.proxyMonitor p).targetNode = none)
    (o : Owner) : Undisturbed s (proxyMonitorUnref Controller.nodeUnref s p o) := by
  have hframe := proxyFrame_proxyMonitorUnref proxyFrame_nodeUnref s p o
  refine of_node (by rw [hframe.rest]) ?_
  unfold Controller.proxyMonitorUnref
  dsimp only
  split
  · rw [show (s.dropRef (.proxyMonitor p) o).proxyMonitor p = s.proxyMonitor p from rfl, htarget]
    exact subscriptionUnref_node _ _ _
  · rfl

lemma proxyMonitorSendError (s : Controller) (p : ProxyMonitorId) (message : String) :
    Undisturbed s (s.proxyMonitorSendError p message) ∧
      (s.proxyMonitorSendError p message).proxyMonitor = s.proxyMonitor := by
  have hframe : NotifyFrame (· = p) s (s.proxyMonitorCall p
      (.proxyError p (s.proxyMonitor p).proxyObjectPath message)) := notifyFrame_proxyMonitorCall s p rfl
  unfold Controller.proxyMonitorSendError
  exact ⟨of_node (by rw [hframe.rest]) (by rw [hframe.rest]), by rw [hframe.rest]⟩

/-- A new proxy is refused. -/
lemma nodeOnMatchProxyNew (s : Controller) {n : NodeId} {targetNodeName : String}
    (hrefused : s.findNode targetNodeName = none ∨ targetNodeName ∉ (s.node n).allowedProxyTargets)
    (unitName path : String) : Undisturbed s (s.nodeOnMatchProxyNew n targetNodeName unitName path) := by
  have hnew : Undisturbed s (s.proxyMonitorNew n targetNodeName unitName path) := of_node rfl rfl
  have herror : ∃ message, (s.proxyMonitorNew n targetNodeName unitName path).onProxyMonitor n s.nextPtr
      targetNodeName unitName = (s.proxyMonitorNew n targetNodeName unitName path).proxyMonitorSendError
        s.nextPtr message := by
    unfold onProxyMonitor
    rw [show (s.proxyMonitorNew n targetNodeName unitName path).findNode targetNodeName =
      s.findNode targetNodeName from rfl]
    split
    · exact ⟨_, rfl⟩
    · rename_i hfind
      have hnot : targetNodeName ∉ (s.node n).allowedProxyTargets :=
        hrefused.resolve_left fun hnone => absurd (hnone.symm.trans hfind) (by simp)
      exact ⟨_, if_neg hnot⟩
  unfold Controller.nodeOnMatchProxyNew
  dsimp only
  obtain ⟨message, herror⟩ := herror
  have ⟨hsent, hmonitors⟩ := proxyMonitorSendError (s.proxyMonitorNew n targetNodeName unitName path)
    s.nextPtr message
  rw [herror]
  refine (hnew.trans hsent).trans (proxyMonitorUnref _ ?_ .creator)
  rw [hmonitors]
  simp [proxyMonitorNew]

lemma onSignal (s : Controller) (n : NodeId) {sig : NodeSignal} (hidle : s.idleSignal n sig) :
    Undisturbed s (s.onSignal n sig) := by
  match sig with
  | .jobDone id result now sync =>
    have hnone : (s.jobs.find? fun job => job.id = id) = none := hidle
    show Undisturbed s (s.finishJob sync id result now)
    unfold finishJob
    rw [hnone]
    exact refl s
  | .jobStateChanged id state =>
    show Undisturbed s (s.jobStateChanged id state)
    unfold Controller.jobStateChanged
    split
    · exact refl s
    · refine ⟨?_, fun _ => rfl, fun _ => rfl, fun _ => rfl⟩
      rw [emit_jobs]
      unfold Controller.modifyJob
      rw [List.map_map]
      apply List.map_congr_left
      intro job _
      dsimp only [Function.comp]
      split
      · rfl
      · rfl
  | .unitPropertiesChanged unit interface properties =>
    exact applyNode s n (tableStep_nodeMatchUnitPropertiesChanged unit interface properties _) rfl
  | .unitNew unit reason =>
    exact applyNode s n (tableStep_nodeMatchUnitNew unit reason _)
      (modifyUsubs fun usubs husubs hunit => onNew (hidle usubs husubs hunit))
  | .unitStateChanged unit activeState substate reason =>
    exact applyNode s n (tableStep_nodeMatchUnitStateChanged unit activeState substate reason _)
      (modifyUsubs fun usubs husubs hunit => onStateChanged (hidle usubs husubs hunit))
  | .unitRemoved unit =>
    exact applyNode s n (tableStep_nodeMatchUnitRemoved unit _)
      (modifyUsubs fun usubs husubs hunit => onRemoved (hidle usubs husubs hunit))
  | .proxyNew targetNodeName unitName path => exact nodeOnMatchProxyNew s hidle unitName path
  | .proxyRemoved targetNodeName unitName =>
    have hnone : s.nodeFindProxyMonitor n targetNodeName unitName = none := hidle
    show Undisturbed s (s.nodeOnMatchProxyRemoved n targetNodeName unitName)
    unfold nodeOnMatchProxyRemoved
    rw [hnone]
    exact refl s
  | .heartbeat now nowMonotonic =>
    have ⟨hnow, hmonotonic⟩ := hidle
    exact modifyNode s n (f := fun node => { node with
      lastSeen := now, lastSeenMonotonic := nowMonotonic }) rfl hnow hmonotonic

end Undisturbed

/-! ## Which jobs are listed -/

/-- Only the nodes of `new` may get a job, and a lifecycle request stays one for the node of its job. -/
structure Staffs (new : NodeId → Prop) (s s' : Controller) : Prop where
  jobs : ∀ job ∈ s'.jobs, (∃ job' ∈ s.jobs, job'.node = job.node) ∨ new job.node
  home : ∀ r, KeepsHome s s' r

namespace Staffs

variable {new : NodeId → Prop}

lemma of_eq (hjobs : s'.jobs = s.jobs) (hrequest : s'.request = s.request) : Staffs new s s' where
  jobs job hjob := Or.inl ⟨job, hjobs ▸ hjob, rfl⟩
  home r := Or.inl ⟨by rw [hrequest], by rw [hrequest]⟩

lemma trans (h : Staffs new s s') (h' : Staffs new s' s'') : Staffs new s s'' where
  jobs job hjob := by
    apply (h'.jobs job hjob).elim
    · intro ⟨job', hjob', heq⟩
      exact heq ▸ h.jobs job' hjob'
    · exact Or.inr
  home r := by
    apply (h'.home r).elim
    · intro ⟨hnode, hhandler⟩
      apply (h.home r).imp
      · exact fun hsame => ⟨hnode.trans hsame.1, hhandler.trans hsame.2⟩
      · intro hhome serial job hlifecycle
        rw [hnode]
        exact hhome serial job (hhandler.symm.trans hlifecycle)
    · exact Or.inr

lemma sendAgent (s : Controller) (n : NodeId) (call : AgentCall) : Staffs new s (s.sendAgent n call) := by
  unfold Controller.sendAgent
  split
  · exact of_eq rfl rfl
  · exact of_eq rfl rfl

lemma subscriptionUnref (s : Controller) (sub : Subscription) (o : Owner) :
    Staffs new s (s.subscriptionUnref sub o) := by
  rw [Consistent.subscriptionUnref_rest]
  exact of_eq rfl rfl

lemma nodes : ClosedNodes (Staffs new) where
  refl _ := of_eq rfl rfl
  trans := trans
  notify f := of_eq (by rw [f.rest]) (by rw [f.rest])
  tell s n call _ := sendAgent s n call
  table _ _ _ _ := of_eq rfl rfl
  depend s n call _ := sendAgent s n call
  proxies _ _ _ _ := of_eq rfl rfl
  detach s n := by
    rw [nodeUnsetAgentBus_eq]
    exact of_eq rfl rfl
  proxyMonitor _ _ _ _ := of_eq rfl rfl
  takeRef _ _ _ _ := of_eq rfl rfl
  dropRef _ _ _ _ _ := of_eq rfl rfl
  unlist _ _ _ := of_eq rfl rfl
  proxyMonitorNew _ _ _ _ _ := of_eq rfl rfl
  appendSubscription _ _ := of_eq rfl rfl
  unlistSubscription _ _ := of_eq rfl rfl
  subscriptionUnref s p o := subscriptionUnref s _ o
  answered _ _ := of_eq rfl rfl
  announce _ _ _ := of_eq rfl rfl
  jobs f := ⟨fun job hjob => Or.inl (f.nodes job hjob), fun _ => Or.inl ⟨by rw [f.rest], by rw [f.rest]⟩⟩
  reply _ _ _ := of_eq rfl rfl
  ask s n call _ := sendAgent s n call
  requests f := ⟨fun job hjob => Or.inl ⟨job, by rwa [f.rest] at hjob, rfl⟩, f.home⟩
  registry f := of_eq (by rw [f.rest]) (by rw [f.rest])
  release _ _ := of_eq rfl rfl

lemma aside : ClosedAside (fun _ => True) (Staffs new) where
  toClosedProxies := nodes.toClosedProxies
  announce := nodes.announce
  jobs := nodes.jobs
  remove s n _ := nodes.removeNode s n
  count s d := by
    unfold countOnline checkSystemStatus
    dsimp only
    split
    · exact of_eq rfl rfl
    · exact of_eq rfl rfl
  beat s n := sendAgent s n _
  seen _ _ _ _ := of_eq rfl rfl
  link _ _ _ _ := of_eq rfl rfl
  status _ _ _ := of_eq rfl rfl
  addMatch _ _ _ _ := of_eq rfl rfl
  reply _ _ _ _ _ := of_eq rfl rfl
  addNode _ := of_eq rfl rfl
  busAlloc _ := of_eq rfl rfl
  flag s n call _ := sendAgent s n call
  metrics _ _ := of_eq rfl rfl
  clients f := of_eq (by rw [f.rest]) (by rw [f.rest])
  farewell _ _ _ _ := of_eq rfl rfl

/-- All jobs are removed at the stop, before the nodes are. -/
lemma controllerStop (sync : SyncCalls) (s : Controller) : (s.controllerStop sync).jobs = [] := by
  have hjobs : ∀ (jobs : List Job) (t : Controller), t.jobs = jobs →
      (jobs.foldl (fun s job => s.removeJob sync job "cancelled due to shutdown") t).jobs = [] := by
    intro jobs
    induction jobs with
    | nil => exact fun t ht => ht
    | cons job jobs ih =>
      intro t ht
      apply ih
      rw [JobInv.removeJob_jobs, ht]
      simp
  have hnil : ∀ {t t'}, Staffs (fun _ => False) t t' → t.jobs = [] → t'.jobs = [] := by
    intro t t' h ht
    apply List.eq_nil_iff_forall_not_mem.mpr
    intro job hjob
    apply (h.jobs job hjob).elim
    · intro ⟨job', hjob', _⟩
      rw [ht] at hjob'
      exact List.not_mem_nil hjob'
    · exact id
  have hclients : Staffs (fun _ => False)
      (s.jobs.foldl (fun s job => s.removeJob sync job "cancelled due to shutdown") s)
      (s.stopClients sync) :=
    (aside.foldl aside.removeSubscription _ _).trans (aside.foldl aside.removeMonitor _ _)
  have hnodes : Staffs (fun _ => False) (s.stopClients sync) (s.stopClients sync).stopNodes :=
    (nodes.foldl nodes.removeNode _ _).trans (nodes.foldl nodes.removeNode _ _)
  have hall := hnil hnodes (hnil hclients (hjobs s.jobs s rfl))
  unfold Controller.controllerStop
  dsimp only
  split
  · unfold checkSystemStatus
    dsimp only
    split
    · exact hall
    · exact hall
  · exact hall

/-- Every event but the stop. -/
lemma step {e : Event} (hstep : s.step e = some s') (hstop : ∀ sync, e ≠ .stop sync)
    (hnew : ∀ r rows serial job, e = .agentReply r (.ok rows) →
      (s.request r).handler = .lifecycle serial job → new job.node) : Staffs new s s' := by
  by_cases he : e.ofRequests = true
  · refine nodes.toClosedRequests.step hstep he hstop fun r serial job rows heq hhandler t => ?_
    unfold addJob
    split
    · exact of_eq rfl rfl
    · refine ⟨fun j hj => ?_, fun _ => Or.inl ⟨rfl, rfl⟩⟩
      apply (List.mem_append.mp hj).imp
      · exact fun hlisted => ⟨j, hlisted, rfl⟩
      · intro hadded
        rw [List.mem_singleton.mp hadded]
        exact hnew r rows serial job heq hhandler
  · exact aside.step hstep (by simpa using he) fun _ _ => trivial

end Staffs

/-- The job loop of `node_disconnect` leaves no job of its list that is for a node of that name. -/
lemma mem_dropJobs {n : NodeId} (jobs : List Job) (hnodup : (s.jobs.map (·.ptr)).Nodup) {job : Job}
    (hjob : job ∈ (jobs.foldl (dropJob n) s).jobs) :
    job ∈ s.jobs ∧ (job ∈ jobs → s.nodeName job.node ≠ s.nodeName n) := by
  induction jobs generalizing s with
  | nil => exact ⟨hjob, fun hmem => absurd hmem List.not_mem_nil⟩
  | cons job' jobs ih =>
    have hnames : ∀ k, (dropJob n s job').nodeName k = s.nodeName k := fun k => by
      unfold nodeName
      rw [((coreFrame_dropJob n s job').node k).name]
    have herased : (dropJob n s job').jobs.Sublist s.jobs := by
      apply (JobInv.dropJob_jobs n s job').elim
      · exact fun heq => heq ▸ List.Sublist.refl _
      · exact fun heq => heq ▸ List.eraseP_sublist
    have ⟨hmem, hother⟩ := ih (hnodup.sublist (herased.map _)) hjob
    refine ⟨herased.subset hmem, fun hlisted => ?_⟩
    rw [hnames, hnames] at hother
    apply (List.mem_cons.mp hlisted).elim
    · intro heq hname
      rw [heq] at hmem hname
      have hleft : (dropJob n s job').jobs = s.jobs.eraseP fun j => j.ptr = job'.ptr := by
        unfold dropJob jobUnref
        rw [if_pos hname]
        dsimp only
        split
        · rfl
        · rfl
      rw [hleft, List.eraseP_eq_filter_not _ (hnodup.countP_key_le_one job'.ptr)] at hmem
      simp at hmem
    · exact hother

/-- After the disconnect of a named node no job is listed for it. -/
lemma ne_of_mem_nodeDisconnect (hinv : JobInv False s) {n : NodeId} (hname : (s.node n).name ≠ none)
    {job : Job} (hjob : job ∈ (s.nodeDisconnect n).jobs) : job.node ≠ n := by
  have htable := ProxyFrame.of_subscription
    (subscriptionFrame_applyNode s n (tableStep_nodeDisconnectUnits (s.node n)))
  have hframe := htable.trans (ProxyFrame.foldl (fun s p =>
    proxyFrame_nodeRemoveProxyMonitor proxyFrame_nodeUnref s n p)
    ((s.applyNode n nodeDisconnectUnits).node n).proxyMonitors _)
  unfold Controller.nodeDisconnect at hjob
  dsimp only at hjob
  generalize ((s.applyNode n nodeDisconnectUnits).node n).proxyMonitors.foldl
    (fun s p => nodeRemoveProxyMonitor nodeUnref s n p) (s.applyNode n nodeDisconnectUnits) = t
    at hframe hjob
  have hlast : ∀ u : Controller, ((u.nodeUnsetAgentBus n).countOnline (-1)).jobs = u.jobs := by
    intro u
    rw [nodeUnsetAgentBus_eq]
    unfold countOnline checkSystemStatus
    dsimp only
    split
    · rfl
    · rfl
  rw [if_neg (by rwa [(hframe.node n).name_eq]), hlast] at hjob
  have ⟨hmem, hother⟩ := mem_dropJobs t.jobs (by rw [hframe.rest]; exact hinv.nodup) hjob
  intro heq
  exact hother hmem (by rw [heq])

/-! ## Jobs of connected nodes -/

/-- Every listed job is one of a connected node. -/
def Manned (s : Controller) : Prop := ∀ job ∈ s.jobs, (s.node job.node).agentBus ≠ none

namespace Manned

/-- No node gets a job, and the nodes that have some stay connected. -/
lemma of_staffs (h : Manned s) (f : Staffs (fun _ => False) s s')
    (hbus : ∀ job ∈ s'.jobs, (∃ job' ∈ s.jobs, job'.node = job.node) →
      (s.node job.node).agentBus ≠ none → (s'.node job.node).agentBus ≠ none) : Manned s' := by
  intro job hjob
  have ⟨job', hjob', heq⟩ := (f.jobs job hjob).resolve_right id
  have hmanned := h job' hjob'
  rw [heq] at hmanned
  exact hbus job hjob ⟨job', hjob', heq⟩ hmanned

lemma nodeDisconnect (h : Manned s) (hcons : Consistent gap s) (hinv : JobInv False s) {n : NodeId}
    (hbus : (s.node n).agentBus ≠ none) : Manned (s.nodeDisconnect n) := by
  have hcloses := closes_nodeDisconnect hcons hbus
  apply h.of_staffs (Staffs.aside.nodeDisconnect s n)
  intro job hjob hold hmanned
  have hlisted : job.node ∈ s.nodes := hcons.forListed.jobs job.node (Or.inl hold)
  have hne : job.node ≠ n := by
    intro heq
    have hname := hcons.registry.named job.node hlisted
    rw [heq] at hname
    exact ne_of_mem_nodeDisconnect hinv hname hjob heq
  have hlink : (s.nodeDisconnect n).links job.node = s.links job.node :=
    hcloses.others job.node (Or.inl hlisted) hne
  rwa [show ((s.nodeDisconnect n).node job.node).agentBus = (s.node job.node).agentBus from
    congrArg NodeLink.agentBus hlink]

/-- The heartbeat checks the nodes one after the other. -/
lemma checkNodes (now : UInt64) (ns : List NodeId) (h : Manned s) (hcons : Consistent gap s)
    (hinv : JobInv False s) : Manned (ns.foldl (checkNode now) s) := by
  induction ns generalizing s with
  | nil => exact h
  | cons n ns ih =>
    refine ih ?_ (hcons.checkNode now n) (hinv.checkNodes [n] now fun hkept => hkept.elim)
    unfold Controller.checkNode
    split
    · rename_i honline
      split
      · exact h.nodeDisconnect hcons hinv (agentBus_of_online honline)
      · have hbeat : Staffs (fun _ => False) s (s.sendAgent n .heartbeat) := Staffs.sendAgent s n .heartbeat
        apply h.of_staffs hbeat
        intro job _ _ hbus
        unfold sendAgent
        split
        · exact hbus
        · exact hbus
    · exact h

end Manned

/-- A listed node keeps its connection, unless its agent disconnects or is given up. -/
lemma agentBus_of_step (hcons : Consistent gap s) {e : Event} (hstep : s.step e = some s')
    (hstop : ∀ sync, e ≠ .stop sync) (hdown : ∀ n, e ≠ .disconnected n)
    (hbeat : ∀ now, e ≠ .heartbeatTimer now) {n : NodeId} (hn : n ∈ s.nodes)
    (hbus : (s.node n).agentBus ≠ none) : (s'.node n).agentBus ≠ none := by
  have hsame : ∀ {links}, links n = s.links n → s'.links = links → (s'.node n).agentBus ≠ none := by
    intro links heq hlinks
    have hlink : s'.links n = s.links n := by rw [hlinks, heq]
    rwa [show (s'.node n).agentBus = (s.node n).agentBus from congrArg NodeLink.agentBus hlink]
  have htarget : ∀ {a name k}, s.registerTarget a name = .ok k → n ≠ k ∧ n ≠ a := by
    intro a name k htarget
    have hok := (registerTarget_eq_ok_iff hcons.registry a k name).mp htarget
    constructor
    · intro heq
      have hnone := hok.2.2.2.1
      unfold nodeHasAgent at hnone
      rw [← heq] at hnone
      exact hbus (by simpa using hnone)
    · exact fun heq => hcons.registry.named n hn (heq ▸ hok.1)
  match linkStep_of_step hcons hstop hstep with
  | .retains f =>
    rwa [show (s'.node n).agentBus = (s.node n).agentBus from
      congrArg NodeLink.agentBus (f.present n (Or.inl hn))]
  | .refused f => exact hsame rfl f.links
  | .opens f =>
    apply hsame _ f.links
    rw [Function.update_of_ne (hcons.registry.fresh n (Or.inl hn)).ne]
  | .registers _ hfound _ _ f =>
    apply hsame _ f.links
    rw [Function.update_of_ne (htarget hfound).2, Function.update_of_ne (htarget hfound).1]
  | .leaves _ hfound f =>
    apply hsame _ f.links
    rw [Function.update_of_ne (htarget hfound).1]
  | .closes _ => exact absurd rfl (hdown _)
  | .thins _ => exact absurd rfl (hbeat _)

/-! ## Runs -/

/-- Every lifecycle request is for the node of its job. -/
lemma atHome_of_step {e : Event} (h : ∀ r, s.AtHome r) (hstop : ∀ sync, e ≠ .stop sync)
    (hstep : s.step e = some s') (r : RequestId) : s'.AtHome r := by
  have f : Staffs (fun _ => True) s s' := Staffs.step hstep hstop fun _ _ _ _ _ _ => trivial
  apply (f.home r).elim
  · intro ⟨hnode, hhandler⟩ serial job hlifecycle
    rw [hnode]
    exact h r serial job (hhandler.symm.trans hlifecycle)
  · exact id

/-- A late message only arrives when it is idle. -/
def Tolerates (s : Controller) (e : Event) : Prop := s.Late e → s.Idle e

/-- A late message that is idle leaves the jobs, the tables and the clocks alone. -/
lemma undisturbed_of_step (hcons : Consistent gap s) {e : Event} (hlate : s.Late e) (hidle : s.Idle e)
    (hstep : s.step e = some s') : Undisturbed s s' := by
  have hhandle := (step_eq_some_iff.mp hstep).2
  match e with
  | .agentReply r m => exact Undisturbed.agentRequestCallback hcons hidle hhandle
  | .proxyReply p => exact Undisturbed.proxyMonitorCallback hcons hhandle
  | .agentSignal bus n sig =>
    rw [← (step_agentSignal_iff.mp hstep).2.2]
    exact Undisturbed.onSignal s n hidle

/-- What holds in a run all of whose late messages are idle. -/
structure Staffed (s : Controller) : Prop where
  manned : Manned s
  home : s.stopped = false → ∀ r, s.AtHome r

/-- The jobs that a step leaves are for nodes that were connected before. -/
lemma Staffed.connected (h : Staffed s) (hcons : Consistent gap s) {e : Event} (hguard : s.Tolerates e)
    (hstep : s.step e = some s') (hstop : ∀ sync, e ≠ .stop sync) {job : Job} (hjob : job ∈ s'.jobs) :
    job.node ∈ s.nodes ∧ (s.node job.node).agentBus ≠ none := by
  have hold : (∃ job' ∈ s.jobs, job'.node = job.node) →
      job.node ∈ s.nodes ∧ (s.node job.node).agentBus ≠ none := by
    intro ⟨job', hjob', heq⟩
    exact heq ▸ ⟨hcons.forListed.jobs job'.node (Or.inl ⟨job', hjob', rfl⟩), h.manned job' hjob'⟩
  by_cases hlate : s.Late e
  · exact hold ((undisturbed_of_step hcons hlate (hguard hlate) hstep).job_node hjob)
  · have f : Staffs (fun n => n ∈ s.nodes ∧ (s.node n).agentBus ≠ none) s s' := by
      refine Staffs.step hstep hstop fun r rows serial job' heq hhandler => ?_
      -- the reply is for the node of the job, and came on its connection
      rw [heq] at hlate
      have ⟨bus, _, hbus⟩ := not_not.mp hlate
      have hhome := h.home (step_eq_some_iff.mp hstep).1 r serial job' hhandler
      refine ⟨hcons.forListed.jobs job'.node (Or.inr ⟨r, serial, job', hhandler, rfl⟩), ?_⟩
      rw [hhome, hbus]
      exact Option.some_ne_none bus
    exact (f.jobs job hjob).elim hold id

lemma Staffed.step (h : Staffed s) (hcons : Consistent gap s) (hinv : JobInv False s) {e : Event}
    (hguard : s.Tolerates e) (hstep : s.step e = some s') : Staffed s' := by
  have ⟨hrun, hhandle⟩ := step_eq_some_iff.mp hstep
  by_cases hstop : ∃ sync, e = .stop sync
  · have ⟨sync, heq⟩ := hstop
    rw [heq] at hhandle hstep
    refine ⟨fun job hjob => ?_, fun hrun' => ?_⟩
    · rw [← Option.some.inj hhandle, Staffs.controllerStop] at hjob
      exact absurd hjob List.not_mem_nil
    · rw [stopped_of_stop hstep] at hrun'
      exact absurd hrun' (by simp)
  · have hgoes : ∀ sync, e ≠ .stop sync := fun sync heq => hstop ⟨sync, heq⟩
    refine ⟨?_, fun _ => atHome_of_step (h.home hrun) hgoes hstep⟩
    by_cases hdown : ∃ n, e = .disconnected n
    · have ⟨n, heq⟩ := hdown
      rw [heq] at hhandle
      have ⟨hslot, hs'⟩ := whenever_eq_some_iff.mp hhandle
      rw [← hs']
      exact h.manned.nodeDisconnect hcons hinv (hcons.agentBus_of_disconnectSlot hslot)
    · by_cases hbeat : ∃ now, e = .heartbeatTimer now
      · have ⟨now, heq⟩ := hbeat
        rw [heq] at hhandle
        rw [← Option.some.inj hhandle]
        exact h.manned.checkNodes now s.nodes hcons hinv
      · intro job hjob
        have ⟨hlisted, hbus⟩ := h.connected hcons hguard hstep hgoes hjob
        exact agentBus_of_step hcons hstep hgoes (fun n heq => hdown ⟨n, heq⟩)
          (fun now heq => hbeat ⟨now, heq⟩) hlisted hbus

lemma staffed_of_reachable (h : ReachableUnder system Tolerates s) : Staffed s := by
  induction h with
  | init hinit =>
    obtain ⟨threshold, cfgs, heq⟩ := hinit
    have f := jobFrame_start threshold cfgs
    rw [heq]
    refine ⟨fun job hjob => ?_, fun _ r serial job hhandler => ?_⟩
    · rw [f.jobs] at hjob
      exact absurd hjob List.not_mem_nil
    · rw [f.request] at hhandler
      exact absurd hhandler (by simp [controllerNew])
  | step hreach hguard hstep ih =>
    obtain ⟨gap, hcons⟩ := consistent_of_reachable hreach.reachable (step_eq_some_iff.mp hstep).1
    exact ih.step hcons (jobInv_of_reachable hreach.reachable) hguard hstep

/-- In a run all of whose late messages are idle every job is one of a connected node, and a late
message disturbs nothing. -/
theorem manned_of_tolerates (h : ReachableUnder system Tolerates s) :
    Manned s ∧ ∀ e s', s.Late e → s.Tolerates e → s.step e = some s' → Undisturbed s s' := by
  refine ⟨(staffed_of_reachable h).manned, fun e s' hlate hguard hstep => ?_⟩
  have ⟨gap, hcons⟩ := consistent_of_reachable h.reachable (step_eq_some_iff.mp hstep).1
  exact undisturbed_of_step hcons hlate (hguard hlate) hstep

def timedNode : Controller := start 5 [⟨"n", none, []⟩]

/-- The agent is given up and registers again, and a job is started on its new connection. -/
def registersAgain : List Event :=
  [.accept ⟨some none, none⟩ fun _ => false,
    .register 2 1 "n" 1 1 ⟨some none, none⟩ fun _ => false,
    .heartbeatTimer 1000000,
    .accept ⟨some none, none⟩ fun _ => false,
    .register 4 2 "n" 1000000 1000000 ⟨some none, none⟩ fun _ => false,
    .lifecycle 1 3 .startUnit "a.service" "replace" 5 true, .agentReply 7 (.ok [])]

/-- A signal comes in from the old connection. -/
def lateSignal : Event := .agentSignal 3 1 (.jobStateChanged 1 "running")

/-- The job stays listed, on the new connection. -/
theorem manned_of_tolerates_registersAgain : ∃ s s', run system timedNode registersAgain = some s ∧
    s.Late lateSignal ∧ s.step lateSignal = some s' ∧ s'.jobs.map (·.id) = [1] ∧ Manned s' ∧
      Undisturbed s s' := by
  have hread : (run system timedNode registersAgain).map (fun s => (decide (s.Late lateSignal),
      (s.step lateSignal).map fun s => s.jobs.map (·.id))) = some (true, some [1]) := by decide +kernel
  have htimely : GuardedRun system (fun s e => ¬s.Late e) timedNode registersAgain := by decide +kernel
  obtain ⟨s, hs, hfacts⟩ := Option.map_eq_some_iff.mp hread
  obtain ⟨hlate, hnext⟩ := Prod.mk.inj hfacts
  obtain ⟨s', hstep, hjobs⟩ := Option.map_eq_some_iff.mp hnext
  have hlate := of_decide_eq_true hlate
  have hinit : ReachableUnder system (fun s e => ¬s.Late e) timedNode := .init ⟨5, _, rfl⟩
  have hreach : ReachableUnder system Tolerates s :=
    (hinit.run htimely hs).mono fun _ _ hnot hlate => absurd hlate hnot
  have hidle : s.Tolerates lateSignal := fun _ => trivial
  exact ⟨s, s', hs, hlate, hstep, hjobs, (manned_of_tolerates (.step hreach hidle hstep)).1,
    (manned_of_tolerates hreach).2 lateSignal s' hlate hidle hstep⟩

/-- The agent is given up while a lifecycle call is outstanding. -/
def callOutstanding : List Event :=
  [.accept ⟨some none, none⟩ fun _ => false,
    .register 2 1 "n" 1 1 ⟨some none, none⟩ fun _ => false,
    .lifecycle 1 2 .startUnit "a.service" "replace" 5 true, .heartbeatTimer 1000000]

/-- The reply that comes after that lists a job of the node, which has no connection. -/
theorem lateReply_lists : ∃ s s', Reachable system s ∧ s.Late (.agentReply 5 (.ok [])) ∧
    s.step (.agentReply 5 (.ok [])) = some s' ∧ ¬Undisturbed s s' ∧ ¬Manned s' := by
  have hread : (run system timedNode callOutstanding).map (fun s =>
      ((decide (s.Late (.agentReply 5 (.ok []))), s.jobs),
        (s.step (.agentReply 5 (.ok []))).map fun s => s.jobs.map fun job =>
          (job.ptr, (s.node job.node).agentBus))) = some ((true, []), some [(4, none)]) := by
    decide +kernel
  obtain ⟨s, hs, hfacts⟩ := Option.map_eq_some_iff.mp hread
  obtain ⟨hbefore, hafter⟩ := Prod.mk.inj hfacts
  obtain ⟨hlate, hnone⟩ := Prod.mk.inj hbefore
  obtain ⟨s', hstep, hjobs⟩ := Option.map_eq_some_iff.mp hafter
  have hinit : Reachable system timedNode := .init ⟨5, _, rfl⟩
  have hmem : (4, none) ∈ s'.jobs.map fun job => (job.ptr, (s'.node job.node).agentBus) := by
    rw [hjobs]
    exact List.mem_singleton.mpr rfl
  obtain ⟨job, hjob, heq⟩ := List.mem_map.mp hmem
  refine ⟨s, s', hinit.run hs, of_decide_eq_true hlate, hstep, fun h => ?_, fun h => ?_⟩
  · obtain ⟨job', hjob', _⟩ := h.job_node hjob
    rw [hnone] at hjob'
    exact List.not_mem_nil hjob'
  · exact h job hjob (Prod.mk.inj heq).2

end Controller
end BlueChi
