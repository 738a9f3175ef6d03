import BlueChi.Controller.System

/-!
# Steps that have nothing to do with jobs

Most functions of the controller leave the listed jobs, the requests and the references of both
alone and announce no job (`JobFrame`). This module has one lemma for each of them.
-/

namespace BlueChi
namespace Controller

/-- The messages that announce neither a job nor the status of the system. -/
def otherKinds : List OutputKind :=
  [.status, .notice, .reply, .table, .dependency, .request, .metrics, .heartbeat]

/-- The jobs, the requests and their references are the same, and neither a job nor the status of
the system is announced. -/
structure JobFrame (s s' : Controller) : Prop where
  jobs : s'.jobs = s.jobs
  exported : s'.exportedJobs = s.exportedJobs
  request : s'.request = s.request
  nextPtr : s.nextPtr ≤ s'.nextPtr
  refs : ∀ obj, ofRequests obj = true → s'.refs obj = s.refs obj
  emits : Emits otherKinds s s'

namespace JobFrame

variable {s s' s'' : Controller}

theorem refl (s : Controller) : JobFrame s s :=
  ⟨rfl, rfl, rfl, le_refl _, fun _ _ => rfl, .refl _ s⟩

theorem trans (h : JobFrame s s') (h' : JobFrame s' s'') : JobFrame s s'' where
  jobs := h'.jobs.trans h.jobs
  exported := h'.exported.trans h.exported
  request := h'.request.trans h.request
  nextPtr := h.nextPtr.trans h'.nextPtr
  refs obj hobj := (h'.refs obj hobj).trans (h.refs obj hobj)
  emits := h.emits.trans h'.emits

theorem foldl {α : Type} {f : Controller → α → Controller} (hf : ∀ s x, JobFrame s (f s x))
    (xs : List α) (s : Controller) : JobFrame s (xs.foldl f s) := by
  induction xs generalizing s with
  | nil => exact .refl s
  | cons x xs ih => exact (hf s x).trans (ih _)

theorem of_proxy (h : ProxyFrame s s') : JobFrame s s' where
  jobs := by rw [h.rest]
  exported := by rw [h.rest]
  request := by rw [h.rest]
  nextPtr := by rw [h.rest]
  refs := h.refs
  emits := h.emits.mono (by simp [otherKinds])

theorem of_subscription {told : ProxyMonitorId → Prop} (h : SubscriptionFrame told s s') :
    JobFrame s s' :=
  of_proxy (.of_subscription h)

end JobFrame

lemma jobFrame_emit (s : Controller) {o : Output} (ho : o.kind ∈ otherKinds) :
    JobFrame s (s.emit o) :=
  ⟨rfl, rfl, rfl, le_refl _, fun _ _ => rfl, emits_emit s ho⟩

lemma jobFrame_sendAgent (s : Controller) (n : NodeId) (call : AgentCall) :
    JobFrame s (s.sendAgent n call) := by
  unfold sendAgent
  split
  · exact .refl s
  · exact jobFrame_emit s (by cases call <;> simp [Output.kind, AgentCall.kind, otherKinds])

lemma jobFrame_modifyNode (s : Controller) (n : NodeId) (f : Node → Node) :
    JobFrame s (s.modifyNode n f) :=
  ⟨rfl, rfl, rfl, le_refl _, fun _ _ => rfl, .of_log_eq rfl⟩

lemma jobFrame_applyNode (s : Controller) (n : NodeId) (f : NodeStep) :
    JobFrame s (s.applyNode n f) := by
  unfold applyNode
  refine (jobFrame_modifyNode s n _).trans (JobFrame.foldl (fun s eff => ?_) _ _)
  cases eff with
  | send call => exact jobFrame_sendAgent s n call
  | notify subs unit ev => exact .of_subscription (.of_notify (notifyFrame_handleAll s subs _ _ ev))

lemma jobFrame_newRef (s : Controller) (obj : Obj) (hobj : ofRequests obj = false) :
    JobFrame s (s.newRef obj) := by
  refine ⟨rfl, rfl, rfl, le_refl _, fun obj' hobj' => ?_, .of_log_eq rfl⟩
  have hne : obj' ≠ obj := by
    rintro rfl
    simp [hobj] at hobj'
  simp [newRef, hne]

lemma jobFrame_takeRef (s : Controller) (obj : Obj) (o : Owner) (hobj : ofRequests obj = false) :
    JobFrame s (s.takeRef obj o) :=
  .of_proxy (proxyFrame_takeRef s o hobj)

/-! ## Requests and metrics -/

lemma jobFrame_unlistRequest (s : Controller) (r : RequestId) :
    JobFrame s (s.unlistRequest r) :=
  ⟨rfl, rfl, rfl, le_refl _, fun _ _ => rfl, .of_log_eq rfl⟩

lemma jobFrame_modifyFleet (s : Controller) (q : FleetId)
    (f : AgentFleetRequest → AgentFleetRequest) : JobFrame s (s.modifyFleet q f) :=
  ⟨rfl, rfl, rfl, le_refl _, fun _ _ => rfl, .of_log_eq rfl⟩

/-! ## Connections -/

lemma jobFrame_addMatches (n : NodeId) (bus : BusId) (fails : BusCall → Bool)
    (members : List AgentMember) (s : Controller) :
    JobFrame s (addMatches n bus fails members s).2 := by
  induction members generalizing s with
  | nil => exact .refl s
  | cons member members ih =>
    unfold addMatches
    split
    · exact .refl s
    · have hadd : JobFrame s (s.addMatch n bus member) :=
        ⟨rfl, rfl, rfl, le_refl _, fun _ _ => rfl, .of_log_eq rfl⟩
      exact hadd.trans (ih _)

lemma jobFrame_nodeAddRegistrations (s : Controller) (n : NodeId) (bus : BusId)
    (fails : BusCall → Bool) : JobFrame s (s.nodeAddRegistrations n bus fails).2 := by
  unfold nodeAddRegistrations
  split
  · split
    · exact .of_proxy (proxyFrame_nodeUnsetAgentBus s n)
    · dsimp only
      exact jobFrame_modifyNode s n _
  · have hfirst := jobFrame_addMatches n bus fails firstMembers s
    split
    · rename_i s' heq
      simpa [heq] using hfirst
    · rename_i s' heq
      rw [heq] at hfirst
      refine hfirst.trans (JobFrame.trans ?_ (jobFrame_addMatches n bus fails _ _))
      exact jobFrame_emit s' (by simp [Output.kind, otherKinds])

lemma jobFrame_nodeSetAgentBus (s : Controller) (n : NodeId) (bus : BusId) (peer : PeerInfo)
    (fails : BusCall → Bool) : JobFrame s (s.nodeSetAgentBus n bus peer fails).2 := by
  have hstore := (jobFrame_modifyNode s n (storeAgentBus bus peer)).trans
    (jobFrame_nodeAddRegistrations (s.modifyNode n (storeAgentBus bus peer)) n bus fails)
  unfold nodeSetAgentBus
  split
  · exact .refl s
  · split
    · rename_i s' heq
      simpa [heq] using hstore
    · rename_i s' heq
      rw [heq] at hstore
      split
      · exact hstore.trans (.of_proxy (proxyFrame_nodeUnsetAgentBus s' n))
      · exact ((hstore.trans (jobFrame_modifyNode s' n _)).trans
          (jobFrame_applyNode _ n _)).trans (jobFrame_applyNode _ n _)

lemma jobFrame_nodeEnableMetrics (fails : BusCall → Bool) (s : Controller) (n : NodeId) :
    JobFrame s (nodeEnableMetrics fails s n) := by
  have hsend := jobFrame_sendAgent s n .enableMetrics
  unfold nodeEnableMetrics
  split
  · simp only
    split
    · exact hsend
    · exact hsend.trans (jobFrame_modifyNode _ n _)
  · exact .refl s

lemma jobFrame_nodeDisableMetrics (s : Controller) (n : NodeId) :
    JobFrame s (nodeDisableMetrics s n) := by
  unfold nodeDisableMetrics
  split
  · exact (jobFrame_sendAgent s n .disableMetrics).trans (jobFrame_modifyNode _ n _)
  · exact .refl s

lemma jobFrame_addNode (s : Controller) (name : Option String) : JobFrame s (s.addNode name) := by
  have halloc : JobFrame s (s.nodeAlloc name) := by
    refine ⟨rfl, rfl, rfl, Nat.le_succ _, fun obj hobj => ?_, .of_log_eq rfl⟩
    exact (jobFrame_newRef s (.node s.nextPtr) rfl).refs obj hobj
  unfold addNode
  cases name with
  | none => exact halloc.trans ⟨rfl, rfl, rfl, le_refl _, fun _ _ => rfl, .of_log_eq rfl⟩
  | some name => exact halloc.trans ⟨rfl, rfl, rfl, le_refl _, fun _ _ => rfl, .of_log_eq rfl⟩

/-- A Register that is refused announces nothing, and after one that is accepted the nodes online
are counted. -/
lemma jobFrame_nodeMethodRegister (s : Controller) (a : NodeId) (serial : Serial) (name : String)
    (now nowMonotonic : UInt64) (peer : PeerInfo) (fails : BusCall → Bool) :
    JobFrame s (s.nodeMethodRegister a serial name now nowMonotonic peer fails) ∨
      ∃ t, JobFrame s t ∧ s.nodeMethodRegister a serial name now nowMonotonic peer fails =
        (t.countOnline 1).emit (.reply serial .empty) := by
  have hreply : ∀ s o, o.kind = .reply → JobFrame s (s.emit o) := fun s o ho =>
    jobFrame_emit s (by simp [ho, otherKinds])
  unfold nodeMethodRegister
  split
  · exact Or.inl (hreply s _ rfl)
  · exact Or.inl (.refl s)
  · rename_i n bus _ _
    simp only
    have hset := (jobFrame_modifyNode s n fun node =>
      { node with lastSeen := now, lastSeenMonotonic := nowMonotonic }).trans
        (jobFrame_nodeSetAgentBus _ n bus peer fails)
    split
    · rename_i s' heq
      rw [heq] at hset
      exact Or.inl (hset.trans (hreply s' _ rfl))
    · rename_i s' heq
      rw [heq] at hset
      refine Or.inr ⟨_, hset.trans (JobFrame.trans ?_ (.of_proxy
        (proxyFrame_nodeUnsetAgentBus _ a))), rfl⟩
      split
      · exact jobFrame_nodeEnableMetrics fails s' n
      · exact .refl s'

/-! ## Monitors -/

lemma jobFrame_modifyMonitor (s : Controller) (m : MonitorId) (f : Monitor → Monitor) :
    JobFrame s (s.modifyMonitor m f) :=
  ⟨rfl, rfl, rfl, le_refl _, fun _ _ => rfl, .of_log_eq rfl⟩

lemma jobFrame_monitorUnref (s : Controller) (m : MonitorId) (o : Owner) :
    JobFrame s (s.monitorUnref m o) :=
  .of_subscription (subscriptionFrame_monitorUnref (fun _ => False) s m o)

lemma jobFrame_subscriptionUnref (s : Controller) (sub : Subscription) (o : Owner) :
    JobFrame s (s.subscriptionUnref sub o) :=
  .of_subscription (subscriptionFrame_subscriptionUnref (fun _ => False) s sub o)

lemma jobFrame_createMonitor (s : Controller) (serial : Serial) (owner : String)
    (exported : Bool) : JobFrame s (s.createMonitor serial owner exported) := by
  have hnew : JobFrame s (s.monitorNew owner) := by
    refine ⟨rfl, rfl, rfl, Nat.le_succ _, fun obj hobj => ?_, .of_log_eq rfl⟩
    exact (jobFrame_newRef s (.monitor s.nextPtr) rfl).refs obj hobj
  have happend : ∀ s m, JobFrame s (s.appendMonitor m) := fun s m => by
    refine ⟨rfl, rfl, rfl, le_refl _, fun obj hobj => ?_, .of_log_eq rfl⟩
    exact (jobFrame_takeRef s (.monitor m) .list rfl).refs obj hobj
  unfold createMonitor
  simp only
  refine JobFrame.trans ?_ (jobFrame_monitorUnref _ _ _)
  split
  · refine JobFrame.trans ?_ (happend _ _)
    refine JobFrame.trans ?_ (jobFrame_emit _ (by simp [Output.kind, otherKinds]))
    exact hnew.trans (jobFrame_modifyMonitor _ _ _)
  · exact hnew.trans (jobFrame_emit _ (by simp [Output.kind, otherKinds]))

lemma jobFrame_monitorMethodSubscribe (s : Controller) (m : MonitorId) (serial : Serial)
    (node : String) (units : List String) :
    JobFrame s (s.monitorMethodSubscribe m serial node units) := by
  have hnew : JobFrame s (s.createMonitorSubscription m node units).2 := by
    refine ⟨rfl, rfl, rfl, Nat.le_succ _, fun obj hobj => ?_, .of_log_eq rfl⟩
    exact ((jobFrame_newRef s (.subscription s.nextPtr) rfl).trans
      (jobFrame_takeRef _ (.monitor m) (.subscription s.nextPtr) rfl)).refs obj hobj
  have happend : ∀ s sub, JobFrame s (s.appendMonitorSubscription m sub) := fun s sub =>
    (jobFrame_takeRef s _ _ rfl).trans (jobFrame_modifyMonitor _ m _)
  unfold monitorMethodSubscribe
  refine JobFrame.trans ?_ (jobFrame_subscriptionUnref _ _ _)
  refine JobFrame.trans ?_ (jobFrame_emit _ (by simp [Output.kind, otherKinds]))
  exact (hnew.trans (happend _ _)).trans
    (.of_subscription (subscriptionFrame_addSubscription _ _))

lemma jobFrame_removeMonitorSubscription (s : Controller) (m : MonitorId) (sub : Subscription) :
    JobFrame s (s.removeMonitorSubscription m sub) := by
  unfold removeMonitorSubscription
  refine JobFrame.trans ?_ (jobFrame_subscriptionUnref _ sub _)
  refine JobFrame.trans ?_ (jobFrame_modifyMonitor _ m _)
  exact (JobFrame.of_subscription (subscriptionFrame_removeSubscription (fun _ => False) s sub)).trans
    ⟨rfl, rfl, rfl, le_refl _, fun _ _ => rfl, .of_log_eq rfl⟩

lemma jobFrame_monitorMethodUnsubscribe (s : Controller) (m : MonitorId) (serial : Serial)
    (subId : UInt32) : JobFrame s (s.monitorMethodUnsubscribe m serial subId) := by
  unfold monitorMethodUnsubscribe
  split
  · exact jobFrame_emit s (by simp [Output.kind, otherKinds])
  · exact (jobFrame_removeMonitorSubscription s m _).trans
      (jobFrame_emit _ (by simp [Output.kind, otherKinds]))

lemma jobFrame_monitorMethodAddPeer (s : Controller) (m : MonitorId) (serial : Serial)
    (name : String) : JobFrame s (s.monitorMethodAddPeer m serial name) := by
  unfold monitorMethodAddPeer
  split
  · exact jobFrame_emit s (by simp [Output.kind, otherKinds])
  · split
    · exact jobFrame_emit s (by simp [Output.kind, otherKinds])
    · have hadd : JobFrame s (s.monitorAddPeer m name) :=
        ⟨rfl, rfl, rfl, le_refl _, fun _ _ => rfl, .of_log_eq rfl⟩
      exact hadd.trans (jobFrame_emit _ (by simp [Output.kind, otherKinds]))

lemma jobFrame_monitorMethodRemovePeer (s : Controller) (m : MonitorId) (serial : Serial)
    (peerId : UInt32) (reason : String) :
    JobFrame s (s.monitorMethodRemovePeer m serial peerId reason) := by
  unfold monitorMethodRemovePeer
  split
  · exact jobFrame_emit s (by simp [Output.kind, otherKinds])
  · refine JobFrame.trans ?_ (jobFrame_emit _ (by simp [Output.kind, otherKinds]))
    exact (jobFrame_emit s (by simp [Output.kind, otherKinds])).trans
      (jobFrame_modifyMonitor _ m _)

lemma jobFrame_monitorClose (s : Controller) (m : MonitorId) : JobFrame s (s.monitorClose m) := by
  have hpeers : ∀ s, JobFrame s (s.closePeers m) := fun s => by
    unfold closePeers
    refine JobFrame.trans (JobFrame.foldl (fun s peer => ?_) _ s) (jobFrame_modifyMonitor _ m _)
    exact jobFrame_emit s (by simp [Output.kind, otherKinds])
  exact (JobFrame.foldl (fun s sub => jobFrame_removeMonitorSubscription s m sub) _ s).trans
    (hpeers _)

lemma jobFrame_removeMonitor (s : Controller) (m : MonitorId) :
    JobFrame s (s.removeMonitor m) := by
  have hunlist : JobFrame s (s.unlistMonitor m) :=
    ⟨rfl, rfl, rfl, le_refl _, fun _ _ => rfl, .of_log_eq rfl⟩
  exact hunlist.trans (jobFrame_monitorUnref _ m .list)

lemma jobFrame_monitorMethodClose (s : Controller) (m : MonitorId) (serial : Serial) :
    JobFrame s (s.monitorMethodClose m serial) := by
  have htake : JobFrame s (s.takeRef (.monitor m) .handler) := jobFrame_takeRef s _ .handler rfl
  unfold monitorMethodClose
  refine JobFrame.trans ?_ (jobFrame_monitorUnref _ m _)
  refine htake.trans ?_
  split
  · exact jobFrame_emit _ (by simp [Output.kind, otherKinds])
  · exact ((jobFrame_monitorClose _ m).trans (jobFrame_removeMonitor _ m)).trans
      (jobFrame_emit _ (by simp [Output.kind, otherKinds]))

lemma jobFrame_nameOwnerChanged (s : Controller) (name newOwner : String) :
    JobFrame s (s.nameOwnerChanged name newOwner) := by
  unfold nameOwnerChanged
  split
  · refine JobFrame.foldl (fun s m => ?_) _ s
    unfold closeOwned
    split
    · exact (jobFrame_monitorClose s m).trans (jobFrame_removeMonitor _ m)
    · exact .refl s
  · exact .refl s

lemma jobFrame_methodMetricsEnable (s : Controller) (serial : Serial) (exported : Bool)
    (fails : BusCall → Bool) : JobFrame s (s.methodMetricsEnable serial exported fails) := by
  have hreply : ∀ s o, o.kind = .reply → JobFrame s (s.emit o) := fun s o ho =>
    jobFrame_emit s (by simp [ho, otherKinds])
  unfold methodMetricsEnable
  split
  · exact hreply s _ rfl
  · split
    · exact hreply s _ rfl
    · refine JobFrame.trans ?_ (hreply _ _ rfl)
      have hset : JobFrame s { s with metricsEnabled := true } :=
        ⟨rfl, rfl, rfl, le_refl _, fun _ _ => rfl, .of_log_eq rfl⟩
      exact hset.trans (JobFrame.foldl (jobFrame_nodeEnableMetrics fails) _ _)

lemma jobFrame_methodMetricsDisable (s : Controller) (serial : Serial) :
    JobFrame s (s.methodMetricsDisable serial) := by
  have hreply : ∀ s o, o.kind = .reply → JobFrame s (s.emit o) := fun s o ho =>
    jobFrame_emit s (by simp [ho, otherKinds])
  unfold methodMetricsDisable
  split
  · exact hreply s _ rfl
  · refine JobFrame.trans ?_ (hreply _ _ rfl)
    have hset : JobFrame s { s with metricsEnabled := false } :=
      ⟨rfl, rfl, rfl, le_refl _, fun _ _ => rfl, .of_log_eq rfl⟩
    exact hset.trans (JobFrame.foldl jobFrame_nodeDisableMetrics _ _)

end Controller
end BlueChi
