import BlueChi.Controller.NodeMoves

/-!
# The moves of an event

Every event but the stop is a list of moves of each listed node (`follows_of_step`). Which moves
these are depends on whether the event is one of the node's own agent (`Event.Moves`).
-/

namespace BlueChi
namespace Controller

variable {gap : ℤ} {t : NodeId} {s s' : Controller}

/-- A listed node has references, so it is not freed. -/
lemma Released.of_listed (h : Released t s s') (hcons : Consistent gap s') (ht : t ∈ s.nodes) :
    Adjusted t s s' :=
  h.adjusted ((hcons.held.wf t).count_pos
    (hcons.held.owners t .creator (Or.inl (h.nodes.symm ▸ ht))))

/-! ## Jobs -/

lemma still_jobUnref (s : Controller) (ptr : ℕ) (o : Owner) : Still t s (s.jobUnref ptr o) := by
  unfold jobUnref
  simp only
  split <;> exact .of_eq rfl rfl rfl

lemma still_addJob (s : Controller) (job : Job) : Still t s (s.addJob job).2 := by
  unfold addJob
  split
  · exact .refl t s
  · have hsignal : Still t (s.jobExport job) ((s.jobExport job).emit (.jobNew job)) :=
      still_emit _ rfl
    exact Still.trans (.trans (.of_eq rfl rfl rfl) hsignal) (.of_eq rfl rfl rfl)

lemma still_removeJob (sync : SyncCalls) (s : Controller) (job : Job) (result : String) :
    Still t s (s.removeJob sync job result) := by
  have hsignal : Still t s (s.emit (.jobRemoved job (s.nodeName job.node) result)) :=
    still_emit s rfl
  have hlist := hsignal.trans (.of_eq rfl rfl rfl : Still t _ ((s.emit
    (.jobRemoved job (s.nodeName job.node) result)).unlistJob job))
  have hreport : ∀ s : Controller, Still t s (s.metricsProduceJobReport sync job) := by
    intro s
    unfold metricsProduceJobReport
    split
    · exact .refl t s
    · split
      · exact .refl t s
      · exact still_emit s rfl
  unfold removeJob
  refine Still.trans ?_ (still_jobUnref _ _ _)
  split
  · exact hlist.trans (hreport _)
  · exact hlist

lemma still_jobStateChanged (s : Controller) (jobId : UInt32) (state : String) :
    Still t s (s.jobStateChanged jobId state) := by
  unfold jobStateChanged
  split
  · exact .refl t s
  · exact (still_emit _ rfl).after (.of_eq rfl rfl rfl)

lemma still_finishJob (sync : SyncCalls) (s : Controller) (jobId : UInt32) (result : String)
    (now : UInt64) : Still t s (s.finishJob sync jobId result now) := by
  unfold finishJob
  split
  · exact .refl t s
  · exact (still_removeJob sync _ _ result).after (.of_eq rfl rfl rfl)

lemma still_dropJob (n : NodeId) (s : Controller) (job : Job) : Still t s (dropJob n s job) := by
  unfold dropJob
  split
  · exact (still_jobUnref _ job.ptr .list).after (.of_eq rfl rfl rfl)
  · exact .refl t s

/-! ## Requests -/

lemma still_nodeCreateRequest (s : Controller) (n : NodeId) (handler : RequestHandler) :
    Still t s (s.nodeCreateRequest n handler) := by
  have hnode : Still t ((s.newRef (.request s.nextPtr)).takeRef (.node n) (.request s.nextPtr))
      (((s.newRef (.request s.nextPtr)).takeRef (.node n) (.request s.nextPtr)).modifyNode n
        fun node => { node with outstandingRequests := node.outstandingRequests ++ [s.nextPtr] }) :=
    still_modifyNode _ n fun _ => rfl
  exact Still.trans (.trans (.of_eq rfl rfl rfl) hnode) (.of_eq rfl rfl rfl)

lemma still_agentRequestStart (s : Controller) (r : RequestId) (call : AgentCall)
    (hcall : call.kind = .request) : Still t s (s.agentRequestStart r call) := by
  have hsend : Still t s (s.sendAgent (s.request r).node call) :=
    still_sendAgent s _ (by simp [hcall])
  exact hsend.trans (.of_eq rfl rfl rfl)

lemma released_agentRequestUnref (s : Controller) (r : RequestId) (o : Owner) :
    Released t s (s.agentRequestUnref r o) := by
  have hdrop : Released t s (s.dropRef (.request r) o) := released_dropRef s _ o
  unfold agentRequestUnref
  simp only
  split
  · refine hdrop.trans (Released.trans ?_ (released_nodeUnref _ _ _))
    have hcore := (coreFrame_freeUserdata (s.dropRef (.request r) o)
      ((s.dropRef (.request r) o).request r).handler).trans (coreFrame_unlistRequest _ r)
    refine .of_adjusted (Still.adjusted ?_) hcore.nodes (hcore.refs _ rfl)
    have hfree : ∀ (s : Controller) (handler : RequestHandler),
        Still t s (s.freeUserdata handler) := by
      intro s handler
      cases handler with
      | lifecycle serial job => exact still_jobUnref s job.ptr .creator
      | _ => exact .refl t s
    have hlist : ∀ s : Controller, Still t s (s.unlistRequest r) := by
      intro s
      have hnode : Still t (s.listRemove (.outstandingRequests (s.request r).node)
          (r ∈ (s.node (s.request r).node).outstandingRequests))
          ((s.listRemove (.outstandingRequests (s.request r).node)
            (r ∈ (s.node (s.request r).node).outstandingRequests)).modifyNode (s.request r).node
              fun node => { node with outstandingRequests := node.outstandingRequests.erase r }) :=
        still_modifyNode _ _ fun _ => rfl
      exact Still.trans (.trans (.of_eq rfl rfl rfl) hnode) (.of_eq rfl rfl rfl)
    exact (hfree _ _).trans (hlist _)
  · exact hdrop

lemma released_agentFleetRequestMaybeDone (s : Controller) (q : FleetId) :
    Released t s (s.agentFleetRequestMaybeDone q) := by
  have hfree : ∀ s : Controller, Released t s (s.agentFleetRequestFree q) := by
    intro s
    have hrecord : Released t s (s.freeFleet q) :=
      .of_adjusted (Still.adjusted (.of_eq rfl rfl rfl)) rfl rfl
    unfold agentFleetRequestFree
    apply hrecord.trans
    apply Released.foldl
    intro s sub
    exact (released_nodeUnref s sub.node (.fleet q)).trans
      (released_agentRequestUnref _ sub.agentReq .creator)
  unfold agentFleetRequestMaybeDone
  split
  · have hreply : ∀ o : Output, o.about t = none → Released t s (s.emit o) := fun o ho =>
      .of_adjusted (still_emit s ho).adjusted rfl rfl
    unfold agentFleetRequestDone
    simp only
    cases s.encodeReply (s.fleet q).subReq with
    | error message => exact (hreply _ rfl).trans (hfree _)
    | ok rows => exact (hreply _ rfl).trans (hfree _)
  · exact .refl t s

lemma released_requestCallback (s : Controller) (r : RequestId) (m : AgentAnswer) :
    Released t s (s.requestCallback r m) := by
  have hemit : ∀ (s : Controller) (o : Output), o.about t = none → Released t s (s.emit o) :=
    fun s o ho => .of_adjusted (still_emit s ho).adjusted rfl rfl
  unfold requestCallback
  split
  · exact hemit s _ rfl
  · rename_i serial job rows hhandler
    have hadd : Released t s (s.addJob job).2 := by
      refine .of_adjusted (still_addJob s job).adjusted ?_ ?_ <;>
      · unfold addJob
        split
        · rfl
        · simp [appendJob, jobExport]
    split
    · rename_i u hjob
      rwa [hjob] at hadd
    · rename_i u hjob
      rw [hjob] at hadd
      exact hadd.trans (hemit u _ rfl)
  · exact hemit s _ rfl
  · exact hemit s _ rfl
  · exact .refl t s
  · exact (released_agentFleetRequestMaybeDone _ _).after
      (.of_adjusted (Still.adjusted (.of_eq rfl rfl rfl)) rfl rfl)

lemma released_agentRequestCallback {r : RequestId} {m : AgentAnswer}
    (hstep : s.agentRequestCallback r m = some s') : Released t s s' := by
  unfold agentRequestCallback at hstep
  split at hstep
  · rw [Option.some.injEq] at hstep
    subst hstep
    have herase : Released t s { s with pendingRequests := s.pendingRequests.erase r } :=
      .of_adjusted (Still.adjusted (.of_eq rfl rfl rfl)) rfl rfl
    have hrun : ∀ s : Controller, Released t s (s.runCallback r) := fun _ =>
      .of_adjusted (Still.adjusted (.of_eq rfl rfl rfl)) rfl rfl
    refine Released.trans ?_ (released_agentRequestUnref _ r .pending)
    split
    · exact herase
    · exact (herase.trans (hrun _)).trans (released_requestCallback _ r m)
  · simp at hstep

lemma adjusted_runRequest (hcons : Consistent gap s) (ht : t ∈ s.nodes) {n : ℕ} (hn : n ∈ s.nodes)
    (serial : Serial) {handler : RequestHandler} (hhandler : Consistent.Lists s handler)
    {call : RequestId → AgentCall} (hcall : ∀ r, (call r).kind = .request) (started : Bool)
    (failure : String) : Adjusted t s (s.runRequest n serial handler call started failure) := by
  have hafter := hcons.runRequest hn serial hhandler call started failure
  have hcreate : Still t s (s.nodeCreateRequest n handler) := still_nodeCreateRequest s n handler
  unfold runRequest at hafter ⊢
  simp only at hafter ⊢
  split at hafter
  · rename_i hstarted
    rw [if_pos hstarted]
    exact (hcreate.trans (still_agentRequestStart _ _ _ (hcall _))).adjusted.trans
      ((released_agentRequestUnref _ _ _).of_listed hafter (by simpa using ht))
  · rename_i hstarted
    rw [if_neg hstarted]
    exact (hcreate.trans (still_emit _ rfl)).adjusted.trans
      ((released_agentRequestUnref _ _ _).of_listed hafter (by simpa using ht))

/-- The loop of a fleet request. -/
lemma adjusted_startSubRequests {q : FleetId} (method : String) (starts : NodeId → Bool)
    (ns : List NodeId) : ∀ {s : Controller}, Consistent.OpenFleet gap q ns.length s →
      (∀ n ∈ ns, n ∈ s.nodes) → t ∈ s.nodes →
      Adjusted t s (ns.foldl (startSubRequest q method starts) s) ∧
        (ns.foldl (startSubRequest q method starts) s).nodes = s.nodes := by
  induction ns with
  | nil => exact fun _ _ _ => ⟨.refl t _, rfl⟩
  | cons n ns ih =>
    intro s h hns ht
    have ⟨hround, hnodes⟩ := h.round (hns n (by simp)) method starts
    have ⟨hrest, hnodes'⟩ := ih hround (fun k hk => hnodes.symm ▸ hns k (by simp [hk]))
      (hnodes.symm ▸ ht)
    refine ⟨Adjusted.trans ?_ hrest, hnodes'.trans hnodes⟩
    have hcons := hround.consistent
    unfold startSubRequest at hcons ⊢
    simp only at hcons ⊢
    split at hcons
    · rename_i hagent
      rw [if_pos hagent]
      split at hcons
      · rename_i hstarts
        rw [if_pos hstarts]
        refine Still.adjusted ?_
        have hstart := (still_nodeCreateRequest (t := t) s n (.fleet q)).trans
          (still_agentRequestStart _ s.nextPtr (.request s.nextPtr method) rfl)
        exact hstart.trans (.of_eq rfl rfl rfl)
      · rename_i hstarts
        rw [if_neg hstarts]
        exact (still_nodeCreateRequest s n (.fleet q)).adjusted.trans
          ((released_agentRequestUnref _ _ _).of_listed hcons (by simpa using ht))
    · rename_i hagent
      rw [if_neg hagent]
      exact .refl t s

/-! ## Proxies -/

lemma still_proxyMonitorSendError (s : Controller) (p : ProxyMonitorId) (message : String) :
    Still t s (s.proxyMonitorSendError p message) :=
  still_notify (notifyFrame_proxyMonitorCall s p rfl)

lemma still_proxyMonitorNew (s : Controller) (n : NodeId) (name unit path : String) :
    Still t s (s.proxyMonitorNew n name unit path) := .of_eq rfl rfl rfl

/-- The handler of a new proxy, once the proxy monitor is made. -/
lemma adjusted_onProxyMonitor (hcons : Consistent gap s) (ht : t ∈ s.nodes) (n : NodeId)
    (p : ProxyMonitorId) (name unit : String) : Adjusted t s (s.onProxyMonitor n p name unit) := by
  unfold onProxyMonitor
  split
  · exact (still_proxyMonitorSendError s p _).adjusted
  · rename_i k _
    split
    · -- what follows the removal of an old proxy monitor
      have hrest : ∀ s : Controller, Adjusted t s (((s.proxyMonitorSetTargetNode p k).addSubscription
          ((s.proxyMonitorSetTargetNode p k).proxyMonitor p).subscription).appendProxyMonitor n p) := by
        intro s
        have happend : ∀ s : Controller, Still t s (s.appendProxyMonitor n p) := fun s =>
          (still_modifyNode _ n fun _ => rfl).after (.of_eq rfl rfl rfl)
        exact ((adjusted_proxyMonitorSetTargetNode s p k).trans (adjusted_addSubscription _ _)).trans
          (happend _).adjusted
      cases hfind : s.nodeFindProxyMonitor n name unit with
      | none => exact hrest s
      | some old =>
        have hold := (hcons.nodeRemoveProxyMonitor (List.mem_of_find?_eq_some hfind)).1
        exact ((released_nodeRemoveProxyMonitor released_nodeUnref s n old).of_listed hold ht).trans
          (hrest _)
    · exact (still_proxyMonitorSendError s p _).adjusted

lemma adjusted_nodeOnMatchProxyNew (hcons : Consistent gap s) (ht : t ∈ s.nodes) {n : NodeId}
    (hn : n ∈ s.nodes) (name unit path : String) :
    Adjusted t s (s.nodeOnMatchProxyNew n name unit path) := by
  have hafter := hcons.nodeOnMatchProxyNew hn name unit path
  have ⟨hnew, _⟩ := proxyMonitorNew_spec hcons n name unit path
  have hon := adjusted_onProxyMonitor hnew (t := t) ht n s.nextPtr name unit
  have hnodes : ((s.proxyMonitorNew n name unit path).onProxyMonitor n s.nextPtr name unit).nodes =
      s.nodes := by
    rw [(proxyFrame_onProxyMonitor _ n s.nextPtr name unit).rest]
    rfl
  unfold nodeOnMatchProxyNew at hafter ⊢
  simp only at hafter ⊢
  refine ((still_proxyMonitorNew s n name unit path).adjusted.trans hon).trans ?_
  exact (released_proxyMonitorUnref released_nodeUnref _ _ _).of_listed hafter (hnodes.symm ▸ ht)

lemma released_nodeOnMatchProxyRemoved (s : Controller) (n : NodeId) (name unit : String) :
    Released t s (s.nodeOnMatchProxyRemoved n name unit) := by
  unfold nodeOnMatchProxyRemoved
  split
  · exact .refl t s
  · exact released_nodeRemoveProxyMonitor released_nodeUnref s n _

lemma released_proxyMonitorCallback {p : ProxyMonitorId}
    (hstep : s.proxyMonitorCallback p = some s') : Released t s s' := by
  unfold proxyMonitorCallback at hstep
  split at hstep
  · rw [Option.some.injEq] at hstep
    subst hstep
    exact (released_proxyMonitorUnref released_nodeUnref _ p .call).after
      (.of_adjusted (Still.adjusted (.of_eq rfl rfl rfl)) rfl rfl)
  · simp at hstep

/-! ## Monitors -/

lemma still_createMonitor (s : Controller) (serial : Serial) (owner : String) (exported : Bool) :
    Still t s (s.createMonitor serial owner exported) := by
  have hnew : Still t s (s.monitorNew owner) := .of_eq rfl rfl rfl
  unfold createMonitor
  simp only
  refine hnew.trans (Still.trans ?_ (still_monitorUnref _ _ _))
  split
  · have hexport : Still t (s.monitorNew owner) ((s.monitorNew owner).modifyMonitor s.nextPtr
        fun monitor => { monitor with exportSlot := true }) := .of_eq rfl rfl rfl
    exact (hexport.trans (still_emit _ rfl)).trans (.of_eq rfl rfl rfl)
  · exact still_emit _ rfl

lemma adjusted_monitorMethodSubscribe (s : Controller) (m : MonitorId) (serial : Serial)
    (node : String) (units : List String) :
    Adjusted t s (s.monitorMethodSubscribe m serial node units) := by
  have hcreate : Still t s (s.createMonitorSubscription m node units).2 := .of_eq rfl rfl rfl
  have hlist := hcreate.trans (.of_eq rfl rfl rfl : Still t _ ((s.createMonitorSubscription m node
    units).2.appendMonitorSubscription m (s.createMonitorSubscription m node units).1))
  have hadd := hlist.adjusted.trans (adjusted_addSubscription _
    (s.createMonitorSubscription m node units).1)
  exact hadd.trans ((still_emit _ rfl).trans (still_subscriptionUnref _ _ _)).adjusted

lemma adjusted_removeMonitorSubscription (s : Controller) (m : MonitorId) (sub : Subscription) :
    Adjusted t s (s.removeMonitorSubscription m sub) := by
  unfold removeMonitorSubscription
  refine (adjusted_removeSubscription s sub).trans (Still.adjusted ?_)
  exact (still_subscriptionUnref _ sub .list).after (.of_eq rfl rfl rfl)

lemma adjusted_monitorMethodUnsubscribe (s : Controller) (m : MonitorId) (serial : Serial)
    (subId : UInt32) : Adjusted t s (s.monitorMethodUnsubscribe m serial subId) := by
  unfold monitorMethodUnsubscribe
  split
  · exact (still_emit s rfl).adjusted
  · exact (adjusted_removeMonitorSubscription s m _).trans (still_emit _ rfl).adjusted

lemma still_monitorMethodAddPeer (s : Controller) (m : MonitorId) (serial : Serial)
    (name : String) : Still t s (s.monitorMethodAddPeer m serial name) := by
  unfold monitorMethodAddPeer
  split
  · exact still_emit s rfl
  · split
    · exact still_emit s rfl
    · exact (still_emit _ rfl).after (.of_eq rfl rfl rfl)

lemma still_monitorMethodRemovePeer (s : Controller) (m : MonitorId) (serial : Serial)
    (peerId : UInt32) (reason : String) :
    Still t s (s.monitorMethodRemovePeer m serial peerId reason) := by
  unfold monitorMethodRemovePeer
  split
  · exact still_emit s rfl
  · rename_i peer _
    have hsignal : Still t s (s.emit (.monitorSignal m peer.name (.peerRemoved reason))) :=
      still_emit s rfl
    exact (hsignal.trans (.of_eq rfl rfl rfl)).trans (still_emit _ rfl)

lemma adjusted_monitorClose (s : Controller) (m : MonitorId) : Adjusted t s (s.monitorClose m) := by
  have hpeers : ∀ s : Controller, Still t s (s.closePeers m) := by
    intro s
    refine Still.trans (.foldl (fun s peer => ?_) _ s) (.of_eq rfl rfl rfl)
    exact still_emit s rfl
  unfold monitorClose
  refine Adjusted.trans (.foldl (fun s sub => ?_) _ s) (hpeers _).adjusted
  exact adjusted_removeMonitorSubscription s m sub

lemma still_removeMonitor (s : Controller) (m : MonitorId) : Still t s (s.removeMonitor m) :=
  (still_monitorUnref _ m .list).after (.of_eq rfl rfl rfl)

lemma adjusted_monitorMethodClose (s : Controller) (m : MonitorId) (serial : Serial) :
    Adjusted t s (s.monitorMethodClose m serial) := by
  have htake : Still t s (s.takeRef (.monitor m) .handler) := .of_eq rfl rfl rfl
  unfold monitorMethodClose
  simp only
  refine htake.adjusted.trans (Adjusted.trans ?_ (still_monitorUnref _ _ _).adjusted)
  split
  · exact (still_emit _ rfl).adjusted
  · exact (adjusted_monitorClose _ m).trans
      ((still_removeMonitor _ m).trans (still_emit _ rfl)).adjusted

lemma adjusted_nameOwnerChanged (s : Controller) (name newOwner : String) :
    Adjusted t s (s.nameOwnerChanged name newOwner) := by
  unfold nameOwnerChanged
  split
  · refine Adjusted.foldl (fun s m => ?_) _ s
    unfold closeOwned
    split
    · exact (adjusted_monitorClose s m).trans (still_removeMonitor _ m).adjusted
    · exact .refl t s
  · exact .refl t s

/-! ## Metrics -/

lemma still_nodeEnableMetrics (fails : BusCall → Bool) (s : Controller) (n : NodeId) :
    Still t s (s.nodeEnableMetrics fails n) := by
  have hsend : Still t s (s.sendAgent n .enableMetrics) := still_sendAgent s n (by simp [AgentCall.kind])
  unfold nodeEnableMetrics
  split
  · simp only
    split
    · exact hsend
    · exact hsend.trans (still_modifyNode _ n fun _ => rfl)
  · exact .refl t s

lemma still_nodeDisableMetrics (s : Controller) (n : NodeId) : Still t s (s.nodeDisableMetrics n) := by
  have hsend : Still t s (s.sendAgent n .disableMetrics) :=
    still_sendAgent s n (by simp [AgentCall.kind])
  unfold nodeDisableMetrics
  split
  · exact hsend.trans (still_modifyNode _ n fun _ => rfl)
  · exact .refl t s

lemma still_methodMetricsEnable (s : Controller) (serial : Serial) (exported : Bool)
    (fails : BusCall → Bool) : Still t s (s.methodMetricsEnable serial exported fails) := by
  unfold methodMetricsEnable
  split
  · exact still_emit s rfl
  · split
    · exact still_emit s rfl
    · have henable : Still t s { s with metricsEnabled := true } := .of_eq rfl rfl rfl
      exact (henable.trans (.foldl (fun s n => still_nodeEnableMetrics fails s n) _ _)).trans
        (still_emit _ rfl)

lemma still_methodMetricsDisable (s : Controller) (serial : Serial) :
    Still t s (s.methodMetricsDisable serial) := by
  unfold methodMetricsDisable
  split
  · exact still_emit s rfl
  · have hdisable : Still t s { s with metricsEnabled := false } := .of_eq rfl rfl rfl
    exact (hdisable.trans (.foldl still_nodeDisableMetrics _ _)).trans (still_emit _ rfl)

/-! ## Attaching an agent -/

/-- The moves of a named node while `node_set_agent_bus` attaches a connection. -/
def attachMoves (bus : BusId) (fails : BusCall → Bool) : List NodeMove :=
  if firstMembers.any fun member => fails (.matchSignal member) then [.store bus]
  else if fails (.matchSignal .heartbeat) then [.store bus, .announce]
  else if fails .matchDisconnected then [.store bus, .announce, .unset]
  else [.store bus, .announce, .replay]

lemma still_addMatches (n : NodeId) (bus : BusId) (fails : BusCall → Bool)
    (members : List AgentMember) (s : Controller) :
    Still t s (addMatches n bus fails members s).2 := by
  rw [Consistent.addMatches_rest]
  exact .of_eq rfl rfl rfl

lemma still_nodeAddRegistrations (s : Controller) {n : NodeId} (hn : n ≠ t) (bus : BusId)
    (fails : BusCall → Bool) : Still t s (s.nodeAddRegistrations n bus fails).2 := by
  unfold nodeAddRegistrations
  split
  · split
    · exact still_nodeUnsetAgentBus s hn
    · exact still_modifyOther s hn _
  · have hfirst := still_addMatches (t := t) n bus fails firstMembers s
    split
    · rename_i u heq
      rwa [heq] at hfirst
    · rename_i u heq
      rw [heq] at hfirst
      exact (hfirst.trans (still_emit u (by simp [Output.about, hn]))).trans (still_addMatches ..)

/-- Another node gets an agent. -/
lemma still_nodeSetAgentBus (s : Controller) {n : NodeId} (hn : n ≠ t) (bus : BusId)
    (peer : PeerInfo) (fails : BusCall → Bool) :
    Still t s (s.nodeSetAgentBus n bus peer fails).2 := by
  have hadd := (still_nodeAddRegistrations (t := t) (s.modifyNode n (storeAgentBus bus peer)) hn bus
    fails).after (still_modifyOther s hn _)
  unfold nodeSetAgentBus
  split
  · exact .refl t s
  · split
    · rename_i u heq
      rwa [heq] at hadd
    · rename_i u heq
      rw [heq] at hadd
      split
      · exact hadd.trans (still_nodeUnsetAgentBus u hn)
      · exact ((still_applyNode _ hn _).after (still_applyNode _ hn _)).after
          (hadd.trans (still_modifyOther u hn _))

lemma follows_announce (s : Controller) (t : NodeId) :
    Follows t [.announce] s (s.emit (.nodeStatus t (nodeGetStatus (s.node t)))) := by
  refine ⟨rfl, [.nodeStatus t (nodeGetStatus (s.node t))], rfl, ?_⟩
  have habout : Output.about t (.nodeStatus t (nodeGetStatus (s.node t))) =
      some (.status (s.node t).view.status) := by
    rw [Output.about, if_pos rfl]
    rfl
  simp [NodeView.run, habout]

lemma follows_nodeUnsetAgentBus (s : Controller) (t : NodeId) :
    Follows t [.unset] s (s.nodeUnsetAgentBus t) := by
  unfold nodeUnsetAgentBus
  simp only
  by_cases honline : nodeIsOnline (s.node t) = true
  · rw [if_pos honline]
    refine ⟨rfl, [.nodeStatus t "offline"], by simp [nodeGetStatus, nodeHasAgent], ?_⟩
    have hview : ((s.node t).view.named && (s.node t).view.agentBus.isSome) = true := honline
    simp only [NodeView.runAll_cons, NodeView.runAll_nil, NodeView.run, hview]
    simp [Output.about, Node.view]
  · rw [if_neg honline]
    refine ⟨rfl, [], by simp, ?_⟩
    have hview : ((s.node t).view.named && (s.node t).view.agentBus.isSome) = false :=
      Bool.not_eq_true _ ▸ honline
    simp only [NodeView.runAll_cons, NodeView.runAll_nil, NodeView.run, hview]
    simp [Node.view]

lemma follows_store (s : Controller) (t : NodeId) (bus : BusId) (peer : PeerInfo) :
    Follows t [.store bus] s (s.modifyNode t (storeAgentBus bus peer)) :=
  ⟨rfl, [], by simp, by simp [NodeView.run, Node.view, storeAgentBus]⟩

/-- The table and the dependencies are sent to a new connection. -/
lemma follows_replay (s : Controller) (t : NodeId) : Follows t [.replay] s
    ((s.applyNode t nodeSendAgentSubscribeAll).applyNode t nodeStartProxyDependencyAll) := by
  have ⟨l, hl, hnode, _, hself⟩ := foldl_runEffect_log (t := t) t
    (nodeSendAgentSubscribeAll (s.node t)).2 (s.modifyNode t fun _ => s.node t)
  have hnode₁ := applyNode_node s t (f := nodeSendAgentSubscribeAll) rfl
  have ⟨l', hl', _, _, hself'⟩ := foldl_runEffect_log (t := t) t
    (nodeStartProxyDependencyAll ((s.applyNode t nodeSendAgentSubscribeAll).node t)).2
    ((s.applyNode t nodeSendAgentSubscribeAll).modifyNode t fun _ =>
      (s.applyNode t nodeSendAgentSubscribeAll).node t)
  refine ⟨by rw [applyNode_eq, applyNode_eq], l ++ l', ?_, ?_⟩
  · rw [← List.append_assoc]
    exact hl'.trans (congrArg (· ++ l') hl)
  · have hsubscribe := hself rfl fun call hcall => by
      have ⟨usubs, _, hmem⟩ := List.mem_flatMap.mp hcall
      have hkind : (AgentCall.subscribe usubs.unit).kind = .table := rfl
      have hmild := mild_sendAgentSimpleMessage (fun _ => False) (s.node t) hkind _ hmem
      exact Or.inl hmild
    have hdeps := hself' rfl fun call hcall => by
      have ⟨dep, _, hmem⟩ := List.mem_flatMap.mp hcall
      unfold sendAgentSimpleMessage at hmem
      split at hmem
      · rw [List.mem_singleton, NodeEffect.send.injEq] at hmem
        exact Or.inr (hmem ▸ rfl)
      · simp at hmem
    rw [announceAttached, List.filterMap_append, hsubscribe, hdeps]
    simp only [NodeView.runAll_cons, NodeView.runAll_nil, NodeView.run, List.append_nil,
      modifyNode_node, Function.update_self, hnode₁]
    unfold nodeSendAgentSubscribeAll nodeStartProxyDependencyAll
    simp only [sentOn_flatMap, sentOn_simpleMessage]
    rfl

/-- `node_set_agent_bus` for the node itself. -/
theorem follows_nodeSetAgentBus (s : Controller) (hname : (s.node t).name ≠ none)
    (hagent : nodeHasAgent (s.node t) = false) (bus : BusId) (peer : PeerInfo)
    (fails : BusCall → Bool) :
    Follows t (attachMoves bus fails) s (s.nodeSetAgentBus t bus peer fails).2 := by
  have hstore := follows_store s t bus peer
  unfold nodeSetAgentBus
  rw [if_neg (by simp [hagent])]
  unfold nodeAddRegistrations
  rw [if_neg (show ((s.modifyNode t (storeAgentBus bus peer)).node t).name ≠ none by
    simpa [storeAgentBus] using hname)]
  unfold attachMoves
  generalize s.modifyNode t (storeAgentBus bus peer) = s₁ at hstore ⊢
  have hfirst := still_addMatches (t := t) t bus fails firstMembers s₁
  have hfst := Consistent.addMatches_fst t bus fails firstMembers s₁
  have hany : firstMembers.any (fun member => fails (.matchSignal member)) = false ↔
      ∀ member ∈ firstMembers, fails (.matchSignal member) = false := by
    rw [List.any_eq_false]
    simp only [Bool.not_eq_true]
  generalize addMatches t bus fails firstMembers s₁ = result at hfirst hfst ⊢
  obtain ⟨ok, s₂⟩ := result
  simp only at hfirst hfst
  cases ok with
  | false =>
    rw [if_pos (by rw [← Bool.not_eq_false, hany, ← hfst]; simp)]
    exact hstore.trans_still hfirst
  | true =>
    rw [if_neg (by rw [hany.mpr (hfst.mp rfl)]; simp)]
    simp only
    have hannounce := (hstore.trans_still hfirst).trans (follows_announce s₂ t)
    have hlast := still_addMatches (t := t) t bus fails [.heartbeat]
      (s₂.emit (.nodeStatus t (nodeGetStatus (s₂.node t))))
    have hlast_fst := Consistent.addMatches_fst t bus fails [.heartbeat]
      (s₂.emit (.nodeStatus t (nodeGetStatus (s₂.node t))))
    generalize addMatches t bus fails [.heartbeat]
      (s₂.emit (.nodeStatus t (nodeGetStatus (s₂.node t)))) = result at hlast hlast_fst ⊢
    obtain ⟨ok, s₃⟩ := result
    simp only at hlast hlast_fst
    have hall := hannounce.trans_still hlast
    cases ok with
    | false =>
      have hfail : fails (.matchSignal .heartbeat) = true := by
        by_contra hfine
        simpa using hlast_fst.mpr (by simpa using hfine)
      rw [if_pos hfail]
      exact hall
    | true =>
      have hfine : fails (.matchSignal .heartbeat) = false := hlast_fst.mp rfl _ (by simp)
      rw [if_neg (by simp [hfine])]
      simp only
      split
      · exact hall.trans (follows_nodeUnsetAgentBus s₃ t)
      · have hslot : Still t s₃ (s₃.modifyNode t fun node =>
            { node with disconnectSlot := some bus }) := still_modifyNode s₃ t fun _ => rfl
        exact (hall.trans_still hslot).trans (follows_replay _ t)

lemma still_countOnline (s : Controller) (d : ℤ) : Still t s (s.countOnline d) := by
  have hcount : Still t s { s with numberOfNodesOnline := s.numberOfNodesOnline + d } :=
    .of_eq rfl rfl rfl
  unfold countOnline checkSystemStatus
  simp only
  split
  · exact hcount.trans (still_emit _ rfl)
  · exact hcount

/-- `node_method_register`. -/
theorem follows_nodeMethodRegister (hcons : Consistent gap s) (ht : t ∈ s.nodes) (a : NodeId)
    (serial : Serial) (name : String) (now nowMonotonic : UInt64) (peer : PeerInfo)
    (fails : BusCall → Bool) : ∃ moves,
      (moves = [] ∨ s.registerTarget a name = .ok t ∧
        ∃ bus, (s.node a).agentBus = some bus ∧ moves = attachMoves bus fails) ∧
      Follows t moves s (s.nodeMethodRegister a serial name now nowMonotonic peer fails) := by
  unfold nodeMethodRegister
  split
  · exact ⟨[], Or.inl rfl, still_emit s rfl⟩
  · exact ⟨[], Or.inl rfl, Still.refl t s⟩
  · rename_i n bus htarget hbus
    have ⟨ha, _, _, hagent, _⟩ := (registerTarget_eq_ok_iff hcons.registry a n name).mp htarget
    have hseen : Still t s (s.modifyNode n fun node =>
        { node with lastSeen := now, lastSeenMonotonic := nowMonotonic }) :=
      still_modifyNode s n fun _ => rfl
    have ha_ne : a ≠ t := by
      intro heq
      exact hcons.registry.named t ht (heq ▸ ha)
    -- the part from the attach on
    have hattach : ∃ moves, (moves = [] ∨ s.registerTarget a name = .ok t ∧
        ∃ bus, (s.node a).agentBus = some bus ∧ moves = attachMoves bus fails) ∧
        Follows t moves s ((s.modifyNode n fun node => { node with
          lastSeen := now, lastSeenMonotonic := nowMonotonic }).nodeSetAgentBus n bus peer fails).2 := by
      by_cases hn : n = t
      · subst hn
        refine ⟨_, Or.inr ⟨htarget, bus, hbus, rfl⟩, Follows.still_trans hseen ?_⟩
        refine follows_nodeSetAgentBus _ ?_ ?_ bus peer fails
        · simpa using hcons.registry.named n ht
        · rw [modifyNode_node, Function.update_self]
          exact hagent
      · exact ⟨[], Or.inl rfl, hseen.trans (still_nodeSetAgentBus _ hn bus peer fails)⟩
    have ⟨moves, hmoves, hfollows⟩ := hattach
    refine ⟨moves, hmoves, ?_⟩
    dsimp only
    generalize (s.modifyNode n fun node => { node with
      lastSeen := now, lastSeenMonotonic := nowMonotonic }).nodeSetAgentBus n bus peer fails = result
      at hfollows ⊢
    have ⟨ok, u⟩ := result
    cases ok with
    | false => exact hfollows.trans_still (still_emit u rfl)
    | true =>
      simp only at hfollows ⊢
      have hmetrics : Still t u (if u.metricsEnabled then u.nodeEnableMetrics fails n else u) := by
        split
        · exact still_nodeEnableMetrics fails u n
        · exact .refl t u
      have hend := (hmetrics.trans (still_nodeUnsetAgentBus _ ha_ne)).trans (still_countOnline _ 1)
      exact hfollows.trans_still (hend.trans (still_emit _ rfl))

/-! ## Losing an agent -/

/-- The moves of a node whose agent is given up. -/
def Disconnects (moves : List NodeMove) : Prop :=
  ∃ adjusting : List NodeMove, (∀ move ∈ adjusting, move.Adjusts) ∧
    moves = .loseUnits :: adjusting ++ [.unset]

/-- `node_disconnect` up to the part that depends on the name. -/
lemma adjusted_removeProxyMonitors (hcons : Consistent gap s) (ht : t ∈ s.nodes) (n : NodeId) :
    Adjusted t s ((s.node n).proxyMonitors.foldl
      (fun s p => nodeRemoveProxyMonitor nodeUnref s n p) s) := by
  have hreleased := Released.foldl (t := t)
    (fun s p => released_nodeRemoveProxyMonitor released_nodeUnref s n p) (s.node n).proxyMonitors s
  exact hreleased.of_listed (hcons.removeProxyMonitors n).1 ht

/-- Another node loses its agent. -/
lemma adjusted_nodeDisconnect (hcons : Consistent gap s) (ht : t ∈ s.nodes) {n : NodeId}
    (hbus : (s.node n).agentBus ≠ none) (hn : n ≠ t) : Adjusted t s (s.nodeDisconnect n) := by
  have hunits := hcons.nodeDisconnectUnits n
  have hkeeps := Consistent.applyNode_keeps s n (tableStep_nodeDisconnectUnits (s.node n)).1
  have hstill : Still t s (s.applyNode n nodeDisconnectUnits) := still_applyNode s hn _
  have hadjusted := adjusted_removeProxyMonitors hunits (t := t) (hkeeps.nodes.symm ▸ ht) n
  have ⟨hproxies, hkeeps'⟩ := hunits.removeProxyMonitors n
  have hall := hkeeps.trans hkeeps'
  unfold nodeDisconnect
  simp only
  generalize (((s.applyNode n nodeDisconnectUnits).node n).proxyMonitors.foldl
    (fun s p => nodeRemoveProxyMonitor nodeUnref s n p) (s.applyNode n nodeDisconnectUnits)) = u
    at hadjusted hproxies hall ⊢
  refine (hstill.adjusted.trans hadjusted).trans (Still.adjusted ?_)
  split
  · rename_i hname
    rw [hall.name] at hname
    have hout : n ∉ s.nodes := fun hmem => hcons.registry.named n hmem hname
    have hmem := hall.anonymousNodes.symm ▸ hcons.forListed.anonymous n hout hbus
    rw [hproxies.removeNode_anonymous_eq hmem]
    exact Still.after (.of_eq rfl rfl rfl) (still_modifyOther u hn _)
  · have hjobs := Still.foldl (t := t) (still_dropJob n) u.jobs u
    exact ((hjobs.trans (still_nodeUnsetAgentBus _ hn))).trans (still_countOnline _ _)

/-- The node itself loses its agent. -/
lemma follows_nodeDisconnect (hcons : Consistent gap s) (ht : t ∈ s.nodes) :
    ∃ moves, Disconnects moves ∧ Follows t moves s (s.nodeDisconnect t) := by
  have hunits := hcons.nodeDisconnectUnits t
  have hkeeps := Consistent.applyNode_keeps s t (tableStep_nodeDisconnectUnits (s.node t)).1
  have hlose : Follows t [.loseUnits] s (s.applyNode t nodeDisconnectUnits) :=
    follows_applyNode s t (simulates_nodeDisconnectUnits _)
      (kinds_of_tableStep (tableStep_nodeDisconnectUnits _))
  have hadjusted := adjusted_removeProxyMonitors hunits (t := t) (hkeeps.nodes.symm ▸ ht) t
  have ⟨_, hkeeps'⟩ := hunits.removeProxyMonitors t
  have hname := (hkeeps.trans hkeeps').name t
  unfold nodeDisconnect
  simp only
  generalize (((s.applyNode t nodeDisconnectUnits).node t).proxyMonitors.foldl
    (fun s p => nodeRemoveProxyMonitor nodeUnref s t p) (s.applyNode t nodeDisconnectUnits)) = u
    at hadjusted hname ⊢
  rw [if_neg (by rw [hname]; exact hcons.registry.named t ht)]
  have ⟨moves, hmoves, hfollows⟩ := hadjusted
  have hjobs := Still.foldl (t := t) (still_dropJob t) u.jobs u
  have hunset := (Follows.still_trans hjobs (follows_nodeUnsetAgentBus _ t)).trans_still
    (still_countOnline _ (-1))
  exact ⟨_, ⟨moves, hmoves, rfl⟩, (hlose.trans hfollows).trans hunset⟩

/-- The moves of a node while the timer checks it and the others. -/
def HeartbeatMoves (moves : List NodeMove) : Prop :=
  ∃ before own after : List NodeMove, (∀ move ∈ before, move.Adjusts) ∧
    (own = [] ∨ Disconnects own) ∧ (∀ move ∈ after, move.Adjusts) ∧ moves = before ++ own ++ after

lemma agentBus_of_online {node : Node} (h : nodeIsOnline node = true) : node.agentBus ≠ none := by
  simp only [nodeIsOnline, nodeHasAgent, Bool.and_eq_true, Option.isSome_iff_ne_none] at h
  exact h.2

lemma adjusted_checkNode (hcons : Consistent gap s) (ht : t ∈ s.nodes) (now : UInt64) {n : NodeId}
    (hn : n ≠ t) : Adjusted t s (checkNode now s n) := by
  unfold checkNode
  split
  · rename_i honline
    split
    · exact adjusted_nodeDisconnect hcons ht (agentBus_of_online honline) hn
    · exact (still_sendAgent s n (by simp [AgentCall.kind])).adjusted
  · exact .refl t s

lemma checkNode_nodes (hcons : Consistent gap s) (now : UInt64) {n : NodeId} (hn : n ∈ s.nodes) :
    (checkNode now s n).nodes = s.nodes := by
  unfold checkNode
  split
  · split
    · have hkeeps := Consistent.applyNode_keeps s n (tableStep_nodeDisconnectUnits (s.node n)).1
      have ⟨_, hkeeps'⟩ := (hcons.nodeDisconnectUnits n).removeProxyMonitors n
      have hall := hkeeps.trans hkeeps'
      unfold nodeDisconnect
      simp only
      generalize (((s.applyNode n nodeDisconnectUnits).node n).proxyMonitors.foldl
        (fun s p => nodeRemoveProxyMonitor nodeUnref s n p) (s.applyNode n nodeDisconnectUnits)) = u
        at hall ⊢
      rw [if_neg (by rw [hall.name]; exact hcons.registry.named n hn), countOnline,
        (coreFrame_checkSystemStatus _ _).nodes]
      show ((u.jobs.foldl (dropJob n) u).nodeUnsetAgentBus n).nodes = s.nodes
      rw [nodeUnsetAgentBus_eq]
      exact (CoreFrame.foldl (coreFrame_dropJob n) u.jobs u).nodes.trans hall.nodes
    · exact (coreFrame_sendAgent _ _ _).nodes
  · rfl

/-- The loop of the timer over other nodes. -/
lemma adjusted_checkNodes (now : UInt64) (ns : List NodeId) : ∀ {s : Controller},
    Consistent gap s → t ∈ s.nodes → (∀ n ∈ ns, n ∈ s.nodes ∧ n ≠ t) →
      Adjusted t s (ns.foldl (checkNode now) s) ∧ Consistent gap (ns.foldl (checkNode now) s) ∧
        (ns.foldl (checkNode now) s).nodes = s.nodes := by
  induction ns with
  | nil => exact fun h _ _ => ⟨.refl t _, h, rfl⟩
  | cons n ns ih =>
    intro s hcons ht hns
    have hn := hns n (by simp)
    have hnodes := checkNode_nodes hcons now hn.1
    have ⟨hrest, hcons', hnodes'⟩ := ih (hcons.checkNode now n) (hnodes.symm ▸ ht)
      fun k hk => hnodes.symm ▸ hns k (by simp [hk])
    exact ⟨(adjusted_checkNode hcons ht now hn.2).trans hrest, hcons', hnodes'.trans hnodes⟩

/-- `controller_heartbeat_timer_callback`. -/
theorem follows_heartbeatTimerCallback (hcons : Consistent gap s) (ht : t ∈ s.nodes) (now : UInt64) :
    ∃ moves, HeartbeatMoves moves ∧ Follows t moves s (s.heartbeatTimerCallback now) := by
  obtain ⟨before, after, hsplit⟩ := List.append_of_mem ht
  have hnodup := hcons.registry.nodesNodup
  rw [hsplit] at hnodup
  have hbefore : ∀ n ∈ before, n ∈ s.nodes ∧ n ≠ t := fun n hn => by
    refine ⟨by rw [hsplit]; simp [hn], fun heq => ?_⟩
    exact (List.nodup_append.mp hnodup).2.2 n hn t (by simp) heq
  have hafter : ∀ n ∈ after, n ∈ s.nodes ∧ n ≠ t := fun n hn => by
    refine ⟨by rw [hsplit]; simp [hn], fun heq => ?_⟩
    exact (List.nodup_cons.mp (List.nodup_append.mp hnodup).2.1).1 (heq ▸ hn)
  unfold heartbeatTimerCallback
  rw [hsplit, List.foldl_append, List.foldl_cons]
  obtain ⟨hadjusted, hcons₁, hnodes₁⟩ := adjusted_checkNodes now before hcons ht hbefore
  generalize before.foldl (checkNode now) s = s₁ at hadjusted hcons₁ hnodes₁ ⊢
  have ht₁ : t ∈ s₁.nodes := hnodes₁.symm ▸ ht
  have hnodes₂ := checkNode_nodes hcons₁ now ht₁
  have hown : ∃ own, (own = [] ∨ Disconnects own) ∧ Follows t own s₁ (checkNode now s₁ t) := by
    unfold checkNode
    split
    · split
      · obtain ⟨moves, hmoves, hfollows⟩ := follows_nodeDisconnect hcons₁ ht₁
        exact ⟨moves, Or.inr hmoves, hfollows⟩
      · exact ⟨[], Or.inl rfl, still_sendAgent s₁ t (by simp [AgentCall.kind])⟩
    · exact ⟨[], Or.inl rfl, Still.refl t s₁⟩
  obtain ⟨hadjusted', _, _⟩ := adjusted_checkNodes (t := t) now after (hcons₁.checkNode now t)
    (hnodes₂.symm ▸ ht₁) fun n hn => by
      rw [hnodes₂, hnodes₁]
      exact hafter n hn
  obtain ⟨moves, hmoves, hfollows⟩ := hadjusted
  obtain ⟨own, hown_moves, hown_follows⟩ := hown
  obtain ⟨moves', hmoves', hfollows'⟩ := hadjusted'
  exact ⟨_, ⟨moves, own, moves', hmoves, hown_moves, hmoves', rfl⟩,
    (hfollows.trans hown_follows).trans hfollows'⟩

end Controller

/-! ## Events -/

/-- The moves of a node on a signal of its agent. -/
def NodeSignal.Moves : NodeSignal → List NodeMove → Prop
  | .unitNew unit _, moves => moves = [.unitNew unit]
  | .unitStateChanged unit activeState substate _, moves =>
    moves = [.unitStateChanged unit activeState substate]
  | .unitRemoved unit, moves => moves = [.unitRemoved unit]
  | .proxyNew .., moves => ∀ move ∈ moves, move.Adjusts
  | .proxyRemoved .., moves => ∀ move ∈ moves, move.Adjusts
  | _, moves => moves = []

/-- The moves of node `t` on an event that is handled in state `s`. -/
def Event.Moves (s : Controller) (t : NodeId) : Event → List NodeMove → Prop
  | .agentSignal _ n sig, moves =>
    if n = t then sig.Moves moves else ∀ move ∈ moves, move.Adjusts
  | .register a _ name _ _ _ fails, moves => moves = [] ∨
    s.registerTarget a name = .ok t ∧
      ∃ bus, (s.node a).agentBus = some bus ∧ moves = Controller.attachMoves bus fails
  | .disconnected n, moves =>
    if n = t then Controller.Disconnects moves else ∀ move ∈ moves, move.Adjusts
  | .heartbeatTimer _, moves => Controller.HeartbeatMoves moves
  | _, moves => ∀ move ∈ moves, move.Adjusts

namespace Controller

variable {gap : ℤ} {t : NodeId} {s s' : Controller}

lemma follows_onSignal_self (hcons : Consistent gap s) (ht : t ∈ s.nodes) (sig : NodeSignal) :
    ∃ moves, sig.Moves moves ∧ Follows t moves s (s.onSignal t sig) := by
  cases sig with
  | jobDone id result now sync => exact ⟨[], rfl, still_finishJob sync s id result now⟩
  | jobStateChanged id state => exact ⟨[], rfl, still_jobStateChanged s id state⟩
  | unitPropertiesChanged unit interface properties =>
    exact ⟨[], rfl, follows_applyNode s t (simulates_nodeMatchUnitPropertiesChanged unit interface
      properties _) (kinds_of_tableStep (tableStep_nodeMatchUnitPropertiesChanged unit _ _ _))⟩
  | unitNew unit reason =>
    exact ⟨_, rfl, follows_applyNode s t (simulates_nodeMatchUnitNew unit reason _)
      (kinds_of_tableStep (tableStep_nodeMatchUnitNew unit reason _))⟩
  | unitStateChanged unit activeState substate reason =>
    exact ⟨_, rfl, follows_applyNode s t (simulates_nodeMatchUnitStateChanged unit activeState
      substate reason _) (kinds_of_tableStep (tableStep_nodeMatchUnitStateChanged unit _ _ _ _))⟩
  | unitRemoved unit =>
    exact ⟨_, rfl, follows_applyNode s t (simulates_nodeMatchUnitRemoved unit _)
      (kinds_of_tableStep (tableStep_nodeMatchUnitRemoved unit _))⟩
  | proxyNew target unit path => exact adjusted_nodeOnMatchProxyNew hcons ht ht target unit path
  | proxyRemoved target unit =>
    exact (released_nodeOnMatchProxyRemoved s t target unit).of_listed
      (hcons.nodeOnMatchProxyRemoved t target unit) ht
  | heartbeat now nowMonotonic => exact ⟨[], rfl, still_modifyNode s t fun _ => rfl⟩

lemma adjusted_onSignal_other (hcons : Consistent gap s) (ht : t ∈ s.nodes) {n : NodeId}
    (hn : n ∈ s.nodes) (hne : n ≠ t) (sig : NodeSignal) : Adjusted t s (s.onSignal n sig) := by
  cases sig with
  | jobDone id result now sync => exact (still_finishJob sync s id result now).adjusted
  | jobStateChanged id state => exact (still_jobStateChanged s id state).adjusted
  | unitPropertiesChanged unit interface properties => exact (still_applyNode s hne _).adjusted
  | unitNew unit reason => exact (still_applyNode s hne _).adjusted
  | unitStateChanged unit activeState substate reason => exact (still_applyNode s hne _).adjusted
  | unitRemoved unit => exact (still_applyNode s hne _).adjusted
  | proxyNew target unit path => exact adjusted_nodeOnMatchProxyNew hcons ht hn target unit path
  | proxyRemoved target unit =>
    exact (released_nodeOnMatchProxyRemoved s n target unit).of_listed
      (hcons.nodeOnMatchProxyRemoved n target unit) ht
  | heartbeat now nowMonotonic => exact (still_modifyOther s hne _).adjusted

/-- `controller_accept_node_connection` makes a node of its own. -/
lemma still_acceptNodeConnection (hcons : Consistent gap s) (ht : t ∈ s.nodes) (peer : PeerInfo)
    (fails : BusCall → Bool) : Still t s (s.acceptNodeConnection peer fails) := by
  have hne : s.nextPtr ≠ t := by
    intro heq
    exact lt_irrefl t (heq ▸ hcons.registry.fresh t (Or.inl ht))
  have hadd : Consistent gap (s.addNode none).busAlloc :=
    hcons.addNode_none.of_frame (coreFrame_busAlloc _)
  have hmem : s.nextPtr ∈ (s.addNode none).busAlloc.anonymousNodes :=
    List.mem_append_right _ (List.mem_singleton.mpr rfl)
  have hagent : nodeHasAgent ((s.addNode none).busAlloc.node s.nextPtr) = false := by
    simp [addNode, nodeAlloc, busAlloc, nodeNew, nodeHasAgent]
  have hnew : Still t s (s.addNode none).busAlloc :=
    .of_eq rfl (by simp [addNode, nodeAlloc, busAlloc, Ne.symm hne]) (by simp [addNode, nodeAlloc, busAlloc])
  have hset := hnew.trans (still_nodeSetAgentBus _ hne (s.nextPtr + 1) peer fails)
  obtain ⟨hcons', hkeeps⟩ := nodeSetAgentBus_anonymous hadd hmem (s.nextPtr + 1) peer fails hagent
  unfold acceptNodeConnection
  simp only
  generalize (s.addNode none).busAlloc.nodeSetAgentBus s.nextPtr (s.nextPtr + 1) peer fails = result
    at hset hcons' hkeeps ⊢
  obtain ⟨ok, u⟩ := result
  cases ok with
  | true => exact hset
  | false =>
    have heq := hcons'.removeNode_anonymous_eq (hkeeps.anonymousNodes.symm ▸ hmem)
    refine hset.trans ?_
    show Still t u (u.removeNode s.nextPtr)
    simp only at heq
    rw [heq]
    exact Still.after (.of_eq rfl rfl rfl) (still_modifyOther u hne _)

/-- Every event but the stop moves each listed node as the event allows. -/
theorem follows_of_step (hcons : Consistent gap s) (ht : t ∈ s.nodes) {e : Event}
    (hstop : ∀ sync, e ≠ .stop sync) (hstep : s.step e = some s') :
    ∃ moves, e.Moves s t moves ∧ Follows t moves s s' := by
  obtain ⟨gap', hcons', _⟩ := hcons.step hstop hstep
  obtain ⟨_, hstep⟩ := step_eq_some_iff.mp hstep
  have hlisted : Released t s s' → Adjusted t s s' := fun h => h.of_listed hcons' ht
  cases e with
  | accept peer fails =>
    obtain rfl := Option.some.inj hstep
    exact (still_acceptNodeConnection hcons ht peer fails).adjusted
  | register a serial name now nowMonotonic peer fails =>
    obtain ⟨_, rfl⟩ := whenever_eq_some_iff.mp hstep
    exact follows_nodeMethodRegister hcons ht a serial name now nowMonotonic peer fails
  | disconnected n =>
    obtain ⟨hslot, rfl⟩ := whenever_eq_some_iff.mp hstep
    have hbus := hcons.agentBus_of_disconnectSlot hslot
    by_cases hn : n = t
    · subst hn
      simp only [Event.Moves, if_true]
      exact follows_nodeDisconnect hcons ht
    · simp only [Event.Moves, if_neg hn]
      exact adjusted_nodeDisconnect hcons ht hbus hn
  | heartbeatTimer now =>
    obtain rfl := Option.some.inj hstep
    exact follows_heartbeatTimerCallback hcons ht now
  | agentSignal bus n sig =>
    obtain ⟨hmatch, rfl⟩ := whenever_eq_some_iff.mp hstep
    have hn := hcons.connected.signals _ hmatch
    by_cases heq : n = t
    · subst heq
      simp only [Event.Moves, if_true]
      exact follows_onSignal_self hcons ht sig
    · simp only [Event.Moves, if_neg heq]
      exact adjusted_onSignal_other hcons ht hn heq sig
  | agentReply r m => exact hlisted (released_agentRequestCallback hstep)
  | proxyReply p => exact hlisted (released_proxyMonitorCallback hstep)
  | lifecycle n serial method unit mode startTime started =>
    obtain ⟨hn, rfl⟩ := whenever_eq_some_iff.mp hstep
    unfold nodeRunUnitLifecycleMethod
    split
    · exact (still_emit s rfl).adjusted
    · have hjob : Still t s (s.jobNew n unit (lifecycleJobType method) startTime).2 := .of_eq rfl rfl rfl
      refine hjob.adjusted.trans (adjusted_runRequest
        (hcons.jobNew n unit (lifecycleJobType method) startTime) ht hn serial ?_ ?_ started _)
      · intro _ job heq
        rw [RequestHandler.lifecycle.injEq] at heq
        exact heq.2 ▸ hn
      · exact fun _ => rfl
  | forward n serial method failure started =>
    obtain ⟨hn, rfl⟩ := whenever_eq_some_iff.mp hstep
    unfold nodeMethodForward
    split
    · exact (still_emit s rfl).adjusted
    · exact adjusted_runRequest hcons ht hn serial (by simp [Consistent.Lists]) (fun _ => rfl) _ _
  | jobCancel id serial started =>
    obtain ⟨job, hfind, rfl⟩ := Option.map_eq_some_iff.mp hstep
    unfold jobMethodCancel
    split
    · have hjob : HasJob s job.node := Or.inl ⟨job, List.mem_of_find?_eq_some hfind, rfl⟩
      have hrun := adjusted_runRequest hcons ht (hcons.forListed.jobs job.node hjob) serial
        (by simp [Consistent.Lists] : Consistent.Lists s (.jobCancel serial))
        (show ∀ r, (AgentCall.jobCancel r job.id).kind = .request from fun _ => rfl) started
        "Failed to call the method to cancel job"
      simp only
      split
      · exact hrun.trans (still_emit _ rfl).adjusted
      · exact hrun
    · exact (still_emit s rfl).adjusted
  | fleet serial method starts =>
    obtain rfl := Option.some.inj hstep
    have hopen := Consistent.OpenFleet.new hcons serial
    have hnew : Still t s (s.modifyFleet s.nextPtr
        fun _ => ⟨serial, 0, s.numberOfNodes, []⟩).busAlloc := .of_eq rfl rfl rfl
    obtain ⟨hloop, hnodes⟩ := adjusted_startSubRequests (t := t) method starts s.nodes hopen
      (fun _ hn => hn) ht
    refine (hnew.adjusted.trans hloop).trans ?_
    exact (released_agentFleetRequestMaybeDone _ _).of_listed hcons' (hnodes.symm ▸ ht)
  | createMonitor serial owner exported =>
    obtain rfl := Option.some.inj hstep
    exact (still_createMonitor s serial owner exported).adjusted
  | subscribe m serial node units =>
    obtain ⟨_, rfl⟩ := whenever_eq_some_iff.mp hstep
    exact adjusted_monitorMethodSubscribe s m serial node units
  | unsubscribe m serial subId =>
    obtain ⟨_, rfl⟩ := whenever_eq_some_iff.mp hstep
    exact adjusted_monitorMethodUnsubscribe s m serial subId
  | addPeer m serial name =>
    obtain ⟨_, rfl⟩ := whenever_eq_some_iff.mp hstep
    exact (still_monitorMethodAddPeer s m serial name).adjusted
  | removePeer m serial peerId reason =>
    obtain ⟨_, rfl⟩ := whenever_eq_some_iff.mp hstep
    exact (still_monitorMethodRemovePeer s m serial peerId reason).adjusted
  | closeMonitor m serial =>
    obtain ⟨_, rfl⟩ := whenever_eq_some_iff.mp hstep
    exact adjusted_monitorMethodClose s m serial
  | nameOwnerChanged name newOwner =>
    obtain rfl := Option.some.inj hstep
    exact adjusted_nameOwnerChanged s name newOwner
  | enableMetrics serial exported fails =>
    obtain rfl := Option.some.inj hstep
    exact (still_methodMetricsEnable s serial exported fails).adjusted
  | disableMetrics serial =>
    obtain rfl := Option.some.inj hstep
    exact (still_methodMetricsDisable s serial).adjusted
  | stop sync => exact absurd rfl (hstop sync)

end Controller
end BlueChi
