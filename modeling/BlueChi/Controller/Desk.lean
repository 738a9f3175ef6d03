import BlueChi.Controller.Closures

/-!
# The desk of the requests

What the functions on requests keep: the requests and their answers that are outstanding, the fleet
requests, and the replies that were sent. Every other function leaves all of it as it is, but for
the reply to its own call (`SameDesk`).
-/

namespace BlueChi

lemma Output.answers_eq_none {o : Output} (ho : o.kind ≠ .reply) : o.answers = none := by
  match o with
  | .reply _ _ => exact absurd rfl ho
  | .replyError _ _ => exact absurd rfl ho
  | .jobNew _ => rfl
  | .jobRemoved .. => rfl
  | .jobState _ => rfl
  | .nodeStatus .. => rfl
  | .systemStatus _ => rfl
  | .startUnitJobMetrics .. => rfl
  | .monitorSignal .. => rfl
  | .toAgent .. => rfl

lemma AgentCall.kind_ne_reply (call : AgentCall) : call.kind ≠ .reply := by
  cases call
  all_goals exact OutputKind.noConfusion

namespace Controller

/-- The replies to a call. -/
def repliesTo (s : Controller) (serial : Serial) : List Output :=
  s.log.filter fun o => o.answers = some serial

variable {ok : Serial → Prop} {s s' s'' : Controller}

lemma repliesTo_emit (s : Controller) (o : Output) (serial : Serial) :
    (s.emit o).repliesTo serial =
      s.repliesTo serial ++ if o.answers = some serial then [o] else [] := by
  unfold repliesTo
  rw [emit_log, List.filter_append]
  by_cases ho : o.answers = some serial
  · simp [ho]
  · simp [ho]

/-- Messages that are no replies. -/
lemma repliesTo_of_emits {kinds : List OutputKind} (h : Emits kinds s s')
    (hkinds : OutputKind.reply ∉ kinds) (serial : Serial) :
    s'.repliesTo serial = s.repliesTo serial := by
  have ⟨l, hl, hk⟩ := h
  unfold repliesTo
  rw [hl, List.filter_append]
  have hnone : l.filter (fun o => o.answers = some serial) = [] := by
    rw [List.filter_eq_nil_iff]
    intro o ho
    have hkind : o.kind ≠ .reply := fun heq => hkinds (heq ▸ hk o ho)
    simp [Output.answers_eq_none hkind]
  rw [hnone, List.append_nil]

/-- The requests, the replies to the calls that are not `ok`, and the nodes' names are the same. -/
structure SameDesk (ok : Serial → Prop) (s s' : Controller) : Prop where
  pending : s'.pendingRequests = s.pendingRequests
  request : s'.request = s.request
  fleet : s'.fleet = s.fleet
  nodes : s'.nodes = s.nodes
  outstanding : ∀ n, (s'.node n).outstandingRequests = (s.node n).outstandingRequests ∨
    s.nextPtr ≤ n ∧ (s'.node n).outstandingRequests = []
  name : ∀ n < s.nextPtr, (s'.node n).name = (s.node n).name
  refs : ∀ r, s'.refs (.request r) = s.refs (.request r)
  freed : ∀ r, timesFreed s' (.request r) = timesFreed s (.request r)
  nextPtr : s.nextPtr ≤ s'.nextPtr
  replies : ∀ serial, ¬ ok serial → s'.repliesTo serial = s.repliesTo serial
  started : s'.startedRequests = s.startedRequests
  callbacks : s'.callbacks = s.callbacks
  freedFleets : s'.freedFleets = s.freedFleets

namespace SameDesk

lemma refl (s : Controller) : SameDesk ok s s where
  pending := rfl
  request := rfl
  fleet := rfl
  nodes := rfl
  outstanding _ := Or.inl rfl
  name _ _ := rfl
  refs _ := rfl
  freed _ := rfl
  nextPtr := le_refl _
  replies _ _ := rfl
  started := rfl
  callbacks := rfl
  freedFleets := rfl

lemma trans (h : SameDesk ok s s') (h' : SameDesk ok s' s'') : SameDesk ok s s'' where
  pending := h'.pending.trans h.pending
  request := h'.request.trans h.request
  fleet := h'.fleet.trans h.fleet
  nodes := h'.nodes.trans h.nodes
  outstanding n := by
    apply (h'.outstanding n).elim
    · intro heq
      rw [heq]
      exact h.outstanding n
    · intro hnew
      exact Or.inr ⟨h.nextPtr.trans hnew.1, hnew.2⟩
  name n hn := (h'.name n (lt_of_lt_of_le hn h.nextPtr)).trans (h.name n hn)
  refs r := (h'.refs r).trans (h.refs r)
  freed r := (h'.freed r).trans (h.freed r)
  nextPtr := h.nextPtr.trans h'.nextPtr
  replies serial hserial := (h'.replies serial hserial).trans (h.replies serial hserial)
  started := h'.started.trans h.started
  callbacks := h'.callbacks.trans h.callbacks
  freedFleets := h'.freedFleets.trans h.freedFleets

/-- A change of other fields, of references of other objects, and of other fields of nodes. -/
lemma of_rest (heq : s' = { s with
      anonymousNodes := s'.anonymousNodes, numberOfNodes := s'.numberOfNodes,
      numberOfNodesOnline := s'.numberOfNodesOnline, jobs := s'.jobs, monitors := s'.monitors,
      allSubscriptions := s'.allSubscriptions, metricsEnabled := s'.metricsEnabled,
      node := s'.node, monitor := s'.monitor, proxyMonitor := s'.proxyMonitor, refs := s'.refs,
      exportedJobs := s'.exportedJobs, signalMatches := s'.signalMatches,
      proxyCalls := s'.proxyCalls, nextPtr := s'.nextPtr, nextJobId := s'.nextJobId,
      nextSubscriptionId := s'.nextSubscriptionId, nextMonitorId := s'.nextMonitorId,
      nextPeerId := s'.nextPeerId, log := s'.log, mem := s'.mem })
    (hnode : ∀ n, (s'.node n).outstandingRequests = (s.node n).outstandingRequests ∧
      (s'.node n).name = (s.node n).name)
    (hrefs : ∀ r, s'.refs (.request r) = s.refs (.request r))
    (hfreed : ∀ r, timesFreed s' (.request r) = timesFreed s (.request r))
    (hptr : s.nextPtr ≤ s'.nextPtr)
    (hlog : ∀ serial, ¬ ok serial → s'.repliesTo serial = s.repliesTo serial) :
    SameDesk ok s s' where
  pending := by rw [heq]
  request := by rw [heq]
  fleet := by rw [heq]
  nodes := by rw [heq]
  outstanding n := Or.inl (hnode n).1
  name n _ := (hnode n).2
  refs := hrefs
  freed := hfreed
  nextPtr := hptr
  replies := hlog
  started := by rw [heq]
  callbacks := by rw [heq]
  freedFleets := by rw [heq]

lemma emit (s : Controller) {o : Output} (ho : ∀ serial, o.answers = some serial → ok serial) :
    SameDesk ok s (s.emit o) := by
  refine of_rest rfl (fun _ => ⟨rfl, rfl⟩) (fun _ => rfl) (fun _ => rfl) (le_refl _)
    fun serial hserial => ?_
  rw [repliesTo_emit, if_neg fun heq => hserial (ho serial heq), List.append_nil]

lemma emit_other (s : Controller) {o : Output} (ho : o.kind ≠ .reply) :
    SameDesk ok s (s.emit o) := by
  refine emit s fun serial heq => ?_
  rw [Output.answers_eq_none ho] at heq
  simp at heq

lemma sendAgent (s : Controller) (n : NodeId) (call : AgentCall) :
    SameDesk ok s (s.sendAgent n call) := by
  unfold Controller.sendAgent
  split
  · exact refl s
  · apply emit_other
    exact call.kind_ne_reply

lemma modifyNode (s : Controller) (n : NodeId) (f : Node → Node)
    (hout : (f (s.node n)).outstandingRequests = (s.node n).outstandingRequests)
    (hname : (f (s.node n)).name = (s.node n).name) : SameDesk ok s (s.modifyNode n f) := by
  refine of_rest rfl (fun n' => ?_) (fun _ => rfl) (fun _ => rfl) (le_refl _) fun _ _ => rfl
  by_cases hn : n' = n
  · rw [hn]
    simpa using ⟨hout, hname⟩
  · simp [hn]

lemma nodeUnsetAgentBus (s : Controller) (n : NodeId) :
    SameDesk ok s (s.nodeUnsetAgentBus n) := by
  unfold Controller.nodeUnsetAgentBus
  dsimp only
  have hclear : SameDesk ok s (s.modifyNode n fun node =>
      { node with
        disconnectSlot := none, internalControllerSlot := none, metricsMatchingSlot := none,
        agentBus := none, peerSelinuxContext := none, peerIp := none }) := modifyNode s n _ rfl rfl
  split
  · exact hclear.trans (emit_other _ OutputKind.noConfusion)
  · exact hclear

lemma takeRef (s : Controller) {obj : Obj} (hobj : ∀ r, obj ≠ .request r) (o : Owner) :
    SameDesk ok s (s.takeRef obj o) :=
  of_rest rfl (fun _ => ⟨rfl, rfl⟩) (fun r => by simp [Controller.takeRef, (hobj r).symm])
    (fun _ => rfl) (le_refl _) fun _ _ => rfl

lemma dropRef (s : Controller) {obj : Obj} (hobj : ∀ r, obj ≠ .request r) (o : Owner) :
    SameDesk ok s (s.dropRef obj o) :=
  of_rest rfl (fun _ => ⟨rfl, rfl⟩) (fun r => by simp [Controller.dropRef, (hobj r).symm])
    (fun r => timesFreed_dropRef s (hobj r).symm o) (le_refl _) fun _ _ => rfl

lemma listRemove (s : Controller) (list : ListName) (member : Bool) :
    SameDesk ok s (s.listRemove list member) :=
  of_rest rfl (fun _ => ⟨rfl, rfl⟩) (fun _ => rfl) (fun _ => timesFreed_listRemove s _ _ _)
    (le_refl _) fun _ _ => rfl

/-- What is done for clients. -/
lemma clients (f : ClientsOnly s s') : SameDesk ok s s' :=
  of_rest (by rw [f.rest]) (fun n => by rw [f.rest]; exact ⟨rfl, rfl⟩) (fun r => f.refs _ rfl)
    (fun r => f.freed _ rfl) f.nextPtr fun serial _ => by rw [f.rest]; rfl

lemma proxyMonitorNew (s : Controller) (n : NodeId) (name unit path : String) :
    SameDesk ok s (s.proxyMonitorNew n name unit path) :=
  of_rest rfl (fun _ => ⟨rfl, rfl⟩) (fun r => by simp [Controller.proxyMonitorNew, newRef])
    (fun _ => rfl) (Nat.le_add_right _ 2) fun _ _ => rfl

/-- The functions on monitors. -/
lemma monitors : ClosedMonitors ok (SameDesk ok) where
  refl := refl
  trans := trans
  notify f := of_rest (by rw [f.rest]) (fun n => by rw [f.rest]; exact ⟨rfl, rfl⟩)
    (fun r => f.refs _ fun p => Obj.noConfusion) (fun r => by rw [f.rest]; rfl) (by rw [f.rest])
    fun serial _ => repliesTo_of_emits f.emits (by simp) serial
  tell s n call _ := sendAgent s n call
  table s n f hf := modifyNode s n f (by rw [hf]) (by rw [hf])
  reply s serial o ho hok := emit s fun serial' ho' => by
    rw [ho, Option.some.injEq] at ho'
    exact ho' ▸ hok
  clients := clients
  farewell s m dest sig := emit_other s OutputKind.noConfusion

/-- The functions on proxies. -/
lemma proxies : ClosedProxies (SameDesk ok) where
  toClosedTables := monitors.toClosedTables
  depend s n call _ := sendAgent s n call
  proxies s n f hf := modifyNode s n f (by rw [hf]) (by rw [hf])
  detach := nodeUnsetAgentBus
  proxyMonitor s p f _ := of_rest rfl (fun _ => ⟨rfl, rfl⟩) (fun _ => rfl) (fun _ => rfl)
    (le_refl _) fun _ _ => rfl
  takeRef s obj o hobj := takeRef s (fun r => (obj_ne obj hobj (rfl : ofProxies (.request r) = false)).symm) o
  dropRef s obj o hobj _ := dropRef s (fun r => (obj_ne obj hobj (rfl : ofProxies (.request r) = false)).symm) o
  unlist s n member := listRemove s _ _
  proxyMonitorNew := proxyMonitorNew
  appendSubscription s p := monitors.appendSubscription s _
  unlistSubscription s p := monitors.unlistSubscription s _
  subscriptionUnref s p o := monitors.subscriptionUnref s _ o
  answered s p := of_rest rfl (fun _ => ⟨rfl, rfl⟩) (fun _ => rfl) (fun _ => rfl)
    (le_refl _) fun _ _ => rfl

/-- The functions on jobs. -/
lemma jobs : ClosedJobs (SameDesk ok) where
  refl := refl
  trans := trans
  announce s o ho := emit_other s fun hkind => by
    cases o <;> simp [Output.kind, Output.aboutJob, AgentCall.kind_ne_reply] at hkind ho
  jobs f := of_rest (by rw [f.rest]) (fun n => by rw [f.rest]; exact ⟨rfl, rfl⟩)
    (fun r => f.refs _ fun ptr => Obj.noConfusion) (fun r => f.freed _ fun ptr => Obj.noConfusion)
    f.nextPtr fun serial _ => by rw [f.rest]; rfl

lemma addJob (s : Controller) (job : Job) : SameDesk ok s (s.addJob job).2 :=
  jobs.addJob s job fun t => of_rest rfl (fun _ => ⟨rfl, rfl⟩)
    (fun r => by simp [appendJob, Controller.takeRef]) (fun _ => rfl) (le_refl _) fun _ _ => rfl

/-- An anonymous node is removed without a word. -/
lemma removeNode (s : Controller) (n : NodeId) (hname : (s.node n).name = none) :
    SameDesk ok s (s.removeNode n) := by
  apply proxies.removeAnonymous s n hname
  · intro s member nodes
    exact of_rest rfl (fun _ => ⟨rfl, rfl⟩) (fun _ => rfl) (fun _ => timesFreed_listRemove s _ _ _)
      (le_refl _) fun _ _ => rfl
  · exact fun s => dropRef s (fun _ => Obj.noConfusion) _

lemma countOnline (s : Controller) (d : ℤ) : SameDesk ok s (s.countOnline d) := by
  have hcount : SameDesk ok s { s with numberOfNodesOnline := s.numberOfNodesOnline + d } :=
    of_rest rfl (fun _ => ⟨rfl, rfl⟩) (fun _ => rfl) (fun _ => rfl) (le_refl _) fun _ _ => rfl
  unfold Controller.countOnline checkSystemStatus
  dsimp only
  split
  · exact hcount.trans (emit_other _ OutputKind.noConfusion)
  · exact hcount

lemma addNode (s : Controller) : SameDesk ok s (s.addNode none) where
  pending := rfl
  request := rfl
  fleet := rfl
  nodes := rfl
  outstanding n := by
    by_cases hn : n = s.nextPtr
    · apply Or.inr
      rw [hn]
      exact ⟨le_refl _, by simp [Controller.addNode, nodeAlloc, nodeNew]⟩
    · apply Or.inl
      simp [Controller.addNode, nodeAlloc, hn]
  name n hn := by
    have hne : n ≠ s.nextPtr := by omega
    simp [Controller.addNode, nodeAlloc, hne]
  refs r := by simp [Controller.addNode, nodeAlloc, newRef]
  freed _ := rfl
  nextPtr := Nat.le_succ _
  replies _ _ := rfl
  started := rfl
  callbacks := rfl
  freedFleets := rfl

/-- Everything but the functions on requests. -/
theorem aside : ClosedAside ok (SameDesk ok) where
  toClosedProxies := proxies
  announce := jobs.announce
  jobs := jobs.jobs
  remove := removeNode
  count := countOnline
  beat s n := sendAgent s n _
  seen s n now nowMonotonic := modifyNode s n _ rfl rfl
  link s n f hf := modifyNode s n f (by rw [hf]) (by rw [hf])
  status s n status := emit_other s OutputKind.noConfusion
  addMatch s n bus member := of_rest rfl (fun _ => ⟨rfl, rfl⟩) (fun _ => rfl) (fun _ => rfl)
    (le_refl _) fun _ _ => rfl
  reply := monitors.reply
  addNode := addNode
  busAlloc s := of_rest rfl (fun _ => ⟨rfl, rfl⟩) (fun _ => rfl) (fun _ => rfl)
    (Nat.le_succ _) fun _ _ => rfl
  flag s n call _ := sendAgent s n call
  metrics s b := of_rest rfl (fun _ => ⟨rfl, rfl⟩) (fun _ => rfl) (fun _ => rfl)
    (le_refl _) fun _ _ => rfl
  clients := clients
  farewell := monitors.farewell

end SameDesk

end Controller
end BlueChi
