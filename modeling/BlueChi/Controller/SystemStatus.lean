import BlueChi.Controller.Attaching
import BlueChi.Controller.JobIsolation
import BlueChi.Controller.NodeEvents
import BlueChi.Controller.Stopping

/-!
# The counters of the nodes and the status of the system

The status of the system depends on how many nodes there are and how many of them are online. It is
announced where a counter changes, by a test on the old count and the new one. Everything else leaves
the counters and the announcements alone (`Quiet`), so that each event announces the status exactly
when it is another one (`Announces`).
-/

namespace BlueChi

open Execution

/-- The status of the system that a message announces. -/
def Output.announcedStatus : Output → Option String
  | .systemStatus status => some status
  | _ => none

/-- The status that a message announces of node `t`. -/
def Output.announcedNodeStatus (t : NodeId) : Output → Option String
  | .nodeStatus n status => if n = t then some status else none
  | _ => none

lemma Output.announcedStatus_eq_none {o : Output} (ho : o.kind ≠ .system) : o.announcedStatus = none := by
  match o with
  | .systemStatus _ => exact absurd rfl ho
  | .reply _ _ => rfl
  | .replyError _ _ => rfl
  | .jobNew _ => rfl
  | .jobRemoved .. => rfl
  | .jobState _ => rfl
  | .nodeStatus .. => rfl
  | .startUnitJobMetrics .. => rfl
  | .monitorSignal .. => rfl
  | .toAgent .. => rfl

lemma AgentCall.kind_ne_system (call : AgentCall) : call.kind ≠ .system := by
  cases call
  all_goals exact OutputKind.noConfusion

namespace Controller

/-- The announced statuses of the system. -/
def systemStatuses (s : Controller) : List String := s.log.filterMap (·.announcedStatus)

/-- The announced statuses of node `t`. -/
def nodeStatuses (t : NodeId) (s : Controller) : List String := s.log.filterMap (·.announcedNodeStatus t)

variable {ok : Serial → Prop} {s s' s'' u : Controller}

lemma systemStatuses_emit (s : Controller) (o : Output) :
    (s.emit o).systemStatuses = s.systemStatuses ++ o.announcedStatus.toList := by
  unfold systemStatuses
  rw [emit_log, List.filterMap_append]
  match h : o.announcedStatus with
  | none => simp [h]
  | some status => simp [h]

/-! ## What leaves the counters alone -/

/-- The listed nodes, the counters and the announced statuses are the same. -/
structure Quiet (s s' : Controller) : Prop where
  nodes : s'.nodes = s.nodes
  numberOfNodes : s'.numberOfNodes = s.numberOfNodes
  numberOfNodesOnline : s'.numberOfNodesOnline = s.numberOfNodesOnline
  systemStatuses : s'.systemStatuses = s.systemStatuses

namespace Quiet

lemma of_log (hnodes : s'.nodes = s.nodes) (hcount : s'.numberOfNodes = s.numberOfNodes)
    (honline : s'.numberOfNodesOnline = s.numberOfNodesOnline) (hlog : s'.log = s.log) : Quiet s s' := by
  refine ⟨hnodes, hcount, honline, ?_⟩
  unfold Controller.systemStatuses
  rw [hlog]

lemma refl (s : Controller) : Quiet s s := of_log rfl rfl rfl rfl

lemma trans (h : Quiet s s') (h' : Quiet s' s'') : Quiet s s'' where
  nodes := h'.nodes.trans h.nodes
  numberOfNodes := h'.numberOfNodes.trans h.numberOfNodes
  numberOfNodesOnline := h'.numberOfNodesOnline.trans h.numberOfNodesOnline
  systemStatuses := h'.systemStatuses.trans h.systemStatuses

lemma emit (s : Controller) {o : Output} (ho : o.kind ≠ .system) : Quiet s (s.emit o) := by
  refine ⟨rfl, rfl, rfl, ?_⟩
  rw [systemStatuses_emit, Output.announcedStatus_eq_none ho]
  exact List.append_nil _

lemma sendAgent (s : Controller) (n : NodeId) (call : AgentCall) : Quiet s (s.sendAgent n call) := by
  unfold Controller.sendAgent
  split
  · exact refl s
  · apply emit
    exact call.kind_ne_system

lemma nodeUnsetAgentBus (s : Controller) (n : NodeId) : Quiet s (s.nodeUnsetAgentBus n) := by
  have hclear : ∀ f, Quiet s (s.modifyNode n f) := fun f => of_log rfl rfl rfl rfl
  unfold Controller.nodeUnsetAgentBus
  dsimp only
  split
  · exact (hclear _).trans (emit _ OutputKind.noConfusion)
  · exact hclear _

/-- A reply is no announcement. -/
lemma reply (s : Controller) {serial : Serial} {o : Output} (ho : o.answers = some serial) :
    Quiet s (s.emit o) := by
  apply emit
  intro hkind
  have hother : o.kind ≠ .reply := fun heq => OutputKind.noConfusion (heq.symm.trans hkind)
  rw [Output.answers_eq_none hother] at ho
  exact absurd ho (by simp)

lemma monitors : ClosedMonitors ok Quiet where
  refl := refl
  trans := trans
  notify f := ⟨by rw [f.rest], by rw [f.rest], by rw [f.rest],
    f.emits.filterMap_eq fun o ho => Output.announcedStatus_eq_none fun hkind => by simp [hkind] at ho⟩
  tell s n call _ := sendAgent s n call
  table s n f _ := of_log rfl rfl rfl rfl
  reply s serial o ho _ := reply s ho
  clients f := of_log (by rw [f.rest]) (by rw [f.rest]) (by rw [f.rest]) (by rw [f.rest])
  farewell s m dest sig := emit s OutputKind.noConfusion

lemma anyMonitors : ClosedMonitors (fun _ => True) Quiet := monitors

lemma requests : ClosedRequests Quiet where
  toClosedTables := anyMonitors.toClosedTables
  depend s n call _ := sendAgent s n call
  proxies s n f _ := of_log rfl rfl rfl rfl
  detach := nodeUnsetAgentBus
  proxyMonitor s p f _ := of_log rfl rfl rfl rfl
  takeRef s obj o _ := of_log rfl rfl rfl rfl
  dropRef s obj o _ _ := of_log rfl rfl rfl rfl
  unlist s n member := of_log rfl rfl rfl rfl
  proxyMonitorNew s n name unit path := of_log rfl rfl rfl rfl
  appendSubscription s p := anyMonitors.appendSubscription s _
  unlistSubscription s p := anyMonitors.unlistSubscription s _
  subscriptionUnref s p o := anyMonitors.subscriptionUnref s _ o
  answered s p := of_log rfl rfl rfl rfl
  announce s o ho := emit s fun hkind => by
    cases o <;> simp [Output.kind, Output.aboutJob, AgentCall.kind_ne_system] at hkind ho
  jobs f := of_log (by rw [f.rest]) (by rw [f.rest]) (by rw [f.rest]) (by rw [f.rest])
  reply s o ho := emit s fun hkind => OutputKind.noConfusion (hkind.symm.trans ho)
  ask s n call _ := sendAgent s n call
  requests f := of_log (by rw [f.rest]) (by rw [f.rest]) (by rw [f.rest]) (by rw [f.rest])

lemma requestStep {e : Event} (hstep : s.step e = some s') (he : e.ofRequests = true)
    (hstop : ∀ sync, e ≠ .stop sync) : Quiet s s' :=
  requests.step hstep he hstop fun _ _ job _ _ _ t =>
    requests.toClosedJobs.addJob t job fun _ => of_log rfl rfl rfl rfl

/-- An anonymous node is not counted. -/
lemma removeNode (s : Controller) (n : NodeId) (hname : (s.node n).name = none) :
    Quiet s (s.removeNode n) :=
  requests.toClosedProxies.removeAnonymous s n hname (fun _ _ _ => of_log rfl rfl rfl rfl)
    fun _ => of_log rfl rfl rfl rfl

lemma calls : ClosedCalls ok Quiet where
  toClosedProxies := requests.toClosedProxies
  announce := requests.announce
  jobs := requests.jobs
  seen _ _ _ _ := of_log rfl rfl rfl rfl
  link _ _ _ _ := of_log rfl rfl rfl rfl
  status s _ _ := emit s OutputKind.noConfusion
  addMatch _ _ _ _ := of_log rfl rfl rfl rfl
  reply := monitors.reply
  flag s n call _ := sendAgent s n call
  metrics _ _ := of_log rfl rfl rfl rfl
  clients := anyMonitors.clients
  farewell := anyMonitors.farewell

lemma anyCalls : ClosedCalls (fun _ => True) Quiet := calls

lemma accepts : ClosedAccepts Quiet where
  toClosedLinks := anyCalls.toClosedLinks
  addNode _ := of_log rfl rfl rfl rfl
  busAlloc _ := of_log rfl rfl rfl rfl
  remove := removeNode

end Quiet

/-! ## The test of `controller_check_system_status` -/

/-- The counter of the online nodes lies between 0 and the number of nodes. -/
def InRange (s : Controller) : Prop :=
  0 ≤ s.numberOfNodesOnline ∧ s.numberOfNodesOnline ≤ s.numberOfNodes

/-- What is announced is the status that is reached, and it is another one. If nothing is announced, the
status is the same. -/
def Announces (s s' : Controller) : Prop :=
  ∃ l, s'.systemStatuses = s.systemStatuses ++ l ∧
    (l = [] ∧ s'.getSystemStatus = s.getSystemStatus ∨
      l.getLast? = some s'.getSystemStatus ∧ s'.getSystemStatus ≠ s.getSystemStatus)

lemma Quiet.getSystemStatus (h : Quiet s s') : s'.getSystemStatus = s.getSystemStatus := by
  unfold Controller.getSystemStatus
  rw [h.numberOfNodes, h.numberOfNodesOnline]

lemma Quiet.announces (h : Quiet s s') : Announces s s' :=
  ⟨[], by rw [h.systemStatuses, List.append_nil], Or.inl ⟨rfl, h.getSystemStatus⟩⟩

lemma Announces.after_quiet (h : Announces u s') (hquiet : Quiet s u) : Announces s s' := by
  unfold Announces
  rw [← hquiet.systemStatuses, ← hquiet.getSystemStatus]
  exact h

lemma Announces.then_quiet (h : Announces s u) (hquiet : Quiet u s') : Announces s s' := by
  unfold Announces
  rw [hquiet.systemStatuses, hquiet.getSystemStatus]
  exact h

/-- The counts of two states with as many nodes, one of which is online more, have the same status
unless the test finds a bound. -/
lemma getSystemStatus_eq_iff (s s' : Controller) {d : ℤ} (hd : d = 1 ∨ d = -1)
    (hcount : s'.numberOfNodes = s.numberOfNodes)
    (honline : s'.numberOfNodesOnline = s.numberOfNodesOnline + d) (hs : InRange s) (hs' : InRange s') :
    s'.getSystemStatus = s.getSystemStatus ↔
      ¬(s.numberOfNodesOnline = 0 ∨ s.numberOfNodesOnline = s'.numberOfNodes ∨
        s'.numberOfNodesOnline = s'.numberOfNodes ∨ s'.numberOfNodesOnline = 0) := by
  have ⟨hlow, hhigh⟩ := hs
  have ⟨hlow', hhigh'⟩ := hs'
  unfold getSystemStatus
  rw [hcount] at hhigh' ⊢
  by_cases hzero : s.numberOfNodesOnline = 0
  · have hzero' : s'.numberOfNodesOnline ≠ 0 := by omega
    rw [if_neg hzero', if_pos hzero]
    split
    · simp [hzero]
    · simp [hzero]
  · rw [if_neg hzero]
    by_cases hall : s.numberOfNodesOnline = s.numberOfNodes
    · have hall' : s'.numberOfNodesOnline ≠ s.numberOfNodes := by omega
      rw [if_neg hall', if_pos hall]
      split
      · simp [hall]
      · simp [hall]
    · rw [if_neg hall]
      split
      · rename_i hzero'
        simp [hzero']
      · split
        · rename_i hall'
          simp [hall']
        · rename_i hzero' hall'
          simp [hzero, hall, hzero', hall']

/-- One node more or less is online. -/
lemma announces_countOnline {d : ℤ} (hd : d = 1 ∨ d = -1) (hs : InRange s)
    (hs' : InRange (s.countOnline d)) : Announces s (s.countOnline d) := by
  have hrest : ∀ t : Controller, ∀ prev, InRange (t.checkSystemStatus prev) → InRange t := by
    intro t prev ht
    unfold checkSystemStatus at ht
    dsimp only at ht
    split at ht
    · exact ht
    · exact ht
  have hiff := getSystemStatus_eq_iff s { s with numberOfNodesOnline := s.numberOfNodesOnline + d }
    hd rfl rfl hs (hrest _ _ hs')
  unfold countOnline checkSystemStatus
  dsimp only at hiff ⊢
  rw [add_sub_cancel]
  split
  · rename_i htest
    refine ⟨[_], systemStatuses_emit _ _, Or.inr ⟨rfl, ?_⟩⟩
    exact fun heq => hiff.mp heq htest
  · rename_i htest
    exact ⟨[], (List.append_nil _).symm, Or.inl ⟨rfl, hiff.mpr htest⟩⟩

/-! ## Losing connections -/

lemma inRange_of_consistent (h : Consistent 0 s) : InRange s := by
  have honline := h.connected.online
  have hlength := List.countP_le_length (p := fun n => nodeHasAgent (s.node n)) (l := s.nodes)
  rw [add_zero] at honline
  unfold InRange
  rw [h.registry.count, honline]
  omega

lemma Quiet.inRange (h : Quiet s s') (hs : InRange s) : InRange s' := by
  unfold InRange
  rw [h.numberOfNodes, h.numberOfNodesOnline]
  exact hs

/-- A stretch in which nodes lose their connections. -/
structure Falls (s s' : Controller) : Prop where
  announces : Announces s s'
  numberOfNodes : s'.numberOfNodes = s.numberOfNodes
  numberOfNodesOnline : s'.numberOfNodesOnline ≤ s.numberOfNodesOnline

lemma Quiet.falls (h : Quiet s s') : Falls s s' :=
  ⟨h.announces, h.numberOfNodes, le_of_eq h.numberOfNodesOnline⟩

/-- On the way down no status comes back. -/
lemma Falls.getSystemStatus_eq (h : Falls s u) (h' : Falls u s') (hs : InRange s) (hs' : InRange s')
    (heq : s'.getSystemStatus = s.getSystemStatus) : u.getSystemStatus = s.getSystemStatus := by
  have ⟨_, hhigh⟩ := hs
  have ⟨hlow, _⟩ := hs'
  have hfirst := h.numberOfNodesOnline
  have hlast := h'.numberOfNodesOnline
  unfold getSystemStatus at heq ⊢
  rw [h'.numberOfNodes] at heq
  rw [h.numberOfNodes] at heq ⊢
  by_cases hdown : u.numberOfNodesOnline = 0
  · have hdown' : s'.numberOfNodesOnline = 0 := by omega
    rw [if_pos hdown]
    rw [if_pos hdown'] at heq
    exact heq
  · have hs_down : s.numberOfNodesOnline ≠ 0 := by omega
    rw [if_neg hdown, if_neg hs_down]
    rw [if_neg hs_down] at heq
    by_cases hup : s.numberOfNodesOnline = s.numberOfNodes
    · -- the last count is that of all nodes too
      rw [if_pos hup] at heq ⊢
      have hup' : s'.numberOfNodesOnline = s.numberOfNodes := by
        by_contra hne
        rw [if_neg hne] at heq
        split at heq
        · exact absurd heq (by decide)
        · exact absurd heq (by decide)
      rw [if_pos (by omega)]
    · have hup' : u.numberOfNodesOnline ≠ s.numberOfNodes := by omega
      rw [if_neg hup, if_neg hup']

lemma Falls.trans (h : Falls s u) (h' : Falls u s') (hs : InRange s) (hs' : InRange s') :
    Falls s s' := by
  refine ⟨?_, h'.numberOfNodes.trans h.numberOfNodes, h'.numberOfNodesOnline.trans h.numberOfNodesOnline⟩
  have ⟨l, hl, hend⟩ := h.announces
  have ⟨l', hl', hend'⟩ := h'.announces
  refine ⟨l ++ l', by rw [hl', hl, List.append_assoc], ?_⟩
  match hend, hend' with
  | .inl ⟨hnil, heq⟩, .inl ⟨hnil', heq'⟩ => exact Or.inl ⟨by rw [hnil, hnil']; rfl, heq'.trans heq⟩
  | .inl ⟨hnil, heq⟩, .inr ⟨hlast, hne⟩ =>
    rw [hnil, List.nil_append, ← heq]
    exact Or.inr ⟨hlast, hne⟩
  | .inr ⟨hlast, hne⟩, .inl ⟨hnil', heq'⟩ =>
    rw [hnil', List.append_nil, heq']
    exact Or.inr ⟨hlast, hne⟩
  | .inr ⟨_, hne⟩, .inr ⟨hlast, _⟩ =>
    refine Or.inr ⟨?_, fun heq => hne (h.getSystemStatus_eq h' hs hs' heq)⟩
    rw [List.getLast?_append, hlast]
    rfl

lemma falls_nodeDisconnect (n : NodeId) (hs : InRange s) (hs' : InRange (s.nodeDisconnect n)) :
    Falls s (s.nodeDisconnect n) := by
  have ⟨u, hquiet, hdisconnect⟩ :=
    Quiet.anyCalls.toClosedSignals.disconnectThenCount Quiet.removeNode s n
  apply hdisconnect.elim
  · intro heq
    rw [heq]
    exact hquiet.falls
  · intro heq
    rw [heq] at hs' ⊢
    have hcount := announces_countOnline (Or.inr rfl) (hquiet.inRange hs) hs'
    have hrest : (u.countOnline (-1)).numberOfNodes = u.numberOfNodes ∧
        (u.countOnline (-1)).numberOfNodesOnline = u.numberOfNodesOnline - 1 := by
      unfold countOnline checkSystemStatus
      dsimp only
      split
      · exact ⟨rfl, rfl⟩
      · exact ⟨rfl, rfl⟩
    refine ⟨hcount.after_quiet hquiet, hrest.1.trans hquiet.numberOfNodes, ?_⟩
    rw [hrest.2, hquiet.numberOfNodesOnline]
    omega

/-- Every expired node is counted on its own, and the status falls at most from one end to the other. -/
lemma announces_heartbeatTimerCallback (h : Consistent 0 s) (now : UInt64) :
    Announces s (s.heartbeatTimerCallback now) := by
  have hloop : Consistent 0 (s.heartbeatTimerCallback now) ∧
      Falls s (s.heartbeatTimerCallback now) := by
    refine foldl_keeps (P := fun t => Consistent 0 t ∧ Falls s t) (fun t n ht => ?_) s.nodes
      ⟨h, (Quiet.refl s).falls⟩
    have ⟨hcons, hfalls⟩ := ht
    have hcons' := hcons.checkNode now n
    have hround : Falls t (checkNode now t n) := by
      have hrange' := inRange_of_consistent hcons'
      unfold checkNode at hrange' ⊢
      split
      · rename_i honline
        rw [if_pos honline] at hrange'
        split
        · rename_i hexpired
          rw [if_pos hexpired] at hrange'
          exact falls_nodeDisconnect n (inRange_of_consistent hcons) hrange'
        · exact (Quiet.sendAgent t n _).falls
      · exact (Quiet.refl t).falls
    exact ⟨hcons', hfalls.trans hround (inRange_of_consistent h) (inRange_of_consistent hcons')⟩
  exact hloop.2.announces

/-! ## Stopping -/

/-- What is left to count while the nodes of `s₀` are removed. -/
structure Uncounted (s₀ : Controller) (ns : List NodeId) (s : Controller) : Prop where
  numberOfNodes : s.numberOfNodes = ns.length
  numberOfNodesOnline : s.numberOfNodesOnline = ns.countP fun n => nodeIsOnline (s₀.node n)
  systemStatuses : s.systemStatuses = s₀.systemStatuses

lemma Uncounted.then_quiet {s₀ : Controller} {ns : List NodeId} (h : Uncounted s₀ ns s)
    (hquiet : Quiet s s') : Uncounted s₀ ns s' :=
  ⟨hquiet.numberOfNodes.trans h.numberOfNodes, hquiet.numberOfNodesOnline.trans h.numberOfNodesOnline,
    hquiet.systemStatuses.trans h.systemStatuses⟩

/-- `controller_remove_node` of a named node. -/
lemma Uncounted.removeNode {s₀ : Controller} {n : NodeId} {ns : List NodeId}
    (h : Uncounted s₀ (n :: ns) s) (hremoving : Removing s₀ (n :: ns) s) :
    Uncounted s₀ ns (s.removeNode n) := by
  have hname : (s.node n).name ≠ none := by
    rw [hremoving.name]
    exact hremoving.named n List.mem_cons_self
  have hunlist : s.unlistNode n = { s.listRemove .nodes (n ∈ s.nodes) with
      numberOfNodes := s.numberOfNodes - 1, nodes := s.nodes.erase n } := by
    unfold unlistNode
    rw [if_pos (Option.isSome_iff_ne_none.mpr hname)]
  have honline : nodeIsOnline ((s.unlistNode n).node n) = nodeIsOnline (s₀.node n) := by
    rw [hunlist]
    exact hremoving.online
  have hcount : (s.unlistNode n).numberOfNodes = ns.length := by
    have hold := h.numberOfNodes
    rw [List.length_cons] at hold
    rw [hunlist]
    show s.numberOfNodes - 1 = _
    omega
  have hcountOnline : (s.unlistNode n).numberOfNodesOnline =
      (ns.countP fun n => nodeIsOnline (s₀.node n)) + if nodeIsOnline (s₀.node n) then 1 else 0 := by
    have hold := h.numberOfNodesOnline
    rw [List.countP_cons, Nat.cast_add] at hold
    rw [hunlist]
    refine hold.trans ?_
    split
    · rfl
    · rfl
  have hstatuses : (s.unlistNode n).systemStatuses = s₀.systemStatuses := by
    rw [hunlist]
    exact h.systemStatuses
  have hshutdown := Quiet.requests.nodeShutdown (s.unlistNode n) n
  have hmiddle : Uncounted s₀ ns (if nodeIsOnline (s₀.node n) then
      ((s.unlistNode n).nodeShutdown n).decOnline else s.unlistNode n) := by
    split
    · rename_i hup
      refine ⟨hshutdown.numberOfNodes.trans hcount, ?_, hshutdown.systemStatuses.trans hstatuses⟩
      show ((s.unlistNode n).nodeShutdown n).numberOfNodesOnline - 1 = _
      rw [hshutdown.numberOfNodesOnline, hcountOnline, if_pos hup, add_sub_cancel_right]
    · rename_i hdown
      rw [if_neg hdown, add_zero] at hcountOnline
      exact ⟨hcount, hcountOnline, hstatuses⟩
  unfold Controller.removeNode
  dsimp only
  rw [honline]
  exact hmiddle.then_quiet (Quiet.requests.nodeUnrefFuel _ _ n (.of_log rfl rfl rfl rfl))

/-- When all nodes are removed both counters are 0, and nothing was announced yet. -/
lemma uncounted_stopNodes (h : Consistent 0 s) (sync : SyncCalls) :
    Uncounted s [] (s.stopClients sync).stopNodes ∧ (s.stopClients sync).stopNodes.nodes = [] ∧
      (∀ q, (((s.stopClients sync).stopNodes.fleet q).subReq.length : ℤ) ≤
        ((s.stopClients sync).stopNodes.fleet q).slots) ∧ Quiet s (s.stopClients sync) := by
  have hclients := Quiet.anyMonitors.stopClients Quiet.requests.toClosedJobs sync s
  have hstart : Uncounted s s.nodes (s.stopClients sync) := by
    have honline := h.connected.online
    rw [add_zero] at honline
    refine ⟨hclients.numberOfNodes.trans h.registry.count, ?_, hclients.systemStatuses⟩
    rw [hclients.numberOfNodesOnline, honline, Nat.cast_inj]
    refine List.countP_congr fun n hn => ?_
    unfold nodeIsOnline
    rw [Option.isSome_iff_ne_none.mpr (h.registry.named n hn), Bool.true_and]
  have ⟨hremoving, hlast⟩ := Removing.foldl (P := Uncounted s)
    (fun n ns t ht hcount => hcount.removeNode ht) s.nodes _ (removing_stopClients h sync) hstart
  have hanonymous := stopAnonymous ⟨Quiet.refl, Quiet.trans⟩ Quiet.removeNode h hremoving
  have hdesk : SameDesk (fun _ => True) _ _ := sameDesk_stopAnonymous h hremoving
  unfold stopNodes
  rw [hclients.nodes]
  refine ⟨hlast.then_quiet hanonymous, hanonymous.nodes.trans hremoving.nodes, fun q => ?_, hclients⟩
  dsimp only
  rw [hdesk.fleet]
  exact hremoving.held.slots q

/-- `controller_stop` announces that the system is down, unless it was down before. -/
lemma announces_controllerStop (h : Consistent 0 s) (sync : SyncCalls) :
    Announces s (s.controllerStop sync) ∧ (s.controllerStop sync).nodes = [] ∧
      (s.controllerStop sync).numberOfNodes = 0 ∧ (s.controllerStop sync).numberOfNodesOnline = 0 ∧
      ∀ q, (((s.controllerStop sync).fleet q).subReq.length : ℤ) ≤
        ((s.controllerStop sync).fleet q).slots := by
  have ⟨huncounted, hnodes, hslots, hclients⟩ := uncounted_stopNodes h sync
  have ⟨hlow, _⟩ := inRange_of_consistent h
  have hcount : (s.stopClients sync).stopNodes.numberOfNodes = 0 := huncounted.numberOfNodes
  have honline : (s.stopClients sync).stopNodes.numberOfNodesOnline = 0 :=
    huncounted.numberOfNodesOnline
  have hstatuses := huncounted.systemStatuses
  have hdown : (s.stopClients sync).stopNodes.getSystemStatus = "down" := if_pos honline
  unfold controllerStop checkSystemStatus
  dsimp only
  rw [hclients.numberOfNodesOnline]
  generalize (s.stopClients sync).stopNodes = t
    at hnodes hslots hcount honline hstatuses hdown ⊢
  by_cases hsome : s.numberOfNodesOnline > 0
  · rw [if_pos hsome, if_pos (Or.inl honline)]
    refine ⟨⟨["down"], ?_, Or.inr ⟨congrArg some hdown.symm, ?_⟩⟩, hnodes, hcount, honline, hslots⟩
    · show (t.emit _).systemStatuses = _
      rw [systemStatuses_emit, hstatuses, hdown]
      rfl
    · show t.getSystemStatus ≠ _
      rw [hdown]
      unfold getSystemStatus
      rw [if_neg (by omega)]
      split
      · decide
      · decide
  · have hzero : s.numberOfNodesOnline = 0 := by omega
    have hdown_before : s.getSystemStatus = "down" := if_pos hzero
    rw [if_neg hsome]
    refine ⟨⟨[], ?_, Or.inl ⟨rfl, hdown.trans hdown_before.symm⟩⟩, hnodes, hcount, honline, hslots⟩
    rw [List.append_nil]
    exact hstatuses

/-! ## Steps -/

/-- Every event announces the status exactly when it is another one. -/
theorem announces_step (h : Consistent 0 s) {e : Event} (hclean : e.AttachesCleanly)
    (hstep : s.step e = some s') : Announces s s' := by
  have hhandle := (step_eq_some_iff.mp hstep).2
  have hrange : (∀ sync, e ≠ .stop sync) → InRange s' := fun hstop => by
    have ⟨gap, hcons, hgap⟩ := h.step hstop hstep
    rw [hgap hclean] at hcons
    exact inRange_of_consistent hcons
  match e with
  | .stop sync =>
    rw [← Option.some.inj hhandle]
    exact (announces_controllerStop h sync).1
  | .accept peer fails =>
    rw [← Option.some.inj hhandle]
    exact (Quiet.accepts.acceptNodeConnection s peer fails).announces
  | .register a serial name now nowMonotonic peer fails =>
    have ⟨_, hregister⟩ := whenever_eq_some_iff.mp hhandle
    have hrange' := hrange fun _ => Event.noConfusion
    have hcalls : ClosedCalls (fun other => other = serial) Quiet := Quiet.calls
    have ⟨u, hquiet, hcount⟩ := hcalls.registerThenCount hcalls.seen s a rfl name now nowMonotonic
      peer fails
    rw [hregister] at hcount
    apply hcount.elim
    · intro heq
      rw [heq]
      exact hquiet.announces
    · intro heq
      rw [heq] at hrange' ⊢
      have hreply : Quiet (u.countOnline 1) ((u.countOnline 1).emit (.reply serial .empty)) :=
        .reply _ rfl
      have hup := announces_countOnline (Or.inl rfl)
        (hquiet.inRange (inRange_of_consistent h)) hrange'
      exact (hup.after_quiet hquiet).then_quiet hreply
  | .disconnected n =>
    have hrange' := hrange fun _ => Event.noConfusion
    have ⟨_, hdisconnect⟩ := whenever_eq_some_iff.mp hhandle
    rw [← hdisconnect] at hrange' ⊢
    exact (falls_nodeDisconnect n (inRange_of_consistent h) hrange').announces
  | .heartbeatTimer now =>
    rw [← Option.some.inj hhandle]
    exact announces_heartbeatTimerCallback h now
  | .agentSignal .. => exact (Quiet.anyCalls.step hstep rfl rfl fun _ _ => trivial).announces
  | .agentReply .. => exact (Quiet.requestStep hstep rfl fun _ => Event.noConfusion).announces
  | .proxyReply _ => exact (Quiet.anyCalls.step hstep rfl rfl fun _ _ => trivial).announces
  | .lifecycle .. => exact (Quiet.requestStep hstep rfl fun _ => Event.noConfusion).announces
  | .forward .. => exact (Quiet.requestStep hstep rfl fun _ => Event.noConfusion).announces
  | .jobCancel .. => exact (Quiet.requestStep hstep rfl fun _ => Event.noConfusion).announces
  | .fleet .. => exact (Quiet.requestStep hstep rfl fun _ => Event.noConfusion).announces
  | .createMonitor .. => exact (Quiet.anyCalls.step hstep rfl rfl fun _ _ => trivial).announces
  | .subscribe .. => exact (Quiet.anyCalls.step hstep rfl rfl fun _ _ => trivial).announces
  | .unsubscribe .. => exact (Quiet.anyCalls.step hstep rfl rfl fun _ _ => trivial).announces
  | .addPeer .. => exact (Quiet.anyCalls.step hstep rfl rfl fun _ _ => trivial).announces
  | .removePeer .. => exact (Quiet.anyCalls.step hstep rfl rfl fun _ _ => trivial).announces
  | .closeMonitor .. => exact (Quiet.anyCalls.step hstep rfl rfl fun _ _ => trivial).announces
  | .nameOwnerChanged .. => exact (Quiet.anyCalls.step hstep rfl rfl fun _ _ => trivial).announces
  | .enableMetrics .. => exact (Quiet.anyCalls.step hstep rfl rfl fun _ _ => trivial).announces
  | .disableMetrics _ => exact (Quiet.anyCalls.step hstep rfl rfl fun _ _ => trivial).announces

end Controller

/-! ## The statuses of the nodes -/

/-- The moves that change the connection or announce a status. -/
def NodeMove.ofLink : NodeMove → Bool
  | .store _ => true
  | .announce => true
  | .unset => true
  | _ => false

lemma NodeMove.Adjusts.ofLink {move : NodeMove} (h : move.Adjusts) : move.ofLink = false := by
  match move with
  | .subscribe .. => rfl
  | .unsubscribe .. => rfl
  | .addDependency _ => rfl
  | .removeDependency _ => rfl

def NodeMessage.announcedStatus : NodeMessage → Option String
  | .call _ _ => none
  | .status text => some text

namespace NodeView

variable {v : NodeView}

/-- What was announced last. A status that was never announced is the one at first. -/
def announced (v : NodeView) (messages : List NodeMessage) : String :=
  (messages.filterMap (·.announcedStatus)).getLast?.getD v.status

lemma filterMap_tell (v : NodeView) (call : AgentCall) :
    (v.tell call).filterMap (·.announcedStatus) = [] := by
  unfold tell
  split
  · rfl
  · rfl

lemma run_named (v : NodeView) (move : NodeMove) : (v.run move).1.named = v.named := by
  unfold run
  split
  all_goals try rfl
  · split
    · rfl
    · rfl
  · split
    · rfl
    · split
      · split
        · rfl
        · rfl
      · rfl
  · split
    · rfl
    · split
      · rfl
      · rfl

/-- The other moves keep the connection and announce nothing. -/
lemma run_of_not_ofLink {move : NodeMove} (h : move.ofLink = false) (v : NodeView) :
    (v.run move).1.agentBus = v.agentBus ∧ (v.run move).2.filterMap (·.announcedStatus) = [] := by
  match move with
  | .subscribe sub unit =>
    unfold run
    dsimp only
    split
    · exact ⟨rfl, rfl⟩
    · exact ⟨rfl, filterMap_tell v _⟩
  | .unsubscribe sub unit =>
    unfold run
    dsimp only
    split
    · exact ⟨rfl, rfl⟩
    · split
      · split
        · exact ⟨rfl, filterMap_tell v _⟩
        · exact ⟨rfl, rfl⟩
      · exact ⟨rfl, rfl⟩
  | .addDependency unit => exact ⟨rfl, filterMap_tell v _⟩
  | .removeDependency unit =>
    unfold run
    dsimp only
    split
    · exact ⟨rfl, rfl⟩
    · split
      · exact ⟨rfl, filterMap_tell v _⟩
      · exact ⟨rfl, rfl⟩
  | .unitNew _ => exact ⟨rfl, rfl⟩
  | .unitStateChanged .. => exact ⟨rfl, rfl⟩
  | .unitRemoved _ => exact ⟨rfl, rfl⟩
  | .loseUnits => exact ⟨rfl, rfl⟩
  | .replay =>
    refine ⟨rfl, ?_⟩
    unfold run
    dsimp only
    rw [List.filterMap_append, List.filterMap_flatMap, List.filterMap_flatMap]
    simp only [filterMap_tell]
    simp

end NodeView

/-- From the view of a named node the moves end with the status that they announced last. -/
def Agree (moves : List NodeMove) : Prop :=
  ∀ v : NodeView, v.named = true → (v.runAll moves).1.named = true ∧
    v.announced (v.runAll moves).2 = (v.runAll moves).1.status

namespace Agree

variable {moves moves' : List NodeMove}

lemma nil : Agree [] := fun _ hv => ⟨hv, rfl⟩

lemma append (h : Agree moves) (h' : Agree moves') : Agree (moves ++ moves') := by
  intro v hv
  have ⟨hnamed, hstatus⟩ := h v hv
  have ⟨hnamed', hstatus'⟩ := h' _ hnamed
  rw [NodeView.runAll_append]
  refine ⟨hnamed', ?_⟩
  rw [← hstatus']
  unfold NodeView.announced at hstatus ⊢
  rw [List.filterMap_append, List.getLast?_append, Option.getD_or, hstatus]

lemma of_not_ofLink (h : ∀ move ∈ moves, move.ofLink = false) : Agree moves := by
  induction moves with
  | nil => exact nil
  | cons move moves ih =>
    have hone : Agree [move] := by
      intro v hv
      have ⟨hbus, hmessages⟩ := NodeView.run_of_not_ofLink (h move List.mem_cons_self) v
      rw [NodeView.runAll_cons, NodeView.runAll_nil, List.append_nil]
      refine ⟨(v.run_named move).trans hv, ?_⟩
      unfold NodeView.announced NodeView.status
      rw [hmessages, hbus]
      rfl
    exact append hone (ih fun m hm => h m (List.mem_cons_of_mem move hm))

lemma of_adjusts (h : ∀ move ∈ moves, move.Adjusts) : Agree moves :=
  of_not_ofLink fun move hmem => (h move hmem).ofLink

lemma unset : Agree [.unset] := by
  intro v hv
  rw [NodeView.runAll_cons, NodeView.runAll_nil, List.append_nil]
  refine ⟨hv, ?_⟩
  unfold NodeView.announced NodeView.run
  dsimp only
  rw [hv, Bool.true_and]
  split
  · rfl
  · rename_i hbus
    show v.status = "offline"
    unfold NodeView.status
    rw [if_neg hbus]

lemma attach (bus : BusId) : Agree [.store bus, .announce] := fun _ hv => ⟨hv, rfl⟩

lemma disconnects (h : Controller.Disconnects moves) : Agree moves := by
  have ⟨adjusting, hadjusting, heq⟩ := h
  rw [heq]
  have hlose : Agree (.loseUnits :: adjusting) := by
    apply of_not_ofLink
    intro move hmem
    apply (List.mem_cons.mp hmem).elim
    · intro hmove
      rw [hmove]
      rfl
    · exact fun hmem => (hadjusting move hmem).ofLink
  exact append hlose unset

end Agree

namespace Controller

variable {s s' : Controller} {t : NodeId}

lemma agree_attachMoves {bus : BusId} {fails : BusCall → Bool} (hclean : ¬MatchFails fails) :
    Agree (attachMoves bus fails) := by
  have hgood : ∀ member ∈ firstMembers ++ [.heartbeat], ¬fails (.matchSignal member) = true :=
    fun member hmem hfail => hclean ⟨member, hmem, hfail⟩
  unfold attachMoves
  rw [if_neg, if_neg]
  · split
    · exact (Agree.attach bus).append .unset
    · exact (Agree.attach bus).append (.of_not_ofLink (by simp [NodeMove.ofLink]))
  · exact hgood .heartbeat (List.mem_append_right _ (List.mem_singleton.mpr rfl))
  · intro hany
    have ⟨member, hmem, hfail⟩ := List.any_eq_true.mp hany
    exact hgood member (List.mem_append_left _ hmem) hfail

/-- Whatever happens to a node while every attach is clean, its announced status is right at the end. -/
lemma agree_of_moves {e : Event} {moves : List NodeMove} (hclean : e.AttachesCleanly)
    (hmoves : e.Moves s t moves) : Agree moves := by
  cases e with
  | agentSignal bus n sig =>
    by_cases hn : n = t
    · rw [Event.Moves, if_pos hn] at hmoves
      cases sig with
      | unitNew => exact hmoves ▸ .of_not_ofLink (by simp [NodeMove.ofLink])
      | unitStateChanged => exact hmoves ▸ .of_not_ofLink (by simp [NodeMove.ofLink])
      | unitRemoved _ => exact hmoves ▸ .of_not_ofLink (by simp [NodeMove.ofLink])
      | proxyNew => exact .of_adjusts hmoves
      | proxyRemoved => exact .of_adjusts hmoves
      | jobDone => exact hmoves ▸ .nil
      | jobStateChanged => exact hmoves ▸ .nil
      | unitPropertiesChanged => exact hmoves ▸ .nil
      | heartbeat => exact hmoves ▸ .nil
    · rw [Event.Moves, if_neg hn] at hmoves
      exact .of_adjusts hmoves
  | register =>
    apply hmoves.elim
    · intro hnil
      exact hnil ▸ .nil
    · rintro ⟨_, bus, _, heq⟩
      rw [heq]
      exact agree_attachMoves hclean
  | disconnected n =>
    by_cases hn : n = t
    · rw [Event.Moves, if_pos hn] at hmoves
      exact .disconnects hmoves
    · rw [Event.Moves, if_neg hn] at hmoves
      exact .of_adjusts hmoves
  | heartbeatTimer _ =>
    obtain ⟨before, own, after, hbefore, hown, hafter, heq⟩ := hmoves
    have hmiddle : Agree own := hown.elim (fun hnil => hnil ▸ .nil) .disconnects
    rw [heq]
    exact ((Agree.of_adjusts hbefore).append hmiddle).append (.of_adjusts hafter)
  | accept => exact .of_adjusts hmoves
  | agentReply => exact .of_adjusts hmoves
  | proxyReply _ => exact .of_adjusts hmoves
  | lifecycle => exact .of_adjusts hmoves
  | forward => exact .of_adjusts hmoves
  | jobCancel => exact .of_adjusts hmoves
  | fleet => exact .of_adjusts hmoves
  | createMonitor => exact .of_adjusts hmoves
  | subscribe => exact .of_adjusts hmoves
  | unsubscribe => exact .of_adjusts hmoves
  | addPeer => exact .of_adjusts hmoves
  | removePeer => exact .of_adjusts hmoves
  | closeMonitor => exact .of_adjusts hmoves
  | nameOwnerChanged => exact .of_adjusts hmoves
  | enableMetrics => exact .of_adjusts hmoves
  | disableMetrics _ => exact .of_adjusts hmoves
  | stop _ => exact .of_adjusts hmoves

lemma announcedNodeStatus_eq (t : NodeId) (o : Output) : o.announcedNodeStatus t = (o.about t).bind (·.announcedStatus) := by
  match o with
  | .toAgent bus n call =>
    rw [Output.about]
    split
    · rfl
    · rfl
  | .nodeStatus n status =>
    rw [Output.about, Output.announcedNodeStatus]
    split
    · rfl
    · rfl
  | .jobNew _ => rfl
  | .jobRemoved .. => rfl
  | .jobState _ => rfl
  | .systemStatus _ => rfl
  | .startUnitJobMetrics .. => rfl
  | .monitorSignal .. => rfl
  | .reply .. => rfl
  | .replyError .. => rfl

/-- The status that was announced last of a node is the one that it has. -/
def StatusAnnounced (s : Controller) (t : NodeId) : Prop :=
  (s.nodeStatuses t).getLast?.getD "offline" = nodeGetStatus (s.node t)

lemma statusAnnounced_of_follows {moves : List NodeMove} (h : Follows t moves s s') (hagree : Agree moves)
    (hname : (s.node t).name ≠ none) (hs : s.StatusAnnounced t) : s'.StatusAnnounced t := by
  have ⟨_, l, hl, hrun⟩ := h
  have ⟨_, hstatus⟩ := hagree (s.node t).view (Option.isSome_iff_ne_none.mpr hname)
  rw [hrun] at hstatus
  have hviews : l.filterMap (·.announcedNodeStatus t) = (l.filterMap (·.about t)).filterMap (·.announcedStatus) := by
    rw [List.filterMap_filterMap]
    exact List.filterMap_congr fun o _ => announcedNodeStatus_eq t o
  unfold StatusAnnounced nodeStatuses at hs ⊢
  rw [hl, List.filterMap_append, List.getLast?_append, Option.getD_or, hs, hviews]
  exact hstatus

/-- No event but the stop adds a node to the list or takes one out. -/
lemma nodes_of_step {e : Event} (hstop : ∀ sync, e ≠ .stop sync) (hstep : s.step e = some s') :
    s'.nodes = s.nodes := by
  have haside : ClosedAside (fun _ => True) (SameDesk fun _ => True) := SameDesk.aside
  match hrequests : e.ofRequests with
  | true => exact (Quiet.requestStep hstep hrequests hstop).nodes
  | false => exact (haside.step hstep hrequests fun _ _ => trivial).nodes

/-! ## Runs -/

/-- The last announcements are right: of the system and, until the stop, of every node. -/
structure Informed (s : Controller) : Prop where
  system : s.systemStatuses.getLast?.getD "down" = s.getSystemStatus
  node : s.stopped = false → ∀ n ∈ s.nodes, s.StatusAnnounced n

lemma informed_start (threshold : ℤ) (cfgs : List NodeConfig) : Informed (start threshold cfgs) := by
  have hstart := Starting.start threshold cfgs
  generalize start threshold cfgs = s at hstart
  have hlog : s.log = [] := by
    rw [hstart.rest]
    rfl
  constructor
  · have honline : s.numberOfNodesOnline = 0 := by
      rw [hstart.rest]
      rfl
    unfold systemStatuses getSystemStatus
    rw [hlog, if_pos honline]
    rfl
  · intro _ n _
    unfold StatusAnnounced nodeStatuses nodeGetStatus nodeHasAgent
    rw [hlog, hstart.node n]
    rfl

lemma informed_step (hcons : Consistent 0 s) (h : Informed s) {e : Event} (hclean : e.AttachesCleanly)
    (hstep : s.step e = some s') : Informed s' := by
  constructor
  · have ⟨l, hl, hend⟩ := announces_step hcons hclean hstep
    rw [hl, List.getLast?_append, Option.getD_or]
    apply hend.elim
    · intro ⟨hnil, heq⟩
      rw [hnil, heq]
      exact h.system
    · intro ⟨hlast, _⟩
      rw [hlast]
      rfl
  · intro hrun n hn
    have hstop : ∀ sync, e ≠ .stop sync := fun sync heq => by
      rw [heq] at hstep
      rw [stopped_of_stop hstep] at hrun
      exact Bool.noConfusion hrun
    have hnodes : n ∈ s.nodes := nodes_of_step hstop hstep ▸ hn
    have ⟨moves, hmoves, hfollows⟩ := follows_of_step hcons hnodes hstop hstep
    exact statusAnnounced_of_follows hfollows (agree_of_moves hclean hmoves)
      (hcons.registry.named n hnodes) (h.node (step_eq_some_iff.mp hstep).1 n hnodes)

/-- While every attach is clean the controller is consistent, or it was until it stopped. -/
lemma consistent_or_stopped (h : ReachableUnder system (fun _ e => e.AttachesCleanly) s) :
    Consistent 0 s ∨ ∃ s₀ sync, Consistent 0 s₀ ∧ s = s₀.controllerStop sync := by
  match h with
  | .init hinit =>
    have ⟨threshold, cfgs, heq⟩ := hinit
    exact Or.inl (heq ▸ (Starting.start threshold cfgs).consistent)
  | .step (s := s₀) (e := e) hbefore hclean hstep =>
    have ⟨hrun, hhandle⟩ := step_eq_some_iff.mp hstep
    have hcons := consistent_of_clean hbefore hrun
    by_cases hstop : ∃ sync, e = .stop sync
    · have ⟨sync, heq⟩ := hstop
      rw [heq] at hhandle
      exact Or.inr ⟨s₀, sync, hcons, (Option.some.inj hhandle).symm⟩
    · have ⟨gap, hcons', hgap⟩ := hcons.step (fun sync heq => hstop ⟨sync, heq⟩) hstep
      exact Or.inl (hgap hclean ▸ hcons')

/-- The counters count the listed nodes, whose names differ, and those of them that have a connection,
so no fleet request runs out of slots. -/
theorem nodes_counted (h : ReachableUnder system (fun _ e => e.AttachesCleanly) s) :
    s.numberOfNodes = s.nodes.length ∧ (s.nodes.map fun n => (s.node n).name).Nodup ∧
      (∀ n ∈ s.nodes, (s.node n).name ≠ none) ∧ s.numberOfNodesOnline = s.connectedNodes ∧
      0 ≤ s.numberOfNodesOnline ∧ s.numberOfNodesOnline ≤ s.numberOfNodes ∧
      ∀ q, ((s.fleet q).subReq.length : ℤ) ≤ (s.fleet q).slots := by
  apply (consistent_or_stopped h).elim
  · intro hcons
    have ⟨hlow, hhigh⟩ := inRange_of_consistent hcons
    have honline := hcons.connected.online
    rw [add_zero] at honline
    exact ⟨hcons.registry.count, hcons.registry.distinct, hcons.registry.named, honline, hlow, hhigh,
      hcons.held.slots⟩
  · intro ⟨s₀, sync, hcons, heq⟩
    have ⟨_, hnodes, hcount, honline, hslots⟩ := announces_controllerStop hcons sync
    rw [← heq] at hnodes hcount honline hslots
    unfold connectedNodes
    rw [hnodes, hcount, honline]
    exact ⟨rfl, List.nodup_nil, fun n hn => absurd hn List.not_mem_nil, rfl, le_refl 0, le_refl 0, hslots⟩

/-- The last announcements are right after every event, and the status of the system is announced in a
step exactly when it changes. -/
theorem statuses_announced (h : ReachableUnder system (fun _ e => e.AttachesCleanly) s) :
    s.systemStatuses.getLast?.getD "down" = s.getSystemStatus ∧
      (s.stopped = false → ∀ n ∈ s.nodes,
        (s.nodeStatuses n).getLast?.getD "offline" = nodeGetStatus (s.node n)) ∧
      ∀ e s', e.AttachesCleanly → s.step e = some s' → ∃ l,
        s'.systemStatuses = s.systemStatuses ++ l ∧
          (l ≠ [] ↔ s'.getSystemStatus ≠ s.getSystemStatus) := by
  have hinformed : Informed s := by
    induction h with
    | init hinit =>
      have ⟨threshold, cfgs, heq⟩ := hinit
      exact heq ▸ informed_start threshold cfgs
    | step hbefore hclean hstep ih =>
      exact informed_step (consistent_of_clean hbefore (step_eq_some_iff.mp hstep).1) ih hclean hstep
  refine ⟨hinformed.system, hinformed.node, fun e s' hclean hstep => ?_⟩
  have hcons := consistent_of_clean h (step_eq_some_iff.mp hstep).1
  have ⟨l, hl, hend⟩ := announces_step hcons hclean hstep
  refine ⟨l, hl, ?_⟩
  apply hend.elim
  · intro ⟨hnil, heq⟩
    exact ⟨fun hne => absurd hnil hne, fun hne => absurd heq hne⟩
  · intro ⟨hlast, hne⟩
    refine ⟨fun _ => hne, fun _ hnil => ?_⟩
    rw [hnil] at hlast
    exact absurd hlast (by simp)

/-- Two agents register, and one of them leaves. -/
def oneOfTwoLeaves : List Event :=
  [.accept ⟨some none, none⟩ fun _ => false,
    .register 3 1 "n" 1 1 ⟨some none, none⟩ fun _ => false,
    .accept ⟨some none, none⟩ fun _ => false,
    .register 5 2 "m" 1 1 ⟨some none, none⟩ fun _ => false,
    .disconnected 1]

lemma oneOfTwoLeaves_clean : GuardedRun system (fun _ e => e.AttachesCleanly) twoNodes oneOfTwoLeaves := by
  have hclean : ¬MatchFails fun _ => false := by simp [MatchFails]
  exact ⟨trivial, fun _ _ => ⟨hclean, fun _ _ => ⟨trivial, fun _ _ => ⟨hclean, fun _ _ =>
    ⟨trivial, fun _ _ => trivial⟩⟩⟩⟩⟩

/-- One node is left, so the system is degraded. -/
theorem nodes_counted_oneOfTwoLeaves : ∃ s, run system twoNodes oneOfTwoLeaves = some s ∧
    s.numberOfNodes = 2 ∧ s.numberOfNodesOnline = 1 ∧ s.numberOfNodesOnline = s.connectedNodes := by
  have hread : (run system twoNodes oneOfTwoLeaves).map
      (fun s => (s.numberOfNodes, s.numberOfNodesOnline)) = some (2, 1) := by decide +kernel
  have ⟨s, hs, hcounts⟩ := Option.map_eq_some_iff.mp hread
  have ⟨hnodes, honline⟩ := Prod.mk.inj hcounts
  have hinit : ReachableUnder system (fun _ e => e.AttachesCleanly) twoNodes := .init ⟨0, _, rfl⟩
  exact ⟨s, hs, hnodes, honline, (nodes_counted (hinit.run oneOfTwoLeaves_clean hs)).2.2.2.1⟩

/-- The statuses up to this point. -/
theorem statuses_announced_oneOfTwoLeaves : ∃ s, run system twoNodes oneOfTwoLeaves = some s ∧
    s.systemStatuses = ["degraded", "up", "degraded"] ∧ s.nodeStatuses 1 = ["online", "offline"] ∧
      s.systemStatuses.getLast?.getD "down" = s.getSystemStatus := by
  have hread : (run system twoNodes oneOfTwoLeaves).map
      (fun s => (s.systemStatuses, s.nodeStatuses 1)) =
        some (["degraded", "up", "degraded"], ["online", "offline"]) := by decide +kernel
  have ⟨s, hs, hstatuses⟩ := Option.map_eq_some_iff.mp hread
  have ⟨hsystem, hnode⟩ := Prod.mk.inj hstatuses
  have hinit : ReachableUnder system (fun _ e => e.AttachesCleanly) twoNodes := .init ⟨0, _, rfl⟩
  exact ⟨s, hs, hsystem, hnode, (statuses_announced (hinit.run oneOfTwoLeaves_clean hs)).1⟩

end Controller
end BlueChi
