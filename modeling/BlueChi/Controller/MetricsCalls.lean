import BlueChi.Controller.Replication
import BlueChi.Controller.Desk

/-!
# The metrics of the nodes

EnableMetrics and DisableMetrics go to the nodes that are online when a client asks for them, and
EnableMetrics to a node that registers while the metrics are on. So what an agent hears on its
connection amounts to the flag of the controller, and a node has its match on the metrics just while
it is online and the flag is set (`metered_of_clean`).
-/

namespace BlueChi

open Execution Replication

/-- What a call says about the metrics. -/
def AgentCall.aboutMetrics : AgentCall → Option (Unit × Bool)
  | .enableMetrics => some ((), true)
  | .disableMetrics => some ((), false)
  | _ => none

lemma AgentCall.kind_of_aboutMetrics {call : AgentCall} (h : call.aboutMetrics ≠ none) :
    call.kind = .metrics := by
  cases call with
  | enableMetrics => rfl
  | disableMetrics => rfl
  | _ => exact absurd rfl h

/-- The match of the metrics can be made on every connection. -/
def Event.MatchesMetrics : Event → Prop
  | .register _ _ _ _ _ _ fails => fails .matchMetrics = false
  | .enableMetrics _ _ fails => fails .matchMetrics = false
  | _ => True

namespace Controller

variable {t : NodeId} {s s' s'' : Controller}

/-! ## Steps that leave the metrics alone -/

/-- The flag stays, and no agent is told about it. -/
structure Unmetered (s s' : Controller) : Prop where
  flag : s'.metricsEnabled = s.metricsEnabled
  log : ∃ l, s'.log = s.log ++ l ∧ ∀ o ∈ l, o.kind ≠ .metrics

namespace Unmetered

lemma of_log_eq (hflag : s'.metricsEnabled = s.metricsEnabled) (hlog : s'.log = s.log) :
    Unmetered s s' := ⟨hflag, [], by rw [hlog, List.append_nil], by simp⟩

lemma refl (s : Controller) : Unmetered s s := of_log_eq rfl rfl

lemma trans (h : Unmetered s s') (h' : Unmetered s' s'') : Unmetered s s'' := by
  obtain ⟨hflag, l, hl, hk⟩ := h
  obtain ⟨hflag', l', hl', hk'⟩ := h'
  refine ⟨hflag'.trans hflag, l ++ l', by rw [hl', hl, List.append_assoc], fun o ho => ?_⟩
  exact (List.mem_append.mp ho).elim (hk o) (hk' o)

lemma of_emits {kinds : List OutputKind} (hflag : s'.metricsEnabled = s.metricsEnabled)
    (h : Emits kinds s s') (hkinds : .metrics ∉ kinds) : Unmetered s s' := by
  obtain ⟨l, hl, hk⟩ := h
  exact ⟨hflag, l, hl, fun o ho heq => hkinds (heq ▸ hk o ho)⟩

lemma emit (s : Controller) {o : Output} (ho : o.kind ≠ .metrics) : Unmetered s (s.emit o) :=
  ⟨rfl, [o], rfl, by simpa using ho⟩

lemma sendAgent (s : Controller) (n : NodeId) {call : AgentCall} (hcall : call.kind ≠ .metrics) :
    Unmetered s (s.sendAgent n call) := by
  unfold Controller.sendAgent
  split
  · exact refl s
  · exact emit s hcall

lemma nodeUnsetAgentBus (s : Controller) (n : NodeId) : Unmetered s (s.nodeUnsetAgentBus n) := by
  unfold Controller.nodeUnsetAgentBus
  dsimp only
  split
  · exact (of_log_eq rfl rfl : Unmetered s (s.modifyNode n _)).trans
      (emit _ OutputKind.noConfusion)
  · exact of_log_eq rfl rfl

lemma kind_of_answers {o : Output} {serial : Serial} (ho : o.answers = some serial) :
    o.kind ≠ .metrics := by
  cases o with
  | reply _ _ => exact OutputKind.noConfusion
  | replyError _ _ => exact OutputKind.noConfusion
  | _ => cases ho

lemma tables : ClosedTables Unmetered where
  refl := refl
  trans := trans
  notify f := of_emits (by rw [f.rest]) f.emits (by simp)
  tell s n call hcall := sendAgent s n (by simp [hcall])
  table _ _ _ _ := of_log_eq rfl rfl

lemma proxies : ClosedProxies Unmetered where
  toClosedTables := tables
  depend s n call hcall := sendAgent s n (by simp [hcall])
  proxies _ _ _ _ := of_log_eq rfl rfl
  detach := nodeUnsetAgentBus
  proxyMonitor _ _ _ _ := of_log_eq rfl rfl
  takeRef _ _ _ _ := of_log_eq rfl rfl
  dropRef _ _ _ _ _ := of_log_eq rfl rfl
  unlist _ _ _ := of_log_eq rfl rfl
  proxyMonitorNew _ _ _ _ _ := of_log_eq rfl rfl
  appendSubscription _ _ := of_log_eq rfl rfl
  unlistSubscription _ _ := of_log_eq rfl rfl
  subscriptionUnref s p o := by
    have f := subscriptionFrame_subscriptionUnref (fun _ => False) s (s.proxyMonitor p).subscription o
    exact of_emits (by rw [f.rest]) f.emits (by simp)
  answered _ _ := of_log_eq rfl rfl

lemma requests : ClosedRequests Unmetered where
  toClosedProxies := proxies
  announce s o ho := emit s fun hkind => by
    cases o with
    | toAgent _ _ _ => cases ho
    | _ => cases hkind
  jobs f := of_log_eq (by rw [f.rest]) (by rw [f.rest])
  reply s o ho := emit s (by simp [ho])
  ask s n call hcall := sendAgent s n (by simp [hcall])
  requests f := of_log_eq (by rw [f.rest]) (by rw [f.rest])

lemma countOnline (s : Controller) (d : ℤ) : Unmetered s (s.countOnline d) := by
  unfold Controller.countOnline checkSystemStatus
  dsimp only
  split
  · exact (of_log_eq rfl rfl : Unmetered s { s with
      numberOfNodesOnline := s.numberOfNodesOnline + d }).trans (emit _ OutputKind.noConfusion)
  · exact of_log_eq rfl rfl

lemma removeNode (s : Controller) (n : NodeId) (hname : (s.node n).name = none) :
    Unmetered s (s.removeNode n) :=
  proxies.removeAnonymous s n hname (fun _ _ _ => of_log_eq rfl rfl) fun _ => of_log_eq rfl rfl

lemma losses : ClosedLosses Unmetered where
  toClosedProxies := proxies
  announce := requests.announce
  jobs := requests.jobs
  seen _ _ _ _ := of_log_eq rfl rfl
  remove := removeNode
  count := countOnline
  beat s n := sendAgent s n OutputKind.noConfusion

lemma accepts : ClosedAccepts Unmetered where
  toClosedTables := tables
  depend := proxies.depend
  detach := nodeUnsetAgentBus
  link _ _ _ _ := of_log_eq rfl rfl
  status s _ _ := emit s OutputKind.noConfusion
  addMatch _ _ _ _ := of_log_eq rfl rfl
  addNode _ := of_log_eq rfl rfl
  busAlloc _ := of_log_eq rfl rfl
  remove := removeNode

lemma monitors : ClosedMonitors (fun _ => True) Unmetered where
  toClosedTables := tables
  reply s _ _ ho _ := emit s (kind_of_answers ho)
  clients f := of_log_eq (by rw [f.rest]) (by rw [f.rest])
  farewell s _ _ _ := emit s OutputKind.noConfusion

lemma addJob (s : Controller) (job : Job) : Unmetered s (s.addJob job).2 :=
  requests.toClosedJobs.addJob s job fun _ => of_log_eq rfl rfl

end Unmetered

/-- The connection of node `t` and its match on the metrics stay, or are both gone. -/
def SlotsKept (t : NodeId) (s s' : Controller) : Prop :=
  (s'.node t).agentBus = (s.node t).agentBus ∧
      (s'.node t).metricsMatchingSlot = (s.node t).metricsMatchingSlot ∨
    (s'.node t).agentBus = none ∧ (s'.node t).metricsMatchingSlot = none

namespace SlotsKept

lemma of_node_eq (h : s'.node t = s.node t) : SlotsKept t s s' := by
  rw [SlotsKept, h]
  exact Or.inl ⟨rfl, rfl⟩

lemma refl (t : NodeId) (s : Controller) : SlotsKept t s s := of_node_eq rfl

lemma trans (h : SlotsKept t s s') (h' : SlotsKept t s' s'') : SlotsKept t s s'' := by
  rcases h' with ⟨hbus', hslot'⟩ | hgone'
  · rcases h with ⟨hbus, hslot⟩ | hgone
    · exact Or.inl ⟨hbus'.trans hbus, hslot'.trans hslot⟩
    · exact Or.inr ⟨hbus'.trans hgone.1, hslot'.trans hgone.2⟩
  · exact Or.inr hgone'

lemma modifyNode (s : Controller) (n : NodeId) (f : Node → Node)
    (hbus : (f (s.node n)).agentBus = (s.node n).agentBus)
    (hslot : (f (s.node n)).metricsMatchingSlot = (s.node n).metricsMatchingSlot) :
    SlotsKept t s (s.modifyNode n f) := by
  by_cases hn : n = t
  · subst hn
    exact Or.inl ⟨by simpa using hbus, by simpa using hslot⟩
  · exact of_node_eq (by simp [Ne.symm hn])

lemma sendAgent (s : Controller) (n : NodeId) (call : AgentCall) :
    SlotsKept t s (s.sendAgent n call) := by
  apply of_node_eq
  unfold Controller.sendAgent
  split <;> rfl

lemma nodeUnsetAgentBus (s : Controller) (n : NodeId) : SlotsKept t s (s.nodeUnsetAgentBus n) := by
  by_cases hn : n = t
  · subst hn
    apply Or.inr
    unfold Controller.nodeUnsetAgentBus
    dsimp only
    split
    · exact ⟨by simp, by simp⟩
    · exact ⟨by simp, by simp⟩
  · apply of_node_eq
    unfold Controller.nodeUnsetAgentBus
    dsimp only
    split
    · simp [Ne.symm hn]
    · simp [Ne.symm hn]

lemma tables : ClosedTables (SlotsKept t) where
  refl := refl t
  trans := trans
  notify f := of_node_eq (by rw [f.rest])
  tell s n call _ := sendAgent s n call
  table s n f hf := modifyNode s n f (by rw [hf]) (by rw [hf])

lemma monitors : ClosedMonitors (fun _ => True) (SlotsKept t) where
  toClosedTables := tables
  reply _ _ _ _ _ := of_node_eq rfl
  clients f := of_node_eq (by rw [f.rest])
  farewell _ _ _ _ := of_node_eq rfl

lemma proxies : ClosedProxies (SlotsKept t) where
  toClosedTables := tables
  depend s n call _ := sendAgent s n call
  proxies s n f hf := modifyNode s n f (by rw [hf]) (by rw [hf])
  detach := nodeUnsetAgentBus
  proxyMonitor _ _ _ _ := of_node_eq rfl
  takeRef _ _ _ _ := of_node_eq rfl
  dropRef _ _ _ _ _ := of_node_eq rfl
  unlist _ _ _ := of_node_eq rfl
  proxyMonitorNew _ _ _ _ _ := of_node_eq rfl
  appendSubscription _ _ := of_node_eq rfl
  unlistSubscription _ _ := of_node_eq rfl
  subscriptionUnref s p o := monitors.subscriptionUnref s _ o
  answered _ _ := of_node_eq rfl

lemma requests : ClosedRequests (SlotsKept t) where
  toClosedProxies := proxies
  announce _ _ _ := of_node_eq rfl
  jobs f := of_node_eq (by rw [f.rest])
  reply _ _ _ := of_node_eq rfl
  ask s n call _ := sendAgent s n call
  requests f := Or.inl ⟨by rw [f.node], by rw [f.node]⟩

lemma losses : ClosedLosses (SlotsKept t) where
  toClosedProxies := proxies
  announce := requests.announce
  jobs := requests.jobs
  seen s n now nowMonotonic := modifyNode s n _ rfl rfl
  remove s n hname :=
    proxies.removeAnonymous s n hname (fun _ _ _ => of_node_eq rfl) fun _ => of_node_eq rfl
  count s d := by
    apply of_node_eq
    unfold Controller.countOnline checkSystemStatus
    dsimp only
    split <;> rfl
  beat s n := sendAgent s n _

lemma addJob (s : Controller) (job : Job) : SlotsKept t s (s.addJob job).2 :=
  requests.toClosedJobs.addJob s job fun _ => of_node_eq rfl

end SlotsKept

end Controller

/-- The events that make connections or are about the metrics, and the stop. -/
def Event.ofMetrics : Event → Bool
  | .accept .. => true
  | .register .. => true
  | .enableMetrics .. => true
  | .disableMetrics _ => true
  | .stop _ => true
  | _ => false

namespace Controller

/-- The parts of the functions that have nothing to do with the metrics. -/
structure ClosedQuiet (R : Controller → Controller → Prop) : Prop where
  requests : ClosedRequests R
  losses : ClosedLosses R
  monitors : ClosedMonitors (fun _ => True) R
  addJob : ∀ s job, R s (Controller.addJob s job).2

theorem ClosedQuiet.step {R : Controller → Controller → Prop} (h : ClosedQuiet R) {e : Event}
    (hstep : s.step e = some s') (he : e.ofMetrics = false) : R s s' := by
  by_cases hrequests : e.ofRequests = true
  · refine h.requests.step hstep hrequests (fun sync heq => ?_)
      fun _ _ job _ _ _ t => h.addJob t job
    rw [heq] at he
    cases he
  have hhandle := (step_eq_some_iff.mp hstep).2
  match e with
  | .disconnected n =>
    rw [← (whenever_eq_some_iff.mp hhandle).2]
    exact h.losses.nodeDisconnect s n
  | .heartbeatTimer now =>
    rw [← Option.some.inj hhandle]
    exact h.losses.heartbeatTimerCallback s now
  | .agentSignal bus n sig =>
    rw [← (whenever_eq_some_iff.mp hhandle).2]
    exact h.losses.onSignal s n sig
  | .proxyReply p => exact h.losses.proxyMonitorCallback hhandle
  | .createMonitor serial owner exported =>
    rw [← Option.some.inj hhandle]
    exact h.monitors.createMonitor s trivial owner exported
  | .subscribe m serial node units =>
    rw [← (whenever_eq_some_iff.mp hhandle).2]
    exact h.monitors.monitorMethodSubscribe s m trivial node units
  | .unsubscribe m serial subId =>
    rw [← (whenever_eq_some_iff.mp hhandle).2]
    exact h.monitors.monitorMethodUnsubscribe s m trivial subId
  | .addPeer m serial name =>
    rw [← (whenever_eq_some_iff.mp hhandle).2]
    exact h.monitors.monitorMethodAddPeer s m trivial name
  | .removePeer m serial peerId reason =>
    rw [← (whenever_eq_some_iff.mp hhandle).2]
    exact h.monitors.monitorMethodRemovePeer s m trivial peerId reason
  | .closeMonitor m serial =>
    rw [← (whenever_eq_some_iff.mp hhandle).2]
    exact h.monitors.monitorMethodClose s m trivial
  | .nameOwnerChanged name newOwner =>
    rw [← Option.some.inj hhandle]
    exact h.monitors.nameOwnerChanged s name newOwner

lemma Unmetered.quiet : ClosedQuiet Unmetered where
  requests := requests
  losses := losses
  monitors := monitors
  addJob := addJob

lemma SlotsKept.quiet : ClosedQuiet (SlotsKept t) where
  requests := requests
  losses := losses
  monitors := monitors
  addJob := addJob

/-! ## New connections -/

/-- The matches on the metrics stay, but node `n` may lose its. -/
def MatchesKept (n : NodeId) (s s' : Controller) : Prop :=
  ∀ k, (s'.node k).metricsMatchingSlot = (s.node k).metricsMatchingSlot ∨
    k = n ∧ (s'.node k).metricsMatchingSlot = none

namespace MatchesKept

variable {n : NodeId}

lemma of_node_eq (h : s'.node = s.node) : MatchesKept n s s' := fun k => by
  rw [h]
  exact Or.inl rfl

lemma trans (h : MatchesKept n s s') (h' : MatchesKept n s' s'') : MatchesKept n s s'' := by
  intro k
  rcases h' k with heq | hgone
  · rcases h k with heq' | ⟨hk, hgone⟩
    · exact Or.inl (heq.trans heq')
    · exact Or.inr ⟨hk, heq.trans hgone⟩
  · exact Or.inr hgone

lemma modifyNode (s : Controller) (n : NodeId) (f : Node → Node)
    (hf : (f (s.node n)).metricsMatchingSlot = (s.node n).metricsMatchingSlot) :
    MatchesKept n s (s.modifyNode n f) := fun k => by
  by_cases hk : k = n
  · subst hk
    exact Or.inl (by simpa using hf)
  · exact Or.inl (by simp [hk])

lemma nodeUnsetAgentBus (s : Controller) (n : NodeId) : MatchesKept n s (s.nodeUnsetAgentBus n) := by
  intro k
  rw [nodeUnsetAgentBus_node]
  by_cases hk : k = n
  · subst hk
    exact Or.inr ⟨rfl, by simp [detachedNode]⟩
  · exact Or.inl (by rw [Function.update_of_ne hk])

lemma addMatches (n : NodeId) (bus : BusId) (fails : BusCall → Bool) (members : List AgentMember)
    (s : Controller) : MatchesKept n s (addMatches n bus fails members s).2 := by
  apply of_node_eq
  rw [Consistent.addMatches_rest]

lemma nodeAddRegistrations (s : Controller) (n : NodeId) (bus : BusId) (fails : BusCall → Bool) :
    MatchesKept n s (s.nodeAddRegistrations n bus fails).2 := by
  unfold Controller.nodeAddRegistrations
  split
  · split
    · exact nodeUnsetAgentBus s n
    · dsimp only
      apply modifyNode
      rfl
  · have hfirst := addMatches n bus fails firstMembers s
    split
    · rename_i u heq
      rwa [heq] at hfirst
    · rename_i u heq
      rw [heq] at hfirst
      exact hfirst.trans ((of_node_eq rfl : MatchesKept n u (u.emit _)).trans (addMatches n bus fails _ _))

lemma nodeSetAgentBus (s : Controller) (n : NodeId) (bus : BusId) (peer : PeerInfo)
    (fails : BusCall → Bool) : MatchesKept n s (s.nodeSetAgentBus n bus peer fails).2 := by
  have hadd := (modifyNode s n (storeAgentBus bus peer) rfl).trans
    (nodeAddRegistrations (s.modifyNode n (storeAgentBus bus peer)) n bus fails)
  unfold Controller.nodeSetAgentBus
  split
  · exact of_node_eq rfl
  · split
    · rename_i u heq
      rwa [heq] at hadd
    · rename_i u heq
      rw [heq] at hadd
      split
      · exact hadd.trans (nodeUnsetAgentBus u n)
      · have hslot : MatchesKept n u (u.modifyNode n fun node =>
            { node with disconnectSlot := some bus }) := modifyNode u n _ rfl
        exact hadd.trans (hslot.trans (of_node_eq (announceAttached _ n)))

end MatchesKept

variable {gap : ℤ}

/-- An incoming connection has nothing to do with the named nodes. -/
lemma slotsKept_acceptNodeConnection (hcons : Consistent gap s) (ht : t ∈ s.nodes) (peer : PeerInfo)
    (fails : BusCall → Bool) : SlotsKept t s (s.acceptNodeConnection peer fails) := by
  have hne : t ≠ s.nextPtr := by
    intro heq
    exact lt_irrefl t (heq.symm ▸ hcons.registry.fresh t (Or.inl ht))
  have hbus : ((s.acceptNodeConnection peer fails).node t).agentBus = (s.node t).agentBus := by
    obtain ⟨_, _, _, hview⟩ := still_acceptNodeConnection hcons ht peer fails
    exact congrArg NodeView.agentBus (Prod.mk.inj hview).1.symm
  refine Or.inl ⟨hbus, ?_⟩
  have hadd : Consistent gap (s.addNode none).busAlloc :=
    hcons.addNode_none.of_frame (coreFrame_busAlloc _)
  have hmem : s.nextPtr ∈ (s.addNode none).busAlloc.anonymousNodes :=
    List.mem_append_right _ (List.mem_singleton.mpr rfl)
  have hagent : nodeHasAgent ((s.addNode none).busAlloc.node s.nextPtr) = false := by
    simp [addNode, nodeAlloc, busAlloc, nodeNew, nodeHasAgent]
  have hnew : (s.addNode none).busAlloc.node t = s.node t := by
    simp [addNode, nodeAlloc, busAlloc, hne]
  have hset := MatchesKept.nodeSetAgentBus (s.addNode none).busAlloc s.nextPtr (s.nextPtr + 1) peer
    fails t
  rw [hnew] at hset
  have hslot := hset.resolve_right fun hself => hne hself.1
  obtain ⟨hcons', hkeeps⟩ := nodeSetAgentBus_anonymous hadd hmem (s.nextPtr + 1) peer fails hagent
  unfold acceptNodeConnection
  dsimp only
  generalize (s.addNode none).busAlloc.nodeSetAgentBus s.nextPtr (s.nextPtr + 1) peer fails = result
    at hslot hcons' hkeeps ⊢
  obtain ⟨ok, u⟩ := result
  cases ok with
  | true => exact hslot
  | false =>
    have heq := hcons'.removeNode_anonymous_eq (hkeeps.anonymousNodes.symm ▸ hmem)
    show ((u.removeNode s.nextPtr).node t).metricsMatchingSlot = (s.node t).metricsMatchingSlot
    simp only at heq
    rw [heq]
    show ((u.modifyNode s.nextPtr Consistent.freedNode).node t).metricsMatchingSlot = _
    rw [modifyNode_node, Function.update_of_ne hne]
    exact hslot

/-! ## The nodes are told -/

/-- The agent of node `t` gets the call if `heard`, and the match of the node becomes `slot` of its
connection. -/
structure TellsMetrics (t : NodeId) (call : AgentCall) (slot : BusId → Option BusId) (heard : Prop)
    (s s' : Controller) : Prop where
  flag : s'.metricsEnabled = s.metricsEnabled
  bus : (s'.node t).agentBus = (s.node t).agentBus
  log : ∃ l, s'.log = s.log ++ l ∧
    (∀ b, ∀ c ∈ callsOn t b l, heard ∧ c = call ∧ (s.node t).agentBus = some b) ∧
    (heard → ∀ b, (s.node t).agentBus = some b → call ∈ callsOn t b l)
  present : ∀ b, (s.node t).agentBus = some b →
    heard ∨ (s.node t).metricsMatchingSlot = slot b → (s'.node t).metricsMatchingSlot = slot b
  absent : (s.node t).agentBus = none →
    (s'.node t).metricsMatchingSlot = (s.node t).metricsMatchingSlot

namespace TellsMetrics

variable {call : AgentCall} {slot : BusId → Option BusId} {heard heard' : Prop}

lemma refl (s : Controller) (hheard : ¬heard) : TellsMetrics t call slot heard s s where
  flag := rfl
  bus := rfl
  log := ⟨[], by rw [List.append_nil], by simp [callsOn], fun h => absurd h hheard⟩
  present _ _ h := h.resolve_left hheard
  absent _ := rfl

lemma trans (h : TellsMetrics t call slot heard s s') (h' : TellsMetrics t call slot heard' s' s'') :
    TellsMetrics t call slot (heard ∨ heard') s s'' := by
  obtain ⟨l, hl, hcalls, hheard⟩ := h.log
  obtain ⟨l', hl', hcalls', hheard'⟩ := h'.log
  refine ⟨h'.flag.trans h.flag, h'.bus.trans h.bus,
    ⟨l ++ l', by rw [hl', hl, List.append_assoc], ?_, ?_⟩, fun b hb hor => ?_, fun hb => ?_⟩
  · intro b c hc
    rw [callsOn_append] at hc
    rcases List.mem_append.mp hc with hc | hc
    · have ⟨hfirst, heq, hb⟩ := hcalls b c hc
      exact ⟨Or.inl hfirst, heq, hb⟩
    · have ⟨hnext, heq, hb⟩ := hcalls' b c hc
      exact ⟨Or.inr hnext, heq, h.bus ▸ hb⟩
  · intro hor b hb
    rw [callsOn_append, List.mem_append]
    exact hor.imp (fun hfirst => hheard hfirst b hb) fun hnext => hheard' hnext b (h.bus.trans hb)
  · apply h'.present b (h.bus.trans hb)
    rcases hor with (hfirst | hnext) | hslot
    · exact Or.inr (h.present b hb (Or.inl hfirst))
    · exact Or.inl hnext
    · exact Or.inr (h.present b hb (Or.inr hslot))
  · rw [h'.absent (h.bus.trans hb), h.absent hb]

/-- One node is told, if it has an agent. -/
lemma tell (s : Controller) (n : NodeId) (f : Node → Node)
    (hagent : nodeHasAgent (s.node n) = true) (hbus : ∀ node, (f node).agentBus = node.agentBus)
    (hslot : ∀ node b, node.agentBus = some b → (f node).metricsMatchingSlot = slot b) :
    TellsMetrics t call slot (n = t) s ((s.sendAgent n call).modifyNode n f) := by
  obtain ⟨b, hb⟩ := Option.isSome_iff_exists.mp hagent
  have hsend : s.sendAgent n call = s.emit (.toAgent b n call) := by
    unfold sendAgent
    rw [hb]
  rw [hsend]
  by_cases hn : n = t
  · subst hn
    have hnode : (((s.emit (.toAgent b n call)).modifyNode n f).node n) = f (s.node n) := by simp
    refine ⟨rfl, by rw [hnode, hbus], ⟨[.toAgent b n call], rfl, fun b' c hc => ?_, fun _ b' hb' => ?_⟩,
      fun b' hb' _ => by rw [hnode, hslot _ b' hb'], fun hnone => by rw [hb] at hnone; cases hnone⟩
    · by_cases hbb : b = b'
      · simp only [callsOn, Output.callOn, List.filterMap_cons, List.filterMap_nil, hbb, and_self,
          if_true, List.mem_singleton] at hc
        exact ⟨rfl, hc, hbb ▸ hb⟩
      · simp [callsOn, Output.callOn, hbb] at hc
    · have hbb : b = b' := Option.some.inj (hb.symm.trans hb')
      simp [callsOn, Output.callOn, hbb]
  · have hnode : (((s.emit (.toAgent b n call)).modifyNode n f).node t) = s.node t := by
      simp [Ne.symm hn]
    refine ⟨rfl, by rw [hnode], ⟨[.toAgent b n call], rfl, fun b' c hc => ?_, fun h => absurd h hn⟩,
      fun b' _ hor => by rw [hnode, hor.resolve_left hn], fun _ => by rw [hnode]⟩
    simp [callsOn, Output.callOn, hn] at hc

lemma of_offline (s : Controller) (n : NodeId) (hagent : ¬nodeHasAgent (s.node n) = true) :
    TellsMetrics t call slot (n = t) s s := by
  by_cases hn : n = t
  · subst hn
    have hnone : (s.node n).agentBus = none := by simpa [nodeHasAgent] using hagent
    refine ⟨rfl, rfl, ⟨[], by rw [List.append_nil], by simp [callsOn], fun _ b hb => ?_⟩,
      fun b hb _ => ?_, fun _ => rfl⟩
    · rw [hnone] at hb
      cases hb
    · rw [hnone] at hb
      cases hb
  · exact refl s hn

lemma nodeEnableMetrics {fails : BusCall → Bool} (hfails : fails .matchMetrics = false)
    (s : Controller) (n : NodeId) :
    TellsMetrics t .enableMetrics some (n = t) s (nodeEnableMetrics fails s n) := by
  unfold Controller.nodeEnableMetrics
  split
  · rename_i hagent
    simp only [hfails, Bool.false_eq_true, if_false]
    exact tell s n _ hagent (fun _ => rfl) fun _ _ hb => hb
  · rename_i hagent
    exact of_offline s n hagent

lemma nodeDisableMetrics (s : Controller) (n : NodeId) :
    TellsMetrics t .disableMetrics (fun _ => none) (n = t) s (nodeDisableMetrics s n) := by
  unfold Controller.nodeDisableMetrics
  split
  · rename_i hagent
    exact tell s n _ hagent (fun _ => rfl) fun _ _ _ => rfl
  · rename_i hagent
    exact of_offline s n hagent

/-- All nodes of a list are told. -/
lemma foldl {f : Controller → NodeId → Controller}
    (hf : ∀ s n, TellsMetrics t call slot (n = t) s (f s n)) (ns : List NodeId) (s : Controller) :
    TellsMetrics t call slot (t ∈ ns) s (ns.foldl f s) := by
  induction ns generalizing s with
  | nil => exact refl s List.not_mem_nil
  | cons n ns ih =>
    have hboth := (hf s n).trans (ih (f s n))
    rwa [eq_comm, ← List.mem_cons] at hboth

end TellsMetrics

/-! ## Runs -/

/-- The metrics are on, as a set of keys. -/
def metricsKeys (s : Controller) : Set Unit := {_k | s.metricsEnabled = true}

/-- A node has its match while it is online and the metrics are on. -/
def MatchesWhileOn (t : NodeId) (s : Controller) : Prop :=
  (s.node t).metricsMatchingSlot = if s.metricsEnabled then (s.node t).agentBus else none

/-- What a step means for the metrics of a node: a connection that stays hears of every change, a new
one is `offered`, and hears whether the metrics are on. -/
structure MetricsMove (offered : BusId → Prop) (t : NodeId) (s s' : Controller) : Prop where
  log : ∃ l, s'.log = s.log ++ l ∧
    (∀ b, ∀ c ∈ callsOn t b l, c.aboutMetrics ≠ none → (s'.node t).agentBus = some b) ∧
    ∀ b, (s'.node t).agentBus = some b → ((s.node t).agentBus = some b ∨ offered b) ∧
      s'.metricsKeys = exec AgentCall.aboutMetrics
        (if (s.node t).agentBus = some b then s.metricsKeys else ∅) (callsOn t b l)
  slot : s.MatchesWhileOn t → s'.MatchesWhileOn t

/-- A step that leaves the metrics alone, as far as node `t` is concerned. -/
structure MetricsQuiet (t : NodeId) (s s' : Controller) : Prop where
  flag : s'.metricsEnabled = s.metricsEnabled
  log : ∃ l, s'.log = s.log ++ l ∧ ∀ b, ∀ c ∈ callsOn t b l, c.aboutMetrics = none
  slots : SlotsKept t s s'

namespace MetricsQuiet

lemma of_unmetered (hflag : Unmetered s s') (hslots : SlotsKept t s s') : MetricsQuiet t s s' := by
  obtain ⟨hflag, l, hl, hkinds⟩ := hflag
  refine ⟨hflag, ⟨l, hl, fun b c hc => ?_⟩, hslots⟩
  obtain ⟨o, ho, hon⟩ := List.mem_filterMap.mp hc
  by_contra hcall
  cases o with
  | toAgent bus n call =>
    simp only [Output.callOn, Option.ite_none_right_eq_some, Option.some.injEq] at hon
    exact hkinds _ ho (hon.2 ▸ AgentCall.kind_of_aboutMetrics hcall)
  | _ => cases hon

lemma trans (h : MetricsQuiet t s s') (h' : MetricsQuiet t s' s'') : MetricsQuiet t s s'' := by
  obtain ⟨l, hl, hsilent⟩ := h.log
  obtain ⟨l', hl', hsilent'⟩ := h'.log
  refine ⟨h'.flag.trans h.flag, ⟨l ++ l', by rw [hl', hl, List.append_assoc], fun b c hc => ?_⟩,
    h.slots.trans h'.slots⟩
  rw [callsOn_append] at hc
  exact (List.mem_append.mp hc).elim (hsilent b c) (hsilent' b c)

/-- Another node is told. -/
lemma of_tells {call : AgentCall} {slot : BusId → Option BusId} {n : NodeId} (hn : n ≠ t)
    (h : TellsMetrics t call slot (n = t) s s')
    (hslot : (s'.node t).metricsMatchingSlot = (s.node t).metricsMatchingSlot) :
    MetricsQuiet t s s' := by
  obtain ⟨l, hl, hcalls, _⟩ := h.log
  exact ⟨h.flag, ⟨l, hl, fun b c hc => absurd (hcalls b c hc).1 hn⟩, Or.inl ⟨h.bus, hslot⟩⟩

end MetricsQuiet

namespace MetricsMove

variable {offered : BusId → Prop}

lemma of_quiet (h : MetricsQuiet t s s') : MetricsMove offered t s s' := by
  obtain ⟨hflag, ⟨l, hl, hsilent⟩, hslots⟩ := h
  have hkeys : s'.metricsKeys = s.metricsKeys := by
    unfold metricsKeys
    rw [hflag]
  refine ⟨⟨l, hl, fun b c hc hcall => absurd (hsilent b c hc) hcall, fun b hb => ?_⟩,
    fun hslot => ?_⟩
  · rcases hslots with ⟨hbus, _⟩ | ⟨hgone, _⟩
    · rw [hbus] at hb
      rw [if_pos hb, exec_of_silent (hsilent b)]
      exact ⟨Or.inl hb, hkeys⟩
    · rw [hgone] at hb
      cases hb
  · unfold MatchesWhileOn at hslot ⊢
    rw [hflag]
    rcases hslots with ⟨hbus, hsame⟩ | ⟨hbus, hgone⟩
    · rw [hbus, hsame, hslot]
    · rw [hbus, hgone, ite_self]

/-- What follows leaves the node as it is. -/
lemma trans_quiet (h : MetricsMove offered t s s') (h' : MetricsQuiet t s' s'')
    (hnode : (s''.node t).agentBus = (s'.node t).agentBus) : MetricsMove offered t s s'' := by
  obtain ⟨l, hl, hcalls, hexec⟩ := h.log
  have hnext : MetricsMove offered t s' s'' := of_quiet h'
  obtain ⟨l', hl', hsilent⟩ := h'.log
  refine ⟨⟨l ++ l', by rw [hl', hl, List.append_assoc], fun b c hc hcall => ?_, fun b hb => ?_⟩,
    fun hslot => hnext.slot (h.slot hslot)⟩
  · rw [callsOn_append] at hc
    rcases List.mem_append.mp hc with hc | hc
    · rw [hnode]
      exact hcalls b c hc hcall
    · exact absurd (hsilent b c hc) hcall
  · rw [hnode] at hb
    have ⟨hfrom, hkeys⟩ := hexec b hb
    refine ⟨hfrom, ?_⟩
    rw [callsOn_append, exec_append, ← hkeys, exec_of_silent (hsilent b)]
    unfold metricsKeys
    rw [h'.flag]

/-- A row of the same calls about a key. -/
lemma exec_replicate {call : AgentCall} {on : Bool} (hcall : call.aboutMetrics = some ((), on))
    {calls : List AgentCall} (hall : ∀ c ∈ calls, c = call) (hne : call ∈ calls) (K : Set Unit) :
    exec AgentCall.aboutMetrics K calls = {_k | on = true} := by
  induction calls generalizing K with
  | nil => exact absurd hne List.not_mem_nil
  | cons c calls ih =>
    obtain rfl : c = call := hall c List.mem_cons_self
    have hrest : ∀ c' ∈ calls, c' = c := fun c' hc' => hall c' (List.mem_cons_of_mem _ hc')
    rw [exec_cons]
    by_cases hmem : c ∈ calls
    · exact ih hrest hmem _
    · have hnil : calls = [] := by
        match calls with
        | [] => rfl
        | c' :: _ => exact absurd (hrest c' List.mem_cons_self ▸ List.mem_cons_self) hmem
      rw [hnil, exec_nil]
      cases on with
      | true =>
        rw [act_of_put hcall]
        ext k
        simp
      | false =>
        rw [act_of_take hcall]
        ext k
        simp

/-- All nodes are told that the metrics are on, or off. -/
lemma of_tells {call : AgentCall} {on : Bool} {slot : BusId → Option BusId}
    (hcall : call.aboutMetrics = some ((), on)) (hslot : ∀ b, slot b = if on then some b else none)
    (ht : t ∈ s.nodes) (htells : TellsMetrics t call slot (t ∈ s.nodes) { s with metricsEnabled := on } s') :
    MetricsMove offered t s s' := by
  obtain ⟨l, hl, hcalls, hheard⟩ := htells.log
  have hbus : (s'.node t).agentBus = (s.node t).agentBus := htells.bus
  refine ⟨⟨l, hl, fun b c hc _ => hbus.trans (hcalls b c hc).2.2, fun b hb => ?_⟩, fun hmatch => ?_⟩
  · rw [hbus] at hb
    refine ⟨Or.inl hb, ?_⟩
    rw [exec_replicate hcall (fun c hc => (hcalls b c hc).2.1) (hheard ht b hb)]
    unfold metricsKeys
    rw [htells.flag]
  · unfold MatchesWhileOn at hmatch ⊢
    rw [htells.flag, hbus]
    cases hb : (s.node t).agentBus with
    | none =>
      rw [htells.absent hb, ite_self]
      show (s.node t).metricsMatchingSlot = none
      rw [hmatch, hb, ite_self]
    | some b =>
      rw [htells.present b hb (Or.inl ht), hslot]

/-- The node gets a connection, and is told about the metrics if they are on. -/
lemma of_attached {u w : Controller} {bus : BusId} (hoffered : offered bus)
    (hflag : Unmetered s u) (hnone : (s.node t).agentBus = none)
    (hbus : (u.node t).agentBus = some bus)
    (hslot : (u.node t).metricsMatchingSlot = (s.node t).metricsMatchingSlot ∨
      (u.node t).metricsMatchingSlot = none)
    (hw : u.metricsEnabled = true ∧ TellsMetrics t .enableMetrics some True u w ∨
      u.metricsEnabled = false ∧ w = u) : MetricsMove offered t s w := by
  have hquiet : MetricsQuiet t s { u with node := s.node } :=
    .of_unmetered ⟨hflag.flag, hflag.log⟩ (.of_node_eq rfl)
  obtain ⟨l, hl, hsilent⟩ := hquiet.log
  have hfree : s.MatchesWhileOn t → (u.node t).metricsMatchingSlot = none := by
    intro hmatch
    unfold MatchesWhileOn at hmatch
    rw [hnone, ite_self] at hmatch
    rcases hslot with heq | hgone
    · rw [heq, hmatch]
    · exact hgone
  rcases hw with ⟨hon, htells⟩ | ⟨hoff, rfl⟩
  · obtain ⟨l', hl', hcalls, hheard⟩ := htells.log
    have hbus' : (w.node t).agentBus = some bus := htells.bus.trans hbus
    have hon' : w.metricsEnabled = true := htells.flag.trans hon
    refine ⟨⟨l ++ l', by rw [hl', show u.log = s.log ++ l from hl, List.append_assoc],
      fun b c hc hcall => ?_, fun b hb => ?_⟩, fun _ => ?_⟩
    · rw [callsOn_append] at hc
      rcases List.mem_append.mp hc with hc | hc
      · exact absurd (hsilent b c hc) hcall
      · exact htells.bus.trans (hcalls b c hc).2.2
    · obtain rfl : bus = b := Option.some.inj (hbus'.symm.trans hb)
      refine ⟨Or.inr hoffered, ?_⟩
      rw [callsOn_append, exec_append, exec_replicate
        (show AgentCall.aboutMetrics .enableMetrics = some ((), true) from rfl) (fun c hc => (hcalls bus c hc).2.1) (hheard trivial bus hbus)]
      unfold metricsKeys
      rw [hon']
    · unfold MatchesWhileOn
      rw [hon', if_pos rfl, hbus', htells.present bus hbus (Or.inl trivial)]
  · refine ⟨⟨l, hl, fun b c hc hcall => absurd (hsilent b c hc) hcall, fun b hb => ?_⟩,
      fun hmatch => ?_⟩
    · obtain rfl : bus = b := Option.some.inj (hbus.symm.trans hb)
      refine ⟨Or.inr hoffered, ?_⟩
      rw [if_neg (by simp [hnone]), exec_of_silent (hsilent bus)]
      unfold metricsKeys
      rw [hoff]
      simp
    · unfold MatchesWhileOn
      rw [hoff, hfree hmatch]
      rfl

end MetricsMove

/-- Attaching a connection ends with it or without one. -/
lemma bus_attachMoves {v : NodeView} (bus : BusId) (fails : BusCall → Bool) :
    (v.runAll (attachMoves bus fails)).1.agentBus = some bus ∨
      (v.runAll (attachMoves bus fails)).1.agentBus = none := by
  unfold attachMoves
  split
  · exact Or.inl rfl
  · split
    · exact Or.inl rfl
    · split
      · exact Or.inr rfl
      · exact Or.inl rfl

/-- `node_method_register`. -/
lemma metricsMove_nodeMethodRegister (hcons : Consistent gap s) (ht : t ∈ s.nodes) {a : NodeId}
    {serial : Serial} {name : String} {now nowMonotonic : UInt64} {peer : PeerInfo}
    {fails : BusCall → Bool} (hclean : ¬MatchFails fails) (hfails : fails .matchMetrics = false)
    {offered : BusId → Prop} (hoffered : ∀ bus, (s.node a).agentBus = some bus → offered bus) :
    MetricsMove offered t s (s.nodeMethodRegister a serial name now nowMonotonic peer fails) := by
  unfold nodeMethodRegister
  split
  · exact .of_quiet (.of_unmetered (.emit s OutputKind.noConfusion) (.of_node_eq rfl))
  · exact .of_quiet (.of_unmetered (.refl s) (.refl t s))
  · rename_i n bus htarget hbus
    obtain ⟨ha, hn, _, hagent, _⟩ := (registerTarget_eq_ok_iff hcons.registry a n name).mp htarget
    have hne : a ≠ t := fun heq => hcons.registry.named t ht (heq ▸ ha)
    have hnone : (s.node n).agentBus = none := by simpa [nodeHasAgent] using hagent
    have hclock := coreFrame_modifyNode s n (f := fun node =>
      { node with lastSeen := now, lastSeenMonotonic := nowMonotonic }) ⟨rfl, fun _ => rfl, id⟩
    have hseen := hcons.of_frame hclock
    have hseen_agent : nodeHasAgent ((s.modifyNode n fun node =>
        { node with lastSeen := now, lastSeenMonotonic := nowMonotonic }).node n) = false := by
      rw [(hclock.node n).nodeHasAgent, hagent]
    have hattach := nodeSetAgentBus_named hseen (n := n) hn hseen_agent bus peer fails
    have hfollows := follows_nodeSetAgentBus (t := n) _ (hseen.registry.named n hn) hseen_agent bus
      peer fails
    have hflag := (Unmetered.losses.seen s n now nowMonotonic).trans
      (Unmetered.accepts.nodeSetAgentBus _ n bus peer fails)
    have hmatches := (MatchesKept.modifyNode s n (fun node =>
      { node with lastSeen := now, lastSeenMonotonic := nowMonotonic }) rfl).trans
      (MatchesKept.nodeSetAgentBus _ n bus peer fails)
    have hothers : ∀ k, k ≠ n → ((s.modifyNode n fun node =>
        { node with lastSeen := now, lastSeenMonotonic := nowMonotonic }).node k) = s.node k := by
      intro k hk
      simp [hk]
    dsimp only
    generalize (s.modifyNode n fun node => { node with
      lastSeen := now, lastSeenMonotonic := nowMonotonic }).nodeSetAgentBus n bus peer fails = result
      at hattach hfollows hflag hmatches ⊢
    obtain ⟨ok, u⟩ := result
    simp only at hflag hmatches
    -- the replies and the counter have nothing to do with the metrics
    have htail : ∀ w : Controller, MetricsQuiet t w
        (((w.nodeUnsetAgentBus a).countOnline 1).emit (.reply serial .empty)) ∧
          ((((w.nodeUnsetAgentBus a).countOnline 1).emit (.reply serial .empty)).node t).agentBus =
            (w.node t).agentBus := by
      intro w
      have hflag := ((Unmetered.nodeUnsetAgentBus w a).trans (Unmetered.countOnline _ 1)).trans
        (Unmetered.emit _ (o := .reply serial .empty) OutputKind.noConfusion)
      have hslots := ((SlotsKept.nodeUnsetAgentBus (t := t) w a).trans
        (SlotsKept.losses.count _ 1)).trans (.of_node_eq rfl :
          SlotsKept t _ (((w.nodeUnsetAgentBus a).countOnline 1).emit (.reply serial .empty)))
      refine ⟨.of_unmetered hflag hslots, ?_⟩
      have hcount : ∀ s : Controller, (s.countOnline 1).node = s.node := by
        intro s
        unfold countOnline checkSystemStatus
        dsimp only
        split <;> rfl
      rw [emit_node, hcount, nodeUnsetAgentBus_node, Function.update_of_ne (Ne.symm hne)]
    have hkept : SlotsKept t s u ∨ n = t ∧ (u.node t).agentBus = some bus := by
      by_cases heq : n = t
      · subst heq
        obtain ⟨_, _, _, hview⟩ := hfollows
        have hbus' := congrArg NodeView.agentBus (Prod.mk.inj hview).1
        rcases bus_attachMoves (v := ((s.modifyNode n fun node =>
          { node with lastSeen := now, lastSeenMonotonic := nowMonotonic }).node n).view) bus fails
          with hsome | hgone
        · exact Or.inr ⟨rfl, hbus'.symm.trans hsome⟩
        · refine Or.inl (Or.inr ⟨hbus'.symm.trans hgone, ?_⟩)
          rcases hmatches n with hsame | ⟨_, hlost⟩
          · rw [hsame]
            exact (hcons.detached n hnone).2.2.1
          · exact hlost
      · exact Or.inl (.of_node_eq ((hattach.others t (Ne.symm heq)).trans (hothers t (Ne.symm heq))))
    cases ok with
    | false =>
      have hslots : SlotsKept t s u := by
        rcases hkept with hkept | ⟨rfl, hsome⟩
        · exact hkept
        · have hagent' := hattach.failure hclean rfl
          simp [nodeHasAgent, hsome] at hagent'
      exact .of_quiet ((MetricsQuiet.of_unmetered hflag hslots).trans
        (.of_unmetered (.emit u OutputKind.noConfusion) (.of_node_eq rfl)))
    | true =>
      have hw : ∃ w, (if u.metricsEnabled then u.nodeEnableMetrics fails n else u) = w ∧
          (u.metricsEnabled = true ∧ TellsMetrics t .enableMetrics some (n = t) u w ∨
            u.metricsEnabled = false ∧ w = u) ∧ (n ≠ t → w.node t = u.node t) := by
        refine ⟨_, rfl, ?_, fun hn => ?_⟩
        · cases hon : u.metricsEnabled with
          | true => exact Or.inl ⟨rfl, .nodeEnableMetrics hfails u n⟩
          | false => exact Or.inr ⟨rfl, rfl⟩
        · split
          · unfold nodeEnableMetrics sendAgent
            split
            · split
              · simp [hfails, Ne.symm hn]
              · simp [hfails, Ne.symm hn]
            · rfl
          · rfl
      obtain ⟨w, hwdef, hw, hnode⟩ := hw
      obtain ⟨hquiet, hsame⟩ := htail w
      simp only
      rw [hwdef]
      by_cases heq : n = t
      · subst heq
        have hsome : (u.node n).agentBus = some bus := by
          have hagent' := hattach.success rfl
          rcases hkept with (⟨hbus', _⟩ | ⟨hbus', _⟩) | ⟨_, hsome⟩
          · simp [nodeHasAgent, hbus', hnone] at hagent'
          · simp [nodeHasAgent, hbus'] at hagent'
          · exact hsome
        refine (MetricsMove.of_attached (hoffered bus hbus) hflag hnone hsome ?_ ?_).trans_quiet hquiet
          hsame
        · exact (hmatches n).imp id And.right
        · simpa using hw
      · have hslots : SlotsKept t s u := hkept.resolve_right fun hself => heq hself.1
        have hmiddle : MetricsQuiet t u w := by
          rcases hw with ⟨_, htells⟩ | ⟨_, rfl⟩
          · exact .of_tells heq htells (by rw [hnode heq])
          · exact .of_unmetered (.refl w) (.refl t w)
        exact .of_quiet (((MetricsQuiet.of_unmetered hflag hslots).trans hmiddle).trans hquiet)

/-- Every event but the stop. -/
lemma metricsMove_of_step (hcons : Consistent gap s) (hwired : Wired s) (ht : t ∈ s.nodes) {e : Event}
    (hclean : e.AttachesCleanly) (hmatches : e.MatchesMetrics) (hstop : ∀ sync, e ≠ .stop sync)
    (hstep : s.step e = some s') : MetricsMove (fun b => ¬Spent b s) t s s' := by
  by_cases hquiet : e.ofMetrics = false
  · exact .of_quiet (.of_unmetered (Unmetered.quiet.step hstep hquiet) (SlotsKept.quiet.step hstep hquiet))
  have hhandle := (step_eq_some_iff.mp hstep).2
  cases e with
  | accept peer fails =>
    rw [← Option.some.inj hhandle]
    exact .of_quiet (.of_unmetered (Unmetered.accepts.acceptNodeConnection s peer fails)
      (slotsKept_acceptNodeConnection hcons ht peer fails))
  | register a serial name now nowMonotonic peer fails =>
    obtain ⟨hslot, rfl⟩ := whenever_eq_some_iff.mp hhandle
    refine metricsMove_nodeMethodRegister hcons ht hclean hmatches fun bus hbus hspent => ?_
    -- the anonymous node can still be registered
    obtain ⟨bus', hslot⟩ := Option.isSome_iff_exists.mp hslot
    have hlink := hwired.slot a bus' hslot
    rw [show (s.links a).agentBus = some bus from hbus] at hlink
    obtain rfl := Option.some.inj hlink
    exact hspent.slot a hslot
  | enableMetrics serial exported fails =>
    rw [← Option.some.inj hhandle]
    unfold methodMetricsEnable
    split
    · exact .of_quiet (.of_unmetered (.emit s OutputKind.noConfusion) (.of_node_eq rfl))
    · split
      · exact .of_quiet (.of_unmetered (.emit s OutputKind.noConfusion) (.of_node_eq rfl))
      · have htells := TellsMetrics.foldl (t := t) (TellsMetrics.nodeEnableMetrics hmatches) s.nodes
          { s with metricsEnabled := true }
        have hmove : MetricsMove (fun b => ¬Spent b s) t s _ :=
          .of_tells (show AgentCall.aboutMetrics .enableMetrics = some ((), true) from rfl)
            (fun _ => rfl) ht htells
        exact hmove.trans_quiet (.of_unmetered (.emit _ OutputKind.noConfusion) (.of_node_eq rfl)) rfl
  | disableMetrics serial =>
    rw [← Option.some.inj hhandle]
    unfold methodMetricsDisable
    split
    · exact .of_quiet (.of_unmetered (.emit s OutputKind.noConfusion) (.of_node_eq rfl))
    · have htells := TellsMetrics.foldl (t := t) TellsMetrics.nodeDisableMetrics s.nodes
        { s with metricsEnabled := false }
      have hmove : MetricsMove (fun b => ¬Spent b s) t s _ :=
        .of_tells (show AgentCall.aboutMetrics .disableMetrics = some ((), false) from rfl)
          (fun _ => rfl) ht htells
      exact hmove.trans_quiet (.of_unmetered (.emit _ OutputKind.noConfusion) (.of_node_eq rfl)) rfl
  | stop sync => exact absurd rfl (hstop sync)
  | _ => exact absurd rfl hquiet

/-- What the agent of a node heard on its connection amounts to the flag, and the node has its match
just while it is online and the flag is set. -/
structure Metered (t : NodeId) (s : Controller) : Prop where
  calls : KeyedByCalls AgentCall.aboutMetrics s.metricsKeys t s
  slot : s.MatchesWhileOn t

lemma Metered.step (h : Metered t s) (hcons : Consistent 0 s) (hcons' : Consistent 0 s')
    (hwired : Wired s) (hwired' : Wired s') (ht : t ∈ s.nodes) {e : Event}
    (hclean : e.AttachesCleanly) (hmatches : e.MatchesMetrics) (hstop : ∀ sync, e ≠ .stop sync)
    (hstep : s.step e = some s') : Metered t s' := by
  have hlink := linkStep_of_step hcons hstop hstep
  have hnodes := nodes_of_step hstop hstep
  have hmove := metricsMove_of_step hcons hwired ht hclean hmatches hstop hstep
  obtain ⟨l, hlog, hcalls, hexec⟩ := hmove.log
  refine ⟨⟨fun b hb => ?_, fun b hb call hmem => ?_⟩, hmove.slot h.slot⟩
  · have ⟨hfrom, hkeys⟩ := hexec b hb
    rw [hlog, callsOn_append, exec_append, hkeys]
    by_cases hold : (s.node t).agentBus = some b
    · rw [if_pos hold, h.calls.keys b hold]
    · rw [if_neg hold, exec_of_silent (h.calls.fresh b (hfrom.resolve_left hold))]
  · rw [hlog, callsOn_append] at hmem
    rcases List.mem_append.mp hmem with hold | hnew
    · exact h.calls.fresh b (fun hs => hb (hs.step hclean hlink)) call hold
    · by_contra hcall
      exact hb (hwired'.spent hcons' ⟨hnodes ▸ ht, hcalls b call hnew hcall⟩)

/-- In every run in which the matches can be made. -/
theorem metered_of_clean
    (h : ReachableUnder system (fun _ e => e.AttachesCleanly ∧ e.MatchesMetrics) s)
    (hrun : s.stopped = false) (ht : t ∈ s.nodes) : Metered t s := by
  induction h with
  | init hinit =>
    obtain ⟨threshold, cfgs, rfl⟩ := hinit
    have hstart := Starting.start threshold cfgs
    generalize start threshold cfgs = s at hstart ht hrun
    have hlog : s.log = [] := by
      rw [hstart.rest]
      rfl
    have hflag : s.metricsEnabled = false := by
      rw [hstart.rest]
      rfl
    refine ⟨⟨fun b hb => ?_, fun b _ call hmem => ?_⟩, ?_⟩
    · rw [hstart.node t] at hb
      cases hb
    · rw [hlog] at hmem
      exact absurd hmem List.not_mem_nil
    · unfold MatchesWhileOn
      rw [hflag, hstart.node t]
      rfl
  | @step s e s' hreach hguard hstep ih =>
    have hrunning := (step_eq_some_iff.mp hstep).1
    have hstop := not_stop hstep hrun
    have hclean := hreach.mono fun _ _ h => h.1
    have hclean' := ReachableUnder.step hclean hguard.1 hstep
    rw [nodes_of_step hstop hstep] at ht
    exact (ih hrunning ht).step (consistent_of_clean hclean hrunning)
      (consistent_of_clean hclean' hrun) (wired_of_clean hclean hrunning) (wired_of_clean hclean' hrun)
      ht hguard.1 hguard.2 hstop hstep

/-- A node registers, and the metrics are turned on. -/
def metersNode : List Event :=
  [.accept ⟨some none, none⟩ fun _ => false,
    .register 2 1 "n" 1 1 ⟨some none, none⟩ fun _ => false, .enableMetrics 2 true fun _ => false]

theorem metered_of_clean_metersNode : ∃ s, run system (start 0 [⟨"n", none, []⟩]) metersNode = some s ∧
    Metered 1 s ∧ (s.node 1).metricsMatchingSlot = some 3 := by
  have hread : (run system (start 0 [⟨"n", none, []⟩]) metersNode).map
      (fun s => (s.stopped, s.nodes, (s.node 1).metricsMatchingSlot)) = some (false, [1], some 3) := by
    decide +kernel
  obtain ⟨s, hs, hfacts⟩ := Option.map_eq_some_iff.mp hread
  simp only [Prod.mk.injEq] at hfacts
  obtain ⟨hrun, hnodes, hslot⟩ := hfacts
  have hclean : ¬MatchFails fun _ => false := by simp [MatchFails]
  have hguard : GuardedRun system (fun _ e => e.AttachesCleanly ∧ e.MatchesMetrics)
      (start 0 [⟨"n", none, []⟩]) metersNode :=
    ⟨⟨trivial, trivial⟩, fun _ _ => ⟨⟨hclean, rfl⟩, fun _ _ => ⟨⟨trivial, rfl⟩, fun _ _ => trivial⟩⟩⟩
  have hinit : ReachableUnder system (fun _ e => e.AttachesCleanly ∧ e.MatchesMetrics)
      (start 0 [⟨"n", none, []⟩]) := .init ⟨0, _, rfl⟩
  exact ⟨s, hs, metered_of_clean (hinit.run hguard hs) hrun (by simp [hnodes]), hslot⟩

end Controller
end BlueChi
