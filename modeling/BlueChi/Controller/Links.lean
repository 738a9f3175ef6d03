import BlueChi.Controller.Retention

/-!
# What an event does to the connections

Four events touch connections. An incoming one is given to a new anonymous node, Register moves
it to the node of that name, and it is dropped when it is lost or given up by the heartbeat
check. All other events but the stop leave the connections as they are (`retains_of_step`).
-/

namespace BlueChi

/-- The events that may touch the connection of a node. -/
def Event.TouchesLinks : Event → Bool
  | .accept .. => true
  | .register .. => true
  | .disconnected _ => true
  | .heartbeatTimer _ => true
  | .stop _ => true
  | _ => false

namespace Controller

variable {gap : ℤ} {s s' : Controller}

lemma retains_onSignal (h : Consistent gap s) {n : NodeId} (hn : n ∈ s.nodes) (sig : NodeSignal) :
    Retains s (s.onSignal n sig) := by
  cases sig with
  | jobDone id result now sync => exact .of_core (coreFrame_finishJob sync s id result now).toRestFrame
  | jobStateChanged id state => exact .of_core (coreFrame_jobStateChanged s id state).toRestFrame
  | unitPropertiesChanged unit interface properties =>
    exact .of_subscription (subscriptionFrame_applyNode s n
      (tableStep_nodeMatchUnitPropertiesChanged unit interface properties (s.node n)))
  | unitNew unit reason =>
    exact .of_subscription (subscriptionFrame_applyNode s n
      (tableStep_nodeMatchUnitNew unit reason (s.node n)))
  | unitStateChanged unit activeState substate reason =>
    exact .of_subscription (subscriptionFrame_applyNode s n
      (tableStep_nodeMatchUnitStateChanged unit activeState substate reason (s.node n)))
  | unitRemoved unit =>
    exact .of_subscription (subscriptionFrame_applyNode s n
      (tableStep_nodeMatchUnitRemoved unit (s.node n)))
  | proxyNew target unit path => exact retains_nodeOnMatchProxyNew h hn target unit path
  | proxyRemoved target unit => exact retains_nodeOnMatchProxyRemoved h.held n target unit
  | heartbeat now nowMonotonic =>
    have hclock : CoreFrame s (s.nodeMatchHeartbeat n now nowMonotonic) :=
      coreFrame_modifyNode s n ⟨rfl, fun _ => rfl, id⟩
    exact .of_core hclock.toRestFrame

/-- The events that have nothing to do with connections. -/
theorem retains_of_step (h : Consistent gap s) {e : Event} (he : e.TouchesLinks = false)
    (hstep : s.step e = some s') : Retains s s' := by
  obtain ⟨_, hstep⟩ := step_eq_some_iff.mp hstep
  cases e with
  | accept peer fails => cases he
  | register a serial name now nowMonotonic peer fails => cases he
  | disconnected n => cases he
  | heartbeatTimer now => cases he
  | stop sync => cases he
  | agentSignal bus n sig =>
    obtain ⟨hmatch, heq⟩ := whenever_eq_some_iff.mp hstep
    rw [← heq]
    exact retains_onSignal h (h.connected.signals _ hmatch) sig
  | agentReply r m => exact (safe_agentRequestCallback hstep h.held).2
  | proxyReply p => exact retains_proxyMonitorCallback h.held hstep
  | lifecycle n serial method unit mode startTime started =>
    obtain ⟨hn, heq⟩ := whenever_eq_some_iff.mp hstep
    rw [← heq]
    unfold nodeRunUnitLifecycleMethod
    split
    · exact retains_emit s _
    · have hjob : Retains s (s.jobNew n unit (lifecycleJobType method) startTime).2 :=
        .of_rest rfl (Nat.le_succ _)
      have hcons := h.jobNew n unit (lifecycleJobType method) startTime
      refine hjob.trans (retains_runRequest hcons hn serial ?_ _ started _)
      intro _ job heq
      rw [RequestHandler.lifecycle.injEq] at heq
      rw [← heq.2]
      exact hn
  | forward n serial method failure started =>
    obtain ⟨hn, heq⟩ := whenever_eq_some_iff.mp hstep
    rw [← heq]
    unfold nodeMethodForward
    split
    · exact retains_emit s _
    · exact retains_runRequest h hn serial (by simp [Consistent.Lists]) _ started _
  | jobCancel id serial started =>
    obtain ⟨job, hfind, heq⟩ := Option.map_eq_some_iff.mp hstep
    rw [← heq]
    unfold jobMethodCancel
    split
    · have hjob : HasJob s job.node := Or.inl ⟨job, List.mem_of_find?_eq_some hfind, rfl⟩
      have hrun := retains_runRequest h (h.forListed.jobs job.node hjob) serial
        (by simp [Consistent.Lists] : Consistent.Lists s (.jobCancel serial))
        (fun r => .jobCancel r job.id) started "Failed to call the method to cancel job"
      simp only
      split
      · exact hrun.trans (retains_emit _ _)
      · exact hrun
    · exact retains_emit s _
  | fleet serial method starts =>
    rw [← Option.some.inj hstep]
    exact retains_agentFleetRequestStart h serial method starts
  | createMonitor serial owner exported =>
    rw [← Option.some.inj hstep]
    exact retains_createMonitor s serial owner exported
  | subscribe m serial node units =>
    obtain ⟨_, heq⟩ := whenever_eq_some_iff.mp hstep
    rw [← heq]
    exact retains_monitorMethodSubscribe s m serial node units
  | unsubscribe m serial subId =>
    obtain ⟨_, heq⟩ := whenever_eq_some_iff.mp hstep
    rw [← heq]
    exact retains_monitorMethodUnsubscribe s m serial subId
  | addPeer m serial name =>
    obtain ⟨_, heq⟩ := whenever_eq_some_iff.mp hstep
    rw [← heq]
    exact retains_monitorMethodAddPeer s m serial name
  | removePeer m serial peerId reason =>
    obtain ⟨_, heq⟩ := whenever_eq_some_iff.mp hstep
    rw [← heq]
    exact retains_monitorMethodRemovePeer s m serial peerId reason
  | closeMonitor m serial =>
    obtain ⟨_, heq⟩ := whenever_eq_some_iff.mp hstep
    rw [← heq]
    exact retains_monitorMethodClose s m serial
  | nameOwnerChanged name newOwner =>
    rw [← Option.some.inj hstep]
    exact retains_nameOwnerChanged s name newOwner
  | enableMetrics serial exported fails =>
    rw [← Option.some.inj hstep]
    exact retains_methodMetricsEnable s serial exported fails
  | disableMetrics serial =>
    rw [← Option.some.inj hstep]
    exact retains_methodMetricsDisable s serial

/-! ## Attaching -/

/-- The connections of all nodes. -/
def links (s : Controller) (n : NodeId) : NodeLink := (s.node n).link

/-- The connections are those given, and the lists of nodes stay. -/
structure Relinks (links : NodeId → NodeLink) (s s' : Controller) : Prop where
  nodes : s'.nodes = s.nodes
  anonymousNodes : s'.anonymousNodes = s.anonymousNodes
  numberOfNodes : s'.numberOfNodes = s.numberOfNodes
  nextPtr : s.nextPtr ≤ s'.nextPtr
  name : ∀ n, (s'.node n).name = (s.node n).name
  links : s'.links = links

namespace Relinks

variable {links links' : NodeId → NodeLink} {s'' : Controller}

lemma refl (s : Controller) : Relinks s.links s s := ⟨rfl, rfl, rfl, le_refl _, fun _ => rfl, rfl⟩

lemma trans (h : Relinks links s s') (h' : Relinks links' s' s'') : Relinks links' s s'' where
  nodes := h'.nodes.trans h.nodes
  anonymousNodes := h'.anonymousNodes.trans h.anonymousNodes
  numberOfNodes := h'.numberOfNodes.trans h.numberOfNodes
  nextPtr := h.nextPtr.trans h'.nextPtr
  name n := (h'.name n).trans (h.name n)
  links := h'.links

/-- A step that touches no connection. -/
lemma of_same (hnodes : s'.nodes = s.nodes) (hanonymous : s'.anonymousNodes = s.anonymousNodes)
    (hcount : s'.numberOfNodes = s.numberOfNodes) (hptr : s.nextPtr ≤ s'.nextPtr)
    (hnode : ∀ n, SameButTable (s.node n) (s'.node n)) : Relinks s.links s s' := by
  refine ⟨hnodes, hanonymous, hcount, hptr, fun n => by rw [hnode n], ?_⟩
  ext n
  show (s'.node n).link = (s.node n).link
  rw [hnode n]
  rfl

lemma of_subscription {told : ProxyMonitorId → Prop} (f : SubscriptionFrame told s s') :
    Relinks s.links s s' :=
  of_same (by rw [f.rest]) (by rw [f.rest]) (by rw [f.rest]) (by rw [f.rest]) f.node

/-- Two steps, the second of which changes one connection. -/
lemma update_trans {n : NodeId} {link : NodeLink} (h : Relinks links s s')
    (h' : Relinks (Function.update s'.links n link) s' s'') :
    Relinks (Function.update links n link) s s'' := by
  rw [h.links] at h'
  exact h.trans h'

/-- A step that touches no connection comes after. -/
lemma trans_same (h : Relinks links s s') (h' : Relinks s'.links s' s'') : Relinks links s s'' := by
  rw [h.links] at h'
  exact h.trans h'

end Relinks

lemma relinks_modifyNode (s : Controller) (n : NodeId) {f : Node → Node} {link : NodeLink}
    (hname : (f (s.node n)).name = (s.node n).name) (hlink : (f (s.node n)).link = link) :
    Relinks (Function.update s.links n link) s (s.modifyNode n f) := by
  refine ⟨rfl, rfl, rfl, le_refl _, fun k => ?_, ?_⟩
  · by_cases hk : k = n
    · rw [hk, modifyNode_node, Function.update_self, hname]
    · rw [modifyNode_node, Function.update_of_ne hk]
  · ext k
    show ((s.modifyNode n f).node k).link = _
    by_cases hk : k = n
    · rw [hk, modifyNode_node, Function.update_self, Function.update_self, hlink]
    · rw [modifyNode_node, Function.update_of_ne hk, Function.update_of_ne hk]
      rfl

/-- A change of other fields. -/
lemma relinks_modifyOther (s : Controller) (n : NodeId) {f : Node → Node}
    (hname : (f (s.node n)).name = (s.node n).name)
    (hlink : (f (s.node n)).link = (s.node n).link) : Relinks s.links s (s.modifyNode n f) := by
  have hmodify := relinks_modifyNode s n hname hlink
  rwa [show Function.update s.links n (s.node n).link = s.links from
    Function.update_eq_self n s.links] at hmodify

lemma relinks_emit (s : Controller) (o : Output) : Relinks s.links s (s.emit o) :=
  .of_same rfl rfl rfl (le_refl _) fun _ => .refl _

lemma relinks_sendAgent (s : Controller) (n : NodeId) (call : AgentCall) :
    Relinks s.links s (s.sendAgent n call) := by
  unfold sendAgent
  split
  · exact .refl s
  · exact relinks_emit s _

lemma relinks_nodeUnsetAgentBus (s : Controller) (n : NodeId) :
    Relinks (Function.update s.links n .down) s (s.nodeUnsetAgentBus n) := by
  rw [nodeUnsetAgentBus_eq]
  have hmodify : Relinks (Function.update s.links n .down) s (s.modifyNode n detachedNode) :=
    relinks_modifyNode s n rfl rfl
  exact hmodify.trans_same (.of_same rfl rfl rfl (le_refl _) fun _ => .refl _)

lemma relinks_addMatches (n : NodeId) (bus : BusId) (fails : BusCall → Bool)
    (members : List AgentMember) (s : Controller) :
    Relinks s.links s (addMatches n bus fails members s).2 := by
  rw [Consistent.addMatches_rest]
  exact .of_same rfl rfl rfl (le_refl _) fun _ => .refl _

lemma relinks_countOnline (s : Controller) (d : ℤ) : Relinks s.links s (s.countOnline d) := by
  unfold countOnline checkSystemStatus
  simp only
  split
  · exact .of_same rfl rfl rfl (le_refl _) fun _ => .refl _
  · exact .of_same rfl rfl rfl (le_refl _) fun _ => .refl _

lemma relinks_nodeEnableMetrics (fails : BusCall → Bool) (s : Controller) (n : NodeId) :
    Relinks s.links s (nodeEnableMetrics fails s n) := by
  have hsend := relinks_sendAgent s n .enableMetrics
  unfold nodeEnableMetrics
  split
  · simp only
    split
    · exact hsend
    · exact hsend.trans_same (relinks_modifyOther _ n rfl rfl)
  · exact .refl s

/-- The connection that `node_set_agent_bus` gives to a node when it succeeds. -/
def attachedLink (name : Option String) (bus : BusId) (peer : PeerInfo) : NodeLink :=
  ⟨some bus, if name = none then some bus else none, some bus, peer.context.bind parseSelinuxType⟩

/-- The registrations on a connection that is stored. -/
lemma relinks_nodeAddRegistrations (s : Controller) (n : NodeId) (bus : BusId)
    (fails : BusCall → Bool) :
    ∃ link, Relinks (Function.update s.links n link) s (s.nodeAddRegistrations n bus fails).2 ∧
      ((s.nodeAddRegistrations n bus fails).1 = true → link = { s.links n with
        internalControllerSlot :=
          if (s.node n).name = none then some bus else (s.links n).internalControllerSlot } ∧
        ((s.node n).name ≠ none → ¬MatchFails fails)) ∧
      ((s.nodeAddRegistrations n bus fails).1 = false →
        (s.node n).name = none ∧ link = .down ∨ (s.node n).name ≠ none ∧ MatchFails fails) := by
  have hsame : ∀ t, Relinks s.links s t → Relinks (Function.update s.links n (s.links n)) s t := by
    intro t ht
    rwa [Function.update_eq_self]
  unfold nodeAddRegistrations
  by_cases hname : (s.node n).name = none
  · rw [if_pos hname]
    by_cases hvtable : fails .internalVtable = true
    · rw [if_pos hvtable]
      exact ⟨.down, relinks_nodeUnsetAgentBus s n, by simp, fun _ => Or.inl ⟨hname, rfl⟩⟩
    · rw [if_neg hvtable]
      refine ⟨{ s.links n with internalControllerSlot := some bus }, ?_, fun _ => ⟨by
        rw [if_pos hname], fun hnamed => absurd hname hnamed⟩, by simp⟩
      exact relinks_modifyNode s n
        (f := fun node => { node with internalControllerSlot := some bus }) rfl rfl
  · rw [if_neg hname]
    -- a named node only has matches
    have hfirst := relinks_addMatches n bus fails firstMembers s
    have hfst := Consistent.addMatches_fst n bus fails firstMembers s
    generalize addMatches n bus fails firstMembers s = result at hfirst hfst
    have ⟨ok, t⟩ := result
    cases ok with
    | false =>
      refine ⟨s.links n, hsame t hfirst, by simp, fun _ => Or.inr ⟨hname, ?_⟩⟩
      by_contra hnone
      have hall : ∀ member ∈ firstMembers, fails (.matchSignal member) = false := by
        intro member hmember
        by_contra hfail
        exact hnone ⟨member, List.mem_append_left _ hmember, by simpa using hfail⟩
      exact Bool.false_ne_true (hfst.mpr hall)
    | true =>
      simp only
      have hannounce := hfirst.trans_same
        (relinks_emit t (.nodeStatus n (nodeGetStatus (t.node n))))
      have hlast := hannounce.trans_same (relinks_addMatches n bus fails [.heartbeat] _)
      have hfst' := Consistent.addMatches_fst n bus fails [.heartbeat]
        (t.emit (.nodeStatus n (nodeGetStatus (t.node n))))
      refine ⟨s.links n, hsame _ hlast, fun hok => ⟨by rw [if_neg hname], fun _ hfail => ?_⟩,
        fun hfail => ?_⟩
      · have ⟨member, hmember, hbad⟩ := hfail
        have hgood : fails (.matchSignal member) = false := by
          rcases List.mem_append.mp hmember with hfirst | hheartbeat
          · exact hfst.mp rfl member hfirst
          · exact hfst'.mp hok member hheartbeat
        rw [hgood] at hbad
        cases hbad
      · refine Or.inr ⟨hname, ?_⟩
        by_contra hnone
        rw [hfst'.mpr fun member hmember => ?_] at hfail
        · cases hfail
        · by_contra hbad
          exact hnone ⟨member, List.mem_append_right _ hmember, by simpa using hbad⟩

/-- All registrations on the connection of a named node succeed. -/
def Attaches (fails : BusCall → Bool) : Prop :=
  ¬MatchFails fails ∧ fails .matchDisconnected = false

/-- `node_set_agent_bus` for a node without a connection. -/
theorem relinks_nodeSetAgentBus (s : Controller) (n : NodeId) (bus : BusId) (peer : PeerInfo)
    (fails : BusCall → Bool) (hdown : (s.node n).link = .down) :
    ∃ link, Relinks (Function.update s.links n link) s (s.nodeSetAgentBus n bus peer fails).2 ∧
      ((s.nodeSetAgentBus n bus peer fails).1 = true →
        link = attachedLink (s.node n).name bus peer) ∧
      ((s.nodeSetAgentBus n bus peer fails).1 = false →
        (s.node n).name = none ∨ ¬MatchFails fails → link = .down) ∧
      ((s.node n).name ≠ none →
        ((s.nodeSetAgentBus n bus peer fails).1 = true ↔ Attaches fails)) := by
  have hagent : (s.node n).agentBus = none := congrArg NodeLink.agentBus hdown
  have hslot : (s.node n).internalControllerSlot = none :=
    congrArg NodeLink.internalControllerSlot hdown
  have hdisconnect : (s.node n).disconnectSlot = none := congrArg NodeLink.disconnectSlot hdown
  have hcontext : (s.node n).peerSelinuxContext = none :=
    congrArg NodeLink.peerSelinuxContext hdown
  have hlink : (storeAgentBus bus peer (s.node n)).link =
      ⟨some bus, none, none, peer.context.bind parseSelinuxType⟩ := by
    unfold storeAgentBus Node.link
    simp only [hslot, hdisconnect, hcontext]
    cases peer.context <;> rfl
  have hstore := relinks_modifyNode s n (f := storeAgentBus bus peer) rfl hlink
  have hname : ((s.modifyNode n (storeAgentBus bus peer)).node n).name = (s.node n).name :=
    hstore.name n
  have hlinks : (s.modifyNode n (storeAgentBus bus peer)).links n =
      ⟨some bus, none, none, peer.context.bind parseSelinuxType⟩ := by
    rw [hstore.links, Function.update_self]
  unfold nodeSetAgentBus
  rw [if_neg (by simp [nodeHasAgent, hagent])]
  obtain ⟨link, hreg, hok, hfail⟩ :=
    relinks_nodeAddRegistrations (s.modifyNode n (storeAgentBus bus peer)) n bus fails
  rw [hname, hlinks] at hok
  rw [hname] at hfail
  -- both steps change the same node
  have htwice := hstore.update_trans hreg
  rw [Function.update_idem] at htwice
  generalize (s.modifyNode n (storeAgentBus bus peer)).nodeAddRegistrations n bus fails = result
    at htwice hok hfail
  obtain ⟨ok, t⟩ := result
  cases ok with
  | false =>
    refine ⟨link, htwice, by simp, fun _ hclean => ?_, fun hnamed => ?_⟩
    · rcases hfail rfl with ⟨_, hdown⟩ | ⟨hnamed, hmatch⟩
      · exact hdown
      · exact absurd hmatch (hclean.resolve_left hnamed)
    · rcases hfail rfl with ⟨hunnamed, _⟩ | ⟨_, hmatch⟩
      · exact absurd hunnamed hnamed
      · exact iff_of_false Bool.false_ne_true fun hfine => hfine.1 hmatch
  | true =>
    obtain ⟨hlink', hfine⟩ := hok rfl
    simp only
    by_cases hdisc : fails .matchDisconnected = true
    · rw [if_pos hdisc]
      have hunset := htwice.update_trans (relinks_nodeUnsetAgentBus t n)
      rw [Function.update_idem] at hunset
      have hdisc' : fails .matchDisconnected ≠ false := by simp [hdisc]
      refine ⟨.down, hunset, by simp, fun _ _ => rfl, fun _ => ?_⟩
      exact iff_of_false Bool.false_ne_true fun hfine => hdisc' hfine.2
    · rw [if_neg hdisc]
      have hself : (t.node n).link = link := by
        show t.links n = link
        rw [htwice.links, Function.update_self]
      have hslots : (({ t.node n with disconnectSlot := some bus } : Node)).link =
          attachedLink (s.node n).name bus peer := by
        show ({ (t.node n).link with disconnectSlot := some bus } : NodeLink) = _
        rw [hself, hlink']
        rfl
      have hmodify := relinks_modifyNode t n
        (f := fun node => { node with disconnectSlot := some bus }) rfl hslots
      have hset := htwice.update_trans hmodify
      rw [Function.update_idem] at hset
      refine ⟨_, hset.trans_same ?_, fun _ => rfl, by simp, fun hnamed => ?_⟩
      swap
      · exact iff_of_true rfl ⟨hfine hnamed, by simpa using hdisc⟩
      refine .of_same ?_ ?_ ?_ ?_ fun k => ?_
      · rw [applyNode_eq, applyNode_eq]
      · rw [applyNode_eq, applyNode_eq]
      · rw [applyNode_eq, applyNode_eq]
      · rw [applyNode_eq, applyNode_eq]
      · rw [announceAttached]
        exact .refl _

/-! ## Register -/

/-- What Register does to the connections: nothing when it is refused, and when the target gets
the connection the anonymous node loses it. -/
lemma relinks_nodeMethodRegister (h : Consistent gap s) (a : NodeId) (serial : Serial)
    (name : String) (now nowMonotonic : UInt64) (peer : PeerInfo) (fails : BusCall → Bool) :
    (Relinks s.links s (s.nodeMethodRegister a serial name now nowMonotonic peer fails) ∧
        ∀ n bus, s.registerTarget a name = .ok n → (s.node a).agentBus = some bus →
          ¬Attaches fails) ∨
      ∃ n bus, s.registerTarget a name = .ok n ∧ (s.node a).agentBus = some bus ∧
        (Attaches fails ∧
            Relinks (Function.update (Function.update s.links n (attachedLink (some name) bus peer))
              a .down) s (s.nodeMethodRegister a serial name now nowMonotonic peer fails) ∨
          MatchFails fails ∧ ∃ link, Relinks (Function.update s.links n link) s
            (s.nodeMethodRegister a serial name now nowMonotonic peer fails)) := by
  unfold nodeMethodRegister
  split
  · rename_i htarget
    refine Or.inl ⟨relinks_emit s _, fun n _ hok => ?_⟩
    rw [htarget] at hok
    cases hok
  · rename_i hnone
    refine Or.inl ⟨.refl s, fun _ bus _ hbus => ?_⟩
    rw [hnone] at hbus
    cases hbus
  · rename_i n bus htarget hbus
    obtain ⟨_, _, hname, hagent, _⟩ := (registerTarget_eq_ok_iff h.registry a n name).mp htarget
    have hdown : (s.node n).link = .down := by
      have hnone : (s.node n).agentBus = none := by simpa [nodeHasAgent] using hagent
      obtain ⟨hslot, hdisconnect, _, _, hcontext⟩ := h.detached n hnone
      show (⟨_, _, _, _⟩ : NodeLink) = _
      rw [hnone, hslot, hdisconnect, hcontext]
      rfl
    have hseen : Relinks s.links s (s.modifyNode n fun node =>
        { node with lastSeen := now, lastSeenMonotonic := nowMonotonic }) :=
      relinks_modifyOther s n rfl rfl
    have hdown' : ((s.modifyNode n fun node =>
        { node with lastSeen := now, lastSeenMonotonic := nowMonotonic }).node n).link = .down := by
      show (s.modifyNode n fun node =>
        { node with lastSeen := now, lastSeenMonotonic := nowMonotonic }).links n = _
      rw [hseen.links]
      exact hdown
    obtain ⟨link, hset, hok, hfail, hiff⟩ := relinks_nodeSetAgentBus _ n bus peer fails hdown'
    rw [hseen.name, hname] at hok
    rw [hseen.name, hname] at hfail
    rw [hseen.name, hname] at hiff
    have hattach := hseen.update_trans hset
    simp only
    generalize (s.modifyNode n fun node =>
      { node with lastSeen := now, lastSeenMonotonic := nowMonotonic }).nodeSetAgentBus n bus peer
        fails = result at hattach hok hfail hiff
    obtain ⟨ok, t⟩ := result
    have hattaches := hiff (by simp)
    cases ok with
    | false =>
      by_cases hmatch : MatchFails fails
      · exact Or.inr ⟨n, bus, htarget, hbus, Or.inr ⟨hmatch, link,
          hattach.trans_same (relinks_emit t _)⟩⟩
      · left
        rw [hfail rfl (Or.inr hmatch)] at hattach
        have hsame : Function.update s.links n .down = s.links := by
          rw [← hdown]
          exact Function.update_eq_self n s.links
        rw [hsame] at hattach
        refine ⟨hattach.trans_same (relinks_emit t _), fun _ _ _ _ hfine => ?_⟩
        exact Bool.false_ne_true (hattaches.mpr hfine)
    | true =>
      refine Or.inr ⟨n, bus, htarget, hbus, Or.inl ⟨hattaches.mp rfl, ?_⟩⟩
      rw [hok rfl] at hattach
      have hmetrics : Relinks (Function.update s.links n (attachedLink (some name) bus peer)) s
          (if t.metricsEnabled = true then nodeEnableMetrics fails t n else t) := by
        split
        · exact hattach.trans_same (relinks_nodeEnableMetrics fails t n)
        · exact hattach
      have hmoved := hmetrics.update_trans (relinks_nodeUnsetAgentBus _ a)
      exact (hmoved.trans_same (relinks_countOnline _ 1)).trans_same (relinks_emit _ _)

/-! ## Incoming connections -/

/-- A connection is given to a new anonymous node, at the next two free addresses. -/
structure Opens (peer : PeerInfo) (s s' : Controller) : Prop where
  nodes : s'.nodes = s.nodes
  anonymousNodes : s'.anonymousNodes = s.anonymousNodes ++ [s.nextPtr]
  numberOfNodes : s'.numberOfNodes = s.numberOfNodes
  nextPtr : s.nextPtr + 2 ≤ s'.nextPtr
  name : ∀ n, (s'.node n).name = (s.node n).name
  links : s'.links = Function.update s.links s.nextPtr (attachedLink none (s.nextPtr + 1) peer)

/-- No node is at an address that is free. -/
lemma Consistent.link_of_free (h : Consistent gap s) {n : ℕ} (hn : s.nextPtr ≤ n) :
    (s.node n).link = .down ∧ (s.node n).name = none := by
  constructor
  · have hnone : (s.node n).agentBus = none := by
      by_contra hbus
      have hlt := h.connected.made n hbus
      omega
    have ⟨hslot, hdisconnect, _, _, hcontext⟩ := h.detached n hnone
    show (⟨_, _, _, _⟩ : NodeLink) = _
    rw [hnone, hslot, hdisconnect, hcontext]
    rfl
  · by_contra hname
    have hlt := h.registry.fresh n (Or.inl (h.connected.listed n hname))
    omega

lemma links_acceptNodeConnection (h : Consistent gap s) (peer : PeerInfo)
    (fails : BusCall → Bool) : Opens peer s (s.acceptNodeConnection peer fails) ∨
      Relinks s.links s (s.acceptNodeConnection peer fails) := by
  have hfree := h.link_of_free (le_refl s.nextPtr)
  have hnode : ∀ n, ((s.addNode none).busAlloc.node n).name = (s.node n).name ∧
      ((s.addNode none).busAlloc.node n).link = (s.node n).link := by
    intro n
    show ((Function.update s.node s.nextPtr (nodeNew none)) n).name = _ ∧
      ((Function.update s.node s.nextPtr (nodeNew none)) n).link = _
    by_cases hn : n = s.nextPtr
    · rw [hn, Function.update_self, hfree.1, hfree.2]
      exact ⟨rfl, rfl⟩
    · rw [Function.update_of_ne hn]
      exact ⟨rfl, rfl⟩
  have hlinks : (s.addNode none).busAlloc.links = s.links := by
    ext n
    exact (hnode n).2
  have hadd : Consistent gap (s.addNode none).busAlloc :=
    h.addNode_none.of_frame (coreFrame_busAlloc _)
  have hmem : s.nextPtr ∈ (s.addNode none).busAlloc.anonymousNodes :=
    List.mem_append_right _ (List.mem_singleton.mpr rfl)
  have hdown : ((s.addNode none).busAlloc.node s.nextPtr).link = .down := by
    rw [(hnode s.nextPtr).2, hfree.1]
  have hagent : nodeHasAgent ((s.addNode none).busAlloc.node s.nextPtr) = false := by
    have hnone : ((s.addNode none).busAlloc.node s.nextPtr).agentBus = none :=
      congrArg NodeLink.agentBus hdown
    rw [nodeHasAgent, hnone]
    rfl
  obtain ⟨link, hset, hok, hfail, _⟩ :=
    relinks_nodeSetAgentBus _ s.nextPtr (s.nextPtr + 1) peer fails hdown
  obtain ⟨hcons, _⟩ := nodeSetAgentBus_anonymous hadd hmem (s.nextPtr + 1) peer fails hagent
  rw [hlinks] at hset
  rw [(hnode s.nextPtr).1, hfree.2] at hok hfail
  unfold acceptNodeConnection
  simp only
  generalize (s.addNode none).busAlloc.nodeSetAgentBus s.nextPtr (s.nextPtr + 1) peer fails = result
    at hset hok hfail hcons
  obtain ⟨ok, t⟩ := result
  cases ok with
  | true =>
    left
    have hlink := hok rfl
    exact ⟨hset.nodes, hset.anonymousNodes, hset.numberOfNodes, hset.nextPtr,
      fun n => (hset.name n).trans (hnode n).1, by rw [hset.links, hlink]⟩
  | false =>
    right
    -- the new node is removed again
    have hanonymous : t.anonymousNodes = s.anonymousNodes ++ [s.nextPtr] := hset.anonymousNodes
    have hlisted : s.nextPtr ∈ t.anonymousNodes := by
      rw [hanonymous]
      exact List.mem_append_right _ (List.mem_singleton.mpr rfl)
    have heq := hcons.removeNode_anonymous_eq hlisted
    have hout : s.nextPtr ∉ s.anonymousNodes := by
      intro hold
      exact lt_irrefl _ (h.registry.fresh _ (Or.inr hold))
    have hsame : t.links = s.links := by
      rw [hset.links, hfail rfl (Or.inl rfl), ← hfree.1]
      exact Function.update_eq_self s.nextPtr s.links
    have hdrop : Relinks s.links s (t.removeNode s.nextPtr) := by
      rw [heq]
      refine ⟨hset.nodes, ?_, hset.numberOfNodes, le_trans (Nat.le_add_right _ 2) hset.nextPtr,
        fun n => ?_, ?_⟩
      · show t.anonymousNodes.erase s.nextPtr = _
        rw [hanonymous, List.erase_append_right _ hout]
        simp
      · show ((t.modifyNode s.nextPtr Consistent.freedNode).node n).name = _
        rw [← (hnode n).1, ← hset.name n]
        by_cases hn : n = s.nextPtr
        · rw [hn, modifyNode_node, Function.update_self]
          rfl
        · rw [modifyNode_node, Function.update_of_ne hn]
      · ext n
        show ((t.modifyNode s.nextPtr Consistent.freedNode).node n).link = s.links n
        by_cases hn : n = s.nextPtr
        · rw [hn, modifyNode_node, Function.update_self]
          exact hfree.1.symm
        · rw [modifyNode_node, Function.update_of_ne hn, ← hsame]
          rfl
    exact hdrop

/-! ## Losing connections -/

/-- Connections are dropped, but none of an anonymous node. -/
structure Thins (s s' : Controller) : Prop where
  nodes : s'.nodes = s.nodes
  anonymousNodes : s'.anonymousNodes = s.anonymousNodes
  numberOfNodes : s'.numberOfNodes = s.numberOfNodes
  nextPtr : s.nextPtr ≤ s'.nextPtr
  name : ∀ n, (s'.node n).name = (s.node n).name
  link : ∀ n, s'.links n = s.links n ∨ s'.links n = .down
  anonymous : ∀ n ∈ s.anonymousNodes, s'.links n = s.links n

namespace Thins

lemma refl (s : Controller) : Thins s s :=
  ⟨rfl, rfl, rfl, le_refl _, fun _ => rfl, fun _ => Or.inl rfl, fun _ _ => rfl⟩

lemma trans {s'' : Controller} (h : Thins s s') (h' : Thins s' s'') : Thins s s'' where
  nodes := h'.nodes.trans h.nodes
  anonymousNodes := h'.anonymousNodes.trans h.anonymousNodes
  numberOfNodes := h'.numberOfNodes.trans h.numberOfNodes
  nextPtr := h.nextPtr.trans h'.nextPtr
  name n := (h'.name n).trans (h.name n)
  link n := by
    rcases h'.link n with hlink | hlink
    · rw [hlink]
      exact h.link n
    · exact Or.inr hlink
  anonymous n hn := (h'.anonymous n (h.anonymousNodes.symm ▸ hn)).trans (h.anonymous n hn)

lemma of_retains (h : Retains s s') : Thins s s' :=
  ⟨h.nodes, h.anonymousNodes, h.numberOfNodes, h.nextPtr, h.name, h.link,
    fun n hn => h.present n (Or.inr hn)⟩

end Thins

/-- Node `n` loses its connection, and an anonymous node leaves its list. -/
structure Closes (n : NodeId) (s s' : Controller) : Prop where
  nodes : s'.nodes = s.nodes
  anonymousNodes : s'.anonymousNodes = s.anonymousNodes.erase n
  numberOfNodes : s'.numberOfNodes = s.numberOfNodes
  nextPtr : s.nextPtr ≤ s'.nextPtr
  name : ∀ k, (s'.node k).name = (s.node k).name
  self : s'.links n = .down
  link : ∀ k, s'.links k = s.links k ∨ s'.links k = .down
  others : ∀ k, Present s k → k ≠ n → s'.links k = s.links k

/-- A node that is listed has no place among the anonymous ones. -/
lemma Registry.not_anonymous (h : Registry s) {n : NodeId} (hn : n ∈ s.nodes) :
    n ∉ s.anonymousNodes := fun hmem => h.named n hn (h.unnamed n hmem)

lemma closes_nodeDisconnect (h : Consistent gap s) {n : NodeId}
    (hbus : (s.node n).agentBus ≠ none) : Closes n s (s.nodeDisconnect n) := by
  have hunits := h.nodeDisconnectUnits n
  have htable : Retains s (s.applyNode n nodeDisconnectUnits) :=
    .of_subscription (subscriptionFrame_applyNode s n (tableStep_nodeDisconnectUnits (s.node n)))
  have ⟨hproxies, hkeeps⟩ := hunits.removeProxyMonitors n
  have hloop := (Settled.foldl (fun s p => settled_nodeRemoveProxyMonitor settled_nodeUnref s n p)
    ((s.applyNode n nodeDisconnectUnits).node n).proxyMonitors _ hunits.held).2.toRetains
  have hbefore := htable.trans hloop
  unfold nodeDisconnect
  simp only
  generalize ((s.applyNode n nodeDisconnectUnits).node n).proxyMonitors.foldl
    (fun s p => nodeRemoveProxyMonitor nodeUnref s n p) (s.applyNode n nodeDisconnectUnits) = t
    at hproxies hbefore ⊢
  by_cases hname : (t.node n).name = none
  · -- an anonymous node leaves its list and is freed
    rw [if_pos hname]
    rw [hbefore.name] at hname
    have hout : n ∉ s.nodes := fun hmem => h.registry.named n hmem hname
    have hanonymous : n ∈ t.anonymousNodes := by
      rw [hbefore.anonymousNodes]
      exact h.forListed.anonymous n hout hbus
    rw [hproxies.removeNode_anonymous_eq hanonymous]
    have hnode : ∀ k, (t.modifyNode n Consistent.freedNode).node k =
        if k = n then Consistent.freedNode (t.node n) else t.node k := by
      intro k
      by_cases hk : k = n
      · rw [if_pos hk, hk, modifyNode_node, Function.update_self]
      · rw [if_neg hk, modifyNode_node, Function.update_of_ne hk]
    refine ⟨hbefore.nodes, ?_, hbefore.numberOfNodes, hbefore.nextPtr, fun k => ?_, ?_, fun k => ?_,
      fun k hk hkn => ?_⟩
    · show t.anonymousNodes.erase n = _
      rw [hbefore.anonymousNodes]
    · show ((t.modifyNode n Consistent.freedNode).node k).name = _
      rw [hnode, ← hbefore.name k]
      split
      · rename_i hk
        rw [hk]
        rfl
      · rfl
    · show ((t.modifyNode n Consistent.freedNode).node n).link = _
      rw [hnode, if_pos rfl]
      rfl
    · show ((t.modifyNode n Consistent.freedNode).node k).link = _ ∨ ((t.modifyNode n Consistent.freedNode).node k).link = _
      rw [hnode]
      split
      · exact Or.inr rfl
      · exact hbefore.link k
    · show ((t.modifyNode n Consistent.freedNode).node k).link = _
      rw [hnode, if_neg hkn]
      exact hbefore.present k hk
  · rw [if_neg hname]
    rw [hbefore.name] at hname
    have hn := h.connected.listed n hname
    have hjobs : Retains t (t.jobs.foldl (dropJob n) t) :=
      .of_core (CoreFrame.foldl (coreFrame_dropJob n) _ _).toRestFrame
    have hall := hbefore.trans hjobs
    have hunset := (relinks_nodeUnsetAgentBus (t.jobs.foldl (dropJob n) t) n).trans_same
      (relinks_countOnline _ (-1))
    refine ⟨hunset.nodes.trans hall.nodes, ?_, hunset.numberOfNodes.trans hall.numberOfNodes,
      hall.nextPtr.trans hunset.nextPtr, fun k => (hunset.name k).trans (hall.name k), ?_,
      fun k => ?_, fun k hk hkn => ?_⟩
    · rw [hunset.anonymousNodes, hall.anonymousNodes,
        List.erase_of_not_mem (h.registry.not_anonymous hn)]
    · rw [hunset.links, Function.update_self]
    · rw [hunset.links]
      by_cases hk : k = n
      · rw [hk, Function.update_self]
        exact Or.inr rfl
      · rw [Function.update_of_ne hk]
        exact hall.link k
    · rw [hunset.links, Function.update_of_ne hkn]
      exact hall.present k hk

/-- A named node that is disconnected. -/
lemma Closes.thins {n : NodeId} (h : Closes n s s') (hreg : Registry s) (hn : n ∈ s.nodes) :
    Thins s s' := by
  have hout := hreg.not_anonymous hn
  refine ⟨h.nodes, ?_, h.numberOfNodes, h.nextPtr, h.name, h.link, fun k hk => ?_⟩
  · rw [h.anonymousNodes, List.erase_of_not_mem hout]
  · apply h.others k (Or.inr hk)
    intro heq
    exact hout (heq ▸ hk)

/-- The heartbeat check. -/
lemma thins_heartbeatTimerCallback (h : Consistent gap s) (now : UInt64) :
    Thins s (s.heartbeatTimerCallback now) := by
  have hloop : ∀ (ns : List NodeId) (s : Controller), Consistent gap s → (∀ n ∈ ns, n ∈ s.nodes) →
      Thins s (ns.foldl (checkNode now) s) := by
    intro ns
    induction ns with
    | nil => exact fun s _ _ => .refl s
    | cons n ns ih =>
      intro s h hns
      have hn := hns n List.mem_cons_self
      have hround : Thins s (checkNode now s n) := by
        unfold checkNode
        split
        · rename_i honline
          have hbus : (s.node n).agentBus ≠ none := by
            simp only [nodeIsOnline, nodeHasAgent, Bool.and_eq_true,
              Option.isSome_iff_ne_none] at honline
            exact honline.2
          split
          · exact (closes_nodeDisconnect h hbus).thins h.registry hn
          · exact .of_retains (.of_core (coreFrame_sendAgent s n _).toRestFrame)
        · exact .refl s
      refine hround.trans (ih _ (h.checkNode now n) fun k hk => ?_)
      rw [hround.nodes]
      exact hns k (List.mem_cons_of_mem _ hk)
  exact hloop s.nodes s h fun _ hn => hn

/-! ## All events -/

/-- What an event does to the connections. -/
inductive LinkStep (s : Controller) : Event → Controller → Prop
  | retains {e : Event} {s' : Controller} : Retains s s' → LinkStep s e s'
  /-- An incoming connection is refused, or a Register. -/
  | refused {e : Event} {s' : Controller} : Relinks s.links s s' → LinkStep s e s'
  | opens {peer : PeerInfo} {fails : BusCall → Bool} {s' : Controller} :
      Opens peer s s' → LinkStep s (.accept peer fails) s'
  | registers {a : NodeId} {serial : Serial} {name : String} {now nowMonotonic : UInt64}
      {peer : PeerInfo} {fails : BusCall → Bool} {n : NodeId} {bus : BusId} {s' : Controller} :
      (s.node a).internalControllerSlot.isSome = true → s.registerTarget a name = .ok n →
      (s.node a).agentBus = some bus → Attaches fails →
      Relinks (Function.update (Function.update s.links n (attachedLink (some name) bus peer)) a
        .down) s s' →
      LinkStep s (.register a serial name now nowMonotonic peer fails) s'
  /-- A match fails while the target of a Register is attached. -/
  | leaves {a : NodeId} {serial : Serial} {name : String} {now nowMonotonic : UInt64}
      {peer : PeerInfo} {fails : BusCall → Bool} {n : NodeId} {link : NodeLink}
      {s' : Controller} : MatchFails fails → s.registerTarget a name = .ok n →
      Relinks (Function.update s.links n link) s s' →
      LinkStep s (.register a serial name now nowMonotonic peer fails) s'
  | closes {n : NodeId} {s' : Controller} : Closes n s s' → LinkStep s (.disconnected n) s'
  | thins {now : UInt64} {s' : Controller} : Thins s s' → LinkStep s (.heartbeatTimer now) s'

theorem linkStep_of_step (h : Consistent gap s) {e : Event} (hstop : ∀ sync, e ≠ .stop sync)
    (hstep : s.step e = some s') : LinkStep s e s' := by
  have ⟨_, hhandle⟩ := step_eq_some_iff.mp hstep
  by_cases htouches : e.TouchesLinks = false
  · exact .retains (retains_of_step h htouches hstep)
  · cases e with
    | accept peer fails =>
      rw [← Option.some.inj hhandle]
      rcases links_acceptNodeConnection h peer fails with hopens | hrefused
      · exact .opens hopens
      · exact .refused hrefused
    | register a serial name now nowMonotonic peer fails =>
      have ⟨hslot, heq⟩ := whenever_eq_some_iff.mp hhandle
      rw [← heq]
      rcases relinks_nodeMethodRegister h a serial name now nowMonotonic peer fails with
        ⟨hrefused, _⟩ | ⟨n, bus, htarget, hbus, ⟨hfine, hmoved⟩ | ⟨hmatch, _, hleft⟩⟩
      · exact .refused hrefused
      · exact .registers hslot htarget hbus hfine hmoved
      · exact .leaves hmatch htarget hleft
    | disconnected n =>
      have ⟨hslot, heq⟩ := whenever_eq_some_iff.mp hhandle
      rw [← heq]
      exact .closes (closes_nodeDisconnect h (h.agentBus_of_disconnectSlot hslot))
    | heartbeatTimer now =>
      rw [← Option.some.inj hhandle]
      exact .thins (thins_heartbeatTimerCallback h now)
    | stop sync => exact absurd rfl (hstop sync)
    | _ => exact absurd rfl htouches

end Controller
end BlueChi
