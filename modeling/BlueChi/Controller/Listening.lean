import BlueChi.Controller.Addressing

/-!
# The signals that are listened to

The controller gives up no match of a signal, and matches every signal of the agent on the connection
that it attaches to a node. So what the agent of a node sends on its connection is heard
(`listening_of_clean`), and so is what it sends on an earlier one on which it was called
(`answering_of_clean`).
-/

namespace BlueChi
namespace Controller

open Execution

variable {gap : ℤ} {t : NodeId} {s s' s'' : Controller}

/-! ## Matches are kept -/

/-- No match is given up. -/
def Hears (s s' : Controller) : Prop := ∀ m ∈ s.signalMatches, m ∈ s'.signalMatches

namespace Hears

lemma of_eq (h : s'.signalMatches = s.signalMatches) : Hears s s' := fun _ hm => h ▸ hm

lemma trans (h : Hears s s') (h' : Hears s' s'') : Hears s s'' := fun m hm => h' m (h m hm)

lemma sendAgent (s : Controller) (n : NodeId) (call : AgentCall) : Hears s (s.sendAgent n call) := by
  unfold Controller.sendAgent
  split
  · exact of_eq rfl
  · exact of_eq rfl

lemma nodes : ClosedNodes Hears where
  refl _ := of_eq rfl
  trans := trans
  notify f := of_eq (by rw [f.rest])
  tell s n call _ := sendAgent s n call
  table _ _ _ _ := of_eq rfl
  depend s n call _ := sendAgent s n call
  proxies _ _ _ _ := of_eq rfl
  detach s n := by
    rw [nodeUnsetAgentBus_eq]
    exact of_eq rfl
  proxyMonitor _ _ _ _ := of_eq rfl
  takeRef _ _ _ _ := of_eq rfl
  dropRef _ _ _ _ _ := of_eq rfl
  unlist _ _ _ := of_eq rfl
  proxyMonitorNew _ _ _ _ _ := of_eq rfl
  appendSubscription _ _ := of_eq rfl
  unlistSubscription _ _ := of_eq rfl
  subscriptionUnref s p o := by
    rw [Consistent.subscriptionUnref_rest]
    exact of_eq rfl
  answered _ _ := of_eq rfl
  announce _ _ _ := of_eq rfl
  jobs f := of_eq (by rw [f.rest])
  reply _ _ _ := of_eq rfl
  ask s n call _ := sendAgent s n call
  requests f := of_eq (by rw [f.rest])
  registry f := of_eq (by rw [f.rest])
  release _ _ := of_eq rfl

lemma addMatch (s : Controller) (n : NodeId) (bus : BusId) (member : AgentMember) :
    Hears s (s.addMatch n bus member) := fun _ hm => List.mem_append_left _ hm

lemma countOnline (s : Controller) (d : ℤ) : Hears s (s.countOnline d) := by
  unfold Controller.countOnline checkSystemStatus
  dsimp only
  split
  · exact of_eq rfl
  · exact of_eq rfl

lemma aside : ClosedAside (fun _ => True) Hears where
  toClosedProxies := nodes.toClosedProxies
  announce := nodes.announce
  jobs := nodes.jobs
  remove s n _ := nodes.removeNode s n
  count := countOnline
  beat s n := sendAgent s n _
  seen _ _ _ _ := of_eq rfl
  link _ _ _ _ := of_eq rfl
  status _ _ _ := of_eq rfl
  addMatch := addMatch
  reply _ _ _ _ _ := of_eq rfl
  addNode _ := of_eq rfl
  busAlloc _ := of_eq rfl
  flag s n call _ := sendAgent s n call
  metrics _ _ := of_eq rfl
  clients f := of_eq (by rw [f.rest])
  farewell _ _ _ _ := of_eq rfl

end Hears

lemma hears_of_step {e : Event} (hstop : ∀ sync, e ≠ .stop sync) (hstep : s.step e = some s') :
    Hears s s' := by
  by_cases he : e.ofRequests = false
  · exact Hears.aside.step hstep he fun _ _ => trivial
  · refine Hears.nodes.toClosedRequests.step hstep (by simpa using he) hstop fun _ _ job _ _ _ u => ?_
    exact Hears.nodes.toClosedJobs.addJob u job fun _ => Hears.of_eq rfl

/-- What a node does for its units gives up no match. -/
lemma hears_applyNode (s : Controller) (n : NodeId) (f : NodeStep) : Hears s (s.applyNode n f) := by
  have heffect : ∀ (u : Controller) (eff : NodeEffect), Hears u (u.runEffect n eff) := by
    intro u eff
    cases eff with
    | send call => exact .sendAgent u n call
    | notify subs unit ev => exact Hears.nodes.notify (notifyFrame_handleAll u subs _ unit ev)
  unfold applyNode
  exact (Hears.of_eq rfl : Hears s (s.modifyNode n fun _ => (f (s.node n)).1)).trans
    (Hears.nodes.toComposed.foldl heffect _ _)

/-! ## Matches are made -/

instance (fails : BusCall → Bool) : Decidable (MatchFails fails) :=
  inferInstanceAs (Decidable (∃ member ∈ firstMembers ++ [.heartbeat], fails (.matchSignal member) = true))

instance : ∀ e : Event, Decidable e.AttachesCleanly
  | .register _ _ _ _ _ _ fails => inferInstanceAs (Decidable ¬MatchFails fails)
  | .accept .. | .disconnected _ | .heartbeatTimer _ | .agentSignal .. | .agentReply .. | .proxyReply _
  | .lifecycle .. | .forward .. | .jobCancel .. | .fleet .. | .createMonitor .. | .subscribe ..
  | .unsubscribe .. | .addPeer .. | .removePeer .. | .closeMonitor .. | .nameOwnerChanged ..
  | .enableMetrics .. | .disableMetrics _ | .stop _ => isTrue trivial

/-- Every signal of the agent of node `n` on a connection is matched. -/
def Matched (s : Controller) (n : NodeId) (bus : BusId) : Prop :=
  ∀ member ∈ firstMembers ++ [.heartbeat], ⟨bus, n, member⟩ ∈ s.signalMatches

lemma Matched.hears {n : NodeId} {bus : BusId} (h : s.Matched n bus) (f : Hears s s') :
    s'.Matched n bus := fun member hmember => f _ (h member hmember)

lemma mem_addMatches (n : NodeId) (bus : BusId) {fails : BusCall → Bool} {members : List AgentMember}
    (hgood : ∀ member ∈ members, fails (.matchSignal member) = false) (s : Controller) :
    ∀ member ∈ members, ⟨bus, n, member⟩ ∈ (addMatches n bus fails members s).2.signalMatches := by
  induction members generalizing s with
  | nil => simp
  | cons first members ih =>
    intro member hmember
    rw [addMatches, if_neg (by simp [hgood first List.mem_cons_self])]
    rcases List.mem_cons.mp hmember with rfl | hrest
    · apply Hears.aside.toClosedLinks.addMatches n bus fails members
      exact List.mem_append_right _ (List.mem_singleton.mpr rfl)
    · exact ih (fun m hm => hgood m (List.mem_cons_of_mem _ hm)) _ member hrest

/-- A connection that is attached to a named node is matched, if no match fails. -/
lemma matched_nodeSetAgentBus {n : NodeId} (hname : (s.node n).name ≠ none)
    (hagent : nodeHasAgent (s.node n) = false) (bus : BusId) (peer : PeerInfo)
    {fails : BusCall → Bool} (hclean : ¬MatchFails fails) :
    (s.nodeSetAgentBus n bus peer fails).2.Matched n bus := by
  have hgood : ∀ member ∈ firstMembers ++ [.heartbeat], fails (.matchSignal member) = false := by
    intro member hmember
    by_contra hbad
    exact hclean ⟨member, hmember, by simpa using hbad⟩
  have hself : (s.modifyNode n (storeAgentBus bus peer)).node n = storeAgentBus bus peer (s.node n) := by
    simp
  unfold nodeSetAgentBus
  rw [if_neg (by simp [hagent])]
  unfold nodeAddRegistrations
  rw [hself, if_neg (show (storeAgentBus bus peer (s.node n)).name ≠ none from hname)]
  have hmatched := mem_addMatches n bus (fun m hm => hgood m (List.mem_append_left _ hm))
    (s.modifyNode n (storeAgentBus bus peer))
  have hfst := (Consistent.addMatches_fst n bus fails firstMembers
    (s.modifyNode n (storeAgentBus bus peer))).mpr fun m hm => hgood m (List.mem_append_left _ hm)
  generalize addMatches n bus fails firstMembers (s.modifyNode n (storeAgentBus bus peer)) = result
    at hmatched hfst ⊢
  obtain ⟨ok, u⟩ := result
  dsimp only at hmatched hfst
  subst hfst
  dsimp only
  have hmatched' := mem_addMatches n bus (fun m hm => hgood m (List.mem_append_right _ hm))
    (u.emit (.nodeStatus n (nodeGetStatus (u.node n))))
  have hfst' := (Consistent.addMatches_fst n bus fails [.heartbeat]
    (u.emit (.nodeStatus n (nodeGetStatus (u.node n))))).mpr
      fun m hm => hgood m (List.mem_append_right _ hm)
  have hkept := Hears.aside.toClosedLinks.addMatches n bus fails [.heartbeat]
    (u.emit (.nodeStatus n (nodeGetStatus (u.node n))))
  generalize addMatches n bus fails [.heartbeat] (u.emit (.nodeStatus n (nodeGetStatus (u.node n)))) =
    result at hmatched' hfst' hkept ⊢
  obtain ⟨ok, v⟩ := result
  dsimp only at hmatched' hfst' hkept
  subst hfst'
  dsimp only
  have hall : v.Matched n bus := by
    intro member hmember
    rcases List.mem_append.mp hmember with hfirst | hlast
    · exact hkept _ (hmatched member hfirst)
    · exact hmatched' member hlast
  split
  · exact hall.hears (Hears.nodes.detach v n)
  · exact hall.hears (((Hears.of_eq rfl : Hears v (v.modifyNode n fun node =>
      { node with disconnectSlot := some bus })).trans (hears_applyNode _ n _)).trans
        (hears_applyNode _ n _))

lemma matched_nodeMethodRegister (hreg : Registry s) {a n : NodeId} {name : String} {bus : BusId}
    (htarget : s.registerTarget a name = .ok n) (hbus : (s.node a).agentBus = some bus)
    (serial : Serial) (now nowMonotonic : UInt64) (peer : PeerInfo) {fails : BusCall → Bool}
    (hclean : ¬MatchFails fails) :
    (s.nodeMethodRegister a serial name now nowMonotonic peer fails).Matched n bus := by
  have ⟨_, _, hname, hagent, _⟩ := (registerTarget_eq_ok_iff hreg a n name).mp htarget
  have hset := matched_nodeSetAgentBus (s := s.modifyNode n fun node =>
    { node with lastSeen := now, lastSeenMonotonic := nowMonotonic }) (n := n)
    (by simp [modifyNode, hname]) (by simpa [modifyNode, nodeHasAgent] using hagent) bus peer hclean
  unfold nodeMethodRegister
  rw [htarget, hbus]
  dsimp only
  generalize (s.modifyNode n fun node => { node with
    lastSeen := now, lastSeenMonotonic := nowMonotonic }).nodeSetAgentBus n bus peer fails = result
    at hset
  obtain ⟨ok, u⟩ := result
  cases ok with
  | false => exact hset.hears (.of_eq rfl)
  | true =>
    have hmetrics : Hears u (if u.metricsEnabled then u.nodeEnableMetrics fails n else u) := by
      split
      · exact Hears.aside.toClosedMetrics.nodeEnableMetrics fails u n
      · exact .of_eq rfl
    dsimp only
    generalize (if u.metricsEnabled then u.nodeEnableMetrics fails n else u) = v at hmetrics
    have hlast : Hears v (((v.nodeUnsetAgentBus a).countOnline 1).emit (.reply serial .empty)) :=
      ((Hears.nodes.detach v a).trans (.countOnline _ 1)).trans (.of_eq rfl)
    exact hset.hears (hmetrics.trans hlast)

/-! ## Runs -/

/-- The agent of node `t` is heard on its connection. -/
theorem listening_of_clean (h : ReachableUnder system (fun _ e => e.AttachesCleanly) s)
    (hrun : s.stopped = false) (ht : t ∈ s.nodes) {bus : BusId} (hbus : (s.node t).agentBus = some bus) :
    s.Matched t bus := by
  induction h generalizing bus with
  | init hinit =>
    obtain ⟨threshold, cfgs, rfl⟩ := hinit
    rw [(Starting.start threshold cfgs).node t] at hbus
    cases hbus
  | @step s e s' hreach hclean hstep ih =>
    have hrunning := (step_eq_some_iff.mp hstep).1
    have hstop := not_stop hstep hrun
    have hcons := consistent_of_clean hreach hrunning
    have ht' : t ∈ s.nodes := by rwa [nodes_of_step hstop hstep] at ht
    have hhears := hears_of_step hstop hstep
    have hkept : (s.links t).agentBus = some bus → s'.Matched t bus := fun hold =>
      (ih hrunning ht' hold).hears hhears
    have hdropped : s'.links t = s.links t ∨ s'.links t = .down → s'.Matched t bus := by
      intro hlink
      rcases hlink with hsame | hdown
      · exact hkept (hsame ▸ hbus)
      · have hnone : (s'.links t).agentBus = none := by rw [hdown]; rfl
        rw [show (s'.links t).agentBus = some bus from hbus] at hnone
        cases hnone
    cases linkStep_of_step hcons hstop hstep with
    | retains hretains => exact hdropped (hretains.link t)
    | refused hsame => exact hdropped (Or.inl (congrFun hsame.links t))
    | opens ho =>
      have hne : t ≠ s.nextPtr := Nat.ne_of_lt (hcons.registry.fresh t (Or.inl ht'))
      apply hdropped
      rw [ho.links, Function.update_of_ne hne]
      exact Or.inl rfl
    | @registers a serial name now nowMonotonic peer fails n bus' _ _ htarget hbus' hattaches hmoved =>
      have ⟨ha, _⟩ := (registerTarget_eq_ok_iff hcons.registry a n name).mp htarget
      have hne : t ≠ a := fun heq => hcons.registry.named t ht' (heq ▸ ha)
      have hlinks := congrFun hmoved.links t
      rw [Function.update_of_ne hne] at hlinks
      by_cases hn : t = n
      · subst hn
        rw [Function.update_self] at hlinks
        have hsame : some bus' = some bus := by
          rw [← show (s'.links t).agentBus = some bus from hbus, hlinks]
          rfl
        obtain rfl := Option.some.inj hsame
        rw [← (whenever_eq_some_iff.mp (step_eq_some_iff.mp hstep).2).2]
        exact matched_nodeMethodRegister hcons.registry htarget hbus' serial now nowMonotonic peer
          hattaches.1
      · rw [Function.update_of_ne hn] at hlinks
        exact hdropped (Or.inl hlinks)
    | leaves hmatch _ _ => exact absurd hmatch hclean
    | closes hcloses => exact hdropped (hcloses.link t)
    | thins hthins => exact hdropped (hthins.link t)

/-- So is an agent that was called, on the connection on which it was. -/
theorem answering_of_clean (h : ReachableUnder system (fun _ e => e.AttachesCleanly) s)
    (hrun : s.stopped = false) (ht : t ∈ s.nodes) {bus : BusId} {call : AgentCall}
    (hcall : call ∈ callsOn t bus s.log) (hkind : call.kind ≠ .notice) : s.Matched t bus := by
  induction h with
  | init hinit =>
    obtain ⟨threshold, cfgs, rfl⟩ := hinit
    have hlog : (start threshold cfgs).log = [] := by
      rw [(Starting.start threshold cfgs).rest]
      rfl
    rw [hlog] at hcall
    exact absurd hcall List.not_mem_nil
  | @step s e s' hreach hclean hstep ih =>
    have hrunning := (step_eq_some_iff.mp hstep).1
    have hstop := not_stop hstep hrun
    have hcons := consistent_of_clean hreach hrunning
    have hreach' : ReachableUnder system (fun _ e => e.AttachesCleanly) s' := .step hreach hclean hstep
    have ht' : t ∈ s.nodes := by rwa [nodes_of_step hstop hstep] at ht
    have hhears := hears_of_step hstop hstep
    obtain ⟨l, hlog, hcalls⟩ := calls_of_step hcons (wired_of_clean hreach hrunning) ht' hclean hstop hstep
    rw [hlog, callsOn_append] at hcall
    rcases List.mem_append.mp hcall with hold | hnew
    · exact (ih hrunning ht' hold).hears hhears
    · rcases hcalls bus call hnew hkind with hbefore | hafter
      · exact (listening_of_clean hreach hrunning ht' hbefore).hears hhears
      · exact listening_of_clean hreach' hrun ht hafter

/-- No signal of the agent of a node is dropped, neither on the connection that the node has nor on an
earlier one on which the agent was called. -/
theorem signal_heard (h : ReachableUnder system (fun _ e => e.AttachesCleanly) s)
    (hrun : s.stopped = false) (ht : t ∈ s.nodes) {bus : BusId}
    (hconnection : (s.node t).agentBus = some bus ∨
      ∃ call ∈ callsOn t bus s.log, call.kind ≠ .notice) (sig : NodeSignal) :
    s.step (.agentSignal bus t sig) = some (s.onSignal t sig) := by
  have hmatched : s.Matched t bus := by
    rcases hconnection with hbus | ⟨call, hcall, hkind⟩
    · exact listening_of_clean h hrun ht hbus
    · exact answering_of_clean h hrun ht hcall hkind
  have hmember : sig.member ∈ firstMembers ++ [.heartbeat] := by
    cases sig <;> simp [NodeSignal.member, firstMembers]
  exact step_agentSignal_iff.mpr ⟨hrun, hmatched sig.member hmember, rfl⟩

/-- The agent registers, is told to measure, and is disconnected. -/
def measuresAndLeaves : List Event :=
  [.accept ⟨some none, none⟩ fun _ => false,
    .register 2 1 "n" 1 1 ⟨some none, none⟩ fun _ => false, .enableMetrics 2 true fun _ => false,
    .disconnected 1]

theorem signal_heard_measuresAndLeaves : ∃ s,
    run system (start 0 [⟨"n", none, []⟩]) measuresAndLeaves = some s ∧ (s.node 1).agentBus = none ∧
      s.step (.agentSignal 3 1 (.unitRemoved "a.service")) =
        some (s.onSignal 1 (.unitRemoved "a.service")) := by
  have hread : (run system (start 0 [⟨"n", none, []⟩]) measuresAndLeaves).map (fun s =>
      (s.stopped, s.nodes, (s.node 1).agentBus, callsOn 1 3 s.log)) =
        some (false, [1], none, [.enableMetrics]) := by decide +kernel
  obtain ⟨s, hs, hfacts⟩ := Option.map_eq_some_iff.mp hread
  simp only [Prod.mk.injEq] at hfacts
  obtain ⟨hrun, hnodes, hbus, hcalls⟩ := hfacts
  have hguard : GuardedRun system (fun _ e => e.AttachesCleanly) (start 0 [⟨"n", none, []⟩])
      measuresAndLeaves := by decide +kernel
  have hinit : ReachableUnder system (fun _ e => e.AttachesCleanly) (start 0 [⟨"n", none, []⟩]) :=
    .init ⟨0, _, rfl⟩
  refine ⟨s, hs, hbus, signal_heard (hinit.run hguard hs) hrun (by simp [hnodes])
    (Or.inr ⟨.enableMetrics, ?_, OutputKind.noConfusion⟩) (.unitRemoved "a.service")⟩
  rw [hcalls]
  exact List.mem_singleton.mpr rfl

end Controller
end BlueChi
