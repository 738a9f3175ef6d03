import BlueChi.Controller.Runs
import BlueChi.Controller.NodeView

/-!
# The controller moves the nodes

Seen from node `t` every function of the controller is a list of moves (`Follows`). Most make
none (`Still`), and those on subscriptions and proxies make adjusting ones (`Adjusted`). A
function that drops references may free the node, unless it has references left (`Released`).
-/

namespace BlueChi
namespace Controller

variable {t : NodeId} {s s' s'' : Controller}

/-! ## Stretches of a run -/

/-- From `s` to `s'` node `t` makes the moves, and only their messages are sent about it. -/
def Follows (t : NodeId) (moves : List NodeMove) (s s' : Controller) : Prop :=
  s'.nodes = s.nodes ∧ ∃ l, s'.log = s.log ++ l ∧
    (s.node t).view.runAll moves = ((s'.node t).view, l.filterMap (·.about t))

/-- No move is made. -/
def Still (t : NodeId) (s s' : Controller) : Prop := Follows t [] s s'

/-- Only subscriptions and dependencies change. -/
def Adjusted (t : NodeId) (s s' : Controller) : Prop :=
  ∃ moves, (∀ move ∈ moves, move.Adjusts) ∧ Follows t moves s s'

lemma Follows.trans {moves moves' : List NodeMove} (h : Follows t moves s s')
    (h' : Follows t moves' s' s'') : Follows t (moves ++ moves') s s'' := by
  have ⟨hnodes, l, hl, hrun⟩ := h
  have ⟨hnodes', l', hl', hrun'⟩ := h'
  refine ⟨hnodes'.trans hnodes, l ++ l', by rw [hl', hl, List.append_assoc], ?_⟩
  rw [NodeView.runAll_append, hrun]
  simp only
  rw [hrun', List.filterMap_append]

lemma Follows.still_trans {moves : List NodeMove} (h : Still t s s') (h' : Follows t moves s' s'') :
    Follows t moves s s'' := Follows.trans h h'

lemma Follows.trans_still {moves : List NodeMove} (h : Follows t moves s s') (h' : Still t s' s'') :
    Follows t moves s s'' := by
  have hall := h.trans h'
  rwa [List.append_nil] at hall

namespace Still

lemma of_view (hnodes : s'.nodes = s.nodes) (hview : (s'.node t).view = (s.node t).view)
    {l : List Output} (hlog : s'.log = s.log ++ l) (hl : ∀ o ∈ l, o.about t = none) :
    Still t s s' :=
  ⟨hnodes, l, hlog, by rw [List.filterMap_eq_nil_iff.mpr hl, NodeView.runAll_nil, hview]⟩

lemma of_eq (hnodes : s'.nodes = s.nodes) (hnode : s'.node t = s.node t)
    (hlog : s'.log = s.log) : Still t s s' :=
  of_view hnodes (by rw [hnode]) (l := []) (by rw [hlog, List.append_nil]) (by simp)

lemma refl (t : NodeId) (s : Controller) : Still t s s := of_eq rfl rfl rfl

lemma trans (h : Still t s s') (h' : Still t s' s'') : Still t s s'' := Follows.trans h h'

/-- The later stretch first. -/
lemma after (h' : Still t s' s'') (h : Still t s s') : Still t s s'' := h.trans h'

lemma foldl {α : Type} {f : Controller → α → Controller} (hf : ∀ s x, Still t s (f s x))
    (xs : List α) (s : Controller) : Still t s (xs.foldl f s) := by
  induction xs generalizing s with
  | nil => exact refl t s
  | cons x xs ih => exact (hf s x).trans (ih _)

lemma adjusted (h : Still t s s') : Adjusted t s s' := ⟨[], by simp, h⟩

end Still

namespace Adjusted

lemma refl (t : NodeId) (s : Controller) : Adjusted t s s := (Still.refl t s).adjusted

lemma trans (h : Adjusted t s s') (h' : Adjusted t s' s'') : Adjusted t s s'' := by
  have ⟨moves, hmoves, hrun⟩ := h
  have ⟨moves', hmoves', hrun'⟩ := h'
  refine ⟨moves ++ moves', fun move hmem => ?_, hrun.trans hrun'⟩
  exact (List.mem_append.mp hmem).elim (hmoves move) (hmoves' move)

lemma foldl {α : Type} {f : Controller → α → Controller} (hf : ∀ s x, Adjusted t s (f s x))
    (xs : List α) (s : Controller) : Adjusted t s (xs.foldl f s) := by
  induction xs generalizing s with
  | nil => exact refl t s
  | cons x xs ih => exact (hf s x).trans (ih _)

end Adjusted

/-! ## Primitive steps -/

lemma about_eq_none {o : Output} (t : NodeId)
    (h : o.kind ∉ [OutputKind.table, .dependency, .status]) : o.about t = none := by
  cases o with
  | toAgent bus n call =>
    rw [Output.about, if_neg]
    intro hcall
    simp only [Output.kind, List.mem_cons, List.not_mem_nil, or_false, not_or] at h
    exact hcall.2.elim h.1 h.2.1
  | nodeStatus n status => simp [Output.kind] at h
  | _ => rfl

/-- Messages of other kinds are not about the node. -/
lemma still_of_emits {kinds : List OutputKind} (hnodes : s'.nodes = s.nodes) (hview : (s'.node t).view = (s.node t).view)
    (h : Emits kinds s s') (hkinds : ∀ kind ∈ kinds, kind ∉ [OutputKind.table, .dependency, .status]) :
    Still t s s' := by
  have ⟨l, hl, hk⟩ := h
  exact .of_view hnodes hview hl fun o ho => about_eq_none t (hkinds _ (hk o ho))

lemma still_emit (s : Controller) {o : Output} (h : o.about t = none) : Still t s (s.emit o) :=
  .of_view rfl rfl (l := [o]) rfl (by simpa using h)

lemma still_sendAgent (s : Controller) (n : NodeId) {call : AgentCall}
    (hcall : call.kind ∉ [OutputKind.table, .dependency]) : Still t s (s.sendAgent n call) := by
  unfold sendAgent
  split
  · exact .refl t s
  · apply still_emit
    rw [Output.about, if_neg]
    intro hkind
    simp only [List.mem_cons, List.not_mem_nil, or_false, not_or] at hcall
    exact hkind.2.elim hcall.1 hcall.2

/-- A call to the agent of another node. -/
lemma still_sendAgent_other (s : Controller) {n : NodeId} (hn : n ≠ t) (call : AgentCall) :
    Still t s (s.sendAgent n call) := by
  unfold sendAgent
  split
  · exact .refl t s
  · exact still_emit s (by simp [Output.about, hn])

lemma still_modifyNode (s : Controller) (n : NodeId) {f : Node → Node}
    (hf : n = t → (f (s.node t)).view = (s.node t).view) : Still t s (s.modifyNode n f) := by
  refine .of_view rfl ?_ (l := []) (by simp) (by simp)
  by_cases hn : n = t
  · subst hn
    simpa using hf rfl
  · simp [Ne.symm hn]

lemma still_modifyOther (s : Controller) {n : NodeId} (hn : n ≠ t) (f : Node → Node) :
    Still t s (s.modifyNode n f) := still_modifyNode s n fun heq => absurd heq hn

lemma still_notify {told : ProxyMonitorId → Prop} (h : NotifyFrame told s s') : Still t s s' := by
  apply still_of_emits _ _ h.emits (by simp)
  · rw [h.rest]
  · rw [h.rest]

/-! ## Functions on the table -/

/-- What the effects send to the agent. -/
lemma foldl_runEffect_log (n : NodeId) (effs : List NodeEffect) (s : Controller) :
    ∃ l, (effs.foldl (runEffect n) s).log = s.log ++ l ∧
      (effs.foldl (runEffect n) s).node = s.node ∧
      (n ≠ t → l.filterMap (·.about t) = []) ∧
      (n = t → (∀ call, NodeEffect.send call ∈ effs → call.kind = .table ∨ call.kind = .dependency) →
        l.filterMap (·.about t) = sentOn (s.node t).agentBus effs) := by
  induction effs generalizing s with
  | nil => exact ⟨[], by simp, rfl, by simp, by simp⟩
  | cons eff effs ih =>
    obtain ⟨l', hl', hnode', hother', hself'⟩ := ih (s.runEffect n eff)
    rw [List.foldl_cons]
    have hone : ∃ l, (s.runEffect n eff).log = s.log ++ l ∧ (s.runEffect n eff).node = s.node ∧
        (n ≠ t → l.filterMap (·.about t) = []) ∧
        (n = t → (∀ call, eff = .send call → call.kind = .table ∨ call.kind = .dependency) →
          l.filterMap (·.about t) = sentOn (s.node t).agentBus [eff]) := by
      cases eff with
      | send call =>
        rw [runEffect, sendAgent]
        cases hbus : (s.node n).agentBus with
        | none =>
          refine ⟨[], by simp, rfl, by simp, fun heq _ => ?_⟩
          rw [← heq, hbus]
          rfl
        | some bus =>
          refine ⟨[.toAgent bus n call], rfl, rfl, fun hne => by simp [Output.about, hne],
            fun heq hkind => ?_⟩
          rw [← heq, hbus]
          simp [Output.about, sentOn, hkind call rfl]
      | notify subs unit ev =>
        have hframe := notifyFrame_handleAll s subs (s.nodeName n) unit ev
        obtain ⟨l, hl, hkinds⟩ := hframe.emits
        have hnone : l.filterMap (·.about t) = [] := by
          apply List.filterMap_eq_nil_iff.mpr
          intro o ho
          have hkind := hkinds o ho
          rw [List.mem_singleton] at hkind
          exact about_eq_none t (by simp [hkind])
        refine ⟨l, hl, by rw [runEffect, hframe.rest], fun _ => hnone, fun _ _ => ?_⟩
        rw [hnone, sentOn_notifyOne]
    obtain ⟨l, hl, hnode, hother, hself⟩ := hone
    refine ⟨l ++ l', by rw [hl', hl, List.append_assoc], hnode'.trans hnode, fun hne => ?_,
      fun heq hkinds => ?_⟩
    · rw [List.filterMap_append, hother hne, hother' hne, List.append_nil]
    · rw [List.filterMap_append, hself heq fun call hcall => hkinds call (by simp [hcall]),
        hself' heq fun call hcall => hkinds call (List.mem_cons_of_mem _ hcall), hnode, ← sentOn_append]
      rfl

lemma still_applyNode (s : Controller) {n : NodeId} (hn : n ≠ t) (f : NodeStep) :
    Still t s (s.applyNode n f) := by
  have ⟨l, hl, hnode, hother, _⟩ := foldl_runEffect_log (t := t) n (f (s.node n)).2
    (s.modifyNode n fun _ => (f (s.node n)).1)
  refine ⟨by rw [applyNode_eq], l, hl, ?_⟩
  unfold applyNode
  rw [hnode, hother hn]
  simp [Ne.symm hn]

/-- A function on the node itself. -/
lemma follows_applyNode (s : Controller) (t : NodeId) {f : NodeStep} {moves : List NodeMove}
    (hf : Simulates f moves (s.node t)) (hkinds : ∀ call, NodeEffect.send call ∈ (f (s.node t)).2 →
      call.kind = .table ∨ call.kind = .dependency) : Follows t moves s (s.applyNode t f) := by
  have ⟨l, hl, hnode, _, hself⟩ := foldl_runEffect_log (t := t) t (f (s.node t)).2
    (s.modifyNode t fun _ => (f (s.node t)).1)
  refine ⟨by rw [applyNode_eq], l, hl, ?_⟩
  have hbus : ((s.modifyNode t fun _ => (f (s.node t)).1).node t).agentBus = (s.node t).agentBus := by
    simpa using hf.2
  rw [hf.1, hself rfl hkinds, hbus]
  unfold applyNode
  rw [hnode]
  simp

/-- The calls of a function on the table. -/
lemma kinds_of_tableStep {told : ProxyMonitorId → Prop} {f : NodeStep} {node : Node}
    (h : TableStep told f node) (call : AgentCall) (hcall : NodeEffect.send call ∈ (f node).2) :
    call.kind = .table ∨ call.kind = .dependency := Or.inl (h.2 _ hcall)

lemma adjusted_nodeSubscribe (s : Controller) (n : NodeId) (sub : Subscription) :
    Adjusted t s (s.applyNode n (nodeSubscribe sub)) := by
  by_cases hn : n = t
  · subst hn
    refine ⟨_, fun move hmem => ?_, follows_applyNode s n (simulates_nodeSubscribe sub _)
      (kinds_of_tableStep (tableStep_nodeSubscribe sub _))⟩
    have ⟨unit, _, heq⟩ := List.mem_map.mp hmem
    exact heq ▸ trivial
  · exact (still_applyNode s hn _).adjusted

lemma adjusted_nodeUnsubscribe (s : Controller) (n : NodeId) (sub : Subscription) :
    Adjusted t s (s.applyNode n (nodeUnsubscribe sub)) := by
  by_cases hn : n = t
  · subst hn
    refine ⟨_, fun move hmem => ?_, follows_applyNode s n (simulates_nodeUnsubscribe sub _)
      (kinds_of_tableStep (tableStep_nodeUnsubscribe (fun _ => False) sub _))⟩
    have ⟨unit, _, heq⟩ := List.mem_map.mp hmem
    exact heq ▸ trivial
  · exact (still_applyNode s hn _).adjusted

/-! ## Subscriptions -/

lemma still_monitorUnref (s : Controller) (m : MonitorId) (o : Owner) :
    Still t s (s.monitorUnref m o) := by
  unfold monitorUnref
  simp only
  split <;> exact .of_eq rfl rfl rfl

lemma still_subscriptionUnref (s : Controller) (sub : Subscription) (o : Owner) :
    Still t s (s.subscriptionUnref sub o) := by
  have hdrop : Still t s (s.dropRef (.subscription sub.ptr) o) := .of_eq rfl rfl rfl
  unfold subscriptionUnref
  simp only
  split
  · split
    · exact hdrop.trans (still_monitorUnref _ _ _)
    · exact hdrop
  · exact hdrop

lemma adjusted_addSubscription (s : Controller) (sub : Subscription) :
    Adjusted t s (s.addSubscription sub) := by
  have hlist : Still t s (s.appendSubscription sub) := .of_eq rfl rfl rfl
  exact hlist.adjusted.trans (.foldl (fun s n => adjusted_nodeSubscribe s n sub) _ _)

lemma adjusted_removeSubscription (s : Controller) (sub : Subscription) :
    Adjusted t s (s.removeSubscription sub) := by
  have hnodes := Adjusted.foldl (t := t) (fun s n => adjusted_nodeUnsubscribe s n sub)
    (s.subscribedNodes sub) s
  have hlist : ∀ s : Controller, Still t s (s.unlistSubscription sub) := fun s => .of_eq rfl rfl rfl
  exact (hnodes.trans (hlist _).adjusted).trans (still_subscriptionUnref _ sub _).adjusted

/-! ## Dependencies -/

lemma view_addDependency (node : Node) (unit : String) : node.view.run (.addDependency unit) =
    ({ node with proxyDependencies := incDependency node.proxyDependencies unit }.view,
      node.view.tell (.startDep unit)) := rfl

/-- A call about a dependency or a unit. -/
lemma follows_sendAgent (s : Controller) (t : NodeId) (call : AgentCall)
    (hcall : call.kind = .table ∨ call.kind = .dependency) :
    (s.sendAgent t call).nodes = s.nodes ∧ ∃ l, (s.sendAgent t call).log = s.log ++ l ∧
      l.filterMap (·.about t) = (s.node t).view.tell call ∧ (s.sendAgent t call).node = s.node := by
  have hview : (s.node t).view.agentBus = (s.node t).agentBus := rfl
  unfold sendAgent NodeView.tell
  rw [hview]
  cases (s.node t).agentBus with
  | none => exact ⟨rfl, [], by simp, rfl, rfl⟩
  | some bus => exact ⟨rfl, [.toAgent bus t call], rfl, by simp [Output.about, hcall], rfl⟩

lemma adjusted_nodeAddProxyDependency (s : Controller) (n : NodeId) (unit : String) :
    Adjusted t s (s.nodeAddProxyDependency n unit) := by
  unfold nodeAddProxyDependency
  by_cases hn : n = t
  · subst hn
    refine ⟨[.addDependency unit], by simp [NodeMove.Adjusts], ?_⟩
    have ⟨hnodes, l, hl, habout, hnode⟩ := follows_sendAgent (s.modifyNode n fun node =>
      { node with proxyDependencies := incDependency node.proxyDependencies unit }) n
      (.startDep unit) (Or.inr rfl)
    refine ⟨hnodes, l, hl, ?_⟩
    rw [NodeView.runAll_cons, NodeView.runAll_nil, view_addDependency, habout, hnode]
    simp [NodeView.tell, Node.view]
  · exact ((still_sendAgent_other _ hn _).after (still_modifyOther s hn _)).adjusted

lemma adjusted_nodeRemoveProxyDependency (s : Controller) (n : NodeId) (unit : String) :
    Adjusted t s (s.nodeRemoveProxyDependency n unit) := by
  unfold nodeRemoveProxyDependency
  by_cases hn : n = t
  · subst hn
    cases hget : Keyed.get (·.unitName) (s.node n).proxyDependencies unit with
    | none => exact .refl n s
    | some dep =>
      have hview : Keyed.get (·.unitName) (s.node n).view.deps unit = some dep := hget
      refine ⟨[.removeDependency unit], by simp [NodeMove.Adjusts], ?_⟩
      simp only
      unfold Follows
      rw [NodeView.runAll_cons, NodeView.runAll_nil]
      simp only [NodeView.run, hview]
      by_cases hlast : dep.nDeps - 1 = 0
      · rw [if_pos hlast, if_pos hlast]
        obtain ⟨hnodes, l, hl, habout, hnode⟩ := follows_sendAgent s n (.stopDep unit) (Or.inr rfl)
        refine ⟨hnodes, l, hl, ?_⟩
        rw [modifyNode_node, Function.update_self, hnode, habout]
        simp [Node.view]
      · rw [if_neg hlast, if_neg hlast]
        exact ⟨rfl, [], by simp, by simp [Node.view]⟩
  · apply Still.adjusted
    split
    · exact .refl t s
    · split
      · exact (still_modifyOther _ hn _).after (still_sendAgent_other s hn _)
      · exact still_modifyOther s hn _

lemma adjusted_proxyMonitorDropDep (s : Controller) (p : ProxyMonitorId) :
    Adjusted t s (s.proxyMonitorDropDep p) := by
  unfold proxyMonitorDropDep
  split
  · refine Adjusted.trans ?_ (Still.adjusted (.of_eq rfl rfl rfl))
    split
    · exact adjusted_nodeRemoveProxyDependency s _ _
    · exact .refl t s
  · exact .refl t s

lemma adjusted_proxyMonitorSetTargetNode (s : Controller) (p : ProxyMonitorId) (n : NodeId) :
    Adjusted t s (s.proxyMonitorSetTargetNode p n) := by
  unfold proxyMonitorSetTargetNode
  refine Adjusted.trans ?_ (Still.adjusted (.of_eq rfl rfl rfl))
  refine Adjusted.trans (Still.adjusted (.of_eq rfl rfl rfl)) (adjusted_nodeAddProxyDependency _ n _)

lemma still_nodeUnsetAgentBus (s : Controller) {n : NodeId} (hn : n ≠ t) :
    Still t s (s.nodeUnsetAgentBus n) := by
  unfold nodeUnsetAgentBus
  simp only
  split
  · exact (still_emit _ (by simp [Output.about, hn])).after (still_modifyOther _ hn _)
  · exact still_modifyOther _ hn _

/-! ## Dropping references -/

/-- References of the node are dropped, and while some are left the node is adjusted. -/
structure Released (t : NodeId) (s s' : Controller) : Prop where
  nodes : s'.nodes = s.nodes
  count : (s'.refs (.node t)).count ≤ (s.refs (.node t)).count
  adjusted : 0 < (s'.refs (.node t)).count → Adjusted t s s'

namespace Released

lemma of_adjusted (h : Adjusted t s s') (hnodes : s'.nodes = s.nodes)
    (hrefs : s'.refs (.node t) = s.refs (.node t)) : Released t s s' :=
  ⟨hnodes, by rw [hrefs], fun _ => h⟩

lemma refl (t : NodeId) (s : Controller) : Released t s s := of_adjusted (.refl t s) rfl rfl

lemma trans (h : Released t s s') (h' : Released t s' s'') : Released t s s'' where
  nodes := h'.nodes.trans h.nodes
  count := h'.count.trans h.count
  adjusted hpos := (h.adjusted (hpos.trans_le h'.count)).trans (h'.adjusted hpos)

/-- The later stretch first. -/
lemma after (h' : Released t s' s'') (h : Released t s s') : Released t s s'' := h.trans h'

lemma foldl {α : Type} {f : Controller → α → Controller} (hf : ∀ s x, Released t s (f s x))
    (xs : List α) (s : Controller) : Released t s (xs.foldl f s) := by
  induction xs generalizing s with
  | nil => exact refl t s
  | cons x xs ih => exact (hf s x).trans (ih _)

lemma of_subscription {told : ProxyMonitorId → Prop} (f : SubscriptionFrame told s s')
    (h : Adjusted t s s') : Released t s s' := of_adjusted h f.nodes_eq (f.refs _ rfl)

end Released

lemma released_dropRef (s : Controller) (obj : Obj) (o : Owner) :
    Released t s (s.dropRef obj o) := by
  refine ⟨rfl, ?_, fun _ => Still.adjusted (.of_eq rfl rfl rfl)⟩
  by_cases hobj : Obj.node t = obj
  · subst hobj
    simp
  · simp [hobj]

lemma released_proxyMonitorDropDep (s : Controller) (p : ProxyMonitorId) :
    Released t s (s.proxyMonitorDropDep p) := by
  refine .of_adjusted (adjusted_proxyMonitorDropDep s p) ?_ ?_
  · rw [(proxyFrame_proxyMonitorDropDep s p).rest]
  · unfold proxyMonitorDropDep
    split
    · split
      · rw [modifyProxyMonitor_refs, nodeRemoveProxyDependency_eq]
      · rfl
    · rfl

section

variable {unrefNode : Controller → NodeId → Owner → Controller}
  (hunref : ∀ s n o, Released t s (unrefNode s n o))

include hunref

lemma released_proxyMonitorUnref (s : Controller) (p : ProxyMonitorId) (o : Owner) :
    Released t s (proxyMonitorUnref unrefNode s p o) := by
  have hdrop : Released t s (s.dropRef (.proxyMonitor p) o) := released_dropRef s _ o
  unfold proxyMonitorUnref
  simp only
  split
  · refine hdrop.trans (Released.trans ?_ (.of_subscription
      (subscriptionFrame_subscriptionUnref (fun _ => False) _ _ _)
      (still_subscriptionUnref _ _ _).adjusted))
    split
    · exact (released_proxyMonitorDropDep _ p).trans (hunref _ _ _)
    · exact .refl t _
  · exact hdrop

lemma released_nodeRemoveProxyMonitor (s : Controller) (n : NodeId) (p : ProxyMonitorId) :
    Released t s (nodeRemoveProxyMonitor unrefNode s n p) := by
  have hremove := Released.of_subscription (t := t)
    (subscriptionFrame_removeSubscription (fun _ => False) (s.proxyMonitorDropDep p)
      ((s.proxyMonitorDropDep p).proxyMonitor p).subscription)
    (adjusted_removeSubscription _ _)
  have hlist : ∀ s : Controller, Released t s (s.unlistProxyMonitor n p) := by
    intro s
    refine .of_adjusted (Still.adjusted ?_) rfl rfl
    exact (still_modifyNode _ n fun _ => rfl).after (.of_eq rfl rfl rfl)
  exact (((released_proxyMonitorDropDep s p).trans hremove).trans (hlist _)).trans
    (released_proxyMonitorUnref hunref _ p _)

/-- Freeing another node, or one without references. -/
lemma released_nodeFinalize (s : Controller) {n : NodeId}
    (hn : n = t → (s.refs (.node t)).count ≤ 0) : Released t s (nodeFinalize unrefNode s n) := by
  have hproxies := Released.foldl (t := t)
    (fun s p => released_nodeRemoveProxyMonitor hunref s n p) (s.node n).proxyMonitors s
  unfold nodeFinalize
  refine hproxies.trans ?_
  generalize (s.node n).proxyMonitors.foldl (fun s p => nodeRemoveProxyMonitor unrefNode s n p) s =
    s' at hproxies
  have hrefs : (((s'.modifyNode n fun node => { node with
      proxyDependencies := [], allowedProxyTargets := [] }).nodeUnsetAgentBus n).modifyNode n
        fun node => { node with unitSubscriptions := [] }).refs (.node t) = s'.refs (.node t) := by
    rw [modifyNode_refs, nodeUnsetAgentBus_eq]
    rfl
  refine ⟨?_, by rw [hrefs], fun hpos => Still.adjusted ?_⟩
  · rw [modifyNode_nodes, nodeUnsetAgentBus_eq]
    rfl
  have hne : n ≠ t := by
    intro heq
    rw [hrefs] at hpos
    exact absurd (hpos.trans_le (hproxies.count.trans (hn heq))) (lt_irrefl 0)
  apply (still_modifyOther _ hne _).after
  exact (still_nodeUnsetAgentBus _ hne).after (still_modifyOther _ hne _)

end

lemma released_nodeUnrefFuel (fuel : ℕ) (s : Controller) (n : NodeId) (o : Owner) :
    Released t s (nodeUnrefFuel fuel s n o) := by
  induction fuel generalizing s n o with
  | zero => exact released_dropRef s _ o
  | succ fuel ih =>
    rw [nodeUnrefFuel]
    split
    · rename_i hfreed
      refine (released_dropRef s _ o).trans (released_nodeFinalize ih _ fun heq => ?_)
      rw [← heq, isFreed_iff.mp hfreed]
    · exact released_dropRef s _ o

lemma released_nodeUnref (s : Controller) (n : NodeId) (o : Owner) :
    Released t s (s.nodeUnref n o) := released_nodeUnrefFuel _ s n o

end Controller
end BlueChi
