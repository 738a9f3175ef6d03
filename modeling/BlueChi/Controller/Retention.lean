import BlueChi.Controller.Runs

/-!
# Listed nodes keep their connections

A node in one of the two lists has the reference of its creator, so it is never freed. `Settled`
says so for the functions that drop references, and needs nothing but `Held`: it is true while
the controller stops as well. `Retains` is what these functions leave alone.
-/

namespace BlueChi
namespace Controller

variable {gap : ℤ} {s s' s'' : Controller}

/-- A node that is in one of the lists. -/
def Present (s : Controller) (n : NodeId) : Prop := n ∈ s.nodes ∨ n ∈ s.anonymousNodes

/-- The lists of nodes and the connections of the nodes in them stay, and no node gets another
connection. -/
structure Retains (s s' : Controller) : Prop where
  nodes : s'.nodes = s.nodes
  anonymousNodes : s'.anonymousNodes = s.anonymousNodes
  numberOfNodes : s'.numberOfNodes = s.numberOfNodes
  numberOfNodesOnline : s'.numberOfNodesOnline = s.numberOfNodesOnline
  signalMatches : s'.signalMatches = s.signalMatches
  nextPtr : s.nextPtr ≤ s'.nextPtr
  name : ∀ n, (s'.node n).name = (s.node n).name
  link : ∀ n, (s'.node n).link = (s.node n).link ∨ (s'.node n).link = .down
  present : ∀ n, Present s n → (s'.node n).link = (s.node n).link

/-- The fleet requests stay too, and so do the references that they hold. -/
structure Settles (s s' : Controller) : Prop extends Retains s s' where
  fleet : s'.fleet = s.fleet
  shares : ∀ n q, (s'.refs (.node n)).owners.count (.fleet q) =
    (s.refs (.node n)).owners.count (.fleet q)

namespace Retains

lemma refl (s : Controller) : Retains s s :=
  ⟨rfl, rfl, rfl, rfl, rfl, le_refl _, fun _ => rfl, fun _ => Or.inl rfl, fun _ _ => rfl⟩

/-- Functions that touch neither the nodes nor their lists. -/
lemma of_rest (h : s' = { s with
    jobs := s'.jobs, monitors := s'.monitors, allSubscriptions := s'.allSubscriptions,
    metricsEnabled := s'.metricsEnabled, monitor := s'.monitor, proxyMonitor := s'.proxyMonitor,
    request := s'.request, fleet := s'.fleet, refs := s'.refs, exportedJobs := s'.exportedJobs,
    pendingRequests := s'.pendingRequests, startedRequests := s'.startedRequests,
    callbacks := s'.callbacks, freedFleets := s'.freedFleets, proxyCalls := s'.proxyCalls, nextPtr := s'.nextPtr,
    nextJobId := s'.nextJobId, nextSubscriptionId := s'.nextSubscriptionId,
    nextMonitorId := s'.nextMonitorId, nextPeerId := s'.nextPeerId, log := s'.log, mem := s'.mem })
    (hptr : s.nextPtr ≤ s'.nextPtr) : Retains s s' := by
  have hnode : s'.node = s.node := by rw [h]
  refine ⟨by rw [h], by rw [h], by rw [h], by rw [h], by rw [h], hptr, fun n => ?_, fun n => ?_,
    fun n _ => ?_⟩
  · rw [hnode]
  · rw [hnode]
    exact Or.inl rfl
  · rw [hnode]

lemma modifyNode (s : Controller) (n : NodeId) {f : Node → Node}
    (hname : (f (s.node n)).name = (s.node n).name)
    (hlink : (f (s.node n)).link = (s.node n).link) : Retains s (s.modifyNode n f) := by
  have hall : ∀ k, ((s.modifyNode n f).node k).name = (s.node k).name ∧
      ((s.modifyNode n f).node k).link = (s.node k).link := by
    intro k
    by_cases hk : k = n
    · rw [hk, modifyNode_node, Function.update_self]
      exact ⟨hname, hlink⟩
    · rw [modifyNode_node, Function.update_of_ne hk]
      exact ⟨rfl, rfl⟩
  exact ⟨rfl, rfl, rfl, rfl, rfl, le_refl _, fun k => (hall k).1, fun k => Or.inl (hall k).2,
    fun k _ => (hall k).2⟩

lemma present_iff (h : Retains s s') (n : NodeId) : Present s' n ↔ Present s n := by
  unfold Present
  rw [h.nodes, h.anonymousNodes]

lemma trans (h : Retains s s') (h' : Retains s' s'') : Retains s s'' where
  nodes := h'.nodes.trans h.nodes
  anonymousNodes := h'.anonymousNodes.trans h.anonymousNodes
  numberOfNodes := h'.numberOfNodes.trans h.numberOfNodes
  numberOfNodesOnline := h'.numberOfNodesOnline.trans h.numberOfNodesOnline
  signalMatches := h'.signalMatches.trans h.signalMatches
  nextPtr := h.nextPtr.trans h'.nextPtr
  name n := (h'.name n).trans (h.name n)
  link n := by
    rcases h'.link n with hlink | hlink
    · rw [hlink]
      exact h.link n
    · exact Or.inr hlink
  present n hn := (h'.present n ((h.present_iff n).mpr hn)).trans (h.present n hn)

/-- The later step first. -/
lemma after (h' : Retains s' s'') (h : Retains s s') : Retains s s'' := h.trans h'

lemma foldl {α : Type} {f : Controller → α → Controller} (hf : ∀ s x, Retains s (f s x))
    (xs : List α) (s : Controller) : Retains s (xs.foldl f s) := by
  induction xs generalizing s with
  | nil => exact refl s
  | cons x xs ih => exact (hf s x).trans (ih _)

/-- Functions that touch no node of the lists and no connection. -/
lemma of_core (f : RestFrame s s') : Retains s s' where
  nodes := f.nodes
  anonymousNodes := f.anonymousNodes
  numberOfNodes := f.numberOfNodes
  numberOfNodesOnline := f.numberOfNodesOnline
  signalMatches := f.signalMatches
  nextPtr := f.nextPtr
  name n := (f.node n).name
  link n := Or.inl (by rw [(f.node n).rest]; rfl)
  present n _ := by rw [(f.node n).rest]; rfl

/-- Functions on proxies, as far as they free no listed node. -/
lemma of_proxy (f : ProxyFrame s s')
    (hpresent : ∀ n, Present s n → (s'.node n).link = (s.node n).link) : Retains s s' where
  nodes := by rw [f.rest]
  anonymousNodes := by rw [f.rest]
  numberOfNodes := by rw [f.rest]
  numberOfNodesOnline := by rw [f.rest]
  signalMatches := by rw [f.rest]
  nextPtr := by rw [f.rest]
  name n := (f.node n).name_eq
  link n := (f.node n).link
  present := hpresent

lemma of_subscription {told : ProxyMonitorId → Prop} (f : SubscriptionFrame told s s') :
    Retains s s' := by
  apply of_proxy (.of_subscription f)
  intro n _
  rw [f.node n]
  rfl

end Retains

namespace Settles

lemma refl (s : Controller) : Settles s s := ⟨.refl s, rfl, fun _ _ => rfl⟩

lemma trans (h : Settles s s') (h' : Settles s' s'') : Settles s s'' :=
  ⟨h.toRetains.trans h'.toRetains, h'.fleet.trans h.fleet,
    fun n q => (h'.shares n q).trans (h.shares n q)⟩

lemma of_core (f : CoreFrame s s') : Settles s s' :=
  ⟨.of_core f.toRestFrame, f.fleet, fun n q => by rw [f.refs _ rfl]⟩

end Settles

/-- What is held stays held, and the connections of the listed nodes stay. -/
def Settled (s s' : Controller) : Prop := Held s → Held s' ∧ Settles s s'

namespace Settled

lemma refl (s : Controller) : Settled s s := fun h => ⟨h, .refl s⟩

lemma trans (h : Settled s s') (h' : Settled s' s'') : Settled s s'' := by
  intro hheld
  have ⟨hheld', hsettles⟩ := h hheld
  have ⟨hheld'', hsettles'⟩ := h' hheld'
  exact ⟨hheld'', hsettles.trans hsettles'⟩

lemma foldl {α : Type} {f : Controller → α → Controller} (hf : ∀ s x, Settled s (f s x))
    (xs : List α) (s : Controller) : Settled s (xs.foldl f s) := by
  induction xs generalizing s with
  | nil => exact refl s
  | cons x xs ih => exact (hf s x).trans (ih _)

lemma of_core (f : CoreFrame s s') : Settled s s' := fun h => ⟨f.held h, .of_core f⟩

/-- The functions on subscriptions that tell no proxy monitor. -/
lemma of_subscription (f : SubscriptionFrame (fun _ => False) s s') : Settled s s' := by
  intro h
  refine ⟨f.held h fun _ hfalse => hfalse.elim, .of_subscription f, by rw [f.rest], fun n q => ?_⟩
  rw [f.refs (.node n) rfl]

/-- The functions on proxies that drop no reference. -/
lemma of_proxy (f : ProxyFrame s s') (hrefs : s'.refs = s.refs)
    (htarget : ∀ p, (s'.proxyMonitor p).targetNode = (s.proxyMonitor p).targetNode)
    (hpresent : ∀ n, Held s → Present s n → (s'.node n).link = (s.node n).link) :
    Settled s s' := by
  intro h
  refine ⟨h.of_needed (fun n => by rw [hrefs]) (fun n o hneed => ?_) (by rw [f.rest])
    (by rw [f.rest]), .of_proxy f fun n => hpresent n h, by rw [f.rest], fun n q => by rw [hrefs]⟩
  cases o with
  | creator => rwa [Needed, f.rest] at hneed
  | request r =>
    rw [Needed, hrefs, f.rest] at hneed
    exact hneed
  | proxyMonitor p =>
    rw [Needed, hrefs, htarget] at hneed
    exact hneed
  | _ => exact hneed

end Settled

/-! ## Dropping references of nodes -/

/-- An owner that does not need the node drops its reference. -/
lemma settles_dropRef_node {n : NodeId} {o : Owner} (ho : ∀ q, o ≠ .fleet q) :
    Settles s (s.dropRef (.node n) o) := by
  refine ⟨.of_core ⟨rfl, rfl, rfl, rfl, rfl, rfl, rfl, rfl, fun _ => .refl _, fun _ => .refl _,
    fun p => by simp, le_refl _, fun _ => Or.inr⟩, rfl, fun k q => ?_⟩
  by_cases hk : k = n
  · rw [hk, dropRef_refs, Function.update_self, RefCount.owners_unref,
      List.count_erase_of_ne (ho q).symm]
  · simp [hk]

lemma settled_dropRef_proxyMonitor (s : Controller) (p : ProxyMonitorId) (o : Owner) :
    Settled s (s.dropRef (.proxyMonitor p) o) := by
  intro h
  refine ⟨h.dropRef_proxyMonitor p o, .of_proxy (proxyFrame_dropRef s o rfl) fun _ _ => rfl, rfl,
    fun n q => ?_⟩
  simp

/-- The link of a node does not depend on its lists. -/
lemma link_update (s : Controller) {n : NodeId} {node : Node} (hlink : node.link = (s.node n).link)
    (k : NodeId) : (Function.update s.node n node k).link = (s.node k).link := by
  by_cases hk : k = n
  · rw [hk, Function.update_self, hlink]
  · rw [Function.update_of_ne hk]

lemma settled_nodeRemoveProxyDependency (s : Controller) (n : NodeId) (unit : String) :
    Settled s (s.nodeRemoveProxyDependency n unit) := by
  have heq := nodeRemoveProxyDependency_eq s n unit
  apply Settled.of_proxy (proxyFrame_nodeRemoveProxyDependency s n unit)
  · rw [heq]
  · intro p
    rw [heq]
  · intro k _ _
    rw [heq]
    apply link_update
    rfl

lemma settled_modifyProxyMonitor (s : Controller) (p : ProxyMonitorId)
    {f : ProxyMonitor → ProxyMonitor} (hf : SameButDep (s.proxyMonitor p) (f (s.proxyMonitor p)))
    (htarget : (f (s.proxyMonitor p)).targetNode = (s.proxyMonitor p).targetNode) :
    Settled s (s.modifyProxyMonitor p f) := by
  apply Settled.of_proxy (proxyFrame_modifyProxyMonitor s p hf) rfl
  · intro q
    by_cases hq : q = p
    · rw [hq]
      simpa [modifyProxyMonitor] using htarget
    · simp [modifyProxyMonitor, hq]
  · exact fun _ _ _ => rfl

lemma settled_proxyMonitorDropDep (s : Controller) (p : ProxyMonitorId) :
    Settled s (s.proxyMonitorDropDep p) := by
  unfold proxyMonitorDropDep
  split
  · refine Settled.trans ?_ (settled_modifyProxyMonitor _ p rfl rfl)
    split
    · exact settled_nodeRemoveProxyDependency s _ _
    · exact .refl s
  · exact .refl s

/-- `proxy_monitor_drop_dep` changes nothing of the references. -/
lemma proxyMonitorDropDep_refs (s : Controller) (p : ProxyMonitorId) :
    (s.proxyMonitorDropDep p).refs = s.refs ∧ ∀ q,
      ((s.proxyMonitorDropDep p).proxyMonitor q).targetNode = (s.proxyMonitor q).targetNode := by
  have hmodify : ∀ u : Controller, u.refs = s.refs ∧ u.proxyMonitor = s.proxyMonitor →
      (u.modifyProxyMonitor p fun monitor => { monitor with addedDep := false }).refs = s.refs ∧
        ∀ q, ((u.modifyProxyMonitor p fun monitor =>
          { monitor with addedDep := false }).proxyMonitor q).targetNode =
            (s.proxyMonitor q).targetNode := by
    intro u hu
    refine ⟨hu.1, fun q => ?_⟩
    rw [← hu.2]
    by_cases hq : q = p
    · rw [hq]
      simp [modifyProxyMonitor]
    · simp [modifyProxyMonitor, hq]
  unfold proxyMonitorDropDep
  split
  · apply hmodify
    split
    · rw [nodeRemoveProxyDependency_eq]
      exact ⟨rfl, rfl⟩
    · exact ⟨rfl, rfl⟩
  · exact ⟨rfl, fun _ => rfl⟩

lemma settled_unlistProxyMonitor (s : Controller) (n : NodeId) (p : ProxyMonitorId) :
    Settled s (s.unlistProxyMonitor n p) := by
  apply Settled.of_proxy (proxyFrame_unlistProxyMonitor s n p) rfl (fun _ => rfl)
  intro k _ _
  apply link_update
  rfl

section

variable {unrefNode : Controller → NodeId → Owner → Controller}
  (hunref : ∀ s n o, Settled (s.dropRef (.node n) o) (unrefNode s n o))

include hunref

/-- A proxy monitor that is freed holds its target up to then. -/
lemma settled_proxyMonitorUnref (s : Controller) (p : ProxyMonitorId) (o : Owner) :
    Settled s (proxyMonitorUnref unrefNode s p o) := by
  have hdrop := settled_dropRef_proxyMonitor s p o
  unfold proxyMonitorUnref
  simp only
  split
  · rename_i hfreed
    have hzero := isFreed_iff.mp hfreed
    refine Settled.trans ?_ (.of_core (coreFrame_subscriptionUnref _ _ _))
    split
    · rename_i t htarget
      intro h
      have hpos : 0 < (s.refs (.proxyMonitor p)).count := by
        simp only [dropRef_refs, Function.update_self, RefCount.count_unref] at hzero
        omega
      have hmem := h.owners t (.proxyMonitor p) ⟨hpos, htarget⟩
      have ⟨hheld, hsettles⟩ := hdrop.trans (settled_proxyMonitorDropDep _ p) h
      have ⟨hrefs, htargets⟩ := proxyMonitorDropDep_refs (s.dropRef (.proxyMonitor p) o) p
      generalize (s.dropRef (.proxyMonitor p) o).proxyMonitorDropDep p = u at hheld hsettles hrefs
      have hheld' : Held (u.dropRef (.node t) (.proxyMonitor p)) := by
        apply hheld.dropRef_node
        · rw [hrefs]
          simpa using hmem
        · intro hneed
          have hcount := hneed.1
          rw [hrefs] at hcount
          omega
        · simp
      have ⟨hlast, hsettles'⟩ := hunref u t (.proxyMonitor p) hheld'
      exact ⟨hlast, hsettles.trans ((settles_dropRef_node (by simp)).trans hsettles')⟩
    · exact hdrop
  · exact hdrop

lemma settled_nodeRemoveProxyMonitor (s : Controller) (n : NodeId) (p : ProxyMonitorId) :
    Settled s (nodeRemoveProxyMonitor unrefNode s n p) := by
  have hclose := settled_proxyMonitorDropDep s p
  have hremove := Settled.of_subscription (subscriptionFrame_removeSubscription (fun _ => False)
    (s.proxyMonitorDropDep p) ((s.proxyMonitorDropDep p).proxyMonitor p).subscription)
  exact ((hclose.trans hremove).trans (settled_unlistProxyMonitor _ n p)).trans
    (settled_proxyMonitorUnref hunref _ p _)

/-- A node outside the lists is freed. -/
lemma settled_nodeFinalize (s : Controller) {n : NodeId} (hn : ¬Present s n) :
    Settled s (nodeFinalize unrefNode s n) := by
  intro h
  have ⟨hheld, hsettles⟩ := Settled.foldl
    (fun s p => settled_nodeRemoveProxyMonitor hunref s n p) (s.node n).proxyMonitors s h
  unfold nodeFinalize
  generalize (s.node n).proxyMonitors.foldl (fun s p => nodeRemoveProxyMonitor unrefNode s n p) s = u
    at hheld hsettles
  have hout : ∀ k, Present u k → k ≠ n := by
    intro k hk heq
    exact hn ((hsettles.present_iff n).mp (heq ▸ hk))
  have hlast : Settled u (((u.modifyNode n fun node =>
      { node with proxyDependencies := [], allowedProxyTargets := [] }).nodeUnsetAgentBus n).modifyNode
        n fun node => { node with unitSubscriptions := [] }) := by
    have hframe : ProxyFrame u (((u.modifyNode n fun node =>
        { node with proxyDependencies := [], allowedProxyTargets := [] }).nodeUnsetAgentBus
          n).modifyNode n fun node => { node with unitSubscriptions := [] }) :=
      ((proxyFrame_modifyNode _ n ⟨rfl, Or.inl rfl⟩).trans (proxyFrame_nodeUnsetAgentBus _ n)).trans
        (proxyFrame_modifyNode _ n ⟨rfl, Or.inl rfl⟩)
    apply Settled.of_proxy hframe
    · rw [nodeUnsetAgentBus_eq]
      rfl
    · intro p
      rw [nodeUnsetAgentBus_eq]
      rfl
    · intro k _ hk
      rw [modifyNode_node, Function.update_of_ne (hout k hk), nodeUnsetAgentBus_node,
        Function.update_of_ne (hout k hk), modifyNode_node, Function.update_of_ne (hout k hk)]
  have ⟨hheld', hsettles'⟩ := hlast hheld
  exact ⟨hheld', hsettles.trans hsettles'⟩

end

/-- A node without references is in no list. -/
lemma not_present_of_freed (h : Held s) {n : NodeId} (hfreed : s.isFreed (.node n) = true) :
    ¬Present s n := by
  intro hn
  have hpos := (h.wf n).count_pos (h.owners n .creator hn)
  have hzero := isFreed_iff.mp hfreed
  omega

/-- `node_unref` once the reference is dropped. -/
lemma settled_nodeUnrefFuel (fuel : ℕ) (s : Controller) (n : NodeId) (o : Owner) :
    Settled (s.dropRef (.node n) o) (nodeUnrefFuel fuel s n o) := by
  induction fuel generalizing s n o with
  | zero => exact .refl _
  | succ fuel ih =>
    rw [nodeUnrefFuel]
    split
    · rename_i hfreed
      intro h
      exact settled_nodeFinalize ih _ (not_present_of_freed h hfreed) h
    · exact .refl _

lemma settled_nodeUnref (s : Controller) (n : NodeId) (o : Owner) :
    Settled (s.dropRef (.node n) o) (s.nodeUnref n o) :=
  settled_nodeUnrefFuel _ s n o

/-- A request that is freed holds its node up to then. -/
lemma settled_agentRequestUnref (s : Controller) (r : RequestId) (o : Owner) :
    Settled s (s.agentRequestUnref r o) := by
  intro h
  have hdrop := h.dropRef_request r o
  have hsettles : Settles s (s.dropRef (.request r) o) := by
    refine ⟨.of_core ⟨rfl, rfl, rfl, rfl, rfl, rfl, rfl, rfl, fun _ => .refl _, fun _ => .refl _,
      fun p => by simp, le_refl _, fun _ => Or.inr⟩, rfl, fun n q => ?_⟩
    simp
  unfold agentRequestUnref
  simp only
  split
  · rename_i hfreed
    have hzero := isFreed_iff.mp hfreed
    have hpos : 0 < (s.refs (.request r)).count := by
      simp only [dropRef_refs, Function.update_self, RefCount.count_unref] at hzero
      omega
    have hcore := (coreFrame_freeUserdata (s.dropRef (.request r) o) (s.request r).handler).trans
      (coreFrame_unlistRequest _ r)
    have hmem := h.owners (s.request r).node (.request r) ⟨hpos, rfl⟩
    have hheld : Held ((((s.dropRef (.request r) o).freeUserdata
        (s.request r).handler).unlistRequest r).dropRef (.node (s.request r).node) (.request r)) := by
      apply (hcore.held hdrop).dropRef_node
      · rw [hcore.refs _ rfl]
        simpa using hmem
      · intro hneed
        have hcount := ((hcore.needed_iff _ _).mp hneed).1
        omega
      · simp
    have ⟨hlast, hsettles'⟩ := settled_nodeUnref _ _ _ hheld
    exact ⟨hlast, (hsettles.trans (.of_core hcore)).trans
      ((settles_dropRef_node (by simp)).trans hsettles')⟩
  · exact ⟨hdrop, hsettles⟩

/-! ## Fleet requests -/

/-- What is held stays held, and the connections of the listed nodes stay. The fleet requests may
change. -/
def Safe (s s' : Controller) : Prop := Held s → Held s' ∧ Retains s s'

lemma Settled.safe (h : Settled s s') : Safe s s' := by
  intro hheld
  have ⟨hheld', hsettles⟩ := h hheld
  exact ⟨hheld', hsettles.toRetains⟩

namespace Safe

lemma refl (s : Controller) : Safe s s := fun h => ⟨h, .refl s⟩

lemma trans (h : Safe s s') (h' : Safe s' s'') : Safe s s'' := by
  intro hheld
  have ⟨hheld', hretains⟩ := h hheld
  have ⟨hheld'', hretains'⟩ := h' hheld'
  exact ⟨hheld'', hretains.trans hretains'⟩

lemma foldl {α : Type} {f : Controller → α → Controller} (hf : ∀ s x, Safe s (f s x))
    (xs : List α) (s : Controller) : Safe s (xs.foldl f s) := by
  induction xs generalizing s with
  | nil => exact refl s
  | cons x xs ih => exact (hf s x).trans (ih _)

lemma of_core (f : CoreFrame s s') : Safe s s' := (Settled.of_core f).safe

end Safe

lemma retains_dropRef_node (s : Controller) (n : NodeId) (o : Owner) :
    Retains s (s.dropRef (.node n) o) :=
  .of_core ⟨rfl, rfl, rfl, rfl, rfl, rfl, rfl, rfl, fun _ => .refl _, fun _ => .refl _,
    fun p => by simp, le_refl _, fun _ => Or.inr⟩

/-- One round of the loop of `agent_fleet_request_free`. -/
lemma freeSubRequest_retains (h : Held s) {q : FleetId} {n : NodeId} (r : RequestId)
    (hdone : (s.fleet q).subReq.length ≤ (s.fleet q).nDone)
    (hmem : Owner.fleet q ∈ (s.refs (.node n)).owners) :
    let s' := (s.nodeUnref n (.fleet q)).agentRequestUnref r .creator
    Held s' ∧ Retains s s' ∧ s'.fleet = s.fleet ∧ ∀ k,
      (s'.refs (.node k)).owners.count (.fleet q) =
        (s.refs (.node k)).owners.count (.fleet q) - if k = n then 1 else 0 := by
  intro s'
  have hdrop : Held (s.dropRef (.node n) (.fleet q)) := by
    apply h.dropRef_node hmem
    · exact fun hneed => hneed
    · intro q' heq
      rw [Owner.fleet.injEq] at heq
      exact heq ▸ hdone
  have ⟨hheld, hsettles⟩ :=
    (settled_nodeUnref s n (.fleet q)).trans (settled_agentRequestUnref _ r .creator) hdrop
  refine ⟨hheld, (retains_dropRef_node s n _).trans hsettles.toRetains, hsettles.fleet, fun k => ?_⟩
  rw [hsettles.shares]
  by_cases hk : k = n
  · rw [hk, dropRef_refs, Function.update_self, RefCount.owners_unref, List.count_erase_self,
      if_pos rfl]
  · simp [hk]

/-- `agent_fleet_request_free` of a request that is done. -/
lemma agentFleetRequestFree_retains (h : Held s) {q : FleetId}
    (hdone : (s.fleet q).subReq.length ≤ (s.fleet q).nDone)
    (hcount : ∀ n, (s.fleet q).subReq.countP (fun sub => sub.node = n) ≤
      (s.refs (.node n)).owners.count (.fleet q)) :
    Held (s.agentFleetRequestFree q) ∧ Retains s (s.agentFleetRequestFree q) := by
  -- the references that are left are enough for the slots that are left
  have hloop : ∀ (subs : List SubRequest) (s : Controller), Held s →
      (s.fleet q).subReq.length ≤ (s.fleet q).nDone →
      (∀ n, subs.countP (fun sub => sub.node = n) ≤ (s.refs (.node n)).owners.count (.fleet q)) →
      Held (subs.foldl (fun s sub =>
        (s.nodeUnref sub.node (.fleet q)).agentRequestUnref sub.agentReq .creator) s) ∧
      Retains s (subs.foldl (fun s sub =>
        (s.nodeUnref sub.node (.fleet q)).agentRequestUnref sub.agentReq .creator) s) := by
    intro subs
    induction subs with
    | nil => exact fun s h _ _ => ⟨h, .refl s⟩
    | cons sub subs ih =>
      intro s h hdone hcount
      have hhead : Owner.fleet q ∈ (s.refs (.node sub.node)).owners := by
        have hle := hcount sub.node
        rw [List.countP_cons_of_pos (by simp)] at hle
        apply List.count_pos_iff.mp
        omega
      have ⟨hheld, hretains, hfleet, hshares⟩ := freeSubRequest_retains h sub.agentReq hdone hhead
      have ⟨hheld', hretains'⟩ := ih _ hheld (by rw [hfleet]; exact hdone) fun n => by
        have hle := hcount n
        rw [hshares]
        by_cases hn : n = sub.node
        · rw [List.countP_cons_of_pos (by simp [hn])] at hle
          rw [if_pos hn]
          omega
        · rw [List.countP_cons_of_neg (by simpa using fun heq => hn heq.symm)] at hle
          rw [if_neg hn]
          omega
      exact ⟨hheld', hretains.trans hretains'⟩
  have hrecord : CoreFrame s (s.freeFleet q) := .of_eq rfl
  have ⟨hheld, hretains⟩ := hloop _ (s.freeFleet q) (hrecord.held h) hdone hcount
  exact ⟨hheld, (Retains.of_core hrecord.toRestFrame).trans hretains⟩

/-- `agent_fleet_request_callback`. -/
lemma safe_agentFleetRequestCallback (s : Controller) (q : FleetId) (r : RequestId)
    (m : AgentAnswer) : Safe s (s.agentFleetRequestCallback q r m) := by
  intro h
  have hlen := length_answer (s.fleet q) r m
  have hnodes := countP_answer (s.fleet q) r m
  have hdone : (AgentFleetRequest.answer (s.fleet q) r m).nDone = (s.fleet q).nDone + 1 := rfl
  have hmodify : Held (s.modifyFleet q fun fleet => AgentFleetRequest.answer fleet r m) := by
    refine ⟨h.wf, fun n o hneed => h.owners n o (hneed.mono rfl rfl rfl rfl (fun _ hr => hr)
      fun _ hp => hp), fun q' hq' n => ?_, fun q' => ?_, h.fresh⟩
    · by_cases hq : q' = q
      · subst hq
        simp only [modifyFleet_fleet, Function.update_self] at hq' ⊢
        rw [hnodes]
        apply h.fleet
        omega
      · simp only [modifyFleet_fleet, Function.update_of_ne hq] at hq' ⊢
        exact h.fleet q' hq' n
    · by_cases hq : q' = q
      · subst hq
        simp only [modifyFleet_fleet, Function.update_self]
        rw [hlen]
        exact h.slots q'
      · simpa [hq] using h.slots q'
  have hretains : Retains s (s.modifyFleet q fun fleet => AgentFleetRequest.answer fleet r m) :=
    .of_core ⟨rfl, rfl, rfl, rfl, rfl, rfl, rfl, rfl, fun _ => .refl _, fun _ => .refl _,
      fun _ => rfl, le_refl _, fun _ => Or.inr⟩
  unfold agentFleetRequestCallback agentFleetRequestMaybeDone
  split
  · rename_i heq
    -- up to this answer the request was not done, so it still holds its nodes
    have hemit : ∀ o, Held (((s.modifyFleet q fun fleet => AgentFleetRequest.answer fleet r m).emit
        o).agentFleetRequestFree q) ∧ Retains s (((s.modifyFleet q fun fleet =>
          AgentFleetRequest.answer fleet r m).emit o).agentFleetRequestFree q) := by
      intro o
      have hcore := coreFrame_emit
        (s.modifyFleet q fun fleet => AgentFleetRequest.answer fleet r m) o
      have ⟨hheld, hfree⟩ := agentFleetRequestFree_retains (q := q) (hcore.held hmodify)
        (by simpa using heq.ge) fun n => by
          simp only [modifyFleet_fleet, Function.update_self] at heq
          simp only [emit_fleet, emit_refs, modifyFleet_fleet, Function.update_self,
            modifyFleet_refs]
          rw [hnodes]
          apply h.fleet
          omega
      exact ⟨hheld, (hretains.trans (.of_core hcore.toRestFrame)).trans hfree⟩
    unfold agentFleetRequestDone
    simp only
    split
    · exact hemit _
    · exact hemit _
  · exact ⟨hmodify, hretains⟩

/-! ## Answers of the agents -/

lemma safe_requestCallback (s : Controller) (r : RequestId) (m : AgentAnswer) :
    Safe s (s.requestCallback r m) := by
  unfold requestCallback
  split
  · exact .of_core (coreFrame_emit s _)
  · rename_i serial job rows hhandler
    have hnew : HasJob s job.node := Or.inr ⟨r, serial, job, hhandler, rfl⟩
    have hadd := coreFrame_addJob s hnew
    split
    · rename_i t hjob
      rw [hjob] at hadd
      exact .of_core hadd
    · rename_i t hjob
      rw [hjob] at hadd
      exact .of_core (hadd.trans (coreFrame_emit t _))
  · exact .of_core (coreFrame_emit s _)
  · exact .of_core (coreFrame_emit s _)
  · exact .refl s
  · exact safe_agentFleetRequestCallback s _ r _

lemma safe_runCallback (s : Controller) (r : RequestId) : Safe s (s.runCallback r) :=
  .of_core (.of_eq rfl)

lemma safe_agentRequestCallback {r : RequestId} {m : AgentAnswer}
    (hstep : s.agentRequestCallback r m = some s') : Safe s s' := by
  unfold agentRequestCallback at hstep
  split at hstep
  · have hresult := Option.some.inj hstep
    rw [← hresult]
    have herase : Safe s { s with pendingRequests := s.pendingRequests.erase r } :=
      .of_core (.of_eq rfl)
    refine Safe.trans ?_ (settled_agentRequestUnref _ r .pending).safe
    split
    · exact herase
    · exact (herase.trans (safe_runCallback _ r)).trans (safe_requestCallback _ r m)
  · simp at hstep

lemma safe_agentRequestCancel (s : Controller) (r : RequestId) :
    Safe s (s.agentRequestCancel r) :=
  (((Safe.of_core (coreFrame_cancel s r)).trans (safe_runCallback _ r)).trans
    (safe_requestCallback _ r _)).trans (settled_agentRequestUnref _ r .pending).safe

/-- `node_shutdown`, whatever the requests are. -/
lemma safe_nodeShutdown (s : Controller) (n : NodeId) : Safe s (s.nodeShutdown n) := by
  have hflag : CoreFrame s (s.modifyNode n fun node => { node with isShutdown := true }) :=
    coreFrame_modifyNode s n ⟨rfl, fun _ => rfl, id⟩
  exact (Safe.of_core hflag).trans (.foldl safe_agentRequestCancel _ _)

/-! ## Starting requests -/

lemma retains_nodeCreateRequest (s : Controller) (n : NodeId) (handler : RequestHandler) :
    Retains s (s.nodeCreateRequest n handler) := by
  have hnode : Retains s (s.modifyNode n fun node =>
      { node with outstandingRequests := node.outstandingRequests ++ [s.nextPtr] }) :=
    .modifyNode s n rfl rfl
  exact hnode.trans (.of_rest rfl (Nat.le_succ _))

lemma retains_agentRequestStart (s : Controller) (r : RequestId) (call : AgentCall) :
    Retains s (s.agentRequestStart r call) :=
  (Retains.of_core (coreFrame_sendAgent s _ call).toRestFrame).trans (.of_rest rfl (le_refl _))

lemma retains_runRequest (h : Consistent gap s) {n : ℕ} (hn : n ∈ s.nodes) (serial : Serial)
    {handler : RequestHandler} (hhandler : Consistent.Lists s handler)
    (call : RequestId → AgentCall) (started : Bool) (failure : String) :
    Retains s (s.runRequest n serial handler call started failure) := by
  have hnew := h.nodeCreateRequest hn hhandler
  have hcreate := retains_nodeCreateRequest s n handler
  have hcount : 0 < ((s.nodeCreateRequest n handler).refs (.request s.nextPtr)).count := by simp
  unfold runRequest
  simp only
  split
  · have hstart := hnew.agentRequestStart (call s.nextPtr) hcount
    have ⟨_, hunref⟩ := settled_agentRequestUnref _ s.nextPtr .creator hstart.held
    exact (hcreate.trans (retains_agentRequestStart _ _ _)).trans hunref.toRetains
  · have hemit := coreFrame_emit (s.nodeCreateRequest n handler) (.replyError serial failure)
    have ⟨_, hunref⟩ := settled_agentRequestUnref _ s.nextPtr .creator (hemit.held hnew.held)
    exact (hcreate.trans (.of_core hemit.toRestFrame)).trans hunref.toRetains

/-- The loop of `agent_fleet_request_start`. -/
lemma retains_startSubRequest {q : FleetId} {left : ℕ}
    (h : Consistent.OpenFleet gap q (left + 1) s) {n : NodeId} (hn : n ∈ s.nodes) (method : String)
    (starts : NodeId → Bool) : Retains s (startSubRequest q method starts s n) := by
  have hcreate := retains_nodeCreateRequest s n (.fleet q)
  unfold startSubRequest
  simp only
  split
  · split
    · have hstart := hcreate.trans
        (retains_agentRequestStart _ s.nextPtr (.request s.nextPtr method))
      exact hstart.trans (.of_rest rfl (le_refl _))
    · have hheld := (h.consistent.nodeCreateRequest hn
        (fun _ _ heq => by simp at heq : Consistent.Lists s (.fleet q))).held
      exact hcreate.trans (settled_agentRequestUnref _ s.nextPtr .creator hheld).2.toRetains
  · exact .refl s

lemma retains_startSubRequests {q : FleetId} (method : String) (starts : NodeId → Bool)
    (ns : List NodeId) : ∀ {s : Controller}, Consistent.OpenFleet gap q ns.length s →
      (∀ n ∈ ns, n ∈ s.nodes) → Retains s (ns.foldl (startSubRequest q method starts) s) := by
  induction ns with
  | nil => exact fun _ _ => .refl _
  | cons n ns ih =>
    intro s h hns
    have hn := hns n List.mem_cons_self
    have ⟨hround, hnodes⟩ := h.round hn method starts
    have hrest := ih hround fun k hk => by
      rw [hnodes]
      exact hns k (List.mem_cons_of_mem _ hk)
    exact (retains_startSubRequest h hn method starts).trans hrest

lemma retains_agentFleetRequestStart (h : Consistent gap s) (serial : Serial) (method : String)
    (starts : NodeId → Bool) : Retains s (s.agentFleetRequestStart serial method starts) := by
  have hnew : Retains s
      (s.modifyFleet s.nextPtr fun _ => ⟨serial, 0, s.numberOfNodes, []⟩).busAlloc :=
    .of_rest rfl (Nat.le_succ _)
  have hopen := Consistent.OpenFleet.new h serial
  have hloop := retains_startSubRequests method starts s.nodes hopen fun n hn => hn
  have hdone := (hopen.loop method starts s.nodes fun n hn => hn).done
  refine (hnew.trans hloop).trans ?_
  show Retains _ ((s.nodes.foldl (startSubRequest s.nextPtr method starts)
    (s.modifyFleet s.nextPtr fun _ => ⟨serial, 0, s.numberOfNodes, []⟩).busAlloc
      ).agentFleetRequestMaybeDone s.nextPtr)
  generalize s.nodes.foldl (startSubRequest s.nextPtr method starts)
    (s.modifyFleet s.nextPtr fun _ => ⟨serial, 0, s.numberOfNodes, []⟩).busAlloc = u at hdone
  unfold agentFleetRequestMaybeDone
  split
  · -- nothing was started, so there is no slot
    rename_i heq
    have hnil := List.length_eq_zero_iff.mp (heq.symm.trans hdone)
    unfold agentFleetRequestDone agentFleetRequestFree
    simp only [hnil, encodeReply, emit_fleet, List.foldl_nil]
    exact .of_core ((coreFrame_emit u _).trans (.of_eq rfl)).toRestFrame
  · exact .refl u

/-! ## Proxies -/

lemma retains_proxyMonitorNew (s : Controller) (n : NodeId) (name unit path : String) :
    Retains s (s.proxyMonitorNew n name unit path) :=
  .of_rest rfl (Nat.le_add_right _ 2)

lemma retains_onProxyMonitor (h : Held s) (n : NodeId) (p : ProxyMonitorId) (name unit : String) :
    Retains s (s.onProxyMonitor n p name unit) := by
  have herror : ∀ message, Retains s (s.proxyMonitorSendError p message) := fun message =>
    .of_subscription (.of_notify (notifyFrame_proxyMonitorCall s p rfl))
  have hadd : ∀ (u : Controller) (t : NodeId), Retains u
      (((u.proxyMonitorSetTargetNode p t).addSubscription
        ((u.proxyMonitorSetTargetNode p t).proxyMonitor p).subscription).appendProxyMonitor n p) := by
    intro u t
    have htarget : Retains u (u.proxyMonitorSetTargetNode p t) := by
      apply Retains.of_proxy (proxyFrame_proxyMonitorSetTargetNode u p t)
      intro k _
      rw [proxyMonitorSetTargetNode_eq]
      apply link_update
      rfl
    have hsubscribe := Retains.of_subscription (subscriptionFrame_addSubscription
      (u.proxyMonitorSetTargetNode p t) ((u.proxyMonitorSetTargetNode p t).proxyMonitor p).subscription)
    refine (htarget.trans hsubscribe).trans ?_
    apply Retains.of_proxy (proxyFrame_appendProxyMonitor _ n p)
    intro k _
    apply link_update
    rfl
  unfold onProxyMonitor
  split
  · exact herror _
  · rename_i t _
    split
    · refine Retains.trans ?_ (hadd _ t)
      -- the proxy monitor that is replaced
      split
      · exact (settled_nodeRemoveProxyMonitor settled_nodeUnref s n _ h).2.toRetains
      · exact .refl s
    · exact herror _

lemma retains_nodeOnMatchProxyNew (h : Consistent gap s) {n : NodeId} (hn : n ∈ s.nodes)
    (name unit path : String) : Retains s (s.nodeOnMatchProxyNew n name unit path) := by
  have ⟨hnew, hfresh⟩ := proxyMonitorNew_spec h n name unit path
  have hlisted : n ∈ (s.proxyMonitorNew n name unit path).nodes := hn
  have ⟨hcons, _⟩ := onProxyMonitor_spec hnew hlisted hfresh
  have hunref := settled_proxyMonitorUnref settled_nodeUnref _ s.nextPtr .creator hcons.held
  exact ((retains_proxyMonitorNew s n name unit path).trans
    (retains_onProxyMonitor hnew.held n _ name unit)).trans hunref.2.toRetains

lemma retains_nodeOnMatchProxyRemoved (h : Held s) (n : NodeId) (name unit : String) :
    Retains s (s.nodeOnMatchProxyRemoved n name unit) := by
  unfold nodeOnMatchProxyRemoved
  split
  · exact .refl s
  · exact (settled_nodeRemoveProxyMonitor settled_nodeUnref s n _ h).2.toRetains

lemma retains_proxyMonitorCallback (h : Held s) {p : ProxyMonitorId}
    (hstep : s.proxyMonitorCallback p = some s') : Retains s s' := by
  unfold proxyMonitorCallback at hstep
  split at hstep
  · have hresult := Option.some.inj hstep
    rw [← hresult]
    have herase : Settled s { s with proxyCalls := s.proxyCalls.erase p } := by
      intro h
      refine ⟨h.of_needed (fun _ => rfl) (fun n o hneed => ?_) rfl (le_refl _),
        .of_rest rfl (le_refl _), rfl, fun _ _ => rfl⟩
      exact hneed.mono rfl rfl rfl rfl (fun _ hr => hr) fun _ hp => hp
    exact (herase.trans (settled_proxyMonitorUnref settled_nodeUnref _ p .call) h).2.toRetains
  · simp at hstep

/-! ## Monitors -/

lemma retains_emit (s : Controller) (o : Output) : Retains s (s.emit o) :=
  .of_rest rfl (le_refl _)

lemma retains_monitorUnref (s : Controller) (m : MonitorId) (o : Owner) :
    Retains s (s.monitorUnref m o) := .of_core (coreFrame_monitorUnref s m o).toRestFrame

lemma retains_appendMonitor (s : Controller) (m : MonitorId) : Retains s (s.appendMonitor m) :=
  .of_rest rfl (le_refl _)

lemma retains_createMonitor (s : Controller) (serial : Serial) (owner : String) (exported : Bool) :
    Retains s (s.createMonitor serial owner exported) := by
  have hnew : Retains s (s.monitorNew owner) := .of_rest rfl (Nat.le_succ _)
  unfold createMonitor
  simp only
  refine (hnew.trans ?_).trans (retains_monitorUnref _ _ _)
  split
  · have hexport : Retains (s.monitorNew owner) ((s.monitorNew owner).modifyMonitor s.nextPtr
        fun monitor => { monitor with exportSlot := true }) := .of_rest rfl (le_refl _)
    exact (retains_appendMonitor _ _).after ((retains_emit _ _).after hexport)
  · exact retains_emit _ _

lemma retains_monitorMethodSubscribe (s : Controller) (m : MonitorId) (serial : Serial)
    (node : String) (units : List String) :
    Retains s (s.monitorMethodSubscribe m serial node units) := by
  unfold monitorMethodSubscribe createMonitorSubscription
  simp only
  refine Retains.trans ?_ (.of_core (coreFrame_subscriptionUnref _ _ _).toRestFrame)
  refine Retains.trans ?_ (retains_emit _ _)
  refine Retains.trans ?_ (.of_subscription (subscriptionFrame_addSubscription _ _))
  exact .of_rest rfl (Nat.le_succ _)

lemma retains_removeMonitorSubscription (s : Controller) (m : MonitorId) (sub : Subscription) :
    Retains s (s.removeMonitorSubscription m sub) := by
  unfold removeMonitorSubscription
  refine Retains.trans ?_ (.of_core (coreFrame_subscriptionUnref _ _ _).toRestFrame)
  have hremove : Retains s (s.removeSubscription sub) :=
    .of_subscription (subscriptionFrame_removeSubscription (fun _ => False) s sub)
  exact hremove.trans (.of_rest rfl (le_refl _))

lemma retains_monitorMethodUnsubscribe (s : Controller) (m : MonitorId) (serial : Serial)
    (subId : UInt32) : Retains s (s.monitorMethodUnsubscribe m serial subId) := by
  unfold monitorMethodUnsubscribe
  split
  · exact retains_emit _ _
  · exact (retains_removeMonitorSubscription s m _).trans (retains_emit _ _)

lemma retains_monitorMethodAddPeer (s : Controller) (m : MonitorId) (serial : Serial)
    (name : String) : Retains s (s.monitorMethodAddPeer m serial name) := by
  unfold monitorMethodAddPeer
  split
  · exact retains_emit _ _
  · split
    · exact retains_emit _ _
    · exact .of_rest rfl (le_refl _)

lemma retains_monitorMethodRemovePeer (s : Controller) (m : MonitorId) (serial : Serial)
    (peerId : UInt32) (reason : String) :
    Retains s (s.monitorMethodRemovePeer m serial peerId reason) := by
  unfold monitorMethodRemovePeer
  split
  · exact retains_emit _ _
  · exact .of_rest rfl (le_refl _)

lemma retains_monitorClose (s : Controller) (m : MonitorId) : Retains s (s.monitorClose m) := by
  have hpeers : ∀ s : Controller, Retains s (s.closePeers m) := by
    intro s
    refine Retains.trans (.foldl (fun s peer => ?_) _ s) (.of_rest rfl (le_refl _))
    exact retains_emit s _
  unfold monitorClose
  refine Retains.trans (.foldl (fun s sub => ?_) _ s) (hpeers _)
  exact retains_removeMonitorSubscription s m sub

lemma retains_removeMonitor (s : Controller) (m : MonitorId) : Retains s (s.removeMonitor m) := by
  have hunlist : Retains s (s.unlistMonitor m) := .of_rest rfl (le_refl _)
  exact hunlist.trans (retains_monitorUnref _ m .list)

lemma retains_monitorMethodClose (s : Controller) (m : MonitorId) (serial : Serial) :
    Retains s (s.monitorMethodClose m serial) := by
  have htake : Retains s (s.takeRef (.monitor m) .handler) := .of_rest rfl (le_refl _)
  unfold monitorMethodClose
  refine (htake.trans ?_).trans (retains_monitorUnref _ m .handler)
  split
  · exact retains_emit _ _
  · exact ((retains_monitorClose _ m).trans (retains_removeMonitor _ m)).trans
      (retains_emit _ _)

lemma retains_nameOwnerChanged (s : Controller) (name newOwner : String) :
    Retains s (s.nameOwnerChanged name newOwner) := by
  unfold nameOwnerChanged
  split
  · apply Retains.foldl
    intro s m
    unfold closeOwned
    split
    · exact (retains_monitorClose s m).trans (retains_removeMonitor _ m)
    · exact .refl s
  · exact .refl s

/-! ## Metrics -/

lemma retains_nodeEnableMetrics (fails : BusCall → Bool) (s : Controller) (n : NodeId) :
    Retains s (nodeEnableMetrics fails s n) := by
  have hsend : Retains s (s.sendAgent n .enableMetrics) :=
    .of_core (coreFrame_sendAgent s n _).toRestFrame
  unfold nodeEnableMetrics
  split
  · simp only
    split
    · exact hsend
    · exact hsend.trans (.modifyNode _ n rfl rfl)
  · exact .refl s

lemma retains_nodeDisableMetrics (s : Controller) (n : NodeId) :
    Retains s (nodeDisableMetrics s n) := by
  unfold nodeDisableMetrics
  split
  · exact (Retains.of_core (coreFrame_sendAgent s n _).toRestFrame).trans (.modifyNode _ n rfl rfl)
  · exact .refl s

lemma retains_methodMetricsEnable (s : Controller) (serial : Serial) (exported : Bool)
    (fails : BusCall → Bool) : Retains s (s.methodMetricsEnable serial exported fails) := by
  unfold methodMetricsEnable
  split
  · exact retains_emit _ _
  · split
    · exact retains_emit _ _
    · have hflag : Retains s { s with metricsEnabled := true } := .of_rest rfl (le_refl _)
      exact (hflag.trans (.foldl (retains_nodeEnableMetrics fails) _ _)).trans
        (retains_emit _ _)

lemma retains_methodMetricsDisable (s : Controller) (serial : Serial) :
    Retains s (s.methodMetricsDisable serial) := by
  unfold methodMetricsDisable
  split
  · exact retains_emit _ _
  · have hflag : Retains s { s with metricsEnabled := false } := .of_rest rfl (le_refl _)
    exact (hflag.trans (.foldl retains_nodeDisableMetrics _ _)).trans
      (retains_emit _ _)

end Controller
end BlueChi
