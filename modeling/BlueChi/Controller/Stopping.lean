import BlueChi.Controller.Desk
import BlueChi.Controller.Retention

/-!
# The nodes while the controller stops

The nodes are removed one after the other. Up to its turn a node keeps its connection: its creator's
reference is dropped when it is removed and not before.
-/

namespace BlueChi
namespace Controller

variable {ok : Serial → Prop} {s s' s₀ : Controller}

/-! ## The references of the creators -/

/-- No reference of the creator of a node is dropped. -/
def KeepsCreators (s s' : Controller) : Prop :=
  ∀ n : NodeId, Owner.creator ∈ (s.refs (.node n)).owners →
    Owner.creator ∈ (s'.refs (.node n)).owners

namespace KeepsCreators

lemma of_refs (hrefs : ∀ n, s'.refs (.node n) = s.refs (.node n)) : KeepsCreators s s' :=
  fun n hn => by
    rw [hrefs]
    exact hn

lemma sendAgent (s : Controller) (n : NodeId) (call : AgentCall) :
    KeepsCreators s (s.sendAgent n call) := by
  apply of_refs
  unfold Controller.sendAgent
  split
  · exact fun _ => rfl
  · exact fun _ => rfl

lemma monitors : ClosedMonitors ok KeepsCreators where
  refl _ _ := id
  trans h h' n hn := h' n (h n hn)
  notify f := of_refs fun n => f.refs _ fun p => Obj.noConfusion
  tell s n call _ := sendAgent s n call
  table s n f _ := of_refs fun _ => rfl
  reply s serial o _ _ := of_refs fun _ => rfl
  clients f := of_refs fun n => f.refs _ rfl
  farewell s m dest sig := of_refs fun _ => rfl

lemma anyMonitors : ClosedMonitors (fun _ => True) KeepsCreators := monitors

lemma requests : ClosedRequests KeepsCreators where
  toClosedTables := anyMonitors.toClosedTables
  depend s n call _ := sendAgent s n call
  proxies s n f _ := of_refs fun _ => rfl
  detach s n := of_refs fun _ => by rw [nodeUnsetAgentBus_eq]; rfl
  proxyMonitor s p f _ := of_refs fun _ => rfl
  takeRef s obj o _ n hn := by
    by_cases hobj : Obj.node n = obj
    · rw [← hobj]
      simp [hn]
    · simpa [hobj] using hn
  dropRef s obj o _ ho n hn := by
    by_cases hobj : Obj.node n = obj
    · have hne : o ≠ .creator := ho.resolve_right fun hnode => hnode n hobj.symm
      rw [← hobj]
      simpa using RefCount.mem_owners_unref hn hne.symm
    · simpa [hobj] using hn
  unlist s n member := of_refs fun _ => rfl
  proxyMonitorNew s n name unit path := of_refs fun _ => by
    simp [proxyMonitorNew, newRef]
  appendSubscription s p := anyMonitors.appendSubscription s _
  unlistSubscription s p := anyMonitors.unlistSubscription s _
  subscriptionUnref s p o := anyMonitors.subscriptionUnref s _ o
  answered s p := of_refs fun _ => rfl
  announce s o _ := of_refs fun _ => rfl
  jobs f := of_refs fun n => f.refs _ fun ptr => Obj.noConfusion
  reply s o _ := of_refs fun _ => rfl
  ask s n call _ := sendAgent s n call
  requests f n hn := f.owners n _ hn

end KeepsCreators

/-! ## Removing one node -/

/-- A listed node is removed: the others keep their connections. -/
theorem removeNode_retains (h : Held s) {n : NodeId} (hn : n ∈ s.nodes) (hnodup : s.nodes.Nodup)
    (hname : (s.node n).name ≠ none) (hanon : n ∉ s.anonymousNodes) :
    Held (s.removeNode n) ∧ (s.removeNode n).nodes = s.nodes.erase n ∧
      (s.removeNode n).anonymousNodes = s.anonymousNodes ∧ s.nextPtr ≤ (s.removeNode n).nextPtr ∧
      (∀ k, ((s.removeNode n).node k).name = (s.node k).name) ∧
      ∀ k ∈ s.nodes, k ≠ n → ((s.removeNode n).node k).link = (s.node k).link := by
  have hunlist : s.unlistNode n = { s.listRemove .nodes (n ∈ s.nodes) with
      numberOfNodes := s.numberOfNodes - 1, nodes := s.nodes.erase n } := by
    unfold unlistNode
    rw [if_pos (Option.isSome_iff_ne_none.mpr hname)]
  have hheld : Held (s.unlistNode n) := by
    rw [hunlist]
    refine h.of_needed (fun _ => rfl) (fun k o hneed => ?_) rfl (le_refl _)
    match o with
    | .creator => exact hneed.imp List.mem_of_mem_erase id
    | .request r => exact hneed
    | .proxyMonitor p => exact hneed
  have hcreator : Owner.creator ∈ ((s.unlistNode n).refs (.node n)).owners := by
    rw [hunlist]
    exact h.owners n .creator (Or.inl hn)
  -- the requests of the node are cancelled while it is still held
  have hshutdown : ∀ u : Controller, u = (if nodeIsOnline ((s.unlistNode n).node n) then
        ((s.unlistNode n).nodeShutdown n).decOnline else s.unlistNode n) →
      Held u ∧ Owner.creator ∈ (u.refs (.node n)).owners ∧ u.nodes = s.nodes.erase n ∧
        u.anonymousNodes = s.anonymousNodes ∧ s.nextPtr ≤ u.nextPtr ∧
        (∀ k, (u.node k).name = (s.node k).name) ∧
        ∀ k ∈ s.nodes, k ≠ n → (u.node k).link = (s.node k).link := by
    intro u hu
    have ⟨hheld', hretains⟩ := safe_nodeShutdown (s.unlistNode n) n hheld
    split at hu
    · rw [hu]
      refine ⟨hheld'.of_needed (fun _ => rfl) (fun k o hneed => ?_) rfl (le_refl _),
        KeepsCreators.requests.nodeShutdown _ n n hcreator, ?_, ?_, ?_, fun k => ?_,
        fun k hk hne => ?_⟩
      · match o with
        | .creator => exact hneed
        | .request r => exact hneed
        | .proxyMonitor p => exact hneed
      · exact hretains.nodes.trans (by rw [hunlist])
      · exact hretains.anonymousNodes.trans (by rw [hunlist]; rfl)
      · have hptr : s.nextPtr = (s.unlistNode n).nextPtr := by rw [hunlist]; rfl
        exact (le_of_eq hptr).trans hretains.nextPtr
      · exact (hretains.name k).trans (by rw [hunlist]; rfl)
      · refine (hretains.present k (Or.inl ?_)).trans (by rw [hunlist]; rfl)
        rw [hunlist]
        exact (List.mem_erase_of_ne hne).mpr hk
    · rw [hu]
      refine ⟨hheld, hcreator, by rw [hunlist], by rw [hunlist]; rfl, by rw [hunlist]; rfl,
        fun k => by rw [hunlist]; rfl, fun k _ _ => by rw [hunlist]; rfl⟩
  unfold Controller.removeNode
  dsimp only
  generalize hu : (if nodeIsOnline ((s.unlistNode n).node n) then
    ((s.unlistNode n).nodeShutdown n).decOnline else s.unlistNode n) = u
  have ⟨hheld', hcreator', hnodes, hanonymous, hptr, hnames, hlinks⟩ := hshutdown u hu.symm
  have hgone : ¬Present u n := by
    intro hpresent
    apply hpresent.elim
    · intro hin
      rw [hnodes] at hin
      exact hnodup.not_mem_erase hin
    · intro hin
      rw [hanonymous] at hin
      exact hanon hin
  have hdrop : Held (u.dropRef (.node n) .creator) :=
    hheld'.dropRef_node hcreator' hgone fun q hq => Owner.noConfusion hq
  have ⟨hlast, hsettles⟩ := settled_nodeUnref u n .creator hdrop
  refine ⟨hlast, hsettles.nodes.trans hnodes, hsettles.anonymousNodes.trans hanonymous,
    hptr.trans hsettles.nextPtr, fun k => (hsettles.name k).trans (hnames k), fun k hk hne => ?_⟩
  refine (hsettles.present k (Or.inl ?_)).trans (hlinks k hk hne)
  show k ∈ u.nodes
  rw [hnodes]
  exact (List.mem_erase_of_ne hne).mpr hk

/-! ## Removing all nodes -/

/-- The controller stops from `s₀`, and the nodes `ns` are still to be removed. -/
structure Removing (s₀ : Controller) (ns : List NodeId) (s : Controller) : Prop where
  held : Held s
  nodes : s.nodes = ns
  nodup : ns.Nodup
  named : ∀ n ∈ ns, (s₀.node n).name ≠ none
  anonymousNodes : s.anonymousNodes = s₀.anonymousNodes
  unnamed : ∀ n ∈ s₀.anonymousNodes, (s₀.node n).name = none
  name : ∀ n, (s.node n).name = (s₀.node n).name
  nextPtr : s₀.nextPtr ≤ s.nextPtr
  link : ∀ n ∈ ns, (s.node n).link = (s₀.node n).link

namespace Removing

lemma removeNode {n : NodeId} {ns : List NodeId} (h : Removing s₀ (n :: ns) s) :
    Removing s₀ ns (s.removeNode n) := by
  have hin : n ∈ s.nodes := by
    rw [h.nodes]
    exact List.mem_cons_self
  have hname : (s.node n).name ≠ none := by
    rw [h.name]
    exact h.named n List.mem_cons_self
  have hanon : n ∉ s.anonymousNodes := by
    rw [h.anonymousNodes]
    intro hanon
    exact h.named n List.mem_cons_self (h.unnamed n hanon)
  have ⟨hheld, hnodes, hanonymous, hptr, hnames, hlinks⟩ := removeNode_retains h.held hin
    (by rw [h.nodes]; exact h.nodup) hname hanon
  have hrest : ∀ k ∈ ns, k ∈ s.nodes ∧ k ≠ n := fun k hk => by
    rw [h.nodes]
    refine ⟨List.mem_cons_of_mem n hk, fun heq => ?_⟩
    exact (List.nodup_cons.mp h.nodup).1 (heq ▸ hk)
  refine ⟨hheld, ?_, (List.nodup_cons.mp h.nodup).2,
    fun k hk => h.named k (List.mem_cons_of_mem n hk), hanonymous.trans h.anonymousNodes, h.unnamed,
    fun k => (hnames k).trans (h.name k), h.nextPtr.trans hptr, fun k hk => ?_⟩
  · rw [hnodes, h.nodes, List.erase_cons_head]
  · rw [hlinks k (hrest k hk).1 (hrest k hk).2]
    exact h.link k (List.mem_cons_of_mem n hk)

/-- A node that is left is online if it was. -/
lemma online {n : NodeId} {ns : List NodeId} (h : Removing s₀ (n :: ns) s) :
    nodeIsOnline (s.node n) = nodeIsOnline (s₀.node n) := by
  have hlink : (s.node n).agentBus = (s₀.node n).agentBus :=
    congrArg NodeLink.agentBus (h.link n List.mem_cons_self)
  unfold nodeIsOnline nodeHasAgent
  rw [h.name, hlink]

/-- A property of the nodes that are left and of the state, which each removal keeps. -/
lemma foldl {P : List NodeId → Controller → Prop}
    (hround : ∀ n ns t, Removing s₀ (n :: ns) t → P (n :: ns) t → P ns (t.removeNode n))
    (ns : List NodeId) (s : Controller) (h : Removing s₀ ns s) (hs : P ns s) :
    Removing s₀ [] (ns.foldl Controller.removeNode s) ∧ P [] (ns.foldl Controller.removeNode s) := by
  induction ns generalizing s with
  | nil => exact ⟨h, hs⟩
  | cons n ns ih => exact ih _ h.removeNode (hround n ns s h hs)

end Removing

/-! ## What is removed before -/

/-- The jobs, the subscriptions and the monitors go first. -/
lemma settled_stopClients (sync : SyncCalls) (s : Controller) : Settled s (s.stopClients sync) := by
  unfold stopClients
  refine ((Settled.foldl (fun s job => ?_) _ _).trans (.foldl (fun s sub => ?_) _ _)).trans
    (.foldl (fun s m => ?_) _ _)
  · exact .of_core (coreFrame_removeJob sync s job _)
  · exact .of_subscription (subscriptionFrame_removeSubscription _ s sub)
  · have hunlist : CoreFrame s (s.unlistMonitor m) := .of_eq rfl
    exact .of_core (hunlist.trans (coreFrame_monitorUnref _ m .list))

lemma sameDesk_stopClients (sync : SyncCalls) (s : Controller) :
    SameDesk ok s (s.stopClients sync) := SameDesk.monitors.stopClients SameDesk.jobs sync s

lemma removing_stopClients {gap : ℤ} (h : Consistent gap s) (sync : SyncCalls) :
    Removing s s.nodes (s.stopClients sync) := by
  have ⟨hheld, hsettles⟩ := settled_stopClients sync s h.held
  exact ⟨hheld, hsettles.nodes, h.registry.nodesNodup, h.registry.named, hsettles.anonymousNodes,
    h.registry.unnamed, hsettles.name, hsettles.nextPtr,
    fun n hn => hsettles.present n (Or.inl hn)⟩

/-- The anonymous nodes go last. The names of those that are left stay. -/
lemma removeAnonymous {R : Controller → Controller → Prop} (h : Composed R)
    (hremove : ∀ s n, (s.node n).name = none → R s (s.removeNode n)) (ns : List NodeId)
    (s : Controller) (hns : ∀ n ∈ ns, n < s.nextPtr ∧ (s.node n).name = none) :
    R s (ns.foldl removeNode s) := by
  induction ns generalizing s with
  | nil => exact h.refl s
  | cons n ns ih =>
    have hname := (hns n List.mem_cons_self).2
    have hfirst : SameDesk (fun _ => False) s (s.removeNode n) := SameDesk.removeNode s n hname
    refine h.trans (hremove s n hname) (ih _ fun k hk => ?_)
    have hk' := hns k (List.mem_cons_of_mem n hk)
    rw [hfirst.name k hk'.1]
    exact ⟨lt_of_lt_of_le hk'.1 hfirst.nextPtr, hk'.2⟩

lemma stopAnonymous {R : Controller → Controller → Prop} (hcomposed : Composed R)
    (hremove : ∀ s n, (s.node n).name = none → R s (s.removeNode n)) {gap : ℤ}
    (hcons : Consistent gap s₀) (h : Removing s₀ [] s) :
    R s (s.anonymousNodes.foldl removeNode s) := by
  apply removeAnonymous hcomposed hremove
  intro n hn
  rw [h.anonymousNodes] at hn
  rw [h.name]
  exact ⟨lt_of_lt_of_le (hcons.registry.fresh n (Or.inr hn)) h.nextPtr,
    hcons.registry.unnamed n hn⟩

/-- No call waits for them. -/
lemma sameDesk_stopAnonymous {gap : ℤ} (hcons : Consistent gap s₀) (h : Removing s₀ [] s) :
    SameDesk ok s (s.anonymousNodes.foldl removeNode s) :=
  stopAnonymous ⟨SameDesk.refl, SameDesk.trans⟩ SameDesk.removeNode hcons h

end Controller
end BlueChi
