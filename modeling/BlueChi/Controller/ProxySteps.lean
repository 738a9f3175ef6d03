import BlueChi.Controller.MonitorSteps

/-!
# Proxy monitors keep the invariant

A proxy monitor enters the list of its node with a reference of its target, a dependency there
and a subscription, and leaves the list when the dependency and the subscription are dropped.
-/

namespace BlueChi

/-! ## Counting dependencies -/

/-- The list after `node_remove_proxy_dependency`. -/
def decDependency (deps : List ProxyDependency) (unit : String) : List ProxyDependency :=
  match Keyed.get (·.unitName) deps unit with
  | none => deps
  | some dep =>
    if dep.nDeps - 1 = 0 then Keyed.delete (·.unitName) deps unit
    else Keyed.modify (·.unitName) deps unit fun dep => { dep with nDeps := dep.nDeps - 1 }

/-- The count of a unit in a list of dependencies. -/
def countIn (deps : List ProxyDependency) (unit : String) : ℤ :=
  ((Keyed.get (·.unitName) deps unit).map (·.nDeps)).getD 0

lemma depCount_eq (node : Node) (unit : String) :
    depCount node unit = countIn node.proxyDependencies unit := rfl

section

variable {deps : List ProxyDependency}

private lemma unitName_add (d : ℤ) (dep : ProxyDependency) :
    ({ dep with nDeps := dep.nDeps + d } : ProxyDependency).unitName = dep.unitName := rfl

private lemma unitName_sub (d : ℤ) (dep : ProxyDependency) :
    ({ dep with nDeps := dep.nDeps - d } : ProxyDependency).unitName = dep.unitName := rfl

lemma countIn_incDependency (deps : List ProxyDependency) (unit unit' : String) :
    countIn (incDependency deps unit) unit' =
      countIn deps unit' + if unit' = unit then 1 else 0 := by
  unfold incDependency
  split
  · rename_i dep hdep
    unfold countIn
    rw [Keyed.get_modify (unitName_add 1), hdep]
    by_cases hu : unit' = unit
    · subst hu
      simp [hdep]
    · simp [hu]
  · rename_i hnone
    unfold countIn
    rw [Keyed.get_append_singleton hnone]
    by_cases hu : unit' = unit
    · subst hu
      simp [hnone]
    · simp [hu, Ne.symm hu]

lemma keys_incDependency (hkeys : (deps.map (·.unitName)).Nodup) (unit : String) :
    ((incDependency deps unit).map (·.unitName)).Nodup := by
  unfold incDependency
  split
  · rwa [Keyed.map_key_modify (unitName_add 1)]
  · rename_i hnone
    exact Keyed.nodup_append_singleton hkeys hnone

lemma pos_incDependency (hpos : ∀ dep ∈ deps, 0 < dep.nDeps) (unit : String) :
    ∀ dep ∈ incDependency deps unit, 0 < dep.nDeps := by
  intro dep hdep
  unfold incDependency at hdep
  split at hdep
  · obtain ⟨dep', hmem, heq⟩ := List.mem_map.mp hdep
    have hlt := hpos dep' hmem
    split at heq
    · rw [← heq]
      show 0 < dep'.nDeps + 1
      omega
    · exact heq ▸ hlt
  · rcases List.mem_append.mp hdep with hmem | hmem
    · exact hpos dep hmem
    · rw [List.mem_singleton] at hmem
      subst hmem
      exact Int.one_pos

lemma get_of_countIn {unit : String} (hne : countIn deps unit ≠ 0) :
    Keyed.get (·.unitName) deps unit ≠ none := by
  intro hnone
  simp [countIn, hnone] at hne

lemma countIn_decDependency {unit : String} (hget : Keyed.get (·.unitName) deps unit ≠ none)
    (unit' : String) : countIn (decDependency deps unit) unit' =
      countIn deps unit' - if unit' = unit then 1 else 0 := by
  unfold decDependency
  split
  · rename_i hnone
    exact absurd hnone hget
  · rename_i dep hdep
    split
    · rename_i hzero
      unfold countIn
      rw [Keyed.get_delete]
      by_cases hu : unit' = unit
      · subst hu
        simp only [hdep, Option.map_some, Option.getD_some, if_true, Option.map_none,
          Option.getD_none]
        omega
      · simp [hu]
    · unfold countIn
      rw [Keyed.get_modify (unitName_sub 1), hdep]
      by_cases hu : unit' = unit
      · subst hu
        simp [hdep]
      · simp [hu]

lemma keys_decDependency (hkeys : (deps.map (·.unitName)).Nodup) (unit : String) :
    ((decDependency deps unit).map (·.unitName)).Nodup := by
  unfold decDependency
  split
  · exact hkeys
  · split
    · exact Keyed.nodup_delete hkeys unit
    · rwa [Keyed.map_key_modify (unitName_sub 1)]

lemma pos_decDependency (hkeys : (deps.map (·.unitName)).Nodup) (hpos : ∀ dep ∈ deps, 0 < dep.nDeps)
    (unit : String) : ∀ dep ∈ decDependency deps unit, 0 < dep.nDeps := by
  intro dep hdep
  unfold decDependency at hdep
  split at hdep
  · exact hpos dep hdep
  · rename_i found hfound
    split at hdep
    · exact hpos dep (List.mem_of_mem_filter hdep)
    · rename_i hne
      obtain ⟨dep', hmem, heq⟩ := List.mem_map.mp hdep
      have hlt := hpos dep' hmem
      split at heq
      · rename_i hunit
        have hsame : dep' = found := by
          have hget := Keyed.get_of_mem hkeys hmem
          have hunit' : dep'.unitName = unit := hunit
          rw [hunit', hfound, Option.some.injEq] at hget
          exact hget.symm
        rw [← heq]
        show 0 < dep'.nDeps - 1
        rw [hsame] at hlt ⊢
        omega
      · exact heq ▸ hlt

end

namespace Controller

variable {gap : ℤ} {s s' : Controller}

/-- `node_remove_proxy_dependency` changes the list of dependencies and sends a message. -/
lemma nodeRemoveProxyDependency_eq (s : Controller) (n : NodeId) (unit : String) :
    s.nodeRemoveProxyDependency n unit = { s with
      node := Function.update s.node n { s.node n with
        proxyDependencies := decDependency (s.node n).proxyDependencies unit }
      log := (s.nodeRemoveProxyDependency n unit).log } := by
  unfold nodeRemoveProxyDependency
  split
  · rename_i hnone
    have hsame : Function.update s.node n { s.node n with
        proxyDependencies := decDependency (s.node n).proxyDependencies unit } = s.node := by
      rw [decDependency, hnone]
      exact Function.update_eq_self n s.node
    rw [hsame]
  · rename_i dep hdep
    split
    · rename_i hzero
      unfold sendAgent modifyNode
      rw [decDependency, hdep]
      simp only [hzero, if_true]
      split <;> rfl
    · rename_i hzero
      unfold modifyNode
      rw [decDependency, hdep]
      simp only [hzero, if_false]

/-- `node_add_proxy_dependency` changes the list of dependencies and sends a message. -/
lemma nodeAddProxyDependency_eq (s : Controller) (n : NodeId) (unit : String) :
    s.nodeAddProxyDependency n unit = { s with
      node := Function.update s.node n { s.node n with
        proxyDependencies := incDependency (s.node n).proxyDependencies unit }
      log := (s.nodeAddProxyDependency n unit).log } := by
  unfold nodeAddProxyDependency sendAgent
  split <;> rfl

/-! ## Counting proxy monitors -/

/-- The count after a proxy monitor was taken out of a list. -/
lemma proxyCount_erase (hnodup : s.nodes.Nodup) {k : NodeId} (hk : k ∈ s.nodes)
    {p : ProxyMonitorId} (hp : p ∈ (s.node k).proxyMonitors) (hnodes : s'.nodes = s.nodes)
    (hlists : ∀ j, (s'.node j).proxyMonitors =
      if j = k then (s.node j).proxyMonitors.erase p else (s.node j).proxyMonitors)
    {t : NodeId} {unit : String}
    (hwatches : ∀ j, ∀ q ∈ (s.node j).proxyMonitors, s'.Watches t unit q = s.Watches t unit q) :
    s'.proxyCount t unit + (if s.Watches t unit p = true then 1 else 0) =
      s.proxyCount t unit := by
  have hsame : ∀ j, (s'.node j).proxyMonitors.countP (s'.Watches t unit) =
      (s'.node j).proxyMonitors.countP (s.Watches t unit) := fun j => by
    refine List.countP_congr fun q hq => ?_
    have hmem : q ∈ (s.node j).proxyMonitors := by
      rw [hlists] at hq
      split at hq
      · exact List.mem_of_mem_erase hq
      · exact hq
    rw [hwatches j q hmem]
  have hsum := hnodup.sum_map_add hk
    (f := fun j => (s'.node j).proxyMonitors.countP (s.Watches t unit))
    (g := fun j => (s.node j).proxyMonitors.countP (s.Watches t unit)) fun j _ hj => by
      rw [hlists, if_neg hj]
  have herase : (s'.node k).proxyMonitors.countP (s.Watches t unit) +
      (if s.Watches t unit p = true then 1 else 0) =
      (s.node k).proxyMonitors.countP (s.Watches t unit) := by
    rw [hlists, if_pos rfl, (List.perm_cons_erase hp).countP_eq, List.countP_cons]
  unfold proxyCount
  rw [hnodes]
  simp only [hsame] at hsum ⊢
  omega

/-- The count after a proxy monitor was put in a list. -/
lemma proxyCount_append (hnodup : s.nodes.Nodup) {k : NodeId} (hk : k ∈ s.nodes)
    {p : ProxyMonitorId} (hnodes : s'.nodes = s.nodes)
    (hlists : ∀ j, (s'.node j).proxyMonitors =
      if j = k then (s.node j).proxyMonitors ++ [p] else (s.node j).proxyMonitors)
    {t : NodeId} {unit : String}
    (hwatches : ∀ j, ∀ q ∈ (s.node j).proxyMonitors, s'.Watches t unit q = s.Watches t unit q) :
    s'.proxyCount t unit =
      s.proxyCount t unit + if s'.Watches t unit p = true then 1 else 0 := by
  have hsame : ∀ j, (s.node j).proxyMonitors.countP (s.Watches t unit) =
      (s.node j).proxyMonitors.countP (s'.Watches t unit) := fun j =>
    List.countP_congr fun q hq => by rw [hwatches j q hq]
  have hsum := hnodup.sum_map_add hk
    (f := fun j => (s'.node j).proxyMonitors.countP (s'.Watches t unit))
    (g := fun j => (s.node j).proxyMonitors.countP (s'.Watches t unit)) fun j _ hj => by
      rw [hlists, if_neg hj]
  have happend : (s'.node k).proxyMonitors.countP (s'.Watches t unit) =
      (s.node k).proxyMonitors.countP (s'.Watches t unit) +
        if s'.Watches t unit p = true then 1 else 0 := by
    rw [hlists, if_pos rfl, List.countP_append, List.countP_singleton]
  unfold proxyCount
  rw [hnodes]
  simp only [hsame] at hsum ⊢
  omega

/-! ## The invariant without the proxy monitors -/

/-- The invariant but for what it says of proxy monitors and dependencies. -/
structure BarProxies (gap : ℤ) (s : Controller) : Prop where
  registry : Registry s
  held : Held s
  connected : Connected gap s
  forListed : ForListed s
  detached : ∀ n, (s.node n).Detached
  indexed : Indexed s
  owned : Owned s

lemma Consistent.barProxies (h : Consistent gap s) : BarProxies gap s :=
  ⟨h.registry, h.held, h.connected, h.forListed, h.detached, h.indexed, h.owned⟩

/-- Only the lists of proxy monitors and of dependencies may differ. -/
def SameButProxies (node node' : Node) : Prop :=
  node' = { node with
    proxyMonitors := node'.proxyMonitors, proxyDependencies := node'.proxyDependencies }

/-- `s'` differs from `s` in proxy monitors and dependencies. The targets and the references
of the proxy monitors may differ as far as the nodes they need are held. -/
structure ProxiesFrame (s s' : Controller) : Prop where
  rest : s' = { s with
    node := s'.node, proxyMonitor := s'.proxyMonitor, refs := s'.refs, log := s'.log,
    mem := s'.mem }
  node : ∀ n, SameButProxies (s.node n) (s'.node n)

lemma ProxiesFrame.trans {s'' : Controller} (h : ProxiesFrame s s') (h' : ProxiesFrame s' s'') :
    ProxiesFrame s s'' where
  rest := by rw [h'.rest, h.rest]
  node n := by
    have hn := h.node n
    have hn' := h'.node n
    unfold SameButProxies at hn hn' ⊢
    rw [hn', hn]

lemma BarProxies.of_proxies (h : BarProxies gap s) (f : ProxiesFrame s s') (hheld : Held s')
    (howners : ∀ n, n ∉ s.nodes →
      (s'.refs (.node n)).owners.Sublist (s.refs (.node n)).owners) : BarProxies gap s' := by
  have hrest := f.rest
  have hname : ∀ n, (s'.node n).name = (s.node n).name := fun n => by rw [f.node n]
  have hbus : ∀ n, (s'.node n).agentBus = (s.node n).agentBus := fun n => by rw [f.node n]
  have htable : ∀ n, (s'.node n).unitSubscriptions = (s.node n).unitSubscriptions := fun n => by
    rw [f.node n]
  have hnodes : s'.nodes = s.nodes := by rw [hrest]
  have hanonymous : s'.anonymousNodes = s.anonymousNodes := by rw [hrest]
  have hall : s'.allSubscriptions = s.allSubscriptions := by rw [hrest]
  have hhas : ∀ n, HasJob s' n → HasJob s n := fun n hjob => by
    have hjobs : s'.jobs = s.jobs := by rw [hrest]
    have hrequest : s'.request = s.request := by rw [hrest]
    rwa [HasJob, hjobs, hrequest] at hjob
  obtain ⟨hreg, -, hcon, hfor, hdet, hind, hown⟩ := h
  refine ⟨⟨hnodes ▸ hreg.1, hanonymous ▸ hreg.2, fun n hn => ?_, fun n hn => ?_, ?_, ?_,
    fun n hn => ?_⟩, hheld, ⟨fun n hn => ?_, fun n hb => ?_, fun m hm => ?_, ?_⟩,
    ⟨fun n hjob => ?_, fun n hn => ?_, fun n hn hb => ?_⟩, fun n => ?_,
    ⟨fun n hn unit sub => ?_, fun n hn => ?_⟩, ?_⟩
  · rw [hname]
    exact hreg.named n (hnodes ▸ hn)
  · rw [hname]
    exact hreg.unnamed n (hanonymous ▸ hn)
  · simp only [hnodes, hname]
    exact hreg.distinct
  · rw [hrest]
    exact hreg.count
  · rw [hnodes, hanonymous] at hn
    rw [hrest]
    exact hreg.fresh n hn
  · rw [hname] at hn
    rw [hnodes]
    exact hcon.listed n hn
  · rw [hbus] at hb
    rw [hrest]
    exact hcon.made n hb
  · rw [hrest] at hm ⊢
    exact hcon.signals m hm
  · have hcounter : s'.numberOfNodesOnline = s.numberOfNodesOnline := by rw [hrest]
    simp only [hcounter, hnodes, nodeHasAgent, hbus]
    exact hcon.online
  · rw [hnodes]
    exact hfor.jobs n (hhas n hjob)
  · rw [hnodes] at hn
    exact (howners n hn).trans (hfor.owners n hn)
  · rw [hnodes] at hn
    rw [hbus] at hb
    rw [hanonymous]
    exact hfor.anonymous n hn hb
  · rw [f.node n]
    exact hdet n
  · rw [hnodes] at hn
    rw [Node.subsOf, Node.usubs, htable, hall]
    simp only [Subscription.Names, hname]
    exact hind.filed n hn unit sub
  · rw [hnodes] at hn
    rw [htable]
    exact hind.unlisted n hn
  · rw [hrest]
    exact ⟨hown.1, hown.2, hown.3, hown.4, hown.5, hown.6, hown.7⟩

/-- The subscription of a proxy monitor comes or goes. -/
lemma BarProxies.of_subscription (h : BarProxies gap s) {told : ProxyMonitorId → Prop}
    (f : SubscriptionFrame told s s') (htold : ∀ p, told p → 0 < (s.refs (.proxyMonitor p)).count)
    (hindexed : Indexed s') (hptrs : (s'.allSubscriptions.map (·.ptr)).Nodup)
    (hfresh : ∀ sub ∈ s'.allSubscriptions, sub.ptr < s.nextPtr)
    (hall : ∀ m sub, sub.monitor = .client m →
      (sub ∈ s'.allSubscriptions ↔ sub ∈ s.allSubscriptions)) : BarProxies gap s' where
  registry := f.registry h.registry
  held := f.held h.held htold
  connected := f.connected h.connected
  forListed := f.forListed h.forListed
  detached := f.detached h.detached
  indexed := hindexed
  owned := by
    have hptr : s'.nextPtr = s.nextPtr := by rw [f.rest]
    refine ⟨hptrs, fun sub hsub => hptr ▸ hfresh sub hsub, fun m sub => ?_, fun m => ?_, fun m => ?_,
      fun m hm => ?_, fun m hm => ?_⟩
    · rw [(f.monitor m).subscriptions, h.owned.client]
      exact and_congr_left fun hclient => (hall m sub hclient).symm
    · rw [(f.monitor m).subscriptions]
      exact h.owned.nodup m
    · rw [(f.monitor m).rest]
      exact h.owned.recipients m
    · rw [(f.monitor m).subscriptions]
      exact h.owned.unused m (hptr ▸ hm)
    · rw [hptr]
      exact h.owned.exported m ((f.monitor m).slot hm)

/-! ## What the release of a proxy monitor leaves alone -/

/-- What `proxy_monitor_unref` leaves alone. -/
structure UnrefFrame (p : ProxyMonitorId) (s s' : Controller) : Prop where
  rest : s' = { s with
    node := s'.node, monitor := s'.monitor, refs := s'.refs, log := s'.log, mem := s'.mem }
  node : ∀ n ∈ s.nodes, s'.node n = s.node n
  proxyMonitors : ∀ n, (s'.node n).proxyMonitors = (s.node n).proxyMonitors
  proxyRefs : ∀ q, q ≠ p → s'.refs (.proxyMonitor q) = s.refs (.proxyMonitor q)

namespace Consistent

lemma subscriptionUnref_rest (s : Controller) (sub : Subscription) (o : Owner) :
    s.subscriptionUnref sub o = { s with
      monitor := (s.subscriptionUnref sub o).monitor, refs := (s.subscriptionUnref sub o).refs,
      mem := (s.subscriptionUnref sub o).mem } := by
  unfold Controller.subscriptionUnref Controller.monitorUnref
  simp only
  split
  · split
    · split <;> rfl
    · rfl
  · rfl

theorem proxyMonitorUnref_frame (h : Consistent gap s) {p : ProxyMonitorId} {o : Owner}
    (ho : o ∈ (s.refs (.proxyMonitor p)).owners)
    (hlist : o = .list → ∀ k, p ∉ (s.node k).proxyMonitors)
    (hcall : o = .call → s.proxyCalls.count p < (s.refs (.proxyMonitor p)).owners.count .call) :
    UnrefFrame p s (BlueChi.Controller.proxyMonitorUnref Controller.nodeUnref s p o) := by
  have hpos := (h.proxied.wf p).count_pos ho
  have hdrop := h.dropRef_proxyMonitor ho hlist hcall
  have hbase : UnrefFrame p s (s.dropRef (.proxyMonitor p) o) :=
    ⟨rfl, fun _ _ => rfl, fun _ => rfl, fun q hq => by simp [hq]⟩
  unfold BlueChi.Controller.proxyMonitorUnref
  simp only
  split
  · rename_i hfreed
    have hzero := isFreed_iff.mp hfreed
    -- what the subscription's release adds to a frame
    have hsub : ∀ t : Controller, UnrefFrame p s t → ∀ sub,
        UnrefFrame p s (t.subscriptionUnref sub .creator) := by
      intro t f sub
      have hrest := subscriptionUnref_rest t sub .creator
      refine ⟨by rw [hrest, f.rest], fun n hn => ?_, fun n => ?_, fun q hq => ?_⟩
      · rw [subscriptionUnref_node]
        exact f.node n hn
      · rw [subscriptionUnref_node]
        exact f.proxyMonitors n
      · rw [(coreFrame_subscriptionUnref t sub .creator).proxyRefs]
        exact f.proxyRefs q hq
    refine hsub _ ?_ _
    split
    · rename_i t htarget
      have hdep : (s.dropRef (.proxyMonitor p) o).proxyMonitorDropDep p =
          s.dropRef (.proxyMonitor p) o := by
        unfold proxyMonitorDropDep
        rw [if_neg]
        intro hadded
        have hlisted := hdrop.proxied.count_pos (hdrop.proxied.added p hadded)
        omega
      have hmem : Owner.proxyMonitor p ∈ ((s.dropRef (.proxyMonitor p) o).refs (.node t)).owners := by
        simpa using h.held.owners t (.proxyMonitor p) ⟨hpos, htarget⟩
      have hneed : ¬Needed (s.dropRef (.proxyMonitor p) o) t (.proxyMonitor p) := by
        intro hneed
        have hcount : 0 < ((s.dropRef (.proxyMonitor p) o).refs (.proxyMonitor p)).count := hneed.1
        omega
      obtain ⟨f, heq, hf⟩ := hdrop.nodeUnref_eq hmem hneed (by simp)
      rw [hdep, heq]
      refine ⟨by simp [modifyNode, dropRef], fun n hn => ?_, fun n => ?_, fun q hq => by simp [hq]⟩
      · by_cases hnt : n = t
        · subst hnt
          rcases hf with ⟨-, rfl⟩ | ⟨hunlisted, -⟩
          · simp
          · exact absurd hn hunlisted
        · simp [hnt]
      · by_cases hnt : n = t
        · subst hnt
          rcases hf with ⟨-, rfl⟩ | ⟨-, rfl | rfl⟩ <;> simp [freedNode]
        · simp [hnt]
    · exact hbase
  · exact hbase

end Consistent

/-! ## Taking a proxy monitor out of its list -/

/-- What changes when proxy monitor `p` of node `k` drops its dependency and its subscription
and leaves the list. -/
structure ProxyRemoved (s : Controller) (k : NodeId) (p : ProxyMonitorId) (s' : Controller) :
    Prop where
  nodes : s'.nodes = s.nodes
  nextPtr : s'.nextPtr = s.nextPtr
  name : ∀ j, (s'.node j).name = (s.node j).name
  agentBus : ∀ j, (s'.node j).agentBus = (s.node j).agentBus
  allowed : ∀ j, (s'.node j).allowedProxyTargets = (s.node j).allowedProxyTargets
  lists : ∀ j, (s'.node j).proxyMonitors =
    if j = k then (s.node j).proxyMonitors.erase p else (s.node j).proxyMonitors
  deps : ∀ j, (s'.node j).proxyDependencies =
    if (s.proxyMonitor p).targetNode = some j then
      decDependency (s.node j).proxyDependencies (s.proxyMonitor p).unitName
    else (s.node j).proxyDependencies
  proxyMonitor : s'.proxyMonitor =
    Function.update s.proxyMonitor p { s.proxyMonitor p with addedDep := false }
  all : s'.allSubscriptions = s.allSubscriptions.erase (s.proxyMonitor p).subscription
  proxyRefs : ∀ q, s'.refs (.proxyMonitor q) = s.refs (.proxyMonitor q)
  calls : ∀ q, s'.proxyCalls.count q = s.proxyCalls.count q

section

variable {k : NodeId} {p : ProxyMonitorId}

namespace ProxyRemoved

variable (f : ProxyRemoved s k p s')

include f

lemma proxyMonitor_ne {q : ProxyMonitorId} (hq : q ≠ p) : s'.proxyMonitor q = s.proxyMonitor q := by
  rw [f.proxyMonitor, Function.update_of_ne hq]

lemma subscription (q : ProxyMonitorId) :
    (s'.proxyMonitor q).subscription = (s.proxyMonitor q).subscription := by
  by_cases hq : q = p
  · subst hq
    rw [f.proxyMonitor, Function.update_self]
  · rw [f.proxyMonitor_ne hq]

lemma watches (t : NodeId) (unit : String) (q : ProxyMonitorId) :
    s'.Watches t unit q = s.Watches t unit q := by
  unfold Watches
  by_cases hq : q = p
  · subst hq
    rw [f.proxyMonitor, Function.update_self]
  · rw [f.proxyMonitor_ne hq]

/-- The other members of the lists. -/
lemma mem_lists (h : Proxied s) (hp : p ∈ (s.node k).proxyMonitors) (j : NodeId)
    (q : ProxyMonitorId) :
    q ∈ (s'.node j).proxyMonitors ↔ q ≠ p ∧ q ∈ (s.node j).proxyMonitors := by
  rw [f.lists]
  split
  · rename_i hj
    subst hj
    exact (h.nodup j).mem_erase_iff
  · rename_i hj
    refine ⟨fun hq => ⟨?_, hq⟩, fun hq => hq.2⟩
    rintro rfl
    exact hj ((h.listed j q hq).node.symm.trans (h.listed k q hp).node)

lemma proxied (h : Proxied s) (hall : s.allSubscriptions.Nodup)
    (hp : p ∈ (s.node k).proxyMonitors) : Proxied s' := by
  have hmonitor := (h.listed k p hp).monitor
  have hmem : ∀ sub, sub ∈ s'.allSubscriptions ↔
      sub ≠ (s.proxyMonitor p).subscription ∧ sub ∈ s.allSubscriptions := fun sub => by
    rw [f.all, hall.mem_erase_iff]
  refine ⟨fun j q hq => ?_, fun j => ?_, fun j q hq q' hq' htarget hunit => ?_, fun q hq => ?_,
    fun sub hsub q hmon => ?_, fun q => ?_, fun q => ?_, fun q => ?_, fun q hq => ?_,
    fun q hq => ?_⟩
  · obtain ⟨hne, hmem'⟩ := (f.mem_lists h hp j q).mp hq
    obtain ⟨h1, h2, ⟨t, ht, htarget, hname⟩, h4, h5, h6, h7, h8, h9⟩ := h.listed j q hmem'
    rw [← f.proxyMonitor_ne hne] at h2 htarget hname h4 h5 h6 h7 h8
    refine ⟨f.nodes ▸ h1, h2, ⟨t, f.nodes ▸ ht, htarget, (f.name t).trans hname⟩,
      (f.allowed j).symm ▸ h4, h5, h6, h7, (hmem _).mpr ⟨?_, h8⟩, (f.proxyRefs q).symm ▸ h9⟩
    intro heq
    rw [heq, hmonitor, MonitorRef.proxy.injEq] at h7
    exact hne h7.symm
  · rw [f.lists]
    split
    · exact (h.nodup j).erase p
    · exact h.nodup j
  · obtain ⟨hne, hmem'⟩ := (f.mem_lists h hp j q).mp hq
    obtain ⟨hne', hmem''⟩ := (f.mem_lists h hp j q').mp hq'
    rw [f.proxyMonitor_ne hne, f.proxyMonitor_ne hne'] at htarget hunit
    exact h.unique j q hmem' q' hmem'' htarget hunit
  · by_cases hqp : q = p
    · subst hqp
      rw [f.proxyMonitor, Function.update_self] at hq
      simp at hq
    · rw [f.proxyMonitor_ne hqp] at hq ⊢
      exact (f.mem_lists h hp _ q).mpr ⟨hqp, h.added q hq⟩
  · obtain ⟨hne, hsub'⟩ := (hmem sub).mp hsub
    obtain ⟨hlisted, heq⟩ := h.owner sub hsub' q hmon
    have hqp : q ≠ p := by
      rintro rfl
      exact hne heq.symm
    rw [f.proxyMonitor_ne hqp]
    exact ⟨(f.mem_lists h hp _ q).mpr ⟨hqp, hlisted⟩, heq⟩
  · rw [f.subscription]
    exact h.proxy q
  · rw [f.proxyRefs]
    exact h.wf q
  · rw [f.proxyRefs, f.calls]
    exact h.calls q
  · have hold := h.fresh q (f.nextPtr ▸ hq)
    by_cases hqp : q = p
    · subst hqp
      rw [f.proxyMonitor, Function.update_self]
    · rw [f.proxyMonitor_ne hqp]
      exact hold
  · rw [f.proxyRefs]
    exact h.unheld q (f.nextPtr ▸ hq)

lemma counted (hnodup : s.nodes.Nodup) (hpro : Proxied s) (h : Counted s)
    (hp : p ∈ (s.node k).proxyMonitors) : Counted s' := by
  have hlisted := hpro.listed k p hp
  have hcount : ∀ t unit, s'.proxyCount t unit +
      (if s.Watches t unit p = true then 1 else 0) = s.proxyCount t unit := fun t unit =>
    proxyCount_erase hnodup hlisted.listed hp f.nodes f.lists fun _ q _ => f.watches t unit q
  refine ⟨fun t ht unit => ?_, fun t => ?_, fun t => ?_⟩
  · rw [f.nodes] at ht
    have hold := h.count t ht unit
    have hnew := hcount t unit
    rw [depCount_eq, f.deps]
    rw [depCount_eq] at hold
    by_cases htarget : (s.proxyMonitor p).targetNode = some t
    · -- the proxy monitor itself is counted, so the unit has an entry
      have hself := hcount t (s.proxyMonitor p).unitName
      have hself' := h.count t ht (s.proxyMonitor p).unitName
      rw [depCount_eq] at hself'
      rw [if_pos (by simp [Watches, htarget])] at hself
      rw [if_pos htarget, countIn_decDependency (get_of_countIn (by omega))]
      by_cases hunit : unit = (s.proxyMonitor p).unitName
      · rw [if_pos (by simp [Watches, htarget, hunit])] at hnew
        rw [if_pos hunit]
        omega
      · rw [if_neg (by simp [Watches, htarget, Ne.symm hunit])] at hnew
        rw [if_neg hunit]
        omega
    · rw [if_neg htarget]
      rw [if_neg (by simp [Watches, htarget])] at hnew
      omega
  · rw [f.deps]
    split
    · exact keys_decDependency (h.keys t) _
    · exact h.keys t
  · rw [f.deps]
    split
    · exact pos_decDependency (h.keys t) (h.pos t) _
    · exact h.pos t

end ProxyRemoved

end

section

variable {k : NodeId} {p : ProxyMonitorId}

/-- `proxy_monitor_drop_dep` of a listed proxy monitor. -/
lemma proxyMonitorDropDep_eq (hadded : (s.proxyMonitor p).addedDep = true) {t : NodeId}
    (htarget : (s.proxyMonitor p).targetNode = some t) :
    s.proxyMonitorDropDep p = { s with
      node := Function.update s.node t { s.node t with
        proxyDependencies := decDependency (s.node t).proxyDependencies
          (s.proxyMonitor p).unitName }
      proxyMonitor :=
        Function.update s.proxyMonitor p { s.proxyMonitor p with addedDep := false }
      log := (s.proxyMonitorDropDep p).log } := by
  have hdep := nodeRemoveProxyDependency_eq s t (s.proxyMonitor p).unitName
  unfold proxyMonitorDropDep
  rw [if_pos hadded, htarget]
  simp only
  generalize s.nodeRemoveProxyDependency t (s.proxyMonitor p).unitName = s' at hdep ⊢
  rw [hdep]
  rfl

/-- The lists and counts after a listed proxy monitor is closed. -/
lemma proxyRemoved_unlist (h : Consistent gap s) (hp : p ∈ (s.node k).proxyMonitors) :
    ProxyRemoved s k p (((s.proxyMonitorDropDep p).removeSubscription
      ((s.proxyMonitorDropDep p).proxyMonitor p).subscription).unlistProxyMonitor k p) ∧
    Consistent gap (((s.proxyMonitorDropDep p).removeSubscription
      ((s.proxyMonitorDropDep p).proxyMonitor p).subscription).unlistProxyMonitor k p) := by
  have hlisted := h.proxied.listed k p hp
  obtain ⟨t, ht, htarget, htname⟩ := hlisted.target
  have hdrop := proxyMonitorDropDep_eq hlisted.addedDep htarget
  generalize s.proxyMonitorDropDep p = s₁ at hdrop ⊢
  have hproxy₁ : s₁.proxyMonitor =
      Function.update s.proxyMonitor p { s.proxyMonitor p with addedDep := false } := by rw [hdrop]
  have hnode₁ : ∀ j, s₁.node j = { s.node j with
      proxyDependencies := if (s.proxyMonitor p).targetNode = some j then
          decDependency (s.node j).proxyDependencies (s.proxyMonitor p).unitName
        else (s.node j).proxyDependencies } := by
    intro j
    rw [hdrop]
    by_cases hj : j = t
    · subst hj
      simp [htarget]
    · simp [htarget, hj, Ne.symm hj]
  have hsub : (s₁.proxyMonitor p).subscription = (s.proxyMonitor p).subscription := by
    rw [hproxy₁, Function.update_self]
  rw [hsub]
  -- the dependency is dropped
  have hdep : ProxiesFrame s s₁ := ⟨by rw [hdrop], fun j => by
    rw [hnode₁]
    rfl⟩
  have htargets : ∀ q, (s₁.proxyMonitor q).targetNode = (s.proxyMonitor q).targetNode := by
    intro q
    rw [hproxy₁]
    by_cases hq : q = p
    · subst hq
      simp
    · simp [hq]
  have hrefs₁ : s₁.refs = s.refs := by rw [hdrop]
  have hheld₁ : Held s₁ := by
    refine h.held.of_needed (fun n => by rw [hrefs₁]) (fun n o hneed => ?_) (by rw [hdrop])
      (by rw [hdrop])
    cases o with
    | creator =>
      rw [hdrop] at hneed
      exact hneed
    | request r =>
      rw [hdrop] at hneed
      exact hneed
    | proxyMonitor q =>
      simp only [Needed, htargets, hrefs₁] at hneed
      exact hneed
    | _ => exact hneed
  have hbar₁ := h.barProxies.of_proxies hdep hheld₁ fun n _ => by rw [hrefs₁]
  -- the subscription is removed
  have hall₁ : s₁.allSubscriptions = s.allSubscriptions := by rw [hdrop]
  have fs := subscriptionFrame_removeSubscription (fun _ => False) s₁ (s.proxyMonitor p).subscription
  have hall₂ := removeSubscription_allSubscriptions hbar₁.registry (s.proxyMonitor p).subscription
  have hbar₂ := hbar₁.of_subscription fs (fun _ hfalse => hfalse.elim)
    (hbar₁.indexed.removeSubscription hbar₁.registry hbar₁.owned.allNodup _)
    (by
      rw [hall₂]
      exact hbar₁.owned.ptrs.sublist (List.erase_sublist.map _))
    (fun sub hmem => by
      rw [hall₂] at hmem
      exact hbar₁.owned.fresh sub (List.mem_of_mem_erase hmem))
    (fun m sub hclient => by
      have hne : sub ≠ (s.proxyMonitor p).subscription := by
        rintro rfl
        rw [hlisted.monitor] at hclient
        simp at hclient
      rw [hall₂, List.mem_erase_of_ne hne])
  generalize s₁.removeSubscription (s.proxyMonitor p).subscription = s₂ at fs hall₂ hbar₂ ⊢
  -- the proxy monitor leaves the list
  have hnode₃ : ∀ j, (s₂.unlistProxyMonitor k p).node j = { s₂.node j with
      proxyMonitors := if j = k then (s₂.node j).proxyMonitors.erase p
        else (s₂.node j).proxyMonitors } := by
    intro j
    unfold unlistProxyMonitor
    by_cases hj : j = k
    · subst hj
      simp
    · simp [hj]
  have hlist : ProxiesFrame s₂ (s₂.unlistProxyMonitor k p) := ⟨rfl, fun j => by
    rw [hnode₃]
    rfl⟩
  have hheld₃ : Held (s₂.unlistProxyMonitor k p) :=
    hbar₂.held.of_needed (fun _ => rfl) (fun n o hneed => hneed.mono rfl rfl rfl rfl
      (fun _ hr => hr) fun _ hq => hq) rfl (le_refl _)
  have hbar₃ := hbar₂.of_proxies hlist hheld₃ fun _ _ => .refl _
  have hproxyRefs : ∀ q, s₂.refs (.proxyMonitor q) = s₁.refs (.proxyMonitor q) ∧
      s₂.proxyCalls.count q = s₁.proxyCalls.count q := by
    intro q
    obtain ⟨j, c, hle, htold, hrefs, hcalls⟩ := fs.calls q
    have hj : j = 0 := by
      by_contra hne
      exact htold hne
    subst hj
    have hc : c = 0 := by omega
    subst hc
    exact ⟨by rw [hrefs, RefCount.refs_zero], hcalls⟩
  have hremoved : ProxyRemoved s k p (s₂.unlistProxyMonitor k p) := by
    refine ⟨?_, ?_, fun j => ?_, fun j => ?_, fun j => ?_, fun j => ?_, fun j => ?_, ?_, ?_,
      fun q => ?_, fun q => ?_⟩
    · exact fs.nodes_eq.trans (by rw [hdrop])
    · have hptr : s₂.nextPtr = s₁.nextPtr := by rw [fs.rest]
      exact hptr.trans (by rw [hdrop])
    · rw [hnode₃]
      exact (fs.name j).trans (by rw [hnode₁])
    · rw [hnode₃]
      exact (fs.agentBus j).trans (by rw [hnode₁])
    · have hallowed : (s₂.node j).allowedProxyTargets = (s₁.node j).allowedProxyTargets := by
        rw [fs.node j]
      rw [hnode₃]
      exact hallowed.trans (by rw [hnode₁])
    · have hlists : (s₂.node j).proxyMonitors = (s.node j).proxyMonitors :=
        (fs.proxyMonitors j).trans (by rw [hnode₁])
      rw [hnode₃]
      simp only [hlists]
    · have hdeps : (s₂.node j).proxyDependencies = (s₁.node j).proxyDependencies := by
        rw [fs.node j]
      rw [hnode₃]
      exact hdeps.trans (by rw [hnode₁])
    · exact fs.proxyMonitor_eq.trans hproxy₁
    · exact hall₂.trans (by rw [hall₁])
    · exact (hproxyRefs q).1.trans (by rw [hrefs₁])
    · exact (hproxyRefs q).2.trans (by rw [hdrop])
  exact ⟨hremoved, hbar₃.registry, hbar₃.held, hbar₃.connected, hbar₃.forListed, hbar₃.detached, hbar₃.indexed,
    hbar₃.owned, hremoved.proxied h.proxied h.owned.allNodup hp,
    hremoved.counted h.registry.nodesNodup h.proxied h.counted hp⟩

/-- `node_remove_proxy_monitor` of a listed proxy monitor. -/
theorem Consistent.nodeRemoveProxyMonitor (h : Consistent gap s)
    (hp : p ∈ (s.node k).proxyMonitors) :
    Consistent gap (nodeRemoveProxyMonitor Controller.nodeUnref s k p) ∧
      ∃ t, ProxyRemoved s k p t ∧
        UnrefFrame p t (Controller.nodeRemoveProxyMonitor Controller.nodeUnref s k p) := by
  obtain ⟨hremoved, hcons⟩ := proxyRemoved_unlist h hp
  have hout : ∀ j, p ∉ ((((s.proxyMonitorDropDep p).removeSubscription
      ((s.proxyMonitorDropDep p).proxyMonitor p).subscription).unlistProxyMonitor k p).node
      j).proxyMonitors := fun j hmem =>
    ((hremoved.mem_lists h.proxied hp j p).mp hmem).1 rfl
  have hlist := (h.proxied.listed k p hp).held
  rw [← hremoved.proxyRefs p] at hlist
  exact ⟨hcons.proxyMonitorUnref hlist (fun _ => hout) (by simp), _, hremoved,
    hcons.proxyMonitorUnref_frame hlist (fun _ => hout) (by simp)⟩

end

/-- What a step leaves alone that touches no connection of a listed node. -/
structure KeepsNodes (s s' : Controller) : Prop where
  nodes : s'.nodes = s.nodes
  anonymousNodes : s'.anonymousNodes = s.anonymousNodes
  name : ∀ n, (s'.node n).name = (s.node n).name
  agentBus : ∀ n ∈ s.nodes, (s'.node n).agentBus = (s.node n).agentBus

namespace KeepsNodes

lemma refl (s : Controller) : KeepsNodes s s := ⟨rfl, rfl, fun _ => rfl, fun _ _ => rfl⟩

lemma trans {s'' : Controller} (h : KeepsNodes s s') (h' : KeepsNodes s' s'') :
    KeepsNodes s s'' where
  nodes := h'.nodes.trans h.nodes
  anonymousNodes := h'.anonymousNodes.trans h.anonymousNodes
  name n := (h'.name n).trans (h.name n)
  agentBus n hn := (h'.agentBus n (h.nodes.symm ▸ hn)).trans (h.agentBus n hn)

end KeepsNodes

lemma keepsNodes_nodeRemoveProxyMonitor (h : Consistent gap s)
    (hp : p ∈ (s.node k).proxyMonitors) :
    KeepsNodes s (nodeRemoveProxyMonitor nodeUnref s k p) := by
  obtain ⟨-, t, hremoved, hunref⟩ := h.nodeRemoveProxyMonitor hp
  have hframe := proxyFrame_nodeRemoveProxyMonitor proxyFrame_nodeUnref s k p
  refine ⟨by rw [hframe.rest], by rw [hframe.rest], fun n => (hframe.node n).name_eq,
    fun n hn => ?_⟩
  rw [hunref.node n (hremoved.nodes.symm ▸ hn)]
  exact hremoved.agentBus n

/-- The loop that removes all proxy monitors of a node. -/
theorem Consistent.removeProxyMonitors (h : Consistent gap s) (n : NodeId) :
    Consistent gap ((s.node n).proxyMonitors.foldl
      (fun s p => Controller.nodeRemoveProxyMonitor Controller.nodeUnref s n p) s) ∧
    KeepsNodes s ((s.node n).proxyMonitors.foldl
      (fun s p => Controller.nodeRemoveProxyMonitor Controller.nodeUnref s n p) s) := by
  have hloop : ∀ (ps : List ProxyMonitorId) (t : Controller), Consistent gap t → ps.Nodup →
      (∀ p ∈ ps, p ∈ (t.node n).proxyMonitors) → Consistent gap (ps.foldl
        (fun s p => Controller.nodeRemoveProxyMonitor Controller.nodeUnref s n p) t) ∧
      KeepsNodes t (ps.foldl
        (fun s p => Controller.nodeRemoveProxyMonitor Controller.nodeUnref s n p) t) := by
    intro ps
    induction ps with
    | nil => exact fun t ht _ _ => ⟨ht, .refl t⟩
    | cons p ps ih =>
      intro t ht hnodup hps
      rw [List.nodup_cons] at hnodup
      have hp := hps p (by simp)
      obtain ⟨hround, u, hremoved, hunref⟩ := ht.nodeRemoveProxyMonitor hp
      obtain ⟨hcons, hkeeps⟩ := ih _ hround hnodup.2 fun q hq => by
        rw [hunref.proxyMonitors, hremoved.mem_lists ht.proxied hp]
        refine ⟨?_, hps q (by simp [hq])⟩
        rintro rfl
        exact hnodup.1 hq
      exact ⟨hcons, (keepsNodes_nodeRemoveProxyMonitor ht hp).trans hkeeps⟩
  exact hloop _ s h (h.proxied.nodup n) fun _ hp => hp

/-! ## Putting a proxy monitor in a list -/

/-- A proxy monitor that was made for node `n` and is in no list yet. -/
structure FreshProxy (s : Controller) (n : NodeId) (p : ProxyMonitorId)
    (targetNodeName unit : String) : Prop where
  node : (s.proxyMonitor p).node = n
  unitName : (s.proxyMonitor p).unitName = unit
  addedDep : (s.proxyMonitor p).addedDep = false
  target : (s.proxyMonitor p).targetNode = none
  monitor : (s.proxyMonitor p).subscription.monitor = .proxy p
  nodeName : (s.proxyMonitor p).subscription.node = targetNodeName
  units : (s.proxyMonitor p).subscription.units = [unit]
  ptr : (s.proxyMonitor p).subscription.ptr ∉ s.allSubscriptions.map (·.ptr)
  lt : (s.proxyMonitor p).subscription.ptr < s.nextPtr
  held : .creator ∈ (s.refs (.proxyMonitor p)).owners

lemma FreshProxy.unlisted {n : NodeId} {p : ProxyMonitorId} {name unit : String}
    (f : FreshProxy s n p name unit) (h : Proxied s) (k : NodeId) :
    p ∉ (s.node k).proxyMonitors := fun hp => by
  have hadded := (h.listed k p hp).addedDep
  rw [f.addedDep] at hadded
  simp at hadded

/-- What changes when proxy monitor `p` gets the target `t` and enters the list of node `n`. -/
structure ProxyAdded (s : Controller) (n : NodeId) (p : ProxyMonitorId) (t : NodeId)
    (s' : Controller) : Prop where
  nodes : s'.nodes = s.nodes
  nextPtr : s'.nextPtr = s.nextPtr
  name : ∀ j, (s'.node j).name = (s.node j).name
  allowed : ∀ j, (s'.node j).allowedProxyTargets = (s.node j).allowedProxyTargets
  lists : ∀ j, (s'.node j).proxyMonitors =
    if j = n then (s.node j).proxyMonitors ++ [p] else (s.node j).proxyMonitors
  deps : ∀ j, (s'.node j).proxyDependencies =
    if j = t then incDependency (s.node j).proxyDependencies (s.proxyMonitor p).unitName
    else (s.node j).proxyDependencies
  proxyMonitor : s'.proxyMonitor = Function.update s.proxyMonitor p
    { s.proxyMonitor p with targetNode := some t, addedDep := true }
  all : s'.allSubscriptions = s.allSubscriptions ++ [(s.proxyMonitor p).subscription]
  refs : ∀ q, ∃ j c : ℕ, c ≤ j ∧ (q ≠ p → j = 0) ∧
    s'.refs (.proxyMonitor q) =
      (if q = p then ((s.refs (.proxyMonitor q)).refs .call j).ref .list
        else s.refs (.proxyMonitor q)) ∧
    s'.proxyCalls.count q = s.proxyCalls.count q + c

namespace ProxyAdded

variable {n : NodeId} {p : ProxyMonitorId} {t : NodeId} {name unit : String}
  (f : ProxyAdded s n p t s') (hp : FreshProxy s n p name unit)

include f

lemma proxyMonitor_ne {q : ProxyMonitorId} (hq : q ≠ p) : s'.proxyMonitor q = s.proxyMonitor q := by
  rw [f.proxyMonitor, Function.update_of_ne hq]

lemma proxyMonitor_self : s'.proxyMonitor p =
    { s.proxyMonitor p with targetNode := some t, addedDep := true } := by
  rw [f.proxyMonitor, Function.update_self]

include hp

lemma proxied (h : Proxied s) (hn : n ∈ s.nodes) (ht : t ∈ s.nodes)
    (hname : (s.node t).name = some name) (hallowed : name ∈ (s.node n).allowedProxyTargets)
    (hnew : ∀ q ∈ (s.node n).proxyMonitors, (s.proxyMonitor q).targetNode = some t →
      (s.proxyMonitor q).unitName ≠ unit) : Proxied s' := by
  have hout := hp.unlisted h
  have hmem : ∀ j q, q ∈ (s'.node j).proxyMonitors ↔
      q ∈ (s.node j).proxyMonitors ∨ j = n ∧ q = p := by
    intro j q
    rw [f.lists]
    by_cases hj : j = n
    · simp [hj]
    · simp [hj]
  have hne : ∀ j, ∀ q ∈ (s.node j).proxyMonitors, q ≠ p := by
    rintro j q hq rfl
    exact hout j hq
  have hrefs : ∀ q o, o ∈ (s.refs (.proxyMonitor q)).owners →
      o ∈ (s'.refs (.proxyMonitor q)).owners := by
    intro q o ho
    obtain ⟨j, c, -, -, heq, -⟩ := f.refs q
    rw [heq]
    split
    · rw [RefCount.owners_ref]
      exact List.mem_cons_of_mem _ (RefCount.mem_owners_refs ho _ _)
    · exact ho
  refine ⟨fun j q hq => ?_, fun j => ?_, fun j q hq q' hq' htarget hunit => ?_, fun q hq => ?_,
    fun sub hsub q hmon => ?_, fun q => ?_, fun q => ?_, fun q => ?_, fun q hq => ?_,
    fun q hq => ?_⟩
  · rcases (hmem j q).mp hq with hold | ⟨rfl, rfl⟩
    · obtain ⟨h1, h2, ⟨u, hu, htarget, huname⟩, h4, h5, h6, h7, h8, h9⟩ := h.listed j q hold
      rw [← f.proxyMonitor_ne (hne j q hold)] at h2 htarget huname h4 h5 h6 h7 h8
      refine ⟨f.nodes ▸ h1, h2, ⟨u, f.nodes ▸ hu, htarget, (f.name u).trans huname⟩,
        (f.allowed j).symm ▸ h4, h5, h6, h7, ?_, hrefs q _ h9⟩
      rw [f.all]
      exact List.mem_append_left _ h8
    · have hself := f.proxyMonitor_self
      refine ⟨f.nodes ▸ hn, ?_, ⟨t, f.nodes ▸ ht, ?_, ?_⟩, ?_, ?_, ?_, ?_, ?_, ?_⟩
      · rw [hself]
        exact hp.node
      · rw [hself]
      · rw [hself, f.name]
        exact hname.trans (congrArg some hp.nodeName.symm)
      · rw [hself, f.allowed]
        exact hp.nodeName.symm ▸ hallowed
      · rw [hself]
      · rw [hself]
        exact hp.units.trans (by rw [hp.unitName])
      · rw [hself]
        exact hp.monitor
      · rw [hself, f.all]
        simp
      · obtain ⟨i, c, -, -, heq, -⟩ := f.refs q
        rw [heq, if_pos rfl, RefCount.owners_ref]
        simp
  · rw [f.lists]
    split
    · refine List.nodup_append.mpr ⟨h.nodup j, by simp, fun a ha b hb => ?_⟩
      rw [List.mem_singleton] at hb
      rintro rfl
      exact hout j (hb ▸ ha)
    · exact h.nodup j
  · rcases (hmem j q).mp hq with hold | ⟨hjn, hqp⟩
    · rcases (hmem j q').mp hq' with hold' | ⟨hjn', hqp'⟩
      · rw [f.proxyMonitor_ne (hne j q hold), f.proxyMonitor_ne (hne j q' hold')] at htarget hunit
        exact h.unique j q hold q' hold' htarget hunit
      · subst hqp' hjn'
        rw [f.proxyMonitor_ne (hne j q hold), f.proxyMonitor_self] at htarget hunit
        exact absurd (hunit.trans hp.unitName) (hnew q hold htarget)
    · subst hqp hjn
      rcases (hmem j q').mp hq' with hold' | ⟨-, hqp'⟩
      · rw [f.proxyMonitor_ne (hne j q' hold'), f.proxyMonitor_self] at htarget hunit
        exact absurd (hunit.symm.trans hp.unitName) (hnew q' hold' htarget.symm)
      · exact hqp'.symm
  · by_cases hqp : q = p
    · subst hqp
      rw [f.proxyMonitor_self]
      exact (hmem _ q).mpr (Or.inr ⟨hp.node, rfl⟩)
    · rw [f.proxyMonitor_ne hqp] at hq ⊢
      exact (hmem _ q).mpr (Or.inl (h.added q hq))
  · rw [f.all] at hsub
    rcases List.mem_append.mp hsub with hold | hself
    · obtain ⟨hlisted, heq⟩ := h.owner sub hold q hmon
      rw [f.proxyMonitor_ne (hne _ q hlisted)]
      exact ⟨(hmem _ q).mpr (Or.inl hlisted), heq⟩
    · rw [List.mem_singleton] at hself
      rw [hself, hp.monitor, MonitorRef.proxy.injEq] at hmon
      subst hmon
      rw [f.proxyMonitor_self]
      exact ⟨(hmem _ p).mpr (Or.inr ⟨hp.node, rfl⟩), hself.symm⟩
  · by_cases hqp : q = p
    · subst hqp
      rw [f.proxyMonitor_self]
      exact ⟨q, hp.monitor⟩
    · rw [f.proxyMonitor_ne hqp]
      exact h.proxy q
  · obtain ⟨i, c, -, -, heq, -⟩ := f.refs q
    rw [heq]
    split
    · exact ((h.wf q).refs _ _).ref _
    · exact h.wf q
  · obtain ⟨i, c, hle, hzero, heq, hcalls⟩ := f.refs q
    have hold := h.calls q
    rw [heq, hcalls]
    split
    · rw [RefCount.owners_ref, List.count_cons_of_ne (by simp), RefCount.refs, List.count_append,
        List.count_replicate_self]
      omega
    · rename_i hqp
      have hi := hzero hqp
      omega
  · rw [f.nextPtr] at hq
    have hold := h.fresh q hq
    have hqp : q ≠ p := by
      rintro rfl
      have hnil := h.unheld q hq
      rw [List.eq_nil_iff_forall_not_mem] at hnil
      exact hnil _ hp.held
    rw [f.proxyMonitor_ne hqp]
    exact hold
  · rw [f.nextPtr] at hq
    have hnil := h.unheld q hq
    have hqp : q ≠ p := by
      rintro rfl
      rw [List.eq_nil_iff_forall_not_mem] at hnil
      exact hnil _ hp.held
    obtain ⟨i, c, -, -, heq, -⟩ := f.refs q
    rw [heq, if_neg hqp]
    exact hnil

lemma counted (hnodup : s.nodes.Nodup) (hpro : Proxied s) (h : Counted s) (hn : n ∈ s.nodes) :
    Counted s' := by
  have hout := hp.unlisted hpro
  have hwatches : ∀ u unit' j, ∀ q ∈ (s.node j).proxyMonitors,
      s'.Watches u unit' q = s.Watches u unit' q := by
    intro u unit' j q hq
    have hqp : q ≠ p := by
      rintro rfl
      exact hout j hq
    rw [Watches, f.proxyMonitor_ne hqp, Watches]
  have hcount : ∀ u unit', s'.proxyCount u unit' =
      s.proxyCount u unit' + if s'.Watches u unit' p = true then 1 else 0 := fun u unit' =>
    proxyCount_append hnodup hn f.nodes f.lists (hwatches u unit')
  have hself := f.proxyMonitor_self
  refine ⟨fun u hu unit' => ?_, fun u => ?_, fun u => ?_⟩
  · rw [f.nodes] at hu
    have hold := h.count u hu unit'
    rw [hcount, depCount_eq, f.deps]
    rw [depCount_eq] at hold
    by_cases hut : u = t
    · subst hut
      rw [if_pos rfl, countIn_incDependency, hold]
      by_cases hunit : unit' = (s.proxyMonitor p).unitName
      · rw [if_pos hunit, if_pos (by simp [Watches, hself, hunit])]
        push_cast
        rfl
      · rw [if_neg hunit, if_neg (by simp [Watches, hself, Ne.symm hunit])]
        rfl
    · rw [if_neg hut, if_neg (by simp [Watches, hself, Ne.symm hut]), hold]
      rfl
  · rw [f.deps]
    split
    · exact keys_incDependency (h.keys u) _
    · exact h.keys u
  · rw [f.deps]
    split
    · exact pos_incDependency (h.pos u) _
    · exact h.pos u

end ProxyAdded

section

variable {n : NodeId} {p : ProxyMonitorId} {t : NodeId} {name unit : String}

/-- `proxy_monitor_set_target_node`. -/
lemma proxyMonitorSetTargetNode_eq (s : Controller) (p : ProxyMonitorId) (t : NodeId) :
    s.proxyMonitorSetTargetNode p t = { s with
      node := Function.update s.node t { s.node t with
        proxyDependencies := incDependency (s.node t).proxyDependencies
          (s.proxyMonitor p).unitName }
      proxyMonitor := Function.update s.proxyMonitor p
        { s.proxyMonitor p with targetNode := some t, addedDep := true }
      refs := Function.update s.refs (.node t) ((s.refs (.node t)).ref (.proxyMonitor p))
      log := (s.proxyMonitorSetTargetNode p t).log } := by
  have hdep := nodeAddProxyDependency_eq ((s.takeRef (.node t) (.proxyMonitor p)).modifyProxyMonitor p
    fun monitor => { monitor with targetNode := some t }) t (s.proxyMonitor p).unitName
  have hunit : (((s.takeRef (.node t) (.proxyMonitor p)).modifyProxyMonitor p
      fun monitor => { monitor with targetNode := some t }).proxyMonitor p).unitName =
      (s.proxyMonitor p).unitName := by simp
  unfold proxyMonitorSetTargetNode
  simp only [hunit]
  generalize ((s.takeRef (.node t) (.proxyMonitor p)).modifyProxyMonitor p
    fun monitor => { monitor with targetNode := some t }).nodeAddProxyDependency t
      (s.proxyMonitor p).unitName = s' at hdep ⊢
  rw [hdep]
  simp [modifyProxyMonitor, takeRef]

/-- The lists and counts after a new proxy monitor is filed. -/
lemma proxyAdded_append (h : Consistent gap s) (hp : FreshProxy s n p name unit) (hn : n ∈ s.nodes)
    (ht : t ∈ s.nodes) (hname : (s.node t).name = some name)
    (hallowed : name ∈ (s.node n).allowedProxyTargets)
    (hnew : ∀ q ∈ (s.node n).proxyMonitors, (s.proxyMonitor q).targetNode = some t →
      (s.proxyMonitor q).unitName ≠ unit) :
    Consistent gap (((s.proxyMonitorSetTargetNode p t).addSubscription
      ((s.proxyMonitorSetTargetNode p t).proxyMonitor p).subscription).appendProxyMonitor n p) ∧
    Owner.creator ∈ ((((s.proxyMonitorSetTargetNode p t).addSubscription
      ((s.proxyMonitorSetTargetNode p t).proxyMonitor p).subscription).appendProxyMonitor n p).refs
        (.proxyMonitor p)).owners := by
  have hset := proxyMonitorSetTargetNode_eq s p t
  generalize s.proxyMonitorSetTargetNode p t = s₁ at hset ⊢
  have hproxy₁ : s₁.proxyMonitor = Function.update s.proxyMonitor p
      { s.proxyMonitor p with targetNode := some t, addedDep := true } := by rw [hset]
  have hsub : (s₁.proxyMonitor p).subscription = (s.proxyMonitor p).subscription := by
    rw [hproxy₁, Function.update_self]
  rw [hsub]
  have hnode₁ : ∀ j, s₁.node j = { s.node j with
      proxyDependencies := if j = t then
          incDependency (s.node j).proxyDependencies (s.proxyMonitor p).unitName
        else (s.node j).proxyDependencies } := by
    intro j
    rw [hset]
    by_cases hj : j = t
    · subst hj
      simp
    · simp [hj]
  have hrefs₁ : s₁.refs = (s.takeRef (.node t) (.proxyMonitor p)).refs := by rw [hset]; rfl
  have hproxyRefs₁ : ∀ q, s₁.refs (.proxyMonitor q) = s.refs (.proxyMonitor q) := fun q => by
    rw [hrefs₁]
    simp
  -- the target is held from now on
  have hheld₁ : Held s₁ := by
    have htake := h.held.takeRef_node (h.registry.fresh t (Or.inl ht)) (.proxyMonitor p)
    refine ⟨fun k => by rw [hrefs₁]; exact htake.wf k, fun k o hneed => ?_, fun q hq k => ?_,
      fun q => ?_, fun k hk => ?_⟩
    · rw [hrefs₁]
      by_cases ho : o = .proxyMonitor p
      · subst ho
        have htarget := hneed.2
        rw [hproxy₁, Function.update_self] at htarget
        have hkt : t = k := Option.some.inj htarget
        subst hkt
        simp
      · refine htake.owners k o ?_
        cases o with
        | creator =>
          rw [hset] at hneed
          exact hneed
        | request r =>
          rw [hset] at hneed
          simpa [Needed] using hneed
        | proxyMonitor q =>
          have hqp : q ≠ p := by
            rintro rfl
            exact ho rfl
          simp only [Needed, hproxyRefs₁, hproxy₁, Function.update_of_ne hqp] at hneed
          simpa [Needed] using hneed
        | _ => simp [Needed] at hneed
    · rw [hset] at hq ⊢
      exact htake.fleet q hq k
    · rw [hset]
      exact htake.slots q
    · rw [hrefs₁]
      rw [hset] at hk
      exact htake.fresh k hk
  have hbar₁ : BarProxies gap s₁ := h.barProxies.of_proxies ⟨by rw [hset], fun j => by
    rw [hnode₁]
    rfl⟩ hheld₁ fun j hj => by
      have hne : j ≠ t := by
        rintro rfl
        exact hj ht
      rw [hrefs₁]
      simp [hne]
  have hall₁ : s₁.allSubscriptions = s.allSubscriptions := by rw [hset]
  have hcalls₁ : s₁.proxyCalls = s.proxyCalls := by rw [hset]
  have hptr₁ : s₁.nextPtr = s.nextPtr := by rw [hset]
  have hnotMem : (s.proxyMonitor p).subscription ∉ s₁.allSubscriptions := by
    rw [hall₁]
    exact fun hmem => hp.ptr (List.mem_map_of_mem hmem)
  -- the subscription is added
  have fs := subscriptionFrame_addSubscription s₁ (s.proxyMonitor p).subscription
  have hall₂ := addSubscription_allSubscriptions hbar₁.registry (s.proxyMonitor p).subscription
  have hself : ∀ q, (s.proxyMonitor p).subscription.monitor = .proxy q → q = p := by
    intro q hq
    rw [hp.monitor, MonitorRef.proxy.injEq] at hq
    exact hq.symm
  have hbar₂ := hbar₁.of_subscription fs
    (fun q hq => by
      rw [hself q hq, hproxyRefs₁]
      exact (h.proxied.wf p).count_pos hp.held)
    (hbar₁.indexed.addSubscription hbar₁.registry hnotMem)
    (by
      rw [hall₂, hall₁, List.map_append, List.nodup_append]
      refine ⟨h.owned.ptrs, by simp, fun a ha b hb => ?_⟩
      rw [List.map_singleton, List.mem_singleton] at hb
      rintro rfl
      exact hp.ptr (hb ▸ ha))
    (fun sub hmem => by
      rw [hall₂, hall₁] at hmem
      rw [hptr₁]
      rcases List.mem_append.mp hmem with hold | hself'
      · exact h.owned.fresh sub hold
      · rw [List.mem_singleton] at hself'
        exact hself' ▸ hp.lt)
    (fun m sub hclient => by
      have hne : sub ≠ (s.proxyMonitor p).subscription := by
        rintro rfl
        rw [hp.monitor] at hclient
        simp at hclient
      rw [hall₂]
      simp [hne])
  generalize s₁.addSubscription (s.proxyMonitor p).subscription = s₂ at fs hall₂ hbar₂ ⊢
  -- the proxy monitor enters the list
  have hnode₃ : ∀ j, (s₂.appendProxyMonitor n p).node j = { s₂.node j with
      proxyMonitors := if j = n then (s₂.node j).proxyMonitors ++ [p]
        else (s₂.node j).proxyMonitors } := by
    intro j
    unfold appendProxyMonitor
    by_cases hj : j = n
    · subst hj
      simp
    · simp [hj]
  have hcalls₂ : ∀ q, ∃ j c : ℕ, c ≤ j ∧ (q ≠ p → j = 0) ∧
      s₂.refs (.proxyMonitor q) = (s.refs (.proxyMonitor q)).refs .call j ∧
      s₂.proxyCalls.count q = s.proxyCalls.count q + c := by
    intro q
    obtain ⟨j, c, hle, htold, hrefs, hcalls⟩ := fs.calls q
    refine ⟨j, c, hle, fun hq => ?_, by rw [hrefs, hproxyRefs₁], by rw [hcalls, hcalls₁]⟩
    by_contra hj
    exact hq (hself q (htold hj))
  have hheld₃ : Held (s₂.appendProxyMonitor n p) := by
    have hpos : 0 < (s₂.refs (.proxyMonitor p)).count := by
      obtain ⟨j, c, -, -, hrefs, -⟩ := hcalls₂ p
      rw [hrefs]
      exact ((h.proxied.wf p).refs _ _).count_pos (RefCount.mem_owners_refs hp.held _ _)
    refine hbar₂.held.of_needed (fun k => ?_) (fun k o hneed => ?_) rfl (le_refl _)
    · unfold appendProxyMonitor
      simp
    · refine hneed.mono rfl rfl rfl rfl (fun r hr => ?_) fun q hq => ?_
      · simpa [appendProxyMonitor] using hr
      · by_cases hqp : q = p
        · exact hqp ▸ hpos
        · simpa [appendProxyMonitor, hqp] using hq
  have hbar₃ : BarProxies gap (s₂.appendProxyMonitor n p) := hbar₂.of_proxies ⟨rfl, fun j => by
    rw [hnode₃]
    rfl⟩ hheld₃ fun j _ => by simp [appendProxyMonitor]
  have hadded : ProxyAdded s n p t (s₂.appendProxyMonitor n p) := by
    refine ⟨?_, ?_, fun j => ?_, fun j => ?_, fun j => ?_, fun j => ?_, ?_, ?_, fun q => ?_⟩
    · exact fs.nodes_eq.trans (by rw [hset])
    · have hptr : s₂.nextPtr = s₁.nextPtr := by rw [fs.rest]
      exact hptr.trans hptr₁
    · rw [hnode₃]
      exact (fs.name j).trans (by rw [hnode₁])
    · have hallow : (s₂.node j).allowedProxyTargets = (s₁.node j).allowedProxyTargets := by
        rw [fs.node j]
      rw [hnode₃]
      exact hallow.trans (by rw [hnode₁])
    · have hlists : (s₂.node j).proxyMonitors = (s.node j).proxyMonitors :=
        (fs.proxyMonitors j).trans (by rw [hnode₁])
      rw [hnode₃]
      simp only [hlists]
    · have hdeps : (s₂.node j).proxyDependencies = (s₁.node j).proxyDependencies := by
        rw [fs.node j]
      rw [hnode₃]
      exact hdeps.trans (by rw [hnode₁])
    · exact fs.proxyMonitor_eq.trans hproxy₁
    · exact hall₂.trans (by rw [hall₁])
    · obtain ⟨j, c, hle, hzero, hrefs, hcalls⟩ := hcalls₂ q
      refine ⟨j, c, hle, hzero, ?_, hcalls⟩
      by_cases hqp : q = p
      · subst hqp
        rw [if_pos rfl, ← hrefs]
        simp [appendProxyMonitor]
      · have hj := hzero hqp
        rw [if_neg hqp]
        rw [hj, RefCount.refs_zero] at hrefs
        rw [← hrefs]
        simp [appendProxyMonitor, hqp]
  refine ⟨⟨hbar₃.registry, hbar₃.held, hbar₃.connected, hbar₃.forListed, hbar₃.detached, hbar₃.indexed, hbar₃.owned,
    hadded.proxied hp h.proxied hn ht hname hallowed hnew,
    hadded.counted hp h.registry.nodesNodup h.proxied h.counted hn⟩, ?_⟩
  obtain ⟨j, c, -, -, hrefs, -⟩ := hadded.refs p
  rw [hrefs, if_pos rfl, RefCount.owners_ref]
  exact List.mem_cons_of_mem _ (RefCount.mem_owners_refs hp.held _ _)

/-! ## The handlers of the proxy signals -/

/-- The memory of a proxy monitor that is in no list is taken for a new one. -/
lemma renewProxyMonitor (h : Consistent gap s) {p : ℕ} (hlt : p < s.nextPtr)
    (hout : ∀ k, p ∉ (s.node k).proxyMonitors) (hcalls : s.proxyCalls.count p = 0)
    (monitor : ProxyMonitor) (hadded : monitor.addedDep = false) (htarget : monitor.targetNode = none)
    (hsub : ∃ q, monitor.subscription.monitor = .proxy q) :
    Consistent gap { s.newRef (.proxyMonitor p) with
      proxyMonitor := Function.update s.proxyMonitor p monitor } := by
  have hne : ∀ k, ∀ q ∈ (s.node k).proxyMonitors, q ≠ p := by
    rintro k q hq rfl
    exact hout k hq
  have hheld : Held { s.newRef (.proxyMonitor p) with
      proxyMonitor := Function.update s.proxyMonitor p monitor } := by
    refine h.held.of_needed (fun n => by simp) (fun n o hneed => ?_) rfl (le_refl _)
    cases o with
    | creator => exact hneed
    | request r => simpa [Needed] using hneed
    | proxyMonitor q =>
      by_cases hq : q = p
      · subst hq
        simp [Needed, htarget] at hneed
      · simpa [Needed, hq] using hneed
    | _ => exact hneed
  have hbar : BarProxies gap { s.newRef (.proxyMonitor p) with
      proxyMonitor := Function.update s.proxyMonitor p monitor } :=
    h.barProxies.of_proxies ⟨rfl, fun _ => rfl⟩ hheld fun j _ => by simp
  obtain ⟨h1, h2, h3, h4, h5, h6, h7⟩ := hbar
  refine ⟨h1, h2, h3, h4, h5, h6, h7, ⟨fun k q hq => ?_, h.proxied.nodup, fun k q hq q' hq' ht hu => ?_,
    fun q hq => ?_, fun sub hmem q hq => ?_, fun q => ?_, fun q => ?_, fun q => ?_, fun q hq => ?_,
    fun q hq => ?_⟩, ⟨fun t ht unit' => ?_, h.counted.keys, h.counted.pos⟩⟩
  · obtain ⟨g1, g2, g3, g4, g5, g6, g7, g8, g9⟩ := h.proxied.listed k q hq
    have hself : Function.update s.proxyMonitor p monitor q = s.proxyMonitor q :=
      Function.update_of_ne (hne k q hq) _ _
    refine ⟨g1, by simpa only [hself], by simpa only [hself], by simpa only [hself],
      by simpa only [hself], by simpa only [hself], by simpa only [hself], by simpa only [hself], ?_⟩
    simpa [hne k q hq] using g9
  · simp only [Function.update_of_ne (hne k q hq), Function.update_of_ne (hne k q' hq')] at ht hu
    exact h.proxied.unique k q hq q' hq' ht hu
  · by_cases hqp : q = p
    · subst hqp
      simp [hadded] at hq
    · simp only [Function.update_of_ne hqp] at hq ⊢
      exact h.proxied.added q hq
  · obtain ⟨hlisted, heq⟩ := h.proxied.owner sub hmem q hq
    simp only [Function.update_of_ne (hne _ q hlisted)]
    exact ⟨hlisted, heq⟩
  · by_cases hqp : q = p
    · subst hqp
      simpa using hsub
    · simpa [hqp] using h.proxied.proxy q
  · by_cases hqp : q = p
    · subst hqp
      simpa using RefCount.wf_new _
    · simpa [hqp] using h.proxied.wf q
  · by_cases hqp : q = p
    · subst hqp
      simp [hcalls]
    · simpa [hqp] using h.proxied.calls q
  · have hle : s.nextPtr ≤ q := hq
    have hqp : q ≠ p := by
      rintro rfl
      omega
    simpa [hqp] using h.proxied.fresh q hle
  · have hle : s.nextPtr ≤ q := hq
    have hqp : q ≠ p := by
      rintro rfl
      omega
    simpa [hqp] using h.proxied.unheld q hle
  · refine (h.counted.count t ht unit').trans ?_
    unfold proxyCount
    rw [Nat.cast_inj]
    refine congrArg List.sum (List.map_congr_left fun k _ => List.countP_congr fun q hq => ?_)
    simp only [Watches, Function.update_of_ne (hne k q hq)]

/-- A new proxy monitor is in no list. -/
lemma proxyMonitorNew_spec (h : Consistent gap s) (n : NodeId) (name unit path : String) :
    Consistent gap (s.proxyMonitorNew n name unit path) ∧
      FreshProxy (s.proxyMonitorNew n name unit path) n s.nextPtr name unit := by
  have hcalls : s.proxyCalls.count s.nextPtr = 0 := by
    have hle := h.proxied.calls s.nextPtr
    rw [h.proxied.unheld s.nextPtr (le_refl _)] at hle
    exact Nat.le_zero.mp hle
  have hout : ∀ k, s.nextPtr ∉ (s.node k).proxyMonitors := by
    intro k hmem
    have hadded := (h.proxied.listed k s.nextPtr hmem).addedDep
    rw [h.proxied.fresh s.nextPtr (le_refl _)] at hadded
    simp at hadded
  have hmade : Consistent gap (((s.newRef (.subscription (s.nextPtr + 1))).busAlloc).busAlloc) :=
    ((h.of_frame (coreFrame_newRef s _ rfl)).of_frame (coreFrame_busAlloc _)).of_frame
      (coreFrame_busAlloc _)
  have hlt : s.nextPtr < (((s.newRef (.subscription (s.nextPtr + 1))).busAlloc).busAlloc).nextPtr :=
    Nat.lt_succ_of_lt (Nat.lt_succ_self _)
  have hrenew := renewProxyMonitor hmade (p := s.nextPtr) hlt hout hcalls
    ⟨n, ⟨s.nextPtr + 1, s.nextSubscriptionId + 1, .proxy s.nextPtr, name, [unit]⟩, false,
      unit, none, path⟩ rfl rfl ⟨_, rfl⟩
  have hframe : CoreFrame { (((s.newRef (.subscription (s.nextPtr + 1))).busAlloc).busAlloc).newRef
      (.proxyMonitor s.nextPtr) with
      proxyMonitor := Function.update s.proxyMonitor s.nextPtr
        ⟨n, ⟨s.nextPtr + 1, s.nextSubscriptionId + 1, .proxy s.nextPtr, name, [unit]⟩, false,
          unit, none, path⟩ } (s.proxyMonitorNew n name unit path) := by
    have hrefs : (s.proxyMonitorNew n name unit path).refs =
        ((((s.newRef (.subscription (s.nextPtr + 1))).busAlloc).busAlloc).newRef
          (.proxyMonitor s.nextPtr)).refs := by
      have hne : Obj.subscription (s.nextPtr + 1) ≠ .proxyMonitor s.nextPtr := by simp
      exact Function.update_comm hne.symm _ _ _
    refine .of_eq ?_
    unfold proxyMonitorNew at hrefs ⊢
    simp only at hrefs ⊢
    rw [hrefs]
    rfl
  refine ⟨hrenew.of_frame hframe, ⟨?_, ?_, ?_, ?_, ?_, ?_, ?_, ?_, ?_, ?_⟩⟩
  all_goals simp only [proxyMonitorNew, Function.update_self]
  · intro hmem
    obtain ⟨sub, hsub, hptr⟩ := List.mem_map.mp hmem
    have hlt' := h.owned.fresh sub hsub
    omega
  · omega
  · simp

/-- `node_find_proxy_monitor` finds a listed proxy monitor of that target and unit, if there is
one. -/
lemma nodeFindProxyMonitor_spec (h : Consistent gap s) (ht : t ∈ s.nodes)
    (hname : (s.node t).name = some name) (n : NodeId) (unit : String) (q : ProxyMonitorId)
    (hq : q ∈ (s.node n).proxyMonitors) :
    ((s.proxyMonitor q).targetNode.map s.nodeName = some name ∧ (s.proxyMonitor q).unitName = unit) ↔
      ((s.proxyMonitor q).targetNode = some t ∧ (s.proxyMonitor q).unitName = unit) := by
  obtain ⟨t', ht', htarget, htname⟩ := (h.proxied.listed n q hq).target
  refine and_congr_left fun _ => ?_
  rw [htarget, Option.map_some, Option.some.injEq, Option.some.injEq]
  constructor
  · intro heq
    refine h.registry.name_injective ht' ht ?_
    rw [nodeName, htname, Option.getD_some] at heq
    rw [htname, hname, heq]
  · rintro rfl
    rw [nodeName, hname, Option.getD_some]

/-- A unit of a target that no listed proxy monitor of the node watches any more. -/
def NoProxy (s : Controller) (n t : NodeId) (unit : String) : Prop :=
  ∀ q ∈ (s.node n).proxyMonitors, (s.proxyMonitor q).targetNode = some t →
    (s.proxyMonitor q).unitName ≠ unit

/-- The old proxy monitor of the same target and unit is removed. -/
lemma removeOld_spec (h : Consistent gap s) (hp : FreshProxy s n p name unit)
    (ht : t ∈ s.nodes) (hname : (s.node t).name = some name) :
    ∃ s', s' = (match s.nodeFindProxyMonitor n name unit with
      | some old => nodeRemoveProxyMonitor nodeUnref s n old
      | none => s) ∧ Consistent gap s' ∧ FreshProxy s' n p name unit ∧ s'.nodes = s.nodes ∧
      (∀ k ∈ s.nodes, (s'.node k).name = (s.node k).name ∧
        (s'.node k).allowedProxyTargets = (s.node k).allowedProxyTargets) ∧
      NoProxy s' n t unit := by
  refine ⟨_, rfl, ?_⟩
  unfold nodeFindProxyMonitor
  cases hfind : (s.node n).proxyMonitors.find? fun q =>
      ((s.proxyMonitor q).targetNode.map s.nodeName = some name) &&
        ((s.proxyMonitor q).unitName = unit) with
  | none =>
    refine ⟨h, hp, rfl, fun _ _ => ⟨rfl, rfl⟩, fun q hq htarget hunit => ?_⟩
    have hnot := List.find?_eq_none.mp hfind q hq
    have hspec := (nodeFindProxyMonitor_spec h ht hname n unit q hq).mpr ⟨htarget, hunit⟩
    simp [hspec.1, hspec.2] at hnot
  | some old =>
    have hold := List.mem_of_find?_eq_some hfind
    have hsome := List.find?_some hfind
    simp only [Bool.and_eq_true, decide_eq_true_eq] at hsome
    obtain ⟨htarget, hunit⟩ := (nodeFindProxyMonitor_spec h ht hname n unit old hold).mp hsome
    obtain ⟨hcons, u, hremoved, hunref⟩ := h.nodeRemoveProxyMonitor hold
    simp only
    generalize nodeRemoveProxyMonitor nodeUnref s n old = s' at hcons hunref ⊢
    have hpo : p ≠ old := by
      rintro rfl
      exact hp.unlisted h.proxied n hold
    have hmonitor : s'.proxyMonitor p = s.proxyMonitor p := by
      have hsame : s'.proxyMonitor = u.proxyMonitor := by rw [hunref.rest]
      rw [hsame, hremoved.proxyMonitor_ne hpo]
    have hnodes : s'.nodes = s.nodes := by
      have hsame : s'.nodes = u.nodes := by rw [hunref.rest]
      rw [hsame, hremoved.nodes]
    have hall : s'.allSubscriptions =
        s.allSubscriptions.erase (s.proxyMonitor old).subscription := by
      have hsame : s'.allSubscriptions = u.allSubscriptions := by rw [hunref.rest]
      rw [hsame, hremoved.all]
    have hptr : s'.nextPtr = s.nextPtr := by
      have hsame : s'.nextPtr = u.nextPtr := by rw [hunref.rest]
      rw [hsame, hremoved.nextPtr]
    obtain ⟨h1, h2, h3, h4, h5, h6, h7, h8, h9, h10⟩ := hp
    rw [← hmonitor] at h1 h2 h3 h4 h5 h6 h7 h8 h9
    refine ⟨hcons, ⟨h1, h2, h3, h4, h5, h6, h7, fun hmem => h8 ?_, hptr ▸ h9, ?_⟩, hnodes,
      fun k hk => ?_, fun q hq htarget' hunit' => ?_⟩
    · rw [hall] at hmem
      exact List.Sublist.subset (List.erase_sublist.map _) hmem
    · rw [hunref.proxyRefs p hpo, hremoved.proxyRefs]
      exact h10
    · have hsame := hunref.node k (hremoved.nodes.symm ▸ hk)
      rw [hsame]
      exact ⟨hremoved.name k, hremoved.allowed k⟩
    · rw [hunref.proxyMonitors, hremoved.mem_lists h.proxied hold] at hq
      have hsame : s'.proxyMonitor = u.proxyMonitor := by rw [hunref.rest]
      rw [hsame, hremoved.proxyMonitor_ne hq.1] at htarget' hunit'
      exact hq.1 (h.proxied.unique n q hq.2 old hold (htarget'.trans htarget.symm)
        (hunit'.trans hunit.symm))

/-- `node_on_match_proxy_new` up to the drop of the handler's own reference. -/
theorem onProxyMonitor_spec (h : Consistent gap s) (hn : n ∈ s.nodes)
    (hp : FreshProxy s n p name unit) :
    Consistent gap (s.onProxyMonitor n p name unit) ∧
      Owner.creator ∈ ((s.onProxyMonitor n p name unit).refs (.proxyMonitor p)).owners := by
  have herror : ∀ message, Consistent gap (s.proxyMonitorSendError p message) ∧
      Owner.creator ∈ ((s.proxyMonitorSendError p message).refs (.proxyMonitor p)).owners := by
    intro message
    have f : NotifyFrame (· = p) s (s.proxyMonitorSendError p message) :=
      notifyFrame_proxyMonitorCall s p rfl
    refine ⟨h.notify f fun q hq => ?_, ?_⟩
    · rw [hq]
      exact (h.proxied.wf p).count_pos hp.held
    · obtain ⟨j, c, -, -, hrefs, -⟩ := f.calls p
      rw [hrefs]
      exact RefCount.mem_owners_refs hp.held _ _
  unfold onProxyMonitor
  split
  · exact herror _
  · rename_i t hfind
    obtain ⟨ht, hname⟩ := (h.registry.findNode_eq_some_iff name t).mp hfind
    split
    · rename_i hallowed
      obtain ⟨s', heq, hcons, hp', hnodes, hsame, hnew⟩ := removeOld_spec h hp ht hname
      have hadded := proxyAdded_append hcons hp' (hnodes ▸ hn) (hnodes ▸ ht)
        ((hsame t ht).1.trans hname) ((hsame n hn).2.symm ▸ hallowed) hnew
      cases hold : s.nodeFindProxyMonitor n name unit with
      | none =>
        rw [hold] at heq
        subst heq
        exact hadded
      | some old =>
        rw [hold] at heq
        subst heq
        exact hadded
    · exact herror _

end

namespace Consistent

/-- `node_on_match_proxy_new`. -/
theorem nodeOnMatchProxyNew (h : Consistent gap s) {n : NodeId} (hn : n ∈ s.nodes)
    (targetNodeName unitName proxyObjectPath : String) :
    Consistent gap (s.nodeOnMatchProxyNew n targetNodeName unitName proxyObjectPath) := by
  obtain ⟨hnew, hfresh⟩ := proxyMonitorNew_spec h n targetNodeName unitName proxyObjectPath
  have hcore : (s.proxyMonitorNew n targetNodeName unitName proxyObjectPath).nodes = s.nodes := rfl
  obtain ⟨hcons, hheld⟩ := onProxyMonitor_spec hnew (hcore ▸ hn) hfresh
  exact hcons.proxyMonitorUnref hheld (by simp) (by simp)

/-- `node_on_match_proxy_removed`. -/
theorem nodeOnMatchProxyRemoved (h : Consistent gap s) (n : NodeId)
    (targetNodeName unitName : String) :
    Consistent gap (s.nodeOnMatchProxyRemoved n targetNodeName unitName) := by
  unfold Controller.nodeOnMatchProxyRemoved
  split
  · exact h
  · rename_i p hfind
    exact (h.nodeRemoveProxyMonitor (List.mem_of_find?_eq_some hfind)).1

/-- A call of a proxy monitor is answered: the reference of the call can be dropped. -/
lemma proxyAnswered (h : Consistent gap s) {p : ProxyMonitorId} (hp : p ∈ s.proxyCalls) :
    let answered : Controller := { s with proxyCalls := s.proxyCalls.erase p }
    Consistent gap answered ∧ .call ∈ (answered.refs (.proxyMonitor p)).owners ∧
      answered.proxyCalls.count p < (answered.refs (.proxyMonitor p)).owners.count .call := by
  have hcalls := h.proxied.calls p
  have hpos : 0 < s.proxyCalls.count p := List.count_pos_iff.mpr hp
  refine ⟨?_, List.count_pos_iff.mp (hpos.trans_le hcalls), ?_⟩
  · obtain ⟨hreg, hheld, hcon, hfor, hdet, hind, hown, hpro, hcnt⟩ := h
    refine ⟨⟨hreg.1, hreg.2, hreg.3, hreg.4, hreg.5, hreg.6, hreg.7⟩,
      ⟨hheld.1, fun n o hneed => hheld.2 n o (hneed.mono rfl rfl rfl rfl (fun _ hr => hr)
        fun _ hq => hq), hheld.3, hheld.4, hheld.5⟩, ⟨hcon.1, hcon.2, hcon.3, hcon.4⟩,
      ⟨hfor.1, hfor.2, hfor.3⟩, hdet, ⟨hind.1, hind.2⟩,
      ⟨hown.1, hown.2, hown.3, hown.4, hown.5, hown.6, hown.7⟩,
      ⟨fun k q hq => ?_, hpro.2, hpro.3, hpro.4, hpro.5, hpro.6, hpro.7, fun q => ?_, hpro.9,
        hpro.10⟩, ⟨hcnt.1, hcnt.2, hcnt.3⟩⟩
    · obtain ⟨h1, h2, h3, h4, h5, h6, h7, h8, h9⟩ := hpro.listed k q hq
      exact ⟨h1, h2, h3, h4, h5, h6, h7, h8, h9⟩
    · exact List.erase_sublist.count_le q |>.trans (hpro.calls q)
  · show (s.proxyCalls.erase p).count p < (s.refs (.proxyMonitor p)).owners.count .call
    rw [List.count_erase_self]
    omega

/-- The callbacks of the calls of a proxy monitor. -/
theorem proxyMonitorCallback (h : Consistent gap s) {p : ProxyMonitorId} {s' : Controller}
    (hstep : s.proxyMonitorCallback p = some s') : Consistent gap s' := by
  unfold Controller.proxyMonitorCallback at hstep
  split at hstep
  · rename_i hp
    obtain ⟨herase, howner, hcount⟩ := h.proxyAnswered hp
    rw [← Option.some.inj hstep]
    exact herase.proxyMonitorUnref howner (by simp) fun _ => hcount
  · simp at hstep

end Consistent

end Controller
end BlueChi
