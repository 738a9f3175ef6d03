import BlueChi.Controller.CoreFrames

/-!
# References of nodes, requests and proxy monitors

Dropping a reference keeps the invariant when its owner no longer needs the node. A node that
is in a list is never freed so, and a node that is freed has no table and no proxy monitor
left, so freeing it keeps the invariant as well.
-/

namespace BlueChi
namespace Controller

/-! ## The references of nodes -/

/-- Nodes are needed no more when no other request or proxy monitor has references. -/
lemma Needed.mono {s s' : Controller} {n : NodeId} {o : Owner} (h : Needed s' n o)
    (hnodes : s'.nodes = s.nodes) (hanonymous : s'.anonymousNodes = s.anonymousNodes)
    (hrequest : s'.request = s.request) (hproxy : s'.proxyMonitor = s.proxyMonitor)
    (hr : ∀ r, 0 < (s'.refs (.request r)).count → 0 < (s.refs (.request r)).count)
    (hp : ∀ p, 0 < (s'.refs (.proxyMonitor p)).count → 0 < (s.refs (.proxyMonitor p)).count) :
    Needed s n o := by
  cases o with
  | creator => simpa only [Needed, hnodes, hanonymous] using h
  | request r =>
    simp only [Needed, hrequest] at h ⊢
    exact ⟨hr r h.1, h.2⟩
  | proxyMonitor p =>
    simp only [Needed, hproxy] at h ⊢
    exact ⟨hp p h.1, h.2⟩
  | _ => exact h

namespace Held

variable {s s' : Controller}

lemma needed_dropRef_node {n m : NodeId} {o o' : Owner} (h : Needed (s.dropRef (.node m) o') n o) :
    Needed s n o :=
  h.mono rfl rfl rfl rfl (fun r hr => by simpa using hr) fun p hp => by simpa using hp

lemma needed_takeRef_node {n m : NodeId} {o o' : Owner} (h : Needed (s.takeRef (.node m) o') n o) :
    Needed s n o :=
  h.mono rfl rfl rfl rfl (fun r hr => by simpa using hr) fun p hp => by simpa using hp

/-- An owner that is not needed drops its reference. -/
theorem dropRef_node (h : Held s) {n : NodeId} {o : Owner} (ho : o ∈ (s.refs (.node n)).owners)
    (hneed : ¬Needed s n o)
    (hfleet : ∀ q, o = .fleet q → (s.fleet q).subReq.length ≤ (s.fleet q).nDone) :
    Held (s.dropRef (.node n) o) where
  wf n' := by
    by_cases hn : n' = n
    · subst hn
      simpa using (h.wf n').unref ho
    · simpa [hn] using h.wf n'
  owners n' o' hneed' := by
    have hmem := h.owners n' o' (needed_dropRef_node hneed')
    by_cases hn : n' = n
    · subst hn
      have hne : o' ≠ o := by
        rintro rfl
        exact hneed (needed_dropRef_node hneed')
      simpa using RefCount.mem_owners_unref hmem hne
    · simpa [hn] using hmem
  fleet q hq n' := by
    have hcount := h.fleet q hq n'
    by_cases hn : n' = n
    · subst hn
      have hne : o ≠ .fleet q := by
        rintro rfl
        exact absurd hq (not_lt.mpr (hfleet q rfl))
      simpa [List.count_erase_of_ne hne.symm] using hcount
    · simpa [hn] using hcount
  slots q := h.slots q
  fresh n' hn' := by
    have hne : n' ≠ n := by
      rintro rfl
      rw [h.fresh n' hn'] at ho
      simp at ho
    simpa [hne] using h.fresh n' hn'

theorem takeRef_node (h : Held s) {n : ℕ} (hn : n < s.nextPtr) (o : Owner) :
    Held (s.takeRef (.node n) o) where
  wf n' := by
    by_cases hn' : n' = n
    · subst hn'
      simpa using (h.wf n').ref o
    · simpa [hn'] using h.wf n'
  owners n' o' hneed := by
    have hmem := h.owners n' o' (needed_takeRef_node hneed)
    by_cases hn' : n' = n
    · subst hn'
      simp [hmem]
    · simpa [hn'] using hmem
  fleet q hq n' := by
    have hcount := h.fleet q hq n'
    by_cases hn' : n' = n
    · subst hn'
      simp only [takeRef_refs, Function.update_self, RefCount.owners_ref]
      exact hcount.trans List.count_le_count_cons
    · simpa [hn'] using hcount
  slots q := h.slots q
  fresh n' hn' := by
    have hlt : s.nextPtr ≤ n' := hn'
    have hne : n' ≠ n := by
      rintro rfl
      omega
    simpa [hne] using h.fresh n' hlt

/-- References of other objects matter as far as the nodes are needed no more than before. -/
theorem of_needed (h : Held s) (hrefs : ∀ n, s'.refs (.node n) = s.refs (.node n))
    (hneed : ∀ n o, Needed s' n o → Needed s n o) (hfleet : s'.fleet = s.fleet)
    (hptr : s.nextPtr ≤ s'.nextPtr) : Held s' where
  wf n := by
    rw [hrefs]
    exact h.wf n
  owners n o ho := by
    rw [hrefs]
    exact h.owners n o (hneed n o ho)
  fleet q hq n := by
    rw [hfleet] at hq ⊢
    rw [hrefs]
    exact h.fleet q hq n
  slots q := by
    rw [hfleet]
    exact h.slots q
  fresh n hn := by
    rw [hrefs]
    exact h.fresh n (hptr.trans hn)

theorem dropRef_request (h : Held s) (r : RequestId) (o : Owner) :
    Held (s.dropRef (.request r) o) := by
  refine h.of_needed (fun n => by simp) (fun n o' hneed => ?_) rfl (le_refl _)
  refine hneed.mono rfl rfl rfl rfl (fun r' hr' => ?_) fun p hp => by simpa using hp
  by_cases hr : r' = r
  · subst hr
    simp only [dropRef_refs, Function.update_self, RefCount.count_unref] at hr'
    omega
  · simpa [hr] using hr'

theorem dropRef_proxyMonitor (h : Held s) (p : ProxyMonitorId) (o : Owner) :
    Held (s.dropRef (.proxyMonitor p) o) := by
  refine h.of_needed (fun n => by simp) (fun n o' hneed => ?_) rfl (le_refl _)
  refine hneed.mono rfl rfl rfl rfl (fun r hr => by simpa using hr) fun p' hp' => ?_
  by_cases hp : p' = p
  · subst hp
    simp only [dropRef_refs, Function.update_self, RefCount.count_unref] at hp'
    omega
  · simpa [hp] using hp'

/-- A reference of a request that somebody holds. -/
theorem takeRef_request (h : Held s) {r : RequestId} (hr : 0 < (s.refs (.request r)).count)
    (o : Owner) : Held (s.takeRef (.request r) o) := by
  refine h.of_needed (fun n => by simp) (fun n o' hneed => ?_) rfl (le_refl _)
  refine hneed.mono rfl rfl rfl rfl (fun r' hr' => ?_) fun p hp => by simpa using hp
  by_cases heq : r' = r
  · exact heq ▸ hr
  · simpa [heq] using hr'

/-- References for the calls of proxy monitors that are not freed. -/
theorem of_notify (h : Held s) {told : ProxyMonitorId → Prop} (f : NotifyFrame told s s')
    (htold : ∀ p, told p → 0 < (s.refs (.proxyMonitor p)).count) : Held s' := by
  have hrest := f.rest
  refine h.of_needed (fun n => f.refs _ (by simp)) (fun n o hneed => ?_) (by rw [hrest])
    (by rw [hrest])
  refine hneed.mono (by rw [hrest]) (by rw [hrest]) (by rw [hrest]) (by rw [hrest])
    (fun r hr => ?_) fun p hp => ?_
  · rwa [f.refs _ (by simp)] at hr
  · obtain ⟨k, c, -, htold', hrefs, -⟩ := f.calls p
    by_cases hk : k = 0
    · rwa [hrefs, hk, RefCount.refs_zero] at hp
    · exact htold p (htold' hk)

end Held

/-! ## Nodes -/

lemma modifyNode_id (s : Controller) (n : NodeId) : s.modifyNode n id = s := by
  unfold modifyNode
  rw [id, Function.update_eq_self]

namespace Consistent

variable {gap : ℤ} {s s' : Controller}

/-- A node outside the list of nodes has no proxy monitor. -/
lemma proxyMonitors_eq_nil (h : Consistent gap s) {n : NodeId} (hn : n ∉ s.nodes) :
    (s.node n).proxyMonitors = [] := by
  rw [List.eq_nil_iff_forall_not_mem]
  exact fun p hp => hn (h.proxied.listed n p hp).listed

/-- A change of a node that is not in the list of nodes. -/
lemma modify_unlisted (h : Consistent gap s) {n : ℕ} (hn : n ∉ s.nodes) {f : Node → Node}
    (hname : (f (s.node n)).name = (s.node n).name)
    (hbus : (f (s.node n)).agentBus ≠ none → n ∈ s.anonymousNodes)
    (hdetached : (f (s.node n)).Detached)
    (hproxies : (f (s.node n)).proxyMonitors = (s.node n).proxyMonitors)
    (htable : (f (s.node n)).unitSubscriptions = [])
    (hdeps : (f (s.node n)).proxyDependencies = (s.node n).proxyDependencies ∨
      (f (s.node n)).proxyDependencies = []) : Consistent gap (s.modifyNode n f) := by
  have hne : ∀ k ∈ s.nodes, (s.modifyNode n f).node k = s.node k := fun k hk => by
    have hkn : k ≠ n := fun heq => hn (heq ▸ hk)
    simp [hkn]
  have hnames : ∀ k, ((s.modifyNode n f).node k).name = (s.node k).name := fun k => by
    by_cases hk : k = n
    · subst hk
      simpa using hname
    · simp [hk]
  have hlists : ∀ k, ((s.modifyNode n f).node k).proxyMonitors = (s.node k).proxyMonitors :=
    fun k => by
      by_cases hk : k = n
      · subst hk
        simpa using hproxies
      · simp [hk]
  have hcount : ∀ t unit, (s.modifyNode n f).proxyCount t unit = s.proxyCount t unit :=
    fun t unit => by
      unfold proxyCount Watches
      simp only [hlists, modifyNode_proxyMonitor, modifyNode_nodes]
  refine ⟨?_, ?_, ?_, ?_, fun k => ?_, ?_, ?_, ?_, ?_⟩
  · obtain ⟨h1, h2, h3, h4, h5, h6, h7⟩ := h.registry
    refine ⟨h1, h2, fun k hk => ?_, fun k hk => ?_, ?_, h6, h7⟩
    · rw [hnames]
      exact h3 k hk
    · rw [hnames]
      exact h4 k hk
    · simp only [hnames]
      exact h5
  · exact h.held.of_needed (fun _ => rfl) (fun _ _ hneed => hneed) rfl (le_refl _)
  · refine ⟨fun k hk => ?_, fun k hbus' => ?_, h.connected.signals, ?_⟩
    · rw [hnames] at hk
      exact h.connected.listed k hk
    · by_cases hkn : k = n
      · subst hkn
        exact h.registry.fresh k (Or.inr (hbus (by simpa using hbus')))
      · exact h.connected.made k (by simpa [hkn] using hbus')
    · rw [modifyNode_numberOfNodesOnline, h.connected.online, modifyNode_nodes, Nat.cast_inj]
      refine List.countP_congr fun k hk => ?_
      rw [hne k hk]
  · refine ⟨h.forListed.jobs, h.forListed.owners, fun k hk hbus' => ?_⟩
    by_cases hkn : k = n
    · subst hkn
      exact hbus (by simpa using hbus')
    · exact h.forListed.anonymous k hk (by simpa [hkn] using hbus')
  · by_cases hk : k = n
    · subst hk
      simpa using hdetached
    · simpa [hk] using h.detached k
  · refine ⟨fun k hk unit sub => ?_, fun k hk => ?_⟩
    · rw [hne k hk]
      exact h.indexed.filed k hk unit sub
    · by_cases hkn : k = n
      · subst hkn
        simpa using htable
      · simpa [hkn] using h.indexed.unlisted k hk
  · exact ⟨h.owned.1, h.owned.2, h.owned.3, h.owned.4, h.owned.5, h.owned.6, h.owned.7⟩
  · refine ⟨fun k p hp => ?_, fun k => ?_, fun k => ?_, fun p hp => ?_, fun sub hsub p hp => ?_,
      h.proxied.proxy, h.proxied.wf, h.proxied.calls, h.proxied.fresh, h.proxied.unheld⟩
    · rw [hlists] at hp
      obtain ⟨h1, h2, ⟨t, ht, htarget, htname⟩, h4, h5, h6, h7, h8, h9⟩ := h.proxied.listed k p hp
      exact ⟨h1, h2, ⟨t, ht, htarget, (hnames t).trans htname⟩, by rwa [hne k h1], h5, h6, h7, h8, h9⟩
    · rw [hlists]
      exact h.proxied.nodup k
    · rw [hlists]
      exact h.proxied.unique k
    · rw [hlists]
      exact h.proxied.added p hp
    · rw [hlists]
      exact h.proxied.owner sub hsub p hp
  · refine ⟨fun t ht unit => ?_, fun t => ?_, fun t => ?_⟩
    · rw [hcount, hne t ht]
      exact h.counted.count t ht unit
    · by_cases ht : t = n
      · subst ht
        rcases hdeps with hdeps | hdeps
        · simpa [hdeps] using h.counted.keys t
        · simp [hdeps]
      · simpa [ht] using h.counted.keys t
    · by_cases ht : t = n
      · subst ht
        rcases hdeps with hdeps | hdeps
        · simpa [hdeps] using h.counted.pos t
        · simp [hdeps]
      · simpa [ht] using h.counted.pos t

/-- What is left of a node that was freed. -/
def freedNode (node : Node) : Node :=
  { node with
    proxyDependencies := [], allowedProxyTargets := [], disconnectSlot := none,
    internalControllerSlot := none, metricsMatchingSlot := none, agentBus := none,
    peerSelinuxContext := none, peerIp := none, unitSubscriptions := [] }

/-- Freeing a node without a name or a proxy monitor. -/
lemma nodeFinalize_eq (s : Controller) {n : NodeId} (hname : (s.node n).name = none)
    (hproxies : (s.node n).proxyMonitors = [])
    (unrefNode : Controller → NodeId → Owner → Controller) :
    nodeFinalize unrefNode s n = s.modifyNode n freedNode := by
  unfold nodeFinalize
  rw [hproxies, List.foldl_nil]
  simp [nodeUnsetAgentBus, nodeIsOnline, hname, modifyNode, freedNode]

/-- A node outside the list of nodes has no name. -/
lemma name_eq_none (h : Consistent gap s) {n : NodeId} (hn : n ∉ s.nodes) :
    (s.node n).name = none := by
  by_contra hname
  exact hn (h.connected.listed n hname)

section

variable (h : Consistent gap s) {n : NodeId} {o : Owner} (ho : o ∈ (s.refs (.node n)).owners)
  (hneed : ¬Needed s n o)
  (hfleet : ∀ q, o = .fleet q → (s.fleet q).subReq.length ≤ (s.fleet q).nDone)

include h ho hneed hfleet

lemma dropRef_node : Consistent gap (s.dropRef (.node n) o) :=
  h.of_rest ⟨rfl, rfl, rfl, rfl, rfl, rfl, rfl, rfl, fun _ => .refl _, fun _ => .refl _,
    fun p => by simp, le_refl _, fun _ => Or.inr⟩ (h.held.dropRef_node ho hneed hfleet)
    fun n' _ => by
      by_cases hn : n' = n
      · subst hn
        simpa using List.erase_sublist
      · simp [hn]

/-- `node_unref` by an owner that does not need the node any more: a listed node stays, and
another one is freed. -/
theorem nodeUnref_eq : ∃ f : Node → Node, s.nodeUnref n o = (s.dropRef (.node n) o).modifyNode n f ∧
    (n ∈ s.nodes ∧ f = id ∨ n ∉ s.nodes ∧ f = freedNode) := by
  have hdrop := h.dropRef_node ho hneed hfleet
  have hlast : n ∉ s.nodes → (s.dropRef (.node n) o).isFreed (.node n) = true := fun hn => by
    have honly : (s.refs (.node n)).owners = [.creator] := by
      rcases List.sublist_singleton.mp (h.forListed.owners n hn) with hnil | hone
      · rw [hnil] at ho
        simp at ho
      · exact hone
    rw [honly, List.mem_singleton] at ho
    rw [isFreed_iff, hdrop.held.wf n]
    simp [honly, ho]
  unfold Controller.nodeUnref nodeUnrefFuel
  simp only
  split
  · rename_i hfreed
    have hn : n ∉ s.nodes := by
      intro hn
      -- a listed node has the reference of its creator
      have hpos := (hdrop.held.wf n).count_pos (hdrop.held.owners n .creator (Or.inl hn))
      have hzero := isFreed_iff.mp hfreed
      omega
    exact ⟨freedNode, nodeFinalize_eq _ (hdrop.name_eq_none hn) (hdrop.proxyMonitors_eq_nil hn) _,
      Or.inr ⟨hn, rfl⟩⟩
  · rename_i hfreed
    exact ⟨id, by rw [modifyNode_id], Or.inl ⟨by_contra fun hn => hfreed (hlast hn), rfl⟩⟩

theorem nodeUnref : Consistent gap (s.nodeUnref n o) := by
  have hdrop := h.dropRef_node ho hneed hfleet
  obtain ⟨f, heq, hf⟩ := h.nodeUnref_eq ho hneed hfleet
  rw [heq]
  rcases hf with ⟨-, rfl⟩ | ⟨hn, rfl⟩
  · rwa [modifyNode_id]
  · refine hdrop.modify_unlisted hn rfl (fun hbus => absurd rfl hbus) ?_ rfl rfl (Or.inr rfl)
    exact fun _ => ⟨rfl, rfl, rfl, rfl, rfl⟩

end

/-! ## Proxy monitors -/

/-- A proxy monitor loses a reference that nothing depends on. -/
lemma dropRef_proxyMonitor (h : Consistent gap s) {p : ProxyMonitorId} {o : Owner}
    (ho : o ∈ (s.refs (.proxyMonitor p)).owners)
    (hlist : o = .list → ∀ k, p ∉ (s.node k).proxyMonitors)
    (hcall : o = .call → s.proxyCalls.count p < (s.refs (.proxyMonitor p)).owners.count .call) :
    Consistent gap (s.dropRef (.proxyMonitor p) o) := by
  obtain ⟨hreg, hheld, hcon, hfor, hdet, hind, hown, hpro, hcnt⟩ := h
  refine ⟨⟨hreg.1, hreg.2, hreg.3, hreg.4, hreg.5, hreg.6, hreg.7⟩,
    hheld.dropRef_proxyMonitor p o, ⟨hcon.1, hcon.2, hcon.3, hcon.4⟩,
    ⟨hfor.1, fun n hn => by simpa using hfor.2 n hn, hfor.3⟩, hdet, ⟨hind.1, hind.2⟩,
    ⟨hown.1, hown.2, hown.3, hown.4, hown.5, hown.6, hown.7⟩, ?_, ⟨hcnt.1, hcnt.2, hcnt.3⟩⟩
  refine ⟨fun k q hq => ?_, hpro.2, hpro.3, hpro.4, hpro.5, hpro.6, fun q => ?_, fun q => ?_,
    hpro.9, fun q hq => ?_⟩
  · obtain ⟨h1, h2, h3, h4, h5, h6, h7, h8, h9⟩ := hpro.listed k q hq
    refine ⟨h1, h2, h3, h4, h5, h6, h7, h8, ?_⟩
    by_cases hqp : q = p
    · subst hqp
      have hne : Owner.list ≠ o := by
        rintro rfl
        exact hlist rfl k hq
      simpa using RefCount.mem_owners_unref h9 hne
    · simpa [hqp] using h9
  · by_cases hqp : q = p
    · subst hqp
      simpa using (hpro.wf q).unref ho
    · simpa [hqp] using hpro.wf q
  · have hcalls := hpro.calls q
    by_cases hqp : q = p
    · subst hqp
      simp only [dropRef_proxyCalls, dropRef_refs, Function.update_self, RefCount.owners_unref]
      by_cases hoc : o = .call
      · have hlt := hcall hoc
        rw [hoc, List.count_erase_self]
        omega
      · rwa [List.count_erase_of_ne fun heq => hoc heq.symm]
    · simpa [hqp] using hcalls
  · have hnil := hpro.unheld q hq
    by_cases hqp : q = p
    · subst hqp
      rw [hnil] at ho
      simp at ho
    · simpa [hqp] using hnil

/-- `proxy_monitor_unref`. A freed proxy monitor was in no list, so it had no dependency left. -/
theorem proxyMonitorUnref (h : Consistent gap s) {p : ProxyMonitorId} {o : Owner}
    (ho : o ∈ (s.refs (.proxyMonitor p)).owners)
    (hlist : o = .list → ∀ k, p ∉ (s.node k).proxyMonitors)
    (hcall : o = .call → s.proxyCalls.count p < (s.refs (.proxyMonitor p)).owners.count .call) :
    Consistent gap (proxyMonitorUnref Controller.nodeUnref s p o) := by
  have hpos := (h.proxied.wf p).count_pos ho
  have hdrop := h.dropRef_proxyMonitor ho hlist hcall
  unfold Controller.proxyMonitorUnref
  simp only
  split
  · rename_i hfreed
    have hzero := isFreed_iff.mp hfreed
    refine Consistent.of_frame ?_ (coreFrame_subscriptionUnref _ _ _)
    split
    · rename_i t htarget
      have hdep : (s.dropRef (.proxyMonitor p) o).proxyMonitorDropDep p =
          s.dropRef (.proxyMonitor p) o := by
        unfold proxyMonitorDropDep
        rw [if_neg]
        intro hadded
        have hlisted := hdrop.proxied.count_pos (hdrop.proxied.added p hadded)
        omega
      rw [hdep]
      refine hdrop.nodeUnref ?_ (fun hneed => ?_) (by simp)
      · have hmem := h.held.owners t (.proxyMonitor p) ⟨hpos, htarget⟩
        simpa using hmem
      · have hcount : 0 < ((s.dropRef (.proxyMonitor p) o).refs (.proxyMonitor p)).count := hneed.1
        omega
    · exact hdrop
  · exact hdrop

/-! ## Requests -/

/-- A request loses a reference. -/
lemma dropRef_request (h : Consistent gap s) (r : RequestId) (o : Owner) :
    Consistent gap (s.dropRef (.request r) o) :=
  h.of_rest ⟨rfl, rfl, rfl, rfl, rfl, rfl, rfl, rfl, fun _ => .refl _, fun _ => .refl _,
    fun p => by simp, le_refl _, fun _ => Or.inr⟩ (h.held.dropRef_request r o) fun n _ => by simp

/-- `agent_request_unref`. -/
theorem agentRequestUnref (h : Consistent gap s) (r : RequestId) (o : Owner) :
    Consistent gap (s.agentRequestUnref r o) := by
  have hdrop := h.dropRef_request r o
  unfold Controller.agentRequestUnref
  simp only
  split
  · rename_i hfreed
    have hzero := isFreed_iff.mp hfreed
    have hpos : 0 < (s.refs (.request r)).count := by
      simp only [dropRef_refs, Function.update_self, RefCount.count_unref] at hzero
      omega
    have hcore := (coreFrame_freeUserdata (s.dropRef (.request r) o) (s.request r).handler).trans
      (coreFrame_unlistRequest _ r)
    refine (hdrop.of_frame hcore).nodeUnref ?_ (fun hneed => ?_) fun q hq => ?_
    · have hmem := h.held.owners (s.request r).node (.request r) ⟨hpos, rfl⟩
      rw [hcore.refs _ rfl]
      simpa using hmem
    · have hcount := ((hcore.needed_iff _ _).mp hneed).1
      omega
    · simp at hq
  · exact hdrop

/-- The job that a request lists when the agent has accepted it is for a listed node. -/
def Lists (s : Controller) (handler : RequestHandler) : Prop :=
  ∀ serial job, handler = .lifecycle serial job → job.node ∈ s.nodes

/-- `node_create_request` for a listed node. -/
theorem nodeCreateRequest (h : Consistent gap s) {n : ℕ} (hn : n ∈ s.nodes)
    {handler : RequestHandler} (hhandler : Lists s handler) :
    Consistent gap (s.nodeCreateRequest n handler) := by
  have htake := h.held.takeRef_node (h.registry.fresh n (Or.inl hn)) (.request s.nextPtr)
  refine h.of_rest ⟨by simp, by simp, by simp, by simp, by simp, by simp, by simp, by simp,
    fun k => ?_, fun m => ?_, fun p => by simp, by simp, fun k hjob => ?_⟩ ?_ fun k hk => ?_
  · rw [nodeCreateRequest_node, modifyNode_node]
    by_cases hk : k = n
    · subst hk
      simpa using ⟨rfl, fun _ => rfl, id⟩
    · simpa [hk] using SameCore.refl _
  · simpa using SameButSlot.refl _
  · rcases hjob with ⟨job, hjob, rfl⟩ | ⟨r, serial, job, hreq, rfl⟩
    · exact Or.inr (Or.inl ⟨job, by simpa using hjob, rfl⟩)
    · by_cases hr : r = s.nextPtr
      · subst hr
        exact Or.inl (hhandler serial job (by simpa using hreq))
      · exact Or.inr (Or.inr ⟨r, serial, job, by simpa [hr] using hreq, rfl⟩)
  · have hrefs : ∀ k, (s.nodeCreateRequest n handler).refs (.node k) =
        (s.takeRef (.node n) (.request s.nextPtr)).refs (.node k) := fun k => by
      by_cases hk : k = n
      · subst hk
        simp
      · simp [hk]
    refine ⟨fun k => ?_, fun k o hneed => ?_, fun q hq k => ?_, fun q => ?_, fun k hk => ?_⟩
    · rw [hrefs]
      exact htake.wf k
    · rw [hrefs]
      by_cases ho : o = .request s.nextPtr
      · subst ho
        have hnode : n = k := by simpa using hneed.2
        subst hnode
        simp
      · -- the other owners need what they needed before
        refine htake.owners k o ?_
        cases o with
        | request r =>
          have hr : r ≠ s.nextPtr := by
            rintro rfl
            exact ho rfl
          simpa [Needed, hr] using hneed
        | creator => simpa [Needed] using hneed
        | proxyMonitor p => simpa [Needed] using hneed
        | _ => simp [Needed] at hneed
    · rw [nodeCreateRequest_fleet] at hq
      rw [hrefs]
      simpa using htake.fleet q hq k
    · simpa using htake.slots q
    · rw [nodeCreateRequest_nextPtr] at hk
      rw [hrefs]
      exact htake.fresh k (Nat.le_of_succ_le hk)
  · have hkn : k ≠ n := by
      rintro rfl
      exact hk hn
    simp [hkn]

/-- `agent_request_start` for a request that somebody holds. -/
theorem agentRequestStart (h : Consistent gap s) {r : RequestId} (call : AgentCall)
    (hr : 0 < (s.refs (.request r)).count) : Consistent gap (s.agentRequestStart r call) := by
  have hsend := coreFrame_sendAgent s (s.request r).node call
  have hsent := h.of_frame hsend
  have hcount : 0 < ((s.sendAgent (s.request r).node call).refs (.request r)).count := by
    rw [hsend.refs _ rfl]
    exact hr
  have htake := hsent.held.takeRef_request hcount .pending
  refine hsent.of_rest ⟨by simp, by simp, by simp, by simp, by simp, by simp, by simp, by simp,
    fun k => ?_, fun m => ?_, fun p => by simp, by simp, fun k hjob => ?_⟩ ?_ fun k _ => by simp
  · simpa using SameCore.refl _
  · simpa using SameButSlot.refl _
  · exact Or.inr (by simpa [HasJob] using hjob)
  · refine htake.of_needed (fun k => by simp) (fun k o hneed => ?_) (by simp) (by simp)
    refine hneed.mono (by simp) (by simp) (by simp) (by simp) (fun r' hr' => by simpa using hr')
      fun p hp => by simpa using hp

theorem runRequest (h : Consistent gap s) {n : ℕ} (hn : n ∈ s.nodes) (serial : Serial)
    {handler : RequestHandler} (hhandler : Lists s handler) (call : RequestId → AgentCall)
    (started : Bool) (failure : String) :
    Consistent gap (s.runRequest n serial handler call started failure) := by
  have hnew := h.nodeCreateRequest hn hhandler
  have hcount : 0 < ((s.nodeCreateRequest n handler).refs (.request s.nextPtr)).count := by simp
  unfold Controller.runRequest
  simp only
  split
  · exact (hnew.agentRequestStart _ hcount).agentRequestUnref _ _
  · exact (hnew.of_frame (coreFrame_emit _ _)).agentRequestUnref _ _

end Consistent

end Controller
end BlueChi
