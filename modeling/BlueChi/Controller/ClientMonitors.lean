import BlueChi.Controller.Closures
import BlueChi.Controller.Runs

/-!
# What belongs to the clients

The client monitors with their peers, their subscriptions and the references of both. Everything but
the methods of monitors and the departure of a client leaves them as they are (`Spares`).
-/

namespace BlueChi
namespace Controller

variable {gap : ℤ} {s s' s'' : Controller}

/-! ## Steps that leave the clients alone -/

/-- The subscription of a proxy monitor is not that of a client. -/
def ProxyOwned (s : Controller) : Prop :=
  ∀ p, ∃ p', (s.proxyMonitor p).subscription.monitor = .proxy p'

/-- The monitors, the subscriptions of clients and the references of both are the same. Another
subscription of a proxy monitor is a new one. -/
structure SparesClients (s s' : Controller) : Prop where
  monitors : s'.monitors = s.monitors
  monitor : s'.monitor = s.monitor
  subscriptions : ∀ sub m, sub.monitor = .client m →
    (sub ∈ s'.allSubscriptions ↔ sub ∈ s.allSubscriptions)
  monitorRefs : ∀ m, s'.refs (.monitor m) = s.refs (.monitor m)
  subscriptionRefs : ∀ ptr < s.nextPtr, (∀ p, (s.proxyMonitor p).subscription.ptr ≠ ptr) →
    s'.refs (.subscription ptr) = s.refs (.subscription ptr)
  proxies : ∀ p, (s'.proxyMonitor p).subscription = (s.proxyMonitor p).subscription ∨
    s.nextPtr ≤ (s'.proxyMonitor p).subscription.ptr ∧
      (s'.proxyMonitor p).subscription.ptr < s'.nextPtr
  nextPtr : s.nextPtr ≤ s'.nextPtr
  freed : ∀ m, timesFreed s' (.monitor m) = timesFreed s (.monitor m)

/-- A step that leaves the clients alone while proxy monitors have subscriptions of their own, and
keeps it that way. -/
def Spares (s s' : Controller) : Prop := ProxyOwned s → ProxyOwned s' ∧ SparesClients s s'

namespace Spares

lemma refl (s : Controller) : Spares s s := fun h =>
  ⟨h, rfl, rfl, fun _ _ _ => Iff.rfl, fun _ => rfl, fun _ _ _ => rfl, fun _ => Or.inl rfl,
    le_refl _, fun _ => rfl⟩

lemma trans (h : Spares s s') (h' : Spares s' s'') : Spares s s'' := by
  intro howned
  have ⟨howned', f⟩ := h howned
  have ⟨howned'', f'⟩ := h' howned'
  refine ⟨howned'', f'.monitors.trans f.monitors, f'.monitor.trans f.monitor,
    fun sub m hm => (f'.subscriptions sub m hm).trans (f.subscriptions sub m hm),
    fun m => (f'.monitorRefs m).trans (f.monitorRefs m), fun ptr hptr hne => ?_, fun p => ?_,
    f.nextPtr.trans f'.nextPtr, fun m => (f'.freed m).trans (f.freed m)⟩
  · -- a new subscription of a proxy monitor is not at an old address
    have hne' : ∀ p, (s'.proxyMonitor p).subscription.ptr ≠ ptr := fun p => by
      apply (f.proxies p).elim
      · intro heq
        rw [heq]
        exact hne p
      · intro hnew
        omega
    exact (f'.subscriptionRefs ptr (lt_of_lt_of_le hptr f.nextPtr) hne').trans
      (f.subscriptionRefs ptr hptr hne)
  · have hle := f.nextPtr
    have hle' := f'.nextPtr
    apply (f'.proxies p).elim
    · intro heq
      rw [heq]
      apply (f.proxies p).imp id
      intro hnew
      exact ⟨hnew.1, lt_of_lt_of_le hnew.2 hle'⟩
    · intro hnew
      exact Or.inr ⟨hle.trans hnew.1, hnew.2⟩

/-- A step that changes no monitor and no subscription. -/
lemma of_same (hmonitors : s'.monitors = s.monitors) (hmonitor : s'.monitor = s.monitor)
    (hall : s'.allSubscriptions = s.allSubscriptions)
    (hproxy : ∀ p, (s'.proxyMonitor p).subscription = (s.proxyMonitor p).subscription)
    (hptr : s.nextPtr ≤ s'.nextPtr) (hrefs : ∀ obj, ofClients obj = true → s'.refs obj = s.refs obj)
    (hfreed : ∀ m, timesFreed s' (.monitor m) = timesFreed s (.monitor m)) : Spares s s' := by
  intro howned
  refine ⟨fun p => ?_, hmonitors, hmonitor, fun sub m _ => by rw [hall], fun m => hrefs _ rfl,
    fun ptr _ _ => hrefs _ rfl, fun p => Or.inl (hproxy p), hptr, hfreed⟩
  rw [hproxy]
  exact howned p

/-- A change of fields that have nothing to do with clients. -/
lemma of_fields (heq : s' = { s with
      nodes := s'.nodes, anonymousNodes := s'.anonymousNodes, numberOfNodes := s'.numberOfNodes,
      numberOfNodesOnline := s'.numberOfNodesOnline, metricsEnabled := s'.metricsEnabled,
      node := s'.node, signalMatches := s'.signalMatches, proxyCalls := s'.proxyCalls,
      log := s'.log }) : Spares s s' := by
  rw [heq]
  exact of_same rfl rfl rfl (fun _ => rfl) (le_refl _) (fun _ _ => rfl) fun _ => rfl

lemma sendAgent (s : Controller) (n : NodeId) (call : AgentCall) : Spares s (s.sendAgent n call) := by
  unfold Controller.sendAgent
  split
  · exact refl s
  · exact of_fields rfl

/-- The last reference of a subscription of a proxy monitor drops no reference of a monitor. -/
lemma subscriptionUnref (s : Controller) (p : ProxyMonitorId) (o : Owner) :
    Spares s (s.subscriptionUnref (s.proxyMonitor p).subscription o) := by
  intro howned
  have ⟨p', hp'⟩ := howned p
  have heq : s.subscriptionUnref (s.proxyMonitor p).subscription o =
      s.dropRef (.subscription (s.proxyMonitor p).subscription.ptr) o := by
    unfold Controller.subscriptionUnref
    simp only [hp']
    split
    · rfl
    · rfl
  rw [heq]
  refine ⟨howned, rfl, rfl, fun _ _ _ => Iff.rfl, fun m => by simp [dropRef], fun ptr _ hne => ?_,
    fun _ => Or.inl rfl, le_refl _, fun m => timesFreed_dropRef s (by simp) o⟩
  have hne' : Obj.subscription ptr ≠ .subscription (s.proxyMonitor p).subscription.ptr := by
    simpa using (hne p).symm
  simp [dropRef, hne']

lemma appendSubscription (s : Controller) (p : ProxyMonitorId) :
    Spares s (s.appendSubscription (s.proxyMonitor p).subscription) := by
  intro howned
  have ⟨p', hp'⟩ := howned p
  refine ⟨howned, rfl, rfl, fun sub m hm => ?_, fun m => by simp [Controller.appendSubscription, takeRef],
    fun ptr _ hne => ?_, fun _ => Or.inl rfl, le_refl _, fun m => rfl⟩
  · have hne : sub ≠ (s.proxyMonitor p).subscription := fun heq => by
      rw [heq, hp'] at hm
      exact MonitorRef.noConfusion hm
    simp [Controller.appendSubscription, hne]
  · have hne' : Obj.subscription ptr ≠ .subscription (s.proxyMonitor p).subscription.ptr := by
      simpa using (hne p).symm
    simp [Controller.appendSubscription, takeRef, hne']

lemma unlistSubscription (s : Controller) (p : ProxyMonitorId) :
    Spares s (s.unlistSubscription (s.proxyMonitor p).subscription) := by
  intro howned
  have ⟨p', hp'⟩ := howned p
  refine ⟨howned, rfl, rfl, fun sub m hm => ?_, fun m => rfl, fun ptr _ _ => rfl,
    fun _ => Or.inl rfl, le_refl _, fun m => timesFreed_listRemove s _ _ _⟩
  have hne : sub ≠ (s.proxyMonitor p).subscription := fun heq => by
    rw [heq, hp'] at hm
    exact MonitorRef.noConfusion hm
  exact List.mem_erase_of_ne hne

lemma proxyMonitorNew (s : Controller) (n : NodeId) (name unit path : String) :
    Spares s (s.proxyMonitorNew n name unit path) := by
  intro howned
  refine ⟨fun p => ?_, rfl, rfl, fun _ _ _ => Iff.rfl, fun m => ?_, fun ptr hptr _ => ?_,
    fun p => ?_, Nat.le_add_right _ 2, fun m => rfl⟩
  · by_cases hp : p = s.nextPtr
    · exact ⟨s.nextPtr, by simp [Controller.proxyMonitorNew, hp]⟩
    · obtain ⟨p', hp'⟩ := howned p
      exact ⟨p', by simpa [Controller.proxyMonitorNew, hp] using hp'⟩
  · simp [Controller.proxyMonitorNew, newRef]
  · have hne : ptr ≠ s.nextPtr + 1 := by omega
    simp [Controller.proxyMonitorNew, newRef, hne]
  · by_cases hp : p = s.nextPtr
    · apply Or.inr
      simp [Controller.proxyMonitorNew, hp]
    · apply Or.inl
      simp [Controller.proxyMonitorNew, hp]

/-- A status may be sent, and nothing else happens. -/
lemma nodeUnsetAgentBus (s : Controller) (n : NodeId) : Spares s (s.nodeUnsetAgentBus n) := by
  unfold Controller.nodeUnsetAgentBus
  simp only
  split
  · exact of_fields rfl
  · exact of_fields rfl

lemma countOnline (s : Controller) (d : ℤ) : Spares s (s.countOnline d) := by
  unfold Controller.countOnline checkSystemStatus
  simp only
  split
  · exact of_fields rfl
  · exact of_fields rfl

/-- The parts of the functions on requests and nodes leave the clients alone. -/
lemma nodes : ClosedNodes Spares where
  refl := refl
  trans := trans
  notify f := by
    refine of_same (by rw [f.rest]) (by rw [f.rest]) (by rw [f.rest]) (fun p => by rw [f.rest])
      (by rw [f.rest]) (fun obj hobj => f.refs obj fun p hp => ?_) fun m => ?_
    · rw [hp] at hobj
      exact Bool.noConfusion hobj
    · rw [f.rest]
      rfl
  tell s n call _ := sendAgent s n call
  table s n f _ := of_fields rfl
  depend s n call _ := sendAgent s n call
  proxies s n f _ := of_fields rfl
  detach := nodeUnsetAgentBus
  proxyMonitor s p f hf := by
    refine of_same rfl rfl rfl (fun p' => ?_) (le_refl _) (fun _ _ => rfl) fun _ => rfl
    by_cases hp : p' = p
    · rw [hp, modifyProxyMonitor_proxyMonitor, Function.update_self, hf]
    · simp [hp]
  takeRef s obj o hobj := by
    refine of_same rfl rfl rfl (fun _ => rfl) (le_refl _) (fun obj' hobj' => ?_) fun _ => rfl
    have hne : obj' ≠ obj := fun heq => by
      rw [heq] at hobj'
      cases obj <;> simp [ofProxies, ofClients] at hobj hobj'
    simp [takeRef, hne]
  dropRef s obj o hobj _ := by
    have hne : ∀ obj', ofClients obj' = true → obj' ≠ obj := fun obj' hobj' heq => by
      rw [heq] at hobj'
      cases obj <;> simp [ofProxies, ofClients] at hobj hobj'
    refine of_same rfl rfl rfl (fun _ => rfl) (le_refl _) (fun obj' hobj' => ?_)
      fun m => timesFreed_dropRef s (hne _ rfl) o
    simp [dropRef, hne obj' hobj']
  unlist s n member := of_same rfl rfl rfl (fun _ => rfl) (le_refl _) (fun _ _ => rfl)
    fun m => timesFreed_listRemove s _ _ _
  proxyMonitorNew := proxyMonitorNew
  appendSubscription := appendSubscription
  unlistSubscription := unlistSubscription
  subscriptionUnref := subscriptionUnref
  answered s p := of_fields rfl
  announce s o _ := of_fields rfl
  jobs f := by
    refine of_same (by rw [f.rest]) (by rw [f.rest]) (by rw [f.rest]) (fun p => by rw [f.rest])
      f.nextPtr (fun obj hobj => f.refs obj fun ptr hptr => ?_) fun m => f.freed _ (by simp)
    rw [hptr] at hobj
    exact Bool.noConfusion hobj
  reply s o _ := of_fields rfl
  ask s n call _ := sendAgent s n call
  requests f := by
    refine of_same (by rw [f.rest]) (by rw [f.rest]) (by rw [f.rest]) (fun p => by rw [f.rest])
      f.nextPtr (fun obj hobj => f.refs obj ?_) fun m => f.freed _ rfl
    cases obj <;> simp [ofAnswers, ofClients] at hobj ⊢
  registry f := of_same (by rw [f.rest]) (by rw [f.rest]) (by rw [f.rest]) (fun p => by rw [f.rest])
    (by rw [f.rest]) (fun _ _ => by rw [f.rest]) fun m => f.freed _
  release s n := of_same rfl rfl rfl (fun _ => rfl) (le_refl _)
    (fun obj hobj => by
      have hne : Obj.node n ≠ obj := obj_ne obj hobj rfl
      simp [dropRef, hne.symm]) fun m => timesFreed_dropRef s (by simp) _

lemma addJob (s : Controller) (job : Job) : Spares s (s.addJob job).2 :=
  nodes.addJob s job fun t => of_same rfl rfl rfl (fun _ => rfl) (le_refl _)
    (fun obj hobj => by
      have hne : Obj.job job.ptr ≠ obj := obj_ne obj hobj rfl
      simp [appendJob, Controller.takeRef, hne.symm]) fun _ => rfl

lemma addNode (s : Controller) : Spares s (s.addNode none) :=
  of_same rfl rfl rfl (fun _ => rfl) (Nat.le_succ _)
    (fun obj hobj => by
      have hne : Obj.node s.nextPtr ≠ obj := obj_ne obj hobj rfl
      simp [Controller.addNode, nodeAlloc, newRef, hne.symm]) fun _ => rfl

/-- All but the methods of monitors leaves the clients alone. -/
theorem closed : ClosedConnections (fun _ => True) Spares where
  toClosedProxies := nodes.toClosedProxies
  announce := nodes.announce
  jobs := nodes.jobs
  remove s n _ := nodes.removeNode s n
  count := countOnline
  beat s n := sendAgent s n _
  seen s n now nowMonotonic := of_fields rfl
  reply s serial o _ _ := of_fields rfl
  link s n f _ := of_fields rfl
  status s n status := of_fields rfl
  addMatch s n bus member := of_fields rfl
  addNode := addNode
  busAlloc s := of_same rfl rfl rfl (fun _ => rfl) (Nat.le_succ _) (fun _ _ => rfl) fun _ => rfl
  flag s n call _ := sendAgent s n call
  metrics s b := of_fields rfl

end Spares

end Controller
end BlueChi
