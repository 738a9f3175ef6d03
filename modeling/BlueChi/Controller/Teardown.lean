import BlueChi.Controller.ClientMonitors

/-!
# Closing monitors

A monitor that is closed sheds its subscriptions one by one, tells its peers and is dropped. What the
other clients have stays as it was, and so does the part of every table that is theirs.
-/

namespace BlueChi

/-! ## Tables as others see them -/

/-- The part of an entry that belongs to the subscriptions that are kept. -/
def othersEntry (keep : Subscription → Bool) (entry : Option UnitSubscriptions) :
    Option UnitSubscriptions :=
  (entry.map fun usubs => { usubs with subs := usubs.subs.filter keep }).filter
    fun usubs => !usubs.subs.isEmpty

lemma othersEntry_some (keep : Subscription → Bool) (usubs : UnitSubscriptions) :
    othersEntry keep (some usubs) =
      if (usubs.subs.filter keep).isEmpty then none
      else some { usubs with subs := usubs.subs.filter keep } := by
  unfold othersEntry
  rw [Option.map_some, Option.filter_some]
  by_cases hempty : (usubs.subs.filter keep).isEmpty = true
  · simp [hempty]
  · simp [hempty]

lemma filter_erase_of_not {keep : Subscription → Bool} {sub : Subscription} (hkeep : keep sub = false)
    (subs : List Subscription) : (subs.erase sub).filter keep = subs.filter keep := by
  rw [← List.erase_filter, List.erase_of_not_mem]
  intro hmem
  rw [List.mem_filter, hkeep] at hmem
  exact Bool.noConfusion hmem.2

/-- One round of `node_unsubscribe` takes nothing from the others. -/
lemma othersEntry_nodeUnsubscribeUnit {keep : Subscription → Bool} {sub : Subscription}
    (hkeep : keep sub = false) (unit : String) (node : Node) (u : String) :
    othersEntry keep ((nodeUnsubscribeUnit sub unit node).1.usubs u) =
      othersEntry keep (node.usubs u) := by
  unfold nodeUnsubscribeUnit
  cases hentry : node.usubs unit with
  | none => rfl
  | some entry =>
    have hfilter := filter_erase_of_not hkeep entry.subs
    simp only
    split
    · split
      · rename_i hempty
        -- the entry goes: it was for this subscription alone
        rw [List.isEmpty_iff] at hempty
        rw [hempty] at hfilter
        show othersEntry keep (Keyed.get _ (Keyed.delete _ _ unit) u) = _
        rw [Keyed.get_delete]
        by_cases hu : u = unit
        · rw [if_pos hu, hu, hentry, othersEntry_some, ← hfilter]
          rfl
        · rw [if_neg hu]
          rfl
      · show othersEntry keep (Keyed.get _ (Keyed.modify _ _ unit _) u) = _
        have hunit : ∀ usubs : UnitSubscriptions,
            ({ usubs with subs := usubs.subs.erase sub } : UnitSubscriptions).unit = usubs.unit :=
          fun _ => rfl
        rw [Keyed.get_modify hunit]
        by_cases hu : u = unit
        · have hget : Keyed.get (·.unit) node.unitSubscriptions unit = some entry := hentry
          rw [if_pos hu, hu, hentry, hget, Option.map_some, othersEntry_some, othersEntry_some, hfilter]
        · rw [if_neg hu]
          rfl
    · rfl

lemma othersEntry_nodeUnsubscribe {keep : Subscription → Bool} {sub : Subscription}
    (hkeep : keep sub = false) (node : Node) (u : String) :
    othersEntry keep ((nodeUnsubscribe sub node).1.usubs u) = othersEntry keep (node.usubs u) := by
  unfold nodeUnsubscribe
  generalize sub.units = units
  induction units generalizing node with
  | nil => rfl
  | cons unit units ih =>
    rw [NodeStep.forEach]
    exact (ih _).trans (othersEntry_nodeUnsubscribeUnit hkeep unit node u)

/-- Unsubscribing tells the agent, and nobody else. -/
lemma sends_nodeUnsubscribe (sub : Subscription) (node : Node) :
    ∀ eff ∈ (nodeUnsubscribe sub node).2, ∃ unit, eff = .send (.unsubscribe unit) := by
  have hsend : ∀ (node : Node) unit, ∀ eff ∈ sendAgentSimpleMessage node (.unsubscribe unit),
      ∃ unit, eff = .send (.unsubscribe unit) := fun node unit eff heff => by
    unfold sendAgentSimpleMessage at heff
    split at heff
    · exact ⟨unit, by simpa using heff⟩
    · simp at heff
  unfold nodeUnsubscribe
  generalize sub.units = units
  induction units generalizing node with
  | nil => simp [NodeStep.forEach]
  | cons unit units ih =>
    intro eff heff
    rw [NodeStep.forEach] at heff
    apply (List.mem_append.mp heff).elim
    · intro hround
      unfold nodeUnsubscribeUnit at hround
      split at hround
      · simp at hround
      · split at hround
        · split at hround
          · exact hsend _ _ eff hround
          · simp at hround
        · simp at hround
    · exact ih _ eff

namespace Controller

variable {gap : ℤ} {s s' s'' : Controller}

/-! ## Functions on tables -/

/-- Only tables, calls of proxy monitors and messages differ. -/
structure TablesOnly (s s' : Controller) : Prop where
  rest : s' = { s with
    node := s'.node, refs := s'.refs, proxyCalls := s'.proxyCalls, log := s'.log }
  refs : ∀ obj, (∀ p, obj ≠ .proxyMonitor p) → s'.refs obj = s.refs obj

lemma tablesOnly_sendAgent (s : Controller) (n : NodeId) (call : AgentCall) :
    TablesOnly s (s.sendAgent n call) := by
  unfold sendAgent
  split
  · exact ⟨rfl, fun _ _ => rfl⟩
  · exact ⟨rfl, fun _ _ => rfl⟩

theorem tablesOnly : ClosedTables TablesOnly where
  refl s := ⟨rfl, fun _ _ => rfl⟩
  trans f f' := ⟨by rw [f'.rest, f.rest], fun obj hobj => (f'.refs obj hobj).trans (f.refs obj hobj)⟩
  notify f := ⟨by rw [f.rest], f.refs⟩
  tell s n call _ := tablesOnly_sendAgent s n call
  table s n f _ := ⟨rfl, fun _ _ => rfl⟩

/-- Taking a subscription out of tables sends calls to agents only. -/
lemma emits_unfile (sub : Subscription) (ns : List NodeId) (s : Controller) :
    Emits [.table] s (ns.foldl (fun s n => s.applyNode n (nodeUnsubscribe sub)) s) := by
  have heffects : ∀ n (effs : List NodeEffect),
      (∀ eff ∈ effs, ∃ unit, eff = .send (.unsubscribe unit)) → ∀ t,
        Emits [.table] t (effs.foldl (runEffect n) t) := by
    intro n effs
    induction effs with
    | nil => exact fun _ t => .refl _ t
    | cons eff effs ih =>
      intro hall t
      have ⟨unit, heff⟩ := hall eff (by simp)
      rw [List.foldl_cons, heff]
      have hsend : Emits [.table] t (t.sendAgent n (.unsubscribe unit)) :=
        emits_sendAgent t n (by simp [AgentCall.kind])
      exact hsend.trans (ih (fun e he => hall e (by simp [he])) _)
  induction ns generalizing s with
  | nil => exact .refl _ s
  | cons n ns ih =>
    rw [List.foldl_cons]
    have hround := heffects n _ (sends_nodeUnsubscribe sub (s.node n))
      (s.modifyNode n fun _ => (nodeUnsubscribe sub (s.node n)).1)
    exact (Emits.trans (.of_log_eq rfl) hround).trans (ih _)

/-! ## Dropping references -/

lemma monitorUnref_of_held (s : Controller) {m : MonitorId} (o : Owner)
    (hcount : (s.refs (.monitor m)).count ≠ 1) : s.monitorUnref m o = s.dropRef (.monitor m) o := by
  have hfreed : (s.dropRef (.monitor m) o).isFreed (.monitor m) ≠ true := by
    rw [Ne, isFreed_iff, dropRef_refs, Function.update_self, RefCount.count_unref]
    omega
  unfold monitorUnref
  rw [if_neg hfreed]

lemma monitorUnref_of_last (s : Controller) {m : MonitorId} (o : Owner)
    (hcount : (s.refs (.monitor m)).count = 1) : s.monitorUnref m o =
      (s.dropRef (.monitor m) o).modifyMonitor m
        fun monitor => { monitor with exportSlot := false } := by
  have hfreed : (s.dropRef (.monitor m) o).isFreed (.monitor m) = true := by
    rw [isFreed_iff, dropRef_refs, Function.update_self, RefCount.count_unref]
    omega
  unfold monitorUnref
  rw [if_pos hfreed]

lemma subscriptionUnref_of_held (s : Controller) {sub : Subscription} (o : Owner)
    (hcount : (s.refs (.subscription sub.ptr)).count ≠ 1) :
    s.subscriptionUnref sub o = s.dropRef (.subscription sub.ptr) o := by
  have hfreed : (s.dropRef (.subscription sub.ptr) o).isFreed (.subscription sub.ptr) ≠ true := by
    rw [Ne, isFreed_iff, dropRef_refs, Function.update_self, RefCount.count_unref]
    omega
  unfold subscriptionUnref
  rw [if_neg hfreed]

lemma subscriptionUnref_of_last (s : Controller) {sub : Subscription} {m : MonitorId} (o : Owner)
    (hcount : (s.refs (.subscription sub.ptr)).count = 1) (hmonitor : sub.monitor = .client m) :
    s.subscriptionUnref sub o =
      (s.dropRef (.subscription sub.ptr) o).monitorUnref m (.subscription sub.ptr) := by
  have hfreed : (s.dropRef (.subscription sub.ptr) o).isFreed (.subscription sub.ptr) = true := by
    rw [isFreed_iff, dropRef_refs, Function.update_self, RefCount.count_unref]
    omega
  unfold subscriptionUnref
  rw [if_pos hfreed, hmonitor]

/-- A reference that is not the last one is dropped. -/
lemma timesFreed_dropRef_of_held (s : Controller) {obj : Obj} (o : Owner)
    (hcount : (s.refs obj).count ≠ 1) (obj' : Obj) :
    timesFreed (s.dropRef obj o) obj' = timesFreed s obj' := by
  have hev : MemEvent.unref obj ((s.refs obj).count - 1) ≠ .unref obj' 0 := fun heq => by
    injection heq with _ hzero
    omega
  show (s.mem ++ [MemEvent.unref obj ((s.refs obj).count - 1)]).count (.unref obj' 0) = _
  rw [List.count_append, List.count_singleton, beq_false_of_ne hev, if_neg Bool.false_ne_true]
  rfl

/-- The last reference is dropped. -/
lemma timesFreed_dropRef_of_last (s : Controller) {obj : Obj} (o : Owner)
    (hcount : (s.refs obj).count = 1) :
    timesFreed (s.dropRef obj o) obj = timesFreed s obj + 1 := by
  have hev : MemEvent.unref obj ((s.refs obj).count - 1) = .unref obj 0 := by
    rw [hcount]
    rfl
  show (s.mem ++ [MemEvent.unref obj ((s.refs obj).count - 1)]).count (.unref obj 0) = _
  rw [hev, List.count_append, List.count_singleton_self]
  rfl

/-! ## Shedding subscriptions -/

/-- Monitor `m` loses the subscriptions of the list and the references that these held. Everything
else of the clients is the same. -/
structure Sheds (m : MonitorId) (l : List Subscription) (s s' : Controller) : Prop where
  monitors : s'.monitors = s.monitors
  monitor : ∀ m', m' ≠ m → s'.monitor m' = s.monitor m'
  own : s'.monitor m =
    { s.monitor m with subscriptions := (s.monitor m).subscriptions.filter (· ∉ l) }
  all : s'.allSubscriptions = s.allSubscriptions.filter (· ∉ l)
  monitorRefs : ∀ m', m' ≠ m → s'.refs (.monitor m') = s.refs (.monitor m')
  count : (s'.refs (.monitor m)).count = (s.refs (.monitor m)).count - l.length
  subscriptionRefs : ∀ ptr, ptr ∉ l.map (·.ptr) →
    s'.refs (.subscription ptr) = s.refs (.subscription ptr)
  index : ∀ keep : Subscription → Bool, (∀ sub ∈ l, keep sub = false) → ∀ n unit,
    othersEntry keep ((s'.node n).usubs unit) = othersEntry keep ((s.node n).usubs unit)
  proxyMonitor : s'.proxyMonitor = s.proxyMonitor
  nextPtr : s'.nextPtr = s.nextPtr
  freed : ∀ m', timesFreed s' (.monitor m') = timesFreed s (.monitor m')
  emits : Emits [.table] s s'

namespace Sheds

variable {m : MonitorId} {l l' : List Subscription}

lemma nil (m : MonitorId) (s : Controller) : Sheds m [] s s where
  monitors := rfl
  monitor _ _ := rfl
  own := by simp
  all := by simp
  monitorRefs _ _ := rfl
  count := by simp
  subscriptionRefs _ _ := rfl
  index _ _ _ _ := rfl
  proxyMonitor := rfl
  nextPtr := rfl
  freed _ := rfl
  emits := .refl _ s

lemma trans (h : Sheds m l s s') (h' : Sheds m l' s' s'') : Sheds m (l ++ l') s s'' where
  monitors := h'.monitors.trans h.monitors
  monitor m' hm' := (h'.monitor m' hm').trans (h.monitor m' hm')
  own := by
    rw [h'.own, h.own, List.filter_filter]
    simp only [List.mem_append, not_or, Bool.decide_and, Bool.and_comm]
  all := by
    rw [h'.all, h.all, List.filter_filter]
    simp only [List.mem_append, not_or, Bool.decide_and, Bool.and_comm]
  monitorRefs m' hm' := (h'.monitorRefs m' hm').trans (h.monitorRefs m' hm')
  count := by
    rw [h'.count, h.count, List.length_append]
    omega
  subscriptionRefs ptr hptr := by
    rw [List.map_append, List.mem_append, not_or] at hptr
    exact (h'.subscriptionRefs ptr hptr.2).trans (h.subscriptionRefs ptr hptr.1)
  index keep hkeep n unit := by
    refine (h'.index keep (fun sub hsub => hkeep sub ?_) n unit).trans
      (h.index keep (fun sub hsub => hkeep sub ?_) n unit)
    · exact List.mem_append_right l hsub
    · exact List.mem_append_left l' hsub
  proxyMonitor := h'.proxyMonitor.trans h.proxyMonitor
  nextPtr := h'.nextPtr.trans h.nextPtr
  freed m' := (h'.freed m').trans (h.freed m')
  emits := h.emits.trans h'.emits

end Sheds

/-- What is left when one subscription goes. -/
lemma erase_eq_filter_notMem {subs : List Subscription} (hnodup : subs.Nodup) (sub : Subscription) :
    subs.erase sub = subs.filter (· ∉ [sub]) := by
  rw [hnodup.erase_eq_filter]
  apply List.filter_congr
  intro sub' _
  by_cases heq : sub' = sub
  · simp [heq]
  · simp [heq]

/-- A round of the loop of `monitor_close`: the two references of the subscription are dropped, and
with the second one its reference of the monitor. -/
lemma sheds_removeMonitorSubscription (h : Consistent gap s) {m : MonitorId} {sub : Subscription}
    (hsub : sub ∈ (s.monitor m).subscriptions)
    (hheld : (s.refs (.subscription sub.ptr)).count = 2)
    (hcount : 1 < (s.refs (.monitor m)).count) :
    Sheds m [sub] s (s.removeMonitorSubscription m sub) := by
  have ⟨_, hmonitor⟩ := (h.owned.client m sub).mp hsub
  have hnodup := h.registry.subscribedNodes_nodup sub
  have htables := tablesOnly.unfileSubscription sub (s.subscribedNodes sub) s
  have hemits := emits_unfile sub (s.subscribedNodes sub) s
  have hnode := congrArg Controller.node
    (foldl_applyNode_eq (nodeUnsubscribe sub) hnodup s)
  unfold Controller.removeMonitorSubscription Controller.removeSubscription
  simp only
  generalize List.foldl _ s (s.subscribedNodes sub) = t at htables hemits hnode
  have hrefs : ∀ obj, (∀ p, obj ≠ .proxyMonitor p) → t.refs obj = s.refs obj := htables.refs
  have hsubCount : (t.refs (.subscription sub.ptr)).count = 2 := by
    rw [hrefs _ (by simp), hheld]
  have hmonCount : 1 < (t.refs (.monitor m)).count := by
    rw [hrefs _ (by simp)]
    exact hcount
  -- the reference of the list of all subscriptions is not the last one
  have hfirst : (t.unlistSubscription sub).subscriptionUnref sub .allSubscriptions =
      (t.unlistSubscription sub).dropRef (.subscription sub.ptr) .allSubscriptions := by
    apply subscriptionUnref_of_held
    show (t.refs (.subscription sub.ptr)).count ≠ 1
    omega
  rw [hfirst]
  generalize hu : (((t.unlistSubscription sub).dropRef (.subscription sub.ptr)
    .allSubscriptions).listRemove (.subscriptions m) _).modifyMonitor m _ = u
  have hu' : u = { t with
      allSubscriptions := t.allSubscriptions.erase sub
      monitor := Function.update t.monitor m
        { t.monitor m with subscriptions := (t.monitor m).subscriptions.erase sub }
      refs := u.refs, mem := u.mem } := by
    rw [← hu]
    rfl
  have hrefsU : u.refs = Function.update t.refs (.subscription sub.ptr)
      ((t.refs (.subscription sub.ptr)).unref .allSubscriptions) := by
    rw [← hu]
    rfl
  have hfreedU : ∀ m', timesFreed u (.monitor m') = timesFreed s (.monitor m') := fun m' => by
    rw [← hu]
    show timesFreed ((((t.unlistSubscription sub).dropRef (.subscription sub.ptr)
      .allSubscriptions)).listRemove (.subscriptions m) _) (.monitor m') = _
    rw [timesFreed_listRemove, timesFreed_dropRef _ (by simp)]
    show timesFreed (t.listRemove .allSubscriptions _) (.monitor m') = _
    rw [timesFreed_listRemove, htables.rest]
    rfl
  -- that of the monitor's list is, and the monitor has another reference than the subscription's
  rw [subscriptionUnref_of_last u .list (by
      rw [hrefsU, Function.update_self, RefCount.count_unref]
      omega) hmonitor,
    monitorUnref_of_held _ _ (by
      rw [dropRef_refs, Function.update_of_ne (by simp), hrefsU, Function.update_of_ne (by simp)]
      omega)]
  refine ⟨?_, fun m' hm' => ?_, ?_, ?_, fun m' hm' => ?_, ?_, fun ptr hptr => ?_,
    fun keep hkeep n unit => ?_, ?_, ?_, fun m' => ?_, ?_⟩
  · rw [dropRef_monitors, dropRef_monitors, hu', htables.rest]
  · rw [dropRef_monitor, dropRef_monitor, hu', htables.rest]
    exact Function.update_of_ne hm' _ _
  · rw [dropRef_monitor, dropRef_monitor, hu', htables.rest]
    show Function.update s.monitor m _ m = _
    rw [Function.update_self, erase_eq_filter_notMem (h.owned.nodup m)]
  · rw [dropRef_allSubscriptions, dropRef_allSubscriptions, hu', htables.rest]
    exact erase_eq_filter_notMem h.owned.allNodup sub
  · rw [dropRef_refs, Function.update_of_ne (by simpa using hm'), dropRef_refs,
      Function.update_of_ne (by simp), hrefsU, Function.update_of_ne (by simp), hrefs _ (by simp)]
  · rw [dropRef_refs, Function.update_self, RefCount.count_unref, dropRef_refs,
      Function.update_of_ne (by simp), hrefsU, Function.update_of_ne (by simp), hrefs _ (by simp)]
    rfl
  · have hne : ptr ≠ sub.ptr := by simpa using hptr
    rw [dropRef_refs, Function.update_of_ne (by simp), dropRef_refs,
      Function.update_of_ne (by simpa using hne), hrefsU, Function.update_of_ne (by simpa using hne),
      hrefs _ (by simp)]
  · rw [dropRef_node, dropRef_node, hu']
    show othersEntry keep ((t.node n).usubs unit) = _
    rw [hnode]
    dsimp only
    split
    · exact othersEntry_nodeUnsubscribe (hkeep sub (by simp)) (s.node n) unit
    · rfl
  · rw [dropRef_proxyMonitor, dropRef_proxyMonitor, hu', htables.rest]
  · rw [dropRef_nextPtr, dropRef_nextPtr, hu', htables.rest]
  · rw [timesFreed_dropRef_of_held _ _ (by
      rw [dropRef_refs, Function.update_of_ne (by simp), hrefsU, Function.update_of_ne (by simp)]
      omega), timesFreed_dropRef _ (by simp), hfreedU]
  · refine Emits.trans hemits (.of_log_eq ?_)
    rw [dropRef_log, dropRef_log, hu']

/-- The loop of `monitor_close`, while the monitor has a reference of its own besides those of the
subscriptions. -/
lemma sheds_loop (m : MonitorId) (l : List Subscription) : ∀ {s : Controller}, Consistent gap s →
    l.Nodup → (∀ sub ∈ l, sub ∈ (s.monitor m).subscriptions) →
    (∀ sub ∈ l, (s.refs (.subscription sub.ptr)).count = 2) →
    (l.length : ℤ) < (s.refs (.monitor m)).count →
    Sheds m l s (l.foldl (fun s sub => s.removeMonitorSubscription m sub) s) := by
  induction l with
  | nil => exact fun _ _ _ _ _ => .nil m _
  | cons sub l ih =>
    intro s h hnodup hsubs hheld hcount
    rw [List.nodup_cons] at hnodup
    rw [List.length_cons] at hcount
    have hsub := hsubs sub (by simp)
    have hround := sheds_removeMonitorSubscription h hsub (hheld sub (by simp)) (by omega)
    have hnext := (h.removeMonitorSubscription hsub).1
    rw [List.foldl_cons]
    refine hround.trans (l := [sub]) (ih hnext hnodup.2 (fun sub' hsub' => ?_)
      (fun sub' hsub' => ?_) ?_)
    · have hne : sub' ≠ sub := fun heq => hnodup.1 (heq ▸ hsub')
      rw [hround.own]
      simpa [hne] using hsubs sub' (by simp [hsub'])
    · -- another subscription is at another address
      have hne : sub'.ptr ≠ sub.ptr := fun heq => by
        have hall := ((h.owned.client m sub).mp hsub).1
        have hall' := ((h.owned.client m sub').mp (hsubs sub' (by simp [hsub']))).1
        exact hnodup.1 (List.inj_on_of_nodup_map h.owned.ptrs hall' hall heq ▸ hsub')
      rw [hround.subscriptionRefs sub'.ptr (by simpa using hne)]
      exact hheld sub' (by simp [hsub'])
    · rw [hround.count, List.length_singleton]
      omega

/-! ## What others keep -/

/-- The subscriptions that none of the closed monitors has. -/
def keeps (closed : List MonitorId) (sub : Subscription) : Bool :=
  match sub.monitor with
  | .client m => !decide (m ∈ closed)
  | .proxy _ => true

/-- The signals that a monitor sent, with their destinations. -/
def signals (m : MonitorId) (log : List Output) : List (String × MonitorSignal) :=
  log.filterMap fun
    | .monitorSignal m' dest sig => if m' = m then some (dest, sig) else none
    | _ => none

/-- The other clients have the same monitors, peers and subscriptions, nobody has dropped or taken
their references or told them anything, and their part of every table is the same. -/
structure OthersKept (closed : List MonitorId) (s s' : Controller) : Prop where
  listed : s'.monitors.filter (· ∉ closed) = s.monitors.filter (· ∉ closed)
  monitor : ∀ m ∉ closed, s'.monitor m = s.monitor m
  monitorRefs : ∀ m ∉ closed, s'.refs (.monitor m) = s.refs (.monitor m)
  subscriptions : s'.allSubscriptions.filter (keeps closed) =
    s.allSubscriptions.filter (keeps closed)
  subscriptionRefs : ∀ sub ∈ s.allSubscriptions, keeps closed sub = true →
    s'.refs (.subscription sub.ptr) = s.refs (.subscription sub.ptr)
  index : ∀ n unit, othersEntry (keeps closed) ((s'.node n).usubs unit) =
    othersEntry (keeps closed) ((s.node n).usubs unit)
  proxyMonitor : s'.proxyMonitor = s.proxyMonitor
  nextPtr : s'.nextPtr = s.nextPtr
  freed : ∀ m ∉ closed, timesFreed s' (.monitor m) = timesFreed s (.monitor m)
  told : ∀ m ∉ closed, signals m s'.log = signals m s.log

lemma signals_append (m : MonitorId) (log l : List Output) :
    signals m (log ++ l) = signals m log ++ signals m l :=
  List.filterMap_append

/-- Messages of other kinds are no signals of monitors. -/
lemma Emits.signals_eq {kinds : List OutputKind} (h : Emits kinds s s')
    (hkinds : OutputKind.notice ∉ kinds) (m : MonitorId) : signals m s'.log = signals m s.log := by
  apply h.filterMap_eq
  intro o ho
  split
  · exact absurd ho hkinds
  · rfl

lemma keeps_iff {closed : List MonitorId} {sub : Subscription} :
    keeps closed sub = true ↔ ∀ m ∈ closed, sub.monitor ≠ .client m := by
  unfold keeps
  split
  · rename_i m hm
    simp only [hm, Bool.not_eq_true', decide_eq_false_iff_not, ne_eq, MonitorRef.client.injEq]
    constructor
    · intro hnot m' hm' heq
      exact hnot (heq ▸ hm')
    · intro hall hmem
      exact hall m hmem rfl
  · rename_i p hp
    simp [hp]

lemma keeps_mono {closed closed' : List MonitorId} (hsub : closed ⊆ closed') {sub : Subscription}
    (h : keeps closed' sub = true) : keeps closed sub = true := by
  rw [keeps_iff] at h ⊢
  exact fun m hm => h m (hsub hm)

/-- Who keeps less sees the same of an entry as of the part that others see. -/
lemma othersEntry_of_le {keep keep' : Subscription → Bool}
    (hle : ∀ sub, keep' sub = true → keep sub = true) {entry entry' : Option UnitSubscriptions}
    (h : othersEntry keep entry = othersEntry keep entry') :
    othersEntry keep' entry = othersEntry keep' entry' := by
  have hagain : ∀ e : Option UnitSubscriptions,
      othersEntry keep' (othersEntry keep e) = othersEntry keep' e := by
    intro e
    match e with
    | none => rfl
    | some usubs =>
      have hfilter : (usubs.subs.filter keep).filter keep' = usubs.subs.filter keep' := by
        rw [List.filter_filter]
        apply List.filter_congr
        intro sub _
        have hsub := hle sub
        by_cases hk : keep' sub = true
        · simp [hk, hsub hk]
        · simp [hk]
      rw [othersEntry_some, othersEntry_some]
      split
      · rename_i hempty
        rw [List.isEmpty_iff] at hempty
        rw [← hfilter, hempty]
        rfl
      · rw [othersEntry_some, hfilter]
  rw [← hagain entry, h, hagain entry']

namespace OthersKept

variable {closed closed' : List MonitorId}

lemma refl (closed : List MonitorId) (s : Controller) : OthersKept closed s s :=
  ⟨rfl, fun _ _ => rfl, fun _ _ => rfl, rfl, fun _ _ _ => rfl, fun _ _ => rfl, rfl, rfl,
    fun _ _ => rfl, fun _ _ => rfl⟩

lemma mem_iff (h : OthersKept closed s s') {sub : Subscription} (hsub : keeps closed sub = true) :
    sub ∈ s'.allSubscriptions ↔ sub ∈ s.allSubscriptions := by
  have hmem : sub ∈ s'.allSubscriptions.filter (keeps closed) ↔
      sub ∈ s.allSubscriptions.filter (keeps closed) := by rw [h.subscriptions]
  simpa [List.mem_filter, hsub] using hmem

lemma listed_iff (h : OthersKept closed s s') {m : MonitorId} (hm : m ∉ closed) :
    m ∈ s'.monitors ↔ m ∈ s.monitors := by
  have hmem : m ∈ s'.monitors.filter (· ∉ closed) ↔ m ∈ s.monitors.filter (· ∉ closed) := by
    rw [h.listed]
  simpa [List.mem_filter, hm] using hmem

lemma trans (h : OthersKept closed s s') (h' : OthersKept closed s' s'') :
    OthersKept closed s s'' where
  listed := h'.listed.trans h.listed
  monitor m hm := (h'.monitor m hm).trans (h.monitor m hm)
  monitorRefs m hm := (h'.monitorRefs m hm).trans (h.monitorRefs m hm)
  subscriptions := h'.subscriptions.trans h.subscriptions
  subscriptionRefs sub hsub hkeep :=
    (h'.subscriptionRefs sub ((h.mem_iff hkeep).mpr hsub) hkeep).trans
      (h.subscriptionRefs sub hsub hkeep)
  index n unit := (h'.index n unit).trans (h.index n unit)
  proxyMonitor := h'.proxyMonitor.trans h.proxyMonitor
  nextPtr := h'.nextPtr.trans h.nextPtr
  freed m hm := (h'.freed m hm).trans (h.freed m hm)
  told m hm := (h'.told m hm).trans (h.told m hm)

/-- When more monitors are closed there are fewer others. -/
lemma mono (h : OthersKept closed s s') (hsub : closed ⊆ closed') : OthersKept closed' s s' where
  listed := by
    have hagain : ∀ l : List MonitorId,
        (l.filter (· ∉ closed)).filter (· ∉ closed') = l.filter (· ∉ closed') := by
      intro l
      rw [List.filter_filter]
      apply List.filter_congr
      intro m _
      by_cases hm : m ∈ closed
      · simp [hm, hsub hm]
      · simp [hm]
    rw [← hagain s'.monitors, h.listed, hagain]
  monitor m hm := h.monitor m fun hmem => hm (hsub hmem)
  monitorRefs m hm := h.monitorRefs m fun hmem => hm (hsub hmem)
  subscriptions := by
    have hagain : ∀ l : List Subscription,
        (l.filter (keeps closed)).filter (keeps closed') = l.filter (keeps closed') := by
      intro l
      rw [List.filter_filter]
      apply List.filter_congr
      intro sub _
      by_cases hk : keeps closed' sub = true
      · simp [hk, keeps_mono hsub hk]
      · simp [hk]
    rw [← hagain s'.allSubscriptions, h.subscriptions, hagain]
  subscriptionRefs sub hmem hkeep := h.subscriptionRefs sub hmem (keeps_mono hsub hkeep)
  index n unit := othersEntry_of_le (fun _ => keeps_mono hsub) (h.index n unit)
  proxyMonitor := h.proxyMonitor
  nextPtr := h.nextPtr
  freed m hm := h.freed m fun hmem => hm (hsub hmem)
  told m hm := h.told m fun hmem => hm (hsub hmem)

/-- The subscriptions that a closed monitor sheds are not those of others. -/
lemma of_sheds {m : MonitorId} {l : List Subscription} (h : Sheds m l s s')
    (hl : ∀ sub ∈ l, sub.monitor = .client m)
    (hptrs : (s.allSubscriptions.map (·.ptr)).Nodup) (hmem : l ⊆ s.allSubscriptions) :
    OthersKept [m] s s' where
  listed := by rw [h.monitors]
  monitor m' hm' := h.monitor m' (by simpa using hm')
  monitorRefs m' hm' := h.monitorRefs m' (by simpa using hm')
  subscriptions := by
    rw [h.all, List.filter_filter]
    apply List.filter_congr
    intro sub _
    by_cases hsub : sub ∈ l
    · have hkeep : keeps [m] sub = false := by
        rw [Bool.eq_false_iff, Ne, keeps_iff]
        exact fun hall => hall m (by simp) (hl sub hsub)
      simp [hkeep]
    · simp [hsub]
  subscriptionRefs sub hsub hkeep := by
    apply h.subscriptionRefs
    intro hptr
    have ⟨sub', hsub', heq⟩ := List.mem_map.mp hptr
    have hsame := List.inj_on_of_nodup_map hptrs (hmem hsub') hsub heq
    exact keeps_iff.mp hkeep m (by simp) (hl sub (hsame ▸ hsub'))
  index n unit := by
    apply h.index
    intro sub hsub
    rw [Bool.eq_false_iff, Ne, keeps_iff]
    exact fun hall => hall m (by simp) (hl sub hsub)
  proxyMonitor := h.proxyMonitor
  nextPtr := h.nextPtr
  freed m' _ := h.freed m'
  told m' _ := h.emits.signals_eq (by simp) m'

end OthersKept

/-- A change of the monitor itself, of its references and of the list of monitors. -/
lemma OthersKept.of_own {m : MonitorId} (hlisted : ∀ m', m' ≠ m → s'.monitor m' = s.monitor m')
    (hrefs : ∀ obj, obj ≠ .monitor m → s'.refs obj = s.refs obj)
    (hmonitors : s'.monitors = s.monitors ∨ s'.monitors = s.monitors.erase m)
    (hrest : s'.allSubscriptions = s.allSubscriptions ∧ s'.node = s.node ∧
      s'.proxyMonitor = s.proxyMonitor ∧ s'.nextPtr = s.nextPtr)
    (hfreed : ∀ m', m' ≠ m → timesFreed s' (.monitor m') = timesFreed s (.monitor m'))
    (htold : ∀ m', m' ≠ m → signals m' s'.log = signals m' s.log) : OthersKept [m] s s' where
  listed := by
    apply hmonitors.elim
    · intro heq
      rw [heq]
    · intro heq
      rw [heq, ← List.erase_filter, List.erase_of_not_mem]
      simp
  monitor m' hm' := hlisted m' (by simpa using hm')
  monitorRefs m' hm' := hrefs _ (by simpa using hm')
  subscriptions := by rw [hrest.1]
  subscriptionRefs sub _ _ := hrefs _ (by simp)
  index n unit := by rw [hrest.2.1]
  proxyMonitor := hrest.2.2.1
  nextPtr := hrest.2.2.2
  freed m' hm' := hfreed m' (by simpa using hm')
  told m' hm' := htold m' (by simpa using hm')

/-! ## Closing one monitor -/

/-- What a peer is told when the monitor is closed. -/
def farewell (peer : MonitorPeer) : String × MonitorSignal :=
  (peer.name, .peerRemoved "monitor closed")

/-- The monitor is gone: it is on no list and not on the bus, none of its subscriptions is left, and
its peers were told. As many references as `left` are left, and at none it was freed once. -/
structure Closing (m : MonitorId) (left : ℤ) (s s' : Controller) : Prop where
  unlisted : m ∉ s'.monitors
  slot : (s'.monitor m).exportSlot = false
  unfiled : ∀ sub ∈ s'.allSubscriptions, sub.monitor ≠ .client m
  count : (s'.refs (.monitor m)).count = left
  freed : timesFreed s' (.monitor m) = timesFreed s (.monitor m) + if left = 0 then 1 else 0
  told : signals m s'.log = signals m s.log ++ (s.monitor m).peers.map farewell

lemma closePeers_eq (s : Controller) (m : MonitorId) : s.closePeers m = { s with
    monitor := Function.update s.monitor m
      { s.monitor m with peers := [], exportSlot := false }
    log := s.log ++ (s.monitor m).peers.map fun peer =>
      .monitorSignal m peer.name (.peerRemoved "monitor closed") } := by
  have hloop : ∀ (peers : List MonitorPeer) (t : Controller),
      peers.foldl (fun t peer => t.emit (.monitorSignal m peer.name (.peerRemoved "monitor closed")))
        t = { t with log := t.log ++ peers.map fun peer =>
          .monitorSignal m peer.name (.peerRemoved "monitor closed") } := by
    intro peers
    induction peers with
    | nil => simp
    | cons peer peers ih =>
      intro t
      rw [List.foldl_cons, ih]
      simp [emit]
  unfold closePeers
  rw [hloop]
  rfl

lemma signals_farewells (m m' : MonitorId) (peers : List MonitorPeer) :
    signals m' (peers.map fun peer =>
      .monitorSignal m peer.name (.peerRemoved "monitor closed")) =
      if m = m' then peers.map farewell else [] := by
  unfold signals
  rw [List.filterMap_map]
  by_cases hm : m = m'
  · rw [if_pos hm, ← List.filterMap_eq_map]
    apply List.filterMap_congr
    intro peer _
    simp [hm, farewell]
  · rw [if_neg hm, List.filterMap_eq_nil_iff]
    intro peer _
    simp [hm]

/-- The last step: the list drops its reference. -/
lemma closing_removeMonitor {m : MonitorId} (left : ℤ)
    (hnodup : s.monitors.Nodup) (hcount : (s.refs (.monitor m)).count = left + 1)
    (hslot : (s.monitor m).exportSlot = false)
    (hunfiled : ∀ sub ∈ s.allSubscriptions, sub.monitor ≠ .client m) :
    OthersKept [m] s (s.removeMonitor m) ∧ m ∉ (s.removeMonitor m).monitors ∧
      ((s.removeMonitor m).monitor m).exportSlot = false ∧
      (∀ sub ∈ (s.removeMonitor m).allSubscriptions, sub.monitor ≠ .client m) ∧
      ((s.removeMonitor m).refs (.monitor m)).count = left ∧
      timesFreed (s.removeMonitor m) (.monitor m) =
        timesFreed s (.monitor m) + (if left = 0 then 1 else 0) ∧
      (s.removeMonitor m).log = s.log := by
  have hrefs : (s.unlistMonitor m).refs = s.refs := rfl
  have hunlist : ∀ m', timesFreed (s.unlistMonitor m) (.monitor m') = timesFreed s (.monitor m') :=
    fun m' => timesFreed_listRemove s _ _ _
  have hgone : m ∉ s.monitors.erase m := hnodup.not_mem_erase
  unfold removeMonitor
  by_cases hleft : left = 0
  · -- nobody else holds the monitor
    have hlast : ((s.unlistMonitor m).refs (.monitor m)).count = 1 := by
      rw [hrefs, hcount, hleft]
      rfl
    rw [monitorUnref_of_last _ _ hlast, if_pos hleft]
    refine ⟨.of_own (fun m' hm' => ?_) (fun obj hobj => ?_) (Or.inr rfl) ⟨rfl, rfl, rfl, rfl⟩
      (fun m' hm' => ?_) fun _ _ => rfl, hgone, ?_, hunfiled, ?_, ?_, rfl⟩
    · rw [modifyMonitor_monitor, Function.update_of_ne hm']
      rfl
    · rw [modifyMonitor_refs, dropRef_refs, Function.update_of_ne hobj, hrefs]
    · show timesFreed ((s.unlistMonitor m).dropRef (.monitor m) .list) (.monitor m') = _
      rw [timesFreed_dropRef _ (by simpa using hm'), hunlist]
    · rw [modifyMonitor_monitor, Function.update_self]
    · rw [modifyMonitor_refs, dropRef_refs, Function.update_self, RefCount.count_unref, hlast, hleft]
      rfl
    · show timesFreed ((s.unlistMonitor m).dropRef (.monitor m) .list) (.monitor m) = _
      rw [timesFreed_dropRef_of_last _ _ hlast, hunlist]
  · have hheld : ((s.unlistMonitor m).refs (.monitor m)).count ≠ 1 := by
      rw [hrefs, hcount]
      omega
    rw [monitorUnref_of_held _ _ hheld, if_neg hleft]
    refine ⟨.of_own (fun _ _ => rfl) (fun obj hobj => ?_) (Or.inr rfl) ⟨rfl, rfl, rfl, rfl⟩
      (fun m' _ => ?_) fun _ _ => rfl, hgone, hslot, hunfiled, ?_, ?_, rfl⟩
    · rw [dropRef_refs, Function.update_of_ne hobj, hrefs]
    · rw [timesFreed_dropRef_of_held _ _ hheld, hunlist]
    · rw [dropRef_refs, Function.update_self, RefCount.count_unref, hrefs, hcount]
      omega
    · rw [timesFreed_dropRef_of_held _ _ hheld, hunlist]
      rfl

/-- `monitor_close` and `controller_remove_monitor` together. -/
theorem closing_monitorClose (h : Consistent gap s) (hnodup : s.monitors.Nodup) {m : MonitorId}
    (left : ℤ) (hleft : 0 ≤ left)
    (hheld : ∀ sub ∈ (s.monitor m).subscriptions, (s.refs (.subscription sub.ptr)).count = 2)
    (hcount : (s.refs (.monitor m)).count = left + 1 + (s.monitor m).subscriptions.length) :
    OthersKept [m] s ((s.monitorClose m).removeMonitor m) ∧
      Closing m left s ((s.monitorClose m).removeMonitor m) := by
  have hsheds := sheds_loop m (s.monitor m).subscriptions h (h.owned.nodup m) (fun _ hsub => hsub)
    hheld (by omega)
  have hshed := OthersKept.of_sheds hsheds
    (fun sub hsub => ((h.owned.client m sub).mp hsub).2) h.owned.ptrs
    fun sub hsub => ((h.owned.client m sub).mp hsub).1
  unfold monitorClose
  simp only
  generalize List.foldl _ s (s.monitor m).subscriptions = t at hsheds hshed
  have hpeers : (t.monitor m).peers = (s.monitor m).peers := by rw [hsheds.own]
  have hclosed : t.closePeers m = { t with
      monitor := Function.update t.monitor m { t.monitor m with peers := [], exportSlot := false }
      log := (t.closePeers m).log } := by
    rw [closePeers_eq]
  have hlog : (t.closePeers m).log = t.log ++ (s.monitor m).peers.map fun peer =>
      .monitorSignal m peer.name (.peerRemoved "monitor closed") := by
    rw [closePeers_eq, hpeers]
  generalize t.closePeers m = u at hclosed hlog
  have htell : OthersKept [m] t u := by
    refine .of_own (fun m' hm' => ?_) (fun _ _ => by rw [hclosed]) (Or.inl (by rw [hclosed]))
      ⟨by rw [hclosed], by rw [hclosed], by rw [hclosed], by rw [hclosed]⟩ (fun m' _ => ?_)
      fun m' hm' => ?_
    · rw [hclosed]
      exact Function.update_of_ne hm' _ _
    · rw [hclosed]
      rfl
    · rw [hlog, signals_append, signals_farewells, if_neg (fun heq => hm' heq.symm), List.append_nil]
  have hunfiled : ∀ sub ∈ u.allSubscriptions, sub.monitor ≠ .client m := fun sub hsub hmonitor => by
    rw [hclosed] at hsub
    rw [hsheds.all, List.mem_filter, decide_eq_true_eq] at hsub
    exact hsub.2 ((h.owned.client m sub).mpr ⟨hsub.1, hmonitor⟩)
  have ⟨hremove, hgone, hslot, hnone, hzero, hfreed, hquiet⟩ :=
    closing_removeMonitor (s := u) (m := m) left
      (by rw [hclosed, hsheds.monitors]; exact hnodup)
      (by rw [hclosed, hsheds.count, hcount]; omega)
      (by rw [hclosed]; simp) hunfiled
  refine ⟨(hshed.trans htell).trans hremove, hgone, hslot, hnone, hzero, ?_, ?_⟩
  · have hmem : timesFreed u (.monitor m) = timesFreed t (.monitor m) := by
      rw [hclosed]
      rfl
    rw [hfreed, hmem, hsheds.freed]
  · rw [hquiet, hlog, signals_append, signals_farewells, if_pos rfl,
      hsheds.emits.signals_eq (by simp)]

end Controller
end BlueChi
