import BlueChi.Controller.Teardown

/-!
# The references of client monitors

A monitor on the list is held by the list and by each of its subscriptions, and a subscription by its
monitor and by the list of all subscriptions (`Monitored`). So a monitor that is closed is freed, once.
-/

open Execution

namespace BlueChi
namespace Controller

variable {gap : ℤ} {s s' : Controller}

/-! ## A new monitor -/

/-- What `controller_method_create_monitor` changes. -/
structure Creates (exported : Bool) (s s' : Controller) : Prop where
  monitors : s'.monitors = s.monitors ++ if exported then [s.nextPtr] else []
  monitor : ∀ m, m ≠ s.nextPtr → s'.monitor m = s.monitor m
  slot : (s'.monitor s.nextPtr).exportSlot = exported
  subscriptions : (s'.monitor s.nextPtr).subscriptions = []
  refs : ∀ obj, obj ≠ .monitor s.nextPtr → s'.refs obj = s.refs obj
  count : (s'.refs (.monitor s.nextPtr)).count = if exported then 1 else 0
  all : s'.allSubscriptions = s.allSubscriptions
  proxyMonitor : s'.proxyMonitor = s.proxyMonitor
  nextPtr : s'.nextPtr = s.nextPtr + 1
  freed : ∀ m, m ≠ s.nextPtr → timesFreed s' (.monitor m) = timesFreed s (.monitor m)
  unfreed : exported = true → timesFreed s' (.monitor s.nextPtr) = timesFreed s (.monitor s.nextPtr)

/-- The handler drops the reference that the monitor was made with: the last one, unless the list has
taken another. -/
lemma creates (s : Controller) (serial : Serial) (owner : String) (exported : Bool) :
    Creates exported s (s.createMonitor serial owner exported) := by
  unfold createMonitor
  match exported with
  | true =>
    simp only [if_true]
    generalize ht : appendMonitor _ s.nextPtr = t
    have hcount : (t.refs (.monitor s.nextPtr)).count = 2 := by
      rw [← ht]
      simp [appendMonitor, takeRef, monitorNew, newRef, modifyMonitor, emit]
    have hrefs : ∀ obj, obj ≠ .monitor s.nextPtr → t.refs obj = s.refs obj := fun obj hobj => by
      rw [← ht]
      simp [appendMonitor, takeRef, monitorNew, newRef, modifyMonitor, emit, hobj]
    have hmonitor : t.monitor = Function.update s.monitor s.nextPtr
        ⟨s.nextMonitorId + 1, owner, [], true, []⟩ := by
      rw [← ht]
      simp [appendMonitor, takeRef, monitorNew, newRef, modifyMonitor, emit]
    have hrest : t.monitors = s.monitors ++ [s.nextPtr] ∧ t.mem = s.mem ∧
        t.allSubscriptions = s.allSubscriptions ∧ t.proxyMonitor = s.proxyMonitor ∧
        t.nextPtr = s.nextPtr + 1 := by
      rw [← ht]
      simp [appendMonitor, takeRef, monitorNew, newRef, modifyMonitor, emit]
    have hheld : (t.refs (.monitor s.nextPtr)).count ≠ 1 := by omega
    have hmem : ∀ m, timesFreed (t.dropRef (.monitor s.nextPtr) .creator) (.monitor m) =
        timesFreed s (.monitor m) := fun m => by
      rw [timesFreed_dropRef_of_held _ _ hheld]
      unfold timesFreed
      rw [hrest.2.1]
    rw [monitorUnref_of_held _ _ hheld]
    refine ⟨hrest.1, fun m hm => ?_, ?_, ?_, fun obj hobj => ?_, ?_, hrest.2.2.1, hrest.2.2.2.1,
      hrest.2.2.2.2, fun m _ => hmem m, fun _ => hmem _⟩
    · rw [dropRef_monitor, hmonitor, Function.update_of_ne hm]
    · rw [dropRef_monitor, hmonitor, Function.update_self]
    · rw [dropRef_monitor, hmonitor, Function.update_self]
    · rw [dropRef_refs, Function.update_of_ne hobj, hrefs obj hobj]
    · rw [dropRef_refs, Function.update_self, RefCount.count_unref, hcount]
      rfl
  | false =>
    simp only [Bool.false_eq_true, if_false]
    generalize ht : (s.monitorNew owner).emit _ = t
    have hcount : (t.refs (.monitor s.nextPtr)).count = 1 := by
      rw [← ht]
      simp [monitorNew, newRef, emit]
    have hrefs : ∀ obj, obj ≠ .monitor s.nextPtr → t.refs obj = s.refs obj := fun obj hobj => by
      rw [← ht]
      simp [monitorNew, newRef, emit, hobj]
    have hmonitor : t.monitor = Function.update s.monitor s.nextPtr
        ⟨s.nextMonitorId + 1, owner, [], false, []⟩ := by
      rw [← ht]
      rfl
    have hrest : t.monitors = s.monitors ∧ t.mem = s.mem ∧
        t.allSubscriptions = s.allSubscriptions ∧ t.proxyMonitor = s.proxyMonitor ∧
        t.nextPtr = s.nextPtr + 1 := by
      rw [← ht]
      exact ⟨rfl, rfl, rfl, rfl, rfl⟩
    rw [monitorUnref_of_last _ _ hcount]
    refine ⟨?_, fun m hm => ?_, ?_, ?_, fun obj hobj => ?_, ?_, hrest.2.2.1, hrest.2.2.2.1,
      hrest.2.2.2.2, fun m hm => ?_, fun hexp => Bool.noConfusion hexp⟩
    · rw [if_neg Bool.false_ne_true, List.append_nil]
      exact hrest.1
    · rw [modifyMonitor_monitor, Function.update_of_ne hm, dropRef_monitor, hmonitor,
        Function.update_of_ne hm]
    · rw [modifyMonitor_monitor, Function.update_self]
    · rw [modifyMonitor_monitor, Function.update_self, dropRef_monitor, hmonitor, Function.update_self]
    · rw [modifyMonitor_refs, dropRef_refs, Function.update_of_ne hobj, hrefs obj hobj]
    · rw [modifyMonitor_refs, dropRef_refs, Function.update_self, RefCount.count_unref, hcount]
      rfl
    · show timesFreed (t.dropRef (.monitor s.nextPtr) .creator) (.monitor m) = _
      rw [timesFreed_dropRef _ (by simpa using hm)]
      unfold timesFreed
      rw [hrest.2.1]

/-! ## A new subscription -/

/-- What `monitor_method_subscribe` changes. -/
structure Files (m : MonitorId) (sub : Subscription) (s s' : Controller) : Prop where
  ptr : sub.ptr = s.nextPtr
  own : sub.monitor = .client m
  monitors : s'.monitors = s.monitors
  monitor : s'.monitor = Function.update s.monitor m
    { s.monitor m with subscriptions := (s.monitor m).subscriptions ++ [sub] }
  refs : ∀ obj, ofClients obj = true → obj ≠ .monitor m → obj ≠ .subscription sub.ptr →
    s'.refs obj = s.refs obj
  count : (s'.refs (.monitor m)).count = (s.refs (.monitor m)).count + 1
  held : (s'.refs (.subscription sub.ptr)).count = 2
  all : s'.allSubscriptions = s.allSubscriptions ++ [sub]
  proxyMonitor : s'.proxyMonitor = s.proxyMonitor
  nextPtr : s'.nextPtr = s.nextPtr + 1
  freed : ∀ m', timesFreed s' (.monitor m') = timesFreed s (.monitor m')

/-- The handler drops the reference that the subscription was made with; the two of the lists are
left. -/
lemma files (s : Controller) (m : MonitorId) (serial : Serial) (node : String)
    (units : List String) : Files m (s.createMonitorSubscription m node units).1 s
      (s.monitorMethodSubscribe m serial node units) := by
  unfold monitorMethodSubscribe
  simp only
  generalize hsub : (s.createMonitorSubscription m node units).1 = sub
  have hptr : sub.ptr = s.nextPtr := by
    rw [← hsub]
    rfl
  have hown : sub.monitor = .client m := by
    rw [← hsub]
    rfl
  unfold addSubscription
  generalize ht : appendSubscription _ sub = t
  have hrest : t.monitors = s.monitors ∧ t.allSubscriptions = s.allSubscriptions ++ [sub] ∧
      t.proxyMonitor = s.proxyMonitor ∧ t.nextPtr = s.nextPtr + 1 ∧ t.mem = s.mem ∧
      t.monitor = Function.update s.monitor m
        { s.monitor m with subscriptions := (s.monitor m).subscriptions ++ [sub] } := by
    rw [← ht]
    simp [appendSubscription, appendMonitorSubscription, createMonitorSubscription, takeRef, newRef]
  have hrefs : t.refs = Function.update (Function.update s.refs (.subscription sub.ptr)
      ((((RefCount.new .creator).ref .list).ref .allSubscriptions))) (.monitor m)
      ((s.refs (.monitor m)).ref (.subscription sub.ptr)) := by
    rw [← ht, hptr]
    funext obj
    by_cases hmon : obj = .monitor m
    · simp [appendSubscription, appendMonitorSubscription, createMonitorSubscription, takeRef, newRef,
        hmon, hptr]
    · by_cases hobj : obj = .subscription s.nextPtr
      · simp [appendSubscription, appendMonitorSubscription, createMonitorSubscription, takeRef,
          newRef, hobj, hptr]
      · simp [appendSubscription, appendMonitorSubscription, createMonitorSubscription, takeRef,
          newRef, hobj, hmon, hptr]
  have hfile := tablesOnly.fileSubscription sub
    ((s.createMonitorSubscription m node units).2.appendMonitorSubscription m sub |>.subscribedNodes
      sub) t
  generalize List.foldl _ t _ = u at hfile
  have hrefsU : ∀ obj, ofClients obj = true → u.refs obj = t.refs obj := fun obj hobj =>
    hfile.refs obj fun p hp => by
      rw [hp] at hobj
      exact Bool.noConfusion hobj
  have hthree : ((u.emit (.reply serial (.id sub.id))).refs (.subscription sub.ptr)).count = 3 := by
    rw [emit_refs, hrefsU _ rfl, hrefs, Function.update_of_ne (by simp), Function.update_self]
    rfl
  rw [subscriptionUnref_of_held _ _ (by omega)]
  refine ⟨hptr, hown, ?_, ?_, fun obj hobj hmon hne => ?_, ?_, ?_, ?_, ?_, ?_, fun m' => ?_⟩
  · rw [dropRef_monitors, emit_monitors, hfile.rest]
    exact hrest.1
  · rw [dropRef_monitor, emit_monitor, hfile.rest]
    exact hrest.2.2.2.2.2
  · rw [dropRef_refs, Function.update_of_ne hne, emit_refs, hrefsU obj hobj, hrefs,
      Function.update_of_ne hmon, Function.update_of_ne hne]
  · rw [dropRef_refs, Function.update_of_ne (by simp), emit_refs, hrefsU _ rfl, hrefs,
      Function.update_self, RefCount.count_ref]
  · rw [dropRef_refs, Function.update_self, RefCount.count_unref, hthree]
    rfl
  · rw [dropRef_allSubscriptions, emit_allSubscriptions, hfile.rest]
    exact hrest.2.1
  · rw [dropRef_proxyMonitor, emit_proxyMonitor, hfile.rest]
    exact hrest.2.2.1
  · rw [dropRef_nextPtr, emit_nextPtr, hfile.rest]
    exact hrest.2.2.2.1
  · rw [timesFreed_dropRef _ (by simp)]
    unfold timesFreed
    rw [emit_mem, hfile.rest]
    show t.mem.count _ = _
    rw [hrest.2.2.2.2.1]

/-! ## The invariant -/

/-- The listed monitors are those on the bus, and the references are those of their holders. The
subscriptions of proxy monitors are at other addresses than those of clients. -/
structure Monitored (s : Controller) : Prop where
  nodup : s.monitors.Nodup
  exported : ∀ m, (s.monitor m).exportSlot = true ↔ m ∈ s.monitors
  count : ∀ m ∈ s.monitors,
    (s.refs (.monitor m)).count = 1 + ((s.monitor m).subscriptions.length : ℤ)
  listed : ∀ sub ∈ s.allSubscriptions, ∀ m, sub.monitor = .client m → m ∈ s.monitors
  held : ∀ sub ∈ s.allSubscriptions, ∀ m, sub.monitor = .client m →
    (s.refs (.subscription sub.ptr)).count = 2
  apart : ∀ p, ∀ sub ∈ s.allSubscriptions, ∀ m, sub.monitor = .client m →
    (s.proxyMonitor p).subscription.ptr ≠ sub.ptr
  below : ∀ p, (s.proxyMonitor p).subscription.ptr < s.nextPtr
  unfreed : ∀ m : ℕ, m ∈ s.monitors ∨ s.nextPtr ≤ m → timesFreed s (.monitor m) = 0

namespace Monitored

lemma lt_nextPtr (h : Monitored s) (hc : Consistent gap s) {m : ℕ} (hm : m ∈ s.monitors) :
    m < s.nextPtr :=
  hc.owned.exported m ((h.exported m).mpr hm)

/-- Steps that leave the clients alone keep the invariant. -/
theorem of_spares (h : Monitored s) (hc : Consistent gap s) (f : SparesClients s s') :
    Monitored s' where
  nodup := f.monitors ▸ h.nodup
  exported m := by
    rw [f.monitor, f.monitors]
    exact h.exported m
  count m hm := by
    rw [f.monitors] at hm
    rw [f.monitorRefs, f.monitor]
    exact h.count m hm
  listed sub hsub m hm := by
    rw [f.monitors]
    exact h.listed sub ((f.subscriptions sub m hm).mp hsub) m hm
  held sub hsub m hm := by
    have hold := (f.subscriptions sub m hm).mp hsub
    rw [f.subscriptionRefs sub.ptr (hc.owned.fresh sub hold) fun p => h.apart p sub hold m hm]
    exact h.held sub hold m hm
  apart p sub hsub m hm := by
    have hold := (f.subscriptions sub m hm).mp hsub
    have hlt := hc.owned.fresh sub hold
    apply (f.proxies p).elim
    · intro heq
      rw [heq]
      exact h.apart p sub hold m hm
    · intro hnew
      omega
  below p := by
    have hle := f.nextPtr
    apply (f.proxies p).elim
    · intro heq
      rw [heq]
      exact lt_of_lt_of_le (h.below p) hle
    · exact fun hnew => hnew.2
  unfreed m hm := by
    rw [f.freed]
    apply h.unfreed
    rw [f.monitors] at hm
    exact hm.imp id fun hle => f.nextPtr.trans hle

/-- A monitor is closed. -/
theorem closing (h : Monitored s) {m : ℕ} {left : ℤ} (hlt : m < s.nextPtr)
    (f : OthersKept [m] s s') (hclosing : Closing m left s s') : Monitored s' := by
  have hother : ∀ m', m' ∈ s'.monitors → m' ∉ [m] ∧ m' ∈ s.monitors := fun m' hm' => by
    have hne : m' ∉ [m] := by
      rw [List.mem_singleton]
      intro heq
      exact hclosing.unlisted (heq ▸ hm')
    exact ⟨hne, (f.listed_iff hne).mp hm'⟩
  have hkept : ∀ sub ∈ s'.allSubscriptions, keeps [m] sub = true ∧ sub ∈ s.allSubscriptions :=
    fun sub hsub => by
      have hkeep : keeps [m] sub = true := keeps_iff.mpr fun m' hm' => by
        rw [List.mem_singleton] at hm'
        rw [hm']
        exact hclosing.unfiled sub hsub
      exact ⟨hkeep, (f.mem_iff hkeep).mp hsub⟩
  refine ⟨?_, fun m' => ?_, fun m' hm' => ?_, fun sub hsub m' hm' => ?_, fun sub hsub m' hm' => ?_,
    fun p sub hsub m' hm' => ?_, fun p => ?_, fun m' hm' => ?_⟩
  · have hall : s'.monitors.filter (· ∉ [m]) = s'.monitors := by
      rw [List.filter_eq_self]
      intro m' hm'
      simpa using (hother m' hm').1
    rw [← hall, f.listed]
    exact h.nodup.filter _
  · by_cases hm : m' = m
    · rw [hm]
      simp [hclosing.slot, hclosing.unlisted]
    · rw [f.monitor m' (by simpa using hm), h.exported, f.listed_iff (by simpa using hm)]
  · have ⟨hne, hmem⟩ := hother m' hm'
    rw [f.monitorRefs m' hne, f.monitor m' hne]
    exact h.count m' hmem
  · have hne : m' ≠ m := fun heq => hclosing.unfiled sub hsub (heq ▸ hm')
    exact (f.listed_iff (by simpa using hne)).mpr (h.listed sub (hkept sub hsub).2 m' hm')
  · have ⟨hkeep, hmem⟩ := hkept sub hsub
    rw [f.subscriptionRefs sub hmem hkeep]
    exact h.held sub hmem m' hm'
  · rw [f.proxyMonitor]
    exact h.apart p sub (hkept sub hsub).2 m' hm'
  · rw [f.proxyMonitor, f.nextPtr]
    exact h.below p
  · by_cases hm : m' = m
    · rw [hm, f.nextPtr] at hm'
      exact absurd hm' fun hor => hor.elim hclosing.unlisted (by omega)
    · rw [f.freed m' (by simpa using hm)]
      apply h.unfreed
      rw [f.nextPtr] at hm'
      exact hm'.imp (fun hmem => (hother m' hmem).2) id

/-! ## Making and changing monitors -/

/-- `controller_method_create_monitor`: the monitor is listed and held by the list alone, or freed at
once. -/
theorem createMonitor (h : Monitored s) (hc : Consistent gap s) (serial : Serial) (owner : String)
    (exported : Bool) : Monitored (s.createMonitor serial owner exported) := by
  have f := creates s serial owner exported
  generalize s.createMonitor serial owner exported = s' at f
  have hold : ∀ m ∈ s.monitors, m ≠ s.nextPtr := fun m hm heq => by
    have hlt := h.lt_nextPtr hc hm
    rw [heq] at hlt
    exact absurd hlt (Nat.lt_irrefl _)
  have hsub : s.monitors ⊆ s'.monitors := by
    rw [f.monitors]
    exact List.subset_append_left _ _
  have hlisted : ∀ m, m ≠ s.nextPtr → (m ∈ s'.monitors ↔ m ∈ s.monitors) := fun m hm => by
    rw [f.monitors, List.mem_append]
    apply or_iff_left
    split
    · simpa using hm
    · simp
  have hnew : s.nextPtr ∈ s'.monitors ↔ exported = true := by
    rw [f.monitors, List.mem_append]
    have hnot : s.nextPtr ∉ s.monitors := fun hmem => hold _ hmem rfl
    split
    · rename_i hexp
      simp [hexp]
    · rename_i hexp
      simp [hexp, hnot]
  refine ⟨?_, fun m => ?_, fun m hm => ?_, fun sub hmem m hm => ?_, fun sub hmem m hm => ?_,
    fun p sub hmem m hm => ?_, fun p => ?_, fun m hm => ?_⟩
  · rw [f.monitors]
    split
    · exact List.nodup_append.mpr ⟨h.nodup, List.pairwise_singleton _ _, fun a ha b hb heq =>
        hold a ha (heq.trans (List.mem_singleton.mp hb))⟩
    · rw [List.append_nil]
      exact h.nodup
  · by_cases hm : m = s.nextPtr
    · rw [hm, f.slot, hnew]
    · rw [f.monitor m hm, hlisted m hm, h.exported]
  · by_cases hm' : m = s.nextPtr
    · rw [hm'] at hm ⊢
      rw [f.count, f.subscriptions, if_pos (hnew.mp hm)]
      rfl
    · rw [f.refs _ (by simpa using hm'), f.monitor m hm']
      exact h.count m ((hlisted m hm').mp hm)
  · rw [f.all] at hmem
    exact hsub (h.listed sub hmem m hm)
  · rw [f.all] at hmem
    rw [f.refs _ (by simp)]
    exact h.held sub hmem m hm
  · rw [f.all] at hmem
    rw [f.proxyMonitor]
    exact h.apart p sub hmem m hm
  · rw [f.proxyMonitor, f.nextPtr]
    exact Nat.lt_succ_of_lt (h.below p)
  · rw [f.nextPtr] at hm
    by_cases hm' : m = s.nextPtr
    · rw [hm'] at hm ⊢
      have hexp := hm.elim hnew.mp (by omega)
      rw [f.unfreed hexp]
      exact h.unfreed _ (Or.inr (le_refl _))
    · rw [f.freed m hm']
      exact h.unfreed m (hm.imp (hlisted m hm').mp (by omega))

/-- A change of the peers. -/
lemma modifyPeers (h : Monitored s) (m : MonitorId) (f : Monitor → Monitor)
    (hslot : (f (s.monitor m)).exportSlot = (s.monitor m).exportSlot)
    (hsubs : (f (s.monitor m)).subscriptions = (s.monitor m).subscriptions) :
    Monitored (s.modifyMonitor m f) := by
  have hsame : ∀ m', ((s.modifyMonitor m f).monitor m').exportSlot = (s.monitor m').exportSlot ∧
      ((s.modifyMonitor m f).monitor m').subscriptions = (s.monitor m').subscriptions := by
    intro m'
    by_cases hm : m' = m
    · rw [hm, modifyMonitor_monitor, Function.update_self]
      exact ⟨hslot, hsubs⟩
    · rw [modifyMonitor_monitor, Function.update_of_ne hm]
      exact ⟨rfl, rfl⟩
  refine ⟨h.nodup, fun m' => ?_, fun m' hm' => ?_, h.listed, h.held, h.apart, h.below, h.unfreed⟩
  · rw [(hsame m').1]
    exact h.exported m'
  · rw [(hsame m').2]
    exact h.count m' hm'

/-- The fields of the invariant are the same. -/
lemma of_eq (h : Monitored s) (heq : s' = { s with
    log := s'.log, nextPeerId := s'.nextPeerId }) : Monitored s' := by
  rw [heq]
  exact ⟨h.1, h.2, h.3, h.4, h.5, h.6, h.7, h.8⟩

theorem monitorMethodAddPeer (h : Monitored s) (m : MonitorId) (serial : Serial) (name : String) :
    Monitored (s.monitorMethodAddPeer m serial name) := by
  unfold Controller.monitorMethodAddPeer
  split
  · exact h.of_eq rfl
  · split
    · exact h.of_eq rfl
    · exact (h.modifyPeers m (fun monitor =>
        { monitor with peers := monitor.peers ++ [⟨s.nextPeerId + 1, name⟩] }) rfl rfl).of_eq rfl

theorem monitorMethodRemovePeer (h : Monitored s) (m : MonitorId) (serial : Serial)
    (peerId : UInt32) (reason : String) :
    Monitored (s.monitorMethodRemovePeer m serial peerId reason) := by
  unfold Controller.monitorMethodRemovePeer
  split
  · exact h.of_eq rfl
  · rename_i peer _
    exact (h.modifyPeers m (fun monitor =>
      { monitor with peers := monitor.peers.erase peer }) rfl rfl).of_eq rfl

/-! ## Subscribing and unsubscribing -/

theorem monitorMethodSubscribe (h : Monitored s) (hc : Consistent gap s) {m : MonitorId}
    (hm : m ∈ s.monitors) (serial : Serial) (node : String) (units : List String) :
    Monitored (s.monitorMethodSubscribe m serial node units) := by
  have f := files s m serial node units
  generalize (s.createMonitorSubscription m node units).1 = sub at f
  generalize s.monitorMethodSubscribe m serial node units = s' at f
  have hold : ∀ sub' ∈ s.allSubscriptions, sub'.ptr ≠ sub.ptr := fun sub' hsub' => by
    have hlt := hc.owned.fresh sub' hsub'
    rw [f.ptr]
    omega
  have hor : ∀ sub' ∈ s'.allSubscriptions, sub' ∈ s.allSubscriptions ∨ sub' = sub :=
    fun sub' hsub' => by
      rw [f.all] at hsub'
      exact (List.mem_append.mp hsub').imp id List.mem_singleton.mp
  refine ⟨f.monitors ▸ h.nodup, fun m' => ?_, fun m' hm' => ?_, fun sub' hsub' m' hm' => ?_,
    fun sub' hsub' m' hm' => ?_, fun p sub' hsub' m' hm' => ?_, fun p => ?_, fun m' hm' => ?_⟩
  · rw [f.monitors, ← h.exported, f.monitor]
    by_cases heq : m' = m
    · rw [heq, Function.update_self]
    · rw [Function.update_of_ne heq]
  · rw [f.monitors] at hm'
    by_cases heq : m' = m
    · rw [heq, f.count, f.monitor, Function.update_self, List.length_append, List.length_singleton,
        h.count m hm]
      omega
    · rw [f.refs _ rfl (by simpa using heq) (by simp), f.monitor, Function.update_of_ne heq]
      exact h.count m' hm'
  · rw [f.monitors]
    apply (hor sub' hsub').elim
    · exact fun hmem => h.listed sub' hmem m' hm'
    · intro heq
      rw [heq, f.own, MonitorRef.client.injEq] at hm'
      exact hm' ▸ hm
  · apply (hor sub' hsub').elim
    · intro hmem
      rw [f.refs _ rfl (by simp) (by simpa using hold sub' hmem)]
      exact h.held sub' hmem m' hm'
    · intro heq
      rw [heq]
      exact f.held
  · rw [f.proxyMonitor]
    apply (hor sub' hsub').elim
    · exact fun hmem => h.apart p sub' hmem m' hm'
    · intro heq hptr
      have hlt := h.below p
      rw [hptr, heq, f.ptr] at hlt
      exact absurd hlt (Nat.lt_irrefl _)
  · rw [f.proxyMonitor, f.nextPtr]
    exact Nat.lt_succ_of_lt (h.below p)
  · rw [f.freed]
    apply h.unfreed
    rw [f.monitors, f.nextPtr] at hm'
    exact hm'.imp id (by omega)

/-- The references of the subscriptions of a monitor. -/
lemma held_own (h : Monitored s) (hc : Consistent gap s) {m : MonitorId} {sub : Subscription}
    (hsub : sub ∈ (s.monitor m).subscriptions) : (s.refs (.subscription sub.ptr)).count = 2 := by
  have ⟨hall, hm⟩ := (hc.owned.client m sub).mp hsub
  exact h.held sub hall m hm

theorem monitorMethodUnsubscribe (h : Monitored s) (hc : Consistent gap s) {m : MonitorId}
    (hm : m ∈ s.monitors) (serial : Serial) (subId : UInt32) :
    Monitored (s.monitorMethodUnsubscribe m serial subId) := by
  unfold Controller.monitorMethodUnsubscribe
  split
  · exact h.of_eq rfl
  · rename_i sub hfind
    refine Monitored.of_eq ?_ rfl
    have hsub : sub ∈ (s.monitor m).subscriptions := List.mem_of_find?_eq_some hfind
    have hlen : 0 < (s.monitor m).subscriptions.length := List.length_pos_of_mem hsub
    have hcount := h.count m hm
    have ⟨hall, hown⟩ := (hc.owned.client m sub).mp hsub
    have f := sheds_removeMonitorSubscription hc hsub (h.held_own hc hsub) (by omega)
    have hlength : (((s.monitor m).subscriptions.filter (· ∉ [sub])).length : ℤ) =
        (s.monitor m).subscriptions.length - 1 := by
      rw [← erase_eq_filter_notMem (hc.owned.nodup m), List.length_erase_of_mem hsub]
      omega
    generalize s.removeMonitorSubscription m sub = s' at f
    have hmem : ∀ sub' ∈ s'.allSubscriptions, sub' ∈ s.allSubscriptions ∧ sub' ≠ sub :=
      fun sub' hsub' => by
        rw [f.all, List.mem_filter] at hsub'
        simpa using hsub'
    refine ⟨f.monitors ▸ h.nodup, fun m' => ?_, fun m' hm' => ?_, fun sub' hsub' m' hm' => ?_,
      fun sub' hsub' m' hm' => ?_, fun p sub' hsub' m' hm' => ?_, fun p => ?_, fun m' hm' => ?_⟩
    · rw [f.monitors, ← h.exported]
      by_cases heq : m' = m
      · rw [heq, f.own]
      · rw [f.monitor m' heq]
    · rw [f.monitors] at hm'
      by_cases heq : m' = m
      · rw [heq, f.count, f.own, hlength, hcount, List.length_singleton]
        omega
      · rw [f.monitorRefs m' heq, f.monitor m' heq]
        exact h.count m' hm'
    · rw [f.monitors]
      exact h.listed sub' (hmem sub' hsub').1 m' hm'
    · have hne : sub'.ptr ≠ sub.ptr := fun hptr => (hmem sub' hsub').2
        (List.inj_on_of_nodup_map hc.owned.ptrs (hmem sub' hsub').1 hall hptr)
      rw [f.subscriptionRefs sub'.ptr (by simpa using hne)]
      exact h.held sub' (hmem sub' hsub').1 m' hm'
    · rw [f.proxyMonitor]
      exact h.apart p sub' (hmem sub' hsub').1 m' hm'
    · rw [f.proxyMonitor, f.nextPtr]
      exact h.below p
    · rw [f.freed]
      apply h.unfreed
      rw [f.monitors, f.nextPtr] at hm'
      exact hm'

end Monitored

/-! ## Closing events -/

/-- The monitors of a client. -/
def ownedBy (s : Controller) (name : String) (ms : List MonitorId) : List MonitorId :=
  ms.filter fun m => (s.monitor m).owner = name

lemma Closing.then {m : MonitorId} {left : ℤ} {closed : List MonitorId} {s s' s'' : Controller}
    (h : Closing m left s s') (f : OthersKept closed s' s'') (hm : m ∉ closed) :
    Closing m left s s'' where
  unlisted hmem := h.unlisted ((f.listed_iff hm).mp hmem)
  slot := by
    rw [f.monitor m hm]
    exact h.slot
  unfiled sub hsub hown := by
    have hkeep : keeps closed sub = true := keeps_iff.mpr fun m' hm' heq => by
      rw [hown, MonitorRef.client.injEq] at heq
      exact hm (heq ▸ hm')
    exact h.unfiled sub ((f.mem_iff hkeep).mp hsub) hown
  count := by
    rw [f.monitorRefs m hm]
    exact h.count
  freed := by
    rw [f.freed m hm]
    exact h.freed
  told := by
    rw [f.told m hm]
    exact h.told

lemma Closing.after {m : MonitorId} {left : ℤ} {closed : List MonitorId} {s s' s'' : Controller}
    (h : Closing m left s' s'') (f : OthersKept closed s s') (hm : m ∉ closed) :
    Closing m left s s'' where
  unlisted := h.unlisted
  slot := h.slot
  unfiled := h.unfiled
  count := h.count
  freed := by rw [h.freed, f.freed m hm]
  told := by rw [h.told, f.told m hm, f.monitor m hm]

namespace Monitored

/-- `monitor_method_close`: the reference of the handler is the last one. -/
theorem monitorMethodClose (h : Monitored s) (hc : Consistent gap s) {m : MonitorId}
    (hm : m ∈ s.monitors) (serial : Serial) :
    OthersKept [m] s (s.monitorMethodClose m serial) ∧
      Closing m 0 s (s.monitorMethodClose m serial) := by
  have hslot : ((s.takeRef (.monitor m) .handler).monitor m).exportSlot = true := (h.exported m).mpr hm
  have hc' : Consistent gap (s.takeRef (.monitor m) .handler) :=
    hc.of_frame (coreFrame_takeRef s _ rfl .handler)
  have hcount := h.count m hm
  have htake : OthersKept [m] s (s.takeRef (.monitor m) .handler) :=
    .of_own (fun _ _ => rfl) (fun obj hobj => by rw [takeRef_refs, Function.update_of_ne hobj])
      (Or.inl rfl) ⟨rfl, rfl, rfl, rfl⟩ (fun _ _ => rfl) fun _ _ => rfl
  have ⟨hkept, hclosing⟩ := closing_monitorClose hc' h.nodup (m := m) 1 (by omega)
    (fun sub hsub => by
      rw [takeRef_refs, Function.update_of_ne (by simp)]
      exact h.held_own hc hsub)
    (by
      rw [takeRef_refs, Function.update_self, RefCount.count_ref, hcount]
      show _ = 1 + 1 + ((s.monitor m).subscriptions.length : ℤ)
      omega)
  unfold Controller.monitorMethodClose
  simp only [hslot, Bool.not_true, Bool.false_eq_true, if_false]
  generalize ((s.takeRef (.monitor m) .handler).monitorClose m).removeMonitor m = t at hkept hclosing
  have hlast : ((t.emit (.reply serial .empty)).refs (.monitor m)).count = 1 := hclosing.count
  have hsignals : ∀ m', signals m' (t.log ++ [Output.reply serial .empty]) = signals m' t.log :=
    fun m' => by
      rw [signals_append]
      exact List.append_nil _
  rw [monitorUnref_of_last _ _ hlast]
  have hdrop : OthersKept [m] t ((((t.emit (.reply serial .empty)).dropRef (.monitor m)
      .handler)).modifyMonitor m fun monitor => { monitor with exportSlot := false }) := by
    refine .of_own (fun m' hm' => ?_) (fun obj hobj => ?_) (Or.inl rfl) ⟨rfl, rfl, rfl, rfl⟩
      (fun m' hm' => ?_) fun m' _ => hsignals m'
    · rw [modifyMonitor_monitor, Function.update_of_ne hm']
      rfl
    · rw [modifyMonitor_refs, dropRef_refs, Function.update_of_ne hobj]
      rfl
    · exact timesFreed_dropRef (t.emit (.reply serial .empty)) (by simpa using hm') .handler
  refine ⟨(htake.trans hkept).trans hdrop, hclosing.unlisted, ?_, hclosing.unfiled, ?_, ?_, ?_⟩
  · rw [modifyMonitor_monitor, Function.update_self]
  · rw [modifyMonitor_refs, dropRef_refs, Function.update_self, RefCount.count_unref, hlast]
    rfl
  · have honce : timesFreed ((t.emit (.reply serial .empty)).dropRef (.monitor m) .handler)
        (.monitor m) = timesFreed t (.monitor m) + 1 := timesFreed_dropRef_of_last _ _ hlast
    have hbefore : timesFreed t (.monitor m) = timesFreed s (.monitor m) := by
      rw [hclosing.freed]
      rfl
    rw [if_pos rfl, ← hbefore]
    exact honce
  · exact (hsignals m).trans hclosing.told

/-- The loop of `controller_client_disconnected`: the monitors of the client that it has passed are
gone, and nothing else has changed. -/
theorem closeOwned_loop (name : String) (ms : List MonitorId) : ∀ {s : Controller}, Monitored s →
    Consistent gap s → ms.Nodup → (∀ m ∈ ms, m ∈ s.monitors) →
    Monitored (ms.foldl (closeOwned name) s) ∧
      OthersKept (ownedBy s name ms) s (ms.foldl (closeOwned name) s) ∧
      ∀ m ∈ ownedBy s name ms, Closing m 0 s (ms.foldl (closeOwned name) s) := by
  induction ms with
  | nil => exact fun h _ _ _ => ⟨h, .refl _ _, fun m hm => by simp [ownedBy] at hm⟩
  | cons m ms ih =>
    intro s h hc hnodup hall
    rw [List.nodup_cons] at hnodup
    have hm := hall m (by simp)
    rw [List.foldl_cons]
    by_cases howner : (s.monitor m).owner = name
    · have hround : closeOwned name s m = (s.monitorClose m).removeMonitor m := if_pos howner
      rw [hround]
      have hcount := h.count m hm
      have ⟨hkept, hclosing⟩ := closing_monitorClose hc h.nodup (m := m) 0 (by omega)
        (fun sub hsub => h.held_own hc hsub) (by omega)
      have hc' := (hc.monitorClose m).removeMonitor m
      have h' := h.closing (h.lt_nextPtr hc hm) hkept hclosing
      generalize (s.monitorClose m).removeMonitor m = t at hkept hclosing hc' h'
      have hne : ∀ m' ∈ ms, m' ∉ [m] := fun m' hm' => by
        rw [List.mem_singleton]
        intro heq
        exact hnodup.1 (heq ▸ hm')
      have howned : ownedBy t name ms = ownedBy s name ms := by
        unfold ownedBy
        apply List.filter_congr
        intro m' hm'
        rw [hkept.monitor m' (hne m' hm')]
      have hcons : ownedBy s name (m :: ms) = m :: ownedBy s name ms := by
        simp [ownedBy, howner]
      have hin : ∀ m' ∈ ownedBy s name ms, m' ∈ ms := fun m' hm' => List.mem_of_mem_filter hm'
      have ⟨hlast, hothers, hgone⟩ := ih h' hc' hnodup.2 fun m' hm' =>
        (hkept.listed_iff (hne m' hm')).mpr (hall m' (by simp [hm']))
      rw [howned] at hothers hgone
      rw [hcons]
      refine ⟨hlast, (hkept.mono (by simp)).trans (hothers.mono (by simp)), fun m' hm' => ?_⟩
      apply (List.mem_cons.mp hm').elim
      · intro heq
        rw [heq]
        exact hclosing.then hothers fun hmem => hnodup.1 (hin m hmem)
      · intro hmem
        exact (hgone m' hmem).after hkept (hne m' (hin m' hmem))
    · have hround : closeOwned name s m = s := if_neg howner
      have hcons : ownedBy s name (m :: ms) = ownedBy s name ms := by
        simp [ownedBy, howner]
      rw [hround, hcons]
      exact ih h hc hnodup.2 fun m' hm' => hall m' (by simp [hm'])

end Monitored

/-! ## Runs -/

lemma nextPtr_le_applyNodeConfig (s : Controller) (cfg : NodeConfig) :
    s.nextPtr ≤ (applyNodeConfig s cfg).nextPtr := by
  unfold applyNodeConfig
  simp only [modifyNode_nextPtr]
  split
  · exact le_refl _
  · exact Nat.le_succ _

/-- Address 0 is never used. -/
lemma start_nextPtr_pos (threshold : ℤ) (cfgs : List NodeConfig) :
    0 < (start threshold cfgs).nextPtr := by
  have hloop : ∀ (cfgs : List NodeConfig) (s : Controller), 0 < s.nextPtr →
      0 < (cfgs.foldl applyNodeConfig s).nextPtr := by
    intro cfgs
    induction cfgs with
    | nil => exact fun _ h => h
    | cons cfg cfgs ih =>
      intro s h
      exact ih _ (lt_of_lt_of_le h (nextPtr_le_applyNodeConfig s cfg))
  exact hloop cfgs _ Nat.one_pos

/-- There are no monitors at the start. -/
lemma Starting.monitored (h : Starting s) (hptr : 0 < s.nextPtr) : Monitored s := by
  have hrest := h.rest
  have hall : s.allSubscriptions = [] := by rw [hrest]; rfl
  have hmonitors : s.monitors = [] := by rw [hrest]; rfl
  refine ⟨by rw [hmonitors]; exact List.nodup_nil, fun m => ?_, fun m hm => ?_, fun sub hsub => ?_,
    fun sub hsub => ?_, fun p sub hsub => ?_, fun p => ?_, fun m _ => ?_⟩
  · rw [hrest]
    simp [controllerNew]
  · rw [hmonitors] at hm
    simp at hm
  · rw [hall] at hsub
    simp at hsub
  · rw [hall] at hsub
    simp at hsub
  · rw [hall] at hsub
    simp at hsub
  · have hzero : (s.proxyMonitor p).subscription.ptr = 0 := by rw [hrest]; rfl
    rw [hzero]
    exact hptr
  · unfold timesFreed
    rw [hrest]
    rfl

/-- Every event but the stop keeps the invariant. -/
theorem Monitored.step (h : Monitored s) (hc : Consistent gap s) {e : Event}
    (hstop : ∀ sync, e ≠ .stop sync) (hstep : s.step e = some s') : Monitored s' := by
  have hspare : ∀ {t : Controller}, Spares s t → Monitored t := fun f =>
    h.of_spares hc (f hc.proxied.proxy).2
  have hstep := (step_eq_some_iff.mp hstep).2
  match e with
  | .accept peer fails =>
    exact hspare (Option.some.inj hstep ▸ Spares.closed.acceptNodeConnection s peer fails)
  | .register a serial name now nowMonotonic peer fails =>
    have ⟨_, heq⟩ := whenever_eq_some_iff.mp hstep
    exact hspare (heq ▸ Spares.closed.nodeMethodRegister s a trivial name now nowMonotonic peer fails)
  | .disconnected n =>
    have ⟨_, heq⟩ := whenever_eq_some_iff.mp hstep
    exact hspare (heq ▸ Spares.closed.nodeDisconnect s n)
  | .heartbeatTimer now =>
    exact hspare (Option.some.inj hstep ▸ Spares.closed.heartbeatTimerCallback s now)
  | .agentSignal bus n sig =>
    have ⟨_, heq⟩ := whenever_eq_some_iff.mp hstep
    exact hspare (heq ▸ Spares.closed.onSignal s n sig)
  | .agentReply r m =>
    exact hspare (Spares.nodes.agentRequestCallback (fun _ job _ _ _ t => Spares.addJob t job) hstep)
  | .proxyReply p => exact hspare (Spares.closed.proxyMonitorCallback hstep)
  | .lifecycle n serial method unit mode startTime started =>
    have ⟨_, heq⟩ := whenever_eq_some_iff.mp hstep
    exact hspare (heq ▸ Spares.nodes.nodeRunUnitLifecycleMethod s n serial method unit mode startTime
      started)
  | .forward n serial method failure started =>
    have ⟨_, heq⟩ := whenever_eq_some_iff.mp hstep
    exact hspare (heq ▸ Spares.nodes.nodeMethodForward s n serial method failure started)
  | .jobCancel id serial started =>
    have ⟨job, _, heq⟩ := Option.map_eq_some_iff.mp hstep
    exact hspare (heq ▸ Spares.nodes.jobMethodCancel s job serial started)
  | .fleet serial method starts =>
    exact hspare (Option.some.inj hstep ▸ Spares.nodes.agentFleetRequestStart s serial method starts)
  | .createMonitor serial owner exported =>
    exact Option.some.inj hstep ▸ h.createMonitor hc serial owner exported
  | .subscribe m serial node units =>
    have ⟨hm, heq⟩ := whenever_eq_some_iff.mp hstep
    exact heq ▸ h.monitorMethodSubscribe hc ((h.exported m).mp hm) serial node units
  | .unsubscribe m serial subId =>
    have ⟨hm, heq⟩ := whenever_eq_some_iff.mp hstep
    exact heq ▸ h.monitorMethodUnsubscribe hc ((h.exported m).mp hm) serial subId
  | .addPeer m serial name =>
    have ⟨_, heq⟩ := whenever_eq_some_iff.mp hstep
    exact heq ▸ h.monitorMethodAddPeer m serial name
  | .removePeer m serial peerId reason =>
    have ⟨_, heq⟩ := whenever_eq_some_iff.mp hstep
    exact heq ▸ h.monitorMethodRemovePeer m serial peerId reason
  | .closeMonitor m serial =>
    have ⟨hm, heq⟩ := whenever_eq_some_iff.mp hstep
    have hmem := (h.exported m).mp hm
    have ⟨hkept, hclosing⟩ := h.monitorMethodClose hc hmem serial
    exact heq ▸ h.closing (h.lt_nextPtr hc hmem) hkept hclosing
  | .nameOwnerChanged name newOwner =>
    rw [← Option.some.inj hstep]
    unfold nameOwnerChanged
    split
    · exact (Monitored.closeOwned_loop name s.monitors h hc h.nodup fun _ hm => hm).1
    · exact h
  | .enableMetrics serial exported fails =>
    exact hspare (Option.some.inj hstep ▸ Spares.closed.methodMetricsEnable s trivial exported fails)
  | .disableMetrics serial =>
    exact hspare (Option.some.inj hstep ▸ Spares.closed.methodMetricsDisable s trivial)
  | .stop sync => exact absurd rfl (hstop sync)

/-- Until the stop the references of the monitors are right. -/
theorem monitored_of_reachable (h : Reachable system s) (hrun : s.stopped = false) :
    Monitored s := by
  let Inv : Controller → Prop := fun s => Reachable system s ∧ (s.stopped = false → Monitored s)
  have hinv : Inv s := by
    refine Reachable.invariant (fun s hinit => ?_) (fun s e s' hs hstep => ?_) h
    · have ⟨threshold, cfgs, heq⟩ := hinit
      refine ⟨.init hinit, fun _ => ?_⟩
      rw [heq]
      exact (Starting.start threshold cfgs).monitored (start_nextPtr_pos threshold cfgs)
    · refine ⟨.step hs.1 trivial hstep, fun hrun' => ?_⟩
      have hrun := (step_eq_some_iff.mp hstep).1
      have ⟨gap, hc⟩ := consistent_of_reachable hs.1 hrun
      refine (hs.2 hrun).step hc (fun sync heq => ?_) hstep
      rw [heq] at hstep
      rw [stopped_of_stop hstep] at hrun'
      exact Bool.noConfusion hrun'
  exact hinv.2 hrun

/-- The monitors are gone without a trace: none of their subscriptions is in the list of all
subscriptions or in a table, each of their peers was told once, each was freed, now and never before,
and the others have what they had. -/
structure TornDown (closed : List MonitorId) (s s' : Controller) : Prop where
  closing : ∀ m ∈ closed, Closing m 0 s s'
  once : ∀ m ∈ closed, timesFreed s' (.monitor m) = 1
  unindexed : ∀ n unit, ∀ sub ∈ (s'.node n).subsOf unit, ∀ m ∈ closed, sub.monitor ≠ .client m
  others : OthersKept closed s s'

lemma TornDown.of_closing {closed : List MonitorId} (h : Monitored s)
    (hclosed : ∀ m ∈ closed, m ∈ s.monitors) (hc : Consistent gap s')
    (hothers : OthersKept closed s s') (hclosing : ∀ m ∈ closed, Closing m 0 s s') :
    TornDown closed s s' := by
  refine ⟨hclosing, fun m hm => ?_, fun n unit sub hsub m hm => ?_, hothers⟩
  · rw [(hclosing m hm).freed, h.unfreed m (Or.inl (hclosed m hm))]
    rfl
  · by_cases hn : n ∈ s'.nodes
    · exact (hclosing m hm).unfiled sub ((hc.indexed.mem_subsOf_iff hn unit sub).mp hsub).1
    · rw [Node.subsOf, Node.usubs, hc.indexed.unlisted n hn] at hsub
      simp at hsub

/-- Until the stop, the owner and the peers of a monitor are distinct, and its references are the one
of the list and those of its subscriptions. A client that closes a monitor, or leaves the bus, tears
down that monitor, or those that it owns, and nothing else. -/
theorem monitors_torn_down (h : Reachable system s) (hrun : s.stopped = false) :
    (∀ m ∈ s.monitors, (recipients (s.monitor m)).Nodup ∧
      (s.refs (.monitor m)).count = 1 + ((s.monitor m).subscriptions.length : ℤ)) ∧
    (∀ m serial s', s.step (.closeMonitor m serial) = some s' → TornDown [m] s s') ∧
    ∀ name s', name.toList.head? = some ':' → s.step (.nameOwnerChanged name "") = some s' →
      TornDown (ownedBy s name s.monitors) s s' := by
  have ⟨gap, hc⟩ := consistent_of_reachable h hrun
  have hm := monitored_of_reachable h hrun
  refine ⟨fun m hmem => ⟨hc.owned.recipients m, hm.count m hmem⟩, fun m serial s' hstep => ?_,
    fun name s' hname hstep => ?_⟩
  · have ⟨hslot, heq⟩ := whenever_eq_some_iff.mp (step_eq_some_iff.mp hstep).2
    have hmem := (hm.exported m).mp hslot
    have ⟨hkept, hclosing⟩ := hm.monitorMethodClose hc hmem serial
    rw [← heq]
    refine .of_closing hm (fun m' hm' => ?_) (hc.monitorMethodClose m serial) hkept fun m' hm' => ?_
    · rw [List.mem_singleton] at hm'
      exact hm' ▸ hmem
    · rw [List.mem_singleton] at hm'
      exact hm' ▸ hclosing
  · have heq := Option.some.inj (step_eq_some_iff.mp hstep).2
    have hc' := hc.nameOwnerChanged name ""
    have hloop : s.nameOwnerChanged name "" = s.monitors.foldl (closeOwned name) s :=
      if_pos ⟨hname, rfl⟩
    have ⟨_, hkept, hclosing⟩ :=
      Monitored.closeOwned_loop name s.monitors hm hc hm.nodup fun _ hmem => hmem
    rw [hloop] at hc'
    rw [← heq, hloop]
    exact .of_closing hm (fun m hmem => List.mem_of_mem_filter hmem) hc' hkept hclosing

/-- Two clients watch a unit, and the first one has a peer. -/
def twoClients : List Event :=
  [.createMonitor 1 ":1.7" true, .subscribe 2 2 "*" ["a.service"], .addPeer 2 3 ":1.8",
    .createMonitor 4 ":1.9" true, .subscribe 4 5 "n" ["a.service"]]

/-- The first client closes its monitor, or the second one leaves. -/
theorem twoClients_torn_down : ∃ s, run system (start 0 [⟨"n", none, []⟩]) twoClients = some s ∧
    s.monitors = [2, 4] ∧ (∃ s', s.step (.closeMonitor 2 6) = some s' ∧ TornDown [2] s s') ∧
    ∃ s', s.step (.nameOwnerChanged ":1.9" "") = some s' ∧ TornDown [4] s s' := by
  have hrun : (run system (start 0 [⟨"n", none, []⟩]) twoClients).map (fun s =>
      (s.stopped, s.monitors, ownedBy s ":1.9" s.monitors,
        (s.step (.closeMonitor 2 6)).isSome, (s.step (.nameOwnerChanged ":1.9" "")).isSome)) =
        some (false, [2, 4], [4], true, true) := by
    decide +kernel
  have ⟨s, hs, hread⟩ := Option.map_eq_some_iff.mp hrun
  simp only [Prod.mk.injEq] at hread
  have ⟨hstopped, hmonitors, howned, hclose, hleave⟩ := hread
  have ⟨s', hs'⟩ := Option.isSome_iff_exists.mp hclose
  have ⟨s'', hs''⟩ := Option.isSome_iff_exists.mp hleave
  have hreach : Reachable system s := Reachable.run (.init ⟨0, _, rfl⟩) hs
  have ⟨_, htorn, htorn'⟩ := monitors_torn_down hreach hstopped
  refine ⟨s, hs, hmonitors, ⟨s', hs', htorn 2 6 s' hs'⟩, s'', hs'', ?_⟩
  rw [← howned]
  exact htorn' ":1.9" s'' (by decide) hs''

end Controller
end BlueChi
