import BlueChi.Controller.SubscriptionSteps

/-!
# Monitors keep the invariant

A subscription is filed in all tables it names when it is added and taken out of them when it
is removed; the list of its monitor follows.
-/

namespace BlueChi
namespace Controller

variable {gap : ℤ} {s s' : Controller}

/-! ## The index after an addition and a removal -/

lemma addSubscription_allSubscriptions (h : Registry s) (sub : Subscription) :
    (s.addSubscription sub).allSubscriptions = s.allSubscriptions ++ [sub] := by
  have heq := foldl_applyNode_eq (nodeSubscribe sub) (h.subscribedNodes_nodup sub)
    (s.appendSubscription sub)
  unfold addSubscription
  rw [heq]
  rfl

lemma addSubscription_node (h : Registry s) (sub : Subscription) (n : NodeId) :
    (s.addSubscription sub).node n =
      if n ∈ s.subscribedNodes sub then (nodeSubscribe sub (s.node n)).1 else s.node n := by
  have heq := foldl_applyNode_eq (nodeSubscribe sub) (h.subscribedNodes_nodup sub)
    (s.appendSubscription sub)
  unfold addSubscription
  rw [heq]
  rfl

lemma subscriptionUnref_node (s : Controller) (sub : Subscription) (o : Owner) :
    (s.subscriptionUnref sub o).node = s.node := by
  unfold subscriptionUnref monitorUnref
  simp only
  split
  · split
    · split <;> rfl
    · rfl
  · rfl

lemma removeSubscription_allSubscriptions (h : Registry s) (sub : Subscription) :
    (s.removeSubscription sub).allSubscriptions = s.allSubscriptions.erase sub := by
  have heq := foldl_applyNode_eq (nodeUnsubscribe sub) (h.subscribedNodes_nodup sub) s
  unfold removeSubscription
  rw [(coreFrame_subscriptionUnref _ _ _).allSubscriptions, heq]
  rfl

lemma removeSubscription_node (h : Registry s) (sub : Subscription) (n : NodeId) :
    (s.removeSubscription sub).node n =
      if n ∈ s.subscribedNodes sub then (nodeUnsubscribe sub (s.node n)).1 else s.node n := by
  have heq := foldl_applyNode_eq (nodeUnsubscribe sub) (h.subscribedNodes_nodup sub) s
  unfold removeSubscription
  rw [subscriptionUnref_node, heq]
  rfl

/-- A new subscription is indexed. -/
theorem Indexed.addSubscription (h : Indexed s) (hreg : Registry s) {sub : Subscription}
    (hnew : sub ∉ s.allSubscriptions) : Indexed (s.addSubscription sub) := by
  have f := subscriptionFrame_addSubscription s sub
  refine ⟨fun n hn unit sub' => ?_, fun n hn => ?_⟩
  · rw [f.nodes_eq] at hn
    simp only [f.names]
    rw [addSubscription_allSubscriptions hreg, addSubscription_node hreg]
    have hold := h.filed n hn unit sub'
    have hmem := hreg.mem_subscribedNodes_iff sub n
    by_cases hnamed : sub.Names (s.node n)
    · rw [if_pos (hmem.mpr ⟨hn, hnamed⟩), count_nodeSubscribe, hold]
      by_cases hsub : sub' = sub
      · subst hsub
        simp [hnew, hnamed]
      · simp [hsub]
    · rw [if_neg fun hin => hnamed (hmem.mp hin).2, hold]
      by_cases hsub : sub' = sub
      · subst hsub
        simp [hnamed]
      · simp [hsub]
  · rw [f.nodes_eq] at hn
    rw [addSubscription_node hreg,
      if_neg fun hin => hn ((hreg.mem_subscribedNodes_iff sub n).mp hin).1]
    exact h.unlisted n hn

/-- A removed subscription is indexed no more. -/
theorem Indexed.removeSubscription (h : Indexed s) (hreg : Registry s)
    (hnodup : s.allSubscriptions.Nodup) (sub : Subscription) :
    Indexed (s.removeSubscription sub) := by
  have f := subscriptionFrame_removeSubscription (fun _ => False) s sub
  refine ⟨fun n hn unit sub' => ?_, fun n hn => ?_⟩
  · rw [f.nodes_eq] at hn
    simp only [f.names]
    rw [removeSubscription_allSubscriptions hreg, removeSubscription_node hreg]
    simp only [hnodup.mem_erase_iff]
    have hold := h.filed n hn unit sub'
    have hmem := hreg.mem_subscribedNodes_iff sub n
    by_cases hnamed : sub.Names (s.node n)
    · rw [if_pos (hmem.mpr ⟨hn, hnamed⟩), count_nodeUnsubscribe, hold]
      by_cases hsub : sub' = sub
      · subst hsub
        by_cases hall : sub' ∈ s.allSubscriptions <;> simp [hall, hnamed]
      · simp [hsub]
    · rw [if_neg fun hin => hnamed (hmem.mp hin).2, hold]
      by_cases hsub : sub' = sub
      · subst hsub
        simp [hnamed]
      · simp [hsub]
  · rw [f.nodes_eq] at hn
    rw [removeSubscription_node hreg,
      if_neg fun hin => hn ((hreg.mem_subscribedNodes_iff sub n).mp hin).1]
    exact h.unlisted n hn

lemma Owned.allNodup (h : Owned s) : s.allSubscriptions.Nodup := h.ptrs.of_map _

/-- A subscription at the next free address is a new one. -/
lemma Owned.not_mem (h : Owned s) {sub : Subscription} (hptr : s.nextPtr ≤ sub.ptr) :
    sub ∉ s.allSubscriptions := fun hmem => by
  have hlt := h.fresh sub hmem
  omega

/-! ## Changes of a monitor -/

/-- The invariant but for the lists of the client monitors. -/
structure BarMonitors (gap : ℤ) (s : Controller) : Prop where
  registry : Registry s
  held : Held s
  connected : Connected gap s
  forListed : ForListed s
  detached : ∀ n, (s.node n).Detached
  indexed : Indexed s
  proxied : Proxied s
  counted : Counted s

lemma Consistent.barMonitors (h : Consistent gap s) : BarMonitors gap s :=
  ⟨h.registry, h.held, h.connected, h.forListed, h.detached, h.indexed, h.proxied, h.counted⟩

namespace BarMonitors

lemma consistent (h : BarMonitors gap s) (howned : Owned s) : Consistent gap s :=
  ⟨h.registry, h.held, h.connected, h.forListed, h.detached, h.indexed, howned, h.proxied, h.counted⟩

lemma of_eq (h : BarMonitors gap s)
    (heq : s' = { s with monitor := s'.monitor, mem := s'.mem }) : BarMonitors gap s' := by
  rw [heq]
  obtain ⟨hreg, hheld, hcon, hfor, hdet, hind, hpro, hcnt⟩ := h
  refine ⟨⟨hreg.1, hreg.2, hreg.3, hreg.4, hreg.5, hreg.6, hreg.7⟩,
    ⟨hheld.1, fun n o hneed => hheld.2 n o (hneed.mono rfl rfl rfl rfl (fun _ hr => hr)
      fun _ hp => hp), hheld.3, hheld.4, hheld.5⟩, ⟨hcon.1, hcon.2, hcon.3, hcon.4⟩,
    ⟨hfor.1, hfor.2, hfor.3⟩, hdet, ⟨hind.1, hind.2⟩, ⟨fun k p hp => ?_, hpro.2, hpro.3, hpro.4, hpro.5, hpro.6, hpro.7,
      hpro.8, hpro.9, hpro.10⟩, ⟨hcnt.1, hcnt.2, hcnt.3⟩⟩
  obtain ⟨h1, h2, h3, h4, h5, h6, h7, h8, h9⟩ := hpro.listed k p hp
  exact ⟨h1, h2, h3, h4, h5, h6, h7, h8, h9⟩

lemma of_subscription (h : BarMonitors gap s) {told : ProxyMonitorId → Prop}
    (f : SubscriptionFrame told s s') (htold : ∀ p, told p → 0 < (s.refs (.proxyMonitor p)).count)
    (hindexed : Indexed s') (hall : ∀ sub, (∃ p, sub.monitor = .proxy p) →
      (sub ∈ s'.allSubscriptions ↔ sub ∈ s.allSubscriptions)) : BarMonitors gap s' where
  registry := f.registry h.registry
  held := f.held h.held htold
  connected := f.connected h.connected
  forListed := f.forListed h.forListed
  detached := f.detached h.detached
  indexed := hindexed
  proxied := f.proxied h.proxied htold hall
  counted := f.counted h.counted

end BarMonitors

namespace Consistent

/-- The fields of a monitor apart from its subscriptions, while it keeps its recipients
distinct. -/
lemma modifyMonitor (h : Consistent gap s) {m : ℕ} {f : Monitor → Monitor}
    (hsubs : (f (s.monitor m)).subscriptions = (s.monitor m).subscriptions)
    (hrecipients : (recipients (f (s.monitor m))).Nodup)
    (hexported : (f (s.monitor m)).exportSlot = true → m < s.nextPtr) :
    Consistent gap (s.modifyMonitor m f) := by
  have hsame : ∀ m', ((s.modifyMonitor m f).monitor m').subscriptions =
      (s.monitor m').subscriptions := fun m' => by
    by_cases hm : m' = m
    · subst hm
      simpa using hsubs
    · simp [hm]
  refine (h.barMonitors.of_eq rfl).consistent ⟨h.owned.ptrs, h.owned.fresh, fun m' sub => ?_,
    fun m' => ?_, fun m' => ?_, fun m' hm' => ?_, fun m' hm' => ?_⟩
  · rw [hsame]
    exact h.owned.client m' sub
  · rw [hsame]
    exact h.owned.nodup m'
  · by_cases hm : m' = m
    · subst hm
      simpa using hrecipients
    · simpa [hm] using h.owned.recipients m'
  · rw [hsame]
    exact h.owned.unused m' hm'
  · by_cases hm : m' = m
    · subst hm
      exact hexported (by simpa using hm')
    · exact h.owned.exported m' (by simpa [hm] using hm')

/-! ## Subscribing and unsubscribing -/

/-- A new subscription of a client monitor is filed everywhere. -/
theorem addClientSubscription (h : Consistent gap s) {m : ℕ} (sub : Subscription)
    (hm : m < s.nextPtr) (hmonitor : sub.monitor = .client m)
    (hnew : sub.ptr ∉ s.allSubscriptions.map (·.ptr)) (hlt : sub.ptr < s.nextPtr) :
    Consistent gap ((s.appendMonitorSubscription m sub).addSubscription sub) := by
  have htake : Consistent gap (s.takeRef (.subscription sub.ptr) .list) :=
    h.of_frame (coreFrame_takeRef s _ rfl .list)
  have hbar : BarMonitors gap (s.appendMonitorSubscription m sub) := htake.barMonitors.of_eq rfl
  have hsub : sub ∉ s.allSubscriptions := fun hmem => hnew (List.mem_map_of_mem hmem)
  have f := subscriptionFrame_addSubscription (s.appendMonitorSubscription m sub) sub
  have hall := addSubscription_allSubscriptions hbar.registry sub
  have hold : (s.appendMonitorSubscription m sub).allSubscriptions = s.allSubscriptions := rfl
  rw [hold] at hall
  have hlist : ∀ m', (((s.appendMonitorSubscription m sub).addSubscription sub).monitor
      m').subscriptions =
      if m' = m then (s.monitor m').subscriptions ++ [sub] else (s.monitor m').subscriptions := by
    intro m'
    rw [(f.monitor m').subscriptions]
    by_cases hm' : m' = m
    · subst hm'
      simp [appendMonitorSubscription]
    · simp [appendMonitorSubscription, hm']
  have hptr : ((s.appendMonitorSubscription m sub).addSubscription sub).nextPtr = s.nextPtr := by
    rw [f.rest]
    rfl
  refine (hbar.of_subscription f (fun p hp => ?_) (hbar.indexed.addSubscription hbar.registry hsub)
    ?_).consistent ⟨?_, fun sub' hsub' => ?_, fun m' sub' => ?_, fun m' => ?_, fun m' => ?_,
    fun m' hm' => ?_, fun m' hm' => ?_⟩
  · simp [hmonitor] at hp
  · rintro sub' ⟨p, hp⟩
    have hne : sub' ≠ sub := by
      rintro rfl
      simp [hmonitor] at hp
    rw [hall, hold]
    simp [hne]
  · rw [hall, List.map_append, List.nodup_append]
    refine ⟨h.owned.ptrs, by simp, fun a ha b hb => ?_⟩
    rw [List.map_singleton, List.mem_singleton] at hb
    rintro rfl
    exact hnew (hb ▸ ha)
  · rw [hptr]
    rw [hall] at hsub'
    rcases List.mem_append.mp hsub' with hmem | hmem
    · exact h.owned.fresh sub' hmem
    · rw [List.mem_singleton] at hmem
      exact hmem ▸ hlt
  · have hclient := h.owned.client m' sub'
    rw [hlist, hall]
    by_cases hm' : m' = m
    · subst hm'
      rw [if_pos rfl, List.mem_append, List.mem_append, hclient, List.mem_singleton]
      constructor
      · rintro (hmem | rfl)
        · exact ⟨Or.inl hmem.1, hmem.2⟩
        · exact ⟨Or.inr rfl, hmonitor⟩
      · rintro ⟨hmem | rfl, hclient'⟩
        · exact Or.inl ⟨hmem, hclient'⟩
        · exact Or.inr rfl
    · rw [if_neg hm', hclient, List.mem_append, List.mem_singleton]
      constructor
      · exact fun hmem => ⟨Or.inl hmem.1, hmem.2⟩
      · rintro ⟨hmem | rfl, hclient'⟩
        · exact ⟨hmem, hclient'⟩
        · rw [hmonitor, MonitorRef.client.injEq] at hclient'
          exact absurd hclient'.symm hm'
  · rw [hlist]
    split
    · rename_i hm'
      subst hm'
      refine List.nodup_append.mpr ⟨h.owned.nodup m', by simp, fun a ha b hb => ?_⟩
      rw [List.mem_singleton] at hb
      rintro rfl
      exact hsub (hb ▸ ((h.owned.client m' a).mp ha).1)
    · exact h.owned.nodup m'
  · have hrest := (f.monitor m').rest
    have hrecipients : recipients (((s.appendMonitorSubscription m sub).addSubscription sub).monitor
        m') = recipients (s.monitor m') := by
      rw [hrest]
      by_cases hm' : m' = m
      · subst hm'
        simp [appendMonitorSubscription, recipients]
      · simp [appendMonitorSubscription, recipients, hm']
    rw [hrecipients]
    exact h.owned.recipients m'
  · rw [hptr] at hm'
    have hne : m' ≠ m := by
      rintro rfl
      omega
    rw [hlist, if_neg hne]
    exact h.owned.unused m' hm'
  · rw [hptr]
    have hslot := (f.monitor m').slot hm'
    by_cases hm' : m' = m
    · exact hm' ▸ hm
    · exact h.owned.exported m' (by simpa [appendMonitorSubscription, hm'] using hslot)

/-- `monitor_method_subscribe` and `monitor_method_subscribe_list`. -/
theorem monitorMethodSubscribe (h : Consistent gap s) {m : ℕ} (hm : m < s.nextPtr)
    (serial : Serial) (node : String) (units : List String) :
    Consistent gap (s.monitorMethodSubscribe m serial node units) := by
  have hnew : CoreFrame s (s.createMonitorSubscription m node units).2 :=
    (((coreFrame_newRef s (.subscription s.nextPtr) rfl).trans
      (coreFrame_takeRef _ (.monitor m) rfl _)).trans (coreFrame_busAlloc _)).trans
      (.of_eq rfl)
  have hadd := (h.of_frame hnew).addClientSubscription (m := m)
    (s.createMonitorSubscription m node units).1 (hm.trans (Nat.lt_succ_self _)) rfl
    (fun hmem => ?_) (Nat.lt_succ_self _)
  · exact (hadd.of_frame (coreFrame_emit _ _)).of_frame (coreFrame_subscriptionUnref _ _ _)
  · obtain ⟨sub, hsub, hptr⟩ := List.mem_map.mp hmem
    rw [hnew.allSubscriptions] at hsub
    have hlt := h.owned.fresh sub hsub
    have heq : sub.ptr = s.nextPtr := hptr
    omega

/-- A monitor without one of its subscriptions. -/
def withoutSubscription (s : Controller) (m : MonitorId) (sub : Subscription) (m' : MonitorId) :
    Monitor :=
  if m' = m then { s.monitor m' with subscriptions := (s.monitor m').subscriptions.erase sub }
  else s.monitor m'

lemma mem_withoutSubscription (h : Owned s) {m : MonitorId} {sub : Subscription}
    (hmonitor : sub.monitor = .client m) (m' : MonitorId) (sub' : Subscription) :
    sub' ∈ (withoutSubscription s m sub m').subscriptions ↔
      sub' ≠ sub ∧ sub' ∈ (s.monitor m').subscriptions := by
  unfold withoutSubscription
  split
  · exact (h.nodup m').mem_erase_iff
  · rename_i hm'
    refine ⟨fun hmem => ⟨?_, hmem⟩, fun hmem => hmem.2⟩
    rintro rfl
    have hclient := ((h.client m' sub').mp hmem).2
    rw [hmonitor, MonitorRef.client.injEq] at hclient
    exact hm' hclient.symm

lemma owned_without (h : Owned s) {m : MonitorId} {sub : Subscription}
    (hmonitor : sub.monitor = .client m) (hall : s'.allSubscriptions = s.allSubscriptions.erase sub)
    (hptr : s'.nextPtr = s.nextPtr)
    (hlist : ∀ m', SameButSlot (withoutSubscription s m sub m') (s'.monitor m')) : Owned s' where
  ptrs := by
    rw [hall]
    exact h.ptrs.sublist (List.erase_sublist.map _)
  fresh sub' hsub' := by
    rw [hall] at hsub'
    rw [hptr]
    exact h.fresh sub' (List.mem_of_mem_erase hsub')
  client m' sub' := by
    rw [(hlist m').subscriptions, mem_withoutSubscription h hmonitor, h.client, hall,
      h.allNodup.mem_erase_iff, and_assoc]
  nodup m' := by
    rw [(hlist m').subscriptions, withoutSubscription]
    split
    · exact (h.nodup m').erase sub
    · exact h.nodup m'
  recipients m' := by
    have hrecipients : recipients (s'.monitor m') = recipients (s.monitor m') := by
      rw [(hlist m').rest, withoutSubscription]
      split <;> rfl
    rw [hrecipients]
    exact h.recipients m'
  unused m' hm' := by
    rw [hptr] at hm'
    rw [(hlist m').subscriptions, withoutSubscription, h.unused m' hm']
    split <;> simp [h.unused m' hm']
  exported m' hm' := by
    have hslot := (hlist m').slot hm'
    rw [hptr]
    refine h.exported m' ?_
    rw [withoutSubscription] at hslot
    split at hslot <;> exact hslot

/-- A subscription of a client monitor is taken out everywhere. -/
theorem removeMonitorSubscription (h : Consistent gap s) {m : MonitorId} {sub : Subscription}
    (hsub : sub ∈ (s.monitor m).subscriptions) :
    Consistent gap (s.removeMonitorSubscription m sub) ∧ ∀ m',
      SameButSlot (withoutSubscription s m sub m')
        ((s.removeMonitorSubscription m sub).monitor m') := by
  obtain ⟨hmem, hmonitor⟩ := (h.owned.client m sub).mp hsub
  have f := subscriptionFrame_removeSubscription (fun _ => False) s sub
  have hall := removeSubscription_allSubscriptions h.registry sub
  have hbar := h.barMonitors.of_subscription f (fun p hp => hp.elim)
    (h.indexed.removeSubscription h.registry h.owned.allNodup sub) (by
      rintro sub' ⟨p, hp⟩
      have hne : sub' ≠ sub := by
        rintro rfl
        simp [hmonitor] at hp
      rw [hall, List.mem_erase_of_ne hne])
  have hptr : (s.removeSubscription sub).nextPtr = s.nextPtr := by rw [f.rest]
  unfold Controller.removeMonitorSubscription
  simp only
  generalize s.removeSubscription sub = t at f hall hbar hptr
  have hlist : ∀ m', SameButSlot (withoutSubscription s m sub m')
      (((t.listRemove (.subscriptions m) (sub ∈ (t.monitor m).subscriptions)).modifyMonitor m
        fun monitor => { monitor with subscriptions := monitor.subscriptions.erase sub }).monitor
          m') := by
    intro m'
    have hslot := f.monitor m'
    unfold withoutSubscription
    by_cases hm' : m' = m
    · subst hm'
      rw [if_pos rfl, modifyMonitor_monitor, Function.update_self, listRemove_monitor, hslot.rest]
      exact ⟨rfl, hslot.slot⟩
    · rwa [if_neg hm', modifyMonitor_monitor, Function.update_of_ne hm', listRemove_monitor]
  have hunref := coreFrame_subscriptionUnref ((t.listRemove (.subscriptions m)
    (sub ∈ (t.monitor m).subscriptions)).modifyMonitor m
    fun monitor => { monitor with subscriptions := monitor.subscriptions.erase sub }) sub .list
  have howned : Owned ((t.listRemove (.subscriptions m)
      (sub ∈ (t.monitor m).subscriptions)).modifyMonitor m
      fun monitor => { monitor with subscriptions := monitor.subscriptions.erase sub }) :=
    owned_without h.owned hmonitor hall hptr hlist
  exact ⟨((hbar.of_eq rfl).consistent howned).of_frame hunref,
    fun m' => (hlist m').trans (hunref.monitor m')⟩

/-- `monitor_method_unsubscribe`. -/
theorem monitorMethodUnsubscribe (h : Consistent gap s) (m : MonitorId) (serial : Serial)
    (subId : UInt32) : Consistent gap (s.monitorMethodUnsubscribe m serial subId) := by
  unfold Controller.monitorMethodUnsubscribe
  split
  · exact h.of_frame (coreFrame_emit s _)
  · rename_i sub hfind
    have hremove := (h.removeMonitorSubscription (List.mem_of_find?_eq_some hfind)).1
    exact hremove.of_frame (coreFrame_emit _ _)

/-! ## Closing -/

/-- `monitor_close`: each round takes a subscription out of the monitor's list. -/
theorem monitorClose (h : Consistent gap s) (m : MonitorId) :
    Consistent gap (s.monitorClose m) := by
  have hloop : ∀ (subs : List Subscription) (t : Controller), Consistent gap t → subs.Nodup →
      (∀ sub ∈ subs, sub ∈ (t.monitor m).subscriptions) →
      Consistent gap (subs.foldl (fun s sub => s.removeMonitorSubscription m sub) t) := by
    intro subs
    induction subs with
    | nil => exact fun t ht _ _ => ht
    | cons sub subs ih =>
      intro t ht hnodup hsubs
      rw [List.nodup_cons] at hnodup
      have hsub := hsubs sub (by simp)
      obtain ⟨hround, hlist⟩ := ht.removeMonitorSubscription hsub
      refine ih _ hround hnodup.2 fun sub' hsub' => ?_
      rw [(hlist m).subscriptions,
        mem_withoutSubscription ht.owned ((ht.owned.client m sub).mp hsub).2]
      refine ⟨?_, hsubs sub' (by simp [hsub'])⟩
      rintro rfl
      exact hnodup.1 hsub'
  have hclosed := hloop (s.monitor m).subscriptions s h (h.owned.nodup m) fun _ hsub => hsub
  unfold Controller.monitorClose closePeers
  simp only
  refine Consistent.modifyMonitor ?_ rfl (by simp [recipients]) (by simp)
  exact foldl_keeps (fun t peer ht => ht.of_frame (coreFrame_emit t _)) _ hclosed

theorem removeMonitor (h : Consistent gap s) (m : MonitorId) : Consistent gap (s.removeMonitor m) :=
  (h.of_frame (.of_eq rfl)).of_frame (coreFrame_monitorUnref (s.unlistMonitor m) m .list)

/-- `monitor_method_close`. -/
theorem monitorMethodClose (h : Consistent gap s) (m : MonitorId) (serial : Serial) :
    Consistent gap (s.monitorMethodClose m serial) := by
  have htake : Consistent gap (s.takeRef (.monitor m) .handler) :=
    h.of_frame (coreFrame_takeRef s _ rfl .handler)
  unfold Controller.monitorMethodClose
  refine Consistent.of_frame ?_ (coreFrame_monitorUnref _ m .handler)
  split
  · exact htake.of_frame (coreFrame_emit _ _)
  · exact ((htake.monitorClose m).removeMonitor m).of_frame (coreFrame_emit _ _)

/-- `controller_name_owner_changed`. -/
theorem nameOwnerChanged (h : Consistent gap s) (name newOwner : String) :
    Consistent gap (s.nameOwnerChanged name newOwner) := by
  unfold Controller.nameOwnerChanged
  split
  · refine foldl_keeps (fun t m ht => ?_) _ h
    unfold closeOwned
    split
    · exact (ht.monitorClose m).removeMonitor m
    · exact ht
  · exact h

/-! ## Making monitors, and their peers -/

/-- `controller_method_create_monitor`. -/
theorem createMonitor (h : Consistent gap s) (serial : Serial) (owner : String)
    (exported : Bool) : Consistent gap (s.createMonitor serial owner exported) := by
  have hfresh : Consistent gap (s.newRef (.monitor s.nextPtr)).busAlloc :=
    (h.of_frame (coreFrame_newRef s _ rfl)).of_frame (coreFrame_busAlloc _)
  have hnew : Consistent gap (s.monitorNew owner) := by
    refine Consistent.of_frame (hfresh.modifyMonitor (m := s.nextPtr)
      (f := fun _ => ⟨s.nextMonitorId + 1, owner, [], false, []⟩) ?_ (by simp [recipients])
      (by simp)) (.of_eq rfl)
    exact (h.owned.unused s.nextPtr (le_refl _)).symm
  unfold Controller.createMonitor
  refine Consistent.of_frame ?_ (coreFrame_monitorUnref _ s.nextPtr .creator)
  split
  · have hexport : Consistent gap ((s.monitorNew owner).modifyMonitor s.nextPtr
        fun monitor => { monitor with exportSlot := true }) :=
      hnew.modifyMonitor rfl (hnew.owned.recipients s.nextPtr) fun _ => Nat.lt_succ_self _
    exact ((hexport.of_frame (coreFrame_emit _ _)).of_frame
      (coreFrame_takeRef _ (.monitor s.nextPtr) rfl .list)).of_frame (.of_eq rfl)
  · exact hnew.of_frame (coreFrame_emit _ _)

/-- `monitor_method_add_peer`: the name of the peer is a new one. -/
theorem monitorMethodAddPeer (h : Consistent gap s) {m : MonitorId}
    (hm : (s.monitor m).exportSlot = true) (serial : Serial) (name : String) :
    Consistent gap (s.monitorMethodAddPeer m serial name) := by
  unfold Controller.monitorMethodAddPeer
  split
  · exact h.of_frame (coreFrame_emit s _)
  · split
    · exact h.of_frame (coreFrame_emit s _)
    · rename_i hnew
      refine Consistent.of_frame ?_ (coreFrame_emit _ _)
      refine Consistent.of_frame (h.modifyMonitor rfl ?_ fun _ => h.owned.exported m hm) (.of_eq rfl)
      have hrecipients : recipients { s.monitor m with
          peers := (s.monitor m).peers ++ [⟨s.nextPeerId + 1, name⟩] } =
          recipients (s.monitor m) ++ [name] := by
        simp [recipients]
      rw [hrecipients, List.nodup_append]
      refine ⟨h.owned.recipients m, by simp, fun a ha b hb => ?_⟩
      rw [List.mem_singleton] at hb
      rintro rfl
      exact hnew (hb ▸ ha)

/-- `monitor_method_remove_peer`. -/
theorem monitorMethodRemovePeer (h : Consistent gap s) {m : MonitorId}
    (hm : (s.monitor m).exportSlot = true) (serial : Serial) (peerId : UInt32) (reason : String) :
    Consistent gap (s.monitorMethodRemovePeer m serial peerId reason) := by
  unfold Controller.monitorMethodRemovePeer
  split
  · exact h.of_frame (coreFrame_emit s _)
  · rename_i peer _
    have hemit := h.of_frame (coreFrame_emit s (.monitorSignal m peer.name (.peerRemoved reason)))
    refine Consistent.of_frame (hemit.modifyMonitor rfl ?_ fun _ => ?_) (coreFrame_emit _ _)
    · refine (h.owned.recipients m).sublist ?_
      exact (List.erase_sublist.map _).cons_cons _
    · exact h.owned.exported m hm

end Consistent

end Controller
end BlueChi
