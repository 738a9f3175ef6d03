import Mathlib.Data.List.Count
import BlueChi.Controller.Runs

/-!
# Who hears of a unit

A unit signal of an agent is passed on to the subscriptions of the unit and of the wildcard. The set that
collects them is to hold one of each monitor: its compare function tells monitors apart, but its hash is
the address of the subscription. So a monitor hears of the unit as often as it has subscriptions to it.
-/

namespace BlueChi

open Execution

/-- A subscription to the node or all nodes, and to the unit or all units. -/
def Subscription.Covers (sub : Subscription) (node : Node) (unit : String) : Prop :=
  sub.Names node ∧ (unit ∈ sub.units ∨ symbolWildcard ∈ sub.units)

instance (sub : Subscription) (node : Node) (unit : String) : Decidable (sub.Covers node unit) :=
  inferInstanceAs (Decidable (_ ∧ (_ ∨ _)))

/-- The unit that a signal is about, and what the monitors are told. -/
def NodeSignal.notice (node : String) : NodeSignal → Option (String × MonitorSignal)
  | .unitNew unit reason => some (unit, .unitNew node unit reason)
  | .unitStateChanged unit activeState substate reason =>
    some (unit, .unitStateChanged node unit activeState substate reason)
  | .unitRemoved unit => some (unit, .unitRemoved node unit "real")
  | .unitPropertiesChanged unit interface properties =>
    some (unit, .unitPropertiesChanged node unit interface properties)
  | _ => none

namespace Controller

variable {gap : ℤ} {s s' : Controller}

/-! ## The messages of a notification -/

/-- Each recipient is sent the signal, when the event can be read again and again. -/
lemma monitorOnUnit_eq (s : Controller) (m : MonitorId) {node unit : String} {ev : UnitEvent}
    {sig : MonitorSignal} (hev : assembleSignal node unit ev = (some sig, ev)) :
    s.monitorOnUnit m node unit ev =
      ({ s with log := s.log ++ (recipients (s.monitor m)).map fun dest => .monitorSignal m dest sig },
        ev) := by
  have hloop : ∀ (dests : List String) (s : Controller), dests.foldl (monitorSend m node unit) (s, ev) =
      ({ s with log := s.log ++ dests.map fun dest => .monitorSignal m dest sig }, ev) := by
    intro dests
    induction dests with
    | nil =>
      intro s
      simp
    | cons dest dests ih =>
      intro s
      have hsend : monitorSend m node unit (s, ev) dest = (s.emit (.monitorSignal m dest sig), ev) := by
        unfold monitorSend
        rw [hev]
      rw [List.foldl_cons, hsend, ih]
      simp [emit]
  exact hloop _ s

/-- A proxy monitor tells no client. -/
lemma count_proxyMonitorOnUnit (s : Controller) (p : ProxyMonitorId) (ev : UnitEvent) (m : MonitorId)
    (dest : String) (sig : MonitorSignal) :
    (s.proxyMonitorOnUnit p ev).log.count (.monitorSignal m dest sig) =
      s.log.count (.monitorSignal m dest sig) := by
  have hcall : ∀ call, (s.proxyMonitorCall p call).log.count (.monitorSignal m dest sig) =
      s.log.count (.monitorSignal m dest sig) := by
    intro call
    unfold proxyMonitorCall
    dsimp only
    split
    · rfl
    · show (s.log ++ [_]).count _ = _
      simp
  unfold proxyMonitorOnUnit
  dsimp only
  split
  · exact hcall _
  · exact hcall _
  · exact hcall _
  · rfl

/-- One signal to each recipient. -/
lemma count_signals (dests : List String) (m m' : MonitorId) (dest : String) (sig sig' : MonitorSignal) :
    (dests.map fun dest => Output.monitorSignal m' dest sig).count (.monitorSignal m dest sig') =
      if m' = m then if sig' = sig then dests.count dest else 0 else 0 := by
  by_cases hsame : m' = m ∧ sig' = sig
  · rw [if_pos hsame.1, if_pos hsame.2, hsame.1, hsame.2]
    have hinjective : Function.Injective fun dest => Output.monitorSignal m dest sig := by
      intro a b heq
      injection heq
    exact List.count_map_of_injective dests _ hinjective dest
  · have hzero : (dests.map fun dest => Output.monitorSignal m' dest sig).count
        (.monitorSignal m dest sig') = 0 := by
      apply List.count_eq_zero.mpr
      intro hmem
      have ⟨dest', _, heq⟩ := List.mem_map.mp hmem
      injection heq with hm _ hsig
      exact hsame ⟨hm, hsig.symm⟩
    rw [hzero]
    split
    · rename_i hm
      rw [if_neg fun hsig => hsame ⟨hm, hsig⟩]
    · rfl

/-- Each subscription of the monitor sends the signal to each recipient. -/
lemma count_handleAll (s : Controller) (subs : List Subscription) {node unit : String} {ev : UnitEvent}
    {sig : MonitorSignal} (hev : assembleSignal node unit ev = (some sig, ev)) (m : MonitorId)
    (dest : String) (sig' : MonitorSignal) :
    (s.handleAll subs node unit ev).log.count (.monitorSignal m dest sig') =
      s.log.count (.monitorSignal m dest sig') + subs.countP (fun sub => sub.monitor = .client m) *
        if sig' = sig then (recipients (s.monitor m)).count dest else 0 := by
  unfold handleAll
  induction subs generalizing s with
  | nil => simp
  | cons sub subs ih =>
    rw [List.foldl_cons, List.countP_cons, Nat.add_mul]
    match hmonitor : sub.monitor with
    | .client m' =>
      have hhead : handleUnit node unit (s, ev) sub = s.monitorOnUnit m' node unit ev := by
        unfold handleUnit
        rw [hmonitor]
      rw [hhead, monitorOnUnit_eq s m' hev, ih, List.count_append, count_signals]
      by_cases hm : m' = m
      · rw [if_pos hm, hm]
        simp
        omega
      · simp [hm]
    | .proxy p =>
      have hhead : handleUnit node unit (s, ev) sub = (s.proxyMonitorOnUnit p ev, ev) := by
        unfold handleUnit
        rw [hmonitor]
      have hmonitors : (s.proxyMonitorOnUnit p ev).monitor = s.monitor := by
        rw [(notifyFrame_proxyMonitorOnUnit s p ev).rest]
      rw [hhead, ih, count_proxyMonitorOnUnit, hmonitors]
      simp

/-! ## The set of subscriptions -/

/-- The set holds each subscription that covers the unit once. -/
lemma mem_unique_iff (h : Consistent gap s) {n : NodeId} (hn : n ∈ s.nodes) {unit : String}
    (hunit : unit ≠ symbolWildcard) :
    (nodeComputeUniqueMonitorSubscriptions (s.node n) unit).Nodup ∧
      ∀ sub, sub ∈ nodeComputeUniqueMonitorSubscriptions (s.node n) unit ↔
        sub ∈ s.allSubscriptions ∧ sub.Covers (s.node n) unit := by
  unfold nodeComputeUniqueMonitorSubscriptions
  rw [if_neg hunit]
  have hmem : ∀ sub, sub ∈ (s.node n).subsOf unit ++ (s.node n).subsOf symbolWildcard ↔
      sub ∈ s.allSubscriptions ∧ sub.Covers (s.node n) unit := by
    intro sub
    rw [List.mem_append, h.indexed.mem_subsOf_iff hn, h.indexed.mem_subsOf_iff hn]
    unfold Subscription.Covers
    tauto
  -- the hash of a subscription is its address, so that no two of them have the same key
  have hsame : ∀ sub ∈ (s.node n).subsOf unit ++ (s.node n).subsOf symbolWildcard,
      ∀ sub' ∈ (s.node n).subsOf unit ++ (s.node n).subsOf symbolWildcard,
        ItemSet.Same subscriptionHashmapHash subscriptionHashmapCompare sub sub' ↔ sub = sub' := by
    intro sub hsub sub' hsub'
    constructor
    · intro hkey
      exact List.inj_on_of_nodup_map h.owned.ptrs ((hmem sub).mp hsub).1 ((hmem sub').mp hsub').1 hkey.1
    · intro heq
      rw [heq]
      exact ⟨rfl, if_pos rfl⟩
  exact ⟨ItemSet.setAll_nodup hsame, fun sub => (ItemSet.mem_setAll_iff hsame sub).trans (hmem sub)⟩

/-- Of a monitor's subscriptions the set holds those that cover the unit. -/
lemma countP_unique (h : Consistent gap s) {n : NodeId} (hn : n ∈ s.nodes) {unit : String}
    (hunit : unit ≠ symbolWildcard) (m : MonitorId) :
    (nodeComputeUniqueMonitorSubscriptions (s.node n) unit).countP (fun sub => sub.monitor = .client m) =
      (s.monitor m).subscriptions.countP fun sub => sub.Covers (s.node n) unit := by
  have ⟨hnodup, hmem⟩ := mem_unique_iff h hn hunit
  rw [List.countP_eq_length_filter, List.countP_eq_length_filter]
  apply List.Perm.length_eq
  apply (List.perm_ext_iff_of_nodup (hnodup.filter _) ((h.owned.nodup m).filter _)).mpr
  intro sub
  rw [List.mem_filter, List.mem_filter, hmem, h.owned.client m sub, decide_eq_true_eq, decide_eq_true_eq]
  tauto

/-! ## The signals of an agent -/

/-- A function that tells the subscriptions of its node about one event. -/
lemma applyNode_notify (s : Controller) (n : NodeId) {f : NodeStep} {node : Node} {unit : String}
    {ev : UnitEvent} (hf : f (s.node n) = (node, [notifyUnique node unit ev]))
    (hname : node.name = (s.node n).name) (hsubs : ∀ u, node.subsOf u = (s.node n).subsOf u) :
    s.applyNode n f = (s.modifyNode n fun _ => node).handleAll
      (nodeComputeUniqueMonitorSubscriptions (s.node n) unit) (s.nodeName n) unit ev := by
  have hset : nodeComputeUniqueMonitorSubscriptions node unit =
      nodeComputeUniqueMonitorSubscriptions (s.node n) unit := by
    unfold nodeComputeUniqueMonitorSubscriptions
    rw [hsubs, hsubs]
  have hnodeName : (s.modifyNode n fun _ => node).nodeName n = s.nodeName n := by
    unfold nodeName
    rw [modifyNode_node, Function.update_self, hname]
  unfold applyNode
  rw [hf]
  show (s.modifyNode n fun _ => node).handleAll (nodeComputeUniqueMonitorSubscriptions node unit)
    ((s.modifyNode n fun _ => node).nodeName n) unit ev = _
  rw [hset, hnodeName]

/-- The four unit signals all come down to one notification. -/
lemma onSignal_notice (s : Controller) (n : NodeId) {sig : NodeSignal} {unit : String}
    {msig : MonitorSignal} (hsig : sig.notice (s.nodeName n) = some (unit, msig)) :
    ∃ node ev, assembleSignal (s.nodeName n) unit ev = (some msig, ev) ∧
      s.onSignal n sig = (s.modifyNode n fun _ => node).handleAll
        (nodeComputeUniqueMonitorSubscriptions (s.node n) unit) (s.nodeName n) unit ev := by
  have hnew : ∀ unit' (usubs : UnitSubscriptions), (usubs.onNew unit').unit = usubs.unit ∧
      (usubs.onNew unit').subs = usubs.subs := by
    intro unit' usubs
    unfold UnitSubscriptions.onNew
    split
    · exact ⟨rfl, rfl⟩
    · exact ⟨rfl, rfl⟩
  unfold NodeSignal.notice at hsig
  split at hsig
  · rename_i unit' reason
    rw [Option.some.injEq, Prod.mk.injEq] at hsig
    rw [← hsig.1, ← hsig.2]
    exact ⟨_, .new reason, rfl, applyNode_notify s n rfl rfl
      (subsOf_modifyUsubs (fun usubs => (hnew unit' usubs).1) (fun usubs => (hnew unit' usubs).2) _ _)⟩
  · rename_i unit' activeState substate reason
    rw [Option.some.injEq, Prod.mk.injEq] at hsig
    rw [← hsig.1, ← hsig.2]
    exact ⟨_, .stateChanged activeState substate reason, rfl, applyNode_notify s n rfl rfl
      (subsOf_modifyUsubs (f := UnitSubscriptions.onStateChanged activeState substate) (fun _ => rfl)
        (fun _ => rfl) _ _)⟩
  · rw [Option.some.injEq, Prod.mk.injEq] at hsig
    rw [← hsig.1, ← hsig.2]
    exact ⟨_, .removed "real", rfl, applyNode_notify s n rfl rfl
      (subsOf_modifyUsubs (f := UnitSubscriptions.onRemoved) (fun _ => rfl) (fun _ => rfl) _ _)⟩
  · rename_i unit' interface properties
    rw [Option.some.injEq, Prod.mk.injEq] at hsig
    rw [← hsig.1, ← hsig.2]
    exact ⟨_, .propertiesChanged interface ⟨properties, .start⟩, rfl, applyNode_notify s n rfl rfl fun _ => rfl⟩
  · exact absurd hsig (by simp)

/-! ## Exactly once -/

/-- Between the two states the owner and the peers of each client monitor with a subscription that covers
the unit were sent this signal once, and nobody was sent anything else. -/
def ToldOnce (s s' : Controller) (n : NodeId) (unit : String) (msig : MonitorSignal) : Prop :=
  ∀ m dest sig, s'.log.count (.monitorSignal m dest sig) = s.log.count (.monitorSignal m dest sig) +
    if sig = msig ∧ dest ∈ recipients (s.monitor m) ∧
        ∃ sub ∈ (s.monitor m).subscriptions, sub.Covers (s.node n) unit then 1 else 0

/-- No client monitor has two subscriptions that cover the unit. -/
def CoversOnce (s : Controller) (n : NodeId) (unit : String) : Prop :=
  ∀ m, ∀ sub ∈ (s.monitor m).subscriptions, ∀ sub' ∈ (s.monitor m).subscriptions,
    sub.Covers (s.node n) unit → sub'.Covers (s.node n) unit → sub = sub'

/-- A unit signal reaches every monitor concerned exactly once just when none of them has two
subscriptions that cover the unit. -/
theorem toldOnce_iff (h : Reachable system s) {n : NodeId} (hn : n ∈ s.nodes) {bus : BusId}
    {sig : NodeSignal} {unit : String} {msig : MonitorSignal}
    (hsig : sig.notice (s.nodeName n) = some (unit, msig)) (hunit : unit ≠ symbolWildcard)
    (hstep : s.step (.agentSignal bus n sig) = some s') :
    ToldOnce s s' n unit msig ↔ CoversOnce s n unit := by
  have ⟨hrun, _, heq⟩ := step_agentSignal_iff.mp hstep
  obtain ⟨gap, hcons⟩ := consistent_of_reachable h hrun
  obtain ⟨node, ev, hev, hsignal⟩ := onSignal_notice s n hsig
  -- what is sent, by how many subscriptions of the monitor cover the unit
  have hcount : ∀ m dest sig, s'.log.count (.monitorSignal m dest sig) =
      s.log.count (.monitorSignal m dest sig) +
        if sig = msig ∧ dest ∈ recipients (s.monitor m) then
          (s.monitor m).subscriptions.countP fun sub => sub.Covers (s.node n) unit else 0 := by
    intro m dest sig
    rw [← heq, hsignal, count_handleAll _ _ hev, countP_unique hcons hn hunit, modifyNode_log,
      modifyNode_monitor, (hcons.owned.recipients m).count, ite_and]
    split
    · split
      · rw [Nat.mul_one]
      · rfl
    · rfl
  constructor
  · intro htold m sub hsub sub' hsub' hcovers hcovers'
    have hone := htold m (s.monitor m).owner msig
    have howner : (s.monitor m).owner ∈ recipients (s.monitor m) := List.mem_cons_self
    rw [hcount, if_pos ⟨rfl, howner⟩, if_pos ⟨rfl, howner, sub, hsub, hcovers⟩, Nat.add_left_cancel_iff,
      List.countP_eq_length_filter] at hone
    obtain ⟨sub'', honly⟩ := List.length_eq_one_iff.mp hone
    have hall : ∀ {x}, x ∈ (s.monitor m).subscriptions → x.Covers (s.node n) unit → x = sub'' := by
      intro x hx hxcovers
      have hmem : x ∈ (s.monitor m).subscriptions.filter fun sub => sub.Covers (s.node n) unit :=
        List.mem_filter.mpr ⟨hx, decide_eq_true hxcovers⟩
      rw [honly] at hmem
      exact List.mem_singleton.mp hmem
    exact (hall hsub hcovers).trans (hall hsub' hcovers').symm
  · intro honce m dest sig
    rw [hcount]
    congr 1
    by_cases hcovered : ∃ sub ∈ (s.monitor m).subscriptions, sub.Covers (s.node n) unit
    · obtain ⟨sub, hsub, hcovers⟩ := hcovered
      have hone : (s.monitor m).subscriptions.countP (fun sub => sub.Covers (s.node n) unit) = 1 := by
        have hsame : (s.monitor m).subscriptions.countP (fun sub => sub.Covers (s.node n) unit) =
            (s.monitor m).subscriptions.count sub := by
          rw [List.count_eq_countP]
          apply List.countP_congr
          intro x hx
          rw [decide_eq_true_eq, beq_iff_eq]
          exact ⟨fun hxcovers => honce m x hx sub hsub hxcovers hcovers, fun heq => heq ▸ hcovers⟩
        rw [hsame, (hcons.owned.nodup m).count, if_pos hsub]
      rw [hone]
      apply if_congr _ rfl rfl
      exact ⟨fun hsent => ⟨hsent.1, hsent.2, sub, hsub, hcovers⟩, fun hsent => ⟨hsent.1, hsent.2.1⟩⟩
    · have hzero : (s.monitor m).subscriptions.countP (fun sub => sub.Covers (s.node n) unit) = 0 := by
        apply List.countP_eq_zero.mpr
        intro sub hsub hcovers
        exact hcovered ⟨sub, hsub, of_decide_eq_true hcovers⟩
      rw [hzero, ite_self, if_neg fun hsent => hcovered hsent.2.2]

/-- Two clients each make a monitor. The first one has a peer. -/
def twoWatchers : List Event :=
  [.accept ⟨some none, none⟩ fun _ => false,
    .register 2 1 "n" 1 1 ⟨some none, none⟩ fun _ => false,
    .createMonitor 2 ":1.7" true, .addPeer 4 3 ":1.8", .subscribe 4 4 "n" ["a.service"],
    .createMonitor 5 ":1.9" true, .subscribe 6 6 "*" ["*"]]

def oneWatched : Controller := start 0 [⟨"n", none, []⟩]

/-- The unit is loaded. -/
def unitLoaded : Event := .agentSignal 3 1 (.unitNew "a.service" "real")

/-- Each monitor has one subscription, and everybody hears of the unit once. -/
theorem toldOnce_twoWatchers : ∃ s s', run system oneWatched twoWatchers = some s ∧
    s.step unitLoaded = some s' ∧ ToldOnce s s' 1 "a.service" (.unitNew "n" "a.service" "real") := by
  have hread : (run system oneWatched twoWatchers).map (fun s =>
      ((s.nodes, s.nodeName 1, s.allSubscriptions.map (·.monitor)), (s.step unitLoaded).isSome)) =
        some (([1], "n", [.client 4, .client 6]), true) := by decide +kernel
  obtain ⟨s, hs, hfacts⟩ := Option.map_eq_some_iff.mp hread
  obtain ⟨hstate, hnext⟩ := Prod.mk.inj hfacts
  obtain ⟨hnodes, hrest⟩ := Prod.mk.inj hstate
  obtain ⟨hname, hmonitors⟩ := Prod.mk.inj hrest
  obtain ⟨s', hstep⟩ := Option.isSome_iff_exists.mp hnext
  have hinit : Reachable system oneWatched := .init ⟨0, _, rfl⟩
  have hreach := hinit.run hs
  obtain ⟨gap, hcons⟩ := consistent_of_reachable hreach (step_eq_some_iff.mp hstep).1
  -- no two subscriptions have the same monitor
  have honce : CoversOnce s 1 "a.service" := by
    intro m sub hsub sub' hsub' _ _
    have hdistinct : (s.allSubscriptions.map (·.monitor)).Nodup := by
      rw [hmonitors]
      decide
    have ⟨hall, hm⟩ := (hcons.owned.client m sub).mp hsub
    have ⟨hall', hm'⟩ := (hcons.owned.client m sub').mp hsub'
    exact List.inj_on_of_nodup_map hdistinct hall hall' (hm.trans hm'.symm)
  have hn : 1 ∈ s.nodes := by
    rw [hnodes]
    exact List.mem_singleton.mpr rfl
  have hsig : NodeSignal.notice (s.nodeName 1) (.unitNew "a.service" "real") =
      some ("a.service", .unitNew "n" "a.service" "real") := by
    rw [hname]
    rfl
  exact ⟨s, s', hs, hstep, (toldOnce_iff hreach hn hsig (by decide) hstep).mpr honce⟩

/-- A client subscribes to the unit of the node, and to all units of all nodes. -/
def watchesTwice : List Event :=
  [.accept ⟨some none, none⟩ fun _ => false,
    .register 2 1 "n" 1 1 ⟨some none, none⟩ fun _ => false,
    .createMonitor 2 ":1.7" true, .subscribe 4 3 "n" ["a.service"], .subscribe 4 4 "*" ["*"]]

/-- Its monitor sends the signal twice. -/
theorem told_twice : ∃ s s', Reachable system s ∧ s.step unitLoaded = some s' ∧
    s'.log.count (.monitorSignal 4 ":1.7" (.unitNew "n" "a.service" "real")) = 2 ∧
      s.log.count (.monitorSignal 4 ":1.7" (.unitNew "n" "a.service" "real")) = 0 ∧
        ¬ToldOnce s s' 1 "a.service" (.unitNew "n" "a.service" "real") := by
  have hread : (run system oneWatched watchesTwice).map (fun s =>
      (s.log.count (.monitorSignal 4 ":1.7" (.unitNew "n" "a.service" "real")),
        (s.step unitLoaded).map fun s =>
          s.log.count (.monitorSignal 4 ":1.7" (.unitNew "n" "a.service" "real")))) =
            some (0, some 2) := by decide +kernel
  obtain ⟨s, hs, hfacts⟩ := Option.map_eq_some_iff.mp hread
  obtain ⟨hbefore, hnext⟩ := Prod.mk.inj hfacts
  obtain ⟨s', hstep, hafter⟩ := Option.map_eq_some_iff.mp hnext
  have hinit : Reachable system oneWatched := .init ⟨0, _, rfl⟩
  refine ⟨s, s', hinit.run hs, hstep, hafter, hbefore, fun htold => ?_⟩
  have hone := htold 4 ":1.7" (.unitNew "n" "a.service" "real")
  rw [hafter, hbefore] at hone
  split at hone
  · omega
  · omega

end Controller
end BlueChi
