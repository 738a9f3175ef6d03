import BlueChi.Controller.UnitTable

/-!
# Subscriptions of the controller

Adding a subscription files it in the controller's list and in the tables of the nodes it
names; removing it undoes both and drops the reference of the list. `SubscriptionFrame` says
what the two leave alone.
-/

namespace BlueChi
namespace Controller

/-! ## Running the effects of a node's table -/

/-- Carry out one effect of a function on a node. -/
def runEffect (n : NodeId) (s : Controller) : NodeEffect → Controller
  | .send call => s.sendAgent n call
  | .notify subs unit ev => s.handleAll subs (s.nodeName n) unit ev

/-- Run a function on a node and carry out its effects. -/
def applyNode (s : Controller) (n : NodeId) (f : NodeStep) : Controller :=
  (f (s.node n)).2.foldl (runEffect n) (s.modifyNode n fun _ => (f (s.node n)).1)

/-! ## References of subscriptions -/

/-- `monitor_unref`: the last reference takes the object off the bus. -/
def monitorUnref (s : Controller) (m : MonitorId) (o : Owner) : Controller :=
  let s := s.dropRef (.monitor m) o
  if s.isFreed (.monitor m) then s.modifyMonitor m fun monitor => { monitor with exportSlot := false }
  else s

/-- `subscription_unref`: a client subscription holds a reference of its monitor, a proxy
subscription none. -/
def subscriptionUnref (s : Controller) (sub : Subscription) (o : Owner) : Controller :=
  let s := s.dropRef (.subscription sub.ptr) o
  if s.isFreed (.subscription sub.ptr) then
    match sub.monitor with
    | .client m => s.monitorUnref m (.subscription sub.ptr)
    | .proxy _ => s
  else s

/-! ## Adding and removing -/

/-- `subscription_has_node_wildcard`. -/
def subscriptionHasNodeWildcard (sub : Subscription) : Bool := isWildcard sub.node

/-- The nodes that a subscription is filed at, in the two branches of
`controller_add_subscription` and `controller_remove_subscription`. -/
def subscribedNodes (s : Controller) (sub : Subscription) : List NodeId :=
  if subscriptionHasNodeWildcard sub then s.nodes else (s.findNode sub.node).toList

/-- `LIST_APPEND` to `all_subscriptions`, with the reference that the list holds. -/
def appendSubscription (s : Controller) (sub : Subscription) : Controller :=
  { s.takeRef (.subscription sub.ptr) .allSubscriptions with
    allSubscriptions := s.allSubscriptions ++ [sub] }

/-- `LIST_REMOVE` from `all_subscriptions`. -/
def unlistSubscription (s : Controller) (sub : Subscription) : Controller :=
  { s.listRemove .allSubscriptions (sub ∈ s.allSubscriptions) with
    allSubscriptions := s.allSubscriptions.erase sub }

/-- `controller_add_subscription`. -/
def addSubscription (s : Controller) (sub : Subscription) : Controller :=
  (s.subscribedNodes sub).foldl (fun s n => s.applyNode n (nodeSubscribe sub))
    (s.appendSubscription sub)

/-- `controller_remove_subscription`. -/
def removeSubscription (s : Controller) (sub : Subscription) : Controller :=
  let s := (s.subscribedNodes sub).foldl (fun s n => s.applyNode n (nodeUnsubscribe sub)) s
  (s.unlistSubscription sub).subscriptionUnref sub .allSubscriptions

/-! ## What the functions leave alone -/

/-- Only the table of unit subscriptions may differ. -/
def SameButTable (node node' : Node) : Prop :=
  node' = { node with unitSubscriptions := node'.unitSubscriptions }

theorem SameButTable.refl (node : Node) : SameButTable node node := rfl

theorem SameButTable.trans {a b c : Node} (h : SameButTable a b) (h' : SameButTable b c) :
    SameButTable a c := by
  unfold SameButTable at h h' ⊢
  rw [h', h]

/-- A monitor may leave the bus, and nothing else may differ. -/
structure SameButSlot (monitor monitor' : Monitor) : Prop where
  rest : monitor' = { monitor with exportSlot := monitor'.exportSlot }
  slot : monitor'.exportSlot = true → monitor.exportSlot = true

namespace SameButSlot

theorem refl (monitor : Monitor) : SameButSlot monitor monitor := ⟨rfl, id⟩

theorem trans {a b c : Monitor} (h : SameButSlot a b) (h' : SameButSlot b c) :
    SameButSlot a c where
  rest := by rw [h'.rest, h.rest]
  slot hslot := h.slot (h'.slot hslot)

theorem subscriptions {monitor monitor' : Monitor} (h : SameButSlot monitor monitor') :
    monitor'.subscriptions = monitor.subscriptions := by rw [h.rest]

end SameButSlot

/-- The objects that are made for monitors. -/
def ofMonitors : Obj → Bool
  | .subscription _ => true
  | .monitor _ => true
  | .proxyMonitor _ => true
  | _ => false

/-- `s'` differs from `s` in the subscriptions and what a notification changes: the list of
all subscriptions, the nodes' tables, the slots of freed monitors and the bookkeeping. Calls
are made by proxy monitors of `told`. -/
structure SubscriptionFrame (told : ProxyMonitorId → Prop) (s s' : Controller) : Prop where
  rest : s' = { s with
    allSubscriptions := s'.allSubscriptions, node := s'.node, monitor := s'.monitor,
    refs := s'.refs, proxyCalls := s'.proxyCalls, log := s'.log, mem := s'.mem }
  node : ∀ n, SameButTable (s.node n) (s'.node n)
  monitor : ∀ m, SameButSlot (s.monitor m) (s'.monitor m)
  emits : Emits [.notice, .table] s s'
  refs : ∀ obj, ofMonitors obj = false → s'.refs obj = s.refs obj
  calls : Called told s s'

namespace SubscriptionFrame

variable {told told' : ProxyMonitorId → Prop} {s s' s'' : Controller}

theorem refl (told : ProxyMonitorId → Prop) (s : Controller) : SubscriptionFrame told s s :=
  ⟨rfl, fun _ => rfl, fun _ => .refl _, .refl _ s, fun _ _ => rfl, .refl told s⟩

theorem trans (h : SubscriptionFrame told s s') (h' : SubscriptionFrame told s' s'') :
    SubscriptionFrame told s s'' where
  rest := by rw [h'.rest, h.rest]
  node n := (h.node n).trans (h'.node n)
  monitor m := (h.monitor m).trans (h'.monitor m)
  emits := h.emits.trans h'.emits
  refs obj hobj := (h'.refs obj hobj).trans (h.refs obj hobj)
  calls := h.calls.trans h'.calls

theorem mono (h : SubscriptionFrame told s s') (hsub : ∀ p, told p → told' p) :
    SubscriptionFrame told' s s' :=
  ⟨h.rest, h.node, h.monitor, h.emits, h.refs, h.calls.mono hsub⟩

/-- A loop whose rounds are in the frame is in the frame. -/
theorem foldl {α : Type} {f : Controller → α → Controller} (xs : List α) (s : Controller)
    (hf : ∀ s, ∀ x ∈ xs, SubscriptionFrame told s (f s x)) :
    SubscriptionFrame told s (xs.foldl f s) := by
  induction xs generalizing s with
  | nil => exact .refl told s
  | cons x xs ih =>
    rw [List.foldl_cons]
    exact (hf s x (by simp)).trans (ih _ fun s y hy => hf s y (by simp [hy]))

theorem of_notify (h : NotifyFrame told s s') : SubscriptionFrame told s s' where
  rest := by rw [h.rest]
  node n := by rw [h.rest]; rfl
  monitor m := by rw [h.rest]; exact .refl _
  emits := h.emits.mono (by simp)
  refs obj hobj := h.refs obj (by rintro p rfl; simp [ofMonitors] at hobj)
  calls := h.calls

end SubscriptionFrame

/-! ### Functions on tables -/

/-- The effects that stay within the frame. -/
def Mild (told : ProxyMonitorId → Prop) : NodeEffect → Prop
  | .send call => call.kind = .table
  | .notify subs _ _ => ∀ sub ∈ subs, ∀ p, sub.monitor = .proxy p → told p

/-- A function on a node that only changes its table, with effects within the frame. -/
def TableStep (told : ProxyMonitorId → Prop) (f : NodeStep) (node : Node) : Prop :=
  SameButTable node (f node).1 ∧ ∀ eff ∈ (f node).2, Mild told eff

theorem subscriptionFrame_sendAgent (told : ProxyMonitorId → Prop) (s : Controller) (n : NodeId)
    {call : AgentCall} (hcall : call.kind = .table) :
    SubscriptionFrame told s (s.sendAgent n call) := by
  unfold sendAgent
  split
  · exact .refl told s
  · exact ⟨rfl, fun _ => rfl, fun _ => .refl _, emits_emit s (by simp [Output.kind, hcall]),
      fun _ _ => rfl, .of_eq (fun _ => rfl) rfl⟩

theorem subscriptionFrame_runEffect {told : ProxyMonitorId → Prop} (s : Controller) (n : NodeId)
    {eff : NodeEffect} (heff : Mild told eff) : SubscriptionFrame told s (s.runEffect n eff) := by
  cases eff with
  | send call => exact subscriptionFrame_sendAgent told s n heff
  | notify subs unit ev =>
    refine .of_notify ((notifyFrame_handleAll s subs _ unit ev).mono ?_)
    rintro p ⟨sub, hsub, hp⟩
    exact heff sub hsub p hp

/-- The change of the node itself. -/
theorem subscriptionFrame_modifyNode {told : ProxyMonitorId → Prop} (s : Controller) (n : NodeId)
    {f : Node → Node} (hf : SameButTable (s.node n) (f (s.node n))) :
    SubscriptionFrame told s (s.modifyNode n f) := by
  refine ⟨rfl, fun n' => ?_, fun _ => .refl _, .of_log_eq rfl, fun _ _ => rfl,
    .of_eq (fun _ => rfl) rfl⟩
  by_cases hn : n' = n
  · subst hn
    simpa [modifyNode] using hf
  · simp [modifyNode, hn, SameButTable]

theorem subscriptionFrame_applyNode {told : ProxyMonitorId → Prop} (s : Controller) (n : NodeId)
    {f : NodeStep} (hf : TableStep told f (s.node n)) :
    SubscriptionFrame told s (s.applyNode n f) :=
  (subscriptionFrame_modifyNode s n hf.1).trans
    (SubscriptionFrame.foldl _ _ fun s eff heff => subscriptionFrame_runEffect s n (hf.2 eff heff))

theorem tableStep_forEach {told : ProxyMonitorId → Prop} {α : Type} {f : α → NodeStep}
    (hf : ∀ x node, TableStep told (f x) node) (xs : List α) (node : Node) :
    TableStep told (NodeStep.forEach f xs) node := by
  induction xs generalizing node with
  | nil => exact ⟨.refl node, by simp [NodeStep.forEach]⟩
  | cons x xs ih =>
    obtain ⟨hsame, heffs⟩ := hf x node
    obtain ⟨hsame', heffs'⟩ := ih (f x node).1
    refine ⟨hsame.trans hsame', fun eff heff => ?_⟩
    rcases List.mem_append.mp heff with h | h
    · exact heffs eff h
    · exact heffs' eff h

theorem mild_sendAgentSimpleMessage (told : ProxyMonitorId → Prop) (node : Node)
    {call : AgentCall} (hcall : call.kind = .table) :
    ∀ eff ∈ sendAgentSimpleMessage node call, Mild told eff := by
  unfold sendAgentSimpleMessage
  split <;> simp [Mild, hcall]

/-- The virtual events are for the new subscription alone. -/
theorem mild_virtualEvents (usubs : UnitSubscriptions) (sub : Subscription) (unit : String) :
    ∀ eff ∈ virtualEvents usubs sub unit, Mild (fun p => sub.monitor = .proxy p) eff := by
  unfold virtualEvents
  split
  · split <;> simp [Mild]
  · simp

theorem tableStep_nodeSubscribe (sub : Subscription) (node : Node) :
    TableStep (fun p => sub.monitor = .proxy p) (nodeSubscribe sub) node := by
  refine tableStep_forEach (fun unit node => ?_) sub.units node
  simp only [TableStep, nodeSubscribeUnit]
  split
  · exact ⟨rfl, mild_virtualEvents _ sub unit⟩
  · refine ⟨rfl, fun eff heff => ?_⟩
    rcases List.mem_append.mp heff with h | h
    · exact mild_sendAgentSimpleMessage _ node rfl eff h
    · exact mild_virtualEvents _ sub unit eff h

theorem tableStep_nodeUnsubscribe (told : ProxyMonitorId → Prop) (sub : Subscription)
    (node : Node) : TableStep told (nodeUnsubscribe sub) node := by
  refine tableStep_forEach (fun unit node => ?_) sub.units node
  simp only [TableStep, nodeUnsubscribeUnit]
  split
  · exact ⟨rfl, by simp⟩
  · split
    · split
      · exact ⟨rfl, mild_sendAgentSimpleMessage told node rfl⟩
      · exact ⟨rfl, by simp⟩
    · exact ⟨rfl, by simp⟩

theorem tableStep_nodeSendAgentSubscribeAll (told : ProxyMonitorId → Prop) (node : Node) :
    TableStep told nodeSendAgentSubscribeAll node := by
  refine ⟨rfl, fun eff heff => ?_⟩
  obtain ⟨usubs, _, h⟩ := List.mem_flatMap.mp heff
  exact mild_sendAgentSimpleMessage told node rfl eff h

/-! ### Signals of the agent -/

/-- The proxy monitors that have a subscription in the table of the node. -/
def filedProxies (node : Node) (p : ProxyMonitorId) : Prop :=
  ∃ unit, ∃ sub ∈ node.subsOf unit, sub.monitor = .proxy p

/-- Only subscriptions of the table are told about a unit. -/
theorem mild_notifyUnique (node : Node) (unit : String) (ev : UnitEvent) :
    Mild (filedProxies node) (notifyUnique node unit ev) := by
  intro sub hsub p hp
  have hmem := ItemSet.mem_of_mem_setAll hsub
  rcases List.mem_append.mp hmem with h | h
  · exact ⟨unit, sub, h, hp⟩
  · split at h
    · simp at h
    · exact ⟨symbolWildcard, sub, h, hp⟩

/-- A change of the entries that keeps their lists of subscriptions. -/
theorem subsOf_modifyUsubs {f : UnitSubscriptions → UnitSubscriptions}
    (hunit : ∀ usubs, (f usubs).unit = usubs.unit) (hsubs : ∀ usubs, (f usubs).subs = usubs.subs)
    (node : Node) (unit unit' : String) :
    (node.modifyUsubs unit f).subsOf unit' = node.subsOf unit' := by
  unfold Node.subsOf Node.usubs Node.modifyUsubs
  rw [Keyed.get_modify hunit]
  split
  · rename_i h
    subst h
    rw [Option.map_map]
    congr 2
    funext usubs
    exact hsubs usubs
  · rfl

/-- The handlers of unit signals change an entry, not who is told, and tell about it. -/
theorem tableStep_notify {f : UnitSubscriptions → UnitSubscriptions}
    (hunit : ∀ usubs, (f usubs).unit = usubs.unit) (hsubs : ∀ usubs, (f usubs).subs = usubs.subs)
    (unit : String) (ev : UnitEvent) (node : Node) :
    TableStep (filedProxies node)
      (fun node => (node.modifyUsubs unit f, [notifyUnique (node.modifyUsubs unit f) unit ev]))
      node := by
  refine ⟨rfl, fun eff heff => ?_⟩
  rw [List.mem_singleton] at heff
  subst heff
  have hmild := mild_notifyUnique (node.modifyUsubs unit f) unit ev
  simpa only [Mild, filedProxies, subsOf_modifyUsubs hunit hsubs] using hmild

theorem tableStep_nodeMatchUnitNew (unit reason : String) (node : Node) :
    TableStep (filedProxies node) (nodeMatchUnitNew unit reason) node := by
  refine tableStep_notify (fun usubs => ?_) (fun usubs => ?_) unit _ node <;>
  · unfold UnitSubscriptions.onNew
    split <;> rfl

theorem tableStep_nodeMatchUnitStateChanged (unit activeState substate reason : String)
    (node : Node) :
    TableStep (filedProxies node) (nodeMatchUnitStateChanged unit activeState substate reason)
      node :=
  tableStep_notify (f := UnitSubscriptions.onStateChanged activeState substate) (fun _ => rfl)
    (fun _ => rfl) unit _ node

theorem tableStep_nodeMatchUnitRemoved (unit : String) (node : Node) :
    TableStep (filedProxies node) (nodeMatchUnitRemoved unit) node :=
  tableStep_notify (f := UnitSubscriptions.onRemoved) (fun _ => rfl) (fun _ => rfl) unit _ node

theorem tableStep_nodeMatchUnitPropertiesChanged (unit interface : String)
    (properties : Properties) (node : Node) :
    TableStep (filedProxies node) (nodeMatchUnitPropertiesChanged unit interface properties)
      node := by
  refine ⟨.refl node, fun eff heff => ?_⟩
  rw [nodeMatchUnitPropertiesChanged, List.mem_singleton] at heff
  subst heff
  exact mild_notifyUnique node unit _

theorem tableStep_nodeDisconnectUnits (node : Node) :
    TableStep (filedProxies node) nodeDisconnectUnits node := by
  refine ⟨rfl, fun eff heff => ?_⟩
  obtain ⟨usubs, _, h⟩ := List.mem_flatMap.mp heff
  unfold disconnectEvents at h
  split at h
  · rcases List.mem_append.mp h with h | h
    · split at h
      · rw [List.mem_singleton] at h
        exact h ▸ mild_notifyUnique node _ _
      · simp at h
    · rw [List.mem_singleton] at h
      exact h ▸ mild_notifyUnique node _ _
  · simp at h

/-! ### Functions on subscriptions -/

section

variable (told : ProxyMonitorId → Prop)

theorem subscriptionFrame_dropRef (s : Controller) {obj : Obj} (o : Owner)
    (hobj : ∀ p, obj ≠ .proxyMonitor p) (hof : ofMonitors obj = true) :
    SubscriptionFrame told s (s.dropRef obj o) := by
  refine ⟨rfl, fun _ => rfl, fun _ => .refl _, .of_log_eq rfl, fun obj' hobj' => ?_,
    .of_eq (fun p => ?_) rfl⟩
  · have hne : obj' ≠ obj := by
      rintro rfl
      simp [hof] at hobj'
    simp [dropRef, hne]
  · simp [dropRef, (hobj p).symm]

theorem subscriptionFrame_monitorUnref (s : Controller) (m : MonitorId) (o : Owner) :
    SubscriptionFrame told s (s.monitorUnref m o) := by
  have hdrop : SubscriptionFrame told s (s.dropRef (.monitor m) o) :=
    subscriptionFrame_dropRef told s o (by simp) rfl
  unfold monitorUnref
  simp only
  split
  · refine hdrop.trans ⟨rfl, fun _ => rfl, fun m' => ?_, .of_log_eq rfl, fun _ _ => rfl,
      .of_eq (fun _ => rfl) rfl⟩
    by_cases hm : m' = m
    · subst hm
      simpa [modifyMonitor] using ⟨rfl, by simp⟩
    · simpa [modifyMonitor, hm] using SameButSlot.refl _
  · exact hdrop

theorem subscriptionFrame_subscriptionUnref (s : Controller) (sub : Subscription) (o : Owner) :
    SubscriptionFrame told s (s.subscriptionUnref sub o) := by
  have hdrop : SubscriptionFrame told s (s.dropRef (.subscription sub.ptr) o) :=
    subscriptionFrame_dropRef told s o (by simp) rfl
  unfold subscriptionUnref
  simp only
  split
  · split
    · exact hdrop.trans (subscriptionFrame_monitorUnref told _ _ _)
    · exact hdrop
  · exact hdrop

theorem subscriptionFrame_unlistSubscription (s : Controller) (sub : Subscription) :
    SubscriptionFrame told s (s.unlistSubscription sub) :=
  ⟨rfl, fun _ => rfl, fun _ => .refl _, .of_log_eq rfl, fun _ _ => rfl, .of_eq (fun _ => rfl) rfl⟩

theorem subscriptionFrame_removeSubscription (s : Controller) (sub : Subscription) :
    SubscriptionFrame told s (s.removeSubscription sub) := by
  have hnodes := SubscriptionFrame.foldl (s.subscribedNodes sub) s fun s n _ =>
    subscriptionFrame_applyNode s n (tableStep_nodeUnsubscribe told sub (s.node n))
  exact (hnodes.trans (subscriptionFrame_unlistSubscription told _ sub)).trans
    (subscriptionFrame_subscriptionUnref told _ sub _)

end

theorem subscriptionFrame_appendSubscription (told : ProxyMonitorId → Prop) (s : Controller)
    (sub : Subscription) : SubscriptionFrame told s (s.appendSubscription sub) := by
  refine ⟨rfl, fun _ => rfl, fun _ => .refl _, .of_log_eq rfl, fun obj hobj => ?_,
    .of_eq (fun p => ?_) rfl⟩
  · have hne : obj ≠ .subscription sub.ptr := by
      rintro rfl
      simp [ofMonitors] at hobj
    simp [appendSubscription, takeRef, hne]
  · simp [appendSubscription, takeRef]

/-- Adding a subscription tells its own monitor alone. -/
theorem subscriptionFrame_addSubscription (s : Controller) (sub : Subscription) :
    SubscriptionFrame (fun p => sub.monitor = .proxy p) s (s.addSubscription sub) :=
  (subscriptionFrame_appendSubscription _ s sub).trans
    (SubscriptionFrame.foldl _ _ fun s n _ =>
      subscriptionFrame_applyNode s n (tableStep_nodeSubscribe sub (s.node n)))

end Controller
end BlueChi
