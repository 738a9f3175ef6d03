import BlueChi.Controller.Subscriptions

/-!
# Proxy monitors, dependencies and the references of nodes

A proxy monitor of node `n` watches a unit of a target node and keeps a dependency service
running there. The target counts the dependencies on each of its units.

Dropping the last reference of a node removes its proxy monitors, which drops references of
their targets: `nodeUnref` and `proxyMonitorUnref` call each other. `nodeUnrefFuel` bounds the
depth of these calls; a node is freed once, so the number of objects made is enough.
-/

namespace BlueChi

/-! ## Dependencies -/

/-- The count of a unit in `proxy_dependencies`, 0 when it has no entry. -/
def depCount (node : Node) (unit : String) : ℤ :=
  ((Keyed.get (·.unitName) node.proxyDependencies unit).map (·.nDeps)).getD 0

/-- The list after `node_add_proxy_dependency`. -/
def incDependency (deps : List ProxyDependency) (unit : String) : List ProxyDependency :=
  match Keyed.get (·.unitName) deps unit with
  | some _ => Keyed.modify (·.unitName) deps unit fun dep => { dep with nDeps := dep.nDeps + 1 }
  | none => deps ++ [⟨unit, 1⟩]

namespace Controller

/-- `node_add_proxy_dependency`: the dependency is started also when it is not the first. -/
def nodeAddProxyDependency (s : Controller) (n : NodeId) (unit : String) : Controller :=
  (s.modifyNode n fun node =>
    { node with proxyDependencies := incDependency node.proxyDependencies unit }).sendAgent n
      (.startDep unit)

/-- `node_remove_proxy_dependency`: stop only on the last dependency. -/
def nodeRemoveProxyDependency (s : Controller) (n : NodeId) (unit : String) : Controller :=
  match Keyed.get (·.unitName) (s.node n).proxyDependencies unit with
  | none => s
  | some dep =>
    if dep.nDeps - 1 = 0 then
      (s.sendAgent n (.stopDep unit)).modifyNode n fun node =>
        { node with proxyDependencies := Keyed.delete (·.unitName) node.proxyDependencies unit }
    else
      s.modifyNode n fun node =>
        { node with proxyDependencies :=
            Keyed.modify (·.unitName) node.proxyDependencies unit fun dep =>
              { dep with nDeps := dep.nDeps - 1 } }

/-! ## The connection of a node -/

/-- `node_unset_agent_bus`. -/
def nodeUnsetAgentBus (s : Controller) (n : NodeId) : Controller :=
  let wasOnline := nodeIsOnline (s.node n)
  let s := s.modifyNode n fun node =>
    { node with
      disconnectSlot := none, internalControllerSlot := none, metricsMatchingSlot := none,
      agentBus := none, peerSelinuxContext := none, peerIp := none }
  if wasOnline then s.emit (.nodeStatus n (nodeGetStatus (s.node n))) else s

/-! ## Proxy monitors -/

/-- `proxy_monitor_drop_dep`, and thereby `proxy_monitor_close`. -/
def proxyMonitorDropDep (s : Controller) (p : ProxyMonitorId) : Controller :=
  if (s.proxyMonitor p).addedDep then
    let s := match (s.proxyMonitor p).targetNode with
      | some t => s.nodeRemoveProxyDependency t (s.proxyMonitor p).unitName
      | none => s
    s.modifyProxyMonitor p fun monitor => { monitor with addedDep := false }
  else s

section

variable (unrefNode : Controller → NodeId → Owner → Controller)

/-- `proxy_monitor_unref`. -/
def proxyMonitorUnref (s : Controller) (p : ProxyMonitorId) (o : Owner) : Controller :=
  let s := s.dropRef (.proxyMonitor p) o
  if s.isFreed (.proxyMonitor p) then
    let s := match (s.proxyMonitor p).targetNode with
      | some t => unrefNode (s.proxyMonitorDropDep p) t (.proxyMonitor p)
      | none => s
    s.subscriptionUnref (s.proxyMonitor p).subscription .creator
  else s

/-- `LIST_REMOVE` from the proxy monitors of a node. -/
def unlistProxyMonitor (s : Controller) (n : NodeId) (p : ProxyMonitorId) : Controller :=
  (s.listRemove (.proxyMonitors n) (p ∈ (s.node n).proxyMonitors)).modifyNode n fun node =>
    { node with proxyMonitors := node.proxyMonitors.erase p }

/-- `node_remove_proxy_monitor`. -/
def nodeRemoveProxyMonitor (s : Controller) (n : NodeId) (p : ProxyMonitorId) : Controller :=
  let s := s.proxyMonitorDropDep p
  let s := s.removeSubscription (s.proxyMonitor p).subscription
  proxyMonitorUnref unrefNode (s.unlistProxyMonitor n p) p .list

/-- `node_unref` once the last reference is dropped. -/
def nodeFinalize (s : Controller) (n : NodeId) : Controller :=
  let s := (s.node n).proxyMonitors.foldl
    (fun s p => nodeRemoveProxyMonitor unrefNode s n p) s
  let s := s.modifyNode n fun node =>
    { node with proxyDependencies := [], allowedProxyTargets := [] }
  (s.nodeUnsetAgentBus n).modifyNode n fun node => { node with unitSubscriptions := [] }

end

/-- `node_unref`, with a bound on the depth of the calls. -/
def nodeUnrefFuel : ℕ → Controller → NodeId → Owner → Controller
  | 0, s, n, o => s.dropRef (.node n) o
  | fuel + 1, s, n, o =>
    let s := s.dropRef (.node n) o
    if s.isFreed (.node n) then nodeFinalize (nodeUnrefFuel fuel) s n else s

/-- `node_unref`. -/
def nodeUnref (s : Controller) (n : NodeId) (o : Owner) : Controller :=
  nodeUnrefFuel (s.nextPtr + 1) s n o

/-! ## Signals of the agent -/

/-- `node_find_proxy_monitor`. -/
def nodeFindProxyMonitor (s : Controller) (n : NodeId) (targetNodeName unitName : String) :
    Option ProxyMonitorId :=
  (s.node n).proxyMonitors.find? fun p =>
    ((s.proxyMonitor p).targetNode.map s.nodeName = some targetNodeName) &&
      ((s.proxyMonitor p).unitName = unitName)

/-- `proxy_monitor_new`. The monitor is made at the next free address, its subscription at the
one after it. -/
def proxyMonitorNew (s : Controller) (n : NodeId)
    (targetNodeName unitName proxyObjectPath : String) : Controller :=
  let p := s.nextPtr
  let id := s.nextSubscriptionId + 1
  let sub : Subscription := ⟨p + 1, id, .proxy p, targetNodeName, [unitName]⟩
  { (s.newRef (.proxyMonitor p)).newRef (.subscription (p + 1)) with
    proxyMonitor := Function.update s.proxyMonitor p
      ⟨n, sub, false, unitName, none, proxyObjectPath⟩
    nextPtr := p + 2
    nextSubscriptionId := id }

/-- `proxy_monitor_set_target_node`. -/
def proxyMonitorSetTargetNode (s : Controller) (p : ProxyMonitorId) (t : NodeId) : Controller :=
  let s := (s.takeRef (.node t) (.proxyMonitor p)).modifyProxyMonitor p fun monitor =>
    { monitor with targetNode := some t }
  (s.nodeAddProxyDependency t (s.proxyMonitor p).unitName).modifyProxyMonitor p fun monitor =>
    { monitor with addedDep := true }

/-- `LIST_APPEND` to the proxy monitors of a node, with the reference that the list holds. -/
def appendProxyMonitor (s : Controller) (n : NodeId) (p : ProxyMonitorId) : Controller :=
  (s.takeRef (.proxyMonitor p) .list).modifyNode n fun node =>
    { node with proxyMonitors := node.proxyMonitors ++ [p] }

/-- `node_on_match_proxy_new` from the point where the proxy monitor `p` is made up to the
point where the handler drops its own reference. -/
def onProxyMonitor (s : Controller) (n : NodeId) (p : ProxyMonitorId)
    (targetNodeName unitName : String) : Controller :=
  match s.findNode targetNodeName with
  | none => s.proxyMonitorSendError p "No such node"
  | some t =>
    if targetNodeName ∈ (s.node n).allowedProxyTargets then
      let s := match s.nodeFindProxyMonitor n targetNodeName unitName with
        | some old => nodeRemoveProxyMonitor nodeUnref s n old
        | none => s
      let s := s.proxyMonitorSetTargetNode p t
      (s.addSubscription (s.proxyMonitor p).subscription).appendProxyMonitor n p
    else s.proxyMonitorSendError p "Proxy on node not allowed"

/-- `node_on_match_proxy_new`. -/
def nodeOnMatchProxyNew (s : Controller) (n : NodeId)
    (targetNodeName unitName proxyObjectPath : String) : Controller :=
  let p := s.nextPtr
  let s := s.proxyMonitorNew n targetNodeName unitName proxyObjectPath
  proxyMonitorUnref nodeUnref (s.onProxyMonitor n p targetNodeName unitName) p .creator

/-- `node_on_match_proxy_removed`. -/
def nodeOnMatchProxyRemoved (s : Controller) (n : NodeId) (targetNodeName unitName : String) :
    Controller :=
  match s.nodeFindProxyMonitor n targetNodeName unitName with
  | none => s
  | some p => nodeRemoveProxyMonitor nodeUnref s n p

/-- The callbacks of the proxy monitor calls: each drops the reference of its call. -/
def proxyMonitorCallback (s : Controller) (p : ProxyMonitorId) : Option Controller :=
  if p ∈ s.proxyCalls then
    some (proxyMonitorUnref nodeUnref { s with proxyCalls := s.proxyCalls.erase p } p .call)
  else none

/-! ## What the functions leave alone -/

/-- The objects that belong to requests and jobs. -/
def ofRequests : Obj → Bool
  | .request _ => true
  | .job _ => true
  | _ => false

/-- What a node keeps: its name, its configured context, its requests and its clocks. It may
lose its connection but gets no other one. -/
structure NodeFrame (node node' : Node) : Prop where
  rest : node' = { node with
    agentBus := node'.agentBus, internalControllerSlot := node'.internalControllerSlot,
    disconnectSlot := node'.disconnectSlot, metricsMatchingSlot := node'.metricsMatchingSlot,
    peerIp := node'.peerIp, peerSelinuxContext := node'.peerSelinuxContext,
    proxyMonitors := node'.proxyMonitors, proxyDependencies := node'.proxyDependencies,
    allowedProxyTargets := node'.allowedProxyTargets,
    unitSubscriptions := node'.unitSubscriptions }
  link : node'.link = node.link ∨ node'.link = .down

namespace NodeFrame

theorem refl (node : Node) : NodeFrame node node := ⟨rfl, Or.inl rfl⟩

theorem trans {a b c : Node} (h : NodeFrame a b) (h' : NodeFrame b c) : NodeFrame a c where
  rest := by rw [h'.rest, h.rest]
  link := by
    rcases h'.link with hlink | hlink
    · rw [hlink]
      exact h.link
    · exact Or.inr hlink

theorem agentBus {node node' : Node} (h : NodeFrame node node') :
    node'.agentBus = node.agentBus ∨ node'.agentBus = none := by
  rcases h.link with hlink | hlink
  · exact Or.inl (congrArg NodeLink.agentBus hlink)
  · exact Or.inr (congrArg NodeLink.agentBus hlink)

theorem of_table {node node' : Node} (h : SameButTable node node') : NodeFrame node node' := by
  rw [h]
  exact ⟨rfl, Or.inl rfl⟩

theorem name_eq {node node' : Node} (h : NodeFrame node node') : node'.name = node.name := by
  rw [h.rest]

theorem nodeHasAgent {node node' : Node} (h : NodeFrame node node')
    (ha : nodeHasAgent node' = true) : BlueChi.nodeHasAgent node = true := by
  rcases h.agentBus with hbus | hbus <;> simp_all [BlueChi.nodeHasAgent]

theorem nodeIsOnline {node node' : Node} (h : NodeFrame node node')
    (ho : nodeIsOnline node' = true) : BlueChi.nodeIsOnline node = true := by
  simp only [BlueChi.nodeIsOnline, Bool.and_eq_true] at ho ⊢
  exact ⟨h.name_eq ▸ ho.1, h.nodeHasAgent ho.2⟩

end NodeFrame

/-- What a proxy monitor keeps for ever. -/
def SameButDep (monitor monitor' : ProxyMonitor) : Prop :=
  monitor' = { monitor with addedDep := monitor'.addedDep, targetNode := monitor'.targetNode }

/-- `s'` differs from `s` in the subscriptions, the proxy monitors, the connections of nodes
and the bookkeeping. The requests and the jobs are those of `s`. -/
structure ProxyFrame (s s' : Controller) : Prop where
  rest : s' = { s with
    allSubscriptions := s'.allSubscriptions, node := s'.node, monitor := s'.monitor,
    proxyMonitor := s'.proxyMonitor, refs := s'.refs, proxyCalls := s'.proxyCalls,
    log := s'.log, mem := s'.mem }
  node : ∀ n, NodeFrame (s.node n) (s'.node n)
  monitor : ∀ m, SameButSlot (s.monitor m) (s'.monitor m)
  proxyMonitor : ∀ p, SameButDep (s.proxyMonitor p) (s'.proxyMonitor p)
  emits : Emits [.notice, .table, .dependency, .status] s s'
  refs : ∀ obj, ofRequests obj = true → s'.refs obj = s.refs obj

namespace ProxyFrame

variable {s s' s'' : Controller}

theorem refl (s : Controller) : ProxyFrame s s :=
  ⟨rfl, fun _ => .refl _, fun _ => .refl _, fun _ => rfl, .refl _ s, fun _ _ => rfl⟩

theorem trans (h : ProxyFrame s s') (h' : ProxyFrame s' s'') : ProxyFrame s s'' where
  rest := by rw [h'.rest, h.rest]
  node n := (h.node n).trans (h'.node n)
  monitor m := (h.monitor m).trans (h'.monitor m)
  proxyMonitor p := by
    have hp := h.proxyMonitor p
    have hp' := h'.proxyMonitor p
    unfold SameButDep at hp hp' ⊢
    rw [hp', hp]
  emits := h.emits.trans h'.emits
  refs obj hobj := (h'.refs obj hobj).trans (h.refs obj hobj)

theorem foldl {α : Type} {f : Controller → α → Controller}
    (hf : ∀ s x, ProxyFrame s (f s x)) (xs : List α) (s : Controller) :
    ProxyFrame s (xs.foldl f s) := by
  induction xs generalizing s with
  | nil => exact .refl s
  | cons x xs ih => exact (hf s x).trans (ih _)

theorem of_subscription {told : ProxyMonitorId → Prop} (h : SubscriptionFrame told s s') :
    ProxyFrame s s' where
  rest := by rw [h.rest]
  node n := .of_table (h.node n)
  monitor := h.monitor
  proxyMonitor p := by rw [h.rest]; rfl
  emits := h.emits.mono (by simp)
  refs obj hobj := h.refs obj (by cases obj <;> simp_all [ofRequests, ofMonitors])

end ProxyFrame

theorem proxyFrame_emit (s : Controller) {o : Output}
    (ho : o.kind ∈ [OutputKind.notice, .table, .dependency, .status]) :
    ProxyFrame s (s.emit o) :=
  ⟨rfl, fun _ => .refl _, fun _ => .refl _, fun _ => rfl, emits_emit s ho, fun _ _ => rfl⟩

theorem proxyFrame_sendAgent (s : Controller) (n : NodeId) {call : AgentCall}
    (hcall : call.kind ∈ [OutputKind.notice, .table, .dependency, .status]) :
    ProxyFrame s (s.sendAgent n call) := by
  unfold sendAgent
  split
  · exact .refl s
  · exact proxyFrame_emit s hcall

theorem proxyFrame_modifyNode (s : Controller) (n : NodeId) {f : Node → Node}
    (hf : NodeFrame (s.node n) (f (s.node n))) : ProxyFrame s (s.modifyNode n f) := by
  refine ⟨rfl, fun n' => ?_, fun _ => .refl _, fun _ => rfl, .of_log_eq rfl, fun _ _ => rfl⟩
  by_cases hn : n' = n
  · subst hn
    simpa [modifyNode] using hf
  · simpa [modifyNode, hn] using NodeFrame.refl (s.node n')

theorem proxyFrame_modifyProxyMonitor (s : Controller) (p : ProxyMonitorId)
    {f : ProxyMonitor → ProxyMonitor} (hf : SameButDep (s.proxyMonitor p) (f (s.proxyMonitor p))) :
    ProxyFrame s (s.modifyProxyMonitor p f) := by
  refine ⟨rfl, fun _ => .refl _, fun _ => .refl _, fun p' => ?_, .of_log_eq rfl, fun _ _ => rfl⟩
  by_cases hp : p' = p
  · subst hp
    simpa [modifyProxyMonitor] using hf
  · simp [modifyProxyMonitor, hp, SameButDep]

theorem proxyFrame_dropRef (s : Controller) {obj : Obj} (o : Owner)
    (hobj : ofRequests obj = false) : ProxyFrame s (s.dropRef obj o) := by
  refine ⟨rfl, fun _ => .refl _, fun _ => .refl _, fun _ => rfl, .of_log_eq rfl, fun obj' hobj' => ?_⟩
  have hne : obj' ≠ obj := by
    rintro rfl
    simp [hobj] at hobj'
  simp [dropRef, hne]

theorem proxyFrame_takeRef (s : Controller) {obj : Obj} (o : Owner)
    (hobj : ofRequests obj = false) : ProxyFrame s (s.takeRef obj o) := by
  refine ⟨rfl, fun _ => .refl _, fun _ => .refl _, fun _ => rfl, .of_log_eq rfl, fun obj' hobj' => ?_⟩
  have hne : obj' ≠ obj := by
    rintro rfl
    simp [hobj] at hobj'
  simp [takeRef, hne]

theorem proxyFrame_nodeAddProxyDependency (s : Controller) (n : NodeId) (unit : String) :
    ProxyFrame s (s.nodeAddProxyDependency n unit) := by
  refine ProxyFrame.trans ?_ (proxyFrame_sendAgent _ n (by simp [AgentCall.kind]))
  exact proxyFrame_modifyNode s n ⟨rfl, Or.inl rfl⟩

theorem proxyFrame_nodeRemoveProxyDependency (s : Controller) (n : NodeId) (unit : String) :
    ProxyFrame s (s.nodeRemoveProxyDependency n unit) := by
  unfold nodeRemoveProxyDependency
  split
  · exact .refl s
  · split
    · exact (proxyFrame_sendAgent s n (by simp [AgentCall.kind])).trans
        (proxyFrame_modifyNode _ n ⟨rfl, Or.inl rfl⟩)
    · exact proxyFrame_modifyNode s n ⟨rfl, Or.inl rfl⟩

theorem proxyFrame_nodeUnsetAgentBus (s : Controller) (n : NodeId) :
    ProxyFrame s (s.nodeUnsetAgentBus n) := by
  unfold nodeUnsetAgentBus
  simp only
  split
  · exact (proxyFrame_modifyNode s n ⟨rfl, Or.inr rfl⟩).trans
      (proxyFrame_emit _ (by simp [Output.kind]))
  · exact proxyFrame_modifyNode s n ⟨rfl, Or.inr rfl⟩

theorem proxyFrame_proxyMonitorDropDep (s : Controller) (p : ProxyMonitorId) :
    ProxyFrame s (s.proxyMonitorDropDep p) := by
  unfold proxyMonitorDropDep
  split
  · refine ProxyFrame.trans ?_ (proxyFrame_modifyProxyMonitor _ p rfl)
    split
    · exact proxyFrame_nodeRemoveProxyDependency s _ _
    · exact .refl s
  · exact .refl s

theorem proxyFrame_unlistProxyMonitor (s : Controller) (n : NodeId) (p : ProxyMonitorId) :
    ProxyFrame s (s.unlistProxyMonitor n p) := by
  have hlist : ProxyFrame s (s.listRemove (.proxyMonitors n) (p ∈ (s.node n).proxyMonitors)) :=
    ⟨rfl, fun _ => .refl _, fun _ => .refl _, fun _ => rfl, .of_log_eq rfl, fun _ _ => rfl⟩
  unfold unlistProxyMonitor
  exact hlist.trans (proxyFrame_modifyNode _ n ⟨rfl, Or.inl rfl⟩)

section

variable {unrefNode : Controller → NodeId → Owner → Controller}
  (hunref : ∀ s n o, ProxyFrame s (unrefNode s n o))

include hunref

theorem proxyFrame_proxyMonitorUnref (s : Controller) (p : ProxyMonitorId) (o : Owner) :
    ProxyFrame s (proxyMonitorUnref unrefNode s p o) := by
  have hdrop : ProxyFrame s (s.dropRef (.proxyMonitor p) o) := proxyFrame_dropRef s o rfl
  unfold proxyMonitorUnref
  simp only
  split
  · refine hdrop.trans (ProxyFrame.trans ?_
      (.of_subscription (subscriptionFrame_subscriptionUnref (fun _ => False) _ _ _)))
    split
    · exact (proxyFrame_proxyMonitorDropDep _ p).trans (hunref _ _ _)
    · exact .refl _
  · exact hdrop

theorem proxyFrame_nodeRemoveProxyMonitor (s : Controller) (n : NodeId) (p : ProxyMonitorId) :
    ProxyFrame s (nodeRemoveProxyMonitor unrefNode s n p) := by
  have hclose : ProxyFrame s (s.proxyMonitorDropDep p) := proxyFrame_proxyMonitorDropDep s p
  have hremove := ProxyFrame.of_subscription (subscriptionFrame_removeSubscription (fun _ => False)
    (s.proxyMonitorDropDep p) ((s.proxyMonitorDropDep p).proxyMonitor p).subscription)
  exact ((hclose.trans hremove).trans (proxyFrame_unlistProxyMonitor _ n p)).trans
    (proxyFrame_proxyMonitorUnref hunref _ p _)

theorem proxyFrame_nodeFinalize (s : Controller) (n : NodeId) :
    ProxyFrame s (nodeFinalize unrefNode s n) := by
  have hproxies := ProxyFrame.foldl
    (fun s p => proxyFrame_nodeRemoveProxyMonitor hunref s n p) (s.node n).proxyMonitors s
  unfold nodeFinalize
  refine hproxies.trans (ProxyFrame.trans ?_ (proxyFrame_modifyNode _ n ⟨rfl, Or.inl rfl⟩))
  exact (proxyFrame_modifyNode _ n ⟨rfl, Or.inl rfl⟩).trans (proxyFrame_nodeUnsetAgentBus _ n)

end

theorem proxyFrame_nodeUnrefFuel (fuel : ℕ) (s : Controller) (n : NodeId) (o : Owner) :
    ProxyFrame s (nodeUnrefFuel fuel s n o) := by
  induction fuel generalizing s n o with
  | zero => exact proxyFrame_dropRef s o rfl
  | succ fuel ih =>
    rw [nodeUnrefFuel]
    split
    · exact (proxyFrame_dropRef s o rfl).trans (proxyFrame_nodeFinalize ih _ n)
    · exact proxyFrame_dropRef s o rfl

theorem proxyFrame_nodeUnref (s : Controller) (n : NodeId) (o : Owner) :
    ProxyFrame s (s.nodeUnref n o) :=
  proxyFrame_nodeUnrefFuel _ s n o

theorem proxyFrame_proxyMonitorCallback {s s' : Controller} {p : ProxyMonitorId}
    (h : s.proxyMonitorCallback p = some s') : ProxyFrame s s' := by
  unfold proxyMonitorCallback at h
  split at h
  · rw [Option.some.injEq] at h
    subst h
    have herase : ProxyFrame s { s with proxyCalls := s.proxyCalls.erase p } :=
      ⟨rfl, fun _ => .refl _, fun _ => .refl _, fun _ => rfl, .of_log_eq rfl, fun _ _ => rfl⟩
    exact herase.trans (proxyFrame_proxyMonitorUnref proxyFrame_nodeUnref _ p _)
  · simp at h

theorem proxyFrame_nodeOnMatchProxyRemoved (s : Controller) (n : NodeId)
    (targetNodeName unitName : String) :
    ProxyFrame s (s.nodeOnMatchProxyRemoved n targetNodeName unitName) := by
  unfold nodeOnMatchProxyRemoved
  split
  · exact .refl s
  · exact proxyFrame_nodeRemoveProxyMonitor proxyFrame_nodeUnref s n _

theorem proxyFrame_proxyMonitorSetTargetNode (s : Controller) (p : ProxyMonitorId) (t : NodeId) :
    ProxyFrame s (s.proxyMonitorSetTargetNode p t) := by
  unfold proxyMonitorSetTargetNode
  refine ProxyFrame.trans ?_ (proxyFrame_modifyProxyMonitor _ p rfl)
  refine ProxyFrame.trans ?_ (proxyFrame_nodeAddProxyDependency _ t _)
  exact (proxyFrame_takeRef s _ rfl).trans (proxyFrame_modifyProxyMonitor _ p rfl)

theorem proxyFrame_appendProxyMonitor (s : Controller) (n : NodeId) (p : ProxyMonitorId) :
    ProxyFrame s (s.appendProxyMonitor n p) := by
  unfold appendProxyMonitor
  exact (proxyFrame_takeRef s _ rfl).trans (proxyFrame_modifyNode _ n ⟨rfl, Or.inl rfl⟩)

/-- The handler of a new proxy, once the proxy monitor is made. -/
theorem proxyFrame_onProxyMonitor (s : Controller) (n : NodeId) (p : ProxyMonitorId)
    (targetNodeName unitName : String) :
    ProxyFrame s (s.onProxyMonitor n p targetNodeName unitName) := by
  have herror : ∀ message, ProxyFrame s (s.proxyMonitorSendError p message) := fun message =>
    .of_subscription (.of_notify (notifyFrame_proxyMonitorCall s p rfl))
  unfold onProxyMonitor
  split
  · exact herror _
  · rename_i t _
    split
    · refine ProxyFrame.trans ?_ (((proxyFrame_proxyMonitorSetTargetNode _ p t).trans
        (.of_subscription (subscriptionFrame_addSubscription _ _))).trans
        (proxyFrame_appendProxyMonitor _ n p))
      split
      · exact proxyFrame_nodeRemoveProxyMonitor proxyFrame_nodeUnref s n _
      · exact .refl s
    · exact herror _

end Controller
end BlueChi
