import BlueChi.Controller.Notify

/-!
# A node's table of unit subscriptions

`unit_subscriptions` maps a unit name to the subscriptions that list it and to the state of
the unit as the agent last reported it. The functions on the table are functions of the node
alone: they return the node and what is to be sent, in order, to the agent and to the
subscriptions.
-/

namespace BlueChi

/-- What a function on a node's table does apart from changing the table: a message to the
agent, or an event for a set of subscriptions. -/
inductive NodeEffect
  | send (call : AgentCall)
  | notify (subs : List Subscription) (unit : String) (ev : UnitEvent)

/-- A change of a node, with its effects. -/
abbrev NodeStep := Node → Node × List NodeEffect

/-- A loop over `xs`, the effects one after the other. -/
def NodeStep.forEach {α : Type} (f : α → NodeStep) : List α → NodeStep
  | [], node => (node, [])
  | x :: xs, node =>
    let r := f x node
    let r' := forEach f xs r.1
    (r'.1, r.2 ++ r'.2)

namespace Node

/-- `hashmap_get` on `unit_subscriptions`. -/
def usubs (node : Node) (unit : String) : Option UnitSubscriptions :=
  Keyed.get (·.unit) node.unitSubscriptions unit

/-- Change the entry of a unit, if there is one. -/
def modifyUsubs (node : Node) (unit : String) (f : UnitSubscriptions → UnitSubscriptions) : Node :=
  { node with unitSubscriptions := Keyed.modify (·.unit) node.unitSubscriptions unit f }

/-- The subscriptions listed for a unit. -/
def subsOf (node : Node) (unit : String) : List Subscription :=
  ((node.usubs unit).map (·.subs)).getD []

end Node

/-- `send_agent_simple_message`, behind the test for an agent that all its callers make. -/
def sendAgentSimpleMessage (node : Node) (call : AgentCall) : List NodeEffect :=
  if nodeHasAgent node then [.send call] else []

/-! ## Who is told about a unit -/

/-- `subscription_hashmap_hash`: the address of the subscription. -/
def subscriptionHashmapHash (sub : Subscription) : ℕ := sub.ptr

/-- `subscription_hashmap_compare`. -/
def subscriptionHashmapCompare (a b : Subscription) : ℤ := if a.monitor = b.monitor then 0 else 1

/-- `node_compute_unique_monitor_subscriptions`: a set filled with the subscriptions of the
unit and, unless the unit is the wildcard itself, with those of the wildcard. -/
def nodeComputeUniqueMonitorSubscriptions (node : Node) (unit : String) : List Subscription :=
  ItemSet.setAll subscriptionHashmapHash subscriptionHashmapCompare
    (node.subsOf unit ++ if unit = symbolWildcard then [] else node.subsOf symbolWildcard)

/-! ## Subscribing -/

/-- The virtual events for a new subscription to a unit known to be loaded. -/
def virtualEvents (usubs : UnitSubscriptions) (sub : Subscription) (unit : String) :
    List NodeEffect :=
  if usubs.loaded then
    .notify [sub] unit (.new "virtual") ::
      if usubs.activeState.isValid then
        [.notify [sub] unit (.stateChanged (activeStateToString usubs.activeState)
          (usubs.substate.getD "invalid") "virtual")]
      else []
  else []

/-- One round of the loop of `node_subscribe`. -/
def nodeSubscribeUnit (sub : Subscription) (unit : String) : NodeStep := fun node =>
  match node.usubs unit with
  | some usubs =>
    (node.modifyUsubs unit fun usubs => { usubs with subs := usubs.subs ++ [sub] },
      virtualEvents usubs sub unit)
  | none =>
    -- the first subscription to this unit is passed to the agent
    let usubs : UnitSubscriptions := ⟨unit, [sub], false, .invalid, none⟩
    ({ node with unitSubscriptions := node.unitSubscriptions ++ [usubs] },
      sendAgentSimpleMessage node (.subscribe unit) ++ virtualEvents usubs sub unit)

/-- `node_subscribe`. -/
def nodeSubscribe (sub : Subscription) : NodeStep :=
  NodeStep.forEach (nodeSubscribeUnit sub) sub.units

/-- One round of the loop of `node_unsubscribe`. -/
def nodeUnsubscribeUnit (sub : Subscription) (unit : String) : NodeStep := fun node =>
  match node.usubs unit with
  | none => (node, [])
  | some usubs =>
    if sub ∈ usubs.subs then
      if (usubs.subs.erase sub).isEmpty then
        -- the last subscription for this unit is gone, tell the agent
        ({ node with unitSubscriptions := Keyed.delete (·.unit) node.unitSubscriptions unit },
          sendAgentSimpleMessage node (.unsubscribe unit))
      else
        (node.modifyUsubs unit fun usubs => { usubs with subs := usubs.subs.erase sub }, [])
    else (node, [])

/-- `node_unsubscribe`. -/
def nodeUnsubscribe (sub : Subscription) : NodeStep :=
  NodeStep.forEach (nodeUnsubscribeUnit sub) sub.units

/-- `node_send_agent_subscribe_all`. -/
def nodeSendAgentSubscribeAll : NodeStep := fun node =>
  (node, node.unitSubscriptions.flatMap fun usubs =>
    sendAgentSimpleMessage node (.subscribe usubs.unit))

/-! ## Signals of the agent -/

/-- Tell all monitors concerned about an event of a unit. -/
def notifyUnique (node : Node) (unit : String) (ev : UnitEvent) : NodeEffect :=
  .notify (nodeComputeUniqueMonitorSubscriptions node unit) unit ev

/-- `node_match_unit_properties_changed`. The message was rewound after the unit and the
interface were read. -/
def nodeMatchUnitPropertiesChanged (unit interface : String) (properties : Properties) :
    NodeStep := fun node =>
  (node, [notifyUnique node unit (.propertiesChanged interface ⟨properties, .start⟩)])

/-- What `node_match_unit_new` records. -/
def UnitSubscriptions.onNew (unit : String) (usubs : UnitSubscriptions) : UnitSubscriptions :=
  if isWildcard unit then
    { usubs with loaded := true, activeState := .active, substate := some "running" }
  else { usubs with loaded := true }

/-- `node_match_unit_new`. -/
def nodeMatchUnitNew (unit reason : String) : NodeStep := fun node =>
  let node := node.modifyUsubs unit (UnitSubscriptions.onNew unit)
  (node, [notifyUnique node unit (.new reason)])

/-- What `node_match_unit_state_changed` records. -/
def UnitSubscriptions.onStateChanged (activeState substate : String) (usubs : UnitSubscriptions) :
    UnitSubscriptions :=
  { usubs with
    loaded := true
    activeState := activeStateFromString activeState
    substate := some substate }

/-- `node_match_unit_state_changed`. -/
def nodeMatchUnitStateChanged (unit activeState substate reason : String) : NodeStep :=
  fun node =>
    let node := node.modifyUsubs unit (UnitSubscriptions.onStateChanged activeState substate)
    (node, [notifyUnique node unit (.stateChanged activeState substate reason)])

/-- What `node_match_unit_removed` records. -/
def UnitSubscriptions.onRemoved (usubs : UnitSubscriptions) : UnitSubscriptions :=
  { usubs with loaded := false }

/-- `node_match_unit_removed`. -/
def nodeMatchUnitRemoved (unit : String) : NodeStep := fun node =>
  let node := node.modifyUsubs unit UnitSubscriptions.onRemoved
  (node, [notifyUnique node unit (.removed "real")])

/-! ## Losing the agent -/

/-- A valid state other than inactive was reported, so an inactive one is sent on disconnect. -/
def UnitSubscriptions.sendStateChange (usubs : UnitSubscriptions) : Bool :=
  usubs.activeState.isValid && usubs.activeState ≠ .inactive

/-- What the first loop of `node_disconnect` records. -/
def UnitSubscriptions.onDisconnect (usubs : UnitSubscriptions) : UnitSubscriptions :=
  if usubs.loaded then
    if usubs.sendStateChange then
      { usubs with
        loaded := false, activeState := .inactive, substate := some "agent-offline" }
    else { usubs with loaded := false }
  else usubs

/-- What the first loop of `node_disconnect` sends for an entry. -/
def disconnectEvents (node : Node) (usubs : UnitSubscriptions) : List NodeEffect :=
  if usubs.loaded then
    (if usubs.sendStateChange then
      [notifyUnique node usubs.unit
        (.stateChanged (activeStateToString .inactive) "agent-offline" "virtual")]
    else []) ++ [notifyUnique node usubs.unit (.removed "virtual")]
  else []

/-- The first loop of `node_disconnect`. It changes no list of subscriptions, so the sets that
it tells are those of the table it starts from. -/
def nodeDisconnectUnits : NodeStep := fun node =>
  ({ node with unitSubscriptions := node.unitSubscriptions.map UnitSubscriptions.onDisconnect },
    node.unitSubscriptions.flatMap (disconnectEvents node))

/-! ## Dependencies of proxies -/

/-- `node_start_proxy_dependency_all`. -/
def nodeStartProxyDependencyAll : NodeStep := fun node =>
  (node, node.proxyDependencies.flatMap fun dep =>
    sendAgentSimpleMessage node (.startDep dep.unitName))

end BlueChi
