import BlueChi.Controller.Requests

/-!
# Nodes and their connections

An incoming connection belongs to an anonymous node until the agent registers, which moves the
connection to the named node. A connection ends with its `Disconnected` signal or when the
heartbeat check gives the agent up.
-/

namespace BlueChi

/-! ## Registrations on a connection -/

/-- The calls inside `node_set_agent_bus` and `node_enable_metrics` that can fail. -/
inductive BusCall
  | internalVtable
  | matchSignal (member : AgentMember)
  | matchDisconnected
  | matchMetrics
  deriving DecidableEq

/-- What is found out about the other end of a connection: the outcome of
`get_peer_ip_address`, `none` when it fails, and the context that `getpeercon` gets. -/
structure PeerInfo where
  ip : Option (Option String)
  context : Option String
  deriving DecidableEq

/-- The text behind the next colon, unless it is empty. -/
def afterColon (context : List Char) : Option (List Char) :=
  match context.dropWhile (· ≠ ':') with
  | [] => none
  | _ :: rest => if rest.isEmpty then none else some rest

/-- `parse_selinux_type`: the third field of `user:role:type:level`. -/
def parseSelinuxType (context : String) : Option String := do
  let s ← afterColon (← afterColon context.toList)
  if ':' ∈ s then some (String.ofList (s.takeWhile (· ≠ ':'))) else none

/-- The signals that are matched before the status of a named node is announced. -/
def firstMembers : List AgentMember :=
  [.jobDone, .jobStateChanged, .unitPropertiesChanged, .unitNew, .unitStateChanged, .unitRemoved,
    .proxyNew, .proxyRemoved]

namespace Controller

/-- `sd_bus_match_signal` with a floating slot. -/
def addMatch (s : Controller) (n : NodeId) (bus : BusId) (member : AgentMember) : Controller :=
  { s with signalMatches := s.signalMatches ++ [⟨bus, n, member⟩] }

/-- A row of signal matches, which ends at the first that fails. -/
def addMatches (n : NodeId) (bus : BusId) (fails : BusCall → Bool) :
    List AgentMember → Controller → Bool × Controller
  | [], s => (true, s)
  | member :: members, s =>
    if fails (.matchSignal member) then (false, s)
    else addMatches n bus fails members (s.addMatch n bus member)

/-- `node_set_agent_bus` up to the match of `Disconnected`, after the connection was stored. -/
def nodeAddRegistrations (s : Controller) (n : NodeId) (bus : BusId) (fails : BusCall → Bool) :
    Bool × Controller :=
  if (s.node n).name = none then
    if fails .internalVtable then (false, s.nodeUnsetAgentBus n)
    else (true, s.modifyNode n fun node => { node with internalControllerSlot := some bus })
  else
    match addMatches n bus fails firstMembers s with
    | (false, s) => (false, s)
    | (true, s) => addMatches n bus fails [.heartbeat] (s.emit (.nodeStatus n (nodeGetStatus (s.node n))))

/-- The fields that `node_set_agent_bus` stores first. -/
def storeAgentBus (bus : BusId) (peer : PeerInfo) (node : Node) : Node :=
  { node with
    agentBus := some bus
    peerIp := peer.ip.getD node.peerIp
    peerSelinuxContext := match peer.context with
      | some context => parseSelinuxType context
      | none => node.peerSelinuxContext }

/-- `node_set_agent_bus`. -/
def nodeSetAgentBus (s : Controller) (n : NodeId) (bus : BusId) (peer : PeerInfo)
    (fails : BusCall → Bool) : Bool × Controller :=
  if nodeHasAgent (s.node n) then (false, s)
  else
    match (s.modifyNode n (storeAgentBus bus peer)).nodeAddRegistrations n bus fails with
    | (false, s) => (false, s)
    | (true, s) =>
      if fails .matchDisconnected then (false, s.nodeUnsetAgentBus n)
      else
        let s := s.modifyNode n fun node => { node with disconnectSlot := some bus }
        (true, (s.applyNode n nodeSendAgentSubscribeAll).applyNode n nodeStartProxyDependencyAll)

/-! ## Metrics -/

/-- `node_enable_metrics`. -/
def nodeEnableMetrics (fails : BusCall → Bool) (s : Controller) (n : NodeId) : Controller :=
  if nodeHasAgent (s.node n) then
    let s := s.sendAgent n .enableMetrics
    if fails .matchMetrics then s
    else s.modifyNode n fun node => { node with metricsMatchingSlot := node.agentBus }
  else s

/-- `node_disable_metrics`. -/
def nodeDisableMetrics (s : Controller) (n : NodeId) : Controller :=
  if nodeHasAgent (s.node n) then
    (s.sendAgent n .disableMetrics).modifyNode n fun node =>
      { node with metricsMatchingSlot := none }
  else s

/-! ## The status of the system -/

/-- `controller_get_system_status`. -/
def getSystemStatus (s : Controller) : String :=
  if s.numberOfNodesOnline = 0 then "down"
  else if s.numberOfNodesOnline = s.numberOfNodes then "up"
  else "degraded"

/-- `controller_check_system_status`. -/
def checkSystemStatus (s : Controller) (prev : ℤ) : Controller :=
  let diff := s.numberOfNodesOnline - prev
  if prev = 0 ∨ prev = s.numberOfNodes ∨ prev + diff = s.numberOfNodes ∨ prev + diff = 0 then
    s.emit (.systemStatus s.getSystemStatus)
  else s

/-- The post-increment or post-decrement in the argument of `controller_check_system_status`:
the function sees the new value and gets the old one. -/
def countOnline (s : Controller) (d : ℤ) : Controller :=
  { s with numberOfNodesOnline := s.numberOfNodesOnline + d }.checkSystemStatus
    s.numberOfNodesOnline

/-! ## Adding and removing nodes -/

/-- `node_new`, at the next free address. -/
def nodeAlloc (s : Controller) (name : Option String) : Controller :=
  { s.newRef (.node s.nextPtr) with
    node := Function.update s.node s.nextPtr (nodeNew name), nextPtr := s.nextPtr + 1 }

/-- `controller_add_node`. -/
def addNode (s : Controller) (name : Option String) : Controller :=
  let n := s.nextPtr
  let s := s.nodeAlloc name
  match name with
  | some _ => { s with numberOfNodes := s.numberOfNodes + 1, nodes := s.nodes ++ [n] }
  | none => { s with anonymousNodes := s.anonymousNodes ++ [n] }

/-- `node_shutdown`. -/
def nodeShutdown (s : Controller) (n : NodeId) : Controller :=
  (s.node n).outstandingRequests.foldl agentRequestCancel
    (s.modifyNode n fun node => { node with isShutdown := true })

/-- The first half of `controller_remove_node`. -/
def unlistNode (s : Controller) (n : NodeId) : Controller :=
  if (s.node n).name.isSome then
    { s.listRemove .nodes (n ∈ s.nodes) with
      numberOfNodes := s.numberOfNodes - 1, nodes := s.nodes.erase n }
  else
    { s.listRemove .anonymousNodes (n ∈ s.anonymousNodes) with
      anonymousNodes := s.anonymousNodes.erase n }

/-- `number_of_nodes_online--`. -/
def decOnline (s : Controller) : Controller :=
  { s with numberOfNodesOnline := s.numberOfNodesOnline - 1 }

/-- `controller_remove_node`. -/
def removeNode (s : Controller) (n : NodeId) : Controller :=
  let s := s.unlistNode n
  let s := if nodeIsOnline (s.node n) then (s.nodeShutdown n).decOnline else s
  s.nodeUnref n .creator

/-! ## Losing a connection -/

/-- One round of the job loop of `node_disconnect`: the job leaves the list, and nothing is
announced. -/
def dropJob (n : NodeId) (s : Controller) (job : Job) : Controller :=
  if s.nodeName job.node = s.nodeName n then (s.unlistJob job).jobUnref job.ptr .list else s

/-- `node_disconnect`. -/
def nodeDisconnect (s : Controller) (n : NodeId) : Controller :=
  let s := s.applyNode n nodeDisconnectUnits
  let s := (s.node n).proxyMonitors.foldl (fun s p => nodeRemoveProxyMonitor nodeUnref s n p) s
  if (s.node n).name = none then s.removeNode n
  else ((s.jobs.foldl (dropJob n) s).nodeUnsetAgentBus n).countOnline (-1)

/-! ## Connecting and registering -/

/-- The address of a new connection. -/
def busAlloc (s : Controller) : Controller := { s with nextPtr := s.nextPtr + 1 }

/-- `controller_accept_node_connection`; the new node and the connection are at the next two
free addresses. -/
def acceptNodeConnection (s : Controller) (peer : PeerInfo) (fails : BusCall → Bool) :
    Controller :=
  let n := s.nextPtr
  match (s.addNode none).busAlloc.nodeSetAgentBus n (n + 1) peer fails with
  | (true, s) => s
  | (false, s) => s.removeNode n

/-- Why `node_method_register` refuses the name, or the node of that name. -/
def registerTarget (s : Controller) (a : NodeId) (name : String) : Except String NodeId :=
  if (s.node a).name.isSome then .error "Can't register twice"
  else
    match s.findNode name with
    | none => .error "Unexpected node name"
    | some n =>
      if (s.node n).requiredSelinuxContext.isSome ∧
          (s.node a).peerSelinuxContext ≠ (s.node n).requiredSelinuxContext then
        .error "Node name not allowed"
      else if nodeHasAgent (s.node n) then .error "The node is already connected"
      else .ok n

/-- `node_method_register`: the anonymous node `a` registers as `name`. `peer` is what is found
out about the connection when it is stored in the named node. -/
def nodeMethodRegister (s : Controller) (a : NodeId) (serial : Serial) (name : String)
    (now nowMonotonic : UInt64) (peer : PeerInfo) (fails : BusCall → Bool) : Controller :=
  match s.registerTarget a name, (s.node a).agentBus with
  | .error message, _ => s.emit (.replyError serial message)
  | .ok _, none => s
  | .ok n, some bus =>
    let s := s.modifyNode n fun node =>
      { node with lastSeen := now, lastSeenMonotonic := nowMonotonic }
    match s.nodeSetAgentBus n bus peer fails with
    | (false, s) => s.emit (.replyError serial "Internal error: Couldn't set agent bus")
    | (true, s) =>
      let s := if s.metricsEnabled then s.nodeEnableMetrics fails n else s
      ((s.nodeUnsetAgentBus a).countOnline 1).emit (.reply serial .empty)

/-! ## Heartbeats -/

/-- `node_match_heartbeat`, when both clocks can be read. -/
def nodeMatchHeartbeat (s : Controller) (n : NodeId) (now nowMonotonic : UInt64) : Controller :=
  s.modifyNode n fun node => { node with lastSeen := now, lastSeenMonotonic := nowMonotonic }

/-- The comparison in `controller_check_node_liveness`: whether the agent is given up. -/
def livenessExpired (s : Controller) (n : NodeId) (now : UInt64) : Bool :=
  !(s.heartbeatThresholdMsec ≤ 0) && !(now = 0) && !(now < (s.node n).lastSeenMonotonic) &&
    (now - (s.node n).lastSeenMonotonic > UInt64.ofNat s.heartbeatThresholdMsec.toNat * 1000)

/-- One round of the loop of `controller_heartbeat_timer_callback`, with
`controller_check_node_liveness`. -/
def checkNode (now : UInt64) (s : Controller) (n : NodeId) : Controller :=
  if nodeIsOnline (s.node n) then
    if s.livenessExpired n now then s.nodeDisconnect n else s.sendAgent n .heartbeat
  else s

/-- `controller_heartbeat_timer_callback`. -/
def heartbeatTimerCallback (s : Controller) (now : UInt64) : Controller :=
  s.nodes.foldl (checkNode now) s

end Controller
end BlueChi
