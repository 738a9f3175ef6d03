import BlueChi.Library.Execution
import BlueChi.Controller.Monitors

/-!
# Runs of the controller

The events that the event loop of the controller hands out, and the system they drive from the
state that the configuration sets up. An event is enabled when its handler is installed: a
signal needs its match, a method call an exported object, an answer an outstanding call. Which
calls of sd-bus fail, what the clocks show and what agents and clients send is part of the
event.
-/

namespace BlueChi

/-! ## Events -/

/-- The signals of an agent that a named node listens to. -/
inductive NodeSignal
  | jobDone (id : UInt32) (result : String) (now : UInt64) (sync : SyncCalls)
  | jobStateChanged (id : UInt32) (state : String)
  | unitPropertiesChanged (unit interface : String) (properties : Properties)
  | unitNew (unit reason : String)
  | unitStateChanged (unit activeState substate reason : String)
  | unitRemoved (unit : String)
  | proxyNew (targetNodeName unitName proxyObjectPath : String)
  | proxyRemoved (targetNodeName unitName : String)
  | heartbeat (now nowMonotonic : UInt64)

/-- The match that a signal needs. -/
def NodeSignal.member : NodeSignal → AgentMember
  | .jobDone .. => .jobDone
  | .jobStateChanged .. => .jobStateChanged
  | .unitPropertiesChanged .. => .unitPropertiesChanged
  | .unitNew .. => .unitNew
  | .unitStateChanged .. => .unitStateChanged
  | .unitRemoved .. => .unitRemoved
  | .proxyNew .. => .proxyNew
  | .proxyRemoved .. => .proxyRemoved
  | .heartbeat .. => .heartbeat

inductive Event
  | accept (peer : PeerInfo) (fails : BusCall → Bool)
  | register (a : NodeId) (serial : Serial) (name : String) (now nowMonotonic : UInt64)
      (peer : PeerInfo) (fails : BusCall → Bool)
  | disconnected (n : NodeId)
  | heartbeatTimer (now : UInt64)
  | agentSignal (bus : BusId) (n : NodeId) (sig : NodeSignal)
  | agentReply (r : RequestId) (m : AgentAnswer)
  | proxyReply (p : ProxyMonitorId)
  | lifecycle (n : NodeId) (serial : Serial) (method : LifecycleMethod) (unit mode : String)
      (startTime : UInt64) (started : Bool)
  | forward (n : NodeId) (serial : Serial) (method failure : String) (started : Bool)
  | jobCancel (id : UInt32) (serial : Serial) (started : Bool)
  | fleet (serial : Serial) (method : String) (starts : NodeId → Bool)
  | createMonitor (serial : Serial) (owner : String) (exported : Bool)
  | subscribe (m : MonitorId) (serial : Serial) (node : String) (units : List String)
  | unsubscribe (m : MonitorId) (serial : Serial) (subId : UInt32)
  | addPeer (m : MonitorId) (serial : Serial) (name : String)
  | removePeer (m : MonitorId) (serial : Serial) (peerId : UInt32) (reason : String)
  | closeMonitor (m : MonitorId) (serial : Serial)
  | nameOwnerChanged (name newOwner : String)
  | enableMetrics (serial : Serial) (exported : Bool) (fails : BusCall → Bool)
  | disableMetrics (serial : Serial)
  | stop (sync : SyncCalls)

namespace Controller

/-! ## Steps -/

/-- The handlers of the signals. -/
def onSignal (s : Controller) (n : NodeId) : NodeSignal → Controller
  | .jobDone id result now sync => s.finishJob sync id result now
  | .jobStateChanged id state => s.jobStateChanged id state
  | .unitPropertiesChanged unit interface properties =>
    s.applyNode n (nodeMatchUnitPropertiesChanged unit interface properties)
  | .unitNew unit reason => s.applyNode n (nodeMatchUnitNew unit reason)
  | .unitStateChanged unit activeState substate reason =>
    s.applyNode n (nodeMatchUnitStateChanged unit activeState substate reason)
  | .unitRemoved unit => s.applyNode n (nodeMatchUnitRemoved unit)
  | .proxyNew targetNodeName unitName proxyObjectPath =>
    s.nodeOnMatchProxyNew n targetNodeName unitName proxyObjectPath
  | .proxyRemoved targetNodeName unitName => s.nodeOnMatchProxyRemoved n targetNodeName unitName
  | .heartbeat now nowMonotonic => s.nodeMatchHeartbeat n now nowMonotonic

/-- `s'`, when the event is enabled. -/
def whenever (c : Prop) [Decidable c] (s' : Controller) : Option Controller :=
  if c then some s' else none

/-- The handler of each event. -/
def handle (s : Controller) : Event → Option Controller
  | .accept peer fails => some (s.acceptNodeConnection peer fails)
  | .register a serial name now nowMonotonic peer fails =>
    whenever ((s.node a).internalControllerSlot.isSome = true)
      (s.nodeMethodRegister a serial name now nowMonotonic peer fails)
  | .disconnected n =>
    whenever ((s.node n).disconnectSlot.isSome = true) (s.nodeDisconnect n)
  | .heartbeatTimer now => some (s.heartbeatTimerCallback now)
  | .agentSignal bus n sig =>
    whenever (⟨bus, n, sig.member⟩ ∈ s.signalMatches) (s.onSignal n sig)
  | .agentReply r m => s.agentRequestCallback r m
  | .proxyReply p => s.proxyMonitorCallback p
  | .lifecycle n serial method unit mode startTime started =>
    whenever (n ∈ s.nodes)
      (s.nodeRunUnitLifecycleMethod n serial method unit mode startTime started)
  | .forward n serial method failure started =>
    whenever (n ∈ s.nodes) (s.nodeMethodForward n serial method failure started)
  | .jobCancel id serial started =>
    (s.jobs.find? fun job => job.id = id).map fun job => s.jobMethodCancel job serial started
  | .fleet serial method starts => some (s.agentFleetRequestStart serial method starts)
  | .createMonitor serial owner exported => some (s.createMonitor serial owner exported)
  | .subscribe m serial node units =>
    whenever ((s.monitor m).exportSlot = true) (s.monitorMethodSubscribe m serial node units)
  | .unsubscribe m serial subId =>
    whenever ((s.monitor m).exportSlot = true) (s.monitorMethodUnsubscribe m serial subId)
  | .addPeer m serial name =>
    whenever ((s.monitor m).exportSlot = true) (s.monitorMethodAddPeer m serial name)
  | .removePeer m serial peerId reason =>
    whenever ((s.monitor m).exportSlot = true) (s.monitorMethodRemovePeer m serial peerId reason)
  | .closeMonitor m serial =>
    whenever ((s.monitor m).exportSlot = true) (s.monitorMethodClose m serial)
  | .nameOwnerChanged name newOwner => some (s.nameOwnerChanged name newOwner)
  | .enableMetrics serial exported fails => some (s.methodMetricsEnable serial exported fails)
  | .disableMetrics serial => some (s.methodMetricsDisable serial)
  | .stop sync => some (s.controllerStop sync)

/-- No event is handled after the controller has stopped. -/
def step (s : Controller) (e : Event) : Option Controller :=
  if s.stopped then none else s.handle e

lemma whenever_eq_some_iff {c : Prop} [Decidable c] {s' t : Controller} :
    whenever c t = some s' ↔ c ∧ t = s' := by
  unfold whenever
  split <;> simp_all

lemma step_eq_some_iff {s s' : Controller} {e : Event} :
    s.step e = some s' ↔ s.stopped = false ∧ s.handle e = some s' := by
  unfold step
  split <;> simp_all

/-- A signal is handled when its match is there. -/
lemma step_agentSignal_iff {s s' : Controller} {bus : BusId} {n : NodeId} {sig : NodeSignal} :
    s.step (.agentSignal bus n sig) = some s' ↔
      s.stopped = false ∧ ⟨bus, n, sig.member⟩ ∈ s.signalMatches ∧ s.onSignal n sig = s' := by
  rw [step_eq_some_iff, handle, whenever_eq_some_iff]

/-! ## Start -/

/-- `controller_new`; address 0 is the null pointer. -/
def controllerNew : Controller where
  nodes := []
  anonymousNodes := []
  numberOfNodes := 0
  numberOfNodesOnline := 0
  jobs := []
  monitors := []
  allSubscriptions := []
  metricsEnabled := false
  heartbeatThresholdMsec := 0
  node _ := nodeNew none
  monitor _ := ⟨0, "", [], false, []⟩
  proxyMonitor _ := ⟨0, ⟨0, 0, .proxy 0, "", []⟩, false, "", none, ""⟩
  request _ := ⟨0, .forward 0, false⟩
  fleet _ := ⟨0, 0, 0, []⟩
  refs _ := .free
  exportedJobs := []
  signalMatches := []
  pendingRequests := []
  proxyCalls := []
  nextPtr := 1
  nextJobId := 0
  nextSubscriptionId := 1
  nextMonitorId := 0
  nextPeerId := 0
  stopped := false
  log := []
  mem := []
  startedRequests := []
  callbacks := []
  freedFleets := []

/-- What the configuration says about a node. -/
structure NodeConfig where
  name : String
  requiredSelinuxContext : Option String
  allowedProxyTargets : List String

/-- What `controller_apply_config` does for a node: add it unless there is one of that name,
then set its context and its proxy targets. -/
def applyNodeConfig (s : Controller) (cfg : NodeConfig) : Controller :=
  let found := s.findNode cfg.name
  let n := found.getD s.nextPtr
  let s := if found.isSome then s else s.addNode (some cfg.name)
  s.modifyNode n fun node =>
    { node with
      requiredSelinuxContext := cfg.requiredSelinuxContext.or node.requiredSelinuxContext
      allowedProxyTargets := node.allowedProxyTargets ++ cfg.allowedProxyTargets }

/-- The controller after `controller_apply_config`. -/
def start (threshold : ℤ) (cfgs : List NodeConfig) : Controller :=
  cfgs.foldl applyNodeConfig { controllerNew with heartbeatThresholdMsec := threshold }

/-- The runs of the controller under any configuration. -/
def system : Execution.System Controller Event where
  init s := ∃ threshold cfgs, s = start threshold cfgs
  step := step

end Controller
end BlueChi
