import Mathlib.Logic.Function.Basic
import Mathlib.Tactic.Simps.Basic
import Mathlib.Algebra.Order.Ring.Int
import BlueChi.Library.RefCount
import BlueChi.Library.Hashmap
import BlueChi.BusUtils
import BlueChi.Agent.Jobs

/-!
# The controller's state

Objects that other objects point to and that change are kept in heaps, indexed by the pointer.
A subscription does not change after it was made and a job is pointed to by one list only:
these are values that carry their pointer, so comparing the values is comparing the pointers.

What the controller sends on its buses is appended to `log`, and each `LIST_REMOVE` and each
dropped reference to `mem`. No function of the controller reads the two, nor the owners of the
references.
-/

namespace BlueChi

abbrev NodeId := ℕ
abbrev MonitorId := ℕ
abbrev ProxyMonitorId := ℕ
abbrev RequestId := ℕ
abbrev FleetId := ℕ

/-! ## Subscriptions and monitors -/

/-- `Subscription.monitor`, with the handler functions that go with it. -/
inductive MonitorRef
  | client (m : MonitorId)
  | proxy (p : ProxyMonitorId)
  deriving DecidableEq

/-- `struct Subscription`: `units` are the names of its `subscribed_units`. -/
structure Subscription where
  ptr : ℕ
  id : UInt32
  monitor : MonitorRef
  node : String
  units : List String
  deriving DecidableEq

structure MonitorPeer where
  id : UInt32
  name : String
  deriving DecidableEq

/-- `struct Monitor`. `exportSlot` tells whether the object is on the bus. -/
structure Monitor where
  id : UInt32
  owner : String
  peers : List MonitorPeer
  exportSlot : Bool
  subscriptions : List Subscription

/-- `struct ProxyMonitor`. -/
structure ProxyMonitor where
  node : NodeId
  subscription : Subscription
  addedDep : Bool
  unitName : String
  targetNode : Option NodeId
  proxyObjectPath : String

/-! ## Jobs and requests -/

/-- `struct Job`. -/
structure Job where
  ptr : ℕ
  node : NodeId
  state : JobState
  id : UInt32
  type : String
  unit : String
  jobStartMicros : UInt64
  jobEndMicros : UInt64
  deriving DecidableEq

/-- The answer of an agent to a request: an error message or the rows of its reply. -/
abbrev AgentAnswer := Except String (List String)

/-- The callback of an `AgentRequest` with its `userdata`. `lifecycle` stands for a `JobSetup`,
whose references are the one of the request. -/
inductive RequestHandler
  | lifecycle (requestMessage : Serial) (job : Job)
  | forward (requestMessage : Serial)
  | jobCancel (requestMessage : Serial)
  | fleet (f : FleetId)
  deriving DecidableEq

/-- `struct AgentRequest`. -/
structure AgentRequest where
  node : NodeId
  handler : RequestHandler
  isCancelled : Bool

/-- One slot of `sub_req`. -/
structure SubRequest where
  node : NodeId
  agentReq : RequestId
  m : Option AgentAnswer

/-- `AgentFleetRequest`. `n_sub_req` is the length of `subReq`, and `slots` the number of
slots allocated. -/
structure AgentFleetRequest where
  requestMessage : Serial
  nDone : ℕ
  slots : ℤ
  subReq : List SubRequest

/-! ## Nodes -/

structure ProxyDependency where
  unitName : String
  nDeps : ℤ
  deriving DecidableEq

/-- `UnitSubscriptions`, an item of the hash map `unit_subscriptions`. -/
structure UnitSubscriptions where
  unit : String
  subs : List Subscription
  loaded : Bool
  activeState : UnitActiveState
  substate : Option String
  deriving DecidableEq

/-- `struct Node`. The slots are given by the bus they are registered on. -/
structure Node where
  name : Option String
  requiredSelinuxContext : Option String
  agentBus : Option BusId
  internalControllerSlot : Option BusId
  disconnectSlot : Option BusId
  metricsMatchingSlot : Option BusId
  peerIp : Option String
  peerSelinuxContext : Option String
  outstandingRequests : List RequestId
  proxyMonitors : List ProxyMonitorId
  proxyDependencies : List ProxyDependency
  allowedProxyTargets : List String
  unitSubscriptions : List UnitSubscriptions
  lastSeen : UInt64
  lastSeenMonotonic : UInt64
  isShutdown : Bool

/-- `node_new`. -/
def nodeNew (name : Option String) : Node where
  name := name
  requiredSelinuxContext := none
  agentBus := none
  internalControllerSlot := none
  disconnectSlot := none
  metricsMatchingSlot := none
  peerIp := none
  peerSelinuxContext := none
  outstandingRequests := []
  proxyMonitors := []
  proxyDependencies := []
  allowedProxyTargets := []
  unitSubscriptions := []
  lastSeen := 0
  lastSeenMonotonic := 0
  isShutdown := false

/-- The fields of a node that come and go with its connection, but for the match on the metrics
and the address of the peer. -/
structure NodeLink where
  agentBus : Option BusId
  internalControllerSlot : Option BusId
  disconnectSlot : Option BusId
  peerSelinuxContext : Option String
  deriving DecidableEq

def Node.link (node : Node) : NodeLink :=
  ⟨node.agentBus, node.internalControllerSlot, node.disconnectSlot, node.peerSelinuxContext⟩

/-- What a node without a connection has. -/
def NodeLink.down : NodeLink := ⟨none, none, none, none⟩

/-- `node->object_path` of a named node. -/
def nodeObjectPath (name : String) : String :=
  assembleObjectPathString "/org/eclipse/bluechi/node" name

/-- `node_has_agent`. -/
def nodeHasAgent (node : Node) : Bool := node.agentBus.isSome

/-- `node_get_status`. -/
def nodeGetStatus (node : Node) : String := if nodeHasAgent node then "online" else "offline"

/-- `node_is_online`. -/
def nodeIsOnline (node : Node) : Bool := node.name.isSome && nodeHasAgent node

/-! ## Messages of the controller -/

/-- What a client monitor sends to its owner and its peers. -/
inductive MonitorSignal
  | unitNew (node unit reason : String)
  | unitStateChanged (node unit activeState substate reason : String)
  | unitRemoved (node unit reason : String)
  | unitPropertiesChanged (node unit interface : String) (properties : Properties)
  | peerRemoved (reason : String)
  deriving DecidableEq

/-- The calls and signals sent to an agent. Those that expect a reply name the request, or the
proxy monitor, whose callback waits for it. -/
inductive AgentCall
  | subscribe (unit : String)
  | unsubscribe (unit : String)
  | startDep (unit : String)
  | stopDep (unit : String)
  | enableMetrics
  | disableMetrics
  | heartbeat
  | lifecycle (req : RequestId) (method : LifecycleMethod) (unit mode : String) (jobId : UInt32)
  | jobCancel (req : RequestId) (jobId : UInt32)
  | request (req : RequestId) (method : String)
  | proxyError (p : ProxyMonitorId) (path message : String)
  | proxyTargetNew (p : ProxyMonitorId) (path reason : String)
  | proxyTargetStateChanged (p : ProxyMonitorId) (path activeState substate reason : String)
  | proxyTargetRemoved (p : ProxyMonitorId) (path reason : String)
  deriving DecidableEq

/-- The content of a reply to a client. -/
inductive ReplyBody
  | empty
  | objectPath (path : String)
  | id (id : UInt32)
  | rows (rows : List String)
  | nodeRows (rows : List (String × List String))
  deriving DecidableEq

/-- What the controller sends: on the API bus, and on the connections of the agents. A changed
property is sent with the value that it has when the signal is made. -/
inductive Output
  | jobNew (job : Job)
  | jobRemoved (job : Job) (node result : String)
  | jobState (job : Job)
  | nodeStatus (node : NodeId) (status : String)
  | systemStatus (status : String)
  | startUnitJobMetrics (job : Job) (jobMeasuredTimeMicros unitNetStartTimeMicros : UInt64)
  | monitorSignal (m : MonitorId) (dest : String) (sig : MonitorSignal)
  | reply (serial : Serial) (body : ReplyBody)
  | replyError (serial : Serial) (message : String)
  | toAgent (bus : BusId) (node : NodeId) (call : AgentCall)
  deriving DecidableEq

/-- What a message is about. -/
inductive OutputKind
  | job | status | system | notice | reply | table | dependency | request | metrics | heartbeat
  | report
  deriving DecidableEq, Repr

def AgentCall.kind : AgentCall → OutputKind
  | .subscribe _ => .table
  | .unsubscribe _ => .table
  | .startDep _ => .dependency
  | .stopDep _ => .dependency
  | .enableMetrics => .metrics
  | .disableMetrics => .metrics
  | .heartbeat => .heartbeat
  | .lifecycle .. => .request
  | .jobCancel .. => .request
  | .request .. => .request
  | .proxyError .. => .notice
  | .proxyTargetNew .. => .notice
  | .proxyTargetStateChanged .. => .notice
  | .proxyTargetRemoved .. => .notice

def Output.kind : Output → OutputKind
  | .jobNew _ => .job
  | .jobRemoved .. => .job
  | .jobState _ => .status
  | .nodeStatus .. => .status
  | .systemStatus _ => .system
  | .startUnitJobMetrics .. => .report
  | .monitorSignal .. => .notice
  | .reply .. => .reply
  | .replyError .. => .reply
  | .toAgent _ _ call => call.kind

/-! ## References and lists -/

/-- The objects with a `ref_count`. -/
inductive Obj
  | node (n : NodeId)
  | request (r : RequestId)
  | proxyMonitor (p : ProxyMonitorId)
  | subscription (ptr : ℕ)
  | monitor (m : MonitorId)
  | job (ptr : ℕ)
  deriving DecidableEq

/-- The holders of references. `creator` holds the one that an object is made with. -/
inductive Owner
  | creator
  | list
  | allSubscriptions
  | pending
  | call
  | handler
  | request (r : RequestId)
  | proxyMonitor (p : ProxyMonitorId)
  | subscription (ptr : ℕ)
  | fleet (f : FleetId)
  deriving DecidableEq

/-- The lists that elements are removed from with `LIST_REMOVE`. -/
inductive ListName
  | jobs
  | allSubscriptions
  | monitors
  | nodes
  | anonymousNodes
  | proxyMonitors (n : NodeId)
  | outstandingRequests (n : NodeId)
  | subscriptions (m : MonitorId)
  deriving DecidableEq

/-- A `LIST_REMOVE` of an element that was a member or was not, or a dropped reference with the
count it leaves. -/
inductive MemEvent
  | listRemove (list : ListName) (member : Bool)
  | unref (obj : Obj) (count : ℤ)
  deriving DecidableEq

/-! ## Signal matches -/

/-- The agent signals that a named node listens to. -/
inductive AgentMember
  | jobDone | jobStateChanged | unitPropertiesChanged | unitNew | unitStateChanged | unitRemoved
  | proxyNew | proxyRemoved | heartbeat
  deriving DecidableEq, Repr

/-- A signal match on a connection. Its slot is floating, so it stays with the connection. -/
structure Match where
  bus : BusId
  node : NodeId
  member : AgentMember
  deriving DecidableEq

/-! ## The controller -/

/-- `struct Controller`, with the heaps and what sd-bus keeps for it: the exported job paths,
the signal matches, the requests and the proxy calls whose replies are outstanding. `mem`,
`startedRequests`, `callbacks` and `freedFleets` record what has happened to the lists, the references
and the requests. -/
structure Controller where
  nodes : List NodeId
  anonymousNodes : List NodeId
  numberOfNodes : ℤ
  numberOfNodesOnline : ℤ
  jobs : List Job
  monitors : List MonitorId
  allSubscriptions : List Subscription
  metricsEnabled : Bool
  heartbeatThresholdMsec : ℤ
  node : NodeId → Node
  monitor : MonitorId → Monitor
  proxyMonitor : ProxyMonitorId → ProxyMonitor
  request : RequestId → AgentRequest
  fleet : FleetId → AgentFleetRequest
  refs : Obj → RefCount Owner
  exportedJobs : List (ℕ × UInt32)
  signalMatches : List Match
  pendingRequests : List RequestId
  proxyCalls : List ProxyMonitorId
  nextPtr : ℕ
  nextJobId : UInt32
  nextSubscriptionId : UInt32
  nextMonitorId : UInt32
  nextPeerId : UInt32
  stopped : Bool
  log : List Output
  mem : List MemEvent
  startedRequests : List RequestId
  callbacks : List RequestId
  freedFleets : List FleetId

namespace Controller

/-! ## Basic steps -/

/-- Send a message. -/
@[simps -fullyApplied] def emit (s : Controller) (o : Output) : Controller := { s with log := s.log ++ [o] }

/-- Change the fields of a node. -/
@[simps -fullyApplied] def modifyNode (s : Controller) (n : NodeId) (f : Node → Node) : Controller :=
  { s with node := Function.update s.node n (f (s.node n)) }

/-- Change the fields of a monitor. -/
@[simps -fullyApplied] def modifyMonitor (s : Controller) (m : MonitorId) (f : Monitor → Monitor) : Controller :=
  { s with monitor := Function.update s.monitor m (f (s.monitor m)) }

/-- Change the fields of a proxy monitor. -/
@[simps -fullyApplied] def modifyProxyMonitor (s : Controller) (p : ProxyMonitorId) (f : ProxyMonitor → ProxyMonitor) :
    Controller :=
  { s with proxyMonitor := Function.update s.proxyMonitor p (f (s.proxyMonitor p)) }

/-- Change the fields of a request. -/
@[simps -fullyApplied] def modifyRequest (s : Controller) (r : RequestId) (f : AgentRequest → AgentRequest) :
    Controller :=
  { s with request := Function.update s.request r (f (s.request r)) }

/-- Change the fields of a fleet request. -/
@[simps -fullyApplied] def modifyFleet (s : Controller) (q : FleetId) (f : AgentFleetRequest → AgentFleetRequest) :
    Controller :=
  { s with fleet := Function.update s.fleet q (f (s.fleet q)) }

/-- A new object: its only reference is the creator's. -/
@[simps -fullyApplied] def newRef (s : Controller) (obj : Obj) : Controller :=
  { s with refs := Function.update s.refs obj (RefCount.new .creator) }

/-- `ref_count++`. -/
@[simps -fullyApplied] def takeRef (s : Controller) (obj : Obj) (o : Owner) : Controller :=
  { s with refs := Function.update s.refs obj ((s.refs obj).ref o) }

/-- `ref_count--`. -/
@[simps -fullyApplied] def dropRef (s : Controller) (obj : Obj) (o : Owner) : Controller :=
  { s with
    refs := Function.update s.refs obj ((s.refs obj).unref o)
    mem := s.mem ++ [.unref obj ((s.refs obj).count - 1)] }

/-- The object has just lost its last reference. -/
def isFreed (s : Controller) (obj : Obj) : Bool := (s.refs obj).count = 0

theorem isFreed_iff {s : Controller} {obj : Obj} :
    s.isFreed obj = true ↔ (s.refs obj).count = 0 := by
  simp [isFreed]

/-- Record a `LIST_REMOVE`. -/
@[simps -fullyApplied] def listRemove (s : Controller) (list : ListName) (member : Bool) : Controller :=
  { s with mem := s.mem ++ [.listRemove list member] }

/-- Record that the callback of a request runs. -/
@[simps -fullyApplied] def runCallback (s : Controller) (r : RequestId) : Controller :=
  { s with callbacks := s.callbacks ++ [r] }

/-- Record that a fleet request is freed. -/
@[simps -fullyApplied] def freeFleet (s : Controller) (q : FleetId) : Controller :=
  { s with freedFleets := s.freedFleets ++ [q] }

/-- Send a call to the agent of a node, if there is one. -/
def sendAgent (s : Controller) (n : NodeId) (call : AgentCall) : Controller :=
  match (s.node n).agentBus with
  | none => s
  | some bus => s.emit (.toAgent bus n call)

/-- The name of a node; only named nodes are asked for it. -/
def nodeName (s : Controller) (n : NodeId) : String := (s.node n).name.getD ""

/-- `controller_find_node`. -/
def findNode (s : Controller) (name : String) : Option NodeId :=
  s.nodes.find? fun n => (s.node n).name = some name

/-! ## What is sent -/

/-- From `s` to `s'` only messages of the given kinds are sent. -/
def Emits (kinds : List OutputKind) (s s' : Controller) : Prop :=
  ∃ l, s'.log = s.log ++ l ∧ ∀ o ∈ l, o.kind ∈ kinds

namespace Emits

variable {kinds : List OutputKind} {s s' s'' : Controller}

theorem of_log_eq (h : s'.log = s.log) : Emits kinds s s' := ⟨[], by simp [h], by simp⟩

theorem refl (kinds : List OutputKind) (s : Controller) : Emits kinds s s := of_log_eq rfl

theorem trans (h : Emits kinds s s') (h' : Emits kinds s' s'') : Emits kinds s s'' := by
  obtain ⟨l, hl, hk⟩ := h
  obtain ⟨l', hl', hk'⟩ := h'
  refine ⟨l ++ l', by rw [hl', hl, List.append_assoc], fun o ho => ?_⟩
  rcases List.mem_append.mp ho with ho | ho
  · exact hk o ho
  · exact hk' o ho

theorem mono {kinds' : List OutputKind} (h : Emits kinds s s') (hsub : kinds ⊆ kinds') :
    Emits kinds' s s' := by
  obtain ⟨l, hl, hk⟩ := h
  exact ⟨l, hl, fun o ho => hsub (hk o ho)⟩

/-- What is read off the messages of another kind stays the same. -/
theorem filterMap_eq {β : Type} {f : Output → Option β} (h : Emits kinds s s')
    (hf : ∀ o, o.kind ∈ kinds → f o = none) : s'.log.filterMap f = s.log.filterMap f := by
  obtain ⟨l, hl, hk⟩ := h
  rw [hl, List.filterMap_append, List.filterMap_eq_nil_iff.mpr fun o ho => hf o (hk o ho),
    List.append_nil]

end Emits

theorem emits_emit {kinds : List OutputKind} (s : Controller) {o : Output}
    (ho : o.kind ∈ kinds) : Emits kinds s (s.emit o) := ⟨[o], rfl, by simpa using ho⟩

theorem emits_sendAgent {kinds : List OutputKind} (s : Controller) (n : NodeId)
    {call : AgentCall} (h : call.kind ∈ kinds) : Emits kinds s (s.sendAgent n call) := by
  unfold sendAgent
  split
  · exact .refl _ s
  · exact emits_emit s h

end Controller

end BlueChi
