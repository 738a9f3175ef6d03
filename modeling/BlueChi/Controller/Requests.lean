import BlueChi.Controller.Jobs

/-!
# Requests to agents

A request is held by the handler that makes it, or by the fleet request it is part of, and by
the call that waits for the agent's answer. The unit lifecycle methods make a job together with
the request, and list it when the agent has accepted.
-/

namespace BlueChi
namespace Controller

/-! ## References -/

/-- What `free_userdata` does: a `JobSetup` holds the reference its job was made with. -/
def freeUserdata (s : Controller) : RequestHandler → Controller
  | .lifecycle _ job => s.jobUnref job.ptr .creator
  | _ => s

/-- `LIST_REMOVE` from the outstanding requests of the request's node; the slot is gone. -/
@[simps -fullyApplied] def unlistRequest (s : Controller) (r : RequestId) : Controller :=
  let n := (s.request r).node
  { (s.listRemove (.outstandingRequests n) (r ∈ (s.node n).outstandingRequests)).modifyNode n
      fun node => { node with outstandingRequests := node.outstandingRequests.erase r } with
    pendingRequests := s.pendingRequests.erase r }

/-- `agent_request_unref`. -/
def agentRequestUnref (s : Controller) (r : RequestId) (o : Owner) : Controller :=
  let s := s.dropRef (.request r) o
  if s.isFreed (.request r) then
    ((s.freeUserdata (s.request r).handler).unlistRequest r).nodeUnref (s.request r).node
      (.request r)
  else s

/-! ## Making and starting -/

/-- `node_create_request`, at the next free address. -/
@[simps -fullyApplied] def nodeCreateRequest (s : Controller) (n : NodeId) (handler : RequestHandler) : Controller :=
  let r := s.nextPtr
  { ((s.newRef (.request r)).takeRef (.node n) (.request r)).modifyNode n
      fun node => { node with outstandingRequests := node.outstandingRequests ++ [r] } with
    request := Function.update s.request r ⟨n, handler, false⟩
    nextPtr := r + 1 }

/-- `agent_request_start`, when the call can be sent. -/
@[simps -fullyApplied] def agentRequestStart (s : Controller) (r : RequestId) (call : AgentCall) : Controller :=
  { (s.sendAgent (s.request r).node call).takeRef (.request r) .pending with
    pendingRequests := s.pendingRequests ++ [r]
    startedRequests := s.startedRequests ++ [r] }

/-- Make a request and start it; `started` tells whether the call can be sent. The handler
drops its reference in both cases, and replies with an error when the start failed. -/
def runRequest (s : Controller) (n : NodeId) (serial : Serial) (handler : RequestHandler)
    (call : RequestId → AgentCall) (started : Bool) (failure : String) : Controller :=
  let r := s.nextPtr
  let s := s.nodeCreateRequest n handler
  if started then (s.agentRequestStart r (call r)).agentRequestUnref r .creator
  else (s.emit (.replyError serial failure)).agentRequestUnref r .creator

/-! ## Fleet requests -/

/-- The encode functions of the fleet requests. A failed answer makes the whole reply an error;
the text of its error number is left out. -/
def encodeReply (s : Controller) : List SubRequest → Except String (List (String × List String))
  | [] => .ok []
  | sub :: subs =>
    match sub.m with
    | none => encodeReply s subs
    | some (.error _) => .error "Request to at least one node failed"
    | some (.ok rows) => (encodeReply s subs).map fun reply => (s.nodeName sub.node, rows) :: reply

/-- `agent_fleet_request_free`. -/
def agentFleetRequestFree (s : Controller) (q : FleetId) : Controller :=
  (s.fleet q).subReq.foldl
    (fun s sub => (s.nodeUnref sub.node (.fleet q)).agentRequestUnref sub.agentReq .creator)
    (s.freeFleet q)

/-- `agent_fleet_request_done`. -/
def agentFleetRequestDone (s : Controller) (q : FleetId) : Controller :=
  let serial := (s.fleet q).requestMessage
  let s := match s.encodeReply (s.fleet q).subReq with
    | .error message => s.emit (.replyError serial message)
    | .ok rows => s.emit (.reply serial (.nodeRows rows))
  s.agentFleetRequestFree q

/-- `agent_fleet_request_maybe_done`. -/
def agentFleetRequestMaybeDone (s : Controller) (q : FleetId) : Controller :=
  if (s.fleet q).nDone = (s.fleet q).subReq.length then s.agentFleetRequestDone q else s

/-- The first slot of the request takes the answer, and one more is done. -/
def AgentFleetRequest.answer (fleet : AgentFleetRequest) (r : RequestId) (m : AgentAnswer) :
    AgentFleetRequest :=
  let i := fleet.subReq.findIdx fun sub => sub.agentReq = r
  { fleet with
    nDone := fleet.nDone + 1
    subReq := fleet.subReq.modify i fun sub => { sub with m := some m } }

/-- `agent_fleet_request_callback`. -/
def agentFleetRequestCallback (s : Controller) (q : FleetId) (r : RequestId) (m : AgentAnswer) :
    Controller :=
  (s.modifyFleet q fun fleet => AgentFleetRequest.answer fleet r m).agentFleetRequestMaybeDone q

/-- A slot of `sub_req` is filled. -/
def appendSubRequest (s : Controller) (q : FleetId) (n : NodeId) (r : RequestId) : Controller :=
  (s.takeRef (.node n) (.fleet q)).modifyFleet q fun fleet =>
    { fleet with subReq := fleet.subReq ++ [⟨n, r, none⟩] }

/-- One round of the loop of `agent_fleet_request_start`. -/
def startSubRequest (q : FleetId) (method : String) (starts : NodeId → Bool) (s : Controller)
    (n : NodeId) : Controller :=
  if nodeHasAgent (s.node n) then
    let r := s.nextPtr
    let s := s.nodeCreateRequest n (.fleet q)
    if starts n then (s.agentRequestStart r (.request r method)).appendSubRequest q n r
    else s.agentRequestUnref r .creator
  else s

/-- `agent_fleet_request_start`; `starts` tells which calls can be sent. -/
def agentFleetRequestStart (s : Controller) (serial : Serial) (method : String)
    (starts : NodeId → Bool) : Controller :=
  let q := s.nextPtr
  let s := { s with
    fleet := Function.update s.fleet q ⟨serial, 0, s.numberOfNodes, []⟩
    nextPtr := q + 1 }
  (s.nodes.foldl (startSubRequest q method starts) s).agentFleetRequestMaybeDone q

/-! ## Answers of the agents -/

/-- The callback of a request. When the job cannot be added, the error reply goes to the
agent's answer, which is no call, so nothing is sent. -/
def requestCallback (s : Controller) (r : RequestId) (m : AgentAnswer) : Controller :=
  match (s.request r).handler, m with
  | .lifecycle serial _, .error message => s.emit (.replyError serial message)
  | .lifecycle serial job, .ok _ =>
    match s.addJob job with
    | (false, s) => s
    | (true, s) => s.emit (.reply serial (.objectPath (jobObjectPath job)))
  | .forward serial, .error message => s.emit (.replyError serial message)
  | .forward serial, .ok rows => s.emit (.reply serial (.rows rows))
  | .jobCancel _, _ => s
  | .fleet q, m => s.agentFleetRequestCallback q r m

/-- `agent_request_callback`: the answer of the agent, or the timeout of the call, arrives. -/
def agentRequestCallback (s : Controller) (r : RequestId) (m : AgentAnswer) : Option Controller :=
  if r ∈ s.pendingRequests then
    let s := { s with pendingRequests := s.pendingRequests.erase r }
    let s := if (s.request r).isCancelled then s else (s.runCallback r).requestCallback r m
    some (s.agentRequestUnref r .pending)
  else none

/-- `agent_request_cancel`. -/
def agentRequestCancel (s : Controller) (r : RequestId) : Controller :=
  let s := (s.modifyRequest r fun req => { req with isCancelled := true }).runCallback r
  (s.requestCallback r (.error "Request cancelled")).agentRequestUnref r .pending

/-! ## Methods of the node and job interfaces -/

/-- The filter of the API bus and the check that all node methods start with: the error that
the call is answered with, if it may not run. -/
def nodeMethodRefused (s : Controller) (n : NodeId) : Option String :=
  if !nodeHasAgent (s.node n) then some "Node is offline"
  else if (s.node n).isShutdown then some "Request not allowed: node is in shutdown state"
  else none

/-- `node_method_list_units`, `node_method_list_unit_files`, `node_method_set_unit_properties`
and `node_method_passthrough_to_agent`; `failure` is the text for a call that cannot be sent. -/
def nodeMethodForward (s : Controller) (n : NodeId) (serial : Serial) (method failure : String)
    (started : Bool) : Controller :=
  match s.nodeMethodRefused n with
  | some message => s.emit (.replyError serial message)
  | none =>
    s.runRequest n serial (.forward serial) (fun r => .request r method) started failure

/-- The job type that goes with a lifecycle method. -/
def lifecycleJobType : LifecycleMethod → String
  | .startUnit => "start"
  | .stopUnit => "stop"
  | .restartUnit => "restart"
  | .reloadUnit => "reload"

/-- `job_new` in `job_setup_new`, at the next free address. -/
def jobNew (s : Controller) (n : NodeId) (unit type : String) (startTime : UInt64) :
    Job × Controller :=
  let job : Job := ⟨s.nextPtr, n, .waiting, s.nextJobId + 1, type, unit,
    if s.metricsEnabled then startTime else 0, 0⟩
  (job, { s.newRef (.job s.nextPtr) with
    nextPtr := s.nextPtr + 1, nextJobId := s.nextJobId + 1 })

/-- `node_run_unit_lifecycle_method`. -/
def nodeRunUnitLifecycleMethod (s : Controller) (n : NodeId) (serial : Serial)
    (method : LifecycleMethod) (unit mode : String) (startTime : UInt64) (started : Bool) :
    Controller :=
  match s.nodeMethodRefused n with
  | some message => s.emit (.replyError serial message)
  | none =>
    let (job, s) := s.jobNew n unit (lifecycleJobType method) startTime
    s.runRequest n serial (.lifecycle serial job)
      (fun r => .lifecycle r method unit mode job.id) started
      "Failed to call the method to start the node"

/-- `job_method_cancel`. -/
def jobMethodCancel (s : Controller) (job : Job) (serial : Serial) (started : Bool) :
    Controller :=
  if nodeHasAgent (s.node job.node) then
    let s' := s.runRequest job.node serial (.jobCancel serial) (fun r => .jobCancel r job.id)
      started "Failed to call the method to cancel job"
    if started then s'.emit (.reply serial .empty) else s'
  else s.emit (.replyError serial "Failed to create an agent request to cancel job")

end Controller
end BlueChi
