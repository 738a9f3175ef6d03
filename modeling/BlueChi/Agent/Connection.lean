import Mathlib.Tactic.Simps.Basic
import BlueChi.Library.Execution
import BlueChi.Protocol

/-!
# The agent's connection to the controller

The part of `struct Agent` that the connection to the controller and the proxies of services on
other nodes work on: connecting, registering, the heartbeat timer, losing the connection and
switching to another controller. Which calls of sd-bus fail and what the clocks show are
arguments. What the agent sends is appended to `log`, with the attempts to connect.
-/

namespace BlueChi

/-! ## State -/

/-- `AgentConnectionState`. -/
inductive AgentConnectionState
  | disconnected | connected | retry | connecting
  deriving DecidableEq, Repr

/-- `struct ProxyService`. The slot is given by the bus it is registered on, and `ptr` is the
address. -/
structure ProxyService where
  ptr : ℕ
  id : UInt32
  nodeName : String
  unitName : String
  localServiceName : String
  requestMessage : Option Serial
  sentNewProxy : Bool
  dontStopProxy : Bool
  sentSuccessfulReady : Bool
  exportSlot : Option BusId
  deriving DecidableEq

/-- `proxy->object_path`. -/
def ProxyService.objectPath (proxy : ProxyService) : String :=
  s!"/org/eclipse/bluechi/internal/proxy/{proxy.id.toNat}"

/-- The signals that the agent matches on its peer bus. -/
inductive ControllerMember
  | heartbeat | disconnected
  deriving DecidableEq, Repr

/-- The slot of the Register call: the bus it was sent on, and whether its reply is there. -/
structure RegisterCall where
  bus : BusId
  replied : Bool
  deriving DecidableEq

/-- What the agent sends, and its attempts to connect with the address used and the bus that was
opened. -/
inductive LinkOutput
  | attempt (address : Option String) (bus : Option BusId)
  | register (bus : BusId)
  | heartbeat (bus : BusId)
  | status (value : String)
  | controllerAddress (value : Option String)
  | proxyNew (bus : BusId) (ptr : ℕ) (nodeName unitName objectPath : String)
  | proxyRemoved (bus : BusId) (ptr : ℕ) (nodeName unitName : String)
  | proxyReply (ptr : ℕ) (serial : Serial) (error : Option String)
  | reply (serial : Serial)
  | replyError (serial : Serial) (message : String)
  | stopUnit (ptr : ℕ) (unit : String)
  deriving DecidableEq

/-- `struct Agent`, as far as the connection and the proxies need it. `peerMatches` are the
matches on the peer bus, which end with it. -/
structure AgentLink where
  connectionState : AgentConnectionState
  connectionRetryCount : UInt64
  controllerLastSeen : UInt64
  controllerLastSeenMonotonic : UInt64
  disconnectTimestamp : UInt64
  disconnectTimestampMonotonic : UInt64
  controllerHeartbeatThresholdMsec : ℤ
  host : Option String
  controllerAddress : Option String
  assembledControllerAddress : Option String
  peerDbus : Option BusId
  registerCallSlot : Option RegisterCall
  peerMatches : List ControllerMember
  proxyServices : List ProxyService
  nextProxyId : UInt32
  nextPtr : ℕ
  aborted : Bool
  stopped : Bool
  log : List LinkOutput

namespace AgentLink

/-- Send a message. -/
@[simps -fullyApplied] def emit (s : AgentLink) (o : LinkOutput) : AgentLink :=
  { s with log := s.log ++ [o] }

/-! ## Status -/

/-- `agent_is_connected`. -/
def agentIsConnected (s : AgentLink) : Bool := s.connectionState = .connected

/-- `agent_is_online`. -/
def agentIsOnline (s : AgentLink) : String := if s.agentIsConnected then "online" else "offline"

/-- The `PropertiesChanged` signal of `Status`, which carries the value it has by then. -/
def emitStatus (s : AgentLink) : AgentLink := s.emit (.status s.agentIsOnline)

/-! ## Connecting -/

/-- The outcomes of an attempt to connect: the address that a host is resolved to, and the
calls that open the peer bus, add the vtable and send `Register`. -/
structure ConnectCalls where
  resolve : String → Option String
  opens : Bool
  addsVtable : Bool
  sendsRegister : Bool

/-- `ensure_assembled_controller_address`. -/
def ensureAssembledControllerAddress (s : AgentLink) (calls : ConnectCalls) : Bool × AgentLink :=
  if s.assembledControllerAddress.isSome then (true, s)
  else
    match s.controllerAddress with
    | some address => (true, { s with assembledControllerAddress := some address })
    | none =>
      match s.host.bind calls.resolve with
      | none => (false, s)
      | some address => (true, { s with assembledControllerAddress := some address })

/-- `agent_peer_bus_close`. -/
def agentPeerBusClose (s : AgentLink) : AgentLink :=
  { s with registerCallSlot := none, peerDbus := none, peerMatches := [] }

/-- `agent_connect`. The state stays CONNECTING when one of the calls fails. -/
def agentConnect (s : AgentLink) (calls : ConnectCalls) : Bool × AgentLink :=
  let s := { s with connectionState := .connecting }
  if calls.opens then
    let bus := s.nextPtr
    let s := { s.emit (.attempt s.assembledControllerAddress bus) with
      peerDbus := some bus, peerMatches := [], nextPtr := bus + 1 }
    if calls.addsVtable && calls.sendsRegister then
      (true, { s.emit (.register bus) with registerCallSlot := some ⟨bus, false⟩ })
    else (false, s)
  else (false, { s.emit (.attempt s.assembledControllerAddress none) with peerDbus := none })

/-- `agent_reconnect`. -/
def agentReconnect (s : AgentLink) (calls : ConnectCalls) : Bool × AgentLink :=
  let old := s.assembledControllerAddress
  match { s with assembledControllerAddress := none }.ensureAssembledControllerAddress calls with
  | (false, s) => (false, s)
  | (true, s) =>
    let s := if old.isSome ∧ s.assembledControllerAddress ≠ old then
        s.emit (.controllerAddress s.assembledControllerAddress)
      else s
    s.agentPeerBusClose.agentConnect calls

/-- `agent_disconnected`. -/
def agentDisconnected (s : AgentLink) (now nowMonotonic : UInt64) (calls : ConnectCalls) :
    AgentLink :=
  let s := { s with connectionState := .retry }.emitStatus
  ({ s with disconnectTimestamp := now, disconnectTimestampMonotonic := nowMonotonic
    }.agentReconnect calls).2

/-! ## The heartbeat timer -/

/-- `USEC_INFINITY`, what the clock shows when it cannot be read. -/
def usecInfinity : UInt64 := UInt64.ofNat (2 ^ 64 - 1)

/-- The comparison in `agent_check_controller_liveness`: whether the controller is given up. -/
def controllerExpired (s : AgentLink) (now : UInt64) : Bool :=
  !(s.controllerHeartbeatThresholdMsec ≤ 0) && !(now = usecInfinity) &&
    !(now < s.controllerLastSeenMonotonic) &&
    (now - s.controllerLastSeenMonotonic >
      UInt64.ofNat s.controllerHeartbeatThresholdMsec.toNat * 1000)

/-- `agent_check_controller_liveness`. -/
def agentCheckControllerLiveness (s : AgentLink) (now nowMonotonic : UInt64)
    (calls : ConnectCalls) : Bool × AgentLink :=
  if s.controllerExpired nowMonotonic then (false, s.agentDisconnected now nowMonotonic calls)
  else (true, s)

/-- The branch of `agent_heartbeat_timer_callback` for RETRY. -/
def retryConnection (s : AgentLink) (calls : ConnectCalls) : AgentLink :=
  if s.connectionState = .retry then
    ({ s with connectionRetryCount := s.connectionRetryCount + 1 }.agentReconnect calls).2
  else s

/-- The signal that the timer sends to the controller. -/
def sendHeartbeat (s : AgentLink) : AgentLink :=
  match s.peerDbus with
  | none => s
  | some bus => s.emit (.heartbeat bus)

/-- The first branch of `agent_heartbeat_timer_callback`: no reply came since the last tick. -/
def dropRegisterCall (s : AgentLink) : AgentLink :=
  if s.connectionState = .connecting then
    { s with registerCallSlot := none, connectionState := .retry }
  else s

/-- `agent_heartbeat_timer_callback`. The liveness check may have tried to reconnect with
`calls` already when the branch for RETRY does it with `calls'`. -/
def agentHeartbeatTimerCallback (s : AgentLink) (now nowMonotonic : UInt64)
    (calls calls' : ConnectCalls) : AgentLink :=
  let s := s.dropRegisterCall
  if s.connectionState = .connected then
    match s.agentCheckControllerLiveness now nowMonotonic calls with
    | (true, s) => s.sendHeartbeat
    | (false, s) => s.retryConnection calls'
  else s.retryConnection calls'

/-- `agent_match_heartbeat`. -/
def agentMatchHeartbeat (s : AgentLink) (now nowMonotonic : UInt64) : AgentLink :=
  if now = usecInfinity ∨ nowMonotonic = usecInfinity then s
  else { s with controllerLastSeen := now, controllerLastSeenMonotonic := nowMonotonic }

/-- `agent_method_switch_controller`. -/
def agentMethodSwitchController (s : AgentLink) (serial : Serial) (address : String)
    (now nowMonotonic : UInt64) (calls : ConnectCalls) : AgentLink :=
  if s.assembledControllerAddress = some address then
    s.emit (.replyError serial
      "Failed to switch controller because already connected to the controller")
  else
    let s := { s with assembledControllerAddress := some address, controllerAddress := some address }
    ((s.emit (.controllerAddress address)).agentDisconnected now nowMonotonic calls).emit
      (.reply serial)

/-! ## Proxies -/

/-- The result of `sd_bus_emit_signal`. -/
inductive EmitResult
  | sent | notConnected | failed
  deriving DecidableEq, Repr

/-- Change the fields of a listed proxy. -/
def modifyProxy (s : AgentLink) (ptr : ℕ) (f : ProxyService → ProxyService) : AgentLink :=
  { s with
    proxyServices := s.proxyServices.map fun proxy => if proxy.ptr = ptr then f proxy else proxy }

/-- `proxy_service_emit_proxy_new`, with the new value of the proxy. -/
def proxyServiceEmitProxyNew (s : AgentLink) (proxy : ProxyService) (result : EmitResult) :
    EmitResult × AgentLink × ProxyService :=
  match s.connectionState, s.peerDbus, result with
  | .connected, some bus, .sent =>
    (.sent, s.emit (.proxyNew bus proxy.ptr proxy.nodeName proxy.unitName proxy.objectPath),
      { proxy with sentNewProxy := true })
  | .connected, some _, result => (result, s, proxy)
  | _, _, _ => (.notConnected, s, proxy)

/-- `proxy_service_emit_proxy_removed`. -/
def proxyServiceEmitProxyRemoved (s : AgentLink) (proxy : ProxyService) (emits : Bool) : AgentLink :=
  match s.peerDbus with
  | none => s
  | some bus =>
    if proxy.sentNewProxy && s.agentIsConnected && emits then
      s.emit (.proxyRemoved bus proxy.ptr proxy.nodeName proxy.unitName)
    else s

/-- The calls of `agent_remove_proxy` that can fail. -/
structure RemoveCalls where
  emits : Bool
  startsStop : Bool

/-- `agent_stop_local_proxy_service`, for a proxy that is being removed. -/
def agentStopLocalProxyService (s : AgentLink) (proxy : ProxyService) (starts : Bool) : AgentLink :=
  if proxy.dontStopProxy then s
  else if starts then s.emit (.stopUnit proxy.ptr proxy.localServiceName) else s

/-- `agent_remove_proxy`. -/
def agentRemoveProxy (s : AgentLink) (proxy : ProxyService) (emitRemoved : Bool)
    (calls : RemoveCalls) : AgentLink :=
  let s := if emitRemoved then s.proxyServiceEmitProxyRemoved proxy calls.emits else s
  let s := match proxy.requestMessage with
    | some serial => s.emit (.proxyReply proxy.ptr serial "Proxy service stopped")
    | none => s
  let s := if proxy.sentSuccessfulReady then s.agentStopLocalProxyService proxy calls.startsStop
    else s
  { s with proxyServices := s.proxyServices.filter fun p => p.ptr ≠ proxy.ptr }

/-- `agent_find_proxy`. -/
def agentFindProxy (s : AgentLink) (localServiceName nodeName unitName : String) :
    Option ProxyService :=
  s.proxyServices.find? fun proxy => proxy.localServiceName = localServiceName &&
    proxy.nodeName = nodeName && proxy.unitName = unitName

/-- `proxy_service_new`, at the next free address. -/
def proxyServiceNew (s : AgentLink) (localServiceName nodeName unitName : String)
    (requestMessage : Serial) : ProxyService where
  ptr := s.nextPtr
  id := s.nextProxyId + 1
  nodeName := nodeName
  unitName := unitName
  localServiceName := localServiceName
  requestMessage := some requestMessage
  sentNewProxy := false
  dontStopProxy := false
  sentSuccessfulReady := false
  exportSlot := none

/-- `agent_method_create_proxy`. The error replies of the first and the third branch are sent
on a message that is not there, so sd-bus answers with `EINVAL`. -/
def agentMethodCreateProxy (s : AgentLink) (serial : Serial)
    (localServiceName nodeName unitName : String) (exports : Bool) (result : EmitResult) :
    AgentLink :=
  match s.agentFindProxy localServiceName nodeName unitName with
  | some _ => s.emit (.replyError serial "Invalid argument")
  | none =>
    let proxy := s.proxyServiceNew localServiceName nodeName unitName serial
    let s := { s with nextProxyId := s.nextProxyId + 1, nextPtr := s.nextPtr + 1 }
    match s.peerDbus, exports with
    | some bus, true =>
      match s.proxyServiceEmitProxyNew { proxy with exportSlot := some bus } result with
      | (.failed, s, _) => s.emit (.replyError serial "Failed to emit a proxy service")
      | (_, s, proxy) => { s with proxyServices := s.proxyServices ++ [proxy] }
    | _, _ => s.emit (.replyError serial "Invalid argument")

/-- `agent_method_remove_proxy`. -/
def agentMethodRemoveProxy (s : AgentLink) (serial : Serial)
    (localServiceName nodeName unitName : String) (calls : RemoveCalls) : AgentLink :=
  match s.agentFindProxy localServiceName nodeName unitName with
  | none => s.emit (.reply serial)
  | some proxy =>
    (s.agentRemoveProxy { proxy with dontStopProxy := true } true calls).emit (.reply serial)

/-- `proxy_service_initial_state_reached`. The assertion fails when there is no request. -/
def proxyServiceInitialStateReached (s : AgentLink) (proxy : ProxyService) (success : Bool)
    (calls : RemoveCalls) : AgentLink :=
  match proxy.requestMessage with
  | none => { s with aborted := true }
  | some serial =>
    if success then
      (s.emit (.proxyReply proxy.ptr serial none)).modifyProxy proxy.ptr fun proxy =>
        { proxy with sentSuccessfulReady := true, requestMessage := none }
    else
      let s := s.emit (.proxyReply proxy.ptr serial "Proxy service failed to start")
      if proxy.sentSuccessfulReady then
        s.modifyProxy proxy.ptr fun proxy => { proxy with requestMessage := none }
      else s.agentRemoveProxy { proxy with requestMessage := none } true calls

/-- `proxy_service_target_stopped`. -/
def proxyServiceTargetStopped (s : AgentLink) (proxy : ProxyService) (calls : RemoveCalls) :
    AgentLink :=
  if proxy.requestMessage = none then s.agentRemoveProxy proxy true calls
  else { s with aborted := true }

/-- The state says that the target is not running, and it is not a virtual report. -/
def reallyStopped (activeState reason : String) : Bool :=
  (activeStateFromString activeState = .failed || activeStateFromString activeState = .inactive) &&
    reason = "real"

/-- What the controller tells a proxy about its target. -/
inductive TargetCall
  | targetNew (reason : String)
  | targetStateChanged (activeState substate reason : String)
  | targetRemoved (reason : String)
  | error (message : String)
  deriving DecidableEq

/-- `proxy_service_method_target_state_changed`, without its reply. -/
def proxyServiceMethodTargetStateChanged (s : AgentLink) (proxy : ProxyService)
    (activeState reason : String) (calls : RemoveCalls) : AgentLink :=
  if proxy.requestMessage.isSome then
    if activeStateFromString activeState = .active then
      s.proxyServiceInitialStateReached proxy true calls
    else if reallyStopped activeState reason then
      s.proxyServiceInitialStateReached proxy false calls
    else s
  else if proxy.sentSuccessfulReady then
    if reallyStopped activeState reason then s.proxyServiceTargetStopped proxy calls else s
  else s

/-- `proxy_service_method_target_removed`, without its reply. -/
def proxyServiceMethodTargetRemoved (s : AgentLink) (proxy : ProxyService) (reason : String)
    (calls : RemoveCalls) : AgentLink :=
  if proxy.requestMessage.isSome && reason = "real" then
    s.proxyServiceInitialStateReached proxy false calls
  else s

/-- `proxy_service_method_error`, without its reply. -/
def proxyServiceMethodError (s : AgentLink) (proxy : ProxyService) (calls : RemoveCalls) :
    AgentLink :=
  s.proxyServiceInitialStateReached proxy false calls

/-- The four methods of a proxy; `proxy_service_method_target_new` does nothing. -/
def proxyServiceMethod (s : AgentLink) (proxy : ProxyService) (calls : RemoveCalls) :
    TargetCall → AgentLink
  | .targetNew _ => s
  | .targetStateChanged activeState _ reason =>
    s.proxyServiceMethodTargetStateChanged proxy activeState reason calls
  | .targetRemoved reason => s.proxyServiceMethodTargetRemoved proxy reason calls
  | .error _ => s.proxyServiceMethodError proxy calls

/-- The reply that ends each method, which a failed assertion does not get to. -/
def answer (s : AgentLink) (serial : Serial) : AgentLink :=
  if s.aborted then s else s.emit (.reply serial)

/-! ## Registering -/

/-- The reply to `Register`. -/
inductive RegisterReply
  | error (message : String)
  | unreadable
  | ok
  deriving DecidableEq

/-- The loop that announces the proxies again: one round. -/
def reemitProxyNew (results : ℕ → EmitResult) (s : AgentLink) (proxy : ProxyService) : AgentLink :=
  match s.proxyServiceEmitProxyNew proxy (results proxy.ptr) with
  | (_, s, proxy') => s.modifyProxy proxy.ptr fun proxy =>
    { proxy with sentNewProxy := proxy'.sentNewProxy }

/-- `sd_bus_match_signal` on the peer bus. -/
def addPeerMatch (s : AgentLink) (member : ControllerMember) : AgentLink :=
  { s with peerMatches := s.peerMatches ++ [member] }

/-- `agent_process_register_callback`. An error is returned as `-EPERM`, which is true. -/
def agentProcessRegisterCallback (s : AgentLink) (reply : RegisterReply)
    (now nowMonotonic : UInt64) (fails : ControllerMember → Bool) (results : ℕ → EmitResult) :
    Bool × AgentLink :=
  match reply with
  | .error _ => (true, s)
  | .unreadable => (false, s)
  | .ok =>
    let s := { s with
      connectionState := .connected
      connectionRetryCount := 0
      controllerLastSeen := now
      controllerLastSeenMonotonic := nowMonotonic
      disconnectTimestamp := 0
      disconnectTimestampMonotonic := 0 }.emitStatus
    if fails .heartbeat then (false, s)
    else
      let s := s.addPeerMatch .heartbeat
      if fails .disconnected then (false, s)
      else
        let s := s.addPeerMatch .disconnected
        (true, s.proxyServices.foldl (reemitProxyNew results) s)

/-- `agent_register_callback`. -/
def agentRegisterCallback (s : AgentLink) (reply : RegisterReply) (now nowMonotonic : UInt64)
    (fails : ControllerMember → Bool) (results : ℕ → EmitResult) : AgentLink :=
  if s.connectionState ≠ .connecting then { s with registerCallSlot := none }
  else
    match s.agentProcessRegisterCallback reply now nowMonotonic fails results with
    | (true, s) => s
    | (false, s) => { s with connectionState := .retry }

/-! ## Start and stop -/

/-- The end of `agent_start`, from an agent that was configured: the first connection. -/
def agentStart (s : AgentLink) (calls : ConnectCalls) : AgentLink :=
  match s.agentConnect calls with
  | (true, s) => s
  | (false, s) => { s with connectionState := .retry }

/-- `agent_stop`. -/
def agentStop (s : AgentLink) (calls : ℕ → RemoveCalls) : AgentLink :=
  let s := { s.agentPeerBusClose with connectionState := .disconnected }.emitStatus
  { s.proxyServices.foldl (fun s proxy => s.agentRemoveProxy proxy false (calls proxy.ptr)) s with
    stopped := true }

end AgentLink

/-! ## Events -/

open AgentLink

/-- What the agent's event loop hands out: the reply to `Register`, the matched signals, the
timer, and the calls of clients, of local proxies and of the controller. -/
inductive LinkEvent
  | registerReply (reply : RegisterReply) (now nowMonotonic : UInt64)
      (fails : ControllerMember → Bool) (results : ℕ → EmitResult)
  | disconnected (now nowMonotonic : UInt64) (calls : ConnectCalls)
  | heartbeatTimer (now nowMonotonic : UInt64) (calls calls' : ConnectCalls)
  | controllerHeartbeat (now nowMonotonic : UInt64)
  | switchController (serial : Serial) (address : String) (now nowMonotonic : UInt64)
      (calls : ConnectCalls)
  | createProxy (serial : Serial) (localServiceName nodeName unitName : String) (exports : Bool)
      (result : EmitResult)
  | removeProxy (serial : Serial) (localServiceName nodeName unitName : String)
      (calls : RemoveCalls)
  | target (ptr : ℕ) (serial : Serial) (call : TargetCall) (calls : RemoveCalls)
  | stop (calls : ℕ → RemoveCalls)

namespace AgentLink

/-- The proxy at that address, when it is exported on the peer bus. -/
def exportedProxy (s : AgentLink) (ptr : ℕ) : Option ProxyService :=
  s.proxyServices.find? fun proxy =>
    proxy.ptr = ptr && proxy.exportSlot.isSome && proxy.exportSlot = s.peerDbus

/-- The handler of each event. -/
def handle (s : AgentLink) : LinkEvent → Option AgentLink
  | .registerReply reply now nowMonotonic fails results =>
    match s.registerCallSlot with
    | some ⟨bus, false⟩ =>
      some ({ s with registerCallSlot := some ⟨bus, true⟩ }.agentRegisterCallback reply now
        nowMonotonic fails results)
    | _ => none
  | .disconnected now nowMonotonic calls =>
    if .disconnected ∈ s.peerMatches then some (s.agentDisconnected now nowMonotonic calls)
    else none
  | .heartbeatTimer now nowMonotonic calls calls' =>
    some (s.agentHeartbeatTimerCallback now nowMonotonic calls calls')
  | .controllerHeartbeat now nowMonotonic =>
    if .heartbeat ∈ s.peerMatches then some (s.agentMatchHeartbeat now nowMonotonic) else none
  | .switchController serial address now nowMonotonic calls =>
    some (s.agentMethodSwitchController serial address now nowMonotonic calls)
  | .createProxy serial localServiceName nodeName unitName exports result =>
    some (s.agentMethodCreateProxy serial localServiceName nodeName unitName exports result)
  | .removeProxy serial localServiceName nodeName unitName calls =>
    some (s.agentMethodRemoveProxy serial localServiceName nodeName unitName calls)
  | .target ptr serial call calls =>
    (s.exportedProxy ptr).map fun proxy => (s.proxyServiceMethod proxy calls call).answer serial
  | .stop calls => some (s.agentStop calls)

/-- No event is handled after the agent has stopped or an assertion has failed. -/
def step (s : AgentLink) (e : LinkEvent) : Option AgentLink :=
  if s.stopped || s.aborted then none else s.handle e

/-- What the configuration says about the connection. -/
structure LinkConfig where
  host : Option String
  controllerAddress : Option String
  controllerHeartbeatThresholdMsec : ℤ

/-- `agent_new` and the configuration, with the address that `agent_start` has made sure of. -/
def agentLinkNew (cfg : LinkConfig) (address : String) : AgentLink where
  connectionState := .disconnected
  connectionRetryCount := 0
  controllerLastSeen := 0
  controllerLastSeenMonotonic := 0
  disconnectTimestamp := 0
  disconnectTimestampMonotonic := 0
  controllerHeartbeatThresholdMsec := cfg.controllerHeartbeatThresholdMsec
  host := cfg.host
  controllerAddress := cfg.controllerAddress
  assembledControllerAddress := some address
  peerDbus := none
  registerCallSlot := none
  peerMatches := []
  proxyServices := []
  nextProxyId := 0
  nextPtr := 1
  aborted := false
  stopped := false
  log := []

end AgentLink

/-! ## Runs -/

/-- What a proxy hears of: the calls of the controller, and the two ways in which it is removed
at the agent. -/
inductive ProxyEvent
  | told (call : TargetCall)
  | removeProxy
  | stop
  deriving DecidableEq

/-- A run: the agent, the replies to `Register` with the state they were handled in, the
requests of the accepted `CreateProxy` calls with their proxies, and what the proxies have heard
of. -/
structure LinkRun where
  link : AgentLink
  replies : List (BusId × AgentConnectionState × RegisterReply)
  requests : List (ℕ × Serial)
  heard : List (ℕ × ProxyEvent)

namespace LinkRun

/-- The reply that an event brings. -/
def repliesOf (s : AgentLink) : LinkEvent → List (BusId × AgentConnectionState × RegisterReply)
  | .registerReply reply .. =>
    s.registerCallSlot.toList.map fun call => (call.bus, s.connectionState, reply)
  | _ => []

/-- The proxies that an event concerns. -/
def heardOf (s : AgentLink) : LinkEvent → List (ℕ × ProxyEvent)
  | .target ptr _ call _ => [(ptr, .told call)]
  | .removeProxy _ localServiceName nodeName unitName _ =>
    (s.agentFindProxy localServiceName nodeName unitName).toList.map fun proxy =>
      (proxy.ptr, .removeProxy)
  | .stop _ => s.proxyServices.map fun proxy => (proxy.ptr, .stop)
  | _ => []

/-- The request of an accepted `CreateProxy` call: the new proxy is listed after it. -/
def requestsOf (s s' : AgentLink) : LinkEvent → List (ℕ × Serial)
  | .createProxy serial .. =>
    if s.nextPtr ∈ s'.proxyServices.map (·.ptr) then [(s.nextPtr, serial)] else []
  | _ => []

def step (r : LinkRun) (e : LinkEvent) : Option LinkRun :=
  (r.link.step e).map fun s =>
    ⟨s, r.replies ++ repliesOf r.link e, r.requests ++ requestsOf r.link s e,
      r.heard ++ heardOf r.link e⟩

/-- The runs of the agent under any configuration. -/
def linkSystem : Execution.System LinkRun LinkEvent where
  init r := ∃ cfg address calls, r = ⟨(agentLinkNew cfg address).agentStart calls, [], [], []⟩
  step := step

end LinkRun
end BlueChi
