import BlueChi.Library.LinkedList
import BlueChi.Agent.ProxyReplies

/-!
# The memory of the proxies

`struct ProxyService` is counted and linked into the list of the agent. The functions of `proxy.c`
and `agent.c` are given here with what they do to the counts and to the links, and with their
assertions, over the agent of `AgentLink`. The assertions about the memory never fail. The one
about the open request does when the controller reports an error to a proxy that was answered.
-/

namespace BlueChi

open Execution

/-! ## Objects -/

/-- What goes wrong: an assertion fails, a freed proxy is used, or a loop has no end. -/
inductive ProxyFault
  | initialStateReached | targetStopped | removeProxy | unref | listRemove | freed | endless
  deriving DecidableEq, Repr

/-- The count of a proxy, and whether `proxy->agent` is set. -/
structure ProxyObject where
  refCount : ℤ
  agent : Bool
  deriving DecidableEq

/-- The proxies that are allocated, by their addresses, and `agent->proxy_services`. -/
structure ProxyMemory where
  objects : ℕ → Option ProxyObject
  list : LinkedList ℕ

namespace ProxyMemory

def object (m : ProxyMemory) (ptr : ℕ) : Except ProxyFault ProxyObject :=
  match m.objects ptr with
  | some o => .ok o
  | none => .error .freed

def put (m : ProxyMemory) (ptr : ℕ) (o : Option ProxyObject) : ProxyMemory :=
  { m with objects := Function.update m.objects ptr o }

/-- `proxy_service_new`. -/
def proxyServiceNew (m : ProxyMemory) (ptr : ℕ) : ProxyMemory :=
  { m with list := (m.list.setNext ptr none).setPrev ptr none }.put ptr (some ⟨1, true⟩)

/-- `proxy_service_ref`. -/
def proxyServiceRef (m : ProxyMemory) (ptr : ℕ) : Except ProxyFault ProxyMemory := do
  let o ← m.object ptr
  .ok (m.put ptr (some { o with refCount := o.refCount + 1 }))

/-- `proxy_service_unref`. -/
def proxyServiceUnref (m : ProxyMemory) (ptr : ℕ) : Except ProxyFault ProxyMemory := do
  let o ← m.object ptr
  if o.refCount - 1 ≠ 0 then .ok (m.put ptr (some { o with refCount := o.refCount - 1 }))
  else if m.list.next ptr = none ∧ m.list.prev ptr = none then .ok (m.put ptr none)
  else .error .unref

/-- `LIST_APPEND` with a new reference. -/
def listAppend (m : ProxyMemory) (fuel ptr : ℕ) : Except ProxyFault ProxyMemory := do
  let m ← m.proxyServiceRef ptr
  match m.list.append fuel ptr with
  | some list => .ok { m with list := list }
  | none => .error .endless

/-- What `agent_remove_proxy` does to the memory. -/
def agentRemoveProxy (m : ProxyMemory) (ptr : ℕ) : Except ProxyFault ProxyMemory := do
  let o ← m.object ptr
  if o.agent then
    match m.list.remove ptr with
    | some list =>
      ({ m with list := list }.put ptr (some { o with agent := false })).proxyServiceUnref ptr
    | none => .error .listRemove
  else .error .removeProxy

end ProxyMemory

/-- The agent, the memory of its proxies, and the proxies that have been put into the list and
taken out of it. A fault ends the run. -/
structure ProxyWorld where
  link : AgentLink
  memory : ProxyMemory
  added : List ℕ
  removed : List ℕ
  fault : Option ProxyFault

/-- The error of a method for a proxy that has no agent any more. -/
def AgentLink.TargetCall.noAgent : AgentLink.TargetCall → String
  | .targetNew _ => "Internal error"
  | _ => "Failed to get the proxy agent"

namespace ProxyWorld

open AgentLink

/-! ## Functions -/

/-- `agent_remove_proxy`. -/
def agentRemoveProxy (w : ProxyWorld) (proxy : ProxyService) (emitRemoved : Bool)
    (calls : RemoveCalls) : Except ProxyFault ProxyWorld := do
  let memory ← w.memory.agentRemoveProxy proxy.ptr
  .ok { w with
    link := w.link.agentRemoveProxy proxy emitRemoved calls
    memory := memory
    removed := w.removed ++ [proxy.ptr] }

/-- `proxy_service_initial_state_reached`. -/
def proxyServiceInitialStateReached (w : ProxyWorld) (proxy : ProxyService) (success : Bool)
    (calls : RemoveCalls) : Except ProxyFault ProxyWorld :=
  match proxy.requestMessage with
  | none => .error .initialStateReached
  | some serial =>
    if success then
      let link := w.link.emit (.proxyReply proxy.ptr serial none)
      let ready := fun proxy : ProxyService =>
        { proxy with sentSuccessfulReady := true, requestMessage := none }
      .ok { w with link := link.modifyProxy proxy.ptr ready }
    else
      let link := w.link.emit (.proxyReply proxy.ptr serial "Proxy service failed to start")
      if proxy.sentSuccessfulReady then
        let answered := fun proxy : ProxyService => { proxy with requestMessage := none }
        .ok { w with link := link.modifyProxy proxy.ptr answered }
      else { w with link := link }.agentRemoveProxy { proxy with requestMessage := none } true calls

/-- `proxy_service_target_stopped`. -/
def proxyServiceTargetStopped (w : ProxyWorld) (proxy : ProxyService) (calls : RemoveCalls) :
    Except ProxyFault ProxyWorld :=
  if proxy.requestMessage = none then w.agentRemoveProxy proxy true calls
  else .error .targetStopped

/-- `proxy_service_method_target_state_changed`, between its reference and its reply. -/
def proxyServiceMethodTargetStateChanged (w : ProxyWorld) (proxy : ProxyService)
    (activeState reason : String) (calls : RemoveCalls) : Except ProxyFault ProxyWorld :=
  if proxy.requestMessage.isSome then
    if activeStateFromString activeState = .active then
      w.proxyServiceInitialStateReached proxy true calls
    else if reallyStopped activeState reason then
      w.proxyServiceInitialStateReached proxy false calls
    else .ok w
  else if proxy.sentSuccessfulReady then
    if reallyStopped activeState reason then w.proxyServiceTargetStopped proxy calls else .ok w
  else .ok w

/-- `proxy_service_method_target_removed`, between its reference and its reply. -/
def proxyServiceMethodTargetRemoved (w : ProxyWorld) (proxy : ProxyService) (reason : String)
    (calls : RemoveCalls) : Except ProxyFault ProxyWorld :=
  if proxy.requestMessage.isSome && reason = "real" then
    w.proxyServiceInitialStateReached proxy false calls
  else .ok w

/-- What the four methods of a proxy do between their reference and their reply. -/
def methodBody (w : ProxyWorld) (proxy : ProxyService) (calls : RemoveCalls) :
    TargetCall → Except ProxyFault ProxyWorld
  | .targetNew _ => .ok w
  | .targetStateChanged activeState _ reason =>
    w.proxyServiceMethodTargetStateChanged proxy activeState reason calls
  | .targetRemoved reason => w.proxyServiceMethodTargetRemoved proxy reason calls
  | .error _ => w.proxyServiceInitialStateReached proxy false calls

/-- A method of a proxy. It holds a reference until it returns. -/
def proxyServiceMethod (w : ProxyWorld) (proxy : ProxyService) (serial : Serial) (call : TargetCall)
    (calls : RemoveCalls) : Except ProxyFault ProxyWorld := do
  let memory ← w.memory.proxyServiceRef proxy.ptr
  let o ← memory.object proxy.ptr
  if o.agent then
    let w ← { w with memory := memory }.methodBody proxy calls call
    let memory ← w.memory.proxyServiceUnref proxy.ptr
    .ok { w with link := w.link.emit (.reply serial), memory := memory }
  else
    let memory ← memory.proxyServiceUnref proxy.ptr
    .ok { w with link := w.link.emit (.replyError serial call.noAgent), memory := memory }

/-- `agent_method_create_proxy`. The new proxy is held until the method returns. -/
def agentMethodCreateProxy (w : ProxyWorld) (serial : Serial)
    (localServiceName nodeName unitName : String) (exports : Bool) (result : EmitResult) :
    Except ProxyFault ProxyWorld :=
  match w.link.agentFindProxy localServiceName nodeName unitName with
  | some _ => .ok { w with link := w.link.emit (.replyError serial "Invalid argument") }
  | none => do
    let proxy := w.link.proxyServiceNew localServiceName nodeName unitName serial
    let link := { w.link with
      nextProxyId := w.link.nextProxyId + 1, nextPtr := w.link.nextPtr + 1 }
    let memory := w.memory.proxyServiceNew proxy.ptr
    match link.peerDbus, exports with
    | some bus, true =>
      match link.proxyServiceEmitProxyNew { proxy with exportSlot := some bus } result with
      | (.failed, link, _) =>
        let memory ← memory.proxyServiceUnref proxy.ptr
        .ok { w with
          link := link.emit (.replyError serial "Failed to emit a proxy service")
          memory := memory }
      | (_, link, proxy) =>
        let memory ← memory.listAppend link.nextPtr proxy.ptr
        let memory ← memory.proxyServiceUnref proxy.ptr
        .ok { w with
          link := { link with proxyServices := link.proxyServices ++ [proxy] }
          memory := memory
          added := w.added ++ [proxy.ptr] }
    | _, _ =>
      let memory ← memory.proxyServiceUnref proxy.ptr
      .ok { w with link := link.emit (.replyError serial "Invalid argument"), memory := memory }

/-- `agent_method_remove_proxy`. -/
def agentMethodRemoveProxy (w : ProxyWorld) (serial : Serial)
    (localServiceName nodeName unitName : String) (calls : RemoveCalls) :
    Except ProxyFault ProxyWorld :=
  match w.link.agentFindProxy localServiceName nodeName unitName with
  | none => .ok { w with link := w.link.emit (.reply serial) }
  | some proxy => do
    let w ← w.agentRemoveProxy { proxy with dontStopProxy := true } true calls
    .ok { w with link := w.link.emit (.reply serial) }

/-- The loop of `agent_stop`, which reads the next proxy before it removes one. -/
def removeAll (calls : ℕ → RemoveCalls) : ℕ → Option ℕ → ProxyWorld → Except ProxyFault ProxyWorld
  | _, none, w => .ok w
  | 0, some _, _ => .error .endless
  | fuel + 1, some ptr, w =>
    match w.link.proxyServices.find? fun proxy => proxy.ptr = ptr with
    | none => .error .freed
    | some proxy => do
      let next := w.memory.list.next ptr
      let w ← w.agentRemoveProxy proxy false (calls ptr)
      removeAll calls fuel next w

/-- `agent_stop`. -/
def agentStop (w : ProxyWorld) (calls : ℕ → RemoveCalls) : Except ProxyFault ProxyWorld := do
  let link := { w.link.agentPeerBusClose with connectionState := .disconnected }.emitStatus
  let w ← removeAll calls link.nextPtr w.memory.list.head { w with link := link }
  .ok { w with link := { w.link with stopped := true } }

/-! ## Runs -/

/-- The handler of each event. Only those about proxies touch the memory. -/
def handle (w : ProxyWorld) : LinkEvent → Option (Except ProxyFault ProxyWorld)
  | .createProxy serial localServiceName nodeName unitName exports result =>
    some (w.agentMethodCreateProxy serial localServiceName nodeName unitName exports result)
  | .removeProxy serial localServiceName nodeName unitName calls =>
    some (w.agentMethodRemoveProxy serial localServiceName nodeName unitName calls)
  | .target ptr serial call calls =>
    (w.link.exportedProxy ptr).map fun proxy => w.proxyServiceMethod proxy serial call calls
  | .stop calls => some (w.agentStop calls)
  | e => (w.link.handle e).map fun link => .ok { w with link := link }

/-- The state after a handler. -/
def settle (w : ProxyWorld) : Except ProxyFault ProxyWorld → ProxyWorld
  | .ok w' => w'
  | .error fault => { w with fault := some fault }

def step (w : ProxyWorld) (e : LinkEvent) : Option ProxyWorld :=
  if w.link.stopped || w.fault.isSome then none else (w.handle e).map w.settle

/-- The runs of the agent with the memory of its proxies. -/
def proxySystem : System ProxyWorld LinkEvent where
  init w := ∃ cfg address calls, w =
    ⟨(agentLinkNew cfg address).agentStart calls, ⟨fun _ => none, .empty⟩, [], [], none⟩
  step := step

end ProxyWorld
end BlueChi
