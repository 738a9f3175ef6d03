import BlueChi.Agent.MethodReplies
import BlueChi.Agent.UnitInfos
import BlueChi.Controller.Replication

/-!
# The controller and one of its agents

The agent of node `t` runs next to the controller. A connection is a queue of calls to the agent
and a queue of what the agent sends, and each queue keeps its order. The agent opens one connection
after the other. What is left in the queue of calls when it closes one is lost, and what it sent may
still arrive. systemd keeps what it was asked for when the agent is started anew.

Everything else that the controller does, for other nodes and for clients, is an event of its own.
-/

namespace BlueChi

open Execution MethodReplies

namespace Pairing

/-! ## The agent's side -/

/-- The agent's process, and what its methods have asked of systemd for the dependencies of other
nodes. -/
structure Site where
  service : Service
  asked : List SystemdCall

/-- The agent's process with another state of its units. -/
def Site.withAgent (site : Site) (p : Agent × List AgentOutput) : Site :=
  { site with service := site.service.sendAll p }

/-- Signals and answers of systemd. -/
inductive SystemdEvent
  | unitNew (unitName path : String)
  | unitRemoved (id path : String)
  | unitChanged (path interface : String) (changed : Properties)
  | jobRemoved (jobPath result : String) (now : UInt64)
  | jobChanged (objectPath interface : String) (changed : Properties)
  | reply (i : ℕ) (answer : Except String (List String))
  | lifecycleReply (i : ℕ) (answer : Except String String)

/-- The handlers of the agent. -/
def Site.onSystemd (site : Site) : SystemdEvent → Option Site
  | .unitNew unitName _ => some (site.withAgent (agentMatchUnitNew site.service.agent unitName))
  | .unitRemoved _ path => some (site.withAgent (agentMatchUnitRemoved site.service.agent path))
  | .unitChanged path interface changed =>
    some (site.withAgent (agentMatchUnitChanged site.service.agent path interface changed))
  | .jobRemoved jobPath result now =>
    (internalStep site.service (.jobRemoved jobPath result now)).map ({ site with service := · })
  | .jobChanged objectPath interface changed =>
    (internalStep site.service (.jobChanged objectPath interface changed)).map
      ({ site with service := · })
  | .reply i answer =>
    (internalStep site.service (.systemdReply i answer)).map ({ site with service := · })
  | .lifecycleReply i answer =>
    (internalStep site.service (.lifecycleReply i answer)).map ({ site with service := · })

/-- How a call is handled: the place at which its handler fails, if it does, the time, and the method
that a forwarded call names. -/
structure Handling where
  fails : Option FailurePoint
  now : UInt64
  method : ForwardedMethod

/-- Only the signals: nobody waits for a reply to these calls. -/
def signals (p : Agent × List AgentOutput) : Agent × List AgentOutput :=
  (p.1, p.2.filter fun o => match o with
    | .signal _ => true
    | _ => false)

/-- The call to systemd for a dependency. -/
def dependencyCall (member unit : String) : SystemdCall :=
  ⟨systemdObjectPath, systemdManagerIface, member, [getDepUnit unit, "replace"]⟩

/-- `agent_method_start_dep` and `agent_method_stop_dep`. -/
def Site.dep (site : Site) (member unit : String) (fails : Option FailurePoint) : Site where
  service := agentMethodDep site.service member unit fails
  asked := if fails = none then site.asked ++ [dependencyCall member unit] else site.asked

/-- The methods of the internal interface. The proxies answer their calls themselves, and the
heartbeat is only noted. -/
def Site.onCall (site : Site) (h : Handling) : AgentCall → Site
  | .subscribe unit => site.withAgent (signals (agentMethodSubscribe site.service.agent 0 unit))
  | .unsubscribe unit => site.withAgent (signals (agentMethodUnsubscribe site.service.agent 0 unit))
  | .startDep unit => site.dep "StartUnit" unit h.fails
  | .stopDep unit => site.dep "StopUnit" unit h.fails
  | .enableMetrics => site.withAgent (signals (agentMethodEnableMetrics site.service.agent 0))
  | .disableMetrics => site.withAgent (signals (agentMethodDisableMetrics site.service.agent 0))
  | .lifecycle r method unit _ jobId =>
    { site with service := runUnitLifecycleMethod site.service r method unit jobId h.now h.fails }
  | .jobCancel r jobId => { site with service := methodJobCancel site.service r jobId h.fails }
  | .request r _ => { site with service := h.method.handle site.service r h.fails }
  | .heartbeat => site
  | .proxyError .. => site
  | .proxyTargetNew .. => site
  | .proxyTargetStateChanged .. => site
  | .proxyTargetRemoved .. => site

/-! ## The two together -/

/-- The controller, the agent of a node, and the queues of their connections. `opened` is how the
agent was when it opened the present connection. -/
structure State where
  controller : Controller
  site : Site
  peerDbus : Option BusId
  opened : Site
  toAgent : BusId → List AgentCall
  toController : BusId → List Sent

/-- What the controller reads off a message of the agent, with what else it finds out while it
handles the message. -/
def incoming (t : NodeId) (bus : BusId) (now : UInt64) (sync : SyncCalls) :
    Sent → Option Event
  | .output (.signal (.jobDone id result)) => some (.agentSignal bus t (.jobDone id result now sync))
  | .output (.signal (.jobStateChanged id state)) => some (.agentSignal bus t (.jobStateChanged id state))
  | .output (.signal (.unitNew unit reason)) => some (.agentSignal bus t (.unitNew unit reason))
  | .output (.signal (.unitStateChanged unit activeState substate reason)) =>
    some (.agentSignal bus t (.unitStateChanged unit activeState substate reason))
  | .output (.signal (.unitRemoved unit)) => some (.agentSignal bus t (.unitRemoved unit))
  | .output (.signal (.unitPropertiesChanged unit interface properties)) =>
    some (.agentSignal bus t (.unitPropertiesChanged unit interface properties))
  | .output (.signal (.agentJobMetrics ..)) => none
  | .output (.reply serial) => some (.agentReply serial (.ok []))
  | .output (.replyError serial message) => some (.agentReply serial (.error message))
  | .copied serial contents => some (.agentReply serial (.ok contents))

/-- What happens: something at the controller, the agent opens or closes a connection or is started
anew, one of the two handles the next message, or systemd has news. -/
inductive PairEvent
  | controller (e : Event)
  | connect (peer : PeerInfo) (fails : BusCall → Bool)
  | close
  | restart (units : List ListedUnit)
  | handle (h : Handling)
  | arrive (bus : BusId) (now : UInt64) (sync : SyncCalls)
  | systemd (e : SystemdEvent)

namespace State

/-- The controller handles an event, and its calls to the node enter the queues. -/
def onController (t : NodeId) (x : State) (e : Event) : Option State :=
  (x.controller.step e).map fun s =>
    { x with
      controller := s
      toAgent := fun b => x.toAgent b ++ callsOn t b (s.log.drop x.controller.log.length) }

/-- The agent is changed, and what it has sent enters the queue of its connection. -/
def withSite (x : State) (site : Site) : State :=
  { x with
    site := site
    toController := fun b => if x.peerDbus = some b then
      x.toController b ++ site.service.sent.drop x.site.service.sent.length else x.toController b }

/-- A new process, without a connection. -/
def restarted (x : State) (agent : Agent) : State :=
  { x with site := ⟨⟨agent, [], []⟩, x.site.asked⟩, peerDbus := none }

/-- The agent handles the first call on its connection. -/
def onHandle (x : State) (h : Handling) : Option State :=
  x.peerDbus.bind fun b =>
    match x.toAgent b with
    | [] => none
    | call :: calls =>
      some ({ x with toAgent := Function.update x.toAgent b calls }.withSite (x.site.onCall h call))

/-- The first message on a connection leaves its queue. The controller handles it if it can: a signal
needs its match, and a reply its call. -/
def onArrive (t : NodeId) (x : State) (bus : BusId) (now : UInt64) (sync : SyncCalls) :
    Option State :=
  match x.toController bus with
  | [] => none
  | message :: messages =>
    let x := { x with toController := Function.update x.toController bus messages }
    some (((incoming t bus now sync message).bind (x.onController t)).getD x)

/-- The step for each event. -/
def step (t : NodeId) (x : State) : PairEvent → Option State
  | .controller e => x.onController t e
  | .connect peer fails =>
    if x.peerDbus = none then
      (x.onController t (.accept peer fails)).map fun y =>
        { y with peerDbus := some (x.controller.nextPtr + 1), opened := x.site }
    else none
  | .close => some { x with peerDbus := none }
  | .restart units => (agentInitUnits agentNew units).map x.restarted
  | .handle h => x.onHandle h
  | .arrive bus now sync => x.onArrive t bus now sync
  | .systemd e => (x.site.onSystemd e).map x.withSite

end State

/-- The controller is started with a configuration, and the agent with the units that systemd lists. -/
def pairSystem (t : NodeId) : System State PairEvent where
  init x := Controller.system.init x.controller ∧ t ∈ x.controller.nodes ∧
    (∃ units, agentInitUnits agentNew units = some x.site.service.agent) ∧
    x.site.service.requests = [] ∧ x.site.service.sent = [] ∧ x.site.asked = [] ∧
    x.peerDbus = none ∧ x.opened = x.site ∧ x.toAgent = (fun _ => []) ∧ x.toController = fun _ => []
  step := State.step t

end Pairing
end BlueChi
