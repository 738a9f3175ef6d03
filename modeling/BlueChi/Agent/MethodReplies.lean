import Mathlib.Data.List.Perm.Basic
import BlueChi.Library.Execution
import BlueChi.Agent.Jobs

/-!
# Replies to the calls of the controller

A method of the agent's internal interface replies in its handler, or it starts a request to
systemd whose callback replies. `AnsweredOnce` says of a run that every call has been answered once
or has one request outstanding that will answer it. It holds of exactly those runs in which no job
is cancelled: `agent_method_job_cancel` replies, and so does the callback of its request.
-/

namespace BlueChi
namespace MethodReplies

open Execution

/-! ## Requests to systemd -/

/-- `SYSTEMD_MANAGER_IFACE`. -/
def systemdManagerIface : String := "org.freedesktop.systemd1.Manager"

/-- A method call to systemd, and its arguments as text. -/
structure SystemdCall where
  objectPath : String
  iface : String
  member : String
  args : List String
  deriving DecidableEq

/-- The callbacks of the requests that are not made by a lifecycle method, with the call that they
reply to. -/
inductive RequestCallback
  /-- `list_units_callback` and the others that copy the answer. -/
  | copy (requestMessage : Serial)
  /-- `start_dep_callback` and `stop_dep_callback`. -/
  | dep
  /-- `job_cancel_callback`. -/
  | jobCancel (requestMessage : Serial)
  deriving DecidableEq

/-- The message that a callback will reply to. -/
def RequestCallback.caller : RequestCallback → Option Serial
  | .copy serial => some serial
  | .dep => none
  | .jobCancel serial => some serial

/-- A request that has been sent to systemd. -/
structure StartedRequest where
  call : SystemdCall
  callback : RequestCallback
  deriving DecidableEq

/-- What the agent sends: the messages of its handlers, and method returns with a copy of what
systemd has answered. -/
inductive Sent
  | output (o : AgentOutput)
  | copied (serial : Serial) (contents : List String)
  deriving DecidableEq

/-- The call that a message answers. -/
def Sent.answers : Sent → Option Serial
  | .output (.reply serial) => some serial
  | .output (.replyError serial _) => some serial
  | .output (.signal _) => none
  | .copied serial _ => some serial

/-- The agent and what it has sent. The requests of the lifecycle methods are listed by the agent,
and the other ones here. -/
structure Service where
  agent : Agent
  requests : List StartedRequest
  sent : List Sent

namespace Service

def send (s : Service) (os : List Sent) : Service := { s with sent := s.sent ++ os }

/-- What a function of the agent does and sends. -/
def sendAll (s : Service) (p : Agent × List AgentOutput) : Service :=
  { s with agent := p.1, sent := s.sent ++ p.2.map .output }

def replyError (s : Service) (serial : Serial) (message : String) : Service :=
  s.send [.output (.replyError serial message)]

def start (s : Service) (call : SystemdCall) (callback : RequestCallback) : Service :=
  { s with requests := s.requests ++ [⟨call, callback⟩] }

end Service

/-! ## Methods that forward a call -/

/-- The places in a handler before its request to systemd has been sent. -/
inductive FailurePoint
  | read | path | create | jobOp | append | copy | start
  deriving DecidableEq

/-- A handler fails with the text that it has for the place, or starts its request. A place
without a text is not in the handler. -/
def forwardToSystemd (texts : FailurePoint → Option String) (call : SystemdCall) (s : Service)
    (serial : Serial) (fails : Option FailurePoint) : Service :=
  match fails.bind texts with
  | some message => s.replyError serial message
  | none => s.start call (.copy serial)

/-- `agent_method_passthrough_to_systemd`. -/
def agentMethodPassthroughToSystemd (member : String) (args : List String) :
    Service → Serial → Option FailurePoint → Service :=
  forwardToSystemd (fun
    | .create => some "Failed to create a systemd request"
    | .copy => some "Failed to copy a reply message"
    | .start => some "Failed to start systemd request"
    | _ => none) ⟨systemdObjectPath, systemdManagerIface, member, args⟩

/-- `agent_method_list_units`. -/
def agentMethodListUnits : Service → Serial → Option FailurePoint → Service :=
  forwardToSystemd (fun
    | .create => some "Failed to create a systemd request for the ListUnits method"
    | .start => some "Failed to start systemd request"
    | _ => none) ⟨systemdObjectPath, systemdManagerIface, "ListUnits", []⟩

/-- `agent_method_list_unit_files`. -/
def agentMethodListUnitFiles : Service → Serial → Option FailurePoint → Service :=
  forwardToSystemd (fun
    | .create => some "Failed to create a systemd request for the ListUnitFiles method"
    | .start => some "Failed to start systemd request"
    | _ => none) ⟨systemdObjectPath, systemdManagerIface, "ListUnitFiles", []⟩

/-- `agent_method_get_unit_properties`. -/
def agentMethodGetUnitProperties (unit interface : String) :
    Service → Serial → Option FailurePoint → Service :=
  forwardToSystemd (fun
    | .read => some "Failed to read a message containing unit and interface"
    | .path => some "OOM when assembling unit path"
    | .create => some "Failed to create a systemd request for the GetAll method"
    | .append => some "Failed to append the interface to the message"
    | .start => some "Failed to start systemd request"
    | _ => none) ⟨makeUnitPath unit, "org.freedesktop.DBus.Properties", "GetAll", [interface]⟩

/-- `agent_method_get_unit_property`. -/
def agentMethodGetUnitProperty (unit interface property : String) :
    Service → Serial → Option FailurePoint → Service :=
  forwardToSystemd (fun
    | .read => some "Failed to read a message containing unit, interface, and property"
    | .path => some "Out of memory"
    | .create => some "Failed to create a systemd request for the Get method"
    | .append => some "Failed to append interface and property to the message"
    | .start => some "Failed to start systemd request"
    | _ => none)
    ⟨makeUnitPath unit, "org.freedesktop.DBus.Properties", "Get", [interface, property]⟩

/-- `agent_method_set_unit_properties`. -/
def agentMethodSetUnitProperties (unit runtime : String) (properties : List String) :
    Service → Serial → Option FailurePoint → Service :=
  forwardToSystemd (fun
    | .read => some "Failed to read a message containing unit and runtime"
    | .path => some "Out of memory"
    | .create => some "Failed to create a systemd request for the SetProperties method"
    | .append => some "Failed to append a runtime to a message"
    | .copy => some "Failed to copy a message"
    | .start => some "Failed to start a systemd request"
    | _ => none)
    ⟨makeUnitPath unit, "org.freedesktop.systemd1.Unit", "SetProperties", runtime :: properties⟩

/-- `agent_method_freeze_unit`. -/
def agentMethodFreezeUnit (unit : String) : Service → Serial → Option FailurePoint → Service :=
  forwardToSystemd (fun
    | .read => some "Invalid argument for the unit"
    | .path => some "Out of memory"
    | .create => some "Failed to create a systemd request for the Freeze method"
    | .start => some "Failed to start systemd request"
    | _ => none) ⟨makeUnitPath unit, "org.freedesktop.systemd1.Unit", "Freeze", []⟩

/-- `agent_method_thaw_unit`. -/
def agentMethodThawUnit (unit : String) : Service → Serial → Option FailurePoint → Service :=
  forwardToSystemd (fun
    | .read => some "Invalid argument for the unit"
    | .path => some "Out of memory"
    | .create => some "Failed to create a systemd request for the Thaw method"
    | .start => some "Failed to start a systemd request"
    | _ => none) ⟨makeUnitPath unit, "org.freedesktop.systemd1.Unit", "Thaw", []⟩

/-- The methods whose callback copies the answer of systemd. -/
inductive ForwardedMethod
  | passthrough (member : String) (args : List String)
  | listUnits
  | listUnitFiles
  | getUnitProperties (unit interface : String)
  | getUnitProperty (unit interface property : String)
  | setUnitProperties (unit runtime : String) (properties : List String)
  | freezeUnit (unit : String)
  | thawUnit (unit : String)

def ForwardedMethod.handle : ForwardedMethod → Service → Serial → Option FailurePoint → Service
  | .passthrough member args => agentMethodPassthroughToSystemd member args
  | .listUnits => agentMethodListUnits
  | .listUnitFiles => agentMethodListUnitFiles
  | .getUnitProperties unit interface => agentMethodGetUnitProperties unit interface
  | .getUnitProperty unit interface property => agentMethodGetUnitProperty unit interface property
  | .setUnitProperties unit runtime properties =>
    agentMethodSetUnitProperties unit runtime properties
  | .freezeUnit unit => agentMethodFreezeUnit unit
  | .thawUnit unit => agentMethodThawUnit unit

/-! ## The other methods -/

/-- `agent_run_unit_lifecycle_method`, with all its places to fail. -/
def runUnitLifecycleMethod (s : Service) (serial : Serial) (method : LifecycleMethod)
    (name : String) (jobId : UInt32) (now : UInt64) (fails : Option FailurePoint) : Service :=
  match fails with
  | some .read =>
    s.replyError serial "Failed to read a message containing name, mode, and job ID"
  | some .create =>
    s.replyError serial s!"Failed to create a systemd request for {method.name} method"
  | some .jobOp => s.replyError serial "Failed to create JobOp"
  | some .append => s.replyError serial "Failed to append name and mode to the message"
  | some .start =>
    s.sendAll (agentRunUnitLifecycleMethod s.agent serial method name jobId now false)
  | _ => s.sendAll (agentRunUnitLifecycleMethod s.agent serial method name jobId now true)

/-- `agent_method_job_cancel`, with all its places to fail. -/
def methodJobCancel (s : Service) (serial : Serial) (bcJobId : UInt32)
    (fails : Option FailurePoint) : Service :=
  match fails, agentFindJobtrackerByBluechiId s.agent bcJobId with
  | some .read, _ => s.replyError serial "Failed to read job ID"
  | some .create, some _ =>
    s.replyError serial s!"Failed to create a systemd request for the cancelling job '{bcJobId}'"
  | fails, _ =>
    match agentMethodJobCancel s.agent serial bcJobId (fails ≠ some .start) with
    | (os, none) => s.send (os.map .output)
    | (os, some path) =>
      (s.start ⟨path, systemdJobIface, "Cancel", []⟩ (.jobCancel serial)).send (os.map .output)

/-- `agent_method_set_log_level`. -/
def agentMethodSetLogLevel (s : Service) (serial : Serial) (level : String) (readFails : Bool) :
    Service :=
  if readFails then s.replyError serial "Failed to read Loglevel parameter"
  else if stringToLogLevel level = .invalid then
    s.replyError serial "Invalid input for log level"
  else s.send [.output (.reply serial)]

/-- `get_dep_unit`. -/
def getDepUnit (unitName : String) : String := "bluechi-dep@" ++ unitName

/-- `agent_method_start_dep` and `agent_method_stop_dep`, whose caller expects no reply: when a place
fails nothing is sent. -/
def agentMethodDep (s : Service) (member unit : String) (fails : Option FailurePoint) : Service :=
  if fails = none then
    s.start ⟨systemdObjectPath, systemdManagerIface, member, [getDepUnit unit, "replace"]⟩ .dep
  else s

/-! ## Answers of systemd -/

/-- The callbacks: the error is forwarded, or the answer is copied. -/
def systemdRequestCallback (callback : RequestCallback) :
    Except String (List String) → List Sent :=
  match callback with
  | .copy serial => fun
    | .error message => [.output (.replyError serial message)]
    | .ok contents => [.copied serial contents]
  | .dep => fun _ => []
  | .jobCancel serial => fun
    | .error message => [.output (.replyError serial message)]
    | .ok _ => [.output (.reply serial)]

/-- The answer to the `i`-th request. -/
def systemdReply (s : Service) (i : ℕ) (answer : Except String (List String)) : Option Service :=
  s.requests[i]?.map fun req =>
    { s with requests := s.requests.eraseIdx i }.send (systemdRequestCallback req.callback answer)

/-! ## Runs -/

/-- The calls of the controller, which expect a reply unless they have no serial here, the answers of
systemd in any order, and its signals on jobs. An answer to a lifecycle call that cannot be read or
tracked is an error, too. -/
inductive InternalEvent
  | method (m : ForwardedMethod) (serial : Serial) (fails : Option FailurePoint)
  | lifecycle (serial : Serial) (method : LifecycleMethod) (name : String) (jobId : UInt32)
      (now : UInt64) (fails : Option FailurePoint)
  | jobCancel (serial : Serial) (bcJobId : UInt32) (fails : Option FailurePoint)
  | setLogLevel (serial : Serial) (level : String) (readFails : Bool)
  | startDep (unit : String) (fails : Option FailurePoint)
  | stopDep (unit : String) (fails : Option FailurePoint)
  | enableMetrics
  | disableMetrics
  | systemdReply (i : ℕ) (answer : Except String (List String))
  | lifecycleReply (i : ℕ) (answer : Except String String)
  | jobRemoved (jobPath result : String) (now : UInt64)
  | jobChanged (objectPath interface : String) (changed : Properties)

/-- The call that the event brings in. -/
def InternalEvent.call : InternalEvent → Option Serial
  | .method _ serial _ => some serial
  | .lifecycle serial .. => some serial
  | .jobCancel serial _ _ => some serial
  | .setLogLevel serial _ _ => some serial
  | _ => none

/-- The handler of each event. Nothing is sent in reply to a call that expects no reply. -/
def internalStep (s : Service) : InternalEvent → Option Service
  | .method m serial fails => some (m.handle s serial fails)
  | .lifecycle serial method name jobId now fails =>
    some (runUnitLifecycleMethod s serial method name jobId now fails)
  | .jobCancel serial bcJobId fails => some (methodJobCancel s serial bcJobId fails)
  | .setLogLevel serial level readFails => some (agentMethodSetLogLevel s serial level readFails)
  | .startDep unit fails => some (agentMethodDep s "StartUnit" unit fails)
  | .stopDep unit fails => some (agentMethodDep s "StopUnit" unit fails)
  | .enableMetrics => some { s with agent := (agentMethodEnableMetrics s.agent 0).1 }
  | .disableMetrics => some { s with agent := (agentMethodDisableMetrics s.agent 0).1 }
  | .systemdReply i answer => systemdReply s i answer
  | .lifecycleReply i answer => (agentSystemdReply s.agent i answer).map s.sendAll
  | .jobRemoved jobPath result now =>
    some (s.sendAll (agentMatchJobRemoved s.agent jobPath result now))
  | .jobChanged objectPath interface changed =>
    some (s.sendAll (s.agent, agentMatchJobChanged s.agent objectPath interface changed))

def internalSystem : System Service InternalEvent where
  init s := s = ⟨agentNew, [], []⟩
  step := internalStep

/-! ## Replies that are owed -/

/-- The replies to a call. -/
def repliesTo (s : Service) (call : Serial) : List Sent :=
  s.sent.filter fun o => o.answers = some call

/-- The requests that will reply to a call. -/
def awaiting (s : Service) (call : Serial) : ℕ :=
  s.agent.outstandingRequests.countP (fun req => req.requestMessage = call) +
    s.requests.countP fun req => req.callback.caller = some call

/-- The replies to a call, those that are still to come included. -/
def balance (s : Service) (call : Serial) : ℕ :=
  (repliesTo s call).length + awaiting s call

/-- No job is cancelled: there is none of that number, or the request to systemd is not sent. -/
def CancelsNoJob (s : Service) : InternalEvent → Prop
  | .jobCancel _ bcJobId fails =>
    agentFindJobtrackerByBluechiId s.agent bcJobId = none ∨
      fails = some .read ∨ fails = some .create ∨ fails = some .start
  | _ => True

/-- The calls of a run have each been answered once, or have one request that will answer. -/
def AnsweredOnce (es : List InternalEvent) (s : Service) : Prop :=
  ∀ call, balance s call = es.countP fun e => e.call = some call

variable {s s' : Service} {call : Serial}

/-- How many of the messages are replies to the call. -/
def countReplies (os : List Sent) (call : Serial) : ℕ := os.countP fun o => o.answers = some call

lemma balance_send (s : Service) (os : List Sent) (call : Serial) :
    balance (s.send os) call = balance s call + countReplies os call := by
  unfold balance repliesTo Service.send countReplies awaiting
  rw [List.filter_append, List.length_append, ← List.countP_eq_length_filter,
    ← List.countP_eq_length_filter]
  dsimp only
  omega

lemma balance_sendAll (s : Service) (p : Agent × List AgentOutput)
    (hrequests : p.1.outstandingRequests = s.agent.outstandingRequests) (call : Serial) :
    balance (s.sendAll p) call = balance s call + countReplies (p.2.map .output) call := by
  rw [← balance_send]
  unfold balance awaiting Service.sendAll
  dsimp only
  rw [hrequests]
  rfl

lemma balance_start (s : Service) (c : SystemdCall) (callback : RequestCallback) (call : Serial) :
    balance (s.start c callback) call =
      balance s call + if callback.caller = some call then 1 else 0 := by
  unfold balance awaiting Service.start
  rw [List.countP_append, List.countP_singleton]
  simp only [decide_eq_true_eq]
  unfold repliesTo
  dsimp only
  omega

lemma balance_replyError (s : Service) (serial : Serial) (message : String) (call : Serial) :
    balance (s.replyError serial message) call =
      balance s call + if serial = call then 1 else 0 := by
  unfold Service.replyError
  rw [balance_send, countReplies, List.countP_singleton]
  simp [Sent.answers]

/-! ### Handlers -/

lemma balance_forwardToSystemd (texts : FailurePoint → Option String) (c : SystemdCall)
    (s : Service) (serial : Serial) (fails : Option FailurePoint) (call : Serial) :
    balance (forwardToSystemd texts c s serial fails) call =
      balance s call + if serial = call then 1 else 0 := by
  unfold forwardToSystemd
  split
  · exact balance_replyError s serial _ call
  · rw [balance_start]
    simp [RequestCallback.caller]

lemma balance_method (m : ForwardedMethod) (s : Service) (serial : Serial)
    (fails : Option FailurePoint) (call : Serial) :
    balance (m.handle s serial fails) call = balance s call + if serial = call then 1 else 0 := by
  match m with
  | .passthrough member args => exact balance_forwardToSystemd _ _ s serial fails call
  | .listUnits => exact balance_forwardToSystemd _ _ s serial fails call
  | .listUnitFiles => exact balance_forwardToSystemd _ _ s serial fails call
  | .getUnitProperties unit interface => exact balance_forwardToSystemd _ _ s serial fails call
  | .getUnitProperty unit interface property =>
    exact balance_forwardToSystemd _ _ s serial fails call
  | .setUnitProperties unit runtime properties =>
    exact balance_forwardToSystemd _ _ s serial fails call
  | .freezeUnit unit => exact balance_forwardToSystemd _ _ s serial fails call
  | .thawUnit unit => exact balance_forwardToSystemd _ _ s serial fails call

/-- The request of a lifecycle method is listed by the agent. -/
lemma balance_lifecycle_started (s : Service) (serial : Serial) (op : AgentJobOp) (call : Serial) :
    balance (s.sendAll ({ s.agent with
        outstandingRequests := s.agent.outstandingRequests ++ [⟨serial, op⟩] }, [])) call =
      balance s call + if serial = call then 1 else 0 := by
  unfold balance awaiting repliesTo Service.sendAll
  simp only [List.map_nil, List.append_nil, List.countP_append, List.countP_singleton,
    decide_eq_true_eq]
  omega

lemma balance_runUnitLifecycleMethod (s : Service) (serial : Serial) (method : LifecycleMethod)
    (name : String) (jobId : UInt32) (now : UInt64) (fails : Option FailurePoint) (call : Serial) :
    balance (runUnitLifecycleMethod s serial method name jobId now fails) call =
      balance s call + if serial = call then 1 else 0 := by
  unfold runUnitLifecycleMethod
  split
  · exact balance_replyError s serial _ call
  · exact balance_replyError s serial _ call
  · exact balance_replyError s serial _ call
  · exact balance_replyError s serial _ call
  · exact balance_replyError s serial _ call
  · exact balance_lifecycle_started s serial _ call

/-- No job is cancelled, and the call is answered with an error. -/
lemma methodJobCancel_of_none {serial : Serial} {bcJobId : UInt32} {fails : Option FailurePoint}
    (h : CancelsNoJob s (.jobCancel serial bcJobId fails)) :
    ∃ message, methodJobCancel s serial bcJobId fails = s.replyError serial message := by
  unfold CancelsNoJob at h
  unfold methodJobCancel agentMethodJobCancel
  match hfind : agentFindJobtrackerByBluechiId s.agent bcJobId, fails with
  | none, fails =>
    split
    · exact ⟨_, rfl⟩
    · rename_i heq
      simp at heq
    · exact ⟨_, rfl⟩
  | some track, some .read => exact ⟨_, rfl⟩
  | some track, some .create => exact ⟨_, rfl⟩
  | some track, some .start => exact ⟨_, rfl⟩
  | some track, some .path => simp [hfind] at h
  | some track, some .jobOp => simp [hfind] at h
  | some track, some .append => simp [hfind] at h
  | some track, some .copy => simp [hfind] at h
  | some track, none => simp [hfind] at h

/-- A job is cancelled: the call is answered, and the request will answer it again. -/
lemma methodJobCancel_of_some {serial : Serial} {bcJobId : UInt32} {fails : Option FailurePoint}
    (h : ¬CancelsNoJob s (.jobCancel serial bcJobId fails)) :
    ∃ path, methodJobCancel s serial bcJobId fails =
      (s.start ⟨path, systemdJobIface, "Cancel", []⟩ (.jobCancel serial)).send
        [.output (.reply serial)] := by
  unfold CancelsNoJob at h
  push Not at h
  have ⟨hfind, hread, hcreate, hstart⟩ := h
  have ⟨track, htrack⟩ := Option.ne_none_iff_exists'.mp hfind
  unfold methodJobCancel agentMethodJobCancel
  rw [htrack]
  split
  · exact absurd rfl hread
  · exact absurd rfl hcreate
  · rw [decide_eq_true hstart]
    exact ⟨_, rfl⟩

/-- A job that is cancelled is answered for twice. -/
lemma balance_methodJobCancel (s : Service) (serial : Serial) (bcJobId : UInt32)
    (fails : Option FailurePoint) (call : Serial) :
    (CancelsNoJob s (.jobCancel serial bcJobId fails) →
      balance (methodJobCancel s serial bcJobId fails) call =
        balance s call + if serial = call then 1 else 0) ∧
    (¬CancelsNoJob s (.jobCancel serial bcJobId fails) →
      balance (methodJobCancel s serial bcJobId fails) call =
        balance s call + (if serial = call then 1 else 0) + if serial = call then 1 else 0) := by
  constructor
  · intro h
    have ⟨message, heq⟩ := methodJobCancel_of_none h
    rw [heq]
    exact balance_replyError s serial message call
  · intro h
    have ⟨path, heq⟩ := methodJobCancel_of_some h
    rw [heq, balance_send, balance_start, countReplies, List.countP_singleton]
    simp [RequestCallback.caller, Sent.answers]

lemma balance_agentMethodSetLogLevel (s : Service) (serial : Serial) (level : String)
    (readFails : Bool) (call : Serial) :
    balance (agentMethodSetLogLevel s serial level readFails) call =
      balance s call + if serial = call then 1 else 0 := by
  unfold agentMethodSetLogLevel
  split
  · exact balance_replyError s serial _ call
  · split
    · exact balance_replyError s serial _ call
    · rw [balance_send, countReplies, List.countP_singleton]
      simp [Sent.answers]

lemma balance_agentMethodDep (s : Service) (member unit : String) (fails : Option FailurePoint)
    (call : Serial) : balance (agentMethodDep s member unit fails) call = balance s call := by
  unfold agentMethodDep
  split
  · rw [balance_start]
    simp [RequestCallback.caller]
  · rfl

/-! ### Answers and signals -/

/-- A callback replies once, to the message that its request was made for. -/
lemma countReplies_systemdRequestCallback (callback : RequestCallback)
    (answer : Except String (List String)) (call : Serial) :
    countReplies (systemdRequestCallback callback answer) call =
      if callback.caller = some call then 1 else 0 := by
  match callback, answer with
  | .copy serial, .error message =>
    simp [systemdRequestCallback, countReplies, Sent.answers, RequestCallback.caller]
  | .copy serial, .ok contents =>
    simp [systemdRequestCallback, countReplies, Sent.answers, RequestCallback.caller]
  | .dep, answer => simp [systemdRequestCallback, countReplies, RequestCallback.caller]
  | .jobCancel serial, .error message =>
    simp [systemdRequestCallback, countReplies, Sent.answers, RequestCallback.caller]
  | .jobCancel serial, .ok contents =>
    simp [systemdRequestCallback, countReplies, Sent.answers, RequestCallback.caller]

/-- One element of a list leaves it. -/
lemma countP_eraseIdx {α : Type} (p : α → Bool) {l : List α} {i : ℕ} {x : α} (hx : l[i]? = some x) :
    l.countP p = (l.eraseIdx i).countP p + if p x then 1 else 0 := by
  have ⟨hi, hget⟩ := List.getElem?_eq_some_iff.mp hx
  rw [← (List.getElem_cons_eraseIdx_perm hi).countP_eq, List.countP_cons, hget]

lemma balance_systemdReply {i : ℕ} {answer : Except String (List String)}
    (hstep : systemdReply s i answer = some s') (call : Serial) :
    balance s' call = balance s call := by
  have ⟨req, hreq, heq⟩ := Option.map_eq_some_iff.mp hstep
  have hcount := countP_eraseIdx (fun req => req.callback.caller = some call) hreq
  rw [← heq, balance_send, countReplies_systemdRequestCallback]
  unfold balance awaiting repliesTo
  dsimp only
  rw [hcount]
  simp only [decide_eq_true_eq]
  omega

lemma balance_lifecycleReply {i : ℕ} {answer : Except String String}
    (hstep : (agentSystemdReply s.agent i answer).map s.sendAll = some s') (call : Serial) :
    balance s' call = balance s call := by
  have ⟨p, hp, heq⟩ := Option.map_eq_some_iff.mp hstep
  have ⟨req, hreq, heq'⟩ := Option.map_eq_some_iff.mp hp
  have hcount := countP_eraseIdx (fun req => req.requestMessage = call) hreq
  have hlisted : p.1.outstandingRequests = s.agent.outstandingRequests.eraseIdx i := by
    rw [← heq']
    match answer with
    | .error message => rfl
    | .ok path => rfl
  have hreplies : countReplies (p.2.map .output) call =
      if req.requestMessage = call then 1 else 0 := by
    rw [← heq']
    match answer with
    | .error message => simp [agentUnitLifecycleMethodCallback, countReplies, Sent.answers]
    | .ok path => simp [agentUnitLifecycleMethodCallback, countReplies, Sent.answers]
  -- the list is as after the answer before anything is sent
  let t : Service := { s with agent := p.1 }
  have hsent : s' = t.send (p.2.map .output) := by
    rw [← heq]
    rfl
  rw [hsent, balance_send, hreplies]
  unfold balance awaiting repliesTo
  dsimp only [t]
  rw [hlisted, hcount]
  simp only [decide_eq_true_eq]
  omega

/-- Signals answer no call. -/
lemma countReplies_signals {os : List AgentOutput} (h : ∀ o ∈ os, ∃ sig, o = .signal sig)
    (call : Serial) : countReplies (os.map .output) call = 0 := by
  unfold countReplies
  rw [List.countP_eq_zero]
  intro o ho
  have ⟨o', ho', heq⟩ := List.mem_map.mp ho
  have ⟨sig, hsig⟩ := h o' ho'
  rw [← heq, hsig]
  simp [Sent.answers]

lemma balance_jobRemoved (s : Service) (jobPath result : String) (now : UInt64) (call : Serial) :
    balance (s.sendAll (agentMatchJobRemoved s.agent jobPath result now)) call =
      balance s call := by
  have hsame : (agentMatchJobRemoved s.agent jobPath result now).1.outstandingRequests =
        s.agent.outstandingRequests ∧
      ∀ o ∈ (agentMatchJobRemoved s.agent jobPath result now).2, ∃ sig, o = .signal sig := by
    unfold agentMatchJobRemoved
    split
    · exact ⟨rfl, by simp⟩
    · refine ⟨rfl, ?_⟩
      unfold agentJobDone
      split
      · simp
      · simp
  rw [balance_sendAll _ _ hsame.1, countReplies_signals hsame.2]
  rfl

lemma balance_jobChanged (s : Service) (objectPath interface : String) (changed : Properties)
    (call : Serial) :
    balance (s.sendAll (s.agent, agentMatchJobChanged s.agent objectPath interface changed)) call =
      balance s call := by
  have hsignals : ∀ o ∈ agentMatchJobChanged s.agent objectPath interface changed,
      ∃ sig, o = .signal sig := by
    unfold agentMatchJobChanged
    split
    · simp
    · split
      · simp
      · split
        · simp
        · simp
  rw [balance_sendAll s (s.agent, _) rfl, countReplies_signals hsignals]
  rfl

/-! ## Runs -/

/-- One event. -/
lemma balance_step {e : InternalEvent} (hstep : internalStep s e = some s') :
    ∃ extra : Serial → ℕ, (∀ call, balance s' call =
        balance s call + (if e.call = some call then 1 else 0) + extra call) ∧
      ((∀ call, extra call = 0) ↔ CancelsNoJob s e) := by
  -- but for the cancelling of a job there is nothing in excess
  have hplain : CancelsNoJob s e → (∀ call, balance s' call =
        balance s call + if e.call = some call then 1 else 0) →
      ∃ extra : Serial → ℕ, (∀ call, balance s' call =
          balance s call + (if e.call = some call then 1 else 0) + extra call) ∧
        ((∀ call, extra call = 0) ↔ CancelsNoJob s e) :=
    fun hcancel h => ⟨fun _ => 0, fun call => h call, ⟨fun _ => hcancel, fun _ _ => rfl⟩⟩
  match e with
  | .method m serial fails =>
    rw [← Option.some.inj hstep] at hplain ⊢
    exact hplain trivial fun call => by
      simpa [InternalEvent.call] using balance_method m s serial fails call
  | .lifecycle serial method name jobId now fails =>
    rw [← Option.some.inj hstep] at hplain ⊢
    exact hplain trivial fun call => by
      simpa [InternalEvent.call] using
        balance_runUnitLifecycleMethod s serial method name jobId now fails call
  | .setLogLevel serial level readFails =>
    rw [← Option.some.inj hstep] at hplain ⊢
    exact hplain trivial fun call => by
      simpa [InternalEvent.call] using balance_agentMethodSetLogLevel s serial level readFails call
  | .jobCancel serial bcJobId fails =>
    rw [← Option.some.inj hstep] at hplain ⊢
    by_cases hcancel : CancelsNoJob s (.jobCancel serial bcJobId fails)
    · exact hplain hcancel fun call => by
        simpa [InternalEvent.call] using (balance_methodJobCancel s serial bcJobId fails call).1 hcancel
    · refine ⟨fun call => if serial = call then 1 else 0, fun call => ?_, ?_⟩
      · simpa [InternalEvent.call] using
          (balance_methodJobCancel s serial bcJobId fails call).2 hcancel
      · refine ⟨fun hall => ?_, fun h => absurd h hcancel⟩
        have hself : (if serial = serial then 1 else 0) = 0 := hall serial
        simp at hself
  | .startDep unit fails =>
    rw [← Option.some.inj hstep] at hplain ⊢
    exact hplain trivial fun call => balance_agentMethodDep s _ unit fails call
  | .stopDep unit fails =>
    rw [← Option.some.inj hstep] at hplain ⊢
    exact hplain trivial fun call => balance_agentMethodDep s _ unit fails call
  | .enableMetrics =>
    rw [← Option.some.inj hstep] at hplain ⊢
    refine hplain trivial fun call => ?_
    unfold agentMethodEnableMetrics
    split
    · rfl
    · rfl
  | .disableMetrics =>
    rw [← Option.some.inj hstep] at hplain ⊢
    refine hplain trivial fun call => ?_
    unfold agentMethodDisableMetrics
    split
    · rfl
    · rfl
  | .systemdReply i answer => exact hplain trivial fun call => balance_systemdReply hstep call
  | .lifecycleReply i answer => exact hplain trivial fun call => balance_lifecycleReply hstep call
  | .jobRemoved jobPath result now =>
    rw [← Option.some.inj hstep] at hplain ⊢
    exact hplain trivial fun call => balance_jobRemoved s jobPath result now call
  | .jobChanged objectPath interface changed =>
    rw [← Option.some.inj hstep] at hplain ⊢
    exact hplain trivial fun call => balance_jobChanged s objectPath interface changed call

/-- What is in excess along a run is in excess in one of its steps. -/
lemma balance_run (es : List InternalEvent) (s : Service) (hrun : run internalSystem s es = some s') :
    ∃ extra : Serial → ℕ, (∀ call, balance s' call =
        balance s call + es.countP (fun e => e.call = some call) + extra call) ∧
      ((∀ call, extra call = 0) ↔ GuardedRun internalSystem CancelsNoJob s es) := by
  induction es generalizing s with
  | nil =>
    rw [run_nil, Option.some.injEq] at hrun
    rw [hrun]
    exact ⟨fun _ => 0, fun _ => rfl, ⟨fun _ => trivial, fun _ _ => rfl⟩⟩
  | cons e es ih =>
    rw [run_cons, Option.bind_eq_some_iff] at hrun
    have ⟨t, ht, hrun⟩ := hrun
    have ⟨first, hfirst, hguard⟩ := balance_step ht
    have ⟨rest, hrest, hguards⟩ := ih t hrun
    refine ⟨fun call => first call + rest call, fun call => ?_, ?_⟩
    · rw [hrest, hfirst, List.countP_cons]
      simp only [decide_eq_true_eq]
      omega
    · have hzero : (∀ call, first call + rest call = 0) ↔
          (∀ call, first call = 0) ∧ ∀ call, rest call = 0 := by
        constructor
        · intro hall
          refine ⟨fun call => ?_, fun call => ?_⟩
          · have := hall call
            omega
          · have := hall call
            omega
        · intro hall call
          rw [hall.1, hall.2]
      rw [hzero, hguard, hguards]
      show _ ↔ CancelsNoJob s e ∧ ∀ u, internalSystem.step s e = some u →
        GuardedRun internalSystem CancelsNoJob u es
      refine and_congr_right fun _ => ⟨fun h u hu => ?_, fun h => h t ht⟩
      have heq : t = u := Option.some.inj (ht.symm.trans hu)
      exact heq ▸ h

/-- The calls of a run have each been answered once, or have one request outstanding that will answer,
exactly when no job is cancelled in it. -/
theorem answeredOnce_iff {es : List InternalEvent} {s₀ : Service} (hinit : internalSystem.init s₀)
    (hrun : run internalSystem s₀ es = some s) :
    AnsweredOnce es s ↔ GuardedRun internalSystem CancelsNoJob s₀ es := by
  have ⟨extra, hextra, hguard⟩ := balance_run es s₀ hrun
  have hstart : ∀ call, balance s₀ call = 0 := by
    intro call
    rw [show s₀ = ⟨agentNew, [], []⟩ from hinit]
    rfl
  rw [← hguard]
  apply forall_congr'
  intro call
  have hcall := hextra call
  rw [hstart] at hcall
  constructor
  · intro heq
    omega
  · intro hzero
    omega

/-- A unit is started and its job is cancelled under another number. -/
def startsUnit : List InternalEvent :=
  [.lifecycle 1 .startUnit "a.service" 7 0 none, .lifecycleReply 0 (.ok "/job/1"),
    .method .listUnits 2 none, .jobCancel 3 8 none, .systemdReply 0 (.ok ["a.service"])]

theorem startsUnit_answeredOnce :
    ∃ s, run internalSystem ⟨agentNew, [], []⟩ startsUnit = some s ∧ AnsweredOnce startsUnit s := by
  have hrun : ∃ s, run internalSystem ⟨agentNew, [], []⟩ startsUnit = some s := ⟨_, rfl⟩
  have ⟨s, hs⟩ := hrun
  refine ⟨s, hs, (answeredOnce_iff rfl hs).mpr ?_⟩
  refine ⟨trivial, fun t ht => ⟨trivial, fun u hu => ⟨trivial, fun v hv => ⟨Or.inl ?_, fun _ _ =>
    ⟨trivial, fun _ _ => trivial⟩⟩⟩⟩⟩
  rw [← Option.some.inj ht] at hu
  rw [← Option.some.inj hu] at hv
  rw [← Option.some.inj hv]
  decide

/-- The job that has been started is cancelled: the call is answered before systemd has, and again
afterwards. -/
theorem jobCancel_answered_twice : ¬∀ s₀ es s, internalSystem.init s₀ →
    run internalSystem s₀ es = some s → AnsweredOnce es s := by
  intro hall
  let es : List InternalEvent :=
    [.lifecycle 1 .startUnit "a.service" 7 0 none, .lifecycleReply 0 (.ok "/job/1"),
      .jobCancel 2 7 none, .systemdReply 0 (.ok [])]
  have hrun : ∃ s, run internalSystem ⟨agentNew, [], []⟩ es = some s ∧
      repliesTo s 2 = [.output (.reply 2), .output (.reply 2)] ∧ awaiting s 2 = 0 := ⟨_, rfl, rfl, rfl⟩
  have ⟨s, hs, hreplies, hawaiting⟩ := hrun
  have honce := hall _ es s rfl hs 2
  unfold balance at honce
  rw [hreplies, hawaiting] at honce
  simp [es, InternalEvent.call] at honce

end MethodReplies
end BlueChi
