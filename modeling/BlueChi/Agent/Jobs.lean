import BlueChi.Agent.State

/-!
# Job tracking in the agent

The unit lifecycle methods of the agent, the reply of systemd to them, and the two systemd
signals on jobs. A tracker connects the path of a systemd job with the BlueChi job it was
started for.
-/

namespace BlueChi

/-! ## Tracking -/

/-- `agent_track_job`: trackers are prepended. -/
def agentTrackJob (agent : Agent) (jobObjectPath : String) (op : AgentJobOp) : Agent :=
  { agent with trackedJobs := ⟨jobObjectPath, op⟩ :: agent.trackedJobs }

/-- `finalize_time_interval_micros`, with the current time as an argument. -/
def finalizeTimeIntervalMicros (now startTimeMicros : UInt64) : UInt64 := now - startTimeMicros

/-- `agent_job_done`. -/
def agentJobDone (agent : Agent) (op : AgentJobOp) (result : String) (now : UInt64) :
    List AgentOutput :=
  (if agent.metricsEnabled then
    [.signal (.agentJobMetrics op.unit op.method
      (finalizeTimeIntervalMicros now op.jobStartMicros))]
  else []) ++ [.signal (.jobDone op.bcJobId result)]

/-! ## Lifecycle calls -/

/-- The four methods that run through `agent_run_unit_lifecycle_method`. -/
inductive LifecycleMethod
  | startUnit | stopUnit | restartUnit | reloadUnit
  deriving DecidableEq, Repr

/-- The method's name on the bus. -/
def LifecycleMethod.name : LifecycleMethod → String
  | .startUnit => "StartUnit"
  | .stopUnit => "StopUnit"
  | .restartUnit => "RestartUnit"
  | .reloadUnit => "ReloadUnit"

/-- `agent_run_unit_lifecycle_method`. `started` tells whether `systemd_request_start` could
send the call; the request is dropped when it could not. -/
def agentRunUnitLifecycleMethod (agent : Agent) (serial : ℕ) (method : LifecycleMethod)
    (name : String) (jobId : UInt32) (now : UInt64) (started : Bool) :
    Agent × List AgentOutput :=
  let op : AgentJobOp := ⟨jobId, now, name, method.name⟩
  if started then
    ({ agent with outstandingRequests := agent.outstandingRequests ++ [⟨serial, op⟩] }, [])
  else
    (agent, [.replyError serial "Failed to start a systemd request"])

/-- `unit_lifecycle_method_callback`: systemd's answer to a request, an error message or the
path of the job. -/
def agentUnitLifecycleMethodCallback (agent : Agent) (req : SystemdRequest) :
    Except String String → Agent × List AgentOutput
  | .error message => (agent, [.replyError req.requestMessage message])
  | .ok jobObjectPath => (agentTrackJob agent jobObjectPath req.op, [.reply req.requestMessage])

/-- The answer to the `i`-th outstanding request. The callback holds the last reference, so
the request leaves the list. -/
def agentSystemdReply (agent : Agent) (i : ℕ) (answer : Except String String) :
    Option (Agent × List AgentOutput) :=
  agent.outstandingRequests[i]?.map fun req =>
    agentUnitLifecycleMethodCallback
      { agent with outstandingRequests := agent.outstandingRequests.eraseIdx i } req answer

/-! ## Signals of systemd -/

/-- `SYSTEMD_JOB_IFACE`. -/
def systemdJobIface : String := "org.freedesktop.systemd1.Job"

/-- `agent_match_job_removed`: the loop breaks after the first tracker of the path. -/
def agentMatchJobRemoved (agent : Agent) (jobPath result : String) (now : UInt64) :
    Agent × List AgentOutput :=
  match agent.trackedJobs.find? fun track => track.jobObjectPath = jobPath with
  | none => (agent, [])
  | some track =>
    ({ agent with
        trackedJobs := agent.trackedJobs.eraseP fun track => track.jobObjectPath = jobPath },
      agentJobDone agent track.op result now)

/-- `agent_match_job_changed`: `op` is the operation of the first tracker of the path. -/
def agentMatchJobChanged (agent : Agent) (objectPath interface : String)
    (changed : Properties) : List AgentOutput :=
  if interface ≠ systemdJobIface then []
  else
    match agent.trackedJobs.find? fun track => track.jobObjectPath = objectPath with
    | none => []
    | some track =>
      match busParsePropertyString changed "State" with
      | .error _ => []
      | .ok state => [.signal (.jobStateChanged track.op.bcJobId state)]

/-! ## Other methods on jobs -/

/-- `agent_find_jobtracker_by_bluechi_id`. -/
def agentFindJobtrackerByBluechiId (agent : Agent) (bcJobId : UInt32) : Option JobTracker :=
  agent.trackedJobs.find? fun track => track.op.bcJobId = bcJobId

/-- `agent_method_job_cancel`: the reply, and the systemd job whose `Cancel` is called. -/
def agentMethodJobCancel (agent : Agent) (serial : ℕ) (bcJobId : UInt32) (started : Bool) :
    List AgentOutput × Option String :=
  match agentFindJobtrackerByBluechiId agent bcJobId with
  | none => ([.replyError serial s!"No job with ID '{bcJobId}' found"], none)
  | some track =>
    if started then ([.reply serial], some track.jobObjectPath)
    else ([.replyError serial "Failed to start systemd request"], none)

/-- `agent_method_enable_metrics`, when the metrics vtable can be added. -/
def agentMethodEnableMetrics (agent : Agent) (serial : ℕ) : Agent × List AgentOutput :=
  if agent.metricsEnabled then (agent, [.replyError serial "Metrics already enabled"])
  else ({ agent with metricsEnabled := true }, [.reply serial])

/-- `agent_method_disable_metrics`. -/
def agentMethodDisableMetrics (agent : Agent) (serial : ℕ) : Agent × List AgentOutput :=
  if !agent.metricsEnabled then (agent, [.replyError serial "Metrics already disabled"])
  else ({ agent with metricsEnabled := false }, [.reply serial])

end BlueChi
