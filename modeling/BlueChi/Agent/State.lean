import BlueChi.BusUtils

/-!
# The agent's state and its messages

The part of `struct Agent` that the job tracking and the unit subscriptions work on, and what
the agent sends on its peer bus. A function of the agent returns the new state and the
messages it sends, in the order in which they are sent.
-/

namespace BlueChi

/-! ## Messages of the agent -/

/-- The signals of the agent's internal interface and of its metrics interface. -/
inductive AgentSignal
  | jobDone (bcJobId : UInt32) (result : String)
  | jobStateChanged (bcJobId : UInt32) (state : String)
  | unitNew (unit reason : String)
  | unitStateChanged (unit activeState substate reason : String)
  | unitRemoved (unit : String)
  | unitPropertiesChanged (unit interface : String) (properties : Properties)
  | agentJobMetrics (unit method : String) (systemdJobTimeMicros : UInt64)
  deriving DecidableEq

/-- What a handler of the agent sends: a signal, or the reply to the call with that serial. -/
inductive AgentOutput
  | signal (s : AgentSignal)
  | reply (serial : ℕ)
  | replyError (serial : ℕ) (message : String)
  deriving DecidableEq

/-! ## Records -/

/-- `AgentJobOp`. -/
structure AgentJobOp where
  bcJobId : UInt32
  jobStartMicros : UInt64
  unit : String
  method : String
  deriving DecidableEq

/-- `JobTracker`, whose `userdata` is the job operation. -/
structure JobTracker where
  jobObjectPath : String
  op : AgentJobOp
  deriving DecidableEq

/-- The `SystemdRequest` of a unit lifecycle call: `requestMessage` is the serial of the
controller's call and `op` the `userdata`. -/
structure SystemdRequest where
  requestMessage : ℕ
  op : AgentJobOp
  deriving DecidableEq

/-- `AgentUnitInfo`. -/
structure AgentUnitInfo where
  objectPath : String
  unit : String
  subscribed : Bool
  loaded : Bool
  activeState : UnitActiveState
  substate : Option String
  deriving DecidableEq

/-- `struct Agent`, without its connection and its proxies. `unitInfos` is the hash map of the
units, keyed by `objectPath`. -/
structure Agent where
  outstandingRequests : List SystemdRequest
  trackedJobs : List JobTracker
  metricsEnabled : Bool
  unitInfos : List AgentUnitInfo
  wildcardSubscriptionActive : Bool
  deriving DecidableEq

/-- `agent_new`. -/
def agentNew : Agent where
  outstandingRequests := []
  trackedJobs := []
  metricsEnabled := false
  unitInfos := []
  wildcardSubscriptionActive := false

end BlueChi
