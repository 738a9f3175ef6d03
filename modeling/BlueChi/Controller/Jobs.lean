import BlueChi.Controller.Proxies

/-!
# Jobs of the controller

A job is announced and listed when the agent has accepted the request, and leaves the list
with the announcement of its removal. The object of a job stays exported for as long as
somebody holds a reference of it, and two jobs cannot be exported under the same id.
-/

namespace BlueChi

/-- `job->object_path`. -/
def jobObjectPath (job : Job) : String := s!"/org/eclipse/bluechi/job/{job.id.toNat}"

/-- The answers of an agent to the synchronous `GetUnitProperty` calls of the metrics: the value
of a property of a unit, if there is one. -/
abbrev SyncCalls := NodeId → String → String → Option UInt64

namespace Controller

/-! ## References and exports -/

/-- `job_unref`: the last reference takes the object off the bus. -/
def jobUnref (s : Controller) (ptr : ℕ) (o : Owner) : Controller :=
  let s := s.dropRef (.job ptr) o
  if s.isFreed (.job ptr) then
    { s with exportedJobs := s.exportedJobs.filter fun e => !(e.1 = ptr) }
  else s

/-- `sd_bus_add_object_vtable` refuses a second object at the same path. -/
def jobPathTaken (s : Controller) (job : Job) : Bool := s.exportedJobs.any fun e => e.2 = job.id

/-- `job_export`, when the path is free. -/
def jobExport (s : Controller) (job : Job) : Controller :=
  { s with exportedJobs := s.exportedJobs ++ [(job.ptr, job.id)] }

/-! ## Adding and removing -/

/-- `LIST_APPEND` to the jobs, with the reference that the list holds. -/
def appendJob (s : Controller) (job : Job) : Controller :=
  { s.takeRef (.job job.ptr) .list with jobs := s.jobs ++ [job] }

/-- `LIST_REMOVE` from the jobs. -/
def unlistJob (s : Controller) (job : Job) : Controller :=
  { s.listRemove .jobs (s.jobs.any fun j => j.ptr = job.ptr) with
    jobs := s.jobs.eraseP fun j => j.ptr = job.ptr }

/-- Change the fields of a job of the list. -/
def modifyJob (s : Controller) (ptr : ℕ) (f : Job → Job) : Controller :=
  { s with jobs := s.jobs.map fun j => if j.ptr = ptr then f j else j }

/-- `controller_add_job`; the emission of the signal succeeds. -/
def addJob (s : Controller) (job : Job) : Bool × Controller :=
  if s.jobPathTaken job then (false, s)
  else (true, ((s.jobExport job).emit (.jobNew job)).appendJob job)

/-- `node_method_get_unit_uint64_property_sync`. -/
def getUnitUint64PropertySync (sync : SyncCalls) (s : Controller) (n : NodeId)
    (unit property : String) : Option UInt64 :=
  if nodeHasAgent (s.node n) then sync n unit property else none

/-- `metrics_produce_job_report`. -/
def metricsProduceJobReport (sync : SyncCalls) (s : Controller) (job : Job) : Controller :=
  match s.getUnitUint64PropertySync sync job.node job.unit "InactiveExitTimestampMonotonic" with
  | none => s
  | some inactiveExit =>
    match s.getUnitUint64PropertySync sync job.node job.unit "ActiveEnterTimestampMonotonic" with
    | none => s
    | some activeEnter =>
      s.emit (.startUnitJobMetrics job (job.jobEndMicros - job.jobStartMicros)
        (activeEnter - inactiveExit))

/-- There is a report, or nothing is done. -/
lemma metricsProduceJobReport_eq_or (sync : SyncCalls) (s : Controller) (job : Job) :
    s.metricsProduceJobReport sync job = s ∨ ∃ measured net,
      s.metricsProduceJobReport sync job = s.emit (.startUnitJobMetrics job measured net) := by
  unfold metricsProduceJobReport
  split
  · exact Or.inl rfl
  · split
    · exact Or.inl rfl
    · exact Or.inr ⟨_, _, rfl⟩

/-- `controller_remove_job`. -/
def removeJob (sync : SyncCalls) (s : Controller) (job : Job) (result : String) : Controller :=
  let s := (s.emit (.jobRemoved job (s.nodeName job.node) result)).unlistJob job
  let s := if s.metricsEnabled && job.type = "start" then s.metricsProduceJobReport sync job else s
  s.jobUnref job.ptr .list

/-! ## Signals of the agents -/

/-- `controller_job_state_changed`: the first job with that id. -/
def jobStateChanged (s : Controller) (jobId : UInt32) (state : String) : Controller :=
  match s.jobs.find? fun job => job.id = jobId with
  | none => s
  | some job =>
    let newState := jobStateFromString state
    (s.modifyJob job.ptr fun job => { job with state := newState }).emit
      (.jobState { job with state := newState })

/-- `controller_finish_job`: the first job with that id. -/
def finishJob (sync : SyncCalls) (s : Controller) (jobId : UInt32) (result : String)
    (now : UInt64) : Controller :=
  match s.jobs.find? fun job => job.id = jobId with
  | none => s
  | some job =>
    let job' := if s.metricsEnabled then { job with jobEndMicros := now } else job
    removeJob sync (s.modifyJob job.ptr fun _ => job') job' result

end Controller
end BlueChi
