import BlueChi.Controller.JobIsolation

/-!
# The times of jobs

A start job gets its start time when it is made and its end time when its agent reports the end, both
only while metrics are enabled. The report of its metrics is made from both when it leaves the list,
and from two timestamps of its unit.
-/

namespace BlueChi

open Execution

/-- What `get_time_micros` returns for the times of a job. -/
def Event.reading : Event → Option UInt64
  | .lifecycle _ _ _ _ _ startTime _ => some startTime
  | .agentSignal _ _ (.jobDone _ _ now _) => some now
  | _ => none

/-- The calls for the timestamps of a unit. -/
def Event.sync : Event → Option SyncCalls
  | .agentSignal _ _ (.jobDone _ _ _ sync) => some sync
  | .stop sync => some sync
  | _ => none

/-- The calls are made when a job is done and when the controller stops. -/
lemma Event.eq_of_sync {e : Event} {sync : SyncCalls} (h : e.sync = some sync) :
    (∃ bus n id result now, e = .agentSignal bus n (.jobDone id result now sync)) ∨
      e = .stop sync := by
  unfold Event.sync at h
  split at h
  · rename_i bus n id result now sync'
    rw [Option.some.injEq] at h
    exact Or.inl ⟨bus, n, id, result, now, by rw [h]⟩
  · rw [Option.some.injEq] at h
    exact Or.inr (by rw [h])
  · simp at h

/-- The report is made from the times of the job, which are both there and in order, and from
timestamps of its unit that are in order: neither difference wraps. -/
structure MeasuredBy (e : Event) (job : Job) (measured net : UInt64) : Prop where
  started : job.jobStartMicros ≠ 0
  ended : job.jobStartMicros ≤ job.jobEndMicros
  measured : measured.toNat = job.jobEndMicros.toNat - job.jobStartMicros.toNat
  unit : ∃ sync inactiveExit activeEnter, e.sync = some sync ∧
    sync job.node job.unit "InactiveExitTimestampMonotonic" = some inactiveExit ∧
    sync job.node job.unit "ActiveEnterTimestampMonotonic" = some activeEnter ∧
    inactiveExit ≤ activeEnter ∧ net.toNat = activeEnter.toNat - inactiveExit.toNat

namespace Controller

variable {s s' s'' : Controller} {t : UInt64} {e : Event}

/-- Every report that the event makes is measured. -/
def ReportsMeasured (s : Controller) (e : Event) : Prop :=
  ∀ s', s.step e = some s' → ∀ job measured net,
    Output.startUnitJobMetrics job measured net ∈ s'.log.drop s.log.length →
      MeasuredBy e job measured net

/-- The timestamps that the report of a job is made from, if there is one. -/
def reportTimes (sync : SyncCalls) (s : Controller) (job : Job) : Option (UInt64 × UInt64) :=
  if s.metricsEnabled && job.type = "start" then
    match s.getUnitUint64PropertySync sync job.node job.unit "InactiveExitTimestampMonotonic",
      s.getUnitUint64PropertySync sync job.node job.unit "ActiveEnterTimestampMonotonic" with
    | some inactiveExit, some activeEnter => some (inactiveExit, activeEnter)
    | _, _ => none
  else none

/-- When a reported job ends, it has a start time and the timestamps of its unit are in order. When
the controller stops, there is no job to report on. -/
def measuresWell (s : Controller) : Event → Bool
  | .agentSignal _ _ (.jobDone id _ _ sync) =>
    (s.jobOfId id).all fun job => (s.reportTimes sync job).all fun times =>
      job.jobStartMicros ≠ 0 && times.1 ≤ times.2
  | .stop sync => s.jobs.all fun job => (s.reportTimes sync job).isNone
  | _ => true

/-! ## The times that are recorded -/

/-- The job was made by the time `t`, and has not ended. -/
def StartedBy (t : UInt64) (job : Job) : Prop := job.jobStartMicros ≤ t ∧ job.jobEndMicros = 0

/-- So are all jobs that are listed or asked for. -/
structure Timed (t : UInt64) (s : Controller) : Prop where
  jobs : ∀ job ∈ s.jobs, StartedBy t job
  asked : ∀ r serial job, (s.request r).handler = .lifecycle serial job → StartedBy t job

lemma Timed.mono {t' : UInt64} (h : Timed t s) (hle : t ≤ t') : Timed t' s where
  jobs job hjob := ⟨UInt64.le_trans (h.jobs job hjob).1 hle, (h.jobs job hjob).2⟩
  asked r serial job hreq :=
    ⟨UInt64.le_trans (h.asked r serial job hreq).1 hle, (h.asked r serial job hreq).2⟩

/-- All messages but reports. -/
def quietKinds : List OutputKind := .job :: .system :: otherKinds

lemma mem_quietKinds : ∀ {kind : OutputKind}, kind ≠ .report → kind ∈ quietKinds := by
  intro kind hkind
  match kind with
  | .report => exact absurd rfl hkind
  | .job | .status | .system | .notice | .reply | .table | .dependency | .request | .metrics
  | .heartbeat => decide

/-- The jobs stay so, and nothing is reported. -/
structure Silent (t : UInt64) (s s' : Controller) : Prop where
  timed : Timed t s → Timed t s'
  emits : Emits quietKinds s s'

namespace Silent

lemma refl (t : UInt64) (s : Controller) : Silent t s s := ⟨id, .refl _ s⟩

lemma trans (h : Silent t s s') (h' : Silent t s' s'') : Silent t s s'' :=
  ⟨fun ht => h'.timed (h.timed ht), h.emits.trans h'.emits⟩

lemma foldl {α : Type} {f : Controller → α → Controller} (hf : ∀ s x, Silent t s (f s x))
    (xs : List α) (s : Controller) : Silent t s (xs.foldl f s) := by
  induction xs generalizing s with
  | nil => exact refl t s
  | cons x xs ih => exact (hf s x).trans (ih _)

/-- No job is added, and no handler changes. -/
lemma of_jobs (hjobs : ∀ job ∈ s'.jobs, job ∈ s.jobs)
    (hhandler : ∀ r, (s'.request r).handler = (s.request r).handler)
    (hemits : Emits quietKinds s s') : Silent t s s' where
  timed h :=
    ⟨fun job hjob => h.jobs job (hjobs job hjob), fun r serial job hreq =>
      h.asked r serial job ((hhandler r).symm.trans hreq)⟩
  emits := hemits

lemma of_frame (f : JobFrame s s') : Silent t s s' := by
  apply of_jobs
  · intro job hjob
    rw [f.jobs] at hjob
    exact hjob
  · intro r
    rw [f.request]
  · apply f.emits.mono
    intro kind hkind
    exact List.mem_cons_of_mem _ (List.mem_cons_of_mem _ hkind)

lemma emit (s : Controller) {o : Output} (ho : o.kind ≠ .report) : Silent t s (s.emit o) :=
  of_jobs (fun _ hjob => hjob) (fun _ => rfl) (emits_emit s (mem_quietKinds ho))

lemma jobUnref (s : Controller) (ptr : ℕ) (o : Owner) : Silent t s (s.jobUnref ptr o) := by
  have hrest : (s.jobUnref ptr o).jobs = s.jobs ∧ (s.jobUnref ptr o).request = s.request ∧
      (s.jobUnref ptr o).log = s.log := by
    unfold Controller.jobUnref
    dsimp only
    split
    · exact ⟨rfl, rfl, rfl⟩
    · exact ⟨rfl, rfl, rfl⟩
  apply of_jobs
  · intro job hjob
    rw [hrest.1] at hjob
    exact hjob
  · intro r
    rw [hrest.2.1]
  · exact .of_log_eq hrest.2.2

lemma checkSystemStatus (s : Controller) (prev : ℤ) : Silent t s (s.checkSystemStatus prev) := by
  unfold Controller.checkSystemStatus
  dsimp only
  split
  · exact emit s OutputKind.noConfusion
  · exact refl t s

lemma countOnline (s : Controller) (d : ℤ) : Silent t s (s.countOnline d) := by
  have hcount : Silent t s { s with numberOfNodesOnline := s.numberOfNodesOnline + d } :=
    of_jobs (fun _ hjob => hjob) (fun _ => rfl) (.of_log_eq rfl)
  exact hcount.trans (checkSystemStatus _ _)

/-! ### Requests -/

lemma agentRequestUnref (s : Controller) (r : RequestId) (o : Owner) :
    Silent t s (s.agentRequestUnref r o) := by
  have hdrop : Silent t s (s.dropRef (.request r) o) :=
    of_jobs (fun _ hjob => hjob) (fun _ => rfl) (.of_log_eq rfl)
  have hfree : ∀ (s : Controller) (handler : RequestHandler),
      Silent t s (s.freeUserdata handler) := by
    intro s handler
    match handler with
    | .lifecycle _ job => exact jobUnref s job.ptr .creator
    | .forward _ => exact refl t s
    | .jobCancel _ => exact refl t s
    | .fleet _ => exact refl t s
  unfold Controller.agentRequestUnref
  dsimp only
  split
  · have hfreed := hdrop.trans (hfree _ ((s.dropRef (.request r) o).request r).handler)
    have hunlist := hfreed.trans (of_frame (jobFrame_unlistRequest _ r))
    exact hunlist.trans (of_frame (.of_proxy (proxyFrame_nodeUnref _ _ _)))
  · exact hdrop

/-- A new request asks for a job that was made by then, if for any. -/
lemma nodeCreateRequest (s : Controller) (n : NodeId) {handler : RequestHandler}
    (hjob : ∀ serial job, handler = .lifecycle serial job → StartedBy t job) :
    Silent t s (s.nodeCreateRequest n handler) where
  timed h := by
    refine ⟨fun job hmem => h.jobs job (by simpa using hmem), fun r serial job hreq => ?_⟩
    rw [nodeCreateRequest_request] at hreq
    by_cases hr : r = s.nextPtr
    · rw [hr, Function.update_self] at hreq
      exact hjob serial job hreq
    · rw [Function.update_of_ne hr] at hreq
      exact h.asked r serial job hreq
  emits := .of_log_eq (by simp)

lemma agentRequestStart (s : Controller) (r : RequestId) (call : AgentCall) :
    Silent t s (s.agentRequestStart r call) := by
  have hsend : Silent t s (s.sendAgent (s.request r).node call) := of_frame (jobFrame_sendAgent ..)
  exact hsend.trans (of_jobs (fun _ hjob => hjob) (fun _ => rfl) (.of_log_eq rfl))

lemma reply (s : Controller) {o : Output} (ho : o.kind = .reply) : Silent t s (s.emit o) :=
  emit s fun heq => OutputKind.noConfusion (ho.symm.trans heq)

lemma runRequest (s : Controller) (n : NodeId) (serial : Serial) {handler : RequestHandler}
    (call : RequestId → AgentCall) (started : Bool) (failure : String)
    (hjob : ∀ serial job, handler = .lifecycle serial job → StartedBy t job) :
    Silent t s (s.runRequest n serial handler call started failure) := by
  have hnew := nodeCreateRequest (t := t) s n hjob
  unfold Controller.runRequest
  dsimp only
  split
  · exact (hnew.trans (agentRequestStart _ _ _)).trans (agentRequestUnref _ _ _)
  · exact (hnew.trans (reply _ rfl)).trans (agentRequestUnref _ _ _)

/-! ### Answers of the agents -/

lemma agentFleetRequestMaybeDone (s : Controller) (q : FleetId) :
    Silent t s (s.agentFleetRequestMaybeDone q) := by
  have hfree : ∀ s, Silent t s (s.agentFleetRequestFree q) := by
    intro s
    have hrecord : Silent t s (s.freeFleet q) :=
      of_jobs (fun _ hjob => hjob) (fun _ => rfl) (.of_log_eq rfl)
    refine hrecord.trans (foldl (fun s sub => ?_) _ _)
    exact (of_frame (.of_proxy (proxyFrame_nodeUnref _ _ _))).trans (agentRequestUnref _ _ _)
  unfold Controller.agentFleetRequestMaybeDone
  split
  · unfold Controller.agentFleetRequestDone
    dsimp only
    split
    · exact (reply _ rfl).trans (hfree _)
    · exact (reply _ rfl).trans (hfree _)
  · exact refl t s

/-- The job that is listed is the one that was asked for. -/
lemma addJob (s : Controller) {r : RequestId} {serial : Serial} {job : Job}
    (hreq : (s.request r).handler = .lifecycle serial job) : Silent t s (s.addJob job).2 := by
  unfold Controller.addJob
  split
  · exact refl t s
  · refine ⟨fun h => ⟨fun j hj => ?_, h.asked⟩, ?_⟩
    · apply (List.mem_append.mp hj).elim
      · exact h.jobs j
      · intro heq
        rw [List.mem_singleton.mp heq]
        exact h.asked r serial job hreq
    · exact emits_emit s (mem_quietKinds OutputKind.noConfusion)

lemma requestCallback (s : Controller) (r : RequestId) (m : AgentAnswer) :
    Silent t s (s.requestCallback r m) := by
  unfold Controller.requestCallback
  split
  · exact reply s rfl
  · rename_i serial job _ hreq
    have hadd := addJob (t := t) s hreq
    split
    · rename_i heq
      rw [heq] at hadd
      exact hadd
    · rename_i heq
      rw [heq] at hadd
      exact hadd.trans (reply _ rfl)
  · exact reply s rfl
  · exact reply s rfl
  · exact refl t s
  · exact (of_frame (jobFrame_modifyFleet s _ _)).trans (agentFleetRequestMaybeDone _ _)

lemma runCallback (s : Controller) (r : RequestId) : Silent t s (s.runCallback r) :=
  of_jobs (fun _ hjob => hjob) (fun _ => rfl) (.of_log_eq rfl)

lemma agentRequestCallback {r : RequestId} {m : AgentAnswer}
    (hs : s.agentRequestCallback r m = some s') : Silent t s s' := by
  have hpending : Silent t s { s with pendingRequests := s.pendingRequests.erase r } :=
    of_jobs (fun _ hjob => hjob) (fun _ => rfl) (.of_log_eq rfl)
  unfold Controller.agentRequestCallback at hs
  split at hs
  · rw [← Option.some.inj hs]
    refine Silent.trans ?_ (agentRequestUnref _ r _)
    split
    · exact hpending
    · exact (hpending.trans (runCallback _ r)).trans (requestCallback _ r m)
  · simp at hs

lemma agentRequestCancel (s : Controller) (r : RequestId) : Silent t s (s.agentRequestCancel r) := by
  have hcancel : Silent t s (s.modifyRequest r fun req => { req with isCancelled := true }) := by
    refine of_jobs (fun _ hjob => hjob) (fun r' => ?_) (.of_log_eq rfl)
    by_cases hr : r' = r
    · rw [hr]
      simp
    · simp [hr]
  exact ((hcancel.trans (runCallback _ r)).trans (requestCallback _ r _)).trans
    (agentRequestUnref _ r _)

/-! ### Methods of the clients -/

lemma nodeMethodForward (s : Controller) (n : NodeId) (serial : Serial) (method failure : String)
    (started : Bool) : Silent t s (s.nodeMethodForward n serial method failure started) := by
  unfold Controller.nodeMethodForward
  split
  · exact reply s rfl
  · exact runRequest s n serial _ started failure (by simp)

/-- The job of a lifecycle method starts now, or at no time. -/
lemma nodeRunUnitLifecycleMethod (s : Controller) (n : NodeId) (serial : Serial)
    (method : LifecycleMethod) (unit mode : String) (startTime : UInt64) (started : Bool) :
    Silent startTime s
      (s.nodeRunUnitLifecycleMethod n serial method unit mode startTime started) := by
  unfold Controller.nodeRunUnitLifecycleMethod
  split
  · exact reply s rfl
  · have hnew : Silent startTime s (s.jobNew n unit (lifecycleJobType method) startTime).2 :=
      of_jobs (fun _ hjob => hjob) (fun _ => rfl) (.of_log_eq rfl)
    refine hnew.trans (runRequest _ n serial _ started _ fun serial' job hjob => ?_)
    rw [RequestHandler.lifecycle.injEq] at hjob
    rw [← hjob.2]
    unfold StartedBy
    dsimp only
    split
    · exact ⟨UInt64.le_refl _, rfl⟩
    · exact ⟨UInt64.zero_le, rfl⟩

lemma jobMethodCancel (s : Controller) (job : Job) (serial : Serial) (started : Bool) :
    Silent t s (s.jobMethodCancel job serial started) := by
  have hrun : Silent t s (s.runRequest job.node serial (.jobCancel serial)
      (fun r => .jobCancel r job.id) started "Failed to call the method to cancel job") :=
    runRequest s job.node serial _ started _ (by simp)
  unfold Controller.jobMethodCancel
  split
  · dsimp only
    split
    · exact hrun.trans (reply _ rfl)
    · exact hrun
  · exact reply s rfl

lemma startSubRequest (q : FleetId) (method : String) (starts : NodeId → Bool) (s : Controller)
    (n : NodeId) : Silent t s (startSubRequest q method starts s n) := by
  unfold Controller.startSubRequest
  split
  · have hnew : Silent t s (s.nodeCreateRequest n (.fleet q)) := nodeCreateRequest s n (by simp)
    dsimp only
    split
    · have hstart := hnew.trans (agentRequestStart _ s.nextPtr (.request s.nextPtr method))
      apply hstart.trans
      exact of_frame ((jobFrame_takeRef _ _ _ rfl).trans (jobFrame_modifyFleet _ q _))
    · exact hnew.trans (agentRequestUnref _ _ _)
  · exact refl t s

lemma agentFleetRequestStart (s : Controller) (serial : Serial) (method : String)
    (starts : NodeId → Bool) : Silent t s (s.agentFleetRequestStart serial method starts) := by
  unfold Controller.agentFleetRequestStart
  dsimp only
  refine Silent.trans ?_ (agentFleetRequestMaybeDone _ _)
  have hnew : Silent t s { s with
      fleet := Function.update s.fleet s.nextPtr ⟨serial, 0, s.numberOfNodes, []⟩
      nextPtr := s.nextPtr + 1 } :=
    of_jobs (fun _ hjob => hjob) (fun _ => rfl) (.of_log_eq rfl)
  exact hnew.trans (foldl (startSubRequest s.nextPtr method starts) _ _)

/-! ### Connections -/

lemma removeNode (s : Controller) (n : NodeId) : Silent t s (s.removeNode n) := by
  have hunlist : JobFrame s (s.unlistNode n) := by
    unfold unlistNode
    split
    · exact ⟨rfl, rfl, rfl, le_refl _, fun _ _ => rfl, .of_log_eq rfl⟩
    · exact ⟨rfl, rfl, rfl, le_refl _, fun _ _ => rfl, .of_log_eq rfl⟩
  unfold Controller.removeNode
  refine Silent.trans ?_ (of_frame (.of_proxy (proxyFrame_nodeUnref _ n _)))
  split
  · have hmark := (of_frame (t := t) hunlist).trans
      (of_frame (jobFrame_modifyNode _ n fun node => { node with isShutdown := true }))
    have hcancel : Silent t s ((s.unlistNode n).nodeShutdown n) :=
      hmark.trans (foldl agentRequestCancel _ _)
    exact hcancel.trans (of_jobs (fun _ hjob => hjob) (fun _ => rfl) (.of_log_eq rfl))
  · exact of_frame hunlist

lemma unlistJob (s : Controller) (job : Job) : Silent t s (s.unlistJob job) :=
  of_jobs (fun _ hjob => List.mem_of_mem_eraseP hjob) (fun _ => rfl) (.of_log_eq rfl)

lemma dropJob (n : NodeId) (s : Controller) (job : Job) : Silent t s (dropJob n s job) := by
  unfold Controller.dropJob
  split
  · exact (unlistJob s job).trans (jobUnref _ _ _)
  · exact refl t s

lemma nodeDisconnect (s : Controller) (n : NodeId) : Silent t s (s.nodeDisconnect n) := by
  have htable := ProxyFrame.of_subscription
    (subscriptionFrame_applyNode s n (tableStep_nodeDisconnectUnits (s.node n)))
  have hframe := htable.trans (ProxyFrame.foldl (fun s p =>
    proxyFrame_nodeRemoveProxyMonitor proxyFrame_nodeUnref s n p)
    ((s.applyNode n nodeDisconnectUnits).node n).proxyMonitors _)
  have hproxies := of_frame (t := t) (.of_proxy hframe)
  unfold Controller.nodeDisconnect
  dsimp only
  split
  · exact hproxies.trans (removeNode _ n)
  · refine Silent.trans ?_ (countOnline _ _)
    refine Silent.trans ?_ (of_frame (.of_proxy (proxyFrame_nodeUnsetAgentBus _ n)))
    exact hproxies.trans (foldl (dropJob n) _ _)

lemma checkNode (now : UInt64) (s : Controller) (n : NodeId) :
    Silent t s (checkNode now s n) := by
  unfold Controller.checkNode
  split
  · split
    · exact nodeDisconnect s n
    · exact of_frame (jobFrame_sendAgent s n .heartbeat)
  · exact refl t s

lemma acceptNodeConnection (s : Controller) (peer : PeerInfo) (fails : BusCall → Bool) :
    Silent t s (s.acceptNodeConnection peer fails) := by
  have hbus : JobFrame s (s.addNode none).busAlloc :=
    (jobFrame_addNode s none).trans
      ⟨rfl, rfl, rfl, Nat.le_succ _, fun _ _ => rfl, .of_log_eq rfl⟩
  have hset := hbus.trans (jobFrame_nodeSetAgentBus _ s.nextPtr (s.nextPtr + 1) peer fails)
  unfold Controller.acceptNodeConnection
  dsimp only
  split
  · rename_i s' heq
    rw [heq] at hset
    exact of_frame hset
  · rename_i s' heq
    rw [heq] at hset
    exact (of_frame hset).trans (removeNode _ _)

lemma nodeMethodRegister (s : Controller) (a : NodeId) (serial : Serial) (name : String)
    (now nowMonotonic : UInt64) (peer : PeerInfo) (fails : BusCall → Bool) :
    Silent t s (s.nodeMethodRegister a serial name now nowMonotonic peer fails) := by
  apply (jobFrame_nodeMethodRegister s a serial name now nowMonotonic peer fails).elim
  · exact of_frame
  · intro ⟨u, hframe, heq⟩
    rw [heq]
    exact ((of_frame hframe).trans (countOnline _ _)).trans (reply _ rfl)

/-! ### Signals of the agents -/

lemma jobStateChanged (s : Controller) (jobId : UInt32) (state : String) :
    Silent t s (s.jobStateChanged jobId state) := by
  unfold Controller.jobStateChanged
  split
  · exact refl t s
  · rename_i changed _
    have hmodify : Silent t s (s.modifyJob changed.ptr fun job =>
        { job with state := jobStateFromString state }) := by
      refine ⟨fun h => ⟨fun job hjob => ?_, h.asked⟩, .of_log_eq rfl⟩
      have ⟨j, hj, heq⟩ := List.mem_map.mp hjob
      rw [← heq]
      split
      · exact h.jobs j hj
      · exact h.jobs j hj
    exact hmodify.trans (emit _ OutputKind.noConfusion)

lemma onSignal (s : Controller) (n : NodeId) {sig : NodeSignal}
    (hsig : ∀ id result now sync, sig ≠ .jobDone id result now sync) :
    Silent t s (s.onSignal n sig) := by
  match sig with
  | .jobDone id result now sync => exact absurd rfl (hsig id result now sync)
  | .jobStateChanged id state => exact jobStateChanged s id state
  | .proxyNew target unit path =>
    have hnew : JobFrame s (s.proxyMonitorNew n target unit path) := by
      refine ⟨rfl, rfl, rfl, Nat.le_add_right _ 2, fun obj hobj => ?_, .of_log_eq rfl⟩
      exact ((jobFrame_newRef s (.proxyMonitor s.nextPtr) rfl).trans
        (jobFrame_newRef _ (.subscription (s.nextPtr + 1)) rfl)).refs obj hobj
    exact of_frame ((hnew.trans (.of_proxy (proxyFrame_onProxyMonitor _ n _ target unit))).trans
      (.of_proxy (proxyFrame_proxyMonitorUnref proxyFrame_nodeUnref _ _ _)))
  | .proxyRemoved target unit =>
    exact of_frame (.of_proxy (proxyFrame_nodeOnMatchProxyRemoved s n target unit))
  | .heartbeat now nowMonotonic =>
    have hclock : JobFrame s (s.nodeMatchHeartbeat n now nowMonotonic) := jobFrame_modifyNode s n _
    exact of_frame hclock
  | .unitPropertiesChanged _ _ _ => exact of_frame (jobFrame_applyNode s n _)
  | .unitNew _ _ => exact of_frame (jobFrame_applyNode s n _)
  | .unitStateChanged _ _ _ _ => exact of_frame (jobFrame_applyNode s n _)
  | .unitRemoved _ => exact of_frame (jobFrame_applyNode s n _)

end Silent
/-! ## Reports -/

/-- The report that goes with the removal of a job. -/
def reportsOf (sync : SyncCalls) (s : Controller) (job : Job) : List Output :=
  match s.reportTimes sync job with
  | none => []
  | some times => [.startUnitJobMetrics job (job.jobEndMicros - job.jobStartMicros)
      (times.2 - times.1)]

/-- A report needs metrics, and both timestamps. -/
lemma reportTimes_eq_some {sync : SyncCalls} {job : Job} {times : UInt64 × UInt64}
    (h : s.reportTimes sync job = some times) :
    s.metricsEnabled = true ∧
      sync job.node job.unit "InactiveExitTimestampMonotonic" = some times.1 ∧
      sync job.node job.unit "ActiveEnterTimestampMonotonic" = some times.2 := by
  have hsync : ∀ property value,
      s.getUnitUint64PropertySync sync job.node job.unit property = some value →
        sync job.node job.unit property = some value := by
    intro property value hvalue
    unfold getUnitUint64PropertySync at hvalue
    split at hvalue
    · exact hvalue
    · simp at hvalue
  unfold reportTimes at h
  split at h
  · rename_i henabled
    rw [Bool.and_eq_true] at henabled
    split at h
    · rename_i inactiveExit activeEnter hexit henter
      rw [← Option.some.inj h]
      exact ⟨henabled.1, hsync _ _ hexit, hsync _ _ henter⟩
    · simp at h
  · simp at h

/-- Only these parts of the state and of the job matter. -/
lemma reportTimes_congr {sync : SyncCalls} {job job' : Job}
    (hmetrics : s'.metricsEnabled = s.metricsEnabled) (hnode : s'.node = s.node)
    (hjob : job' = { job with state := job'.state, jobEndMicros := job'.jobEndMicros }) :
    s'.reportTimes sync job' = s.reportTimes sync job := by
  rw [hjob]
  unfold reportTimes getUnitUint64PropertySync
  rw [hmetrics, hnode]

lemma metricsProduceJobReport_log (sync : SyncCalls) (s : Controller) (job : Job)
    (henabled : (s.metricsEnabled && job.type = "start") = true) :
    (s.metricsProduceJobReport sync job).log = s.log ++ s.reportsOf sync job := by
  unfold reportsOf reportTimes metricsProduceJobReport
  rw [if_pos henabled]
  match s.getUnitUint64PropertySync sync job.node job.unit "InactiveExitTimestampMonotonic",
    s.getUnitUint64PropertySync sync job.node job.unit "ActiveEnterTimestampMonotonic" with
  | none, none => simp
  | none, some _ => simp
  | some _, none => simp
  | some _, some _ => rfl

/-- What a removal leaves as it is, and what it sends. -/
lemma removeJob_rest (sync : SyncCalls) (s : Controller) (job : Job) (result : String) :
    (s.removeJob sync job result).metricsEnabled = s.metricsEnabled ∧
      (s.removeJob sync job result).node = s.node ∧
      (s.removeJob sync job result).request = s.request ∧
      (s.removeJob sync job result).log =
        s.log ++ .jobRemoved job (s.nodeName job.node) result :: s.reportsOf sync job := by
  have hunref : ∀ (u : Controller) ptr o, (u.jobUnref ptr o).metricsEnabled = u.metricsEnabled ∧
      (u.jobUnref ptr o).node = u.node ∧ (u.jobUnref ptr o).request = u.request := by
    intro u ptr o
    unfold jobUnref
    dsimp only
    split
    · exact ⟨rfl, rfl, rfl⟩
    · exact ⟨rfl, rfl, rfl⟩
  have hreport : ∀ u : Controller,
      (u.metricsProduceJobReport sync job).metricsEnabled = u.metricsEnabled ∧
        (u.metricsProduceJobReport sync job).node = u.node ∧
        (u.metricsProduceJobReport sync job).request = u.request := by
    intro u
    apply (metricsProduceJobReport_eq_or sync u job).elim
    · intro heq
      rw [heq]
      exact ⟨rfl, rfl, rfl⟩
    · intro ⟨measured, net, heq⟩
      rw [heq]
      exact ⟨rfl, rfl, rfl⟩
  generalize hu : (s.emit (.jobRemoved job (s.nodeName job.node) result)).unlistJob job = u
  have hmetrics : u.metricsEnabled = s.metricsEnabled := by rw [← hu]; rfl
  have hnode : u.node = s.node := by rw [← hu]; rfl
  have hrequest : u.request = s.request := by rw [← hu]; rfl
  have hlog : u.log = s.log ++ [.jobRemoved job (s.nodeName job.node) result] := by rw [← hu]; rfl
  have hreports : u.reportsOf sync job = s.reportsOf sync job := by
    unfold reportsOf
    rw [reportTimes_congr hmetrics hnode rfl]
  unfold removeJob
  rw [hu, (hunref _ _ _).1, (hunref _ _ _).2.1, (hunref _ _ _).2.2, jobUnref_log]
  split
  · rename_i henabled
    rw [(hreport u).1, (hreport u).2.1, (hreport u).2.2,
      metricsProduceJobReport_log sync u job henabled, hlog, hreports]
    exact ⟨hmetrics, hnode, hrequest, by simp⟩
  · rename_i hdisabled
    have hnone : s.reportsOf sync job = [] := by
      unfold reportsOf reportTimes
      rw [← hmetrics, if_neg hdisabled]
    rw [hnone]
    exact ⟨hmetrics, hnode, hrequest, hlog⟩

lemma Timed.removeJob (h : Timed t s) (sync : SyncCalls) (job : Job) (result : String) :
    Timed t (s.removeJob sync job result) where
  jobs j hj := by
    rw [JobInv.removeJob_jobs] at hj
    exact h.jobs j (List.mem_of_mem_eraseP hj)
  asked r serial j hreq := by
    rw [(removeJob_rest sync s job result).2.2.1] at hreq
    exact h.asked r serial j hreq

/-- All jobs are removed, each with its report. -/
lemma removeJobs_log (sync : SyncCalls) (result : String) (jobs : List Job) (s : Controller) :
    ∃ l, (jobs.foldl (fun s job => s.removeJob sync job result) s).log = s.log ++ l ∧
      ∀ o : Output, o.kind = .report → (o ∈ l ↔ ∃ job ∈ jobs, o ∈ s.reportsOf sync job) := by
  induction jobs generalizing s with
  | nil => exact ⟨[], by simp, by simp⟩
  | cons first jobs ih =>
    have ⟨hmetrics, hnode, _, hlog⟩ := removeJob_rest sync s first result
    have ⟨l, hl, hreports⟩ := ih (s.removeJob sync first result)
    have hsame : ∀ job, (s.removeJob sync first result).reportsOf sync job = s.reportsOf sync job := by
      intro job
      unfold reportsOf
      rw [reportTimes_congr hmetrics hnode rfl]
    refine ⟨.jobRemoved first (s.nodeName first.node) result :: s.reportsOf sync first ++ l, ?_, ?_⟩
    · rw [List.foldl_cons, hl, hlog, List.append_assoc]
    · intro o ho
      have hne : o ≠ .jobRemoved first (s.nodeName first.node) result := fun heq => by
        rw [heq] at ho
        exact OutputKind.noConfusion ho
      rw [List.mem_append, List.mem_cons, hreports o ho, List.exists_mem_cons_iff, or_iff_right hne]
      simp only [hsame]

lemma finishJob_eq (sync : SyncCalls) (s : Controller) (id : UInt32) (result : String)
    (now : UInt64) : s.finishJob sync id result now =
      match s.jobOfId id with
      | none => s
      | some job =>
        let job' := if s.metricsEnabled then { job with jobEndMicros := now } else job
        removeJob sync (s.modifyJob job.ptr fun _ => job') job' result := rfl

/-- The end of a job, with the time when it is recorded. -/
lemma finishJob_log (sync : SyncCalls) (s : Controller) (id : UInt32) (result : String)
    (now : UInt64) : ∃ l, (s.finishJob sync id result now).log = s.log ++ l ∧
      ∀ o : Output, o.kind = .report → (o ∈ l ↔ ∃ job times, s.jobOfId id = some job ∧
        s.reportTimes sync job = some times ∧
        o = .startUnitJobMetrics { job with jobEndMicros := now } (now - job.jobStartMicros)
          (times.2 - times.1)) := by
  rw [finishJob_eq]
  match hfind : s.jobOfId id with
  | none => exact ⟨[], by simp, by simp⟩
  | some job =>
    dsimp only
    generalize hjob' : (if s.metricsEnabled then { job with jobEndMicros := now } else job) = job'
    have hlog := (removeJob_rest sync (s.modifyJob job.ptr fun _ => job') job' result).2.2.2
    refine ⟨_, hlog, fun o ho => ?_⟩
    have hne : o ≠ .jobRemoved job'
        ((s.modifyJob job.ptr fun _ => job').nodeName job'.node) result := fun heq => by
      rw [heq] at ho
      exact OutputKind.noConfusion ho
    have htimes : (s.modifyJob job.ptr fun _ => job').reportTimes sync job' =
        s.reportTimes sync job := by
      apply reportTimes_congr rfl rfl
      rw [← hjob']
      split
      · rfl
      · rfl
    rw [List.mem_cons, or_iff_right hne]
    unfold reportsOf
    rw [htimes]
    constructor
    · intro hmem
      match hreport : s.reportTimes sync job with
      | none =>
        rw [hreport] at hmem
        simp at hmem
      | some times =>
        rw [hreport] at hmem
        have henabled := (reportTimes_eq_some hreport).1
        rw [if_pos henabled] at hjob'
        refine ⟨job, times, rfl, hreport, ?_⟩
        rw [List.mem_singleton.mp hmem, ← hjob']
    · intro ⟨job₁, times, heq, hreport, hform⟩
      rw [← Option.some.inj heq] at hreport hform
      have henabled := (reportTimes_eq_some hreport).1
      rw [if_pos henabled] at hjob'
      rw [hreport, hform, ← hjob']
      exact List.mem_singleton.mpr rfl

/-- The job that ends leaves the list, and the others have not ended. -/
lemma Timed.finishJob (h : Timed t s) (hinv : JobInv False s) (sync : SyncCalls) (id : UInt32)
    (result : String) (now : UInt64) : Timed t (s.finishJob sync id result now) := by
  rw [finishJob_eq]
  match hfind : s.jobOfId id with
  | none => exact h
  | some job =>
    have hjob : job ∈ s.jobs := List.mem_of_find?_eq_some hfind
    dsimp only
    generalize hjob' : (if s.metricsEnabled then { job with jobEndMicros := now } else job) = job'
    have hptr : job'.ptr = job.ptr := by
      rw [← hjob']
      split
      · rfl
      · rfl
    have hid : job'.id = job.id := by
      rw [← hjob']
      split
      · rfl
      · rfl
    have hmodified := hinv.modifyJob hjob (f := fun _ => job') hptr hid
    refine ⟨fun j hj => ?_, fun r serial j hreq => ?_⟩
    · rw [JobInv.removeJob_jobs, hmodified.mem_eraseP_iff, hptr] at hj
      have ⟨hmem, hne⟩ := hj
      have ⟨j₁, hj₁, heq⟩ := List.mem_map.mp hmem
      split at heq
      · rw [← heq] at hne
        exact absurd hptr hne
      · rw [← heq]
        exact h.jobs j₁ hj₁
    · rw [(removeJob_rest _ _ _ _).2.2.1] at hreq
      exact h.asked r serial j hreq

/-- After the jobs, `controller_stop` reports nothing. -/
lemma silent_controllerStop (t : UInt64) (sync : SyncCalls) (s : Controller) :
    Silent t (s.jobs.foldl (fun s job => s.removeJob sync job "cancelled due to shutdown") s)
      (s.controllerStop sync) := by
  generalize hu : s.jobs.foldl (fun s job => s.removeJob sync job "cancelled due to shutdown") s = u
  have hclients : Silent t u (s.stopClients sync) := by
    unfold stopClients
    rw [hu]
    have hsubs : ∀ v : Controller, Silent t v (v.allSubscriptions.foldl removeSubscription v) :=
      fun v => Silent.foldl (fun s sub => Silent.of_frame
        (.of_subscription (subscriptionFrame_removeSubscription (fun _ => False) s sub))) _ v
    refine (hsubs u).trans (Silent.foldl (fun s m => ?_) _ _)
    exact Silent.of_frame (jobFrame_removeMonitor s m)
  have hnodes : ∀ v : Controller, Silent t v v.stopNodes := fun v =>
    (Silent.foldl Silent.removeNode v.nodes v).trans (Silent.foldl Silent.removeNode _ _)
  have hmark : ∀ v : Controller, Silent t v v.markStopped := fun v =>
    Silent.of_jobs (fun _ hjob => hjob) (fun _ => rfl) (.of_log_eq rfl)
  unfold controllerStop
  dsimp only
  split
  · exact ((hclients.trans (hnodes _)).trans (Silent.checkSystemStatus _ _)).trans (hmark _)
  · exact (hclients.trans (hnodes _)).trans (hmark _)

/-- When the controller stops, every listed job that can be reported on is. -/
lemma controllerStop_log (sync : SyncCalls) (s : Controller) :
    ∃ l, (s.controllerStop sync).log = s.log ++ l ∧
      ∀ o : Output, o.kind = .report → (o ∈ l ↔ ∃ job ∈ s.jobs, o ∈ s.reportsOf sync job) := by
  have ⟨l, hl, hreports⟩ := removeJobs_log sync "cancelled due to shutdown" s.jobs s
  have ⟨l', hl', hquiet⟩ := (silent_controllerStop 0 sync s).emits
  refine ⟨l ++ l', ?_, fun o ho => ?_⟩
  · rw [hl', hl, List.append_assoc]
  · have hnot : o ∉ l' := fun hmem => by
      have hkind := hquiet o hmem
      rw [ho] at hkind
      exact absurd hkind (by decide)
    rw [List.mem_append, or_iff_left hnot, hreports o ho]

lemma Timed.controllerStop (h : Timed t s) (sync : SyncCalls) :
    Timed t (s.controllerStop sync) := by
  have hjobs : ∀ (jobs : List Job) (s : Controller), Timed t s →
      Timed t (jobs.foldl (fun s job => s.removeJob sync job "cancelled due to shutdown") s) := by
    intro jobs
    induction jobs with
    | nil => exact fun s hs => hs
    | cons job jobs ih => exact fun s hs => ih _ (hs.removeJob sync job _)
  exact (silent_controllerStop t sync s).timed (hjobs s.jobs s h)

/-! ## Steps and runs -/

/-- An event without calls reports nothing, and records no later time than it reads. -/
lemma silent_step (hle : ∀ now, e.reading = some now → now = t) (he : e.sync = none)
    (hstep : s.step e = some s') : Silent t s s' := by
  have hhandle := (step_eq_some_iff.mp hstep).2
  match e with
  | .accept peer fails =>
    rw [← Option.some.inj hhandle]
    exact Silent.acceptNodeConnection s peer fails
  | .register a serial name now nowMonotonic peer fails =>
    rw [← (whenever_eq_some_iff.mp hhandle).2]
    exact Silent.nodeMethodRegister s a serial name now nowMonotonic peer fails
  | .disconnected n =>
    rw [← (whenever_eq_some_iff.mp hhandle).2]
    exact Silent.nodeDisconnect s n
  | .heartbeatTimer now =>
    rw [← Option.some.inj hhandle]
    exact Silent.foldl (Silent.checkNode now) _ s
  | .agentSignal bus n sig =>
    rw [← (whenever_eq_some_iff.mp hhandle).2]
    apply Silent.onSignal
    intro id result now sync heq
    rw [heq] at he
    simp [Event.sync] at he
  | .agentReply r m => exact Silent.agentRequestCallback hhandle
  | .proxyReply p => exact Silent.of_frame (.of_proxy (proxyFrame_proxyMonitorCallback hhandle))
  | .lifecycle n serial method unit mode startTime started =>
    rw [← (whenever_eq_some_iff.mp hhandle).2, ← hle startTime rfl]
    exact Silent.nodeRunUnitLifecycleMethod s n serial method unit mode startTime started
  | .forward n serial method failure started =>
    rw [← (whenever_eq_some_iff.mp hhandle).2]
    exact Silent.nodeMethodForward s n serial method failure started
  | .jobCancel id serial started =>
    have ⟨job, _, hjob⟩ := Option.map_eq_some_iff.mp hhandle
    rw [← hjob]
    exact Silent.jobMethodCancel s job serial started
  | .fleet serial method starts =>
    rw [← Option.some.inj hhandle]
    exact Silent.agentFleetRequestStart s serial method starts
  | .createMonitor serial owner exported =>
    rw [← Option.some.inj hhandle]
    exact Silent.of_frame (jobFrame_createMonitor ..)
  | .subscribe m serial node units =>
    rw [← (whenever_eq_some_iff.mp hhandle).2]
    exact Silent.of_frame (jobFrame_monitorMethodSubscribe ..)
  | .unsubscribe m serial subId =>
    rw [← (whenever_eq_some_iff.mp hhandle).2]
    exact Silent.of_frame (jobFrame_monitorMethodUnsubscribe ..)
  | .addPeer m serial name =>
    rw [← (whenever_eq_some_iff.mp hhandle).2]
    exact Silent.of_frame (jobFrame_monitorMethodAddPeer ..)
  | .removePeer m serial peerId reason =>
    rw [← (whenever_eq_some_iff.mp hhandle).2]
    exact Silent.of_frame (jobFrame_monitorMethodRemovePeer ..)
  | .closeMonitor m serial =>
    rw [← (whenever_eq_some_iff.mp hhandle).2]
    exact Silent.of_frame (jobFrame_monitorMethodClose ..)
  | .nameOwnerChanged name newOwner =>
    rw [← Option.some.inj hhandle]
    exact Silent.of_frame (jobFrame_nameOwnerChanged ..)
  | .enableMetrics serial exported fails =>
    rw [← Option.some.inj hhandle]
    exact Silent.of_frame (jobFrame_methodMetricsEnable ..)
  | .disableMetrics serial =>
    rw [← Option.some.inj hhandle]
    exact Silent.of_frame (jobFrame_methodMetricsDisable ..)
  | .stop sync => simp [Event.sync] at he

/-- The times stay recorded by then. -/
lemma Timed.step (h : Timed t s) (hinv : JobInv False s)
    (hle : ∀ now, e.reading = some now → now = t) (hstep : s.step e = some s') : Timed t s' := by
  match he : e.sync with
  | none => exact (silent_step hle he hstep).timed h
  | some sync =>
    have hhandle := (step_eq_some_iff.mp hstep).2
    apply (Event.eq_of_sync he).elim
    · intro ⟨bus, n, id, result, now, heq⟩
      rw [heq] at hhandle
      rw [← (whenever_eq_some_iff.mp hhandle).2]
      exact h.finishJob hinv sync id result now
    · intro heq
      rw [heq] at hhandle
      rw [← Option.some.inj hhandle]
      exact h.controllerStop sync

/-- The differences are what they should be when they do not wrap. -/
lemma measuredBy_iff {job : Job} {times : UInt64 × UInt64} {sync : SyncCalls}
    (hsync : e.sync = some sync) (hreport : s.reportTimes sync job = some times) (endMicros : UInt64) :
    MeasuredBy e { job with jobEndMicros := endMicros } (endMicros - job.jobStartMicros)
      (times.2 - times.1) ↔
        job.jobStartMicros ≠ 0 ∧ job.jobStartMicros ≤ endMicros ∧ times.1 ≤ times.2 := by
  have ⟨_, hexit, henter⟩ := reportTimes_eq_some hreport
  constructor
  · intro ⟨hstart, hend, _, sync', inactiveExit, activeEnter, hsync', hexit', henter', hle, _⟩
    rw [hsync, Option.some.injEq] at hsync'
    rw [← hsync', hexit, Option.some.injEq] at hexit'
    rw [← hsync', henter, Option.some.injEq] at henter'
    rw [hexit', henter']
    exact ⟨hstart, hend, hle⟩
  · intro ⟨hstart, hend, hle⟩
    exact ⟨hstart, hend, UInt64.toNat_sub_of_le _ _ hend, sync, times.1, times.2, hsync, hexit,
      henter, hle, UInt64.toNat_sub_of_le _ _ hle⟩

/-- The reports that a step makes are those among its new messages. -/
lemma reportsMeasured_iff {l : List Output} (hstep : s.step e = some s') (hlog : s'.log = s.log ++ l) :
    s.ReportsMeasured e ↔ ∀ job measured net,
      Output.startUnitJobMetrics job measured net ∈ l → MeasuredBy e job measured net := by
  constructor
  · intro h job measured net hmem
    apply h s' hstep
    rw [hlog, List.drop_left]
    exact hmem
  · intro h s'' hstep' job measured net hmem
    rw [hstep, Option.some.injEq] at hstep'
    rw [← hstep', hlog, List.drop_left] at hmem
    exact h job measured net hmem

/-- Before a job ends, its end time is zero and its start time is not later than the clock. -/
lemma reportsMeasured_jobDone (h : Timed t s) {bus : BusId} {n : NodeId} {id : UInt32}
    {result : String} {now : UInt64} {sync : SyncCalls} (hle : t ≤ now)
    (hstep : s.step (.agentSignal bus n (.jobDone id result now sync)) = some s') :
    s.ReportsMeasured (.agentSignal bus n (.jobDone id result now sync)) ↔
      s.measuresWell (.agentSignal bus n (.jobDone id result now sync)) = true := by
  have hhandle := (step_eq_some_iff.mp hstep).2
  have hs' : s.finishJob sync id result now = s' := (whenever_eq_some_iff.mp hhandle).2
  have ⟨l, hlog, hreports⟩ := finishJob_log sync s id result now
  rw [hs'] at hlog
  rw [reportsMeasured_iff hstep hlog]
  unfold measuresWell
  rw [Option.all_eq_true]
  constructor
  · intro hmeasured job hjob
    rw [Option.all_eq_true]
    intro times htimes
    have hmem := (hreports _ rfl).mpr ⟨job, times, hjob, htimes, rfl⟩
    have hmet := hmeasured _ _ _ hmem
    have ⟨hstart, _, hunit⟩ := (measuredBy_iff
      (e := .agentSignal bus n (.jobDone id result now sync)) rfl htimes now).mp hmet
    simpa using ⟨hstart, hunit⟩
  · intro hwell job' measured net hmem
    have ⟨job, times, hjob, htimes, heq⟩ := (hreports _ rfl).mp hmem
    have htest := hwell job hjob
    rw [Option.all_eq_true] at htest
    have hboth : job.jobStartMicros ≠ 0 ∧ times.1 ≤ times.2 := by simpa using htest times htimes
    have hstarted := (h.jobs job (List.mem_of_find?_eq_some hjob)).1
    have hmeasured := (measuredBy_iff (e := .agentSignal bus n (.jobDone id result now sync)) rfl
      htimes now).mpr ⟨hboth.1, UInt64.le_trans hstarted hle, hboth.2⟩
    rw [Output.startUnitJobMetrics.injEq] at heq
    rw [heq.1, heq.2.1, heq.2.2]
    exact hmeasured

/-- A job that is listed when the controller stops has no end time, so its report is not measured. -/
lemma reportsMeasured_stop (h : Timed t s) {sync : SyncCalls}
    (hstep : s.step (.stop sync) = some s') :
    s.ReportsMeasured (.stop sync) ↔ s.measuresWell (.stop sync) = true := by
  have hs' : s.controllerStop sync = s' := Option.some.inj (step_eq_some_iff.mp hstep).2
  have ⟨l, hlog, hreports⟩ := controllerStop_log sync s
  rw [hs'] at hlog
  rw [reportsMeasured_iff hstep hlog]
  unfold measuresWell
  rw [List.all_eq_true]
  constructor
  · intro hmeasured job hjob
    match htimes : s.reportTimes sync job with
    | none => rfl
    | some times =>
      have hreport : Output.startUnitJobMetrics job (job.jobEndMicros - job.jobStartMicros)
          (times.2 - times.1) ∈ s.reportsOf sync job := by
        unfold reportsOf
        rw [htimes]
        exact List.mem_singleton.mpr rfl
      have hmeasured := hmeasured _ _ _ ((hreports _ rfl).mpr ⟨job, hjob, hreport⟩)
      -- the end time is zero, so that the start time would be zero too
      have hend := hmeasured.ended
      rw [(h.jobs job hjob).2] at hend
      exact absurd (UInt64.le_antisymm hend UInt64.zero_le) hmeasured.started
  · intro hwell job' measured net hmem
    have ⟨job, hjob, hreport⟩ := (hreports _ rfl).mp hmem
    unfold reportsOf at hreport
    rw [Option.isNone_iff_eq_none.mp (hwell job hjob)] at hreport
    simp at hreport

/-- Along a step, the condition says exactly that the reports are measured. -/
lemma reportsMeasured_step (h : Timed t s) (hle : ∀ now, e.reading = some now → t ≤ now)
    (hstep : s.step e = some s') : s.ReportsMeasured e ↔ s.measuresWell e = true := by
  match he : e.sync with
  | some sync =>
    apply (Event.eq_of_sync he).elim
    · intro ⟨bus, n, id, result, now, heq⟩
      rw [heq] at hstep hle ⊢
      exact reportsMeasured_jobDone h (hle now rfl) hstep
    · intro heq
      rw [heq] at hstep ⊢
      exact reportsMeasured_stop h hstep
  | none =>
    have hwell : s.measuresWell e = true := by
      unfold measuresWell
      split
      · simp [Event.sync] at he
      · simp [Event.sync] at he
      · rfl
    -- what the clock read, or nothing
    have ⟨now, hnow⟩ : ∃ now, ∀ now', e.reading = some now' → now' = now := by
      match e.reading with
      | none => exact ⟨0, fun now' heq => by simp at heq⟩
      | some now => exact ⟨now, fun now' heq => (Option.some.inj heq).symm⟩
    have ⟨l, hlog, hquiet⟩ := (silent_step hnow he hstep).emits
    rw [reportsMeasured_iff hstep hlog]
    refine iff_of_true (fun job measured net hmem => ?_) hwell
    have hkind : OutputKind.report ∈ quietKinds := hquiet _ hmem
    exact absurd hkind (by decide)

/-- The clock never goes back in a run, nor before `t`. -/
def ClockRuns (t : UInt64) (es : List Event) : Prop :=
  (t :: es.filterMap Event.reading).Pairwise (· ≤ ·)

/-- An event moves the clock to a time that is not earlier than what it reads. -/
lemma ClockRuns.tick {es : List Event} (h : ClockRuns t (e :: es)) :
    ∃ t', t ≤ t' ∧ (∀ now, e.reading = some now → now = t') ∧ ClockRuns t' es := by
  unfold ClockRuns at h
  match hread : e.reading with
  | none =>
    rw [List.filterMap_cons_none hread] at h
    exact ⟨t, UInt64.le_refl t, fun now heq => by simp at heq, h⟩
  | some now =>
    rw [List.filterMap_cons_some hread, List.pairwise_cons] at h
    exact ⟨now, h.1 now (List.mem_cons_self ..), fun now' heq => (Option.some.inj heq).symm, h.2⟩

/-- The condition is exact along every run with such a clock. -/
lemma reportsMeasured_run {es : List Event} (h : Timed t s) (hinv : JobInv False s)
    (hclock : ClockRuns t es) (hrun : run system s es = some s') :
    GuardedRun system ReportsMeasured s es ↔
      GuardedRun system (fun s e => s.measuresWell e = true) s es := by
  induction es generalizing s t with
  | nil => exact Iff.rfl
  | cons e es ih =>
    obtain ⟨t', hle, hread, hclock'⟩ := hclock.tick
    obtain ⟨u, hu, hrun'⟩ := Option.bind_eq_some_iff.mp ((run_cons s e es).symm.trans hrun)
    have hfirst := reportsMeasured_step h (fun now heq => hread now heq ▸ hle) hu
    have hrest := ih ((h.mono hle).step hinv hread hu) (hinv.step False.elim hu) hclock' hrun'
    simp only [GuardedRun]
    rw [hu]
    constructor
    · rintro ⟨hmeasured, hmeasures⟩
      refine ⟨hfirst.mp hmeasured, fun v hv => ?_⟩
      rw [← Option.some.inj hv]
      exact hrest.mp (hmeasures u rfl)
    · rintro ⟨hwell, hwells⟩
      refine ⟨hfirst.mpr hwell, fun v hv => ?_⟩
      rw [← Option.some.inj hv]
      exact hrest.mpr (hwells u rfl)

/-- Nothing is recorded in a controller that starts. -/
lemma Timed.start (threshold : ℤ) (cfgs : List NodeConfig) : Timed 0 (start threshold cfgs) := by
  have hstart := jobFrame_start threshold cfgs
  refine ⟨fun job hjob => ?_, fun r serial job hreq => ?_⟩
  · rw [hstart.jobs] at hjob
    simp [controllerNew] at hjob
  · rw [hstart.request] at hreq
    simp [controllerNew] at hreq

/-- In a run with a clock that does not go back, all reports are measured if and only if a reported
job that is done was made while metrics were enabled and its unit's timestamps are in order, and no
job is reported on when the controller stops. -/
theorem startUnitJobMetrics_measured_iff {s₀ : Controller} {es : List Event}
    (hinit : system.init s₀) (hrun : run system s₀ es = some s)
    (hclock : (es.filterMap Event.reading).Pairwise (· ≤ ·)) :
    GuardedRun system ReportsMeasured s₀ es ↔
      GuardedRun system (fun s e => s.measuresWell e = true) s₀ es := by
  have ⟨threshold, cfgs, hs₀⟩ := hinit
  have hclock₀ : ClockRuns 0 es := List.pairwise_cons.mpr ⟨fun _ _ => UInt64.zero_le, hclock⟩
  have hinv : JobInv False s₀ := hs₀ ▸ JobInv.start threshold cfgs
  exact reportsMeasured_run (hs₀ ▸ Timed.start threshold cfgs) hinv hclock₀ hrun

/-- A unit that leaves the inactive state at 6 and is active at 8. -/
def unitTimes : SyncCalls := fun _ _ property =>
  if property = "InactiveExitTimestampMonotonic" then some 6 else some 8

/-- Metrics are enabled before the job of the node is made. -/
def measuredJob : List Event :=
  [.enableMetrics 1 true fun _ => false,
    .accept ⟨some none, none⟩ fun _ => false,
    .register 2 2 "n" 1 1 ⟨some none, none⟩ fun _ => false,
    .lifecycle 1 3 .startUnit "a.service" "replace" 5 true, .agentReply 5 (.ok []),
    .agentSignal 3 1 (.jobDone 1 "done" 9 unitTimes)]

/-- Its report is measured. -/
theorem measuredJob_measured : ∃ s, run system oneNode measuredJob = some s ∧
    (s.log.filter fun o => o.kind = .report).length = 1 ∧
      GuardedRun system ReportsMeasured oneNode measuredJob := by
  have hread : (run system oneNode measuredJob).map
      (fun s => (s.log.filter fun o => o.kind = .report).length) = some 1 := by
    decide +kernel
  have hwell : GuardedRun system (fun s e => s.measuresWell e = true) oneNode measuredJob := by
    decide +kernel
  have ⟨s, hs, hone⟩ := Option.map_eq_some_iff.mp hread
  have hclock : (measuredJob.filterMap Event.reading).Pairwise (· ≤ ·) := by decide
  exact ⟨s, hs, hone, (startUnitJobMetrics_measured_iff ⟨0, _, rfl⟩ hs hclock).mpr hwell⟩

/-- Metrics are enabled after the job of the node is made. -/
def jobBeforeMetrics : List Event :=
  startedJob ++ [.enableMetrics 3 true fun _ => false,
    .agentSignal 3 1 (.jobDone 1 "done" 9 unitTimes)]

/-- Its start time is zero. -/
theorem jobBeforeMetrics_not_measured : ¬∀ s₀ es s, system.init s₀ → run system s₀ es = some s →
    (es.filterMap Event.reading).Pairwise (· ≤ ·) → GuardedRun system ReportsMeasured s₀ es := by
  have hread : (run system oneNode jobBeforeMetrics).isSome = true := by decide +kernel
  have hwell : ¬GuardedRun system (fun s e => s.measuresWell e = true) oneNode jobBeforeMetrics := by
    decide +kernel
  have ⟨s, hs⟩ := Option.isSome_iff_exists.mp hread
  have hclock : ClockRuns 0 jobBeforeMetrics := by
    unfold ClockRuns
    decide
  intro hall
  have hmeasured := hall oneNode _ s ⟨0, _, rfl⟩ hs (List.pairwise_cons.mp hclock).2
  exact hwell ((reportsMeasured_run (.start 0 _) (.start 0 _) hclock hs).mp hmeasured)

end Controller
end BlueChi
