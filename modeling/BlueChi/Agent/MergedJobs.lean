import BlueChi.Library.Execution
import BlueChi.Library.Lists
import BlueChi.Agent.Jobs

/-!
# Merged systemd jobs

systemd may answer several lifecycle calls with the same job. Every tracker of that job's path
is then owed the state changes and the one result of the job (`Served`). The two signal
handlers serve the first tracker only, so they serve all of them exactly when there is at most
one tracker of the path (`served_jobRemoved_iff`). In runs in which systemd never reuses a
tracked path, every step serves and every tracked id gets one `JobDone`.
-/

namespace BlueChi
namespace MergedJobs

open Execution

/-! ## The agent under lifecycle calls and systemd signals -/

/-- What the job tracking of the agent reacts to: calls of the controller, answers of systemd
to the `i`-th outstanding request, and signals of systemd. -/
inductive JobEvent
  | lifecycle (serial : ℕ) (method : LifecycleMethod) (name : String) (jobId : UInt32)
      (now : UInt64) (started : Bool)
  | systemdReply (i : ℕ) (answer : Except String String)
  | jobRemoved (jobPath result : String) (now : UInt64)
  | jobChanged (objectPath interface : String) (changed : Properties)
  | jobCancel (serial : ℕ) (bcJobId : UInt32) (started : Bool)
  | enableMetrics (serial : ℕ)
  | disableMetrics (serial : ℕ)

/-- The handler of each event. -/
def handle (agent : Agent) : JobEvent → Option (Agent × List AgentOutput)
  | .lifecycle serial method name jobId now started =>
    some (agentRunUnitLifecycleMethod agent serial method name jobId now started)
  | .systemdReply i answer => agentSystemdReply agent i answer
  | .jobRemoved jobPath result now => some (agentMatchJobRemoved agent jobPath result now)
  | .jobChanged objectPath interface changed =>
    some (agent, agentMatchJobChanged agent objectPath interface changed)
  | .jobCancel serial bcJobId started =>
    some (agent, (agentMethodJobCancel agent serial bcJobId started).1)
  | .enableMetrics serial => some (agentMethodEnableMetrics agent serial)
  | .disableMetrics serial => some (agentMethodDisableMetrics agent serial)

/-- The tracker that an event adds: systemd accepts a request. -/
def newTracker (agent : Agent) : JobEvent → List JobTracker
  | .systemdReply i (.ok path) => agent.outstandingRequests[i]?.toList.map fun req => ⟨path, req.op⟩
  | _ => []

/-- A run: the agent, all it has sent, and all trackers it ever had. -/
structure JobRun where
  agent : Agent
  out : List AgentOutput
  tracked : List JobTracker

def jobStep (r : JobRun) (e : JobEvent) : Option JobRun :=
  (handle r.agent e).map fun p => ⟨p.1, r.out ++ p.2, r.tracked ++ newTracker r.agent e⟩

def jobSystem : System JobRun JobEvent where
  init r := r = ⟨agentNew, [], []⟩
  step := jobStep

/-! ## What the trackers are owed -/

/-- The `JobDone` signals among the messages. -/
def jobDones (out : List AgentOutput) : List (UInt32 × String) :=
  out.filterMap fun
    | .signal (.jobDone id result) => some (id, result)
    | _ => none

/-- The `JobStateChanged` signals among the messages. -/
def jobStates (out : List AgentOutput) : List (UInt32 × String) :=
  out.filterMap fun
    | .signal (.jobStateChanged id state) => some (id, state)
    | _ => none

/-- The trackers of a job path. -/
def trackersOf (agent : Agent) (path : String) : List JobTracker :=
  agent.trackedJobs.filter fun track => track.jobObjectPath = path

/-- The new state that a `PropertiesChanged` signal reports for a job. -/
def changedState (interface : String) (changed : Properties) : Option String :=
  if interface = systemdJobIface then changed.stringValue "State" else none

/-- All trackers concerned by an event are served by what the agent does on it: a removal
gives each tracker of the path its `JobDone` and leaves none of them, a state change is
forwarded for each tracker of the path, and no other event completes or changes a job. -/
def Served (agent : Agent) (e : JobEvent) (agent' : Agent) (out : List AgentOutput) : Prop :=
  match e with
  | .jobRemoved path result _ =>
    (jobDones out).Perm ((trackersOf agent path).map fun track => (track.op.bcJobId, result)) ∧
      jobStates out = [] ∧
      agent'.trackedJobs = agent.trackedJobs.filter fun track => !(track.jobObjectPath = path)
  | .jobChanged path interface changed =>
    jobDones out = [] ∧ agent'.trackedJobs = agent.trackedJobs ∧
      (jobStates out).Perm ((changedState interface changed).toList.flatMap fun state =>
        (trackersOf agent path).map fun track => (track.op.bcJobId, state))
  | e =>
    jobDones out = [] ∧ jobStates out = [] ∧
      agent'.trackedJobs = newTracker agent e ++ agent.trackedJobs

/-! ## The handlers serve one tracker -/

lemma jobDones_agentJobDone (agent : Agent) (op : AgentJobOp) (result : String) (now : UInt64) :
    jobDones (agentJobDone agent op result now) = [(op.bcJobId, result)] := by
  unfold agentJobDone jobDones
  split <;> rfl

lemma jobStates_agentJobDone (agent : Agent) (op : AgentJobOp) (result : String) (now : UInt64) :
    jobStates (agentJobDone agent op result now) = [] := by
  unfold agentJobDone jobStates
  split <;> rfl

/-- `agent_match_job_removed` serves the first tracker of the path. -/
lemma agentMatchJobRemoved_spec (agent : Agent) (path result : String) (now : UInt64) :
    let p := fun track : JobTracker => decide (track.jobObjectPath = path)
    jobDones (agentMatchJobRemoved agent path result now).2 =
        (agent.trackedJobs.find? p).toList.map (fun track => (track.op.bcJobId, result)) ∧
      jobStates (agentMatchJobRemoved agent path result now).2 = [] ∧
      (agentMatchJobRemoved agent path result now).1 =
        { agent with trackedJobs := agent.trackedJobs.eraseP p } := by
  intro p
  unfold agentMatchJobRemoved
  cases h : agent.trackedJobs.find? p with
  | none =>
    refine ⟨rfl, rfl, ?_⟩
    have herase : agent.trackedJobs.eraseP p = agent.trackedJobs :=
      List.eraseP_of_forall_not fun track htrack => List.find?_eq_none.mp h track htrack
    rw [herase]
  | some track => exact ⟨jobDones_agentJobDone _ _ _ _, jobStates_agentJobDone _ _ _ _, rfl⟩

/-- A removal serves all trackers of the path exactly when there is at most one. -/
theorem served_jobRemoved_iff (agent : Agent) (path result : String) (now : UInt64) :
    Served agent (.jobRemoved path result now) (agentMatchJobRemoved agent path result now).1
        (agentMatchJobRemoved agent path result now).2 ↔
      agent.trackedJobs.countP (fun track => track.jobObjectPath = path) ≤ 1 := by
  obtain ⟨hdone, hstate, hagent⟩ := agentMatchJobRemoved_spec agent path result now
  simp only [Served, hdone, hstate, hagent, trackersOf]
  constructor
  · rintro ⟨-, -, herase⟩
    exact (List.eraseP_eq_filter_not_iff _).mp herase
  · intro h
    rw [List.find?_toList_eq_filter _ h]
    exact ⟨.refl _, trivial, List.eraseP_eq_filter_not _ h⟩

/-- `agent_match_job_changed` forwards to the first tracker of the path, and only when the
state is the last entry of the array. -/
lemma agentMatchJobChanged_spec (agent : Agent) (path interface : String)
    (changed : Properties) :
    jobDones (agentMatchJobChanged agent path interface changed) = [] ∧
      jobStates (agentMatchJobChanged agent path interface changed) =
        (if changed.LastEntry "State" then changedState interface changed else none).toList.flatMap
          fun state => (agent.trackedJobs.find? fun track => track.jobObjectPath = path).toList.map
            fun track => (track.op.bcJobId, state) := by
  unfold agentMatchJobChanged changedState
  by_cases hi : interface = systemdJobIface
  · simp only [hi, ne_eq, not_true_eq_false, if_false, if_true]
    rw [← busParsePropertyString_toOption]
    cases agent.trackedJobs.find? fun track => track.jobObjectPath = path with
    | none => simp [jobDones, jobStates]
    | some track =>
      cases busParsePropertyString changed "State" with
      | error r => simp [jobDones, jobStates, Except.toOption]
      | ok state => simp [jobDones, jobStates, Except.toOption]
  · simp [hi, jobDones, jobStates]

/-- A change is forwarded for all trackers of the path exactly when it carries no state, or
no tracker has the path, or one tracker has it and the state is the last entry. -/
theorem served_jobChanged_iff (agent : Agent) (path interface : String) (changed : Properties) :
    Served agent (.jobChanged path interface changed) agent
        (agentMatchJobChanged agent path interface changed) ↔
      changedState interface changed = none ∨
        agent.trackedJobs.countP (fun track => track.jobObjectPath = path) = 0 ∨
        agent.trackedJobs.countP (fun track => track.jobObjectPath = path) = 1 ∧
          changed.LastEntry "State" := by
  obtain ⟨hdone, hstate⟩ := agentMatchJobChanged_spec agent path interface changed
  have hcount : (trackersOf agent path).length =
      agent.trackedJobs.countP fun track => track.jobObjectPath = path :=
    List.countP_eq_length_filter.symm
  have hfind : (agent.trackedJobs.find? fun track => track.jobObjectPath = path).toList.length
      ≤ 1 := by
    cases agent.trackedJobs.find? fun track => track.jobObjectPath = path <;> simp
  simp only [Served, hdone, hstate, true_and]
  cases hs : changedState interface changed with
  | none => simp
  | some state =>
    simp only [Option.toList_some, List.flatMap_cons, List.flatMap_nil, List.append_nil,
      reduceCtorEq, false_or]
    constructor
    · intro hperm
      have hlen := hperm.length_eq
      rw [List.length_map, hcount] at hlen
      by_cases hlast : changed.LastEntry "State"
      · rw [if_pos hlast] at hlen
        simp only [Option.toList_some, List.flatMap_cons, List.flatMap_nil, List.append_nil,
          List.length_map] at hlen
        refine Or.imp_right (fun h => ⟨h, hlast⟩) ?_
        omega
      · rw [if_neg hlast] at hlen
        exact Or.inl hlen.symm
    · rintro (h0 | ⟨h1, hlast⟩)
      · have hnil : trackersOf agent path = [] := by
          rw [← List.length_eq_zero_iff, hcount, h0]
        rw [List.find?_toList_eq_filter _ (h0.trans_le zero_le_one)]
        change (List.flatMap (fun state => (trackersOf agent path).map _) _).Perm _
        rw [hnil]
        split <;> simp
      · rw [if_pos hlast, List.find?_toList_eq_filter _ h1.le]
        simp [trackersOf]

/-! ## Runs -/

/-- The step at `r` on `e` serves all trackers concerned. -/
def ServedStep (r : JobRun) (e : JobEvent) : Prop :=
  ∀ p, handle r.agent e = some p → Served r.agent e p.1 p.2

/-- The removed path is tracked once at most; a path whose state changes is tracked once, and
the state is the last of the changed properties. -/
def SinglyTracked (r : JobRun) : JobEvent → Prop
  | .jobRemoved path _ _ =>
    r.agent.trackedJobs.countP (fun track => track.jobObjectPath = path) ≤ 1
  | .jobChanged path interface changed =>
    changedState interface changed = none ∨
      r.agent.trackedJobs.countP (fun track => track.jobObjectPath = path) = 0 ∨
      r.agent.trackedJobs.countP (fun track => track.jobObjectPath = path) = 1 ∧
        changed.LastEntry "State"
  | _ => True

/-- The other events serve in every state. -/
lemma served_of_not_signal (agent : Agent) (e : JobEvent) (p : Agent × List AgentOutput)
    (h : handle agent e = some p) (hr : ∀ path result now, e ≠ .jobRemoved path result now)
    (hc : ∀ path interface changed, e ≠ .jobChanged path interface changed) :
    Served agent e p.1 p.2 := by
  cases e with
  | jobRemoved path result now => exact absurd rfl (hr path result now)
  | jobChanged path interface changed => exact absurd rfl (hc path interface changed)
  | lifecycle serial method name jobId now started =>
    simp only [handle, Option.some.injEq] at h
    subst h
    unfold agentRunUnitLifecycleMethod
    cases started <;> exact ⟨rfl, rfl, rfl⟩
  | systemdReply i answer =>
    simp only [handle, agentSystemdReply, Option.map_eq_some_iff] at h
    obtain ⟨req, hreq, rfl⟩ := h
    cases answer with
    | error message => exact ⟨rfl, rfl, rfl⟩
    | ok path => exact ⟨rfl, rfl, by simp [newTracker, hreq, agentUnitLifecycleMethodCallback, agentTrackJob]⟩
  | jobCancel serial bcJobId started =>
    simp only [handle, Option.some.injEq] at h
    subst h
    refine ⟨?_, ?_, rfl⟩ <;>
    · unfold agentMethodJobCancel
      cases agentFindJobtrackerByBluechiId agent bcJobId with
      | none => rfl
      | some track => cases started <;> rfl
  | enableMetrics serial =>
    simp only [handle, Option.some.injEq] at h
    subst h
    unfold agentMethodEnableMetrics
    split <;> exact ⟨rfl, rfl, rfl⟩
  | disableMetrics serial =>
    simp only [handle, Option.some.injEq] at h
    subst h
    unfold agentMethodDisableMetrics
    split <;> exact ⟨rfl, rfl, rfl⟩

theorem servedStep_iff (r : JobRun) (e : JobEvent) : ServedStep r e ↔ SinglyTracked r e := by
  cases e with
  | jobRemoved path result now =>
    simp only [ServedStep, handle, Option.some.injEq, forall_eq', SinglyTracked]
    exact served_jobRemoved_iff _ _ _ _
  | jobChanged path interface changed =>
    simp only [ServedStep, handle, Option.some.injEq, forall_eq', SinglyTracked]
    exact served_jobChanged_iff _ _ _ _
  | _ =>
    refine ⟨fun _ => trivial, fun _ p hp => served_of_not_signal _ _ _ hp ?_ ?_⟩ <;>
    simp

/-- One step accounts for the trackers of an id: those there were and the new one are there
still, or have been given their `JobDone`. -/
lemma countP_step (agent : Agent) (e : JobEvent) (p : Agent × List AgentOutput)
    (h : handle agent e = some p) (id : UInt32) :
    (jobDones p.2).countP (fun done => done.1 = id) +
        p.1.trackedJobs.countP (fun track => track.op.bcJobId = id) =
      (newTracker agent e).countP (fun track => track.op.bcJobId = id) +
        agent.trackedJobs.countP (fun track => track.op.bcJobId = id) := by
  cases e with
  | jobRemoved path result now =>
    simp only [handle, Option.some.injEq] at h
    subst h
    obtain ⟨hdone, -, hagent⟩ := agentMatchJobRemoved_spec agent path result now
    have hperm := List.find?_toList_append_eraseP_perm
      (fun track : JobTracker => decide (track.jobObjectPath = path)) agent.trackedJobs
    have hnew : newTracker agent (.jobRemoved path result now) = [] := rfl
    rw [hdone, hagent, hnew, List.countP_nil, Nat.zero_add, ← hperm.countP_eq,
      List.countP_append, List.countP_map]
    rfl
  | jobChanged path interface changed =>
    simp only [handle, Option.some.injEq] at h
    subst h
    rw [(agentMatchJobChanged_spec agent path interface changed).1]
    rfl
  | _ =>
    have hserved := served_of_not_signal agent _ p h (by simp) (by simp)
    obtain ⟨hdone, -, htracked⟩ := hserved
    rw [hdone, htracked, List.countP_append, List.countP_nil, Nat.zero_add]

/-- In every run, each tracked id has been given a `JobDone` or is tracked still. -/
lemma jobDones_add_tracked {r : JobRun} (h : Reachable jobSystem r) (id : UInt32) :
    (jobDones r.out).countP (fun done => done.1 = id) +
        r.agent.trackedJobs.countP (fun track => track.op.bcJobId = id) =
      r.tracked.countP fun track => track.op.bcJobId = id := by
  induction h with
  | init h0 =>
    subst h0
    rfl
  | @step r e r' _ _ hstep hinv =>
    simp only [jobSystem, jobStep, Option.map_eq_some_iff] at hstep
    obtain ⟨p, hp, rfl⟩ := hstep
    have hcount := countP_step r.agent e p hp id
    simp only [jobDones, List.filterMap_append, List.countP_append] at hinv hcount ⊢
    omega

/-- Every step of a run serves all trackers concerned if and only if no step is a signal on a
path that several trackers share, or a state change hidden before another property. And in
every run each tracked id has one `JobDone` for each of its trackers that is gone. -/
theorem mergedJobs_served_iff (es : List JobEvent) :
    (GuardedRun jobSystem ServedStep ⟨agentNew, [], []⟩ es ↔
        GuardedRun jobSystem SinglyTracked ⟨agentNew, [], []⟩ es) ∧
      ∀ r, run jobSystem ⟨agentNew, [], []⟩ es = some r → ∀ id,
        (jobDones r.out).countP (fun done => done.1 = id) +
            r.agent.trackedJobs.countP (fun track => track.op.bcJobId = id) =
          r.tracked.countP fun track => track.op.bcJobId = id :=
  ⟨GuardedRun.congr servedStep_iff _ es,
    fun _ hrun id => jobDones_add_tracked (Reachable.run (.init rfl) hrun) id⟩

/-- Two calls for one unit, which systemd merges into one job, and the end of that job. -/
def mergedCalls : List JobEvent :=
  [.lifecycle 1 .startUnit "a.service" 1 0 true, .lifecycle 2 .startUnit "a.service" 2 0 true,
    .systemdReply 0 (.ok "/org/freedesktop/systemd1/job/7"),
    .systemdReply 0 (.ok "/org/freedesktop/systemd1/job/7"),
    .jobRemoved "/org/freedesktop/systemd1/job/7" "done" 0]

/-- Merged calls are not all served: the second of them is left without its result. -/
theorem mergedCalls_not_served :
    ¬ ∀ es, GuardedRun jobSystem ServedStep ⟨agentNew, [], []⟩ es := by
  intro h
  have hlast := ((((h mergedCalls).2 _ rfl).2 _ rfl).2 _ rfl).2 _ rfl
  have hsingle := (servedStep_iff _ _).mp hlast.1
  exact absurd hsingle (by unfold SinglyTracked; decide)

end MergedJobs
end BlueChi
