import BlueChi.Controller.Announcements

/-!
# Job signals and the jobs of other nodes

An agent reports the end and the state of a job by the job's id. The controller looks for the
first listed job of that id, whichever node it belongs to, so the jobs of other nodes are left
alone exactly when that job is one of the node that sent the signal.
-/

namespace BlueChi

open Execution

/-- The id in a signal about a job. -/
def NodeSignal.jobId : NodeSignal → Option UInt32
  | .jobDone id .. => some id
  | .jobStateChanged id _ => some id
  | _ => none

/-- The address of the job whose removal, state or metrics a message reports. -/
def Output.reportedJob : Output → Option ℕ
  | .jobRemoved job .. => some job.ptr
  | .jobState job => some job.ptr
  | .startUnitJobMetrics job .. => some job.ptr
  | _ => none

namespace Controller

variable {s s' : Controller}

/-- The job stays in the list as it is, and nothing is reported about it. -/
def LeavesJob (s s' : Controller) (job : Job) : Prop :=
  job ∈ s'.jobs ∧ ∃ l, s'.log = s.log ++ l ∧ ∀ o ∈ l, o.reportedJob ≠ some job.ptr

/-- The jobs of the other nodes are left alone. -/
def LeavesOtherJobs (n : NodeId) (s s' : Controller) : Prop :=
  ∀ job ∈ s.jobs, job.node ≠ n → LeavesJob s s' job

/-- The job that a signal with that id is taken to be about. -/
def jobOfId (s : Controller) (id : UInt32) : Option Job := s.jobs.find? fun job => job.id = id

lemma jobUnref_log (s : Controller) (ptr : ℕ) (o : Owner) : (s.jobUnref ptr o).log = s.log := by
  unfold jobUnref
  simp only
  split <;> rfl

/-- The removal of a job is reported first, and then its metrics. -/
lemma removeJob_log (sync : SyncCalls) (s : Controller) (job : Job) (result : String) :
    ∃ l, (s.removeJob sync job result).log =
        s.log ++ .jobRemoved job (s.nodeName job.node) result :: l ∧
      ∀ o ∈ l, o.reportedJob = some job.ptr := by
  have hreport : ∀ t : Controller, ∃ l, (t.metricsProduceJobReport sync job).log = t.log ++ l ∧
      ∀ o ∈ l, o.reportedJob = some job.ptr := by
    intro t
    unfold metricsProduceJobReport
    split
    · exact ⟨[], by simp, by simp⟩
    · split
      · exact ⟨[], by simp, by simp⟩
      · exact ⟨_, rfl, by simp [Output.reportedJob]⟩
  unfold removeJob
  rw [jobUnref_log]
  split
  · obtain ⟨l, hl, hreported⟩ := hreport
      ((s.emit (.jobRemoved job (s.nodeName job.node) result)).unlistJob job)
    refine ⟨l, ?_, hreported⟩
    rw [hl]
    simp [unlistJob]
  · exact ⟨[], by simp [unlistJob], by simp⟩

namespace JobInv

variable {kept : Prop}

/-- The other jobs are left alone when a job ends. -/
lemma leavesJob_finishJob (h : JobInv kept s) (sync : SyncCalls) {id : UInt32} (result : String)
    (now : UInt64) {job j : Job} (hfind : s.jobOfId id = some job) (hj : j ∈ s.jobs) (hne : j ≠ job) :
    LeavesJob s (s.finishJob sync id result now) j := by
  have hjob : job ∈ s.jobs := List.mem_of_find?_eq_some hfind
  have hptr : j.ptr ≠ job.ptr := fun heq => hne (List.inj_on_of_nodup_map h.nodup hj hjob heq)
  unfold Controller.finishJob
  rw [show (s.jobs.find? fun job => job.id = id) = some job from hfind]
  simp only
  generalize hjob' : (if s.metricsEnabled then { job with jobEndMicros := now } else job) = job'
  have hsame : job'.ptr = job.ptr := by
    rw [← hjob']
    split <;> rfl
  refine ⟨?_, ?_⟩
  · rw [removeJob_jobs]
    have hkeep : j ∈ (s.modifyJob job.ptr fun _ => job').jobs :=
      List.mem_map.mpr ⟨j, hj, by simp [hptr]⟩
    exact (List.mem_eraseP_of_neg (by simpa [hsame] using hptr)).mpr hkeep
  · obtain ⟨l, hl, hreported⟩ := removeJob_log sync (s.modifyJob job.ptr fun _ => job') job' result
    refine ⟨_, hl, fun o ho => ?_⟩
    rcases List.mem_cons.mp ho with rfl | ho
    · simpa [Output.reportedJob, hsame] using hptr.symm
    · rw [hreported o ho, hsame]
      simpa using hptr.symm

/-- The other jobs are left alone when the state of a job changes. -/
lemma leavesJob_jobStateChanged (h : JobInv kept s) {id : UInt32} (state : String) {job j : Job}
    (hfind : s.jobOfId id = some job) (hj : j ∈ s.jobs) (hne : j ≠ job) :
    LeavesJob s (s.jobStateChanged id state) j := by
  have hjob : job ∈ s.jobs := List.mem_of_find?_eq_some hfind
  have hptr : j.ptr ≠ job.ptr := fun heq => hne (List.inj_on_of_nodup_map h.nodup hj hjob heq)
  unfold Controller.jobStateChanged
  rw [show (s.jobs.find? fun job => job.id = id) = some job from hfind]
  refine ⟨List.mem_map.mpr ⟨j, hj, by simp [hptr]⟩, _, rfl, fun o ho => ?_⟩
  rw [List.mem_singleton.mp ho]
  simpa [Output.reportedJob] using hptr.symm

end JobInv

/-- The job of that id is reported on, whichever node it belongs to. -/
lemma reports_job {n : NodeId} {sig : NodeSignal} {id : UInt32} {job : Job}
    (hid : sig.jobId = some id) (hfind : s.jobOfId id = some job) :
    ∃ o l, (s.onSignal n sig).log = s.log ++ o :: l ∧ o.reportedJob = some job.ptr := by
  cases sig with
  | jobDone id' result now sync =>
    obtain rfl : id' = id := by simpa [NodeSignal.jobId] using hid
    rw [onSignal, finishJob, show (s.jobs.find? fun job => job.id = id') = some job from hfind]
    simp only
    obtain ⟨l, hl, -⟩ := removeJob_log sync (s.modifyJob job.ptr fun _ =>
      if s.metricsEnabled then { job with jobEndMicros := now } else job)
      (if s.metricsEnabled then { job with jobEndMicros := now } else job) result
    refine ⟨_, l, hl, ?_⟩
    simp only [Output.reportedJob, Option.some.injEq]
    split <;> rfl
  | jobStateChanged id' state =>
    obtain rfl : id' = id := by simpa [NodeSignal.jobId] using hid
    rw [onSignal, jobStateChanged, show (s.jobs.find? fun job => job.id = id') = some job from hfind]
    exact ⟨_, [], rfl, rfl⟩
  | _ => simp [NodeSignal.jobId] at hid

/-- A job signal of a node leaves the jobs of the other nodes alone exactly when the first listed
job of its id, if there is one, is a job of that node. -/
theorem leavesOtherJobs_iff (h : Reachable system s) {bus : BusId} {n : NodeId} {sig : NodeSignal}
    {id : UInt32} (hid : sig.jobId = some id)
    (hstep : s.step (.agentSignal bus n sig) = some s') :
    LeavesOtherJobs n s s' ↔ ∀ job, s.jobOfId id = some job → job.node = n := by
  have hinv := jobInv_of_reachable h
  obtain ⟨-, -, rfl⟩ := step_agentSignal_iff.mp hstep
  constructor
  · intro hleaves job hfind
    by_contra hne
    obtain ⟨-, l, hl, hquiet⟩ := hleaves job (List.mem_of_find?_eq_some hfind) hne
    obtain ⟨o, l', hl', hreported⟩ := reports_job (n := n) hid hfind
    rw [hl', List.append_cancel_left_eq] at hl
    exact hquiet o (hl ▸ List.mem_cons_self) hreported
  · intro hnode j hj hne
    cases hfind : s.jobOfId id with
    | none =>
      have hsame : s.onSignal n sig = s := by
        cases sig with
        | jobDone id' result now sync =>
          obtain rfl : id' = id := by simpa [NodeSignal.jobId] using hid
          rw [onSignal, finishJob, show (s.jobs.find? fun job => job.id = id') = none from hfind]
        | jobStateChanged id' state =>
          obtain rfl : id' = id := by simpa [NodeSignal.jobId] using hid
          rw [onSignal, jobStateChanged,
            show (s.jobs.find? fun job => job.id = id') = none from hfind]
        | _ => simp [NodeSignal.jobId] at hid
      rw [hsame]
      exact ⟨hj, [], by simp, by simp⟩
    | some job =>
      have hother : j ≠ job := by
        rintro rfl
        exact hne (hnode j hfind)
      cases sig with
      | jobDone id' result now sync =>
        obtain rfl : id' = id := by simpa [NodeSignal.jobId] using hid
        exact hinv.leavesJob_finishJob sync result now hfind hj hother
      | jobStateChanged id' state =>
        obtain rfl : id' = id := by simpa [NodeSignal.jobId] using hid
        exact hinv.leavesJob_jobStateChanged state hfind hj hother
      | _ => simp [NodeSignal.jobId] at hid

/-- Two nodes whose agents are registered, and a job with id 1 of the first. -/
def jobOfFirst : List Event :=
  [.accept ⟨some none, none⟩ fun _ => false,
    .register 3 1 "n" 1 1 ⟨some none, none⟩ fun _ => false,
    .accept ⟨some none, none⟩ fun _ => false,
    .register 5 2 "m" 1 1 ⟨some none, none⟩ fun _ => false,
    .lifecycle 1 3 .startUnit "a.service" "replace" 5 true, .agentReply 8 (.ok [])]

def twoNodes : Controller := start 0 [⟨"n", none, []⟩, ⟨"m", none, []⟩]

/-- The end of a job with id 1. -/
def firstJobDone : NodeSignal := .jobDone 1 "done" 0 fun _ _ _ => none

/-- The first node may report the end of its job. -/
theorem jobOfFirst_leavesOtherJobs : ∃ s s', run system twoNodes jobOfFirst = some s ∧
    s.step (.agentSignal 4 1 firstJobDone) = some s' ∧ s.jobs.map (·.node) = [1] ∧
      LeavesOtherJobs 1 s s' := by
  have hrun : (run system twoNodes jobOfFirst).map (fun s =>
      (s.jobs.map (·.node), (s.jobOfId 1).map (·.node), (s.step (.agentSignal 4 1 firstJobDone)).isSome)) =
        some ([1], some 1, true) := by
    decide +kernel
  obtain ⟨s, hs, hread⟩ := Option.map_eq_some_iff.mp hrun
  simp only [Prod.mk.injEq] at hread
  obtain ⟨hjobs, hnode, hsome⟩ := hread
  obtain ⟨s', hs'⟩ := Option.isSome_iff_exists.mp hsome
  have hreach : Reachable system s := Reachable.run (.init ⟨0, _, rfl⟩) hs
  refine ⟨s, s', hs, hs', hjobs, (leavesOtherJobs_iff hreach rfl hs').mpr fun job hjob => ?_⟩
  rw [hjob] at hnode
  exact Option.some.inj hnode

/-- The second node can end the job of the first one. -/
theorem jobOfFirst_ended_by_second : ¬∀ s s' bus n sig, Reachable system s → sig.jobId ≠ none →
    s.step (.agentSignal bus n sig) = some s' → LeavesOtherJobs n s s' := by
  have hrun : (run system twoNodes jobOfFirst).bind (fun s =>
      (s.step (.agentSignal 6 2 firstJobDone)).map fun s' => (s.jobs.map (·.node), s'.jobs)) =
        some ([1], []) := by
    decide +kernel
  obtain ⟨s, hs, hstep⟩ := Option.bind_eq_some_iff.mp hrun
  obtain ⟨s', hs', hread⟩ := Option.map_eq_some_iff.mp hstep
  rw [Prod.mk.injEq] at hread
  have hreach : Reachable system s := Reachable.run (.init ⟨0, _, rfl⟩) hs
  intro hall
  have hmem : (1 : NodeId) ∈ s.jobs.map (·.node) := by simp [hread.1]
  obtain ⟨job, hjob, hnode⟩ := List.mem_map.mp hmem
  have hleft := (hall s s' 6 2 firstJobDone hreach (by simp [firstJobDone, NodeSignal.jobId]) hs' job
    hjob (by rw [hnode]; simp)).1
  rw [hread.2] at hleft
  simp at hleft

end Controller
end BlueChi
