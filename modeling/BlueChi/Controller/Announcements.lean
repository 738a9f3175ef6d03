import Mathlib.Data.List.Chain
import BlueChi.Library.Lists
import BlueChi.Controller.JobFrames

/-!
# Job announcements

A client waits for the `JobRemoved` signal of the job it was told about. Along every run in
which no job's node is disconnected, the `JobNew` and `JobRemoved` signals of an id alternate,
and the id is one of a listed job exactly after a `JobNew` (`Announced`).

`JobInv` carries the proof: a listed job is held by the list and exported, so no second job of
its id is exported, and a request that may still list a job holds a reference of it.
-/

namespace BlueChi
namespace Controller

open Execution

/-! ## The signals of a job -/

/-- What a message announces about a job. -/
inductive JobSignal
  | new | removed
  deriving DecidableEq, Repr

section

variable {κ : Type} [DecidableEq κ] (key : Job → κ)

/-- What a message announces about the jobs with that key. -/
def jobSignal (k : κ) : Output → Option JobSignal
  | .jobNew job => if key job = k then some .new else none
  | .jobRemoved job _ _ => if key job = k then some .removed else none
  | _ => none

def jobSignals (log : List Output) (k : κ) : List JobSignal := log.filterMap (jobSignal key k)

/-- The signals alternate, starting with `new`, and end with it just when a job is listed. -/
structure Alternating (sigs : List JobSignal) (listed : Prop) : Prop where
  first : ∀ sig ∈ sigs.head?, sig = .new
  chain : sigs.IsChain (· ≠ ·)
  last : listed ↔ sigs.getLast? = some .new

/-- The signals about a key are paired, and tell whether a job of that key is listed. -/
def Paired (log : List Output) (jobs : List Job) (k : κ) : Prop :=
  Alternating (jobSignals key log k) (∃ job ∈ jobs, key job = k)

end

/-- The jobs are announced as they are listed: by their ids, which are what clients see, and
by their addresses. No two listed jobs have the same id. -/
structure Announced (log : List Output) (jobs : List Job) : Prop where
  ids : ∀ id, Paired (·.id) log jobs id
  ptrs : ∀ ptr, Paired (·.ptr) log jobs ptr
  nodup : (jobs.map (·.id)).Nodup

namespace Alternating

variable {sigs : List JobSignal} {p q : Prop}

lemma append_new (h : Alternating sigs p) (hp : ¬p) (hq : q) : Alternating (sigs ++ [.new]) q where
  first sig hsig := by
    cases sigs with
    | nil => simpa [eq_comm] using hsig
    | cons x xs => exact h.first sig (by simpa using hsig)
  chain := by
    rw [List.isChain_append]
    refine ⟨h.chain, List.IsChain.singleton _, fun x hx y hy => ?_⟩
    -- the last signal is not `new`, since no job is listed
    rintro rfl
    simp only [List.head?_cons, Option.mem_def, Option.some.injEq] at hy
    subst hy
    exact hp (h.last.mpr hx)
  last := by simp [hq]

lemma append_removed (h : Alternating sigs p) (hp : p) (hq : ¬q) :
    Alternating (sigs ++ [.removed]) q where
  first sig hsig := by
    cases sigs with
    | nil => exact absurd (h.last.mp hp) (by simp)
    | cons x xs => exact h.first sig (by simpa using hsig)
  chain := by
    rw [List.isChain_append]
    refine ⟨h.chain, List.IsChain.singleton _, fun x hx y hy => ?_⟩
    simp only [List.head?_cons, Option.mem_def, Option.some.injEq] at hy
    rw [h.last.mp hp, Option.mem_def, Option.some.injEq] at hx
    simp [← hx, ← hy]
  last := by simp [hq]

end Alternating

namespace Paired

variable {κ : Type} [DecidableEq κ] {key : Job → κ} {k : κ} {log : List Output} {jobs : List Job}

/-- A job whose key no listed job has is announced and listed. -/
lemma add (h : Paired key log jobs k) {job : Job} (hkey : ∀ j ∈ jobs, key j ≠ key job) :
    Paired key (log ++ [.jobNew job]) (jobs ++ [job]) k := by
  unfold Paired jobSignals at h ⊢
  rw [List.filterMap_append]
  by_cases hjob : key job = k
  · have hsig : List.filterMap (jobSignal key k) [.jobNew job] = [.new] := by
      simp [jobSignal, hjob]
    have hnone : ¬∃ j ∈ jobs, key j = k := by
      rintro ⟨j, hj, heq⟩
      exact hkey j hj (heq.trans hjob.symm)
    rw [hsig]
    exact h.append_new hnone ⟨job, by simp, hjob⟩
  · have hsig : List.filterMap (jobSignal key k) [.jobNew job] = [] := by
      simp [jobSignal, hjob]
    rw [hsig, List.append_nil]
    refine ⟨h.first, h.chain, Iff.trans ?_ h.last⟩
    simp [or_and_right, exists_or, hjob]

/-- The removal of the one job of that key is announced. -/
lemma remove (h : Paired key log jobs k) {job : Job} {node result : String} {jobs' : List Job}
    (hlisted : ∃ j ∈ jobs, key j = key job)
    (hjobs' : ∀ k, (∃ j ∈ jobs', key j = k) ↔ k ≠ key job ∧ ∃ j ∈ jobs, key j = k) :
    Paired key (log ++ [.jobRemoved job node result]) jobs' k := by
  unfold Paired jobSignals at h ⊢
  rw [List.filterMap_append]
  by_cases hjob : key job = k
  · have hsig : List.filterMap (jobSignal key k) [.jobRemoved job node result] = [.removed] := by
      simp [jobSignal, hjob]
    rw [hsig]
    refine h.append_removed (hjob ▸ hlisted) fun hmem => ?_
    exact ((hjobs' k).mp hmem).1 hjob.symm
  · have hsig : List.filterMap (jobSignal key k) [.jobRemoved job node result] = [] := by
      simp [jobSignal, hjob]
    have hne : k ≠ key job := fun heq => hjob heq.symm
    rw [hsig, List.append_nil]
    refine ⟨h.first, h.chain, Iff.trans ?_ h.last⟩
    rw [hjobs' k]
    exact and_iff_right hne

end Paired

/-- A message that announces no job is no job signal. -/
lemma jobSignal_eq_none {κ : Type} [DecidableEq κ] (key : Job → κ) (k : κ) {o : Output}
    (ho : o.kind ≠ .job) : jobSignal key k o = none := by
  cases o with
  | jobNew job => exact absurd rfl ho
  | jobRemoved job node result => exact absurd rfl ho
  | _ => rfl

/-! ## The invariant -/

/-- What the announcements rest on. They are right as long as `kept` holds, that no job was dropped
without being announced. -/
structure JobInv (kept : Prop) (s : Controller) : Prop where
  announced : kept → Announced s.log s.jobs
  /-- Two listed jobs are two objects. -/
  nodup : (s.jobs.map (·.ptr)).Nodup
  /-- A listed job is on the bus. -/
  exported : ∀ job ∈ s.jobs, (job.ptr, job.id) ∈ s.exportedJobs
  /-- The list holds a reference of a listed job. -/
  list : ∀ job ∈ s.jobs, .list ∈ (s.refs (.job job.ptr)).owners
  /-- A listed job was made for the request at the next address. -/
  origin : ∀ job ∈ s.jobs, ∃ serial job',
    (s.request (job.ptr + 1)).handler = .lifecycle serial job' ∧ job'.id = job.id
  /-- A lifecycle request was made right after its job. -/
  next : ∀ (r : ℕ) serial job, (s.request r).handler = .lifecycle serial job →
    job.ptr + 1 = r ∧ r < s.nextPtr
  /-- A request that is not freed holds a reference of its job. -/
  held : ∀ (r : ℕ) serial job, (s.request r).handler = .lifecycle serial job →
    0 < (s.refs (.request r)).count → .creator ∈ (s.refs (.job job.ptr)).owners
  wf : ∀ ptr, (s.refs (.job ptr)).WF

/-- The nodes of the configuration are added without any job. -/
lemma jobFrame_start (threshold : ℤ) (cfgs : List NodeConfig) :
    JobFrame { controllerNew with heartbeatThresholdMsec := threshold } (start threshold cfgs) := by
  have hcfg : ∀ s cfg, JobFrame s (applyNodeConfig s cfg) := by
    intro s cfg
    unfold applyNodeConfig
    simp only
    split
    · exact jobFrame_modifyNode s _ _
    · exact (jobFrame_addNode s _).trans (jobFrame_modifyNode _ _ _)
  exact JobFrame.foldl hcfg cfgs _

namespace JobInv

variable {kept : Prop} {s s' : Controller}

lemma of_frame (h : JobInv kept s) (f : JobFrame s s') : JobInv kept s' where
  announced hkept := by
    have hother : ∀ o : Output, o.kind ∈ otherKinds → o.kind ≠ .job := fun o ho heq => by
      rw [heq] at ho
      simp [otherKinds] at ho
    have hids : ∀ id, jobSignals (·.id) s'.log id = jobSignals (·.id) s.log id := fun id =>
      f.emits.filterMap_eq fun o ho => jobSignal_eq_none _ id (hother o ho)
    have hptrs : ∀ ptr, jobSignals (·.ptr) s'.log ptr = jobSignals (·.ptr) s.log ptr := fun ptr =>
      f.emits.filterMap_eq fun o ho => jobSignal_eq_none _ ptr (hother o ho)
    rw [f.jobs]
    refine ⟨fun id => ?_, fun ptr => ?_, (h.announced hkept).nodup⟩
    · unfold Paired
      rw [hids]
      exact (h.announced hkept).ids id
    · unfold Paired
      rw [hptrs]
      exact (h.announced hkept).ptrs ptr
  nodup := f.jobs ▸ h.nodup
  exported := by
    rw [f.jobs, f.exported]
    exact h.exported
  list job hjob := by
    rw [f.refs _ rfl]
    exact h.list job (f.jobs ▸ hjob)
  origin job hjob := by
    rw [f.request]
    exact h.origin job (f.jobs ▸ hjob)
  next r serial job hreq := by
    rw [f.request] at hreq
    obtain ⟨hptr, hlt⟩ := h.next r serial job hreq
    exact ⟨hptr, hlt.trans_le f.nextPtr⟩
  held r serial job hreq hcount := by
    rw [f.request] at hreq
    rw [f.refs _ rfl] at hcount ⊢
    exact h.held r serial job hreq hcount
  wf ptr := by
    rw [f.refs _ rfl]
    exact h.wf ptr

/-- A message of another kind announces no job. -/
lemma emit (h : JobInv kept s) {o : Output} (ho : o.kind ≠ .job) : JobInv kept (s.emit o) := by
  have hsignals : ∀ {κ : Type} [DecidableEq κ] (key : Job → κ) (k : κ),
      jobSignals key (s.log ++ [o]) k = jobSignals key s.log k := by
    intro κ _ key k
    unfold jobSignals
    rw [List.filterMap_append, List.filterMap_cons_none (jobSignal_eq_none key k ho),
      List.filterMap_nil, List.append_nil]
  refine ⟨fun hkept => ⟨fun id => ?_, fun ptr => ?_, (h.announced hkept).nodup⟩, h.nodup,
    h.exported, h.list, h.origin, h.next, h.held, h.wf⟩
  · unfold Paired
    rw [emit_log, hsignals]
    exact (h.announced hkept).ids id
  · unfold Paired
    rw [emit_log, hsignals]
    exact (h.announced hkept).ptrs ptr

lemma checkSystemStatus (h : JobInv kept s) (prev : ℤ) :
    JobInv kept (s.checkSystemStatus prev) := by
  unfold Controller.checkSystemStatus
  simp only
  split
  · exact h.emit OutputKind.noConfusion
  · exact h

lemma countOnline (h : JobInv kept s) (d : ℤ) : JobInv kept (s.countOnline d) :=
  (h.of_frame ⟨rfl, rfl, rfl, le_refl _, fun _ _ => rfl, .of_log_eq rfl⟩ : JobInv kept
    { s with numberOfNodesOnline := s.numberOfNodesOnline + d }).checkSystemStatus _

/-- The address of a listed job is not one of the next ones. -/
lemma ptr_lt (h : JobInv kept s) {job : Job} (hjob : job ∈ s.jobs) : job.ptr < s.nextPtr := by
  obtain ⟨serial, job', hreq, _⟩ := h.origin job hjob
  have hlt := (h.next _ serial job' hreq).2
  omega

/-! ### References of jobs -/

/-- A request, about to be freed, drops its reference of the job. The list keeps its own. -/
lemma jobUnref_creator (h : JobInv kept s) {ptr : ℕ} (ho : .creator ∈ (s.refs (.job ptr)).owners)
    (hother : ∀ (r : ℕ) serial job, (s.request r).handler = .lifecycle serial job →
      0 < (s.refs (.request r)).count → job.ptr ≠ ptr) :
    JobInv kept (s.jobUnref ptr .creator) := by
  have hdrop : JobInv kept (s.dropRef (.job ptr) .creator) := by
    refine ⟨h.announced, h.nodup, h.exported, fun job hjob => ?_, h.origin, h.next,
      fun r serial job hreq hcount => ?_, fun ptr' => ?_⟩
    · by_cases hptr : job.ptr = ptr
      · have hmem : (Owner.list) ∈ ((s.refs (.job ptr)).unref .creator).owners :=
          RefCount.mem_owners_unref (hptr ▸ h.list job hjob) (by simp)
        simpa [dropRef, hptr] using hmem
      · simpa [dropRef, hptr] using h.list job hjob
    · have hne := hother r serial job hreq (by simpa [dropRef] using hcount)
      simpa [dropRef, hne] using h.held r serial job hreq (by simpa [dropRef] using hcount)
    · by_cases hptr : ptr' = ptr
      · subst hptr
        simpa [dropRef] using (h.wf ptr').unref ho
      · simpa [dropRef, hptr] using h.wf ptr'
  unfold jobUnref
  simp only
  split
  · rename_i hfreed
    -- the object leaves the bus, so it cannot be a listed one
    refine { hdrop with exported := fun job hjob => ?_ }
    have hne : job.ptr ≠ ptr := by
      rintro rfl
      have hpos := (hdrop.wf job.ptr).count_pos (hdrop.list job hjob)
      have hzero := isFreed_iff.mp hfreed
      omega
    simpa [hne] using hdrop.exported job hjob
  · exact hdrop

/-- The reference of the list is dropped when the job has left it. -/
lemma jobUnref_list (h : JobInv kept s) {ptr : ℕ} (ho : .list ∈ (s.refs (.job ptr)).owners)
    (hnot : ∀ job ∈ s.jobs, job.ptr ≠ ptr) : JobInv kept (s.jobUnref ptr .list) := by
  have hdrop : JobInv kept (s.dropRef (.job ptr) .list) := by
    refine ⟨h.announced, h.nodup, h.exported, fun job hjob => ?_, h.origin, h.next,
      fun r serial job hreq hcount => ?_, fun ptr' => ?_⟩
    · simpa [dropRef, hnot job hjob] using h.list job hjob
    · have hheld := h.held r serial job hreq (by simpa [dropRef] using hcount)
      by_cases hptr : job.ptr = ptr
      · have hmem : (Owner.creator) ∈ ((s.refs (.job ptr)).unref .list).owners :=
          RefCount.mem_owners_unref (hptr ▸ hheld) (by simp)
        simpa [dropRef, hptr] using hmem
      · simpa [dropRef, hptr] using hheld
    · by_cases hptr : ptr' = ptr
      · subst hptr
        simpa [dropRef] using (h.wf ptr').unref ho
      · simpa [dropRef, hptr] using h.wf ptr'
  unfold jobUnref
  simp only
  split
  · refine { hdrop with exported := fun job hjob => ?_ }
    simpa [hnot job hjob] using hdrop.exported job hjob
  · exact hdrop

/-! ### Requests -/

/-- A request whose reference is dropped has fewer references, so `held` asks for less. -/
lemma dropRef_request (h : JobInv kept s) (r : RequestId) (o : Owner) :
    JobInv kept (s.dropRef (.request r) o) := by
  refine { h with list := ?_, held := ?_, wf := ?_ }
  · intro job hjob
    simpa [dropRef] using h.list job hjob
  · intro r' serial job hreq hcount
    have hpos : 0 < (s.refs (.request r')).count := by
      by_cases hr : r' = r
      · subst hr
        simp only [dropRef, Function.update_self, RefCount.count_unref] at hcount
        omega
      · simpa [dropRef, hr] using hcount
    simpa [dropRef] using h.held r' serial job hreq hpos
  · intro ptr
    simpa [dropRef] using h.wf ptr

/-- A request that has just lost its last reference gives up that of its job. -/
lemma freeUserdata (h : JobInv kept s) {r : ℕ}
    (hfreed : (s.refs (.request r)).count = 0)
    (hheld : ∀ serial job, (s.request r).handler = .lifecycle serial job →
      .creator ∈ (s.refs (.job job.ptr)).owners) :
    JobInv kept (s.freeUserdata (s.request r).handler) := by
  cases hreq : (s.request r).handler with
  | lifecycle serial job =>
    refine h.jobUnref_creator (hheld serial job hreq) ?_
    intro r' serial' job' hreq' hcount hptr
    -- two requests of one job have one address, and this one is freed
    have hr := (h.next r serial job hreq).1
    have hr' := (h.next r' serial' job' hreq').1
    have heq : r' = r := by omega
    subst heq
    omega
  | _ => exact h

lemma agentRequestUnref (h : JobInv kept s) (r : RequestId) (o : Owner) :
    JobInv kept (s.agentRequestUnref r o) := by
  have hdrop := h.dropRef_request r o
  unfold Controller.agentRequestUnref
  simp only
  split
  · rename_i hfreed
    have hcount : ((s.dropRef (.request r) o).refs (.request r)).count = 0 :=
      isFreed_iff.mp hfreed
    have hheld : ∀ serial job, (s.request r).handler = .lifecycle serial job →
        .creator ∈ ((s.dropRef (.request r) o).refs (.job job.ptr)).owners := by
      intro serial job hreq
      have hpos : 0 < (s.refs (.request r)).count := by
        simp only [dropRef, Function.update_self, RefCount.count_unref] at hcount
        omega
      simpa [dropRef] using h.held r serial job hreq hpos
    exact ((hdrop.freeUserdata hcount hheld).of_frame (jobFrame_unlistRequest _ r)).of_frame
      (.of_proxy (proxyFrame_nodeUnref _ _ _))
  · exact hdrop

/-- A new request; a lifecycle request comes right after its job. -/
lemma nodeCreateRequest (h : JobInv kept s) (n : NodeId) {handler : RequestHandler}
    (hjob : ∀ serial job, handler = .lifecycle serial job →
      job.ptr + 1 = s.nextPtr ∧ .creator ∈ (s.refs (.job job.ptr)).owners) :
    JobInv kept (s.nodeCreateRequest n handler) := by
  have hne : ∀ job ∈ s.jobs, job.ptr + 1 ≠ s.nextPtr := by
    intro job hmem
    obtain ⟨serial, job', hreq, _⟩ := h.origin job hmem
    exact (h.next _ serial job' hreq).2.ne
  refine ⟨?_, ?_, ?_, ?_, ?_, ?_, ?_, ?_⟩
  · simpa using h.announced
  · simpa using h.nodup
  · simpa using h.exported
  · simpa using h.list
  · intro job hmem
    rw [nodeCreateRequest_jobs] at hmem
    simpa [hne job hmem] using h.origin job hmem
  · intro r serial job hreq
    rw [nodeCreateRequest_request] at hreq
    rw [nodeCreateRequest_nextPtr]
    by_cases hr : r = s.nextPtr
    · subst hr
      rw [Function.update_self] at hreq
      exact ⟨(hjob serial job hreq).1, Nat.lt_succ_self _⟩
    · rw [Function.update_of_ne hr] at hreq
      obtain ⟨hptr, hlt⟩ := h.next r serial job hreq
      exact ⟨hptr, Nat.lt_succ_of_lt hlt⟩
  · intro r serial job hreq hcount
    rw [nodeCreateRequest_request] at hreq
    by_cases hr : r = s.nextPtr
    · subst hr
      rw [Function.update_self] at hreq
      simpa using (hjob serial job hreq).2
    · rw [Function.update_of_ne hr] at hreq
      simpa using h.held r serial job hreq (by simpa [hr] using hcount)
  · simpa using h.wf

/-- The call takes a reference of a request that somebody holds. -/
lemma agentRequestStart (h : JobInv kept s) {r : RequestId} (call : AgentCall)
    (hpos : 0 < (s.refs (.request r)).count) :
    JobInv kept (s.agentRequestStart r call) := by
  have hsend := jobFrame_sendAgent s (s.request r).node call
  have hsent := h.of_frame hsend
  refine ⟨?_, ?_, ?_, ?_, ?_, ?_, ?_, ?_⟩
  · simpa using hsent.announced
  · simpa using hsent.nodup
  · simpa using hsent.exported
  · simpa using hsent.list
  · simpa using hsent.origin
  · simpa using hsent.next
  · intro r' serial job hreq hcount
    rw [agentRequestStart_request, takeRef_request] at hreq
    have hpos' : 0 < ((s.sendAgent (s.request r).node call).refs (.request r')).count := by
      by_cases hr : r' = r
      · subst hr
        rw [hsend.refs _ rfl]
        exact hpos
      · simpa [hr] using hcount
    simpa using hsent.held r' serial job hreq hpos'
  · simpa using hsent.wf

lemma runRequest (h : JobInv kept s) (n : NodeId) (serial : Serial) {handler : RequestHandler}
    (call : RequestId → AgentCall) (started : Bool) (failure : String)
    (hjob : ∀ serial job, handler = .lifecycle serial job →
      job.ptr + 1 = s.nextPtr ∧ .creator ∈ (s.refs (.job job.ptr)).owners) :
    JobInv kept (s.runRequest n serial handler call started failure) := by
  have hnew := h.nodeCreateRequest n hjob
  have hcount : 0 < ((s.nodeCreateRequest n handler).refs (.request s.nextPtr)).count := by simp
  unfold Controller.runRequest
  simp only
  split
  · exact (hnew.agentRequestStart _ hcount).agentRequestUnref _ _
  · exact (hnew.of_frame (jobFrame_emit _ (by simp [Output.kind, otherKinds]))).agentRequestUnref
      _ _

/-! ### Jobs -/

/-- A free path is that of no listed job, so the job has another id and another address. -/
lemma ne_of_path_free (h : JobInv kept s) {r : ℕ} {serial : Serial} {job : Job}
    (hreq : (s.request r).handler = .lifecycle serial job) (hfree : ¬s.jobPathTaken job = true)
    {j : Job} (hj : j ∈ s.jobs) : j.id ≠ job.id ∧ j.ptr ≠ job.ptr := by
  have hid : j.id ≠ job.id := by
    intro heq
    apply hfree
    simp only [jobPathTaken, List.any_eq_true, decide_eq_true_eq]
    exact ⟨_, h.exported j hj, heq⟩
  refine ⟨hid, fun heq => hid ?_⟩
  -- both come from the request at the next address
  obtain ⟨serial', job', horigin, hid'⟩ := h.origin j hj
  have hr := (h.next r serial job hreq).1
  rw [heq, hr, hreq, RequestHandler.lifecycle.injEq] at horigin
  rw [← hid', horigin.2]

/-- Listing a job of a request whose path is free. -/
lemma appendJob (h : JobInv kept s) {r : ℕ} {serial : Serial} {job : Job}
    (hreq : (s.request r).handler = .lifecycle serial job) (hfree : ¬s.jobPathTaken job = true) :
    JobInv kept (((s.jobExport job).emit (.jobNew job)).appendJob job) := by
  have hid : ∀ j ∈ s.jobs, j.id ≠ job.id := fun j hj => (h.ne_of_path_free hreq hfree hj).1
  have hptr : ∀ j ∈ s.jobs, j.ptr ≠ job.ptr := fun j hj => (h.ne_of_path_free hreq hfree hj).2
  have hr := (h.next r serial job hreq).1
  have hjobs : (((s.jobExport job).emit (.jobNew job)).appendJob job).jobs = s.jobs ++ [job] := rfl
  refine ⟨fun hkept => ⟨fun id => ((h.announced hkept).ids id).add hid,
      fun ptr => ((h.announced hkept).ptrs ptr).add hptr, ?_⟩,
    ?_, fun j hj => ?_, fun j hj => ?_, fun j hj => ?_, h.next, ?_, fun ptr => ?_⟩
  · rw [hjobs, List.map_append, List.nodup_append]
    exact ⟨(h.announced hkept).nodup, by simp, by simpa using hid⟩
  · rw [hjobs, List.map_append, List.nodup_append]
    exact ⟨h.nodup, by simp, by simpa using hptr⟩
  · rw [hjobs, List.mem_append, List.mem_singleton] at hj
    rcases hj with hj | rfl
    · simp [Controller.appendJob, jobExport, h.exported j hj]
    · simp [Controller.appendJob, jobExport]
  · rw [hjobs, List.mem_append, List.mem_singleton] at hj
    rcases hj with hj | rfl
    · simpa [Controller.appendJob, jobExport, hptr j hj] using h.list j hj
    · simp [Controller.appendJob, jobExport]
  · rw [hjobs, List.mem_append, List.mem_singleton] at hj
    rcases hj with hj | rfl
    · exact h.origin j hj
    · exact ⟨serial, j, by rw [hr]; exact hreq, rfl⟩
  · intro r' serial' job' hreq' hcount
    have hmem := h.held r' serial' job' hreq' (by
      simpa [Controller.appendJob, jobExport] using hcount)
    by_cases heq : job'.ptr = job.ptr
    · rw [heq] at hmem
      simp [Controller.appendJob, jobExport, heq, hmem]
    · simpa [Controller.appendJob, jobExport, heq] using hmem
  · by_cases heq : ptr = job.ptr
    · subst heq
      simpa [Controller.appendJob, jobExport] using (h.wf job.ptr).ref _
    · simpa [Controller.appendJob, jobExport, heq] using h.wf ptr

lemma addJob (h : JobInv kept s) {r : ℕ} {serial : Serial} {job : Job}
    (hreq : (s.request r).handler = .lifecycle serial job) : JobInv kept (s.addJob job).2 := by
  unfold Controller.addJob
  split
  · exact h
  · rename_i hfree
    exact h.appendJob hreq hfree

/-- The jobs that are left when the one at an address is taken out. -/
lemma mem_eraseP_iff (h : JobInv kept s) (ptr : ℕ) (j : Job) :
    j ∈ s.jobs.eraseP (fun j => j.ptr = ptr) ↔ j ∈ s.jobs ∧ j.ptr ≠ ptr := by
  rw [List.eraseP_eq_filter_not _ (h.nodup.countP_key_le_one ptr), List.mem_filter]
  simp

/-- The keys that are left when a job is taken out, if its key is no other job's. -/
lemma exists_mem_eraseP_iff (h : JobInv kept s) {κ : Type} {key : Job → κ}
    (hnodup : (s.jobs.map key).Nodup) {job : Job} (hjob : job ∈ s.jobs) (k : κ) :
    (∃ j ∈ s.jobs.eraseP (fun j => j.ptr = job.ptr), key j = k) ↔
      k ≠ key job ∧ ∃ j ∈ s.jobs, key j = k := by
  simp only [h.mem_eraseP_iff]
  constructor
  · rintro ⟨j, ⟨hj, hne⟩, rfl⟩
    exact ⟨fun heq => hne (congrArg Job.ptr (List.inj_on_of_nodup_map hnodup hj hjob heq)), j, hj,
      rfl⟩
  · rintro ⟨hne, j, hj, rfl⟩
    refine ⟨j, ⟨hj, fun heq => hne ?_⟩, rfl⟩
    rw [List.inj_on_of_nodup_map h.nodup hj hjob heq]

/-- The announced removal of a listed job. -/
lemma unlistJob (h : JobInv kept s) {job : Job} (hjob : job ∈ s.jobs) (node result : String) :
    JobInv kept ((s.emit (.jobRemoved job node result)).unlistJob job) := by
  have hsub : ∀ j ∈ s.jobs.eraseP (fun j => j.ptr = job.ptr), j ∈ s.jobs := fun j hj =>
    ((h.mem_eraseP_iff _ j).mp hj).1
  have hlist : (s.jobs.eraseP fun j => j.ptr = job.ptr).Sublist s.jobs := List.eraseP_sublist
  refine ⟨fun hkept => ⟨fun id => ?_, fun ptr => ?_, ?_⟩, ?_, fun j hj => h.exported j (hsub j hj),
    fun j hj => h.list j (hsub j hj), fun j hj => h.origin j (hsub j hj), h.next, h.held, h.wf⟩
  · exact ((h.announced hkept).ids id).remove ⟨job, hjob, rfl⟩
      (h.exists_mem_eraseP_iff (h.announced hkept).nodup hjob)
  · exact ((h.announced hkept).ptrs ptr).remove ⟨job, hjob, rfl⟩
      (h.exists_mem_eraseP_iff h.nodup hjob)
  · exact (h.announced hkept).nodup.sublist (hlist.map _)
  · exact h.nodup.sublist (hlist.map _)

/-- A change of the listed jobs that keeps their addresses and ids. -/
lemma of_map_eq (h : JobInv kept s) {jobs : List Job}
    (hmap : jobs.map (fun j => (j.ptr, j.id)) = s.jobs.map fun j => (j.ptr, j.id)) :
    JobInv kept { s with jobs := jobs } := by
  have hmem : ∀ {a b : List Job}, a.map (fun j => (j.ptr, j.id)) = b.map (fun j => (j.ptr, j.id)) →
      ∀ j ∈ a, ∃ j' ∈ b, j'.ptr = j.ptr ∧ j'.id = j.id := by
    intro a b hab j hj
    have hj' : (j.ptr, j.id) ∈ b.map fun j => (j.ptr, j.id) := hab ▸ List.mem_map_of_mem hj
    obtain ⟨j', hj', heq⟩ := List.mem_map.mp hj'
    rw [Prod.mk.injEq] at heq
    exact ⟨j', hj', heq.1, heq.2⟩
  have hids : jobs.map (·.id) = s.jobs.map (·.id) := by
    have hsnd := congrArg (List.map Prod.snd) hmap
    rw [List.map_map, List.map_map] at hsnd
    exact hsnd
  have hptrs : jobs.map (·.ptr) = s.jobs.map (·.ptr) := by
    have hfst := congrArg (List.map Prod.fst) hmap
    rw [List.map_map, List.map_map] at hfst
    exact hfst
  have hlisted : ∀ {κ : Type} (key : Job → κ) (k : κ), jobs.map key = s.jobs.map key →
      ((∃ j ∈ jobs, key j = k) ↔ ∃ j ∈ s.jobs, key j = k) := by
    intro κ key k hkey
    simp only [← List.mem_map, hkey]
  refine ⟨fun hkept => ⟨fun id => ?_, fun ptr => ?_, hids ▸ (h.announced hkept).nodup⟩,
    hptrs ▸ h.nodup,
    fun j hj => ?_, fun j hj => ?_, fun j hj => ?_, h.next, h.held, h.wf⟩
  · obtain ⟨hfirst, hchain, hlast⟩ := (h.announced hkept).ids id
    exact ⟨hfirst, hchain, (hlisted _ id hids).trans hlast⟩
  · obtain ⟨hfirst, hchain, hlast⟩ := (h.announced hkept).ptrs ptr
    exact ⟨hfirst, hchain, (hlisted _ ptr hptrs).trans hlast⟩
  · obtain ⟨j', hj', hptr, hid⟩ := hmem hmap j hj
    rw [← hptr, ← hid]
    exact h.exported j' hj'
  · obtain ⟨j', hj', hptr, hid⟩ := hmem hmap j hj
    rw [← hptr]
    exact h.list j' hj'
  · obtain ⟨j', hj', hptr, hid⟩ := hmem hmap j hj
    rw [← hptr, ← hid]
    exact h.origin j' hj'

/-- A change of the job at an address. -/
lemma modifyJob (h : JobInv kept s) {job : Job} (hjob : job ∈ s.jobs) {f : Job → Job}
    (hptr : (f job).ptr = job.ptr) (hid : (f job).id = job.id) :
    JobInv kept (s.modifyJob job.ptr f) := by
  refine h.of_map_eq ?_
  rw [List.map_map]
  refine List.map_congr_left fun j hj => ?_
  by_cases heq : j.ptr = job.ptr
  · have hsame : j = job := List.inj_on_of_nodup_map h.nodup hj hjob heq
    subst hsame
    simp [hptr, hid]
  · simp [heq]

lemma removeJob (h : JobInv kept s) (sync : SyncCalls) {job : Job} (hjob : job ∈ s.jobs)
    (result : String) : JobInv kept (s.removeJob sync job result) := by
  have hunlist := h.unlistJob hjob (s.nodeName job.node) result
  have hnot : ∀ j ∈ ((s.emit (.jobRemoved job (s.nodeName job.node) result)).unlistJob job).jobs,
      j.ptr ≠ job.ptr := fun j hj => ((h.mem_eraseP_iff _ j).mp hj).2
  have howner : .list ∈
      (((s.emit (.jobRemoved job (s.nodeName job.node) result)).unlistJob job).refs
        (.job job.ptr)).owners := h.list job hjob
  unfold Controller.removeJob
  simp only
  split
  · have hreport := metricsProduceJobReport_eq_or sync
      ((s.emit (.jobRemoved job (s.nodeName job.node) result)).unlistJob job) job
    rcases hreport with heq | ⟨measured, net, heq⟩
    · rw [heq]
      exact hunlist.jobUnref_list howner hnot
    · rw [heq]
      have hemit := hunlist.emit (o := .startUnitJobMetrics job measured net) OutputKind.noConfusion
      exact hemit.jobUnref_list howner hnot
  · exact hunlist.jobUnref_list howner hnot

lemma jobStateChanged (h : JobInv kept s) (jobId : UInt32) (state : String) :
    JobInv kept (s.jobStateChanged jobId state) := by
  unfold Controller.jobStateChanged
  split
  · exact h
  · rename_i job hfind
    refine JobInv.of_frame ?_ (jobFrame_emit _ (by simp [Output.kind, otherKinds]))
    exact h.modifyJob (List.mem_of_find?_eq_some hfind) rfl rfl

lemma finishJob (h : JobInv kept s) (sync : SyncCalls) (jobId : UInt32) (result : String)
    (now : UInt64) : JobInv kept (s.finishJob sync jobId result now) := by
  unfold Controller.finishJob
  split
  · exact h
  · rename_i job hfind
    have hjob : job ∈ s.jobs := List.mem_of_find?_eq_some hfind
    simp only
    generalize hjob' : (if s.metricsEnabled then { job with jobEndMicros := now } else job) = job'
    have hptr : job'.ptr = job.ptr := by
      rw [← hjob']
      split <;> rfl
    have hid : job'.id = job.id := by
      rw [← hjob']
      split <;> rfl
    refine (h.modifyJob hjob hptr hid).removeJob sync ?_ result
    exact List.mem_map.mpr ⟨job, hjob, by simp⟩

/-! ### Answers of the agents -/

lemma agentFleetRequestDone (h : JobInv kept s) (q : FleetId) : JobInv kept (s.agentFleetRequestDone q) := by
  have hfree : ∀ s, JobInv kept s → JobInv kept (s.agentFleetRequestFree q) := by
    intro s hs
    have hrecord : JobInv kept (s.freeFleet q) :=
      hs.of_frame ⟨rfl, rfl, rfl, le_refl _, fun _ _ => rfl, .of_log_eq rfl⟩
    unfold agentFleetRequestFree
    generalize (s.fleet q).subReq = subs
    generalize s.freeFleet q = s at hrecord ⊢
    induction subs generalizing s with
    | nil => exact hrecord
    | cons sub subs ih =>
      exact ih _ ((hrecord.of_frame (.of_proxy (proxyFrame_nodeUnref _ _ _))).agentRequestUnref _ _)
  unfold Controller.agentFleetRequestDone
  refine hfree _ ?_
  split <;> exact h.of_frame (jobFrame_emit _ (by simp [Output.kind, otherKinds]))

lemma agentFleetRequestMaybeDone (h : JobInv kept s) (q : FleetId) :
    JobInv kept (s.agentFleetRequestMaybeDone q) := by
  unfold Controller.agentFleetRequestMaybeDone
  split
  · exact h.agentFleetRequestDone q
  · exact h

lemma requestCallback (h : JobInv kept s) (r : RequestId) (m : AgentAnswer) :
    JobInv kept (s.requestCallback r m) := by
  have hreply : ∀ {s : Controller} {o : Output}, JobInv kept s → o.kind = .reply → JobInv kept (s.emit o) :=
    fun hs ho => hs.of_frame (jobFrame_emit _ (by simp [ho, otherKinds]))
  unfold Controller.requestCallback
  split
  · exact hreply h rfl
  · rename_i serial job _ hreq
    have hadd := h.addJob hreq
    split
    · rename_i heq
      simpa [heq] using hadd
    · rename_i s' heq
      exact hreply (by simpa [heq] using hadd) rfl
  · exact hreply h rfl
  · exact hreply h rfl
  · exact h
  · exact (h.of_frame (jobFrame_modifyFleet s _ _)).agentFleetRequestMaybeDone _

lemma runCallback (h : JobInv kept s) (r : RequestId) : JobInv kept (s.runCallback r) :=
  h.of_frame ⟨rfl, rfl, rfl, le_refl _, fun _ _ => rfl, .of_log_eq rfl⟩

lemma agentRequestCallback (h : JobInv kept s) {r : RequestId} {m : AgentAnswer}
    (hs : s.agentRequestCallback r m = some s') : JobInv kept s' := by
  have hpending : JobInv kept { s with pendingRequests := s.pendingRequests.erase r } :=
    h.of_frame ⟨rfl, rfl, rfl, le_refl _, fun _ _ => rfl, .of_log_eq rfl⟩
  unfold Controller.agentRequestCallback at hs
  split at hs
  · rw [Option.some.injEq] at hs
    subst hs
    refine agentRequestUnref ?_ r _
    split
    · exact hpending
    · exact (hpending.runCallback r).requestCallback r m
  · simp at hs

/-- Setting `is_cancelled` changes no handler. -/
lemma cancel (h : JobInv kept s) (r : RequestId) :
    JobInv kept (s.modifyRequest r fun req => { req with isCancelled := true }) := by
  have hhandler : ∀ r', ((s.modifyRequest r fun req => { req with isCancelled := true }).request
      r').handler = (s.request r').handler := by
    intro r'
    by_cases hr : r' = r
    · subst hr
      simp
    · simp [hr]
  refine ⟨h.announced, h.nodup, h.exported, h.list, fun job hjob => ?_, fun r' serial job hreq => ?_,
    fun r' serial job hreq => ?_, h.wf⟩
  · rw [hhandler]
    exact h.origin job hjob
  · rw [hhandler] at hreq
    exact h.next r' serial job hreq
  · rw [hhandler] at hreq
    exact h.held r' serial job hreq

lemma agentRequestCancel (h : JobInv kept s) (r : RequestId) : JobInv kept (s.agentRequestCancel r) :=
  (((h.cancel r).runCallback r).requestCallback r _).agentRequestUnref r _

/-! ### Methods of the clients -/

lemma nodeMethodForward (h : JobInv kept s) (n : NodeId) (serial : Serial) (method failure : String)
    (started : Bool) : JobInv kept (s.nodeMethodForward n serial method failure started) := by
  unfold Controller.nodeMethodForward
  split
  · exact h.of_frame (jobFrame_emit s (by simp [Output.kind, otherKinds]))
  · exact h.runRequest n serial _ started failure (by simp)

/-- A new job, whose reference is the one of the request made next. -/
lemma jobNew (h : JobInv kept s) (n : NodeId) (unit type : String) (startTime : UInt64) :
    JobInv kept (s.jobNew n unit type startTime).2 ∧
      ∀ job, job = (s.jobNew n unit type startTime).1 →
        job.ptr + 1 = (s.jobNew n unit type startTime).2.nextPtr ∧
          .creator ∈ ((s.jobNew n unit type startTime).2.refs (.job job.ptr)).owners := by
  refine ⟨?_, ?_⟩
  · have hne : ∀ job ∈ s.jobs, job.ptr ≠ s.nextPtr := fun job hjob => (h.ptr_lt hjob).ne
    refine ⟨h.announced, h.nodup, h.exported, fun job hjob => ?_, h.origin,
      fun r serial job hreq => ?_, fun r serial job hreq hcount => ?_, fun ptr => ?_⟩
    · simpa [Controller.jobNew, hne job hjob] using h.list job hjob
    · obtain ⟨hptr, hlt⟩ := h.next r serial job hreq
      exact ⟨hptr, Nat.lt_succ_of_lt hlt⟩
    · obtain ⟨hptr, hlt⟩ := h.next r serial job hreq
      have hjob : job.ptr ≠ s.nextPtr := by omega
      simpa [Controller.jobNew, hjob] using
        h.held r serial job hreq (by simpa [Controller.jobNew] using hcount)
    · by_cases hptr : ptr = s.nextPtr
      · subst hptr
        simpa [Controller.jobNew] using RefCount.wf_new _
      · simpa [Controller.jobNew, hptr] using h.wf ptr
  · rintro job rfl
    exact ⟨rfl, by simp [Controller.jobNew]⟩

lemma nodeRunUnitLifecycleMethod (h : JobInv kept s) (n : NodeId) (serial : Serial)
    (method : LifecycleMethod) (unit mode : String) (startTime : UInt64) (started : Bool) :
    JobInv kept (s.nodeRunUnitLifecycleMethod n serial method unit mode startTime started) := by
  unfold Controller.nodeRunUnitLifecycleMethod
  split
  · exact h.of_frame (jobFrame_emit s (by simp [Output.kind, otherKinds]))
  · obtain ⟨hinv, hnext⟩ := h.jobNew n unit (lifecycleJobType method) startTime
    refine hinv.runRequest n serial _ started _ fun serial' job hjob => hnext job ?_
    rw [RequestHandler.lifecycle.injEq] at hjob
    exact hjob.2.symm

lemma jobMethodCancel (h : JobInv kept s) (job : Job) (serial : Serial) (started : Bool) :
    JobInv kept (s.jobMethodCancel job serial started) := by
  unfold Controller.jobMethodCancel
  split
  · have hrun : JobInv kept (s.runRequest job.node serial (.jobCancel serial)
        (fun r => .jobCancel r job.id) started "Failed to call the method to cancel job") :=
      h.runRequest job.node serial _ started _ (by simp)
    simp only
    split
    · exact hrun.of_frame (jobFrame_emit _ (by simp [Output.kind, otherKinds]))
    · exact hrun
  · exact h.of_frame (jobFrame_emit s (by simp [Output.kind, otherKinds]))

lemma startSubRequest (h : JobInv kept s) (q : FleetId) (method : String) (starts : NodeId → Bool)
    (n : NodeId) : JobInv kept (startSubRequest q method starts s n) := by
  unfold Controller.startSubRequest
  split
  · have hnew : JobInv kept (s.nodeCreateRequest n (.fleet q)) := h.nodeCreateRequest n (by simp)
    have hcount : 0 < ((s.nodeCreateRequest n (.fleet q)).refs (.request s.nextPtr)).count := by
      simp
    simp only
    split
    · have hstart := hnew.agentRequestStart (.request s.nextPtr method) hcount
      unfold appendSubRequest
      exact hstart.of_frame ((jobFrame_takeRef _ _ _ rfl).trans (jobFrame_modifyFleet _ q _))
    · exact hnew.agentRequestUnref _ _
  · exact h

lemma agentFleetRequestStart (h : JobInv kept s) (serial : Serial) (method : String)
    (starts : NodeId → Bool) : JobInv kept (s.agentFleetRequestStart serial method starts) := by
  unfold Controller.agentFleetRequestStart
  refine agentFleetRequestMaybeDone ?_ _
  have hloop : ∀ (ns : List NodeId) (s : Controller) (q : FleetId), JobInv kept s →
      JobInv kept (ns.foldl (Controller.startSubRequest q method starts) s) := by
    intro ns
    induction ns with
    | nil => exact fun s q hs => hs
    | cons n ns ih => exact fun s q hs => ih _ q (hs.startSubRequest q method starts n)
  exact hloop _ _ _ (h.of_frame ⟨rfl, rfl, rfl, Nat.le_succ _, fun _ _ => rfl, .of_log_eq rfl⟩)

/-! ### Connections -/

lemma agentRequestCancel_foldl (h : JobInv kept s) (rs : List RequestId) :
    JobInv kept (rs.foldl Controller.agentRequestCancel s) := by
  induction rs generalizing s with
  | nil => exact h
  | cons r rs ih => exact ih (h.agentRequestCancel r)

lemma removeNode (h : JobInv kept s) (n : NodeId) : JobInv kept (s.removeNode n) := by
  have hunlist : JobFrame s (s.unlistNode n) := by
    unfold unlistNode
    split <;> exact ⟨rfl, rfl, rfl, le_refl _, fun _ _ => rfl, .of_log_eq rfl⟩
  unfold Controller.removeNode
  refine of_frame ?_ (.of_proxy (proxyFrame_nodeUnref _ n _))
  split
  · have hcancel : JobInv kept ((s.unlistNode n).nodeShutdown n) :=
      ((h.of_frame hunlist).of_frame (jobFrame_modifyNode _ n _)).agentRequestCancel_foldl _
    exact hcancel.of_frame ⟨rfl, rfl, rfl, le_refl _, fun _ _ => rfl, .of_log_eq rfl⟩
  · exact h.of_frame hunlist

/-- A listed job leaves the list without a signal. -/
lemma dropJob (h : JobInv kept s) (hdrop : ¬kept) (n : NodeId) {job : Job} (hjob : job ∈ s.jobs) :
    JobInv kept (dropJob n s job) := by
  unfold Controller.dropJob
  split
  · have hunlist := h.unlistJob hjob "" ""
    have hsilent : JobInv kept (s.unlistJob job) :=
      ⟨fun hkept => absurd hkept hdrop, hunlist.nodup, hunlist.exported, hunlist.list, hunlist.origin,
        hunlist.next, hunlist.held, hunlist.wf⟩
    exact hsilent.jobUnref_list (h.list job hjob) fun j hj => ((h.mem_eraseP_iff _ j).mp hj).2
  · exact h

lemma dropJob_jobs (n : NodeId) (s : Controller) (job : Job) :
    (Controller.dropJob n s job).jobs = s.jobs ∨
      (Controller.dropJob n s job).jobs = s.jobs.eraseP fun j => j.ptr = job.ptr := by
  unfold Controller.dropJob jobUnref
  simp only
  split
  · refine Or.inr ?_
    split <;> rfl
  · exact Or.inl rfl

/-- The job loop of `node_disconnect`. -/
lemma dropJobs (h : JobInv kept s) (hdrop : ¬kept) (n : NodeId) {jobs : List Job}
    (hsub : ∀ job ∈ jobs, job ∈ s.jobs) (hnodup : (jobs.map (·.ptr)).Nodup) :
    JobInv kept (jobs.foldl (Controller.dropJob n) s) := by
  induction jobs generalizing s with
  | nil => exact h
  | cons job jobs ih =>
    rw [List.map_cons, List.nodup_cons] at hnodup
    refine ih (h.dropJob hdrop n (hsub job (by simp))) (fun j hj => ?_) hnodup.2
    rcases dropJob_jobs n s job with hjobs | hjobs
    · rw [hjobs]
      exact hsub j (by simp [hj])
    · have hne : j.ptr ≠ job.ptr := fun heq => hnodup.1 (heq ▸ List.mem_map_of_mem hj)
      rw [hjobs]
      exact (h.mem_eraseP_iff job.ptr j).mpr ⟨hsub j (by simp [hj]), hne⟩

end JobInv

/-! ## Losing a connection -/

/-- The disconnect of a named node none of whose jobs is listed drops no job. -/
lemma nodeDisconnect_eq {s : Controller} {n : NodeId} (hname : (s.node n).name ≠ none)
    (hjobs : ∀ job ∈ s.jobs, s.nodeName job.node ≠ s.nodeName n) :
    ∃ t, ProxyFrame s t ∧ s.nodeDisconnect n = (t.nodeUnsetAgentBus n).countOnline (-1) := by
  have htable := ProxyFrame.of_subscription
    (subscriptionFrame_applyNode s n (tableStep_nodeDisconnectUnits (s.node n)))
  have hframe := htable.trans (ProxyFrame.foldl (fun s p =>
    proxyFrame_nodeRemoveProxyMonitor proxyFrame_nodeUnref s n p)
    ((s.applyNode n nodeDisconnectUnits).node n).proxyMonitors _)
  generalize ht : ((s.applyNode n nodeDisconnectUnits).node n).proxyMonitors.foldl
    (fun s p => nodeRemoveProxyMonitor nodeUnref s n p) (s.applyNode n nodeDisconnectUnits) = t
    at hframe
  have hnames : ∀ n', t.nodeName n' = s.nodeName n' := fun n' => by
    unfold nodeName
    rw [(hframe.node n').name_eq]
  have hkeep : ∀ js : List Job, (∀ job ∈ js, s.nodeName job.node ≠ s.nodeName n) →
      js.foldl (dropJob n) t = t := by
    intro js hjs
    induction js with
    | nil => rfl
    | cons job js ih =>
      have hjob : dropJob n t job = t := by
        unfold dropJob
        rw [hnames, hnames, if_neg (hjs job (by simp))]
      rw [List.foldl_cons, hjob]
      exact ih fun j hj => hjs j (by simp [hj])
  refine ⟨t, hframe, ?_⟩
  unfold nodeDisconnect
  simp only [ht]
  rw [if_neg (by rwa [(hframe.node n).name_eq]), hkeep]
  rw [hframe.rest]
  exact hjobs

/-- When the heartbeat check gives up the agent of the node, no job of the node is listed. -/
def KeepsJobsOf (now : UInt64) (s : Controller) (n : NodeId) : Prop :=
  nodeIsOnline (s.node n) = true → s.livenessExpired n now = true →
    ∀ job ∈ s.jobs, s.nodeName job.node ≠ s.nodeName n

/-- No job of the node that an event disconnects is listed. -/
def KeepsJobs (s : Controller) : Event → Prop
  | .disconnected n =>
    (s.node n).name ≠ none → ∀ job ∈ s.jobs, s.nodeName job.node ≠ s.nodeName n
  | .heartbeatTimer now => ∀ n ∈ s.nodes, KeepsJobsOf now s n
  | _ => True

/-- No node gets a connection or a name, and the clocks and the jobs stay as they are. -/
structure LivenessFrame (s s' : Controller) : Prop where
  jobs : s'.jobs = s.jobs
  threshold : s'.heartbeatThresholdMsec = s.heartbeatThresholdMsec
  node : ∀ n, NodeFrame (s.node n) (s'.node n)

lemma KeepsJobsOf.of_frame {now : UInt64} {s s' : Controller} {n : NodeId}
    (h : KeepsJobsOf now s n) (f : LivenessFrame s s') : KeepsJobsOf now s' n := by
  intro honline hexpired
  have honline' := (f.node n).nodeIsOnline honline
  have hexpired' : s.livenessExpired n now = true := by
    unfold livenessExpired at hexpired ⊢
    rw [f.threshold, (f.node n).rest] at hexpired
    exact hexpired
  have hnames : ∀ k, s'.nodeName k = s.nodeName k := fun k => by
    unfold nodeName
    rw [(f.node k).name_eq]
  rw [f.jobs]
  simp only [hnames]
  exact h honline' hexpired'

lemma livenessFrame_nodeDisconnect {s : Controller} {n : NodeId} (hname : (s.node n).name ≠ none)
    (hjobs : ∀ job ∈ s.jobs, s.nodeName job.node ≠ s.nodeName n) :
    LivenessFrame s (s.nodeDisconnect n) := by
  obtain ⟨t, hframe, heq⟩ := nodeDisconnect_eq hname hjobs
  have hunset := hframe.trans (proxyFrame_nodeUnsetAgentBus t n)
  generalize t.nodeUnsetAgentBus n = t' at hunset heq
  have hcount : (t'.countOnline (-1)).jobs = t'.jobs ∧ (t'.countOnline (-1)).node = t'.node ∧
      (t'.countOnline (-1)).heartbeatThresholdMsec = t'.heartbeatThresholdMsec := by
    unfold countOnline checkSystemStatus
    simp only
    split <;> exact ⟨rfl, rfl, rfl⟩
  rw [heq]
  refine ⟨?_, ?_, ?_⟩
  · rw [hcount.1, hunset.rest]
  · rw [hcount.2.2, hunset.rest]
  · rw [hcount.2.1]
    exact hunset.node

lemma livenessFrame_checkNode {now : UInt64} {s : Controller} {n : NodeId}
    (h : KeepsJobsOf now s n) : LivenessFrame s (checkNode now s n) := by
  unfold checkNode
  split
  · rename_i honline
    split
    · rename_i hexpired
      refine livenessFrame_nodeDisconnect (fun hnone => ?_) (h honline hexpired)
      simp [nodeIsOnline, hnone] at honline
    · unfold sendAgent
      split <;> exact ⟨rfl, rfl, fun _ => .refl _⟩
  · exact ⟨rfl, rfl, fun _ => .refl _⟩

namespace JobInv

variable {kept : Prop} {s s' : Controller}

lemma nodeDisconnect (h : JobInv kept s) (n : NodeId)
    (hjobs : kept → (s.node n).name ≠ none →
      ∀ job ∈ s.jobs, s.nodeName job.node ≠ s.nodeName n) : JobInv kept (s.nodeDisconnect n) := by
  by_cases hcase : kept ∧ (s.node n).name ≠ none
  · obtain ⟨t, hframe, heq⟩ := nodeDisconnect_eq hcase.2 (hjobs hcase.1 hcase.2)
    rw [heq]
    exact ((h.of_frame (.of_proxy hframe)).of_frame
      (.of_proxy (proxyFrame_nodeUnsetAgentBus t n))).countOnline _
  · have htable := ProxyFrame.of_subscription
      (subscriptionFrame_applyNode s n (tableStep_nodeDisconnectUnits (s.node n)))
    have hframe := htable.trans (ProxyFrame.foldl (fun s p =>
      proxyFrame_nodeRemoveProxyMonitor proxyFrame_nodeUnref s n p)
      ((s.applyNode n nodeDisconnectUnits).node n).proxyMonitors _)
    have hproxies := h.of_frame (.of_proxy hframe)
    unfold Controller.nodeDisconnect
    simp only
    split
    · exact hproxies.removeNode n
    · rename_i hname
      rw [(hframe.node n).name_eq] at hname
      -- a job may be dropped here
      have hdrop : ¬kept := fun hkept => hcase ⟨hkept, hname⟩
      exact ((hproxies.dropJobs hdrop n (fun _ hj => hj) hproxies.nodup).of_frame
        (.of_proxy (proxyFrame_nodeUnsetAgentBus _ n))).countOnline _

/-- The heartbeat check. -/
lemma checkNodes (ns : List NodeId) {s : Controller} (h : JobInv kept s) (now : UInt64)
    (hjobs : kept → ∀ n ∈ ns, KeepsJobsOf now s n) : JobInv kept (ns.foldl (checkNode now) s) := by
  induction ns generalizing s with
  | nil => exact h
  | cons n ns ih =>
    have hn : kept → KeepsJobsOf now s n := fun hkept => hjobs hkept n (by simp)
    rw [List.foldl_cons]
    refine ih ?_ fun hkept n' hn' =>
      (hjobs hkept n' (by simp [hn'])).of_frame (livenessFrame_checkNode (hn hkept))
    unfold checkNode
    split
    · rename_i honline
      split
      · rename_i hexpired
        exact h.nodeDisconnect n fun hkept _ => hn hkept honline hexpired
      · exact h.of_frame (jobFrame_sendAgent s n .heartbeat)
    · exact h

lemma acceptNodeConnection (h : JobInv kept s) (peer : PeerInfo) (fails : BusCall → Bool) :
    JobInv kept (s.acceptNodeConnection peer fails) := by
  have hbus : JobFrame s (s.addNode none).busAlloc :=
    (jobFrame_addNode s none).trans
      ⟨rfl, rfl, rfl, Nat.le_succ _, fun _ _ => rfl, .of_log_eq rfl⟩
  have hset := hbus.trans (jobFrame_nodeSetAgentBus _ s.nextPtr (s.nextPtr + 1) peer fails)
  unfold Controller.acceptNodeConnection
  simp only
  split
  · rename_i s' heq
    rw [heq] at hset
    exact h.of_frame hset
  · rename_i s' heq
    rw [heq] at hset
    exact (h.of_frame hset).removeNode _

end JobInv

/-! ## Steps and runs -/

namespace JobInv

variable {kept : Prop} {s s' : Controller}

lemma onSignal (h : JobInv kept s) (n : NodeId) (sig : NodeSignal) : JobInv kept (s.onSignal n sig) := by
  cases sig with
  | jobDone id result now sync => exact h.finishJob sync id result now
  | jobStateChanged id state => exact h.jobStateChanged id state
  | proxyNew target unit path =>
    have hnew : JobFrame s (s.proxyMonitorNew n target unit path) := by
      refine ⟨rfl, rfl, rfl, Nat.le_add_right _ 2, fun obj hobj => ?_, .of_log_eq rfl⟩
      exact ((jobFrame_newRef s (.proxyMonitor s.nextPtr) rfl).trans
        (jobFrame_newRef _ (.subscription (s.nextPtr + 1)) rfl)).refs obj hobj
    exact h.of_frame ((hnew.trans (.of_proxy (proxyFrame_onProxyMonitor _ n _ target unit))).trans
      (.of_proxy (proxyFrame_proxyMonitorUnref proxyFrame_nodeUnref _ _ _)))
  | proxyRemoved target unit =>
    exact h.of_frame (.of_proxy (proxyFrame_nodeOnMatchProxyRemoved s n target unit))
  | heartbeat now nowMonotonic =>
    have hclock : JobFrame s (s.nodeMatchHeartbeat n now nowMonotonic) :=
      jobFrame_modifyNode s n _
    exact h.of_frame hclock
  | _ => exact h.of_frame (jobFrame_applyNode s n _)

lemma removeJob_jobs (s : Controller) (sync : SyncCalls) (job : Job) (result : String) :
    (s.removeJob sync job result).jobs = s.jobs.eraseP fun j => j.ptr = job.ptr := by
  have hunref : ∀ (s : Controller) ptr o, (s.jobUnref ptr o).jobs = s.jobs := fun s ptr o => by
    unfold jobUnref
    simp only
    split <;> rfl
  unfold Controller.removeJob
  rw [hunref]
  split
  · rcases metricsProduceJobReport_eq_or sync
      ((s.emit (.jobRemoved job (s.nodeName job.node) result)).unlistJob job) job with
      heq | ⟨measured, net, heq⟩
    · rw [heq]
      rfl
    · rw [heq]
      rfl
  · rfl

/-- The jobs of the list are removed one after the other. -/
lemma removeJobs (h : JobInv kept s) (sync : SyncCalls) (result : String) {jobs : List Job}
    (hsub : ∀ job ∈ jobs, job ∈ s.jobs) (hnodup : (jobs.map (·.ptr)).Nodup) :
    JobInv kept (jobs.foldl (fun s job => s.removeJob sync job result) s) := by
  induction jobs generalizing s with
  | nil => exact h
  | cons job jobs ih =>
    rw [List.map_cons, List.nodup_cons] at hnodup
    refine ih (h.removeJob sync (hsub job (by simp)) result) (fun j hj => ?_) hnodup.2
    have hne : j.ptr ≠ job.ptr := fun heq => hnodup.1 (heq ▸ List.mem_map_of_mem hj)
    have hleft := (h.mem_eraseP_iff job.ptr j).mpr ⟨hsub j (by simp [hj]), hne⟩
    rw [removeJob_jobs]
    exact hleft

lemma controllerStop (h : JobInv kept s) (sync : SyncCalls) : JobInv kept (s.controllerStop sync) := by
  have hclients : JobInv kept (s.stopClients sync) := by
    have hjobs := h.removeJobs sync "cancelled due to shutdown" (fun _ hj => hj) h.nodup
    refine hjobs.of_frame ?_
    refine JobFrame.trans (JobFrame.foldl (fun s sub => ?_) _ _)
      (JobFrame.foldl jobFrame_removeMonitor _ _)
    exact .of_subscription (subscriptionFrame_removeSubscription (fun _ => False) s sub)
  have hloop : ∀ (ns : List NodeId) (s : Controller), JobInv kept s →
      JobInv kept (ns.foldl Controller.removeNode s) := by
    intro ns
    induction ns with
    | nil => exact fun s hs => hs
    | cons n ns ih => exact fun s hs => ih _ (hs.removeNode n)
  have hnodes : JobInv kept (s.stopClients sync).stopNodes := hloop _ _ (hloop _ _ hclients)
  unfold Controller.controllerStop
  simp only
  split
  · have hstatus := hnodes.checkSystemStatus (s.stopClients sync).stopNodes.numberOfNodesOnline
    exact hstatus.of_frame
      ⟨rfl, rfl, rfl, le_refl _, fun _ _ => rfl, .of_log_eq rfl⟩
  · exact hnodes.of_frame ⟨rfl, rfl, rfl, le_refl _, fun _ _ => rfl, .of_log_eq rfl⟩

/-- Every event keeps the invariant, and the announcements right if it disconnects no node that has
a listed job. -/
lemma step (h : JobInv kept s) {e : Event} (hjobs : kept → KeepsJobs s e)
    (hs : s.step e = some s') : JobInv kept s' := by
  have hwhenever : ∀ {c : Prop} [Decidable c] {t : Controller}, JobInv kept t →
      whenever c t = some s' → JobInv kept s' := by
    intro c _ t ht hw
    unfold whenever at hw
    split at hw
    · rwa [← Option.some.inj hw]
    · simp at hw
  unfold Controller.step at hs
  split at hs
  · simp at hs
  · cases e with
    | accept peer fails => exact Option.some.inj hs ▸ h.acceptNodeConnection peer fails
    | register a serial name now nowMonotonic peer fails =>
      refine hwhenever ?_ hs
      rcases jobFrame_nodeMethodRegister s a serial name now nowMonotonic peer fails with
        hframe | ⟨t, hframe, heq⟩
      · exact h.of_frame hframe
      · rw [heq]
        exact ((h.of_frame hframe).countOnline 1).of_frame
          (jobFrame_emit _ (by simp [Output.kind, otherKinds]))
    | disconnected n => exact hwhenever (h.nodeDisconnect n hjobs) hs
    | heartbeatTimer now => exact Option.some.inj hs ▸ h.checkNodes s.nodes now hjobs
    | agentSignal bus n sig => exact hwhenever (h.onSignal n sig) hs
    | agentReply r m => exact h.agentRequestCallback hs
    | proxyReply p => exact h.of_frame (.of_proxy (proxyFrame_proxyMonitorCallback hs))
    | lifecycle n serial method unit mode startTime started =>
      exact hwhenever (h.nodeRunUnitLifecycleMethod ..) hs
    | forward n serial method failure started =>
      exact hwhenever (h.nodeMethodForward ..) hs
    | jobCancel id serial started =>
      obtain ⟨job, -, hjob⟩ := Option.map_eq_some_iff.mp hs
      exact hjob ▸ h.jobMethodCancel job serial started
    | fleet serial method starts => exact Option.some.inj hs ▸ h.agentFleetRequestStart ..
    | createMonitor serial owner exported =>
      exact Option.some.inj hs ▸ h.of_frame (jobFrame_createMonitor ..)
    | subscribe m serial node units =>
      exact hwhenever (h.of_frame (jobFrame_monitorMethodSubscribe ..)) hs
    | unsubscribe m serial subId =>
      exact hwhenever (h.of_frame (jobFrame_monitorMethodUnsubscribe ..)) hs
    | addPeer m serial name =>
      exact hwhenever (h.of_frame (jobFrame_monitorMethodAddPeer ..)) hs
    | removePeer m serial peerId reason =>
      exact hwhenever (h.of_frame (jobFrame_monitorMethodRemovePeer ..)) hs
    | closeMonitor m serial => exact hwhenever (h.of_frame (jobFrame_monitorMethodClose ..)) hs
    | nameOwnerChanged name newOwner =>
      exact Option.some.inj hs ▸ h.of_frame (jobFrame_nameOwnerChanged ..)
    | enableMetrics serial exported fails =>
      exact Option.some.inj hs ▸ h.of_frame (jobFrame_methodMetricsEnable ..)
    | disableMetrics serial =>
      exact Option.some.inj hs ▸ h.of_frame (jobFrame_methodMetricsDisable ..)
    | stop sync => exact Option.some.inj hs ▸ h.controllerStop sync

lemma start (threshold : ℤ) (cfgs : List NodeConfig) : JobInv kept (start threshold cfgs) := by
  have hnew : JobInv kept { controllerNew with heartbeatThresholdMsec := threshold } := by
    refine ⟨fun _ => ⟨fun id => ?_, fun ptr => ?_, ?_⟩, ?_, ?_, ?_, ?_, ?_, ?_, ?_⟩ <;>
      simp [controllerNew, Paired, jobSignals, RefCount.wf_free]
    all_goals exact ⟨by simp, List.IsChain.nil, by simp⟩
  exact hnew.of_frame (jobFrame_start threshold cfgs)

end JobInv

/-- In every run in which no node is disconnected while a job of it is listed, the jobs are
announced as they are listed. -/
theorem jobs_announced {s : Controller} (h : ReachableUnder system KeepsJobs s) :
    Announced s.log s.jobs := by
  have hinv : JobInv True s := by
    refine h.invariant ?_ fun s e s' hs hjobs hstep => hs.step (fun _ => hjobs) hstep
    rintro s ⟨threshold, cfgs, rfl⟩
    exact JobInv.start threshold cfgs
  exact hinv.announced trivial

/-- What the lists and references of jobs look like in every run. -/
theorem jobInv_of_reachable {s : Controller} (h : Reachable system s) : JobInv False s := by
  refine Reachable.invariant ?_ (fun s e s' hs hstep => hs.step False.elim hstep) h
  rintro s ⟨threshold, cfgs, rfl⟩
  exact JobInv.start threshold cfgs

/-- One node, whose agent connects, registers, and accepts the start of a unit. -/
def startedJob : List Event :=
  [.accept ⟨some none, none⟩ fun _ => false,
    .register 2 1 "n" 1 1 ⟨some none, none⟩ fun _ => false,
    .lifecycle 1 2 .startUnit "a.service" "replace" 5 true, .agentReply 5 (.ok [])]

def oneNode : Controller := start 0 [⟨"n", none, ["n"]⟩]

/-- The job of the run is listed, and announced. -/
theorem startedJob_announced :
    ∃ s, run system oneNode startedJob = some s ∧ s.jobs.map (·.id) = [1] ∧
      Announced s.log s.jobs := by
  have hrun : (run system oneNode startedJob).map (fun s => s.jobs.map (·.id)) = some [1] := by
    decide +kernel
  obtain ⟨s, hs, hjobs⟩ := Option.map_eq_some_iff.mp hrun
  have hguard : GuardedRun system KeepsJobs oneNode startedJob :=
    ⟨trivial, fun _ _ => ⟨trivial, fun _ _ => ⟨trivial, fun _ _ => ⟨trivial, fun _ _ => trivial⟩⟩⟩⟩
  have hinit : ReachableUnder system KeepsJobs oneNode := .init ⟨0, _, rfl⟩
  exact ⟨s, hs, hjobs, jobs_announced (hinit.run hguard hs)⟩

/-- When the node is then disconnected, its job leaves the list and nothing is announced. -/
theorem droppedJob_not_announced :
    ¬∀ s, Reachable system s → Announced s.log s.jobs := by
  have hrun : (run system oneNode (startedJob ++ [.disconnected 1])).map
      (fun s => (jobSignals (·.id) s.log 1, s.jobs)) = some ([.new], []) := by
    decide +kernel
  obtain ⟨s, hs, hlog⟩ := Option.map_eq_some_iff.mp hrun
  rw [Prod.mk.injEq] at hlog
  obtain ⟨hsignals, hjobs⟩ := hlog
  intro h
  have hinit : Reachable system oneNode := .init ⟨0, _, rfl⟩
  have hannounced := (h s (hinit.run hs)).ids 1
  unfold Paired at hannounced
  rw [hsignals, hjobs] at hannounced
  simpa using hannounced.last

end Controller
end BlueChi
