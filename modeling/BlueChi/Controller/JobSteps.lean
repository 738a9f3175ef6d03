import BlueChi.Controller.Addressing
import BlueChi.Controller.JobMoves

/-!
# What a step does to the jobs of a node

Every step that does not give up the agent of node `t` is idle for its jobs but for one thing: it
sends a lifecycle call, takes the answer to one, or handles a signal about a job of the node
(`JobMove`). So the ids of the jobs stay apart (`Distinct`), and what clients were told about the jobs
of the node lists what the controller has listed (`Tells`).
-/

namespace BlueChi
namespace Controller

open Execution Reports

variable {gap : ℤ} {t : NodeId} {s s' s'' : Controller} {r : RequestId}

/-! ## Fleet requests and connections -/

namespace Idles

lemma agentFleetRequestStart {live : Prop} (h : Requested live [] s)
    (hnodes : ∀ n ∈ s.nodes, n < s.nextPtr) (serial : Serial) (method : String)
    (starts : NodeId → Bool) : Idles t s (s.agentFleetRequestStart serial method starts) := by
  have ⟨hnew, hopen⟩ := h.opens serial s.numberOfNodes rfl
  have ⟨hloop, _⟩ := Requested.startSubRequests method starts s.nodes _ hnew hopen
    fun n hn => Nat.lt_succ_of_lt (hnodes n hn)
  have hfirst : Idles t s { s with
      fleet := Function.update s.fleet s.nextPtr ⟨serial, 0, s.numberOfNodes, []⟩
      nextPtr := s.nextPtr + 1 } := silent (Nat.le_succ _) rfl rfl rfl rfl rfl
  have hfold : ∀ (ns : List NodeId) (u : Controller),
      Idles t u (ns.foldl (Controller.startSubRequest s.nextPtr method starts) u) := by
    intro ns
    induction ns with
    | nil => exact refl t
    | cons n ns ih =>
      intro u
      exact (startSubRequest s.nextPtr method starts u n).trans (ih _)
  unfold Controller.agentFleetRequestStart
  dsimp only
  apply (hfirst.trans (hfold s.nodes _)).trans
  exact agentFleetRequestMaybeDone _ _ (hloop.plain _)

end Idles

/-! ## Signals about jobs -/

/-- Clients are told about a job of node `t`. -/
structure Reported (t : NodeId) (rep : Report UInt32 JobState String) (s u : Controller) : Prop extends
    Keeps s u where
  waits : ∀ r, u.waits r = s.waits r
  exported : ∀ e ∈ u.exportedJobs, e ∈ s.exportedJobs
  read : Reports.read (s.jobIds t) rep = some (u.jobIds t)
  log : ∃ o, u.log = s.log ++ [o] ∧ o.jobReport t = some rep

/-- A job of the list is changed, but stays the job of its node. -/
lemma jobIds_modifyJob (s : Controller) (ptr : ℕ) {f : Job → Job}
    (hf : ∀ j ∈ s.jobs, j.ptr = ptr → (f j).node = j.node ∧ (f j).id = j.id) :
    (s.modifyJob ptr f).jobIds t = s.jobIds t := by
  have hmap : ∀ jobs : List Job, (∀ j ∈ jobs, j.ptr = ptr → (f j).node = j.node ∧ (f j).id = j.id) →
      ((jobs.map fun j => if j.ptr = ptr then f j else j).filter (·.node = t)).map (·.id) =
        (jobs.filter (·.node = t)).map (·.id) := by
    intro jobs hjobs
    induction jobs with
    | nil => rfl
    | cons j jobs ih =>
      have ih := ih fun j' hj' => hjobs j' (List.mem_cons_of_mem j hj')
      have hsame : (if j.ptr = ptr then f j else j).node = j.node ∧
          (if j.ptr = ptr then f j else j).id = j.id := by
        split
        · exact hjobs j List.mem_cons_self ‹_›
        · exact ⟨rfl, rfl⟩
      rw [List.map_cons, List.filter_cons, List.filter_cons, hsame.1]
      split
      · rw [List.map_cons, List.map_cons, hsame.2, ih]
      · exact ih
  unfold jobIds
  exact congrArg _ (hmap s.jobs hf)

/-- A job of node `t` leaves the list. -/
lemma jobIds_unlistJob {job : Job} (hnodup : (s.jobs.map (·.ptr)).Nodup) (hjob : job ∈ s.jobs)
    (hnode : job.node = t) : s.jobIds t = job.id ::ₘ (s.unlistJob job).jobIds t := by
  have hperm := List.find?_toList_append_eraseP_perm (p := fun j : Job => j.ptr = job.ptr) s.jobs
  have hfind : (s.jobs.find? fun j => j.ptr = job.ptr) = some job := by
    obtain ⟨j, hj⟩ := Option.isSome_iff_exists.mp
      (List.find?_isSome.mpr ⟨job, hjob, decide_eq_true rfl⟩ :
        (s.jobs.find? fun j => j.ptr = job.ptr).isSome)
    have hptr : j.ptr = job.ptr := by simpa using List.find?_some hj
    rw [hj, List.inj_on_of_nodup_map hnodup (List.mem_of_find?_eq_some hj) hjob hptr]
  rw [hfind] at hperm
  have hids := ((hperm.filter (·.node = t)).map (·.id)).symm
  have hall : s.jobIds t = (((job :: s.jobs.eraseP fun j => j.ptr = job.ptr).filter
      (·.node = t)).map (·.id) : List UInt32) := Multiset.coe_eq_coe.mpr hids
  rw [hall, List.filter_cons_of_pos (by simpa using hnode), List.map_cons]
  rfl

section

variable {kept : Prop} (h : JobInv kept s) {k : UInt32} {job : Job} (hfind : s.jobOfId k = some job)

include h hfind

/-- A job ends: clients are told, and then there may be a report on its times. -/
lemma finishJob_split (sync : SyncCalls) (result : String) (now : UInt64) :
    ∃ u, Idles t u (s.finishJob sync k result now) ∧
      (job.node = t → Reported t (.closed k result) s u) ∧ (job.node ≠ t → Idles t s u) := by
  have hjob : job ∈ s.jobs := List.mem_of_find?_eq_some hfind
  have hid : job.id = k := by simpa using List.find?_some hfind
  obtain ⟨job', hptr, hnode, hid', heq⟩ : ∃ job' : Job, job'.ptr = job.ptr ∧ job'.node = job.node ∧
      job'.id = k ∧ s.finishJob sync k result now =
        removeJob sync (s.modifyJob job.ptr fun _ => job') job' result := by
    unfold Controller.finishJob
    rw [show (s.jobs.find? fun job => job.id = k) = some job from hfind]
    refine ⟨if s.metricsEnabled then { job with jobEndMicros := now } else job, ?_, ?_, ?_, rfl⟩
    · split <;> rfl
    · split <;> rfl
    · split <;> exact hid
  have hmodified := h.modifyJob hjob (f := fun _ => job') hptr (hid'.trans hid.symm)
  have hin : job' ∈ (s.modifyJob job.ptr fun _ => job').jobs :=
    List.mem_map.mpr ⟨job, hjob, if_pos rfl⟩
  have hids : (s.modifyJob job.ptr fun _ => job').jobIds t = s.jobIds t := by
    apply jobIds_modifyJob
    intro j hj hsame
    rw [List.inj_on_of_nodup_map h.nodup hj hjob hsame]
    exact ⟨hnode, hid'.trans hid.symm⟩
  have hmodify : Idles t s (s.modifyJob job.ptr fun _ => job') :=
    .of_jobs (le_refl _) rfl rfl (fun _ => id) hids (l := []) (by simp [modifyJob]) (by simp)
  have hsame : (s.modifyJob job.ptr fun _ => job').nextPtr = s.nextPtr ∧
      (s.modifyJob job.ptr fun _ => job').request = s.request ∧
      (s.modifyJob job.ptr fun _ => job').pendingRequests = s.pendingRequests ∧
      (s.modifyJob job.ptr fun _ => job').exportedJobs = s.exportedJobs ∧
      (s.modifyJob job.ptr fun _ => job').log = s.log := ⟨rfl, rfl, rfl, rfl, rfl⟩
  rw [heq]
  generalize s.modifyJob job.ptr (fun _ => job') = v at hmodified hin hids hmodify hsame
  obtain ⟨hptr', hrequest, hpending, hexported, hlog⟩ := hsame
  refine ⟨(v.emit (.jobRemoved job' (v.nodeName job'.node) result)).unlistJob job', ?_,
    fun hnode' => ?_, fun hnode' => ?_⟩
  · unfold removeJob
    dsimp only
    split
    · exact (Idles.metricsProduceJobReport sync _ job').trans (.jobUnref _ _ _)
    · exact .jobUnref _ _ _
  · refine ⟨⟨hptr'.ge, fun r _ => ?_⟩, fun r => ?_, fun e he => ?_, ?_,
      .jobRemoved job' (v.nodeName job'.node) result, ?_, ?_⟩
    · show (v.request r).node = _ ∧ (v.request r).handler = _
      rw [hrequest]
      exact ⟨rfl, rfl⟩
    · show v.waits r = s.waits r
      apply waits_congr
      · unfold awaits
        rw [hrequest, hpending]
      · rw [hrequest]
    · rw [← hexported]
      exact he
    · have hleft := jobIds_unlistJob hmodified.nodup hin (hnode.trans hnode')
      rw [hids, hid'] at hleft
      rw [hleft, Reports.read, if_pos (Multiset.mem_cons_self _ _), Multiset.erase_cons_head]
      rfl
    · rw [← hlog]
      rfl
    · show (if job'.node = t then _ else _) = _
      rw [if_pos (hnode.trans hnode'), hid']
  · have hemit : Idles t v (v.emit (.jobRemoved job' (v.nodeName job'.node) result)) := by
      apply Idles.emit
      refine ⟨?_, OutputKind.noConfusion⟩
      exact if_neg (hnode ▸ hnode')
    apply (hmodify.trans hemit).trans
    refine .of_jobs (le_refl _) rfl rfl (fun _ => id) (Idles.jobIds_eraseP (fun j hj hsame => ?_) rfl)
      (l := []) (by simp [unlistJob]) (by simp)
    rw [List.inj_on_of_nodup_map hmodified.nodup hj hin hsame, hnode]
    exact hnode'

omit h in
/-- The state of a job changes, and clients are told. -/
lemma jobStateChanged_split (state : String) :
    (job.node = t → Reported t (.changed k (jobStateFromString state)) s (s.jobStateChanged k state)) ∧
      (job.node ≠ t → Idles t s (s.jobStateChanged k state)) := by
  have hjob : job ∈ s.jobs := List.mem_of_find?_eq_some hfind
  have hid : job.id = k := by simpa using List.find?_some hfind
  have heq : s.jobStateChanged k state =
      (s.modifyJob job.ptr fun job => { job with state := jobStateFromString state }).emit
        (.jobState { job with state := jobStateFromString state }) := by
    unfold Controller.jobStateChanged
    rw [show (s.jobs.find? fun job => job.id = k) = some job from hfind]
  have hids : (s.modifyJob job.ptr fun job =>
      { job with state := jobStateFromString state }).jobIds t = s.jobIds t :=
    jobIds_modifyJob s job.ptr fun _ _ _ => ⟨rfl, rfl⟩
  rw [heq]
  refine ⟨fun hnode => ⟨⟨le_refl _, fun _ _ => ⟨rfl, rfl⟩⟩, fun _ => rfl, fun _ => id, ?_,
    .jobState { job with state := jobStateFromString state }, rfl, ?_⟩, fun hnode => ?_⟩
  · have hin : k ∈ s.jobIds t := by
      apply Multiset.mem_coe.mpr
      rw [← hid]
      exact List.mem_map_of_mem (List.mem_filter.mpr ⟨hjob, by simpa using hnode⟩)
    show Reports.read _ _ = some (jobIds t (s.modifyJob _ _))
    rw [Reports.read, if_pos hin, hids]
  · show (if job.node = t then _ else _) = _
    rw [if_pos hnode, hid]
  · have hmodify : Idles t s (s.modifyJob job.ptr fun job =>
        { job with state := jobStateFromString state }) :=
      .of_jobs (le_refl _) rfl rfl (fun _ => id) hids (l := []) (by simp [modifyJob]) (by simp)
    apply hmodify.trans
    apply Idles.emit
    exact ⟨if_neg hnode, OutputKind.noConfusion⟩

end

/-- A signal that is not about a job of node `t`. -/
lemma idles_onSignal {kept : Prop} (h : JobInv kept s) (n : NodeId) (sig : NodeSignal)
    (hother : ∀ k, sig.jobId = some k → ∀ job, s.jobOfId k = some job → job.node ≠ t) :
    Idles t s (s.onSignal n sig) := by
  cases sig with
  | jobDone k result now sync =>
    rw [onSignal]
    cases hfind : s.jobOfId k with
    | none =>
      unfold Controller.finishJob
      rw [show (s.jobs.find? fun job => job.id = k) = none from hfind]
      exact .refl t s
    | some job =>
      obtain ⟨u, hrest, _, hidle⟩ := finishJob_split (t := t) h hfind sync result now
      exact (hidle (hother k rfl job hfind)).trans hrest
  | jobStateChanged k state =>
    rw [onSignal]
    cases hfind : s.jobOfId k with
    | none =>
      unfold Controller.jobStateChanged
      rw [show (s.jobs.find? fun job => job.id = k) = none from hfind]
      exact .refl t s
    | some job => exact (jobStateChanged_split hfind state).2 (hother k rfl job hfind)
  | unitPropertiesChanged unit interface properties =>
    exact Idles.tables.applyNode s n (tableStep_nodeMatchUnitPropertiesChanged unit interface properties _)
  | unitNew unit reason => exact Idles.tables.applyNode s n (tableStep_nodeMatchUnitNew unit reason _)
  | unitStateChanged unit activeState substate reason =>
    exact Idles.tables.applyNode s n
      (tableStep_nodeMatchUnitStateChanged unit activeState substate reason _)
  | unitRemoved unit => exact Idles.tables.applyNode s n (tableStep_nodeMatchUnitRemoved unit _)
  | proxyNew targetNodeName unitName proxyObjectPath =>
    exact Idles.proxies.nodeOnMatchProxyNew s n targetNodeName unitName proxyObjectPath
  | proxyRemoved targetNodeName unitName =>
    exact Idles.proxies.nodeOnMatchProxyRemoved s n targetNodeName unitName
  | heartbeat now nowMonotonic => exact .silent (le_refl _) rfl rfl rfl rfl rfl

/-! ## Steps -/

/-- No job has the id, and no lifecycle call with it waits for its answer. -/
def JobIdFree (s : Controller) (k : UInt32) : Prop :=
  (∀ e ∈ s.exportedJobs, e.2 ≠ k) ∧ ∀ r, s.waits r ≠ some k

/-- The event neither gives up the agent of node `t` nor says anything about its jobs, and a new job
gets an id of its own. -/
def SparesJobs (t : NodeId) (s : Controller) : Event → Prop
  | .disconnected n => n ≠ t
  | .heartbeatTimer now => s.livenessExpired t now = false
  | .agentSignal _ _ sig => ∀ k ∈ sig.jobId, ∀ job ∈ s.jobOfId k, job.node ≠ t
  | .agentReply r _ => (s.request r).node ≠ t
  | .lifecycle .. => s.JobIdFree (s.nextJobId + 1)
  | _ => True

instance (s : Controller) (k : UInt32) : Decidable (s.JobIdFree k) :=
  decidable_of_iff ((∀ e ∈ s.exportedJobs, e.2 ≠ k) ∧ ∀ r ∈ s.pendingRequests, s.waits r ≠ some k) <| by
    refine and_congr_right fun _ => ⟨fun h r hr => ?_, fun h r _ => h r⟩
    have hawaits := (waits_eq_some_iff.mp hr).1
    unfold awaits at hawaits
    simp only [Bool.and_eq_true, decide_eq_true_eq] at hawaits
    exact h r hawaits.1 hr

instance (t : NodeId) (s : Controller) : ∀ e, Decidable (s.SparesJobs t e)
  | .disconnected n => inferInstanceAs (Decidable (n ≠ t))
  | .heartbeatTimer now => inferInstanceAs (Decidable (s.livenessExpired t now = false))
  | .agentSignal _ _ sig =>
    inferInstanceAs (Decidable (∀ k ∈ sig.jobId, ∀ job ∈ s.jobOfId k, job.node ≠ t))
  | .agentReply r _ => inferInstanceAs (Decidable ((s.request r).node ≠ t))
  | .lifecycle .. => inferInstanceAs (Decidable (s.JobIdFree (s.nextJobId + 1)))
  | .accept .. | .register .. | .proxyReply _ | .forward .. | .jobCancel .. | .fleet ..
  | .createMonitor .. | .subscribe .. | .unsubscribe .. | .addPeer .. | .removePeer ..
  | .closeMonitor .. | .nameOwnerChanged .. | .enableMetrics .. | .disableMetrics _ | .stop _ =>
    isTrue trivial

/-- A lifecycle call is sent, or refused at once. -/
lemma asks_of_lifecycle (hunused : s.nextPtr + 1 ∉ s.pendingRequests) (n : NodeId) (serial : Serial)
    (method : LifecycleMethod) (unit mode : String) (startTime : UInt64) (started : Bool) :
    Idles t s (s.nodeRunUnitLifecycleMethod n serial method unit mode startTime started) ∨
      ∃ r u, Idles t s u ∧ Asked n r (s.nextJobId + 1) u
        (s.nodeRunUnitLifecycleMethod n serial method unit mode startTime started) := by
  unfold nodeRunUnitLifecycleMethod nodeMethodRefused
  cases hbus : (s.node n).agentBus with
  | none =>
    have hagent : nodeHasAgent (s.node n) = false := by
      unfold nodeHasAgent
      rw [hbus]
      rfl
    rw [hagent]
    exact Or.inl (.emit s (Output.aside_of_answers rfl))
  | some bus =>
    have hagent : nodeHasAgent (s.node n) = true := by
      unfold nodeHasAgent
      rw [hbus]
      rfl
    rw [hagent]
    cases hshutdown : (s.node n).isShutdown with
    | true => exact Or.inl (.emit s (Output.aside_of_answers rfl))
    | false =>
      have hnew : Idles t s (s.jobNew n unit (lifecycleJobType method) startTime).2 :=
        idles_jobNew s n unit _ startTime
      have hbus' : ((s.jobNew n unit (lifecycleJobType method) startTime).2.node n).agentBus = some bus :=
        hbus
      have hunused' : (s.jobNew n unit (lifecycleJobType method) startTime).2.nextPtr ∉
        (s.jobNew n unit (lifecycleJobType method) startTime).2.pendingRequests := hunused
      have hjob : (s.jobNew n unit (lifecycleJobType method) startTime).1.node = n ∧
          (s.jobNew n unit (lifecycleJobType method) startTime).1.id = s.nextJobId + 1 := ⟨rfl, rfl⟩
      dsimp only [Bool.not_true, Bool.false_eq_true, if_false]
      generalize s.jobNew n unit (lifecycleJobType method) startTime = p at hnew hbus' hunused' hjob
      obtain ⟨job, v⟩ := p
      cases started with
      | true =>
        rw [← hjob.2]
        exact Or.inr ⟨v.nextPtr, v, hnew, asked_runRequest v hbus' serial hjob.1 method unit mode _⟩
      | false => exact Or.inl (hnew.trans (idles_runRequest_failed hunused' n serial _ _ _))

/-- A step that has to do with no job of node `t` that there is: it is idle, sends a lifecycle call, or
takes the answer of another node. -/
inductive JobMove (t : NodeId) (s s' : Controller) : Prop
  | idle : Idles t s s' → JobMove t s s'
  | asked {n : NodeId} {r : RequestId} {u : Controller} : s.JobIdFree (s.nextJobId + 1) →
      Idles t s u → Asked n r (s.nextJobId + 1) u s' → JobMove t s s'
  | refused {r : RequestId} {u : Controller} :
      (s.request r).node ≠ t → Answered r s u → Idles t u s' → JobMove t s s'
  | listed {r : RequestId} {serial : Serial} {job : Job} {u v : Controller} :
      s.awaits r = true → (s.request r).handler = .lifecycle serial job → (s.request r).node ≠ t →
      Answered r s u → Listed job u v → Idles t v s' → JobMove t s s'

/-- The ids of the jobs that are waited for or on the bus are different. -/
structure Distinct (s : Controller) : Prop where
  used : ∀ r k, s.waits r = some k → r < s.nextPtr
  waiting : ∀ r r' k, s.waits r = some k → s.waits r' = some k → r = r'
  unlisted : ∀ r k, s.waits r = some k → ∀ e ∈ s.exportedJobs, e.2 ≠ k
  exported : ∀ e ∈ s.exportedJobs, ∀ e' ∈ s.exportedJobs, e.2 = e'.2 → e = e'
  /-- A job is made for the node that is asked. -/
  node : ∀ r serial job, s.awaits r = true → (s.request r).handler = .lifecycle serial job →
    job.node = (s.request r).node

lemma waits_of_lifecycle {serial : Serial} {job : Job} (hawaits : s.awaits r = true)
    (hhandler : (s.request r).handler = .lifecycle serial job) : s.waits r = some job.id := by
  refine waits_eq_some_iff.mpr ⟨hawaits, ?_⟩
  unfold purpose
  rw [hhandler]

namespace Distinct

/-- Less is waited for and on the bus. -/
lemma mono (h : Distinct s) (hkeeps : Keeps s s') (hwaits : ∀ r, s'.waits r = none ∨ s'.waits r = s.waits r)
    (hexported : ∀ e ∈ s'.exportedJobs, e ∈ s.exportedJobs) : Distinct s' := by
  have hold : ∀ r k, s'.waits r = some k → s.waits r = some k := by
    intro r k hk
    rcases hwaits r with hnone | hsame
    · rw [hnone] at hk
      cases hk
    · rwa [← hsame]
  refine ⟨fun r k hk => lt_of_lt_of_le (h.used r k (hold r k hk)) hkeeps.nextPtr,
    fun r r' k hk hk' => h.waiting r r' k (hold r k hk) (hold r' k hk'),
    fun r k hk e he => h.unlisted r k (hold r k hk) e (hexported e he),
    fun e he e' he' => h.exported e (hexported e he) e' (hexported e' he'),
    fun r serial job hawaits hhandler => ?_⟩
  have hwas := hold r job.id (waits_of_lifecycle hawaits hhandler)
  have ⟨hnode, hsame⟩ := hkeeps.request r (h.used r job.id hwas)
  rw [hnode]
  exact h.node r serial job (waits_eq_some_iff.mp hwas).1 (hsame.symm.trans hhandler)

lemma idles (h : Distinct s) (f : Idles t s s') : Distinct s' := h.mono f.toKeeps f.waits f.exported

lemma reported {rep : Report UInt32 JobState String} (h : Distinct s) (f : Reported t rep s s') :
    Distinct s' := h.mono f.toKeeps (fun r => Or.inr (f.waits r)) f.exported

lemma answered (h : Distinct s) (f : Answered r s s') : Distinct s' := by
  refine h.mono f.toKeeps (fun r' => ?_) (by rw [f.exported]; exact fun _ => id)
  by_cases hr : r' = r
  · exact Or.inl (hr ▸ f.waits)
  · exact Or.inr (f.others r' hr)

/-- The job of a call that was waited for is put on the bus. -/
lemma listed {u : Controller} {job : Job} (h : Distinct s) (hwaits : s.waits r = some job.id)
    (f : Answered r s u) (f' : Listed job u s') : Distinct s' := by
  have hu := h.answered f
  have hsame : ∀ r' k, s'.waits r' = some k → u.waits r' = some k ∧ r' ≠ r := by
    intro r' k hk
    rw [f'.waits] at hk
    refine ⟨hk, fun heq => ?_⟩
    rw [heq, f.waits] at hk
    cases hk
  have hfree : ∀ e ∈ u.exportedJobs, e.2 ≠ job.id := by
    rw [f.exported]
    exact h.unlisted r job.id hwaits
  refine ⟨fun r' k hk => lt_of_lt_of_le (hu.used r' k (hsame r' k hk).1) f'.nextPtr,
    fun r₁ r₂ k hk hk' => hu.waiting r₁ r₂ k (hsame r₁ k hk).1 (hsame r₂ k hk').1,
    fun r' k hk e he => ?_, fun e he e' he' heq => ?_, fun r' serial job' hawaits hhandler => ?_⟩
  · have ⟨hk, hne⟩ := hsame r' k hk
    rcases f'.exported e he with hold | rfl
    · exact hu.unlisted r' k hk e hold
    · intro heq
      rw [f.others r' hne] at hk
      exact hne (h.waiting r' r k hk (heq ▸ hwaits))
  · rcases f'.exported e he with hold | rfl
    · rcases f'.exported e' he' with hold' | rfl
      · exact hu.exported e hold e' hold' heq
      · exact absurd heq (hfree e hold)
    · rcases f'.exported e' he' with hold' | rfl
      · exact absurd heq.symm (hfree e' hold')
      · rfl
  · have ⟨hwas, _⟩ := hsame r' job'.id (waits_of_lifecycle hawaits hhandler)
    have ⟨hnode, hsame'⟩ := f'.request r' (hu.used r' job'.id hwas)
    rw [hnode]
    exact hu.node r' serial job' (waits_eq_some_iff.mp hwas).1 (hsame'.symm.trans hhandler)

/-- A call is sent for a job with an id of its own. -/
lemma asked {n : NodeId} {k : UInt32} (h : Distinct s) (hfree : s.JobIdFree k) (f : Asked n r k s s') :
    Distinct s' := by
  have hsame : ∀ r' k', s'.waits r' = some k' → r' = r ∧ k' = k ∨ r' ≠ r ∧ s.waits r' = some k' := by
    intro r' k' hk'
    by_cases hr : r' = r
    · rw [hr, f.waits] at hk'
      exact Or.inl ⟨hr, (Option.some.inj hk').symm⟩
    · rw [f.others r' hr] at hk'
      exact Or.inr ⟨hr, hk'⟩
  refine ⟨fun r' k' hk' => ?_, fun r₁ r₂ k' hk₁ hk₂ => ?_, fun r' k' hk' e he => ?_,
    by rw [f.exported]; exact h.exported, fun r' serial job hawaits hhandler => ?_⟩
  · rcases hsame r' k' hk' with ⟨rfl, _⟩ | ⟨_, hold⟩
    · exact f.fresh.2
    · exact lt_of_lt_of_le (h.used r' k' hold) f.nextPtr
  · rcases hsame r₁ k' hk₁ with ⟨rfl, rfl⟩ | ⟨_, hold₁⟩
    · rcases hsame r₂ k' hk₂ with ⟨rfl, _⟩ | ⟨_, hold₂⟩
      · rfl
      · exact absurd hold₂ (hfree.2 r₂)
    · rcases hsame r₂ k' hk₂ with ⟨rfl, rfl⟩ | ⟨_, hold₂⟩
      · exact absurd hold₁ (hfree.2 r₁)
      · exact h.waiting r₁ r₂ k' hold₁ hold₂
  · rw [f.exported] at he
    rcases hsame r' k' hk' with ⟨_, rfl⟩ | ⟨_, hold⟩
    · exact hfree.1 e he
    · exact h.unlisted r' k' hold e he
  · rcases hsame r' job.id (waits_of_lifecycle hawaits hhandler) with ⟨rfl, _⟩ | ⟨_, hold⟩
    · obtain ⟨serial', job', heq, hnode⟩ := f.lifecycle
      rw [heq] at hhandler ⊢
      rw [RequestHandler.lifecycle.injEq] at hhandler
      rw [← hhandler.2]
      exact hnode
    · have ⟨hnode, hsame'⟩ := f.request r' (h.used r' job.id hold)
      rw [hnode]
      exact h.node r' serial job (waits_eq_some_iff.mp hold).1 (hsame'.symm.trans hhandler)

end Distinct

/-- An id that is free stays free while nothing happens to jobs. -/
lemma JobIdFree.idles {k : UInt32} (h : s.JobIdFree k) (f : Idles t s s') : s'.JobIdFree k := by
  refine ⟨fun e he => h.1 e (f.exported e he), fun r hr => ?_⟩
  rcases f.waits r with hnone | hsame
  · rw [hnone] at hr
    cases hr
  · exact h.2 r (hsame ▸ hr)

/-- What the answer to a lifecycle call does. -/
lemma answers_lifecycle (hreq : Requested True [] s) (hdistinct : Distinct s) {m : AgentAnswer}
    (hstep : s.agentRequestCallback r m = some s') {serial : Serial} {job : Job}
    (hhandler : (s.request r).handler = .lifecycle serial job) :
    s.awaits r = true ∧ ∃ u, Answered r s u ∧
      ((∃ message, m = .error message) ∧ Idles t u s' ∨
        (∃ rows, m = .ok rows) ∧ ∃ v, Listed job u v ∧ Idles t v s') := by
  cases m with
  | error message =>
    obtain ⟨hawaits, u, hanswered, hidle⟩ := refused_agentReply (t := t) hreq hstep hhandler rfl
    exact ⟨hawaits, u, hanswered, Or.inl ⟨⟨message, rfl⟩, hidle⟩⟩
  | ok rows =>
    have hawaits := (agentReply_eq hreq hstep).1
    obtain ⟨_, u, v, hanswered, hlisted, hidle⟩ := listed_agentReply (t := t) hreq hstep hhandler rfl
      (hdistinct.unlisted r job.id (waits_of_lifecycle hawaits hhandler))
    exact ⟨hawaits, u, hanswered, Or.inr ⟨⟨rows, rfl⟩, v, hlisted, hidle⟩⟩

/-- A request is for a job, or it is not. -/
lemma purpose_cases (s : Controller) (r : RequestId) :
    s.purpose r = none ∨ ∃ serial job, (s.request r).handler = .lifecycle serial job := by
  unfold purpose
  split
  · rename_i serial job hhandler
    exact Or.inr ⟨serial, job, hhandler⟩
  · exact Or.inl rfl

section

variable (hcons : Consistent gap s) (hreq : Requested True [] s) (hinv : JobInv False s)
  (hdistinct : Distinct s) (ht : t ∈ s.nodes) {e : Event} (hspares : s.SparesJobs t e)
  (hstop : ∀ sync, e ≠ .stop sync) (hstep : s.step e = some s')

include hcons hreq hinv hdistinct ht hspares hstop hstep

lemma jobMove_of_step : JobMove t s s' := by
  have hhandle := (step_eq_some_iff.mp hstep).2
  cases e with
  | accept peer fails =>
    rw [← Option.some.inj hhandle]
    exact .idle (Idles.accepts.acceptNodeConnection s peer fails)
  | register a serial name now nowMonotonic peer fails =>
    rw [← (whenever_eq_some_iff.mp hhandle).2]
    exact .idle (.nodeMethodRegister s a serial name now nowMonotonic peer fails)
  | disconnected n =>
    rw [← (whenever_eq_some_iff.mp hhandle).2]
    exact .idle (.nodeDisconnect hcons hinv ht hspares)
  | heartbeatTimer now =>
    rw [← Option.some.inj hhandle]
    exact .idle (.checkNodes now s.nodes hcons hinv ht (fun _ => id) hspares)
  | agentSignal bus n sig =>
    rw [← (whenever_eq_some_iff.mp hhandle).2]
    exact .idle (idles_onSignal hinv n sig hspares)
  | agentReply r m =>
    rcases purpose_cases s r with hplain | ⟨serial, job, hhandler⟩
    · exact .idle (idles_agentReply hreq hhandle hplain)
    · obtain ⟨hawaits, u, hanswered, ⟨_, hidle⟩ | ⟨_, v, hlisted, hidle⟩⟩ :=
        answers_lifecycle (t := t) hreq hdistinct hhandle hhandler
      · exact .refused hspares hanswered hidle
      · exact .listed hawaits hhandler hspares hanswered hlisted hidle
  | proxyReply p => exact .idle (Idles.proxies.proxyMonitorCallback hhandle)
  | lifecycle n serial method unit mode startTime started =>
    rw [← (whenever_eq_some_iff.mp hhandle).2]
    have hunused := (hreq.unused (s.nextPtr + 1) (Nat.le_succ _)).pending
    rcases asks_of_lifecycle (t := t) hunused n serial method unit mode startTime started with
      hidle | ⟨r, u, hidle, hasked⟩
    · exact .idle hidle
    · exact .asked hspares hidle hasked
  | forward n serial method failure started =>
    rw [← (whenever_eq_some_iff.mp hhandle).2]
    exact .idle (.nodeMethodForward s n serial method failure started)
  | jobCancel id serial started =>
    obtain ⟨job, _, heq⟩ := Option.map_eq_some_iff.mp hhandle
    rw [← heq]
    exact .idle (.jobMethodCancel s job serial started)
  | fleet serial method starts =>
    rw [← Option.some.inj hhandle]
    exact .idle (.agentFleetRequestStart hreq (fun n hn => hcons.registry.fresh n (Or.inl hn)) serial
      method starts)
  | createMonitor serial owner exported =>
    rw [← Option.some.inj hhandle]
    exact .idle (Idles.monitors.createMonitor s trivial owner exported)
  | subscribe m serial node units =>
    rw [← (whenever_eq_some_iff.mp hhandle).2]
    exact .idle (Idles.monitors.monitorMethodSubscribe s m trivial node units)
  | unsubscribe m serial subId =>
    rw [← (whenever_eq_some_iff.mp hhandle).2]
    exact .idle (Idles.monitors.monitorMethodUnsubscribe s m trivial subId)
  | addPeer m serial name =>
    rw [← (whenever_eq_some_iff.mp hhandle).2]
    exact .idle (Idles.monitors.monitorMethodAddPeer s m trivial name)
  | removePeer m serial peerId reason =>
    rw [← (whenever_eq_some_iff.mp hhandle).2]
    exact .idle (Idles.monitors.monitorMethodRemovePeer s m trivial peerId reason)
  | closeMonitor m serial =>
    rw [← (whenever_eq_some_iff.mp hhandle).2]
    exact .idle (Idles.monitors.monitorMethodClose s m trivial)
  | nameOwnerChanged name newOwner =>
    rw [← Option.some.inj hhandle]
    exact .idle (Idles.monitors.nameOwnerChanged s name newOwner)
  | enableMetrics serial exported fails =>
    rw [← Option.some.inj hhandle]
    exact .idle (Idles.metrics.methodMetricsEnable s trivial exported fails)
  | disableMetrics serial =>
    rw [← Option.some.inj hhandle]
    exact .idle (Idles.metrics.methodMetricsDisable s trivial)
  | stop sync => exact absurd rfl (hstop sync)

end

/-- What a step leaves of the jobs of node `t`, and what it tells the agent on a connection: at most one
new job, which is waited for. -/
structure Moved (t : NodeId) (s s' : Controller) : Prop extends Keeps s s' where
  jobs : s'.jobIds t = s.jobIds t
  kept : ∀ r < s.nextPtr, (s.request r).node = t → s'.waits r = s.waits r
  log : ∃ l, s'.log = s.log ++ l ∧ jobReports t l = [] ∧ ∀ bus,
    (∀ call ∈ callsOn t bus l, s'.Fits call) ∧
    ((callsOn t bus l).filterMap (·.job) = [] ∨
      ∃ r k, (callsOn t bus l).filterMap (·.job) = [(r, k)] ∧ s.nextPtr ≤ r ∧ s'.waits r = some k ∧
        (s'.request r).node = t)

/-- A stretch that is idle tells the agent of no new job. -/
lemma Idles.calls (h : Idles t s s') : ∃ l, s'.log = s.log ++ l ∧ jobReports t l = [] ∧ ∀ bus,
    (∀ call ∈ callsOn t bus l, s'.Fits call) ∧ (callsOn t bus l).filterMap (·.job) = [] := by
  obtain ⟨l, hl, hquiet⟩ := h.log
  refine ⟨l, hl, List.filterMap_eq_nil_iff.mpr fun o ho => (hquiet o ho).1, fun bus =>
    ⟨fun call hcall => ?_, List.filterMap_eq_nil_iff.mpr fun call hcall => ?_⟩⟩
  · exact ((hquiet _ (mem_of_callsOn hcall)).2 bus t call rfl).1
  · exact ((hquiet _ (mem_of_callsOn hcall)).2 bus t call rfl).2

lemma Idles.moved (h : Idles t s s') : Moved t s s' := by
  obtain ⟨l, hl, hreports, hcalls⟩ := h.calls
  exact ⟨h.toKeeps, h.jobs, h.kept, l, hl, hreports, fun bus =>
    ⟨(hcalls bus).1, Or.inl (hcalls bus).2⟩⟩

/-- A stretch that tells the agent nothing, and then an idle one. -/
lemma Moved.of_silent {u : Controller} (hkeeps : Keeps s u) (hjobs : u.jobIds t = s.jobIds t)
    (hkept : ∀ r < s.nextPtr, (s.request r).node = t → u.waits r = s.waits r) {l : List Output}
    (hl : u.log = s.log ++ l) (hquiet : ∀ o ∈ l, o.jobReport t = none ∧ ∀ bus, o.callOn t bus = none)
    (h : Idles t u s') : Moved t s s' := by
  obtain ⟨l', hl', hreports, hcalls⟩ := h.calls
  have hcallsNil : ∀ bus, callsOn t bus l = [] := fun bus =>
    List.filterMap_eq_nil_iff.mpr fun o ho => (hquiet o ho).2 bus
  have hreportsNil : jobReports t l = [] :=
    List.filterMap_eq_nil_iff.mpr fun o ho => (hquiet o ho).1
  refine ⟨hkeeps.trans h.toKeeps, h.jobs.trans hjobs, fun r hr hnode => ?_, l ++ l',
    by rw [hl', hl, List.append_assoc], by rw [jobReports_append, hreportsNil, hreports]; rfl,
    fun bus => ?_⟩
  · rw [h.kept r (lt_of_lt_of_le hr hkeeps.nextPtr) ((hkeeps.request r hr).1.trans hnode),
      hkept r hr hnode]
  · rw [callsOn_append, hcallsNil, List.nil_append]
    exact ⟨(hcalls bus).1, Or.inl (hcalls bus).2⟩

lemma JobMove.moved (h : JobMove t s s') (hdistinct : Distinct s) : Moved t s s' := by
  cases h with
  | idle h => exact h.moved
  | @asked n r u _ h hasked =>
    obtain ⟨l, hl, hreports, hcalls⟩ := h.calls
    obtain ⟨bus, method, unit, mode, _, hlog⟩ := hasked.log
    refine ⟨h.toKeeps.trans hasked.toKeeps, ?_, fun r' hr' hnode => ?_, l ++
      [.toAgent bus n (.lifecycle r method unit mode (s.nextJobId + 1))],
      by rw [hlog, hl, List.append_assoc], by rw [jobReports_append, hreports]; rfl, fun bus' => ?_⟩
    · rw [← h.jobs]
      unfold jobIds
      rw [hasked.jobs]
    · have hne : r' ≠ r := Nat.ne_of_lt (lt_of_lt_of_le hr' (h.nextPtr.trans hasked.fresh.1))
      rw [hasked.others r' hne, h.kept r' hr' hnode]
    · obtain ⟨hfits, hnone⟩ := hcalls bus'
      have hfits' : ∀ call ∈ callsOn t bus' l, s'.Fits call :=
        fun call hcall => (hfits call hcall).mono hasked.toKeeps
      have hone : callsOn t bus' [.toAgent bus n (.lifecycle r method unit mode (s.nextJobId + 1))] =
          if bus = bus' ∧ n = t then [.lifecycle r method unit mode (s.nextJobId + 1)] else [] := by
        by_cases hon : bus = bus' ∧ n = t
        · simp [callsOn, Output.callOn, hon]
        · simp [callsOn, Output.callOn, hon]
      rw [callsOn_append, hone]
      by_cases hon : bus = bus' ∧ n = t
      · rw [if_pos hon, List.filterMap_append, hnone]
        refine ⟨fun call hcall => ?_, Or.inr ⟨r, s.nextJobId + 1, rfl, h.nextPtr.trans hasked.fresh.1,
          hasked.waits, ?_⟩⟩
        · rcases List.mem_append.mp hcall with hold | hnew
          · exact hfits' call hold
          · rw [List.mem_singleton.mp hnew]
            exact ⟨hasked.fresh.2, (waits_eq_some_iff.mp hasked.waits).2⟩
        · obtain ⟨serial, job, hrequest, _⟩ := hasked.lifecycle
          rw [hrequest]
          exact hon.2
      · rw [if_neg hon, List.append_nil]
        exact ⟨hfits', Or.inl hnone⟩
  | @refused r u hnode hanswered h =>
    refine .of_silent hanswered.toKeeps (by unfold jobIds; rw [hanswered.jobs]) (fun r' _ hr' => ?_)
      (l := []) (by rw [hanswered.log, List.append_nil]) (by simp) h
    exact hanswered.others r' fun heq => hnode (heq ▸ hr')
  | @listed r serial job u v hawaits hhandler hnode hanswered hlisted h =>
    have hother : job.node ≠ t := by
      rw [hdistinct.node r serial job hawaits hhandler]
      exact hnode
    refine .of_silent (hanswered.toKeeps.trans hlisted.toKeeps) ?_ (fun r' _ hr' => ?_)
      (l := [.jobNew job]) (by rw [hlisted.log, hanswered.log]) ?_ h
    · unfold jobIds
      rw [hlisted.jobs, hanswered.jobs, List.filter_append, List.filter_cons_of_neg (by simpa using hother),
        List.filter_nil, List.append_nil]
    · rw [hlisted.waits]
      exact hanswered.others r' fun heq => hnode (heq ▸ hr')
    · intro o ho
      rw [List.mem_singleton.mp ho]
      exact ⟨if_neg hother, fun _ => rfl⟩

lemma Distinct.jobMove (h : Distinct s) (hmove : JobMove t s s') : Distinct s' := by
  cases hmove with
  | idle hidle => exact h.idles hidle
  | asked hfree hidle hasked => exact (h.idles hidle).asked (hfree.idles hidle) hasked
  | refused _ hanswered hidle => exact (h.answered hanswered).idles hidle
  | listed hawaits hhandler _ hanswered hlisted hidle =>
    exact (h.listed (waits_of_lifecycle hawaits hhandler) hanswered hlisted).idles hidle

lemma distinct_start (h : Starting s) : Distinct s := by
  have hawaits : ∀ r, s.awaits r = false := by
    intro r
    unfold awaits
    rw [h.rest]
    rfl
  have hwaits : ∀ r k, s.waits r ≠ some k := by
    intro r k hk
    have htrue := (waits_eq_some_iff.mp hk).1
    rw [hawaits] at htrue
    cases htrue
  have hexported : s.exportedJobs = [] := by
    rw [h.rest]
    rfl
  refine ⟨fun r k hk => absurd hk (hwaits r k), fun r _ k hk => absurd hk (hwaits r k),
    fun r k hk => absurd hk (hwaits r k), by simp [hexported], fun r _ _ htrue => ?_⟩
  rw [hawaits] at htrue
  cases htrue

/-- The requests are in order until the controller stops. -/
lemma requested_of_running (h : Reachable system s) (hrun : s.stopped = false) : Requested True [] s := by
  let Inv : Controller → Prop := fun s =>
    Reachable system s ∧ (s.stopped = false → Requested True [] s)
  have hinv : Inv s := by
    refine Reachable.invariant ?_ ?_ h
    · rintro s ⟨threshold, cfgs, rfl⟩
      exact ⟨.init ⟨threshold, cfgs, rfl⟩, fun _ => Requested.start threshold cfgs⟩
    · rintro s e s' ⟨hreach, hs⟩ hstep
      refine ⟨hreach.step trivial hstep, fun hrun' => ?_⟩
      have hrunning := (step_eq_some_iff.mp hstep).1
      obtain ⟨gap, hcons⟩ := consistent_of_reachable hreach hrunning
      have hguard : CancelsOnce s e := by
        intro hstops
        cases e with
        | stop sync => exact absurd rfl (not_stop hstep hrun' sync)
        | _ => cases hstops
      exact ((hs hrunning).step hcons hguard hstep).of_live fun _ => hrun'
  exact hinv.2 hrun

end Controller
end BlueChi
