import BlueChi.Controller.Listening
import BlueChi.Pairing.JobReports

/-!
# Jobs from end to end

While an agent keeps its connection, clients are told about the jobs of its node what the agent says of
them: every report once, in the order of the agent and with its result, and a job is listed before it
changes and ends (`Following`). Once nothing is on its way, the controller lists the jobs that the agent
tracks.
-/

namespace BlueChi
namespace Pairing

open Execution Reports MethodReplies Controller

variable {t : NodeId} {bus : Option BusId} {s s' u : Controller} {site site' : Site}
  {calls calls' : List AgentCall} {queue : List Sent} {m : Sent}

/-! ## What is on its way -/

/-- The requests of the lifecycle calls. -/
def lifecycles (calls : List AgentCall) : List RequestId := (calls.filterMap (·.job)).map (·.1)

/-- The lifecycle calls that wait for their answers: in the queue of calls, at systemd, and in the
answers of the agent. -/
def underway (s : Controller) (site : Site) (calls : List AgentCall) (queue : List Sent) :
    List RequestId :=
  lifecycles calls ++ (serials site ++ queue.filterMap s.callOf)

/-- The calls to the agent on its connection, if it has one. -/
def callsTo (t : NodeId) (bus : Option BusId) (l : List Output) : List AgentCall :=
  (bus.map fun b => callsOn t b l).getD []

/-- Clients were told of the reports that have arrived, and have yet to be told of those in the queue.
The lifecycle calls that were sent are answered or on their way. -/
structure Following (t : NodeId) (bus : Option BusId) (s : Controller) (site : Site)
    (calls : List AgentCall) (queue : List Sent) : Prop extends Reporting s site where
  fits : ∀ call ∈ calls, s.Fits call
  queued : ∀ m ∈ queue, m ∈ site.service.sent
  nodup : (underway s site calls queue).Nodup
  waits : ∀ r ∈ underway s site calls queue, (s.request r).node = t ∧ ∃ k, s.waits r = some k
  answered : ∀ r ∈ lifecycles (callsTo t bus s.log), r < s.nextPtr ∧ (s.request r).node = t ∧
    (s.waits r = none ∨ r ∈ underway s site calls queue)
  told : settle 0 (jobReports t s.log) = some (s.jobIds t)
  order : jobReports t s.log ++ s.reports queue = s.reports site.service.sent

lemma lifecycles_append (calls calls' : List AgentCall) :
    lifecycles (calls ++ calls') = lifecycles calls ++ lifecycles calls' := by
  unfold lifecycles
  rw [List.filterMap_append, List.map_append]

lemma callsTo_append (l l' : List Output) :
    callsTo t bus (l ++ l') = callsTo t bus l ++ callsTo t bus l' := by
  cases bus with
  | none => rfl
  | some b => exact callsOn_append t b l l'

lemma callOn_of_jobReport {o : Output} {rep : Report UInt32 JobState String}
    (ho : o.jobReport t = some rep) (bus : BusId) : o.callOn t bus = none := by
  cases o with
  | toAgent _ _ _ => cases ho
  | _ => rfl

lemma callsTo_concat {l : List Output} {o : Output} (ho : ∀ b, o.callOn t b = none) :
    callsTo t bus (l ++ [o]) = callsTo t bus l := by
  rw [callsTo_append]
  cases bus with
  | none => rfl
  | some b => simp [callsTo, callsOn, ho]

/-- A lifecycle call that fits its request was made. -/
lemma made_of_fits (hfits : ∀ call ∈ calls, s.Fits call) : ∀ r ∈ lifecycles calls, r < s.nextPtr := by
  intro r hr
  obtain ⟨p, hp, rfl⟩ := List.mem_map.mp hr
  obtain ⟨call, hcall, hjob⟩ := List.mem_filterMap.mp hp
  have hfits := hfits call hcall
  cases call with
  | lifecycle r' method unit mode jobId =>
    rw [← Option.some.inj hjob]
    exact hfits.1
  | _ => cases hjob

/-- A notice is no lifecycle call, and needs no request. -/
lemma lifecycles_of_notices (hcalls : ∀ call ∈ calls, call.kind = .notice) :
    lifecycles calls = [] ∧ ∀ call ∈ calls, s.Fits call := by
  refine ⟨?_, fun call hcall => ?_⟩
  · unfold lifecycles
    rw [List.map_eq_nil_iff, List.filterMap_eq_nil_iff]
    intro call hcall
    have hkind := hcalls call hcall
    cases call with
    | lifecycle r method unit mode jobId => cases hkind
    | _ => rfl
  · have hkind := hcalls call hcall
    cases call with
    | lifecycle r method unit mode jobId => cases hkind
    | jobCancel r jobId => cases hkind
    | request r method => cases hkind
    | _ => trivial

namespace Following

lemma answered_lt (h : Following t bus s site calls queue) : ∀ m ∈ queue, ∀ r, m.answers = some r →
    r < s.nextPtr := fun m hm => h.sent m (h.queued m hm)

/-- The calls on their way were made. -/
lemma made (h : Following t bus s site calls queue) :
    ∀ r ∈ underway s site calls queue, r < s.nextPtr := by
  intro r hr
  rcases List.mem_append.mp hr with hasked | hr
  · exact made_of_fits h.fits r hasked
  · rcases List.mem_append.mp hr with hstarted | hanswered
    · obtain ⟨req, hreq, rfl⟩ := List.mem_map.mp hstarted
      exact (h.outstanding req hreq).1
    · obtain ⟨m, hm, hcall⟩ := List.mem_filterMap.mp hanswered
      exact h.answered_lt m hm r (callOf_eq_some_iff.mp hcall).1

/-- The calls on their way are those that were. -/
lemma underway_keeps (h : Following t bus s site calls queue) (f : Keeps s s') :
    underway s' site calls queue = underway s site calls queue := by
  unfold underway
  rw [f.calls h.answered_lt]

/-- The controller does something else, and may send more calls. -/
lemma moved (h : Following t bus s site calls queue) (hmoved : Moved t s s') :
    Following t bus s' site (calls ++ callsTo t bus (s'.log.drop s.log.length)) queue := by
  obtain ⟨l, hlog, hreports, hcalls⟩ := hmoved.log
  rw [hlog, List.drop_left]
  have hreports' : jobReports t s'.log = jobReports t s.log := by
    rw [hlog, jobReports_append, hreports, List.append_nil]
  have hfits : ∀ call ∈ callsTo t bus l, s'.Fits call := by
    cases bus with
    | none => exact fun call hcall => absurd hcall List.not_mem_nil
    | some b => exact (hcalls b).1
  have hjobs : lifecycles (callsTo t bus l) = [] ∨ ∃ r k, lifecycles (callsTo t bus l) = [r] ∧
      s.nextPtr ≤ r ∧ s'.waits r = some k ∧ (s'.request r).node = t := by
    cases bus with
    | none => exact Or.inl rfl
    | some b =>
      rcases (hcalls b).2 with hnone | ⟨r, k, hone, hfresh⟩
      · exact Or.inl (congrArg _ hnone)
      · exact Or.inr ⟨r, k, congrArg _ hone, hfresh⟩
  -- what was on its way is older than what is asked now
  have hold : ∀ r ∈ underway s site calls queue, r < s.nextPtr ∧ (s'.request r).node = t ∧
      ∃ k, s'.waits r = some k := by
    intro r hr
    have ⟨hnode, k, hk⟩ := h.waits r hr
    have hlt := h.made r hr
    exact ⟨hlt, (hmoved.request r hlt).1.trans hnode, k, (hmoved.kept r hlt hnode).trans hk⟩
  have hunderway : (underway s' site (calls ++ callsTo t bus l) queue).Perm
      (lifecycles (callsTo t bus l) ++ underway s site calls queue) := by
    rw [← h.underway_keeps hmoved.toKeeps]
    unfold underway
    rw [lifecycles_append]
    exact (List.perm_append_comm.append_right _).trans (.of_eq (List.append_assoc _ _ _))
  refine ⟨h.toReporting.keeps hmoved.toKeeps, fun call hcall => ?_, h.queued, ?_, fun r hr => ?_,
    fun r hr => ?_, by rw [hreports', hmoved.jobs]; exact h.told,
    by rw [hreports', hmoved.reports h.answered_lt, hmoved.reports h.sent]; exact h.order⟩
  · rcases List.mem_append.mp hcall with hold | hnew
    · exact (h.fits call hold).mono hmoved.toKeeps
    · exact hfits call hnew
  · rw [hunderway.nodup_iff]
    rcases hjobs with hnone | ⟨r, k, hone, hfresh, _, _⟩
    · rw [hnone]
      exact h.nodup
    · rw [hone]
      refine List.nodup_cons.mpr ⟨fun hr => ?_, h.nodup⟩
      exact absurd (hold r hr).1 (not_lt.mpr hfresh)
  · rcases List.mem_append.mp (hunderway.mem_iff.mp hr) with hasked | hwas
    · rcases hjobs with hnone | ⟨r', k, hone, _, hwaits, hnode⟩
      · rw [hnone] at hasked
        cases hasked
      · rw [hone] at hasked
        rw [List.mem_singleton.mp hasked]
        exact ⟨hnode, k, hwaits⟩
    · exact (hold r hwas).2
  · rw [hlog, callsTo_append, lifecycles_append] at hr
    rcases List.mem_append.mp hr with hwas | hnew
    · have ⟨hlt, hnode, hcase⟩ := h.answered r hwas
      refine ⟨lt_of_lt_of_le hlt hmoved.nextPtr, (hmoved.request r hlt).1.trans hnode, ?_⟩
      rw [hmoved.kept r hlt hnode]
      exact hcase.imp id fun hr => hunderway.mem_iff.mpr (List.mem_append_right _ hr)
    · refine ⟨made_of_fits hfits r hnew, ?_,
        Or.inr (hunderway.mem_iff.mpr (List.mem_append_left _ hnew))⟩
      rcases hjobs with hnone | ⟨r', k, hone, _, _, hnode⟩
      · rw [hnone] at hnew
        cases hnew
      · rw [hone] at hnew
        rw [List.mem_singleton.mp hnew]
        exact hnode

/-! ### The agent works -/

/-- The agent handles a call or hears of systemd, and what it sends enters its queue. -/
lemma works {job : Option (RequestId × UInt32)} (h : Following t bus s site calls' queue)
    (hcalls : ∀ call ∈ calls, call ∈ calls')
    (htaken : lifecycles calls' = (job.map (·.1)).toList ++ lifecycles calls)
    (hjob : ∀ r k, job = some (r, k) → r < s.nextPtr ∧ s.purpose r = some k)
    (hworks : Works s site site' job) :
    Following t bus s site' calls (queue ++ site'.service.sent.drop site.service.sent.length) := by
  obtain ⟨ms, hsent, hperm⟩ := hworks.calls h.toReporting hjob
  rw [hsent, List.drop_left]
  have hunderway : (underway s site' calls (queue ++ ms)).Perm (underway s site calls' queue) := by
    have hleft : (underway s site' calls (queue ++ ms)).Perm (lifecycles calls ++
        ((serials site' ++ ms.filterMap s.callOf) ++ queue.filterMap s.callOf)) := by
      unfold underway
      rw [List.filterMap_append]
      apply List.Perm.append_left
      rw [List.append_assoc]
      exact List.perm_append_comm.append_left _
    have hright : (underway s site calls' queue).Perm (lifecycles calls ++
        (((job.map (·.1)).toList ++ serials site) ++ queue.filterMap s.callOf)) := by
      unfold underway
      rw [htaken, List.append_assoc, List.append_assoc]
      exact List.perm_append_comm_assoc _ _ _
    exact (hleft.trans ((hperm.append_right _).append_left _)).trans hright.symm
  refine ⟨hworks.reporting h.toReporting hjob, fun call hcall => h.fits call (hcalls call hcall),
    fun m hm => ?_, hunderway.nodup_iff.mpr h.nodup, fun r hr => h.waits r (hunderway.mem_iff.mp hr),
    fun r hr => ?_, h.told, ?_⟩
  · rw [hsent]
    exact (List.mem_append.mp hm).elim (fun hold => List.mem_append_left _ (h.queued m hold))
      fun hnew => List.mem_append_right _ hnew
  · have ⟨hlt, hnode, hcase⟩ := h.answered r hr
    exact ⟨hlt, hnode, hcase.imp id hunderway.mem_iff.mpr⟩
  · rw [hsent, reports_append, reports_append, ← List.append_assoc, h.order]

/-- systemd has news. -/
lemma news (h : Following t bus s site calls queue) (hworks : Works s site site' none) :
    Following t bus s site' calls (queue ++ site'.service.sent.drop site.service.sent.length) :=
  h.works (fun _ => id) rfl (by simp) hworks

/-- The first call is handled. -/
lemma handles {call : AgentCall} (h : Following t bus s site (call :: calls) queue) (handling : Handling) :
    Following t bus s (site.onCall handling call) calls
      (queue ++ (site.onCall handling call).service.sent.drop site.service.sent.length) := by
  have hfits := h.fits call List.mem_cons_self
  refine h.works (fun c hc => List.mem_cons_of_mem call hc) ?_ (fun r k hjob => ?_)
    (works_onCall handling hfits)
  · unfold lifecycles
    cases hjob : call.job with
    | none => rw [List.filterMap_cons_none hjob]; rfl
    | some p => rw [List.filterMap_cons_some hjob]; rfl
  · cases call with
    | lifecycle r' method unit mode jobId =>
      rw [AgentCall.job, Option.some.injEq, Prod.mk.injEq] at hjob
      obtain ⟨rfl, rfl⟩ := hjob
      exact hfits
    | _ => cases hjob

/-- Messages that say nothing about jobs may be passed over. -/
lemma skips {l : List Sent} (h : Following t bus s site calls (l ++ queue)) (hreports : s.reports l = [])
    (hcalls : l.filterMap s.callOf = []) : Following t bus s site calls queue := by
  have hsame : underway s site calls (l ++ queue) = underway s site calls queue := by
    unfold underway
    rw [List.filterMap_append, hcalls, List.nil_append]
  have hnodup := h.nodup
  have hwaits := h.waits
  have hanswered := h.answered
  have horder := h.order
  rw [hsame] at hnodup hwaits hanswered
  rw [reports_append, hreports, List.nil_append] at horder
  exact ⟨h.toReporting, h.fits, fun m hm => h.queued m (List.mem_append_right l hm), hnodup, hwaits,
    hanswered, h.told, horder⟩

lemma skip (h : Following t bus s site calls (m :: queue)) (hreport : s.reportOf m = none)
    (hcall : s.callOf m = none) : Following t bus s site calls queue :=
  skips (l := [m]) h (List.filterMap_cons_none hreport) (List.filterMap_cons_none hcall)

/-! ### A message arrives -/

/-- Clients are told what the message says, and only the call that it answers waits no more. -/
lemma arrives (h : Following t bus s site calls (m :: queue)) (f : Keeps s u)
    (hwaits : ∀ r, s.callOf m ≠ some r → u.waits r = s.waits r)
    (hdone : ∀ r, s.callOf m = some r → u.waits r = none)
    (hsent : callsTo t bus u.log = callsTo t bus s.log)
    (hlog : jobReports t u.log = jobReports t s.log ++ (s.reportOf m).toList)
    (htold : settle 0 (jobReports t u.log) = some (u.jobIds t)) : Following t bus u site calls queue := by
  have hanswered : ∀ m' ∈ queue, ∀ r, m'.answers = some r → r < s.nextPtr :=
    fun m' hm' => h.answered_lt m' (List.mem_cons_of_mem m hm')
  have hunderway : (underway s site calls (m :: queue)).Perm
      ((s.callOf m).toList ++ underway u site calls queue) := by
    have hcons : (m :: queue).filterMap s.callOf = (s.callOf m).toList ++ queue.filterMap s.callOf := by
      cases hcall : s.callOf m with
      | none => rw [List.filterMap_cons_none hcall]; rfl
      | some r => rw [List.filterMap_cons_some hcall]; rfl
    unfold underway
    rw [f.calls hanswered, hcons]
    exact ((List.perm_append_comm_assoc _ _ _).append_left _).trans (List.perm_append_comm_assoc _ _ _)
  have hnodup := hunderway.nodup_iff.mp h.nodup
  refine ⟨h.toReporting.keeps f, fun call hcall => (h.fits call hcall).mono f,
    fun m' hm' => h.queued m' (List.mem_cons_of_mem m hm'), (List.nodup_append.mp hnodup).2.1,
    fun r hr => ?_, fun r hr => ?_, htold, ?_⟩
  · have hold := hunderway.mem_iff.mpr (List.mem_append_right _ hr)
    have ⟨hnode, k, hk⟩ := h.waits r hold
    have hne : s.callOf m ≠ some r := by
      intro hcall
      rw [hcall] at hnodup
      exact (List.nodup_cons.mp hnodup).1 hr
    have hlt := h.made r hold
    exact ⟨(f.request r hlt).1.trans hnode, k, (hwaits r hne).trans hk⟩
  · rw [hsent] at hr
    have ⟨hlt, hnode, hcase⟩ := h.answered r hr
    refine ⟨lt_of_lt_of_le hlt f.nextPtr, (f.request r hlt).1.trans hnode, ?_⟩
    by_cases hcall : s.callOf m = some r
    · exact Or.inl (hdone r hcall)
    · rw [hwaits r hcall]
      refine hcase.imp id fun hold => ?_
      rcases List.mem_append.mp (hunderway.mem_iff.mp hold) with hthis | hrest
      · exact absurd (Option.mem_toList.mp hthis) hcall
      · exact hrest
  · have horder := h.order
    have hcons : s.reports (m :: queue) = (s.reportOf m).toList ++ s.reports queue := by
      unfold Controller.reports
      cases hreport : s.reportOf m with
      | none => rw [List.filterMap_cons_none hreport]; rfl
      | some rep => rw [List.filterMap_cons_some hreport]; rfl
    rw [hcons, ← List.append_assoc, ← hlog] at horder
    rw [f.reports hanswered, f.reports h.sent]
    exact horder

/-- A lifecycle call has failed. -/
lemma refused {r : RequestId} (h : Following t bus s site calls (m :: queue))
    (hcall : s.callOf m = some r) (hreport : s.reportOf m = none) (f : Controller.Answered r s u) :
    Following t bus u site calls queue := by
  have hlog : jobReports t u.log = jobReports t s.log := by rw [f.log]
  refine h.arrives f.toKeeps (fun r' hr' => f.others r' fun heq => hr' (heq ▸ hcall))
    (fun r' hr' => ?_) (by rw [f.log]) ?_ ?_
  · rw [Option.some.inj (hr'.symm.trans hcall)]
    exact f.waits
  · rw [hlog, hreport]
    exact (List.append_nil _).symm
  · rw [hlog, h.told]
    unfold jobIds
    rw [f.jobs]

/-- The job of a lifecycle call is listed. -/
lemma listed {r : RequestId} {job : Job} {v : Controller} (h : Following t bus s site calls (m :: queue))
    (hcall : s.callOf m = some r) (hreport : s.reportOf m = some (.opened job.id)) (hnode : job.node = t)
    (f : Controller.Answered r s u) (f' : Listed job u v) : Following t bus v site calls queue := by
  have hlog : jobReports t v.log = jobReports t s.log ++ [.opened job.id] := by
    rw [f'.log, f.log, jobReports_append]
    congr 1
    unfold jobReports
    rw [List.filterMap_cons_some (b := .opened job.id)]
    · rfl
    · exact if_pos hnode
  refine h.arrives (f.toKeeps.trans f'.toKeeps) (fun r' hr' => ?_) (fun r' hr' => ?_) ?_
    (by rw [hlog, hreport]; rfl) ?_
  · rw [f'.waits]
    exact f.others r' fun heq => hr' (heq ▸ hcall)
  · rw [f'.waits, Option.some.inj (hr'.symm.trans hcall)]
    exact f.waits
  · rw [f'.log, f.log]
    exact callsTo_concat (fun _ => rfl)
  · rw [hlog, settle_open h.told]
    unfold jobIds
    rw [f'.jobs, f.jobs, List.filter_append, List.filter_cons_of_pos (by simpa using hnode),
      List.filter_nil, List.map_append]
    exact congrArg some (Multiset.coe_eq_coe.mpr (List.perm_append_singleton _ _).symm)

/-- A job changes or ends. -/
lemma reported {rep : Report UInt32 JobState String} (h : Following t bus s site calls (m :: queue))
    (hreport : s.reportOf m = some rep) (hcall : s.callOf m = none) (f : Reported t rep s u) :
    Following t bus u site calls queue := by
  obtain ⟨o, hlog, ho⟩ := f.log
  have hreports : jobReports t u.log = jobReports t s.log ++ [rep] := by
    rw [hlog, jobReports_append]
    congr 1
    unfold jobReports
    rw [List.filterMap_cons_some ho]
    rfl
  have hsent : callsTo t bus u.log = callsTo t bus s.log := by
    rw [hlog]
    exact callsTo_concat (callOn_of_jobReport ho)
  refine h.arrives f.toKeeps (fun r _ => f.waits r) (by simp [hcall]) hsent
    (by rw [hreports, hreport]; rfl) ?_
  rw [hreports, settle_concat h.told, f.read]

/-- Notices do not matter. -/
lemma notices {b : BusId} (h : Following t none s site [] queue)
    (hcalls : ∀ call ∈ calls, call.kind = .notice)
    (hsent : ∀ call ∈ callsOn t b s.log, call.kind = .notice) :
    Following t (some b) s site calls queue := by
  have ⟨hnone, hfits⟩ := lifecycles_of_notices (s := s) hcalls
  have hsame : underway s site calls queue = underway s site [] queue := by
    unfold underway
    rw [hnone]
    rfl
  have hnodup := h.nodup
  have hwaits := h.waits
  rw [← hsame] at hnodup hwaits
  refine ⟨h.toReporting, hfits, h.queued, hnodup, hwaits, fun r hr => ?_, h.told, h.order⟩
  rw [show lifecycles (callsTo t (some b) s.log) = [] from (lifecycles_of_notices (s := s) hsent).1] at hr
  cases hr

/-- A report in the queue about a job that there is is about a listed job of the node. -/
lemma listed_of_report {rep : Report UInt32 JobState String} (h : Following t bus s site calls (m :: queue))
    (hreport : s.reportOf m = some rep) (hrep : ∀ k, rep ≠ .opened k) : rep.key ∈ s.jobIds t := by
  have horder := h.order
  unfold Controller.reports at horder
  rw [List.filterMap_cons_some hreport] at horder
  have hsettled := h.settled
  unfold Controller.reports at hsettled
  rw [← horder, settle_append, h.told, Option.bind_some] at hsettled
  obtain ⟨n, hn, _⟩ := settle_cons_iff.mp hsettled
  exact mem_of_read hn hrep

end Following

/-- The job with an id is one of the node, if the node has one with that id. -/
lemma jobOfId_of_mem {k : UInt32} (hinv : JobInv False s) (hdistinct : Distinct s) (hk : k ∈ s.jobIds t) :
    ∃ job, s.jobOfId k = some job ∧ job.node = t := by
  obtain ⟨job, hjob, hid⟩ := List.mem_map.mp (Multiset.mem_coe.mp hk)
  obtain ⟨hin, hnode⟩ := List.mem_filter.mp hjob
  have hsome : (s.jobs.find? fun job => job.id = k).isSome :=
    List.find?_isSome.mpr ⟨job, hin, by simpa using hid⟩
  obtain ⟨found, hfound⟩ := Option.isSome_iff_exists.mp hsome
  refine ⟨found, hfound, ?_⟩
  have hfoundIn := List.mem_of_find?_eq_some hfound
  have hfoundId : found.id = k := by simpa using List.find?_some hfound
  -- two jobs with one id are one on the bus
  have hsame := hdistinct.exported _ (hinv.exported found hfoundIn) _ (hinv.exported job hin)
    (hfoundId.trans hid.symm)
  rw [List.inj_on_of_nodup_map hinv.nodup hfoundIn hin (Prod.mk.inj hsame).1]
  exact of_decide_eq_true hnode

/-- What is sent after clients were told is all that is sent. -/
lemma callsOn_after {b : BusId} {l l' : List Output} (hu : u.log = s.log ++ l)
    (hnone : callsOn t b l = []) (hs' : s'.log = u.log ++ l') :
    callsOn t b (s'.log.drop s.log.length) = callsOn t b (s'.log.drop u.log.length) := by
  rw [hs', List.drop_left, hu, List.append_assoc, List.drop_left, callsOn_append, hnone, List.nil_append]

section

variable {b : BusId} {now : UInt64} {sync : SyncCalls} {e : Event}

/-- A message of the agent is handled: clients are told what it says, and the rest is idle. -/
lemma Following.taken (h : Following t (some b) s site calls (m :: queue)) (hreq : Requested True [] s)
    (hinv : JobInv False s) (hdistinct : Distinct s) (hin : incoming t b now sync m = some e)
    (hstep : s.step e = some s') :
    Distinct s' ∧ Keeps s s' ∧
      Following t (some b) s' site (calls ++ callsOn t b (s'.log.drop s.log.length)) queue := by
  have hhandle := (step_eq_some_iff.mp hstep).2
  -- the state in which clients have just been told
  have hrest : ∀ {u : Controller} {l : List Output}, Keeps s u → Following t (some b) u site calls queue →
      Distinct u → u.log = s.log ++ l → callsOn t b l = [] → Idles t u s' →
      Distinct s' ∧ Keeps s s' ∧
        Following t (some b) s' site (calls ++ callsOn t b (s'.log.drop s.log.length)) queue := by
    intro u l hkeeps hu hdistinct hl hnone hidle
    obtain ⟨l', hl', _⟩ := hidle.log
    rw [callsOn_after hl hnone hl']
    exact ⟨hdistinct.idles hidle, hkeeps.trans hidle.toKeeps, hu.moved hidle.moved⟩
  have hskip : s.reportOf m = none → s.callOf m = none → Idles t s s' →
      Distinct s' ∧ Keeps s s' ∧
        Following t (some b) s' site (calls ++ callsOn t b (s'.log.drop s.log.length)) queue := by
    intro hreport hcall hidle
    exact hrest (l := []) (Keeps.refl s) (h.skip hreport hcall) hdistinct (List.append_nil _).symm rfl
      hidle
  -- an answer that is for no job
  have hplain : ∀ {r : RequestId} {a : AgentAnswer}, m.answers = some r → s.reportOf m = none →
      s.purpose r = none → s.agentRequestCallback r a = some s' →
      Distinct s' ∧ Keeps s s' ∧
        Following t (some b) s' site (calls ++ callsOn t b (s'.log.drop s.log.length)) queue := by
    intro r a hanswers hreport hpurpose hcallback
    refine hskip hreport ?_ (idles_agentReply hreq hcallback hpurpose)
    unfold callOf
    rw [hanswers, Option.filter_some, hpurpose]
    rfl
  -- a signal that is not about jobs
  have hunit : ∀ {sig : NodeSignal}, sig.jobId = none → s.reportOf m = none → m.answers = none →
      s.handle (.agentSignal b t sig) = some s' →
      Distinct s' ∧ Keeps s s' ∧
        Following t (some b) s' site (calls ++ callsOn t b (s'.log.drop s.log.length)) queue := by
    intro sig hsig hreport hanswers hsignal
    rw [← (whenever_eq_some_iff.mp hsignal).2] at hskip ⊢
    refine hskip hreport ?_ (idles_onSignal hinv t sig fun k hk => ?_)
    · unfold callOf
      rw [hanswers]
      rfl
    · rw [hsig] at hk
      cases hk
  cases m with
  | copied r contents =>
    obtain rfl := Option.some.inj hin
    exact hplain rfl rfl (h.copied r contents (h.queued _ List.mem_cons_self)) hhandle
  | output o =>
    cases o with
    | reply r =>
      obtain rfl := Option.some.inj hin
      rcases purpose_cases s r with hnone | ⟨serial, job, hhandler⟩
      · refine hplain rfl ?_ hnone hhandle
        show (s.purpose r).map _ = none
        rw [hnone]
        rfl
      · have hpurpose : s.purpose r = some job.id := by
          unfold purpose
          rw [hhandler]
        have hcall := callOf_reply hpurpose
        obtain ⟨hawaits, u, hanswered, hfinish⟩ :=
          answers_lifecycle (t := t) hreq hdistinct hhandle hhandler
        rcases hfinish with ⟨⟨message, hm⟩, _⟩ | ⟨_, v, hlisted, hidle⟩
        · cases hm
        · have hunderway : r ∈ underway s site calls (.output (.reply r) :: queue) := by
            refine List.mem_append_right _ (List.mem_append_right _ ?_)
            exact List.mem_filterMap.mpr ⟨_, List.mem_cons_self, hcall⟩
          have hnode : job.node = t :=
            (hdistinct.node r serial job hawaits hhandler).trans (h.waits r hunderway).1
          refine hrest (l := [.jobNew job]) (hanswered.toKeeps.trans hlisted.toKeeps) ?_ ?_
            (by rw [hlisted.log, hanswered.log]) rfl hidle
          · refine h.listed hcall ?_ hnode hanswered hlisted
            show (s.purpose r).map _ = _
            rw [hpurpose]
            rfl
          · exact hdistinct.listed (waits_of_lifecycle hawaits hhandler) hanswered hlisted
    | replyError r message =>
      obtain rfl := Option.some.inj hin
      rcases purpose_cases s r with hnone | ⟨serial, job, hhandler⟩
      · exact hplain rfl rfl hnone hhandle
      · have hpurpose : s.purpose r = some job.id := by
          unfold purpose
          rw [hhandler]
        obtain ⟨hawaits, u, hanswered, hfinish⟩ :=
          answers_lifecycle (t := t) hreq hdistinct hhandle hhandler
        rcases hfinish with ⟨_, hidle⟩ | ⟨⟨rows, hm⟩, _⟩
        · have hcall := callOf_replyError hpurpose message
          exact hrest (l := []) hanswered.toKeeps (h.refused hcall rfl hanswered)
            (hdistinct.answered hanswered) (by rw [hanswered.log, List.append_nil]) rfl hidle
        · cases hm
    | signal sig =>
      cases sig with
      | jobDone k result =>
        obtain rfl := Option.some.inj hin
        have hlisted := h.listed_of_report (show _ = some (.closed k result) from rfl) (by simp)
        obtain ⟨job, hfind, hnode⟩ := jobOfId_of_mem hinv hdistinct hlisted
        obtain ⟨u, hidle, hreported, _⟩ := finishJob_split (t := t) hinv hfind sync result now
        rw [(whenever_eq_some_iff.mp hhandle).2.symm] at hrest ⊢
        have hreported := hreported hnode
        obtain ⟨o, hlog, ho⟩ := hreported.log
        refine hrest (l := [o]) hreported.toKeeps (h.reported rfl rfl hreported)
          (hdistinct.reported hreported) hlog ?_ hidle
        exact List.filterMap_eq_nil_iff.mpr fun o' ho' =>
          List.mem_singleton.mp ho' ▸ callOn_of_jobReport ho b
      | jobStateChanged k state =>
        obtain rfl := Option.some.inj hin
        have hlisted := h.listed_of_report
          (show _ = some (.changed k (jobStateFromString state)) from rfl) (by simp)
        obtain ⟨job, hfind, hnode⟩ := jobOfId_of_mem hinv hdistinct hlisted
        have hreported := (jobStateChanged_split (t := t) hfind state).1 hnode
        rw [(whenever_eq_some_iff.mp hhandle).2.symm] at hrest ⊢
        obtain ⟨o, hlog, ho⟩ := hreported.log
        refine hrest (l := [o]) hreported.toKeeps (h.reported rfl rfl hreported)
          (hdistinct.reported hreported) hlog ?_ (Idles.refl t _)
        exact List.filterMap_eq_nil_iff.mpr fun o' ho' =>
          List.mem_singleton.mp ho' ▸ callOn_of_jobReport ho b
      | agentJobMetrics unit method time => cases hin
      | unitNew unit reason =>
        obtain rfl := Option.some.inj hin
        exact hunit rfl rfl rfl hhandle
      | unitStateChanged unit activeState substate reason =>
        obtain rfl := Option.some.inj hin
        exact hunit rfl rfl rfl hhandle
      | unitRemoved unit =>
        obtain rfl := Option.some.inj hin
        exact hunit rfl rfl rfl hhandle
      | unitPropertiesChanged unit interface properties =>
        obtain rfl := Option.some.inj hin
        exact hunit rfl rfl rfl hhandle


/-- A message that the controller passes over says nothing about jobs. -/
lemma Following.passed (h : Following t (some b) s site calls (m :: queue)) (hrun : s.stopped = false)
    (hheard : s.reportOf m ≠ none → s.Matched t b)
    (hpass : ∀ e, incoming t b now sync m = some e → s.step e = none) :
    Following t (some b) s site calls queue := by
  -- an answer that is waited for is taken
  have hanswer : ∀ {r : RequestId} {a : AgentAnswer}, m.answers = some r →
      incoming t b now sync m = some (.agentReply r a) → s.callOf m = none := by
    intro r a hanswers hin
    by_contra hcall
    obtain ⟨r', hr'⟩ := Option.ne_none_iff_exists'.mp hcall
    obtain rfl : r = r' := Option.some.inj (hanswers.symm.trans (callOf_eq_some_iff.mp hr').1)
    have hunderway : r ∈ underway s site calls (m :: queue) := by
      refine List.mem_append_right _ (List.mem_append_right _ ?_)
      exact List.mem_filterMap.mpr ⟨_, List.mem_cons_self, hr'⟩
    obtain ⟨_, k, hk⟩ := h.waits r hunderway
    have hawaits := (waits_eq_some_iff.mp hk).1
    have hpending : r ∈ s.pendingRequests := by
      unfold awaits at hawaits
      simp only [Bool.and_eq_true, decide_eq_true_eq] at hawaits
      exact hawaits.1
    have hnone := hpass _ hin
    unfold Controller.step at hnone
    rw [hrun, if_neg Bool.false_ne_true, handle] at hnone
    unfold agentRequestCallback at hnone
    rw [if_pos hpending] at hnone
    cases hnone
  -- a signal about a job is heard
  have hsignal : ∀ sig : NodeSignal, sig.member ∈ firstMembers →
      incoming t b now sync m = some (.agentSignal b t sig) → s.reportOf m = none := by
    intro sig hmember hin
    by_contra hreport
    have hmatch := hheard hreport sig.member (List.mem_append_left _ hmember)
    have hnone := hpass _ hin
    unfold Controller.step at hnone
    rw [hrun, if_neg Bool.false_ne_true, handle, whenever, if_pos hmatch] at hnone
    cases hnone
  have hnone : s.reportOf m = none ∧ s.callOf m = none := by
    cases m with
    | copied r contents => exact ⟨rfl, hanswer rfl rfl⟩
    | output o =>
      cases o with
      | reply r =>
        have hcall := hanswer rfl rfl
        refine ⟨?_, hcall⟩
        show (s.purpose r).map _ = none
        cases hpurpose : s.purpose r with
        | none => rfl
        | some k =>
          rw [callOf_reply hpurpose] at hcall
          cases hcall
      | replyError r message => exact ⟨rfl, hanswer rfl rfl⟩
      | signal sig =>
        cases sig with
        | jobDone k result => exact ⟨hsignal (.jobDone k result now sync) List.mem_cons_self rfl, rfl⟩
        | jobStateChanged k state =>
          exact ⟨hsignal (.jobStateChanged k state) (List.mem_cons_of_mem _ List.mem_cons_self) rfl, rfl⟩
        | _ => exact ⟨rfl, rfl⟩
  exact h.skip hnone.1 hnone.2

end

/-! ## The two together -/

/-- Neither side gives up the connection, no call to the agent times out, only the agent of the node
reports on its jobs, and a new job gets an id that is not in use. -/
def PairEvent.Steady (t : NodeId) (x : State) : PairEvent → Prop
  | .controller e => e.AttachesCleanly ∧ x.controller.SparesJobs t e
  | .close => False
  | .restart _ => False
  | _ => True

/-- The agent has been asked nothing yet. -/
structure Unasked (s : Controller) (site : Site) : Prop where
  started : serials site = []
  tracked : site.service.agent.trackedJobs = []
  said : s.reports site.service.sent = []

/-- The calls and the messages on the connection that the agent has. -/
def State.callQueue (x : State) : List AgentCall := (x.peerDbus.map x.toAgent).getD []

def State.messageQueue (x : State) : List Sent := (x.peerDbus.map x.toController).getD []

/-- What holds of jobs in a steady run, until the controller stops. -/
structure InStep (t : NodeId) (x : State) : Prop where
  distinct : Distinct x.controller
  unsent : ∀ b, x.peerDbus ≠ some b → x.toController b = []
  following : Following t x.peerDbus x.controller x.site x.callQueue x.messageQueue
  heard : Unasked x.controller x.site ∨ ∃ b, x.peerDbus = some b ∧ x.controller.Matched t b

lemma Unasked.keeps {x y : Controller} (h : Unasked x site) (hreporting : Reporting x site)
    (f : Keeps x y) : Unasked y site :=
  ⟨h.started, h.tracked, (f.reports hreporting.sent).trans h.said⟩

/-- An agent that was asked nothing has nothing to say about jobs. -/
lemma Unasked.works (h : Unasked s site) (hworks : Works s site site' none) :
    Unasked s site' ∧ ∃ ms, site'.service.sent = site.service.sent ++ ms ∧ s.reports ms = [] ∧
      ms.filterMap s.callOf = [] := by
  have hnone : ∀ (i : ℕ) (req : SystemdRequest),
      site.service.agent.outstandingRequests[i]? ≠ some req := by
    intro i req hi
    have hmem := List.mem_map_of_mem (f := (·.requestMessage)) (List.mem_of_getElem? hi)
    rw [show site.service.agent.outstandingRequests.map (·.requestMessage) = [] from h.started] at hmem
    cases hmem
  cases hworks with
  | @aside ms hout htracked' _ hsent hms =>
    refine ⟨⟨?_, htracked'.trans h.tracked, ?_⟩, ms, hsent, Aside.reports hms, Aside.calls hms⟩
    · unfold serials
      rw [hout]
      exact h.started
    · rw [hsent, reports_append, h.said, Aside.reports hms]
      rfl
  | failed hi _ => exact absurd hi (hnone _ _)
  | tracked hi _ => exact absurd hi (hnone _ _)
  | ended hfind _ _ =>
    rw [h.tracked] at hfind
    cases hfind
  | changed hmem _ =>
    rw [h.tracked] at hmem
    cases hmem

/-- A message of the agent neither attaches it nor stops the controller. -/
lemma event_of_incoming {t : NodeId} {bus : BusId} {now : UInt64} {sync : SyncCalls} {m : Sent}
    {e : Event} (hin : incoming t bus now sync m = some e) :
    e.AttachesCleanly ∧ ∀ sync', e ≠ .stop sync' := by
  cases m with
  | copied serial contents =>
    rw [← Option.some.inj hin]
    exact ⟨trivial, fun _ => Event.noConfusion⟩
  | output o =>
    cases o with
    | signal sig =>
      cases sig with
      | agentJobMetrics unit method time => cases hin
      | _ =>
        rw [← Option.some.inj hin]
        exact ⟨trivial, fun _ => Event.noConfusion⟩
    | _ =>
      rw [← Option.some.inj hin]
      exact ⟨trivial, fun _ => Event.noConfusion⟩

lemma steady_within {x : State} {e : PairEvent} (h : e.Steady t x) :
    e.Within t (·.AttachesCleanly) fun _ => True := by
  cases e with
  | controller e => exact h.1
  | arrive bus now sync => exact fun message e hin => (event_of_incoming hin).1
  | _ => trivial

namespace InStep

variable {x y : State}

section

variable (h : InStep t x)
  (hclean : ReachableUnder Controller.system (fun _ e => e.AttachesCleanly) x.controller)
  (hrun : x.controller.stopped = false) (ht : t ∈ x.controller.nodes)

include h hclean hrun ht

/-- The controller does something that has nothing to do with the jobs of the node. -/
lemma controller {e : Event} {s : Controller} {peerDbus : Option BusId} {opened : Site}
    (hspares : x.controller.SparesJobs t e) (hstop : ∀ sync, e ≠ .stop sync)
    (hstep : x.controller.step e = some s)
    (hconnect : peerDbus = x.peerDbus ∨ x.peerDbus = none ∧ ∃ b, peerDbus = some b ∧
      (∀ call ∈ x.toAgent b, call.kind = .notice) ∧
      ∀ call ∈ callsOn t b x.controller.log, call.kind = .notice) :
    InStep t { x with
      controller := s
      toAgent := fun b => x.toAgent b ++ callsOn t b (s.log.drop x.controller.log.length)
      peerDbus := peerDbus
      opened := opened } := by
  have hcons := consistent_of_clean hclean hrun
  have hmove := jobMove_of_step hcons (requested_of_running hclean.reachable hrun)
    (jobInv_of_reachable hclean.reachable) h.distinct ht hspares hstop hstep
  have hmoved := hmove.moved h.distinct
  have hheard : Unasked s x.site ∨ ∃ b, x.peerDbus = some b ∧ s.Matched t b := by
    refine h.heard.imp (fun hun => hun.keeps h.following.toReporting hmoved.toKeeps) ?_
    rintro ⟨b, hb, hmatched⟩
    exact ⟨b, hb, hmatched.hears (hears_of_step hstop hstep)⟩
  have hfollowing := h.following
  have hunsent := h.unsent
  unfold State.callQueue State.messageQueue at hfollowing
  rcases hconnect with rfl | ⟨hnone, b, rfl, hnotices, hsent⟩
  · refine ⟨h.distinct.jobMove hmove, hunsent, ?_, hheard⟩
    unfold State.callQueue State.messageQueue
    dsimp only
    cases hbus : x.peerDbus with
    | none =>
      rw [hbus] at hfollowing
      exact hfollowing.moved hmoved
    | some b =>
      rw [hbus] at hfollowing
      exact hfollowing.moved hmoved
  · rw [hnone] at hfollowing hunsent hheard
    refine ⟨h.distinct.jobMove hmove, fun b' _ => hunsent b' (by simp), ?_, hheard.imp id ?_⟩
    · have hqueue : x.toController b = [] := hunsent b (by simp)
      have hmoved' := (hfollowing.notices hnotices hsent).moved hmoved
      unfold State.callQueue State.messageQueue
      dsimp only [Option.map_some, Option.getD_some]
      rw [hqueue]
      exact hmoved'
    · rintro ⟨_, hb, _⟩
      cases hb

end

/-- The agent works, and what it sends enters its queue. -/
lemma withSite (h : InStep t x) {site : Site} {b : BusId} {calls : List AgentCall}
    (hbus : x.peerDbus = some b)
    (hfollowing : Following t (some b) x.controller site calls
      (x.toController b ++ site.service.sent.drop x.site.service.sent.length))
    (hheard : Unasked x.controller site ∨ x.controller.Matched t b) {toAgent : BusId → List AgentCall}
    (hcalls : toAgent b = calls) : InStep t (({ x with toAgent := toAgent } : State).withSite site) := by
  refine ⟨h.distinct, fun b' hb' => ?_, ?_, hheard.imp id fun hmatched => ⟨b, hbus, hmatched⟩⟩
  · have hne : x.peerDbus ≠ some b' := hb'
    unfold State.withSite
    dsimp only
    rw [if_neg hne]
    exact h.unsent b' hne
  · unfold State.callQueue State.messageQueue State.withSite
    dsimp only
    rw [hbus]
    dsimp only [Option.map_some, Option.getD_some]
    rw [hcalls, if_pos rfl]
    exact hfollowing

/-- The agent handles the first call on its connection. -/
lemma handles (h : InStep t x) {b : BusId} {call : AgentCall} {calls : List AgentCall}
    (hbus : x.peerDbus = some b) (hqueue : x.toAgent b = call :: calls) (handling : Handling)
    (hmatched : x.controller.Matched t b ∨ call.kind = .notice) : InStep t
      (({ x with toAgent := Function.update x.toAgent b calls } : State).withSite
        (x.site.onCall handling call)) := by
  have hfollowing := h.following
  unfold State.callQueue State.messageQueue at hfollowing
  rw [hbus] at hfollowing
  dsimp only [Option.map_some, Option.getD_some] at hfollowing
  rw [hqueue] at hfollowing
  refine h.withSite hbus (hfollowing.handles handling) ?_ (Function.update_self _ _ _)
  rcases hmatched with hmatched | hnotice
  · exact Or.inr hmatched
  · -- the agent does nothing on a notice
    have hsame : x.site.onCall handling call = x.site := by
      cases call with
      | proxyError p path message => rfl
      | proxyTargetNew p path reason => rfl
      | proxyTargetStateChanged p path activeState substate reason => rfl
      | proxyTargetRemoved p path reason => rfl
      | _ => cases hnotice
    rw [hsame]
    refine h.heard.imp id ?_
    rintro ⟨b', hb', hmatched⟩
    obtain rfl : b = b' := Option.some.inj (hbus.symm.trans hb')
    exact hmatched

/-- systemd has news for the agent. -/
lemma systemd (h : InStep t x) {e : SystemdEvent} {site : Site} (hsite : x.site.onSystemd e = some site) :
    InStep t (x.withSite site) := by
  have hworks := works_onSystemd h.following.toReporting hsite
  cases hbus : x.peerDbus with
  | some b =>
    have hfollowing := h.following
    unfold State.callQueue State.messageQueue at hfollowing
    rw [hbus] at hfollowing
    refine h.withSite hbus (hfollowing.news hworks) ?_ (rfl : x.toAgent b = x.toAgent b)
    rcases h.heard with hun | ⟨b', hb', hmatched⟩
    · exact Or.inl (hun.works hworks).1
    · obtain rfl : b = b' := Option.some.inj (hbus.symm.trans hb')
      exact Or.inr hmatched
  | none =>
    have hun : Unasked x.controller x.site := by
      rcases h.heard with hun | ⟨b', hb', _⟩
      · exact hun
      · rw [hbus] at hb'
        cases hb'
    obtain ⟨hun', ms, hsent, hreports, hcalls⟩ := hun.works hworks
    have hfollowing := h.following
    unfold State.callQueue State.messageQueue at hfollowing
    rw [hbus] at hfollowing
    have hnews := hfollowing.news hworks
    dsimp only [Option.map_none, Option.getD_none] at hnews
    rw [hsent, List.drop_left, List.nil_append, ← List.append_nil ms] at hnews
    have hnone : ∀ b, (if x.peerDbus = some b then
        x.toController b ++ site.service.sent.drop x.site.service.sent.length
      else x.toController b) = [] := by
      intro b
      rw [hbus, if_neg (by simp)]
      exact h.unsent b (by simp [hbus])
    refine ⟨h.distinct, fun b _ => hnone b, ?_, Or.inl hun'⟩
    unfold State.callQueue State.messageQueue State.withSite
    dsimp only
    rw [hbus]
    exact hnews.skips hreports hcalls

/-- A message arrives. -/
lemma arrives (h : InStep t x)
    (hclean : ReachableUnder Controller.system (fun _ e => e.AttachesCleanly) x.controller)
    (hrun : x.controller.stopped = false) {bus : BusId} {now : UInt64} {sync : SyncCalls}
    (hstep : x.onArrive t bus now sync = some y) : InStep t y := by
  unfold State.onArrive at hstep
  cases hqueue : x.toController bus with
  | nil =>
    rw [hqueue] at hstep
    cases hstep
  | cons m messages =>
    rw [hqueue] at hstep
    have hbus : x.peerDbus = some bus := by
      by_contra hne
      rw [h.unsent bus hne] at hqueue
      cases hqueue
    have hfollowing := h.following
    unfold State.callQueue State.messageQueue at hfollowing
    rw [hbus] at hfollowing
    dsimp only [Option.map_some, Option.getD_some] at hfollowing
    rw [hqueue] at hfollowing
    have hunsent : ∀ b, x.peerDbus ≠ some b → Function.update x.toController bus messages b = [] := by
      intro b hb
      have hne : b ≠ bus := fun heq => hb (by rw [heq, hbus])
      rw [Function.update_of_ne hne]
      exact h.unsent b hb
    -- what clients are told of was said by an agent that was asked
    have hheard : x.controller.reportOf m ≠ none → x.controller.Matched t bus := by
      intro hreport
      rcases h.heard with hun | ⟨b, hb, hmatched⟩
      · obtain ⟨rep, hrep⟩ := Option.ne_none_iff_exists'.mp hreport
        have hmem : rep ∈ x.controller.reports x.site.service.sent :=
          List.mem_filterMap.mpr ⟨m, hfollowing.queued m List.mem_cons_self, hrep⟩
        rw [hun.said] at hmem
        cases hmem
      · obtain rfl : bus = b := Option.some.inj (hbus.symm.trans hb)
        exact hmatched
    have hy := Option.some.inj hstep
    have hself : Function.update x.toController bus messages bus = messages := Function.update_self _ _ _
    cases hin : (incoming t bus now sync m).bind (({ x with
        toController := Function.update x.toController bus messages } : State).onController t) with
    | none =>
      rw [← hy, hin]
      refine ⟨h.distinct, hunsent, ?_, h.heard⟩
      unfold State.callQueue State.messageQueue
      dsimp only [Option.getD_none]
      rw [hbus]
      dsimp only [Option.map_some, Option.getD_some]
      rw [hself]
      refine hfollowing.passed hrun hheard fun e (he : incoming t bus now sync m = some e) => ?_
      rw [he, Option.bind_some] at hin
      exact Option.map_eq_none_iff.mp hin
    | some z =>
      rw [← hy, hin]
      obtain ⟨e, he, hz⟩ := Option.bind_eq_some_iff.mp hin
      obtain ⟨s, hs, rfl⟩ := State.onController_eq_some_iff.mp hz
      have hreach := hclean.reachable
      obtain ⟨hdistinct, hkeeps, hnext⟩ := hfollowing.taken (requested_of_running hreach hrun)
        (jobInv_of_reachable hreach) h.distinct he hs
      refine ⟨hdistinct, hunsent, ?_, ?_⟩
      · unfold State.callQueue State.messageQueue
        dsimp only [Option.getD_some]
        rw [hbus]
        dsimp only [Option.map_some, Option.getD_some]
        rw [hself]
        exact hnext
      · refine h.heard.imp (fun hun => hun.keeps h.following.toReporting hkeeps) ?_
        rintro ⟨b, hb, hmatched⟩
        exact ⟨b, hb, hmatched.hears (hears_of_step (event_of_incoming he).2 hs)⟩

end InStep

lemma jobs_initUnits {agent agent' : Agent} {units : List ListedUnit}
    (hinit : agentInitUnits agent units = some agent') :
    agent'.outstandingRequests = agent.outstandingRequests ∧ agent'.trackedJobs = agent.trackedJobs := by
  induction units generalizing agent with
  | nil =>
    obtain rfl := Option.some.inj hinit
    exact ⟨rfl, rfl⟩
  | cons listed units ih =>
    unfold agentInitUnits at hinit ih
    rw [List.foldlM_cons] at hinit
    obtain ⟨next, hnext, hrest⟩ := Option.bind_eq_some_iff.mp hinit
    have hensure := jobs_ensureUnitInfo agent listed.name
    have hfirst : next.outstandingRequests = agent.outstandingRequests ∧
        next.trackedJobs = agent.trackedJobs := by
      unfold agentInitUnit at hnext
      dsimp only at hnext
      split at hnext
      · exact Option.some.inj hnext ▸ hensure
      · split at hnext
        · exact Option.some.inj hnext ▸ hensure
        · cases hnext
    have hlast := ih hrest
    exact ⟨hlast.1.trans hfirst.1, hlast.2.trans hfirst.2⟩

/-- Before the agent connects nothing is said about jobs. -/
lemma inStep_init {x : State} (hinit : (pairSystem t).init x) : InStep t x := by
  obtain ⟨⟨threshold, cfgs, hs⟩, _, ⟨units, hagent⟩, hrequests, hsent, _, hbus, _, _, hqueue⟩ := hinit
  have hstarting := Starting.start threshold cfgs
  rw [← hs] at hstarting
  have ⟨hout, htracked⟩ := jobs_initUnits hagent
  have hlog : x.controller.log = [] := by rw [hstarting.rest]; rfl
  have hjobs : x.controller.jobs = [] := by rw [hstarting.rest]; rfl
  have hserials : serials x.site = [] := by
    unfold serials
    rw [hout]
    rfl
  have htrackedIds : trackedIds x.site.service.agent = 0 := by
    unfold trackedIds
    rw [htracked]
    rfl
  have hunderway : underway x.controller x.site [] [] = [] := by
    unfold underway
    rw [hserials]
    rfl
  refine ⟨distinct_start hstarting, fun b _ => by rw [hqueue], ?_,
    Or.inl ⟨hserials, htracked, by rw [hsent]; rfl⟩⟩
  unfold State.callQueue State.messageQueue
  rw [hbus]
  refine ⟨⟨by rw [hout]; simp [agentNew], by rw [hrequests]; simp, by rw [hsent]; simp,
    by rw [hsent]; simp, by rw [hsent, htrackedIds]; rfl⟩, by simp, by simp, ?_, ?_,
    by rw [hlog]; simp [callsTo, lifecycles], ?_, ?_⟩
  · exact hunderway ▸ List.nodup_nil
  · intro r hr
    have hmem : r ∈ underway x.controller x.site [] [] := hr
    rw [hunderway] at hmem
    cases hmem
  · rw [hlog]
    unfold jobIds
    rw [hjobs]
    rfl
  · rw [hlog, hsent]
    rfl

/-- In a steady run the two sides stay in step. -/
theorem inStep_of_steady {x : State} (h : ReachableUnder (pairSystem t) (fun x e => e.Steady t x) x)
    (hrun : x.controller.stopped = false) : InStep t x := by
  induction h with
  | init hinit => exact inStep_init hinit
  | @step x e y hreach hsteady hstep ih =>
    have hwithin : ReachableWithin t (·.AttachesCleanly) (fun _ => True) x :=
      hreach.mono fun _ _ => steady_within
    have hclean := controller_reachable hwithin
    have hrunning : x.controller.stopped = false := by
      cases State.effect_of_step (steady_within hsteady) hstep with
      | controller _ hs => exact (step_eq_some_iff.mp hs).1
      | connect _ hs => exact (step_eq_some_iff.mp hs).1
      | _ => exact hrun
    have ht := listed_of_within hwithin hrunning
    have ih := ih hrunning
    have hhandled := handled_of_within (fun _ => id) hwithin
    cases e with
    | controller e =>
      obtain ⟨s, hs, rfl⟩ := State.onController_eq_some_iff.mp hstep
      exact ih.controller hclean hrunning ht hsteady.2 (not_stop hs hrun) hs (Or.inl rfl)
    | connect peer fails =>
      change x.step t (.connect peer fails) = some y at hstep
      simp only [State.step, Option.ite_none_right_eq_some, Option.map_eq_some_iff] at hstep
      obtain ⟨hnone, z, hz, rfl⟩ := hstep
      obtain ⟨s, hs, rfl⟩ := State.onController_eq_some_iff.mp hz
      -- the address is new
      have hfree : ¬Spent (x.controller.nextPtr + 1) x.controller := fun hspent =>
        absurd hspent.old (Nat.not_lt.mpr (Nat.le_succ _))
      have hnotices := fresh_of_clean hclean hrunning ht hfree
      obtain ⟨done, hdone⟩ := hhandled.queued (x.controller.nextPtr + 1)
      have hspares : x.controller.SparesJobs t (.accept peer fails) := trivial
      exact ih.controller hclean hrunning ht hspares (fun _ => Event.noConfusion) hs
        (Or.inr ⟨hnone, x.controller.nextPtr + 1, rfl,
          fun call hcall => hnotices call (hdone ▸ List.mem_append_right _ hcall), hnotices⟩)
    | close => exact hsteady.elim
    | restart units => exact hsteady.elim
    | handle handling =>
      obtain ⟨b, hb, hstep⟩ := Option.bind_eq_some_iff.mp hstep
      cases hqueue : x.toAgent b with
      | nil =>
        rw [hqueue] at hstep
        cases hstep
      | cons call calls =>
        rw [hqueue] at hstep
        obtain rfl := Option.some.inj hstep
        refine ih.handles hb hqueue handling ?_
        by_cases hkind : call.kind = .notice
        · exact Or.inr hkind
        · obtain ⟨done, hdone⟩ := hhandled.queued b
          have hcall : call ∈ callsOn t b x.controller.log := by
            rw [hdone, hqueue]
            exact List.mem_append_right _ List.mem_cons_self
          exact Or.inl (answering_of_clean hclean hrunning ht hcall hkind)
    | arrive bus now sync => exact ih.arrives hclean hrunning hstep
    | systemd e =>
      obtain ⟨site, hsite, rfl⟩ := Option.map_eq_some_iff.mp hstep
      exact ih.systemd hsite

/-! ## No report and no call is lost -/

variable {x : State}

/-- What clients were told and what is on its way is what the agent has said. The messages on their way
lead from the jobs that the controller lists to those that the agent tracks. -/
theorem jobs_followed (h : ReachableUnder (pairSystem t) (fun x e => e.Steady t x) x)
    (hrun : x.controller.stopped = false) :
    jobReports t x.controller.log ++ x.controller.reports x.messageQueue =
        x.controller.reports x.site.service.sent ∧
      settle 0 (jobReports t x.controller.log) = some (x.controller.jobIds t) ∧
      settle (x.controller.jobIds t) (x.controller.reports x.messageQueue) =
        some (trackedIds x.site.service.agent) := by
  have hfollowing := (inStep_of_steady h hrun).following
  have hsettled := hfollowing.settled
  rw [← hfollowing.order, settle_append, hfollowing.told, Option.bind_some] at hsettled
  exact ⟨hfollowing.order, hfollowing.told, hsettled⟩

/-- A job that clients were told of is listed until they are told once that it was removed. -/
theorem removed_once (h : ReachableUnder (pairSystem t) (fun x e => e.Steady t x) x)
    (hrun : x.controller.stopped = false) (k : UInt32) :
    (x.controller.jobIds t).count k + closings k (jobReports t x.controller.log) =
      openings k (jobReports t x.controller.log) := by
  have hcount := count_of_settle (inStep_of_steady h hrun).following.told k
  rwa [Multiset.count_zero, Nat.zero_add] at hcount

/-- A lifecycle call that was sent on the connection of the agent is in one place while the controller
waits for its answer, and in none afterwards. -/
theorem call_underway_once {b : BusId} {r : RequestId}
    (h : ReachableUnder (pairSystem t) (fun x e => e.Steady t x) x) (hrun : x.controller.stopped = false)
    (hbus : x.peerDbus = some b) (hr : r ∈ lifecycles (callsOn t b x.controller.log)) :
    (underway x.controller x.site (x.toAgent b) (x.toController b)).count r =
      if (x.controller.waits r).isSome then 1 else 0 := by
  have hfollowing := (inStep_of_steady h hrun).following
  unfold State.callQueue State.messageQueue at hfollowing
  rw [hbus] at hfollowing
  have ⟨_, _, hcase⟩ := hfollowing.answered r hr
  cases hwaits : x.controller.waits r with
  | none =>
    rw [if_neg (by simp), List.count_eq_zero]
    intro hmem
    obtain ⟨_, k, hk⟩ := hfollowing.waits r hmem
    rw [hwaits] at hk
    cases hk
  | some k =>
    rw [if_pos (show (some k).isSome = true from rfl)]
    refine List.count_eq_one_of_mem hfollowing.nodup (hcase.resolve_left ?_)
    rw [hwaits]
    exact Option.some_ne_none k

instance (t : NodeId) (x : State) : ∀ e : PairEvent, Decidable (e.Steady t x)
  | .controller e => inferInstanceAs (Decidable (e.AttachesCleanly ∧ x.controller.SparesJobs t e))
  | .close | .restart _ => isFalse not_false
  | .connect .. | .handle _ | .arrive .. | .systemd _ => isTrue trivial

/-- The first of two clients has its job listed, and the call of the second is at systemd. -/
def runsTwoJobs : List PairEvent :=
  registersFirst ++ [.controller (.lifecycle 1 2 .startUnit "a.service" "replace" 0 true),
    .handle ⟨none, 1, .listUnits⟩, .systemd (.lifecycleReply 0 (.ok "/job/1")),
    .arrive 3 1 fun _ _ _ => none, 
    .controller (.lifecycle 1 3 .stopUnit "b.service" "replace" 0 true),
    .handle ⟨none, 1, .listUnits⟩, .systemd (.jobRemoved "/job/1" "done" 1)]

lemma runsTwoJobs_steady {x : State}
    (hx : run (pairSystem 1) (beside (start 0 [⟨"n", none, []⟩])) runsTwoJobs = some x) :
    ReachableUnder (pairSystem 1) (fun x e => e.Steady 1 x) x := by
  have hguard : GuardedRun (pairSystem 1) (fun x e => e.Steady 1 x)
      (beside (start 0 [⟨"n", none, []⟩])) runsTwoJobs := by decide +kernel
  exact (ReachableUnder.init (beside_init (by decide +kernel))).run hguard hx

/-- The job that has ended is still listed: the signal is on its way. -/
theorem jobs_followed_runsTwoJobs : ∃ x,
    run (pairSystem 1) (beside (start 0 [⟨"n", none, []⟩])) runsTwoJobs = some x ∧
      (jobReports 1 x.controller.log ++ x.controller.reports x.messageQueue =
          x.controller.reports x.site.service.sent ∧
        settle 0 (jobReports 1 x.controller.log) = some (x.controller.jobIds 1) ∧
        settle (x.controller.jobIds 1) (x.controller.reports x.messageQueue) =
          some (trackedIds x.site.service.agent)) ∧
      x.controller.jobIds 1 = {1} ∧ trackedIds x.site.service.agent = 0 := by
  have hread : (run (pairSystem 1) (beside (start 0 [⟨"n", none, []⟩])) runsTwoJobs).map
      (fun x => (x.controller.stopped, x.controller.jobIds 1, trackedIds x.site.service.agent)) =
        some (false, {1}, 0) := by decide +kernel
  obtain ⟨x, hx, hfacts⟩ := Option.map_eq_some_iff.mp hread
  simp only [Prod.mk.injEq] at hfacts
  obtain ⟨hrun, hlisted, htracked⟩ := hfacts
  exact ⟨x, hx, jobs_followed (runsTwoJobs_steady hx) hrun, hlisted, htracked⟩

theorem removed_once_runsTwoJobs : ∃ x,
    run (pairSystem 1) (beside (start 0 [⟨"n", none, []⟩])) runsTwoJobs = some x ∧
      (x.controller.jobIds 1).count 1 + closings 1 (jobReports 1 x.controller.log) =
        openings 1 (jobReports 1 x.controller.log) ∧
      openings 1 (jobReports 1 x.controller.log) = 1 := by
  have hread : (run (pairSystem 1) (beside (start 0 [⟨"n", none, []⟩])) runsTwoJobs).map
      (fun x => (x.controller.stopped, openings 1 (jobReports 1 x.controller.log))) =
        some (false, 1) := by decide +kernel
  obtain ⟨x, hx, hfacts⟩ := Option.map_eq_some_iff.mp hread
  obtain ⟨hrun, hopened⟩ := Prod.mk.inj hfacts
  exact ⟨x, hx, removed_once (runsTwoJobs_steady hx) hrun 1, hopened⟩

/-- The call of the second client is at systemd. -/
theorem call_underway_once_runsTwoJobs : ∃ x,
    run (pairSystem 1) (beside (start 0 [⟨"n", none, []⟩])) runsTwoJobs = some x ∧
      (underway x.controller x.site (x.toAgent 3) (x.toController 3)).count 7 =
        (if (x.controller.waits 7).isSome then 1 else 0) ∧
      serials x.site = [7] := by
  have hread : (run (pairSystem 1) (beside (start 0 [⟨"n", none, []⟩])) runsTwoJobs).map
      (fun x => (x.controller.stopped, x.peerDbus, lifecycles (callsOn 1 3 x.controller.log),
        serials x.site)) = some (false, some 3, [5, 7], [7]) := by decide +kernel
  obtain ⟨x, hx, hfacts⟩ := Option.map_eq_some_iff.mp hread
  simp only [Prod.mk.injEq] at hfacts
  obtain ⟨hrun, hbus, hsent, hserials⟩ := hfacts
  have hmem : 7 ∈ lifecycles (callsOn 1 3 x.controller.log) := by
    rw [hsent]
    exact List.mem_cons_of_mem _ List.mem_cons_self
  exact ⟨x, hx, call_underway_once (runsTwoJobs_steady hx) hrun hbus hmem, hserials⟩

end Pairing
end BlueChi
