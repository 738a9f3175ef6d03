import BlueChi.Agent.MergedJobs
import BlueChi.Controller.JobSteps
import BlueChi.Pairing.Channel

/-!
# What the agent says about jobs

The reply to a lifecycle call opens a job for the controller, and the signals of the agent change and
close it. The reports that the agent has sent make sense, and leave open what it tracks (`Reporting`).
-/

namespace BlueChi

open Execution Reports MethodReplies

/-- The signals about jobs. -/
def AgentSignal.ofJob : AgentSignal → Bool
  | .jobDone .. => true
  | .jobStateChanged .. => true
  | _ => false

namespace Controller

/-- What a message of the agent says about a job, a reply to a lifecycle call that it exists. -/
def reportOf (s : Controller) : Sent → Option (Report UInt32 JobState String)
  | .output (.reply r) => (s.purpose r).map .opened
  | .output (.signal (.jobDone k result)) => some (.closed k result)
  | .output (.signal (.jobStateChanged k state)) => some (.changed k (jobStateFromString state))
  | _ => none

/-- The lifecycle call that a message answers. -/
def callOf (s : Controller) (m : Sent) : Option RequestId := m.answers.filter fun r => (s.purpose r).isSome

def reports (s : Controller) (ms : List Sent) : List (Report UInt32 JobState String) :=
  ms.filterMap s.reportOf

/-- The request was made, and is for no job. -/
def Plain (s : Controller) (r : RequestId) : Prop := r < s.nextPtr ∧ s.purpose r = none

variable {s s' : Controller} {r : RequestId} {m : Sent} {ms ms' : List Sent}

@[simp] lemma reports_append (s : Controller) (ms ms' : List Sent) :
    s.reports (ms ++ ms') = s.reports ms ++ s.reports ms' := List.filterMap_append

lemma Plain.mono (h : s.Plain r) (f : Keeps s s') : s'.Plain r :=
  ⟨lt_of_lt_of_le h.1 f.nextPtr, (f.purpose h.1).trans h.2⟩

/-- What a message says stays the same while its request does. -/
lemma Keeps.reportOf (f : Keeps s s') (hm : ∀ r, m.answers = some r → r < s.nextPtr) :
    s'.reportOf m = s.reportOf m := by
  cases m with
  | copied serial contents => rfl
  | output o =>
    cases o with
    | signal sig => cases sig <;> rfl
    | replyError serial message => rfl
    | reply serial =>
      show (s'.purpose serial).map _ = (s.purpose serial).map _
      rw [f.purpose (hm serial rfl)]

lemma Keeps.callOf (f : Keeps s s') (hm : ∀ r, m.answers = some r → r < s.nextPtr) :
    s'.callOf m = s.callOf m := by
  unfold Controller.callOf
  cases hanswers : m.answers with
  | none => rfl
  | some r =>
    rw [Option.filter_some, Option.filter_some, f.purpose (hm r hanswers)]

lemma Keeps.reports (f : Keeps s s') (hms : ∀ m ∈ ms, ∀ r, m.answers = some r → r < s.nextPtr) :
    s'.reports ms = s.reports ms :=
  List.filterMap_congr fun m hm => f.reportOf (hms m hm)

lemma Keeps.calls (f : Keeps s s') (hms : ∀ m ∈ ms, ∀ r, m.answers = some r → r < s.nextPtr) :
    ms.filterMap s'.callOf = ms.filterMap s.callOf :=
  List.filterMap_congr fun m hm => f.callOf (hms m hm)

lemma callOf_eq_some_iff : s.callOf m = some r ↔ m.answers = some r ∧ (s.purpose r).isSome = true := by
  unfold callOf
  rw [Option.filter_eq_some_iff]

end Controller

namespace Pairing

open Controller

/-- The ids of the jobs that the agent tracks. -/
def trackedIds (agent : Agent) : Multiset UInt32 := (agent.trackedJobs.map (·.op.bcJobId) : List UInt32)

/-- What the agent has to do with jobs was asked of it, and its reports leave open what it tracks. -/
structure Reporting (s : Controller) (site : Site) : Prop where
  outstanding : ∀ req ∈ site.service.agent.outstandingRequests,
    req.requestMessage < s.nextPtr ∧ s.purpose req.requestMessage = some req.op.bcJobId
  requests : ∀ req ∈ site.service.requests, ∀ r, req.callback.caller = some r → s.Plain r
  sent : ∀ m ∈ site.service.sent, ∀ r, m.answers = some r → r < s.nextPtr
  copied : ∀ r contents, .copied r contents ∈ site.service.sent → s.purpose r = none
  settled : settle 0 (s.reports site.service.sent) = some (trackedIds site.service.agent)

variable {s s' : Controller} {site site' : Site}

lemma Reporting.keeps (h : Reporting s site) (f : Keeps s s') : Reporting s' site := by
  refine ⟨fun req hreq => ?_, fun req hreq r hr => (h.requests req hreq r hr).mono f,
    fun m hm r hr => lt_of_lt_of_le (h.sent m hm r hr) f.nextPtr, fun r contents hm => ?_, ?_⟩
  · have ⟨hlt, hpurpose⟩ := h.outstanding req hreq
    exact ⟨lt_of_lt_of_le hlt f.nextPtr, (f.purpose hlt).trans hpurpose⟩
  · rw [f.purpose (h.sent _ hm r rfl)]
    exact h.copied r contents hm
  · rw [f.reports h.sent]
    exact h.settled

/-! ## What the agent's side does for jobs -/

/-- A message that says nothing about jobs, and answers no lifecycle call. -/
def Aside (s : Controller) (m : Sent) : Prop :=
  s.reportOf m = none ∧ ∀ r, m.answers = some r → s.Plain r

/-- What a handler of the agent does for jobs. A lifecycle call is started or refused at once, and
systemd answers one that was started. -/
inductive Works (s : Controller) (site site' : Site) : Option (RequestId × UInt32) → Prop
  | aside {l : List Sent} :
      site'.service.agent.outstandingRequests = site.service.agent.outstandingRequests →
      site'.service.agent.trackedJobs = site.service.agent.trackedJobs →
      (∀ req ∈ site'.service.requests, req ∈ site.service.requests ∨
        ∀ r, req.callback.caller = some r → s.Plain r) →
      site'.service.sent = site.service.sent ++ l → (∀ m ∈ l, Aside s m) → Works s site site' none
  | started {r : RequestId} {op : AgentJobOp} :
      site'.service = { site.service with agent := { site.service.agent with
        outstandingRequests := site.service.agent.outstandingRequests ++ [⟨r, op⟩] } } →
      Works s site site' (some (r, op.bcJobId))
  | refused {r : RequestId} {k : UInt32} {message : String} :
      site'.service = site.service.replyError r message → Works s site site' (some (r, k))
  | failed {i : ℕ} {req : SystemdRequest} {message : String} :
      site.service.agent.outstandingRequests[i]? = some req →
      site'.service = { site.service with agent := { site.service.agent with
        outstandingRequests := site.service.agent.outstandingRequests.eraseIdx i } }.replyError
          req.requestMessage message →
      Works s site site' none
  | tracked {i : ℕ} {req : SystemdRequest} {path : String} :
      site.service.agent.outstandingRequests[i]? = some req →
      site'.service = { site.service with agent := { site.service.agent with
        outstandingRequests := site.service.agent.outstandingRequests.eraseIdx i
        trackedJobs := ⟨path, req.op⟩ :: site.service.agent.trackedJobs } }.send
          [.output (.reply req.requestMessage)] →
      Works s site site' none
  | ended {path result : String} {track : JobTracker} {l : List Sent} :
      (site.service.agent.trackedJobs.find? fun track => track.jobObjectPath = path) = some track →
      (∀ m ∈ l, Aside s m) →
      site'.service = { site.service with agent := { site.service.agent with
        trackedJobs := site.service.agent.trackedJobs.eraseP fun track =>
          track.jobObjectPath = path } }.send
            (l ++ [Sent.output (.signal (.jobDone track.op.bcJobId result))]) →
      Works s site site' none
  | changed {track : JobTracker} {state : String} :
      track ∈ site.service.agent.trackedJobs →
      site'.service = site.service.send
        [.output (.signal (.jobStateChanged track.op.bcJobId state))] →
      Works s site site' none

/-! ### Units -/

/-- A function on units leaves the jobs alone. -/
structure UnitsOnly (agent : Agent) (p : Agent × List AgentOutput) : Prop where
  outstanding : p.1.outstandingRequests = agent.outstandingRequests
  tracked : p.1.trackedJobs = agent.trackedJobs
  signal : ∀ sig, .signal sig ∈ p.2 → sig.ofJob = false

variable {agent : Agent}

lemma jobs_ensureUnitInfo (agent : Agent) (unit : String) :
    (agentEnsureUnitInfo agent unit).outstandingRequests = agent.outstandingRequests ∧
      (agentEnsureUnitInfo agent unit).trackedJobs = agent.trackedJobs := by
  unfold agentEnsureUnitInfo
  split
  · exact ⟨rfl, rfl⟩
  · exact ⟨rfl, rfl⟩

lemma jobs_updateUnitInfosFor (agent : Agent) (info : AgentUnitInfo) :
    (agentUpdateUnitInfosFor agent info).outstandingRequests = agent.outstandingRequests ∧
      (agentUpdateUnitInfosFor agent info).trackedJobs = agent.trackedJobs := by
  unfold agentUpdateUnitInfosFor
  split
  · exact ⟨rfl, rfl⟩
  · exact ⟨rfl, rfl⟩

lemma unitsOnly_subscribe (agent : Agent) (serial : ℕ) (unit : String) :
    UnitsOnly agent (agentMethodSubscribe agent serial unit) := by
  have hensure := jobs_ensureUnitInfo agent unit
  unfold agentMethodSubscribe
  split
  · split
    · exact ⟨rfl, rfl, by simp⟩
    · refine ⟨rfl, rfl, fun sig hsig => ?_⟩
      simp only [List.mem_cons, AgentOutput.signal.injEq, List.not_mem_nil, or_false,
        reduceCtorEq] at hsig
      rw [hsig]
      rfl
  · dsimp only
    split
    · exact ⟨hensure.1, hensure.2, by simp⟩
    · split
      · exact ⟨hensure.1, hensure.2, by simp⟩
      · refine ⟨hensure.1, hensure.2, fun sig hsig => ?_⟩
        split at hsig
        · split at hsig
          · simp only [agentEmitUnitStateChanged, List.mem_append, List.mem_cons,
              AgentOutput.signal.injEq, List.not_mem_nil, or_false, reduceCtorEq] at hsig
            rcases hsig with rfl | rfl
            · rfl
            · rfl
          · simp only [List.mem_append, List.mem_cons, AgentOutput.signal.injEq, List.not_mem_nil,
              or_false, reduceCtorEq] at hsig
            rw [hsig]
            rfl
        · simp at hsig

lemma unitsOnly_unsubscribe (agent : Agent) (serial : ℕ) (unit : String) :
    UnitsOnly agent (agentMethodUnsubscribe agent serial unit) := by
  unfold agentMethodUnsubscribe
  split
  · split
    · exact ⟨rfl, rfl, by simp⟩
    · exact ⟨rfl, rfl, by simp⟩
  · split
    · exact ⟨rfl, rfl, by simp⟩
    · split
      · exact ⟨rfl, rfl, by simp⟩
      · dsimp only
        exact ⟨(jobs_updateUnitInfosFor _ _).1, (jobs_updateUnitInfosFor _ _).2, by simp⟩

lemma unitsOnly_metrics (agent : Agent) (b : Bool) (os : List AgentOutput)
    (hos : ∀ sig, .signal sig ∉ os) : UnitsOnly agent ({ agent with metricsEnabled := b }, os) :=
  ⟨rfl, rfl, fun sig hsig => absurd hsig (hos sig)⟩

/-- Only signals are sent. -/
def SignalsOnly (p : Agent × List AgentOutput) : Prop := ∀ o ∈ p.2, ∃ sig, o = .signal sig

lemma signalsOnly_signals (p : Agent × List AgentOutput) : SignalsOnly (signals p) := by
  intro o ho
  have hsignal := (List.mem_filter.mp ho).2
  cases o with
  | signal sig => exact ⟨sig, rfl⟩
  | _ => cases hsignal

lemma UnitsOnly.signals {p : Agent × List AgentOutput} (h : UnitsOnly agent p) :
    UnitsOnly agent (Pairing.signals p) :=
  ⟨h.outstanding, h.tracked, fun sig hsig => h.signal sig (List.mem_filter.mp hsig).1⟩

lemma unitsOnly_unitChanged (agent : Agent) (path interface : String) (changed : Properties) :
    UnitsOnly agent (agentMatchUnitChanged agent path interface changed) ∧
      SignalsOnly (agentMatchUnitChanged agent path interface changed) := by
  unfold agentMatchUnitChanged
  split
  · exact ⟨⟨rfl, rfl, by simp⟩, by simp [SignalsOnly]⟩
  · dsimp only
    refine ⟨⟨rfl, rfl, fun sig hsig => ?_⟩, fun o ho => ?_⟩
    · rcases List.mem_append.mp hsig with hstate | hproperties
      · split at hstate
        · rw [AgentOutput.signal.inj (List.mem_singleton.mp hstate)]
          rfl
        · cases hstate
      · split at hproperties
        · rw [AgentOutput.signal.inj (List.mem_singleton.mp hproperties)]
          rfl
        · cases hproperties
    · rcases List.mem_append.mp ho with hstate | hproperties
      · split at hstate
        · exact ⟨_, List.mem_singleton.mp hstate⟩
        · cases hstate
      · split at hproperties
        · exact ⟨_, List.mem_singleton.mp hproperties⟩
        · cases hproperties

lemma unitsOnly_unitNew (agent : Agent) (unitName : String) :
    UnitsOnly agent (agentMatchUnitNew agent unitName) ∧
      SignalsOnly (agentMatchUnitNew agent unitName) := by
  have hensure := jobs_ensureUnitInfo agent unitName
  unfold agentMatchUnitNew
  dsimp only
  split
  · exact ⟨⟨hensure.1, hensure.2, by simp⟩, by simp [SignalsOnly]⟩
  · refine ⟨⟨hensure.1, hensure.2, fun sig hsig => ?_⟩, fun o ho => ?_⟩
    · split at hsig
      · rw [AgentOutput.signal.inj (List.mem_singleton.mp hsig)]
        rfl
      · cases hsig
    · dsimp only at ho
      split at ho
      · exact ⟨_, List.mem_singleton.mp ho⟩
      · cases ho

lemma unitsOnly_unitRemoved (agent : Agent) (path : String) :
    UnitsOnly agent (agentMatchUnitRemoved agent path) ∧
      SignalsOnly (agentMatchUnitRemoved agent path) := by
  unfold agentMatchUnitRemoved
  split
  · exact ⟨⟨rfl, rfl, by simp⟩, by simp [SignalsOnly]⟩
  · dsimp only
    refine ⟨⟨(jobs_updateUnitInfosFor _ _).1, (jobs_updateUnitInfosFor _ _).2, fun sig hsig => ?_⟩,
      fun o ho => ?_⟩
    · split at hsig
      · rw [AgentOutput.signal.inj (List.mem_singleton.mp hsig)]
        rfl
      · cases hsig
    · dsimp only at ho
      split at ho
      · exact ⟨_, List.mem_singleton.mp ho⟩
      · cases ho

/-- A function on units works aside. -/
lemma Works.units {p : Agent × List AgentOutput} (h : UnitsOnly site.service.agent p)
    (hsignals : SignalsOnly p) : Works s site (site.withAgent p) none := by
  refine .aside h.outstanding h.tracked (fun req hreq => Or.inl hreq) rfl fun m hm => ?_
  obtain ⟨o, ho, rfl⟩ := List.mem_map.mp hm
  obtain ⟨sig, rfl⟩ := hsignals o ho
  have hnone := h.signal sig ho
  refine ⟨?_, fun r hr => by cases hr⟩
  cases sig with
  | jobDone k result => cases hnone
  | jobStateChanged k state => cases hnone
  | _ => rfl

/-! ### Calls and answers -/

lemma Works.same (s : Controller) (site : Site) : Works s site site none :=
  .aside (l := []) rfl rfl (fun _ hreq => Or.inl hreq) (by rw [List.append_nil]) (by simp)

/-- The agent and what was sent stay as they are, but for a plain message and a plain request. -/
lemma Works.plain {service : Service} {l : List Sent} (hagent : service.agent = site.service.agent)
    (hrequests : ∀ req ∈ service.requests, req ∈ site.service.requests ∨
      ∀ r, req.callback.caller = some r → s.Plain r)
    (hsent : service.sent = site.service.sent ++ l) (hms : ∀ m ∈ l, Aside s m) :
    Works s site { site with service := service } none :=
  .aside (by rw [hagent]) (by rw [hagent]) hrequests hsent hms

lemma aside_replyError {r : RequestId} (hr : s.Plain r) (message : String) :
    ∀ m ∈ [Sent.output (.replyError r message)], Aside s m := by
  intro m hm
  rw [List.mem_singleton.mp hm]
  exact ⟨rfl, fun r' hr' => Option.some.inj hr' ▸ hr⟩

lemma aside_reply {r : RequestId} (hr : s.Plain r) : ∀ m ∈ [Sent.output (.reply r)], Aside s m := by
  intro m hm
  rw [List.mem_singleton.mp hm]
  refine ⟨?_, fun r' hr' => Option.some.inj hr' ▸ hr⟩
  show (s.purpose r).map _ = none
  rw [hr.2]
  rfl

lemma works_forward (m : ForwardedMethod) {r : RequestId} (hr : s.Plain r) (fails : Option FailurePoint) :
    Works s site { site with service := m.handle site.service r fails } none := by
  have hforward : ∀ texts call,
      Works s site { site with service := forwardToSystemd texts call site.service r fails } none := by
    intro texts call
    unfold forwardToSystemd
    split
    · rename_i message _
      exact .plain rfl (fun _ hreq => Or.inl hreq) rfl (aside_replyError hr message)
    · refine .plain (l := []) rfl (fun req hreq => ?_) (by simp [Service.start]) (by simp)
      refine (List.mem_append.mp hreq).imp id fun hnew r' hr' => ?_
      rw [List.mem_singleton.mp hnew] at hr'
      exact Option.some.inj hr' ▸ hr
  cases m with
  | _ => exact hforward _ _

lemma works_jobCancel {r : RequestId} (hr : s.Plain r) (jobId : UInt32) (fails : Option FailurePoint) :
    Works s site { site with service := methodJobCancel site.service r jobId fails } none := by
  by_cases hcancels : CancelsNoJob site.service (.jobCancel r jobId fails)
  · obtain ⟨message, heq⟩ := methodJobCancel_of_none hcancels
    rw [heq]
    exact .plain rfl (fun _ hreq => Or.inl hreq) rfl (aside_replyError hr message)
  · obtain ⟨path, heq⟩ := methodJobCancel_of_some hcancels
    rw [heq]
    refine .plain rfl (fun req hreq => ?_) rfl (aside_reply hr)
    refine (List.mem_append.mp hreq).imp id fun hnew r' hr' => ?_
    rw [List.mem_singleton.mp hnew] at hr'
    exact Option.some.inj hr' ▸ hr

lemma works_dep (member unit : String) (fails : Option FailurePoint) :
    Works s site (site.dep member unit fails) none := by
  unfold Site.dep agentMethodDep
  split
  · refine .aside (l := []) rfl rfl (fun req hreq => ?_) (by simp [Service.start]) (by simp)
    refine (List.mem_append.mp hreq).imp id fun hnew r hr => ?_
    rw [List.mem_singleton.mp hnew] at hr
    cases hr
  · exact .aside (l := []) rfl rfl (fun _ hreq => Or.inl hreq) (by rw [List.append_nil]) (by simp)

lemma works_lifecycle (s : Controller) (site : Site) (r : RequestId) (method : LifecycleMethod)
    (unit : String) (jobId : UInt32) (now : UInt64) (fails : Option FailurePoint) :
    Works s site { site with service := runUnitLifecycleMethod site.service r method unit jobId now fails }
      (some (r, jobId)) := by
  unfold runUnitLifecycleMethod
  split
  · exact .refused rfl
  · exact .refused rfl
  · exact .refused rfl
  · exact .refused rfl
  · exact .refused rfl
  · refine @Works.started _ _ _ _ ⟨jobId, now, unit, method.name⟩ ?_
    simp [Service.sendAll, agentRunUnitLifecycleMethod]

/-- The handler of each call. -/
lemma works_onCall (h : Handling) {call : AgentCall} (hfits : s.Fits call) :
    Works s site (site.onCall h call) call.job := by
  cases call with
  | subscribe unit =>
    exact .units (unitsOnly_subscribe _ 0 unit).signals (signalsOnly_signals _)
  | unsubscribe unit =>
    exact .units (unitsOnly_unsubscribe _ 0 unit).signals (signalsOnly_signals _)
  | startDep unit => exact works_dep _ unit h.fails
  | stopDep unit => exact works_dep _ unit h.fails
  | enableMetrics =>
    refine .units (UnitsOnly.signals ?_) (signalsOnly_signals _)
    unfold agentMethodEnableMetrics
    split
    · exact ⟨rfl, rfl, by simp⟩
    · exact unitsOnly_metrics _ true _ (by simp)
  | disableMetrics =>
    refine .units (UnitsOnly.signals ?_) (signalsOnly_signals _)
    unfold agentMethodDisableMetrics
    split
    · exact ⟨rfl, rfl, by simp⟩
    · exact unitsOnly_metrics _ false _ (by simp)
  | lifecycle r method unit mode jobId => exact works_lifecycle s site r method unit jobId h.now h.fails
  | jobCancel r jobId => exact works_jobCancel hfits jobId h.fails
  | request r method => exact works_forward h.method hfits h.fails
  | _ => exact .same s site

lemma works_jobRemoved (s : Controller) (site : Site) (jobPath result : String) (now : UInt64) :
    Works s site (site.withAgent (agentMatchJobRemoved site.service.agent jobPath result now)) none := by
  unfold agentMatchJobRemoved
  cases hfind : site.service.agent.trackedJobs.find? fun track => track.jobObjectPath = jobPath with
  | none =>
    refine .plain (l := []) rfl (fun _ hreq => Or.inl hreq) ?_ (by simp)
    simp [Service.sendAll]
  | some track =>
    refine @Works.ended _ _ _ _ result track (if site.service.agent.metricsEnabled then
      [.output (.signal (.agentJobMetrics track.op.unit track.op.method
        (finalizeTimeIntervalMicros now track.op.jobStartMicros)))] else []) hfind (fun m hm => ?_) ?_
    · split at hm
      · rw [List.mem_singleton.mp hm]
        exact ⟨rfl, fun r hr => by cases hr⟩
      · cases hm
    · unfold agentJobDone Site.withAgent Service.sendAll Service.send
      dsimp only
      split
      · rfl
      · rfl

lemma works_jobChanged (s : Controller) (site : Site) (objectPath interface : String)
    (changed : Properties) :
    Works s site (site.withAgent
      (site.service.agent, agentMatchJobChanged site.service.agent objectPath interface changed))
      none := by
  have hquiet : Works s site (site.withAgent (site.service.agent, [])) none :=
    .plain (l := []) rfl (fun _ hreq => Or.inl hreq) (by simp [Service.sendAll]) (by simp)
  unfold agentMatchJobChanged
  split
  · exact hquiet
  · split
    · exact hquiet
    · rename_i track hfind
      split
      · exact hquiet
      · exact .changed (List.mem_of_find?_eq_some hfind) rfl

/-- The answer of systemd is passed on. -/
lemma aside_systemdRequestCallback {callback : RequestCallback}
    (hplain : ∀ r, callback.caller = some r → s.Plain r) (answer : Except String (List String)) :
    ∀ m ∈ systemdRequestCallback callback answer, Aside s m := by
  cases callback with
  | copy r =>
    cases answer with
    | error message => exact aside_replyError (hplain r rfl) message
    | ok contents =>
      intro m hm
      rw [List.mem_singleton.mp hm]
      exact ⟨rfl, fun r' hr' => Option.some.inj hr' ▸ hplain r rfl⟩
  | dep =>
    intro m hm
    cases hm
  | jobCancel r =>
    cases answer with
    | error message => exact aside_replyError (hplain r rfl) message
    | ok contents => exact aside_reply (hplain r rfl)

/-- The signals and answers of systemd. -/
lemma works_onSystemd (h : Reporting s site) {e : SystemdEvent} (hsite : site.onSystemd e = some site') :
    Works s site site' none := by
  cases e with
  | unitNew unitName path =>
    rw [← Option.some.inj hsite]
    have ⟨hunits, hsignals⟩ := unitsOnly_unitNew site.service.agent unitName
    exact .units hunits hsignals
  | unitRemoved id path =>
    rw [← Option.some.inj hsite]
    have ⟨hunits, hsignals⟩ := unitsOnly_unitRemoved site.service.agent path
    exact .units hunits hsignals
  | unitChanged path interface changed =>
    rw [← Option.some.inj hsite]
    have ⟨hunits, hsignals⟩ := unitsOnly_unitChanged site.service.agent path interface changed
    exact .units hunits hsignals
  | jobRemoved jobPath result now =>
    rw [← Option.some.inj hsite]
    exact works_jobRemoved s site jobPath result now
  | jobChanged objectPath interface changed =>
    rw [← Option.some.inj hsite]
    exact works_jobChanged s site objectPath interface changed
  | reply i answer =>
    obtain ⟨service, hservice, rfl⟩ := Option.map_eq_some_iff.mp hsite
    obtain ⟨req, hreq, rfl⟩ := Option.map_eq_some_iff.mp hservice
    refine .plain rfl (fun req' hreq' => Or.inl (List.mem_of_mem_eraseIdx hreq')) rfl ?_
    exact aside_systemdRequestCallback (h.requests req (List.mem_of_getElem? hreq)) answer
  | lifecycleReply i answer =>
    obtain ⟨service, hservice, rfl⟩ := Option.map_eq_some_iff.mp hsite
    obtain ⟨p, hp, rfl⟩ := Option.map_eq_some_iff.mp hservice
    obtain ⟨req, hreq, rfl⟩ := Option.map_eq_some_iff.mp hp
    cases answer with
    | error message => exact .failed hreq rfl
    | ok path => exact .tracked hreq rfl

/-! ## The reports stay in order -/

/-- The lifecycle calls that systemd has not answered. -/
def serials (site : Site) : List RequestId :=
  site.service.agent.outstandingRequests.map (·.requestMessage)

lemma Aside.callOf {m : Sent} (h : Aside s m) : s.callOf m = none := by
  unfold Controller.callOf
  cases hanswers : m.answers with
  | none => rfl
  | some r =>
    rw [Option.filter_some, (h.2 r hanswers).2]
    rfl

lemma Aside.reports {ms : List Sent} (h : ∀ m ∈ ms, Aside s m) : s.reports ms = [] :=
  List.filterMap_eq_nil_iff.mpr fun m hm => (h m hm).1

lemma Aside.calls {ms : List Sent} (h : ∀ m ∈ ms, Aside s m) : ms.filterMap s.callOf = [] :=
  List.filterMap_eq_nil_iff.mpr fun m hm => (h m hm).callOf

lemma callOf_reply {r : RequestId} {k : UInt32} (h : s.purpose r = some k) :
    s.callOf (.output (.reply r)) = some r :=
  callOf_eq_some_iff.mpr ⟨rfl, by rw [h]; rfl⟩

lemma callOf_replyError {r : RequestId} {k : UInt32} (h : s.purpose r = some k) (message : String) :
    s.callOf (.output (.replyError r message)) = some r :=
  callOf_eq_some_iff.mpr ⟨rfl, by rw [h]; rfl⟩

/-- More is sent. -/
lemma Reporting.sends (h : Reporting s site) {l : List Sent}
    (hsent : site'.service.sent = site.service.sent ++ l)
    (hanswers : ∀ m ∈ l, ∀ r, m.answers = some r → r < s.nextPtr)
    (hcopied : ∀ r contents, .copied r contents ∈ l → s.purpose r = none)
    (hout : ∀ req ∈ site'.service.agent.outstandingRequests,
      req.requestMessage < s.nextPtr ∧ s.purpose req.requestMessage = some req.op.bcJobId)
    (hrequests : ∀ req ∈ site'.service.requests, ∀ r, req.callback.caller = some r → s.Plain r)
    (hsettled : settle 0 (s.reports site.service.sent ++ s.reports l) =
      some (trackedIds site'.service.agent)) : Reporting s site' := by
  refine ⟨hout, hrequests, fun m hm => ?_, fun r contents hm => ?_, by
    rw [hsent, reports_append, hsettled]⟩
  · rw [hsent] at hm
    exact (List.mem_append.mp hm).elim (h.sent m) (hanswers m)
  · rw [hsent] at hm
    exact (List.mem_append.mp hm).elim (h.copied r contents) (hcopied r contents)

section

variable {job : Option (RequestId × UInt32)} (hworks : Works s site site' job) (h : Reporting s site)
  (hjob : ∀ r k, job = some (r, k) → r < s.nextPtr ∧ s.purpose r = some k)

include hworks h hjob

/-- A call that is handled is started, or answered, and one that was started is answered. -/
lemma Works.calls : ∃ ms, site'.service.sent = site.service.sent ++ ms ∧
    (serials site' ++ ms.filterMap s.callOf).Perm ((job.map (·.1)).toList ++ serials site) := by
  have herase : ∀ {i : ℕ} {req : SystemdRequest}, site.service.agent.outstandingRequests[i]? = some req →
      (((site.service.agent.outstandingRequests.eraseIdx i).map (·.requestMessage)) ++
        [req.requestMessage]).Perm (serials site) := by
    intro i req hi
    obtain ⟨hlt, hget⟩ := List.getElem?_eq_some_iff.mp hi
    have hperm := (List.getElem_cons_eraseIdx_perm hlt).map (·.requestMessage)
    rw [hget, List.map_cons] at hperm
    exact (List.perm_append_singleton _ _).trans hperm
  cases hworks with
  | @aside ms hout _ _ hsent hms =>
    refine ⟨ms, hsent, ?_⟩
    unfold serials
    rw [hout, Aside.calls hms, List.append_nil]
    exact .refl _
  | @started r op heq =>
    refine ⟨[], by rw [heq, List.append_nil], ?_⟩
    unfold serials
    rw [heq, List.map_append]
    simp
  | @refused r k message heq =>
    refine ⟨[.output (.replyError r message)], by rw [heq]; rfl, ?_⟩
    have hcall := callOf_replyError (hjob r k rfl).2 message
    unfold serials
    rw [heq, List.filterMap_cons_some hcall]
    exact List.perm_append_comm
  | @failed i req message hi heq =>
    refine ⟨[.output (.replyError req.requestMessage message)], by rw [heq]; rfl, ?_⟩
    have hcall := callOf_replyError (h.outstanding req (List.mem_of_getElem? hi)).2 message
    rw [List.filterMap_cons_some hcall]
    unfold serials
    rw [heq]
    exact herase hi
  | @tracked i req path hi heq =>
    refine ⟨[.output (.reply req.requestMessage)], by rw [heq]; rfl, ?_⟩
    have hcall := callOf_reply (h.outstanding req (List.mem_of_getElem? hi)).2
    rw [List.filterMap_cons_some hcall]
    unfold serials
    rw [heq]
    exact herase hi
  | @ended path result track ms hfind hms heq =>
    refine ⟨ms ++ [.output (.signal (.jobDone track.op.bcJobId result))], by rw [heq]; rfl, ?_⟩
    unfold serials
    rw [heq, List.filterMap_append, Aside.calls hms]
    exact .of_eq (List.append_nil _)
  | @changed track state _ heq =>
    refine ⟨[.output (.signal (.jobStateChanged track.op.bcJobId state))], by rw [heq]; rfl, ?_⟩
    unfold serials
    rw [heq]
    exact .of_eq (List.append_nil _)

/-- The reports of the agent still leave open what it tracks. -/
lemma Works.reporting : Reporting s site' := by
  cases hworks with
  | @aside ms hout htracked hrequests hsent hms =>
    refine h.sends hsent (fun m hm r hr => ((hms m hm).2 r hr).1)
      (fun r contents hm => ((hms _ hm).2 r rfl).2) (by rw [hout]; exact h.outstanding)
      (fun req hreq r hr => (hrequests req hreq).elim (fun hold => h.requests req hold r hr)
        fun hplain => hplain r hr) ?_
    rw [Aside.reports hms, List.append_nil, h.settled]
    unfold trackedIds
    rw [htracked]
  | @started r op heq =>
    refine h.sends (l := []) (by rw [heq, List.append_nil]) (by simp) (by simp) (fun req hreq => ?_)
      (by rw [heq]; exact h.requests) ?_
    · rw [heq] at hreq
      rcases List.mem_append.mp hreq with hold | hnew
      · exact h.outstanding req hold
      · rw [List.mem_singleton.mp hnew]
        exact hjob r op.bcJobId rfl
    · rw [heq]
      show settle 0 (s.reports _ ++ []) = _
      rw [List.append_nil]
      exact h.settled
  | @refused r k message heq =>
    refine h.sends (l := [.output (.replyError r message)]) (by rw [heq]; rfl) (fun m hm r' hr' => ?_)
      (by simp) (by rw [heq]; exact h.outstanding) (by rw [heq]; exact h.requests) ?_
    · rw [List.mem_singleton.mp hm] at hr'
      exact Option.some.inj hr' ▸ (hjob r k rfl).1
    · rw [heq]
      show settle 0 (s.reports _ ++ []) = _
      rw [List.append_nil]
      exact h.settled
  | @failed i req message hi heq =>
    have hreq := h.outstanding req (List.mem_of_getElem? hi)
    refine h.sends (l := [.output (.replyError req.requestMessage message)]) (by rw [heq]; rfl)
      (fun m hm r hr => ?_) (by simp) (fun req' hreq' => ?_) (by rw [heq]; exact h.requests) ?_
    · rw [List.mem_singleton.mp hm] at hr
      exact Option.some.inj hr ▸ hreq.1
    · rw [heq] at hreq'
      exact h.outstanding req' (List.mem_of_mem_eraseIdx hreq')
    · rw [heq]
      show settle 0 (s.reports _ ++ []) = _
      rw [List.append_nil]
      exact h.settled
  | @tracked i req path hi heq =>
    have hreq := h.outstanding req (List.mem_of_getElem? hi)
    refine h.sends (l := [.output (.reply req.requestMessage)]) (by rw [heq]; rfl)
      (fun m hm r hr => ?_) (by simp) (fun req' hreq' => ?_) (by rw [heq]; exact h.requests) ?_
    · rw [List.mem_singleton.mp hm] at hr
      exact Option.some.inj hr ▸ hreq.1
    · rw [heq] at hreq'
      exact h.outstanding req' (List.mem_of_mem_eraseIdx hreq')
    · have hreport : s.reports [.output (.reply req.requestMessage)] = [.opened req.op.bcJobId] := by
        unfold Controller.reports
        rw [List.filterMap_cons_some (b := .opened req.op.bcJobId)]
        · rfl
        · show (s.purpose req.requestMessage).map _ = _
          rw [hreq.2]
          rfl
      rw [hreport, settle_open h.settled, heq]
      rfl
  | @ended path result track ms hfind hms heq =>
    refine h.sends (l := ms ++ [.output (.signal (.jobDone track.op.bcJobId result))])
      (by rw [heq]; rfl) (fun m hm r hr => ?_) (fun r contents hm => ?_)
      (by rw [heq]; exact h.outstanding) (by rw [heq]; exact h.requests) ?_
    · rcases List.mem_append.mp hm with hm | hm
      · exact ((hms m hm).2 r hr).1
      · rw [List.mem_singleton.mp hm] at hr
        cases hr
    · rcases List.mem_append.mp hm with hm | hm
      · exact ((hms _ hm).2 r rfl).2
      · cases List.mem_singleton.mp hm
    · have hperm := List.find?_toList_append_eraseP_perm
        (p := fun track : JobTracker => track.jobObjectPath = path) site.service.agent.trackedJobs
      rw [hfind] at hperm
      have hids : trackedIds site.service.agent =
          track.op.bcJobId ::ₘ trackedIds site'.service.agent := by
        rw [heq]
        exact (Multiset.coe_eq_coe.mpr (hperm.map (·.op.bcJobId))).symm
      have hsettled := h.settled
      rw [hids] at hsettled
      rw [reports_append, Aside.reports hms, List.nil_append]
      show settle 0 (s.reports _ ++ [.closed track.op.bcJobId result]) = _
      rw [settle_close hsettled (Multiset.mem_cons_self _ _), Multiset.erase_cons_head]
  | @changed track state htrack heq =>
    refine h.sends (l := [.output (.signal (.jobStateChanged track.op.bcJobId state))])
      (by rw [heq]; rfl) (fun m hm r hr => ?_) (by simp) (by rw [heq]; exact h.outstanding)
      (by rw [heq]; exact h.requests) ?_
    · rw [List.mem_singleton.mp hm] at hr
      cases hr
    · show settle 0 (s.reports _ ++ [.changed track.op.bcJobId (jobStateFromString state)]) = _
      rw [settle_change h.settled (Multiset.mem_coe.mpr (List.mem_map_of_mem htrack)), heq]
      rfl

end

end Pairing
end BlueChi
