import BlueChi.Library.Reports
import BlueChi.Controller.JobIsolation
import BlueChi.Controller.LateMessages
import BlueChi.Controller.Ownership

/-!
# What a function does to the jobs of a node

What has nothing to do with the jobs of node `t` leaves its listed jobs, the requests that will list
one and the announcements about them alone (`Idles`). A lifecycle call (`Asked`) and its answer
(`Answered`, `Listed`) are idle but for the one thing that they do.
-/

namespace BlueChi

open Execution Reports

/-- What clients are told about the jobs of node `t`. -/
def Output.jobReport (t : NodeId) : Output → Option (Report UInt32 JobState String)
  | .jobNew job => if job.node = t then some (.opened job.id) else none
  | .jobState job => if job.node = t then some (.changed job.id job.state) else none
  | .jobRemoved job _ result => if job.node = t then some (.closed job.id result) else none
  | _ => none

/-- The message is neither about a job of node `t` nor a call that waits for an answer. -/
def Output.Aside (t : NodeId) (o : Output) : Prop := o.jobReport t = none ∧ o.kind ≠ .request

lemma Output.aside_of_kind {t : NodeId} {o : Output}
    (ho : o.kind ∉ [OutputKind.job, .status, .request]) : o.Aside t := by
  refine ⟨?_, fun hkind => ho (by simp [hkind])⟩
  cases o with
  | jobNew job => exact absurd (by simp [Output.kind]) ho
  | jobRemoved job node result => exact absurd (by simp [Output.kind]) ho
  | jobState job => exact absurd (by simp [Output.kind]) ho
  | _ => rfl

lemma Output.aside_of_answers {t : NodeId} {o : Output} {serial : Serial}
    (ho : o.answers = some serial) : o.Aside t := by
  cases o with
  | reply serial body => exact ⟨rfl, OutputKind.noConfusion⟩
  | replyError serial message => exact ⟨rfl, OutputKind.noConfusion⟩
  | _ => cases ho

/-- The request of a lifecycle call, and the id that its job will have. -/
def AgentCall.job : AgentCall → Option (RequestId × UInt32)
  | .lifecycle r _ _ _ jobId => some (r, jobId)
  | _ => none

namespace Controller

/-! ## What the controller has of jobs -/

/-- The ids of the listed jobs of node `t`. -/
def jobIds (t : NodeId) (s : Controller) : Multiset UInt32 :=
  ((s.jobs.filter (·.node = t)).map (·.id) : List UInt32)

/-- What clients were told about the jobs of node `t`. -/
def jobReports (t : NodeId) (log : List Output) : List (Report UInt32 JobState String) :=
  log.filterMap (·.jobReport t)

/-- The id of the job that a lifecycle request is for. -/
def purpose (s : Controller) (r : RequestId) : Option UInt32 :=
  match (s.request r).handler with
  | .lifecycle _ job => some job.id
  | _ => none

/-- The id of the job that the answer to a request will list. -/
def waits (s : Controller) (r : RequestId) : Option UInt32 := if s.awaits r then s.purpose r else none

/-- The request that a call belongs to was made for it. -/
def Fits (s : Controller) : AgentCall → Prop
  | .lifecycle r _ _ _ jobId => r < s.nextPtr ∧ s.purpose r = some jobId
  | .jobCancel r _ => r < s.nextPtr ∧ s.purpose r = none
  | .request r _ => r < s.nextPtr ∧ s.purpose r = none
  | _ => True

variable {gap : ℤ} {t : NodeId} {s s' s'' : Controller} {r : RequestId}

@[simp] lemma jobReports_append (l l' : List Output) :
    jobReports t (l ++ l') = jobReports t l ++ jobReports t l' := List.filterMap_append

lemma purpose_congr (h : (s'.request r).handler = (s.request r).handler) :
    s'.purpose r = s.purpose r := by
  unfold purpose
  rw [h]

lemma waits_eq_some_iff {k : UInt32} :
    s.waits r = some k ↔ s.awaits r = true ∧ s.purpose r = some k := by
  unfold waits
  split
  · simp_all
  · simp_all

lemma waits_of_purpose (h : s.purpose r = none) : s.waits r = none := by
  unfold waits
  rw [h, ite_self]

lemma waits_congr (hawaits : s'.awaits r = s.awaits r)
    (h : (s'.request r).handler = (s.request r).handler) : s'.waits r = s.waits r := by
  unfold waits
  rw [hawaits, purpose_congr h]

/-! ## Steps that leave the jobs of the node alone -/

/-- The requests that there are keep their nodes and what they ask for. -/
structure Keeps (s s' : Controller) : Prop where
  nextPtr : s.nextPtr ≤ s'.nextPtr
  request : ∀ r < s.nextPtr, (s'.request r).node = (s.request r).node ∧
    (s'.request r).handler = (s.request r).handler

namespace Keeps

lemma refl (s : Controller) : Keeps s s := ⟨le_refl _, fun _ _ => ⟨rfl, rfl⟩⟩

lemma trans (h : Keeps s s') (h' : Keeps s' s'') : Keeps s s'' := by
  refine ⟨h.nextPtr.trans h'.nextPtr, fun r hr => ?_⟩
  have hold := h.request r hr
  have hnew := h'.request r (lt_of_lt_of_le hr h.nextPtr)
  exact ⟨hnew.1.trans hold.1, hnew.2.trans hold.2⟩

lemma purpose (h : Keeps s s') (hr : r < s.nextPtr) : s'.purpose r = s.purpose r :=
  purpose_congr (h.request r hr).2

end Keeps

lemma Fits.mono {call : AgentCall} (h : s.Fits call) (f : Keeps s s') : s'.Fits call := by
  cases call with
  | lifecycle r method unit mode jobId =>
    exact ⟨lt_of_lt_of_le h.1 f.nextPtr, (f.purpose h.1).trans h.2⟩
  | jobCancel r jobId => exact ⟨lt_of_lt_of_le h.1 f.nextPtr, (f.purpose h.1).trans h.2⟩
  | request r method => exact ⟨lt_of_lt_of_le h.1 f.nextPtr, (f.purpose h.1).trans h.2⟩
  | _ => trivial

/-- Nothing happens to the jobs of node `t` or to its requests for jobs, no job is exported, and no
request for a job is made. -/
structure Idles (t : NodeId) (s s' : Controller) : Prop extends Keeps s s' where
  waits : ∀ r, s'.waits r = none ∨ s'.waits r = s.waits r
  kept : ∀ r < s.nextPtr, (s.request r).node = t → s'.waits r = s.waits r
  exported : ∀ e ∈ s'.exportedJobs, e ∈ s.exportedJobs
  jobs : s'.jobIds t = s.jobIds t
  log : ∃ l, s'.log = s.log ++ l ∧ ∀ o ∈ l, o.jobReport t = none ∧
    ∀ bus n call, o = .toAgent bus n call → s'.Fits call ∧ call.job = none

namespace Idles

/-- The requests and the list of the jobs of node `t` are the same, and no job is exported. -/
lemma of_jobs (hptr : s.nextPtr ≤ s'.nextPtr) (hpending : s'.pendingRequests = s.pendingRequests)
    (hrequest : s'.request = s.request) (hexported : ∀ e ∈ s'.exportedJobs, e ∈ s.exportedJobs)
    (hjobs : s'.jobIds t = s.jobIds t) {l : List Output} (hlog : s'.log = s.log ++ l)
    (haside : ∀ o ∈ l, o.Aside t) : Idles t s s' := by
  have hwaits : ∀ r, s'.waits r = s.waits r := fun r =>
    waits_congr (by rw [awaits, awaits, hpending, hrequest]) (by rw [hrequest])
  refine ⟨⟨hptr, fun r _ => by rw [hrequest]; exact ⟨rfl, rfl⟩⟩, fun r => Or.inr (hwaits r),
    fun r _ _ => hwaits r, hexported, hjobs, l, hlog,
    fun o ho => ⟨(haside o ho).1, fun bus n call heq => ?_⟩⟩
  have hkind := (haside o ho).2
  rw [heq] at hkind
  cases call with
  | lifecycle _ _ _ _ _ => exact absurd rfl hkind
  | jobCancel _ _ => exact absurd rfl hkind
  | request _ _ => exact absurd rfl hkind
  | _ => exact ⟨trivial, rfl⟩

/-- The requests and the jobs are the same. -/
lemma of_same (hptr : s.nextPtr ≤ s'.nextPtr) (hpending : s'.pendingRequests = s.pendingRequests)
    (hrequest : s'.request = s.request) (hexported : s'.exportedJobs = s.exportedJobs)
    (hjobs : s'.jobs = s.jobs) {l : List Output} (hlog : s'.log = s.log ++ l)
    (haside : ∀ o ∈ l, o.Aside t) : Idles t s s' :=
  of_jobs hptr hpending hrequest (by rw [hexported]; exact fun _ => id) (by rw [jobIds, hjobs]; rfl)
    hlog haside

lemma silent (hptr : s.nextPtr ≤ s'.nextPtr) (hpending : s'.pendingRequests = s.pendingRequests)
    (hrequest : s'.request = s.request) (hexported : s'.exportedJobs = s.exportedJobs)
    (hjobs : s'.jobs = s.jobs) (hlog : s'.log = s.log) : Idles t s s' :=
  of_same hptr hpending hrequest hexported hjobs (l := []) (by rw [hlog, List.append_nil]) (by simp)

lemma refl (t : NodeId) (s : Controller) : Idles t s s := silent (le_refl _) rfl rfl rfl rfl rfl

lemma trans (h : Idles t s s') (h' : Idles t s' s'') : Idles t s s'' := by
  obtain ⟨l, hl, hquiet⟩ := h.log
  obtain ⟨l', hl', hquiet'⟩ := h'.log
  refine ⟨h.toKeeps.trans h'.toKeeps, fun r => ?_, fun r hr hnode => ?_,
    fun e he => h.exported e (h'.exported e he), h'.jobs.trans h.jobs,
    l ++ l', by rw [hl', hl, List.append_assoc], fun o ho => ?_⟩
  · rcases h'.waits r with hnone | heq
    · exact Or.inl hnone
    · rw [heq]
      exact h.waits r
  · rw [h'.kept r (lt_of_lt_of_le hr h.nextPtr) ((h.request r hr).1.trans hnode), h.kept r hr hnode]
  · rcases List.mem_append.mp ho with ho | ho
    · refine ⟨(hquiet o ho).1, fun bus n call heq => ?_⟩
      have ⟨hfits, hjob⟩ := (hquiet o ho).2 bus n call heq
      exact ⟨hfits.mono h'.toKeeps, hjob⟩
    · exact hquiet' o ho

lemma emit (s : Controller) {o : Output} (ho : o.Aside t) : Idles t s (s.emit o) :=
  of_same (le_refl _) rfl rfl rfl rfl (l := [o]) rfl (by simpa using ho)

lemma of_emits {kinds : List OutputKind} (hptr : s.nextPtr ≤ s'.nextPtr)
    (hpending : s'.pendingRequests = s.pendingRequests) (hrequest : s'.request = s.request)
    (hexported : s'.exportedJobs = s.exportedJobs) (hjobs : s'.jobs = s.jobs)
    (h : Emits kinds s s') (hkinds : ∀ o : Output, o.kind ∈ kinds → o.Aside t) :
    Idles t s s' := by
  obtain ⟨l, hl, hk⟩ := h
  exact of_same hptr hpending hrequest hexported hjobs hl fun o ho => hkinds o (hk o ho)

lemma sendAgent (s : Controller) (n : NodeId) {call : AgentCall} (hcall : call.kind ≠ .request) :
    Idles t s (s.sendAgent n call) := by
  unfold Controller.sendAgent
  split
  · exact refl t s
  · exact emit s ⟨rfl, hcall⟩

lemma nodeUnsetAgentBus (s : Controller) (n : NodeId) : Idles t s (s.nodeUnsetAgentBus n) := by
  unfold Controller.nodeUnsetAgentBus
  dsimp only
  split
  · exact of_same (le_refl _) rfl rfl rfl rfl (l := [_]) rfl
      (by simp [Output.Aside, Output.jobReport, Output.kind])
  · exact silent (le_refl _) rfl rfl rfl rfl rfl

lemma notify {told : ProxyMonitorId → Prop} (f : NotifyFrame told s s') : Idles t s s' :=
  of_emits (by rw [f.rest]) (by rw [f.rest]) (by rw [f.rest]) (by rw [f.rest]) (by rw [f.rest])
    f.emits fun o ho => Output.aside_of_kind (by simp_all)

lemma tables : ClosedTables (Idles t) where
  refl := refl t
  trans := trans
  notify := notify
  tell s n call hcall := sendAgent s n (by simp [hcall])
  table _ _ _ _ := silent (le_refl _) rfl rfl rfl rfl rfl

lemma monitors : ClosedMonitors (fun _ => True) (Idles t) where
  toClosedTables := tables
  reply s _ o ho _ := emit s (Output.aside_of_answers ho)
  clients f := silent f.nextPtr (by rw [f.rest]) (by rw [f.rest]) (by rw [f.rest]) (by rw [f.rest])
    (by rw [f.rest])
  farewell s _ _ _ := emit s (Output.aside_of_kind (by simp [Output.kind]))

lemma proxies : ClosedProxies (Idles t) where
  toClosedTables := tables
  depend s n call hcall := sendAgent s n (by simp [hcall])
  proxies _ _ _ _ := silent (le_refl _) rfl rfl rfl rfl rfl
  detach := nodeUnsetAgentBus
  proxyMonitor _ _ _ _ := silent (le_refl _) rfl rfl rfl rfl rfl
  takeRef _ _ _ _ := silent (le_refl _) rfl rfl rfl rfl rfl
  dropRef _ _ _ _ _ := silent (le_refl _) rfl rfl rfl rfl rfl
  unlist _ _ _ := silent (le_refl _) rfl rfl rfl rfl rfl
  proxyMonitorNew _ _ _ _ _ := silent (Nat.le_add_right _ 2) rfl rfl rfl rfl rfl
  appendSubscription _ _ := silent (le_refl _) rfl rfl rfl rfl rfl
  unlistSubscription _ _ := silent (le_refl _) rfl rfl rfl rfl rfl
  subscriptionUnref s p o := monitors.subscriptionUnref s _ o
  answered _ _ := silent (le_refl _) rfl rfl rfl rfl rfl

lemma removeNode (s : Controller) (n : NodeId) (hname : (s.node n).name = none) :
    Idles t s (s.removeNode n) :=
  proxies.removeAnonymous s n hname (fun _ _ _ => silent (le_refl _) rfl rfl rfl rfl rfl)
    fun _ => silent (le_refl _) rfl rfl rfl rfl rfl

lemma accepts : ClosedAccepts (Idles t) where
  toClosedTables := tables
  depend := proxies.depend
  detach := nodeUnsetAgentBus
  link _ _ _ _ := silent (le_refl _) rfl rfl rfl rfl rfl
  status s _ _ := emit s ⟨rfl, OutputKind.noConfusion⟩
  addMatch _ _ _ _ := silent (le_refl _) rfl rfl rfl rfl rfl
  addNode _ := silent (Nat.le_succ _) rfl rfl rfl rfl rfl
  busAlloc _ := silent (Nat.le_succ _) rfl rfl rfl rfl rfl
  remove := removeNode

lemma metrics : ClosedMetrics (fun _ => True) (Idles t) where
  toClosedLinks := accepts.toClosedLinks
  reply := monitors.reply
  flag s n call hcall := sendAgent s n (by simp [hcall])
  metrics _ _ := silent (le_refl _) rfl rfl rfl rfl rfl

lemma countOnline (s : Controller) (d : ℤ) : Idles t s (s.countOnline d) := by
  unfold Controller.countOnline checkSystemStatus
  dsimp only
  split
  · exact of_same (le_refl _) rfl rfl rfl rfl (l := [_]) rfl
      (by simp [Output.Aside, Output.jobReport, Output.kind])
  · exact silent (le_refl _) rfl rfl rfl rfl rfl

lemma nodeMethodRegister (s : Controller) (a : NodeId) (serial : Serial) (name : String)
    (now nowMonotonic : UInt64) (peer : PeerInfo) (fails : BusCall → Bool) :
    Idles t s (s.nodeMethodRegister a serial name now nowMonotonic peer fails) := by
  obtain ⟨s', hs', hregister⟩ := (metrics (t := t)).registerThenCount
    (fun _ _ _ _ => silent (le_refl _) rfl rfl rfl rfl rfl) s a
    (show (fun _ => True) serial from trivial) name now nowMonotonic peer fails
  rcases hregister with heq | heq
  · rwa [heq]
  · rw [heq]
    exact (hs'.trans (countOnline s' 1)).trans (emit _ (Output.aside_of_kind (by simp [Output.kind])))

/-! ### Jobs of other nodes -/

lemma jobUnref (s : Controller) (ptr : ℕ) (o : Owner) : Idles t s (s.jobUnref ptr o) := by
  unfold Controller.jobUnref
  dsimp only
  split
  · refine of_jobs (le_refl _) rfl rfl (fun e he => ?_) rfl (l := []) (by simp) (by simp)
    exact List.mem_of_mem_filter he
  · exact silent (le_refl _) rfl rfl rfl rfl rfl

lemma metricsProduceJobReport (sync : SyncCalls) (s : Controller) (job : Job) :
    Idles t s (s.metricsProduceJobReport sync job) := by
  rcases metricsProduceJobReport_eq_or sync s job with heq | ⟨measured, net, heq⟩
  · rw [heq]
    exact refl t s
  · rw [heq]
    exact emit s ⟨rfl, OutputKind.noConfusion⟩

/-- The jobs with that address are not of node `t`. -/
lemma jobIds_eraseP {ptr : ℕ} (hother : ∀ j ∈ s.jobs, j.ptr = ptr → j.node ≠ t)
    (hjobs : s'.jobs = s.jobs.eraseP fun j => j.ptr = ptr) : s'.jobIds t = s.jobIds t := by
  have herase : ∀ jobs : List Job, (∀ j ∈ jobs, j.ptr = ptr → j.node ≠ t) →
      (jobs.eraseP fun j => j.ptr = ptr).filter (·.node = t) = jobs.filter (·.node = t) := by
    intro jobs hjobs
    induction jobs with
    | nil => rfl
    | cons j jobs ih =>
      by_cases hptr : j.ptr = ptr
      · have hnode := hjobs j List.mem_cons_self hptr
        simp [hptr, hnode]
      · have ih := ih fun j' hj' => hjobs j' (List.mem_cons_of_mem j hj')
        rw [List.eraseP_cons_of_neg (by simpa using hptr), List.filter_cons, List.filter_cons, ih]
  unfold jobIds
  rw [hjobs, herase s.jobs hother]

lemma dropJob (n : NodeId) (s : Controller) (job : Job)
    (hother : s.nodeName job.node = s.nodeName n → ∀ j ∈ s.jobs, j.ptr = job.ptr → j.node ≠ t) :
    Idles t s (dropJob n s job) := by
  unfold Controller.dropJob
  split
  · rename_i hname
    have hunlist : Idles t s (s.unlistJob job) :=
      of_jobs (le_refl _) rfl rfl (fun _ => id) (jobIds_eraseP (hother hname) rfl) (l := [])
        (by simp [unlistJob]) (by simp)
    exact hunlist.trans (jobUnref _ _ _)
  · exact refl t s

end Idles

/-- The nodes stay when a job is dropped. -/
lemma dropJob_node (n : NodeId) (s : Controller) (job : Job) : (dropJob n s job).node = s.node ∧
    (dropJob n s job).heartbeatThresholdMsec = s.heartbeatThresholdMsec := by
  unfold dropJob jobUnref
  dsimp only
  split
  · split
    · exact ⟨rfl, rfl⟩
    · exact ⟨rfl, rfl⟩
  · exact ⟨rfl, rfl⟩

lemma foldl_dropJob_node (n : NodeId) (jobs : List Job) (s : Controller) :
    (jobs.foldl (dropJob n) s).node = s.node ∧
      (jobs.foldl (dropJob n) s).heartbeatThresholdMsec = s.heartbeatThresholdMsec := by
  induction jobs generalizing s with
  | nil => exact ⟨rfl, rfl⟩
  | cons job jobs ih =>
    have hfirst := dropJob_node n s job
    have hrest := ih (dropJob n s job)
    exact ⟨hrest.1.trans hfirst.1, hrest.2.trans hfirst.2⟩

namespace Idles

/-- The jobs of another name are dropped. -/
lemma dropJobs (n : NodeId) (jobs : List Job) (s : Controller)
    (hother : ∀ job ∈ jobs, s.nodeName job.node = s.nodeName n →
      ∀ j ∈ s.jobs, j.ptr = job.ptr → j.node ≠ t) :
    Idles t s (jobs.foldl (Controller.dropJob n) s) := by
  induction jobs generalizing s with
  | nil => exact refl t s
  | cons job jobs ih =>
    have hnames : ∀ k, (Controller.dropJob n s job).nodeName k = s.nodeName k := by
      intro k
      unfold nodeName
      rw [(dropJob_node n s job).1]
    have hsub : ∀ j ∈ (Controller.dropJob n s job).jobs, j ∈ s.jobs := by
      intro j hj
      rcases JobInv.dropJob_jobs n s job with heq | heq
      · rwa [heq] at hj
      · rw [heq] at hj
        exact List.mem_of_mem_eraseP hj
    apply (dropJob n s job (hother job List.mem_cons_self)).trans
    apply ih
    intro job' hjob' hname j hj
    rw [hnames, hnames] at hname
    exact hother job' (List.mem_cons_of_mem job hjob') hname j (hsub j hj)

/-- Another node loses its agent. -/
lemma nodeDisconnect (hcons : Consistent gap s) (hinv : JobInv False s) (ht : t ∈ s.nodes) {n : NodeId}
    (hn : n ≠ t) : Idles t s (s.nodeDisconnect n) := by
  have htable := ProxyFrame.of_subscription
    (subscriptionFrame_applyNode s n (tableStep_nodeDisconnectUnits (s.node n)))
  have hframe := htable.trans (ProxyFrame.foldl (fun s p =>
    proxyFrame_nodeRemoveProxyMonitor proxyFrame_nodeUnref s n p)
    ((s.applyNode n nodeDisconnectUnits).node n).proxyMonitors _)
  have hproxies := (proxies (t := t)).after (proxies.foldl (fun s p =>
    proxies.nodeRemoveProxyMonitor proxies.nodeUnref_proxyMonitor s n p)
    ((s.applyNode n nodeDisconnectUnits).node n).proxyMonitors (s.applyNode n nodeDisconnectUnits))
    (proxies.applyNode s n (tableStep_nodeDisconnectUnits (s.node n)))
  unfold Controller.nodeDisconnect
  dsimp only
  generalize ((s.applyNode n nodeDisconnectUnits).node n).proxyMonitors.foldl
    (fun s p => nodeRemoveProxyMonitor nodeUnref s n p) (s.applyNode n nodeDisconnectUnits) = u
    at hframe hproxies
  split
  · rename_i hname
    exact hproxies.trans (removeNode u n hname)
  · rename_i hname
    have hjobs : u.jobs = s.jobs := by rw [hframe.rest]
    have hnames : ∀ k, (u.node k).name = (s.node k).name := fun k => (hframe.node k).name_eq
    rw [hnames] at hname
    refine ((hproxies.trans (dropJobs n u.jobs u ?_)).trans (nodeUnsetAgentBus _ n)).trans
      (countOnline _ _)
    intro job hjob hsame j hj hptr hnode
    rw [hjobs] at hjob hj
    obtain rfl : j = job := List.inj_on_of_nodup_map hinv.nodup hj hjob hptr
    -- the job is one of node `t`, so both nodes have its name
    have htname := hcons.registry.named t ht
    have hsame : (s.node t).name = (s.node n).name := by
      unfold nodeName at hsame
      rw [hnames, hnames, hnode] at hsame
      obtain ⟨a, ha⟩ := Option.ne_none_iff_exists'.mp htname
      obtain ⟨b, hb⟩ := Option.ne_none_iff_exists'.mp hname
      rw [ha, hb] at hsame ⊢
      exact congrArg some hsame
    have hlisted := hcons.connected.listed n hname
    exact hn (List.inj_on_of_nodup_map hcons.registry.distinct hlisted ht hsame.symm)

end Idles

/-- What the heartbeat check finds out about node `t` does not depend on the other nodes. -/
lemma livenessExpired_nodeDisconnect {n : NodeId} (hname : (s.node n).name ≠ none) (now : UInt64) :
    (s.nodeDisconnect n).livenessExpired t now = s.livenessExpired t now := by
  have htable := ProxyFrame.of_subscription
    (subscriptionFrame_applyNode s n (tableStep_nodeDisconnectUnits (s.node n)))
  have hframe := htable.trans (ProxyFrame.foldl (fun s p =>
    proxyFrame_nodeRemoveProxyMonitor proxyFrame_nodeUnref s n p)
    ((s.applyNode n nodeDisconnectUnits).node n).proxyMonitors _)
  have hcount : ∀ u : Controller, (u.countOnline (-1)).node = u.node ∧
      (u.countOnline (-1)).heartbeatThresholdMsec = u.heartbeatThresholdMsec := by
    intro u
    unfold countOnline checkSystemStatus
    dsimp only
    split
    · exact ⟨rfl, rfl⟩
    · exact ⟨rfl, rfl⟩
  unfold nodeDisconnect
  dsimp only
  generalize ((s.applyNode n nodeDisconnectUnits).node n).proxyMonitors.foldl
    (fun s p => nodeRemoveProxyMonitor nodeUnref s n p) (s.applyNode n nodeDisconnectUnits) = u
    at hframe
  rw [if_neg (by rwa [(hframe.node n).name_eq])]
  have hjobs := foldl_dropJob_node n u.jobs u
  have hunset := proxyFrame_nodeUnsetAgentBus (u.jobs.foldl (dropJob n) u) n
  have hend := hcount ((u.jobs.foldl (dropJob n) u).nodeUnsetAgentBus n)
  have hseen : ((((u.jobs.foldl (dropJob n) u).nodeUnsetAgentBus n).countOnline (-1)).node
      t).lastSeenMonotonic = (s.node t).lastSeenMonotonic := by
    rw [hend.1, (hunset.node t).rest, hjobs.1]
    dsimp only
    rw [(hframe.node t).rest]
  have hthreshold : (((u.jobs.foldl (dropJob n) u).nodeUnsetAgentBus n).countOnline
      (-1)).heartbeatThresholdMsec = s.heartbeatThresholdMsec := by
    rw [hend.2, hunset.rest, hjobs.2, hframe.rest]
  unfold livenessExpired
  rw [hseen, hthreshold]

lemma livenessExpired_checkNode {n : NodeId} (now : UInt64) :
    (checkNode now s n).livenessExpired t now = s.livenessExpired t now := by
  unfold checkNode
  split
  · rename_i honline
    split
    · apply livenessExpired_nodeDisconnect
      intro hnone
      simp [nodeIsOnline, hnone] at honline
    · unfold sendAgent
      split
      · rfl
      · rfl
  · rfl

namespace Idles

/-- The heartbeat check, when it does not give up the agent of node `t`. -/
lemma checkNodes (now : UInt64) (ns : List NodeId) {s : Controller} (hcons : Consistent gap s)
    (hinv : JobInv False s) (ht : t ∈ s.nodes) (hns : ∀ n ∈ ns, n ∈ s.nodes)
    (halive : s.livenessExpired t now = false) : Idles t s (ns.foldl (checkNode now) s) := by
  induction ns generalizing s with
  | nil => exact refl t s
  | cons n ns ih =>
    have hnodes := checkNode_nodes hcons now (hns n List.mem_cons_self)
    have hfirst : Idles t s (checkNode now s n) := by
      unfold checkNode
      split
      · split
        · rename_i hexpired
          apply nodeDisconnect hcons hinv ht
          rintro rfl
          rw [halive] at hexpired
          cases hexpired
        · exact sendAgent s n OutputKind.noConfusion
      · exact refl t s
    apply hfirst.trans
    apply ih (hcons.checkNode now n) (hinv.checkNodes [n] now fun hkept => hkept.elim)
    · rwa [hnodes]
    · rw [hnodes]
      exact fun k hk => hns k (List.mem_cons_of_mem n hk)
    · rwa [livenessExpired_checkNode]

end Idles

/-! ## Requests that are not for jobs -/

namespace Idles

/-- Only what is waited for differs, and requests for jobs are waited for as before. -/
lemma of_pending (hptr : s.nextPtr ≤ s'.nextPtr)
    (hrequest : ∀ r < s.nextPtr, (s'.request r).node = (s.request r).node ∧
      (s'.request r).handler = (s.request r).handler)
    (hwaits : ∀ r, s'.waits r = none ∨ s'.waits r = s.waits r)
    (hkept : ∀ r < s.nextPtr, s'.waits r = s.waits r) (hexported : s'.exportedJobs = s.exportedJobs)
    (hjobs : s'.jobs = s.jobs) (hlog : s'.log = s.log) : Idles t s s' := by
  refine ⟨⟨hptr, hrequest⟩, hwaits, fun r hr _ => hkept r hr, fun e he => hexported ▸ he, ?_, [],
    by rw [hlog, List.append_nil], by simp⟩
  unfold jobIds
  rw [hjobs]

lemma nodeCreateRequest (s : Controller) (n : NodeId) {handler : RequestHandler}
    (hplain : ∀ serial job, handler ≠ .lifecycle serial job) :
    Idles t s (s.nodeCreateRequest n handler) := by
  have hold : ∀ r, r ≠ s.nextPtr → (s.nodeCreateRequest n handler).request r = s.request r := by
    intro r hr
    rw [nodeCreateRequest_request, Function.update_of_ne hr]
  have hsame : ∀ r, r ≠ s.nextPtr → (s.nodeCreateRequest n handler).waits r = s.waits r := by
    intro r hr
    apply waits_congr
    · unfold awaits
      rw [hold r hr]
      rfl
    · rw [hold r hr]
  refine of_pending (Nat.le_succ _) (fun r hr => by rw [hold r (Nat.ne_of_lt hr)]; exact ⟨rfl, rfl⟩)
    (fun r => ?_) (fun r hr => hsame r (Nat.ne_of_lt hr)) rfl rfl rfl
  by_cases hr : r = s.nextPtr
  · apply Or.inl
    apply waits_of_purpose
    unfold purpose
    rw [hr, nodeCreateRequest_request, Function.update_self]
    split
    · rename_i serial job heq
      exact absurd heq (hplain serial job)
    · rfl
  · exact Or.inr (hsame r hr)

/-- A request that is for no job is started. -/
lemma agentRequestStart (s : Controller) {r : RequestId} (hr : s.purpose r = none) {call : AgentCall}
    (hfits : s.Fits call) (hjob : call.job = none) : Idles t s (s.agentRequestStart r call) := by
  have hsend : Idles t s (s.sendAgent (s.request r).node call) := by
    unfold Controller.sendAgent
    split
    · exact refl t s
    · rename_i bus _
      refine ⟨⟨le_refl _, fun _ _ => ⟨rfl, rfl⟩⟩, fun _ => Or.inr rfl, fun _ _ _ => rfl, fun _ => id,
        rfl, [.toAgent bus (s.request r).node call], rfl, fun o ho => ?_⟩
      obtain rfl := List.mem_singleton.mp ho
      refine ⟨rfl, fun bus' n call' heq => ?_⟩
      rw [Output.toAgent.injEq] at heq
      obtain ⟨_, _, rfl⟩ := heq
      exact ⟨hfits, hjob⟩
  have hframe : (s.sendAgent (s.request r).node call).request = s.request ∧
      (s.sendAgent (s.request r).node call).pendingRequests = s.pendingRequests := by
    unfold Controller.sendAgent
    split
    · exact ⟨rfl, rfl⟩
    · exact ⟨rfl, rfl⟩
  apply hsend.trans
  have hsame : ∀ r', (s.agentRequestStart r call).waits r' =
      (s.sendAgent (s.request r).node call).waits r' := by
    intro r'
    by_cases hr' : r' = r
    · subst hr'
      have hpurpose : (s.sendAgent (s.request r').node call).purpose r' = none := by
        rw [← hr]
        exact purpose_congr (by rw [hframe.1])
      rw [waits_of_purpose hpurpose]
      exact waits_of_purpose hpurpose
    · apply waits_congr
      · unfold awaits
        rw [agentRequestStart_pendingRequests, hframe.2]
        simp [hr', Controller.agentRequestStart]
      · rfl
  exact of_pending (le_refl _) (fun _ _ => ⟨rfl, rfl⟩) (fun r' => Or.inr (hsame r'))
    (fun r' _ => hsame r') rfl rfl rfl

/-- A request that no job waits for is given up. -/
lemma agentRequestUnref (s : Controller) {r : RequestId} (hr : s.waits r = none) (o : Owner) :
    Idles t s (s.agentRequestUnref r o) := by
  have hdrop : Idles t s (s.dropRef (.request r) o) := silent (le_refl _) rfl rfl rfl rfl rfl
  have hfree : ∀ u : Controller, Idles t u (u.freeUserdata (u.request r).handler) ∧
      (u.freeUserdata (u.request r).handler).waits r = u.waits r := by
    intro u
    unfold Controller.freeUserdata
    split
    · refine ⟨jobUnref u _ _, ?_⟩
      unfold Controller.jobUnref
      dsimp only
      split
      · rfl
      · rfl
    · exact ⟨refl t u, rfl⟩
  have hunlist : ∀ u : Controller, u.waits r = none → Idles t u (u.unlistRequest r) := by
    intro u hu
    have hsame : ∀ r', (u.unlistRequest r).waits r' = u.waits r' := by
      intro r'
      by_cases hr' : r' = r
      · subst hr'
        rw [hu]
        by_contra hwaits
        obtain ⟨k, hk⟩ := Option.ne_none_iff_exists'.mp hwaits
        have ⟨hawaits, hpurpose⟩ := waits_eq_some_iff.mp hk
        have hold : u.waits r' = some k := by
          refine waits_eq_some_iff.mpr ⟨?_, hpurpose⟩
          unfold awaits at hawaits ⊢
          simp only [unlistRequest_pendingRequests, unlistRequest_request, Bool.and_eq_true,
            decide_eq_true_eq] at hawaits ⊢
          exact ⟨List.mem_of_mem_erase hawaits.1, hawaits.2⟩
        rw [hu] at hold
        cases hold
      · apply waits_congr
        · unfold awaits
          rw [unlistRequest_pendingRequests, unlistRequest_request]
          simp [List.mem_erase_of_ne hr']
        · rfl
    exact of_pending (le_refl _) (fun _ _ => ⟨rfl, rfl⟩) (fun r' => Or.inr (hsame r'))
      (fun r' _ => hsame r') rfl rfl rfl
  unfold Controller.agentRequestUnref
  dsimp only
  split
  · have ⟨hdata, hwaits⟩ := hfree (s.dropRef (.request r) o)
    apply hdrop.trans
    apply Idles.trans _ (proxies.nodeUnref _ _ Owner.noConfusion)
    exact hdata.trans (hunlist _ (hwaits.trans hr))
  · exact hdrop

/-- A request that is for no job is made, and then started or given up. -/
lemma runRequest (s : Controller) (n : NodeId) (serial : Serial) {handler : RequestHandler}
    (hplain : ∀ serial job, handler ≠ .lifecycle serial job) (call : RequestId → AgentCall)
    (hcall : ∀ u : Controller, ∀ r, r < u.nextPtr → u.purpose r = none → u.Fits (call r))
    (hjob : ∀ r, (call r).job = none) (started : Bool) (failure : String) :
    Idles t s (s.runRequest n serial handler call started failure) := by
  have hcreate : Idles t s (s.nodeCreateRequest n handler) := nodeCreateRequest s n hplain
  have hpurpose : (s.nodeCreateRequest n handler).purpose s.nextPtr = none := by
    unfold purpose
    rw [nodeCreateRequest_request, Function.update_self]
    split
    · rename_i serial job heq
      exact absurd heq (hplain serial job)
    · rfl
  unfold Controller.runRequest
  dsimp only
  split
  · have hstart := agentRequestStart (t := t) _ hpurpose (hcall _ _ (Nat.lt_succ_self _) hpurpose)
      (hjob s.nextPtr)
    apply (hcreate.trans hstart).trans
    apply agentRequestUnref
    apply waits_of_purpose
    rw [← hpurpose]
    apply purpose_congr
    show ((Controller.sendAgent _ _ _).request s.nextPtr).handler = _
    unfold Controller.sendAgent
    split
    · rfl
    · rfl
  · apply (hcreate.trans (emit _ (Output.aside_of_answers
      (show (Output.replyError serial failure).answers = some serial from rfl)))).trans
    apply agentRequestUnref
    exact waits_of_purpose hpurpose

lemma nodeMethodForward (s : Controller) (n : NodeId) (serial : Serial) (method failure : String)
    (started : Bool) : Idles t s (s.nodeMethodForward n serial method failure started) := by
  unfold Controller.nodeMethodForward
  split
  · exact emit s (Output.aside_of_answers rfl)
  · exact runRequest s n serial (fun _ _ => RequestHandler.noConfusion) (fun r => .request r method)
      (fun _ _ hr hpurpose => ⟨hr, hpurpose⟩) (fun _ => rfl) started failure

lemma jobMethodCancel (s : Controller) (job : Job) (serial : Serial) (started : Bool) :
    Idles t s (s.jobMethodCancel job serial started) := by
  have hrun : Idles t s (s.runRequest job.node serial (.jobCancel serial) (fun r => .jobCancel r job.id)
      started "Failed to call the method to cancel job") :=
    runRequest s job.node serial (fun _ _ => RequestHandler.noConfusion) (fun r => .jobCancel r job.id)
      (fun _ _ hr hpurpose => ⟨hr, hpurpose⟩) (fun _ => rfl) started _
  unfold Controller.jobMethodCancel
  split
  · dsimp only
    split
    · exact hrun.trans (emit _ (Output.aside_of_answers rfl))
    · exact hrun
  · exact emit s (Output.aside_of_answers rfl)

/-! ### Fleet requests -/

/-- The fleet requests, and the count of callbacks, do not matter. -/
lemma modifyFleet (s : Controller) (q : FleetId) (f : AgentFleetRequest → AgentFleetRequest) :
    Idles t s (s.modifyFleet q f) := silent (le_refl _) rfl rfl rfl rfl rfl

/-- The requests in the slots are for no jobs. -/
lemma foldl_unref (q : FleetId) (subs : List SubRequest) (s : Controller)
    (hsubs : ∀ sub ∈ subs, sub.agentReq < s.nextPtr ∧ s.purpose sub.agentReq = none) :
    Idles t s (subs.foldl
      (fun s sub => (s.nodeUnref sub.node (.fleet q)).agentRequestUnref sub.agentReq .creator) s) := by
  induction subs generalizing s with
  | nil => exact refl t s
  | cons sub subs ih =>
    have ⟨hr, hpurpose⟩ := hsubs sub List.mem_cons_self
    have hnode : Idles t s (s.nodeUnref sub.node (.fleet q)) :=
      proxies.nodeUnref s sub.node Owner.noConfusion
    have hfirst := hnode.trans (agentRequestUnref _ (waits_of_purpose
      ((hnode.toKeeps.purpose hr).trans hpurpose)) .creator)
    apply hfirst.trans
    apply ih
    intro sub' hsub'
    have ⟨hr', hpurpose'⟩ := hsubs sub' (List.mem_cons_of_mem sub hsub')
    exact ⟨lt_of_lt_of_le hr' hfirst.nextPtr, (hfirst.toKeeps.purpose hr').trans hpurpose'⟩

lemma agentFleetRequestMaybeDone (s : Controller) (q : FleetId)
    (hsubs : ∀ sub ∈ (s.fleet q).subReq, sub.agentReq < s.nextPtr ∧ s.purpose sub.agentReq = none) :
    Idles t s (s.agentFleetRequestMaybeDone q) := by
  have hfree : ∀ u : Controller, Idles t s u → u.fleet = s.fleet →
      Idles t s (u.agentFleetRequestFree q) := by
    intro u hu hfleet
    unfold Controller.agentFleetRequestFree
    have hmark : Idles t u (u.freeFleet q) := silent (le_refl _) rfl rfl rfl rfl rfl
    apply (hu.trans hmark).trans
    rw [hfleet]
    apply foldl_unref
    intro sub hsub
    have ⟨hr, hpurpose⟩ := hsubs sub hsub
    exact ⟨lt_of_lt_of_le hr hu.nextPtr, (hu.toKeeps.purpose hr).trans hpurpose⟩
  unfold Controller.agentFleetRequestMaybeDone
  split
  · unfold agentFleetRequestDone
    dsimp only
    split
    · exact hfree _ (emit s (Output.aside_of_answers rfl)) rfl
    · exact hfree _ (emit s (Output.aside_of_answers rfl)) rfl
  · exact refl t s

lemma startSubRequest (q : FleetId) (method : String) (starts : NodeId → Bool) (s : Controller)
    (n : NodeId) : Idles t s (startSubRequest q method starts s n) := by
  have hcreate : Idles t s (s.nodeCreateRequest n (.fleet q)) :=
    nodeCreateRequest s n fun _ _ => RequestHandler.noConfusion
  have hpurpose : (s.nodeCreateRequest n (.fleet q)).purpose s.nextPtr = none := by
    unfold purpose
    rw [nodeCreateRequest_request, Function.update_self]
  unfold Controller.startSubRequest
  split
  · dsimp only
    split
    · have hstart := agentRequestStart (t := t) _ hpurpose
        (show (s.nodeCreateRequest _ _).Fits (.request s.nextPtr method) from
          ⟨Nat.lt_succ_self _, hpurpose⟩) rfl
      apply (hcreate.trans hstart).trans
      exact silent (le_refl _) rfl rfl rfl rfl rfl
    · exact hcreate.trans (agentRequestUnref _ (waits_of_purpose hpurpose) .creator)
  · exact refl t s

end Idles

/-- The sub-requests of fleet requests are for no jobs. -/
lemma Requested.plain {live : Prop} {held : List RequestId} (h : Requested live held s) (q : FleetId) :
    ∀ sub ∈ (s.fleet q).subReq, sub.agentReq < s.nextPtr ∧ s.purpose sub.agentReq = none := by
  intro sub hsub
  have ⟨hr, hhandler⟩ := (h.slots q).subs sub hsub
  refine ⟨hr, ?_⟩
  unfold purpose
  rw [hhandler]

lemma Requested.plain_answer {live : Prop} {held : List RequestId} (h : Requested live held s)
    (q : FleetId) (r : RequestId) (m : AgentAnswer) :
    ∀ sub ∈ (AgentFleetRequest.answer (s.fleet q) r m).subReq,
      sub.agentReq < s.nextPtr ∧ s.purpose sub.agentReq = none := by
  intro sub hsub
  have hmap : (AgentFleetRequest.answer (s.fleet q) r m).subReq.map (·.agentReq) =
      (s.fleet q).subReq.map (·.agentReq) := by
    apply List.map_modify_of_key
    exact fun _ => rfl
  have hmem := List.mem_map_of_mem (f := (·.agentReq)) hsub
  rw [hmap] at hmem
  obtain ⟨old, hold, heq⟩ := List.mem_map.mp hmem
  have hplain := h.plain q old hold
  rwa [heq] at hplain

/-! ## Answers -/

/-- The answer to a request has arrived. -/
structure Answered (r : RequestId) (s u : Controller) : Prop extends Keeps s u where
  waits : u.waits r = none
  others : ∀ r', r' ≠ r → u.waits r' = s.waits r'
  exported : u.exportedJobs = s.exportedJobs
  jobs : u.jobs = s.jobs
  log : u.log = s.log

/-- A job has been listed. -/
structure Listed (job : Job) (s u : Controller) : Prop extends Keeps s u where
  waits : ∀ r, u.waits r = s.waits r
  exported : ∀ e ∈ u.exportedJobs, e ∈ s.exportedJobs ∨ e = (job.ptr, job.id)
  jobs : u.jobs = s.jobs ++ [job]
  log : u.log = s.log ++ [.jobNew job]

lemma Answered.idles (f : Answered r s s') (hr : s.purpose r = none) : Idles t s s' := by
  refine ⟨f.toKeeps, fun r' => ?_, fun r' _ _ => ?_, fun e he => f.exported ▸ he, ?_, [],
    by rw [f.log, List.append_nil], by simp⟩
  · by_cases hr' : r' = r
    · exact Or.inl (hr' ▸ f.waits)
    · exact Or.inr (f.others r' hr')
  · by_cases hr' : r' = r
    · rw [hr', f.waits, waits_of_purpose hr]
    · exact f.others r' hr'
  · unfold jobIds
    rw [f.jobs]

lemma answered_erase {live : Prop} (h : Requested live [] s) (r : RequestId) :
    Answered r s { s with pendingRequests := s.pendingRequests.erase r } := by
  refine ⟨⟨le_refl _, fun _ _ => ⟨rfl, rfl⟩⟩, ?_, fun r' hr' => ?_, rfl, rfl, rfl⟩
  · have hcount := (h.ledger r).pending
    have hgone : r ∉ s.pendingRequests.erase r := by
      rw [← List.count_eq_zero, List.count_erase_self]
      omega
    unfold waits awaits
    simp [hgone]
  · apply waits_congr
    · unfold awaits
      simp [List.mem_erase_of_ne hr']
    · rfl

lemma Answered.runCallback {u : Controller} (f : Answered r s u) : Answered r s (u.runCallback r) :=
  ⟨⟨f.nextPtr, f.request⟩, f.waits, f.others, f.exported, f.jobs, f.log⟩

lemma listed_addJob {job : Job} (hfree : ∀ e ∈ s.exportedJobs, e.2 ≠ job.id) :
    ∃ u, s.addJob job = (true, u) ∧ Listed job s u := by
  have hpath : ¬s.jobPathTaken job = true := by
    simp only [jobPathTaken, List.any_eq_true, decide_eq_true_eq]
    rintro ⟨e, he, heq⟩
    exact hfree e he heq
  refine ⟨_, if_neg hpath, ⟨⟨le_refl _, fun _ _ => ⟨rfl, rfl⟩⟩, fun _ => rfl, fun e he => ?_, rfl, rfl⟩⟩
  exact (List.mem_append.mp he).imp id List.mem_singleton.mp

section

variable {live : Prop} {m : AgentAnswer} (h : Requested live [] s)
  (hstep : s.agentRequestCallback r m = some s')

include h hstep

/-- The answer to a request that is for no job. -/
lemma idles_agentReply (hr : s.purpose r = none) : Idles t s s' := by
  have herase : Idles t s { s with pendingRequests := s.pendingRequests.erase r } :=
    (answered_erase h r).idles hr
  have hcallback : Idles t s
      (({ s with pendingRequests := s.pendingRequests.erase r }.runCallback r).requestCallback r m) := by
    have hrun : Idles t { s with pendingRequests := s.pendingRequests.erase r }
        ({ s with pendingRequests := s.pendingRequests.erase r }.runCallback r) :=
      .silent (le_refl _) rfl rfl rfl rfl rfl
    apply (herase.trans hrun).trans
    unfold purpose at hr
    unfold requestCallback
    split
    · simp_all
    · simp_all
    · exact .emit _ (Output.aside_of_answers rfl)
    · exact .emit _ (Output.aside_of_answers rfl)
    · exact .refl t _
    · rename_i q _
      unfold agentFleetRequestCallback
      apply (Idles.modifyFleet _ q _).trans
      apply Idles.agentFleetRequestMaybeDone
      intro sub hsub
      rw [modifyFleet_fleet, Function.update_self] at hsub
      exact h.plain_answer q r _ sub hsub
  unfold agentRequestCallback at hstep
  split at hstep
  · rw [← Option.some.inj hstep]
    split
    · apply herase.trans
      apply Idles.agentRequestUnref
      exact waits_of_purpose hr
    · apply hcallback.trans
      apply Idles.agentRequestUnref
      have hlt : r < s.nextPtr := by
        by_contra hnew
        rename_i hin _
        exact (h.unused r (not_lt.mp hnew)).pending hin
      exact waits_of_purpose ((hcallback.toKeeps.purpose hlt).trans hr)
  · cases hstep

end

section

variable {m : AgentAnswer} (h : Requested True [] s) (hstep : s.agentRequestCallback r m = some s')

include h hstep

/-- A request that an answer is taken for was waited for, and its callback runs. -/
lemma agentReply_eq : s.awaits r = true ∧
    s' = ((({ s with pendingRequests := s.pendingRequests.erase r }.runCallback r).requestCallback
      r m).agentRequestUnref r .pending) := by
  unfold agentRequestCallback at hstep
  split at hstep
  · rename_i hin
    have halive := (h.ledger r).alive trivial hin
    rw [← Option.some.inj hstep]
    refine ⟨by simp [awaits, hin, halive], ?_⟩
    dsimp only
    rw [if_neg (by simp [halive])]
  · cases hstep

/-- A lifecycle call has failed. -/
lemma refused_agentReply {serial : Serial} {job : Job} {message : String}
    (hhandler : (s.request r).handler = .lifecycle serial job) (hm : m = .error message) :
    s.awaits r = true ∧ ∃ u, Answered r s u ∧ Idles t u s' := by
  obtain ⟨hawaits, heq⟩ := agentReply_eq h hstep
  have hanswered := (answered_erase h r).runCallback
  refine ⟨hawaits, _, hanswered, ?_⟩
  have hcallback : Idles t ({ s with pendingRequests := s.pendingRequests.erase r }.runCallback r)
      (({ s with pendingRequests := s.pendingRequests.erase r }.runCallback r).requestCallback r m) := by
    unfold requestCallback
    rw [show ((({ s with pendingRequests := s.pendingRequests.erase r } : Controller).runCallback
      r).request r).handler = .lifecycle serial job from hhandler, hm]
    exact .emit _ (Output.aside_of_answers rfl)
  rw [heq]
  apply hcallback.trans
  apply Idles.agentRequestUnref
  rcases hcallback.waits r with hnone | hsame
  · exact hnone
  · exact hsame.trans hanswered.waits

/-- A lifecycle call has succeeded, and the path of its job is free. -/
lemma listed_agentReply {serial : Serial} {job : Job} {rows : List String}
    (hhandler : (s.request r).handler = .lifecycle serial job) (hm : m = .ok rows)
    (hfree : ∀ e ∈ s.exportedJobs, e.2 ≠ job.id) :
    s.awaits r = true ∧ ∃ u v, Answered r s u ∧ Listed job u v ∧ Idles t v s' := by
  obtain ⟨hawaits, heq⟩ := agentReply_eq h hstep
  have hanswered := (answered_erase h r).runCallback
  obtain ⟨v, hadd, hlisted⟩ :=
    @listed_addJob ({ s with pendingRequests := s.pendingRequests.erase r }.runCallback r) job hfree
  refine ⟨hawaits, _, v, hanswered, hlisted, ?_⟩
  have hcallback : Idles t v
      (({ s with pendingRequests := s.pendingRequests.erase r }.runCallback r).requestCallback r m) := by
    unfold requestCallback
    rw [show ((({ s with pendingRequests := s.pendingRequests.erase r } : Controller).runCallback
      r).request r).handler = .lifecycle serial job from hhandler, hm]
    dsimp only
    rw [hadd]
    exact .emit _ (Output.aside_of_answers rfl)
  rw [heq]
  apply hcallback.trans
  apply Idles.agentRequestUnref
  rcases hcallback.waits r with hnone | hsame
  · exact hnone
  · exact hsame.trans ((hlisted.waits r).trans hanswered.waits)

end

/-! ## Lifecycle calls -/

/-- A call for the job with id `k` has been sent to node `n`. -/
structure Asked (n : NodeId) (r : RequestId) (k : UInt32) (s u : Controller) : Prop extends
    Keeps s u where
  fresh : s.nextPtr ≤ r ∧ r < u.nextPtr
  lifecycle : ∃ serial job, u.request r = ⟨n, .lifecycle serial job, false⟩ ∧ job.node = n
  waits : u.waits r = some k
  others : ∀ r', r' ≠ r → u.waits r' = s.waits r'
  exported : u.exportedJobs = s.exportedJobs
  jobs : u.jobs = s.jobs
  log : ∃ bus method unit mode, (s.node n).agentBus = some bus ∧
    u.log = s.log ++ [.toAgent bus n (.lifecycle r method unit mode k)]

lemma idles_jobNew (s : Controller) (n : NodeId) (unit type : String) (startTime : UInt64) :
    Idles t s (s.jobNew n unit type startTime).2 :=
  .silent (Nat.le_succ _) rfl rfl rfl rfl rfl

/-- What is waited for after a request has been made that is not waited for yet. -/
lemma waits_nodeCreateRequest (hnew : s.nextPtr ∉ s.pendingRequests) (n : NodeId)
    (handler : RequestHandler) :
    (s.nodeCreateRequest n handler).waits s.nextPtr = none ∧
      ∀ r, r ≠ s.nextPtr → (s.nodeCreateRequest n handler).waits r = s.waits r := by
  refine ⟨?_, fun r hr => ?_⟩
  · unfold waits awaits
    rw [nodeCreateRequest_pendingRequests]
    simp [hnew]
  · have hold : (s.nodeCreateRequest n handler).request r = s.request r := by
      rw [nodeCreateRequest_request, Function.update_of_ne hr]
    apply waits_congr
    · unfold awaits
      rw [hold]
      rfl
    · rw [hold]

/-- The call cannot be sent. -/
lemma idles_runRequest_failed (hnew : s.nextPtr ∉ s.pendingRequests) (n : NodeId) (serial : Serial)
    (handler : RequestHandler) (call : RequestId → AgentCall) (failure : String) :
    Idles t s (s.runRequest n serial handler call false failure) := by
  have ⟨hself, hothers⟩ := waits_nodeCreateRequest hnew n handler
  have hcreate : Idles t s (s.nodeCreateRequest n handler) := by
    refine .of_pending (Nat.le_succ _) (fun r hr => ?_) (fun r => ?_)
      (fun r hr => hothers r (Nat.ne_of_lt hr)) rfl rfl rfl
    · rw [nodeCreateRequest_request, Function.update_of_ne (Nat.ne_of_lt hr)]
      exact ⟨rfl, rfl⟩
    · by_cases hr : r = s.nextPtr
      · exact Or.inl (hr ▸ hself)
      · exact Or.inr (hothers r hr)
  unfold runRequest
  dsimp only
  rw [if_neg Bool.false_ne_true]
  have hreply : Idles t (s.nodeCreateRequest n handler)
      ((s.nodeCreateRequest n handler).emit (.replyError serial failure)) :=
    .emit _ (Output.aside_of_answers
      (show (Output.replyError serial failure).answers = some serial from rfl))
  apply (hcreate.trans hreply).trans
  apply Idles.agentRequestUnref
  exact hself

/-- A request is started that only its maker holds, and the maker gives it up. -/
lemma keeps_start {r : RequestId} (hcount : (s.refs (.request r)).count = 1) {bus : BusId}
    (hbus : (s.node (s.request r).node).agentBus = some bus) (call : AgentCall) :
    ((s.agentRequestStart r call).agentRequestUnref r .creator).exportedJobs = s.exportedJobs ∧
      ((s.agentRequestStart r call).agentRequestUnref r .creator).jobs = s.jobs ∧
      ((s.agentRequestStart r call).agentRequestUnref r .creator).log =
        s.log ++ [.toAgent bus (s.request r).node call] := by
  have hsend : s.sendAgent (s.request r).node call = s.emit (.toAgent bus (s.request r).node call) := by
    unfold Controller.sendAgent
    rw [hbus]
  have hheld : ((s.agentRequestStart r call).refs (.request r)).count = 2 := by
    unfold agentRequestStart
    rw [hsend]
    simp [takeRef, hcount]
  rw [agentRequestUnref_of_held (by omega)]
  unfold agentRequestStart
  rw [hsend]
  exact ⟨rfl, rfl, rfl⟩

/-- The call is sent. -/
lemma asked_runRequest (s : Controller) {n : NodeId} {bus : BusId} (hbus : (s.node n).agentBus = some bus)
    (serial : Serial) {job : Job} (hnode : job.node = n) (method : LifecycleMethod)
    (unit mode failure : String) :
    Asked n s.nextPtr job.id s (s.runRequest n serial (.lifecycle serial job)
      (fun r => .lifecycle r method unit mode job.id) true failure) := by
  have hasks := asks_runRequest (s := s) n serial (.lifecycle serial job)
    (fun r => .lifecycle r method unit mode job.id) failure
  have hrest : (s.runRequest n serial (.lifecycle serial job)
      (fun r => .lifecycle r method unit mode job.id) true failure).exportedJobs = s.exportedJobs ∧
      (s.runRequest n serial (.lifecycle serial job)
        (fun r => .lifecycle r method unit mode job.id) true failure).jobs = s.jobs ∧
      (s.runRequest n serial (.lifecycle serial job)
        (fun r => .lifecycle r method unit mode job.id) true failure).log =
        s.log ++ [.toAgent bus n (.lifecycle s.nextPtr method unit mode job.id)] := by
    have hcreated : (((s.nodeCreateRequest n (.lifecycle serial job)).refs (.request s.nextPtr)).count =
        1) := by
      simp [nodeCreateRequest, newRef, takeRef]
    have hnode : ((s.nodeCreateRequest n (.lifecycle serial job)).request s.nextPtr).node = n := by
      rw [nodeCreateRequest_request, Function.update_self]
    have hbus' : ((s.nodeCreateRequest n (.lifecycle serial job)).node
        ((s.nodeCreateRequest n (.lifecycle serial job)).request s.nextPtr).node).agentBus = some bus := by
      rw [hnode, ← hbus]
      simp [nodeCreateRequest, modifyNode]
    have hkeeps := keeps_start hcreated hbus' (.lifecycle s.nextPtr method unit mode job.id)
    rw [hnode] at hkeeps
    exact hkeeps
  generalize s.runRequest n serial (.lifecycle serial job)
    (fun r => .lifecycle r method unit mode job.id) true failure = u at hasks hrest
  have hself : u.request s.nextPtr = ⟨n, .lifecycle serial job, false⟩ := by
    rw [hasks.request, nodeCreateRequest_request, Function.update_self]
  have hothers : ∀ r, r ≠ s.nextPtr → u.request r = s.request r := by
    intro r hr
    rw [hasks.request, nodeCreateRequest_request, Function.update_of_ne hr]
  refine ⟨⟨hasks.nextPtr.le, fun r hr => ?_⟩, ⟨le_refl _, hasks.nextPtr⟩,
    ⟨serial, job, hself, hnode⟩,
    waits_eq_some_iff.mpr ⟨?_, ?_⟩, fun r hr => ?_, hrest.1, hrest.2.1, bus, method, unit, mode, hbus,
    hrest.2.2⟩
  · rw [hothers r (Nat.ne_of_lt hr)]
    exact ⟨rfl, rfl⟩
  · unfold awaits
    rw [hasks.pending, hself]
    simp
  · unfold purpose
    rw [hself]
  · apply waits_congr
    · unfold awaits
      rw [hasks.pending, hothers r hr]
      simp [hr]
    · rw [hothers r hr]

end Controller
end BlueChi
