import BlueChi.Controller.Callbacks
import BlueChi.Controller.Stopping
import BlueChi.Controller.Runs
import BlueChi.Controller.NodeEvents

/-!
# Replies to the callers of nodes and jobs

Every call of a method of the node or the job interface is answered once: at once, or when the agent
has answered the request that was made for it, or when the controller stops. A call of `SetLogLevel`
with a level that does not exist is answered twice.
-/

namespace BlueChi

open Execution

namespace Controller

variable {call : Serial} {gap : ℤ} {s s' t : Controller}

/-! ## Requests that wait for the agent -/

/-- The callback will reply to the call. -/
def calledBy (call : Serial) (handler : RequestHandler) : Bool :=
  RequestHandler.caller handler = some call

/-- The requests for a call whose answers are outstanding. -/
def awaited (s : Controller) (call : Serial) : List RequestId :=
  s.pendingRequests.filter (isMine (calledBy call) s)

/-- A request whose answer is outstanding is listed by its node, and the call alone holds it. -/
structure Outstanding (call : Serial) (s : Controller) : Prop where
  nodup : (s.awaited call).Nodup
  used : ∀ r ∈ s.awaited call, (s.request r).node < s.nextPtr
  filed : ∀ r ∈ s.awaited call, r ∈ (s.node (s.request r).node).outstandingRequests
  count : ∀ r ∈ s.awaited call, (s.refs (.request r)).count = 1
  alive : ∀ r ∈ s.awaited call, (s.request r).isCancelled = false
  listed : ∀ n, ∀ r ∈ (s.node n).outstandingRequests, isMine (calledBy call) s r = true →
    r ∈ s.awaited call ∧ (s.request r).node = n
  single : ∀ n, ((s.node n).outstandingRequests.filter (isMine (calledBy call) s)).Nodup

/-- The request of the call has been answered, and so has the call. -/
structure Answers (call : Serial) (r : RequestId) (s s' : Controller) : Prop where
  awaited : s'.awaited call = (s.awaited call).erase r
  outstanding : ∀ n, (s'.node n).outstandingRequests.filter (isMine (calledBy call) s') =
      ((s.node n).outstandingRequests.filter (isMine (calledBy call) s)).erase r ∨
    s.nextPtr ≤ n ∧ (s'.node n).outstandingRequests.filter (isMine (calledBy call) s') = []
  request : ∀ r', r' ≠ r → s'.request r' = s.request r'
  handler : ∀ r', (s'.request r').handler = (s.request r').handler
  refs : ∀ r', r' ≠ r → s'.refs (.request r') = s.refs (.request r')
  nextPtr : s.nextPtr ≤ s'.nextPtr
  replies : ∃ o, s'.repliesTo call = s.repliesTo call ++ [o]

namespace Outstanding

lemma mem_awaited {r : RequestId} :
    r ∈ s.awaited call ↔ r ∈ s.pendingRequests ∧ isMine (calledBy call) s r = true :=
  List.mem_filter

/-- What leaves the requests of the call alone. -/
lemma of_ignores (h : Outstanding call s) (hs : Orderly (calledBy call) call s)
    (f : Ignores (calledBy call) call s s') : Outstanding call s' := by
  have hpending : s'.awaited call = s.awaited call := f.pending
  have hold : ∀ {r}, r ∈ s'.awaited call → r ∈ s.awaited call ∧ s'.request r = s.request r := by
    intro r hr
    rw [hpending] at hr
    have ⟨hin, hm⟩ := mem_awaited.mp hr
    exact ⟨hr, f.request r (hs.pending r hin) hm⟩
  have hout : ∀ {n r}, r ∈ (s'.node n).outstandingRequests.filter (isMine (calledBy call) s') →
      r ∈ (s.node n).outstandingRequests.filter (isMine (calledBy call) s) := by
    intro n r hr
    apply (f.outstanding n).elim
    · intro heq
      rw [heq] at hr
      exact hr
    · intro hnew
      rw [hnew.2] at hr
      simp at hr
  refine ⟨hpending ▸ h.nodup, fun r hr => ?_, fun r hr => ?_, fun r hr => ?_, fun r hr => ?_,
    fun n r hr hm => ?_, fun n => ?_⟩
  · have ⟨hr', heq⟩ := hold hr
    rw [heq]
    exact lt_of_lt_of_le (h.used r hr') f.nextPtr
  · have ⟨hr', heq⟩ := hold hr
    rw [heq]
    have hmem : r ∈ (s.node (s.request r).node).outstandingRequests.filter
        (isMine (calledBy call) s) :=
      List.mem_filter.mpr ⟨h.filed r hr', (mem_awaited.mp hr').2⟩
    have hused := h.used r hr'
    apply (f.outstanding (s.request r).node).elim
    · intro hsame
      rw [← hsame] at hmem
      exact (List.mem_filter.mp hmem).1
    · intro hnew
      exact absurd hnew.1 (not_le.mpr hused)
  · have ⟨hr', _⟩ := hold hr
    have ⟨hin, hm⟩ := mem_awaited.mp hr'
    rw [f.refs r (hs.pending r hin) hm]
    exact h.count r hr'
  · have ⟨hr', heq⟩ := hold hr
    rw [heq]
    exact h.alive r hr'
  · have ⟨hin, hm'⟩ := List.mem_filter.mp (hout (List.mem_filter.mpr ⟨hr, hm⟩))
    have ⟨hawaited, hnode⟩ := h.listed n r hin hm'
    rw [hpending, f.request r (hs.outstanding n r hin) hm']
    exact ⟨hawaited, hnode⟩
  · apply (f.outstanding n).elim
    · intro heq
      rw [heq]
      exact h.single n
    · intro hnew
      rw [hnew.2]
      exact List.nodup_nil

/-- After an answer the other requests still wait. -/
lemma of_answers (h : Outstanding call s) {r : RequestId} (f : Answers call r s s') :
    Outstanding call s' := by
  have hold : ∀ {r'}, r' ∈ s'.awaited call → r' ≠ r ∧ r' ∈ s.awaited call := by
    intro r' hr'
    rw [f.awaited] at hr'
    exact (h.nodup.mem_erase_iff).mp hr'
  have hmine : isMine (calledBy call) s' = isMine (calledBy call) s := by
    funext r'
    unfold isMine
    rw [f.handler]
  have hout : ∀ {n r'}, r' ∈ (s'.node n).outstandingRequests.filter (isMine (calledBy call) s') →
      r' ≠ r ∧ r' ∈ (s.node n).outstandingRequests.filter (isMine (calledBy call) s) := by
    intro n r' hr'
    apply (f.outstanding n).elim
    · intro heq
      rw [heq] at hr'
      exact ((h.single n).mem_erase_iff).mp hr'
    · intro hnew
      rw [hnew.2] at hr'
      simp at hr'
  refine ⟨f.awaited ▸ h.nodup.erase r, fun r' hr' => ?_, fun r' hr' => ?_, fun r' hr' => ?_,
    fun r' hr' => ?_, fun n r' hr' hm => ?_, fun n => ?_⟩
  · have ⟨hne, hin⟩ := hold hr'
    rw [f.request r' hne]
    exact lt_of_lt_of_le (h.used r' hin) f.nextPtr
  · have ⟨hne, hin⟩ := hold hr'
    rw [f.request r' hne]
    have hmem : r' ∈ ((s.node (s.request r').node).outstandingRequests.filter
        (isMine (calledBy call) s)).erase r := by
      rw [(h.single _).mem_erase_iff]
      exact ⟨hne, List.mem_filter.mpr ⟨h.filed r' hin, (mem_awaited.mp hin).2⟩⟩
    have hused := h.used r' hin
    apply (f.outstanding (s.request r').node).elim
    · intro hsame
      rw [← hsame] at hmem
      exact (List.mem_filter.mp hmem).1
    · intro hnew
      exact absurd hnew.1 (not_le.mpr hused)
  · have ⟨hne, hin⟩ := hold hr'
    rw [f.refs r' hne]
    exact h.count r' hin
  · have ⟨hne, hin⟩ := hold hr'
    rw [f.request r' hne]
    exact h.alive r' hin
  · have ⟨hne, hin⟩ := hout (List.mem_filter.mpr ⟨hr', hm⟩)
    have ⟨hin, hm'⟩ := List.mem_filter.mp hin
    have ⟨hawaited, hnode⟩ := h.listed n r' hin hm'
    rw [f.awaited, h.nodup.mem_erase_iff, f.request r' hne]
    exact ⟨⟨hne, hawaited⟩, hnode⟩
  · apply (f.outstanding n).elim
    · intro heq
      rw [heq]
      exact (h.single n).erase r
    · intro hnew
      rw [hnew.2]
      exact List.nodup_nil

end Outstanding

/-! ## Answers -/

/-- The callback has replied, and the call drops the last reference of the request. -/
lemma answers_agentRequestUnref (h : Outstanding call s) {r : RequestId} (hr : r ∈ s.awaited call)
    (hpending : t.pendingRequests = s.pendingRequests ∨
      t.pendingRequests = s.pendingRequests.erase r)
    (hrequest : ∀ r', r' ≠ r → t.request r' = s.request r')
    (hhandler : ∀ r', (t.request r').handler = (s.request r').handler)
    (hnode : (t.request r).node = (s.request r).node)
    (hout : ∀ n, (t.node n).outstandingRequests = (s.node n).outstandingRequests ∨
      s.nextPtr ≤ n ∧ (t.node n).outstandingRequests = [])
    (hrefs : ∀ r', t.refs (.request r') = s.refs (.request r')) (hptr : s.nextPtr ≤ t.nextPtr)
    (hreplies : ∃ o, t.repliesTo call = s.repliesTo call ++ [o]) :
    Answers call r s (t.agentRequestUnref r .pending) := by
  have hcount : (t.refs (.request r)).count = 1 := by
    rw [hrefs]
    exact h.count r hr
  have f := agentRequestUnref_of_last hcount .pending
  have hmine : isMine (calledBy call) (t.agentRequestUnref r .pending) =
      isMine (calledBy call) s := by
    funext r'
    unfold isMine
    rw [f.request, hhandler]
  refine ⟨?_, fun n => ?_, fun r' hr' => ?_, fun r' => ?_, fun r' hr' => ?_,
    hptr.trans f.nextPtr, ?_⟩
  · unfold awaited
    rw [f.pending, hmine, ← List.erase_filter]
    apply hpending.elim
    · intro heq
      rw [heq]
    · intro heq
      -- the answer had taken the request off the list already
      rw [heq, ← List.erase_filter]
      exact List.erase_of_not_mem (h.nodup.not_mem_erase)
  · rw [hmine]
    apply (f.outstanding n).elim
    · intro heq
      rw [heq, hnode]
      apply (hout n).imp
      · intro heq'
        rw [heq']
        split
        · exact List.erase_filter.symm
        · rename_i hn
          rw [List.erase_of_not_mem]
          intro hin
          have ⟨hin, hm⟩ := List.mem_filter.mp hin
          exact hn (h.listed n r hin hm).2.symm
      · intro hnew
        rw [hnew.2]
        refine ⟨hnew.1, ?_⟩
        split
        · rfl
        · rfl
    · intro hnew
      rw [hnew.2]
      exact Or.inr ⟨hptr.trans hnew.1, rfl⟩
  · rw [f.request]
    exact hrequest r' hr'
  · rw [f.request]
    exact hhandler r'
  · rw [f.refs r' hr', hrefs]
  · rw [f.replies]
    exact hreplies

/-- The callback of a request of the call replies to it. -/
lemma requestCallback_calledBy {r : RequestId} (hmine : isMine (calledBy call) s r = true)
    {m : AgentAnswer} (hfree : ∀ rows serial job, m = .ok rows →
      (s.request r).handler = .lifecycle serial job → s.jobPathTaken job = false) :
    SameDesk (fun serial => serial = call) s (s.requestCallback r m) ∧
      ∃ o, (s.requestCallback r m).repliesTo call = s.repliesTo call ++ [o] := by
  have hreply : ∀ {t : Controller} {o : Output}, o.answers = some call →
      SameDesk (fun serial => serial = call) t (t.emit o) ∧
        (t.emit o).repliesTo call = t.repliesTo call ++ [o] := by
    intro t o ho
    refine ⟨SameDesk.emit t fun serial heq => ?_, ?_⟩
    · rw [ho, Option.some.injEq] at heq
      exact heq.symm
    · rw [repliesTo_emit, if_pos ho]
  unfold isMine calledBy at hmine
  have hcaller := of_decide_eq_true hmine
  unfold Controller.requestCallback
  match hhandler : (s.request r).handler, m with
  | .lifecycle serial job, .error message =>
    rw [hhandler] at hcaller
    have ⟨hdesk, heq⟩ := hreply (t := s) (o := .replyError serial message) hcaller
    exact ⟨hdesk, _, heq⟩
  | .lifecycle serial job, .ok rows =>
    rw [hhandler] at hcaller
    have hfree' := hfree rows serial job rfl hhandler
    have hadd : SameDesk (fun _ => False) s (s.addJob job).2 := SameDesk.addJob s job
    have hadd' : SameDesk (fun serial => serial = call) s (s.addJob job).2 :=
      SameDesk.addJob s job
    have hok : s.addJob job = (true, (s.addJob job).2) := by
      unfold Controller.addJob
      rw [hfree']
      rfl
    dsimp only
    rw [hok]
    have ⟨hdesk, heq⟩ := hreply (t := (s.addJob job).2)
      (o := .reply serial (.objectPath (jobObjectPath job))) hcaller
    rw [hadd.replies call not_false] at heq
    exact ⟨hadd'.trans hdesk, _, heq⟩
  | .forward serial, .error message =>
    rw [hhandler] at hcaller
    have ⟨hdesk, heq⟩ := hreply (t := s) (o := .replyError serial message) hcaller
    exact ⟨hdesk, _, heq⟩
  | .forward serial, .ok rows =>
    rw [hhandler] at hcaller
    have ⟨hdesk, heq⟩ := hreply (t := s) (o := .reply serial (.rows rows)) hcaller
    exact ⟨hdesk, _, heq⟩
  | .jobCancel serial, m =>
    rw [hhandler] at hcaller
    simp [RequestHandler.caller] at hcaller
  | .fleet q, m =>
    rw [hhandler] at hcaller
    simp [RequestHandler.caller] at hcaller

/-- The agent answers the request of the call. -/
lemma answers_agentRequestCallback (hs : Orderly (calledBy call) call s) (h : Outstanding call s)
    {r : RequestId} {m : AgentAnswer} (hmine : isMine (calledBy call) s r = true)
    (hfree : ∀ rows serial job, m = .ok rows →
      (s.request r).handler = .lifecycle serial job → s.jobPathTaken job = false)
    (hstep : s.agentRequestCallback r m = some s') :
    Orderly (calledBy call) call s' ∧ Answers call r s s' ∧ r ∈ s.awaited call := by
  unfold Controller.agentRequestCallback at hstep
  split at hstep
  · rename_i hpending
    have hr : r ∈ s.awaited call := Outstanding.mem_awaited.mpr ⟨hpending, hmine⟩
    rw [Option.some.injEq] at hstep
    dsimp only at hstep
    rw [h.alive r hr] at hstep
    have hmine' : isMine (calledBy call)
        (runCallback { s with pendingRequests := s.pendingRequests.erase r } r) r = true := hmine
    have ⟨hdesk, o, ho⟩ := requestCallback_calledBy hmine' hfree
    have horderly : Orderly (calledBy call) call
        (runCallback { s with pendingRequests := s.pendingRequests.erase r } r) :=
      hs.of_listed (le_refl _) (fun _ => List.mem_of_mem_erase) (fun _ _ => id) (fun _ => rfl) rfl
    rw [← hstep, if_neg Bool.false_ne_true]
    refine ⟨(horderly.of_desk hdesk).of_frees (agentRequestUnref_of_last ?_ _),
      answers_agentRequestUnref h hr (Or.inr hdesk.pending)
        (fun r' _ => congrFun hdesk.request r') (fun r' => by rw [hdesk.request]; rfl)
        (by rw [hdesk.request]; rfl) hdesk.outstanding hdesk.refs hdesk.nextPtr ⟨o, ho⟩, hr⟩
    rw [hdesk.refs]
    exact h.count r hr
  · simp at hstep

/-- The request of the call is cancelled. -/
lemma answers_agentRequestCancel (hs : Orderly (calledBy call) call s) (h : Outstanding call s)
    {r : RequestId} (hr : r ∈ s.awaited call) :
    Orderly (calledBy call) call (s.agentRequestCancel r) ∧
      Answers call r s (s.agentRequestCancel r) := by
  have hmine := (Outstanding.mem_awaited.mp hr).2
  generalize hmarked : (s.modifyRequest r fun req => { req with isCancelled := true }).runCallback r
    = marked
  have hrequest : ∀ r', r' ≠ r → marked.request r' = s.request r' := fun r' hr' => by
    rw [← hmarked]
    simp [hr']
  have hown : marked.request r = { s.request r with isCancelled := true } := by
    rw [← hmarked]
    simp
  have hhandler : ∀ r', (marked.request r').handler = (s.request r').handler := by
    intro r'
    by_cases hr' : r' = r
    · rw [hr', hown]
    · rw [hrequest r' hr']
  have hmine' : isMine (calledBy call) marked r = true := by
    unfold isMine
    rw [hhandler]
    exact hmine
  have ⟨hdesk, o, ho⟩ := requestCallback_calledBy (m := .error "Request cancelled") hmine'
    fun rows _ _ heq => by simp at heq
  have horderly : Orderly (calledBy call) call marked := by
    rw [← hmarked] at hhandler ⊢
    exact hs.of_listed (le_refl _) (fun _ => id) (fun _ _ => id) hhandler rfl
  have hcancel : s.agentRequestCancel r =
      (marked.requestCallback r (.error "Request cancelled")).agentRequestUnref r .pending := by
    rw [← hmarked]
    rfl
  rw [hcancel]
  rw [← hmarked] at hdesk ho hrequest hown hhandler horderly ⊢
  refine ⟨(horderly.of_desk hdesk).of_frees (agentRequestUnref_of_last ?_ _),
    answers_agentRequestUnref h hr (Or.inl hdesk.pending)
      (fun r' hr' => by rw [hdesk.request, hrequest r' hr'])
      (fun r' => by rw [hdesk.request, hhandler]) (by rw [hdesk.request, hown]) hdesk.outstanding
      hdesk.refs hdesk.nextPtr ⟨o, ho⟩⟩
  rw [hdesk.refs]
  exact h.count r hr

/-! ## New requests -/

/-- The replies to a call and the requests that will reply to it. -/
def balance (s : Controller) (call : Serial) : ℕ :=
  (s.repliesTo call).length + (s.awaited call).length

lemma balance_of_ignores (f : Ignores (calledBy call) call s s') :
    s'.balance call = s.balance call := by
  have hpending : s'.awaited call = s.awaited call := f.pending
  unfold balance
  rw [f.replies, hpending]

lemma balance_of_answers {r : RequestId} (f : Answers call r s s') (hr : r ∈ s.awaited call) :
    s'.balance call = s.balance call := by
  have ⟨o, ho⟩ := f.replies
  have hpos := List.length_pos_of_mem hr
  unfold balance
  rw [ho, f.awaited, List.length_append, List.length_erase_of_mem hr, List.length_singleton]
  omega

/-- The call has been made: it has been answered, or a request to node `n` waits for its answer. -/
structure Enters (n : NodeId) (call : Serial) (s s' : Controller) : Prop where
  orderly : Orderly (calledBy call) call s'
  waiting : Outstanding call s'
  balance : s'.balance call = s.balance call + 1
  node : ∀ r ∈ s'.awaited call,
    r ∈ s.awaited call ∧ s'.request r = s.request r ∨ (s'.request r).node = n

namespace Enters

/-- The call is answered at once. -/
lemma reply (hs : Orderly (calledBy call) call s) (h : Outstanding call s) (n : NodeId) {o : Output}
    (ho : o.answers = some call) : Enters n call s (s.emit o) := by
  have hdesk : SameDesk (fun serial => serial = call) s (s.emit o) :=
    SameDesk.emit s fun serial heq => by
      rw [ho, Option.some.injEq] at heq
      exact heq.symm
  refine ⟨hs.of_desk hdesk, ⟨h.nodup, h.used, h.filed, h.count, h.alive, h.listed, h.single⟩, ?_,
    fun r hr => Or.inl ⟨hr, rfl⟩⟩
  unfold Controller.balance
  rw [repliesTo_emit, if_pos ho, List.length_append, List.length_singleton]
  show _ + (s.awaited call).length = _
  omega

lemma trans_overlooks {n : NodeId} {s'' : Controller} (h : Enters n call s s')
    (f : Overlooks (calledBy call) call s' s'') : Enters n call s s'' := by
  have ⟨hs'', f⟩ := f h.orderly
  have hawaited : s''.awaited call = s'.awaited call := f.pending
  refine ⟨hs'', h.waiting.of_ignores h.orderly f, (balance_of_ignores f).trans h.balance,
    fun r hr => ?_⟩
  rw [hawaited] at hr
  have ⟨hin, hm⟩ := Outstanding.mem_awaited.mp hr
  rw [f.request r (h.orderly.pending r hin) hm]
  exact h.node r hr

end Enters

/-- What comes before the call leaves its requests alone. -/
lemma Overlooks.trans_enters {n : NodeId} {s'' : Controller}
    (f : Overlooks (calledBy call) call s s') (hs : Orderly (calledBy call) call s)
    (h : Enters n call s' s'') : Enters n call s s'' := by
  have ⟨_, f⟩ := f hs
  have hawaited : s'.awaited call = s.awaited call := f.pending
  refine ⟨h.orderly, h.waiting, h.balance.trans (by rw [balance_of_ignores f]), fun r hr => ?_⟩
  apply (h.node r hr).imp
  · intro hold
    rw [hawaited] at hold
    have ⟨hin, hm⟩ := Outstanding.mem_awaited.mp hold.1
    exact ⟨hold.1, hold.2.trans (f.request r (hs.pending r hin) hm)⟩
  · exact id

/-- The request of the call waits for its answer. -/
lemma enters_runRequest (hs : Orderly (calledBy call) call s) (h : Outstanding call s) {n : NodeId}
    (hn : n < s.nextPtr) {handler : RequestHandler}
    (hcaller : RequestHandler.caller handler = some call) (f : Asks n handler s s') :
    Enters n call s s' := by
  have hmine : isMine (calledBy call) s' s.nextPtr = true := by
    unfold isMine
    rw [f.request, nodeCreateRequest_request_new]
    exact decide_eq_true hcaller
  have hfun : isMine (calledBy call) s' = isMine (calledBy call) (s.nodeCreateRequest n handler) := by
    funext r
    unfold isMine
    rw [f.request]
  have hawaited : s'.awaited call = s.awaited call ++ [s.nextPtr] := by
    unfold awaited
    rw [f.pending, List.filter_append, List.filter_cons_of_pos hmine, List.filter_nil, hfun,
      filter_isMine_nodeCreateRequest n handler hs.pending]
  have hfresh : s.nextPtr ∉ s.awaited call := fun hin =>
    Nat.lt_irrefl _ (hs.pending _ (Outstanding.mem_awaited.mp hin).1)
  have hout : ∀ n', (s'.node n').outstandingRequests.filter (isMine (calledBy call) s') =
      (s.node n').outstandingRequests.filter (isMine (calledBy call) s) ++
        (if n' = n then [s.nextPtr] else []) ∨
      s.nextPtr ≤ n' ∧ (s'.node n').outstandingRequests = [] := by
    intro n'
    apply (f.outstanding n').imp
    · intro heq
      have hnew : (if n' = n then [s.nextPtr] else []).filter (isMine (calledBy call) s') =
          if n' = n then [s.nextPtr] else [] := by
        split
        · rw [List.filter_cons_of_pos hmine, List.filter_nil]
        · rfl
      rw [heq, List.filter_append, hnew, hfun,
        filter_isMine_nodeCreateRequest n handler (hs.outstanding n')]
    · exact id
  have hold : ∀ {r}, r ∈ s.awaited call → s'.request r = s.request r ∧ r ≠ s.nextPtr := by
    intro r hr
    have hlt := hs.pending r (Outstanding.mem_awaited.mp hr).1
    rw [f.request, nodeCreateRequest_request_of_lt n handler hlt]
    exact ⟨rfl, Nat.ne_of_lt hlt⟩
  have hnewRequest : s'.request s.nextPtr = ⟨n, handler, false⟩ := by
    rw [f.request, nodeCreateRequest_request_new]
  -- a request that waits now is the new one or waited before
  have hcases : ∀ {r}, r ∈ s'.awaited call → r ∈ s.awaited call ∨ r = s.nextPtr := by
    intro r hr
    rw [hawaited] at hr
    simpa using hr
  refine ⟨?_, ⟨?_, fun r hr => ?_, fun r hr => ?_, fun r hr => ?_, fun r hr => ?_,
    fun n' r hr hm => ?_, fun n' => ?_⟩, ?_, fun r hr => ?_⟩
  · have hcreated : Orderly (calledBy call) call (s.nodeCreateRequest n handler) :=
      hs.nodeCreateRequest n fun q hq => by
        rw [hq] at hcaller
        simp [RequestHandler.caller] at hcaller
    refine ⟨fun r hr => ?_, fun n' r hr => ?_, fun q sub hsub => ?_, fun r q hq => ?_,
      fun r q hq hm => ?_⟩
    · rw [f.pending] at hr
      apply (List.mem_append.mp hr).elim
      · intro hold
        exact lt_trans (hs.pending r hold) f.nextPtr
      · intro hnew
        rw [List.mem_singleton.mp hnew]
        exact f.nextPtr
    · apply (f.outstanding n').elim
      · intro heq
        rw [heq, ← nodeCreateRequest_outstanding] at hr
        exact lt_of_lt_of_le (hcreated.outstanding n' r hr) f.nextPtr
      · intro hfresh
        rw [hfresh.2] at hr
        simp at hr
    · rw [f.fleet] at hsub
      rw [f.request]
      have hsub' := hcreated.subs q sub hsub
      exact ⟨lt_of_lt_of_le hsub'.1 f.nextPtr, hsub'.2⟩
    · rw [f.request] at hq
      exact lt_of_lt_of_le (hcreated.fleets r q hq) f.nextPtr
    · rw [f.request] at hq
      rw [f.fleet]
      exact hcreated.apart r q hq hm
  · rw [hawaited]
    apply List.Nodup.append h.nodup (List.nodup_singleton _)
    rw [List.disjoint_singleton]
    exact hfresh
  · apply (hcases hr).elim
    · intro hr'
      rw [(hold hr').1]
      exact lt_trans (h.used r hr') f.nextPtr
    · intro heq
      rw [heq, hnewRequest]
      exact lt_trans hn f.nextPtr
  · apply (hcases hr).elim
    · intro hr'
      rw [(hold hr').1]
      apply (f.outstanding (s.request r).node).elim
      · intro heq
        rw [heq]
        exact List.mem_append_left _ (h.filed r hr')
      · intro hfresh
        exact absurd hfresh.1 (not_le.mpr (h.used r hr'))
    · intro heq
      rw [heq, hnewRequest]
      apply (f.outstanding n).elim
      · intro heq'
        rw [heq', if_pos rfl]
        simp
      · intro hfresh
        exact absurd hfresh.1 (not_le.mpr hn)
  · apply (hcases hr).elim
    · intro hr'
      rw [f.refs r (hold hr').2]
      exact h.count r hr'
    · intro heq
      rw [heq]
      exact f.count
  · apply (hcases hr).elim
    · intro hr'
      rw [(hold hr').1]
      exact h.alive r hr'
    · intro heq
      rw [heq, hnewRequest]
  · have hin := List.mem_filter.mpr ⟨hr, hm⟩
    apply (hout n').elim
    · intro heq
      rw [heq] at hin
      apply (List.mem_append.mp hin).elim
      · intro hin
        have ⟨hin, hm⟩ := List.mem_filter.mp hin
        have ⟨hr', hnode⟩ := h.listed n' r hin hm
        rw [hawaited, (hold hr').1]
        exact ⟨List.mem_append_left _ hr', hnode⟩
      · intro hnew
        split at hnew
        · rename_i hn'
          rw [List.mem_singleton.mp hnew, hawaited, hnewRequest, hn']
          exact ⟨by simp, rfl⟩
        · simp at hnew
    · intro hfresh
      rw [hfresh.2] at hr
      simp at hr
  · apply (hout n').elim
    · intro heq
      rw [heq]
      split
      · apply List.Nodup.append (h.single n') (List.nodup_singleton _)
        rw [List.disjoint_singleton]
        intro hin
        exact Nat.lt_irrefl _ (hs.outstanding n' _ (List.mem_filter.mp hin).1)
      · rw [List.append_nil]
        exact h.single n'
    · intro hfresh
      rw [hfresh.2]
      exact List.nodup_nil
  · unfold balance
    rw [f.replies, hawaited, List.length_append, List.length_singleton]
    rfl
  · apply (hcases hr).imp
    · intro hr'
      exact ⟨hr', (hold hr').1⟩
    · intro heq
      rw [heq, hnewRequest]

/-! ## Stopping -/

/-- The requests and the replies of the call, when some of the requests have been cancelled. -/
structure Cancelled (call : Serial) (keep : RequestId → Bool) (s s' : Controller) : Prop where
  orderly : Orderly (calledBy call) call s'
  waiting : Outstanding call s'
  balance : s'.balance call = s.balance call
  awaited : s'.awaited call = (s.awaited call).filter keep
  request : ∀ r ∈ s'.awaited call, s'.request r = s.request r
  nextPtr : s.nextPtr ≤ s'.nextPtr

lemma cancelled_of_ignores (hs : Orderly (calledBy call) call s) (h : Outstanding call s)
    (f : Overlooks (calledBy call) call s s') : Cancelled call (fun _ => true) s s' := by
  have ⟨hs', hignores⟩ := f hs
  have hawaited : s'.awaited call = s.awaited call := hignores.pending
  refine ⟨hs', h.of_ignores hs hignores, balance_of_ignores hignores, ?_, fun r hr => ?_,
    hignores.nextPtr⟩
  · rw [hawaited, List.filter_true]
  · rw [hawaited] at hr
    have ⟨hin, hm⟩ := Outstanding.mem_awaited.mp hr
    exact hignores.request r (hs.pending r hin) hm

lemma Cancelled.trans {keep keep' : RequestId → Bool} {s'' : Controller}
    (h : Cancelled call keep s s') (h' : Cancelled call keep' s' s'') :
    Cancelled call (fun r => keep' r && keep r) s s'' where
  orderly := h'.orderly
  waiting := h'.waiting
  balance := h'.balance.trans h.balance
  awaited := by
    rw [h'.awaited, h.awaited, List.filter_filter]
  request r hr := by
    have hr' : r ∈ s'.awaited call := by
      rw [h'.awaited] at hr
      exact (List.mem_filter.mp hr).1
    rw [h'.request r hr, h.request r hr']
  nextPtr := h.nextPtr.trans h'.nextPtr

/-- Each request of the call is cancelled once, and so answered. -/
lemma cancelled_loop (rs : List RequestId) (s : Controller)
    (hs : Orderly (calledBy call) call s) (h : Outstanding call s)
    (hrs : ∀ r ∈ rs, r < s.nextPtr ∧ (isMine (calledBy call) s r = true → r ∈ s.awaited call))
    (hnodup : (rs.filter (isMine (calledBy call) s)).Nodup) :
    Cancelled call (fun r => r ∉ rs) s (rs.foldl agentRequestCancel s) := by
  induction rs generalizing s with
  | nil =>
    refine ⟨hs, h, rfl, ?_, fun _ _ => rfl, le_refl _⟩
    simp
  | cons r rs ih =>
    have hr := hrs r List.mem_cons_self
    by_cases hmine : isMine (calledBy call) s r = true
    · have hawaited := hr.2 hmine
      have ⟨hs', f⟩ := answers_agentRequestCancel hs h hawaited
      have hfun : isMine (calledBy call) (s.agentRequestCancel r) = isMine (calledBy call) s := by
        funext r'
        unfold isMine
        rw [f.handler]
      rw [List.filter_cons_of_pos hmine] at hnodup
      have hfirst : Cancelled call (fun r' => decide (r' ≠ r)) s (s.agentRequestCancel r) := by
        refine ⟨hs', h.of_answers f, balance_of_answers f hawaited, ?_, fun r' hr' => ?_, f.nextPtr⟩
        · rw [f.awaited, h.nodup.erase_eq_filter]
          apply List.filter_congr
          intro r' _
          by_cases hr' : r' = r
          · simp [hr']
          · simp [hr']
        · rw [f.awaited, h.nodup.mem_erase_iff] at hr'
          exact f.request r' hr'.1
      have hrest := ih (s.agentRequestCancel r) hs' hfirst.waiting (fun r' hr' => by
        have hold := hrs r' (List.mem_cons_of_mem r hr')
        rw [hfun]
        refine ⟨lt_of_lt_of_le hold.1 f.nextPtr, fun hm => ?_⟩
        rw [f.awaited, h.nodup.mem_erase_iff]
        refine ⟨fun heq => ?_, hold.2 hm⟩
        exact (List.nodup_cons.mp hnodup).1 (List.mem_filter.mpr ⟨heq ▸ hr', hmine⟩))
        (by rw [hfun]; exact (List.nodup_cons.mp hnodup).2)
      have hall := hfirst.trans hrest
      refine ⟨hall.orderly, hall.waiting, hall.balance, ?_, hall.request, hall.nextPtr⟩
      rw [List.foldl_cons, hall.awaited]
      apply List.filter_congr
      intro r' _
      by_cases hr' : r' = r
      · simp [hr']
      · simp [hr']
    · have hmine' : isMine (calledBy call) s r = false := by simpa using hmine
      have hcancel : Overlooks (calledBy call) call s (s.agentRequestCancel r) :=
        Overlooks.agentRequestCancel (fun handler hcaller => decide_eq_true hcaller) hr.1 hmine'
      have hfirst := cancelled_of_ignores hs h hcancel
      have ⟨_, f⟩ := hcancel hs
      have hawaited : (s.agentRequestCancel r).awaited call = s.awaited call := f.pending
      rw [List.filter_cons_of_neg hmine] at hnodup
      have hrest := ih (s.agentRequestCancel r) hfirst.orderly hfirst.waiting (fun r' hr' => by
        have hold := hrs r' (List.mem_cons_of_mem r hr')
        rw [f.isMine_eq hold.1, hawaited]
        exact ⟨lt_of_lt_of_le hold.1 f.nextPtr, hold.2⟩)
        (by
          rw [List.filter_congr fun r' hr' =>
            f.isMine_eq (hrs r' (List.mem_cons_of_mem r hr')).1]
          exact hnodup)
      have hall := hfirst.trans hrest
      refine ⟨hall.orderly, hall.waiting, hall.balance, ?_, hall.request, hall.nextPtr⟩
      rw [List.foldl_cons, hall.awaited]
      apply List.filter_congr
      intro r' hr'
      have hne : r' ≠ r := fun heq => hmine (heq ▸ (Outstanding.mem_awaited.mp hr').2)
      simp [hne]

lemma Cancelled.congr {keep keep' : RequestId → Bool} (h : Cancelled call keep s s')
    (hkeep : ∀ r ∈ s.awaited call, keep r = keep' r) : Cancelled call keep' s s' :=
  ⟨h.orderly, h.waiting, h.balance, h.awaited.trans (List.filter_congr hkeep), h.request, h.nextPtr⟩

/-- The requests to an online node that is removed are cancelled. -/
lemma cancelled_removeNode (hs : Orderly (calledBy call) call s) (h : Outstanding call s)
    (n : NodeId) :
    Cancelled call (fun r => !(nodeIsOnline (s.node n) && (s.request r).node = n)) s
      (s.removeNode n) := by
  have hunlist : Overlooks (calledBy call) call s (s.unlistNode n) := by
    unfold unlistNode
    split
    · exact .of_registry ⟨rfl, fun _ => timesFreed_listRemove s _ _ _⟩
    · exact .of_registry ⟨rfl, fun _ => timesFreed_listRemove s _ _ _⟩
  have hrelease : ∀ t : Controller, Overlooks (calledBy call) call t (t.nodeUnref n .creator) :=
    fun t => .of_silent (SameDesk.proxies.nodeUnrefFuel _ _ n
      (SameDesk.dropRef t (fun _ => Obj.noConfusion) _))
  have hfirst := cancelled_of_ignores hs h hunlist
  have hnode : (s.unlistNode n).node n = s.node n := by
    unfold unlistNode
    split
    · rfl
    · rfl
  have hrequest : (s.unlistNode n).request = s.request := by
    unfold unlistNode
    split
    · rfl
    · rfl
  unfold Controller.removeNode
  dsimp only
  rw [hnode]
  split
  · rename_i honline
    -- the node is shut down: its requests are cancelled one after the other
    have hmark : Overlooks (calledBy call) call (s.unlistNode n)
        ((s.unlistNode n).modifyNode n fun node => { node with isShutdown := true }) :=
      .of_silent (SameDesk.modifyNode _ n _ rfl rfl)
    have hmarked := cancelled_of_ignores hfirst.orderly hfirst.waiting hmark
    have hbefore := hfirst.trans hmarked
    generalize hu : (s.unlistNode n).modifyNode n (fun node => { node with isShutdown := true }) = u
    rw [hu] at hbefore
    have hout : (u.node n).outstandingRequests = (s.node n).outstandingRequests := by
      rw [← hu, modifyNode_node, Function.update_self, hnode]
    have hreq : u.request = s.request := by
      rw [← hu, ← hrequest]
      rfl
    have hloop := cancelled_loop (u.node n).outstandingRequests u hbefore.orderly hbefore.waiting
      (fun r hr => ⟨hbefore.orderly.outstanding n r hr,
        fun hm => (hbefore.waiting.listed n r hr hm).1⟩) (hbefore.waiting.single n)
    have hdec : Overlooks (calledBy call) call
        ((u.node n).outstandingRequests.foldl agentRequestCancel u)
        ((u.node n).outstandingRequests.foldl agentRequestCancel u).decOnline :=
      .of_registry ⟨rfl, fun _ => rfl⟩
    have hlast := cancelled_of_ignores hloop.orderly hloop.waiting (hdec.trans (hrelease _))
    have hall := (hbefore.trans hloop).trans hlast
    have hshutdown : (s.unlistNode n).nodeShutdown n =
        (u.node n).outstandingRequests.foldl agentRequestCancel u := by
      rw [hout, ← hnode, ← hu]
      rfl
    rw [hshutdown]
    apply hall.congr
    intro r hr
    have hm := (Outstanding.mem_awaited.mp hr).2
    rw [honline, hout]
    by_cases hn : (s.request r).node = n
    · have hfiled := h.filed r hr
      rw [hn] at hfiled
      simp [hn, hfiled]
    · have hnot : r ∉ (s.node n).outstandingRequests := fun hin =>
        hn (h.listed n r hin hm).2
      simp [hn, hnot]
  · rename_i hoffline
    have hall := cancelled_of_ignores hs h (hunlist.trans (hrelease _))
    apply hall.congr
    intro r _
    simp [hoffline]

/-- While the controller stops the requests of the nodes that are left or offline still wait. -/
lemma cancelled_removeNodes (h : Consistent gap s) (hs : Orderly (calledBy call) call s)
    (hw : Outstanding call s) (sync : SyncCalls) :
    Cancelled call (fun r => !(nodeIsOnline (s.node (s.request r).node) &&
      (s.request r).node ∈ s.nodes)) s
      (s.nodes.foldl removeNode (s.stopClients sync)) := by
  have hclients : Overlooks (calledBy call) call s (s.stopClients sync) :=
    .of_silent (sameDesk_stopClients sync s)
  let left (ns : List NodeId) (r : RequestId) : Bool :=
    (s.request r).node ∈ ns ||
      !(nodeIsOnline (s.node (s.request r).node) && (s.request r).node ∈ s.nodes)
  have hround : ∀ n ns t, Removing s (n :: ns) t →
      Cancelled call (left (n :: ns)) s t ∧ (∀ k ∈ n :: ns, k ∈ s.nodes) →
      Cancelled call (left ns) s (t.removeNode n) ∧ ∀ k ∈ ns, k ∈ s.nodes := by
    intro n ns t hremoving ⟨hcancelled, hlisted⟩
    have hone := cancelled_removeNode hcancelled.orderly hcancelled.waiting n
    rw [hremoving.online] at hone
    have hkept : Cancelled call
        (fun r => !(nodeIsOnline (s.node n) && (s.request r).node = n)) t (t.removeNode n) :=
      hone.congr fun r hr => by rw [hcancelled.request r hr]
    refine ⟨(hcancelled.trans hkept).congr fun r _ => ?_,
      fun k hk => hlisted k (List.mem_cons_of_mem n hk)⟩
    have hin := hlisted n List.mem_cons_self
    have hnot := (List.nodup_cons.mp hremoving.nodup).1
    by_cases hn : (s.request r).node = n
    · simp [left, hn, hin, hnot]
    · simp [left, hn]
  have hstart : Cancelled call (left s.nodes) s (s.stopClients sync) :=
    (cancelled_of_ignores hs hw hclients).congr fun r _ => by
      by_cases hn : (s.request r).node ∈ s.nodes
      · simp [left, hn]
      · simp [left, hn]
  have ⟨_, hall, _⟩ := Removing.foldl
    (P := fun ns t => Cancelled call (left ns) s t ∧ ∀ k ∈ ns, k ∈ s.nodes) hround s.nodes _
    (removing_stopClients h sync) ⟨hstart, fun _ => id⟩
  exact hall.congr fun r _ => by simp [left]

/-- When the controller stops the requests to the nodes that are online are answered. -/
theorem cancelled_controllerStop (h : Consistent gap s) (hs : Orderly (calledBy call) call s)
    (hw : Outstanding call s) (sync : SyncCalls) :
    Cancelled call (fun r => !(nodeIsOnline (s.node (s.request r).node) &&
      (s.request r).node ∈ s.nodes)) s (s.controllerStop sync) := by
  have hnodes := cancelled_removeNodes h hs hw sync
  have hremoving := (Removing.foldl (P := fun _ _ => True) (fun _ _ _ _ _ => trivial) s.nodes _
    (removing_stopClients h sync) trivial).1
  have hanonymous : Overlooks (calledBy call) call (s.nodes.foldl removeNode (s.stopClients sync))
      ((s.nodes.foldl removeNode (s.stopClients sync)).anonymousNodes.foldl removeNode
        (s.nodes.foldl removeNode (s.stopClients sync))) :=
    .of_silent (sameDesk_stopAnonymous h hremoving)
  have hlast := hnodes.trans (cancelled_of_ignores hnodes.orderly hnodes.waiting hanonymous)
  have hmark : ∀ t : Controller, Overlooks (calledBy call) call t t.markStopped := fun t hs =>
    ⟨⟨hs.pending, hs.outstanding, hs.subs, hs.fleets, hs.apart⟩, rfl, fun _ => Or.inl rfl,
      fun _ _ _ => rfl, fun _ _ => rfl, fun _ _ _ => rfl, fun _ _ _ => rfl, fun _ _ _ => rfl,
      fun _ _ => rfl, fun _ _ => rfl, le_refl _, rfl, fun _ _ => rfl, fun _ _ _ => rfl,
      fun _ _ _ => rfl⟩
  have hstatus : ∀ t : Controller, ∀ prev, Overlooks (calledBy call) call t
      (t.checkSystemStatus prev) := fun t prev => by
    unfold Controller.checkSystemStatus
    dsimp only
    split
    · refine .of_silent (SameDesk.emit_other t ?_)
      simp [Output.kind]
    · exact Overlooks.refl t
  have hend : ∀ t : Controller, Overlooks (calledBy call) call t
      (if (s.stopClients sync).numberOfNodesOnline > 0 then
        (t.checkSystemStatus t.numberOfNodesOnline).markStopped else t.markStopped) := fun t => by
    split
    · exact (hstatus t _).trans (hmark _)
    · exact hmark t
  have hall := hlast.trans (cancelled_of_ignores hlast.orderly hlast.waiting (hend _))
  have hsame : (s.stopClients sync).nodes = s.nodes := (removing_stopClients h sync).nodes
  unfold controllerStop stopNodes
  dsimp only
  rw [hsame]
  exact hall.congr fun r _ => by simp

/-! ## The log level of a node -/

/-- `node_method_set_log_level`. The caller is told about a level that does not exist, and the
level is sent to the agent all the same; `called` says whether that succeeds. -/
def nodeMethodSetLogLevel (s : Controller) (n : NodeId) (serial : Serial) (level : String)
    (called : Bool) : Controller :=
  if nodeHasAgent (s.node n) then
    let s := if stringToLogLevel level = .invalid then s.emit (.reply serial .empty) else s
    if called then s.emit (.reply serial .empty)
    else s.emit (.replyError serial "Failed to call a method to set the log level")
  else s.emit (.replyError serial "Node is offline")

end Controller

/-- The events of the controller, with the one method of the node interface that waits for the
agent inside its handler. -/
inductive PublicEvent
  | event (e : Event)
  | setLogLevel (n : NodeId) (serial : Serial) (level : String) (called : Bool)

namespace PublicEvent

/-- The call that the event brings in. -/
def serial : PublicEvent → Option Serial
  | .event e => e.serial
  | .setLogLevel _ serial _ _ => some serial

/-- The call, when it is of the node or the job interface. -/
def nodeCall : PublicEvent → Option Serial
  | .event (.lifecycle _ serial ..) => some serial
  | .event (.forward _ serial ..) => some serial
  | .event (.jobCancel _ serial _) => some serial
  | .setLogLevel _ serial _ _ => some serial
  | _ => none

end PublicEvent

namespace Controller

def stepPublic (s : Controller) : PublicEvent → Option Controller
  | .event e => s.step e
  | .setLogLevel n serial level called =>
    if s.stopped then none
    else whenever (n ∈ s.nodes) (s.nodeMethodSetLogLevel n serial level called)

/-- A level that is set on a connected node exists, and a job that the agent accepted can be
exported. -/
def AnswersOnce (s : Controller) : PublicEvent → Prop
  | .setLogLevel n _ level _ =>
    nodeHasAgent (s.node n) = true → stringToLogLevel level ≠ .invalid
  | .event (.agentReply r (.ok _)) => ∀ serial job,
    (s.request r).handler = .lifecycle serial job → s.jobPathTaken job = false
  | _ => True

/-! ## Runs -/

/-- What is known of the requests of a call while the controller runs. -/
structure Answering (call : Serial) (s : Controller) : Prop where
  consistent : ∃ gap, Consistent gap s
  orderly : Orderly (calledBy call) call s
  waiting : Outstanding call s
  listed : ∀ r ∈ s.awaited call, (s.request r).node ∈ s.nodes

/-- Another event than a call or an answer that is waited for leaves the requests of the call
alone. -/
lemma Answering.of_overlooks (h : Answering call s) (f : Overlooks (calledBy call) call s s')
    (hcons : ∃ gap, Consistent gap s') (hnodes : ∀ n ∈ s.nodes, n ∈ s'.nodes) :
    Answering call s' ∧ s'.balance call = s.balance call := by
  have hall := cancelled_of_ignores h.orderly h.waiting f
  refine ⟨⟨hcons, hall.orderly, hall.waiting, fun r hr => ?_⟩, hall.balance⟩
  rw [hall.request r hr]
  rw [hall.awaited, List.filter_true] at hr
  exact hnodes _ (h.listed r hr)

/-- The call is made. -/
lemma Answering.of_enters (h : Answering call s) {n : NodeId} (f : Enters n call s s')
    (hcons : ∃ gap, Consistent gap s') (hnodes : ∀ k ∈ s.nodes, k ∈ s'.nodes) (hn : n ∈ s.nodes) :
    Answering call s' ∧ s'.balance call = s.balance call + 1 := by
  refine ⟨⟨hcons, f.orderly, f.waiting, fun r hr => ?_⟩, f.balance⟩
  apply (f.node r hr).elim
  · intro hold
    rw [hold.2]
    exact hnodes _ (h.listed r hold.1)
  · intro hnew
    rw [hnew]
    exact hnodes n hn

/-- The request of the call is answered. -/
lemma Answering.of_answers (h : Answering call s) {r : RequestId} (hr : r ∈ s.awaited call)
    (f : Answers call r s s') (horderly : Orderly (calledBy call) call s')
    (hcons : ∃ gap, Consistent gap s') (hnodes : ∀ n ∈ s.nodes, n ∈ s'.nodes) :
    Answering call s' ∧ s'.balance call = s.balance call := by
  refine ⟨⟨hcons, horderly, h.waiting.of_answers f, fun r' hr' => ?_⟩, balance_of_answers f hr⟩
  rw [f.awaited, h.waiting.nodup.mem_erase_iff] at hr'
  rw [f.request r' hr'.1]
  exact hnodes _ (h.listed r' hr'.2)

/-- A method of a node makes a request for the call or answers it. -/
lemma enters_ofRequest (hs : Orderly (calledBy call) call s) (h : Outstanding call s) {n : NodeId}
    (hn : n < s.nextPtr) {handler : RequestHandler}
    (hcaller : RequestHandler.caller handler = some call) (c : RequestId → AgentCall)
    (started : Bool) (failure : String) :
    Enters n call s (s.runRequest n call handler c started failure) := by
  match started with
  | true => exact enters_runRequest hs h hn hcaller (asks_runRequest n call handler c failure)
  | false =>
    refine (Enters.reply hs h n rfl).trans_overlooks
      (Overlooks.runRequest_failed n (fun q hq => ?_) call c failure)
    rw [hq] at hcaller
    simp [RequestHandler.caller] at hcaller

lemma enters_nodeMethodForward (hs : Orderly (calledBy call) call s) (h : Outstanding call s)
    {n : NodeId} (hn : n < s.nextPtr) (method failure : String) (started : Bool) :
    Enters n call s (s.nodeMethodForward n call method failure started) := by
  unfold Controller.nodeMethodForward
  split
  · exact Enters.reply hs h n rfl
  · exact enters_ofRequest hs h hn rfl _ started failure

lemma enters_nodeRunUnitLifecycleMethod (hs : Orderly (calledBy call) call s) (h : Outstanding call s)
    {n : NodeId} (hn : n < s.nextPtr) (method : LifecycleMethod) (unit mode : String)
    (startTime : UInt64) (started : Bool) :
    Enters n call s (s.nodeRunUnitLifecycleMethod n call method unit mode startTime started) := by
  unfold Controller.nodeRunUnitLifecycleMethod
  split
  · exact Enters.reply hs h n rfl
  · have hdesk : SameDesk (fun _ => False) s
        (s.jobNew n unit (lifecycleJobType method) startTime).2 :=
      SameDesk.jobs.jobNew s n unit _ _
    have hjob : Overlooks (calledBy call) call s
        (s.jobNew n unit (lifecycleJobType method) startTime).2 := .of_desk hdesk not_false
    have hall := cancelled_of_ignores hs h hjob
    exact hjob.trans_enters hs (enters_ofRequest hall.orderly hall.waiting
      (lt_of_lt_of_le hn hdesk.nextPtr) rfl _ started _)

/-- The cancelling of a job is answered before the agent has answered it. -/
lemma enters_jobMethodCancel (hs : Orderly (calledBy call) call s) (h : Outstanding call s) (n : NodeId)
    (job : Job) (started : Bool) : Enters n call s (s.jobMethodCancel job call started) := by
  have hmine : calledBy call (.jobCancel call) = false := by
    simp [calledBy, RequestHandler.caller]
  unfold Controller.jobMethodCancel
  split
  · match started with
    | true =>
      have hrun : Overlooks (calledBy call) call s (s.runRequest job.node call (.jobCancel call)
          (fun r => .jobCancel r job.id) true "Failed to call the method to cancel job") :=
        Overlooks.runRequest_started job.node hmine (fun _ => RequestHandler.noConfusion) _ _ _
      have hall := cancelled_of_ignores hs h hrun
      exact hrun.trans_enters hs (Enters.reply hall.orderly hall.waiting n rfl)
    | false =>
      exact (Enters.reply hs h n rfl).trans_overlooks
        (Overlooks.runRequest_failed job.node (fun _ => RequestHandler.noConfusion) call
          (fun r => .jobCancel r job.id) _)
  · exact Enters.reply hs h n rfl

lemma enters_nodeMethodSetLogLevel (hs : Orderly (calledBy call) call s) (h : Outstanding call s)
    (n : NodeId) {level : String} (called : Bool)
    (hvalid : nodeHasAgent (s.node n) = true → stringToLogLevel level ≠ .invalid) :
    Enters n call s (s.nodeMethodSetLogLevel n call level called) := by
  unfold Controller.nodeMethodSetLogLevel
  split
  · rename_i hagent
    dsimp only
    rw [if_neg (hvalid hagent)]
    split
    · exact Enters.reply hs h n rfl
    · exact Enters.reply hs h n rfl
  · exact Enters.reply hs h n rfl

/-- The log level of another call. -/
lemma overlooks_nodeMethodSetLogLevel (n : NodeId) {serial : Serial} (hne : serial ≠ call)
    (level : String) (called : Bool) :
    Overlooks (calledBy call) call s (s.nodeMethodSetLogLevel n serial level called) := by
  have hreply : ∀ (t : Controller) (o : Output), o.answers = some serial →
      Overlooks (calledBy call) call t (t.emit o) := fun t _ ho => Overlooks.reply hne ho t
  unfold Controller.nodeMethodSetLogLevel
  split
  · have hfirst : Overlooks (calledBy call) call s (if stringToLogLevel level = .invalid then
        s.emit (.reply serial .empty) else s) := by
      split
      · exact hreply s (.reply serial .empty) rfl
      · exact Overlooks.refl s
    apply hfirst.trans
    match called with
    | true => exact hreply _ (.reply serial .empty) rfl
    | false => exact hreply _ (.replyError serial _) rfl
  · exact hreply s (.replyError serial _) rfl

/-- One event: the balance of the call grows when the call is made, and only then. -/
theorem Answering.step (h : Answering call s) {e : PublicEvent} (hguard : AnswersOnce s e)
    (hstep : s.stepPublic e = some s') (hcall : e.serial = some call → e.nodeCall = some call)
    (hstop : ∀ sync, e ≠ .event (.stop sync)) :
    Answering call s' ∧
      s'.balance call = s.balance call + if e.nodeCall = some call then 1 else 0 := by
  have ⟨gap, hcons⟩ := h.consistent
  match e with
  | .setLogLevel n serial level called =>
    unfold stepPublic at hstep
    dsimp only at hstep
    split at hstep
    · simp at hstep
    have ⟨hn, heq⟩ := whenever_eq_some_iff.mp hstep
    have hemits : CoreFrame s (s.nodeMethodSetLogLevel n serial level called) := by
      unfold Controller.nodeMethodSetLogLevel
      split
      · have hfirst : CoreFrame s (if stringToLogLevel level = .invalid then
            s.emit (.reply serial .empty) else s) := by
          split
          · exact coreFrame_emit s _
          · exact .of_eq rfl
        apply hfirst.trans
        match called with
        | true => exact coreFrame_emit _ _
        | false => exact coreFrame_emit _ _
      · exact coreFrame_emit s _
    rw [← heq]
    have hcons' : ∃ gap, Consistent gap (s.nodeMethodSetLogLevel n serial level called) :=
      ⟨gap, hcons.of_frame hemits⟩
    have hnodes : ∀ k ∈ s.nodes, k ∈ (s.nodeMethodSetLogLevel n serial level called).nodes :=
      fun k hk => hemits.nodes ▸ hk
    by_cases hserial : serial = call
    · rw [hserial] at hcons' hnodes ⊢
      rw [if_pos (show PublicEvent.nodeCall (.setLogLevel n call level called) = some call from rfl)]
      exact h.of_enters (enters_nodeMethodSetLogLevel h.orderly h.waiting n called hguard) hcons'
        hnodes hn
    · have hne : PublicEvent.nodeCall (.setLogLevel n serial level called) ≠ some call := by
        simpa [PublicEvent.nodeCall] using hserial
      rw [if_neg hne]
      exact h.of_overlooks (overlooks_nodeMethodSetLogLevel n hserial level called) hcons' hnodes
  | .event e =>
    have hstep : s.step e = some s' := hstep
    have hstop' : ∀ sync, e ≠ .stop sync := fun sync heq => hstop sync (congrArg _ heq)
    have ⟨gap', hgap', _⟩ := hcons.step hstop' hstep
    have hcons' : ∃ gap, Consistent gap s' := ⟨gap', hgap'⟩
    have hnodes : ∀ n ∈ s.nodes, n ∈ s'.nodes := fun n hn => by
      have ⟨_, _, hfollows⟩ := follows_of_step hcons hn hstop' hstep
      rw [hfollows.1]
      exact hn
    have hhandle := (step_eq_some_iff.mp hstep).2
    by_cases hserial : e.serial = some call
    · have hcalled := hcall hserial
      rw [if_pos hcalled]
      match e with
      | .lifecycle n serial method unit mode startTime started =>
        have ⟨hn, heq⟩ := whenever_eq_some_iff.mp hhandle
        rw [← heq] at hcons' hnodes ⊢
        have hsame : serial = call := Option.some.inj hserial
        rw [hsame] at hcons' hnodes ⊢
        exact h.of_enters (enters_nodeRunUnitLifecycleMethod h.orderly h.waiting
          (hcons.registry.fresh n (Or.inl hn)) method unit mode startTime started) hcons' hnodes hn
      | .forward n serial method failure started =>
        have ⟨hn, heq⟩ := whenever_eq_some_iff.mp hhandle
        rw [← heq] at hcons' hnodes ⊢
        have hsame : serial = call := Option.some.inj hserial
        rw [hsame] at hcons' hnodes ⊢
        exact h.of_enters (enters_nodeMethodForward h.orderly h.waiting
          (hcons.registry.fresh n (Or.inl hn)) method failure started) hcons' hnodes hn
      | .jobCancel id serial started =>
        have ⟨job, hjob, heq⟩ := Option.map_eq_some_iff.mp hhandle
        have hn : job.node ∈ s.nodes :=
          hcons.forListed.jobs job.node (Or.inl ⟨job, List.mem_of_find?_eq_some hjob, rfl⟩)
        rw [← heq] at hcons' hnodes ⊢
        have hsame : serial = call := Option.some.inj hserial
        rw [hsame] at hcons' hnodes ⊢
        exact h.of_enters (enters_jobMethodCancel h.orderly h.waiting job.node job started) hcons'
          hnodes hn
    · have hne : PublicEvent.nodeCall (.event e) ≠ some call := by
        intro heq
        apply hserial
        match e with
        | .lifecycle n serial method unit mode startTime started => exact heq
        | .forward n serial method failure started => exact heq
        | .jobCancel id serial started => exact heq
      rw [if_neg hne, Nat.add_zero]
      by_cases hreply : ∃ r m, e = .agentReply r m ∧ isMine (calledBy call) s r = true
      · have ⟨r, m, he, hmine⟩ := hreply
        rw [he] at hguard hhandle
        have hfree : ∀ rows serial job, m = .ok rows →
            (s.request r).handler = .lifecycle serial job → s.jobPathTaken job = false := by
          intro rows serial job hm
          rw [hm] at hguard
          exact hguard serial job
        have ⟨horderly, hanswers, hr⟩ :=
          answers_agentRequestCallback h.orderly h.waiting hmine hfree hhandle
        exact h.of_answers hr hanswers horderly hcons' hnodes
      · refine h.of_overlooks (overlooks_step (fun handler hcaller => decide_eq_true hcaller)
          (fun handler serial hcaller hother => ?_) (fun serial => ?_) (fun q => Or.inl ?_) hstep
          hserial hstop' fun r m he => ?_) hcons' hnodes
        · unfold calledBy
          rw [hcaller]
          simpa using hother
        · simp [calledBy, RequestHandler.caller]
        · simp [calledBy, RequestHandler.caller]
        · exact Bool.eq_false_iff.mpr fun hmine => hreply ⟨r, m, he, hmine⟩

/-- The end of the controller answers the requests to the nodes that are online. -/
lemma Answering.stop (h : Answering call s) {sync : SyncCalls}
    (hstep : s.stepPublic (.event (.stop sync)) = some s') :
    s'.balance call = s.balance call ∧
      s'.awaited call = (s.awaited call).filter fun r => !nodeIsOnline (s.node (s.request r).node) := by
  have ⟨gap, hcons⟩ := h.consistent
  have hstep' : s.step (.stop sync) = some s' := hstep
  have hstopped := cancelled_controllerStop hcons h.orderly h.waiting sync
  rw [Option.some.inj (step_eq_some_iff.mp hstep').2] at hstopped
  refine ⟨hstopped.balance, hstopped.awaited.trans ?_⟩
  apply List.filter_congr
  intro r hr
  simp [h.listed r hr]

end Controller
end BlueChi
