import BlueChi.Controller.Desk
import BlueChi.Library.Lists

/-!
# What the requests of others leave alone

A function that works on one request may touch others: an answer that completes a fleet request frees
all requests of it. `Overlooks mine` says of a step that it leaves the requests of `mine` alone,
and it holds of all functions on requests whose own requests are not of `mine`.
-/

namespace BlueChi
namespace Controller

variable {ok : Serial → Prop} {mine : RequestHandler → Bool} {call serial : Serial}
  {s s' s'' : Controller}

/-! ## The relation -/

/-- Whether a request is one of `mine`. -/
def isMine (mine : RequestHandler → Bool) (s : Controller) (r : RequestId) : Bool :=
  mine (s.request r).handler

/-- The requests that are listed are at used addresses, and a fleet request lists its own. A fleet
request some of whose requests are not of `mine` does not reply to the call. -/
structure Orderly (mine : RequestHandler → Bool) (call : Serial) (s : Controller) :
    Prop where
  pending : ∀ r ∈ s.pendingRequests, r < s.nextPtr
  outstanding : ∀ n, ∀ r ∈ (s.node n).outstandingRequests, r < s.nextPtr
  subs : ∀ q, ∀ sub ∈ (s.fleet q).subReq,
    sub.agentReq < s.nextPtr ∧ (s.request sub.agentReq).handler = .fleet q
  fleets : ∀ r q, (s.request r).handler = .fleet q → q < s.nextPtr
  apart : ∀ r q, (s.request r).handler = .fleet q → mine (.fleet q) = false →
    (s.fleet q).requestMessage ≠ call

/-- The requests of `mine` and their callbacks, the fleet requests all of whose requests are of `mine`,
what all requests are for and the replies to the call are the same. -/
structure Ignores (mine : RequestHandler → Bool) (call : Serial) (s s' : Controller) :
    Prop where
  pending : s'.pendingRequests.filter (isMine mine s') = s.pendingRequests.filter (isMine mine s)
  outstanding : ∀ n, (s'.node n).outstandingRequests.filter (isMine mine s') =
      (s.node n).outstandingRequests.filter (isMine mine s) ∨
    s.nextPtr ≤ n ∧ (s'.node n).outstandingRequests.filter (isMine mine s') = []
  request : ∀ r < s.nextPtr, isMine mine s r = true → s'.request r = s.request r
  handler : ∀ r < s.nextPtr, (s'.request r).handler = (s.request r).handler
  refs : ∀ r < s.nextPtr, isMine mine s r = true → s'.refs (.request r) = s.refs (.request r)
  freed : ∀ r < s.nextPtr, isMine mine s r = true →
    timesFreed s' (.request r) = timesFreed s (.request r)
  fleet : ∀ q < s.nextPtr, mine (.fleet q) = true → s'.fleet q = s.fleet q
  message : ∀ q < s.nextPtr, (s'.fleet q).requestMessage = (s.fleet q).requestMessage
  name : ∀ n < s.nextPtr, (s'.node n).name = (s.node n).name
  nextPtr : s.nextPtr ≤ s'.nextPtr
  replies : s'.repliesTo call = s.repliesTo call
  unused : ∀ r : ℕ, s'.nextPtr ≤ r → timesFreed s' (.request r) = timesFreed s (.request r)
  freedFleets : ∀ q < s.nextPtr, mine (.fleet q) = true →
    s'.freedFleets.count q = s.freedFleets.count q
  callbacks : ∀ r < s.nextPtr, isMine mine s r = true →
    s'.callbacks.count r = s.callbacks.count r

/-- A step that keeps the requests orderly and leaves those of `mine` and the replies to the call
alone. -/
def Overlooks (mine : RequestHandler → Bool) (call : Serial) (s s' : Controller) :
    Prop :=
  Orderly mine call s → Orderly mine call s' ∧ Ignores mine call s s'

lemma Ignores.isMine_eq (h : Ignores mine call s s') {r : RequestId} (hr : r < s.nextPtr) :
    isMine mine s' r = isMine mine s r := by
  unfold isMine
  rw [h.handler r hr]

/-- A step that lists no more requests. -/
lemma Orderly.of_listed (h : Orderly mine call s) (hptr : s.nextPtr ≤ s'.nextPtr)
    (hpending : ∀ r ∈ s'.pendingRequests, r ∈ s.pendingRequests)
    (hout : ∀ n, ∀ r ∈ (s'.node n).outstandingRequests, r ∈ (s.node n).outstandingRequests)
    (hhandler : ∀ r, (s'.request r).handler = (s.request r).handler) (hfleet : s'.fleet = s.fleet) :
    Orderly mine call s' where
  pending r hr := lt_of_lt_of_le (h.pending r (hpending r hr)) hptr
  outstanding n r hr := lt_of_lt_of_le (h.outstanding n r (hout n r hr)) hptr
  subs q sub hsub := by
    rw [hfleet] at hsub
    rw [hhandler]
    exact ⟨lt_of_lt_of_le (h.subs q sub hsub).1 hptr, (h.subs q sub hsub).2⟩
  fleets r q hq := by
    rw [hhandler] at hq
    exact lt_of_lt_of_le (h.fleets r q hq) hptr
  apart r q hq hm := by
    rw [hhandler] at hq
    rw [hfleet]
    exact h.apart r q hq hm

lemma Orderly.of_desk (h : Orderly mine call s) (f : SameDesk ok s s') : Orderly mine call s' := by
  refine h.of_listed f.nextPtr (fun r hr => f.pending ▸ hr) (fun n r hr => ?_)
    (fun r => by rw [f.request]) f.fleet
  apply (f.outstanding n).elim
  · intro heq
    rw [heq] at hr
    exact hr
  · intro hnew
    rw [hnew.2] at hr
    simp at hr

namespace Overlooks

lemma refl (s : Controller) : Overlooks mine call s s := fun h =>
  ⟨h, ⟨rfl, fun _ => Or.inl rfl, fun _ _ _ => rfl, fun _ _ => rfl, fun _ _ _ => rfl,
    fun _ _ _ => rfl, fun _ _ _ => rfl, fun _ _ => rfl, fun _ _ => rfl, le_refl _, rfl,
    fun _ _ => rfl, fun _ _ _ => rfl, fun _ _ _ => rfl⟩⟩

lemma trans (h : Overlooks mine call s s') (h' : Overlooks mine call s' s'') : Overlooks mine call s s'' := by
  intro hs
  have ⟨hs', f⟩ := h hs
  have ⟨hs'', f'⟩ := h' hs'
  have hlt : ∀ {r}, r < s.nextPtr → r < s'.nextPtr := fun hr => lt_of_lt_of_le hr f.nextPtr
  have hmine : ∀ {r}, r < s.nextPtr → isMine mine s r = true → isMine mine s' r = true :=
    fun hr hm => by
      rw [f.isMine_eq hr]
      exact hm
  refine ⟨hs'', f'.pending.trans f.pending, fun n => ?_,
    fun r hr hm => (f'.request r (hlt hr) (hmine hr hm)).trans (f.request r hr hm),
    fun r hr => (f'.handler r (hlt hr)).trans (f.handler r hr),
    fun r hr hm => (f'.refs r (hlt hr) (hmine hr hm)).trans (f.refs r hr hm),
    fun r hr hm => (f'.freed r (hlt hr) (hmine hr hm)).trans (f.freed r hr hm),
    fun q hq hm => (f'.fleet q (hlt hq) hm).trans (f.fleet q hq hm),
    fun q hq => (f'.message q (hlt hq)).trans (f.message q hq),
    fun n hn => (f'.name n (hlt hn)).trans (f.name n hn), f.nextPtr.trans f'.nextPtr,
    f'.replies.trans f.replies,
    fun r hr => (f'.unused r hr).trans (f.unused r (f'.nextPtr.trans hr)),
    fun q hq hm => (f'.freedFleets q (hlt hq) hm).trans (f.freedFleets q hq hm),
    fun r hr hm => (f'.callbacks r (hlt hr) (hmine hr hm)).trans (f.callbacks r hr hm)⟩
  apply (f'.outstanding n).elim
  · intro heq
    rw [heq]
    exact f.outstanding n
  · intro hnew
    exact Or.inr ⟨f.nextPtr.trans hnew.1, hnew.2⟩

/-- A step that leaves all requests as they are. -/
lemma of_desk (f : SameDesk ok s s') (hok : ¬ ok call) : Overlooks mine call s s' := by
  intro hs
  have hmine : isMine mine s' = isMine mine s := by
    funext r
    unfold isMine
    rw [f.request]
  refine ⟨Orderly.of_desk hs f, ⟨by rw [f.pending, hmine], fun n => ?_, fun r _ _ => by rw [f.request],
      fun r _ => by rw [f.request], fun r _ _ => f.refs r, fun r _ _ => f.freed r,
      fun q _ _ => by rw [f.fleet], fun q _ => by rw [f.fleet], f.name, f.nextPtr,
      f.replies call hok, fun r _ => f.freed r, fun q _ _ => by rw [f.freedFleets],
      fun r _ _ => by rw [f.callbacks]⟩⟩
  rw [hmine]
  apply (f.outstanding n).imp
  · intro heq
    rw [heq]
  · intro hnew
    rw [hnew.2]
    exact ⟨hnew.1, rfl⟩

/-- A step that leaves all requests as they are and answers no call. -/
lemma of_silent (f : SameDesk (fun _ => False) s s') : Overlooks mine call s s' :=
  of_desk f not_false

lemma composed : Composed (Overlooks mine call) := ⟨refl, trans⟩

/-- A change of the lists of nodes. -/
lemma of_registry (f : RegistryOnly s s') : Overlooks mine call s s' := by
  intro hs
  have hnode : s'.node = s.node := by rw [f.rest]
  have hrequest : s'.request = s.request := by rw [f.rest]
  have hpending : s'.pendingRequests = s.pendingRequests := by rw [f.rest]
  have hfleet : s'.fleet = s.fleet := by rw [f.rest]
  have hptr : s'.nextPtr = s.nextPtr := by rw [f.rest]
  have hmine : isMine mine s' = isMine mine s := by
    funext r
    unfold isMine
    rw [hrequest]
  refine ⟨hs.of_listed (le_of_eq hptr.symm) (fun r hr => hpending ▸ hr) (fun n r hr => hnode ▸ hr)
      (fun r => by rw [hrequest]) hfleet,
    ⟨by rw [hpending, hmine], fun n => Or.inl (by rw [hnode, hmine]), fun r _ _ => by rw [hrequest],
      fun r _ => by rw [hrequest], fun r _ _ => by rw [f.rest], fun r _ _ => f.freed _,
      fun q _ _ => by rw [hfleet], fun q _ => by rw [hfleet], fun n _ => by rw [hnode],
      le_of_eq hptr.symm, by rw [f.rest]; rfl, fun r _ => f.freed _, fun q _ _ => by rw [f.rest],
      fun r _ _ => by rw [f.rest]⟩⟩

/-! ### What requests consist of -/

/-- A change of other requests: of the lists, of one request and its references. -/
lemma of_request {r : RequestId} (hr : r < s.nextPtr) (hmine : isMine mine s r = false)
    (heq : s' = { s with
      node := s'.node, request := s'.request, refs := s'.refs,
      pendingRequests := s'.pendingRequests, startedRequests := s'.startedRequests, mem := s'.mem })
    (hpending : s'.pendingRequests.filter (isMine mine s) =
      s.pendingRequests.filter (isMine mine s) ∧
      ∀ r' ∈ s'.pendingRequests, r' ∈ s.pendingRequests ∨ r' = r)
    (hnode : ∀ n, (s'.node n).name = (s.node n).name ∧
      ((s'.node n).outstandingRequests = (s.node n).outstandingRequests ∨
        (s'.node n).outstandingRequests = (s.node n).outstandingRequests.erase r))
    (hrequest : ∀ r', (s'.request r').handler = (s.request r').handler ∧
      (r' ≠ r → s'.request r' = s.request r'))
    (hrefs : ∀ r', r' ≠ r → s'.refs (.request r') = s.refs (.request r'))
    (hfreed : ∀ r', r' ≠ r → timesFreed s' (.request r') = timesFreed s (.request r')) :
    Overlooks mine call s s' := by
  intro hs
  have hfun : isMine mine s' = isMine mine s := by
    funext r'
    unfold isMine
    rw [(hrequest r').1]
  have hne : ∀ r', isMine mine s r' = true → r' ≠ r := fun r' hm heq => by
    rw [heq, hmine] at hm
    exact Bool.noConfusion hm
  have hptr : s'.nextPtr = s.nextPtr := by rw [heq]
  have hfleet : s'.fleet = s.fleet := by rw [heq]
  refine ⟨⟨fun r' hr' => ?_, fun n r' hr' => ?_, fun q sub hsub => ?_, fun r' q hq => ?_,
      fun r' q hq hm => ?_⟩,
    ⟨by rw [hfun]; exact hpending.1, fun n => Or.inl ?_,
      fun r' _ hm => (hrequest r').2 (hne r' hm), fun r' _ => (hrequest r').1,
      fun r' _ hm => hrefs r' (hne r' hm), fun r' _ hm => hfreed r' (hne r' hm),
      fun q _ _ => by rw [hfleet], fun q _ => by rw [hfleet], fun n _ => (hnode n).1,
      le_of_eq hptr.symm, by rw [heq]; rfl,
      fun r' hr' => hfreed r' fun heq' => absurd hr (not_lt.mpr (hptr ▸ heq' ▸ hr')),
      fun q _ _ => by rw [heq], fun r' _ _ => by rw [heq]⟩⟩
  · rw [hptr]
    apply (hpending.2 r' hr').elim
    · exact hs.pending r'
    · intro heq'
      rw [heq']
      exact hr
  · rw [hptr]
    apply hs.outstanding n r'
    apply (hnode n).2.elim
    · intro heq'
      rw [← heq']
      exact hr'
    · intro heq'
      rw [heq'] at hr'
      exact List.mem_of_mem_erase hr'
  · rw [hfleet] at hsub
    rw [hptr, (hrequest _).1]
    exact hs.subs q sub hsub
  · rw [(hrequest r').1] at hq
    rw [hptr]
    exact hs.fleets r' q hq
  · rw [(hrequest r').1] at hq
    rw [hfleet]
    exact hs.apart r' q hq hm
  · rw [hfun]
    apply (hnode n).2.elim
    · intro heq'
      rw [heq']
    · intro heq'
      rw [heq', ← List.erase_filter, List.erase_of_not_mem]
      simp [hmine]

lemma dropRef (o : Owner) {r : RequestId} (hr : r < s.nextPtr) (hmine : isMine mine s r = false) :
    Overlooks mine call s (s.dropRef (.request r) o) :=
  of_request hr hmine rfl ⟨rfl, fun _ => Or.inl⟩ (fun _ => ⟨rfl, Or.inl rfl⟩)
    (fun _ => ⟨rfl, fun _ => rfl⟩) (fun r' hne => by simp [Controller.dropRef, hne])
    fun r' hne => timesFreed_dropRef s (by simpa using hne) o

lemma unlistRequest {r : RequestId} (hr : r < s.nextPtr) (hmine : isMine mine s r = false) :
    Overlooks mine call s (s.unlistRequest r) := by
  refine of_request hr hmine rfl ⟨?_, fun r' hr' => Or.inl (List.mem_of_mem_erase hr')⟩
    (fun n => ?_) (fun _ => ⟨rfl, fun _ => rfl⟩) (fun _ _ => rfl)
    fun r' _ => timesFreed_listRemove s _ _ _
  · show (s.pendingRequests.erase r).filter _ = _
    rw [← List.erase_filter, List.erase_of_not_mem]
    simp [hmine]
  · by_cases hn : n = (s.request r).node
    · rw [hn]
      exact ⟨by simp, Or.inr (by simp)⟩
    · exact ⟨by simp [hn], Or.inl (by simp [hn])⟩

/-- The answer of the request arrives. -/
lemma erasePending {r : RequestId} (hr : r < s.nextPtr) (hmine : isMine mine s r = false) :
    Overlooks mine call s { s with pendingRequests := s.pendingRequests.erase r } := by
  refine of_request hr hmine rfl ⟨?_, fun r' hr' => Or.inl (List.mem_of_mem_erase hr')⟩
    (fun _ => ⟨rfl, Or.inl rfl⟩) (fun _ => ⟨rfl, fun _ => rfl⟩) (fun _ _ => rfl) fun _ _ => rfl
  rw [← List.erase_filter, List.erase_of_not_mem]
  simp [hmine]

/-- The request is cancelled. -/
lemma markCancelled {r : RequestId} (hr : r < s.nextPtr) (hmine : isMine mine s r = false) :
    Overlooks mine call s (s.modifyRequest r fun req => { req with isCancelled := true }) := by
  refine of_request hr hmine rfl ⟨rfl, fun _ => Or.inl⟩ (fun _ => ⟨rfl, Or.inl rfl⟩)
    (fun r' => ?_) (fun _ _ => rfl) fun _ _ => rfl
  by_cases hr' : r' = r
  · rw [hr']
    simp
  · simp [hr']

end Overlooks

/-- What is said of a request holds after a step that leaves all requests as they are. -/
lemma SameDesk.foreign (f : SameDesk ok s s') {r : RequestId} (hr : r < s.nextPtr)
    (hmine : isMine mine s r = false) : r < s'.nextPtr ∧ isMine mine s' r = false := by
  refine ⟨lt_of_lt_of_le hr f.nextPtr, ?_⟩
  unfold isMine
  rw [f.request]
  exact hmine

namespace Overlooks

lemma agentRequestStart {r : RequestId} (hr : r < s.nextPtr) (hmine : isMine mine s r = false)
    (c : AgentCall) : Overlooks mine call s (s.agentRequestStart r c) := by
  have hsend : SameDesk (fun _ => False) s (s.sendAgent (s.request r).node c) :=
    SameDesk.sendAgent s _ c
  have ⟨hr', hmine'⟩ := hsend.foreign hr hmine
  apply (of_desk hsend not_false).trans
  refine of_request hr' hmine' rfl ⟨?_, fun r' hin => ?_⟩ (fun _ => ⟨rfl, Or.inl rfl⟩)
    (fun _ => ⟨rfl, fun _ => rfl⟩) (fun r' hne => by simp [takeRef, hne]) fun _ _ => rfl
  · rw [hsend.pending]
    show (s.pendingRequests ++ [r]).filter _ = _
    rw [List.filter_append, List.filter_cons_of_neg (by simp [hmine'])]
    simp
  · rw [hsend.pending]
    have hin' : r' ∈ s.pendingRequests ++ [r] := hin
    simpa using hin'

lemma freeUserdata (s : Controller) (handler : RequestHandler) :
    SameDesk ok s (s.freeUserdata handler) := by
  unfold Controller.freeUserdata
  split
  · exact SameDesk.jobs.jobUnref s _ _
  · exact .refl s

lemma agentRequestUnref {r : RequestId} (hr : r < s.nextPtr) (hmine : isMine mine s r = false)
    (o : Owner) : Overlooks mine call s (s.agentRequestUnref r o) := by
  have hdrop : Overlooks mine call s (s.dropRef (.request r) o) := dropRef o hr hmine
  unfold Controller.agentRequestUnref
  dsimp only
  split
  · have hfree : SameDesk (fun _ => False) (s.dropRef (.request r) o)
        ((s.dropRef (.request r) o).freeUserdata (s.request r).handler) := freeUserdata _ _
    have hmine₀ : isMine mine (s.dropRef (.request r) o) r = false := hmine
    have ⟨hr', hmine'⟩ := hfree.foreign hr hmine₀
    apply (hdrop.trans (of_desk hfree not_false)).trans
    apply (unlistRequest hr' hmine').trans
    exact of_silent (SameDesk.proxies.nodeUnref _ _ Owner.noConfusion)
  · exact hdrop

end Overlooks

/-! ### A new request -/

lemma nodeCreateRequest_request_of_ne (n : NodeId) (handler : RequestHandler) {r : RequestId}
    (hr : r ≠ s.nextPtr) : (s.nodeCreateRequest n handler).request r = s.request r := by
  simp [hr]

lemma nodeCreateRequest_request_new (n : NodeId) (handler : RequestHandler) :
    (s.nodeCreateRequest n handler).request s.nextPtr = ⟨n, handler, false⟩ := by
  simp

lemma nodeCreateRequest_request_of_lt (n : NodeId) (handler : RequestHandler) {r : RequestId}
    (hr : r < s.nextPtr) : (s.nodeCreateRequest n handler).request r = s.request r :=
  nodeCreateRequest_request_of_ne n handler (Nat.ne_of_lt hr)

lemma nodeCreateRequest_refs_of_ne (n : NodeId) (handler : RequestHandler) {r : RequestId}
    (hr : r ≠ s.nextPtr) :
    (s.nodeCreateRequest n handler).refs (.request r) = s.refs (.request r) := by
  simp [nodeCreateRequest, newRef, takeRef, hr]

lemma nodeCreateRequest_outstanding (n n' : NodeId) (handler : RequestHandler) :
    ((s.nodeCreateRequest n handler).node n').outstandingRequests =
      (s.node n').outstandingRequests ++ if n' = n then [s.nextPtr] else [] := by
  by_cases hn : n' = n
  · rw [hn]
    simp
  · simp [hn]

/-- A request for a fleet request that is orderly, or for another purpose. -/
lemma Orderly.nodeCreateRequest (h : Orderly mine call s) (n : NodeId) {handler : RequestHandler}
    (hfleet : ∀ q, handler = .fleet q → q < s.nextPtr ∧
      (mine (.fleet q) = false → (s.fleet q).requestMessage ≠ call)) :
    Orderly mine call (s.nodeCreateRequest n handler) where
  pending r hr := Nat.lt_succ_of_lt (h.pending r hr)
  outstanding n' r hr := by
    rw [nodeCreateRequest_outstanding] at hr
    apply (List.mem_append.mp hr).elim
    · intro hold
      exact Nat.lt_succ_of_lt (h.outstanding n' r hold)
    · intro hnew
      have heq : r = s.nextPtr := by
        split at hnew
        · simpa using hnew
        · simp at hnew
      rw [heq]
      exact Nat.lt_succ_self _
  subs q sub hsub := by
    have hold := h.subs q sub hsub
    rw [nodeCreateRequest_request_of_lt n handler hold.1]
    exact ⟨Nat.lt_succ_of_lt hold.1, hold.2⟩
  fleets r q hq := by
    show q < s.nextPtr + 1
    by_cases hr : r = s.nextPtr
    · rw [hr, nodeCreateRequest_request_new] at hq
      exact Nat.lt_succ_of_lt (hfleet q hq).1
    · rw [nodeCreateRequest_request_of_ne n handler hr] at hq
      exact Nat.lt_succ_of_lt (h.fleets r q hq)
  apart r q hq hm := by
    show (s.fleet q).requestMessage ≠ call
    by_cases hr : r = s.nextPtr
    · rw [hr, nodeCreateRequest_request_new] at hq
      exact (hfleet q hq).2 hm
    · rw [nodeCreateRequest_request_of_ne n handler hr] at hq
      exact h.apart r q hq hm

lemma isMine_nodeCreateRequest (n : NodeId) (handler : RequestHandler) {r : RequestId}
    (hr : r < s.nextPtr) : isMine mine (s.nodeCreateRequest n handler) r = isMine mine s r := by
  unfold isMine
  rw [nodeCreateRequest_request_of_lt n handler hr]

lemma filter_isMine_nodeCreateRequest (n : NodeId) (handler : RequestHandler)
    {l : List RequestId} (hl : ∀ r ∈ l, r < s.nextPtr) :
    l.filter (isMine mine (s.nodeCreateRequest n handler)) = l.filter (isMine mine s) :=
  List.filter_congr fun r hr => isMine_nodeCreateRequest n handler (hl r hr)

namespace Overlooks

/-- A new request that is not of `mine`. -/
lemma nodeCreateRequest (n : NodeId) {handler : RequestHandler} (hmine : mine handler = false)
    (hfleet : ∀ q, handler = .fleet q → q < s.nextPtr ∧ (s.fleet q).requestMessage ≠ call) :
    Overlooks mine call s (s.nodeCreateRequest n handler) := by
  intro hs
  have hnode : ∀ n', ((s.nodeCreateRequest n handler).node n').name = (s.node n').name := by
    intro n'
    by_cases hn : n' = n
    · rw [hn]
      simp
    · simp [hn]
  have hfreed : ∀ r, timesFreed (s.nodeCreateRequest n handler) (.request r) =
      timesFreed s (.request r) := fun _ => rfl
  refine ⟨hs.nodeCreateRequest n fun q hq => ⟨(hfleet q hq).1, fun _ => (hfleet q hq).2⟩,
    ⟨filter_isMine_nodeCreateRequest n handler hs.pending, fun n' => Or.inl ?_,
      fun r hr _ => nodeCreateRequest_request_of_lt n handler hr,
      fun r hr => by rw [nodeCreateRequest_request_of_lt n handler hr],
      fun r hr _ => nodeCreateRequest_refs_of_ne n handler (Nat.ne_of_lt hr),
      fun r _ _ => hfreed r, fun _ _ _ => rfl, fun _ _ => rfl, fun n' _ => hnode n',
      Nat.le_succ _, rfl, fun r _ => hfreed r,
      fun q _ _ => by simp, fun r _ _ => by simp⟩⟩
  rw [nodeCreateRequest_outstanding, List.filter_append,
    filter_isMine_nodeCreateRequest n handler (hs.outstanding n')]
  have hnone : (if n' = n then [s.nextPtr] else []).filter
      (isMine mine (s.nodeCreateRequest n handler)) = [] := by
    split
    · rw [List.filter_eq_nil_iff]
      intro r hr
      rw [List.mem_singleton.mp hr]
      unfold isMine
      rw [nodeCreateRequest_request_new, hmine]
      exact Bool.false_ne_true
    · rfl
  rw [hnone, List.append_nil]

/-! ### Fleet requests -/

/-- The fleet request is not of `mine`, and lists the same requests afterwards or new ones of its
own. -/
lemma modifyFleet {q : FleetId} (hmine : mine (.fleet q) = false)
    {f : AgentFleetRequest → AgentFleetRequest}
    (hmessage : (f (s.fleet q)).requestMessage = (s.fleet q).requestMessage)
    (hsubs : ∀ sub ∈ (f (s.fleet q)).subReq,
      (∃ sub' ∈ (s.fleet q).subReq, sub'.agentReq = sub.agentReq) ∨
        sub.agentReq < s.nextPtr ∧ (s.request sub.agentReq).handler = .fleet q) :
    Overlooks mine call s (s.modifyFleet q f) := by
  intro hs
  have hfleet : ∀ q', q' ≠ q → (s.modifyFleet q f).fleet q' = s.fleet q' :=
    fun q' hq' => by simp [hq']
  have hown : (s.modifyFleet q f).fleet q = f (s.fleet q) := by simp
  have hmessages : ∀ q', ((s.modifyFleet q f).fleet q').requestMessage =
      (s.fleet q').requestMessage := by
    intro q'
    by_cases hq' : q' = q
    · rw [hq', hown, hmessage]
    · rw [hfleet q' hq']
  refine ⟨⟨hs.pending, hs.outstanding, fun q' sub hsub => ?_, hs.fleets,
      fun r' q' hq' hm => by rw [hmessages]; exact hs.apart r' q' hq' hm⟩,
    ⟨rfl, fun _ => Or.inl rfl, fun _ _ _ => rfl, fun _ _ => rfl, fun _ _ _ => rfl,
      fun _ _ _ => rfl, fun q' _ hm => hfleet q' fun heq => ?_, fun q' _ => hmessages q',
      fun _ _ => rfl, le_refl _, rfl, fun _ _ => rfl, fun _ _ _ => rfl, fun _ _ _ => rfl⟩⟩
  · by_cases hq' : q' = q
    · rw [hq', hown] at hsub
      rw [hq']
      apply (hsubs sub hsub).elim
      · intro hold
        have ⟨sub', hsub', heq⟩ := hold
        rw [← heq]
        exact hs.subs q sub' hsub'
      · exact id
    · rw [hfleet q' hq'] at hsub
      exact hs.subs q' sub hsub
  · rw [heq, hmine] at hm
    exact Bool.noConfusion hm

/-- A loop over requests that are not of `mine`. -/
lemma foldl_requests {α : Type} {f : Controller → α → Controller} {key : α → RequestId}
    (hf : ∀ t x, key x < t.nextPtr → isMine mine t (key x) = false → Overlooks mine call t (f t x))
    (xs : List α) (s : Controller)
    (hxs : ∀ x ∈ xs, key x < s.nextPtr ∧ isMine mine s (key x) = false) :
    Overlooks mine call s (xs.foldl f s) := by
  induction xs generalizing s with
  | nil => exact refl s
  | cons x xs ih =>
    intro hs
    have hx := hxs x (by simp)
    have ⟨hs', hignores⟩ := hf s x hx.1 hx.2 hs
    have hrest : ∀ y ∈ xs, key y < (f s x).nextPtr ∧ isMine mine (f s x) (key y) = false := by
      intro y hy
      have hy' := hxs y (by simp [hy])
      rw [hignores.isMine_eq hy'.1]
      exact ⟨lt_of_lt_of_le hy'.1 hignores.nextPtr, hy'.2⟩
    exact (trans (hf s x hx.1 hx.2) (ih _ hrest)) hs

/-- The records of other callbacks and of other fleet requests are not looked at. -/
lemma of_records {callbacks : List RequestId} {freedFleets : List FleetId}
    (hran : ∀ r, isMine mine s r = true → callbacks.count r = s.callbacks.count r)
    (hfreed : ∀ q, mine (.fleet q) = true → freedFleets.count q = s.freedFleets.count q) :
    Overlooks mine call s { s with callbacks := callbacks, freedFleets := freedFleets } := fun h =>
  ⟨⟨h.pending, h.outstanding, h.subs, h.fleets, h.apart⟩, ⟨rfl, fun _ => Or.inl rfl,
    fun _ _ _ => rfl, fun _ _ => rfl, fun _ _ _ => rfl, fun _ _ _ => rfl, fun _ _ _ => rfl,
    fun _ _ => rfl, fun _ _ => rfl, le_refl _, rfl, fun _ _ => rfl, fun q _ hm => hfreed q hm,
    fun r _ hm => hran r hm⟩⟩

lemma runCallback {r : RequestId} (hmine : isMine mine s r = false) :
    Overlooks mine call s (s.runCallback r) := by
  refine of_records (fun r' hm => ?_) fun _ _ => rfl
  have hne : r' ≠ r := fun heq => by
    rw [heq, hmine] at hm
    exact Bool.noConfusion hm
  rw [List.count_append, List.count_singleton, if_neg (by simpa using hne.symm), Nat.add_zero]

lemma freeFleet (s : Controller) {q : FleetId} (hmine : mine (.fleet q) = false) :
    Overlooks mine call s (s.freeFleet q) := by
  refine of_records (fun _ _ => rfl) fun q' hm => ?_
  have hne : q' ≠ q := fun heq => by
    rw [heq, hmine] at hm
    exact Bool.noConfusion hm
  rw [List.count_append, List.count_singleton, if_neg (by simpa using hne.symm), Nat.add_zero]

lemma agentFleetRequestFree {q : FleetId} (hmine : mine (.fleet q) = false) :
    Overlooks mine call s (s.agentFleetRequestFree q) := by
  intro hs
  let key (sub : SubRequest) : RequestId := sub.agentReq
  refine ((freeFleet s hmine).trans (foldl_requests (fun t sub (hr : key sub < t.nextPtr)
    (hm : isMine mine t (key sub) = false) => ?_) _ (s.freeFleet q) (fun sub hsub => ?_))) hs
  · have hnode : SameDesk (fun _ => False) t (t.nodeUnref sub.node (.fleet q)) :=
      SameDesk.proxies.nodeUnref _ _ Owner.noConfusion
    have ⟨hr', hm'⟩ := hnode.foreign hr hm
    exact (of_desk hnode not_false).trans (agentRequestUnref hr' hm' _)
  · have hsub' := hs.subs q sub hsub
    refine ⟨hsub'.1, ?_⟩
    show mine (s.request sub.agentReq).handler = false
    rw [hsub'.2]
    exact hmine

lemma agentFleetRequestMaybeDone {q : FleetId} (hmine : mine (.fleet q) = false)
    (hmessage : (s.fleet q).requestMessage ≠ call) :
    Overlooks mine call s (s.agentFleetRequestMaybeDone q) := by
  have hreply : ∀ {o : Output}, o.answers = some (s.fleet q).requestMessage →
      Overlooks mine call s (s.emit o) := fun ho => by
    have hdesk : SameDesk (fun serial => serial = (s.fleet q).requestMessage) s (s.emit _) :=
      SameDesk.emit s fun serial heq => by
        rw [ho, Option.some.injEq] at heq
        exact heq.symm
    exact of_desk hdesk fun heq => hmessage heq.symm
  unfold Controller.agentFleetRequestMaybeDone
  split
  · unfold agentFleetRequestDone
    dsimp only
    split
    · exact (hreply rfl).trans (agentFleetRequestFree hmine)
    · exact (hreply rfl).trans (agentFleetRequestFree hmine)
  · exact refl s

lemma agentFleetRequestCallback {q : FleetId} (hmine : mine (.fleet q) = false)
    (hmessage : (s.fleet q).requestMessage ≠ call) (r : RequestId) (m : AgentAnswer) :
    Overlooks mine call s (s.agentFleetRequestCallback q r m) := by
  refine (modifyFleet hmine rfl fun sub hsub => Or.inl ?_).trans
    (agentFleetRequestMaybeDone hmine ?_)
  · have hmap : (AgentFleetRequest.answer (s.fleet q) r m).subReq.map (·.agentReq) =
        (s.fleet q).subReq.map (·.agentReq) := by
      apply List.map_modify_of_key
      exact fun _ => rfl
    have hmem := List.mem_map_of_mem (f := (·.agentReq)) hsub
    rw [hmap] at hmem
    exact List.mem_map.mp hmem
  · rw [modifyFleet_fleet, Function.update_self]
    exact hmessage

/-- A sub-request that is not of `mine`. -/
lemma startSubRequest {q : FleetId} (hmine : mine (.fleet q) = false)
    (hq : q < s.nextPtr ∧ (s.fleet q).requestMessage ≠ call)
    (method : String) (starts : NodeId → Bool) (n : NodeId) :
    Overlooks mine call s (startSubRequest q method starts s n) := by
  have hcreate : Overlooks mine call s (s.nodeCreateRequest n (.fleet q)) :=
    nodeCreateRequest n hmine fun q' heq => by
      rw [← RequestHandler.fleet.inj heq]
      exact hq
  have hptr : s.nextPtr < (s.nodeCreateRequest n (.fleet q)).nextPtr := Nat.lt_succ_self _
  have hnew : isMine mine (s.nodeCreateRequest n (.fleet q)) s.nextPtr = false := by
    unfold isMine
    rw [nodeCreateRequest_request, Function.update_self]
    exact hmine
  unfold Controller.startSubRequest
  split
  · dsimp only
    split
    · apply (hcreate.trans (agentRequestStart hptr hnew _)).trans
      unfold appendSubRequest
      have htake : SameDesk (fun _ => False)
          ((s.nodeCreateRequest n (.fleet q)).agentRequestStart s.nextPtr
            (.request s.nextPtr method))
          (((s.nodeCreateRequest n (.fleet q)).agentRequestStart s.nextPtr
            (.request s.nextPtr method)).takeRef (.node n) (.fleet q)) :=
        SameDesk.takeRef _ (fun _ => Obj.noConfusion) _
      apply (of_desk htake not_false).trans
      refine modifyFleet hmine rfl fun sub hsub => ?_
      apply (List.mem_append.mp hsub).imp
      · intro hold
        exact ⟨sub, hold, rfl⟩
      · intro hsub
        rw [List.mem_singleton.mp hsub]
        have hsend : SameDesk (fun _ => False) (s.nodeCreateRequest n (.fleet q))
            ((s.nodeCreateRequest n (.fleet q)).sendAgent
              ((s.nodeCreateRequest n (.fleet q)).request s.nextPtr).node
              (.request s.nextPtr method)) := SameDesk.sendAgent _ _ _
        refine ⟨lt_of_lt_of_le hptr hsend.nextPtr, ?_⟩
        show ((Controller.sendAgent _ _ _).request s.nextPtr).handler = _
        rw [hsend.request, nodeCreateRequest_request, Function.update_self]
    · exact hcreate.trans (agentRequestUnref hptr hnew _)
  · exact refl s

end Overlooks

/-! ## Answers and cancellations -/

/-- The call that the callback of a request replies to, when it is not part of a fleet request. -/
def RequestHandler.caller : RequestHandler → Option Serial
  | .lifecycle serial _ => some serial
  | .forward serial => some serial
  | _ => none

namespace Overlooks

lemma reply (hne : serial ≠ call) {o : Output} (ho : o.answers = some serial) (s : Controller) :
    Overlooks mine call s (s.emit o) := by
  have hdesk : SameDesk (fun serial' => serial' = serial) s (s.emit o) :=
    SameDesk.emit s fun serial' heq => by
      rw [ho, Option.some.injEq] at heq
      exact heq.symm
  exact of_desk hdesk fun heq => hne heq.symm

section

variable (hplain : ∀ handler : RequestHandler, RequestHandler.caller handler = some call → mine handler = true)

include hplain

/-- The callback of a request that is not of `mine`. -/
lemma requestCallback {r : RequestId} (hmine : isMine mine s r = false) (m : AgentAnswer) :
    Overlooks mine call s (s.requestCallback r m) := by
  intro hs
  have hserial : ∀ {serial}, RequestHandler.caller (s.request r).handler = some serial →
      serial ≠ call := fun hcaller heq => by
    rw [heq] at hcaller
    have htrue := hplain _ hcaller
    unfold isMine at hmine
    rw [hmine] at htrue
    exact Bool.noConfusion htrue
  unfold Controller.requestCallback
  match hhandler : (s.request r).handler, m with
  | .lifecycle serial job, .error message =>
    rw [hhandler] at hserial
    exact reply (hserial rfl) rfl s hs
  | .lifecycle serial job, .ok rows =>
    rw [hhandler] at hserial
    have hadd : SameDesk (fun _ => False) s (s.addJob job).2 := SameDesk.addJob s job
    dsimp only
    split
    · rename_i heq
      rw [heq] at hadd
      exact of_desk hadd not_false hs
    · rename_i heq
      rw [heq] at hadd
      exact (of_desk hadd not_false).trans (reply (hserial rfl) rfl _) hs
  | .forward serial, .error message =>
    rw [hhandler] at hserial
    exact reply (hserial rfl) rfl s hs
  | .forward serial, .ok rows =>
    rw [hhandler] at hserial
    exact reply (hserial rfl) rfl s hs
  | .jobCancel serial, m => exact refl s hs
  | .fleet q, m =>
    unfold isMine at hmine
    rw [hhandler] at hmine
    exact agentFleetRequestCallback hmine (hs.apart r q hhandler hmine) r m hs

/-- The answer to a request that is not of `mine`. -/
lemma agentRequestCallback {r : RequestId} {m : AgentAnswer} (hmine : isMine mine s r = false)
    (hstep : s.agentRequestCallback r m = some s') : Overlooks mine call s s' := by
  intro hs
  unfold Controller.agentRequestCallback at hstep
  split at hstep
  · rename_i hpending
    have hr := hs.pending r hpending
    rw [Option.some.injEq] at hstep
    rw [← hstep]
    have herase : Overlooks mine call s { s with pendingRequests := s.pendingRequests.erase r } :=
      erasePending hr hmine
    have hcall : Overlooks mine call s
        (if (s.request r).isCancelled then { s with pendingRequests := s.pendingRequests.erase r }
          else Controller.requestCallback
            (Controller.runCallback { s with pendingRequests := s.pendingRequests.erase r } r) r
            m) := by
      split
      · exact herase
      · have hmine' : isMine mine
            (Controller.runCallback { s with pendingRequests := s.pendingRequests.erase r } r) r =
              false := hmine
        exact (herase.trans (runCallback hmine)).trans (requestCallback hplain hmine' m)
    have ⟨_, f⟩ := hcall hs
    exact (hcall.trans (agentRequestUnref (lt_of_lt_of_le hr f.nextPtr)
      ((f.isMine_eq hr).trans hmine) _)) hs
  · simp at hstep

lemma agentRequestCancel {r : RequestId} (hr : r < s.nextPtr) (hmine : isMine mine s r = false) :
    Overlooks mine call s (s.agentRequestCancel r) := by
  intro hs
  have hmarked : isMine mine
      (s.modifyRequest r fun req => { req with isCancelled := true }) r = false := by
    unfold isMine at hmine ⊢
    simpa using hmine
  have hmark : Overlooks mine call s
      ((s.modifyRequest r fun req => { req with isCancelled := true }).runCallback r) :=
    (markCancelled hr hmine).trans (runCallback hmarked)
  have hmine' : isMine mine
      ((s.modifyRequest r fun req => { req with isCancelled := true }).runCallback r) r = false :=
    hmarked
  have hcall := hmark.trans (requestCallback hplain hmine' (.error "Request cancelled"))
  have ⟨_, f⟩ := hcall hs
  exact (hcall.trans (agentRequestUnref (lt_of_lt_of_le hr f.nextPtr)
    ((f.isMine_eq hr).trans hmine) _)) hs

end

end Overlooks

/-! ## The last reference of a request -/

/-- A request is freed: it leaves the lists. -/
structure FreesRequest (r : RequestId) (s s' : Controller) : Prop where
  pending : s'.pendingRequests = s.pendingRequests.erase r
  request : s'.request = s.request
  fleet : s'.fleet = s.fleet
  outstanding : ∀ n, (s'.node n).outstandingRequests =
      (if n = (s.request r).node then (s.node n).outstandingRequests.erase r
        else (s.node n).outstandingRequests) ∨
    s.nextPtr ≤ n ∧ (s'.node n).outstandingRequests = []
  name : ∀ n < s.nextPtr, (s'.node n).name = (s.node n).name
  count : (s'.refs (.request r)).count = 0
  refs : ∀ r', r' ≠ r → s'.refs (.request r') = s.refs (.request r')
  freed : ∀ r', timesFreed s' (.request r') =
    timesFreed s (.request r') + if r' = r then 1 else 0
  nextPtr : s.nextPtr ≤ s'.nextPtr
  replies : ∀ serial, s'.repliesTo serial = s.repliesTo serial
  started : s'.startedRequests = s.startedRequests
  callbacks : s'.callbacks = s.callbacks
  freedFleets : s'.freedFleets = s.freedFleets

lemma agentRequestUnref_of_held {r : RequestId} (hcount : (s.refs (.request r)).count ≠ 1)
    (o : Owner) : s.agentRequestUnref r o = s.dropRef (.request r) o := by
  have hheld : (s.dropRef (.request r) o).isFreed (.request r) = false := by
    unfold isFreed
    rw [dropRef_refs, Function.update_self, RefCount.count_unref]
    exact decide_eq_false (by omega)
  unfold Controller.agentRequestUnref
  dsimp only
  rw [hheld]
  rfl

lemma agentRequestUnref_of_last {r : RequestId} (hcount : (s.refs (.request r)).count = 1)
    (o : Owner) : FreesRequest r s (s.agentRequestUnref r o) := by
  have hlast : (s.dropRef (.request r) o).isFreed (.request r) = true := by
    rw [isFreed_iff, dropRef_refs, Function.update_self, RefCount.count_unref]
    omega
  have hunref : ∃ t, SameDesk (fun _ => False) (s.dropRef (.request r) o) t ∧
      SameDesk (fun _ => False) (t.unlistRequest r) (s.agentRequestUnref r o) := by
    refine ⟨_, Overlooks.freeUserdata (s.dropRef (.request r) o) (s.request r).handler, ?_⟩
    unfold Controller.agentRequestUnref
    dsimp only
    rw [if_pos hlast]
    exact SameDesk.proxies.nodeUnref _ _ Owner.noConfusion
  have ⟨t, hfree, hnode⟩ := hunref
  have hnodes : ∀ n, ((t.unlistRequest r).node n).outstandingRequests =
      (if n = (s.request r).node then (t.node n).outstandingRequests.erase r
        else (t.node n).outstandingRequests) ∧
      ((t.unlistRequest r).node n).name = (t.node n).name := by
    intro n
    rw [show (s.request r).node = (t.request r).node by rw [hfree.request]; rfl]
    by_cases hn : n = (t.request r).node
    · rw [hn]
      simp
    · simp [hn]
  have hrefs : ∀ obj, (t.unlistRequest r).refs obj = t.refs obj := fun _ => rfl
  refine ⟨?_, hnode.request.trans hfree.request, hnode.fleet.trans hfree.fleet, fun n => ?_,
    fun n hn => ?_, ?_, fun r' hr' => ?_, fun r' => ?_, hfree.nextPtr.trans hnode.nextPtr,
    fun serial => (hnode.replies serial not_false).trans (hfree.replies serial not_false),
    hnode.started.trans hfree.started, hnode.callbacks.trans hfree.callbacks,
    hnode.freedFleets.trans hfree.freedFleets⟩
  · rw [hnode.pending, unlistRequest_pendingRequests, hfree.pending]
    rfl
  · apply (hnode.outstanding n).elim
    · intro heq
      rw [heq, (hnodes n).1]
      apply (hfree.outstanding n).imp
      · intro heq'
        rw [heq']
        rfl
      · intro hnew
        rw [hnew.2]
        refine ⟨hnew.1, ?_⟩
        split
        · rfl
        · rfl
    · intro hnew
      exact Or.inr ⟨hfree.nextPtr.trans hnew.1, hnew.2⟩
  · rw [hnode.name n (lt_of_lt_of_le hn hfree.nextPtr), (hnodes n).2, hfree.name n hn]
    rfl
  · rw [hnode.refs, hrefs, hfree.refs, dropRef_refs, Function.update_self, RefCount.count_unref,
      hcount]
    rfl
  · rw [hnode.refs, hrefs, hfree.refs, dropRef_refs, Function.update_of_ne]
    simpa using hr'
  · rw [hnode.freed]
    have hunlist : timesFreed (t.unlistRequest r) (.request r') = timesFreed t (.request r') :=
      timesFreed_listRemove t _ _ _
    rw [hunlist, hfree.freed]
    by_cases hr' : r' = r
    · rw [hr', if_pos rfl]
      show (s.mem ++ [MemEvent.unref (.request r) ((s.refs (.request r)).count - 1)]).count _ = _
      rw [hcount, List.count_append]
      simp [timesFreed]
    · rw [if_neg hr', Nat.add_zero]
      exact timesFreed_dropRef s (by simpa using hr') o

lemma Orderly.of_frees {mine : RequestHandler → Bool} {r : RequestId} (h : Orderly mine call s)
    (f : FreesRequest r s s') : Orderly mine call s' := by
  refine h.of_listed f.nextPtr (fun r' hr' => ?_) (fun n r' hr' => ?_) (fun r' => by rw [f.request])
    f.fleet
  · rw [f.pending] at hr'
    exact List.mem_of_mem_erase hr'
  · apply (f.outstanding n).elim
    · intro heq
      rw [heq] at hr'
      split at hr'
      · exact List.mem_of_mem_erase hr'
      · exact hr'
    · intro hnew
      rw [hnew.2] at hr'
      simp at hr'

/-- A request has been made and waits for its answer, and the call alone holds it. -/
structure Asks (n : NodeId) (handler : RequestHandler) (s s' : Controller) : Prop where
  pending : s'.pendingRequests = s.pendingRequests ++ [s.nextPtr]
  request : s'.request = (s.nodeCreateRequest n handler).request
  fleet : s'.fleet = s.fleet
  outstanding : ∀ n', (s'.node n').outstandingRequests =
      (s.node n').outstandingRequests ++ (if n' = n then [s.nextPtr] else []) ∨
    s.nextPtr ≤ n' ∧ (s'.node n').outstandingRequests = []
  count : (s'.refs (.request s.nextPtr)).count = 1
  refs : ∀ r, r ≠ s.nextPtr → s'.refs (.request r) = s.refs (.request r)
  nextPtr : s.nextPtr < s'.nextPtr
  replies : ∀ serial, s'.repliesTo serial = s.repliesTo serial

/-- The call is sent, so the request is kept for its answer. -/
lemma asks_runRequest (n : NodeId) (serial : Serial) (handler : RequestHandler)
    (c : RequestId → AgentCall) (failure : String) :
    Asks n handler s (s.runRequest n serial handler c true failure) := by
  have hsend : SameDesk (fun _ => False) (s.nodeCreateRequest n handler)
      ((s.nodeCreateRequest n handler).sendAgent
        ((s.nodeCreateRequest n handler).request s.nextPtr).node (c s.nextPtr)) :=
    SameDesk.sendAgent _ _ _
  have hrun : s.runRequest n serial handler c true failure =
      ((s.nodeCreateRequest n handler).agentRequestStart s.nextPtr
        (c s.nextPtr)).agentRequestUnref s.nextPtr .creator := rfl
  unfold agentRequestStart at hrun
  rw [hrun]
  generalize (s.nodeCreateRequest n handler).sendAgent _ _ = u at hsend
  have hnew : (u.refs (.request s.nextPtr)).count = 1 := by
    rw [hsend.refs]
    simp [nodeCreateRequest, newRef, takeRef]
  have hheld : ((({ u.takeRef (.request s.nextPtr) .pending with
      pendingRequests := s.pendingRequests ++ [s.nextPtr] } : Controller).refs
        (.request s.nextPtr))).count = 2 := by
    simp [takeRef, hnew]
  rw [nodeCreateRequest_pendingRequests, agentRequestUnref_of_held (by rw [hheld]; omega) .creator]
  refine ⟨rfl, hsend.request, hsend.fleet, fun n' => ?_, ?_, fun r hr => ?_,
    lt_of_lt_of_le (Nat.lt_succ_self _) hsend.nextPtr,
    fun serial => hsend.replies serial not_false⟩
  · apply (hsend.outstanding n').imp
    · intro heq
      exact heq.trans (nodeCreateRequest_outstanding n n' handler)
    · intro hfresh
      exact ⟨Nat.le_of_succ_le hfresh.1, hfresh.2⟩
  · rw [dropRef_refs, Function.update_self, RefCount.count_unref, hheld]
    rfl
  · have hne : Obj.request r ≠ .request s.nextPtr := by simpa using hr
    rw [dropRef_refs, Function.update_of_ne hne]
    show (u.takeRef (.request s.nextPtr) .pending).refs (.request r) = _
    rw [takeRef_refs, Function.update_of_ne hne, hsend.refs,
      nodeCreateRequest_refs_of_ne n handler hr]

/-- A request whose call cannot be sent is freed again, and nothing is left of it. -/
lemma frees_runRequest (n : NodeId) (serial : Serial) (handler : RequestHandler)
    (c : RequestId → AgentCall) (failure : String) :
    FreesRequest s.nextPtr ((s.emit (.replyError serial failure)).nodeCreateRequest n handler)
      (s.runRequest n serial handler c false failure) := by
  refine agentRequestUnref_of_last ?_ .creator
  simp [nodeCreateRequest, newRef, takeRef]

/-! ## Methods -/

namespace Overlooks

/-- A request that is freed at once leaves nothing behind. -/
lemma createAndFree (n : NodeId) {handler : RequestHandler}
    (hfleet : ∀ q, handler = .fleet q → q < s.nextPtr ∧
      (mine (.fleet q) = false → (s.fleet q).requestMessage ≠ call))
    (f : FreesRequest s.nextPtr (s.nodeCreateRequest n handler) s') :
    Overlooks mine call s s' := by
  intro hs
  have hcreated := hs.nodeCreateRequest n hfleet
  have hfun : isMine mine s' = isMine mine (s.nodeCreateRequest n handler) := by
    funext r
    unfold isMine
    rw [f.request]
  have hnode : (s.nodeCreateRequest n handler).request s.nextPtr = ⟨n, handler, false⟩ :=
    nodeCreateRequest_request_new n handler
  refine ⟨hcreated.of_frees f, ⟨?_, fun n' => ?_, fun r hr _ => ?_, fun r hr => ?_,
    fun r hr _ => ?_, fun r hr _ => ?_, fun q _ _ => ?_, fun q _ => ?_, fun n' hn' => ?_,
    (Nat.le_succ _).trans f.nextPtr, f.replies call, fun r hr => ?_, fun q _ _ => ?_,
    fun r _ _ => ?_⟩⟩
  · rw [f.pending, hfun]
    show (s.pendingRequests.erase s.nextPtr).filter _ = _
    rw [List.erase_of_not_mem fun hin => Nat.lt_irrefl _ (hs.pending _ hin),
      filter_isMine_nodeCreateRequest n handler hs.pending]
  · have hfresh : s.nextPtr ∉ (s.node n').outstandingRequests :=
      fun hin => Nat.lt_irrefl _ (hs.outstanding n' _ hin)
    rw [hfun]
    apply (f.outstanding n').imp
    · intro heq
      rw [heq, hnode, nodeCreateRequest_outstanding]
      split
      · rw [List.erase_append_right _ hfresh, List.erase_cons_head, List.append_nil,
          filter_isMine_nodeCreateRequest n handler (hs.outstanding n')]
      · rw [List.append_nil, filter_isMine_nodeCreateRequest n handler (hs.outstanding n')]
    · intro hnew
      rw [hnew.2]
      exact ⟨Nat.le_of_succ_le hnew.1, rfl⟩
  · rw [f.request]
    exact nodeCreateRequest_request_of_lt n handler hr
  · rw [f.request, nodeCreateRequest_request_of_lt n handler hr]
  · rw [f.refs r (Nat.ne_of_lt hr)]
    exact nodeCreateRequest_refs_of_ne n handler (Nat.ne_of_lt hr)
  · rw [f.freed, if_neg (Nat.ne_of_lt hr)]
    rfl
  · rw [f.fleet]
    rfl
  · rw [f.fleet]
    rfl
  · rw [f.name n' (Nat.lt_succ_of_lt hn')]
    by_cases hn : n' = n
    · rw [hn]
      simp
    · simp [hn]
  · have hlt : s.nextPtr < r := lt_of_lt_of_le (Nat.lt_succ_self _) (f.nextPtr.trans hr)
    rw [f.freed, if_neg (Nat.ne_of_gt hlt)]
    rfl
  · rw [f.freedFleets]
    simp
  · rw [f.callbacks]
    simp

/-- A request that is not of `mine` is made and its call is sent. -/
lemma runRequest_started (n : NodeId) {handler : RequestHandler} (hmine : mine handler = false)
    (hfleet : ∀ q, handler ≠ .fleet q) (serial : Serial) (c : RequestId → AgentCall)
    (failure : String) : Overlooks mine call s (s.runRequest n serial handler c true failure) := by
  intro hs
  have hcreate : Overlooks mine call s (s.nodeCreateRequest n handler) :=
    nodeCreateRequest n hmine fun q heq => absurd heq (hfleet q)
  have hptr : s.nextPtr < (s.nodeCreateRequest n handler).nextPtr := Nat.lt_succ_self _
  have hnew : isMine mine (s.nodeCreateRequest n handler) s.nextPtr = false := by
    unfold isMine
    rw [nodeCreateRequest_request_new]
    exact hmine
  have hstart : Overlooks mine call (s.nodeCreateRequest n handler)
      ((s.nodeCreateRequest n handler).agentRequestStart s.nextPtr (c s.nextPtr)) :=
    agentRequestStart hptr hnew _
  have ⟨hs', _⟩ := hcreate hs
  have ⟨_, f⟩ := hstart hs'
  exact (hcreate.trans hstart).trans (agentRequestUnref (lt_of_lt_of_le hptr f.nextPtr)
    ((f.isMine_eq hptr).trans hnew) .creator) hs

/-- The call cannot be sent. -/
lemma runRequest_failed (n : NodeId) {handler : RequestHandler}
    (hfleet : ∀ q, handler ≠ .fleet q) (serial : Serial) (c : RequestId → AgentCall)
    (failure : String) : Overlooks mine call (s.emit (.replyError serial failure))
      (s.runRequest n serial handler c false failure) := by
  have f := frees_runRequest (s := s) n serial handler c failure
  exact createAndFree n (fun q heq => absurd heq (hfleet q)) f

/-- A method makes a request for another call. -/
lemma runRequest (n : NodeId) (hne : serial ≠ call) {handler : RequestHandler}
    (hmine : mine handler = false) (hfleet : ∀ q, handler ≠ .fleet q) (c : RequestId → AgentCall)
    (started : Bool) (failure : String) :
    Overlooks mine call s (s.runRequest n serial handler c started failure) := by
  match started with
  | true => exact runRequest_started n hmine hfleet serial c failure
  | false => exact (reply hne rfl s).trans (runRequest_failed n hfleet serial c failure)

lemma nodeMethodForward (n : NodeId) (hne : serial ≠ call) (hmine : mine (.forward serial) = false)
    (method failure : String) (started : Bool) :
    Overlooks mine call s (s.nodeMethodForward n serial method failure started) := by
  unfold Controller.nodeMethodForward
  split
  · exact reply hne rfl s
  · exact runRequest n hne hmine (fun _ => RequestHandler.noConfusion) _ _ _

lemma nodeRunUnitLifecycleMethod (n : NodeId) (hne : serial ≠ call)
    (hmine : ∀ job, mine (.lifecycle serial job) = false) (method : LifecycleMethod)
    (unit mode : String) (startTime : UInt64) (started : Bool) :
    Overlooks mine call s
      (s.nodeRunUnitLifecycleMethod n serial method unit mode startTime started) := by
  unfold Controller.nodeRunUnitLifecycleMethod
  split
  · exact reply hne rfl s
  · have hjob : SameDesk (fun _ => False) s
        (s.jobNew n unit (lifecycleJobType method) startTime).2 :=
      SameDesk.jobs.jobNew s n unit _ _
    exact (of_desk hjob not_false).trans
      (runRequest n hne (hmine _) (fun _ => RequestHandler.noConfusion) _ _ _)

lemma jobMethodCancel (job : Job) (hne : serial ≠ call) (hmine : mine (.jobCancel serial) = false)
    (started : Bool) : Overlooks mine call s (s.jobMethodCancel job serial started) := by
  have hrun : Overlooks mine call s (s.runRequest job.node serial (.jobCancel serial)
      (fun r => .jobCancel r job.id) started "Failed to call the method to cancel job") :=
    runRequest job.node hne hmine (fun _ => RequestHandler.noConfusion) _ _ _
  unfold Controller.jobMethodCancel
  split
  · dsimp only
    split
    · exact hrun.trans (reply hne rfl _)
    · exact hrun
  · exact reply hne rfl s

lemma startSubRequests {q : FleetId} (hmine : mine (.fleet q) = false) (method : String)
    (starts : NodeId → Bool) (ns : List NodeId) (s : Controller)
    (hq : q < s.nextPtr ∧ (s.fleet q).requestMessage ≠ call) :
    Overlooks mine call s (ns.foldl (Controller.startSubRequest q method starts) s) := by
  induction ns generalizing s with
  | nil => exact refl s
  | cons n ns ih =>
    intro hs
    have hround : Overlooks mine call s (Controller.startSubRequest q method starts s n) :=
      startSubRequest hmine hq method starts n
    have ⟨_, f⟩ := hround hs
    have hq' : q < (Controller.startSubRequest q method starts s n).nextPtr ∧
        ((Controller.startSubRequest q method starts s n).fleet q).requestMessage ≠ call := by
      rw [f.message q hq.1]
      exact ⟨lt_of_lt_of_le hq.1 f.nextPtr, hq.2⟩
    exact (hround.trans (ih _ hq')) hs

/-- A fleet request for another call. -/
lemma agentFleetRequestStart (hne : serial ≠ call) (hmine : ∀ q, mine (.fleet q) = false ∨ q < s.nextPtr)
    (method : String) (starts : NodeId → Bool) :
    Overlooks mine call s (s.agentFleetRequestStart serial method starts) := by
  intro hs
  have hmine' : mine (.fleet s.nextPtr) = false :=
    (hmine s.nextPtr).resolve_right (Nat.lt_irrefl _)
  have hnew : Overlooks mine call s { s with
      fleet := Function.update s.fleet s.nextPtr ⟨serial, 0, s.numberOfNodes, []⟩
      nextPtr := s.nextPtr + 1 } := by
    intro hs
    have hfleet : ∀ q < s.nextPtr,
        Function.update s.fleet s.nextPtr ⟨serial, 0, s.numberOfNodes, []⟩ q = s.fleet q :=
      fun q hq => Function.update_of_ne (Nat.ne_of_lt hq) _ _
    refine ⟨⟨fun r hr => Nat.lt_succ_of_lt (hs.pending r hr),
        fun n r hr => Nat.lt_succ_of_lt (hs.outstanding n r hr), fun q sub hsub => ?_,
        fun r q hq => Nat.lt_succ_of_lt (hs.fleets r q hq), fun r q hq hm => ?_⟩,
      ⟨rfl, fun _ => Or.inl rfl, fun _ _ _ => rfl, fun _ _ => rfl, fun _ _ _ => rfl,
        fun _ _ _ => rfl, fun q hq _ => hfleet q hq, fun q hq => ?_, fun _ _ => rfl,
        Nat.le_succ _, rfl, fun _ _ => rfl, fun _ _ _ => rfl, fun _ _ _ => rfl⟩⟩
    · by_cases hq : q = s.nextPtr
      · rw [hq] at hsub
        simp at hsub
      · have hsub' : sub ∈ (s.fleet q).subReq := by simpa [hq] using hsub
        exact ⟨Nat.lt_succ_of_lt (hs.subs q sub hsub').1, (hs.subs q sub hsub').2⟩
    · show (Function.update s.fleet s.nextPtr _ q).requestMessage ≠ call
      rw [hfleet q (hs.fleets r q hq)]
      exact hs.apart r q hq hm
    · show (Function.update s.fleet s.nextPtr _ q).requestMessage = _
      rw [hfleet q hq]
  have hq : s.nextPtr < s.nextPtr + 1 ∧ (Function.update s.fleet s.nextPtr
      ⟨serial, 0, s.numberOfNodes, []⟩ s.nextPtr).requestMessage ≠ call := by
    rw [Function.update_self]
    exact ⟨Nat.lt_succ_self _, hne⟩
  have hloop := startSubRequests hmine' method starts s.nodes { s with
      fleet := Function.update s.fleet s.nextPtr ⟨serial, 0, s.numberOfNodes, []⟩
      nextPtr := s.nextPtr + 1 } hq
  have ⟨hs', _⟩ := hnew hs
  have ⟨_, f⟩ := hloop hs'
  unfold Controller.agentFleetRequestStart
  refine ((hnew.trans hloop).trans (agentFleetRequestMaybeDone hmine' ?_)) hs
  rw [f.message s.nextPtr hq.1]
  exact hq.2

end Overlooks

/-! ## Events -/

/-- An event other than an answer of an agent and the end leaves the requests of `mine` alone, unless
its call is answered by them. -/
theorem overlooks_step (hplain : ∀ handler : RequestHandler,
      RequestHandler.caller handler = some call → mine handler = true)
    (hforeign : ∀ handler serial, RequestHandler.caller handler = some serial → serial ≠ call →
      mine handler = false)
    (hcancel : ∀ serial, mine (.jobCancel serial) = false)
    (hfleet : ∀ q, mine (.fleet q) = false ∨ q < s.nextPtr) {e : Event} (hstep : s.step e = some s')
    (hserial : e.serial ≠ some call) (hstop : ∀ sync, e ≠ .stop sync)
    (hreply : ∀ r m, e = .agentReply r m → isMine mine s r = false) :
    Overlooks mine call s s' := by
  have hhandle := (step_eq_some_iff.mp hstep).2
  by_cases he : e.ofRequests = false
  · have hdesk : SameDesk (fun serial => serial ≠ call) s s' :=
      SameDesk.aside.step hstep he fun serial heq hcall => hserial (by rw [heq, hcall])
    exact Overlooks.of_desk hdesk (by simp)
  · have hne : ∀ {serial}, e.serial = some serial → serial ≠ call := fun heq hcall =>
      hserial (by rw [heq, hcall])
    match e with
    | .lifecycle n serial method unit mode startTime started =>
      rw [← (whenever_eq_some_iff.mp hhandle).2]
      exact Overlooks.nodeRunUnitLifecycleMethod n (hne rfl)
        (fun job => hforeign _ serial rfl (hne rfl)) method unit mode startTime started
    | .forward n serial method failure started =>
      rw [← (whenever_eq_some_iff.mp hhandle).2]
      exact Overlooks.nodeMethodForward n (hne rfl) (hforeign _ serial rfl (hne rfl)) method failure
        started
    | .jobCancel id serial started =>
      have ⟨job, _, hjob⟩ := Option.map_eq_some_iff.mp hhandle
      rw [← hjob]
      exact Overlooks.jobMethodCancel job (hne rfl) (hcancel serial) started
    | .fleet serial method starts =>
      rw [← Option.some.inj hhandle]
      exact Overlooks.agentFleetRequestStart (hne rfl) hfleet method starts
    | .agentReply r m => exact Overlooks.agentRequestCallback hplain (hreply r m rfl) hhandle
    | .stop sync => exact absurd rfl (hstop sync)

end Controller
end BlueChi
