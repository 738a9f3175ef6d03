import BlueChi.Controller.NodeReplies

/-!
# Who owns a request

A request is owned by the call that waits for the agent's answer, and by the slot of a fleet request
that still collects answers. `Requested` says that its reference count counts these owners, that it is
outstanding while it has one, and that its callback has run once when nothing waits for it any more.
-/

namespace BlueChi

open Execution

namespace Controller

variable {live : Prop} {held : List RequestId} {ok : Serial → Prop} {s s' s'' t : Controller}
  {r : RequestId} {q : FleetId} {n : NodeId}

/-! ## Owners -/

/-- The callback of the request is still to run: the agent has not answered, and the request is not
cancelled. -/
def awaits (s : Controller) (r : RequestId) : Bool :=
  r ∈ s.pendingRequests && !(s.request r).isCancelled

/-- The fleet request still waits for answers. -/
def collects (s : Controller) (q : FleetId) : Bool := (s.fleet q).nDone < (s.fleet q).subReq.length

/-- The requests in the slots of a fleet request. -/
def slotIds (s : Controller) (q : FleetId) : List RequestId := (s.fleet q).subReq.map (·.agentReq)

/-- A slot of a fleet request that still collects holds the request. -/
def slotted (s : Controller) (r : RequestId) : Bool :=
  match (s.request r).handler with
  | .fleet q => s.collects q && r ∈ s.slotIds q
  | _ => false

/-- The number of owners, `held` of which are functions that run. -/
def owners (held : List RequestId) (s : Controller) (r : RequestId) : ℕ :=
  (s.awaits r).toNat + (s.slotted r).toNat + held.count r

/-- What is true of each request. The last references are dropped in `agent_request_unref`, which
frees the userdata as well. -/
structure Ledger (live : Prop) (held : List RequestId) (s : Controller) (r : RequestId) : Prop where
  count : (s.refs (.request r)).count = s.owners held r
  outstanding : ∀ n, (s.node n).outstandingRequests.count r =
    if (s.request r).node = n ∧ 0 < s.owners held r then 1 else 0
  node : 0 < s.owners held r → (s.request r).node < s.nextPtr
  freed : timesFreed s (.request r) + (if 0 < s.owners held r then 1 else 0) ≤ 1
  started : s.startedRequests.count r ≤
    timesFreed s (.request r) + if 0 < s.owners held r then 1 else 0
  ran : s.callbacks.count r + (s.awaits r).toNat = s.startedRequests.count r
  pending : s.pendingRequests.count r ≤ 1
  alive : live → r ∈ s.pendingRequests → (s.request r).isCancelled = false
  waits : ∀ q, (s.request r).handler = .fleet q → s.awaits r = true → held.count r = 0 →
    s.slotted r = true
  used : ∀ q, (s.request r).handler = .fleet q → q < s.nextPtr

/-- What is true of each fleet request. -/
structure Slots (s : Controller) (q : FleetId) : Prop where
  subs : ∀ sub ∈ (s.fleet q).subReq,
    sub.agentReq < s.nextPtr ∧ (s.request sub.agentReq).handler = .fleet q
  ids : (s.slotIds q).Nodup
  answered : ∀ sub ∈ (s.fleet q).subReq, sub.m = none ↔ s.awaits sub.agentReq = true
  done : (s.fleet q).nDone = (s.fleet q).subReq.countP (·.m.isSome)
  freedOnce : s.freedFleets.count q ≤ 1
  collecting : s.collects q = true → s.freedFleets.count q = 0

/-- Nothing is at an address that is not in use yet. -/
structure Unused (held : List RequestId) (s : Controller) (r : RequestId) : Prop where
  held : held.count r = 0
  pending : r ∉ s.pendingRequests
  started : s.startedRequests.count r = 0
  freed : timesFreed s (.request r) = 0
  fleet : s.freedFleets.count r = 0

/-- The requests and the fleet requests are in order. As long as it is `live`, no request that is
waited for is cancelled. -/
structure Requested (live : Prop) (held : List RequestId) (s : Controller) : Prop where
  ledger : ∀ r, Ledger live held s r
  slots : ∀ q, Slots s q
  unused : ∀ r, s.nextPtr ≤ r → Unused held s r

/-! ## What stays the same -/

/-- Everything about one request is the same. -/
structure SameEntry (s s' : Controller) (r : RequestId) : Prop where
  awaits : s'.awaits r = s.awaits r
  slotted : s'.slotted r = s.slotted r
  request : s'.request r = s.request r
  count : (s'.refs (.request r)).count = (s.refs (.request r)).count
  outstanding : ∀ n, (s'.node n).outstandingRequests.count r =
      (s.node n).outstandingRequests.count r ∨
    s.nextPtr ≤ n ∧ (s'.node n).outstandingRequests.count r = 0
  freed : timesFreed s' (.request r) = timesFreed s (.request r)
  started : s'.startedRequests.count r = s.startedRequests.count r
  callbacks : s'.callbacks.count r = s.callbacks.count r
  pending : s'.pendingRequests.count r = s.pendingRequests.count r

lemma SameEntry.owners (f : SameEntry s s' r) {held' : List RequestId}
    (hheld : held'.count r = held.count r) : s'.owners held' r = s.owners held r := by
  unfold Controller.owners
  rw [f.awaits, f.slotted, hheld]

lemma Ledger.same (h : Ledger live held s r) (f : SameEntry s s' r) {held' : List RequestId}
    (hheld : held'.count r = held.count r) (hptr : s.nextPtr ≤ s'.nextPtr) :
    Ledger live held' s' r := by
  have howners := f.owners hheld
  refine ⟨?_, fun n => ?_, fun howned => ?_, ?_, ?_, ?_, ?_, fun hlive hpending => ?_,
    fun q hq hawaits hnone => ?_, fun q hq => ?_⟩
  · rw [f.count, howners]
    exact h.count
  · rw [f.request, howners]
    apply (f.outstanding n).elim
    · intro heq
      rw [heq]
      exact h.outstanding n
    · intro hnew
      -- a node at a new address has no request
      rw [hnew.2, if_neg]
      intro ⟨hnode, howned⟩
      rw [← hnode] at hnew
      exact absurd (h.node howned) (not_lt.mpr hnew.1)
  · rw [howners] at howned
    rw [f.request]
    exact lt_of_lt_of_le (h.node howned) hptr
  · rw [f.freed, howners]
    exact h.freed
  · rw [f.freed, howners, f.started]
    exact h.started
  · rw [f.callbacks, f.awaits, f.started]
    exact h.ran
  · rw [f.pending]
    exact h.pending
  · rw [← List.count_pos_iff, f.pending, List.count_pos_iff] at hpending
    rw [f.request]
    exact h.alive hlive hpending
  · rw [f.request] at hq
    rw [f.awaits] at hawaits
    rw [f.slotted]
    exact h.waits q hq hawaits (hheld.symm.trans hnone)
  · rw [f.request] at hq
    exact lt_of_lt_of_le (h.used q hq) hptr

/-- The slots of a fleet request stay when its requests wait as before. -/
lemma Slots.same (h : Slots s q) (hfleet : s'.fleet q = s.fleet q)
    (hhandler : ∀ r < s.nextPtr, (s'.request r).handler = (s.request r).handler)
    (hawaits : ∀ r ∈ s.slotIds q, s'.awaits r = s.awaits r)
    (hfreed : s'.freedFleets.count q = s.freedFleets.count q) (hptr : s.nextPtr ≤ s'.nextPtr) :
    Slots s' q := by
  refine ⟨fun sub hsub => ?_, ?_, fun sub hsub => ?_, ?_, ?_, fun hcollects => ?_⟩
  · rw [hfleet] at hsub
    have ⟨hused, hsame⟩ := h.subs sub hsub
    rw [hhandler _ hused]
    exact ⟨lt_of_lt_of_le hused hptr, hsame⟩
  · unfold slotIds
    rw [hfleet]
    exact h.ids
  · rw [hfleet] at hsub
    rw [hawaits _ (List.mem_map_of_mem hsub)]
    exact h.answered sub hsub
  · rw [hfleet]
    exact h.done
  · rw [hfreed]
    exact h.freedOnce
  · unfold collects at hcollects
    rw [hfleet] at hcollects
    rw [hfreed]
    exact h.collecting hcollects

/-- Everything about requests and fleet requests is the same. -/
structure SameRequests (s s' : Controller) : Prop where
  pending : s'.pendingRequests = s.pendingRequests
  request : s'.request = s.request
  fleet : s'.fleet = s.fleet
  outstanding : ∀ n, (s'.node n).outstandingRequests = (s.node n).outstandingRequests ∨
    s.nextPtr ≤ n ∧ (s'.node n).outstandingRequests = []
  refs : ∀ r, s'.refs (.request r) = s.refs (.request r)
  freed : ∀ r, timesFreed s' (.request r) = timesFreed s (.request r)
  nextPtr : s.nextPtr ≤ s'.nextPtr
  started : s'.startedRequests = s.startedRequests
  callbacks : s'.callbacks = s.callbacks
  freedFleets : s'.freedFleets = s.freedFleets

lemma SameDesk.requests (f : SameDesk ok s s') : SameRequests s s' :=
  ⟨f.pending, f.request, f.fleet, f.outstanding, f.refs, f.freed, f.nextPtr, f.started, f.callbacks,
    f.freedFleets⟩

namespace SameRequests

lemma awaits (f : SameRequests s s') (r : RequestId) : s'.awaits r = s.awaits r := by
  unfold Controller.awaits
  rw [f.pending, f.request]

lemma entry (f : SameRequests s s') (r : RequestId) : SameEntry s s' r where
  awaits := f.awaits r
  slotted := by
    unfold slotted collects slotIds
    rw [f.request, f.fleet]
  request := by rw [f.request]
  count := by rw [f.refs]
  outstanding n := by
    apply (f.outstanding n).imp
    · intro heq
      rw [heq]
    · intro hnew
      rw [hnew.2]
      exact ⟨hnew.1, rfl⟩
  freed := f.freed r
  started := by rw [f.started]
  callbacks := by rw [f.callbacks]
  pending := by rw [f.pending]

end SameRequests

namespace Requested

lemma of_requests (h : Requested live held s) (f : SameRequests s s') : Requested live held s' where
  ledger r := (h.ledger r).same (f.entry r) rfl f.nextPtr
  slots q := (h.slots q).same (by rw [f.fleet]) (fun r _ => by rw [f.request])
    (fun r _ => f.awaits r) (by rw [f.freedFleets]) f.nextPtr
  unused r hr := by
    have hold := h.unused r (f.nextPtr.trans hr)
    refine ⟨hold.held, ?_, ?_, ?_, ?_⟩
    · rw [f.pending]
      exact hold.pending
    · rw [f.started]
      exact hold.started
    · rw [f.freed]
      exact hold.freed
    · rw [f.freedFleets]
      exact hold.fleet

/-- Only the number of references that a function holds matters. -/
lemma of_count (h : Requested live held s) {held' : List RequestId}
    (hheld : ∀ r, held'.count r = held.count r) : Requested live held' s where
  ledger r := (h.ledger r).same ⟨rfl, rfl, rfl, rfl, fun _ => Or.inl rfl, rfl, rfl, rfl, rfl⟩
    (hheld r) (le_refl _)
  slots := h.slots
  unused r hr := { h.unused r hr with held := (hheld r).trans (h.unused r hr).held }

end Requested

/-! ## A new request -/

/-- A request has been made at the next free address. -/
structure MakesRequest (n : NodeId) (handler : RequestHandler) (s s' : Controller) : Prop where
  pending : s'.pendingRequests = s.pendingRequests
  request : ∀ r, r ≠ s.nextPtr → s'.request r = s.request r
  new : s'.request s.nextPtr = ⟨n, handler, false⟩
  fleet : s'.fleet = s.fleet
  outstanding : ∀ n', (s'.node n').outstandingRequests =
    (s.node n').outstandingRequests ++ if n' = n then [s.nextPtr] else []
  refs : ∀ r, r ≠ s.nextPtr → s'.refs (.request r) = s.refs (.request r)
  count : (s'.refs (.request s.nextPtr)).count = 1
  freed : ∀ r, timesFreed s' (.request r) = timesFreed s (.request r)
  nextPtr : s'.nextPtr = s.nextPtr + 1
  started : s'.startedRequests = s.startedRequests
  callbacks : s'.callbacks = s.callbacks
  freedFleets : s'.freedFleets = s.freedFleets

lemma makesRequest_nodeCreateRequest (s : Controller) (n : NodeId) (handler : RequestHandler) :
    MakesRequest n handler s (s.nodeCreateRequest n handler) where
  pending := by simp
  request r hr := nodeCreateRequest_request_of_ne n handler hr
  new := nodeCreateRequest_request_new n handler
  fleet := by simp
  outstanding n' := nodeCreateRequest_outstanding n n' handler
  refs r hr := nodeCreateRequest_refs_of_ne n handler hr
  count := by simp [newRef, takeRef]
  freed r := by simp [timesFreed]
  nextPtr := by simp
  started := by simp
  callbacks := by simp
  freedFleets := by simp

namespace MakesRequest

variable {handler : RequestHandler}

lemma entry (f : MakesRequest n handler s s') (hr : r ≠ s.nextPtr) : SameEntry s s' r where
  awaits := by
    unfold awaits
    rw [f.request r hr, f.pending]
  slotted := by
    unfold slotted collects slotIds
    rw [f.request r hr, f.fleet]
  request := f.request r hr
  count := by rw [f.refs r hr]
  outstanding n' := by
    rw [f.outstanding n', List.count_append]
    apply Or.inl
    split
    · rw [List.count_singleton, if_neg (by simpa using hr.symm), Nat.add_zero]
    · rfl
  freed := f.freed r
  started := by rw [f.started]
  callbacks := by rw [f.callbacks]
  pending := by rw [f.pending]

end MakesRequest

namespace Requested

lemma not_mem_slotIds (h : Requested live held s) (q : FleetId) : s.nextPtr ∉ s.slotIds q := by
  intro hmem
  have ⟨sub, hsub, heq⟩ := List.mem_map.mp hmem
  exact absurd ((h.slots q).subs sub hsub).1 (not_lt.mpr (Nat.le_of_eq heq.symm))

/-- Nothing waits for a request at an address that is not in use yet. -/
lemma unused_awaits (h : Requested live held s) (hr : s.nextPtr ≤ r) : s.awaits r = false := by
  unfold awaits
  rw [decide_eq_false (h.unused r hr).pending, Bool.false_and]

lemma unused_owners (h : Requested live held s) (hr : s.nextPtr ≤ r) : s.owners held r = 0 := by
  have hslotted : s.slotted r = false := by
    unfold slotted
    split
    · rename_i q hq
      have hnot : r ∉ s.slotIds q := fun hmem => by
        have ⟨sub, hsub, heq⟩ := List.mem_map.mp hmem
        exact absurd ((h.slots q).subs sub hsub).1 (not_lt.mpr (heq ▸ hr))
      rw [decide_eq_false hnot, Bool.and_false]
    · rfl
  unfold owners
  rw [h.unused_awaits hr, hslotted, (h.unused r hr).held]
  rfl

/-- `node_create_request`. The function that runs holds the reference. -/
lemma creates (h : Requested live held s) {handler : RequestHandler} (f : MakesRequest n handler s s')
    (hn : n < s.nextPtr) (hfleet : ∀ q, handler = .fleet q → q < s.nextPtr) :
    Requested live (s.nextPtr :: held) s' := by
  have hptr : s.nextPtr ≤ s'.nextPtr := by
    rw [f.nextPtr]
    exact Nat.le_succ _
  refine ⟨fun r => ?_, fun q => ?_, fun r hr => ?_⟩
  · by_cases hr : r = s.nextPtr
    · have hnew := h.unused s.nextPtr (le_refl _)
      have hold := h.ledger s.nextPtr
      have hawaits : s'.awaits s.nextPtr = false := by
        unfold awaits
        rw [f.pending, decide_eq_false hnew.pending, Bool.false_and]
      have hslotted : s'.slotted s.nextPtr = false := by
        unfold slotted
        split
        · rename_i q _
          have hnot : s.nextPtr ∉ s'.slotIds q := by
            unfold slotIds
            rw [f.fleet]
            exact h.not_mem_slotIds q
          rw [decide_eq_false hnot, Bool.and_false]
        · rfl
      have howners : s'.owners (s.nextPtr :: held) s.nextPtr = 1 := by
        unfold owners
        rw [hawaits, hslotted, List.count_cons_self, hnew.held]
        rfl
      have hnone : ∀ n', (s.node n').outstandingRequests.count s.nextPtr = 0 := by
        intro n'
        rw [hold.outstanding, h.unused_owners (le_refl _), if_neg]
        exact fun hand => absurd hand.2 (lt_irrefl 0)
      have hran := hold.ran
      rw [hnew.started, h.unused_awaits (le_refl _)] at hran
      rw [hr]
      refine ⟨?_, fun n' => ?_, fun _ => ?_, ?_, ?_, ?_, ?_, fun _ hpending => ?_,
        fun q _ hwaits => ?_, fun q hq => ?_⟩
      · rw [howners, f.count]
        rfl
      · rw [f.outstanding, List.count_append, hnone, howners, f.new]
        by_cases hn' : n' = n
        · simp [hn']
        · simp [hn', Ne.symm hn']
      · rw [f.new]
        exact lt_of_lt_of_le hn hptr
      · rw [f.freed, hnew.freed, howners]
        exact le_refl _
      · rw [f.freed, f.started, hnew.started]
        exact Nat.zero_le _
      · rw [f.callbacks, f.started, hawaits, hnew.started]
        exact hran
      · rw [f.pending]
        exact hold.pending
      · rw [f.new]
      · rw [hawaits] at hwaits
        exact absurd hwaits Bool.false_ne_true
      · rw [f.new] at hq
        exact lt_of_lt_of_le (hfleet q hq) hptr
    · exact (h.ledger r).same (f.entry hr) (List.count_cons_of_ne (Ne.symm hr)) hptr
  · apply (h.slots q).same (by rw [f.fleet])
    · intro r hr
      rw [f.request r (Nat.ne_of_lt hr)]
    · intro r hr
      apply (f.entry _).awaits
      intro heq
      exact h.not_mem_slotIds q (heq ▸ hr)
    · rw [f.freedFleets]
    · exact hptr
  · rw [f.nextPtr] at hr
    have hlt : s.nextPtr < r := hr
    have hold := h.unused r hlt.le
    refine ⟨?_, ?_, ?_, ?_, ?_⟩
    · rw [List.count_cons_of_ne (Nat.ne_of_lt hlt)]
      exact hold.held
    · rw [f.pending]
      exact hold.pending
    · rw [f.started]
      exact hold.started
    · rw [f.freed]
      exact hold.freed
    · rw [f.freedFleets]
      exact hold.fleet

end Requested

/-! ## Sending the call -/

/-- The call of the request has been sent, and waits for the answer. -/
structure Calls (r : RequestId) (s s' : Controller) : Prop where
  pending : s'.pendingRequests = s.pendingRequests ++ [r]
  request : s'.request = s.request
  fleet : s'.fleet = s.fleet
  outstanding : ∀ n, (s'.node n).outstandingRequests = (s.node n).outstandingRequests ∨
    s.nextPtr ≤ n ∧ (s'.node n).outstandingRequests = []
  refs : ∀ r', r' ≠ r → s'.refs (.request r') = s.refs (.request r')
  count : (s'.refs (.request r)).count = (s.refs (.request r)).count + 1
  freed : ∀ r', timesFreed s' (.request r') = timesFreed s (.request r')
  nextPtr : s.nextPtr ≤ s'.nextPtr
  started : s'.startedRequests = s.startedRequests ++ [r]
  callbacks : s'.callbacks = s.callbacks
  freedFleets : s'.freedFleets = s.freedFleets

lemma calls_agentRequestStart (s : Controller) (r : RequestId) (call : AgentCall) :
    Calls r s (s.agentRequestStart r call) := by
  have hsend : SameDesk (fun _ => False) s (s.sendAgent (s.request r).node call) :=
    SameDesk.sendAgent s _ _
  unfold agentRequestStart
  generalize s.sendAgent (s.request r).node call = u at hsend
  have hrefs : ∀ r', r' ≠ r → (u.takeRef (.request r) .pending).refs (.request r') =
      u.refs (.request r') := fun r' hr' => by
    simp [takeRef, hr']
  have hcount : ((u.takeRef (.request r) .pending).refs (.request r)).count =
      (u.refs (.request r)).count + 1 := by
    simp [takeRef]
  exact ⟨rfl, hsend.request, hsend.fleet, hsend.outstanding,
    fun r' hr' => (hrefs r' hr').trans (hsend.refs r'), by rw [← hsend.refs]; exact hcount,
    hsend.freed, hsend.nextPtr, rfl, hsend.callbacks, hsend.freedFleets⟩

namespace Calls

lemma awaits (f : Calls r s s') (halive : (s.request r).isCancelled = false) :
    s'.awaits r = true := by
  unfold Controller.awaits
  rw [f.request, f.pending, halive]
  simp

lemma entry (f : Calls r s s') {r' : RequestId} (hr' : r' ≠ r) : SameEntry s s' r' where
  awaits := by
    unfold Controller.awaits
    rw [f.request, f.pending]
    simp [hr']
  slotted := by
    unfold slotted collects slotIds
    rw [f.request, f.fleet]
  request := by rw [f.request]
  count := by rw [f.refs r' hr']
  outstanding n := by
    apply (f.outstanding n).imp
    · intro heq
      rw [heq]
    · intro hnew
      rw [hnew.2]
      exact ⟨hnew.1, rfl⟩
  freed := f.freed r'
  started := by
    rw [f.started, List.count_append, List.count_singleton, if_neg (by simpa using hr'.symm),
      Nat.add_zero]
  callbacks := by rw [f.callbacks]
  pending := by
    rw [f.pending, List.count_append, List.count_singleton, if_neg (by simpa using hr'.symm),
      Nat.add_zero]

end Calls

/-- A request that a function has made and nobody else knows. -/
structure Made (held : List RequestId) (s : Controller) (r : RequestId) : Prop where
  held : r ∈ held
  used : r < s.nextPtr
  pending : r ∉ s.pendingRequests
  started : s.startedRequests.count r = 0
  alive : (s.request r).isCancelled = false
  slots : ∀ q, r ∉ s.slotIds q

/-- `agent_request_start`. -/
lemma Requested.calls (h : Requested live held s) (f : Calls r s s') (hr : Made held s r) :
    Requested live held s' := by
  refine ⟨fun r' => ?_, fun q => ?_, fun r' hr' => ?_⟩
  · by_cases heq : r' = r
    · have hold := h.ledger r
      have hbefore : s.awaits r = false := by
        unfold awaits
        rw [decide_eq_false hr.pending, Bool.false_and]
      have hawaits : s'.awaits r = true := f.awaits hr.alive
      have hslotted : s'.slotted r = s.slotted r := by
        unfold slotted collects slotIds
        rw [f.request, f.fleet]
      have howners : s'.owners held r = s.owners held r + 1 := by
        unfold owners
        rw [hawaits, hslotted, hbefore]
        simp only [Bool.toNat_true, Bool.toNat_false]
        omega
      have howned : 0 < s.owners held r := by
        have hpos := List.count_pos_iff.mpr hr.held
        unfold owners
        omega
      have hran := hold.ran
      have hfreed := hold.freed
      rw [if_pos howned] at hfreed
      rw [hbefore, hr.started] at hran
      rw [heq]
      refine ⟨?_, fun n => ?_, fun _ => ?_, ?_, ?_, ?_, ?_, fun _ _ => ?_, fun q hq _ hnone => ?_,
        fun q hq => ?_⟩
      · rw [f.count, hold.count, howners]
        rfl
      · have hout := hold.outstanding n
        rw [f.request, howners]
        simp only [howned, and_true, Nat.succ_pos] at hout ⊢
        apply (f.outstanding n).elim
        · intro hsame
          rw [hsame]
          exact hout
        · intro hnew
          rw [hnew.2, if_neg]
          · rfl
          · intro hnode
            rw [← hnode] at hnew
            exact absurd (hold.node howned) (not_lt.mpr hnew.1)
      · rw [f.request]
        exact lt_of_lt_of_le (hold.node howned) f.nextPtr
      · rw [f.freed, howners, if_pos (Nat.succ_pos _)]
        exact hfreed
      · rw [f.freed, f.started, howners, if_pos (Nat.succ_pos _), List.count_append, hr.started]
        simp
      · rw [f.callbacks, f.started, List.count_append, hr.started, hawaits]
        simpa using hran
      · rw [f.pending, List.count_append, List.count_eq_zero.mpr hr.pending]
        simp
      · rw [f.request]
        exact hr.alive
      · exact absurd (List.count_pos_iff.mpr hr.held) (by omega)
      · rw [f.request] at hq
        exact lt_of_lt_of_le (hold.used q hq) f.nextPtr
    · exact (h.ledger r').same (f.entry heq) rfl f.nextPtr
  · apply (h.slots q).same (by rw [f.fleet]) (fun _ _ => by rw [f.request]) _
      (by rw [f.freedFleets]) f.nextPtr
    intro r' hr'
    exact (f.entry fun heq => hr.slots q (heq ▸ hr')).awaits
  · have hne : r' ≠ r := fun heq =>
      absurd (lt_of_lt_of_le hr.used f.nextPtr) (not_lt.mpr (heq ▸ hr'))
    have hold := h.unused r' (f.nextPtr.trans hr')
    refine ⟨hold.held, ?_, ?_, ?_, ?_⟩
    · rw [f.pending]
      simp [hold.pending, hne]
    · rw [(f.entry hne).started]
      exact hold.started
    · rw [f.freed]
      exact hold.freed
    · rw [f.freedFleets]
      exact hold.fleet

/-! ## Dropping a reference -/

/-- The last reference of a request is dropped. -/
lemma FreesRequest.entry (f : FreesRequest r s s') {r' : RequestId} (hr' : r' ≠ r) :
    SameEntry s s' r' where
  awaits := by
    unfold awaits
    rw [f.request, f.pending]
    simp [List.mem_erase_of_ne hr']
  slotted := by
    unfold slotted collects slotIds
    rw [f.request, f.fleet]
  request := by rw [f.request]
  count := by rw [f.refs r' hr']
  outstanding n := by
    apply (f.outstanding n).imp
    · intro heq
      rw [heq]
      split
      · exact List.count_erase_of_ne hr'
      · rfl
    · intro hnew
      rw [hnew.2]
      exact ⟨hnew.1, rfl⟩
  freed := by rw [f.freed r', if_neg hr', Nat.add_zero]
  started := by rw [f.started]
  callbacks := by rw [f.callbacks]
  pending := by
    rw [f.pending]
    exact List.count_erase_of_ne hr'

namespace Requested

/-- The count reaches zero when the function that runs is the only owner. -/
lemma frees (h : Requested live (r :: held) s) (f : FreesRequest r s s')
    (hlast : s.owners held r = 0) : Requested live held s' ∧ s'.awaits = s.awaits := by
  have hold := h.ledger r
  have hbefore : s.owners (r :: held) r = 1 := by
    unfold owners at hlast ⊢
    rw [List.count_cons_self]
    omega
  have hnone : s.awaits r = false ∧ s.slotted r = false ∧ held.count r = 0 := by
    unfold owners at hlast
    have hboth : (s.awaits r).toNat = 0 ∧ (s.slotted r).toNat = 0 ∧ held.count r = 0 := by omega
    exact ⟨Bool.toNat_eq_zero.mp hboth.1, Bool.toNat_eq_zero.mp hboth.2.1, hboth.2.2⟩
  have hafter : s'.awaits r = false := by
    have hwaits := hnone.1
    unfold awaits at hwaits ⊢
    rw [f.request, f.pending]
    rw [Bool.and_eq_false_iff] at hwaits ⊢
    apply hwaits.imp_left
    intro hpending
    apply decide_eq_false
    intro hmem
    exact of_decide_eq_false hpending (List.mem_of_mem_erase hmem)
  have hawaits : s'.awaits = s.awaits := by
    funext r'
    by_cases hr' : r' = r
    · rw [hr', hafter, hnone.1]
    · exact (f.entry hr').awaits
  have howners : s'.owners held r = 0 := by
    have hslotted : s'.slotted r = s.slotted r := by
      unfold slotted collects slotIds
      rw [f.request, f.fleet]
    unfold owners
    rw [hafter, hslotted, hnone.2.1, hnone.2.2]
    rfl
  refine ⟨⟨fun r' => ?_, fun q => ?_, fun r' hr' => ?_⟩, hawaits⟩
  · by_cases hr' : r' = r
    · have hnode := hold.node (by omega)
      have hfreed := hold.freed
      have hstarted := hold.started
      have hran := hold.ran
      rw [hbefore] at hfreed hstarted
      rw [if_pos Nat.one_pos] at hfreed hstarted
      rw [hr']
      refine ⟨?_, fun n => ?_, fun howned => ?_, ?_, ?_, ?_, ?_, fun hlive hpending => ?_,
        fun q _ hwaits => ?_, fun q hq => ?_⟩
      · rw [f.count, howners]
        rfl
      · have hout := hold.outstanding n
        rw [howners, if_neg fun hand => absurd hand.2 (lt_irrefl 0)]
        rw [hbefore] at hout
        apply (f.outstanding n).elim
        · intro heq
          rw [heq]
          split
          · rename_i hn
            rw [if_pos ⟨hn.symm, Nat.one_pos⟩] at hout
            rw [List.count_erase_self, hout]
          · rename_i hn
            rw [if_neg fun hand => hn hand.1.symm] at hout
            exact hout
        · intro hnew
          rw [hnew.2]
          rfl
      · rw [howners] at howned
        exact absurd howned (lt_irrefl 0)
      · rw [f.freed, howners, if_pos rfl, if_neg (lt_irrefl 0)]
        exact hfreed
      · rw [f.freed, howners, f.started, if_pos rfl, if_neg (lt_irrefl 0)]
        exact hstarted
      · rw [f.callbacks, f.started, hafter, ← hnone.1]
        exact hran
      · rw [f.pending]
        exact List.erase_sublist.count_le r |>.trans hold.pending
      · rw [f.pending] at hpending
        rw [f.request]
        exact hold.alive hlive (List.mem_of_mem_erase hpending)
      · rw [hafter] at hwaits
        exact absurd hwaits Bool.false_ne_true
      · rw [f.request] at hq
        exact lt_of_lt_of_le (hold.used q hq) f.nextPtr
    · exact (h.ledger r').same (f.entry hr') (List.count_cons_of_ne (Ne.symm hr')).symm f.nextPtr
  · exact (h.slots q).same (by rw [f.fleet]) (fun _ _ => by rw [f.request])
      (fun r' _ => congrFun hawaits r') (by rw [f.freedFleets]) f.nextPtr
  · have hunused := h.unused r' (f.nextPtr.trans hr')
    have hne : r' ≠ r := fun heq => by
      have hheld := hunused.held
      rw [heq, List.count_cons_self] at hheld
      exact absurd hheld (Nat.succ_ne_zero _)
    refine ⟨?_, ?_, ?_, ?_, ?_⟩
    · have hheld := hunused.held
      rwa [List.count_cons_of_ne (Ne.symm hne)] at hheld
    · rw [f.pending]
      exact fun hmem => hunused.pending (List.mem_of_mem_erase hmem)
    · rw [f.started]
      exact hunused.started
    · rw [(f.entry hne).freed]
      exact hunused.freed
    · rw [f.freedFleets]
      exact hunused.fleet

/-- The count stays positive when there is another owner. -/
lemma drops (h : Requested live (r :: held) s) (o : Owner) (hother : s.owners held r ≠ 0)
    (hdone : s.awaits r = true → ∀ q, (s.request r).handler ≠ .fleet q) :
    Requested live held (s.dropRef (.request r) o) := by
  have hsame : ∀ r', r' ≠ r → SameEntry s (s.dropRef (.request r) o) r' := by
    intro r' hr'
    have hobj : Obj.request r' ≠ .request r := by simpa using hr'
    refine ⟨rfl, rfl, rfl, ?_, fun _ => Or.inl rfl, timesFreed_dropRef s hobj o, rfl, rfl, rfl⟩
    rw [dropRef_refs, Function.update_of_ne hobj]
  have hbefore : s.owners (r :: held) r = s.owners held r + 1 := by
    unfold owners
    rw [List.count_cons_self]
    omega
  have hold := h.ledger r
  have hfreed : timesFreed (s.dropRef (.request r) o) (.request r) =
      timesFreed s (.request r) := by
    have hcount := hold.count
    have hev : MemEvent.unref (.request r) ((s.refs (.request r)).count - 1) ≠
        .unref (.request r) 0 := fun heq => by
      have hzero := (MemEvent.unref.inj heq).2
      rw [hcount, hbefore] at hzero
      omega
    show (s.mem ++ [MemEvent.unref (.request r) ((s.refs (.request r)).count - 1)]).count
      (.unref (.request r) 0) = _
    rw [List.count_append, List.count_singleton, if_neg (by simpa using hev), Nat.add_zero]
    rfl
  refine ⟨fun r' => ?_, fun q => (h.slots q).same rfl (fun _ _ => rfl) (fun _ _ => rfl) rfl
    (le_refl _), fun r' hr' => ?_⟩
  · by_cases hr' : r' = r
    · have howned : 0 < s.owners held r := Nat.pos_of_ne_zero hother
      have hsame' : s.owners (r :: held) r ≠ 0 ∧ 0 < s.owners (r :: held) r := by omega
      rw [hr']
      refine ⟨?_, fun n => ?_, fun _ => ?_, ?_, ?_, hold.ran, hold.pending, hold.alive,
        fun q hq hawaits _ => absurd hq (hdone hawaits q), hold.used⟩
      · rw [dropRef_refs, Function.update_self, RefCount.count_unref, hold.count, hbefore]
        show ((s.owners held r + 1 : ℕ) : ℤ) - 1 = s.owners held r
        omega
      · have hout := hold.outstanding n
        simp only [hsame'.2, and_true] at hout
        show (s.node n).outstandingRequests.count r =
          if (s.request r).node = n ∧ 0 < s.owners held r then 1 else 0
        simp only [howned, and_true]
        exact hout
      · exact hold.node hsame'.2
      · have hle := hold.freed
        rw [if_pos hsame'.2] at hle
        rw [hfreed, if_pos (show 0 < owners held (s.dropRef (.request r) o) r from howned)]
        exact hle
      · have hle := hold.started
        rw [if_pos hsame'.2] at hle
        rw [hfreed, if_pos (show 0 < owners held (s.dropRef (.request r) o) r from howned)]
        exact hle
    · exact (h.ledger r').same (hsame r' hr') (List.count_cons_of_ne (Ne.symm hr')).symm (le_refl _)
  · have hunused := h.unused r' hr'
    have hne : r' ≠ r := fun heq => by
      have hheld := hunused.held
      rw [heq, List.count_cons_self] at hheld
      exact absurd hheld (Nat.succ_ne_zero _)
    have hheld := hunused.held
    rw [List.count_cons_of_ne (Ne.symm hne)] at hheld
    exact ⟨hheld, hunused.pending, hunused.started, (hsame r' hne).freed ▸ hunused.freed,
      hunused.fleet⟩

end Requested

/-! ## What a step leaves waiting -/

/-- The callbacks of the requests that are not `gone` are still to run, and no node lists more. -/
structure Wanes (gone : List RequestId) (s s' : Controller) : Prop where
  awaits : ∀ r ∉ gone, s'.awaits r = s.awaits r
  outstanding : ∀ n, ∀ r ∈ (s'.node n).outstandingRequests, r ∈ (s.node n).outstandingRequests

namespace Wanes

variable {gone : List RequestId}

lemma refl (s : Controller) : Wanes gone s s := ⟨fun _ _ => rfl, fun _ _ => id⟩

lemma trans (h : Wanes gone s s') (h' : Wanes gone s' s'') : Wanes gone s s'' where
  awaits r hr := (h'.awaits r hr).trans (h.awaits r hr)
  outstanding n r hr := h.outstanding n r (h'.outstanding n r hr)

lemma mono (h : Wanes [] s s') : Wanes gone s s' := ⟨fun r _ => h.awaits r (by simp), h.outstanding⟩

end Wanes

lemma SameRequests.wanes (f : SameRequests s s') : Wanes [] s s' where
  awaits r _ := f.awaits r
  outstanding n r hr := by
    apply (f.outstanding n).elim
    · intro heq
      rw [heq] at hr
      exact hr
    · intro hnew
      rw [hnew.2] at hr
      simp at hr

lemma FreesRequest.mem_outstanding (f : FreesRequest r s s') {r' : RequestId}
    (hr' : r' ∈ (s'.node n).outstandingRequests) : r' ∈ (s.node n).outstandingRequests := by
  apply (f.outstanding n).elim
  · intro heq
    rw [heq] at hr'
    split at hr'
    · exact List.mem_of_mem_erase hr'
    · exact hr'
  · intro hnew
    rw [hnew.2] at hr'
    simp at hr'

namespace Requested

/-- `agent_request_unref` by the function that runs. -/
lemma unref (h : Requested live (r :: held) s)
    (hdone : s.awaits r = true → ∀ q, (s.request r).handler ≠ .fleet q) (o : Owner) :
    Requested live held (s.agentRequestUnref r o) ∧ Wanes [] s (s.agentRequestUnref r o) := by
  have hcount := (h.ledger r).count
  have howners : s.owners (r :: held) r = s.owners held r + 1 := by
    unfold owners
    rw [List.count_cons_self]
    omega
  rw [howners] at hcount
  by_cases hlast : s.owners held r = 0
  · rw [hlast] at hcount
    have f := agentRequestUnref_of_last hcount o
    have ⟨h', hawaits⟩ := h.frees f hlast
    exact ⟨h', fun r' _ => congrFun hawaits r', fun _ _ => f.mem_outstanding⟩
  · have hheld : (s.refs (.request r)).count ≠ 1 := by omega
    rw [agentRequestUnref_of_held hheld]
    exact ⟨h.drops o hlast hdone, fun _ _ => rfl, fun _ _ => id⟩

/-- The loop of `agent_fleet_request_free`. -/
lemma unrefs (subs : List SubRequest) (s : Controller)
    (h : Requested live (subs.map (·.agentReq) ++ held) s)
    (hdone : ∀ sub ∈ subs, s.awaits sub.agentReq = false) :
    let s' := subs.foldl (fun s sub =>
      (s.nodeUnref sub.node (.fleet q)).agentRequestUnref sub.agentReq .creator) s
    Requested live held s' ∧ Wanes [] s s' := by
  induction subs generalizing s with
  | nil => exact ⟨h, Wanes.refl s⟩
  | cons sub subs ih =>
    have hdesk : SameDesk (fun _ => False) s (s.nodeUnref sub.node (.fleet q)) :=
      SameDesk.proxies.nodeUnref _ _ Owner.noConfusion
    have hnode : SameRequests s (s.nodeUnref sub.node (.fleet q)) := hdesk.requests
    have ⟨h', hwanes⟩ := (h.of_requests hnode).unref (fun hwaits => by
      rw [hnode.awaits, hdone sub List.mem_cons_self] at hwaits
      exact absurd hwaits Bool.false_ne_true) .creator
    have hfirst := hnode.wanes.trans hwanes
    have hrest := ih _ h' fun sub' hsub' => by
      rw [hfirst.awaits _ (by simp)]
      exact hdone sub' (List.mem_cons_of_mem sub hsub')
    exact ⟨hrest.1, hfirst.trans hrest.2⟩

end Requested

/-! ## Completing a fleet request -/

lemma slotted_of_fleet (hq : (s.request r).handler = .fleet q) :
    s.slotted r = (s.collects q && r ∈ s.slotIds q) := by
  unfold slotted
  rw [hq]

lemma slotted_of_other (hother : ∀ q, (s.request r).handler ≠ .fleet q) : s.slotted r = false := by
  unfold slotted
  split
  · rename_i q hq
    exact absurd hq (hother q)
  · rfl

/-- The requests that are given up with the fleet request when it is complete. -/
def released (s : Controller) (q : FleetId) : List RequestId :=
  if s.collects q then [] else s.slotIds q

lemma sameRequests_emit (s : Controller) (o : Output) : SameRequests s (s.emit o) :=
  ⟨rfl, rfl, rfl, fun _ => Or.inl rfl, fun _ => rfl, fun _ => rfl, le_refl _, rfl, rfl, rfl⟩

namespace Requested

lemma freeFleet (h : Requested live held s) (hfreed : s.freedFleets.count q = 0)
    (hcollects : s.collects q = false) (hq : q < s.nextPtr) :
    Requested live held (s.freeFleet q) := by
  have hcount : ∀ q', q' ≠ q → (s.freeFleet q).freedFleets.count q' = s.freedFleets.count q' := by
    intro q' hq'
    rw [freeFleet_freedFleets, List.count_append, List.count_singleton,
      if_neg (by simpa using hq'.symm), Nat.add_zero]
  refine ⟨fun r => ?_, fun q' => ?_, fun r hr => ?_⟩
  · have hentry : SameEntry s (s.freeFleet q) r :=
      ⟨rfl, rfl, rfl, rfl, fun _ => Or.inl rfl, rfl, rfl, rfl, rfl⟩
    exact (h.ledger r).same hentry rfl (le_refl _)
  · have hold := h.slots q'
    by_cases hq' : q' = q
    · rw [hq'] at hold ⊢
      refine ⟨hold.subs, hold.ids, hold.answered, hold.done, ?_, fun hstill => ?_⟩
      · rw [freeFleet_freedFleets, List.count_append, hfreed]
        simp
      · have hstill' : s.collects q = true := hstill
        rw [hcollects] at hstill'
        exact absurd hstill' Bool.false_ne_true
    · exact hold.same rfl (fun _ _ => rfl) (fun _ _ => rfl) (hcount q' hq') (le_refl _)
  · have hold := h.unused r hr
    refine ⟨hold.held, hold.pending, hold.started, hold.freed, ?_⟩
    rw [hcount r (Nat.ne_of_gt (lt_of_lt_of_le hq hr))]
    exact hold.fleet

/-- No slot is without an answer when the fleet request is complete. -/
lemma awaits_of_complete (h : Requested live held s) (hcollects : s.collects q = false)
    {sub : SubRequest} (hsub : sub ∈ (s.fleet q).subReq) : s.awaits sub.agentReq = false := by
  have hdone := (h.slots q).done
  have hall : (s.fleet q).subReq.countP (·.m.isSome) = (s.fleet q).subReq.length := by
    have hle : ¬(s.fleet q).nDone < (s.fleet q).subReq.length := of_decide_eq_false hcollects
    have hmax := List.countP_le_length (p := fun sub : SubRequest => sub.m.isSome)
      (l := (s.fleet q).subReq)
    omega
  have hanswered := List.countP_eq_length.mp hall sub hsub
  rw [Bool.eq_false_iff]
  intro hwaits
  rw [((h.slots q).answered sub hsub).mpr hwaits] at hanswered
  exact Bool.noConfusion hanswered

/-- `agent_fleet_request_maybe_done`. -/
lemma maybeDone (h : Requested live (s.released q ++ held) s) (hfreed : s.freedFleets.count q = 0)
    (hq : q < s.nextPtr) : Requested live held (s.agentFleetRequestMaybeDone q) ∧
      Wanes [] s (s.agentFleetRequestMaybeDone q) := by
  have hdone := (h.slots q).done
  have hmax := List.countP_le_length (p := fun sub : SubRequest => sub.m.isSome)
    (l := (s.fleet q).subReq)
  unfold agentFleetRequestMaybeDone
  split
  · rename_i hcomplete
    have hcollects : s.collects q = false := decide_eq_false (by omega)
    have ⟨o, ho⟩ : ∃ o, s.agentFleetRequestDone q = (s.emit o).agentFleetRequestFree q := by
      unfold agentFleetRequestDone
      dsimp only
      split
      · exact ⟨_, rfl⟩
      · exact ⟨_, rfl⟩
    unfold released at h
    rw [hcollects, if_neg Bool.false_ne_true] at h
    have hreplied := h.of_requests (sameRequests_emit s o)
    have hgone := hreplied.freeFleet hfreed hcollects hq
    have hloop := unrefs (q := q) (s.fleet q).subReq ((s.emit o).freeFleet q) hgone
      fun sub hsub => h.awaits_of_complete hcollects hsub
    rw [ho]
    exact ⟨hloop.1, hloop.2.awaits, hloop.2.outstanding⟩
  · rename_i hopen
    have hcollects : s.collects q = true := decide_eq_true (by omega)
    unfold released at h
    rw [hcollects, if_pos rfl, List.nil_append] at h
    exact ⟨h, Wanes.refl s⟩

end Requested

/-! ## The callback -/

/-- The callback of the request has been run, so nothing waits for it any more. -/
structure Silences (r : RequestId) (s s' : Controller) : Prop where
  awaits : s'.awaits r = false
  others : ∀ r', r' ≠ r → s'.awaits r' = s.awaits r'
  node : ∀ r', (s'.request r').node = (s.request r').node
  handler : ∀ r', (s'.request r').handler = (s.request r').handler
  pending : s'.pendingRequests.Sublist s.pendingRequests
  outstanding : ∀ n, (s'.node n).outstandingRequests = (s.node n).outstandingRequests
  refs : ∀ r', s'.refs (.request r') = s.refs (.request r')
  freed : ∀ r', timesFreed s' (.request r') = timesFreed s (.request r')
  nextPtr : s'.nextPtr = s.nextPtr
  started : s'.startedRequests = s.startedRequests
  callbacks : s'.callbacks = s.callbacks ++ [r]
  freedFleets : s'.freedFleets = s.freedFleets

/-- The answer of the agent has arrived. -/
lemma silences_reply (hpending : s.pendingRequests.count r ≤ 1) :
    Silences r s (runCallback { s with pendingRequests := s.pendingRequests.erase r } r) where
  awaits := by
    have hnot : r ∉ s.pendingRequests.erase r := by
      rw [← List.count_eq_zero, List.count_erase_self]
      omega
    unfold awaits
    exact Bool.and_eq_false_imp.mpr fun hin => absurd (of_decide_eq_true hin) hnot
  others r' hr' := by
    unfold awaits
    show (decide (r' ∈ s.pendingRequests.erase r) && _) = _
    rw [decide_eq_decide.mpr (List.mem_erase_of_ne hr')]
    rfl
  node _ := rfl
  handler _ := rfl
  pending := List.erase_sublist
  outstanding _ := rfl
  refs _ := rfl
  freed _ := rfl
  nextPtr := rfl
  started := rfl
  callbacks := rfl
  freedFleets := rfl

/-- The request is cancelled. -/
lemma silences_cancel (s : Controller) (r : RequestId) :
    Silences r s
      ((s.modifyRequest r fun req => { req with isCancelled := true }).runCallback r) := by
  have hother : ∀ r', r' ≠ r →
      (s.modifyRequest r fun req => { req with isCancelled := true }).request r' = s.request r' := by
    intro r' hr'
    simp [hr']
  have hown : (s.modifyRequest r fun req => { req with isCancelled := true }).request r =
      { s.request r with isCancelled := true } := by
    simp
  refine ⟨?_, fun r' hr' => ?_, fun r' => ?_, fun r' => ?_, List.Sublist.refl _, fun _ => rfl,
    fun _ => rfl, fun _ => rfl, rfl, rfl, rfl, rfl⟩
  · unfold awaits
    rw [runCallback_request, hown]
    exact Bool.and_false _
  · unfold awaits
    rw [runCallback_request, hother r' hr']
    rfl
  · rw [runCallback_request]
    by_cases hr' : r' = r
    · rw [hr', hown]
    · rw [hother r' hr']
  · rw [runCallback_request]
    by_cases hr' : r' = r
    · rw [hr', hown]
    · rw [hother r' hr']

lemma Silences.modifyFleet (f : Silences r s s') (q : FleetId)
    (g : AgentFleetRequest → AgentFleetRequest) : Silences r s (s'.modifyFleet q g) :=
  ⟨f.awaits, f.others, f.node, f.handler, f.pending, f.outstanding, f.refs, f.freed, f.nextPtr,
    f.started, f.callbacks, f.freedFleets⟩

/-- The slot of the request is the one that takes the answer. -/
lemma Slots.answer (h : Slots s q) (hr : r ∈ s.slotIds q) (m : AgentAnswer) :
    ∃ l₁ sub l₂, (s.fleet q).subReq = l₁ ++ sub :: l₂ ∧ sub.agentReq = r ∧
      (∀ sub' ∈ l₁ ++ l₂, sub'.agentReq ≠ r) ∧
      (AgentFleetRequest.answer (s.fleet q) r m).subReq =
        l₁ ++ { sub with m := some m } :: l₂ := by
  have ⟨sub, hsub, heq⟩ := List.mem_map.mp hr
  have ⟨l₁, l₂, hl⟩ := List.append_of_mem hsub
  have hids := h.ids
  unfold slotIds at hids
  rw [hl, List.map_append, List.map_cons, heq] at hids
  have hnot : r ∉ (l₁ ++ l₂).map (·.agentReq) := by
    rw [List.map_append]
    exact (List.nodup_cons.mp (List.nodup_middle.mp hids)).1
  have hother : ∀ sub' ∈ l₁ ++ l₂, sub'.agentReq ≠ r := fun sub' hsub' heq' =>
    hnot (heq' ▸ List.mem_map_of_mem hsub')
  refine ⟨l₁, sub, l₂, hl, heq, hother, ?_⟩
  unfold AgentFleetRequest.answer
  dsimp only
  rw [hl]
  apply List.modify_findIdx_append
  · exact decide_eq_true heq
  · intro sub' hsub'
    exact decide_eq_false (hother sub' (List.mem_append_left l₂ hsub'))

/-- The slots are the same ones after an answer. -/
lemma slotIds_answer (m : AgentAnswer)
    (hown : s'.fleet q = AgentFleetRequest.answer (s.fleet q) r m) :
    s'.slotIds q = s.slotIds q := by
  unfold slotIds
  rw [hown]
  apply List.map_modify_of_key
  exact fun _ => rfl

/-- A slot takes the answer of its request. -/
lemma Slots.answered_of_silences (h : Slots s q) (f : Silences r s s') (hr : r ∈ s.slotIds q)
    (hwaits : s.awaits r = true) (hcollects : s.collects q = true) {m : AgentAnswer}
    (hown : s'.fleet q = AgentFleetRequest.answer (s.fleet q) r m) : Slots s' q := by
  have ⟨l₁, sub, l₂, hold, hsub, hother, hnew⟩ := h.answer hr m
  rw [← hown] at hnew
  have hids : s'.slotIds q = s.slotIds q := slotIds_answer m hown
  have hunanswered : sub.m = none := by
    apply (h.answered sub _).mpr
    · rw [hsub]
      exact hwaits
    · rw [hold]
      simp
  refine ⟨fun sub' hsub' => ?_, ?_, fun sub' hsub' => ?_, ?_, ?_, fun _ => ?_⟩
  · have hin : sub'.agentReq ∈ s'.slotIds q := List.mem_map_of_mem hsub'
    rw [hids] at hin
    have ⟨sub'', hsub'', heq⟩ := List.mem_map.mp hin
    rw [← heq, f.handler, f.nextPtr]
    exact h.subs sub'' hsub''
  · rw [hids]
    exact h.ids
  · rw [hnew] at hsub'
    have hcases : sub' = { sub with m := some m } ∨ sub' ∈ l₁ ++ l₂ := by
      simp only [List.mem_append, List.mem_cons] at hsub' ⊢
      tauto
    apply hcases.elim
    · intro heq
      rw [heq]
      show some m = none ↔ s'.awaits sub.agentReq = true
      rw [hsub, f.awaits]
      simp
    · intro hin
      rw [f.others _ (hother sub' hin)]
      apply h.answered
      rw [hold]
      simp only [List.mem_append, List.mem_cons] at hin ⊢
      tauto
  · have hdone := h.done
    have hcount : (s'.fleet q).nDone = (s.fleet q).nDone + 1 := by
      rw [hown]
      rfl
    rw [hold, List.countP_append, List.countP_cons, hunanswered] at hdone
    rw [hnew, hcount, hdone, List.countP_append, List.countP_cons]
    simp
    omega
  · rw [f.freedFleets]
    exact h.freedOnce
  · rw [f.freedFleets]
    exact h.collecting hcollects

namespace Requested

variable {live' : Prop}

/-- The callback has run. The call's reference, and those of the slots `given` up, are to be dropped
by the function that runs. -/
lemma silences (h : Requested live [] s) (hwaits : s.awaits r = true) (f : Silences r s s')
    (halive : live' → live ∧ s'.request = s.request) {given : List RequestId}
    (hgiven : ∀ r' ∈ given, r' < s.nextPtr)
    (hslotted : ∀ r', (s'.slotted r').toNat + given.count r' = (s.slotted r').toNat)
    (hslots : ∀ q, Slots s' q) : Requested live' (given ++ [r]) s' := by
  have howners : ∀ r', s'.owners (given ++ [r]) r' = s.owners [] r' := by
    intro r'
    have hsum := hslotted r'
    unfold owners
    rw [List.count_append, List.count_nil]
    by_cases hr' : r' = r
    · rw [hr'] at hsum ⊢
      rw [f.awaits, hwaits, List.count_singleton_self]
      simp only [Bool.toNat_true, Bool.toNat_false]
      omega
    · rw [f.others r' hr', List.count_singleton, if_neg (by simpa using Ne.symm hr')]
      omega
  have hused : r < s.nextPtr := by
    rw [← not_le]
    intro hle
    rw [h.unused_awaits hle] at hwaits
    exact Bool.noConfusion hwaits
  refine ⟨fun r' => ?_, hslots, fun r' hr' => ?_⟩
  · have hold := h.ledger r'
    refine ⟨?_, fun n => ?_, fun howned => ?_, ?_, ?_, ?_, ?_, fun hlive hpending => ?_,
      fun q hq hawaits hnone => ?_, fun q hq => ?_⟩
    · rw [f.refs, howners]
      exact hold.count
    · rw [f.outstanding, howners, f.node]
      exact hold.outstanding n
    · rw [howners] at howned
      rw [f.node, f.nextPtr]
      exact hold.node howned
    · rw [f.freed, howners]
      exact hold.freed
    · rw [f.freed, howners, f.started]
      exact hold.started
    · have hran := hold.ran
      rw [f.callbacks, f.started, List.count_append]
      by_cases hr' : r' = r
      · rw [hr'] at hran ⊢
        rw [hwaits] at hran
        rw [f.awaits, List.count_singleton_self]
        exact hran
      · rw [f.others r' hr', List.count_singleton, if_neg (by simpa using Ne.symm hr')]
        exact hran
    · exact (f.pending.count_le r').trans hold.pending
    · rw [(halive hlive).2]
      exact hold.alive (halive hlive).1 (f.pending.subset hpending)
    · rw [f.handler] at hq
      have hne : r' ≠ r := fun heq => by
        rw [heq, f.awaits] at hawaits
        exact Bool.noConfusion hawaits
      rw [f.others r' hne] at hawaits
      have hsum := hslotted r'
      have hnone' : given.count r' = 0 := by
        rw [List.count_append] at hnone
        omega
      rw [hold.waits q hq hawaits rfl, hnone'] at hsum
      exact Bool.toNat_eq_one.mp hsum
    · rw [f.handler] at hq
      rw [f.nextPtr]
      exact hold.used q hq
  · rw [f.nextPtr] at hr'
    have hold := h.unused r' hr'
    refine ⟨?_, fun hin => hold.pending (f.pending.subset hin), ?_, ?_, ?_⟩
    · rw [List.count_eq_zero]
      intro hin
      apply (List.mem_append.mp hin).elim
      · intro hin
        exact absurd (hgiven r' hin) (not_lt.mpr hr')
      · intro hin
        rw [List.mem_singleton.mp hin] at hr'
        exact absurd hused (not_lt.mpr hr')
    · rw [f.started]
      exact hold.started
    · rw [f.freed]
      exact hold.freed
    · rw [f.freedFleets]
      exact hold.fleet

/-- The callback of a request that is not part of a fleet request. -/
lemma silences_other (h : Requested live [] s) (hwaits : s.awaits r = true) (f : Silences r s s')
    (halive : live' → live ∧ s'.request = s.request) (hfleet : s'.fleet = s.fleet)
    (hother : ∀ q, (s.request r).handler ≠ .fleet q) : Requested live' [r] s' := by
  show Requested live' ([] ++ [r]) s'
  apply h.silences hwaits f halive (fun r' hr' => by simp at hr')
  · intro r'
    have hsame : s'.slotted r' = s.slotted r' := by
      unfold slotted collects slotIds
      rw [f.handler, hfleet]
    rw [hsame]
    rfl
  · intro q
    refine (h.slots q).same (by rw [hfleet]) (fun r' _ => f.handler r') (fun r' hr' => ?_)
      (by rw [f.freedFleets]) (le_of_eq f.nextPtr.symm)
    have ⟨sub, hsub, heq⟩ := List.mem_map.mp hr'
    apply f.others
    intro hr
    apply hother q
    rw [← hr, ← heq]
    exact ((h.slots q).subs sub hsub).2

/-- A sub-request of a fleet request has been answered. -/
lemma silences_fleet (h : Requested live [] s) (hwaits : s.awaits r = true) (f : Silences r s s')
    (halive : live' → live ∧ s'.request = s.request) (hq : (s.request r).handler = .fleet q)
    {m : AgentAnswer} (hown : s'.fleet q = AgentFleetRequest.answer (s.fleet q) r m)
    (hrest : ∀ q', q' ≠ q → s'.fleet q' = s.fleet q') :
    Requested live' (s'.released q ++ [r]) s' ∧ s.freedFleets.count q = 0 := by
  have hslot := (h.ledger r).waits q hq hwaits rfl
  rw [slotted_of_fleet hq, Bool.and_eq_true] at hslot
  have hcollects := hslot.1
  have hin : r ∈ s.slotIds q := of_decide_eq_true hslot.2
  have hids : s'.slotIds q = s.slotIds q := slotIds_answer m hown
  have hhandler : ∀ r' ∈ s.slotIds q, r' < s.nextPtr ∧ (s.request r').handler = .fleet q := by
    intro r' hr'
    have ⟨sub, hsub, heq⟩ := List.mem_map.mp hr'
    rw [← heq]
    exact (h.slots q).subs sub hsub
  have hreleased : ∀ r' ∈ s'.released q, r' ∈ s.slotIds q := by
    intro r' hr'
    unfold released at hr'
    split at hr'
    · simp at hr'
    · rw [← hids]
      exact hr'
  refine ⟨?_, (h.slots q).collecting hcollects⟩
  apply h.silences hwaits f halive (fun r' hr' => (hhandler r' (hreleased r' hr')).1)
  · intro r'
    by_cases hr' : (s.request r').handler = .fleet q
    · rw [slotted_of_fleet ((f.handler r').trans hr'), slotted_of_fleet hr', hcollects, hids]
      unfold released
      by_cases hstill : s'.collects q = true
      · rw [hstill, if_pos rfl]
        rfl
      · rw [if_neg hstill, Bool.eq_false_iff.mpr hstill, hids, (h.slots q).ids.count]
        by_cases hmem : r' ∈ s.slotIds q
        · simp [hmem]
        · simp [hmem]
    · have hnone : (s'.released q).count r' = 0 := by
        rw [List.count_eq_zero]
        exact fun hmem => hr' (hhandler r' (hreleased r' hmem)).2
      have hsame : s'.slotted r' = s.slotted r' := by
        match hq' : (s.request r').handler with
        | .fleet q' =>
          have hne : q' ≠ q := fun heq => hr' (by rw [hq', heq])
          rw [slotted_of_fleet ((f.handler r').trans hq'), slotted_of_fleet hq']
          unfold collects slotIds
          rw [hrest q' hne]
        | .lifecycle _ _ =>
          rw [slotted_of_other fun q' => by rw [f.handler, hq']; exact RequestHandler.noConfusion,
            slotted_of_other fun q' => by rw [hq']; exact RequestHandler.noConfusion]
        | .forward _ =>
          rw [slotted_of_other fun q' => by rw [f.handler, hq']; exact RequestHandler.noConfusion,
            slotted_of_other fun q' => by rw [hq']; exact RequestHandler.noConfusion]
        | .jobCancel _ =>
          rw [slotted_of_other fun q' => by rw [f.handler, hq']; exact RequestHandler.noConfusion,
            slotted_of_other fun q' => by rw [hq']; exact RequestHandler.noConfusion]
      rw [hnone, hsame, Nat.add_zero]
  · intro q'
    by_cases hq' : q' = q
    · rw [hq']
      exact (h.slots q).answered_of_silences f hin hwaits hcollects hown
    · refine (h.slots q').same (hrest q' hq') (fun r' _ => f.handler r') (fun r' hr' => ?_)
        (by rw [f.freedFleets]) (le_of_eq f.nextPtr.symm)
      have ⟨sub, hsub, heq⟩ := List.mem_map.mp hr'
      apply f.others
      intro hr
      have hown' := ((h.slots q').subs sub hsub).2
      rw [heq, hr, hq] at hown'
      exact hq' (RequestHandler.fleet.inj hown').symm

end Requested

/-! ## Answers and cancellations -/

/-- The callback of a request that is not part of a fleet request. -/
lemma sameDesk_requestCallback (hother : ∀ q, (s.request r).handler ≠ .fleet q) (m : AgentAnswer) :
    SameDesk (fun _ => True) s (s.requestCallback r m) := by
  unfold requestCallback
  match hhandler : (s.request r).handler, m with
  | .lifecycle serial job, .error message => exact SameDesk.emit s fun _ _ => trivial
  | .lifecycle serial job, .ok rows =>
    have hadd : SameDesk (fun _ => True) s (s.addJob job).2 := SameDesk.addJob s job
    dsimp only
    split
    · rename_i heq
      rw [heq] at hadd
      exact hadd
    · rename_i heq
      rw [heq] at hadd
      exact hadd.trans (SameDesk.emit _ fun _ _ => trivial)
  | .forward serial, .error message => exact SameDesk.emit s fun _ _ => trivial
  | .forward serial, .ok rows => exact SameDesk.emit s fun _ _ => trivial
  | .jobCancel serial, m => exact SameDesk.refl s
  | .fleet q, m => exact absurd hhandler (hother q)

namespace Requested

variable {live' : Prop}

/-- The callback runs, and the call drops its reference. -/
lemma callback (h : Requested live [] s) (hwaits : s.awaits r = true) (f : Silences r s s')
    (hfleet : s'.fleet = s.fleet) (halive : live' → live ∧ s'.request = s.request)
    (m : AgentAnswer) :
    Requested live' [] ((s'.requestCallback r m).agentRequestUnref r .pending) ∧
      Wanes [r] s ((s'.requestCallback r m).agentRequestUnref r .pending) := by
  have hsilent : Wanes [r] s s' :=
    ⟨fun r' hr' => f.others r' (by simpa using hr'), fun n r' hr' => f.outstanding n ▸ hr'⟩
  have hhandled : Requested live' [r] (s'.requestCallback r m) ∧
      Wanes [] s' (s'.requestCallback r m) := by
    by_cases hother : ∀ q, (s.request r).handler ≠ .fleet q
    · have hdesk : SameDesk (fun _ => True) s' (s'.requestCallback r m) :=
        sameDesk_requestCallback (fun q => by rw [f.handler]; exact hother q) m
      exact ⟨(h.silences_other hwaits f halive hfleet hother).of_requests hdesk.requests,
        hdesk.requests.wanes⟩
    · have ⟨q, hq⟩ : ∃ q, (s.request r).handler = .fleet q := not_forall_not.mp hother
      have hcall : s'.requestCallback r m =
          (s'.modifyFleet q fun fleet => AgentFleetRequest.answer fleet r m).agentFleetRequestMaybeDone
            q := by
        unfold requestCallback
        rw [f.handler, hq]
        rfl
      have f' := f.modifyFleet q fun fleet => AgentFleetRequest.answer fleet r m
      have ⟨h', hfreed⟩ := h.silences_fleet hwaits f' halive hq (m := m)
        (by rw [modifyFleet_fleet, Function.update_self, hfleet])
        (fun q' hq' => by rw [modifyFleet_fleet, Function.update_of_ne hq', hfleet])
      rw [hcall]
      have hused := (h.ledger r).used q hq
      have ⟨hdone, hwanes⟩ := h'.maybeDone (by rw [f'.freedFleets]; exact hfreed)
        (by rw [f'.nextPtr]; exact hused)
      exact ⟨hdone, hwanes.awaits, hwanes.outstanding⟩
  have ⟨h', hwanes⟩ := hhandled
  have hgone : (s'.requestCallback r m).awaits r = false :=
    (hwanes.awaits r (by simp)).trans f.awaits
  have ⟨hlast, hdropped⟩ := h'.unref (fun hstill => by
    rw [hgone] at hstill
    exact Bool.noConfusion hstill) .pending
  exact ⟨hlast, (hsilent.trans hwanes.mono).trans hdropped.mono⟩

/-- `agent_request_callback`. -/
lemma agentRequestCallback {m : AgentAnswer} (h : Requested True [] s)
    (hstep : s.agentRequestCallback r m = some s') : Requested True [] s' := by
  unfold Controller.agentRequestCallback at hstep
  split at hstep
  · rename_i hpending
    have hold := h.ledger r
    have halive := hold.alive trivial hpending
    have hwaits : s.awaits r = true := by
      unfold awaits
      rw [halive, decide_eq_true hpending]
      rfl
    rw [Option.some.injEq] at hstep
    dsimp only at hstep
    rw [halive, if_neg Bool.false_ne_true] at hstep
    rw [← hstep]
    exact (h.callback hwaits (silences_reply hold.pending) rfl (fun _ => ⟨trivial, rfl⟩) m).1
  · simp at hstep

/-- `agent_request_cancel`. -/
lemma agentRequestCancel (h : Requested False [] s) (hwaits : s.awaits r = true) :
    Requested False [] (s.agentRequestCancel r) ∧ Wanes [r] s (s.agentRequestCancel r) :=
  h.callback hwaits (silences_cancel s r) rfl False.elim (.error "Request cancelled")

end Requested

/-! ## Methods -/

lemma Requested.made (h : Requested live [] s) {handler : RequestHandler}
    (f : MakesRequest n handler s s') : Made [s.nextPtr] s' s.nextPtr := by
  have hnew := h.unused s.nextPtr (le_refl _)
  refine ⟨List.mem_singleton_self _, ?_, ?_, ?_, ?_, fun q => ?_⟩
  · rw [f.nextPtr]
    exact Nat.lt_succ_self _
  · rw [f.pending]
    exact hnew.pending
  · rw [f.started]
    exact hnew.started
  · rw [f.new]
  · unfold slotIds
    rw [f.fleet]
    exact h.not_mem_slotIds q

namespace Requested

/-- A request of a method of a node or a job. -/
lemma runRequest (h : Requested live [] s) (hn : n < s.nextPtr) {handler : RequestHandler}
    (hother : ∀ q, handler ≠ .fleet q) (serial : Serial) (c : RequestId → AgentCall)
    (started : Bool) (failure : String) :
    Requested live [] (s.runRequest n serial handler c started failure) := by
  have fcreates := makesRequest_nodeCreateRequest s n handler
  have hcreated := h.creates fcreates hn fun q hq => absurd hq (hother q)
  unfold Controller.runRequest
  dsimp only
  split
  · have fcalls := calls_agentRequestStart (s.nodeCreateRequest n handler) s.nextPtr (c s.nextPtr)
    refine ((hcreated.calls fcalls (h.made fcreates)).unref (fun _ q => ?_) .creator).1
    rw [fcalls.request, fcreates.new]
    exact hother q
  · refine ((hcreated.of_requests (sameRequests_emit _ _)).unref (fun _ q => ?_) .creator).1
    rw [emit_request, fcreates.new]
    exact hother q

lemma nodeMethodForward (h : Requested live [] s) (hn : n < s.nextPtr) (serial : Serial)
    (method failure : String) (started : Bool) :
    Requested live [] (s.nodeMethodForward n serial method failure started) := by
  unfold Controller.nodeMethodForward
  split
  · exact h.of_requests (sameRequests_emit s _)
  · exact h.runRequest hn (fun _ => RequestHandler.noConfusion) _ _ _ _

lemma nodeRunUnitLifecycleMethod (h : Requested live [] s) (hn : n < s.nextPtr) (serial : Serial)
    (method : LifecycleMethod) (unit mode : String) (startTime : UInt64) (started : Bool) :
    Requested live []
      (s.nodeRunUnitLifecycleMethod n serial method unit mode startTime started) := by
  unfold Controller.nodeRunUnitLifecycleMethod
  split
  · exact h.of_requests (sameRequests_emit s _)
  · have hjob : SameDesk (fun _ => False) s
        (s.jobNew n unit (lifecycleJobType method) startTime).2 :=
      SameDesk.jobs.jobNew s n unit _ _
    exact (h.of_requests hjob.requests).runRequest (lt_of_lt_of_le hn hjob.nextPtr)
      (fun _ => RequestHandler.noConfusion) _ _ _ _

lemma jobMethodCancel (h : Requested live [] s) (job : Job) (hjob : job.node < s.nextPtr)
    (serial : Serial) (started : Bool) :
    Requested live [] (s.jobMethodCancel job serial started) := by
  have hrun : Requested live [] (s.runRequest job.node serial (.jobCancel serial)
      (fun r => .jobCancel r job.id) started "Failed to call the method to cancel job") :=
    h.runRequest hjob (fun _ => RequestHandler.noConfusion) _ _ _ _
  unfold Controller.jobMethodCancel
  split
  · dsimp only
    split
    · exact hrun.of_requests (sameRequests_emit _ _)
    · exact hrun
  · exact h.of_requests (sameRequests_emit s _)

end Requested

/-! ### Fleet requests -/

/-- The fleet request is being made: no answer has been taken yet. -/
structure Opening (q : FleetId) (s : Controller) : Prop where
  done : (s.fleet q).nDone = 0
  freed : s.freedFleets.count q = 0
  used : q < s.nextPtr

namespace Requested

/-- A slot of the fleet request is filled, which takes the reference over. -/
lemma fills (h : Requested live [r] s) (hwaits : s.awaits r = true)
    (hq : (s.request r).handler = .fleet q) (hslots : r ∉ s.slotIds q) (hopen : Opening q s)
    (hr : r < s.nextPtr)
    (hfleet : s' = s.modifyFleet q fun fleet =>
      { fleet with subReq := fleet.subReq ++ [⟨n, r, none⟩] }) : Requested live [] s' := by
  have hown : s'.fleet q =
      { s.fleet q with subReq := (s.fleet q).subReq ++ [⟨n, r, none⟩] } := by
    rw [hfleet, modifyFleet_fleet, Function.update_self]
  have hrest : ∀ q', q' ≠ q → s'.fleet q' = s.fleet q' := fun q' hq' => by
    rw [hfleet, modifyFleet_fleet, Function.update_of_ne hq']
  have hrequest : s'.request = s.request := by rw [hfleet]; rfl
  have hawaits : s'.awaits = s.awaits := by rw [hfleet]; rfl
  have hids : s'.slotIds q = s.slotIds q ++ [r] := by
    unfold slotIds
    rw [hown, List.map_append]
    rfl
  have hcollects : s'.collects q = true := by
    apply decide_eq_true
    rw [hown, List.length_append]
    show (s.fleet q).nDone < _
    rw [hopen.done]
    exact Nat.succ_pos _
  -- a fleet request without slots does not collect yet
  have hbefore : ∀ r' ∈ s.slotIds q, s.collects q = true := by
    intro r' hr'
    have hpos := List.length_pos_of_mem hr'
    unfold slotIds at hpos
    rw [List.length_map] at hpos
    apply decide_eq_true
    rw [hopen.done]
    exact hpos
  have hslotted : ∀ r', (s'.slotted r').toNat = (s.slotted r').toNat + [r].count r' := by
    intro r'
    by_cases hr' : (s.request r').handler = .fleet q
    · have hr'' : (s'.request r').handler = .fleet q := by rw [hrequest, hr']
      rw [slotted_of_fleet hr'', slotted_of_fleet hr', hcollects, hids, Bool.true_and]
      by_cases heq : r' = r
      · rw [heq, decide_eq_false hslots, Bool.and_false]
        simp
      · by_cases hmem : r' ∈ s.slotIds q
        · rw [hbefore r' hmem]
          simp [hmem, Ne.symm heq]
        · simp [hmem, heq, Ne.symm heq]
    · have hne : r' ≠ r := fun heq => hr' (heq ▸ hq)
      have hsame : s'.slotted r' = s.slotted r' := by
        unfold slotted collects slotIds
        rw [hrequest]
        split
        · rename_i q' hq'
          have hne' : q' ≠ q := fun heq => hr' (heq ▸ hq')
          rw [hrest q' hne']
        · rfl
      rw [hsame, List.count_singleton, if_neg (by simpa using Ne.symm hne), Nat.add_zero]
  have howners : ∀ r', s'.owners [] r' = s.owners [r] r' := by
    intro r'
    unfold owners
    rw [hawaits, hslotted, List.count_nil]
    omega
  refine ⟨fun r' => ?_, fun q' => ?_, fun r' hr' => ?_⟩
  · have hold := h.ledger r'
    have hmem : s'.refs = s.refs ∧ s'.node = s.node ∧ s'.mem = s.mem ∧
        s'.startedRequests = s.startedRequests ∧ s'.callbacks = s.callbacks ∧
        s'.pendingRequests = s.pendingRequests ∧ s'.nextPtr = s.nextPtr := by
      rw [hfleet]
      exact ⟨rfl, rfl, rfl, rfl, rfl, rfl, rfl⟩
    have ⟨hrefs, hnode, hmem, hstarted, hcallbacks, hpending, hptr⟩ := hmem
    have hfreed : timesFreed s' (.request r') = timesFreed s (.request r') := by
      unfold timesFreed
      rw [hmem]
    refine ⟨?_, fun n' => ?_, fun howned => ?_, ?_, ?_, ?_, ?_, fun hlive hin => ?_,
      fun q' hq' hwaits' _ => ?_, fun q' hq' => ?_⟩
    · rw [hrefs, howners]
      exact hold.count
    · rw [hnode, hrequest, howners]
      exact hold.outstanding n'
    · rw [howners] at howned
      rw [hrequest, hptr]
      exact hold.node howned
    · rw [hfreed, howners]
      exact hold.freed
    · rw [hfreed, howners, hstarted]
      exact hold.started
    · rw [hcallbacks, hstarted, hawaits]
      exact hold.ran
    · rw [hpending]
      exact hold.pending
    · rw [hpending] at hin
      rw [hrequest]
      exact hold.alive hlive hin
    · rw [hrequest] at hq'
      rw [hawaits] at hwaits'
      have hsum := hslotted r'
      by_cases hr' : r' = r
      · rw [hr', List.count_singleton_self] at hsum
        have hle := Bool.toNat_le (s'.slotted r)
        rw [hr']
        exact Bool.toNat_eq_one.mp (by omega)
      · have hnone : [r].count r' = 0 := by
          rw [List.count_singleton, if_neg (by simpa using Ne.symm hr')]
        rw [hold.waits q' hq' hwaits' hnone, hnone] at hsum
        exact Bool.toNat_eq_one.mp hsum
    · rw [hrequest] at hq'
      rw [hptr]
      exact hold.used q' hq'
  · by_cases hq' : q' = q
    · have hold := h.slots q
      have hfreed : s'.freedFleets = s.freedFleets := by rw [hfleet]; rfl
      have hptr : s'.nextPtr = s.nextPtr := by rw [hfleet]; rfl
      rw [hq']
      refine ⟨fun sub hsub => ?_, ?_, fun sub hsub => ?_, ?_, ?_, fun _ => ?_⟩
      · rw [hown] at hsub
        rw [hptr, hrequest]
        apply (List.mem_append.mp hsub).elim
        · exact hold.subs sub
        · intro hnew
          rw [List.mem_singleton.mp hnew]
          exact ⟨hr, hq⟩
      · rw [hids]
        apply List.Nodup.append hold.ids (List.nodup_singleton r)
        rw [List.disjoint_singleton]
        exact hslots
      · rw [hown] at hsub
        rw [hawaits]
        apply (List.mem_append.mp hsub).elim
        · exact hold.answered sub
        · intro hnew
          rw [List.mem_singleton.mp hnew]
          simp [hwaits]
      · rw [hown, List.countP_append]
        simp [hold.done]
      · rw [hfreed]
        exact hold.freedOnce
      · rw [hfreed]
        exact hopen.freed
    · refine (h.slots q').same (hrest q' hq') (fun _ _ => by rw [hrequest]) (fun _ _ => by rw [hawaits])
        (by rw [hfleet]; rfl) (by rw [hfleet]; exact le_refl _)
  · have hptr : s'.nextPtr = s.nextPtr := by rw [hfleet]; rfl
    rw [hptr] at hr'
    have hold := h.unused r' hr'
    rw [hfleet]
    exact ⟨rfl, hold.pending, hold.started, hold.freed, hold.fleet⟩

end Requested

namespace Requested

/-- A new fleet request without slots. -/
lemma opens (h : Requested live [] s) (serial : Serial) (slots : ℤ)
    (hs' : s' = { s with
      fleet := Function.update s.fleet s.nextPtr ⟨serial, 0, slots, []⟩
      nextPtr := s.nextPtr + 1 }) : Requested live [] s' ∧ Opening s.nextPtr s' := by
  have hown : s'.fleet s.nextPtr = ⟨serial, 0, slots, []⟩ := by
    rw [hs']
    exact Function.update_self _ _ _
  have hrest : ∀ q, q ≠ s.nextPtr → s'.fleet q = s.fleet q := fun q hq => by
    rw [hs']
    exact Function.update_of_ne hq _ _
  have hptr : s'.nextPtr = s.nextPtr + 1 := by rw [hs']
  have hfreed : s'.freedFleets.count s.nextPtr = 0 := by
    rw [hs']
    exact (h.unused s.nextPtr (le_refl _)).fleet
  have hawaits : s'.awaits = s.awaits := by rw [hs']; rfl
  have hentry : ∀ r, SameEntry s s' r := by
    intro r
    have hslotted : s'.slotted r = s.slotted r := by
      have hrequest : s'.request = s.request := by rw [hs']
      unfold slotted collects slotIds
      rw [hrequest]
      split
      · rename_i q hq
        rw [hrest q (Nat.ne_of_lt ((h.ledger r).used q hq))]
      · rfl
    have hfreed : timesFreed s' (.request r) = timesFreed s (.request r) := by
      rw [hs']
      rfl
    refine ⟨by rw [hawaits], hslotted, ?_, ?_, fun n => Or.inl ?_, hfreed, ?_, ?_, ?_⟩
    all_goals rw [hs']
  refine ⟨⟨fun r => (h.ledger r).same (hentry r) rfl ?_, fun q => ?_, fun r hr => ?_⟩,
    ⟨by rw [hown], hfreed, ?_⟩⟩
  · rw [hptr]
    exact Nat.le_succ _
  · by_cases hq : q = s.nextPtr
    · rw [hq]
      refine ⟨fun sub hsub => ?_, ?_, fun sub hsub => ?_, ?_, ?_, fun _ => hfreed⟩
      · rw [hown] at hsub
        simp at hsub
      · unfold slotIds
        rw [hown]
        exact List.nodup_nil
      · rw [hown] at hsub
        simp at hsub
      · rw [hown]
        rfl
      · rw [hfreed]
        exact Nat.zero_le _
    · refine (h.slots q).same (hrest q hq) (fun _ _ => by rw [hs']) (fun _ _ => by rw [hawaits])
        (by rw [hs']) ?_
      rw [hptr]
      exact Nat.le_succ _
  · rw [hptr] at hr
    have hold := h.unused r (Nat.le_of_succ_le hr)
    rw [hs']
    exact ⟨hold.held, hold.pending, hold.started, hold.freed, hold.fleet⟩
  · rw [hptr]
    exact Nat.lt_succ_self _

/-- One round of the loop of `agent_fleet_request_start`. -/
lemma startSubRequest (h : Requested live [] s) (hopen : Opening q s) (hn : n < s.nextPtr)
    (method : String) (starts : NodeId → Bool) :
    Requested live [] (Controller.startSubRequest q method starts s n) ∧
      Opening q (Controller.startSubRequest q method starts s n) ∧
      s.nextPtr ≤ (Controller.startSubRequest q method starts s n).nextPtr := by
  have fcreates := makesRequest_nodeCreateRequest s n (.fleet q)
  have hcreated := h.creates fcreates hn fun q' hq' => by
    rw [← RequestHandler.fleet.inj hq']
    exact hopen.used
  have hmade := h.made fcreates
  have hptr : s.nextPtr ≤ (s.nodeCreateRequest n (.fleet q)).nextPtr := by
    rw [fcreates.nextPtr]
    exact Nat.le_succ _
  have hstays : ∀ t : Controller, t.fleet = s.fleet → t.freedFleets = s.freedFleets →
      s.nextPtr ≤ t.nextPtr → Opening q t := fun t hfleet hfreed hle =>
    ⟨by rw [hfleet]; exact hopen.done, by rw [hfreed]; exact hopen.freed,
      lt_of_lt_of_le hopen.used hle⟩
  unfold Controller.startSubRequest
  split
  · dsimp only
    split
    · have fcalls := calls_agentRequestStart (s.nodeCreateRequest n (.fleet q)) s.nextPtr
        (.request s.nextPtr method)
      have hstarted := hcreated.calls fcalls hmade
      generalize (s.nodeCreateRequest n (.fleet q)).agentRequestStart s.nextPtr
        (.request s.nextPtr method) = t at fcalls hstarted
      have hdesk : SameDesk (fun _ => False) t (t.takeRef (.node n) (.fleet q)) :=
        SameDesk.takeRef t (fun _ => Obj.noConfusion) _
      have htake : SameRequests t (t.takeRef (.node n) (.fleet q)) := hdesk.requests
      have hle : s.nextPtr ≤ t.nextPtr := hptr.trans fcalls.nextPtr
      have hopened := hstays t (fcalls.fleet.trans fcreates.fleet)
        (fcalls.freedFleets.trans fcreates.freedFleets) hle
      have hrequest : t.request s.nextPtr = ⟨n, .fleet q, false⟩ := by
        rw [fcalls.request, fcreates.new]
      have hfilled := (hstarted.of_requests htake).fills (n := n)
        (by rw [htake.awaits]; exact fcalls.awaits hmade.alive)
        (by rw [htake.request, hrequest])
        (by
          have hslots := hmade.slots q
          unfold slotIds at hslots ⊢
          rw [htake.fleet, fcalls.fleet]
          exact hslots)
        ⟨hopened.done, hopened.freed, hopened.used⟩
        (lt_of_lt_of_le hmade.used (fcalls.nextPtr.trans htake.nextPtr)) rfl
      refine ⟨hfilled, ⟨?_, hopened.freed, hopened.used⟩, hle⟩
      unfold appendSubRequest
      rw [modifyFleet_fleet, Function.update_self]
      exact hopened.done
    · have ffrees := agentRequestUnref_of_last fcreates.count .creator
      refine ⟨(hcreated.unref (fun hwaits => ?_) .creator).1, ?_, hptr.trans ffrees.nextPtr⟩
      · unfold awaits at hwaits
        rw [decide_eq_false hmade.pending] at hwaits
        exact Bool.noConfusion hwaits
      · exact hstays _ (ffrees.fleet.trans fcreates.fleet)
          (ffrees.freedFleets.trans fcreates.freedFleets) (hptr.trans ffrees.nextPtr)
  · exact ⟨h, hopen, le_refl _⟩

lemma startSubRequests (method : String) (starts : NodeId → Bool) (ns : List NodeId)
    (s : Controller) (h : Requested live [] s) (hopen : Opening q s)
    (hns : ∀ n ∈ ns, n < s.nextPtr) :
    Requested live [] (ns.foldl (Controller.startSubRequest q method starts) s) ∧
      Opening q (ns.foldl (Controller.startSubRequest q method starts) s) := by
  induction ns generalizing s with
  | nil => exact ⟨h, hopen⟩
  | cons n ns ih =>
    have ⟨h', hopen', hle⟩ := h.startSubRequest hopen (hns n List.mem_cons_self) method starts
    exact ih _ h' hopen' fun n' hn' => lt_of_lt_of_le (hns n' (List.mem_cons_of_mem n hn')) hle

/-- `agent_fleet_request_start`. -/
lemma agentFleetRequestStart (h : Requested live [] s) (hnodes : ∀ n ∈ s.nodes, n < s.nextPtr)
    (serial : Serial) (method : String) (starts : NodeId → Bool) :
    Requested live [] (s.agentFleetRequestStart serial method starts) := by
  have ⟨hnew, hopen⟩ := h.opens serial s.numberOfNodes rfl
  have ⟨hloop, hopen'⟩ := startSubRequests method starts s.nodes _ hnew hopen
    fun n hn => Nat.lt_succ_of_lt (hnodes n hn)
  unfold Controller.agentFleetRequestStart
  dsimp only
  generalize s.nodes.foldl (Controller.startSubRequest s.nextPtr method starts) _ = t at hloop hopen'
  have hreleased : t.released s.nextPtr = [] := by
    unfold released
    split
    · rfl
    · rename_i hcomplete
      unfold collects at hcomplete
      rw [hopen'.done] at hcomplete
      have hnone : (t.fleet s.nextPtr).subReq.length = 0 := by
        simpa using hcomplete
      unfold slotIds
      rw [List.length_eq_zero_iff.mp hnone]
      rfl
  have hdone : Requested live (t.released s.nextPtr ++ []) t := by
    rw [hreleased]
    exact hloop
  exact (hdone.maybeDone hopen'.freed hopen'.used).1

end Requested

/-! ## Stopping -/

lemma RegistryOnly.requests (f : RegistryOnly s s') : SameRequests s s' := by
  refine ⟨?_, ?_, ?_, fun n => Or.inl ?_, fun r => ?_, fun r => f.freed _, ?_, ?_, ?_, ?_⟩
  all_goals rw [f.rest]

lemma sameRequests_markStopped (s : Controller) : SameRequests s s.markStopped :=
  ⟨rfl, rfl, rfl, fun _ => Or.inl rfl, fun _ => rfl, fun _ => rfl, le_refl _, rfl, rfl, rfl⟩

namespace Requested

/-- While the controller runs no request that is waited for is cancelled. -/
lemma of_live {live' : Prop} (h : Requested live held s) (hlive : live' → live) :
    Requested live' held s where
  ledger r := { h.ledger r with alive := fun h' => (h.ledger r).alive (hlive h') }
  slots := h.slots
  unused := h.unused

/-- A request is outstanding at its own node only. -/
lemma node_of_outstanding (h : Requested live held s) (hr : r ∈ (s.node n).outstandingRequests) :
    (s.request r).node = n := by
  have hcount := (h.ledger r).outstanding n
  have hpos := List.count_pos_iff.mpr hr
  by_contra hne
  rw [if_neg fun hboth => hne hboth.1] at hcount
  omega

lemma nodup_outstanding (h : Requested live held s) (n : NodeId) :
    (s.node n).outstandingRequests.Nodup := by
  rw [List.nodup_iff_count_le_one]
  intro r
  rw [(h.ledger r).outstanding n]
  split
  · exact le_refl 1
  · exact Nat.zero_le 1

section

-- what the steps of a stop keep
variable {P : Controller → Prop}

/-- The loop of `node_shutdown`. -/
lemma cancels
    (hcancel : ∀ t r, Requested False [] t → t.awaits r = true → P t → P (t.agentRequestCancel r))
    (rs : List RequestId) (s : Controller) (h : Requested False [] s) (hs : P s) (hnodup : rs.Nodup)
    (hwaits : ∀ r ∈ rs, s.awaits r = true) :
    Requested False [] (rs.foldl Controller.agentRequestCancel s) ∧
      P (rs.foldl Controller.agentRequestCancel s) ∧
      Wanes rs s (rs.foldl Controller.agentRequestCancel s) := by
  induction rs generalizing s with
  | nil => exact ⟨h, hs, Wanes.refl s⟩
  | cons r rs ih =>
    have ⟨hnot, hnodup⟩ := List.nodup_cons.mp hnodup
    have hr := hwaits r List.mem_cons_self
    have ⟨h', hwanes⟩ := h.agentRequestCancel hr
    have ⟨hlast, hs', hrest⟩ := ih _ h' (hcancel s r h hr hs) hnodup fun r' hr' => by
      have hne : r' ∉ [r] := fun hin => hnot (List.mem_singleton.mp hin ▸ hr')
      rw [hwanes.awaits r' hne]
      exact hwaits r' (List.mem_cons_of_mem r hr')
    refine ⟨hlast, hs', fun r' hr' => ?_, fun n r' hr' =>
      hwanes.outstanding n r' (hrest.outstanding n r' hr')⟩
    have hboth : r' ∉ [r] ∧ r' ∉ rs := by
      rw [List.mem_cons, not_or] at hr'
      exact ⟨fun hin => hr'.1 (List.mem_singleton.mp hin), hr'.2⟩
    exact (hrest.awaits r' hboth.2).trans (hwanes.awaits r' hboth.1)

/-- `controller_remove_node`, when all requests to an online node still wait. -/
lemma removeNode
    (hdesk : ∀ t t', SameDesk (fun _ => False) t t' → P t → P t')
    (hregistry : ∀ t t', RegistryOnly t t' → P t → P t')
    (hcancel : ∀ t r, Requested False [] t → t.awaits r = true → P t → P (t.agentRequestCancel r))
    (h : Requested False [] s) (hs : P s) (n : NodeId)
    (hwaits : nodeIsOnline (s.node n) = true →
      ∀ r ∈ (s.node n).outstandingRequests, s.awaits r = true) :
    Requested False [] (s.removeNode n) ∧ P (s.removeNode n) ∧
      Wanes (s.node n).outstandingRequests s (s.removeNode n) := by
  have hunlist : RegistryOnly s (s.unlistNode n) ∧ (s.unlistNode n).node = s.node := by
    unfold unlistNode
    split
    · exact ⟨⟨rfl, fun _ => timesFreed_listRemove s _ _ _⟩, rfl⟩
    · exact ⟨⟨rfl, fun _ => timesFreed_listRemove s _ _ _⟩, rfl⟩
  have hrelease : ∀ t : Controller, SameDesk (fun _ => False) t (t.nodeUnref n .creator) := fun t =>
    SameDesk.proxies.nodeUnrefFuel _ _ n (SameDesk.dropRef t (fun _ => Obj.noConfusion) _)
  have ⟨hregistered, hnode⟩ := hunlist
  have hsame := hregistered.requests
  have hs' := hregistry _ _ hregistered hs
  unfold Controller.removeNode
  dsimp only
  rw [hnode]
  split
  · rename_i honline
    have hmark : SameDesk (fun _ => False) (s.unlistNode n)
        ((s.unlistNode n).modifyNode n fun node => { node with isShutdown := true }) :=
      SameDesk.modifyNode _ n _ rfl rfl
    unfold Controller.nodeShutdown
    rw [hnode]
    have ⟨hloop, hcancelled, hwanes⟩ := cancels hcancel (s.node n).outstandingRequests _
      ((h.of_requests hsame).of_requests hmark.requests) (hdesk _ _ hmark hs')
      (h.nodup_outstanding n) fun r hr => by
        rw [hmark.requests.awaits, hsame.awaits]
        exact hwaits honline r hr
    have hdec : ∀ t : Controller, RegistryOnly t t.decOnline := fun t => ⟨rfl, fun _ => rfl⟩
    exact ⟨(hloop.of_requests (hdec _).requests).of_requests (hrelease _).requests,
      hdesk _ _ (hrelease _) (hregistry _ _ (hdec _) hcancelled),
      ((hsame.wanes.mono.trans hmark.requests.wanes.mono).trans hwanes).trans
        ((hdec _).requests.wanes.trans (hrelease _).requests.wanes).mono⟩
  · exact ⟨(h.of_requests hsame).of_requests (hrelease _).requests, hdesk _ _ (hrelease _) hs',
      (hsame.wanes.trans (hrelease _).requests.wanes).mono⟩

end

end Requested

/-- No request to a node that is online has been answered. -/
def NoneAnswered (s : Controller) : Prop :=
  ∀ n ∈ s.nodes, nodeIsOnline (s.node n) = true →
    ∀ r ∈ (s.node n).outstandingRequests, r ∈ s.pendingRequests

instance (s : Controller) : Decidable s.NoneAnswered :=
  inferInstanceAs (Decidable (∀ n ∈ s.nodes, _ → ∀ r ∈ _, _))

/-- `controller_stop`, and what its steps keep. -/
lemma Requested.controllerStop {P : Controller → Prop} {gap : ℤ}
    (hdesk : ∀ t t', SameDesk (fun _ => False) t t' → P t → P t')
    (hregistry : ∀ t t', RegistryOnly t t' → P t → P t')
    (hcancel : ∀ t r, Requested False [] t → t.awaits r = true → P t → P (t.agentRequestCancel r))
    (hmark : ∀ t, P t → P t.markStopped)
    (h : Requested True [] s) (hs : P s) (hcons : Consistent gap s) (hnone : s.NoneAnswered)
    (sync : SyncCalls) :
    Requested False [] (s.controllerStop sync) ∧ P (s.controllerStop sync) := by
  have hclients : SameDesk (fun _ => False) s (s.stopClients sync) := sameDesk_stopClients sync s
  let Left (ns : List NodeId) (t : Controller) : Prop :=
    Requested False [] t ∧ P t ∧ ∀ n ∈ ns, nodeIsOnline (s.node n) = true →
      ∀ r ∈ (t.node n).outstandingRequests, t.awaits r = true
  have hround : ∀ n ns t, Removing s (n :: ns) t → Left (n :: ns) t → Left ns (t.removeNode n) := by
    intro n ns t hremoving ⟨ht, hkept, hleft⟩
    have hwaits : nodeIsOnline (t.node n) = true →
        ∀ r ∈ (t.node n).outstandingRequests, t.awaits r = true := by
      rw [hremoving.online]
      exact hleft n List.mem_cons_self
    have ⟨ht', hkept', hwanes⟩ := ht.removeNode hdesk hregistry hcancel hkept n hwaits
    refine ⟨ht', hkept', fun k hk honline r hr => ?_⟩
    have hr' := hwanes.outstanding k r hr
    -- a request to another node is not among those that have been cancelled
    have hnot : r ∉ (t.node n).outstandingRequests := by
      intro hin
      have heq : k = n := (ht.node_of_outstanding hr').symm.trans (ht.node_of_outstanding hin)
      exact (List.nodup_cons.mp hremoving.nodup).1 (heq ▸ hk)
    rw [hwanes.awaits r hnot]
    exact hleft k (List.mem_cons_of_mem n hk) honline r hr'
  have hstart : Left s.nodes (s.stopClients sync) := by
    refine ⟨(h.of_requests hclients.requests).of_live False.elim, hdesk _ _ hclients hs,
      fun n hn honline r hr => ?_⟩
    have hpending := hnone n hn honline r (hclients.requests.wanes.outstanding n r hr)
    rw [hclients.requests.awaits]
    unfold awaits
    rw [decide_eq_true hpending, (h.ledger r).alive trivial hpending]
    rfl
  have ⟨hremoving, hall, hkept, _⟩ := Removing.foldl (P := Left) hround s.nodes _
    (removing_stopClients hcons sync) hstart
  have hanonymous : SameDesk (fun _ => False) _ _ := sameDesk_stopAnonymous hcons hremoving
  have hstatus : ∀ t : Controller, ∀ prev, SameDesk (fun _ => False) t (t.checkSystemStatus prev) := by
    intro t prev
    unfold Controller.checkSystemStatus
    dsimp only
    split
    · exact SameDesk.emit_other t OutputKind.noConfusion
    · exact SameDesk.refl t
  have hsame : (s.stopClients sync).nodes = s.nodes := (removing_stopClients hcons sync).nodes
  have hlast := hall.of_requests hanonymous.requests
  have hkept' := hdesk _ _ hanonymous hkept
  unfold Controller.controllerStop stopNodes
  dsimp only
  rw [hsame]
  split
  · exact ⟨(hlast.of_requests (hstatus _ _).requests).of_requests (sameRequests_markStopped _),
      hmark _ (hdesk _ _ (hstatus _ _) hkept')⟩
  · exact ⟨hlast.of_requests (sameRequests_markStopped _), hmark _ hkept'⟩

/-! ## Runs -/

def Event.stops : Event → Bool
  | .stop _ => true
  | _ => false

/-- The controller stops when no request to an online node has been answered. -/
def CancelsOnce (s : Controller) (e : Event) : Prop := Event.stops e = true → s.NoneAnswered

instance (s : Controller) (e : Event) : Decidable (CancelsOnce s e) :=
  inferInstanceAs (Decidable (_ → _))

lemma Requested.start (threshold : ℤ) (cfgs : List NodeConfig) :
    Requested True [] (start threshold cfgs) := by
  have h := Starting.start threshold cfgs
  generalize Controller.start threshold cfgs = s at h ⊢
  have hpending : s.pendingRequests = [] := by rw [h.rest]; rfl
  have hrequest : ∀ r, s.request r = ⟨0, .forward 0, false⟩ := fun r => by rw [h.rest]; rfl
  have hfleet : ∀ q, s.fleet q = ⟨0, 0, 0, []⟩ := fun q => by rw [h.rest]; rfl
  have hstarted : s.startedRequests = [] := by rw [h.rest]; rfl
  have hcallbacks : s.callbacks = [] := by rw [h.rest]; rfl
  have hfleets : s.freedFleets = [] := by rw [h.rest]; rfl
  have hfreed : ∀ r, timesFreed s (.request r) = 0 := fun r => by rw [h.rest]; rfl
  have hawaits : ∀ r, s.awaits r = false := fun r => by
    unfold awaits
    rw [hpending]
    rfl
  have howners : ∀ r, s.owners [] r = 0 := fun r => by
    unfold owners
    rw [hawaits, slotted_of_other fun q => by rw [hrequest]; exact RequestHandler.noConfusion]
    rfl
  have hslotIds : ∀ q, s.slotIds q = [] := fun q => by
    unfold slotIds
    rw [hfleet]
    rfl
  refine ⟨fun r => ⟨?_, fun n => ?_, fun howned => ?_, ?_, ?_, ?_, ?_, fun _ hin => ?_,
      fun q hq => ?_, fun q hq => ?_⟩,
    fun q => ⟨fun sub hsub => ?_, ?_, fun sub hsub => ?_, ?_, ?_, fun _ => ?_⟩,
    fun r _ => ⟨rfl, ?_, ?_, hfreed r, ?_⟩⟩
  · rw [h.refs, if_neg (by simp), howners]
    rfl
  · rw [h.node n, howners]
    simp [nodeNew]
  · rw [howners] at howned
    exact absurd howned (lt_irrefl 0)
  · rw [hfreed, howners]
    exact Nat.zero_le 1
  · rw [hstarted]
    exact Nat.zero_le _
  · rw [hcallbacks, hawaits, hstarted]
    rfl
  · rw [hpending]
    exact Nat.zero_le 1
  · rw [hpending] at hin
    simp at hin
  · rw [hrequest] at hq
    simp at hq
  · rw [hrequest] at hq
    simp at hq
  · rw [hfleet] at hsub
    simp at hsub
  · rw [hslotIds]
    exact List.nodup_nil
  · rw [hfleet] at hsub
    simp at hsub
  · rw [hfleet]
    rfl
  · rw [hfleets]
    exact Nat.zero_le 1
  · rw [hfleets]
    rfl
  · rw [hpending]
    simp
  · rw [hstarted]
    rfl
  · rw [hfleets]
    rfl

/-- One event. -/
theorem Requested.step {gap : ℤ} {e : Event} (h : Requested True [] s) (hcons : Consistent gap s)
    (hguard : CancelsOnce s e) (hstep : s.step e = some s') :
    Requested (s'.stopped = false) [] s' := by
  have hhandle := (step_eq_some_iff.mp hstep).2
  have hfresh : ∀ n ∈ s.nodes, n < s.nextPtr := fun n hn => hcons.registry.fresh n (Or.inl hn)
  by_cases he : e.ofRequests = false
  · have hdesk : SameDesk (fun _ => True) s s' :=
      SameDesk.aside.step hstep he fun _ _ => trivial
    exact (h.of_requests hdesk.requests).of_live fun _ => trivial
  · match e with
    | .lifecycle n serial method unit mode startTime started =>
      have ⟨hn, heq⟩ := whenever_eq_some_iff.mp hhandle
      rw [← heq]
      exact (h.nodeRunUnitLifecycleMethod (hfresh n hn) serial method unit mode startTime
        started).of_live fun _ => trivial
    | .forward n serial method failure started =>
      have ⟨hn, heq⟩ := whenever_eq_some_iff.mp hhandle
      rw [← heq]
      exact (h.nodeMethodForward (hfresh n hn) serial method failure started).of_live
        fun _ => trivial
    | .jobCancel id serial started =>
      have ⟨job, hjob, heq⟩ := Option.map_eq_some_iff.mp hhandle
      have hn : job.node ∈ s.nodes :=
        hcons.forListed.jobs job.node (Or.inl ⟨job, List.mem_of_find?_eq_some hjob, rfl⟩)
      rw [← heq]
      exact (h.jobMethodCancel job (hfresh job.node hn) serial started).of_live fun _ => trivial
    | .fleet serial method starts =>
      rw [← Option.some.inj hhandle]
      exact (h.agentFleetRequestStart hfresh serial method starts).of_live fun _ => trivial
    | .agentReply r m => exact (h.agentRequestCallback hhandle).of_live fun _ => trivial
    | .stop sync =>
      have hstopped := stopped_of_stop hstep
      rw [← Option.some.inj hhandle] at hstopped ⊢
      have ⟨hend, _⟩ := h.controllerStop (P := fun _ => True) (fun _ _ _ => id) (fun _ _ _ => id)
        (fun _ _ _ _ => id) (fun _ => id) trivial hcons (hguard rfl) sync
      refine hend.of_live fun hrun => ?_
      rw [hstopped] at hrun
      exact Bool.noConfusion hrun

/-- In a run that stops well the requests are in order. -/
lemma requested_of_reachable (h : ReachableUnder system CancelsOnce s) :
    Requested (s.stopped = false) [] s := by
  let Inv : Controller → Prop := fun s => Reachable system s ∧ Requested (s.stopped = false) [] s
  have hinv : Inv s := by
    refine ReachableUnder.invariant (fun s hs => ?_) (fun s e s' ⟨hreach, hs⟩ hguard hstep => ?_) h
    · have ⟨threshold, cfgs, heq⟩ := hs
      rw [heq] at hs ⊢
      exact ⟨.init hs, (Requested.start threshold cfgs).of_live fun _ => trivial⟩
    · have hrun := (step_eq_some_iff.mp hstep).1
      have ⟨gap, hcons⟩ := consistent_of_reachable hreach hrun
      exact ⟨.step hreach trivial hstep, (hs.of_live fun _ => hrun).step hcons hguard hstep⟩
  exact hinv.2

end Controller
end BlueChi
