import BlueChi.Controller.References

/-!
# Requests keep the invariant

A fleet request holds a reference of each of its nodes from the time it is started until the
last of its requests is answered. Nothing else depends on the answers of the agents.
-/

namespace BlueChi
namespace Controller

variable {gap : ℤ} {s : Controller}

/-! ## What a dropped reference leaves alone -/

@[simp] lemma sendAgent_fleet (s : Controller) (n : NodeId) (call : AgentCall) :
    (s.sendAgent n call).fleet = s.fleet :=
  (coreFrame_sendAgent s n call).fleet

@[simp] lemma sendAgent_nodes (s : Controller) (n : NodeId) (call : AgentCall) :
    (s.sendAgent n call).nodes = s.nodes :=
  (coreFrame_sendAgent s n call).nodes

/-- An answer leaves the nodes in the slots alone. -/
lemma length_answer (fleet : AgentFleetRequest) (r : RequestId) (m : AgentAnswer) :
    (AgentFleetRequest.answer fleet r m).subReq.length = fleet.subReq.length := by
  simp [AgentFleetRequest.answer]

lemma countP_answer (fleet : AgentFleetRequest) (r : RequestId) (m : AgentAnswer) (n : NodeId) :
    (AgentFleetRequest.answer fleet r m).subReq.countP (fun sub => sub.node = n) =
      fleet.subReq.countP fun sub => sub.node = n := by
  have hmap : (AgentFleetRequest.answer fleet r m).subReq.map (·.node) =
      fleet.subReq.map (·.node) := by
    apply List.map_modify_of_key
    exact fun _ => rfl
  have hcount := congrArg (List.countP (fun k => decide (k = n))) hmap
  rwa [List.countP_map, List.countP_map] at hcount

/-- Dropping a reference of a node touches no fleet request and no other owner. -/
lemma nodeUnref_others (h : Consistent gap s) {n : NodeId} {o : Owner}
    (ho : o ∈ (s.refs (.node n)).owners) (hneed : ¬Needed s n o)
    (hfleet : ∀ q, o = .fleet q → (s.fleet q).subReq.length ≤ (s.fleet q).nDone) :
    (s.nodeUnref n o).fleet = s.fleet ∧ (s.nodeUnref n o).nodes = s.nodes ∧ ∀ k,
      ((s.nodeUnref n o).refs (.node k)).owners =
        if k = n then (s.refs (.node k)).owners.erase o else (s.refs (.node k)).owners := by
  obtain ⟨f, heq, -⟩ := h.nodeUnref_eq ho hneed hfleet
  rw [heq]
  refine ⟨by simp, by simp, fun k => ?_⟩
  by_cases hk : k = n
  · subst hk
    simp
  · simp [hk]

/-- Dropping a reference of a request touches no fleet request and none of its references. -/
lemma agentRequestUnref_fleet (h : Consistent gap s) (r : RequestId) (o : Owner) :
    (s.agentRequestUnref r o).fleet = s.fleet ∧ (s.agentRequestUnref r o).nodes = s.nodes ∧
      ∀ k q,
      ((s.agentRequestUnref r o).refs (.node k)).owners.count (.fleet q) =
        (s.refs (.node k)).owners.count (.fleet q) := by
  have hdrop := h.dropRef_request r o
  unfold agentRequestUnref
  simp only
  split
  · rename_i hfreed
    have hzero := isFreed_iff.mp hfreed
    have hpos : 0 < (s.refs (.request r)).count := by
      simp only [dropRef_refs, Function.update_self, RefCount.count_unref] at hzero
      omega
    have hcore := (coreFrame_freeUserdata (s.dropRef (.request r) o) (s.request r).handler).trans
      (coreFrame_unlistRequest _ r)
    have hmem : Owner.request r ∈ (((((s.dropRef (.request r) o).freeUserdata
        (s.request r).handler).unlistRequest r)).refs (.node (s.request r).node)).owners := by
      rw [hcore.refs _ rfl]
      simpa using h.held.owners (s.request r).node (.request r) ⟨hpos, rfl⟩
    obtain ⟨hfleet, hnodes, howners⟩ := nodeUnref_others (hdrop.of_frame hcore) hmem
      (fun hneed => by
        have hcount := ((hcore.needed_iff _ _).mp hneed).1
        omega) (by simp)
    refine ⟨hfleet.trans hcore.fleet, hnodes.trans hcore.nodes, fun k q => ?_⟩
    have hrefs : ((((s.dropRef (.request r) o).freeUserdata
        (s.request r).handler).unlistRequest r).refs (.node k)) = s.refs (.node k) := by
      rw [hcore.refs _ rfl]
      simp
    rw [dropRef_request, howners, hrefs]
    split
    · rw [List.count_erase_of_ne (by simp)]
    · rfl
  · exact ⟨rfl, rfl, fun k q => by simp⟩

namespace Consistent

/-! ## Fleet requests -/

/-- The loop of `agent_fleet_request_free`: the references that are left are enough for the slots that
are left. What the two functions of a round do, the loop does. -/
lemma freeSlots {R : Controller → Controller → Prop} (hrefl : ∀ s, R s s)
    (htrans : ∀ {s s' s''}, R s s' → R s' s'' → R s s'') {q : FleetId}
    (hnode : ∀ {s n}, Consistent gap s → .fleet q ∈ (s.refs (.node n)).owners →
      (s.fleet q).subReq.length ≤ (s.fleet q).nDone → R s (s.nodeUnref n (.fleet q)))
    (hrequest : ∀ {s} r, Consistent gap s → R s (s.agentRequestUnref r .creator))
    (subs : List SubRequest) {s : Controller} (h : Consistent gap s)
    (hdone : (s.fleet q).subReq.length ≤ (s.fleet q).nDone)
    (hcount : ∀ n, subs.countP (fun sub => sub.node = n) ≤
      (s.refs (.node n)).owners.count (.fleet q)) :
    let freed := subs.foldl (fun s sub =>
      (s.nodeUnref sub.node (.fleet q)).agentRequestUnref sub.agentReq .creator) s
    Consistent gap freed ∧ R s freed := by
  induction subs generalizing s with
  | nil => exact ⟨h, hrefl s⟩
  | cons sub subs ih =>
    have hhead : Owner.fleet q ∈ (s.refs (.node sub.node)).owners := by
      have hle := hcount sub.node
      rw [List.countP_cons_of_pos (by simp)] at hle
      exact List.count_pos_iff.mp (by omega)
    have hneed : ¬Needed s sub.node (.fleet q) := fun hneed => hneed
    have hfleet : ∀ q', Owner.fleet q = .fleet q' →
        (s.fleet q').subReq.length ≤ (s.fleet q').nDone := by
      rintro q' heq
      rw [Owner.fleet.injEq] at heq
      exact heq ▸ hdone
    have hunref := h.nodeUnref hhead hneed hfleet
    obtain ⟨hsame, -, howners⟩ := nodeUnref_others h hhead hneed hfleet
    obtain ⟨hsame', -, hcount'⟩ := agentRequestUnref_fleet hunref sub.agentReq .creator
    have hround := htrans (hnode h hhead hdone) (hrequest sub.agentReq hunref)
    obtain ⟨hcons, hrest⟩ := ih (hunref.agentRequestUnref sub.agentReq .creator)
      (by rwa [hsame', hsame]) fun n => by
        have hle := hcount n
        rw [hcount', howners]
        by_cases hn : n = sub.node
        · subst hn
          rw [List.countP_cons_of_pos (by simp)] at hle
          rw [if_pos rfl, List.count_erase_self]
          omega
        · rw [List.countP_cons_of_neg (by simpa using fun heq => hn heq.symm)] at hle
          rwa [if_neg hn]
    exact ⟨hcons, htrans hround hrest⟩

/-- `agent_fleet_request_free` of a request that is done. -/
theorem agentFleetRequestFree (h : Consistent gap s) {q : FleetId}
    (hdone : (s.fleet q).subReq.length ≤ (s.fleet q).nDone)
    (hcount : ∀ n, (s.fleet q).subReq.countP (fun sub => sub.node = n) ≤
      (s.refs (.node n)).owners.count (.fleet q)) : Consistent gap (s.agentFleetRequestFree q) := by
  have hfree : Consistent gap (s.freeFleet q) := h.of_frame (.of_eq rfl)
  exact (freeSlots (R := fun _ _ => True) (fun _ => trivial) (fun _ _ => trivial)
    (fun _ _ _ => trivial) (fun _ _ => trivial) (s.fleet q).subReq hfree hdone hcount).1

/-- `agent_fleet_request_maybe_done`. -/
theorem agentFleetRequestMaybeDone (h : Consistent gap s) {q : FleetId}
    (hcount : (s.fleet q).nDone = (s.fleet q).subReq.length → ∀ n,
      (s.fleet q).subReq.countP (fun sub => sub.node = n) ≤
        (s.refs (.node n)).owners.count (.fleet q)) :
    Consistent gap (s.agentFleetRequestMaybeDone q) := by
  unfold Controller.agentFleetRequestMaybeDone
  split
  · rename_i hdone
    have hemit : ∀ o, Consistent gap ((s.emit o).agentFleetRequestFree q) := fun o =>
      (h.of_frame (coreFrame_emit s o)).agentFleetRequestFree (by simp [hdone])
        (by simpa using hcount hdone)
    unfold agentFleetRequestDone
    simp only
    split
    · exact hemit _
    · exact hemit _
  · exact h

/-- A fleet request may change as long as each undone one is held and has its slots. -/
lemma modifyFleet (h : Consistent gap s) {q : FleetId} {f : AgentFleetRequest → AgentFleetRequest}
    (hfleet : (f (s.fleet q)).nDone < (f (s.fleet q)).subReq.length → ∀ n,
      (f (s.fleet q)).subReq.countP (fun sub => sub.node = n) ≤
        (s.refs (.node n)).owners.count (.fleet q))
    (hslots : ((f (s.fleet q)).subReq.length : ℤ) ≤ (f (s.fleet q)).slots) :
    Consistent gap (s.modifyFleet q f) := by
  refine h.of_rest ⟨rfl, rfl, rfl, rfl, rfl, rfl, rfl, rfl, fun _ => .refl _, fun _ => .refl _,
    fun _ => rfl, le_refl _, fun _ => Or.inr⟩ ?_ fun _ _ => .refl _
  obtain ⟨hwf, howners, hfleets, hslot, hfresh⟩ := h.held
  refine ⟨hwf, fun n o hneed => howners n o (hneed.mono rfl rfl rfl rfl (fun _ hr => hr)
    fun _ hp => hp), fun q' hq' n => ?_, fun q' => ?_, hfresh⟩
  · by_cases hq : q' = q
    · subst hq
      simp only [modifyFleet_fleet, Function.update_self] at hq' ⊢
      exact hfleet hq' n
    · simp only [modifyFleet_fleet, Function.update_of_ne hq] at hq' ⊢
      exact hfleets q' hq' n
  · by_cases hq : q' = q
    · subst hq
      simpa using hslots
    · simpa [hq] using hslot q'

/-- An answer is stored. If it is the last one, each slot still has its reference. -/
lemma answer (h : Consistent gap s) (q : FleetId) (r : RequestId) (m : AgentAnswer) :
    let answered := s.modifyFleet q fun fleet => AgentFleetRequest.answer fleet r m
    Consistent gap answered ∧ ((answered.fleet q).nDone = (answered.fleet q).subReq.length → ∀ n,
      (answered.fleet q).subReq.countP (fun sub => sub.node = n) ≤
        (answered.refs (.node n)).owners.count (.fleet q)) := by
  have hlen := length_answer (s.fleet q) r m
  have hnodes := countP_answer (s.fleet q) r m
  have hdone : (AgentFleetRequest.answer (s.fleet q) r m).nDone = (s.fleet q).nDone + 1 := rfl
  constructor
  · refine h.modifyFleet (fun hlt n => ?_) ?_
    · rw [hnodes]
      exact h.held.fleet q (by omega) n
    · rw [hlen]
      exact h.held.slots q
  · intro heq n
    simp only [modifyFleet_fleet, Function.update_self, modifyFleet_refs] at heq ⊢
    rw [hnodes]
    exact h.held.fleet q (by omega) n

/-- `agent_fleet_request_callback`. -/
theorem agentFleetRequestCallback (h : Consistent gap s) (q : FleetId) (r : RequestId)
    (m : AgentAnswer) : Consistent gap (s.agentFleetRequestCallback q r m) := by
  obtain ⟨hmodify, hcount⟩ := h.answer q r m
  exact hmodify.agentFleetRequestMaybeDone hcount

/-- A slot of a fleet request that waits for all its answers is filled. -/
lemma appendSubRequest (h : Consistent gap s) {q : FleetId} {n : ℕ} (hn : n ∈ s.nodes)
    (r : RequestId) (hdone : (s.fleet q).nDone = 0)
    (hslots : ((s.fleet q).subReq.length : ℤ) + 1 ≤ (s.fleet q).slots) :
    Consistent gap (s.appendSubRequest q n r) := by
  have htake : Consistent gap (s.takeRef (.node n) (.fleet q)) :=
    h.of_rest ⟨rfl, rfl, rfl, rfl, rfl, rfl, rfl, rfl, fun _ => .refl _, fun _ => .refl _,
      fun p => by simp, le_refl _, fun _ => Or.inr⟩
      (h.held.takeRef_node (h.registry.fresh n (Or.inl hn)) _) fun k hk => by
        have hkn : k ≠ n := by
          rintro rfl
          exact hk hn
        simp [hkn]
  refine htake.modifyFleet (fun _ k => ?_) (by simpa using hslots)
  have hle : (s.fleet q).subReq.countP (fun sub => sub.node = k) ≤
      (s.refs (.node k)).owners.count (.fleet q) := by
    by_cases hlt : (s.fleet q).nDone < (s.fleet q).subReq.length
    · exact h.held.fleet q hlt k
    · have hnil : (s.fleet q).subReq = [] := List.length_eq_zero_iff.mp (by omega)
      simp [hnil]
  simp only [takeRef_fleet, List.countP_append, takeRef_refs]
  by_cases hk : k = n
  · subst hk
    simpa using hle
  · have hnk : ¬n = k := fun heq => hk heq.symm
    simpa [hk, hnk] using hle

/-- A fleet request that is being started: no answer has come, and slots are left. -/
structure OpenFleet (gap : ℤ) (q : FleetId) (left : ℕ) (s : Controller) : Prop where
  consistent : Consistent gap s
  done : (s.fleet q).nDone = 0
  slots : ((s.fleet q).subReq.length + left : ℤ) ≤ (s.fleet q).slots

/-- One round of the loop of `agent_fleet_request_start`. -/
lemma OpenFleet.round {q : FleetId} {left : ℕ} (h : OpenFleet gap q (left + 1) s) {n : ℕ}
    (hn : n ∈ s.nodes) (method : String) (starts : NodeId → Bool) :
    OpenFleet gap q left (startSubRequest q method starts s n) ∧
      (startSubRequest q method starts s n).nodes = s.nodes := by
  have ⟨hcons, hdone, hslots⟩ := h
  push_cast at hslots
  unfold startSubRequest
  simp only
  split
  · have hcreate := hcons.nodeCreateRequest hn (fun _ _ heq => by simp at heq : Lists s (.fleet q))
    split
    · -- the request is started and takes the next slot
      have hcount : 0 < ((s.nodeCreateRequest n (.fleet q)).refs (.request s.nextPtr)).count := by
        simp
      have hstart := hcreate.agentRequestStart (.request s.nextPtr method) hcount
      have hfleet : ((s.nodeCreateRequest n (.fleet q)).agentRequestStart s.nextPtr
          (.request s.nextPtr method)).fleet = s.fleet := by
        simp
      have hnodes : ((s.nodeCreateRequest n (.fleet q)).agentRequestStart s.nextPtr
          (.request s.nextPtr method)).nodes = s.nodes := by
        simp
      generalize (s.nodeCreateRequest n (.fleet q)).agentRequestStart s.nextPtr
        (.request s.nextPtr method) = t at hstart hfleet hnodes
      have happend := hstart.appendSubRequest (q := q) (hnodes ▸ hn) s.nextPtr
        (by rwa [hfleet]) (by rw [hfleet]; omega)
      refine ⟨⟨happend, ?_, ?_⟩, hnodes⟩
      · simp [Controller.appendSubRequest, hfleet, hdone]
      · simp only [Controller.appendSubRequest, modifyFleet_fleet, takeRef_fleet,
          Function.update_self, List.length_append, List.length_singleton, hfleet]
        push_cast
        omega
    · obtain ⟨hfleet, hnodes, -⟩ := agentRequestUnref_fleet hcreate s.nextPtr .creator
      have hsame : (s.nodeCreateRequest n (.fleet q)).fleet = s.fleet := by simp
      rw [hsame] at hfleet
      rw [nodeCreateRequest_nodes] at hnodes
      refine ⟨⟨hcreate.agentRequestUnref s.nextPtr .creator, ?_, ?_⟩, hnodes⟩
      · rwa [hfleet]
      · rw [hfleet]
        omega
  · exact ⟨⟨hcons, hdone, by omega⟩, rfl⟩

/-- The loop of `agent_fleet_request_start`: there are slots for the nodes that are left. -/
lemma OpenFleet.loop {q : FleetId} (method : String) (starts : NodeId → Bool) (ns : List NodeId) :
    ∀ {s : Controller}, OpenFleet gap q ns.length s → (∀ n ∈ ns, n ∈ s.nodes) →
      OpenFleet gap q 0 (ns.foldl (startSubRequest q method starts) s) := by
  induction ns with
  | nil => exact fun h _ => h
  | cons n ns ih =>
    intro s h hns
    have ⟨hround, hnodes⟩ := h.round (hns n (by simp)) method starts
    exact ih hround fun k hk => hnodes.symm ▸ hns k (by simp [hk])

/-- The fleet request before its loop. -/
lemma OpenFleet.new (h : Consistent gap s) (serial : Serial) :
    OpenFleet gap s.nextPtr s.nodes.length
      (s.modifyFleet s.nextPtr fun _ => ⟨serial, 0, s.numberOfNodes, []⟩).busAlloc := by
  refine ⟨Consistent.of_frame (h.modifyFleet (fun hlt => by simp at hlt) ?_) (coreFrame_busAlloc _),
    by simp [busAlloc], by simp [busAlloc, h.registry.count]⟩
  rw [h.registry.count]
  simp

/-- `agent_fleet_request_start`. -/
theorem agentFleetRequestStart (h : Consistent gap s) (serial : Serial) (method : String)
    (starts : NodeId → Bool) : Consistent gap (s.agentFleetRequestStart serial method starts) := by
  have hloop := (OpenFleet.new h serial).loop method starts s.nodes fun n hn => hn
  refine Consistent.agentFleetRequestMaybeDone hloop.consistent fun heq n => ?_
  -- nothing was started, so there is no slot
  have hnil := List.length_eq_zero_iff.mp (heq.symm.trans hloop.done)
  rw [hnil]
  exact Nat.zero_le _

/-! ## Answers and cancelled requests -/

theorem requestCallback (h : Consistent gap s) (r : RequestId) (m : AgentAnswer) :
    Consistent gap (s.requestCallback r m) := by
  unfold Controller.requestCallback
  split
  · exact h.of_frame (coreFrame_emit s _)
  · rename_i serial job rows hhandler
    have hadd := h.of_frame (coreFrame_addJob s (Or.inr ⟨r, serial, job, hhandler, rfl⟩))
    split
    · rename_i t hjob
      rwa [hjob] at hadd
    · rename_i t hjob
      rw [hjob] at hadd
      exact hadd.of_frame (coreFrame_emit t _)
  · exact h.of_frame (coreFrame_emit s _)
  · exact h.of_frame (coreFrame_emit s _)
  · exact h
  · exact h.agentFleetRequestCallback _ r _

lemma runCallback (h : Consistent gap s) (r : RequestId) : Consistent gap (s.runCallback r) :=
  h.of_frame (.of_eq rfl)

/-- `agent_request_callback`. -/
theorem agentRequestCallback (h : Consistent gap s) {r : RequestId} {m : AgentAnswer}
    {s' : Controller} (hstep : s.agentRequestCallback r m = some s') : Consistent gap s' := by
  unfold Controller.agentRequestCallback at hstep
  split at hstep
  · rw [Option.some.injEq] at hstep
    subst hstep
    have herase : Consistent gap { s with pendingRequests := s.pendingRequests.erase r } :=
      h.of_frame (.of_eq rfl)
    refine Consistent.agentRequestUnref ?_ r .pending
    split
    · exact herase
    · exact (herase.runCallback r).requestCallback r m
  · simp at hstep

/-- `agent_request_cancel`. -/
theorem agentRequestCancel (h : Consistent gap s) (r : RequestId) :
    Consistent gap (s.agentRequestCancel r) :=
  (((h.of_frame (coreFrame_cancel s r)).runCallback r).requestCallback r _).agentRequestUnref r
    .pending

/-- `node_shutdown`. -/
theorem nodeShutdown (h : Consistent gap s) (n : NodeId) : Consistent gap (s.nodeShutdown n) := by
  have hshutdown : Consistent gap (s.modifyNode n fun node => { node with isShutdown := true }) :=
    h.of_frame (coreFrame_modifyNode s n ⟨rfl, fun _ => rfl, id⟩)
  unfold Controller.nodeShutdown
  exact foldl_keeps (fun _ r ht => ht.agentRequestCancel r) _ hshutdown

/-! ## Methods of clients -/

/-- `node_method_list_units` and its kind. -/
theorem nodeMethodForward (h : Consistent gap s) {n : NodeId} (hn : n ∈ s.nodes) (serial : Serial)
    (method failure : String) (started : Bool) :
    Consistent gap (s.nodeMethodForward n serial method failure started) := by
  unfold Controller.nodeMethodForward
  split
  · exact h.of_frame (coreFrame_emit s _)
  · exact h.runRequest hn _ (by simp [Lists]) _ _ _

lemma jobNew (h : Consistent gap s) (n : NodeId) (unit type : String) (startTime : UInt64) :
    Consistent gap (s.jobNew n unit type startTime).2 := by
  have hnew : Consistent gap (s.newRef (.job s.nextPtr)).busAlloc :=
    (h.of_frame (coreFrame_newRef s _ rfl)).of_frame (coreFrame_busAlloc _)
  exact hnew.of_frame (.of_eq rfl)

/-- `node_run_unit_lifecycle_method`. -/
theorem nodeRunUnitLifecycleMethod (h : Consistent gap s) {n : NodeId} (hn : n ∈ s.nodes)
    (serial : Serial) (method : LifecycleMethod) (unit mode : String) (startTime : UInt64)
    (started : Bool) :
    Consistent gap (s.nodeRunUnitLifecycleMethod n serial method unit mode startTime started) := by
  unfold Controller.nodeRunUnitLifecycleMethod
  split
  · exact h.of_frame (coreFrame_emit s _)
  · refine (h.jobNew n unit (lifecycleJobType method) startTime).runRequest hn _ ?_ _ _ _
    rintro _ job heq
    rw [RequestHandler.lifecycle.injEq] at heq
    exact heq.2 ▸ hn

/-- `job_method_cancel`. -/
theorem jobMethodCancel (h : Consistent gap s) {job : Job} (hjob : job ∈ s.jobs) (serial : Serial)
    (started : Bool) : Consistent gap (s.jobMethodCancel job serial started) := by
  unfold Controller.jobMethodCancel
  split
  · have hn := h.forListed.jobs job.node (Or.inl ⟨job, hjob, rfl⟩)
    have hrun := h.runRequest hn serial
      (fun _ _ heq => by simp at heq : Lists s (.jobCancel serial))
      (fun r => .jobCancel r job.id) started "Failed to call the method to cancel job"
    simp only
    split
    · exact hrun.of_frame (coreFrame_emit _ _)
    · exact hrun
  · exact h.of_frame (coreFrame_emit s _)

end Consistent

end Controller
end BlueChi
