import BlueChi.Controller.Ownership
import BlueChi.Controller.Retention

/-!
# Collecting the answers of a fleet

`ListUnits` and `ListUnitFiles` of the controller make one request for each connected node, and
reply when all of them have been answered. `Gathers` describes the fleet request by the answers that
have come, and `Tracked` says when it replies and is freed.
-/

namespace BlueChi

open Execution

namespace Controller

variable {q : FleetId} {call : Serial} {name : NodeId → String} {gap : ℤ} {s s' s'' : Controller}
  {created : List (NodeId × RequestId)} {answers : RequestId → Option AgentAnswer}

/-! ## What a fleet request replies -/

/-- The slots of a fleet request: a node and the request to it, with the answer when it has come. -/
def slotsOf (created : List (NodeId × RequestId)) (answers : RequestId → Option AgentAnswer) :
    List SubRequest :=
  created.map fun c => ⟨c.1, c.2, answers c.2⟩

/-- All requests have been answered. -/
def allAnswered (created : List (NodeId × RequestId))
    (answers : RequestId → Option AgentAnswer) : Bool :=
  created.all fun c => (answers c.2).isSome

def failed : Option AgentAnswer → Bool
  | some (.error _) => true
  | _ => false

def rowsOf : Option AgentAnswer → List String
  | some (.ok rows) => rows
  | _ => []

/-- The reply when all answers are there: an error if one of them is an error, and the rows of each
node under its name otherwise. -/
def fleetReply (call : Serial) (name : NodeId → String) (created : List (NodeId × RequestId))
    (answers : RequestId → Option AgentAnswer) : Output :=
  if created.any fun c => failed (answers c.2) then
    .replyError call "Request to at least one node failed"
  else .reply call (.nodeRows (created.map fun c => (name c.1, rowsOf (answers c.2))))

lemma answers_fleetReply (call : Serial) (name : NodeId → String)
    (created : List (NodeId × RequestId)) (answers : RequestId → Option AgentAnswer) :
    (fleetReply call name created answers).answers = some call := by
  unfold fleetReply
  split
  · rfl
  · rfl

/-- The encode functions make that reply. -/
lemma encodeReply_slotsOf (hall : allAnswered created answers = true)
    (hname : ∀ c ∈ created, s.nodeName c.1 = name c.1) :
    s.encodeReply (slotsOf created answers) =
      if created.any fun c => failed (answers c.2) then
        .error "Request to at least one node failed"
      else .ok (created.map fun c => (name c.1, rowsOf (answers c.2))) := by
  induction created with
  | nil => rfl
  | cons c created ih =>
    unfold allAnswered at hall
    rw [List.all_cons, Bool.and_eq_true] at hall
    have hrest := ih hall.2 fun c' hc' => hname c' (List.mem_cons_of_mem c hc')
    have hslots : slotsOf (c :: created) answers =
        ⟨c.1, c.2, answers c.2⟩ :: slotsOf created answers := rfl
    rw [hslots]
    unfold encodeReply
    dsimp only
    cases hans : answers c.2 with
    | none =>
      rw [hans] at hall
      exact absurd hall.1 Bool.false_ne_true
    | some answer =>
      cases answer with
      | error message => simp [hans, failed]
      | ok rows =>
        have hfirst : failed (answers c.2) = false := by
          rw [hans]
          rfl
        have hrows : rowsOf (answers c.2) = rows := by
          rw [hans]
          rfl
        rw [hrest, List.any_cons, hfirst, Bool.false_or, List.map_cons, hrows,
          hname c List.mem_cons_self]
        by_cases hany : (created.any fun c => failed (answers c.2)) = true
        · rw [if_pos hany, if_pos hany]
          rfl
        · rw [if_neg hany, if_neg hany]
          rfl

/-! ## The slots -/

lemma mem_slotsOf {c : NodeId × RequestId} (hc : c ∈ created) :
    (⟨c.1, c.2, answers c.2⟩ : SubRequest) ∈ slotsOf created answers :=
  List.mem_map_of_mem (f := fun c : NodeId × RequestId => (⟨c.1, c.2, answers c.2⟩ : SubRequest)) hc

lemma map_agentReq_slotsOf : (slotsOf created answers).map (·.agentReq) = created.map (·.2) := by
  unfold slotsOf
  rw [List.map_map]
  rfl

lemma slotsOf_congr {answers' : RequestId → Option AgentAnswer}
    (heq : ∀ c ∈ created, answers' c.2 = answers c.2) :
    slotsOf created answers' = slotsOf created answers :=
  List.map_congr_left fun c hc => by rw [heq c hc]

/-- The slot of the request takes its answer. -/
lemma answer_slotsOf (ids : (created.map (·.2)).Nodup) {r : RequestId} (m : AgentAnswer)
    (hr : r ∈ created.map (·.2)) :
    (slotsOf created answers).modify
        ((slotsOf created answers).findIdx fun sub => sub.agentReq = r)
        (fun sub => { sub with m := some m }) =
      slotsOf created (Function.update answers r (some m)) := by
  induction created with
  | nil => simp at hr
  | cons c created ih =>
    rw [List.map_cons, List.nodup_cons] at ids
    have hslots : ∀ a : RequestId → Option AgentAnswer,
        slotsOf (c :: created) a = ⟨c.1, c.2, a c.2⟩ :: slotsOf created a := fun _ => rfl
    rw [hslots, hslots, List.findIdx_cons]
    by_cases hc : c.2 = r
    · -- the request is the first one, and no later one
      have hrest : slotsOf created (Function.update answers r (some m)) =
          slotsOf created answers := by
        apply slotsOf_congr
        intro c' hc'
        have hne : c'.2 ≠ r := fun heq => ids.1 (by
          rw [hc, ← heq]
          exact List.mem_map_of_mem hc')
        rw [Function.update_of_ne hne]
      rw [hrest]
      simp [hc]
    · have hlater : r ∈ created.map (·.2) := by
        rw [List.map_cons] at hr
        exact (List.mem_cons.mp hr).resolve_left (Ne.symm hc)
      simp [hc, ih ids.2 hlater]

lemma allAnswered_iff : allAnswered created answers = true ↔
    (slotsOf created answers).countP (·.m.isSome) = (slotsOf created answers).length := by
  unfold allAnswered slotsOf
  rw [List.countP_map, List.length_map, List.all_eq_true, List.countP_eq_length]
  rfl

/-! ## The state of a fleet request -/

/-- The requests of the fleet request, and those that would reply to its call themselves. -/
def ofFleet (q : FleetId) (call : Serial) (handler : RequestHandler) : Bool :=
  decide (handler = .fleet q) || calledBy call handler

lemma ofFleet_plain {handler : RequestHandler}
    (hcaller : RequestHandler.caller handler = some call) : ofFleet q call handler = true := by
  unfold ofFleet calledBy
  simp [hcaller]

lemma ofFleet_self : ofFleet q call (.fleet q) = true := by
  simp [ofFleet]

lemma ofFleet_other {q' : FleetId} (hq : q' ≠ q) : ofFleet q call (.fleet q') = false := by
  simp [ofFleet, calledBy, RequestHandler.caller, hq]

/-- The fleet request of the call: its slots are for the requests that were created, with the answers
that have come, and nothing else would reply to the call. -/
structure Gathers (q : FleetId) (call : Serial) (created : List (NodeId × RequestId))
    (name : NodeId → String) (answers : RequestId → Option AgentAnswer) (s : Controller) : Prop where
  orderly : Orderly (ofFleet q call) call s
  used : q < s.nextPtr
  names : ∀ c ∈ created, c.1 < s.nextPtr ∧ s.nodeName c.1 = name c.1
  message : (s.fleet q).requestMessage = call
  slots : (s.fleet q).subReq = slotsOf created answers
  pending : ∀ r ∈ s.pendingRequests, isMine (ofFleet q call) s r = true → r ∈ created.map (·.2)
  ran : ∀ c ∈ created, s.callbacks.count c.2 = if (answers c.2).isSome then 1 else 0

/-- The reply is sent, and the fleet request is freed, when the last answer comes. -/
structure Tracked (q : FleetId) (call : Serial) (created : List (NodeId × RequestId))
    (name : NodeId → String) (answers : RequestId → Option AgentAnswer) (s : Controller) : Prop
    extends Gathers q call created name answers s where
  replies : s.repliesTo call =
    if allAnswered created answers then [fleetReply call name created answers] else []
  freed : s.freedFleets.count q = if allAnswered created answers then 1 else 0

namespace Gathers

lemma slotIds (h : Gathers q call created name answers s) : s.slotIds q = created.map (·.2) := by
  unfold Controller.slotIds
  rw [h.slots, map_agentReq_slotsOf]

/-- A request that was created is one of the fleet request. -/
lemma handler (h : Gathers q call created name answers s) {c : NodeId × RequestId}
    (hc : c ∈ created) : c.2 < s.nextPtr ∧ (s.request c.2).handler = .fleet q := by
  have hsub : (⟨c.1, c.2, answers c.2⟩ : SubRequest) ∈ slotsOf created answers := mem_slotsOf hc
  rw [← h.slots] at hsub
  exact h.orderly.subs q _ hsub

lemma isMine_eq (h : Gathers q call created name answers s) {c : NodeId × RequestId}
    (hc : c ∈ created) : isMine (ofFleet q call) s c.2 = true := by
  unfold isMine
  rw [(h.handler hc).2]
  exact ofFleet_self

lemma congr (h : Gathers q call created name answers s) {answers' : RequestId → Option AgentAnswer}
    (heq : ∀ c ∈ created, answers' c.2 = answers c.2) :
    Gathers q call created name answers' s :=
  { h with
    slots := h.slots.trans (slotsOf_congr heq).symm
    ran := fun c hc => by
      rw [heq c hc]
      exact h.ran c hc }

/-- What leaves the requests of the fleet request alone. -/
lemma of_ignores (h : Gathers q call created name answers s)
    (horderly : Orderly (ofFleet q call) call s') (f : Ignores (ofFleet q call) call s s') :
    Gathers q call created name answers s' where
  orderly := horderly
  used := lt_of_lt_of_le h.used f.nextPtr
  names c hc := by
    have ⟨hused, hname⟩ := h.names c hc
    refine ⟨lt_of_lt_of_le hused f.nextPtr, ?_⟩
    unfold nodeName
    rw [f.name c.1 hused]
    exact hname
  message := (f.message q h.used).trans h.message
  slots := by
    rw [f.fleet q h.used ofFleet_self]
    exact h.slots
  pending r hr hm := by
    have hin : r ∈ s'.pendingRequests.filter (isMine (ofFleet q call) s') :=
      List.mem_filter.mpr ⟨hr, hm⟩
    rw [f.pending] at hin
    have ⟨hr', hm'⟩ := List.mem_filter.mp hin
    exact h.pending r hr' hm'
  ran c hc := (f.callbacks c.2 (h.handler hc).1 (h.isMine_eq hc)).trans (h.ran c hc)

end Gathers

namespace Tracked

lemma congr (h : Tracked q call created name answers s) {answers' : RequestId → Option AgentAnswer}
    (heq : ∀ c ∈ created, answers' c.2 = answers c.2) :
    Tracked q call created name answers' s := by
  have hall : allAnswered created answers' = allAnswered created answers := by
    rw [Bool.eq_iff_iff, allAnswered_iff, allAnswered_iff, slotsOf_congr heq]
  have hreply : fleetReply call name created answers' = fleetReply call name created answers := by
    have hany : (created.any fun c => failed (answers' c.2)) =
        created.any fun c => failed (answers c.2) := by
      rw [Bool.eq_iff_iff, List.any_eq_true, List.any_eq_true]
      exact exists_congr fun c => and_congr_right fun hc => by rw [heq c hc]
    have hrows : (created.map fun c => (name c.1, rowsOf (answers' c.2))) =
        created.map fun c => (name c.1, rowsOf (answers c.2)) :=
      List.map_congr_left fun c hc => by rw [heq c hc]
    unfold fleetReply
    rw [hany, hrows]
  refine ⟨h.toGathers.congr heq, ?_, ?_⟩
  · rw [hall, hreply]
    exact h.replies
  · rw [hall]
    exact h.freed

lemma of_overlooks (h : Tracked q call created name answers s)
    (f : Overlooks (ofFleet q call) call s s') : Tracked q call created name answers s' := by
  have ⟨horderly, f⟩ := f h.orderly
  exact ⟨h.toGathers.of_ignores horderly f, f.replies.trans h.replies,
    (f.freedFleets q h.used ofFleet_self).trans h.freed⟩

end Tracked

/-! ## Dropping references -/

/-- No more requests are listed, nothing is replied, and each request is for the same. -/
structure Releases (s s' : Controller) : Prop where
  pending : ∀ r ∈ s'.pendingRequests, r ∈ s.pendingRequests
  outstanding : ∀ n, ∀ r ∈ (s'.node n).outstandingRequests, r ∈ (s.node n).outstandingRequests
  handler : ∀ r, (s'.request r).handler = (s.request r).handler
  fleet : s'.fleet = s.fleet
  name : ∀ n < s.nextPtr, (s'.node n).name = (s.node n).name
  nextPtr : s.nextPtr ≤ s'.nextPtr
  replies : ∀ serial, s'.repliesTo serial = s.repliesTo serial
  freedFleets : s'.freedFleets = s.freedFleets
  callbacks : s'.callbacks = s.callbacks

namespace Releases

lemma refl (s : Controller) : Releases s s :=
  ⟨fun _ => id, fun _ _ => id, fun _ => rfl, rfl, fun _ _ => rfl, le_refl _, fun _ => rfl, rfl, rfl⟩

lemma trans (h : Releases s s') (h' : Releases s' s'') : Releases s s'' where
  pending r hr := h.pending r (h'.pending r hr)
  outstanding n r hr := h.outstanding n r (h'.outstanding n r hr)
  handler r := (h'.handler r).trans (h.handler r)
  fleet := h'.fleet.trans h.fleet
  name n hn := (h'.name n (lt_of_lt_of_le hn h.nextPtr)).trans (h.name n hn)
  nextPtr := h.nextPtr.trans h'.nextPtr
  replies serial := (h'.replies serial).trans (h.replies serial)
  freedFleets := h'.freedFleets.trans h.freedFleets
  callbacks := h'.callbacks.trans h.callbacks

lemma of_desk (f : SameDesk (fun _ => False) s s') : Releases s s' where
  pending r hr := f.pending ▸ hr
  outstanding := (f.requests.wanes).outstanding
  handler r := by rw [f.request]
  fleet := f.fleet
  name := f.name
  nextPtr := f.nextPtr
  replies serial := f.replies serial not_false
  freedFleets := f.freedFleets
  callbacks := f.callbacks

lemma of_frees {r : RequestId} (f : FreesRequest r s s') : Releases s s' where
  pending r' hr' := by
    rw [f.pending] at hr'
    exact List.mem_of_mem_erase hr'
  outstanding _ _ := f.mem_outstanding
  handler r' := by rw [f.request]
  fleet := f.fleet
  name := f.name
  nextPtr := f.nextPtr
  replies := f.replies
  freedFleets := f.freedFleets
  callbacks := f.callbacks

lemma agentRequestUnref (s : Controller) (r : RequestId) (o : Owner) :
    Releases s (s.agentRequestUnref r o) := by
  by_cases hcount : (s.refs (.request r)).count = 1
  · exact of_frees (agentRequestUnref_of_last hcount o)
  · rw [agentRequestUnref_of_held hcount]
    exact ⟨fun _ => id, fun _ _ => id, fun _ => rfl, rfl, fun _ _ => rfl, le_refl _, fun _ => rfl,
      rfl, rfl⟩

/-- The slots of a fleet request are emptied. -/
lemma unrefs (subs : List SubRequest) (s : Controller) :
    Releases s (subs.foldl (fun s sub =>
      (s.nodeUnref sub.node (.fleet q)).agentRequestUnref sub.agentReq .creator) s) := by
  induction subs generalizing s with
  | nil => exact refl s
  | cons sub subs ih =>
    have hnode : SameDesk (fun _ => False) s (s.nodeUnref sub.node (.fleet q)) :=
      SameDesk.proxies.nodeUnref _ _ Owner.noConfusion
    exact ((of_desk hnode).trans (agentRequestUnref _ sub.agentReq .creator)).trans (ih _)

end Releases

lemma Gathers.of_releases (h : Gathers q call created name answers s) (f : Releases s s') :
    Gathers q call created name answers s' where
  orderly := h.orderly.of_listed f.nextPtr f.pending f.outstanding f.handler f.fleet
  used := lt_of_lt_of_le h.used f.nextPtr
  names c hc := by
    have ⟨hused, hname⟩ := h.names c hc
    refine ⟨lt_of_lt_of_le hused f.nextPtr, ?_⟩
    unfold nodeName
    rw [f.name c.1 hused]
    exact hname
  message := by
    rw [f.fleet]
    exact h.message
  slots := by
    rw [f.fleet]
    exact h.slots
  pending r hr hm := by
    unfold isMine at hm
    rw [f.handler] at hm
    exact h.pending r (f.pending r hr) hm
  ran c hc := by
    rw [f.callbacks]
    exact h.ran c hc

lemma Tracked.of_releases (h : Tracked q call created name answers s) (f : Releases s s') :
    Tracked q call created name answers s' where
  toGathers := h.toGathers.of_releases f
  replies := (f.replies call).trans h.replies
  freed := by
    rw [f.freedFleets]
    exact h.freed

/-! ## The last answer -/

/-- `agent_fleet_request_maybe_done`: the reply is sent when no slot waits. -/
theorem Gathers.maybeDone (h : Gathers q call created name answers s)
    (hdone : (s.fleet q).nDone = (s.fleet q).subReq.countP (·.m.isSome))
    (hreplies : s.repliesTo call = []) (hfreed : s.freedFleets.count q = 0) :
    Tracked q call created name answers (s.agentFleetRequestMaybeDone q) := by
  have hcomplete : (s.fleet q).nDone = (s.fleet q).subReq.length ↔
      allAnswered created answers = true := by
    rw [hdone, h.slots, allAnswered_iff]
  unfold Controller.agentFleetRequestMaybeDone
  split
  · rename_i heq
    have hall := hcomplete.mp heq
    have hencode := encodeReply_slotsOf hall fun c hc => (h.names c hc).2
    have hreply : s.agentFleetRequestDone q =
        (s.emit (fleetReply call name created answers)).agentFleetRequestFree q := by
      unfold agentFleetRequestDone fleetReply
      rw [h.slots, h.message, hencode]
      by_cases hany : (created.any fun c => failed (answers c.2)) = true
      · rw [if_pos hany, if_pos hany]
      · rw [if_neg hany, if_neg hany]
    -- the reply and the record of the free come first, and then the slots are emptied
    have hsent : Tracked q call created name answers
        ((s.emit (fleetReply call name created answers)).freeFleet q) := by
      refine ⟨⟨⟨h.orderly.pending, h.orderly.outstanding, h.orderly.subs, h.orderly.fleets,
        h.orderly.apart⟩, h.used, h.names, h.message, h.slots, h.pending, h.ran⟩, ?_, ?_⟩
      · show (s.emit _).repliesTo call = _
        rw [repliesTo_emit, hreplies, if_pos (answers_fleetReply ..), if_pos hall]
        rfl
      · rw [freeFleet_freedFleets, List.count_append, List.count_singleton_self, if_pos hall]
        show s.freedFleets.count q + 1 = 1
        rw [hfreed]
    rw [hreply]
    exact hsent.of_releases (Releases.unrefs _ _)
  · rename_i hopen
    have hmissing : ¬allAnswered created answers = true := fun hall => hopen (hcomplete.mpr hall)
    refine ⟨h, ?_, ?_⟩
    · rw [if_neg hmissing]
      exact hreplies
    · rw [if_neg hmissing]
      exact hfreed

/-! ## An answer -/

/-- The slot of the request takes the answer, and one more is done. -/
lemma Gathers.answer (h : Gathers q call created name answers s) (ids : (s.slotIds q).Nodup)
    {r : RequestId} (hr : r ∈ created.map (·.2)) (hnone : answers r = none) (m : AgentAnswer) :
    Gathers q call created name (Function.update answers r (some m))
      ((s.runCallback r).modifyFleet q fun fleet => AgentFleetRequest.answer fleet r m) := by
  have hown : ((s.runCallback r).modifyFleet q fun fleet =>
      AgentFleetRequest.answer fleet r m).fleet q = AgentFleetRequest.answer (s.fleet q) r m := by
    rw [modifyFleet_fleet, Function.update_self]
    rfl
  have hother : ∀ q', q' ≠ q → ((s.runCallback r).modifyFleet q fun fleet =>
      AgentFleetRequest.answer fleet r m).fleet q' = s.fleet q' := fun q' hq' => by
    rw [modifyFleet_fleet, Function.update_of_ne hq']
    rfl
  rw [h.slotIds] at ids
  have hslots : (AgentFleetRequest.answer (s.fleet q) r m).subReq =
      slotsOf created (Function.update answers r (some m)) := by
    rw [← answer_slotsOf ids m hr, ← h.slots]
    rfl
  refine ⟨⟨h.orderly.pending, h.orderly.outstanding, fun q' sub hsub => ?_, h.orderly.fleets,
    fun r' q' hq' hm => ?_⟩, h.used, h.names, ?_, ?_, h.pending, fun c hc => ?_⟩
  · by_cases hq' : q' = q
    · rw [hq'] at hsub ⊢
      rw [hown, hslots] at hsub
      have hin : sub.agentReq ∈ created.map (·.2) := by
        rw [← map_agentReq_slotsOf]
        exact List.mem_map_of_mem hsub
      have ⟨c, hc, heq⟩ := List.mem_map.mp hin
      rw [← heq]
      exact h.handler hc
    · rw [hother q' hq'] at hsub
      exact h.orderly.subs q' sub hsub
  · have hne : q' ≠ q := fun heq => by
      rw [heq, ofFleet_self] at hm
      exact Bool.noConfusion hm
    rw [hother q' hne]
    exact h.orderly.apart r' q' hq' hm
  · rw [hown]
    exact h.message
  · rw [hown]
    exact hslots
  · show (s.callbacks ++ [r]).count c.2 = _
    have hold := h.ran c hc
    rw [List.count_append, List.count_singleton]
    by_cases hc' : c.2 = r
    · rw [hc', hnone] at hold
      rw [hc', hold, Function.update_self, if_pos (beq_self_eq_true r)]
      rfl
    · have hnew : (if (r == c.2) = true then 1 else 0) = 0 := if_neg (by simpa using Ne.symm hc')
      rw [hnew, Nat.add_zero, hold, Function.update_of_ne hc']

/-- The callback of a request of the fleet request, and the end of its call. -/
theorem Tracked.callback {live : Prop} (h : Tracked q call created name answers s)
    (hreq : Requested live [] s) {r : RequestId} (hr : r ∈ created.map (·.2))
    (hwaits : s.awaits r = true) (f : Releases s s') (hsilent : Silences r s (s'.runCallback r))
    (m : AgentAnswer) :
    answers r = none ∧ Tracked q call created name (Function.update answers r (some m))
      (((s'.runCallback r).requestCallback r m).agentRequestUnref r .pending) := by
  have ⟨c, hc, hid⟩ := List.mem_map.mp hr
  have hhandler : (s.request r).handler = .fleet q := by
    rw [← hid]
    exact (h.handler hc).2
  have hnone : answers r = none := by
    have hsub : (⟨c.1, c.2, answers c.2⟩ : SubRequest) ∈ slotsOf created answers := mem_slotsOf hc
    rw [← h.slots] at hsub
    have hmissing := ((hreq.slots q).answered _ hsub).mpr
    rw [hid] at hmissing
    exact hmissing hwaits
  -- a request that is not answered keeps the fleet request from replying
  have hopen : allAnswered created answers = false := by
    rw [Bool.eq_false_iff]
    intro hall
    have hsome := List.all_eq_true.mp hall c hc
    rw [hid, hnone] at hsome
    exact Bool.noConfusion hsome
  have hreplies := h.replies
  have hfreed := h.freed
  rw [hopen, if_neg Bool.false_ne_true] at hreplies hfreed
  have hids : (s'.slotIds q).Nodup := by
    unfold slotIds
    rw [f.fleet]
    exact (hreq.slots q).ids
  have hanswered := (h.toGathers.of_releases f).answer hids hr hnone m
  have hcall : (s'.runCallback r).requestCallback r m =
      ((s'.runCallback r).modifyFleet q fun fleet => AgentFleetRequest.answer fleet r m
        ).agentFleetRequestMaybeDone q := by
    have hsame : ((s'.runCallback r).request r).handler = .fleet q :=
      (hsilent.handler r).trans hhandler
    unfold requestCallback
    rw [hsame]
    rfl
  have ⟨hsettled, _⟩ : Requested False _ _ ∧ _ := hreq.silences_fleet hwaits
    (hsilent.modifyFleet q fun fleet => AgentFleetRequest.answer fleet r m) False.elim hhandler (m := m)
    (by rw [modifyFleet_fleet, Function.update_self, runCallback_fleet, f.fleet])
    (fun q' hq' => by rw [modifyFleet_fleet, Function.update_of_ne hq', runCallback_fleet, f.fleet])
  refine ⟨hnone, ?_⟩
  rw [hcall]
  have hlast := hanswered.maybeDone (hsettled.slots q).done ((f.replies call).trans hreplies)
    (by rw [modifyFleet_freedFleets, runCallback_freedFleets, f.freedFleets]; exact hfreed)
  exact hlast.of_releases (.agentRequestUnref _ r .pending)

/-- What the callback of the request is given when it runs in the step: the answer of the agent, or
the error of a request that is cancelled. -/
def Event.answer : Event → RequestId → Option AgentAnswer
  | .agentReply r' m, r => if r' = r then some m else none
  | .stop _, _ => some (.error "Request cancelled")
  | _, _ => none

/-- Requests that were not answered may have been answered by the event. -/
def Brings (created : List (NodeId × RequestId)) (e : Event)
    (answers answers' : RequestId → Option AgentAnswer) : Prop :=
  ∀ c ∈ created, answers' c.2 = answers c.2 ∨
    answers c.2 = none ∧ ∃ m, Event.answer e c.2 = some m ∧ answers' c.2 = some m

lemma Brings.refl (created : List (NodeId × RequestId)) (e : Event)
    (answers : RequestId → Option AgentAnswer) : Brings created e answers answers :=
  fun _ _ => Or.inl rfl

lemma Brings.update {e : Event} {answers' : RequestId → Option AgentAnswer}
    (h : Brings created e answers answers') {r : RequestId} {m : AgentAnswer}
    (hm : Event.answer e r = some m) (hnone : answers' r = none) :
    Brings created e answers (Function.update answers' r (some m)) := by
  intro c hc
  by_cases hr : c.2 = r
  · have hold := h c hc
    rw [hr, hnone] at hold
    rw [hr, Function.update_self]
    apply hold.elim
    · intro heq
      exact Or.inr ⟨heq.symm, m, hm, rfl⟩
    · intro hboth
      have ⟨m', _, hsome⟩ := hboth.2
      exact absurd hsome (by simp)
  · rw [Function.update_of_ne hr]
    exact h c hc

namespace Tracked

/-- The agent answers a request of the fleet request. -/
lemma agentRequestCallback (h : Tracked q call created name answers s) (hreq : Requested True [] s)
    {r : RequestId} {m : AgentAnswer} (hmine : isMine (ofFleet q call) s r = true)
    (hstep : s.agentRequestCallback r m = some s') :
    ∃ answers', Tracked q call created name answers' s' ∧
      Brings created (.agentReply r m) answers answers' := by
  unfold Controller.agentRequestCallback at hstep
  split at hstep
  · rename_i hpending
    have hold := hreq.ledger r
    have halive := hold.alive trivial hpending
    have hwaits : s.awaits r = true := by
      unfold awaits
      rw [halive, decide_eq_true hpending]
      rfl
    rw [Option.some.injEq] at hstep
    dsimp only at hstep
    rw [halive, if_neg Bool.false_ne_true] at hstep
    have herase : Releases s { s with pendingRequests := s.pendingRequests.erase r } :=
      ⟨fun _ => List.mem_of_mem_erase, fun _ _ => id, fun _ => rfl, rfl, fun _ _ => rfl, le_refl _,
        fun _ => rfl, rfl, rfl⟩
    have ⟨hnone, hnext⟩ := h.callback hreq (h.pending r hpending hmine) hwaits herase
      (silences_reply hold.pending) m
    rw [← hstep]
    exact ⟨_, hnext, (Brings.refl created _ answers).update (if_pos rfl) hnone⟩
  · simp at hstep

/-- A request that waits is cancelled. -/
lemma agentRequestCancel (h : Tracked q call created name answers s) (hreq : Requested False [] s)
    {r : RequestId} (hwaits : s.awaits r = true) :
    Tracked q call created name answers (s.agentRequestCancel r) ∨ answers r = none ∧
      Tracked q call created name (Function.update answers r (some (.error "Request cancelled")))
        (s.agentRequestCancel r) := by
  have hpending : r ∈ s.pendingRequests := by
    unfold awaits at hwaits
    exact of_decide_eq_true (Bool.and_eq_true_iff.mp hwaits).1
  by_cases hmine : isMine (ofFleet q call) s r = true
  · have hmark : Releases s (s.modifyRequest r fun req => { req with isCancelled := true }) := by
      refine ⟨fun _ => id, fun _ _ => id, fun r' => ?_, rfl, fun _ _ => rfl, le_refl _, fun _ => rfl,
        rfl, rfl⟩
      by_cases hr' : r' = r
      · simp [hr']
      · simp [hr']
    exact Or.inr (h.callback hreq (h.pending r hpending hmine) hwaits hmark (silences_cancel s r) _)
  · exact Or.inl (h.of_overlooks (Overlooks.agentRequestCancel (fun _ => ofFleet_plain)
      (h.orderly.pending r hpending) (Bool.eq_false_iff.mpr hmine)))

/-- The end of the controller. -/
lemma controllerStop (h : Tracked q call created name answers s) (hreq : Requested True [] s)
    (hcons : Consistent gap s) (hnone : s.NoneAnswered) (sync : SyncCalls) :
    ∃ answers', Tracked q call created name answers' (s.controllerStop sync) ∧
      Brings created (.stop sync) answers answers' := by
  let P (t : Controller) : Prop := ∃ answers', Tracked q call created name answers' t ∧
    Brings created (.stop sync) answers answers'
  have hdesk : ∀ t t', SameDesk (fun _ => False) t t' → P t → P t' :=
    fun t t' f ⟨answers', ht, hbrings⟩ => ⟨answers', ht.of_releases (.of_desk f), hbrings⟩
  have hregistry : ∀ t t', RegistryOnly t t' → P t → P t' :=
    fun t t' f ⟨answers', ht, hbrings⟩ => ⟨answers', ht.of_overlooks (.of_registry f), hbrings⟩
  have hcancel : ∀ t r, Requested False [] t → t.awaits r = true → P t →
      P (t.agentRequestCancel r) := by
    intro t r hreq hwaits ⟨answers', ht, hbrings⟩
    apply (ht.agentRequestCancel hreq hwaits).elim
    · intro ht'
      exact ⟨answers', ht', hbrings⟩
    · intro ⟨hmissing, ht'⟩
      exact ⟨_, ht', hbrings.update rfl hmissing⟩
  have hmark : ∀ t, P t → P t.markStopped := by
    intro t ⟨answers', ht, hbrings⟩
    have hstop : Releases t t.markStopped := ⟨fun _ => id, fun _ _ => id, fun _ => rfl, rfl,
      fun _ _ => rfl, le_refl _, fun _ => rfl, rfl, rfl⟩
    exact ⟨answers', ht.of_releases hstop, hbrings⟩
  have hstart : P s := ⟨answers, h, Brings.refl created _ answers⟩
  exact (hreq.controllerStop hdesk hregistry hcancel hmark hstart hcons hnone sync).2

end Tracked

/-- One event answers some of the requests. -/
theorem Tracked.step (h : Tracked q call created name answers s) (hreq : Requested True [] s)
    (hcons : Consistent gap s) {e : Event} (hguard : CancelsOnce s e) (hstep : s.step e = some s')
    (hserial : e.serial ≠ some call) :
    ∃ answers', Tracked q call created name answers' s' ∧
      Brings created e answers answers' := by
  have hhandle := (step_eq_some_iff.mp hstep).2
  by_cases hreply : ∃ r m, e = .agentReply r m ∧ isMine (ofFleet q call) s r = true
  · have ⟨r, m, he, hmine⟩ := hreply
    rw [he] at hhandle ⊢
    exact h.agentRequestCallback hreq hmine hhandle
  by_cases hstop : ∃ sync, e = .stop sync
  · have ⟨sync, he⟩ := hstop
    rw [he] at hhandle hguard ⊢
    rw [← Option.some.inj hhandle]
    exact h.controllerStop hreq hcons (hguard rfl) sync
  · have hover : Overlooks (ofFleet q call) call s s' := by
      refine overlooks_step (fun _ => ofFleet_plain) (fun handler serial hcaller hother => ?_)
        (fun serial => ?_) (fun q' => ?_) hstep hserial (fun sync heq => hstop ⟨sync, heq⟩)
        fun r m he => Bool.eq_false_iff.mpr fun hmine => hreply ⟨r, m, he, hmine⟩
      · have hne : ∀ q', handler ≠ .fleet q' := fun q' heq => by
          rw [heq] at hcaller
          simp [RequestHandler.caller] at hcaller
        unfold ofFleet calledBy
        rw [hcaller]
        simpa [hne] using hother
      · simp [ofFleet, calledBy, RequestHandler.caller]
      · by_cases hq' : q' = q
        · exact Or.inr (hq' ▸ h.used)
        · exact Or.inl (ofFleet_other hq')
    exact ⟨answers, h.of_overlooks hover, Brings.refl created _ answers⟩

/-! ## The answers of a run -/

/-- What the callback of the request is given, if it runs in the step. -/
def answered (s s' : Controller) (e : Event) (r : RequestId) : Option AgentAnswer :=
  if s'.callbacks.count r = s.callbacks.count r then none else Event.answer e r

/-- What the callback of the request is given in a run. -/
def answersOf (s : Controller) : List Event → RequestId → Option AgentAnswer
  | [], _ => none
  | e :: es, r =>
    match s.step e with
    | none => none
    | some s' => (answered s s' e r).or (answersOf s' es r)

namespace Tracked

/-- What a step brings is what the callbacks that run in it are given. -/
lemma eq_answered (h : Tracked q call created name answers s) {e : Event}
    {answers' : RequestId → Option AgentAnswer} (h' : Tracked q call created name answers' s')
    (hbrings : Brings created e answers answers') {c : NodeId × RequestId}
    (hc : c ∈ created) : answers' c.2 = (answers c.2).or (answered s s' e c.2) := by
  have hran := h.ran c hc
  have hran' := h'.ran c hc
  unfold answered
  apply (hbrings c hc).elim
  · intro heq
    rw [heq] at hran'
    rw [heq, if_pos (hran'.trans hran.symm), Option.or_none]
  · intro ⟨hnone, m, hm, hsome⟩
    rw [hnone] at hran
    rw [hsome] at hran'
    rw [hnone, hsome, hran, hran', hm]
    rfl

/-- Along a run that stops well the fleet request is described by the answers of the run. -/
theorem run {es : List Event} (h : Tracked q call created name answers s)
    (hreach : ReachableUnder system CancelsOnce s) (hguard : GuardedRun system CancelsOnce s es)
    (hrun : Execution.run system s es = some s') (hserial : ∀ e ∈ es, e.serial ≠ some call) :
    Tracked q call created name (fun r => (answers r).or (answersOf s es r)) s' := by
  induction es generalizing s answers with
  | nil =>
    rw [run_nil, Option.some.injEq] at hrun
    rw [← hrun]
    apply h.congr
    intro c _
    unfold answersOf
    exact Option.or_none
  | cons e es ih =>
    rw [run_cons, Option.bind_eq_some_iff] at hrun
    have ⟨t, hstep, hrun⟩ := hrun
    have hstep' : s.step e = some t := hstep
    have hlive := (step_eq_some_iff.mp hstep').1
    have ⟨gap, hcons⟩ := consistent_of_reachable hreach.reachable hlive
    have hreq := (requested_of_reachable hreach).of_live fun _ : True => hlive
    have ⟨answers', hnext, hbrings⟩ :=
      h.step hreq hcons hguard.1 hstep' (hserial e List.mem_cons_self)
    have hrest := ih hnext (.step hreach hguard.1 hstep) (hguard.2 t hstep) hrun
      fun e' he' => hserial e' (List.mem_cons_of_mem e he')
    apply hrest.congr
    intro c hc
    rw [h.eq_answered hnext hbrings hc, Option.or_assoc]
    show (answers c.2).or (answersOf s (e :: es) c.2) = _
    rw [answersOf, hstep']

end Tracked

/-! ## Making the requests -/

/-- A request to the node has been made and its call is sent, and it has the next slot. -/
structure Starts (n : NodeId) (q : FleetId) (s s' : Controller) : Prop where
  pending : s'.pendingRequests = s.pendingRequests ++ [s.nextPtr]
  request : s'.request = (s.nodeCreateRequest n (.fleet q)).request
  fleet : s'.fleet = (s.modifyFleet q fun fleet =>
    { fleet with subReq := fleet.subReq ++ [⟨n, s.nextPtr, none⟩] }).fleet
  outstanding : ∀ n', ∀ r ∈ (s'.node n').outstandingRequests,
    r ∈ ((s.nodeCreateRequest n (.fleet q)).node n').outstandingRequests
  name : ∀ n' < s.nextPtr, (s'.node n').name = (s.node n').name
  nextPtr : s.nextPtr < s'.nextPtr
  replies : ∀ serial, s'.repliesTo serial = s.repliesTo serial
  callbacks : s'.callbacks = s.callbacks

lemma starts_startSubRequest (q : FleetId) (method : String) {starts : NodeId → Bool} {n : NodeId}
    (hagent : nodeHasAgent (s.node n) = true) (hstarts : starts n = true) :
    Starts n q s (startSubRequest q method starts s n) := by
  have hsend : SameDesk (fun _ => False) (s.nodeCreateRequest n (.fleet q))
      ((s.nodeCreateRequest n (.fleet q)).sendAgent
        ((s.nodeCreateRequest n (.fleet q)).request s.nextPtr).node (.request s.nextPtr method)) :=
    SameDesk.sendAgent _ _ _
  have hround : startSubRequest q method starts s n =
      ((s.nodeCreateRequest n (.fleet q)).agentRequestStart s.nextPtr
        (.request s.nextPtr method)).appendSubRequest q n s.nextPtr := by
    unfold startSubRequest
    rw [if_pos hagent]
    dsimp only
    rw [if_pos hstarts]
  have hname : ∀ n', ((s.nodeCreateRequest n (.fleet q)).node n').name = (s.node n').name := by
    intro n'
    by_cases hn : n' = n
    · rw [hn]
      simp
    · simp [hn]
  have hcallbacks : (s.nodeCreateRequest n (.fleet q)).callbacks = s.callbacks := by simp
  have hcreated : ∀ serial, (s.nodeCreateRequest n (.fleet q)).repliesTo serial =
      s.repliesTo serial := fun _ => by simp [repliesTo]
  have hfleet : (s.nodeCreateRequest n (.fleet q)).fleet = s.fleet := by simp
  unfold agentRequestStart at hround
  rw [hround]
  generalize (s.nodeCreateRequest n (.fleet q)).sendAgent _ _ = u at hsend
  refine ⟨by simp [appendSubRequest], hsend.request, ?_, hsend.requests.wanes.outstanding,
    fun n' hn' => (hsend.name n' (Nat.lt_succ_of_lt hn')).trans (hname n'),
    lt_of_lt_of_le (Nat.lt_succ_self _) hsend.nextPtr,
    fun serial => (hsend.replies serial not_false).trans (hcreated serial),
    hsend.callbacks.trans hcallbacks⟩
  have hsame := hsend.fleet.trans hfleet
  simp [appendSubRequest, hsame]

namespace Starts

variable {n : NodeId}

lemma fleet_self (f : Starts n q s s') : s'.fleet q = { s.fleet q with
    subReq := (s.fleet q).subReq ++ [⟨n, s.nextPtr, none⟩] } := by
  rw [f.fleet, modifyFleet_fleet, Function.update_self]

lemma fleet_other (f : Starts n q s s') {q' : FleetId} (hq' : q' ≠ q) :
    s'.fleet q' = s.fleet q' := by
  rw [f.fleet, modifyFleet_fleet, Function.update_of_ne hq']

lemma orderly (f : Starts n q s s') (h : Orderly (ofFleet q call) call s) (hq : q < s.nextPtr) :
    Orderly (ofFleet q call) call s' := by
  have hcreated : Orderly (ofFleet q call) call (s.nodeCreateRequest n (.fleet q)) := by
    refine h.nodeCreateRequest n fun q' heq => ?_
    rw [← RequestHandler.fleet.inj heq]
    refine ⟨hq, fun hm => ?_⟩
    rw [ofFleet_self] at hm
    exact Bool.noConfusion hm
  have hptr : (s.nodeCreateRequest n (.fleet q)).nextPtr ≤ s'.nextPtr := f.nextPtr
  refine ⟨fun r hr => ?_,
    fun n' r hr => lt_of_lt_of_le (hcreated.outstanding n' r (f.outstanding n' r hr)) hptr,
    fun q' sub hsub => ?_, fun r q' hq' => ?_, fun r q' hq' hm => ?_⟩
  · rw [f.pending] at hr
    apply (List.mem_append.mp hr).elim
    · intro hold
      exact lt_trans (h.pending r hold) f.nextPtr
    · intro hnew
      rw [List.mem_singleton.mp hnew]
      exact f.nextPtr
  · rw [f.request]
    have hold : ∀ sub' ∈ (s.fleet q').subReq, sub'.agentReq < s'.nextPtr ∧
        ((s.nodeCreateRequest n (.fleet q)).request sub'.agentReq).handler = .fleet q' := by
      intro sub' hsub'
      have hlist := hcreated.subs q' sub' hsub'
      exact ⟨lt_of_lt_of_le hlist.1 hptr, hlist.2⟩
    by_cases hq' : q' = q
    · rw [hq', f.fleet_self] at hsub
      rw [hq'] at hold ⊢
      apply (List.mem_append.mp hsub).elim
      · exact hold sub
      · intro hnew
        rw [List.mem_singleton.mp hnew, nodeCreateRequest_request_new]
        exact ⟨f.nextPtr, rfl⟩
    · rw [f.fleet_other hq'] at hsub
      exact hold sub hsub
  · rw [f.request] at hq'
    exact lt_of_lt_of_le (hcreated.fleets r q' hq') hptr
  · rw [f.request] at hq'
    have hne : q' ≠ q := fun heq => by
      rw [heq, ofFleet_self] at hm
      exact Bool.noConfusion hm
    rw [f.fleet_other hne]
    exact hcreated.apart r q' hq' hm

end Starts

/-- No answer has come yet, and one more request has been made. -/
lemma Gathers.of_starts {n : NodeId} (h : Gathers q call created name (fun _ => none) s)
    (hn : n < s.nextPtr) (hname : s.nodeName n = name n) (hran : s.callbacks.count s.nextPtr = 0)
    (f : Starts n q s s') :
    Gathers q call (created ++ [(n, s.nextPtr)]) name (fun _ => none) s' := by
  -- a request is one of the old ones or the new one
  have hcases : ∀ {P : NodeId × RequestId → Prop}, (∀ c ∈ created, P c) → P (n, s.nextPtr) →
      ∀ c ∈ created ++ [(n, s.nextPtr)], P c := by
    intro P hold hnew c hc
    apply (List.mem_append.mp hc).elim
    · exact hold c
    · intro hc'
      rw [List.mem_singleton.mp hc']
      exact hnew
  have hnamed : ∀ n' < s.nextPtr, s'.nodeName n' = s.nodeName n' := by
    intro n' hn'
    unfold nodeName
    rw [f.name n' hn']
  refine ⟨f.orderly h.orderly h.used, lt_trans h.used f.nextPtr, hcases (fun c hc => ?_) ?_, ?_, ?_,
    fun r hr hm => ?_, hcases (fun c hc => ?_) ?_⟩
  · have ⟨hused, hold⟩ := h.names c hc
    exact ⟨lt_trans hused f.nextPtr, (hnamed c.1 hused).trans hold⟩
  · exact ⟨lt_trans hn f.nextPtr, (hnamed n hn).trans hname⟩
  · rw [f.fleet_self]
    exact h.message
  · rw [f.fleet_self, h.slots]
    simp [slotsOf]
  · rw [f.pending] at hr
    rw [List.map_append]
    apply List.mem_append.mpr
    apply (List.mem_append.mp hr).imp
    · intro hold
      unfold isMine at hm
      rw [f.request, nodeCreateRequest_request_of_lt n (.fleet q) (h.orderly.pending r hold)] at hm
      exact h.pending r hold hm
    · exact id
  · rw [f.callbacks]
    exact h.ran c hc
  · rw [f.callbacks]
    exact hran

/-- A round of the loop makes a request when the node has an agent and the call can be sent. -/
lemma Gathers.startSubRequest (h : Gathers q call created name (fun _ => none) s)
    (hreq : Requested True [] s) (hreplies : s.repliesTo call = []) {n : NodeId} (hn : n < s.nextPtr)
    (hname : s.nodeName n = name n) (method : String) (starts : NodeId → Bool) :
    ∃ created', created'.map (·.1) =
        created.map (·.1) ++ [n].filter (fun n => nodeHasAgent (s.node n) && starts n) ∧
      Gathers q call created' name (fun _ => none) (Controller.startSubRequest q method starts s n) ∧
      (Controller.startSubRequest q method starts s n).repliesTo call = [] := by
  have hkept : ∀ {t : Controller}, Overlooks (ofFleet q call) call s t →
      Gathers q call created name (fun _ => none) t ∧ t.repliesTo call = [] := by
    intro t f
    have ⟨horderly, f⟩ := f h.orderly
    exact ⟨h.of_ignores horderly f, f.replies.trans hreplies⟩
  by_cases hagent : nodeHasAgent (s.node n) = true
  · by_cases hstarts : starts n = true
    · have f := starts_startSubRequest q method hagent hstarts
      have hran := (hreq.ledger s.nextPtr).ran
      rw [(hreq.unused s.nextPtr (le_refl _)).started] at hran
      refine ⟨created ++ [(n, s.nextPtr)], ?_, h.of_starts hn hname (by omega) f,
        (f.replies call).trans hreplies⟩
      rw [List.map_append, List.filter_cons_of_pos (by simp [hagent, hstarts]), List.filter_nil]
      rfl
    · have hfrees := agentRequestUnref_of_last
        (makesRequest_nodeCreateRequest s n (.fleet q)).count .creator
      have hround : Controller.startSubRequest q method starts s n =
          (s.nodeCreateRequest n (.fleet q)).agentRequestUnref s.nextPtr .creator := by
        unfold Controller.startSubRequest
        rw [if_pos hagent]
        dsimp only
        rw [if_neg hstarts]
      have hover : Overlooks (ofFleet q call) call s (Controller.startSubRequest q method starts s n) := by
        rw [hround]
        refine Overlooks.createAndFree n (fun q' hq' => ?_) hfrees
        rw [← RequestHandler.fleet.inj hq']
        refine ⟨h.used, fun hm => ?_⟩
        rw [ofFleet_self] at hm
        exact Bool.noConfusion hm
      refine ⟨created, ?_, hkept hover⟩
      rw [List.filter_cons_of_neg (by simp [hstarts]), List.filter_nil, List.append_nil]
  · have hround : Controller.startSubRequest q method starts s n = s := by
      unfold Controller.startSubRequest
      rw [if_neg hagent]
    rw [hround]
    refine ⟨created, ?_, h, hreplies⟩
    rw [List.filter_cons_of_neg (by simp [hagent]), List.filter_nil, List.append_nil]

/-- The loop of `agent_fleet_request_start`. -/
lemma Gathers.startSubRequests (method : String) (starts : NodeId → Bool) (ns : List NodeId)
    (s : Controller) (created : List (NodeId × RequestId))
    (h : Gathers q call created name (fun _ => none) s) (hreq : Requested True [] s)
    (hopening : Opening q s) (hopen : Consistent.OpenFleet gap q ns.length s)
    (hns : ∀ n ∈ ns, n ∈ s.nodes ∧ s.nodeName n = name n) (hreplies : s.repliesTo call = []) :
    ∃ created', created'.map (·.1) =
        created.map (·.1) ++ ns.filter (fun n => nodeHasAgent (s.node n) && starts n) ∧
      Gathers q call created' name (fun _ => none)
        (ns.foldl (Controller.startSubRequest q method starts) s) ∧
      (ns.foldl (Controller.startSubRequest q method starts) s).repliesTo call = [] := by
  induction ns generalizing s created with
  | nil =>
    refine ⟨created, ?_, h, hreplies⟩
    rw [List.filter_nil, List.append_nil]
  | cons n ns ih =>
    have ⟨hn, hname⟩ := hns n List.mem_cons_self
    have hused := hopen.consistent.registry.fresh n (Or.inl hn)
    have ⟨created', hfirst, h', hreplies'⟩ := h.startSubRequest hreq hreplies hused hname method starts
    have ⟨hreq', hopening', _⟩ := hreq.startSubRequest hopening hused method starts
    have hretains := retains_startSubRequest hopen hn method starts
    have hnodes := hretains.nodes
    have ⟨created'', hrest, hlast⟩ := ih _ created' h' hreq' hopening' (hopen.round hn method starts).1
      (fun k hk => by
        have ⟨hin, hnamed⟩ := hns k (List.mem_cons_of_mem n hk)
        unfold nodeName at hnamed ⊢
        rw [hnodes, hretains.name]
        exact ⟨hin, hnamed⟩) hreplies'
    refine ⟨created'', ?_, hlast⟩
    -- the nodes that are left keep their connections
    have hsame : ns.filter (fun k =>
          nodeHasAgent ((Controller.startSubRequest q method starts s n).node k) && starts k) =
        ns.filter fun k => nodeHasAgent (s.node k) && starts k := by
      apply List.filter_congr
      intro k hk
      have hlink := hretains.present k (Or.inl (hns k (List.mem_cons_of_mem n hk)).1)
      have hbus : ((Controller.startSubRequest q method starts s n).node k).agentBus =
          (s.node k).agentBus := congrArg NodeLink.agentBus hlink
      unfold nodeHasAgent
      rw [hbus]
    have hsplit : (n :: ns).filter (fun k => nodeHasAgent (s.node k) && starts k) =
        [n].filter (fun k => nodeHasAgent (s.node k) && starts k) ++
          ns.filter fun k => nodeHasAgent (s.node k) && starts k :=
      List.filter_append [n] ns
    rw [hrest, hsame, hfirst, hsplit, List.append_assoc]

end Controller
end BlueChi
