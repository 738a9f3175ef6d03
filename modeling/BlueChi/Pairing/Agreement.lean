import BlueChi.Pairing.Channel

/-!
# The two sides agree

Three sets that the controller keeps for a node are followed by its agent: the units with
subscriptions, the units that proxies depend on, and whether the metrics are on. What the agent has,
once it has handled what is in its queue, is what the controller has and what the agent kept from an
earlier connection without hearing of it on this one.
-/

namespace BlueChi

open MethodReplies UnitInfos

/-! ## What the agent follows -/

/-- The controller subscribed to the unit, or to all units for the wildcard. -/
def Agent.follows (agent : Agent) (unit : String) : Bool :=
  if isWildcard unit then agent.wildcardSubscriptionActive else isSubscribed agent unit

/-- Only the jobs that the agent is waiting for differ. -/
def SameButJobs (agent agent' : Agent) : Prop :=
  agent' = { agent with
    outstandingRequests := agent'.outstandingRequests, trackedJobs := agent'.trackedJobs }

namespace Agent

variable {agent agent' : Agent} {unit : String}

lemma follows_sameButJobs (h : SameButJobs agent agent') (unit : String) :
    agent'.follows unit = agent.follows unit := by
  unfold follows isSubscribed agentGetUnitInfo
  rw [h]

/-- The wildcard flag is the same, and so is each entry's subscription. -/
lemma follows_congr (hwildcard : agent'.wildcardSubscriptionActive = agent.wildcardSubscriptionActive)
    (hsub : ∀ unit, isSubscribed agent' unit = isSubscribed agent unit) (unit : String) :
    agent'.follows unit = agent.follows unit := by
  unfold follows
  rw [hwildcard, hsub]

lemma wildcard_ensureUnitInfo (agent : Agent) (unit : String) :
    (agentEnsureUnitInfo agent unit).wildcardSubscriptionActive = agent.wildcardSubscriptionActive := by
  unfold agentEnsureUnitInfo
  split <;> rfl

lemma wildcard_updateUnitInfosFor (agent : Agent) (info : AgentUnitInfo) :
    (agentUpdateUnitInfosFor agent info).wildcardSubscriptionActive =
      agent.wildcardSubscriptionActive := by
  unfold agentUpdateUnitInfosFor
  split <;> rfl

lemma isSubscribed_ensureUnitInfo (agent : Agent) (unit unit' : String) :
    isSubscribed (agentEnsureUnitInfo agent unit) unit' = isSubscribed agent unit' := by
  unfold isSubscribed
  rw [get_ensureUnitInfo]
  split
  · rename_i hpath
    rw [makeUnitPath_inj.mp hpath]
    unfold ensured
    cases agentGetUnitInfo agent (makeUnitPath unit) with
    | none => rfl
    | some info => rfl
  · rfl

lemma isSubscribed_modifyUnitInfo {f : AgentUnitInfo → AgentUnitInfo}
    (hf : ∀ info, (f info).objectPath = info.objectPath)
    (hsub : ∀ info, (f info).subscribed = info.subscribed) (agent : Agent) (path unit : String) :
    isSubscribed (agent.modifyUnitInfo path f) unit = isSubscribed agent unit := by
  unfold isSubscribed
  rw [get_modifyUnitInfo hf]
  split
  · rename_i hpath
    rw [← hpath]
    cases agentGetUnitInfo agent (makeUnitPath unit) with
    | none => rfl
    | some info => exact hsub info
  · rfl

/-- An entry that is dropped was not subscribed to. -/
lemma isSubscribed_updateUnitInfosFor {info : AgentUnitInfo}
    (hget : agentGetUnitInfo agent info.objectPath = some info) (unit : String) :
    isSubscribed (agentUpdateUnitInfosFor agent info) unit = isSubscribed agent unit := by
  unfold isSubscribed
  rw [get_updateUnitInfosFor]
  split
  · rename_i hdropped
    rw [hdropped.2, hget]
    have hnot := hdropped.1
    simp only [Bool.and_eq_true, Bool.not_eq_true'] at hnot
    simp [hnot.1]
  · rfl

lemma follows_ensureUnitInfo (agent : Agent) (unit unit' : String) :
    (agentEnsureUnitInfo agent unit).follows unit' = agent.follows unit' :=
  follows_congr (wildcard_ensureUnitInfo agent unit) (isSubscribed_ensureUnitInfo agent unit) unit'

lemma follows_modifyUnitInfo (agent : Agent) (path : String) {f : AgentUnitInfo → AgentUnitInfo}
    (hf : ∀ info, (f info).objectPath = info.objectPath)
    (hsub : ∀ info, (f info).subscribed = info.subscribed) (unit : String) :
    (agent.modifyUnitInfo path f).follows unit = agent.follows unit := by
  apply follows_congr
  · rfl
  · exact isSubscribed_modifyUnitInfo hf hsub agent path

lemma follows_updateUnitInfosFor {info : AgentUnitInfo}
    (hget : agentGetUnitInfo agent info.objectPath = some info) (unit : String) :
    (agentUpdateUnitInfosFor agent info).follows unit = agent.follows unit :=
  follows_congr (wildcard_updateUnitInfosFor agent info) (isSubscribed_updateUnitInfosFor hget) unit

/-- The entry at the path that was changed. -/
lemma get_modified {f : AgentUnitInfo → AgentUnitInfo} {info : AgentUnitInfo} {path : String}
    (hf : ∀ info, (f info).objectPath = info.objectPath)
    (hget : agentGetUnitInfo agent path = some info) :
    agentGetUnitInfo (agent.modifyUnitInfo path f) (f info).objectPath = some (f info) := by
  rw [hf, Keyed.key_of_get_eq_some hget, get_modifyUnitInfo hf, if_pos rfl, hget, Option.map_some]

/-- The entry of another unit is changed. -/
lemma follows_modify_of_ne {f : AgentUnitInfo → AgentUnitInfo}
    (hf : ∀ info, (f info).objectPath = info.objectPath) (agent : Agent) {unit unit' : String}
    (hne : unit' ≠ unit) :
    (agent.modifyUnitInfo (makeUnitPath unit) f).follows unit' = agent.follows unit' := by
  have hsub : isSubscribed (agent.modifyUnitInfo (makeUnitPath unit) f) unit' =
      isSubscribed agent unit' := by
    unfold isSubscribed
    rw [get_modifyUnitInfo hf, if_neg fun hpath => hne (makeUnitPath_inj.mp hpath)]
  unfold follows
  rw [hsub]
  rfl

/-! ### Calls -/

lemma follows_subscribe (agent : Agent) (serial : ℕ) (unit unit' : String) :
    (agentMethodSubscribe agent serial unit).1.follows unit' = true ↔
      unit' = unit ∨ agent.follows unit' = true := by
  unfold agentMethodSubscribe
  by_cases hwildcard : isWildcard unit = true
  · rw [if_pos hwildcard]
    have hunit := (isWildcard_iff unit).mp hwildcard
    by_cases hsame : unit' = unit
    · rw [hsame]
      split
      · rename_i hactive
        simp [follows, hwildcard, hactive]
      · simp [follows, hwildcard]
    · have hother : isWildcard unit' = false := by
        simp only [isWildcard, decide_eq_false_iff_not]
        exact fun heq => hsame (heq.trans hunit.symm)
      split
      · simp [hsame]
      · simp [follows, hother, hsame, isSubscribed, agentGetUnitInfo]
  · rw [if_neg hwildcard]
    have hensured := follows_ensureUnitInfo agent unit
    have hget := get_ensureUnitInfo agent unit (makeUnitPath unit)
    rw [if_pos rfl] at hget
    have hself : (agentEnsureUnitInfo agent unit).follows unit = (ensured agent unit).subscribed := by
      simp [follows, hwildcard, isSubscribed, hget]
    dsimp only
    rw [hget]
    dsimp only
    split
    · rename_i hsub
      rw [hensured]
      constructor
      · exact Or.inr
      · rintro (rfl | h)
        · rw [← hensured, hself, hsub]
        · exact h
    · have hkeep : ∀ info : AgentUnitInfo, { info with subscribed := true }.objectPath =
        info.objectPath := fun _ => rfl
      show ((agentEnsureUnitInfo agent unit).modifyUnitInfo (makeUnitPath unit) fun info =>
        { info with subscribed := true }).follows unit' = true ↔ _
      by_cases hsame : unit' = unit
      · rw [hsame]
        simp [follows, hwildcard, isSubscribed, get_modifyUnitInfo hkeep, hget]
      · rw [follows_modify_of_ne hkeep _ hsame, hensured unit']
        simp [hsame]

lemma follows_unsubscribe (agent : Agent) (serial : ℕ) (unit unit' : String) :
    (agentMethodUnsubscribe agent serial unit).1.follows unit' = true ↔
      unit' ≠ unit ∧ agent.follows unit' = true := by
  unfold agentMethodUnsubscribe
  by_cases hwildcard : isWildcard unit = true
  · rw [if_pos hwildcard]
    have hunit := (isWildcard_iff unit).mp hwildcard
    by_cases hsame : unit' = unit
    · rw [hsame]
      split
      · rename_i hactive
        simp only [Bool.not_eq_true'] at hactive
        simp [follows, hwildcard, hactive]
      · simp [follows, hwildcard]
    · have hother : isWildcard unit' = false := by
        simp only [isWildcard, decide_eq_false_iff_not]
        exact fun heq => hsame (heq.trans hunit.symm)
      split
      · simp [hsame]
      · simp [follows, hother, hsame, isSubscribed, agentGetUnitInfo]
  · rw [if_neg hwildcard]
    -- without a subscription there is nothing to take back
    have hunfollowed : agent.follows unit = false →
        (agent.follows unit' = true ↔ unit' ≠ unit ∧ agent.follows unit' = true) := by
      intro hnot
      constructor
      · intro h
        refine ⟨fun heq => ?_, h⟩
        rw [heq, hnot] at h
        cases h
      · exact And.right
    cases hget : agentGetUnitInfo agent (makeUnitPath unit) with
    | none => exact hunfollowed (by simp [follows, hwildcard, isSubscribed, hget])
    | some info =>
      have hkeep : ∀ info : AgentUnitInfo, { info with subscribed := false }.objectPath =
        info.objectPath := fun _ => rfl
      by_cases hsub : info.subscribed = true
      · simp only [hsub, Bool.not_true, Bool.false_eq_true, if_false]
        rw [follows_updateUnitInfosFor (get_modified hkeep hget)]
        by_cases hsame : unit' = unit
        · rw [hsame]
          simp [follows, hwildcard, isSubscribed, get_modifyUnitInfo hkeep, hget]
        · rw [follows_modify_of_ne hkeep _ hsame]
          simp [hsame]
      · simp only [Bool.not_eq_true] at hsub
        simp only [hsub, Bool.not_false, if_true]
        exact hunfollowed (by simp [follows, hwildcard, isSubscribed, hget, hsub])

/-! ### Signals of systemd -/

lemma follows_unitNew (agent : Agent) (unitName unit : String) :
    (agentMatchUnitNew agent unitName).1.follows unit = agent.follows unit := by
  unfold agentMatchUnitNew
  dsimp only
  split
  · exact follows_ensureUnitInfo agent unitName unit
  · rw [← follows_ensureUnitInfo agent unitName unit]
    apply follows_modifyUnitInfo
    · exact fun _ => rfl
    · exact fun _ => rfl

lemma follows_unitRemoved (agent : Agent) (path unit : String) :
    (agentMatchUnitRemoved agent path).1.follows unit = agent.follows unit := by
  unfold agentMatchUnitRemoved
  split
  · rfl
  · rename_i info hget
    have hkeep : ∀ info : AgentUnitInfo,
        { info with loaded := false, activeState := .invalid, substate := none }.objectPath =
          info.objectPath := fun _ => rfl
    dsimp only
    rw [follows_updateUnitInfosFor (get_modified hkeep hget)]
    apply follows_modifyUnitInfo agent path hkeep
    exact fun _ => rfl

lemma follows_unitChanged (agent : Agent) (path interface : String) (changed : Properties)
    (unit : String) :
    (agentMatchUnitChanged agent path interface changed).1.follows unit = agent.follows unit := by
  unfold agentMatchUnitChanged
  split
  · rfl
  · apply follows_modifyUnitInfo agent path
    · exact fun info => (unitInfoChange_fields info interface changed).1
    · exact fun info => (unitInfoChange_fields info interface changed).2.2.1

end Agent

/-! ## Handlers that leave the units alone -/

namespace SameButJobs

variable {service service' : Service}

lemma refl (agent : Agent) : SameButJobs agent agent := rfl

lemma method (m : ForwardedMethod) (s : Service) (serial : Serial) (fails : Option FailurePoint) :
    SameButJobs s.agent (m.handle s serial fails).agent := by
  have hforward : ∀ (texts : FailurePoint → Option String) (call : SystemdCall),
      (forwardToSystemd texts call s serial fails).agent = s.agent := by
    intro texts call
    unfold forwardToSystemd
    split <;> rfl
  cases m
  all_goals
    rw [SameButJobs]
    simp only [ForwardedMethod.handle, agentMethodPassthroughToSystemd, agentMethodListUnits,
      agentMethodListUnitFiles, agentMethodGetUnitProperties, agentMethodGetUnitProperty,
      agentMethodSetUnitProperties, agentMethodFreezeUnit, agentMethodThawUnit, hforward]

lemma lifecycle (s : Service) (serial : Serial) (method : LifecycleMethod) (name : String)
    (jobId : UInt32) (now : UInt64) (fails : Option FailurePoint) :
    SameButJobs s.agent (runUnitLifecycleMethod s serial method name jobId now fails).agent := by
  unfold runUnitLifecycleMethod
  split
  all_goals
    first
      | exact refl s.agent
      | rfl

lemma jobCancel (s : Service) (serial : Serial) (bcJobId : UInt32) (fails : Option FailurePoint) :
    SameButJobs s.agent (methodJobCancel s serial bcJobId fails).agent := by
  unfold methodJobCancel
  split
  · exact refl s.agent
  · exact refl s.agent
  · split <;> exact refl s.agent

lemma dep (s : Service) (member unit : String) (fails : Option FailurePoint) :
    SameButJobs s.agent (agentMethodDep s member unit fails).agent := by
  unfold agentMethodDep
  split <;> exact refl s.agent

end SameButJobs

/-! ## Handlers that leave the jobs and the metrics alone -/

/-- Only what the agent knows of units differs. -/
def SameButUnits (agent agent' : Agent) : Prop :=
  agent' = { agent with
    unitInfos := agent'.unitInfos, wildcardSubscriptionActive := agent'.wildcardSubscriptionActive }

namespace SameButUnits

variable {agent agent' agent'' : Agent}

lemma refl (agent : Agent) : SameButUnits agent agent := rfl

lemma trans (h : SameButUnits agent agent') (h' : SameButUnits agent' agent'') :
    SameButUnits agent agent'' := by
  unfold SameButUnits at h h' ⊢
  rw [h', h]

lemma ensureUnitInfo (agent : Agent) (unit : String) :
    SameButUnits agent (agentEnsureUnitInfo agent unit) := by
  unfold agentEnsureUnitInfo
  split <;> rfl

lemma modifyUnitInfo (agent : Agent) (path : String) (f : AgentUnitInfo → AgentUnitInfo) :
    SameButUnits agent (agent.modifyUnitInfo path f) := rfl

lemma updateUnitInfosFor (agent : Agent) (info : AgentUnitInfo) :
    SameButUnits agent (agentUpdateUnitInfosFor agent info) := by
  unfold agentUpdateUnitInfosFor
  split <;> rfl

lemma subscribe (agent : Agent) (serial : ℕ) (unit : String) :
    SameButUnits agent (agentMethodSubscribe agent serial unit).1 := by
  unfold agentMethodSubscribe
  split
  · split <;> rfl
  · have hensured := ensureUnitInfo agent unit
    dsimp only
    split
    · exact hensured
    · split
      · exact hensured
      · exact hensured.trans (modifyUnitInfo _ _ _)

lemma unsubscribe (agent : Agent) (serial : ℕ) (unit : String) :
    SameButUnits agent (agentMethodUnsubscribe agent serial unit).1 := by
  unfold agentMethodUnsubscribe
  split
  · split <;> rfl
  · split
    · rfl
    · split
      · rfl
      · exact (modifyUnitInfo agent _ _).trans (updateUnitInfosFor _ _)

lemma unitNew (agent : Agent) (unitName : String) :
    SameButUnits agent (agentMatchUnitNew agent unitName).1 := by
  have hensured := ensureUnitInfo agent unitName
  unfold agentMatchUnitNew
  dsimp only
  split
  · exact hensured
  · exact hensured.trans (modifyUnitInfo _ _ _)

lemma unitRemoved (agent : Agent) (path : String) :
    SameButUnits agent (agentMatchUnitRemoved agent path).1 := by
  unfold agentMatchUnitRemoved
  split
  · rfl
  · exact (modifyUnitInfo agent path _).trans (updateUnitInfosFor _ _)

lemma unitChanged (agent : Agent) (path interface : String) (changed : Properties) :
    SameButUnits agent (agentMatchUnitChanged agent path interface changed).1 := by
  unfold agentMatchUnitChanged
  split <;> rfl

end SameButUnits

namespace Pairing

open Execution Controller Replication

/-- The news that are about units. -/
def SystemdEvent.ofUnits : SystemdEvent → Bool
  | .unitNew .. => true
  | .unitRemoved .. => true
  | .unitChanged .. => true
  | _ => false

namespace Site

variable {site site' : Site} {e : SystemdEvent}

lemma sameButJobs_onSystemd (he : e.ofUnits = false) (hstep : site.onSystemd e = some site') :
    SameButJobs site.service.agent site'.service.agent := by
  cases e with
  | jobRemoved jobPath result now =>
    rw [← Option.some.inj hstep]
    show SameButJobs site.service.agent (agentMatchJobRemoved site.service.agent jobPath result now).1
    unfold agentMatchJobRemoved
    split <;> rfl
  | jobChanged objectPath interface changed =>
    rw [← Option.some.inj hstep]
    exact .refl site.service.agent
  | reply i answer =>
    obtain ⟨service, hservice, rfl⟩ := Option.map_eq_some_iff.mp hstep
    obtain ⟨req, _, rfl⟩ := Option.map_eq_some_iff.mp hservice
    exact .refl site.service.agent
  | lifecycleReply i answer =>
    obtain ⟨service, hservice, rfl⟩ := Option.map_eq_some_iff.mp hstep
    obtain ⟨p, hp, rfl⟩ := Option.map_eq_some_iff.mp hservice
    obtain ⟨req, _, rfl⟩ := Option.map_eq_some_iff.mp hp
    show SameButJobs site.service.agent (agentUnitLifecycleMethodCallback _ req answer).1
    unfold agentUnitLifecycleMethodCallback
    split <;> rfl
  | unitNew unitName path => cases he
  | unitRemoved id path => cases he
  | unitChanged path interface changed => cases he

lemma asked_onSystemd (hstep : site.onSystemd e = some site') : site'.asked = site.asked := by
  cases e with
  | reply i answer =>
    obtain ⟨service, _, rfl⟩ := Option.map_eq_some_iff.mp hstep
    rfl
  | lifecycleReply i answer =>
    obtain ⟨service, _, rfl⟩ := Option.map_eq_some_iff.mp hstep
    rfl
  | _ => exact (congrArg Site.asked (Option.some.inj hstep)).symm

lemma sameButUnits_onSystemd (he : e.ofUnits = true) (hstep : site.onSystemd e = some site') :
    SameButUnits site.service.agent site'.service.agent := by
  cases e with
  | unitNew unitName path =>
    rw [← Option.some.inj hstep]
    exact .unitNew site.service.agent unitName
  | unitRemoved id path =>
    rw [← Option.some.inj hstep]
    exact .unitRemoved site.service.agent path
  | unitChanged path interface changed =>
    rw [← Option.some.inj hstep]
    exact .unitChanged site.service.agent path interface changed
  | _ => cases he

lemma sameButJobs_onCall (site : Site) (h : Handling) {call : AgentCall}
    (hcall : call.kind ≠ .table ∧ call.kind ≠ .metrics) :
    SameButJobs site.service.agent (site.onCall h call).service.agent := by
  cases call with
  | subscribe unit => exact absurd rfl hcall.1
  | unsubscribe unit => exact absurd rfl hcall.1
  | enableMetrics => exact absurd rfl hcall.2
  | disableMetrics => exact absurd rfl hcall.2
  | startDep unit => exact .dep site.service "StartUnit" unit h.fails
  | stopDep unit => exact .dep site.service "StopUnit" unit h.fails
  | lifecycle r method unit mode jobId =>
    exact .lifecycle site.service r method unit jobId h.now h.fails
  | jobCancel r jobId => exact .jobCancel site.service r jobId h.fails
  | request r method => exact .method h.method site.service r h.fails
  | _ => exact .refl site.service.agent

end Site

/-! ## Sets that the agent follows -/

/-- What the agent keeps of a set that it is told about by calls. -/
structure Mirror (κ : Type) where
  about : AgentCall → Option (κ × Bool)
  held : Site → Set κ
  handling : Handling → Prop
  notice : ∀ call, call.kind = .notice → about call = none
  /-- A call is carried out. -/
  handle : ∀ site h call, handling h → held (site.onCall h call) = act about (held site) call
  /-- systemd does not change the set. -/
  systemd : ∀ {site e site'}, Site.onSystemd site e = some site' → held site' = held site

namespace Mirror

variable {κ : Type} (M : Mirror κ) {site site' : Site} {calls : List AgentCall}

lemma held_evolves (h : Evolves M.handling site calls site') :
    M.held site' = exec M.about (M.held site) calls := by
  induction h with
  | refl => rfl
  | handle _ hhandling ih => rw [M.handle _ _ _ hhandling, ih, exec_append, exec_cons, exec_nil]
  | notice _ hkind ih => rw [ih, exec_append, exec_cons, exec_nil, act_of_none (M.notice _ hkind)]
  | systemd _ hstep ih => rw [M.systemd hstep, ih]

/-- Once the queue is handled the agent has what the controller has, and what it kept from an earlier
connection and has not heard of on this one. -/
theorem agrees {t : NodeId} {ok : Event → Prop} {x : State} {b : BusId} {keys : Set κ}
    (hok : ∀ e, ok e → e.AttachesCleanly) (h : ReachableWithin t ok M.handling x)
    (hkeys : KeyedByCalls M.about keys t x.controller)
    (hbus : (x.controller.node t).agentBus = some b) (hpeer : x.peerDbus = some b) (k : κ) :
    k ∈ exec M.about (M.held x.site) (x.toAgent b) ↔
      k ∈ keys ∨ k ∈ M.held x.opened ∧ ¬Mentions M.about (callsOn t b x.controller.log) k := by
  obtain ⟨done, hdone, hevolves⟩ := (handled_of_within hok h).evolved b hpeer
  rw [M.held_evolves hevolves, ← exec_append, ← hdone, mem_exec_iff, ← hkeys.keys b hbus]

end Mirror

/-- The units that the agent forwards, all of them for the wildcard. -/
def subscriptionsHeld : Mirror String where
  about := AgentCall.aboutUnit
  held site := {unit | site.service.agent.follows unit = true}
  handling _ := True
  notice call hkind := by
    cases call with
    | subscribe unit => cases hkind
    | unsubscribe unit => cases hkind
    | _ => rfl
  handle site h call _ := by
    ext unit'
    by_cases hcall : call.kind = .table
    · cases call with
      | subscribe unit =>
        rw [act_of_put (show AgentCall.aboutUnit (.subscribe unit) = some (unit, true) from rfl)]
        exact Agent.follows_subscribe site.service.agent 0 unit unit'
      | unsubscribe unit =>
        rw [act_of_take (show AgentCall.aboutUnit (.unsubscribe unit) = some (unit, false) from rfl)]
        exact (Agent.follows_unsubscribe site.service.agent 0 unit unit').trans and_comm
      | _ => cases hcall
    · have hnone : call.aboutUnit = none := by
        cases call with
        | subscribe unit => exact absurd rfl hcall
        | unsubscribe unit => exact absurd rfl hcall
        | _ => rfl
      rw [act_of_none hnone, Set.mem_ofPred_eq, Set.mem_ofPred_eq]
      by_cases hmetrics : call.kind = .metrics
      · cases call with
        | enableMetrics =>
          show (agentMethodEnableMetrics site.service.agent 0).1.follows unit' = true ↔ _
          unfold agentMethodEnableMetrics
          split <;> rfl
        | disableMetrics =>
          show (agentMethodDisableMetrics site.service.agent 0).1.follows unit' = true ↔ _
          unfold agentMethodDisableMetrics
          split <;> rfl
        | _ => cases hmetrics
      · rw [Agent.follows_sameButJobs (site.sameButJobs_onCall h ⟨hcall, hmetrics⟩)]
  systemd {site e site'} hstep := by
    ext unit'
    rw [Set.mem_ofPred_eq, Set.mem_ofPred_eq, Bool.coe_iff_coe]
    by_cases he : e.ofUnits = false
    · exact Agent.follows_sameButJobs (Site.sameButJobs_onSystemd he hstep) unit'
    · cases e with
      | unitNew unitName path =>
        rw [← Option.some.inj hstep]
        exact Agent.follows_unitNew site.service.agent unitName unit'
      | unitRemoved id path =>
        rw [← Option.some.inj hstep]
        exact Agent.follows_unitRemoved site.service.agent path unit'
      | unitChanged path interface changed =>
        rw [← Option.some.inj hstep]
        exact Agent.follows_unitChanged site.service.agent path interface changed unit'
      | _ => exact absurd rfl he

/-- The metrics are on. -/
def metricsHeld : Mirror Unit where
  about := AgentCall.aboutMetrics
  held site := {_k | site.service.agent.metricsEnabled = true}
  handling _ := True
  notice call hkind := by
    cases call with
    | enableMetrics => cases hkind
    | disableMetrics => cases hkind
    | _ => rfl
  handle site h call _ := by
    ext k
    by_cases hmetrics : call.kind = .metrics
    · cases call with
      | enableMetrics =>
        rw [act_of_put (show AgentCall.aboutMetrics .enableMetrics = some ((), true) from rfl)]
        show (agentMethodEnableMetrics site.service.agent 0).1.metricsEnabled = true ↔ _
        unfold agentMethodEnableMetrics
        split
        · rename_i hon
          simp [hon]
        · simp
      | disableMetrics =>
        rw [act_of_take (show AgentCall.aboutMetrics .disableMetrics = some ((), false) from rfl)]
        show (agentMethodDisableMetrics site.service.agent 0).1.metricsEnabled = true ↔ _
        unfold agentMethodDisableMetrics
        split
        · rename_i hoff
          simp only [Bool.not_eq_true'] at hoff
          simp [hoff]
        · simp
      | _ => cases hmetrics
    · have hnone : call.aboutMetrics = none := by
        by_contra hsome
        exact hmetrics (AgentCall.kind_of_aboutMetrics hsome)
      rw [act_of_none hnone, Set.mem_ofPred_eq, Set.mem_ofPred_eq]
      by_cases hcall : call.kind = .table
      · cases call with
        | subscribe unit =>
          show (agentMethodSubscribe site.service.agent 0 unit).1.metricsEnabled = true ↔ _
          rw [SameButUnits.subscribe]
        | unsubscribe unit =>
          show (agentMethodUnsubscribe site.service.agent 0 unit).1.metricsEnabled = true ↔ _
          rw [SameButUnits.unsubscribe]
        | _ => cases hcall
      · rw [site.sameButJobs_onCall h ⟨hcall, hmetrics⟩]
  systemd {site e site'} hstep := by
    have hsame : site'.service.agent.metricsEnabled = site.service.agent.metricsEnabled := by
      by_cases he : e.ofUnits = false
      · rw [Site.sameButJobs_onSystemd he hstep]
      · rw [Site.sameButUnits_onSystemd (Bool.eq_true_of_not_eq_false he) hstep]
    rw [hsame]

/-- What a call to systemd says about the unit that stands for a dependency. -/
def aboutDepUnit (call : SystemdCall) : Option (String × Bool) :=
  call.args.head?.bind fun unit =>
    if call.member = "StartUnit" then some (unit, true)
    else if call.member = "StopUnit" then some (unit, false)
    else none

/-- The units whose `bluechi-dep@` unit systemd was asked to start, and not asked to stop since. -/
def dependenciesHeld : Mirror String where
  about := AgentCall.aboutDependency
  held site := {unit | getDepUnit unit ∈ exec aboutDepUnit ∅ site.asked}
  handling h := h.fails = none
  notice call hkind := by
    cases call with
    | startDep unit => cases hkind
    | stopDep unit => cases hkind
    | _ => rfl
  handle site h call hhandling := by
    have hinj : ∀ {u v : String}, getDepUnit u = getDepUnit v ↔ u = v := by
      intro u v
      unfold getDepUnit
      exact String.append_right_inj "bluechi-dep@"
    have hdep : ∀ member unit, (site.dep member unit h.fails).asked =
        site.asked ++ [dependencyCall member unit] := by
      intro member unit
      unfold Site.dep
      rw [if_pos hhandling]
    ext unit'
    by_cases hcall : call.kind = .dependency
    · cases call with
      | startDep unit =>
        rw [act_of_put (show AgentCall.aboutDependency (.startDep unit) = some (unit, true) from rfl)]
        show getDepUnit unit' ∈ exec aboutDepUnit ∅ (site.dep "StartUnit" unit h.fails).asked ↔ _
        rw [hdep, exec_append, exec_cons, exec_nil, act_of_put
          (show aboutDepUnit (dependencyCall "StartUnit" unit) = some (getDepUnit unit, true) from rfl)]
        simp [hinj]
      | stopDep unit =>
        rw [act_of_take (show AgentCall.aboutDependency (.stopDep unit) = some (unit, false) from rfl)]
        show getDepUnit unit' ∈ exec aboutDepUnit ∅ (site.dep "StopUnit" unit h.fails).asked ↔ _
        rw [hdep, exec_append, exec_cons, exec_nil, act_of_take
          (show aboutDepUnit (dependencyCall "StopUnit" unit) = some (getDepUnit unit, false) from rfl)]
        simp [hinj]
      | _ => cases hcall
    · have hnone : call.aboutDependency = none ∧ (site.onCall h call).asked = site.asked := by
        cases call with
        | startDep unit => exact absurd rfl hcall
        | stopDep unit => exact absurd rfl hcall
        | _ => exact ⟨rfl, rfl⟩
      rw [act_of_none hnone.1, Set.mem_ofPred_eq, Set.mem_ofPred_eq, hnone.2]
  systemd {site e site'} hstep := by
    rw [Site.asked_onSystemd hstep]

/-! ## The three sets -/

variable {t : NodeId} {x : State} {b : BusId}

/-- The units that node `t` has subscriptions for, and the units that its agent forwards. -/
theorem subscriptions_agree (h : ReachableWithin t (·.AttachesCleanly) (fun _ => True) x)
    (hrun : x.controller.stopped = false) (hbus : (x.controller.node t).agentBus = some b)
    (hpeer : x.peerDbus = some b) (unit : String) :
    unit ∈ exec AgentCall.aboutUnit {u | x.site.service.agent.follows u = true} (x.toAgent b) ↔
      unit ∈ (x.controller.node t).unitSubscriptions.map (·.unit) ∨
        x.opened.service.agent.follows unit = true ∧
          ¬Mentions AgentCall.aboutUnit (callsOn t b x.controller.log) unit :=
  subscriptionsHeld.agrees (fun _ => id) h (unitsReplicated.keyed_of_clean (controller_reachable h) hrun
    (listed_of_within h hrun)) hbus hpeer unit

/-- The units of node `t` that proxies depend on, and the units that the agent has asked systemd to
keep for them. -/
theorem dependencies_agree (h : ReachableWithin t (·.AttachesCleanly) (·.fails = none) x)
    (hrun : x.controller.stopped = false) (hbus : (x.controller.node t).agentBus = some b)
    (hpeer : x.peerDbus = some b) (unit : String) :
    unit ∈ exec AgentCall.aboutDependency {u | getDepUnit u ∈ exec aboutDepUnit ∅ x.site.asked}
        (x.toAgent b) ↔
      unit ∈ (x.controller.node t).proxyDependencies.map (·.unitName) ∨
        getDepUnit unit ∈ exec aboutDepUnit ∅ x.opened.asked ∧
          ¬Mentions AgentCall.aboutDependency (callsOn t b x.controller.log) unit :=
  dependenciesHeld.agrees (fun _ => id) h (dependenciesReplicated.keyed_of_clean
    (controller_reachable h) hrun (listed_of_within h hrun)) hbus hpeer unit

/-- The metrics of the controller and those of the agent. -/
theorem metrics_agree
    (h : ReachableWithin t (fun e => e.AttachesCleanly ∧ e.MatchesMetrics) (fun _ => True) x)
    (hrun : x.controller.stopped = false) (hbus : (x.controller.node t).agentBus = some b)
    (hpeer : x.peerDbus = some b) :
    () ∈ exec AgentCall.aboutMetrics {_k | x.site.service.agent.metricsEnabled = true} (x.toAgent b) ↔
      x.controller.metricsEnabled = true ∨
        x.opened.service.agent.metricsEnabled = true ∧
          ¬Mentions AgentCall.aboutMetrics (callsOn t b x.controller.log) () :=
  metricsHeld.agrees (fun _ h => h.1) h (metered_of_clean (controller_reachable h) hrun
    (listed_of_within h hrun)).calls hbus hpeer ()

/-! ## Examples -/

theorem subscriptions_agree_hearsOfSubscription : ∃ x,
    run (pairSystem 1) (beside (start 0 [⟨"n", none, []⟩])) hearsOfSubscription = some x ∧
      ("a.service" ∈ exec AgentCall.aboutUnit {u | x.site.service.agent.follows u = true}
          (x.toAgent 3) ↔
        "a.service" ∈ (x.controller.node 1).unitSubscriptions.map (·.unit) ∨
          x.opened.service.agent.follows "a.service" = true ∧
            ¬Mentions AgentCall.aboutUnit (callsOn 1 3 x.controller.log) "a.service") ∧
      x.toAgent 3 = [] ∧ x.site.service.agent.follows "a.service" = true := by
  have hread : (run (pairSystem 1) (beside (start 0 [⟨"n", none, []⟩])) hearsOfSubscription).map
      (fun x => (x.controller.stopped, (x.controller.node 1).agentBus, x.peerDbus, x.toAgent 3,
        x.site.service.agent.follows "a.service")) = some (false, some 3, some 3, [], true) := by
    decide +kernel
  obtain ⟨x, hx, hfacts⟩ := Option.map_eq_some_iff.mp hread
  simp only [Prod.mk.injEq] at hfacts
  obtain ⟨hrun, hbus, hpeer, hqueue, hfollows⟩ := hfacts
  have hreach := hearsOfSubscription_within.run hearsOfSubscription_guarded hx
  exact ⟨x, hx, subscriptions_agree hreach hrun hbus hpeer "a.service", hqueue, hfollows⟩

/-- The agent of another node asks for a proxy of a unit of this one. -/
def hearsOfDependency : List PairEvent :=
  [.controller (.accept ⟨some none, none⟩ fun _ => false),
    .controller (.register 3 1 "n" 1 1 ⟨some none, none⟩ fun _ => false),
    .connect ⟨some none, none⟩ fun _ => false,
    .controller (.register 5 2 "m" 1 1 ⟨some none, none⟩ fun _ => false),
    .controller (.agentSignal 4 1 (.proxyNew "m" "db.service" "/proxy/1")),
    .handle ⟨none, 1, .listUnits⟩, .handle ⟨none, 1, .listUnits⟩]

theorem dependencies_agree_hearsOfDependency : ∃ x,
    run (pairSystem 2) (beside (start 0 [⟨"n", none, ["m"]⟩, ⟨"m", none, []⟩])) hearsOfDependency =
        some x ∧
      ("db.service" ∈ exec AgentCall.aboutDependency
          {u | getDepUnit u ∈ exec aboutDepUnit ∅ x.site.asked} (x.toAgent 6) ↔
        "db.service" ∈ (x.controller.node 2).proxyDependencies.map (·.unitName) ∨
          getDepUnit "db.service" ∈ exec aboutDepUnit ∅ x.opened.asked ∧
            ¬Mentions AgentCall.aboutDependency (callsOn 2 6 x.controller.log) "db.service") ∧
      x.toAgent 6 = [] ∧ x.site.asked = [dependencyCall "StartUnit" "db.service"] := by
  have hread : (run (pairSystem 2) (beside (start 0 [⟨"n", none, ["m"]⟩, ⟨"m", none, []⟩]))
      hearsOfDependency).map (fun x => (x.controller.stopped, (x.controller.node 2).agentBus,
        x.peerDbus, (x.toAgent 6).isEmpty, x.site.asked)) =
      some (false, some 6, some 6, true, [dependencyCall "StartUnit" "db.service"]) := by
    decide +kernel
  obtain ⟨x, hx, hfacts⟩ := Option.map_eq_some_iff.mp hread
  simp only [Prod.mk.injEq] at hfacts
  obtain ⟨hrun, hbus, hpeer, hqueue, hasked⟩ := hfacts
  have hclean : ¬MatchFails fun _ => false := by simp [MatchFails]
  have hguard : GuardedRun (pairSystem 2) (fun _ e => e.Within 2 (·.AttachesCleanly) (·.fails = none))
      (beside (start 0 [⟨"n", none, ["m"]⟩, ⟨"m", none, []⟩])) hearsOfDependency :=
    ⟨trivial, fun _ _ => ⟨hclean, fun _ _ => ⟨trivial, fun _ _ => ⟨hclean, fun _ _ =>
      ⟨trivial, fun _ _ => ⟨rfl, fun _ _ => ⟨rfl, fun _ _ => trivial⟩⟩⟩⟩⟩⟩⟩
  have hinit : ReachableWithin 2 (·.AttachesCleanly) (·.fails = none)
      (beside (start 0 [⟨"n", none, ["m"]⟩, ⟨"m", none, []⟩])) := .init (beside_init (by decide +kernel))
  exact ⟨x, hx, dependencies_agree (hinit.run hguard hx) hrun hbus hpeer "db.service",
    List.isEmpty_iff.mp hqueue, hasked⟩

/-- A client turns the metrics on. -/
def hearsOfMetrics : List PairEvent :=
  registersFirst ++ [.controller (.enableMetrics 2 true fun _ => false), .handle ⟨none, 1, .listUnits⟩]

theorem metrics_agree_hearsOfMetrics : ∃ x,
    run (pairSystem 1) (beside (start 0 [⟨"n", none, []⟩])) hearsOfMetrics = some x ∧
      (() ∈ exec AgentCall.aboutMetrics {_k | x.site.service.agent.metricsEnabled = true}
          (x.toAgent 3) ↔
        x.controller.metricsEnabled = true ∨ x.opened.service.agent.metricsEnabled = true ∧
          ¬Mentions AgentCall.aboutMetrics (callsOn 1 3 x.controller.log) ()) ∧
      x.toAgent 3 = [] ∧ x.site.service.agent.metricsEnabled = true := by
  have hread : (run (pairSystem 1) (beside (start 0 [⟨"n", none, []⟩])) hearsOfMetrics).map
      (fun x => (x.controller.stopped, (x.controller.node 1).agentBus, x.peerDbus, x.toAgent 3,
        x.site.service.agent.metricsEnabled)) = some (false, some 3, some 3, [], true) := by
    decide +kernel
  obtain ⟨x, hx, hfacts⟩ := Option.map_eq_some_iff.mp hread
  simp only [Prod.mk.injEq] at hfacts
  obtain ⟨hrun, hbus, hpeer, hqueue, hon⟩ := hfacts
  have hclean : ¬MatchFails fun _ => false := by simp [MatchFails]
  have hguard : GuardedRun (pairSystem 1)
      (fun _ e => e.Within 1 (fun e => e.AttachesCleanly ∧ e.MatchesMetrics) fun _ => True)
      (beside (start 0 [⟨"n", none, []⟩])) hearsOfMetrics :=
    ⟨⟨trivial, trivial⟩, fun _ _ => ⟨⟨hclean, rfl⟩, fun _ _ => ⟨⟨trivial, rfl⟩, fun _ _ =>
      ⟨trivial, fun _ _ => trivial⟩⟩⟩⟩
  have hinit : ReachableWithin 1 (fun e => e.AttachesCleanly ∧ e.MatchesMetrics) (fun _ => True)
      (beside (start 0 [⟨"n", none, []⟩])) := .init (beside_init (by decide +kernel))
  exact ⟨x, hx, metrics_agree (hinit.run hguard hx) hrun hbus hpeer, hqueue, hon⟩

end Pairing
end BlueChi
