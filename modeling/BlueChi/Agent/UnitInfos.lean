import BlueChi.Library.Execution
import BlueChi.Library.Hashmap
import BlueChi.Agent.State

/-!
# The units that the agent knows

`unit_infos` has an entry for every unit that is loaded in systemd or that the controller subscribed
to. The entry of a unit is stored under its path, and no entry stays that nobody needs.
-/

namespace BlueChi

open Execution

/-! ## The table -/

/-- `agent_get_unit_info`. -/
def agentGetUnitInfo (agent : Agent) (unitPath : String) : Option AgentUnitInfo :=
  Keyed.get AgentUnitInfo.objectPath agent.unitInfos unitPath

/-- Write through the pointer that `agent_get_unit_info` returned. -/
def Agent.modifyUnitInfo (agent : Agent) (unitPath : String) (f : AgentUnitInfo → AgentUnitInfo) :
    Agent :=
  { agent with unitInfos := Keyed.modify AgentUnitInfo.objectPath agent.unitInfos unitPath f }

/-- The entry that `agent_ensure_unit_info` adds. -/
def newUnitInfo (unit : String) : AgentUnitInfo :=
  ⟨makeUnitPath unit, unit, false, false, .unset, none⟩

/-- `agent_ensure_unit_info`. The entry is then found under `make_unit_path` of the unit. -/
def agentEnsureUnitInfo (agent : Agent) (unit : String) : Agent :=
  match agentGetUnitInfo agent (makeUnitPath unit) with
  | some _ => agent
  | none => { agent with unitInfos := agent.unitInfos ++ [newUnitInfo unit] }

/-- `agent_update_unit_infos_for`. -/
def agentUpdateUnitInfosFor (agent : Agent) (info : AgentUnitInfo) : Agent :=
  if !info.subscribed && !info.loaded then
    { agent with
      unitInfos := Keyed.delete AgentUnitInfo.objectPath agent.unitInfos info.objectPath }
  else agent

/-! ## The state of a unit -/

/-- `unit_info_get_substate`. -/
def unitInfoGetSubstate (info : AgentUnitInfo) : String := info.substate.getD "invalid"

/-- `struct UpdateStateData`. -/
structure UpdateStateData where
  activeState : UnitActiveState
  substate : String

/-- `unit_info_update_state_cb`. -/
def unitInfoUpdateStateCb (key : String) (value : Variant) (data : UpdateStateData) :
    Except Errno (PropertyCbResult × UpdateStateData) :=
  if key ≠ "ActiveState" ∧ key ≠ "SubState" ∧ value.valueType ≠ "s" then .ok (.skip, data)
  else
    match value with
    | .other _ _ => .error .enxio
    | .string text =>
      if key = "ActiveState" then
        .ok (.next, { data with activeState := activeStateFromString text })
      else if key = "SubState" then .ok (.next, { data with substate := text })
      else .ok (.next, data)

/-- `unit_info_update_state`: whether the state changes, and the entry with it. -/
def unitInfoUpdateState (info : AgentUnitInfo) (changed : Properties) : Bool × AgentUnitInfo :=
  match busParsePropertiesForeach unitInfoUpdateStateCb changed
    ⟨info.activeState, unitInfoGetSubstate info⟩ with
  | .error _ => (false, info)
  | .ok (_, data) =>
    let stateChanged := data.activeState ≠ info.activeState
    let substateChanged := data.substate ≠ unitInfoGetSubstate info
    (stateChanged || substateChanged,
      { info with
        activeState := data.activeState
        substate := if substateChanged then some data.substate else info.substate })

/-- What `agent_match_unit_changed` does to an entry: only the properties of the unit interface hold
a state. -/
def unitInfoChange (info : AgentUnitInfo) (interface : String) (changed : Properties) :
    Bool × AgentUnitInfo :=
  if interface = "org.freedesktop.systemd1.Unit" then unitInfoUpdateState info changed
  else (false, info)

/-! ## Methods -/

/-- `agent_emit_unit_state_changed`. -/
def agentEmitUnitStateChanged (info : AgentUnitInfo) (reason : String) : AgentOutput :=
  .signal (.unitStateChanged info.unit (activeStateToString info.activeState)
    (unitInfoGetSubstate info) reason)

/-- `agent_method_subscribe`. -/
def agentMethodSubscribe (agent : Agent) (serial : ℕ) (unit : String) : Agent × List AgentOutput :=
  if isWildcard unit then
    if agent.wildcardSubscriptionActive then
      (agent, [.replyError serial "Already wildcard subscribed"])
    else
      ({ agent with wildcardSubscriptionActive := true },
        [.signal (.unitNew unit "virtual"), .reply serial])
  else
    let agent := agentEnsureUnitInfo agent unit
    match agentGetUnitInfo agent (makeUnitPath unit) with
    | none => (agent, [.replyError serial "Failed to ensure the unit info"])
    | some info =>
      if info.subscribed then (agent, [.replyError serial "Already subscribed"])
      else
        let virtual : List AgentOutput :=
          if info.loaded then
            .signal (.unitNew info.unit "virtual") ::
              if info.activeState ≠ .invalid then [agentEmitUnitStateChanged info "virtual"] else []
          else []
        (agent.modifyUnitInfo (makeUnitPath unit) fun info => { info with subscribed := true },
          virtual ++ [.reply serial])

/-- `agent_method_unsubscribe`. -/
def agentMethodUnsubscribe (agent : Agent) (serial : ℕ) (unit : String) :
    Agent × List AgentOutput :=
  if isWildcard unit then
    if !agent.wildcardSubscriptionActive then
      (agent, [.replyError serial "No wildcard subscription active"])
    else ({ agent with wildcardSubscriptionActive := false }, [.reply serial])
  else
    match agentGetUnitInfo agent (makeUnitPath unit) with
    | none => (agent, [.replyError serial "Not subscribed"])
    | some info =>
      if !info.subscribed then (agent, [.replyError serial "Not subscribed"])
      else
        let unsubscribed := fun info : AgentUnitInfo => { info with subscribed := false }
        (agentUpdateUnitInfosFor (agent.modifyUnitInfo (makeUnitPath unit) unsubscribed)
          (unsubscribed info), [.reply serial])

/-! ## Signals of systemd -/

/-- `agent_match_unit_changed`. -/
def agentMatchUnitChanged (agent : Agent) (path interface : String) (changed : Properties) :
    Agent × List AgentOutput :=
  match agentGetUnitInfo agent path with
  | none => (agent, [])
  | some info =>
    let (stateChanged, info') := unitInfoChange info interface changed
    let interest := info.subscribed || agent.wildcardSubscriptionActive
    (agent.modifyUnitInfo path fun info => (unitInfoChange info interface changed).2,
      (if stateChanged && interest then [agentEmitUnitStateChanged info' "real"] else []) ++
        if interest then [.signal (.unitPropertiesChanged info.unit interface changed)] else [])

/-- `agent_match_unit_new`. The path in the message is read and not used. -/
def agentMatchUnitNew (agent : Agent) (unitName : String) : Agent × List AgentOutput :=
  let agent := agentEnsureUnitInfo agent unitName
  match agentGetUnitInfo agent (makeUnitPath unitName) with
  | none => (agent, [])
  | some info =>
    (agent.modifyUnitInfo (makeUnitPath unitName) fun info =>
        { info with loaded := true, activeState := .inactive, substate := some "dead" },
      if info.subscribed || agent.wildcardSubscriptionActive then
        [.signal (.unitNew info.unit "real")]
      else [])

/-- `agent_match_unit_removed`. -/
def agentMatchUnitRemoved (agent : Agent) (path : String) : Agent × List AgentOutput :=
  match agentGetUnitInfo agent path with
  | none => (agent, [])
  | some info =>
    let unloaded := fun info : AgentUnitInfo =>
      { info with loaded := false, activeState := .invalid, substate := none }
    (agentUpdateUnitInfosFor (agent.modifyUnitInfo path unloaded) (unloaded info),
      if info.subscribed || agent.wildcardSubscriptionActive then
        [.signal (.unitRemoved info.unit)]
      else [])

/-- What `agent_init_units` uses of a unit that systemd lists. -/
structure ListedUnit where
  name : String
  activeState : String
  subState : String
  objectPath : String

/-- One round of `agent_init_units`: no agent, when the assertion fails. -/
def agentInitUnit (agent : Agent) (listed : ListedUnit) : Option Agent :=
  let agent := agentEnsureUnitInfo agent listed.name
  match agentGetUnitInfo agent (makeUnitPath listed.name) with
  | none => some agent
  | some info =>
    if info.objectPath = listed.objectPath then
      some (agent.modifyUnitInfo (makeUnitPath listed.name) fun info =>
        { info with
          loaded := true
          activeState := activeStateFromString listed.activeState
          substate := some listed.subState })
    else none

/-- `agent_init_units`. -/
def agentInitUnits (agent : Agent) (units : List ListedUnit) : Option Agent :=
  units.foldlM agentInitUnit agent

namespace UnitInfos

variable {agent agent' : Agent} {info : AgentUnitInfo} {unit path : String}

/-! ## The entries -/

/-- An entry is stored under the path of its unit, somebody needs it, and an entry of a unit that is
not loaded has no state. -/
structure WellFormed (info : AgentUnitInfo) : Prop where
  path : info.objectPath = makeUnitPath info.unit
  needed : info.subscribed = true ∨ info.loaded = true
  reset : info.loaded = false → info.activeState.isValid = false ∧ info.substate = none

/-- All entries are well-formed, and no two have the same path. -/
structure Table (agent : Agent) : Prop where
  distinct : (agent.unitInfos.map AgentUnitInfo.objectPath).Nodup
  wellFormed : ∀ info ∈ agent.unitInfos, WellFormed info

lemma Table.get (h : Table agent) (hget : agentGetUnitInfo agent path = some info) :
    WellFormed info ∧ path = makeUnitPath info.unit := by
  have hinfo := h.wellFormed info (Keyed.mem_of_get_eq_some hget)
  exact ⟨hinfo, (Keyed.key_of_get_eq_some hget).symm.trans hinfo.path⟩

/-- A change of an entry that leaves its path. -/
lemma get_modifyUnitInfo {f : AgentUnitInfo → AgentUnitInfo}
    (hf : ∀ info, (f info).objectPath = info.objectPath) (agent : Agent) (path path' : String) :
    agentGetUnitInfo (agent.modifyUnitInfo path f) path' =
      if path' = path then (agentGetUnitInfo agent path).map f else agentGetUnitInfo agent path' :=
  Keyed.get_modify hf agent.unitInfos path path'

/-- The entry that is found after `agent_ensure_unit_info`. -/
def ensured (agent : Agent) (unit : String) : AgentUnitInfo :=
  (agentGetUnitInfo agent (makeUnitPath unit)).getD (newUnitInfo unit)

lemma get_ensureUnitInfo (agent : Agent) (unit path : String) :
    agentGetUnitInfo (agentEnsureUnitInfo agent unit) path =
      if path = makeUnitPath unit then some (ensured agent unit)
      else agentGetUnitInfo agent path := by
  unfold agentEnsureUnitInfo ensured
  split
  · rename_i info hget
    split
    · rename_i heq
      rw [heq, hget]
      rfl
    · rfl
  · rename_i hget
    have hnew := Keyed.get_append_singleton (x := newUnitInfo unit) hget path
    simp only [eq_comm (a := path)]
    rw [hget]
    exact hnew

lemma get_updateUnitInfosFor (agent : Agent) (info : AgentUnitInfo) (path : String) :
    agentGetUnitInfo (agentUpdateUnitInfosFor agent info) path =
      if (!info.subscribed && !info.loaded) = true ∧ path = info.objectPath then none
      else agentGetUnitInfo agent path := by
  unfold agentUpdateUnitInfosFor
  split
  · rename_i hunneeded
    simp only [hunneeded, true_and]
    exact Keyed.get_delete agent.unitInfos info.objectPath path
  · rename_i hneeded
    rw [if_neg fun h => hneeded h.1]

/-! ## Entries that come and go -/

/-- The entries that are found are all there are. -/
lemma Table.of_get (hdistinct : (agent.unitInfos.map AgentUnitInfo.objectPath).Nodup)
    (hget : ∀ path info, agentGetUnitInfo agent path = some info → WellFormed info) : Table agent :=
  ⟨hdistinct, fun info hinfo => hget _ info (Keyed.get_of_mem hdistinct hinfo)⟩

lemma distinct_modifyUnitInfo {f : AgentUnitInfo → AgentUnitInfo}
    (hf : ∀ info, (f info).objectPath = info.objectPath)
    (h : (agent.unitInfos.map AgentUnitInfo.objectPath).Nodup) (path : String) :
    ((agent.modifyUnitInfo path f).unitInfos.map AgentUnitInfo.objectPath).Nodup := by
  show ((Keyed.modify _ agent.unitInfos path f).map _).Nodup
  rw [Keyed.map_key_modify hf]
  exact h

lemma distinct_ensureUnitInfo (h : (agent.unitInfos.map AgentUnitInfo.objectPath).Nodup)
    (unit : String) : ((agentEnsureUnitInfo agent unit).unitInfos.map
      AgentUnitInfo.objectPath).Nodup := by
  unfold agentEnsureUnitInfo
  split
  · exact h
  · rename_i hget
    exact Keyed.nodup_append_singleton h hget

lemma distinct_updateUnitInfosFor (h : (agent.unitInfos.map AgentUnitInfo.objectPath).Nodup)
    (info : AgentUnitInfo) : ((agentUpdateUnitInfosFor agent info).unitInfos.map
      AgentUnitInfo.objectPath).Nodup := by
  unfold agentUpdateUnitInfosFor
  split
  · exact Keyed.nodup_delete h _
  · exact h

/-- The ensured entry is one of the unit, and has no state as long as it is not loaded. -/
lemma Table.ensured (h : Table agent) (unit : String) :
    (ensured agent unit).objectPath = makeUnitPath unit ∧ (ensured agent unit).unit = unit ∧
      ((ensured agent unit).loaded = false →
        (ensured agent unit).activeState.isValid = false ∧ (ensured agent unit).substate = none) := by
  unfold UnitInfos.ensured
  match hget : agentGetUnitInfo agent (makeUnitPath unit) with
  | none => exact ⟨rfl, rfl, fun _ => ⟨rfl, rfl⟩⟩
  | some info =>
    have ⟨hwf, hpath⟩ := h.get hget
    exact ⟨Keyed.key_of_get_eq_some hget, (makeUnitPath_inj.mp hpath).symm, hwf.reset⟩

/-- The ensured entry is changed to one that is needed. -/
lemma Table.ensureUnitInfo (h : Table agent) {f : AgentUnitInfo → AgentUnitInfo}
    (hf : ∀ info, (f info).objectPath = info.objectPath)
    (hwf : WellFormed (f (UnitInfos.ensured agent unit))) :
    Table ((agentEnsureUnitInfo agent unit).modifyUnitInfo (makeUnitPath unit) f) := by
  apply Table.of_get
  · exact distinct_modifyUnitInfo hf (distinct_ensureUnitInfo h.distinct unit) _
  · intro path info hget
    rw [get_modifyUnitInfo hf, get_ensureUnitInfo, if_pos rfl, get_ensureUnitInfo] at hget
    split at hget
    · rw [Option.map_some, Option.some.injEq] at hget
      rw [← hget]
      exact hwf
    · exact (h.get hget).1

/-- An entry is changed, and dropped if it is not needed any more. -/
lemma Table.updateUnitInfosFor (h : Table agent) {f : AgentUnitInfo → AgentUnitInfo}
    (hf : ∀ info, (f info).objectPath = info.objectPath ∧ (f info).unit = info.unit)
    (hreset : ∀ info, WellFormed info → (f info).loaded = false →
      (f info).activeState.isValid = false ∧ (f info).substate = none)
    (hget : agentGetUnitInfo agent path = some info) :
    Table (agentUpdateUnitInfosFor (agent.modifyUnitInfo path f) (f info)) := by
  have hpath : (f info).objectPath = path := (hf info).1.trans (Keyed.key_of_get_eq_some hget)
  have hwf := (h.get hget).1
  apply Table.of_get
  · exact distinct_updateUnitInfosFor
      (distinct_modifyUnitInfo (fun info => (hf info).1) h.distinct path) _
  · intro path' info' hget'
    rw [get_updateUnitInfosFor, get_modifyUnitInfo fun info => (hf info).1, hpath, hget] at hget'
    split at hget'
    · simp at hget'
    · rename_i hkept
      split at hget'
      · rename_i heq
        rw [Option.map_some, Option.some.injEq] at hget'
        rw [← hget']
        refine ⟨?_, ?_, hreset info hwf⟩
        · rw [(hf info).1, (hf info).2]
          exact hwf.path
        · -- otherwise it would have been dropped
          match hsub : (f info).subscribed, hload : (f info).loaded with
          | true, _ => exact Or.inl rfl
          | false, true => exact Or.inr rfl
          | false, false => exact absurd ⟨by rw [hsub, hload]; rfl, heq⟩ hkept
      · exact (h.get hget').1

/-- A change of the state leaves the other fields. -/
lemma unitInfoChange_fields (info : AgentUnitInfo) (interface : String) (changed : Properties) :
    (unitInfoChange info interface changed).2.objectPath = info.objectPath ∧
      (unitInfoChange info interface changed).2.unit = info.unit ∧
      (unitInfoChange info interface changed).2.subscribed = info.subscribed ∧
      (unitInfoChange info interface changed).2.loaded = info.loaded := by
  unfold unitInfoChange unitInfoUpdateState
  split
  · split
    · exact ⟨rfl, rfl, rfl, rfl⟩
    · exact ⟨rfl, rfl, rfl, rfl⟩
  · exact ⟨rfl, rfl, rfl, rfl⟩

/-- It is noticed whenever the stored state changes. -/
lemma unitInfoChange_changed (info : AgentUnitInfo) (interface : String) (changed : Properties) :
    (unitInfoChange info interface changed).1 = true ↔ interface = "org.freedesktop.systemd1.Unit" ∧
      ((unitInfoChange info interface changed).2.activeState,
        (unitInfoChange info interface changed).2.substate) ≠ (info.activeState, info.substate) := by
  unfold unitInfoChange unitInfoUpdateState
  split
  · rename_i hface
    rw [and_iff_right hface]
    split
    · simp
    · rename_i data _
      by_cases hsub : data.substate = unitInfoGetSubstate info
      · simp [hsub]
      · have hne : some data.substate ≠ info.substate := by
          intro heq
          apply hsub
          unfold unitInfoGetSubstate
          rw [← heq]
          rfl
        simp [hsub, hne]
  · simp

/-! ## Runs -/

/-- What the table of units reacts to. -/
inductive UnitEvent
  | subscribe (serial : ℕ) (unit : String)
  | unsubscribe (serial : ℕ) (unit : String)
  | unitNew (unitName path : String)
  | unitRemoved (id path : String)
  | unitChanged (path interface : String) (changed : Properties)

/-- The handler of each event. -/
def handle (agent : Agent) : UnitEvent → Agent × List AgentOutput
  | .subscribe serial unit => agentMethodSubscribe agent serial unit
  | .unsubscribe serial unit => agentMethodUnsubscribe agent serial unit
  | .unitNew unitName _ => agentMatchUnitNew agent unitName
  | .unitRemoved _ path => agentMatchUnitRemoved agent path
  | .unitChanged path interface changed => agentMatchUnitChanged agent path interface changed

/-- systemd's path of a unit is the one of `make_unit_path`, and the properties of a unit change only
while it is loaded. -/
def fromSystemd (agent : Agent) : UnitEvent → Bool
  | .unitNew unitName path => path = makeUnitPath unitName
  | .unitRemoved id path => path = makeUnitPath id
  | .unitChanged path _ _ => (agentGetUnitInfo agent path).any (·.loaded)
  | _ => true

/-- The agent starts with the units that systemd lists. -/
def unitSystem : System Agent UnitEvent where
  init agent := ∃ units, agentInitUnits agentNew units = some agent
  step agent e := if fromSystemd agent e then some (handle agent e).1 else none

lemma table_subscribe (h : Table agent) (serial : ℕ) (unit : String) :
    Table (agentMethodSubscribe agent serial unit).1 := by
  have ⟨hpath, hunit, hreset⟩ := h.ensured unit
  have hkeep : ∀ info : AgentUnitInfo, { info with subscribed := true }.objectPath =
      info.objectPath := fun _ => rfl
  have hsubscribed := Table.ensureUnitInfo h (f := fun info => { info with subscribed := true }) hkeep
    ⟨hpath.trans (congrArg makeUnitPath hunit.symm), Or.inl rfl, hreset⟩
  unfold agentMethodSubscribe
  split
  · split
    · exact h
    · exact ⟨h.distinct, h.wellFormed⟩
  · dsimp only
    rw [get_ensureUnitInfo, if_pos rfl]
    dsimp only
    split
    · rename_i hsub
      -- an entry that is subscribed was there before
      unfold UnitInfos.ensured at hsub
      unfold agentEnsureUnitInfo
      match hget : agentGetUnitInfo agent (makeUnitPath unit) with
      | some info => exact h
      | none =>
        rw [hget] at hsub
        exact absurd hsub (by simp [newUnitInfo])
    · exact hsubscribed

lemma table_unsubscribe (h : Table agent) (serial : ℕ) (unit : String) :
    Table (agentMethodUnsubscribe agent serial unit).1 := by
  unfold agentMethodUnsubscribe
  split
  · split
    · exact h
    · exact ⟨h.distinct, h.wellFormed⟩
  · split
    · exact h
    · rename_i info hget
      split
      · exact h
      · exact h.updateUnitInfosFor (f := fun info => { info with subscribed := false })
          (fun _ => ⟨rfl, rfl⟩) (fun _ hwf => hwf.reset) hget

lemma table_unitNew (h : Table agent) (unitName : String) :
    Table (agentMatchUnitNew agent unitName).1 := by
  have ⟨hpath, hunit, _⟩ := h.ensured unitName
  unfold agentMatchUnitNew
  dsimp only
  rw [get_ensureUnitInfo, if_pos rfl]
  dsimp only
  apply Table.ensureUnitInfo h
  · intro info
    rfl
  · exact ⟨hpath.trans (congrArg makeUnitPath hunit.symm), Or.inr rfl, fun hload => by simp at hload⟩

lemma table_unitRemoved (h : Table agent) (path : String) :
    Table (agentMatchUnitRemoved agent path).1 := by
  unfold agentMatchUnitRemoved
  split
  · exact h
  · rename_i info hget
    exact h.updateUnitInfosFor
      (f := fun info => { info with loaded := false, activeState := .invalid, substate := none })
      (fun _ => ⟨rfl, rfl⟩) (fun _ _ _ => ⟨rfl, rfl⟩) hget

/-- The new state of a loaded unit is stored in its entry. -/
lemma table_unitChanged (h : Table agent) (interface : String) (changed : Properties)
    (hloaded : (agentGetUnitInfo agent path).any (·.loaded) = true) :
    Table (agentMatchUnitChanged agent path interface changed).1 := by
  have ⟨info, hget, hload⟩ := (Option.any_eq_true _ _).mp hloaded
  have hkeep : ∀ info, (unitInfoChange info interface changed).2.objectPath = info.objectPath :=
    fun info => (unitInfoChange_fields info interface changed).1
  unfold agentMatchUnitChanged
  rw [hget]
  dsimp only
  apply Table.of_get
  · exact distinct_modifyUnitInfo hkeep h.distinct path
  · intro path' info' hget'
    rw [get_modifyUnitInfo hkeep, hget] at hget'
    split at hget'
    · have ⟨hpath, hunit, _, hload'⟩ := unitInfoChange_fields info interface changed
      have hwf := (h.get hget).1
      rw [← Option.some.inj hget']
      refine ⟨?_, ?_, fun hunloaded => ?_⟩
      · rw [hpath, hunit]
        exact hwf.path
      · rw [hload']
        exact Or.inr hload
      · rw [hload', hload] at hunloaded
        simp at hunloaded
    · exact (h.get hget').1

lemma table_initUnit (h : Table agent) {listed : ListedUnit}
    (hinit : agentInitUnit agent listed = some agent') : Table agent' := by
  have ⟨hpath, hunit, _⟩ := h.ensured listed.name
  unfold agentInitUnit at hinit
  dsimp only at hinit
  rw [get_ensureUnitInfo, if_pos rfl] at hinit
  dsimp only at hinit
  split at hinit
  · rw [← Option.some.inj hinit]
    apply Table.ensureUnitInfo h
    · intro info
      rfl
    · exact ⟨hpath.trans (congrArg makeUnitPath hunit.symm), Or.inr rfl,
        fun hload => by simp at hload⟩
  · simp at hinit

lemma table_initUnits {units : List ListedUnit} (h : Table agent)
    (hinit : agentInitUnits agent units = some agent') : Table agent' := by
  induction units generalizing agent with
  | nil => exact Option.some.inj hinit ▸ h
  | cons listed units ih =>
    have ⟨next, hnext, hrest⟩ := Option.bind_eq_some_iff.mp hinit
    exact ih (table_initUnit h hnext) hrest

/-- What an event of systemd leaves of the table. -/
lemma table_handle (h : Table agent) {e : UnitEvent} (hfits : fromSystemd agent e = true) :
    Table (handle agent e).1 := by
  match e with
  | .subscribe serial unit => exact table_subscribe h serial unit
  | .unsubscribe serial unit => exact table_unsubscribe h serial unit
  | .unitNew unitName _ => exact table_unitNew h unitName
  | .unitRemoved _ path => exact table_unitRemoved h path
  | .unitChanged path interface changed => exact table_unitChanged h interface changed hfits

theorem table_of_reachable (h : Reachable unitSystem agent) : Table agent := by
  apply Reachable.invariant ?_ ?_ h
  · intro s ⟨units, hs⟩
    have hnew : Table agentNew := ⟨List.nodup_nil, fun _ hinfo => by simp [agentNew] at hinfo⟩
    exact table_initUnits hnew hs
  · intro s e s' hs hstep
    have ⟨hfits, heq⟩ := Option.ite_none_right_eq_some.mp hstep
    rw [← Option.some.inj heq]
    exact table_handle hs hfits

/-! ## What is forwarded -/

/-- The controller subscribed to the unit. -/
def isSubscribed (agent : Agent) (unit : String) : Bool :=
  (agentGetUnitInfo agent (makeUnitPath unit)).any (·.subscribed)

/-- systemd has loaded the unit. -/
def isLoaded (agent : Agent) (unit : String) : Bool :=
  (agentGetUnitInfo agent (makeUnitPath unit)).any (·.loaded)

/-- What an event of systemd has to be forwarded as. A unit without an entry cannot be removed. -/
def Forwarded (agent : Agent) (e : UnitEvent) : Prop :=
  match e with
  | .unitNew unitName _ => ∀ s, .signal s ∈ (handle agent e).2 ↔
    s = .unitNew unitName "real" ∧
      (isSubscribed agent unitName || agent.wildcardSubscriptionActive) = true
  | .unitRemoved id _ => ∀ s, .signal s ∈ (handle agent e).2 ↔
    s = .unitRemoved id ∧ (isSubscribed agent id ||
      (isLoaded agent id && agent.wildcardSubscriptionActive)) = true
  | .unitChanged path interface changed => ∀ info info',
    agentGetUnitInfo agent path = some info →
    agentGetUnitInfo (handle agent e).1 path = some info' → ∀ s, .signal s ∈ (handle agent e).2 ↔
      (info.subscribed || agent.wildcardSubscriptionActive) = true ∧
        (s = .unitPropertiesChanged info.unit interface changed ∨
          s = .unitStateChanged info.unit (activeStateToString info'.activeState)
              (unitInfoGetSubstate info') "real" ∧
            interface = "org.freedesktop.systemd1.Unit" ∧
            (info'.activeState, info'.substate) ≠ (info.activeState, info.substate))
  | _ => True

lemma forwarded_unitNew (h : Table agent) (unitName path : String) :
    Forwarded agent (.unitNew unitName path) := by
  intro s
  have hunit := (h.ensured unitName).2.1
  have hwildcard : (agentEnsureUnitInfo agent unitName).wildcardSubscriptionActive =
      agent.wildcardSubscriptionActive := by
    unfold agentEnsureUnitInfo
    split
    · rfl
    · rfl
  have hsub : (ensured agent unitName).subscribed = isSubscribed agent unitName := by
    unfold ensured isSubscribed
    match agentGetUnitInfo agent (makeUnitPath unitName) with
    | some info => rfl
    | none => rfl
  show _ ∈ (agentMatchUnitNew agent unitName).2 ↔ _
  unfold agentMatchUnitNew
  dsimp only
  rw [get_ensureUnitInfo, if_pos rfl]
  dsimp only
  rw [hwildcard, hsub, hunit]
  split
  · rename_i hforward
    simp [hforward]
  · rename_i hforward
    simp [hforward]

lemma forwarded_unitRemoved (h : Table agent) (id : String) :
    Forwarded agent (.unitRemoved id (makeUnitPath id)) := by
  intro s
  show _ ∈ (agentMatchUnitRemoved agent (makeUnitPath id)).2 ↔ _
  unfold agentMatchUnitRemoved isSubscribed isLoaded
  match hget : agentGetUnitInfo agent (makeUnitPath id) with
  | none => simp
  | some info =>
    have ⟨hwf, hpath⟩ := h.get hget
    have hunit : info.unit = id := (makeUnitPath_inj.mp hpath).symm
    -- an entry of a unit that is not subscribed is one of a loaded unit
    have hinterest : (info.subscribed || agent.wildcardSubscriptionActive) =
        (info.subscribed || (info.loaded && agent.wildcardSubscriptionActive)) := by
      match hsub : info.subscribed with
      | true => rfl
      | false =>
        have hload := hwf.needed.resolve_left (by simp [hsub])
        rw [hload]
        rfl
    dsimp only [Option.any_some]
    rw [hunit, ← hinterest]
    split
    · rename_i hforward
      simp [hforward]
    · rename_i hforward
      simp [hforward]

lemma forwarded_unitChanged (path interface : String) (changed : Properties) :
    Forwarded agent (.unitChanged path interface changed) := by
  intro info info' hget hget' s
  have hkeep : ∀ info, (unitInfoChange info interface changed).2.objectPath = info.objectPath :=
    fun info => (unitInfoChange_fields info interface changed).1
  have hunit := (unitInfoChange_fields info interface changed).2.1
  have hchanged := unitInfoChange_changed info interface changed
  have hafter : agentGetUnitInfo (agentMatchUnitChanged agent path interface changed).1 path =
    some info' := hget'
  show _ ∈ (agentMatchUnitChanged agent path interface changed).2 ↔ _
  unfold agentMatchUnitChanged at hafter ⊢
  rw [hget] at hafter ⊢
  dsimp only at hafter ⊢
  rw [get_modifyUnitInfo hkeep, if_pos rfl, hget, Option.map_some, Option.some.injEq] at hafter
  rw [hafter] at hchanged hunit ⊢
  rw [← hchanged]
  unfold agentEmitUnitStateChanged
  rw [hunit]
  by_cases hinterest : (info.subscribed || agent.wildcardSubscriptionActive) = true
  · rw [hinterest, if_pos rfl]
    by_cases hnew : (unitInfoChange info interface changed).1 = true
    · simp [hnew, or_comm]
    · simp [hnew]
  · simp [hinterest]

/-- All events of systemd are forwarded as they should be. -/
lemma forwarded_handle (h : Table agent) {e : UnitEvent} (hfits : fromSystemd agent e = true) :
    Forwarded agent e := by
  match e with
  | .subscribe _ _ => exact trivial
  | .unsubscribe _ _ => exact trivial
  | .unitNew unitName path => exact forwarded_unitNew h unitName path
  | .unitRemoved id path =>
    have hpath : path = makeUnitPath id := of_decide_eq_true hfits
    rw [hpath]
    exact forwarded_unitRemoved h id
  | .unitChanged path interface changed => exact forwarded_unitChanged path interface changed

/-- An unsubscribed unit is subscribed to and unsubscribed from again. -/
lemma unsubscribe_subscribe (h : Table agent) (hunit : isSubscribed agent unit = false)
    (serial serial' : ℕ) (path : String) :
    agentGetUnitInfo (agentMethodUnsubscribe (agentMethodSubscribe agent serial unit).1 serial'
      unit).1 path = agentGetUnitInfo agent path := by
  unfold agentMethodSubscribe
  by_cases hwildcard : isWildcard unit = true
  · rw [if_pos hwildcard]
    unfold agentMethodUnsubscribe
    rw [if_pos hwildcard]
    split
    · split
      · rfl
      · rfl
    · split
      · rfl
      · rfl
  · rw [if_neg hwildcard]
    dsimp only
    rw [get_ensureUnitInfo, if_pos rfl]
    have hsub : (ensured agent unit).subscribed = false := by
      unfold isSubscribed at hunit
      unfold ensured
      match hget : agentGetUnitInfo agent (makeUnitPath unit) with
      | none => rfl
      | some info =>
        rw [hget] at hunit
        exact hunit
    dsimp only
    rw [if_neg (by simp [hsub])]
    unfold agentMethodUnsubscribe
    rw [if_neg hwildcard]
    dsimp only
    have hkeep : ∀ info : AgentUnitInfo, { info with subscribed := true }.objectPath =
      info.objectPath := fun _ => rfl
    have hkeep' : ∀ info : AgentUnitInfo, { info with subscribed := false }.objectPath =
      info.objectPath := fun _ => rfl
    rw [get_modifyUnitInfo hkeep, if_pos rfl, get_ensureUnitInfo, if_pos rfl]
    dsimp only [Option.map_some]
    rw [if_neg (by simp), get_updateUnitInfosFor, get_modifyUnitInfo hkeep',
      get_modifyUnitInfo hkeep, get_modifyUnitInfo hkeep, get_ensureUnitInfo, get_ensureUnitInfo,
      if_pos rfl, if_pos rfl]
    dsimp only [Option.map_some]
    have hobject := (h.ensured unit).1
    by_cases hpath : path = makeUnitPath unit
    · rw [hpath, if_pos rfl, hobject]
      unfold ensured at hsub ⊢
      match hget : agentGetUnitInfo agent (makeUnitPath unit) with
      | none => exact if_pos ⟨rfl, rfl⟩
      | some info =>
        -- it is loaded, so that the entry stays
        rw [hget] at hsub
        have hload := (h.get hget).1.needed.resolve_left (by simpa using hsub)
        dsimp only [Option.getD_some] at hsub ⊢
        rw [if_neg (by simp [hload]), ← hsub, ← Keyed.key_of_get_eq_some hget]
    · rw [hobject, if_neg fun hdrop => hpath hdrop.2, if_neg hpath, if_neg hpath, if_neg hpath]

/-- In every reachable state the table is well-formed, all events of systemd are forwarded, and
subscribing to a unit can be undone. -/
theorem unitInfos_maintained (h : Reachable unitSystem agent) : Table agent ∧
    (∀ e, fromSystemd agent e = true → Forwarded agent e) ∧
      ∀ unit, isSubscribed agent unit = false → ∀ serial serial' path,
        agentGetUnitInfo (agentMethodUnsubscribe (agentMethodSubscribe agent serial unit).1 serial'
          unit).1 path = agentGetUnitInfo agent path := by
  have htable := table_of_reachable h
  exact ⟨htable, fun e hfits => forwarded_handle htable hfits,
    fun unit hunit serial serial' => unsubscribe_subscribe htable hunit serial serial'⟩

/-- An agent with a unit that the controller is subscribed to, and its wildcard subscription. -/
def subscribedUnit : List UnitEvent :=
  [.unitNew "a.service" (makeUnitPath "a.service"), .subscribe 1 "a.service", .subscribe 2 "*"]

/-- The properties of the unit change. -/
theorem subscribedUnit_maintained : ∃ agent, run unitSystem agentNew subscribedUnit = some agent ∧
    agent.unitInfos.map (·.unit) = ["a.service"] ∧ agent.wildcardSubscriptionActive = true ∧
      Table agent ∧ Forwarded agent (.unitChanged (makeUnitPath "a.service")
        "org.freedesktop.systemd1.Unit" [("ActiveState", .string "active")]) := by
  have hread : (run unitSystem agentNew subscribedUnit).map (fun agent =>
      (agent.unitInfos.map (·.unit), agent.wildcardSubscriptionActive,
        fromSystemd agent (.unitChanged (makeUnitPath "a.service") "org.freedesktop.systemd1.Unit"
          [("ActiveState", .string "active")]))) = some (["a.service"], true, true) := by
    decide +kernel
  have ⟨agent, hagent, hvalues⟩ := Option.map_eq_some_iff.mp hread
  simp only [Prod.mk.injEq] at hvalues
  have hreach : Reachable unitSystem agent := Reachable.run (.init ⟨[], rfl⟩) hagent
  have ⟨htable, hforwarded, _⟩ := unitInfos_maintained hreach
  exact ⟨agent, hagent, hvalues.1, hvalues.2.1, htable, hforwarded _ hvalues.2.2⟩

/-- With the wildcard subscription, the removal of a unit without an entry is not forwarded. -/
theorem unknownUnit_not_forwarded : ¬∀ agent id path, Reachable unitSystem agent →
    fromSystemd agent (.unitRemoved id path) = true →
      (.signal (.unitRemoved id) ∈ (handle agent (.unitRemoved id path)).2 ↔
        (isSubscribed agent id || agent.wildcardSubscriptionActive) = true) := by
  intro hall
  have hrun : run unitSystem agentNew [.subscribe 1 "*"] =
    some { agentNew with wildcardSubscriptionActive := true } := rfl
  have hinit : Reachable unitSystem agentNew := .init ⟨[], rfl⟩
  have hreach := hinit.run hrun
  have hiff := hall _ "a.service" (makeUnitPath "a.service") hreach (by decide +kernel)
  have hnot : ¬(AgentOutput.signal (.unitRemoved "a.service") ∈
      (handle { agentNew with wildcardSubscriptionActive := true }
        (.unitRemoved "a.service" (makeUnitPath "a.service"))).2) := by
    decide +kernel
  exact hnot (hiff.mpr rfl)

end UnitInfos
end BlueChi
