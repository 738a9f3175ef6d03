import BlueChi.Library.Replication
import BlueChi.Controller.DependencyCounts
import BlueChi.Controller.Registration
import BlueChi.Controller.SystemStatus

/-!
# What an agent is told on its connection

The units that a node has subscriptions for and the dependencies that it counts are sets which its
agent is told about. A new connection starts with the whole set, and every later change is sent. So
on each connection the calls sent so far make the set out of nothing (`keyed_of_clean`).
-/

namespace BlueChi

open Replication

/-- What a call says about the subscription to a unit. -/
def AgentCall.aboutUnit : AgentCall → Option (String × Bool)
  | .subscribe unit => some (unit, true)
  | .unsubscribe unit => some (unit, false)
  | _ => none

/-- What a call says about the dependency on a unit. -/
def AgentCall.aboutDependency : AgentCall → Option (String × Bool)
  | .startDep unit => some (unit, true)
  | .stopDep unit => some (unit, false)
  | _ => none

/-- The calls that node `t` sends on a connection. -/
def Output.callOn (t : NodeId) (bus : BusId) : Output → Option AgentCall
  | .toAgent b n call => if b = bus ∧ n = t then some call else none
  | _ => none

def callsOn (t : NodeId) (bus : BusId) (l : List Output) : List AgentCall := l.filterMap (·.callOn t bus)

@[simp] lemma callsOn_append (t : NodeId) (bus : BusId) (l l' : List Output) :
    callsOn t bus (l ++ l') = callsOn t bus l ++ callsOn t bus l' := List.filterMap_append

/-- What a message says on a connection. -/
def NodeMessage.on {κ : Type} (bus : BusId) (about : AgentCall → Option (κ × Bool)) :
    NodeMessage → Option (κ × Bool)
  | .call b request => if b = bus then about request else none
  | .status _ => none

namespace NodeView

/-! ## One connection -/

section

variable {κ : Type} {about : AgentCall → Option (κ × Bool)} {v : NodeView} {b : BusId}

lemma exec_tell (hbus : v.agentBus = some b) (call : AgentCall) (K : Set κ) :
    exec (NodeMessage.on b about) K (v.tell call) = act about K call := by
  have hon : NodeMessage.on b about (.call b call) = about call := if_pos rfl
  unfold NodeView.tell
  rw [hbus]
  simp only [exec_cons, exec_nil, act, hon]

end

/-- Without a connection only the status is announced, and only `store` changes that. -/
lemma run_silent {v : NodeView} (hbus : v.agentBus = none) {move : NodeMove}
    (hstore : ∀ bus, move ≠ .store bus) :
    (v.run move).1.agentBus = none ∧ ∀ b call, NodeMessage.call b call ∉ (v.run move).2 := by
  have htell : ∀ call, v.tell call = [] := by
    intro call
    rw [NodeView.tell, hbus]
  cases move with
  | subscribe sub u =>
    simp only [run, htell]
    split <;> exact ⟨hbus, by simp⟩
  | unsubscribe sub u =>
    simp only [run, htell]
    split
    · exact ⟨hbus, by simp⟩
    · split
      · split <;> exact ⟨hbus, by simp⟩
      · exact ⟨hbus, by simp⟩
  | removeDependency u =>
    rw [run_removeDependency, htell]
    refine ⟨hbus, fun b call => ?_⟩
    split <;> simp
  | addDependency u => exact ⟨hbus, by simp [run, htell]⟩
  | announce => exact ⟨hbus, by simp [run]⟩
  | replay => exact ⟨hbus, by simp [run, htell]⟩
  | unset => exact ⟨rfl, by simp [run, hbus]⟩
  | store bus => exact absurd rfl (hstore bus)
  | _ => exact ⟨hbus, by simp [run]⟩

lemma runAll_silent {v : NodeView} (hbus : v.agentBus = none) {moves : List NodeMove}
    (hstore : ∀ move ∈ moves, ∀ bus, move ≠ .store bus) :
    (v.runAll moves).1.agentBus = none ∧ ∀ b call, NodeMessage.call b call ∉ (v.runAll moves).2 := by
  induction moves generalizing v with
  | nil => exact ⟨hbus, by simp⟩
  | cons move moves ih =>
    have ⟨hnone, hquiet⟩ := run_silent hbus (hstore move List.mem_cons_self)
    have ⟨hnone', hquiet'⟩ := ih hnone fun m hm => hstore m (List.mem_cons_of_mem _ hm)
    rw [runAll_cons]
    refine ⟨hnone', fun b call hmem => ?_⟩
    exact (List.mem_append.mp hmem).elim (hquiet b call) (hquiet' b call)

lemma call_not_mem_unset (v : NodeView) (b : BusId) (call : AgentCall) :
    NodeMessage.call b call ∉ (v.run .unset).2 := by
  simp only [run]
  split <;> simp

/-- The calls go out on the connection that the node has. -/
lemma bus_of_mem_run {v : NodeView} {move : NodeMove} {b : BusId} {call : AgentCall}
    (hmem : NodeMessage.call b call ∈ (v.run move).2) : v.agentBus = some b := by
  cases hbus : v.agentBus with
  | none =>
    -- without one there are no calls, and `store` sends nothing
    cases move with
    | store bus => simp [run] at hmem
    | _ => exact absurd hmem ((run_silent hbus (by simp)).2 b call)
  | some bus =>
    have htell : ∀ call', NodeMessage.call b call ∈ v.tell call' → bus = b := by
      intro call' h
      rw [NodeView.tell, hbus, List.mem_singleton, NodeMessage.call.injEq] at h
      exact h.1.symm
    rw [Option.some.injEq]
    cases move with
    | subscribe sub u =>
      simp only [run] at hmem
      split at hmem
      · simp at hmem
      · exact htell _ hmem
    | unsubscribe sub u =>
      simp only [run] at hmem
      split at hmem
      · simp at hmem
      · split at hmem
        · split at hmem
          · exact htell _ hmem
          · simp at hmem
        · simp at hmem
    | addDependency u => exact htell _ hmem
    | removeDependency u =>
      rw [run_removeDependency] at hmem
      simp only at hmem
      split at hmem
      · exact htell _ hmem
      · simp at hmem
    | replay =>
      simp only [run, List.mem_append, List.mem_flatMap] at hmem
      rcases hmem with ⟨_, _, h⟩ | ⟨_, _, h⟩
      · exact htell _ h
      · exact htell _ h
    | unset => exact absurd hmem (call_not_mem_unset v b call)
    | _ => simp [run] at hmem

lemma bus_of_mem_steady {moves : List NodeMove} (h : ∀ move ∈ moves, Steady move) {v : NodeView}
    {b : BusId} {call : AgentCall} (hmem : NodeMessage.call b call ∈ (v.runAll moves).2) :
    v.agentBus = some b := by
  induction moves generalizing v with
  | nil => simp at hmem
  | cons move moves ih =>
    rw [runAll_cons] at hmem
    rcases List.mem_append.mp hmem with hone | hrest
    · exact bus_of_mem_run hone
    · rw [← (h move List.mem_cons_self).agentBus v]
      exact ih (fun m hm => h m (List.mem_cons_of_mem _ hm)) hrest

end NodeView

/-! ## Replicated sets -/

open NodeView

/-- A set of keys that a node keeps and its agent is told about: while the connection stays every
change is sent, and a new connection starts with all keys. -/
structure Replicated where
  keys : NodeView → Set String
  about : AgentCall → Option (String × Bool)
  kinds : ∀ call, about call ≠ none → call.kind = .table ∨ call.kind = .dependency
  /-- The connection has nothing to do with the keys. -/
  link : ∀ v bus, keys { v with agentBus := bus } = keys v
  /-- Every change is sent. -/
  change : ∀ {v b move}, v.agentBus = some b → Steady move →
    keys (v.run move).1 = exec (NodeMessage.on b about) (keys v) (v.run move).2
  /-- Everything is sent. -/
  replay : ∀ {v b}, v.agentBus = some b →
    exec (NodeMessage.on b about) ∅ (v.run .replay).2 = keys v

section

variable {v : NodeView} {b : BusId} {move : NodeMove}

/-- The units that the node has subscriptions for. -/
def unitKeys (v : NodeView) : Set String := {unit | unit ∈ v.table.map (·.unit)}

/-- The units that some proxy depends on. -/
def dependencyKeys (v : NodeView) : Set String := {unit | unit ∈ v.deps.map (·.unitName)}

/-- A change of entries leaves the keys. -/
lemma unitKeys_modify {f : UnitSubscriptions → UnitSubscriptions}
    (hf : ∀ usubs, (f usubs).unit = usubs.unit) (v : NodeView) (unit : String) :
    unitKeys { v with table := Keyed.modify (·.unit) v.table unit f } = unitKeys v := by
  rw [unitKeys, Keyed.map_key_modify hf, unitKeys]

lemma dependencyKeys_modify {f : ProxyDependency → ProxyDependency}
    (hf : ∀ dep, (f dep).unitName = dep.unitName) (v : NodeView) (unit : String) :
    dependencyKeys { v with deps := Keyed.modify (·.unitName) v.deps unit f } = dependencyKeys v := by
  rw [dependencyKeys, Keyed.map_key_modify hf, dependencyKeys]

lemma unitKeys_run (hbus : v.agentBus = some b) (h : Steady move) :
    unitKeys (v.run move).1 = exec (NodeMessage.on b AgentCall.aboutUnit) (unitKeys v)
      (v.run move).2 := by
  -- the moves that leave the keys and send nothing about them
  have hstay : ∀ m : NodeMove, (v.run m).1.table.map (·.unit) = v.table.map (·.unit) →
      (∀ message ∈ (v.run m).2, message.on b AgentCall.aboutUnit = none) →
      unitKeys (v.run m).1 = exec (NodeMessage.on b AgentCall.aboutUnit) (unitKeys v) (v.run m).2 := by
    intro m hkeys hsilent
    rw [exec_of_silent hsilent, unitKeys, hkeys, unitKeys]
  have htell : ∀ call : AgentCall, call.aboutUnit = none → ∀ message ∈ v.tell call,
      message.on b AgentCall.aboutUnit = none := by
    intro call hcall message hmem
    rw [NodeView.tell, hbus, List.mem_singleton] at hmem
    rw [hmem, NodeMessage.on, if_pos rfl, hcall]
  cases move with
  | subscribe sub u =>
    simp only [run]
    split
    · apply unitKeys_modify
      exact fun _ => rfl
    · rw [exec_tell hbus, act_of_put (show AgentCall.aboutUnit (.subscribe u) = some (u, true) from rfl)]
      ext k
      simp [unitKeys, or_comm]
  | unsubscribe sub u =>
    simp only [run]
    split
    · rfl
    · split
      · split
        · rw [exec_tell hbus,
            act_of_take (show AgentCall.aboutUnit (.unsubscribe u) = some (u, false) from rfl)]
          ext k
          simp only [unitKeys, Keyed.delete, Set.mem_ofPred_eq, List.mem_map, List.mem_filter,
            Set.mem_sdiff, Set.mem_singleton_iff]
          constructor
          · rintro ⟨usubs, ⟨hmem, hne⟩, rfl⟩
            exact ⟨⟨usubs, hmem, rfl⟩, by simpa using hne⟩
          · rintro ⟨⟨usubs, hmem, rfl⟩, hne⟩
            exact ⟨usubs, ⟨hmem, by simpa using hne⟩, rfl⟩
        · apply unitKeys_modify
          exact fun _ => rfl
      · rfl
  | addDependency u => exact hstay _ rfl (htell _ rfl)
  | removeDependency u =>
    apply hstay
    · rw [run_removeDependency]
    · rw [run_removeDependency]
      simp only
      split
      · exact htell _ rfl
      · simp
  | unitNew u =>
    refine hstay _ (Keyed.map_key_modify (fun usubs => ?_) _ _) (by simp [run])
    unfold UnitSubscriptions.onNew
    split <;> rfl
  | unitStateChanged u activeState substate =>
    refine hstay _ ?_ (by simp [run])
    exact Keyed.map_key_modify (f := UnitSubscriptions.onStateChanged activeState substate)
      (fun _ => rfl) v.table u
  | unitRemoved u =>
    refine hstay _ ?_ (by simp [run])
    exact Keyed.map_key_modify (f := UnitSubscriptions.onRemoved) (fun _ => rfl) v.table u
  | loseUnits =>
    refine hstay _ ?_ (by simp [run])
    simp only [run, List.map_map]
    refine List.map_congr_left fun usubs _ => ?_
    show usubs.onDisconnect.unit = usubs.unit
    unfold UnitSubscriptions.onDisconnect
    split
    · split <;> rfl
    · rfl
  | announce => exact hstay _ rfl (by simp [run, NodeMessage.on])
  | store bus => exact h.elim
  | replay => exact h.elim
  | unset => exact h.elim

lemma dependencyKeys_run (hbus : v.agentBus = some b) (h : Steady move) :
    dependencyKeys (v.run move).1 = exec (NodeMessage.on b AgentCall.aboutDependency)
      (dependencyKeys v) (v.run move).2 := by
  have hstay : ∀ m : NodeMove, (v.run m).1.deps = v.deps →
      (∀ message ∈ (v.run m).2, message.on b AgentCall.aboutDependency = none) →
      dependencyKeys (v.run m).1 = exec (NodeMessage.on b AgentCall.aboutDependency)
        (dependencyKeys v) (v.run m).2 := by
    intro m hkeys hsilent
    rw [exec_of_silent hsilent, dependencyKeys, hkeys, dependencyKeys]
  have htell : ∀ call : AgentCall, call.aboutDependency = none → ∀ message ∈ v.tell call,
      message.on b AgentCall.aboutDependency = none := by
    intro call hcall message hmem
    rw [NodeView.tell, hbus, List.mem_singleton] at hmem
    rw [hmem, NodeMessage.on, if_pos rfl, hcall]
  cases move with
  | subscribe sub u =>
    apply hstay
    · simp only [run]
      split <;> rfl
    · simp only [run]
      split
      · simp
      · exact htell _ rfl
  | unsubscribe sub u =>
    apply hstay
    · simp only [run]
      split
      · rfl
      · split
        · split <;> rfl
        · rfl
    · simp only [run]
      split
      · simp
      · split
        · split
          · exact htell _ rfl
          · simp
        · simp
  | addDependency u =>
    rw [show (v.run (.addDependency u)).2 = v.tell (.startDep u) from rfl, exec_tell hbus,
      act_of_put (show AgentCall.aboutDependency (.startDep u) = some (u, true) from rfl)]
    simp only [run]
    unfold incDependency
    cases hget : Keyed.get (·.unitName) v.deps u with
    | none =>
      ext k
      simp [dependencyKeys, or_comm]
    | some dep =>
      have hmem : u ∈ dependencyKeys v :=
        List.mem_map.mpr ⟨dep, Keyed.mem_of_get_eq_some hget, Keyed.key_of_get_eq_some hget⟩
      rw [Set.insert_eq_of_mem hmem]
      apply dependencyKeys_modify
      exact fun _ => rfl
  | removeDependency u =>
    rw [run_removeDependency]
    simp only
    unfold decDependency countIn
    cases hget : Keyed.get (·.unitName) v.deps u with
    | none => rfl
    | some dep =>
      by_cases hlast : dep.nDeps - 1 = 0
      · have hone : dep.nDeps = 1 := by omega
        simp only [Option.map_some, Option.getD_some, hone, sub_self, if_true]
        rw [exec_tell hbus,
          act_of_take (show AgentCall.aboutDependency (.stopDep u) = some (u, false) from rfl)]
        ext k
        simp only [dependencyKeys, Keyed.delete, Set.mem_ofPred_eq, List.mem_map, List.mem_filter,
          Set.mem_sdiff, Set.mem_singleton_iff]
        constructor
        · rintro ⟨dep', ⟨hmem, hne⟩, rfl⟩
          exact ⟨⟨dep', hmem, rfl⟩, by simpa using hne⟩
        · rintro ⟨⟨dep', hmem, rfl⟩, hne⟩
          exact ⟨dep', ⟨hmem, by simpa using hne⟩, rfl⟩
      · have hne : dep.nDeps ≠ 1 := by omega
        simp only [Option.map_some, Option.getD_some, hlast, hne, if_false, exec_nil]
        apply dependencyKeys_modify
        exact fun _ => rfl
  | announce => exact hstay _ rfl (by simp [run, NodeMessage.on])
  | store bus => exact h.elim
  | replay => exact h.elim
  | unset => exact h.elim
  | _ => exact hstay _ rfl (by simp [run])

end

/-- The units with subscriptions, told by Subscribe and Unsubscribe. -/
def unitsReplicated : Replicated where
  keys := unitKeys
  about := AgentCall.aboutUnit
  kinds call hcall := by
    cases call with
    | subscribe unit => exact Or.inl rfl
    | unsubscribe unit => exact Or.inl rfl
    | _ => exact absurd rfl hcall
  link _ _ := rfl
  change hbus h := unitKeys_run hbus h
  replay {v b} hbus := by
    have htell : ∀ call, v.tell call = [.call b call] := by
      intro call
      rw [NodeView.tell, hbus]
    simp only [NodeView.run, htell]
    rw [exec_append, exec_of_silent (l := v.deps.flatMap _)]
    · have hput : ∀ unit, NodeMessage.on b AgentCall.aboutUnit (.call b (.subscribe unit)) =
          some (unit, true) := fun _ => if_pos rfl
      have hmap := exec_map_put (m := fun unit => NodeMessage.call b (.subscribe unit)) hput
        (v.table.map (·.unit)) ∅
      rw [List.map_map, Set.empty_union] at hmap
      rw [← List.map_eq_flatMap]
      exact hmap
    · intro message hmem
      obtain ⟨dep, _, hone⟩ := List.mem_flatMap.mp hmem
      rw [List.mem_singleton.mp hone, NodeMessage.on, if_pos rfl]
      rfl

/-- The dependencies, told by StartDep and StopDep. -/
def dependenciesReplicated : Replicated where
  keys := dependencyKeys
  about := AgentCall.aboutDependency
  kinds call hcall := by
    cases call with
    | startDep unit => exact Or.inr rfl
    | stopDep unit => exact Or.inr rfl
    | _ => exact absurd rfl hcall
  link _ _ := rfl
  change hbus h := dependencyKeys_run hbus h
  replay {v b} hbus := by
    have htell : ∀ call, v.tell call = [.call b call] := by
      intro call
      rw [NodeView.tell, hbus]
    simp only [NodeView.run, htell]
    rw [exec_append, exec_of_silent (l := v.table.flatMap _)]
    · have hput : ∀ unit, NodeMessage.on b AgentCall.aboutDependency (.call b (.startDep unit)) =
          some (unit, true) := fun _ => if_pos rfl
      have hmap := exec_map_put (m := fun unit => NodeMessage.call b (.startDep unit)) hput
        (v.deps.map (·.unitName)) ∅
      rw [List.map_map, Set.empty_union] at hmap
      rw [← List.map_eq_flatMap]
      exact hmap
    · intro message hmem
      obtain ⟨usubs, _, hone⟩ := List.mem_flatMap.mp hmem
      rw [List.mem_singleton.mp hone, NodeMessage.on, if_pos rfl]
      rfl

/-! ## The courses that the moves of a step take -/

/-- What a step does to the connection of a node: it stays, it is lost on the way, or the node gets
one of those in `offered`, and may lose it at once. -/
inductive Course (offered : BusId → Prop) (v : NodeView) : List NodeMove → Prop
  | steady {moves : List NodeMove} : (∀ move ∈ moves, Steady move) → Course offered v moves
  | lost {before after : List NodeMove} : (∀ move ∈ before, Steady move) →
      (∀ move ∈ after, Steady move) → Course offered v (before ++ .unset :: after)
  | attached {bus : BusId} : v.agentBus = none → offered bus →
      Course offered v [.store bus, .announce, .replay]
  | dropped {bus : BusId} : v.agentBus = none → offered bus →
      Course offered v [.store bus, .announce, .unset]

namespace Course

variable {offered : BusId → Prop} {v : NodeView} {moves : List NodeMove} {b : BusId}

lemma of_adjusting (h : ∀ move ∈ moves, move.Adjusts) : Course offered v moves :=
  .steady fun move hmove => .of_adjusts (h move hmove)

lemma of_heartbeat (h : Controller.HeartbeatMoves moves) : Course offered v moves := by
  obtain ⟨before, own, after, hbefore, hown, hafter, rfl⟩ := h
  rcases hown with rfl | ⟨adjusting, hadjusting, rfl⟩
  · rw [List.append_nil]
    apply of_adjusting
    intro move hmove
    exact (List.mem_append.mp hmove).elim (hbefore move) (hafter move)
  · have hsplit : before ++ (.loseUnits :: adjusting ++ [.unset]) ++ after =
        (before ++ .loseUnits :: adjusting) ++ .unset :: after := by simp
    rw [hsplit]
    refine .lost (fun move hmove => ?_) fun move hmove => .of_adjusts (hafter move hmove)
    rcases List.mem_append.mp hmove with hmem | hmem
    · exact .of_adjusts (hbefore move hmem)
    · rcases List.mem_cons.mp hmem with rfl | hmem
      · trivial
      · exact .of_adjusts (hadjusting move hmem)

/-- The calls of a step go out on a connection that the node has before or after it. -/
lemma bus_of_mem (h : Course offered v moves) {call : AgentCall}
    (hmem : NodeMessage.call b call ∈ (v.runAll moves).2) :
    v.agentBus = some b ∨ (v.runAll moves).1.agentBus = some b := by
  cases h with
  | steady hsteady => exact Or.inl (bus_of_mem_steady hsteady hmem)
  | @lost before after hbefore hafter =>
    rw [runAll_append, runAll_cons] at hmem
    rcases List.mem_append.mp hmem with hearly | hlate
    · exact Or.inl (bus_of_mem_steady hbefore hearly)
    · rcases List.mem_append.mp hlate with hunset | hrest
      · rw [← runAll_steady hbefore]
        exact Or.inl (bus_of_mem_run hunset)
      · have hsilent := runAll_silent (v := ((v.runAll before).1.run .unset).1) rfl
          fun move hmove => (hafter move hmove).ne_store
        exact absurd hrest (hsilent.2 b call)
  | attached hbus _ =>
    simp only [runAll_cons, runAll_nil, List.append_nil, List.mem_append] at hmem
    rcases hmem with hstore | hannounce | hreplay
    · simp [NodeView.run] at hstore
    · simp [NodeView.run] at hannounce
    · exact Or.inr (bus_of_mem_run hreplay)
  | dropped hbus _ =>
    simp only [runAll_cons, runAll_nil, List.append_nil, List.mem_append] at hmem
    rcases hmem with hstore | hannounce | hunset
    · simp [NodeView.run] at hstore
    · simp [NodeView.run] at hannounce
    · exact absurd hunset (call_not_mem_unset _ b call)

/-- A connection after the step is the one from before or one that was offered. -/
lemma bus_after (h : Course offered v moves) (hbus : (v.runAll moves).1.agentBus = some b) :
    v.agentBus = some b ∨ v.agentBus = none ∧ offered b := by
  cases h with
  | steady hsteady =>
    rw [runAll_steady hsteady] at hbus
    exact Or.inl hbus
  | @lost before after hbefore hafter =>
    rw [runAll_append, runAll_cons] at hbus
    have hsilent := runAll_silent (v := ((v.runAll before).1.run .unset).1) rfl
      fun move hmove => (hafter move hmove).ne_store
    rw [hsilent.1] at hbus
    cases hbus
  | @attached bus hnone hoffered =>
    have heq : bus = b := Option.some.inj hbus
    exact Or.inr ⟨hnone, heq ▸ hoffered⟩
  | dropped hnone hoffered => cases hbus

end Course

namespace Replicated

variable (F : Replicated) {offered : BusId → Prop} {v : NodeView} {moves : List NodeMove} {b : BusId}

lemma change_all (hbus : v.agentBus = some b) (h : ∀ move ∈ moves, Steady move) :
    F.keys (v.runAll moves).1 = exec (NodeMessage.on b F.about) (F.keys v) (v.runAll moves).2 := by
  induction moves generalizing v with
  | nil => rfl
  | cons move moves ih =>
    have hmove := h move List.mem_cons_self
    have hrest := ih (v := (v.run move).1) (by rw [hmove.agentBus, hbus])
      fun m hm => h m (List.mem_cons_of_mem _ hm)
    rw [runAll_cons, exec_append, ← F.change hbus hmove]
    exact hrest

/-- On a connection that stays the keys follow what is said, and a new one hears all of them. -/
lemma keys_after (h : Course offered v moves) (hbus : (v.runAll moves).1.agentBus = some b) :
    F.keys (v.runAll moves).1 = exec (NodeMessage.on b F.about)
      (if v.agentBus = some b then F.keys v else ∅) (v.runAll moves).2 := by
  cases h with
  | steady hsteady =>
    rw [runAll_steady hsteady] at hbus
    rw [if_pos hbus]
    exact F.change_all hbus hsteady
  | @lost before after hbefore hafter =>
    rw [runAll_append, runAll_cons] at hbus
    have hsilent := runAll_silent (v := ((v.runAll before).1.run .unset).1) rfl
      fun move hmove => (hafter move hmove).ne_store
    rw [hsilent.1] at hbus
    cases hbus
  | @attached bus hnone _ =>
    obtain rfl : bus = b := Option.some.inj hbus
    rw [if_neg (by simp [hnone])]
    have hreplay := F.replay (v := { v with agentBus := some bus }) rfl
    rw [F.link] at hreplay
    show F.keys { v with agentBus := some bus } = exec _ ∅
      ([] ++ ([.status (NodeView.status { v with agentBus := some bus })] ++
        (NodeView.run { v with agentBus := some bus } .replay).2 ++ []))
    rw [F.link, List.nil_append, List.append_nil, exec_append, exec_cons, exec_nil,
      act_of_none (show NodeMessage.on bus F.about (.status _) = none from rfl), hreplay]
  | dropped hnone hoffered => cases hbus

end Replicated

/-! ## Runs -/

namespace Controller

variable {gap : ℤ} {t : NodeId} {s s' : Controller} {moves : List NodeMove}

/-- A node is only offered a connection on which a Register can still arrive. -/
lemma course_of_step (hcons : Consistent gap s) (hwired : Wired s) {e : Event}
    (hclean : e.AttachesCleanly) (hstep : s.step e = some s') (h : e.Moves s t moves) :
    Course (fun b => ¬Spent b s) (s.node t).view moves := by
  cases e with
  | agentSignal bus n sig =>
    by_cases hn : n = t
    · rw [Event.Moves, if_pos hn] at h
      cases sig with
      | proxyNew target u path => exact .of_adjusting h
      | proxyRemoved target u => exact .of_adjusting h
      | _ =>
        refine .steady fun move hmove => ?_
        rw [show moves = _ from h] at hmove
        first
          | exact absurd hmove List.not_mem_nil
          | rw [List.mem_singleton.mp hmove]; trivial
    · rw [Event.Moves, if_neg hn] at h
      exact .of_adjusting h
  | register a serial name now nowMonotonic peer fails =>
    rcases h with rfl | ⟨htarget, bus, hbus, rfl⟩
    · exact .of_adjusting (by simp)
    · obtain ⟨_, _, _, hagent, _⟩ := (registerTarget_eq_ok_iff hcons.registry a t name).mp htarget
      have hnone : (s.node t).view.agentBus = none := by
        simpa [nodeHasAgent, Node.view] using hagent
      obtain ⟨hslot, _⟩ := whenever_eq_some_iff.mp (step_eq_some_iff.mp hstep).2
      obtain ⟨bus', hslot⟩ := Option.isSome_iff_exists.mp hslot
      have hsame : bus' = bus := by
        have hlink := hwired.slot a bus' hslot
        rw [show (s.links a).agentBus = some bus from hbus] at hlink
        exact (Option.some.inj hlink).symm
      have hoffered : ¬Spent bus s := fun hspent => hspent.slot a (hsame ▸ hslot)
      have hgood : ∀ member ∈ firstMembers ++ [.heartbeat], fails (.matchSignal member) = false := by
        intro member hmem
        by_contra hbad
        exact hclean ⟨member, hmem, by simpa using hbad⟩
      unfold attachMoves
      rw [if_neg, if_neg]
      · split
        · exact .dropped hnone hoffered
        · exact .attached hnone hoffered
      · simp [hgood .heartbeat (List.mem_append_right _ (List.mem_singleton.mpr rfl))]
      · intro hany
        obtain ⟨member, hmem, hfail⟩ := List.any_eq_true.mp hany
        rw [hgood member (List.mem_append_left _ hmem)] at hfail
        exact absurd hfail Bool.false_ne_true
  | disconnected n =>
    by_cases hn : n = t
    · rw [Event.Moves, if_pos hn] at h
      exact .of_heartbeat ⟨[], moves, [], by simp, Or.inr h, by simp, by simp⟩
    · rw [Event.Moves, if_neg hn] at h
      exact .of_adjusting h
  | heartbeatTimer now => exact .of_heartbeat h
  | _ => exact .of_adjusting h

end Controller

/-- The calls on the connection of the node make the keys out of nothing, and on a connection on which
a Register can still arrive nothing was said about them. -/
structure Controller.KeyedByCalls {κ : Type} (about : AgentCall → Option (κ × Bool)) (keys : Set κ)
    (t : NodeId) (s : Controller) : Prop where
  keys : ∀ b, (s.node t).agentBus = some b → keys = exec about ∅ (callsOn t b s.log)
  fresh : ∀ b, ¬Spent b s → ∀ call ∈ callsOn t b s.log, about call = none

namespace Replicated

open Controller Execution

variable (F : Replicated) {gap : ℤ} {t : NodeId} {s s' : Controller}

/-- The calls about the keys are among the messages about the node. -/
lemma exec_callsOn (t : NodeId) (b : BusId) (l : List Output) (K : Set String) :
    exec F.about K (callsOn t b l) = exec (NodeMessage.on b F.about) K (l.filterMap (·.about t)) := by
  unfold callsOn
  rw [exec_filterMap, exec_filterMap]
  refine exec_congr (fun o _ => ?_) K
  match o with
  | .toAgent bus n call =>
    simp only [Output.callOn, Output.about]
    by_cases hn : n = t
    · by_cases hkind : call.kind = .table ∨ call.kind = .dependency
      · by_cases hb : bus = b <;> simp [hn, hkind, hb, NodeMessage.on]
      · have hnone : F.about call = none := by
          by_contra hsome
          exact hkind (F.kinds call hsome)
        by_cases hb : bus = b <;> simp [hn, hkind, hb, hnone]
    · simp [hn]
  | .nodeStatus n status =>
    by_cases hn : n = t
    · simp [Output.callOn, Output.about, hn, NodeMessage.on]
    · simp [Output.callOn, Output.about, hn]
  | .jobNew _ => rfl
  | .jobRemoved .. => rfl
  | .jobState _ => rfl
  | .systemStatus _ => rfl
  | .startUnitJobMetrics .. => rfl
  | .monitorSignal .. => rfl
  | .reply .. => rfl
  | .replyError .. => rfl

/-- A call about the keys is a message about the node. -/
lemma mem_about_of_callsOn {t : NodeId} {b : BusId} {l : List Output} {call : AgentCall}
    (hmem : call ∈ callsOn t b l) (hcall : F.about call ≠ none) :
    NodeMessage.call b call ∈ l.filterMap (·.about t) := by
  obtain ⟨o, ho, hon⟩ := List.mem_filterMap.mp hmem
  refine List.mem_filterMap.mpr ⟨o, ho, ?_⟩
  cases o with
  | toAgent bus n request =>
    simp only [Output.callOn, Option.ite_none_right_eq_some, Option.some.injEq] at hon
    obtain ⟨⟨rfl, rfl⟩, rfl⟩ := hon
    simp [Output.about, F.kinds request hcall]
  | _ => cases hon

lemma keyed_of_step (h : KeyedByCalls F.about (F.keys (s.node t).view) t s) (hcons : Consistent 0 s) (hcons' : Consistent 0 s')
    (hwired : Wired s) (hwired' : Wired s') (ht : t ∈ s.nodes) {e : Event}
    (hclean : e.AttachesCleanly) (hstop : ∀ sync, e ≠ .stop sync) (hstep : s.step e = some s') :
    KeyedByCalls F.about (F.keys (s'.node t).view) t s' := by
  have hlink := linkStep_of_step hcons hstop hstep
  obtain ⟨moves, hmoves, hnodes, l, hlog, hrun⟩ := follows_of_step hcons ht hstop hstep
  have hcourse := course_of_step hcons hwired hclean hstep hmoves
  have hview : ((s.node t).view.runAll moves).1 = (s'.node t).view := by rw [hrun]
  have hsent : ((s.node t).view.runAll moves).2 = l.filterMap (·.about t) := by rw [hrun]
  -- a named node's connection takes no Register
  have hspent : ∀ b, (s.node t).agentBus = some b → Spent b s := fun b hb =>
    hwired.spent hcons ⟨ht, hb⟩
  have hspent' : ∀ b, (s'.node t).agentBus = some b → Spent b s' := fun b hb =>
    hwired'.spent hcons' ⟨hnodes ▸ ht, hb⟩
  constructor
  · intro b hb
    have hbus : ((s.node t).view.runAll moves).1.agentBus = some b := by
      rw [hview]
      exact hb
    have hkeys := F.keys_after hcourse hbus
    rw [hview, hsent, ← exec_callsOn] at hkeys
    rw [hlog, callsOn_append, exec_append, hkeys]
    by_cases hold : (s.node t).agentBus = some b
    · rw [if_pos (show (s.node t).view.agentBus = some b from hold), h.keys b hold]
    · -- the connection is new, and nothing was said on it before
      rw [if_neg (show ¬(s.node t).view.agentBus = some b from hold)]
      have hoffered := (hcourse.bus_after hbus).resolve_left hold
      rw [exec_of_silent (h.fresh b hoffered.2)]
  · intro b hb call hmem
    rw [hlog, callsOn_append] at hmem
    rcases List.mem_append.mp hmem with hold | hnew
    · exact h.fresh b (fun hs => hb (hs.step hclean hlink)) call hold
    · by_contra hcall
      have hmessage := F.mem_about_of_callsOn hnew hcall
      rw [← hsent] at hmessage
      rcases hcourse.bus_of_mem hmessage with hbefore | hafter
      · exact hb ((hspent b hbefore).step hclean hlink)
      · rw [hview] at hafter
        exact hb (hspent' b hafter)

/-- In every reachable state the calls sent to a node's agent on its connection make the keys of the
node out of nothing. -/
theorem keyed_of_clean {s : Controller}
    (h : ReachableUnder system (fun _ e => e.AttachesCleanly) s) (hrun : s.stopped = false)
    {t : NodeId} (ht : t ∈ s.nodes) : KeyedByCalls F.about (F.keys (s.node t).view) t s := by
  induction h with
  | init hinit =>
    obtain ⟨threshold, cfgs, rfl⟩ := hinit
    have hstart := Starting.start threshold cfgs
    generalize start threshold cfgs = s at hstart ht hrun
    have hlog : s.log = [] := by
      rw [hstart.rest]
      rfl
    refine ⟨fun b hb => ?_, fun b _ call hmem => ?_⟩
    · rw [hstart.node t] at hb
      cases hb
    · rw [hlog] at hmem
      exact absurd hmem List.not_mem_nil
  | @step s e s' hreach hclean hstep ih =>
    have hrunning := (step_eq_some_iff.mp hstep).1
    have hstop := not_stop hstep hrun
    have hcons := consistent_of_clean hreach hrunning
    have hreach' : ReachableUnder system (fun _ e => e.AttachesCleanly) s' :=
      .step hreach hclean hstep
    rw [nodes_of_step hstop hstep] at ht
    exact F.keyed_of_step (ih hrunning ht) hcons (consistent_of_clean hreach' hrun)
      (wired_of_clean hreach hrunning) (wired_of_clean hreach' hrun) ht hclean hstop hstep

end Replicated
end BlueChi
