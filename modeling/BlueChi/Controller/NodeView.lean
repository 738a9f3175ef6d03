import BlueChi.Controller.Monitors

/-!
# What an agent sees of its node

Seen from one agent the controller is a small machine: the connection, the table of unit
subscriptions and the dependencies of the node, and a few moves. Each move sends messages. The
functions on the fields of a node are these moves (`Simulates`), and `Traced` says that a stretch
of the controller's run is a list of moves of one node, with nothing else sent to its agent.
-/

namespace BlueChi

/-- The fields of a node that its agent is told about, and whether the node has a name. -/
structure NodeView where
  named : Bool
  agentBus : Option BusId
  table : List UnitSubscriptions
  deps : List ProxyDependency
  deriving DecidableEq

def Node.view (node : Node) : NodeView :=
  ⟨node.name.isSome, node.agentBus, node.unitSubscriptions, node.proxyDependencies⟩

/-- A message about a node: a call to its agent, or the announcement of its status. -/
inductive NodeMessage
  | call (bus : BusId) (call : AgentCall)
  | status (status : String)
  deriving DecidableEq

/-- The messages about node `t`. Only the calls about units and dependencies count. -/
def Output.about (t : NodeId) : Output → Option NodeMessage
  | .toAgent bus n call =>
    if n = t ∧ (call.kind = .table ∨ call.kind = .dependency) then some (.call bus call) else none
  | .nodeStatus n status => if n = t then some (.status status) else none
  | _ => none

/-! ## Moves -/

inductive NodeMove
  | subscribe (sub : Subscription) (unit : String)
  | unsubscribe (sub : Subscription) (unit : String)
  | addDependency (unit : String)
  | removeDependency (unit : String)
  | unitNew (unit : String)
  | unitStateChanged (unit activeState substate : String)
  | unitRemoved (unit : String)
  | loseUnits
  /-- The connection is stored. -/
  | store (bus : BusId)
  /-- The status is announced. -/
  | announce
  /-- All units and dependencies are sent. -/
  | replay
  | unset
  deriving DecidableEq

/-- The moves that need nothing from the agent. -/
def NodeMove.Adjusts : NodeMove → Prop
  | .subscribe .. => True
  | .unsubscribe .. => True
  | .addDependency _ => True
  | .removeDependency _ => True
  | _ => False

namespace NodeView

/-- A call to the agent, if there is one. -/
def tell (v : NodeView) (call : AgentCall) : List NodeMessage :=
  match v.agentBus with
  | none => []
  | some bus => [.call bus call]

/-- The status of the node. -/
def status (v : NodeView) : String := if v.agentBus.isSome then "online" else "offline"

/-- One move, with the messages it sends. -/
def run (v : NodeView) : NodeMove → NodeView × List NodeMessage
  | .subscribe sub unit =>
    match Keyed.get (·.unit) v.table unit with
    | some _ =>
      ({ v with table := Keyed.modify (·.unit) v.table unit fun usubs =>
          { usubs with subs := usubs.subs ++ [sub] } }, [])
    | none =>
      ({ v with table := v.table ++ [⟨unit, [sub], false, .invalid, none⟩] },
        v.tell (.subscribe unit))
  | .unsubscribe sub unit =>
    match Keyed.get (·.unit) v.table unit with
    | none => (v, [])
    | some usubs =>
      if sub ∈ usubs.subs then
        if (usubs.subs.erase sub).isEmpty then
          ({ v with table := Keyed.delete (·.unit) v.table unit }, v.tell (.unsubscribe unit))
        else
          ({ v with table := Keyed.modify (·.unit) v.table unit fun usubs =>
              { usubs with subs := usubs.subs.erase sub } }, [])
      else (v, [])
  | .addDependency unit =>
    ({ v with deps := incDependency v.deps unit }, v.tell (.startDep unit))
  | .removeDependency unit =>
    match Keyed.get (·.unitName) v.deps unit with
    | none => (v, [])
    | some dep =>
      if dep.nDeps - 1 = 0 then
        ({ v with deps := Keyed.delete (·.unitName) v.deps unit }, v.tell (.stopDep unit))
      else
        ({ v with deps := Keyed.modify (·.unitName) v.deps unit fun dep =>
            { dep with nDeps := dep.nDeps - 1 } }, [])
  | .unitNew unit =>
    ({ v with
      table := Keyed.modify (·.unit) v.table unit (UnitSubscriptions.onNew unit) }, [])
  | .unitStateChanged unit activeState substate =>
    ({ v with
      table := Keyed.modify (·.unit) v.table unit
        (UnitSubscriptions.onStateChanged activeState substate) }, [])
  | .unitRemoved unit =>
    ({ v with table := Keyed.modify (·.unit) v.table unit UnitSubscriptions.onRemoved }, [])
  | .loseUnits => ({ v with table := v.table.map UnitSubscriptions.onDisconnect }, [])
  | .store bus => ({ v with agentBus := some bus }, [])
  | .announce => (v, [.status v.status])
  | .replay =>
    (v, (v.table.flatMap fun usubs => v.tell (.subscribe usubs.unit)) ++
      v.deps.flatMap fun dep => v.tell (.startDep dep.unitName))
  | .unset =>
    ({ v with agentBus := none },
      if v.named && v.agentBus.isSome then [.status "offline"] else [])

/-- A list of moves. -/
def runAll : NodeView → List NodeMove → NodeView × List NodeMessage
  | v, [] => (v, [])
  | v, move :: moves => ((runAll (v.run move).1 moves).1, (v.run move).2 ++ (runAll (v.run move).1 moves).2)

@[simp] lemma runAll_nil (v : NodeView) : v.runAll [] = (v, []) := rfl

@[simp] lemma runAll_cons (v : NodeView) (move : NodeMove) (moves : List NodeMove) :
    v.runAll (move :: moves) =
      (((v.run move).1.runAll moves).1, (v.run move).2 ++ ((v.run move).1.runAll moves).2) := rfl

lemma runAll_append (v : NodeView) (moves moves' : List NodeMove) :
    v.runAll (moves ++ moves') = (((v.runAll moves).1.runAll moves').1,
      (v.runAll moves).2 ++ ((v.runAll moves).1.runAll moves').2) := by
  induction moves generalizing v with
  | nil => simp
  | cons move moves ih =>
    rw [List.cons_append, runAll_cons, ih, runAll_cons]
    simp

/-- Adjusting moves keep the connection. -/
lemma run_agentBus {move : NodeMove} (h : move.Adjusts) (v : NodeView) :
    (v.run move).1.agentBus = v.agentBus := by
  cases move with
  | subscribe sub unit =>
    simp only [run]
    split <;> rfl
  | unsubscribe sub unit =>
    simp only [run]
    split
    · rfl
    · split
      · split <;> rfl
      · rfl
  | addDependency unit => rfl
  | removeDependency unit =>
    simp only [run]
    split
    · rfl
    · split <;> rfl
  | _ => exact h.elim

lemma runAll_agentBus {moves : List NodeMove} (h : ∀ move ∈ moves, move.Adjusts) (v : NodeView) :
    (v.runAll moves).1.agentBus = v.agentBus := by
  induction moves generalizing v with
  | nil => rfl
  | cons move moves ih =>
    rw [runAll_cons, ih fun m hm => h m (List.mem_cons_of_mem _ hm)]
    exact run_agentBus (h move List.mem_cons_self) v

end NodeView

/-! ## Functions on a node as moves -/

/-- The calls among the effects, sent on that connection. -/
def sentOn (agentBus : Option BusId) (effs : List NodeEffect) : List NodeMessage :=
  match agentBus with
  | none => []
  | some bus => effs.filterMap fun eff =>
    match eff with
    | .send call => some (.call bus call)
    | .notify .. => none

/-- The function changes what the agent sees as the moves do, and sends what they send. -/
def Simulates (f : NodeStep) (moves : List NodeMove) (node : Node) : Prop :=
  node.view.runAll moves = ((f node).1.view, sentOn node.agentBus (f node).2) ∧
    (f node).1.agentBus = node.agentBus

@[simp] lemma sentOn_nil (agentBus : Option BusId) : sentOn agentBus [] = [] := by
  cases agentBus <;> rfl

lemma sentOn_append (agentBus : Option BusId) (effs effs' : List NodeEffect) :
    sentOn agentBus (effs ++ effs') = sentOn agentBus effs ++ sentOn agentBus effs' := by
  cases agentBus with
  | none => rfl
  | some bus => simp [sentOn]

lemma sentOn_flatMap {α : Type} (agentBus : Option BusId) (f : α → List NodeEffect) (xs : List α) :
    sentOn agentBus (xs.flatMap f) = xs.flatMap fun x => sentOn agentBus (f x) := by
  induction xs with
  | nil => simp
  | cons x xs ih => rw [List.flatMap_cons, sentOn_append, ih, List.flatMap_cons]

/-- Events for the subscriptions send nothing. -/
lemma sentOn_notify (agentBus : Option BusId) {effs : List NodeEffect}
    (h : ∀ eff ∈ effs, ∃ subs unit ev, eff = .notify subs unit ev) : sentOn agentBus effs = [] := by
  cases agentBus with
  | none => rfl
  | some bus =>
    apply List.filterMap_eq_nil_iff.mpr
    intro eff heff
    have ⟨subs, unit, ev, heq⟩ := h eff heff
    rw [heq]

lemma sentOn_notifyOne (agentBus : Option BusId) (subs : List Subscription) (unit : String)
    (ev : UnitEvent) : sentOn agentBus [.notify subs unit ev] = [] :=
  sentOn_notify agentBus fun _ heff => ⟨_, _, _, List.mem_singleton.mp heff⟩

/-- The call that the callers of `send_agent_simple_message` send. -/
lemma sentOn_simpleMessage (node : Node) (call : AgentCall) :
    sentOn node.agentBus (sendAgentSimpleMessage node call) = node.view.tell call := by
  unfold sendAgentSimpleMessage sentOn NodeView.tell nodeHasAgent
  show _ = (match node.agentBus with
    | none => []
    | some bus => [NodeMessage.call bus call])
  cases node.agentBus <;> simp

lemma notify_virtualEvents (usubs : UnitSubscriptions) (sub : Subscription) (unit : String) :
    ∀ eff ∈ virtualEvents usubs sub unit, ∃ subs unit ev, eff = .notify subs unit ev := by
  unfold virtualEvents
  intro eff heff
  split at heff
  · rcases List.mem_cons.mp heff with rfl | heff
    · exact ⟨_, _, _, rfl⟩
    · split at heff
      · exact ⟨_, _, _, List.mem_singleton.mp heff⟩
      · simp at heff
  · simp at heff

/-- A function without a loop and its move. -/
lemma simulates_one {f : NodeStep} {move : NodeMove} {node : Node}
    (hrun : node.view.run move = ((f node).1.view, sentOn node.agentBus (f node).2))
    (hbus : (f node).1.agentBus = node.agentBus) : Simulates f [move] node := by
  refine ⟨?_, hbus⟩
  rw [NodeView.runAll_cons, hrun]
  simp

/-- A loop makes the moves of its rounds. -/
lemma simulates_forEach {α : Type} {f : α → NodeStep} {move : α → NodeMove}
    (h : ∀ x node, Simulates (f x) [move x] node) (xs : List α) (node : Node) :
    Simulates (NodeStep.forEach f xs) (xs.map move) node := by
  induction xs generalizing node with
  | nil => exact ⟨by simp [NodeStep.forEach], rfl⟩
  | cons x xs ih =>
    obtain ⟨hone, hbus⟩ := h x node
    obtain ⟨hrest, hbus'⟩ := ih (f x node).1
    have hview : (node.view.run (move x)).1 = (f x node).1.view := by
      simpa using congrArg Prod.fst hone
    have hsent : (node.view.run (move x)).2 = sentOn node.agentBus (f x node).2 := by
      simpa using congrArg Prod.snd hone
    refine ⟨?_, hbus'.trans hbus⟩
    rw [List.map_cons, NodeView.runAll_cons, hview, hsent, hrest, hbus]
    simp only [NodeStep.forEach]
    rw [sentOn_append]

theorem simulates_nodeSubscribe (sub : Subscription) (node : Node) :
    Simulates (nodeSubscribe sub) (sub.units.map (.subscribe sub)) node := by
  refine simulates_forEach (fun unit node => ?_) sub.units node
  unfold nodeSubscribeUnit
  cases hget : node.usubs unit with
  | some usubs =>
    have hview : Keyed.get (·.unit) node.view.table unit = some usubs := hget
    apply simulates_one
    · simp only [NodeView.run, hview, hget]
      rw [sentOn_notify _ (notify_virtualEvents usubs sub unit)]
      rfl
    · simp only [hget]
      rfl
  | none =>
    have hview : Keyed.get (·.unit) node.view.table unit = none := hget
    apply simulates_one
    · simp only [NodeView.run, hview, hget]
      rw [sentOn_append, sentOn_simpleMessage, sentOn_notify _ (notify_virtualEvents _ sub unit),
        List.append_nil]
      rfl
    · simp only [hget]

theorem simulates_nodeUnsubscribe (sub : Subscription) (node : Node) :
    Simulates (nodeUnsubscribe sub) (sub.units.map (.unsubscribe sub)) node := by
  refine simulates_forEach (fun unit node => ?_) sub.units node
  unfold nodeUnsubscribeUnit
  cases hget : node.usubs unit with
  | none =>
    have hview : Keyed.get (·.unit) node.view.table unit = none := hget
    apply simulates_one
    · simp [NodeView.run, hview, hget]
    · simp only [hget]
  | some usubs =>
    have hview : Keyed.get (·.unit) node.view.table unit = some usubs := hget
    apply simulates_one
    · simp only [NodeView.run, hview, hget]
      by_cases hmem : sub ∈ usubs.subs
      · rw [if_pos hmem, if_pos hmem]
        by_cases hlast : (usubs.subs.erase sub).isEmpty = true
        · rw [if_pos hlast, if_pos hlast, sentOn_simpleMessage]
          rfl
        · rw [if_neg hlast, if_neg hlast, sentOn_nil]
          rfl
      · rw [if_neg hmem, if_neg hmem, sentOn_nil]
    · simp only [hget]
      split
      · split <;> rfl
      · rfl

lemma simulates_nodeMatchUnitNew (unit reason : String) (node : Node) :
    Simulates (nodeMatchUnitNew unit reason) [.unitNew unit] node := by
  apply simulates_one
  · refine Prod.ext rfl ?_
    exact (sentOn_notifyOne _ _ _ _).symm
  · rfl

lemma simulates_nodeMatchUnitStateChanged (unit activeState substate reason : String)
    (node : Node) : Simulates (nodeMatchUnitStateChanged unit activeState substate reason)
      [.unitStateChanged unit activeState substate] node := by
  apply simulates_one
  · refine Prod.ext rfl ?_
    exact (sentOn_notifyOne _ _ _ _).symm
  · rfl

lemma simulates_nodeMatchUnitRemoved (unit : String) (node : Node) :
    Simulates (nodeMatchUnitRemoved unit) [.unitRemoved unit] node := by
  apply simulates_one
  · refine Prod.ext rfl ?_
    exact (sentOn_notifyOne _ _ _ _).symm
  · rfl

lemma simulates_nodeMatchUnitPropertiesChanged (unit interface : String)
    (properties : Properties) (node : Node) :
    Simulates (nodeMatchUnitPropertiesChanged unit interface properties) [] node := by
  refine ⟨Prod.ext rfl ?_, rfl⟩
  exact (sentOn_notifyOne _ _ _ _).symm

lemma simulates_nodeDisconnectUnits (node : Node) :
    Simulates nodeDisconnectUnits [.loseUnits] node := by
  apply simulates_one
  · rw [sentOn_notify]
    · rfl
    · intro eff heff
      obtain ⟨usubs, _, hmem⟩ := List.mem_flatMap.mp heff
      unfold disconnectEvents at hmem
      split at hmem
      · rcases List.mem_append.mp hmem with h | h
        · split at h
          · exact ⟨_, _, _, List.mem_singleton.mp h⟩
          · simp at h
        · exact ⟨_, _, _, List.mem_singleton.mp h⟩
      · simp at hmem
  · rfl

end BlueChi
