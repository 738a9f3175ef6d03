import BlueChi.Controller.NodeEvents

/-!
# The dependencies of a node

The count of a unit is the number of proxy monitors that watch it, and the agent hears of every
dependency that is added and of the last one that goes. What it hears in a step is given by the
ups and downs of the count (`CountPath`).
-/

namespace BlueChi

open Execution

/-- A start or a stop of the dependency on that unit. -/
def NodeMessage.isDependency (unit : String) : NodeMessage → Bool
  | .call _ (.startDep u) => u = unit
  | .call _ (.stopDep u) => u = unit
  | _ => false

/-- The count of a unit goes from one number to another, one up or down at a time. The agent is
told to start the dependency whenever the count goes up, and to stop it whenever it drops to 0,
and nothing else. -/
inductive CountPath (bus : BusId) (unit : String) : ℤ → List NodeMessage → ℤ → Prop
  | done (c : ℤ) : CountPath bus unit c [] c
  | up {c c' : ℤ} {l : List NodeMessage} : CountPath bus unit (c + 1) l c' →
      CountPath bus unit c (.call bus (.startDep unit) :: l) c'
  | down {c c' : ℤ} {l : List NodeMessage} : c - 1 ≠ 0 → CountPath bus unit (c - 1) l c' →
      CountPath bus unit c l c'
  | last {c c' : ℤ} {l : List NodeMessage} : c - 1 = 0 → CountPath bus unit 0 l c' →
      CountPath bus unit c (.call bus (.stopDep unit) :: l) c'

namespace CountPath

variable {bus : BusId} {unit : String} {c c' c'' : ℤ} {l l' : List NodeMessage}

lemma trans (h : CountPath bus unit c l c') (h' : CountPath bus unit c' l' c'') :
    CountPath bus unit c (l ++ l') c'' := by
  induction h with
  | done => exact h'
  | up _ ih => exact .up (ih h')
  | down hne _ ih => exact .down hne (ih h')
  | last hlast _ ih => exact .last hlast (ih h')

end CountPath

namespace NodeView

/-- What a step says of the dependency on a unit. -/
def dependencyMessages (unit : String) (l : List NodeMessage) : List NodeMessage :=
  l.filter fun message => message.isDependency unit

variable {unit : String}

@[simp] lemma dependencyMessages_nil : dependencyMessages unit [] = [] := rfl

@[simp] lemma dependencyMessages_append (l l' : List NodeMessage) :
    dependencyMessages unit (l ++ l') = dependencyMessages unit l ++ dependencyMessages unit l' :=
  List.filter_append ..

/-- Nothing is said by calls that are not about this dependency. -/
lemma dependencyMessages_tell (v : NodeView) {call : AgentCall}
    (hcall : ∀ b, (NodeMessage.call b call).isDependency unit = false) :
    dependencyMessages unit (v.tell call) = [] := by
  unfold tell dependencyMessages
  cases v.agentBus with
  | none => rfl
  | some b => simp [hcall b]

lemma dependencyMessages_startDep {v : NodeView} {b : BusId} (hbus : v.agentBus = some b)
    (u : String) : dependencyMessages unit (v.tell (.startDep u)) =
      if u = unit then [.call b (.startDep unit)] else [] := by
  unfold tell dependencyMessages
  rw [hbus]
  by_cases hu : u = unit
  · simp [hu, NodeMessage.isDependency]
  · simp [hu, NodeMessage.isDependency]

lemma dependencyMessages_stopDep {v : NodeView} {b : BusId} (hbus : v.agentBus = some b)
    (u : String) : dependencyMessages unit (v.tell (.stopDep u)) =
      if u = unit then [.call b (.stopDep unit)] else [] := by
  unfold tell dependencyMessages
  rw [hbus]
  by_cases hu : u = unit
  · simp [hu, NodeMessage.isDependency]
  · simp [hu, NodeMessage.isDependency]

/-! ## Moves while the agent is connected -/

/-- The moves that neither change the connection nor repeat what was sent on another one. -/
def Steady : NodeMove → Prop
  | .store _ => False
  | .replay => False
  | .unset => False
  | _ => True

lemma Steady.of_adjusts {move : NodeMove} (h : move.Adjusts) : Steady move := by
  cases move with
  | store bus => exact h.elim
  | replay => exact h.elim
  | unset => exact h.elim
  | _ => trivial

lemma Steady.agentBus {move : NodeMove} (h : Steady move) (v : NodeView) :
    (v.run move).1.agentBus = v.agentBus := by
  cases move with
  | store bus => exact h.elim
  | unset => exact h.elim
  | subscribe sub u => exact run_agentBus (show NodeMove.Adjusts (.subscribe sub u) from trivial) v
  | unsubscribe sub u =>
    exact run_agentBus (show NodeMove.Adjusts (.unsubscribe sub u) from trivial) v
  | removeDependency u =>
    exact run_agentBus (show NodeMove.Adjusts (.removeDependency u) from trivial) v
  | _ => rfl

lemma run_removeDependency (v : NodeView) (u : String) : v.run (.removeDependency u) =
    ({ v with deps := decDependency v.deps u },
      if countIn v.deps u = 1 then v.tell (.stopDep u) else []) := by
  unfold decDependency countIn
  simp only [run]
  cases Keyed.get (·.unitName) v.deps u with
  | none => rfl
  | some dep =>
    by_cases hlast : dep.nDeps - 1 = 0
    · have hone : dep.nDeps = 1 := by omega
      simp [hone]
    · have hne : dep.nDeps ≠ 1 := by omega
      simp [hlast, hne]

lemma Steady.ne_store {move : NodeMove} (h : Steady move) : ∀ bus, move ≠ .store bus := by
  intro bus heq
  rw [heq] at h
  exact h

lemma runAll_steady {moves : List NodeMove} (h : ∀ move ∈ moves, Steady move) (v : NodeView) :
    (v.runAll moves).1.agentBus = v.agentBus := by
  induction moves generalizing v with
  | nil => rfl
  | cons move moves ih =>
    rw [runAll_cons, ih fun m hm => h m (List.mem_cons_of_mem _ hm)]
    exact (h move List.mem_cons_self).agentBus v

/-- The count follows one move. -/
lemma countPath_run {v : NodeView} {b : BusId} (hbus : v.agentBus = some b) {move : NodeMove}
    (h : Steady move) : CountPath b unit (countIn v.deps unit)
      (dependencyMessages unit (v.run move).2) (countIn (v.run move).1.deps unit) := by
  -- the moves that have to do with something else
  have hstay : ∀ m : NodeMove, (v.run m).1.deps = v.deps →
      dependencyMessages unit (v.run m).2 = [] → CountPath b unit (countIn v.deps unit)
        (dependencyMessages unit (v.run m).2) (countIn (v.run m).1.deps unit) := by
    intro m hdeps hmessages
    rw [hdeps, hmessages]
    exact .done _
  cases move with
  | subscribe sub u =>
    apply hstay
    · simp only [run]
      split <;> rfl
    · simp only [run]
      split
      · rfl
      · exact v.dependencyMessages_tell fun _ => rfl
  | unsubscribe sub u =>
    apply hstay
    · simp only [run]
      split
      · rfl
      · split
        · split <;> rfl
        · rfl
    · simp only [run]
      split
      · rfl
      · split
        · split
          · exact v.dependencyMessages_tell fun _ => rfl
          · rfl
        · rfl
  | addDependency u =>
    show CountPath b unit (countIn v.deps unit) (dependencyMessages unit (v.tell (.startDep u)))
      (countIn (incDependency v.deps u) unit)
    rw [countIn_incDependency, dependencyMessages_startDep hbus]
    by_cases hu : u = unit
    · rw [if_pos hu, if_pos hu.symm]
      exact .up (.done _)
    · rw [if_neg hu, if_neg (Ne.symm hu), add_zero]
      exact .done _
  | removeDependency u =>
    rw [run_removeDependency]
    show CountPath b unit (countIn v.deps unit)
      (dependencyMessages unit (if countIn v.deps u = 1 then v.tell (.stopDep u) else []))
      (countIn (decDependency v.deps u) unit)
    by_cases hget : Keyed.get (·.unitName) v.deps u = none
    · -- there is no such dependency
      have hsame : decDependency v.deps u = v.deps := by rw [decDependency, hget]
      have hzero : countIn v.deps u = 0 := by simp [countIn, hget]
      rw [hsame, if_neg (by omega)]
      exact .done _
    · rw [countIn_decDependency hget]
      by_cases hu : u = unit
      · subst hu
        rw [if_pos rfl]
        by_cases hlast : countIn v.deps u = 1
        · rw [if_pos hlast, dependencyMessages_stopDep hbus, if_pos rfl, hlast]
          exact .last rfl (.done _)
        · rw [if_neg hlast]
          exact .down (by omega) (.done _)
      · rw [if_neg (Ne.symm hu), sub_zero]
        split
        · rw [dependencyMessages_stopDep hbus, if_neg hu]
          exact .done _
        · exact .done _
  | store bus => exact h.elim
  | replay => exact h.elim
  | unset => exact h.elim
  | _ => exact hstay _ rfl rfl

lemma countPath_runAll {v : NodeView} {b : BusId} (hbus : v.agentBus = some b)
    {moves : List NodeMove} (h : ∀ move ∈ moves, Steady move) :
    CountPath b unit (countIn v.deps unit) (dependencyMessages unit (v.runAll moves).2)
      (countIn (v.runAll moves).1.deps unit) := by
  induction moves generalizing v with
  | nil => exact .done _
  | cons move moves ih =>
    have hmove := h move List.mem_cons_self
    rw [runAll_cons, dependencyMessages_append]
    apply (countPath_run hbus hmove).trans
    apply ih
    · rw [hmove.agentBus, hbus]
    · exact fun m hm => h m (List.mem_cons_of_mem _ hm)


/-! ## Moves of a node without an agent -/

/-- Only `store` brings a connection, and nothing is sent without one. -/
lemma run_offline (unit : String) {v : NodeView} (hbus : v.agentBus = none) {move : NodeMove}
    (h : ∀ bus, move ≠ .store bus) :
    (v.run move).1.agentBus = none ∧ dependencyMessages unit (v.run move).2 = [] := by
  have htell : ∀ call, v.tell call = [] := by
    intro call
    rw [tell, hbus]
  cases move with
  | subscribe sub u =>
    simp only [run, htell]
    split <;> exact ⟨hbus, rfl⟩
  | unsubscribe sub u =>
    simp only [run, htell]
    split
    · exact ⟨hbus, rfl⟩
    · split
      · split <;> exact ⟨hbus, rfl⟩
      · exact ⟨hbus, rfl⟩
  | removeDependency u =>
    rw [run_removeDependency, htell]
    refine ⟨hbus, ?_⟩
    split <;> rfl
  | addDependency u => exact ⟨hbus, by simp only [run, htell, dependencyMessages_nil]⟩
  | replay =>
    have hnone : ∀ us : List UnitSubscriptions, us.flatMap (fun _ => ([] : List NodeMessage)) = [] :=
      fun us => by simp
    exact ⟨hbus, by simp [run, htell, dependencyMessages]⟩
  | unset => exact ⟨rfl, by simp [run, hbus]⟩
  | store bus => exact absurd rfl (h bus)
  | _ => exact ⟨hbus, rfl⟩

lemma runAll_offline (unit : String) {v : NodeView} (hbus : v.agentBus = none) {moves : List NodeMove}
    (h : ∀ move ∈ moves, ∀ bus, move ≠ .store bus) :
    (v.runAll moves).1.agentBus = none ∧ dependencyMessages unit (v.runAll moves).2 = [] := by
  induction moves generalizing v with
  | nil => exact ⟨hbus, rfl⟩
  | cons move moves ih =>
    have ⟨hbus', hnone⟩ := run_offline unit hbus (h move List.mem_cons_self)
    have ⟨hbus'', hnone'⟩ := ih hbus' fun m hm => h m (List.mem_cons_of_mem _ hm)
    rw [runAll_cons, dependencyMessages_append, hnone, hnone']
    exact ⟨hbus'', rfl⟩

lemma dependencyMessages_unset (v : NodeView) :
    dependencyMessages unit (v.run .unset).2 = [] := by
  simp only [run]
  split <;> rfl

end NodeView

namespace Controller

open NodeView

/-- What the agent of a node hears of a unit in a step. Once its agent is gone it hears nothing
more, and a new one only hears of the start. -/
structure DependencyStep (unit : String) (v v' : NodeView) (l : List NodeMessage) : Prop where
  connected : ∀ b, v.agentBus = some b → ∃ c, CountPath b unit (countIn v.deps unit) l c ∧
    (v'.agentBus = some b ∧ countIn v'.deps unit = c ∨ v'.agentBus = none)
  offline : v.agentBus = none → ∀ message ∈ l, ∃ b, v'.agentBus = some b ∧
    message = .call b (.startDep unit)

variable {gap : ℤ} {t : NodeId} {s s' : Controller} {unit : String} {v : NodeView}
  {moves : List NodeMove}

namespace DependencyStep

/-- The connection stays as it is. -/
lemma of_steady (h : ∀ move ∈ moves, Steady move) :
    DependencyStep unit v (v.runAll moves).1 (dependencyMessages unit (v.runAll moves).2) where
  connected b hbus := ⟨_, countPath_runAll hbus h, Or.inl ⟨by rw [runAll_steady h, hbus], rfl⟩⟩
  offline hbus message hmem := by
    rw [(runAll_offline unit hbus fun move hmove => (h move hmove).ne_store).2] at hmem
    exact absurd hmem List.not_mem_nil

/-- The connection is lost on the way. -/
lemma of_lost {before after : List NodeMove} (hbefore : ∀ move ∈ before, Steady move)
    (hafter : ∀ move ∈ after, Steady move) (hmoves : moves = before ++ .unset :: after) :
    DependencyStep unit v (v.runAll moves).1 (dependencyMessages unit (v.runAll moves).2) := by
  rw [hmoves, runAll_append, runAll_cons]
  have ⟨hnone, hquiet⟩ := runAll_offline unit (v := ((v.runAll before).1.run .unset).1) rfl
    fun move hmove => (hafter move hmove).ne_store
  rw [dependencyMessages_append, dependencyMessages_append, hquiet, dependencyMessages_unset,
    List.append_nil, List.append_nil]
  refine ⟨fun b hbus => ⟨_, countPath_runAll hbus hbefore, Or.inr hnone⟩, ?_⟩
  intro hbus message hmem
  rw [(runAll_offline unit hbus fun move hmove => (hbefore move hmove).ne_store).2] at hmem
  exact absurd hmem List.not_mem_nil

/-- A disconnect, among other moves. -/
lemma of_heartbeat (h : HeartbeatMoves moves) :
    DependencyStep unit v (v.runAll moves).1 (dependencyMessages unit (v.runAll moves).2) := by
  have ⟨before, own, after, hbefore, hown, hafter, hmoves⟩ := h
  rcases hown with rfl | ⟨adjusting, hadjusting, rfl⟩
  · apply of_steady
    intro move hmove
    rw [hmoves, List.append_nil, List.mem_append] at hmove
    exact .of_adjusts (hmove.elim (hbefore move) (hafter move))
  · have hsplit : moves = (before ++ .loseUnits :: adjusting) ++ .unset :: after := by
      rw [hmoves]
      simp
    apply of_lost _ _ hsplit
    · intro move hmove
      rcases List.mem_append.mp hmove with hmem | hmem
      · exact .of_adjusts (hbefore move hmem)
      · rcases List.mem_cons.mp hmem with rfl | hmem
        · trivial
        · exact .of_adjusts (hadjusting move hmem)
    · exact fun move hmove => .of_adjusts (hafter move hmove)

lemma of_adjusting (h : ∀ move ∈ moves, move.Adjusts) :
    DependencyStep unit v (v.runAll moves).1 (dependencyMessages unit (v.runAll moves).2) :=
  of_steady fun move hmove => .of_adjusts (h move hmove)

end DependencyStep

end Controller
end BlueChi