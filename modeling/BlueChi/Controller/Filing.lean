import BlueChi.Controller.Subscriptions

/-!
# Where subscriptions are filed

A subscription is filed in the table of a node once for each time it lists a unit. Subscribing
adds that many copies and unsubscribing takes them out again, so the tables of the listed nodes
are an index of the list of all subscriptions (`Indexed`).
-/

namespace BlueChi

/-! ## Tables -/

namespace Node

lemma subsOf_modifySubs (node : Node) {unit : String} {entry : UnitSubscriptions}
    (h : node.usubs unit = some entry) (g : List Subscription → List Subscription) (u : String) :
    (node.modifyUsubs unit fun entry => { entry with subs := g entry.subs }).subsOf u =
      if u = unit then g entry.subs else node.subsOf u := by
  have hkey : ∀ entry : UnitSubscriptions,
      ({ entry with subs := g entry.subs } : UnitSubscriptions).unit = entry.unit := fun _ => rfl
  unfold subsOf modifyUsubs usubs at *
  rw [Keyed.get_modify hkey]
  split
  · rw [h]
    rfl
  · rfl

lemma subsOf_delete (node : Node) (unit u : String) :
    ({ node with
        unitSubscriptions := Keyed.delete (·.unit) node.unitSubscriptions unit } : Node).subsOf u =
      if u = unit then [] else node.subsOf u := by
  unfold subsOf usubs
  rw [Keyed.get_delete]
  split <;> rfl

lemma subsOf_append (node : Node) {entry : UnitSubscriptions}
    (h : node.usubs entry.unit = none) (u : String) :
    ({ node with unitSubscriptions := node.unitSubscriptions ++ [entry] } : Node).subsOf u =
      if u = entry.unit then entry.subs else node.subsOf u := by
  unfold subsOf usubs at *
  rw [Keyed.get_append_singleton h]
  by_cases hu : u = entry.unit
  · rw [if_pos hu, if_pos hu.symm]
    rfl
  · rw [if_neg hu, if_neg fun heq => hu heq.symm]

lemma subsOf_eq_of_usubs {node : Node} {unit : String} {entry : UnitSubscriptions}
    (h : node.usubs unit = some entry) : node.subsOf unit = entry.subs := by
  simp [subsOf, h]

lemma subsOf_eq_nil {node : Node} {unit : String} (h : node.usubs unit = none) :
    node.subsOf unit = [] := by
  simp [subsOf, h]

end Node

private lemma count_singleton_ite (sub sub' : Subscription) :
    [sub].count sub' = if sub' = sub then 1 else 0 := by
  by_cases h : sub' = sub
  · simp [h]
  · have h' : ¬sub = sub' := fun heq => h heq.symm
    simp [h, h']

/-- One round of `node_subscribe` files one more copy. -/
lemma count_nodeSubscribeUnit (sub : Subscription) (unit : String) (node : Node) (u : String)
    (sub' : Subscription) :
    ((nodeSubscribeUnit sub unit node).1.subsOf u).count sub' =
      (node.subsOf u).count sub' + if u = unit ∧ sub' = sub then 1 else 0 := by
  unfold nodeSubscribeUnit
  cases h : node.usubs unit with
  | some entry =>
    simp only
    rw [Node.subsOf_modifySubs node h fun subs => subs ++ [sub]]
    by_cases hu : u = unit
    · subst hu
      rw [if_pos rfl, List.count_append, Node.subsOf_eq_of_usubs h, count_singleton_ite]
      simp
    · simp [hu]
  | none =>
    simp only
    rw [Node.subsOf_append node h]
    by_cases hu : u = unit
    · subst hu
      rw [if_pos rfl, Node.subsOf_eq_nil h, count_singleton_ite]
      simp
    · simp [hu]

/-- One round of `node_unsubscribe` takes one copy out, if there is one. -/
lemma count_nodeUnsubscribeUnit (sub : Subscription) (unit : String) (node : Node) (u : String)
    (sub' : Subscription) :
    ((nodeUnsubscribeUnit sub unit node).1.subsOf u).count sub' =
      (node.subsOf u).count sub' - if u = unit ∧ sub' = sub then 1 else 0 := by
  have herase : ∀ subs : List Subscription,
      (subs.erase sub).count sub' = subs.count sub' - if sub' = sub then 1 else 0 := by
    intro subs
    by_cases hsub : sub' = sub
    · subst hsub
      simp [List.count_erase_self]
    · simp [hsub, List.count_erase_of_ne hsub]
  unfold nodeUnsubscribeUnit
  cases h : node.usubs unit with
  | none =>
    by_cases hu : u = unit
    · subst hu
      simp [Node.subsOf_eq_nil h]
    · simp [hu]
  | some entry =>
    have hsubs := Node.subsOf_eq_of_usubs h
    by_cases hmem : sub ∈ entry.subs
    · by_cases hempty : (entry.subs.erase sub).isEmpty = true
      · -- the entry goes, and with it the last copy
        have hnil : entry.subs.erase sub = [] := List.isEmpty_iff.mp hempty
        simp only [if_pos hmem, if_pos hempty]
        rw [Node.subsOf_delete]
        by_cases hu : u = unit
        · subst hu
          have hcount := herase entry.subs
          rw [hnil, List.count_nil] at hcount
          rw [if_pos rfl, hsubs, List.count_nil]
          simpa using hcount
        · simp [hu]
      · simp only [if_pos hmem, if_neg hempty]
        rw [Node.subsOf_modifySubs node h fun subs => subs.erase sub]
        by_cases hu : u = unit
        · subst hu
          rw [if_pos rfl, hsubs, herase]
          simp
        · simp [hu]
    · simp only [if_neg hmem]
      by_cases hu : u = unit ∧ sub' = sub
      · obtain ⟨rfl, rfl⟩ := hu
        rw [hsubs, List.count_eq_zero.mpr hmem, Nat.zero_sub]
      · simp [hu]

/-- `node_subscribe` files one copy for each time the unit is listed. -/
theorem count_nodeSubscribe (sub : Subscription) (node : Node) (u : String) (sub' : Subscription) :
    ((nodeSubscribe sub node).1.subsOf u).count sub' =
      (node.subsOf u).count sub' + if sub' = sub then sub.units.count u else 0 := by
  unfold nodeSubscribe
  generalize sub.units = units
  induction units generalizing node with
  | nil => simp [NodeStep.forEach]
  | cons unit units ih =>
    have hround := count_nodeSubscribeUnit sub unit node u sub'
    rw [NodeStep.forEach, ih, hround]
    by_cases hsub : sub' = sub
    · by_cases hu : u = unit
      · subst hu
        simp [hsub]
        omega
      · have hu' : ¬unit = u := fun heq => hu heq.symm
        simp [hsub, hu, hu']
    · simp [hsub]

/-- `node_unsubscribe` takes as many copies out. -/
theorem count_nodeUnsubscribe (sub : Subscription) (node : Node) (u : String)
    (sub' : Subscription) :
    ((nodeUnsubscribe sub node).1.subsOf u).count sub' =
      (node.subsOf u).count sub' - if sub' = sub then sub.units.count u else 0 := by
  unfold nodeUnsubscribe
  generalize sub.units = units
  induction units generalizing node with
  | nil => simp [NodeStep.forEach]
  | cons unit units ih =>
    have hround := count_nodeUnsubscribeUnit sub unit node u sub'
    rw [NodeStep.forEach, ih, hround]
    by_cases hsub : sub' = sub
    · by_cases hu : u = unit
      · subst hu
        simp [hsub]
        omega
      · have hu' : ¬unit = u := fun heq => hu heq.symm
        simp [hsub, hu, hu']
    · simp [hsub]

namespace Controller

/-! ## Applying a function to nodes -/

/-- The effects leave the nodes alone. -/
theorem applyNode_eq (s : Controller) (n : NodeId) (f : NodeStep) :
    s.applyNode n f = { s with
      node := Function.update s.node n (f (s.node n)).1, log := (s.applyNode n f).log,
      refs := (s.applyNode n f).refs, proxyCalls := (s.applyNode n f).proxyCalls } := by
  have heffects : ∀ (effs : List NodeEffect) (t : Controller),
      effs.foldl (runEffect n) t = { t with
        log := (effs.foldl (runEffect n) t).log, refs := (effs.foldl (runEffect n) t).refs,
        proxyCalls := (effs.foldl (runEffect n) t).proxyCalls } := by
    intro effs
    induction effs with
    | nil => exact fun t => rfl
    | cons eff effs ih =>
      intro t
      have hone : t.runEffect n eff = { t with
          log := (t.runEffect n eff).log, refs := (t.runEffect n eff).refs,
          proxyCalls := (t.runEffect n eff).proxyCalls } := by
        cases eff with
        | send call =>
          unfold runEffect sendAgent
          simp only
          split <;> rfl
        | notify subs unit ev => exact (notifyFrame_handleAll t subs _ unit ev).rest
      rw [List.foldl_cons]
      have hrest := ih (t.runEffect n eff)
      generalize effs.foldl (runEffect n) (t.runEffect n eff) = t' at hrest ⊢
      rw [hrest, hone]
  have h := heffects (f (s.node n)).2 (s.modifyNode n fun _ => (f (s.node n)).1)
  unfold applyNode
  rw [h]
  rfl

/-- A loop over distinct nodes applies the function once to each. -/
theorem foldl_applyNode_eq (f : NodeStep) {ns : List NodeId} (hnodup : ns.Nodup)
    (s : Controller) :
    ns.foldl (fun s n => s.applyNode n f) s = { s with
      node := fun n => if n ∈ ns then (f (s.node n)).1 else s.node n
      log := (ns.foldl (fun s n => s.applyNode n f) s).log
      refs := (ns.foldl (fun s n => s.applyNode n f) s).refs
      proxyCalls := (ns.foldl (fun s n => s.applyNode n f) s).proxyCalls } := by
  induction ns generalizing s with
  | nil => simp
  | cons n ns ih =>
    rw [List.nodup_cons] at hnodup
    have hone := applyNode_eq s n f
    have hrest := ih hnodup.2 (s.applyNode n f)
    rw [List.foldl_cons]
    generalize ns.foldl (fun s n => s.applyNode n f) (s.applyNode n f) = t at hrest ⊢
    generalize s.applyNode n f = t' at hone hrest
    have hnode : t.node = fun k => if k ∈ n :: ns then (f (s.node k)).1 else s.node k := by
      rw [hrest, hone]
      funext k
      by_cases hk : k = n
      · subst hk
        simp [hnodup.1]
      · simp [hk]
    rw [hrest, hone] at hnode ⊢
    simp only at hnode ⊢
    rw [hnode]

end Controller
end BlueChi
