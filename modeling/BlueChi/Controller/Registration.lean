import Mathlib.Data.List.TakeWhile
import BlueChi.Controller.Links

/-!
# Registering is safe

A connection belongs to one node at a time: to the anonymous node it was accepted for, or to the
named node it was registered as. A named node gets one only by a Register with its name.
-/

namespace BlueChi

open Execution

/-! ## The context of a peer -/

/-- The third of at least four fields that are separated by colons. -/
def ThirdField (label field : String) : Prop :=
  ∃ user role rest : List Char, label.toList = user ++ ':' :: role ++ ':' :: field.toList ++ ':' :: rest ∧
    ':' ∉ user ∧ ':' ∉ role ∧ ':' ∉ field.toList

/-- Up to a colon and behind it. -/
lemma split_at_colon {l rest : List Char} (h : l.dropWhile (· ≠ ':') = ':' :: rest) :
    l = l.takeWhile (· ≠ ':') ++ ':' :: rest ∧ ':' ∉ l.takeWhile (· ≠ ':') := by
  refine ⟨?_, fun hmem => ?_⟩
  · rw [← h, List.takeWhile_append_dropWhile]
  · have hne := List.mem_takeWhile_imp hmem
    simp at hne

lemma dropWhile_colon {l : List Char} {c : Char} {rest : List Char}
    (h : l.dropWhile (· ≠ ':') = c :: rest) : c = ':' := by
  have hne : l.dropWhile (· ≠ ':') ≠ [] := by
    rw [h]
    exact List.cons_ne_nil _ _
  have hhead := List.head_dropWhile_not (· ≠ ':') hne
  simp only [h, List.head_cons, decide_eq_false_iff_not, not_not] at hhead
  exact hhead

lemma afterColon_eq_some {l rest : List Char} (h : afterColon l = some rest) :
    ∃ before, l = before ++ ':' :: rest ∧ ':' ∉ before := by
  unfold afterColon at h
  split at h
  · simp at h
  · rename_i c tail heq
    rw [dropWhile_colon heq] at heq
    split at h
    · simp at h
    · rw [Option.some.injEq] at h
      rw [h] at heq
      exact ⟨_, split_at_colon heq⟩

theorem thirdField_of_parseSelinuxType {label field : String}
    (h : parseSelinuxType label = some field) : ThirdField label field := by
  unfold parseSelinuxType at h
  rw [Option.bind_eq_bind, Option.bind_eq_some_iff] at h
  have ⟨afterUser, huser, h⟩ := h
  rw [Option.bind_eq_some_iff] at h
  have ⟨afterRole, hrole, h⟩ := h
  have ⟨user, huser_eq, huser_free⟩ := afterColon_eq_some huser
  have ⟨role, hrole_eq, hrole_free⟩ := afterColon_eq_some hrole
  split at h
  · rename_i hcolon
    have hfield := Option.some.inj h
    have hne : afterRole.dropWhile (· ≠ ':') ≠ [] := by
      intro hnil
      have hall := List.dropWhile_eq_nil_iff.mp hnil ':' hcolon
      simp at hall
    have ⟨c, rest, heq⟩ := List.exists_cons_of_ne_nil hne
    rw [dropWhile_colon heq] at heq
    have ⟨hsplit, hfree⟩ := split_at_colon heq
    refine ⟨user, role, rest, ?_, huser_free, hrole_free, ?_⟩
    · rw [← hfield, String.toList_ofList, huser_eq, hrole_eq]
      nth_rewrite 1 [hsplit]
      simp
    · rw [← hfield, String.toList_ofList]
      exact hfree
  · simp at h

namespace Controller

variable {gap : ℤ} {s s' : Controller} {es : List Event}

/-- The runs in which every match of a named node succeeds. -/
def CleanTrace (s₀ : Controller) (es : List Event) (s : Controller) : Prop :=
  Trace system (fun _ e => e.AttachesCleanly) s₀ es s

/-! ## One node for each connection -/

/-- The connections of the nodes differ, and were made before. Only a node with a connection has
the slot for Register. -/
structure Wired (s : Controller) : Prop where
  single : ∀ n n' b, (s.links n).agentBus = some b → (s.links n').agentBus = some b → n = n'
  old : ∀ n (b : ℕ), (s.links n).agentBus = some b → b < s.nextPtr
  slot : ∀ n b, (s.links n).internalControllerSlot = some b → (s.links n).agentBus = some b
  unnamed : ∀ n b, (s.links n).internalControllerSlot = some b → (s.node n).name = none

namespace Wired

/-- No node gets another connection. -/
lemma of_dropped (h : Wired s) (hptr : s.nextPtr ≤ s'.nextPtr)
    (hname : ∀ n, (s'.node n).name = (s.node n).name)
    (hlink : ∀ n, s'.links n = s.links n ∨ s'.links n = .down) : Wired s' := by
  have hback : ∀ n b, (s'.links n).agentBus = some b → (s.links n).agentBus = some b := by
    intro n b hb
    rcases hlink n with heq | heq
    · rwa [heq] at hb
    · rw [heq] at hb
      cases hb
  refine ⟨fun n n' b hb hb' => h.single n n' b (hback n b hb) (hback n' b hb'), fun n b hb => ?_,
    fun n b hb => ?_, fun n b hb => ?_⟩
  · exact lt_of_lt_of_le (h.old n b (hback n b hb)) hptr
  · rcases hlink n with heq | heq
    · rw [heq] at hb ⊢
      exact h.slot n b hb
    · rw [heq] at hb
      cases hb
  · rw [hname]
    rcases hlink n with heq | heq
    · rw [heq] at hb
      exact h.unnamed n b hb
    · rw [heq] at hb
      cases hb

/-- A new node gets a new connection. -/
lemma opens (h : Wired s) {peer : PeerInfo} (ho : Opens peer s s')
    (hfree : (s.node s.nextPtr).name = none) : Wired s' := by
  have hlinks := ho.links
  have hptr := ho.nextPtr
  have hcases : ∀ n (b : ℕ), (s'.links n).agentBus = some b →
      n = s.nextPtr ∧ b = s.nextPtr + 1 ∨ n ≠ s.nextPtr ∧ (s.links n).agentBus = some b := by
    intro n b hb
    rw [hlinks] at hb
    by_cases hn : n = s.nextPtr
    · rw [hn, Function.update_self] at hb
      exact Or.inl ⟨hn, (Option.some.inj hb).symm⟩
    · rw [Function.update_of_ne hn] at hb
      exact Or.inr ⟨hn, hb⟩
  have hfresh : ∀ n, (s.links n).agentBus ≠ some (s.nextPtr + 1) := by
    intro n hb
    exact Nat.not_succ_lt_self (h.old n _ hb)
  refine ⟨fun n n' b hb hb' => ?_, fun n b hb => ?_, fun n b hb => ?_, fun n b hb => ?_⟩
  · rcases hcases n b hb with ⟨hn, hbus⟩ | ⟨_, hold⟩
    · rcases hcases n' b hb' with ⟨hn', _⟩ | ⟨_, hold'⟩
      · rw [hn, hn']
      · exact absurd (hbus ▸ hold') (hfresh n')
    · rcases hcases n' b hb' with ⟨_, hbus'⟩ | ⟨_, hold'⟩
      · exact absurd (hbus' ▸ hold) (hfresh n)
      · exact h.single n n' b hold hold'
  · rcases hcases n b hb with ⟨_, hbus⟩ | ⟨_, hold⟩
    · rw [hbus]
      exact lt_of_lt_of_le (Nat.lt_succ_self _) hptr
    · exact lt_of_lt_of_le (h.old n b hold) (le_trans (Nat.le_add_right _ 2) hptr)
  · rw [hlinks] at hb ⊢
    by_cases hn : n = s.nextPtr
    · rw [hn, Function.update_self] at hb ⊢
      exact hb
    · rw [Function.update_of_ne hn] at hb ⊢
      exact h.slot n b hb
  · rw [ho.name]
    by_cases hn : n = s.nextPtr
    · rw [hn]
      exact hfree
    · rw [hlinks, Function.update_of_ne hn] at hb
      exact h.unnamed n b hb

/-- The target of a Register takes over the connection of the anonymous node. -/
lemma registers (h : Wired s) {a n : NodeId} {bus : BusId} {name : String} {peer : PeerInfo}
    (hbus : (s.node a).agentBus = some bus)
    (hmoved : Relinks (Function.update (Function.update s.links n (attachedLink (some name) bus peer))
      a .down) s s') : Wired s' := by
  have hcases : ∀ k b, (s'.links k).agentBus = some b →
      k ≠ a ∧ (k = n ∧ b = bus ∨ k ≠ n ∧ (s.links k).agentBus = some b) := by
    intro k b hb
    rw [hmoved.links] at hb
    by_cases hka : k = a
    · rw [hka, Function.update_self] at hb
      cases hb
    · rw [Function.update_of_ne hka] at hb
      refine ⟨hka, ?_⟩
      by_cases hkn : k = n
      · rw [hkn, Function.update_self] at hb
        exact Or.inl ⟨hkn, (Option.some.inj hb).symm⟩
      · rw [Function.update_of_ne hkn] at hb
        exact Or.inr ⟨hkn, hb⟩
  have hother : ∀ k, k ≠ a → (s.links k).agentBus ≠ some bus := by
    intro k hk hb
    exact hk (h.single k a bus hb hbus)
  -- a named node has no slot for Register
  have hslot : ∀ k b, (s'.links k).internalControllerSlot = some b →
      k ≠ a ∧ k ≠ n ∧ (s.links k).internalControllerSlot = some b := by
    intro k b hb
    rw [hmoved.links] at hb
    by_cases hka : k = a
    · rw [hka, Function.update_self] at hb
      cases hb
    · rw [Function.update_of_ne hka] at hb
      by_cases hkn : k = n
      · rw [hkn, Function.update_self] at hb
        cases hb
      · rw [Function.update_of_ne hkn] at hb
        exact ⟨hka, hkn, hb⟩
  refine ⟨fun k k' b hb hb' => ?_, fun k b hb => ?_, fun k b hb => ?_, fun k b hb => ?_⟩
  · have ⟨hka, hk⟩ := hcases k b hb
    have ⟨hka', hk'⟩ := hcases k' b hb'
    rcases hk with ⟨hkn, heq⟩ | ⟨_, hold⟩
    · rcases hk' with ⟨hkn', _⟩ | ⟨_, hold'⟩
      · rw [hkn, hkn']
      · exact absurd (heq ▸ hold') (hother k' hka')
    · rcases hk' with ⟨_, heq'⟩ | ⟨_, hold'⟩
      · exact absurd (heq' ▸ hold) (hother k hka)
      · exact h.single k k' b hold hold'
  · rcases (hcases k b hb).2 with ⟨_, heq⟩ | ⟨_, hold⟩
    · rw [heq]
      exact lt_of_lt_of_le (h.old a bus hbus) hmoved.nextPtr
    · exact lt_of_lt_of_le (h.old k b hold) hmoved.nextPtr
  · have ⟨hka, hkn, hold⟩ := hslot k b hb
    rw [hmoved.links, Function.update_of_ne hka, Function.update_of_ne hkn]
    exact h.slot k b hold
  · rw [hmoved.name]
    exact h.unnamed k b (hslot k b hb).2.2

lemma step (h : Wired s) (hcons : Consistent gap s) {e : Event} (hclean : e.AttachesCleanly)
    (hstep : LinkStep s e s') : Wired s' := by
  cases hstep with
  | retains hretains => exact h.of_dropped hretains.nextPtr hretains.name hretains.link
  | refused hsame =>
    exact h.of_dropped hsame.nextPtr hsame.name fun n => Or.inl (congrFun hsame.links n)
  | opens ho => exact h.opens ho (hcons.link_of_free (le_refl _)).2
  | registers _ _ hbus _ hmoved => exact h.registers hbus hmoved
  | leaves hmatch _ _ => exact absurd hmatch hclean
  | closes hcloses => exact h.of_dropped hcloses.nextPtr hcloses.name hcloses.link
  | thins hthins => exact h.of_dropped hthins.nextPtr hthins.name hthins.link

end Wired

/-- No node has a connection at the start. -/
lemma wired_start (h : Starting s) : Wired s := by
  have hdown : ∀ n, s.links n = .down := by
    intro n
    show (s.node n).link = _
    rw [h.node n]
    rfl
  refine ⟨fun n n' b hb => ?_, fun n b hb => ?_, fun n b hb => ?_, fun n b hb => ?_⟩
  · rw [hdown] at hb
    cases hb
  · rw [hdown] at hb
    cases hb
  · rw [hdown] at hb
    cases hb
  · rw [hdown] at hb
    cases hb

/-- A step that does not stop is no stop. -/
lemma not_stop {e : Event} (hstep : s.step e = some s') (hrun : s'.stopped = false) :
    ∀ sync, e ≠ .stop sync := by
  intro sync heq
  rw [heq] at hstep
  rw [stopped_of_stop hstep] at hrun
  cases hrun

theorem wired_of_clean (h : ReachableUnder system (fun _ e => e.AttachesCleanly) s)
    (hrun : s.stopped = false) : Wired s := by
  induction h with
  | init hinit =>
    have ⟨threshold, cfgs, heq⟩ := hinit
    rw [heq]
    exact wired_start (.start threshold cfgs)
  | step hreach hclean hstep ih =>
    have hrunning := (step_eq_some_iff.mp hstep).1
    have hcons := consistent_of_clean hreach hrunning
    exact (ih hrunning).step hcons hclean (linkStep_of_step hcons (not_stop hstep hrun) hstep)

/-! ## Where a connection comes from -/

/-- The connection `b` was accepted in the run, from this peer. -/
def AcceptedFrom (s₀ : Controller) (es : List Event) (b : BusId) (peer : PeerInfo) : Prop :=
  ∃ before fails after t, es = before ++ .accept peer fails :: after ∧ CleanTrace s₀ before t ∧
    b = t.nextPtr + 1

lemma AcceptedFrom.snoc {s₀ : Controller} {b : BusId} {peer : PeerInfo}
    (h : AcceptedFrom s₀ es b peer) (e : Event) : AcceptedFrom s₀ (es ++ [e]) b peer := by
  have ⟨before, fails, after, t, heq, hrest⟩ := h
  exact ⟨before, fails, after ++ [e], t, by rw [heq]; simp, hrest⟩

/-- The connection of an anonymous node was accepted, and the context that the node keeps is the
one of its peer. -/
def Originated (s₀ : Controller) (es : List Event) (s : Controller) : Prop :=
  ∀ a b, (s.node a).name = none → (s.links a).agentBus = some b →
    ∃ peer, AcceptedFrom s₀ es b peer ∧
      (s.links a).peerSelinuxContext = peer.context.bind parseSelinuxType

namespace Originated

variable {s₀ : Controller}

lemma of_dropped (h : Originated s₀ es s) (e : Event)
    (hname : ∀ n, (s'.node n).name = (s.node n).name)
    (hlink : ∀ n, (s.node n).name = none → s'.links n = s.links n ∨ s'.links n = .down) :
    Originated s₀ (es ++ [e]) s' := by
  intro a b ha hb
  rw [hname] at ha
  rcases hlink a ha with heq | heq
  · rw [heq] at hb ⊢
    have ⟨peer, haccepted, hcontext⟩ := h a b ha hb
    exact ⟨peer, haccepted.snoc e, hcontext⟩
  · rw [heq] at hb
    cases hb

lemma step (h : Originated s₀ es s) (htrace : CleanTrace s₀ es s) (hcons : Consistent gap s)
    {e : Event} (hclean : e.AttachesCleanly) (hstep : LinkStep s e s') :
    Originated s₀ (es ++ [e]) s' := by
  cases hstep with
  | retains hretains => exact h.of_dropped e hretains.name fun n _ => hretains.link n
  | refused hsame => exact h.of_dropped e hsame.name fun n _ => Or.inl (congrFun hsame.links n)
  | @opens peer fails _ ho =>
    intro a b ha hb
    rw [ho.name] at ha
    rw [ho.links] at hb ⊢
    by_cases hnew : a = s.nextPtr
    · rw [hnew, Function.update_self] at hb ⊢
      exact ⟨peer, ⟨es, fails, [], s, rfl, htrace, (Option.some.inj hb).symm⟩, rfl⟩
    · rw [Function.update_of_ne hnew] at hb ⊢
      have ⟨source, haccepted, hcontext⟩ := h a b ha hb
      exact ⟨source, haccepted.snoc _, hcontext⟩
  | @registers a _ name _ _ peer _ n bus _ _ htarget _ _ hmoved =>
    refine h.of_dropped _ hmoved.name fun k hk => ?_
    have ⟨_, _, hname, _, _⟩ := (registerTarget_eq_ok_iff hcons.registry a n name).mp htarget
    have hkn : k ≠ n := by
      intro heq
      rw [heq, hname] at hk
      cases hk
    rw [hmoved.links]
    by_cases hka : k = a
    · rw [hka, Function.update_self]
      exact Or.inr rfl
    · rw [Function.update_of_ne hka, Function.update_of_ne hkn]
      exact Or.inl rfl
  | leaves hmatch _ _ => exact absurd hmatch hclean
  | closes hcloses => exact h.of_dropped _ hcloses.name fun n _ => hcloses.link n
  | thins hthins => exact h.of_dropped _ hthins.name fun n _ => hthins.link n

end Originated

theorem originated_of_trace {s₀ : Controller} (hinit : system.init s₀) (h : CleanTrace s₀ es s)
    (hrun : s.stopped = false) : Originated s₀ es s := by
  induction h with
  | nil =>
    intro a b _ hb
    have ⟨threshold, cfgs, heq⟩ := hinit
    have hnone : (s₀.node a).agentBus = none := by
      rw [heq, (Starting.start threshold cfgs).node a]
      rfl
    rw [show (s₀.links a).agentBus = none from hnone] at hb
    cases hb
  | snoc htrace hclean hstep ih =>
    have hrunning := (step_eq_some_iff.mp hstep).1
    have hcons := consistent_of_clean (htrace.reachable hinit) hrunning
    exact (ih hrunning).step htrace hcons hclean (linkStep_of_step hcons (not_stop hstep hrun) hstep)

/-! ## Registering once -/

/-- The connection `b` was made before, and no node takes a Register on it. -/
structure Spent (b : BusId) (s : Controller) : Prop where
  old : b < s.nextPtr
  slot : ∀ k, (s.links k).internalControllerSlot ≠ some b

namespace Spent

variable {b : BusId}

lemma of_dropped (h : Spent b s) (hptr : s.nextPtr ≤ s'.nextPtr)
    (hlink : ∀ n, (s'.links n).internalControllerSlot = (s.links n).internalControllerSlot ∨
      (s'.links n).internalControllerSlot = none) : Spent b s' := by
  refine ⟨lt_of_lt_of_le h.old hptr, fun k hk => ?_⟩
  rcases hlink k with heq | heq
  · rw [heq] at hk
    exact h.slot k hk
  · rw [heq] at hk
    cases hk

lemma step (h : Spent b s) {e : Event} (hclean : e.AttachesCleanly) (hstep : LinkStep s e s') :
    Spent b s' := by
  have hdown : ∀ n, s'.links n = s.links n ∨ s'.links n = .down →
      (s'.links n).internalControllerSlot = (s.links n).internalControllerSlot ∨
        (s'.links n).internalControllerSlot = none := by
    intro n hn
    rcases hn with heq | heq
    · rw [heq]
      exact Or.inl rfl
    · rw [heq]
      exact Or.inr rfl
  cases hstep with
  | retains hretains => exact h.of_dropped hretains.nextPtr fun n => hdown n (hretains.link n)
  | refused hsame =>
    exact h.of_dropped hsame.nextPtr fun n => hdown n (Or.inl (congrFun hsame.links n))
  | opens ho =>
    refine ⟨lt_of_lt_of_le h.old (le_trans (Nat.le_add_right _ 2) ho.nextPtr), fun k hk => ?_⟩
    rw [ho.links] at hk
    by_cases hnew : k = s.nextPtr
    · -- the slot of the new node is on a new connection
      rw [hnew, Function.update_self] at hk
      have hbus : s.nextPtr + 1 = b := Option.some.inj hk
      have hold := h.old
      rw [← hbus] at hold
      exact Nat.not_succ_lt_self hold
    · rw [Function.update_of_ne hnew] at hk
      exact h.slot k hk
  | @registers a _ _ _ _ _ _ n _ _ _ _ _ _ hmoved =>
    refine h.of_dropped hmoved.nextPtr fun k => ?_
    rw [hmoved.links]
    by_cases hka : k = a
    · rw [hka, Function.update_self]
      exact Or.inr rfl
    · rw [Function.update_of_ne hka]
      by_cases hkn : k = n
      · rw [hkn, Function.update_self]
        exact Or.inr rfl
      · rw [Function.update_of_ne hkn]
        exact Or.inl rfl
  | leaves hmatch _ _ => exact absurd hmatch hclean
  | closes hcloses => exact h.of_dropped hcloses.nextPtr fun n => hdown n (hcloses.link n)
  | thins hthins => exact h.of_dropped hthins.nextPtr fun n => hdown n (hthins.link n)

lemma of_trace (h : Spent b s) (hreach : ReachableUnder system (fun _ e => e.AttachesCleanly) s)
    (htrace : CleanTrace s es s') (hrun : s'.stopped = false) : Spent b s' := by
  induction htrace with
  | nil => exact h
  | snoc htrace hclean hstep ih =>
    have hrunning := (step_eq_some_iff.mp hstep).1
    have hcons := consistent_of_clean (hreach.trace htrace) hrunning
    exact (ih hrunning).step hclean (linkStep_of_step hcons (not_stop hstep hrun) hstep)

end Spent

/-! ## The runs -/

/-- The connection `b` is the one of the named node `n`. -/
def BoundTo (s : Controller) (n : NodeId) (b : BusId) : Prop :=
  n ∈ s.nodes ∧ (s.node n).agentBus = some b

/-- A connection of a named node is spent. -/
lemma Wired.spent (h : Wired s) (hcons : Consistent gap s) {n : NodeId} {b : BusId}
    (hbound : s.BoundTo n b) : Spent b s := by
  have ⟨hn, hbus⟩ := hbound
  refine ⟨h.old n b hbus, fun k hk => ?_⟩
  have hkn := h.single k n b (h.slot k b hk) hbus
  have hname := h.unnamed k b hk
  rw [hkn] at hname
  exact hcons.registry.named n hn hname

/-- The event is a Register on the connection `b`, which was accepted in the run `es` and belongs
to an anonymous node. It carries the name of `n`, which is offline and requires no context other
than that of the peer of `b`. -/
def RegistersAs (s₀ : Controller) (es : List Event) (s : Controller) (e : Event) (n : NodeId)
    (b : BusId) : Prop :=
  ∃ a serial name now nowMonotonic peer fails source,
    e = .register a serial name now nowMonotonic peer fails ∧
    a ∈ s.anonymousNodes ∧ (s.node a).internalControllerSlot = some b ∧
    (s.node a).agentBus = some b ∧ AcceptedFrom s₀ es b source ∧
    (s.node n).name = some name ∧ (s.node n).agentBus = none ∧
    ∀ context, (s.node n).requiredSelinuxContext = some context →
      ∃ label, source.context = some label ∧ ThirdField label context

/-- The name is not one of a node that is offline and requires no other context. -/
def Refuses (s : Controller) (a : NodeId) (name : String) : Prop :=
  ∀ n ∈ s.nodes, (s.node n).name = some name → (s.node n).agentBus ≠ none ∨
    (s.node n).requiredSelinuxContext ≠ none ∧
      (s.node a).peerSelinuxContext ≠ (s.node n).requiredSelinuxContext

lemma Refuses.not_ok (hreg : Registry s) {a : NodeId} {name : String} (h : s.Refuses a name)
    (n : NodeId) : s.registerTarget a name ≠ .ok n := by
  intro htarget
  have ⟨_, hn, hname, hagent, hcontext⟩ := (registerTarget_eq_ok_iff hreg a n name).mp htarget
  rcases h n hn hname with hbus | ⟨hrequired, hother⟩
  · exact hbus (by simpa [nodeHasAgent] using hagent)
  · exact hother (hcontext hrequired)

/-- What is refused only gets an error. -/
lemma nodeMethodRegister_of_refuses (hreg : Registry s) {a : NodeId} {name : String}
    (h : s.Refuses a name) (serial : Serial) (now nowMonotonic : UInt64) (peer : PeerInfo)
    (fails : BusCall → Bool) :
    ∃ message, s.nodeMethodRegister a serial name now nowMonotonic peer fails =
      s.emit (.replyError serial message) := by
  unfold nodeMethodRegister
  split
  · rename_i message _
    exact ⟨message, rfl⟩
  · rename_i htarget _
    exact absurd htarget (h.not_ok hreg _)
  · rename_i htarget _
    exact absurd htarget (h.not_ok hreg _)

/-- A named node only gets a connection by a Register for its name. -/
lemma registersAs_of_bound {s₀ : Controller} (hcons : Consistent gap s) (hwired : Wired s)
    (horigin : Originated s₀ es s) {e : Event} (hclean : e.AttachesCleanly)
    (hstop : ∀ sync, e ≠ .stop sync) (hstep : s.step e = some s') {n : NodeId} {b : BusId}
    (hbefore : ¬s.BoundTo n b) (hafter : s'.BoundTo n b) : RegistersAs s₀ es s e n b := by
  obtain ⟨hn', hb'⟩ := hafter
  -- neither the list of nodes nor a connection that stays is new
  have hsame : s'.nodes = s.nodes → s'.links n ≠ s.links n ∧ s'.links n ≠ .down := by
    intro hnodes
    constructor
    · intro heq
      apply hbefore
      refine ⟨hnodes ▸ hn', ?_⟩
      show (s.links n).agentBus = some b
      rw [← heq]
      exact hb'
    · intro heq
      have hnone : (s'.links n).agentBus = none := by
        rw [heq]
        rfl
      rw [show (s'.links n).agentBus = some b from hb'] at hnone
      cases hnone
  have hdropped : s'.nodes = s.nodes → s'.links n = s.links n ∨ s'.links n = .down →
      RegistersAs s₀ es s e n b := by
    intro hnodes hlink
    obtain ⟨hkept, hdown⟩ := hsame hnodes
    exact absurd hlink (not_or.mpr ⟨hkept, hdown⟩)
  cases linkStep_of_step hcons hstop hstep with
  | retains hretains => exact hdropped hretains.nodes (hretains.link n)
  | refused hrefused => exact hdropped hrefused.nodes (Or.inl (congrFun hrefused.links n))
  | opens ho =>
    refine hdropped ho.nodes (Or.inl ?_)
    have hlisted : n ∈ s.nodes := ho.nodes ▸ hn'
    have hold := hcons.registry.fresh n (Or.inl hlisted)
    rw [ho.links, Function.update_of_ne (ne_of_lt hold)]
  | @registers a serial name now nowMonotonic peer fails target bus _ hslot htarget hbus _ hmoved =>
    obtain ⟨hunnamed, _, hname, hagent, hcontext⟩ :=
      (registerTarget_eq_ok_iff hcons.registry a target name).mp htarget
    have hlink := congrFun hmoved.links n
    by_cases hna : n = a
    · rw [hna, Function.update_self] at hlink
      exact hdropped hmoved.nodes (Or.inr (hna ▸ hlink))
    · rw [Function.update_of_ne hna] at hlink
      by_cases hnt : n = target
      · rw [← hnt] at hname hagent hcontext
        rw [hnt, Function.update_self] at hlink
        have hb : b = bus := by
          have hbound : (s'.links target).agentBus = some b := hnt ▸ hb'
          rw [hlink] at hbound
          exact (Option.some.inj hbound).symm
        obtain ⟨slot, hsome⟩ := Option.isSome_iff_exists.mp hslot
        have hsame := hwired.slot a slot hsome
        rw [show (s.links a).agentBus = some bus from hbus] at hsame
        rw [← Option.some.inj hsame, ← hb] at hsome
        rw [← hb] at hbus
        obtain ⟨source, haccepted, hpeer⟩ := horigin a b hunnamed hbus
        have hout : a ∉ s.nodes := fun hmem => hcons.registry.named a hmem hunnamed
        have hanonymous := hcons.forListed.anonymous a hout (by rw [hbus]; simp)
        refine ⟨a, serial, name, now, nowMonotonic, peer, fails, source, rfl, hanonymous, hsome,
          hbus, haccepted, hname, by simpa [nodeHasAgent] using hagent, fun context hrequired => ?_⟩
        rw [hrequired] at hcontext
        have hown := hcontext (Option.some_ne_none context)
        rw [show (s.node a).peerSelinuxContext = _ from hpeer, Option.bind_eq_some_iff] at hown
        obtain ⟨label, hlabel, hparse⟩ := hown
        exact ⟨label, hlabel, thirdField_of_parseSelinuxType hparse⟩
      · rw [Function.update_of_ne hnt] at hlink
        exact hdropped hmoved.nodes (Or.inl hlink)
  | leaves hmatch _ _ => exact absurd hmatch hclean
  | closes hcloses => exact hdropped hcloses.nodes (hcloses.link n)
  | thins hthins => exact hdropped hthins.nodes (hthins.link n)

/-- A named node has one connection and shares it with no other. It gets it by a Register for its
name on an anonymous connection, whose own context is the required one, while it is offline. No
Register comes on that connection again, and one that is refused changes nothing. -/
theorem registration_safe {s₀ : Controller} (hinit : system.init s₀) (h : CleanTrace s₀ es s)
    (hrun : s.stopped = false) :
    (∀ n b b', s.BoundTo n b → s.BoundTo n b' → b = b') ∧
    (∀ n n' b, s.BoundTo n b → s.BoundTo n' b → n = n') ∧
    (∀ e s' n b, e.AttachesCleanly → s.step e = some s' → s'.stopped = false →
      ¬s.BoundTo n b → s'.BoundTo n b → RegistersAs s₀ es s e n b) ∧
    (∀ later s' n b, s.BoundTo n b → CleanTrace s later s' → s'.stopped = false →
      ∀ k, (s'.node k).internalControllerSlot ≠ some b) ∧
    ∀ a serial name now nowMonotonic peer fails s', s.Refuses a name →
      s.step (.register a serial name now nowMonotonic peer fails) = some s' →
      ∃ message, s' = s.emit (.replyError serial message) := by
  have hreach := h.reachable hinit
  have hcons := consistent_of_clean hreach hrun
  have hwired := wired_of_clean hreach hrun
  refine ⟨fun n b b' hb hb' => ?_, fun n n' b hb hb' => hwired.single n n' b hb.2 hb'.2,
    fun e s' n b hclean hstep hrun' hbefore hafter => ?_, fun later s' n b hbound htrace hrun' => ?_,
    fun a serial name now nowMonotonic peer fails s' hrefuses hstep => ?_⟩
  · exact Option.some.inj (hb.2.symm.trans hb'.2)
  · exact registersAs_of_bound hcons hwired (originated_of_trace hinit h hrun) hclean
      (not_stop hstep hrun') hstep hbefore hafter
  · exact ((hwired.spent hcons hbound).of_trace hreach htrace hrun').slot
  · have ⟨_, hhandle⟩ := step_eq_some_iff.mp hstep
    have ⟨_, heq⟩ := whenever_eq_some_iff.mp hhandle
    have ⟨message, hrefused⟩ := nodeMethodRegister_of_refuses hcons.registry hrefuses serial now
      nowMonotonic peer fails
    exact ⟨message, heq.symm.trans hrefused⟩

/-- A controller with one node, which requires a context. -/
def guardedNode : Controller := start 0 [⟨"n", some "agent_t", []⟩]

/-- An agent with that context. -/
def agentPeer : PeerInfo := ⟨some none, some "user_u:role_r:agent_t:s0"⟩

/-- The agent registers. -/
def registerAgent : Event := .register 2 1 "n" 1 1 agentPeer fun _ => false

/-- The agent is bound to the node, with the context that it was accepted with. -/
theorem registration_safe_guardedNode : ∃ s s',
    CleanTrace guardedNode [.accept agentPeer fun _ => false] s ∧
      s.step registerAgent = some s' ∧ s'.BoundTo 1 3 ∧
      RegistersAs guardedNode [.accept agentPeer fun _ => false] s registerAgent 1 3 := by
  have hrun : (guardedNode.step (.accept agentPeer fun _ => false)).bind
      (fun s => (s.step registerAgent).map fun s' => (s.stopped, s'.stopped,
        (s.node 1).agentBus, s'.nodes, (s'.node 1).agentBus)) =
      some (false, false, none, [1], some 3) := by
    decide +kernel
  have ⟨s, hs, hstep⟩ := Option.bind_eq_some_iff.mp hrun
  have ⟨s', hs', hread⟩ := Option.map_eq_some_iff.mp hstep
  simp only [Prod.mk.injEq] at hread
  have ⟨hrunning, hrunning', hoffline, hnodes, hbus⟩ := hread
  have hclean : registerAgent.AttachesCleanly := by
    intro hfail
    have ⟨member, _, hbad⟩ := hfail
    cases hbad
  have htrace : CleanTrace guardedNode [.accept agentPeer fun _ => false] s :=
    Trace.snoc .nil trivial hs
  have hbound : s'.BoundTo 1 3 := ⟨by simp [hnodes], hbus⟩
  have hunbound : ¬s.BoundTo 1 3 := by
    intro hb
    rw [BoundTo, hoffline] at hb
    simp at hb
  have ⟨_, _, honly, _⟩ := registration_safe ⟨0, _, rfl⟩ htrace hrunning
  exact ⟨s, s', htrace, hs', hbound,
    honly registerAgent s' 1 3 hclean hs' hrunning' hunbound hbound⟩

end Controller
end BlueChi
