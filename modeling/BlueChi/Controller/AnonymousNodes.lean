import Mathlib.Data.Finset.Card
import BlueChi.Controller.Attaching
import BlueChi.Controller.Registration

/-!
# Anonymous nodes that stay behind

An anonymous node stands for a connection on which no agent has registered. `node_disconnect`
takes it out of its list when the connection is lost. A Register that is accepted gives the
connection to another node and leaves the anonymous node in the list, where it stays.
-/

namespace BlueChi

open Execution

namespace Controller

variable {gap : ℤ} {s s' : Controller} {es : List Event}

/-- The connections that are open and have not registered: Register can be called on them. -/
def unregistered (s : Controller) : Finset BusId :=
  (Finset.range s.nextPtr).filter fun b =>
    ∃ n ∈ Finset.range s.nextPtr, (s.node n).internalControllerSlot = some b

/-- Each anonymous node has a connection that is open and has not registered. -/
def NoneStale (s : Controller) : Prop :=
  ∀ a ∈ s.anonymousNodes, ∃ b ∈ s.unregistered, (s.node a).agentBus = some b

/-- The event is a Register that is accepted. -/
def Accepts (s : Controller) : Event → Prop
  | .register a _ name _ _ _ fails => (∃ n, s.registerTarget a name = .ok n) ∧ Attaches fails
  | _ => False

/-! ## Without an accepted Register -/

/-- The anonymous nodes wait for a Register, each on a connection of its own. -/
structure Waiting (s : Controller) : Prop where
  bus : ∀ a ∈ s.anonymousNodes, ∃ b : ℕ, (s.links a).agentBus = some b ∧
    (s.links a).internalControllerSlot = some b ∧ b < s.nextPtr
  single : ∀ a ∈ s.anonymousNodes, ∀ a' ∈ s.anonymousNodes,
    (s.links a).agentBus = (s.links a').agentBus → a = a'

namespace Waiting

lemma of_kept (h : Waiting s) (hptr : s.nextPtr ≤ s'.nextPtr)
    (hmem : ∀ a ∈ s'.anonymousNodes, a ∈ s.anonymousNodes ∧ s'.links a = s.links a) :
    Waiting s' := by
  refine ⟨fun a ha => ?_, fun a ha a' ha' heq => ?_⟩
  · have ⟨hold, hlink⟩ := hmem a ha
    have ⟨b, hbus, hslot, hlt⟩ := h.bus a hold
    rw [hlink]
    exact ⟨b, hbus, hslot, lt_of_lt_of_le hlt hptr⟩
  · have ⟨hold, hlink⟩ := hmem a ha
    have ⟨hold', hlink'⟩ := hmem a' ha'
    rw [hlink, hlink'] at heq
    exact h.single a hold a' hold' heq

/-- The anonymous nodes are the same ones and keep their connections. -/
lemma of_same (h : Waiting s) (hptr : s.nextPtr ≤ s'.nextPtr)
    (hanonymous : s'.anonymousNodes = s.anonymousNodes)
    (hlink : ∀ a ∈ s.anonymousNodes, s'.links a = s.links a) : Waiting s' := by
  apply h.of_kept hptr
  intro a ha
  rw [hanonymous] at ha
  exact ⟨ha, hlink a ha⟩

lemma opens (h : Waiting s) (hreg : Registry s) {peer : PeerInfo} (ho : Opens peer s s') :
    Waiting s' := by
  have hptr := ho.nextPtr
  have hmem : ∀ a ∈ s'.anonymousNodes, a = s.nextPtr ∧ s'.links a = attachedLink none (s.nextPtr + 1) peer ∨
      a ∈ s.anonymousNodes ∧ s'.links a = s.links a := by
    intro a ha
    rw [ho.anonymousNodes] at ha
    rw [ho.links]
    rcases List.mem_append.mp ha with hold | hnew
    · have hlt := hreg.fresh a (Or.inr hold)
      exact Or.inr ⟨hold, Function.update_of_ne (ne_of_lt hlt) _ _⟩
    · rw [List.mem_singleton] at hnew
      rw [hnew, Function.update_self]
      exact Or.inl ⟨rfl, rfl⟩
  -- the new connection is none of the old ones
  have hfresh : ∀ a ∈ s.anonymousNodes, (s.links a).agentBus ≠ some (s.nextPtr + 1) := by
    intro a ha hbus
    have ⟨b, hb, _, hlt⟩ := h.bus a ha
    rw [hb] at hbus
    rw [Option.some.inj hbus] at hlt
    exact Nat.not_succ_lt_self hlt
  refine ⟨fun a ha => ?_, fun a ha a' ha' heq => ?_⟩
  · rcases hmem a ha with ⟨_, hlink⟩ | ⟨hold, hlink⟩
    · rw [hlink]
      exact ⟨s.nextPtr + 1, rfl, rfl, lt_of_lt_of_le (Nat.lt_succ_self _) hptr⟩
    · have ⟨b, hbus, hslot, hlt⟩ := h.bus a hold
      rw [hlink]
      exact ⟨b, hbus, hslot, lt_of_lt_of_le hlt (le_trans (Nat.le_add_right _ 2) hptr)⟩
  · rcases hmem a ha with ⟨hnew, hlink⟩ | ⟨hold, hlink⟩
    · rcases hmem a' ha' with ⟨hnew', _⟩ | ⟨hold', hlink'⟩
      · rw [hnew, hnew']
      · rw [hlink, hlink'] at heq
        exact absurd heq.symm (hfresh a' hold')
    · rcases hmem a' ha' with ⟨_, hlink'⟩ | ⟨hold', hlink'⟩
      · rw [hlink, hlink'] at heq
        exact absurd heq (hfresh a hold)
      · rw [hlink, hlink'] at heq
        exact h.single a hold a' hold' heq

lemma step (h : Waiting s) (hcons : Consistent gap s) {e : Event} (haccepts : ¬s.Accepts e)
    (hstep : LinkStep s e s') : Waiting s' := by
  cases hstep with
  | retains hretains =>
    exact h.of_same hretains.nextPtr hretains.anonymousNodes fun a ha => hretains.present a (Or.inr ha)
  | refused hsame =>
    exact h.of_same hsame.nextPtr hsame.anonymousNodes fun a _ => congrFun hsame.links a
  | opens ho => exact h.opens hcons.registry ho
  | registers _ htarget _ hfine _ => exact absurd ⟨⟨_, htarget⟩, hfine⟩ haccepts
  | @leaves a _ name _ _ _ _ n _ _ _ htarget hleft =>
    have ⟨_, hn, _⟩ := (registerTarget_eq_ok_iff hcons.registry a n name).mp htarget
    apply h.of_same hleft.nextPtr hleft.anonymousNodes
    intro k hk
    have hkn : k ≠ n := by
      intro heq
      exact hcons.registry.not_anonymous hn (heq ▸ hk)
    rw [hleft.links, Function.update_of_ne hkn]
  | @closes n _ hcloses =>
    apply h.of_kept hcloses.nextPtr
    intro k hk
    rw [hcloses.anonymousNodes] at hk
    have hold := List.mem_of_mem_erase hk
    have hkn : k ≠ n := by
      intro heq
      rw [heq] at hk
      exact hcons.registry.anonymousNodup.not_mem_erase hk
    exact ⟨hold, hcloses.others k (Or.inr hold) hkn⟩
  | thins hthins => exact h.of_same hthins.nextPtr hthins.anonymousNodes hthins.anonymous

lemma mem_unregistered (h : Waiting s) (hreg : Registry s) {a : NodeId}
    (ha : a ∈ s.anonymousNodes) : ∃ b ∈ s.unregistered, (s.node a).agentBus = some b := by
  have ⟨b, hbus, hslot, hlt⟩ := h.bus a ha
  refine ⟨b, ?_, hbus⟩
  rw [unregistered, Finset.mem_filter, Finset.mem_range]
  exact ⟨hlt, a, Finset.mem_range.mpr (hreg.fresh a (Or.inr ha)), hslot⟩

lemma length_le (h : Waiting s) (hreg : Registry s) :
    s.anonymousNodes.length ≤ s.unregistered.card := by
  rw [← List.toFinset_card_of_nodup hreg.anonymousNodup]
  -- each node is mapped to its connection
  apply Finset.card_le_card_of_injOn fun a => ((s.links a).agentBus.getD 0)
  · intro a ha
    have ⟨b, hb, hbus⟩ := h.mem_unregistered hreg (List.mem_toFinset.mp ha)
    show (s.node a).agentBus.getD 0 ∈ s.unregistered
    rw [hbus]
    exact hb
  · intro a ha a' ha' heq
    have hmem := List.mem_toFinset.mp ha
    have hmem' := List.mem_toFinset.mp ha'
    have ⟨b, hbus, _⟩ := h.bus a hmem
    have ⟨b', hbus', _⟩ := h.bus a' hmem'
    simp only [hbus, hbus', Option.getD_some] at heq
    apply h.single a hmem a' hmem'
    rw [hbus, hbus', heq]

end Waiting

/-! ## After an accepted Register -/

/-- The anonymous node `a` has no connection and will not be taken out of its list. -/
structure Stale (a : NodeId) (s : Controller) : Prop where
  mem : a ∈ s.anonymousNodes
  link : s.links a = .down

namespace Stale

variable {a : NodeId}

lemma of_kept (h : Stale a s) (hmem : a ∈ s'.anonymousNodes)
    (hlink : s'.links a = s.links a ∨ s'.links a = .down) : Stale a s' := by
  refine ⟨hmem, ?_⟩
  rcases hlink with heq | heq
  · rw [heq, h.link]
  · exact heq

lemma step (h : Stale a s) (hcons : Consistent gap s) {e : Event} (hstep : s.step e = some s')
    (hrun : s'.stopped = false) : Stale a s' := by
  have hreg := hcons.registry
  have hmem := h.mem
  cases linkStep_of_step hcons (not_stop hstep hrun) hstep with
  | retains hretains => exact h.of_kept (hretains.anonymousNodes ▸ hmem) (hretains.link a)
  | refused hsame => exact h.of_kept (hsame.anonymousNodes ▸ hmem) (Or.inl (congrFun hsame.links a))
  | opens ho =>
    have hlt := hreg.fresh a (Or.inr hmem)
    apply h.of_kept
    · rw [ho.anonymousNodes]
      exact List.mem_append_left _ hmem
    · rw [ho.links, Function.update_of_ne (ne_of_lt hlt)]
      exact Or.inl rfl
  | @registers k _ name _ _ _ _ n _ _ _ htarget _ _ hmoved =>
    have ⟨_, hn, _⟩ := (registerTarget_eq_ok_iff hreg k n name).mp htarget
    have han : a ≠ n := by
      intro heq
      exact hreg.not_anonymous hn (heq ▸ hmem)
    apply h.of_kept (hmoved.anonymousNodes ▸ hmem)
    rw [hmoved.links]
    by_cases hak : a = k
    · rw [hak, Function.update_self]
      exact Or.inr rfl
    · rw [Function.update_of_ne hak, Function.update_of_ne han]
      exact Or.inl rfl
  | @leaves k _ name _ _ _ _ n _ _ _ htarget hleft =>
    have ⟨_, hn, _⟩ := (registerTarget_eq_ok_iff hreg k n name).mp htarget
    have han : a ≠ n := by
      intro heq
      exact hreg.not_anonymous hn (heq ▸ hmem)
    apply h.of_kept (hleft.anonymousNodes ▸ hmem)
    rw [hleft.links, Function.update_of_ne han]
    exact Or.inl rfl
  | @closes n _ hcloses =>
    -- no `Disconnected` comes for a node without a slot
    have ⟨_, hhandle⟩ := step_eq_some_iff.mp hstep
    have ⟨hslot, _⟩ := whenever_eq_some_iff.mp hhandle
    have han : a ≠ n := by
      intro heq
      have hdown : (s.links n).disconnectSlot = none := by
        rw [← heq, h.link]
        rfl
      rw [show (s.node n).disconnectSlot = none from hdown] at hslot
      cases hslot
    apply h.of_kept
    · rw [hcloses.anonymousNodes]
      exact (List.mem_erase_of_ne han).mpr hmem
    · exact hcloses.link a
  | thins hthins => exact h.of_kept (hthins.anonymousNodes ▸ hmem) (hthins.link a)

end Stale

/-- An accepted Register leaves the anonymous node behind. -/
lemma stale_of_accepts (hcons : Consistent gap s) {e : Event} (haccepts : s.Accepts e)
    (hstep : s.step e = some s') : ∃ a, Stale a s' := by
  cases e with
  | register a serial name now nowMonotonic peer fails =>
    have ⟨⟨n, htarget⟩, hfine⟩ := haccepts
    have ⟨_, hhandle⟩ := step_eq_some_iff.mp hstep
    have ⟨hslot, heq⟩ := whenever_eq_some_iff.mp hhandle
    have ⟨hunnamed, _, _, _, _⟩ := (registerTarget_eq_ok_iff hcons.registry a n name).mp htarget
    have hbus : (s.node a).agentBus ≠ none := by
      intro hnone
      rw [(hcons.detached a hnone).1] at hslot
      cases hslot
    have hout : a ∉ s.nodes := fun hmem => hcons.registry.named a hmem hunnamed
    have hanonymous := hcons.forListed.anonymous a hout hbus
    have ⟨bus, hsome⟩ := Option.ne_none_iff_exists'.mp hbus
    have hmoves := relinks_nodeMethodRegister hcons a serial name now nowMonotonic peer fails
    rw [heq] at hmoves
    rcases hmoves with ⟨_, hnot⟩ | ⟨_, _, _, _, ⟨_, hmoved⟩ | ⟨hmatch, _⟩⟩
    · exact absurd hfine (hnot n bus htarget hsome)
    · refine ⟨a, hmoved.anonymousNodes ▸ hanonymous, ?_⟩
      rw [hmoved.links, Function.update_self]
    · exact absurd hmatch hfine.1
  | _ => cases haccepts

/-! ## Runs -/

/-- The runs in which no Register is accepted. -/
def UnacceptedTrace (s₀ : Controller) (es : List Event) (s : Controller) : Prop :=
  Trace system (fun s e => ¬s.Accepts e) s₀ es s

lemma waiting_of_trace {s₀ : Controller} (hinit : system.init s₀) (h : UnacceptedTrace s₀ es s)
    (hrun : s.stopped = false) : Waiting s := by
  induction h with
  | nil =>
    have ⟨threshold, cfgs, heq⟩ := hinit
    have hnone : s₀.anonymousNodes = [] := by
      rw [heq, (Starting.start threshold cfgs).rest]
      rfl
    constructor
    · intro a ha
      rw [hnone] at ha
      cases ha
    · intro a ha
      rw [hnone] at ha
      cases ha
  | snoc htrace haccepts hstep ih =>
    have hrunning := (step_eq_some_iff.mp hstep).1
    have ⟨_, hcons⟩ := consistent_of_reachable (htrace.reachable hinit).reachable hrunning
    exact (ih hrunning).step hcons haccepts (linkStep_of_step hcons (not_stop hstep hrun) hstep)

/-- Either no Register was accepted, or some anonymous node is left behind. -/
lemma unaccepted_or_stale {s₀ : Controller} (hinit : system.init s₀)
    (h : Trace system (fun _ _ => True) s₀ es s) (hrun : s.stopped = false) :
    UnacceptedTrace s₀ es s ∨ ∃ a, Stale a s := by
  induction h with
  | nil => exact Or.inl .nil
  | @snoc es t e s' htrace _ hstep ih =>
    have hrunning := (step_eq_some_iff.mp hstep).1
    have ⟨_, hcons⟩ := consistent_of_reachable (htrace.reachable hinit) hrunning
    rcases ih hrunning with hbefore | ⟨a, hstale⟩
    · by_cases haccepts : t.Accepts e
      · exact Or.inr (stale_of_accepts hcons haccepts hstep)
      · exact Or.inl (.snoc hbefore haccepts hstep)
    · exact Or.inr ⟨a, hstale.step hcons hstep hrun⟩

/-- Every anonymous node has a connection that has not registered, and there are no more of them
than such connections, exactly as long as no Register has been accepted. -/
theorem noneStale_iff {s₀ : Controller} (hinit : system.init s₀)
    (h : Trace system (fun _ _ => True) s₀ es s) (hrun : s.stopped = false) :
    s.NoneStale ∧ s.anonymousNodes.length ≤ s.unregistered.card ∧
      (s.unregistered = ∅ → s.anonymousNodes = []) ↔ UnacceptedTrace s₀ es s := by
  have ⟨_, hcons⟩ := consistent_of_reachable (h.reachable hinit) hrun
  constructor
  · intro ⟨hnone, _⟩
    rcases unaccepted_or_stale hinit h hrun with hbefore | ⟨a, hstale⟩
    · exact hbefore
    · have ⟨b, _, hbus⟩ := hnone a hstale.mem
      have hdown : (s.links a).agentBus = none := by
        rw [hstale.link]
        rfl
      rw [show (s.links a).agentBus = some b from hbus] at hdown
      cases hdown
  · intro hbefore
    have hwaiting := waiting_of_trace hinit hbefore hrun
    have hlength := hwaiting.length_le hcons.registry
    refine ⟨fun a ha => hwaiting.mem_unregistered hcons.registry ha, hlength, fun hempty => ?_⟩
    rw [hempty, Finset.card_empty] at hlength
    exact List.length_eq_zero_iff.mp (Nat.le_zero.mp hlength)

/-- An agent connects to the controller with one node. -/
def acceptPeer : Event := .accept ⟨some none, none⟩ fun _ => false

/-- It registers. -/
def registerPeer : Event := .register 2 1 "n" 1 1 ⟨some none, none⟩ fun _ => false

/-- The anonymous node of a connection that has not registered. -/
theorem noneStale_acceptPeer : ∃ s, nodeAlone.step acceptPeer = some s ∧ s.NoneStale := by
  have hrun : (nodeAlone.step acceptPeer).map (·.stopped) = some false := by decide +kernel
  have ⟨s, hs, hrunning⟩ := Option.map_eq_some_iff.mp hrun
  have htrace : Trace system (fun _ _ => True) nodeAlone [acceptPeer] s := .snoc .nil trivial hs
  have hunaccepted : UnacceptedTrace nodeAlone [acceptPeer] s := .snoc .nil (fun h => h) hs
  exact ⟨s, hs, ((noneStale_iff ⟨0, _, rfl⟩ htrace hrunning).mpr hunaccepted).1⟩

/-- The only connection has registered, and its anonymous node is still in the list. -/
theorem stale_registerPeer : ¬∀ s, Reachable system s → s.stopped = false →
    (∀ a ∈ s.anonymousNodes, (s.node a).agentBus ≠ none) ∧
      s.anonymousNodes.length ≤ s.unregistered.card := by
  intro hall
  have hrun : (run system nodeAlone [acceptPeer, registerPeer]).map
      (fun s => (s.stopped, s.anonymousNodes, (s.node 2).agentBus)) = some (false, [2], none) := by
    decide +kernel
  have ⟨s, hs, hread⟩ := Option.map_eq_some_iff.mp hrun
  simp only [Prod.mk.injEq] at hread
  have ⟨hrunning, hanonymous, hnone⟩ := hread
  have ⟨hlive, _⟩ := hall s (Reachable.run (.init ⟨0, _, rfl⟩) hs) hrunning
  exact hlive 2 (by simp [hanonymous]) hnone

end Controller
end BlueChi
