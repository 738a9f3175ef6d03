import BlueChi.Controller.Addressing
import BlueChi.Controller.JobTimes
import BlueChi.Pairing.System

/-!
# What the agent has handled

On the connection that the agent has open the controller's calls are handled in the order in which
they were sent, each of them once: the calls sent so far are those that the agent has handled since
it opened the connection, followed by those in the queue (`handled_of_within`). So a set that the
controller keeps and its agent follows is the same on both sides once the queue is empty, but for what
the agent kept from an earlier connection (`Mirror.agrees`).
-/

namespace BlueChi
namespace Pairing

open Execution MethodReplies Controller

/-! ## Runs of the controller -/

/-- The events of the controller meet `ok`, and the agent handles its calls as `handling` says. -/
def PairEvent.Within (t : NodeId) (ok : Event → Prop) (handling : Handling → Prop) : PairEvent → Prop
  | .controller e => ok e
  | .connect peer fails => ok (.accept peer fails)
  | .handle h => handling h
  | .arrive bus now sync => ∀ message e, incoming t bus now sync message = some e → ok e
  | _ => True

/-- The runs whose events meet the two conditions. -/
def ReachableWithin (t : NodeId) (ok : Event → Prop) (handling : Handling → Prop) : State → Prop :=
  ReachableUnder (pairSystem t) fun _ e => e.Within t ok handling

variable {t : NodeId} {ok : Event → Prop} {handling : Handling → Prop} {x y : State}

namespace State

lemma onController_eq_some_iff {e : Event} : x.onController t e = some y ↔
    ∃ s, x.controller.step e = some s ∧ y = { x with
      controller := s
      toAgent := fun b => x.toAgent b ++ callsOn t b (s.log.drop x.controller.log.length) } := by
  unfold onController
  rw [Option.map_eq_some_iff]
  constructor
  · rintro ⟨s, hs, rfl⟩
    exact ⟨s, hs, rfl⟩
  · rintro ⟨s, hs, rfl⟩
    exact ⟨s, hs, rfl⟩

/-- What a step does, seen from the controller: it handles an event and its calls enter the queues, or
it stays. -/
inductive Effect (t : NodeId) (ok : Event → Prop) (handling : Handling → Prop) (x : State) : State → Prop
  /-- The controller handles an event. -/
  | controller {e : Event} {s : Controller} {toController : BusId → List Sent} :
      ok e → x.controller.step e = some s →
      Effect t ok handling x { x with
        controller := s
        toAgent := fun b => x.toAgent b ++ callsOn t b (s.log.drop x.controller.log.length)
        toController := toController }
  /-- The agent opens a connection. -/
  | connect {peer : PeerInfo} {fails : BusCall → Bool} {s : Controller} :
      ok (.accept peer fails) → x.controller.step (.accept peer fails) = some s →
      Effect t ok handling x { x with
        controller := s
        toAgent := fun b => x.toAgent b ++ callsOn t b (s.log.drop x.controller.log.length)
        peerDbus := some (x.controller.nextPtr + 1)
        opened := x.site }
  /-- The agent handles the first call in its queue. -/
  | handle {h : Handling} {b : BusId} {call : AgentCall} {calls : List AgentCall} :
      handling h → x.peerDbus = some b → x.toAgent b = call :: calls →
      Effect t ok handling x ({ x with
        toAgent := Function.update x.toAgent b calls }.withSite (x.site.onCall h call))
  /-- systemd has news for the agent. -/
  | systemd {e : SystemdEvent} {site : Site} : x.site.onSystemd e = some site →
      Effect t ok handling x (x.withSite site)
  /-- The agent has no connection any more. -/
  | gone {site : Site} : Effect t ok handling x { x with site := site, peerDbus := none }
  /-- The controller passes over a message. -/
  | passed {toController : BusId → List Sent} :
      Effect t ok handling x { x with toController := toController }

lemma effect_of_step {e : PairEvent} (hwithin : e.Within t ok handling) (hstep : x.step t e = some y) :
    Effect t ok handling x y := by
  cases e with
  | controller e =>
    obtain ⟨s, hs, rfl⟩ := onController_eq_some_iff.mp hstep
    exact .controller hwithin hs
  | connect peer fails =>
    simp only [step, Option.ite_none_right_eq_some, Option.map_eq_some_iff] at hstep
    obtain ⟨_, z, hz, rfl⟩ := hstep
    obtain ⟨s, hs, rfl⟩ := onController_eq_some_iff.mp hz
    exact .connect hwithin hs
  | close =>
    rw [← Option.some.inj hstep]
    exact .gone
  | restart units =>
    simp only [step, Option.map_eq_some_iff] at hstep
    obtain ⟨agent, _, rfl⟩ := hstep
    exact .gone
  | handle h =>
    simp only [step, onHandle, Option.bind_eq_some_iff] at hstep
    obtain ⟨b, hb, hstep⟩ := hstep
    split at hstep
    · cases hstep
    · rename_i call calls hcalls
      rw [← Option.some.inj hstep]
      exact .handle hwithin hb hcalls
  | arrive bus now sync =>
    simp only [step, onArrive] at hstep
    split at hstep
    · cases hstep
    · rename_i message messages _
      rw [← Option.some.inj hstep]
      cases hin : (incoming t bus now sync message).bind (({ x with
          toController := Function.update x.toController bus messages } : State).onController t) with
      | none => exact .passed
      | some z =>
        obtain ⟨e, he, hz⟩ := Option.bind_eq_some_iff.mp hin
        obtain ⟨s, hs, rfl⟩ := onController_eq_some_iff.mp hz
        exact .controller (hwithin message e he) hs
  | systemd e =>
    simp only [step, Option.map_eq_some_iff] at hstep
    obtain ⟨site, hsite, rfl⟩ := hstep
    exact .systemd hsite

end State

/-- The controller's part of a run is a run of the controller. -/
theorem controller_reachable (h : ReachableWithin t ok handling x) :
    ReachableUnder Controller.system (fun _ e => ok e) x.controller := by
  induction h with
  | init hinit => exact .init hinit.1
  | step _ hwithin hstep ih =>
    cases State.effect_of_step hwithin hstep with
    | controller hok hs => exact ih.step hok hs
    | connect hok hs => exact ih.step hok hs
    | _ => exact ih

/-- The node stays listed until the controller stops. -/
lemma listed_of_within (h : ReachableWithin t ok handling x) (hrun : x.controller.stopped = false) :
    t ∈ x.controller.nodes := by
  induction h with
  | init hinit => exact hinit.2.1
  | step _ hwithin hstep ih =>
    have hkept : ∀ {e : Event} {s s' : Controller}, s.step e = some s' → s'.stopped = false →
        (s.stopped = false → t ∈ s.nodes) → t ∈ s'.nodes := by
      intro e s s' hs hrun ih
      rw [nodes_of_step (not_stop hs hrun) hs]
      exact ih (step_eq_some_iff.mp hs).1
    cases State.effect_of_step hwithin hstep with
    | controller _ hs => exact hkept hs hrun ih
    | connect _ hs => exact hkept hs hrun ih
    | _ => exact ih hrun

/-! ## The queue of calls -/

/-- The agent's side becomes another one by handling the calls, one after the other, with news of
systemd in between. A notice is for a proxy. -/
inductive Evolves (handling : Handling → Prop) (site : Site) : List AgentCall → Site → Prop
  | refl : Evolves handling site [] site
  | handle {calls : List AgentCall} {site' : Site} {h : Handling} {call : AgentCall} :
      Evolves handling site calls site' → handling h →
      Evolves handling site (calls ++ [call]) (site'.onCall h call)
  | notice {calls : List AgentCall} {site' : Site} {call : AgentCall} :
      Evolves handling site calls site' → call.kind = .notice →
      Evolves handling site (calls ++ [call]) site'
  | systemd {calls : List AgentCall} {site' site'' : Site} {e : SystemdEvent} :
      Evolves handling site calls site' → site'.onSystemd e = some site'' →
      Evolves handling site calls site''

lemma Evolves.of_notices {site : Site} {calls : List AgentCall}
    (hcalls : ∀ call ∈ calls, call.kind = .notice) : Evolves handling site calls site := by
  induction calls using List.reverseRecOn with
  | nil => exact .refl
  | append_singleton calls call ih =>
    have hlast := hcalls call (List.mem_append_right _ (List.mem_singleton.mpr rfl))
    exact .notice (ih fun c hc => hcalls c (List.mem_append_left _ hc)) hlast

/-- The calls that the controller has sent on a connection are those that were handled or lost, and
then those in the queue. On the connection that the agent has open they were all handled since. -/
structure Handled (t : NodeId) (handling : Handling → Prop) (x : State) : Prop where
  queued : ∀ b, ∃ done, callsOn t b x.controller.log = done ++ x.toAgent b
  evolved : ∀ b, x.peerDbus = some b → ∃ done, callsOn t b x.controller.log = done ++ x.toAgent b ∧
    Evolves handling x.opened done x.site

/-- Every event adds to the log. -/
lemma log_of_step {gap : ℤ} {s s' : Controller} (hcons : Consistent gap s) (ht : t ∈ s.nodes)
    {e : Event} (hstep : s.step e = some s') : ∃ l, s'.log = s.log ++ l := by
  by_cases hstop : ∀ sync, e ≠ .stop sync
  · obtain ⟨_, _, _, l, hlog, _⟩ := follows_of_step hcons ht hstop hstep
    exact ⟨l, hlog⟩
  · push Not at hstop
    obtain ⟨sync, rfl⟩ := hstop
    obtain ⟨l, hlog, _⟩ := controllerStop_log sync s
    rw [← Option.some.inj (step_eq_some_iff.mp hstep).2]
    exact ⟨l, hlog⟩

/-- What was sent before an event, and the queue, are extended by the same calls. -/
lemma queued_extends {s s' : Controller} {l : List Output} (hlog : s'.log = s.log ++ l) {b : BusId}
    {done queue : List AgentCall} (hqueue : callsOn t b s.log = done ++ queue) :
    callsOn t b s'.log = done ++ (queue ++ callsOn t b (s'.log.drop s.log.length)) := by
  rw [hlog, List.drop_left, callsOn_append, hqueue, List.append_assoc]

theorem handled_of_within (hok : ∀ e, ok e → e.AttachesCleanly)
    (h : ReachableWithin t ok handling x) : Handled t handling x := by
  induction h with
  | init hinit =>
    obtain ⟨⟨threshold, cfgs, heq⟩, _, _, _, _, _, hbus, _, hqueue, _⟩ := hinit
    refine ⟨fun b => ⟨[], ?_⟩, fun b hb => ?_⟩
    · rw [heq, hqueue, (Starting.start threshold cfgs).rest]
      rfl
    · rw [hbus] at hb
      cases hb
  | @step x e y hreach hwithin hstep ih =>
    have hclean : ReachableUnder Controller.system (fun _ e => e.AttachesCleanly) x.controller :=
      (controller_reachable hreach).mono fun _ => hok
    -- an event of the controller
    have hevent : ∀ {e : Event} {s : Controller}, x.controller.step e = some s →
        x.controller.stopped = false ∧ t ∈ x.controller.nodes ∧ ∃ l, s.log = x.controller.log ++ l := by
      intro e s hs
      have hrun := (step_eq_some_iff.mp hs).1
      have ht := listed_of_within hreach hrun
      exact ⟨hrun, ht, log_of_step (consistent_of_clean hclean hrun) ht hs⟩
    cases State.effect_of_step hwithin hstep with
    | controller _ hs =>
      obtain ⟨_, _, l, hlog⟩ := hevent hs
      refine ⟨fun b => ?_, fun b hb => ?_⟩
      · obtain ⟨done, hdone⟩ := ih.queued b
        exact ⟨done, queued_extends hlog hdone⟩
      · obtain ⟨done, hdone, hevolves⟩ := ih.evolved b hb
        exact ⟨done, queued_extends hlog hdone, hevolves⟩
    | connect _ hs =>
      obtain ⟨hrun, ht, l, hlog⟩ := hevent hs
      refine ⟨fun b => ?_, fun b hb => ?_⟩
      · obtain ⟨done, hdone⟩ := ih.queued b
        exact ⟨done, queued_extends hlog hdone⟩
      · obtain rfl : x.controller.nextPtr + 1 = b := Option.some.inj hb
        obtain ⟨done, hdone⟩ := ih.queued (x.controller.nextPtr + 1)
        -- the address is new, so nothing but notices was said there
        have hfree : ¬Spent (x.controller.nextPtr + 1) x.controller := fun hspent =>
          absurd hspent.old (Nat.not_lt.mpr (Nat.le_succ _))
        have hfresh := fresh_of_clean hclean hrun ht hfree
        refine ⟨done, queued_extends hlog hdone, Evolves.of_notices fun call hcall => ?_⟩
        exact hfresh call (hdone ▸ List.mem_append_left _ hcall)
    | @handle h b call calls hhandling hbus hqueue =>
      have hmoved : ∀ b' {done : List AgentCall},
          callsOn t b' x.controller.log = done ++ x.toAgent b' →
          callsOn t b' x.controller.log =
            (if b' = b then done ++ [call] else done) ++ Function.update x.toAgent b calls b' := by
        intro b' done hdone
        by_cases hb : b' = b
        · rw [if_pos hb, hb, Function.update_self, List.append_assoc, List.singleton_append, ← hqueue,
            ← hb, hdone]
        · rw [if_neg hb, Function.update_of_ne hb, hdone]
      refine ⟨fun b' => ?_, fun b' hb' => ?_⟩
      · obtain ⟨done, hdone⟩ := ih.queued b'
        exact ⟨_, hmoved b' hdone⟩
      · obtain rfl : b = b' := Option.some.inj (hbus.symm.trans hb')
        obtain ⟨done, hdone, hevolves⟩ := ih.evolved b hbus
        refine ⟨done ++ [call], ?_, hevolves.handle hhandling⟩
        have hmoved := hmoved b hdone
        rwa [if_pos rfl] at hmoved
    | systemd hsite =>
      refine ⟨ih.queued, fun b hb => ?_⟩
      obtain ⟨done, hdone, hevolves⟩ := ih.evolved b hb
      exact ⟨done, hdone, hevolves.systemd hsite⟩
    | gone => exact ⟨ih.queued, fun b hb => by cases hb⟩
    | passed => exact ⟨ih.queued, ih.evolved⟩

/-! ## An agent that connects -/

/-- The agent of a node has started, and knows no units. -/
def beside (controller : Controller) : State where
  controller := controller
  site := ⟨⟨agentNew, [], []⟩, []⟩
  peerDbus := none
  opened := ⟨⟨agentNew, [], []⟩, []⟩
  toAgent _ := []
  toController _ := []

lemma beside_init {threshold : ℤ} {cfgs : List NodeConfig} (ht : t ∈ (start threshold cfgs).nodes) :
    (pairSystem t).init (beside (start threshold cfgs)) :=
  ⟨⟨threshold, cfgs, rfl⟩, ht, ⟨[], rfl⟩, rfl, rfl, rfl, rfl, rfl, rfl, rfl⟩

/-- The agent connects and registers. -/
def registersFirst : List PairEvent :=
  [.connect ⟨some none, none⟩ fun _ => false,
    .controller (.register 2 1 "n" 1 1 ⟨some none, none⟩ fun _ => false)]

/-- A client subscribes to a unit, and the agent hears of it. -/
def hearsOfSubscription : List PairEvent :=
  registersFirst ++ [.controller (.createMonitor 2 ":1.7" true),
    .controller (.subscribe 4 3 "n" ["a.service"]), .handle ⟨none, 1, .listUnits⟩]

lemma hearsOfSubscription_guarded :
    GuardedRun (pairSystem 1) (fun _ e => e.Within 1 (·.AttachesCleanly) fun _ => True)
      (beside (start 0 [⟨"n", none, []⟩])) hearsOfSubscription := by
  have hclean : ¬MatchFails fun _ => false := by simp [MatchFails]
  exact ⟨trivial, fun _ _ => ⟨hclean, fun _ _ => ⟨trivial, fun _ _ => ⟨trivial, fun _ _ =>
    ⟨trivial, fun _ _ => trivial⟩⟩⟩⟩⟩

lemma hearsOfSubscription_within : ReachableWithin 1 (·.AttachesCleanly) (fun _ => True)
    (beside (start 0 [⟨"n", none, []⟩])) := .init (beside_init (by decide +kernel))

/-- The agent has handled the one call on its connection. -/
theorem handled_of_within_hearsOfSubscription : ∃ x,
    run (pairSystem 1) (beside (start 0 [⟨"n", none, []⟩])) hearsOfSubscription = some x ∧
      callsOn 1 3 x.controller.log = [.subscribe "a.service"] ∧ x.toAgent 3 = [] ∧
        Handled 1 (fun _ => True) x := by
  have hread : (run (pairSystem 1) (beside (start 0 [⟨"n", none, []⟩])) hearsOfSubscription).map
      (fun x => (callsOn 1 3 x.controller.log, x.toAgent 3)) = some ([.subscribe "a.service"], []) := by
    decide +kernel
  obtain ⟨x, hx, hfacts⟩ := Option.map_eq_some_iff.mp hread
  obtain ⟨hcalls, hqueue⟩ := Prod.mk.inj hfacts
  have hreach := hearsOfSubscription_within.run hearsOfSubscription_guarded hx
  exact ⟨x, hx, hcalls, hqueue, handled_of_within (fun _ => id) hreach⟩

end Pairing
end BlueChi
