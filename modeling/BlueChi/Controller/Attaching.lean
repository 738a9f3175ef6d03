import BlueChi.Controller.Runs

/-!
# Attaching an agent is not atomic

`node_set_agent_bus` stores the connection before it makes the registrations on it. Two of its
error paths take the connection out again, the ones of the object of an anonymous node and of the
match of `Disconnected`. The signal matches of a named node return at once.
-/

namespace BlueChi

open Execution

namespace Controller

variable {s : Controller}

/-! ## One call -/

/-- What `node_set_agent_bus` leaves when it returns `false`: the node is as before the call, so
one without an agent has none again. -/
def AttachUndone (s : Controller) (n : NodeId) (result : Bool × Controller) : Prop :=
  result.1 = false → result.2.node n = s.node n

/-- A node without a connection keeps nothing of one that was stored and dropped. -/
lemma detachedNode_storeAgentBus {node : Node} (hnode : node.Detached)
    (hagent : node.agentBus = none) (bus : BusId) (peer : PeerInfo) :
    detachedNode (storeAgentBus bus peer node) = node := by
  have ⟨hinternal, hslot, hmetrics, hip, hcontext⟩ := hnode hagent
  -- what was stored is one of the fields that are cleared
  show { node with
    disconnectSlot := none, internalControllerSlot := none, metricsMatchingSlot := none,
    agentBus := none, peerSelinuxContext := none, peerIp := none } = node
  cases node
  simp_all

/-- A match that fails keeps the connection. -/
lemma nodeSetAgentBus_of_matchFails {n : NodeId} (hname : (s.node n).name ≠ none)
    (hagent : nodeHasAgent (s.node n) = false) (bus : BusId) (peer : PeerInfo)
    (fails : BusCall → Bool) (hfail : MatchFails fails) :
    (s.nodeSetAgentBus n bus peer fails).1 = false ∧
      (s.nodeSetAgentBus n bus peer fails).2.node n = storeAgentBus bus peer (s.node n) := by
  have hself : (s.modifyNode n (storeAgentBus bus peer)).node n =
      storeAgentBus bus peer (s.node n) := by simp
  unfold nodeSetAgentBus
  rw [if_neg (by simp [hagent])]
  unfold nodeAddRegistrations
  rw [hself, if_neg (show (storeAgentBus bus peer (s.node n)).name ≠ none from hname)]
  have hrest := Consistent.addMatches_rest n bus fails firstMembers
    (s.modifyNode n (storeAgentBus bus peer))
  have hfst := Consistent.addMatches_fst n bus fails firstMembers
    (s.modifyNode n (storeAgentBus bus peer))
  generalize addMatches n bus fails firstMembers (s.modifyNode n (storeAgentBus bus peer)) = result
    at hrest hfst ⊢
  have ⟨ok, t⟩ := result
  simp only at hrest hfst
  cases ok with
  | false =>
    simp only [true_and]
    rw [hrest]
    exact hself
  | true =>
    have hrest' := Consistent.addMatches_rest n bus fails [.heartbeat] (t.emit (.nodeStatus n (nodeGetStatus (t.node n))))
    have hfst' := Consistent.addMatches_fst n bus fails [.heartbeat] (t.emit (.nodeStatus n (nodeGetStatus (t.node n))))
    simp only
    generalize addMatches n bus fails [.heartbeat] (t.emit (.nodeStatus n (nodeGetStatus (t.node n)))) = result
      at hrest' hfst' ⊢
    have ⟨ok, u⟩ := result
    simp only at hrest' hfst'
    cases ok with
    | false =>
      simp only [true_and]
      rw [hrest', emit_node, hrest]
      exact hself
    | true =>
      -- then no match has failed
      have ⟨member, hmem, hbad⟩ := hfail
      have hgood : fails (.matchSignal member) = false := by
        apply (List.mem_append.mp hmem).elim
        · exact hfst.mp rfl member
        · exact hfst'.mp rfl member
      simp [hgood] at hbad

/-- Without a failed match the connection is dropped on an error. -/
lemma attachUndone_of_not_matchFails (hdetached : ∀ n, (s.node n).Detached) {n : NodeId}
    (hagent : nodeHasAgent (s.node n) = false) (bus : BusId) (peer : PeerInfo)
    {fails : BusCall → Bool} (hfine : (s.node n).name = none ∨ ¬MatchFails fails) :
    AttachUndone s n (s.nodeSetAgentBus n bus peer fails) := by
  have hbus : (s.node n).agentBus = none := by simpa [nodeHasAgent] using hagent
  have hundone := detachedNode_storeAgentBus (hdetached n) hbus bus peer
  have hself : (s.modifyNode n (storeAgentBus bus peer)).node n =
      storeAgentBus bus peer (s.node n) := by simp
  unfold AttachUndone nodeSetAgentBus
  rw [if_neg (by simp [hagent])]
  unfold nodeAddRegistrations
  rw [hself]
  by_cases hname : (s.node n).name = none
  · rw [if_pos (show (storeAgentBus bus peer (s.node n)).name = none from hname)]
    by_cases hvtable : fails .internalVtable = true
    · rw [if_pos hvtable]
      intro _
      rw [nodeUnsetAgentBus_node, Function.update_self, hself, hundone]
    · rw [if_neg hvtable]
      simp only
      split
      · intro _
        rw [nodeUnsetAgentBus_node, Function.update_self, modifyNode_node, Function.update_self,
          hself]
        -- the object goes with the connection
        exact hundone
      · intro hfalse
        simp at hfalse
  · rw [if_neg (show (storeAgentBus bus peer (s.node n)).name ≠ none from hname)]
    have hnone := hfine.resolve_left hname
    have hgood : ∀ member ∈ firstMembers ++ [.heartbeat], fails (.matchSignal member) = false := by
      intro member hmem
      by_contra hbad
      exact hnone ⟨member, hmem, by simpa using hbad⟩
    have hrest := Consistent.addMatches_rest n bus fails firstMembers
      (s.modifyNode n (storeAgentBus bus peer))
    have hfst := (Consistent.addMatches_fst n bus fails firstMembers
      (s.modifyNode n (storeAgentBus bus peer))).mpr fun member hmem =>
        hgood member (List.mem_append_left _ hmem)
    generalize addMatches n bus fails firstMembers (s.modifyNode n (storeAgentBus bus peer)) =
      result at hrest hfst ⊢
    obtain ⟨ok, t⟩ := result
    simp only at hrest hfst
    subst hfst
    simp only
    have hrest' := Consistent.addMatches_rest n bus fails [.heartbeat] (t.emit (.nodeStatus n (nodeGetStatus (t.node n))))
    have hfst' := (Consistent.addMatches_fst n bus fails [.heartbeat]
      (t.emit (.nodeStatus n (nodeGetStatus (t.node n))))).mpr fun member hmem => hgood member (List.mem_append_right _ hmem)
    generalize addMatches n bus fails [.heartbeat] (t.emit (.nodeStatus n (nodeGetStatus (t.node n)))) = result
      at hrest' hfst' ⊢
    obtain ⟨ok, u⟩ := result
    simp only at hrest' hfst'
    subst hfst'
    simp only
    split
    · intro _
      rw [nodeUnsetAgentBus_node, Function.update_self, hrest', emit_node, hrest]
      show detachedNode ((s.modifyNode n (storeAgentBus bus peer)).node n) = s.node n
      rw [hself, hundone]
    · intro hfalse
      simp at hfalse

/-- The exact condition for one call. -/
lemma attachUndone_iff (hdetached : ∀ n, (s.node n).Detached) {n : NodeId}
    (hagent : nodeHasAgent (s.node n) = false) (bus : BusId) (peer : PeerInfo)
    (fails : BusCall → Bool) :
    AttachUndone s n (s.nodeSetAgentBus n bus peer fails) ↔
      (s.node n).name = none ∨ ¬MatchFails fails := by
  constructor
  · intro hundone
    by_contra hnot
    push Not at hnot
    have ⟨hfalse, hleft⟩ := nodeSetAgentBus_of_matchFails hnot.1 hagent bus peer fails hnot.2
    have hbus : nodeHasAgent (storeAgentBus bus peer (s.node n)) = false := by
      rw [← hleft, hundone hfalse, hagent]
    simp [nodeHasAgent, storeAgentBus] at hbus
  · exact attachUndone_of_not_matchFails hdetached hagent bus peer

/-! ## A refused Register -/

/-- The clocks that `node_method_register` sets on the named node before it attaches the
connection. -/
def seenAt (s : Controller) (n : NodeId) (now nowMonotonic : UInt64) : Controller :=
  s.modifyNode n fun node => { node with lastSeen := now, lastSeenMonotonic := nowMonotonic }

/-- Every name can be registered as before, by the same connections. -/
def SameNames (s s' : Controller) : Prop :=
  ∀ a name, s'.registerTarget a name = s.registerTarget a name

/-- What `registerTarget` reads. -/
lemma sameNames_of_nodes {s' : Controller} (hnodes : s'.nodes = s.nodes)
    (hnode : ∀ k, s'.node k = { s.node k with
      lastSeen := (s'.node k).lastSeen, lastSeenMonotonic := (s'.node k).lastSeenMonotonic }) :
    SameNames s s' := by
  intro a name
  have hname : ∀ k, (s'.node k).name = (s.node k).name := fun k => by rw [hnode k]
  have hrequired : ∀ k, (s'.node k).requiredSelinuxContext = (s.node k).requiredSelinuxContext :=
    fun k => by rw [hnode k]
  have hcontext : ∀ k, (s'.node k).peerSelinuxContext = (s.node k).peerSelinuxContext :=
    fun k => by rw [hnode k]
  have hagent : ∀ k, nodeHasAgent (s'.node k) = nodeHasAgent (s.node k) := fun k => by
    rw [hnode k]
    rfl
  have hfind : s'.findNode name = s.findNode name := by
    unfold findNode
    rw [hnodes]
    simp only [hname]
  unfold registerTarget
  rw [hname, hfind]
  simp only [hrequired, hcontext, hagent]

/-- A Register that fails to attach its connection leaves all names registrable unless a match
has failed, and then the name that it asked for is taken. -/
lemma sameNames_iff {gap : ℤ} (h : Consistent gap s) {a n : NodeId} {bus : BusId} {name : String}
    (htarget : s.registerTarget a name = .ok n) (hbus : (s.node a).agentBus = some bus)
    (serial : Serial) (now nowMonotonic : UInt64) (peer : PeerInfo) (fails : BusCall → Bool)
    (hrefused : ((s.seenAt n now nowMonotonic).nodeSetAgentBus n bus peer fails).1 = false) :
    SameNames s (s.nodeMethodRegister a serial name now nowMonotonic peer fails) ↔
      ¬MatchFails fails := by
  have ⟨_, hn, hname, hagent, _⟩ := (registerTarget_eq_ok_iff h.registry a n name).mp htarget
  have hclock : CoreFrame s (s.seenAt n now nowMonotonic) :=
    coreFrame_modifyNode s n ⟨rfl, fun _ => rfl, id⟩
  have hseen := h.of_frame hclock
  have hseen_self : (s.seenAt n now nowMonotonic).node n =
      { s.node n with lastSeen := now, lastSeenMonotonic := nowMonotonic } := by simp [seenAt]
  have hseen_agent : nodeHasAgent ((s.seenAt n now nowMonotonic).node n) = false := by
    rw [hseen_self]
    exact hagent
  have hseen_name : ((s.seenAt n now nowMonotonic).node n).name ≠ none := by
    rw [hseen_self]
    simp [hname]
  have hattach := nodeSetAgentBus_named hseen hn hseen_agent bus peer fails
  have hiff := attachUndone_iff hseen.detached hseen_agent bus peer fails
  have hleft := nodeSetAgentBus_of_matchFails hseen_name hseen_agent bus peer fails
  -- the handler ends with the error reply
  have hresult : s.nodeMethodRegister a serial name now nowMonotonic peer fails =
      ((s.seenAt n now nowMonotonic).nodeSetAgentBus n bus peer fails).2.emit
        (.replyError serial "Internal error: Couldn't set agent bus") := by
    unfold nodeMethodRegister
    rw [htarget, hbus]
    simp only
    rw [← seenAt]
    generalize (s.seenAt n now nowMonotonic).nodeSetAgentBus n bus peer fails = result at hrefused ⊢
    have ⟨ok, t⟩ := result
    simp only at hrefused
    subst hrefused
    rfl
  rw [hresult]
  generalize (s.seenAt n now nowMonotonic).nodeSetAgentBus n bus peer fails = result
    at hattach hiff hleft hrefused ⊢
  constructor
  · intro hsame hfail
    have htaken := hsame a name
    rw [htarget] at htaken
    have ⟨_, _, _, hfree, _⟩ := (registerTarget_eq_ok_iff
      (hattach.consistent.of_frame (coreFrame_emit _ _)).registry a n name).mp htaken
    rw [emit_node, (hleft hfail).2] at hfree
    simp [nodeHasAgent, storeAgentBus] at hfree
  · intro hfine
    apply sameNames_of_nodes
    · exact hattach.keeps.1
    · intro k
      rw [emit_node]
      by_cases hk : k = n
      · rw [hk, hiff.mpr (Or.inr hfine) hrefused, hseen_self]
      · rw [hattach.others k hk]
        simp [seenAt, hk]

/-! ## Runs -/

/-- The number of named nodes that have a connection. -/
def connectedNodes (s : Controller) : ℕ := s.nodes.countP fun n => nodeHasAgent (s.node n)

/-- A failed attach of a connection is undone exactly when no signal match of a named node has
failed. As long as none fails, the counter of online nodes counts the connections. -/
theorem attach_undone (h : Reachable system s) (hrun : s.stopped = false) :
    (∀ n, nodeHasAgent (s.node n) = false → ∀ bus peer fails,
      (AttachUndone s n (s.nodeSetAgentBus n bus peer fails) ↔
        (s.node n).name = none ∨ ¬MatchFails fails)) ∧
    (∀ a n bus name, s.registerTarget a name = .ok n → (s.node a).agentBus = some bus →
      ∀ serial now nowMonotonic peer fails,
        ((s.seenAt n now nowMonotonic).nodeSetAgentBus n bus peer fails).1 = false →
          (SameNames s (s.nodeMethodRegister a serial name now nowMonotonic peer fails) ↔
            ¬MatchFails fails)) ∧
    (ReachableUnder system (fun _ e => e.AttachesCleanly) s →
      s.numberOfNodesOnline = s.connectedNodes) := by
  have ⟨gap, hgap⟩ := consistent_of_reachable h hrun
  refine ⟨fun n hagent bus peer fails => ?_, fun a n bus name htarget hbus serial now nowMonotonic
    peer fails hrefused => ?_, fun hclean => ?_⟩
  · exact attachUndone_iff hgap.detached hagent bus peer fails
  · exact sameNames_iff hgap htarget hbus serial now nowMonotonic peer fails hrefused
  · have honline := (consistent_of_clean hclean hrun).connected.online
    rw [connectedNodes, ← honline, add_zero]

/-- A controller with one node. -/
def nodeAlone : Controller := start 0 [⟨"n", none, []⟩]

/-- The match of `UnitNew` fails. -/
def unitNewFails : BusCall → Bool := fun call => call = .matchSignal .unitNew

/-- The match of `Disconnected` fails. -/
def disconnectedFails : BusCall → Bool := fun call => call = .matchDisconnected

/-- The connection is dropped again when the match of `Disconnected` fails. -/
theorem attach_undone_disconnectedFails :
    AttachUndone nodeAlone 1 (nodeAlone.nodeSetAgentBus 1 5 ⟨some none, none⟩ disconnectedFails) ∧
      nodeAlone.numberOfNodesOnline = nodeAlone.connectedNodes := by
  have hinit : system.init nodeAlone := ⟨0, _, rfl⟩
  have ⟨hcall, _, hruns⟩ := attach_undone (.init hinit) rfl
  refine ⟨(hcall 1 rfl 5 ⟨some none, none⟩ disconnectedFails).mpr (Or.inr ?_), hruns (.init hinit)⟩
  intro hfail
  have ⟨member, _, hbad⟩ := hfail
  simp [disconnectedFails] at hbad

/-- A match that fails leaves the connection in the node, so the name stays taken. -/
theorem attach_not_undone : ¬∀ s n bus peer fails, Reachable system s →
    nodeHasAgent (s.node n) = false → AttachUndone s n (s.nodeSetAgentBus n bus peer fails) := by
  intro hall
  have hundone := hall nodeAlone 1 5 ⟨some none, none⟩ unitNewFails (.init ⟨0, _, rfl⟩) rfl rfl
  have hbus := congrArg Node.agentBus hundone
  simp [nodeAlone, start, applyNodeConfig, findNode, addNode, nodeAlloc, controllerNew, nodeNew,
    nodeSetAgentBus, nodeAddRegistrations, unitNewFails, firstMembers, addMatches, addMatch,
    nodeHasAgent, storeAgentBus] at hbus

end Controller
end BlueChi
