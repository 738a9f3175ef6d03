import Mathlib.Data.List.Perm.Subperm
import BlueChi.Agent.ProxyMemory

/-!
# The assertions about proxies

Between two events each listed proxy is held by the list alone, and all others are freed; while
one of its methods runs a proxy has one holder more (`Kept`). So each proxy is in the list when it
is removed, has no links when it is freed, and leaves the list once. Of the assertions only the
one about the open request can fail: exactly when an error reaches a proxy that was answered.
-/

namespace BlueChi

open Execution

namespace ProxyMemory

variable {m : ProxyMemory} {ptrs xs ys : List ℕ} {ptr : ℕ} {holder : Option ℕ}

/-! ## Counts and links -/

/-- The list holds the proxies `ptrs`, a running method holds one, and nothing else is there. -/
structure Kept (m : ProxyMemory) (ptrs : List ℕ) (holder : Option ℕ) : Prop where
  list : m.list.Represents ptrs
  unlinked : ∀ a, a ∉ ptrs → m.list.next a = none ∧ m.list.prev a = none
  listed : ∀ a ∈ ptrs, m.objects a = some ⟨if holder = some a then 2 else 1, true⟩
  held : ∀ a, a ∉ ptrs → holder = some a → ∃ agent, m.objects a = some ⟨1, agent⟩
  freed : ∀ a, a ∉ ptrs → holder ≠ some a → m.objects a = none

lemma object_eq {o : ProxyObject} (h : m.objects ptr = some o) : m.object ptr = .ok o := by
  unfold object
  rw [h]

lemma proxyServiceRef_eq {o : ProxyObject} (h : m.objects ptr = some o) :
    m.proxyServiceRef ptr = .ok (m.put ptr (some ⟨o.refCount + 1, o.agent⟩)) := by
  unfold proxyServiceRef
  rw [object_eq h]
  rfl

lemma proxyServiceUnref_eq {o : ProxyObject} (h : m.objects ptr = some o) :
    m.proxyServiceUnref ptr =
      if o.refCount - 1 ≠ 0 then .ok (m.put ptr (some ⟨o.refCount - 1, o.agent⟩))
      else if m.list.next ptr = none ∧ m.list.prev ptr = none then .ok (m.put ptr none)
      else .error .unref := by
  unfold proxyServiceUnref
  rw [object_eq h]
  rfl

lemma agentRemoveProxy_eq {n : ℤ} (h : m.objects ptr = some ⟨n, true⟩) {list : LinkedList ℕ}
    (hlist : m.list.remove ptr = some list) : m.agentRemoveProxy ptr =
      ({ m with list := list }.put ptr (some ⟨n, false⟩)).proxyServiceUnref ptr := by
  unfold agentRemoveProxy
  rw [object_eq h, hlist]
  rfl

lemma listAppend_eq {o : ProxyObject} (h : m.objects ptr = some o) {fuel : ℕ} {list : LinkedList ℕ}
    (hlist : m.list.append fuel ptr = some list) : m.listAppend fuel ptr =
      .ok { m.put ptr (some ⟨o.refCount + 1, o.agent⟩) with list := list } := by
  unfold listAppend
  rw [proxyServiceRef_eq h]
  simp only [bind, Except.bind, ProxyMemory.put, hlist]

lemma kept_empty : Kept ⟨fun _ => none, .empty⟩ [] none := by
  refine ⟨LinkedList.represents_empty, fun _ _ => ⟨rfl, rfl⟩, fun a ha => ?_, fun a _ hno => ?_,
    fun _ _ _ => rfl⟩
  · cases ha
  · cases hno

/-- A method of a listed proxy starts. -/
lemma kept_proxyServiceRef (h : Kept m ptrs none) (hptr : ptr ∈ ptrs) :
    ∃ m', m.proxyServiceRef ptr = .ok m' ∧ Kept m' ptrs (some ptr) ∧
      m'.object ptr = .ok ⟨2, true⟩ := by
  have hobject : m.objects ptr = some ⟨1, true⟩ := h.listed ptr hptr
  refine ⟨m.put ptr (some ⟨2, true⟩), ?_, ⟨h.list, h.unlinked, fun a ha => ?_, fun a ha hno => ?_,
    fun a ha hne => ?_⟩, object_eq (Function.update_self ..)⟩
  · exact proxyServiceRef_eq hobject
  · by_cases heq : a = ptr
    · rw [heq, if_pos rfl]
      exact Function.update_self ..
    · rw [if_neg fun hsome => heq (Option.some.inj hsome).symm]
      exact (Function.update_of_ne heq ..).trans (h.listed a ha)
  · rw [← Option.some.inj hno] at ha
    exact absurd hptr ha
  · have heq : a ≠ ptr := fun heq => hne (by rw [heq])
    exact (Function.update_of_ne heq ..).trans (h.freed a ha (by simp))

/-- The method returns, and frees its proxy unless that is in the list. -/
lemma kept_proxyServiceUnref (h : Kept m ptrs (some ptr)) :
    ∃ m', m.proxyServiceUnref ptr = .ok m' ∧ Kept m' ptrs none := by
  by_cases hptr : ptr ∈ ptrs
  · have hobject : m.objects ptr = some ⟨2, true⟩ := by rw [h.listed ptr hptr, if_pos rfl]
    refine ⟨m.put ptr (some ⟨1, true⟩), ?_, h.list, h.unlinked, fun a ha => ?_, fun a _ hno => ?_,
      fun a ha _ => ?_⟩
    · rw [proxyServiceUnref_eq hobject, if_pos (by decide)]
      rfl
    · by_cases heq : a = ptr
      · rw [heq]
        exact Function.update_self ..
      · refine (Function.update_of_ne heq ..).trans ?_
        rw [h.listed a ha, if_neg fun hsome => heq (Option.some.inj hsome).symm]
        rfl
    · cases hno
    · have heq : a ≠ ptr := fun heq => ha (heq ▸ hptr)
      refine (Function.update_of_ne heq ..).trans (h.freed a ha ?_)
      exact fun hsome => heq (Option.some.inj hsome).symm
  · have ⟨agent, hobject⟩ := h.held ptr hptr rfl
    refine ⟨m.put ptr none, ?_, h.list, h.unlinked, fun a ha => ?_, fun a _ hno => ?_,
      fun a ha _ => ?_⟩
    · -- it is in no list any more
      rw [proxyServiceUnref_eq hobject, if_neg (by simp), if_pos (h.unlinked ptr hptr)]
    · have heq : a ≠ ptr := fun heq => hptr (heq ▸ ha)
      refine (Function.update_of_ne heq ..).trans ?_
      rw [h.listed a ha, if_neg fun hsome => heq (Option.some.inj hsome).symm]
      rfl
    · cases hno
    · by_cases heq : a = ptr
      · rw [heq]
        exact Function.update_self ..
      · refine (Function.update_of_ne heq ..).trans (h.freed a ha ?_)
        exact fun hsome => heq (Option.some.inj hsome).symm

/-- A listed proxy is removed; it is freed unless one of its methods is running. -/
lemma kept_agentRemoveProxy (h : Kept m (xs ++ ptr :: ys) holder) :
    ∃ m', m.agentRemoveProxy ptr = .ok m' ∧ Kept m' (xs ++ ys) holder := by
  have hmem : ptr ∈ xs ++ ptr :: ys := by simp
  have ⟨list, hremove, hlist, hnext, hprev, hchanges⟩ := LinkedList.remove_represents h.list
  have hgone : ptr ∉ xs ++ ys := by
    have hnodup := h.list.nodup
    rw [List.nodup_middle] at hnodup
    exact (List.nodup_cons.mp hnodup).1
  have hsub : ∀ a, a ≠ ptr → (a ∈ xs ++ ptr :: ys ↔ a ∈ xs ++ ys) := by
    intro a ha
    simp [ha]
  have hunlinked : ∀ a, a ∉ xs ++ ys → list.next a = none ∧ list.prev a = none := by
    intro a ha
    by_cases heq : a = ptr
    · rw [heq]
      exact ⟨hnext, hprev⟩
    · have hout : a ∉ xs ++ ptr :: ys := (hsub a heq).not.mpr ha
      have ⟨hn, hp⟩ := hchanges a hout
      rw [hn, hp]
      exact h.unlinked a hout
  have hobject := h.listed ptr hmem
  rw [agentRemoveProxy_eq hobject hremove, proxyServiceUnref_eq (Function.update_self ..)]
  by_cases hholder : holder = some ptr
  · rw [if_pos hholder]
    refine ⟨_, if_pos (by decide), hlist, hunlinked, fun a ha => ?_, fun a _ hno => ?_,
      fun a ha hne => ?_⟩
    · have heq : a ≠ ptr := fun heq => hgone (heq ▸ ha)
      refine (Function.update_of_ne heq ..).trans ((Function.update_of_ne heq ..).trans ?_)
      rw [h.listed a ((hsub a heq).mpr ha), hholder]
    · rw [hholder] at hno
      rw [← Option.some.inj hno]
      exact ⟨false, Function.update_self ..⟩
    · have heq : a ≠ ptr := fun heq => hne (by rw [heq, hholder])
      refine (Function.update_of_ne heq ..).trans ((Function.update_of_ne heq ..).trans ?_)
      exact h.freed a ((hsub a heq).not.mpr ha) (hholder ▸ hne)
  · rw [if_neg hholder, if_neg (by simp)]
    refine ⟨_, if_pos ⟨hnext, hprev⟩, hlist, hunlinked, fun a ha => ?_, fun a ha hsome => ?_,
      fun a ha hne => ?_⟩
    · have heq : a ≠ ptr := fun heq => hgone (heq ▸ ha)
      refine (Function.update_of_ne heq ..).trans ((Function.update_of_ne heq ..).trans ?_)
      exact h.listed a ((hsub a heq).mpr ha)
    · have heq : a ≠ ptr := fun heq => hholder (heq ▸ hsome)
      have ⟨agent, hheld⟩ := h.held a ((hsub a heq).not.mpr ha) hsome
      exact ⟨agent, (Function.update_of_ne heq ..).trans ((Function.update_of_ne heq ..).trans hheld)⟩
    · by_cases heq : a = ptr
      · rw [heq]
        exact Function.update_self ..
      · refine (Function.update_of_ne heq ..).trans ((Function.update_of_ne heq ..).trans ?_)
        exact h.freed a ((hsub a heq).not.mpr ha) hne

/-- A new proxy is held by the method that makes it. -/
lemma kept_proxyServiceNew (h : Kept m ptrs none) (hptr : ptr ∉ ptrs) :
    Kept (m.proxyServiceNew ptr) ptrs (some ptr) ∧
      (m.proxyServiceNew ptr).objects ptr = some ⟨1, true⟩ := by
  have ⟨hhead, hsegment, hnodup⟩ := h.list
  have hne : ∀ a ∈ ptrs, a ≠ ptr := fun a ha heq => hptr (heq ▸ ha)
  refine ⟨⟨⟨hhead, ?_, hnodup⟩, fun a ha => ?_, fun a ha => ?_, fun a _ hsome => ?_,
    fun a ha hno => ?_⟩, Function.update_self ..⟩
  · refine hsegment.congr (fun a ha => ?_) fun a ha => ?_
    · exact Function.update_of_ne (hne a ha) ..
    · exact Function.update_of_ne (hne a ha) ..
  · by_cases heq : a = ptr
    · rw [heq]
      exact ⟨Function.update_self .., Function.update_self ..⟩
    · have ⟨hnext, hprev⟩ := h.unlinked a ha
      exact ⟨(Function.update_of_ne heq ..).trans hnext, (Function.update_of_ne heq ..).trans hprev⟩
  · refine (Function.update_of_ne (hne a ha) ..).trans ?_
    rw [h.listed a ha, if_neg fun hsome => hne a ha (Option.some.inj hsome).symm]
    rfl
  · rw [← Option.some.inj hsome]
    exact ⟨true, Function.update_self ..⟩
  · have heq : a ≠ ptr := fun heq => hno (by rw [heq])
    exact (Function.update_of_ne heq ..).trans (h.freed a ha (by simp))

/-- The new proxy is put into the list. -/
lemma kept_listAppend (h : Kept m ptrs (some ptr)) (hptr : ptr ∉ ptrs)
    (hobject : m.objects ptr = some ⟨1, true⟩) {fuel : ℕ} (hfuel : ptrs.length ≤ fuel) :
    ∃ m', m.listAppend fuel ptr = .ok m' ∧ Kept m' (ptrs ++ [ptr]) (some ptr) := by
  have ⟨list, happend, hlist, hchanges⟩ := LinkedList.append_represents h.list hptr hfuel
  refine ⟨{ m.put ptr (some ⟨2, true⟩) with list := list }, ?_, hlist, fun a ha => ?_,
    fun a ha => ?_, fun a ha hsome => ?_, fun a ha hne => ?_⟩
  · exact listAppend_eq hobject happend
  · have ⟨hnext, hprev⟩ := hchanges a ha
    show list.next a = none ∧ list.prev a = none
    rw [hnext, hprev]
    exact h.unlinked a fun hmem => ha (List.mem_append_left _ hmem)
  · by_cases heq : a = ptr
    · rw [heq, if_pos rfl]
      exact Function.update_self ..
    · have hmem : a ∈ ptrs := (List.mem_append.mp ha).resolve_right fun hmem =>
        heq (List.mem_singleton.mp hmem)
      exact (Function.update_of_ne heq ..).trans (h.listed a hmem)
  · rw [← Option.some.inj hsome] at ha
    exact absurd (List.mem_append_right _ (List.mem_singleton_self ptr)) ha
  · have heq : a ≠ ptr := fun heq => hne (by rw [heq])
    refine (Function.update_of_ne heq ..).trans (h.freed a ?_ hne)
    exact fun hmem => ha (List.mem_append_left _ hmem)

end ProxyMemory

namespace ProxyWorld

open AgentLink

variable {w w' : ProxyWorld} {holder : Option ℕ} {proxy : ProxyService}

/-! ## Soundness -/

/-- The addresses of the listed proxies. -/
def ptrs (w : ProxyWorld) : List ℕ := w.link.proxyServices.map (·.ptr)

/-- The memory is in order, and each proxy that was added is listed or was removed once. -/
structure Sound (w : ProxyWorld) (holder : Option ℕ) : Prop where
  kept : w.memory.Kept w.ptrs holder
  left : (w.removed ++ w.ptrs).Perm w.added
  nodup : w.added.Nodup
  fresh : ∀ ptr ∈ w.added, ptr < w.link.nextPtr
  running : w.link.aborted = false
  stopped : w.link.stopped = true → w.ptrs = []
  fault : w.fault = none

lemma Sound.of_link (h : Sound w holder) {link : AgentLink}
    (hptrs : link.proxyServices.map (·.ptr) = w.ptrs) (hnext : w.link.nextPtr ≤ link.nextPtr)
    (hflags : (link.aborted, link.stopped) = (w.link.aborted, w.link.stopped)) :
    Sound { w with link := link } holder := by
  refine ⟨?_, ?_, h.nodup, fun ptr hptr => (h.fresh ptr hptr).trans_le hnext,
    (congrArg Prod.fst hflags).trans h.running, fun hstopped => ?_, h.fault⟩
  · show w.memory.Kept (link.proxyServices.map _) holder
    rw [hptrs]
    exact h.kept
  · show (w.removed ++ link.proxyServices.map _).Perm _
    rw [hptrs]
    exact h.left
  · exact hptrs.trans (h.stopped ((congrArg Prod.snd hflags).symm.trans hstopped))

lemma Sound.of_same (h : Sound w holder) {link : AgentLink} (hsame : SameRequests w.link link) :
    Sound { w with link := link } holder := by
  have hptrs : ∀ s : AgentLink, s.proxyServices.map (·.ptr) = s.entries.map (·.ptr) := fun s => by
    unfold entries
    rw [List.map_map]
    rfl
  refine h.of_link ?_ hsame.nextPtr hsame.flags
  rw [ptrs, hptrs, hptrs, hsame.entries]

lemma Sound.listed_fresh (h : Sound w holder) : w.link.nextPtr ∉ w.ptrs := by
  intro hmem
  have hadded := h.left.subset (List.mem_append_right w.removed hmem)
  exact lt_irrefl _ (h.fresh _ hadded)

lemma ptrs_modifyProxy (s : AgentLink) (ptr : ℕ) {f : ProxyService → ProxyService}
    (hf : ∀ proxy, (f proxy).ptr = proxy.ptr) :
    (s.modifyProxy ptr f).proxyServices.map (·.ptr) = s.proxyServices.map (·.ptr) := by
  unfold modifyProxy
  rw [List.map_map]
  apply List.map_congr_left
  intro proxy _
  show (if proxy.ptr = ptr then f proxy else proxy).ptr = proxy.ptr
  split
  · exact hf proxy
  · rfl

/-! ## What the functions do -/

/-- A function succeeds and does to the agent what it is to do. -/
def Succeeds (result : Except ProxyFault ProxyWorld) (link : AgentLink) (holder : Option ℕ) : Prop :=
  ∃ w', result = .ok w' ∧ w'.link = link ∧ Sound w' holder

lemma succeeds_agentRemoveProxy (h : Sound w holder) (proxy : ProxyService)
    (hmem : proxy.ptr ∈ w.ptrs) (emitRemoved : Bool) (calls : RemoveCalls) :
    Succeeds (w.agentRemoveProxy proxy emitRemoved calls)
      (w.link.agentRemoveProxy proxy emitRemoved calls) holder := by
  have ⟨xs, ys, hsplit⟩ := List.append_of_mem hmem
  have hkept := h.kept
  have hnodup := hkept.list.nodup
  rw [hsplit] at hkept hnodup
  have ⟨m', hm', hkept'⟩ := ProxyMemory.kept_agentRemoveProxy hkept
  have hgone : proxy.ptr ∉ xs ++ ys := by
    rw [List.nodup_middle] at hnodup
    exact (List.nodup_cons.mp hnodup).1
  have hptrs : (w.link.agentRemoveProxy proxy emitRemoved calls).proxyServices.map (·.ptr) =
      xs ++ ys := by
    rw [agentRemoveProxy_eq]
    show (w.link.proxyServices.filter _).map _ = _
    have hfilter : (w.link.proxyServices.filter fun p => p.ptr ≠ proxy.ptr).map (·.ptr) =
        w.ptrs.filter fun ptr => ptr ≠ proxy.ptr := by
      rw [ptrs, List.filter_map]
      rfl
    have hself : ∀ l : List ℕ, l ⊆ xs ++ ys → l.filter (fun ptr => ptr ≠ proxy.ptr) = l := by
      intro l hl
      rw [List.filter_eq_self]
      intro ptr hptr
      have hne : ptr ≠ proxy.ptr := fun heq => hgone (heq ▸ hl hptr)
      simpa using hne
    rw [hfilter, hsplit, List.filter_append, List.filter_cons_of_neg (by simp),
      hself xs (List.subset_append_left ..), hself ys (List.subset_append_right ..)]
  refine ⟨⟨w.link.agentRemoveProxy proxy emitRemoved calls, m', w.added, w.removed ++ [proxy.ptr],
    w.fault⟩, ?_, rfl, ?_⟩
  · unfold ProxyWorld.agentRemoveProxy
    rw [hm']
    rfl
  · have hsame := agentRemoveProxy_eq w.link proxy emitRemoved calls
    refine ⟨?_, ?_, h.nodup, fun ptr hptr => ?_, ?_, fun hstopped => ?_, h.fault⟩
    · show m'.Kept ((w.link.agentRemoveProxy ..).proxyServices.map _) holder
      rw [hptrs]
      exact hkept'
    · show (w.removed ++ [proxy.ptr] ++ (w.link.agentRemoveProxy ..).proxyServices.map _).Perm _
      have hleft := h.left
      rw [hsplit] at hleft
      have hmiddle : (xs ++ proxy.ptr :: ys).Perm (proxy.ptr :: (xs ++ ys)) := List.perm_middle
      rw [hptrs, List.append_assoc]
      exact (hmiddle.symm.append_left w.removed).trans hleft
    · rw [hsame]
      exact h.fresh ptr hptr
    · rw [hsame]
      exact h.running
    · rw [hsame] at hstopped
      rw [h.stopped hstopped] at hmem
      cases hmem

/-- With an open request the initial state is reported. -/
lemma succeeds_initialStateReached (h : Sound w holder) (hmem : proxy.ptr ∈ w.ptrs)
    (hrequest : proxy.requestMessage ≠ none) (success : Bool) (calls : RemoveCalls) :
    Succeeds (w.proxyServiceInitialStateReached proxy success calls)
      (w.link.proxyServiceInitialStateReached proxy success calls) holder := by
  have ⟨serial, hserial⟩ := Option.ne_none_iff_exists'.mp hrequest
  unfold ProxyWorld.proxyServiceInitialStateReached AgentLink.proxyServiceInitialStateReached
  rw [hserial]
  dsimp only
  cases success with
  | true =>
    refine ⟨_, rfl, rfl, h.of_link ?_ le_rfl rfl⟩
    exact ptrs_modifyProxy _ _ fun _ => rfl
  | false =>
    let failed : LinkOutput := .proxyReply proxy.ptr serial "Proxy service failed to start"
    have hemit : Sound { w with link := w.link.emit failed } holder := h.of_link rfl le_rfl rfl
    simp only [Bool.false_eq_true, if_false]
    by_cases hready : proxy.sentSuccessfulReady = true
    · rw [if_pos hready, if_pos hready]
      refine ⟨_, rfl, rfl, h.of_link ?_ le_rfl rfl⟩
      exact ptrs_modifyProxy _ _ fun _ => rfl
    · rw [if_neg hready, if_neg hready]
      exact succeeds_agentRemoveProxy hemit { proxy with requestMessage := none } hmem true calls

/-- An error is only for a proxy whose request is open. -/
def OpenFor (proxy : ProxyService) : TargetCall → Prop
  | .error _ => proxy.requestMessage ≠ none
  | _ => True

lemma succeeds_methodBody (h : Sound w holder) (hmem : proxy.ptr ∈ w.ptrs) {call : TargetCall}
    (hopen : OpenFor proxy call) (calls : RemoveCalls) :
    Succeeds (w.methodBody proxy calls call) (w.link.proxyServiceMethod proxy calls call) holder := by
  have hsame : Succeeds (.ok w) w.link holder := ⟨w, rfl, rfl, h⟩
  have hreached := fun hrequest => succeeds_initialStateReached h hmem hrequest
  cases call with
  | targetNew reason => exact hsame
  | targetStateChanged activeState substate reason =>
    show Succeeds (w.proxyServiceMethodTargetStateChanged proxy activeState reason calls)
      (w.link.proxyServiceMethodTargetStateChanged proxy activeState reason calls) holder
    unfold ProxyWorld.proxyServiceMethodTargetStateChanged
      AgentLink.proxyServiceMethodTargetStateChanged
    by_cases hrequest : proxy.requestMessage.isSome = true
    · have hne : proxy.requestMessage ≠ none := Option.ne_none_iff_isSome.mpr hrequest
      rw [if_pos hrequest, if_pos hrequest]
      split_ifs
      · exact hreached hne true calls
      · exact hreached hne false calls
      · exact hsame
    · have hnone : proxy.requestMessage = none := Option.not_isSome_iff_eq_none.mp hrequest
      rw [if_neg hrequest, if_neg hrequest]
      unfold ProxyWorld.proxyServiceTargetStopped AgentLink.proxyServiceTargetStopped
      rw [if_pos hnone, if_pos hnone]
      split_ifs
      · exact succeeds_agentRemoveProxy h proxy hmem true calls
      · exact hsame
      · exact hsame
  | targetRemoved reason =>
    show Succeeds (w.proxyServiceMethodTargetRemoved proxy reason calls)
      (w.link.proxyServiceMethodTargetRemoved proxy reason calls) holder
    unfold ProxyWorld.proxyServiceMethodTargetRemoved AgentLink.proxyServiceMethodTargetRemoved
    by_cases hreal : (proxy.requestMessage.isSome && reason = "real") = true
    · have hsome := (Bool.and_eq_true _ _ ▸ hreal).1
      rw [if_pos hreal, if_pos hreal]
      exact hreached (Option.ne_none_iff_isSome.mpr hsome) false calls
    · rw [if_neg hreal, if_neg hreal]
      exact hsame
  | error message => exact hreached hopen false calls

/-- A method of a listed proxy succeeds unless it is an error that is not for it. -/
lemma proxyServiceMethod_spec (h : Sound w none) (hmem : proxy.ptr ∈ w.ptrs) (serial : Serial)
    (call : TargetCall) (calls : RemoveCalls) :
    (OpenFor proxy call → Succeeds (w.proxyServiceMethod proxy serial call calls)
      ((w.link.proxyServiceMethod proxy calls call).answer serial) none) ∧
    (¬ OpenFor proxy call →
      w.proxyServiceMethod proxy serial call calls = .error .initialStateReached) := by
  have ⟨m, hm, hkept, hobject⟩ := ProxyMemory.kept_proxyServiceRef h.kept hmem
  have hheld : Sound { w with memory := m } (some proxy.ptr) :=
    ⟨hkept, h.left, h.nodup, h.fresh, h.running, h.stopped, h.fault⟩
  unfold ProxyWorld.proxyServiceMethod
  rw [hm]
  dsimp only [bind, Except.bind]
  rw [hobject]
  dsimp only
  constructor
  · intro hopen
    have ⟨w', hw', hlink, hsound⟩ := succeeds_methodBody hheld hmem hopen calls
    have ⟨m', hm', hkept'⟩ := ProxyMemory.kept_proxyServiceUnref hsound.kept
    have hrunning := hsound.running
    rw [hlink] at hrunning
    refine ⟨⟨w'.link.emit (.reply serial), m', w'.added, w'.removed, w'.fault⟩, ?_, ?_, ?_⟩
    · rw [if_pos rfl, hw']
      dsimp only
      rw [hm']
    · show w'.link.emit _ = _
      unfold answer
      rw [hlink, if_neg (by rw [hrunning]; simp)]
    · exact ⟨hkept', hsound.left, hsound.nodup, hsound.fresh, hsound.running, hsound.stopped,
        hsound.fault⟩
  · intro hno
    cases call with
    | error message =>
      have hnone : proxy.requestMessage = none := not_not.mp hno
      have hbody : { w with memory := m }.methodBody proxy calls (.error message) =
          .error .initialStateReached := by
        show ProxyWorld.proxyServiceInitialStateReached _ _ _ _ = _
        unfold ProxyWorld.proxyServiceInitialStateReached
        rw [hnone]
      rw [if_pos rfl, hbody]
    | _ => exact absurd trivial hno

lemma succeeds_agentMethodRemoveProxy (h : Sound w none) (serial : Serial)
    (localServiceName nodeName unitName : String) (calls : RemoveCalls) :
    Succeeds (w.agentMethodRemoveProxy serial localServiceName nodeName unitName calls)
      (w.link.agentMethodRemoveProxy serial localServiceName nodeName unitName calls) none := by
  unfold ProxyWorld.agentMethodRemoveProxy AgentLink.agentMethodRemoveProxy
  cases hfind : w.link.agentFindProxy localServiceName nodeName unitName with
  | none => exact ⟨_, rfl, rfl, h.of_link rfl le_rfl rfl⟩
  | some proxy =>
    have hmem : proxy.ptr ∈ w.ptrs := List.mem_map_of_mem (List.mem_of_find?_eq_some hfind)
    have ⟨w', hw', hlink, hsound⟩ := succeeds_agentRemoveProxy h
      { proxy with dontStopProxy := true } hmem true calls
    dsimp only
    rw [hw']
    refine ⟨{ w' with link := w'.link.emit (.reply serial) }, rfl, ?_, hsound.of_link rfl le_rfl rfl⟩
    rw [← hlink]

/-- The proxies have different addresses below the next free one, so the list has an end. -/
lemma Sound.length_le (h : Sound w holder) : w.ptrs.length ≤ w.link.nextPtr := by
  have hsub : w.ptrs ⊆ List.range w.link.nextPtr := by
    intro ptr hptr
    rw [List.mem_range]
    exact h.fresh ptr (h.left.subset (List.mem_append_right _ hptr))
  have hlength := (h.kept.list.nodup.subperm hsub).length_le
  rw [List.length_range] at hlength
  exact hlength

lemma succeeds_agentMethodCreateProxy (h : Sound w none) (hrun : w.link.stopped = false)
    (serial : Serial) (localServiceName nodeName unitName : String) (exports : Bool) (result : EmitResult) :
    Succeeds (w.agentMethodCreateProxy serial localServiceName nodeName unitName exports result)
      (w.link.agentMethodCreateProxy serial localServiceName nodeName unitName exports result)
      none := by
  have hfresh := h.listed_fresh
  have ⟨hnew, hobject⟩ := ProxyMemory.kept_proxyServiceNew h.kept hfresh
  have ⟨m, hm, hkept⟩ := ProxyMemory.kept_proxyServiceUnref hnew
  -- a proxy that is not put into the list is freed when the method returns
  have hdropped : ∀ link : AgentLink, link.proxyServices.map (·.ptr) = w.ptrs →
      w.link.nextPtr ≤ link.nextPtr →
      (link.aborted, link.stopped) = (w.link.aborted, w.link.stopped) →
      Sound { w with link := link, memory := m } none := by
    intro link hptrs hnext hflags
    have hlink := h.of_link hptrs hnext hflags
    refine ⟨?_, hlink.left, hlink.nodup, hlink.fresh, hlink.running, hlink.stopped, hlink.fault⟩
    show m.Kept (link.proxyServices.map _) none
    rw [hptrs]
    exact hkept
  unfold ProxyWorld.agentMethodCreateProxy AgentLink.agentMethodCreateProxy
  cases w.link.agentFindProxy localServiceName nodeName unitName with
  | some proxy => exact ⟨_, rfl, rfl, h.of_link rfl le_rfl rfl⟩
  | none =>
    have hptr : (w.link.proxyServiceNew localServiceName nodeName unitName serial).ptr =
      w.link.nextPtr := rfl
    have hlist : { w.link with nextProxyId := w.link.nextProxyId + 1, nextPtr := w.link.nextPtr + 1
      }.proxyServices = w.link.proxyServices := rfl
    have hnext : { w.link with nextProxyId := w.link.nextProxyId + 1, nextPtr := w.link.nextPtr + 1
      }.nextPtr = w.link.nextPtr + 1 := rfl
    have haborted : { w.link with nextProxyId := w.link.nextProxyId + 1, nextPtr := w.link.nextPtr + 1
      }.aborted = w.link.aborted := rfl
    have hstopped : { w.link with nextProxyId := w.link.nextProxyId + 1, nextPtr := w.link.nextPtr + 1
      }.stopped = w.link.stopped := rfl
    dsimp only [bind, Except.bind]
    generalize w.link.proxyServiceNew localServiceName nodeName unitName serial = proxy at *
    generalize { w.link with nextProxyId := w.link.nextProxyId + 1, nextPtr := w.link.nextPtr + 1
      } = link at *
    have hle : w.link.nextPtr ≤ link.nextPtr := hnext ▸ Nat.le_succ _
    have hflags : (link.aborted, link.stopped) = (w.link.aborted, w.link.stopped) :=
      Prod.ext haborted hstopped
    rw [← hptr] at hm hnew hobject hfresh
    have hrefused : Sound { w with
        link := link.emit (.replyError serial "Invalid argument"), memory := m } none :=
      hdropped _ (congrArg (List.map _) hlist) hle hflags
    cases w.link.peerDbus with
    | none =>
      dsimp only
      rw [hm]
      exact ⟨_, rfl, rfl, hrefused⟩
    | some bus =>
      cases exports with
      | false =>
        dsimp only
        rw [hm]
        exact ⟨_, rfl, rfl, hrefused⟩
      | true =>
        have ⟨hsame, hsent, hnext', hentry⟩ := sameRequests_proxyServiceEmitProxyNew link
          { proxy with exportSlot := some bus } result
        dsimp only
        generalize link.proxyServiceEmitProxyNew { proxy with exportSlot := some bus } result =
          emitted at *
        have ⟨outcome, link', proxy'⟩ := emitted
        have hle' : w.link.nextPtr ≤ link'.nextPtr := hle.trans_eq hnext'.symm
        have hflags' : (link'.aborted, link'.stopped) = (w.link.aborted, w.link.stopped) :=
          hsame.flags.trans hflags
        have hptr' : proxy'.ptr = proxy.ptr := congrArg ProxyEntry.ptr hentry
        have ⟨m₁, hm₁, hkept₁⟩ := ProxyMemory.kept_listAppend hnew hfresh hobject
          (h.length_le.trans hle')
        have ⟨m₂, hm₂, hkept₂⟩ := ProxyMemory.kept_proxyServiceUnref hkept₁
        have hadded : Sound { w with
            link := { link' with proxyServices := link'.proxyServices ++ [proxy'] }
            memory := m₂
            added := w.added ++ [proxy'.ptr] } none := by
          have hptrs : (link'.proxyServices ++ [proxy']).map (·.ptr) = w.ptrs ++ [proxy.ptr] := by
            rw [List.map_append, List.map_singleton, hptr', show link'.proxyServices = _ from hsent,
              hlist]
            rfl
          have hunused : proxy.ptr ∉ w.added := fun hmem => lt_irrefl _ (hptr ▸ h.fresh _ hmem)
          refine ⟨?_, ?_, ?_, fun ptr hmem => ?_, (congrArg Prod.fst hflags').trans h.running,
            fun hstopped => ?_, h.fault⟩
          · show m₂.Kept ((link'.proxyServices ++ [proxy']).map _) none
            rw [hptrs]
            exact hkept₂
          · show (w.removed ++ (link'.proxyServices ++ [proxy']).map _).Perm (w.added ++ [proxy'.ptr])
            rw [hptrs, ← List.append_assoc, hptr']
            exact h.left.append_right _
          · rw [hptr', List.nodup_append]
            refine ⟨h.nodup, List.pairwise_singleton _ _, fun a ha b hb heq => ?_⟩
            rw [heq, List.mem_singleton.mp hb] at ha
            exact hunused ha
          · show ptr < link'.nextPtr
            rw [show link'.nextPtr = _ from hnext', hnext]
            rcases List.mem_append.mp hmem with hmem | hmem
            · exact (h.fresh ptr hmem).trans (Nat.lt_succ_self _)
            · rw [List.mem_singleton.mp hmem, hptr', hptr]
              exact Nat.lt_succ_self _
          · have hno := (congrArg Prod.snd hflags').symm.trans hstopped
            rw [hrun] at hno
            cases hno
        rw [← hptr'] at hm₁ hm₂
        cases outcome with
        | failed =>
          dsimp only
          rw [hm]
          exact ⟨_, rfl, rfl, hdropped _ (congrArg (List.map _) (hsent.trans hlist)) hle' hflags'⟩
        | sent =>
          dsimp only
          rw [← hptr', hm₁]
          dsimp only
          rw [hm₂]
          exact ⟨_, rfl, rfl, hadded⟩
        | notConnected =>
          dsimp only
          rw [← hptr', hm₁]
          dsimp only
          rw [hm₂]
          exact ⟨_, rfl, rfl, hadded⟩

/-- The loop of `agent_stop` goes through the list from the head. -/
lemma succeeds_removeAll (calls : ℕ → RemoveCalls) (l : List ProxyService) :
    ∀ {fuel : ℕ} {w : ProxyWorld}, Sound w none → w.link.proxyServices = l → l.length ≤ fuel →
      Succeeds (removeAll calls fuel w.memory.list.head w)
        (l.foldl (fun s proxy => s.agentRemoveProxy proxy false (calls proxy.ptr)) w.link) none := by
  induction l with
  | nil =>
    intro fuel w h hl _
    have hhead : w.memory.list.head = none := by
      rw [h.kept.list.head, ptrs, hl]
      rfl
    rw [hhead]
    exact ⟨w, by cases fuel <;> rfl, rfl, h⟩
  | cons proxy l ih =>
    intro fuel w h hl hfuel
    have ⟨n, hn⟩ := Nat.exists_eq_succ_of_ne_zero (Nat.ne_zero_of_lt hfuel)
    have hptrs : w.ptrs = proxy.ptr :: l.map (·.ptr) := by rw [ptrs, hl]; rfl
    have hhead : w.memory.list.head = some proxy.ptr := by rw [h.kept.list.head, hptrs]; rfl
    have hfind : w.link.proxyServices.find? (fun p => p.ptr = proxy.ptr) = some proxy := by
      rw [hl, List.find?_cons_of_pos]
      simp
    have hmem : proxy.ptr ∈ w.ptrs := by rw [hptrs]; exact List.mem_cons_self
    have ⟨w', hw', hlink, hsound⟩ := succeeds_agentRemoveProxy h proxy hmem false (calls proxy.ptr)
    have hnodup := h.kept.list.nodup
    rw [hptrs] at hnodup
    -- the next proxy is the new head
    have hl' : w'.link.proxyServices = l := by
      rw [hlink, agentRemoveProxy_eq]
      show w.link.proxyServices.filter _ = l
      rw [hl, List.filter_cons_of_neg (by simp), List.filter_eq_self]
      intro p hp
      have hne : p.ptr ≠ proxy.ptr := fun heq =>
        (List.nodup_cons.mp hnodup).1 (heq ▸ List.mem_map_of_mem hp)
      simpa using hne
    have hnext : w.memory.list.next proxy.ptr = w'.memory.list.head := by
      have hsegment := h.kept.list.segment
      rw [hptrs] at hsegment
      rw [hsegment.2.1, hsound.kept.list.head, ptrs, hl', Option.or_none]
    rw [hhead, hn, removeAll, hfind]
    dsimp only [bind, Except.bind]
    rw [hw']
    dsimp only
    rw [hnext, List.foldl_cons, ← hlink]
    rw [hn] at hfuel
    exact ih hsound hl' (Nat.le_of_succ_le_succ hfuel)

lemma succeeds_agentStop (h : Sound w none) (calls : ℕ → RemoveCalls) :
    Succeeds (w.agentStop calls) (w.link.agentStop calls) none := by
  let link : AgentLink := { w.link.agentPeerBusClose with connectionState := .disconnected }.emitStatus
  have hclosed : Sound { w with link := link } none := h.of_link rfl le_rfl rfl
  have hlength := hclosed.length_le
  rw [ptrs, List.length_map] at hlength
  have ⟨w', hw', hlink, hsound⟩ := succeeds_removeAll calls link.proxyServices hclosed rfl hlength
  have hnone : w'.ptrs = [] := by
    rw [ptrs, hlink]
    exact congrArg (List.map _) (agentStop_proxyServices w.link calls)
  refine ⟨{ w' with link := { w'.link with stopped := true } }, ?_, ?_, hsound.kept, hsound.left,
    hsound.nodup, hsound.fresh, hsound.running, fun _ => hnone, hsound.fault⟩
  · unfold ProxyWorld.agentStop
    dsimp only [bind, Except.bind]
    rw [show removeAll calls _ _ _ = _ from hw']
  · show { w'.link with stopped := true } = w.link.agentStop calls
    rw [hlink]
    rfl

/-! ## Runs -/

/-- An error reaches a proxy only while its request is open. -/
def ErrorsOpen (w : ProxyWorld) : LinkEvent → Prop
  | .target ptr _ call _ => ∀ proxy, w.link.exportedProxy ptr = some proxy → OpenFor proxy call
  | _ => True

lemma handle_of_aboutProxies {e : LinkEvent} (he : aboutProxies e = false) :
    w.handle e = (w.link.handle e).map fun link => .ok { w with link := link } := by
  cases e with
  | createProxy => cases he
  | removeProxy => cases he
  | target => cases he
  | stop => cases he
  | _ => rfl

/-- A handler does to the agent what it is to do, unless an error reaches an answered proxy. -/
theorem handle_spec (h : Sound w none) (hrun : w.link.stopped = false) {e : LinkEvent} {result : Except ProxyFault ProxyWorld}
    (hhandle : w.handle e = some result) :
    (ErrorsOpen w e → ∃ link, w.link.handle e = some link ∧ Succeeds result link none) ∧
      (¬ ErrorsOpen w e → result = .error .initialStateReached) := by
  cases e with
  | createProxy serial localServiceName nodeName unitName exports outcome =>
    rw [← Option.some.inj hhandle]
    exact ⟨fun _ => ⟨_, rfl, succeeds_agentMethodCreateProxy h hrun ..⟩, fun hno => absurd trivial hno⟩
  | removeProxy serial localServiceName nodeName unitName calls =>
    rw [← Option.some.inj hhandle]
    exact ⟨fun _ => ⟨_, rfl, succeeds_agentMethodRemoveProxy h ..⟩, fun hno => absurd trivial hno⟩
  | target ptr serial call calls =>
    have ⟨proxy, hfind, hresult⟩ := Option.map_eq_some_iff.mp hhandle
    have hmem : proxy.ptr ∈ w.ptrs := List.mem_map_of_mem (List.mem_of_find?_eq_some hfind)
    have hspec := proxyServiceMethod_spec h hmem serial call calls
    have hopen : ErrorsOpen w (.target ptr serial call calls) ↔ OpenFor proxy call := by
      constructor
      · intro hall
        exact hall proxy hfind
      · intro hopen proxy' hfind'
        rw [hfind, Option.some.injEq] at hfind'
        rw [← hfind']
        exact hopen
    rw [hopen, ← hresult]
    refine ⟨fun hopen => ⟨_, ?_, hspec.1 hopen⟩, hspec.2⟩
    show (w.link.exportedProxy ptr).map _ = _
    rw [hfind]
    rfl
  | stop calls =>
    rw [← Option.some.inj hhandle]
    exact ⟨fun _ => ⟨_, rfl, succeeds_agentStop h calls⟩, fun hno => absurd trivial hno⟩
  | _ =>
    rw [handle_of_aboutProxies rfl] at hhandle
    have ⟨link, hlink, hresult⟩ := Option.map_eq_some_iff.mp hhandle
    rw [← hresult]
    exact ⟨fun _ => ⟨link, hlink, _, rfl, rfl, h.of_same (sameRequests_handle rfl hlink)⟩,
      fun hno => absurd trivial hno⟩

/-- A step that lets errors reach only open requests is a step of the agent. -/
lemma step_spec (h : Sound w none) {e : LinkEvent} (hstep : proxySystem.step w e = some w') :
    (ErrorsOpen w e → w.link.step e = some w'.link ∧ Sound w' none) ∧
      (¬ ErrorsOpen w e → w'.fault = some .initialStateReached) := by
  have hstep' : (if w.link.stopped || w.fault.isSome then none else (w.handle e).map w.settle) =
      some w' := hstep
  split at hstep'
  · cases hstep'
  · next hrunning =>
    have ⟨result, hhandle, hsettle⟩ := Option.map_eq_some_iff.mp hstep'
    have hrun : w.link.stopped = false := by
      by_contra hstopped
      exact hrunning (by simp [show w.link.stopped = true by simpa using hstopped])
    have hspec := handle_spec h hrun hhandle
    constructor
    · intro hopen
      have ⟨link, hlink, w₁, hresult, hw₁, hsound⟩ := hspec.1 hopen
      rw [hresult] at hsettle
      have hstopped : (w.link.stopped || w.link.aborted) = false := by rw [hrun, h.running]; rfl
      rw [← show w₁ = w' from hsettle]
      refine ⟨?_, hsound⟩
      unfold AgentLink.step
      rw [hstopped, hlink, hw₁]
      rfl
    · intro hno
      rw [hspec.2 hno] at hsettle
      rw [← hsettle]
      rfl

/-- No assertion has failed. Each proxy was removed once unless it is still in the list, and when
the agent has stopped all were. -/
structure LeavesOnce (w : ProxyWorld) : Prop where
  fault : w.fault = none
  removed : ∀ ptr ∈ w.added, w.removed.count ptr = if ptr ∈ w.ptrs then 0 else 1
  stopped : w.link.stopped = true → w.ptrs = []

lemma Sound.leavesOnce (h : Sound w none) : LeavesOnce w := by
  refine ⟨h.fault, fun ptr hptr => ?_, h.stopped⟩
  have hcount := h.left.count_eq ptr
  rw [List.count_append, List.count_eq_one_of_mem h.nodup hptr] at hcount
  have hnodup := h.kept.list.nodup
  by_cases hlisted : ptr ∈ w.ptrs
  · rw [List.count_eq_one_of_mem hnodup hlisted] at hcount
    rw [if_pos hlisted]
    omega
  · rw [List.count_eq_zero_of_not_mem hlisted] at hcount
    rw [if_neg hlisted]
    omega

lemma sound_init (h : proxySystem.init w) : Sound w none := by
  have ⟨cfg, address, calls, hw⟩ := h
  have hnew : Sound ⟨agentLinkNew cfg address, ⟨fun _ => none, .empty⟩, [], [], none⟩ none :=
    ⟨ProxyMemory.kept_empty, .refl _, List.nodup_nil, by simp, rfl, fun _ => rfl, rfl⟩
  rw [hw]
  exact hnew.of_same (sameRequests_agentStart _ calls)

/-- A run without a fault lets errors reach only open requests, and then all is in order. -/
lemma sound_of_run {es : List LinkEvent} (h : Sound w none) (hrun : run proxySystem w es = some w') :
    (GuardedRun proxySystem ErrorsOpen w es → Sound w' none) ∧
      (¬ GuardedRun proxySystem ErrorsOpen w es → w'.fault ≠ none) := by
  induction es generalizing w with
  | nil =>
    rw [run_nil, Option.some.injEq] at hrun
    rw [← hrun]
    exact ⟨fun _ => h, fun hno => absurd trivial hno⟩
  | cons e es ih =>
    rw [run_cons, Option.bind_eq_some_iff] at hrun
    have ⟨t, ht, hrun⟩ := hrun
    have hspec := step_spec h ht
    by_cases hopen : ErrorsOpen w e
    · have hrest := ih (hspec.1 hopen).2 hrun
      have hguard : GuardedRun proxySystem ErrorsOpen w (e :: es) ↔
          GuardedRun proxySystem ErrorsOpen t es := by
        constructor
        · intro hall
          exact hall.2 t ht
        · intro hall
          refine ⟨hopen, fun t' ht' => ?_⟩
          rw [ht, Option.some.injEq] at ht'
          rw [← ht']
          exact hall
      rw [hguard]
      exact hrest
    · refine ⟨fun hall => absurd hall.1 hopen, fun _ => ?_⟩
      have hfault := hspec.2 hopen
      -- the run ends with the fault
      cases es with
      | nil =>
        rw [run_nil, Option.some.injEq] at hrun
        rw [← hrun, hfault]
        simp
      | cons e' es =>
        have hnone : proxySystem.step t e' = none := by
          show (if t.link.stopped || t.fault.isSome then none else _) = none
          rw [hfault, if_pos (by simp)]
        rw [run_cons, hnone] at hrun
        cases hrun

/-- No assertion fails in a run and each proxy leaves the list once, exactly when errors reach only
proxies whose request is open. -/
theorem leavesOnce_iff {w₀ : ProxyWorld} {es : List LinkEvent} (hinit : proxySystem.init w₀)
    (hrun : run proxySystem w₀ es = some w) :
    LeavesOnce w ↔ GuardedRun proxySystem ErrorsOpen w₀ es := by
  have hspec := sound_of_run (sound_init hinit) hrun
  constructor
  · intro hleaves
    by_contra hno
    exact hspec.2 hno hleaves.fault
  · exact fun hguard => (hspec.1 hguard).leavesOnce

/-- An agent that waits for the reply to its first `Register` call. -/
def connectingWorld : ProxyWorld :=
  ⟨LinkRun.connectingAgent.link, ⟨fun _ => none, .empty⟩, [], [], none⟩

lemma init_connectingWorld : proxySystem.init connectingWorld := ⟨_, _, LinkRun.connects, rfl⟩

/-- A proxy whose target starts and then fails leaves the list once. -/
theorem leavesOnce_startsAndFails : ∃ w, run proxySystem connectingWorld LinkRun.startsAndFails =
    some w ∧ w.removed = [2] ∧ LeavesOnce w := by
  have ⟨w, hw, hremoved⟩ : ∃ w, run proxySystem connectingWorld LinkRun.startsAndFails = some w ∧
    w.removed = [2] := ⟨_, rfl, rfl⟩
  have hguard : GuardedRun proxySystem ErrorsOpen connectingWorld LinkRun.startsAndFails :=
    ⟨trivial, fun _ _ => ⟨trivial, fun _ _ => ⟨fun _ _ => trivial, fun _ _ => ⟨fun _ _ => trivial,
      fun _ _ => ⟨fun _ _ => trivial, fun _ _ => trivial⟩⟩⟩⟩⟩
  exact ⟨w, hw, hremoved, (leavesOnce_iff init_connectingWorld hw).mpr hguard⟩

/-- A proxy that was reported ready hears of an error. -/
def readyThenError : List LinkEvent :=
  [.registerReply .ok 7 7 (fun _ => false) fun _ => .sent,
    .createProxy 3 "bluechi-proxy@n_u.service" "n" "u.service" true .sent,
    .target 2 4 (.targetStateChanged "active" "running" "real") ⟨true, true⟩,
    .target 2 5 (.error "Failed to start") ⟨true, true⟩]

/-- The assertion about its request fails. -/
theorem assertion_fails : ¬ ∀ w₀ es w, proxySystem.init w₀ → run proxySystem w₀ es = some w →
    LeavesOnce w := by
  intro h
  have hfault := (h connectingWorld readyThenError _ init_connectingWorld rfl).fault
  cases hfault

end ProxyWorld
end BlueChi
