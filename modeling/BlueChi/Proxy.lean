import Mathlib.Data.List.TakeWhile
import BlueChi.Controller.ApplyConfig

/-!
# Instance names of proxy services

`bluechi-proxy` gets the name of a node and of one of its units in one text, with an underscore
between them. The nodes are those that the configuration of the controller allows.
-/

namespace BlueChi

open Cfg Controller

/-- `strchr` of a character that does not end the string: what starts with its first occurrence. -/
def strchr (s : List Char) (c : Char) : Option (List Char) :=
  match s.dropWhile (· ≠ c) with
  | [] => none
  | split => some split

/-- `parse_node_unit_opt`. -/
def parseNodeUnitOpt (optNodeUnit : Option String) : Except ℤ (String × String) :=
  match optNodeUnit with
  | none => .error (-eInval)
  | some s =>
    match strchr s.toList '_' with
    | none => .error (-eInval)
    | some split =>
      if split.length = s.toList.length then .error (-eInval)
      else if split.tail = [] then .error (-eInval)
      else .ok (String.ofList (s.toList.take (s.toList.length - split.length)),
        String.ofList split.tail)

variable {s : Controller} {config : Config} {settings : Settings} {node unit text : String}

/-- The text for a node and a unit gives both back. -/
def RoundTrips (node unit : String) : Prop :=
  parseNodeUnitOpt (some (node ++ "_" ++ unit)) = .ok (node, unit)

/-- There is no result, and the error is `-EINVAL`. -/
def Rejected (text : String) : Prop := parseNodeUnitOpt (some text) = .error (-eInval)

/-- Some underscore has text on both sides. -/
def Splits (text : String) : Prop :=
  ∃ node unit, node ≠ "" ∧ unit ≠ "" ∧ text = node ++ "_" ++ unit

/-! ## The first underscore -/

lemma strchr_eq_none_iff {s : List Char} {c : Char} : strchr s c = none ↔ c ∉ s := by
  have hnil : s.dropWhile (· ≠ c) = [] ↔ c ∉ s := by
    rw [List.dropWhile_eq_nil_iff]
    constructor
    · intro hall hmem
      simpa using hall c hmem
    · intro hnot d hd
      have hne : d ≠ c := fun heq => hnot (heq ▸ hd)
      simpa using hne
  rw [← hnil]
  unfold strchr
  match hdrop : s.dropWhile (· ≠ c) with
  | [] => simp
  | d :: rest => simp

/-- Before the first occurrence there is none. -/
lemma strchr_append {before : List Char} {c : Char} (hbefore : c ∉ before) (rest : List Char) :
    strchr (before ++ c :: rest) c = some (c :: rest) := by
  have hdrop : (before ++ c :: rest).dropWhile (· ≠ c) = c :: rest := by
    rw [List.dropWhile_append_of_pos]
    · simp
    · intro d hd
      have hne : d ≠ c := fun heq => hbefore (heq ▸ hd)
      simpa using hne
  unfold strchr
  rw [hdrop]

/-- The result of a text whose first underscore is known. -/
lemma parseNodeUnitOpt_of_first {before rest : List Char} (hbefore : '_' ∉ before)
    (htext : text.toList = before ++ '_' :: rest) :
    parseNodeUnitOpt (some text) =
      if before = [] ∨ rest = [] then .error (-eInval)
      else .ok (String.ofList before, String.ofList rest) := by
  have hlength : text.toList.length = before.length + ('_' :: rest).length := by
    rw [htext, List.length_append]
  have htake : text.toList.take (text.toList.length - ('_' :: rest).length) = before := by
    rw [hlength, Nat.add_sub_cancel, htext, List.take_left]
  unfold parseNodeUnitOpt
  simp only [htext, strchr_append hbefore]
  rw [← htext, htake, hlength]
  by_cases hnil : before = []
  · rw [if_pos (by simp [hnil]), if_pos (Or.inl hnil)]
  · have hlong : ('_' :: rest).length ≠ before.length + ('_' :: rest).length := by
      have hpos := List.length_pos_of_ne_nil hnil
      omega
    rw [if_neg hlong, List.tail_cons]
    by_cases hrest : rest = []
    · rw [if_pos hrest, if_pos (Or.inr hrest)]
    · rw [if_neg hrest, if_neg (not_or.mpr ⟨hnil, hrest⟩)]

/-- The text of a name that no underscore follows directly. -/
lemma toList_joined (node unit : String) :
    (node ++ "_" ++ unit).toList = node.toList ++ '_' :: unit.toList := by
  rw [String.toList_append, String.toList_append, show "_".toList = ['_'] by decide,
    List.append_assoc, List.singleton_append]

lemma splits_iff : Splits text ↔
    ∃ before rest, before ≠ [] ∧ rest ≠ [] ∧ text.toList = before ++ '_' :: rest := by
  have hnil : ∀ name : String, name = "" ↔ name.toList = [] := fun name => by
    rw [← String.toList_inj, show "".toList = [] by decide]
  constructor
  · intro ⟨node, unit, hnode, hunit, heq⟩
    exact ⟨node.toList, unit.toList, mt (hnil node).mpr hnode, mt (hnil unit).mpr hunit,
      heq ▸ toList_joined node unit⟩
  · intro ⟨before, rest, hbefore, hrest, heq⟩
    refine ⟨String.ofList before, String.ofList rest, ?_, ?_, ?_⟩
    · rw [Ne, hnil, String.toList_ofList]
      exact hbefore
    · rw [Ne, hnil, String.toList_ofList]
      exact hrest
    · rw [← String.toList_inj, toList_joined, String.toList_ofList, String.toList_ofList, heq]

/-- A name with an underscore is cut there. -/
lemma roundTrips_iff (hunit : unit ≠ "") :
    RoundTrips node unit ↔ node ≠ "" ∧ '_' ∉ node.toList := by
  have hrest : unit.toList ≠ [] := fun hnil => by
    apply hunit
    rw [← String.toList_inj, hnil]
    rfl
  unfold RoundTrips
  by_cases hmem : '_' ∈ node.toList
  · have ⟨before, after, hnode, hbefore⟩ := List.eq_append_cons_of_mem hmem
    have htext : (node ++ "_" ++ unit).toList = before ++ '_' :: (after ++ '_' :: unit.toList) := by
      rw [toList_joined, hnode, List.append_assoc, List.cons_append]
    rw [parseNodeUnitOpt_of_first hbefore htext]
    constructor
    · intro hok
      split at hok
      · simp at hok
      · have hshort : String.ofList before = node := congrArg Prod.fst (Except.ok.inj hok)
        have hlen := congrArg List.length hnode
        rw [← hshort, String.toList_ofList, List.length_append, List.length_cons] at hlen
        omega
    · intro ⟨_, hnot⟩
      exact absurd hmem hnot
  · rw [parseNodeUnitOpt_of_first hmem (toList_joined node unit), String.ofList_toList,
      String.ofList_toList]
    have hnil : node = "" ↔ node.toList = [] := by
      rw [← String.toList_inj, show "".toList = [] by decide]
    by_cases hnode : node.toList = []
    · simp [hnode, hnil]
    · simp [hnode, hrest, hnil, hmem]

lemma mem_dropLast_iff {c : Char} {l : List Char} :
    c ∈ l.dropLast ↔ ∃ before rest, rest ≠ [] ∧ l = before ++ c :: rest := by
  constructor
  · intro hmem
    have ⟨before, rest, heq⟩ := List.append_of_mem hmem
    have hl : l ≠ [] := fun hnil => by
      rw [hnil] at hmem
      simp at hmem
    refine ⟨before, rest ++ [l.getLast hl], by simp, ?_⟩
    rw [← List.cons_append, ← List.append_assoc, ← heq, List.dropLast_append_getLast]
  · intro ⟨before, rest, hrest, heq⟩
    rw [heq, List.dropLast_append_of_ne_nil (List.cons_ne_nil _ _),
      List.dropLast_cons_of_ne_nil hrest]
    simp

/-- What is lost: a text that starts with an underscore and could be cut at a later one. -/
lemma rejected_iff_not_splits_iff (text : String) : (Rejected text ↔ ¬Splits text) ↔
    ¬(text.toList.head? = some '_' ∧ '_' ∈ text.toList.tail.dropLast) := by
  rw [splits_iff]
  unfold Rejected
  by_cases hmem : '_' ∈ text.toList
  · have ⟨before, rest, htext, hbefore⟩ := List.eq_append_cons_of_mem hmem
    rw [parseNodeUnitOpt_of_first hbefore htext, htext]
    by_cases hnil : before = []
    · -- The text starts with an underscore, and is rejected.
      have hsplits : (∃ before' rest', before' ≠ [] ∧ rest' ≠ [] ∧
          [] ++ '_' :: rest = before' ++ '_' :: rest') ↔ '_' ∈ rest.dropLast := by
        rw [mem_dropLast_iff]
        constructor
        · intro ⟨before', rest', hbefore', hrest', heq⟩
          match before' with
          | [] => exact absurd rfl hbefore'
          | c :: before' =>
            exact ⟨before', rest', hrest', (List.cons.inj heq).2⟩
        · intro ⟨before', rest', hrest', heq⟩
          exact ⟨'_' :: before', rest', List.cons_ne_nil _ _, hrest', by rw [heq]; rfl⟩
      rw [if_pos (Or.inl hnil), hnil, hsplits]
      simp
    · have hhead : (before ++ '_' :: rest).head? ≠ some '_' := by
        intro heq
        match before with
        | [] => exact hnil rfl
        | c :: before =>
          rw [List.cons_append, List.head?_cons, Option.some.injEq] at heq
          exact hbefore (heq ▸ List.mem_cons_self)
      rw [iff_true_right (fun hand => hhead hand.1)]
      by_cases hrest : rest = []
      · -- The only underscore is the last character.
        rw [if_pos (Or.inr hrest), iff_true_left rfl]
        intro ⟨before', rest', _, hrest', heq⟩
        have hlast := mem_dropLast_iff.mpr ⟨before', rest', hrest', heq⟩
        rw [hrest, List.dropLast_concat] at hlast
        exact hbefore hlast
      · rw [if_neg (not_or.mpr ⟨hnil, hrest⟩)]
        apply iff_of_false
        · simp
        · intro hnot
          exact hnot ⟨before, rest, hnil, hrest, rfl⟩
  · have hnone : strchr text.toList '_' = none := strchr_eq_none_iff.mpr hmem
    have hrejected : parseNodeUnitOpt (some text) = .error (-eInval) := by
      simp only [parseNodeUnitOpt, hnone]
    rw [iff_true_left hrejected]
    apply iff_of_true
    · intro ⟨before, rest, _, _, heq⟩
      rw [heq] at hmem
      simp at hmem
    · intro ⟨hhead, _⟩
      exact hmem (List.mem_of_head? hhead)

/-! ## The names that the controller allows -/

/-- The text of an allowed node gives it back unless the name has an underscore or is empty. A text
is rejected wrongly if it starts with an underscore and could be cut at a later one. -/
theorem parseNodeUnitOpt_iff (node text : String) (hunit : unit ≠ "") :
    (RoundTrips node unit ↔ node ≠ "" ∧ '_' ∉ node.toList) ∧
      ((Rejected text ↔ ¬Splits text) ↔
        ¬(text.toList.head? = some '_' ∧ '_' ∈ text.toList.tail.dropLast)) :=
  ⟨roundTrips_iff hunit, rejected_iff_not_splits_iff text⟩

theorem parseNodeUnitOpt_bar : RoundTrips "bar" "mqtt.service" ∧
    (Rejected "bar_" ↔ ¬Splits "bar_") := by
  have ⟨hround, hrejected⟩ :=
    parseNodeUnitOpt_iff "bar" "bar_" (show "mqtt.service" ≠ "" by decide)
  constructor
  · apply hround.mpr
    decide
  · apply hrejected.mpr
    decide

/-- A configuration is safe for proxies when no name that it allows has an underscore. -/
theorem allowedNames_roundTrip_iff
    (happly : controllerNew.controllerApplyConfig config = some (settings, s)) :
    (∀ node, some node ∈ s.nodes.map (fun n => (s.node n).name) →
      ∀ unit, unit ≠ "" → RoundTrips node unit) ↔
        ∀ node, AllowedName config node → node ≠ "" ∧ '_' ∉ node.toList := by
  constructor
  · intro hall node hallowed
    have hround := hall node ((mem_names_of_apply happly node).mpr hallowed) "a" (by decide)
    exact (roundTrips_iff (by decide)).mp hround
  · intro hall node hnode unit hunit
    exact (roundTrips_iff hunit).mpr (hall node ((mem_names_of_apply happly node).mp hnode))

/-- The controller allows a node that no proxy can name. -/
def underscoreConfig : Config :=
  cfgSSetValue { cfgInitialize with defaultSection := "bluechi-controller" }
    "bluechi-controller" "AllowedNodeNames" (some "rear_left")

theorem parseNodeUnitOpt_underscore : ¬((∀ config settings s,
    controllerNew.controllerApplyConfig config = some (settings, s) →
      ∀ node, some node ∈ s.nodes.map (fun n => (s.node n).name) →
        ∀ unit, unit ≠ "" → RoundTrips node unit) ∧
    ∀ text, Rejected text ↔ ¬Splits text) := by
  intro ⟨hround, _⟩
  have happly : controllerNew.controllerApplyConfig underscoreConfig = some (_, _) := rfl
  have hallowed : AllowedName underscoreConfig "rear_left" :=
    Or.inl ⟨"rear_left", by decide +kernel, by decide +kernel⟩
  have hnode := (mem_names_of_apply happly "rear_left").mpr hallowed
  have hbad := hround _ _ _ happly "rear_left" hnode "mqtt.service" (by decide)
  have ⟨_, hnot⟩ := (roundTrips_iff (by decide)).mp hbad
  exact absurd hnot (by decide)

end BlueChi
