import BlueChi.Config
import BlueChi.ParseUtil
import BlueChi.Controller.Runs

/-!
# Applying the configuration

`controller_apply_config` makes the nodes. Their names come from a list of names and from the
sections that allow a node, and the options of a node from its own section.
-/

namespace BlueChi

open ParseUtil Cfg

/-- The settings that no handler of the controller reads. -/
structure Settings where
  useTcp : Bool
  useUds : Bool
  port : ℤ
  heartbeatIntervalMsec : ℤ
  tcpKeepidle : ℤ
  tcpKeepintvl : ℤ
  tcpKeepcnt : ℤ
  ipRecvErr : Bool
  deriving DecidableEq

/-- A setting with a parser; without a value it stays as it is. -/
def parseSetting (initial : ℤ) (value : Option String) (parse : Option String → Option ℤ) :
    Option ℤ :=
  match value with
  | none => some initial
  | some _ => parse value

/-- `socket_options_set_tcp_keepidle` and its siblings. -/
def parseSocketOption (maximum : ℤ) (value : Option String) : Option ℤ :=
  (parseLong value).filter fun l => 0 ≤ l && l ≤ maximum

/-- The name behind `CFG_SECT_NODE_PREFIX`. -/
def sectionNodeName (sectionName : String) : Option String :=
  if "node ".toList.isPrefixOf sectionName.toList then
    some (String.ofList (sectionName.toList.drop 5))
  else none

/-- The names in an option. -/
def namesOf (value : Option String) : List String := (value.map names).getD []

namespace Controller

/-- A node of `AllowedNodeNames`. -/
def allowNode (s : Controller) (name : String) : Controller :=
  if (s.findNode name).isSome then s else s.addNode (some name)

/-- `node_set_required_selinux_context` and `node_add_allowed_proxy_target` with the options of a
section. -/
def setNodeOptions (config : Config) (sectionName : String) (s : Controller) (n : NodeId) :
    Controller :=
  s.modifyNode n fun node =>
    { node with
      requiredSelinuxContext :=
        (cfgSGetValue config sectionName "RequiredSelinuxContext").or node.requiredSelinuxContext
      allowedProxyTargets := node.allowedProxyTargets ++
        namesOf (cfgSGetValue config sectionName "AllowDependenciesOn") }

/-- One round of the loop over the sections. -/
def applySection (config : Config) (s : Controller) (sectionName : String) : Controller :=
  match sectionNodeName sectionName with
  | none => s
  | some name =>
    match s.findNode name with
    | some n => s.setNodeOptions config sectionName n
    | none =>
      if cfgSGetBoolValue config sectionName "Allowed" then
        (s.addNode (some name)).setNodeOptions config sectionName s.nextPtr
      else s

/-- The nodes of the configuration. -/
def applyNodes (config : Config) (s : Controller) : Controller :=
  (cfgListSections config).foldl (applySection config)
    ((namesOf (cfgGetValue config "AllowedNodeNames")).foldl allowNode s)

/-- `controller_apply_config`. -/
def controllerApplyConfig (s : Controller) (config : Config) : Option (Settings × Controller) := do
  let port ← parseSetting 0 (cfgGetValue config "ControllerPort") parsePort
  let s := s.applyNodes config
  let interval ← parseSetting 0 (cfgGetValue config "HeartbeatInterval") parseLong
  let threshold ← parseSetting s.heartbeatThresholdMsec
    (cfgGetValue config "NodeHeartbeatThreshold") parseLong
  let keepidle ← parseSetting 0 (cfgGetValue config "TCPKeepAliveTime") (parseSocketOption 32767)
  let keepintvl ← parseSetting 0 (cfgGetValue config "TCPKeepAliveInterval")
    (parseSocketOption 32767)
  let keepcnt ← parseSetting 0 (cfgGetValue config "TCPKeepAliveCount") (parseSocketOption 127)
  pure (⟨cfgGetBoolValue config "UseTCP", cfgGetBoolValue config "UseUDS", port, interval, keepidle,
    keepintvl, keepcnt, cfgGetBoolValue config "IPReceiveErrors"⟩,
    { s with heartbeatThresholdMsec := threshold })

variable {config : Config} {s : Controller} {name sectionName : String} {n : NodeId}

/-! ## The options of a name -/

/-- The options of the node of that name, if there is one. -/
def configOf (s : Controller) (name : String) : Option (Option String × List String) :=
  (s.findNode name).map fun n =>
    ((s.node n).requiredSelinuxContext, (s.node n).allowedProxyTargets)

/-- The options that a section adds. -/
def withSection (config : Config) (sectionName : String) (options : Option String × List String) :
    Option String × List String :=
  ((cfgSGetValue config sectionName "RequiredSelinuxContext").or options.1,
    options.2 ++ namesOf (cfgSGetValue config sectionName "AllowDependenciesOn"))

lemma findNode_addNode (h : Starting s) (hnone : s.findNode name = none) (name' : String) :
    (s.addNode (some name)).findNode name' =
      if name' = name then some s.nextPtr else s.findNode name' := by
  have hadd := h.addNode hnone
  have hself : (s.addNode (some name)).node s.nextPtr = nodeNew (some name) := by
    simp [addNode, nodeAlloc]
  have hold : ∀ k ∈ s.nodes, (s.addNode (some name)).node k = s.node k := fun k hk => by
    have hne : k ≠ s.nextPtr := Nat.ne_of_lt (h.registry.fresh k (Or.inl hk))
    simp [addNode, nodeAlloc, hne]
  have hnodes : (s.addNode (some name)).nodes = s.nodes ++ [s.nextPtr] := rfl
  by_cases hname : name' = name
  · rw [if_pos hname, hadd.registry.findNode_eq_some_iff, hnodes, hself, hname]
    exact ⟨by simp, rfl⟩
  · rw [if_neg hname]
    apply Option.ext
    intro k
    rw [hadd.registry.findNode_eq_some_iff, h.registry.findNode_eq_some_iff, hnodes,
      List.mem_append, List.mem_singleton]
    constructor
    · rintro ⟨hk, hknown⟩
      apply hk.elim
      · intro hin
        rw [hold k hin] at hknown
        exact ⟨hin, hknown⟩
      · intro heq
        rw [heq, hself] at hknown
        exact absurd (Option.some.inj hknown).symm hname
    · rintro ⟨hin, hknown⟩
      rw [hold k hin]
      exact ⟨Or.inl hin, hknown⟩

lemma configOf_addNode (h : Starting s) (hnone : s.findNode name = none) (name' : String) :
    (s.addNode (some name)).configOf name' =
      if name' = name then some (none, []) else s.configOf name' := by
  unfold configOf
  rw [findNode_addNode h hnone]
  by_cases hname : name' = name
  · rw [if_pos hname, if_pos hname]
    simp [addNode, nodeAlloc, nodeNew]
  · rw [if_neg hname, if_neg hname]
    cases hfind : s.findNode name' with
    | none => rfl
    | some k =>
      have hin := ((h.registry.findNode_eq_some_iff name' k).mp hfind).1
      have hne : k ≠ s.nextPtr := Nat.ne_of_lt (h.registry.fresh k (Or.inl hin))
      simp [addNode, nodeAlloc, hne]

lemma configOf_setNodeOptions (h : Starting s) (hfind : s.findNode name = some n) (name' : String) :
    (s.setNodeOptions config sectionName n).configOf name' =
      if name' = name then (s.configOf name).map (withSection config sectionName)
      else s.configOf name' := by
  have hnames : ∀ k, ((s.setNodeOptions config sectionName n).node k).name = (s.node k).name := by
    intro k
    by_cases hk : k = n
    · rw [hk]
      simp [setNodeOptions]
    · simp [setNodeOptions, hk]
  have hsame : (s.setNodeOptions config sectionName n).findNode name' = s.findNode name' := by
    unfold findNode
    rw [show (s.setNodeOptions config sectionName n).nodes = s.nodes from rfl]
    congr 1
    funext k
    rw [hnames]
  unfold configOf
  rw [hsame]
  by_cases hname : name' = name
  · rw [if_pos hname, hname, hfind]
    simp [setNodeOptions, withSection]
  · rw [if_neg hname]
    match hother : s.findNode name' with
    | none => rfl
    | some k =>
      have hk := (h.registry.findNode_eq_some_iff name' k).mp hother
      have hn := (h.registry.findNode_eq_some_iff name n).mp hfind
      have hne : k ≠ n := fun heq => by
        rw [heq, hn.2] at hk
        exact hname (Option.some.inj hk.2).symm
      simp [setNodeOptions, hne]

/-! ## The two sources of names -/

lemma Starting.setNodeOptions (h : Starting s) : Starting (s.setNodeOptions config sectionName n) :=
  h.configure n _ _

lemma allowNode_spec (h : Starting s) (name : String) : Starting (s.allowNode name) ∧
    ∀ name', (s.allowNode name).configOf name' =
      if name' = name then some ((s.configOf name).getD (none, [])) else s.configOf name' := by
  unfold allowNode
  match hfind : s.findNode name with
  | some n =>
    refine ⟨h, fun name' => ?_⟩
    by_cases hname : name' = name
    · rw [if_pos hname, hname]
      simp [configOf, hfind]
    · rw [if_neg hname]
      rfl
  | none =>
    refine ⟨h.addNode hfind, fun name' => ?_⟩
    have hnone : s.configOf name = none := by
      unfold configOf
      rw [hfind]
      rfl
    rw [hnone]
    exact configOf_addNode h hfind name'

/-- The nodes of `AllowedNodeNames`, without options. -/
lemma allowNodes_spec (allowed : List String) (s : Controller) (h : Starting s) :
    Starting (allowed.foldl allowNode s) ∧ ∀ name, (allowed.foldl allowNode s).configOf name =
      if name ∈ allowed then some ((s.configOf name).getD (none, [])) else s.configOf name := by
  induction allowed generalizing s with
  | nil => exact ⟨h, fun name => by simp⟩
  | cons first allowed ih =>
    have ⟨hfirst, hconfig⟩ := allowNode_spec h first
    have ⟨hrest, hall⟩ := ih _ hfirst
    refine ⟨hrest, fun name => ?_⟩
    rw [List.foldl_cons, hall, hconfig]
    by_cases hname : name = first
    · rw [if_pos hname, if_pos (show name ∈ first :: allowed by simp [hname]), hname]
      simp
    · rw [if_neg hname]
      simp only [List.mem_cons, hname, false_or]

lemma sectionNodeName_eq_some_iff : sectionNodeName sectionName = some name ↔
    sectionName = "node " ++ name := by
  have hprefix : "node ".toList = ['n', 'o', 'd', 'e', ' '] := by decide
  unfold sectionNodeName
  constructor
  · intro hsome
    split at hsome
    · rename_i hpre
      have ⟨rest, hrest⟩ := List.isPrefixOf_iff_prefix.mp hpre
      rw [Option.some.injEq, ← hrest, hprefix] at hsome
      apply String.toList_inj.mp
      rw [← hrest, String.toList_append, ← hsome]
      simp
    · simp at hsome
  · intro heq
    have hlist : sectionName.toList = "node ".toList ++ name.toList := by
      rw [heq, String.toList_append]
    rw [hlist, if_pos (List.isPrefixOf_iff_prefix.mpr (List.prefix_append _ _)), hprefix]
    simp

/-- A section adds its options to the node of its name, which it may allow. -/
lemma applySection_spec (h : Starting s) (config : Config) (sectionName : String) :
    Starting (s.applySection config sectionName) ∧
      ∀ name, (s.applySection config sectionName).configOf name =
        if sectionName = "node " ++ name ∧
            ((s.configOf name).isSome || cfgSGetBoolValue config sectionName "Allowed") then
          some (withSection config sectionName ((s.configOf name).getD (none, [])))
        else s.configOf name := by
  match hsection : sectionNodeName sectionName with
  | none =>
    rw [show s.applySection config sectionName = s by simp only [applySection, hsection]]
    refine ⟨h, fun name => ?_⟩
    rw [if_neg]
    intro ⟨heq, _⟩
    rw [sectionNodeName_eq_some_iff.mpr heq] at hsection
    simp at hsection
  | some own =>
    have hown := sectionNodeName_eq_some_iff.mp hsection
    -- The section is about one name only.
    have hiff : ∀ name, sectionName = "node " ++ name ↔ name = own := by
      intro name
      rw [← sectionNodeName_eq_some_iff, hsection, Option.some.injEq, eq_comm]
    match hfind : s.findNode own with
    | some n =>
      rw [show s.applySection config sectionName = s.setNodeOptions config sectionName n by
        simp only [applySection, hsection, hfind]]
      refine ⟨h.setNodeOptions, fun name => ?_⟩
      rw [configOf_setNodeOptions h hfind]
      simp only [hiff]
      have hsome : s.configOf own = some ((s.node n).requiredSelinuxContext,
          (s.node n).allowedProxyTargets) := by
        unfold configOf
        rw [hfind]
        rfl
      by_cases hname : name = own
      · simp [hname, hsome]
      · simp [hname]
    | none =>
      have hnone : s.configOf own = none := by
        unfold configOf
        rw [hfind]
        rfl
      rw [show s.applySection config sectionName =
          if cfgSGetBoolValue config sectionName "Allowed" then
            (s.addNode (some own)).setNodeOptions config sectionName s.nextPtr
          else s by simp only [applySection, hsection, hfind]]
      by_cases hallowed : cfgSGetBoolValue config sectionName "Allowed" = true
      · rw [if_pos hallowed]
        have hadded := h.addNode hfind
        have hself : (s.addNode (some own)).findNode own = some s.nextPtr := by
          rw [findNode_addNode h hfind, if_pos rfl]
        refine ⟨hadded.setNodeOptions, fun name => ?_⟩
        rw [configOf_setNodeOptions hadded hself, configOf_addNode h hfind,
          configOf_addNode h hfind]
        simp only [hiff]
        by_cases hname : name = own
        · simp [hname, hnone, hallowed]
        · simp [hname]
      · rw [if_neg hallowed]
        refine ⟨h, fun name => ?_⟩
        rw [if_neg]
        intro ⟨heq, hor⟩
        rw [(hiff name).mp heq, hnone] at hor
        simp [hallowed] at hor

lemma applySections_spec (config : Config) (sections : List String) (hnodup : sections.Nodup)
    (s : Controller) (h : Starting s) : Starting (sections.foldl (applySection config) s) ∧
      ∀ name, (sections.foldl (applySection config) s).configOf name =
        if "node " ++ name ∈ sections ∧ ((s.configOf name).isSome ||
            cfgSGetBoolValue config ("node " ++ name) "Allowed") then
          some (withSection config ("node " ++ name) ((s.configOf name).getD (none, [])))
        else s.configOf name := by
  induction sections generalizing s with
  | nil => exact ⟨h, fun name => by simp⟩
  | cons first sections ih =>
    have ⟨hnotin, hrestNodup⟩ := List.nodup_cons.mp hnodup
    have ⟨hfirst, hconfig⟩ := applySection_spec h config first
    have ⟨hrest, hall⟩ := ih hrestNodup _ hfirst
    refine ⟨hrest, fun name => ?_⟩
    rw [List.foldl_cons, hall, hconfig]
    by_cases heq : first = "node " ++ name
    · -- No later section is about that name.
      rw [heq] at hnotin
      simp [heq, hnotin]
    · simp [heq, Ne.symm heq]

/-! ## The result -/

/-- The options in a section. -/
def sectionOptions (config : Config) (sectionName : String) : Option String × List String :=
  withSection config sectionName (none, [])

/-- A name that the configuration allows: it is between the commas of `AllowedNodeNames`, or its
section says so. -/
def AllowedName (config : Config) (name : String) : Prop :=
  (∃ list, cfgGetValue config "AllowedNodeNames" = some list ∧
    name.toList ∈ fields ',' list.toList) ∨
  ("node " ++ name ∈ cfgListSections config ∧
    cfgSGetBoolValue config ("node " ++ name) "Allowed" = true)

lemma mem_names_iff (list : String) : name ∈ names list ↔ name.toList ∈ fields ',' list.toList := by
  unfold names
  rw [tokens_eq_fields, List.mem_map]
  constructor
  · intro ⟨field, hfield, heq⟩
    rw [← heq, String.toList_ofList]
    exact hfield
  · intro hfield
    exact ⟨name.toList, hfield, String.ofList_toList⟩

lemma allowedName_iff : AllowedName config name ↔
    name ∈ namesOf (cfgGetValue config "AllowedNodeNames") ∨
      cfgSGetBoolValue config ("node " ++ name) "Allowed" = true := by
  unfold AllowedName namesOf
  rw [and_iff_right_of_imp mem_cfgListSections_of_bool]
  match cfgGetValue config "AllowedNodeNames" with
  | none => simp
  | some list => simp [mem_names_iff]

instance : Decidable (AllowedName config name) := decidable_of_iff _ allowedName_iff.symm

/-- A section that is not listed has no options. -/
lemma sectionOptions_of_not_mem (hnot : sectionName ∉ cfgListSections config) :
    sectionOptions config sectionName = (none, []) := by
  have hnone : ∀ option, cfgSGetValue config sectionName option = none := by
    intro option
    by_contra hsome
    have ⟨value, hvalue⟩ := Option.ne_none_iff_exists'.mp hsome
    exact hnot (mem_cfgListSections_of_value hvalue)
  simp [sectionOptions, withSection, hnone, namesOf]

theorem applyNodes_spec (h : Starting s) (hfresh : s.nodes = []) (config : Config) :
    Starting (s.applyNodes config) ∧ ∀ name, (s.applyNodes config).configOf name =
      if AllowedName config name then some (sectionOptions config ("node " ++ name)) else none := by
  have hempty : ∀ name, s.configOf name = none := by
    intro name
    simp [configOf, findNode, hfresh]
  have ⟨hallowed, hnamed⟩ :=
    allowNodes_spec (namesOf (cfgGetValue config "AllowedNodeNames")) s h
  have ⟨hall, hsections⟩ :=
    applySections_spec config _ (cfgListSections_spec config).1 _ hallowed
  refine ⟨hall, fun name => ?_⟩
  have hresult : (s.applyNodes config).configOf name = _ := hsections name
  rw [hresult, hnamed, hempty]
  simp only [allowedName_iff]
  by_cases hlisted : "node " ++ name ∈ cfgListSections config
  · by_cases hname : name ∈ namesOf (cfgGetValue config "AllowedNodeNames")
    · simp [hlisted, hname, sectionOptions]
    · simp [hlisted, hname, sectionOptions]
  · rw [if_neg (fun hand => hlisted hand.1)]
    have hnot : ¬cfgSGetBoolValue config ("node " ++ name) "Allowed" = true :=
      mt mem_cfgListSections_of_bool hlisted
    rw [sectionOptions_of_not_mem hlisted]
    simp [hnot]

/-- The nodes are those that the configuration allows, each with the options of its section. -/
structure ConfiguredNodes (config : Config) (s : Controller) : Prop where
  names : ∀ name, some name ∈ s.nodes.map (fun n => (s.node n).name) ↔ AllowedName config name
  named : ∀ n ∈ s.nodes, (s.node n).name ≠ none
  once : (s.nodes.map fun n => (s.node n).name).Nodup
  count : s.numberOfNodes = s.nodes.length
  paths : (s.nodes.map fun n => (s.node n).name.map nodeObjectPath).Nodup
  context : ∀ n ∈ s.nodes, ∀ name, (s.node n).name = some name →
    (s.node n).requiredSelinuxContext =
      cfgSGetValue config ("node " ++ name) "RequiredSelinuxContext"
  targets : ∀ n ∈ s.nodes, ∀ name, (s.node n).name = some name →
    (s.node n).allowedProxyTargets.map String.toList =
      match cfgSGetValue config ("node " ++ name) "AllowDependenciesOn" with
      | none => []
      | some list => fields ',' list.toList
  unset : ∀ n ∈ s.nodes, ∀ name, (s.node n).name = some name →
    "node " ++ name ∉ cfgListSections config →
      (s.node n).requiredSelinuxContext = none ∧ (s.node n).allowedProxyTargets = []

lemma controllerApplyConfig_eq_some {settings : Settings} {s' : Controller}
    (happly : s.controllerApplyConfig config = some (settings, s')) :
    ∃ threshold, s' = { s.applyNodes config with heartbeatThresholdMsec := threshold } := by
  unfold controllerApplyConfig at happly
  simp only [Option.bind_eq_bind, Option.bind_eq_some_iff, Option.pure_def, Option.some.injEq,
    Prod.mk.injEq] at happly
  have ⟨_, _, _, _, threshold, _, _, _, _, _, _, _, _, hs⟩ := happly
  exact ⟨threshold, hs.symm⟩

lemma toList_names (list : String) : (names list).map String.toList = fields ',' list.toList := by
  unfold names
  rw [List.map_map, tokens_eq_fields]
  have hid : String.toList ∘ String.ofList = id := by
    funext cs
    exact String.toList_ofList
  rw [hid, List.map_id]

/-- The names that are listed. -/
lemma mem_names_of_apply {settings : Settings}
    (happly : controllerNew.controllerApplyConfig config = some (settings, s)) (name : String) :
    some name ∈ s.nodes.map (fun n => (s.node n).name) ↔ AllowedName config name := by
  have ⟨threshold, hs⟩ := controllerApplyConfig_eq_some happly
  have ⟨hstarting, hconfig⟩ :=
    applyNodes_spec (Starting.new controllerNew.heartbeatThresholdMsec) rfl config
  -- A name is listed when its node is found.
  have hlisted : some name ∈ (controllerNew.applyNodes config).nodes.map
      (fun n => ((controllerNew.applyNodes config).node n).name) ↔
        ((controllerNew.applyNodes config).configOf name).isSome = true := by
    rw [List.mem_map, configOf, Option.isSome_map, Option.isSome_iff_exists]
    exact exists_congr fun n => (hstarting.registry.findNode_eq_some_iff name n).symm
  rw [hs]
  show some name ∈ (controllerNew.applyNodes config).nodes.map _ ↔ _
  rw [hlisted, show (controllerNew.applyNodes config).configOf name = _ from hconfig name]
  by_cases hallowed : AllowedName config name
  · simp [hallowed]
  · simp [hallowed]

theorem controllerApplyConfig_configuredNodes {settings : Settings}
    (happly : controllerNew.controllerApplyConfig config = some (settings, s)) :
    ConfiguredNodes config s := by
  have hnames := mem_names_of_apply happly
  have ⟨threshold, hs⟩ := controllerApplyConfig_eq_some happly
  have ⟨hstarting, hconfig⟩ :=
    applyNodes_spec (Starting.new controllerNew.heartbeatThresholdMsec) rfl config
  rw [hs] at hnames ⊢
  have hregistry := hstarting.registry
  -- A node of a name has the options that the configuration gives to that name.
  have hoptions : ∀ n ∈ (controllerNew.applyNodes config).nodes, ∀ name,
      ((controllerNew.applyNodes config).node n).name = some name →
        (((controllerNew.applyNodes config).node n).requiredSelinuxContext,
          ((controllerNew.applyNodes config).node n).allowedProxyTargets) =
            sectionOptions config ("node " ++ name) := by
    intro n hn name hname
    have hfind := (hregistry.findNode_eq_some_iff name n).mpr ⟨hn, hname⟩
    have hof := hconfig name
    unfold configOf at hof
    rw [show { controllerNew with heartbeatThresholdMsec := controllerNew.heartbeatThresholdMsec } =
      controllerNew from rfl, hfind, Option.map_some] at hof
    by_cases hallowed : AllowedName config name
    · rw [if_pos hallowed] at hof
      exact Option.some.inj hof
    · rw [if_neg hallowed] at hof
      simp at hof
  constructor
  · exact hnames
  · exact hregistry.named
  · exact hregistry.distinct
  · exact hregistry.count
  · have hpaths := hregistry.distinct.map
      (Option.map_injective (assembleObjectPathString_injective "/org/eclipse/bluechi/node"))
    rw [List.map_map] at hpaths
    exact hpaths
  · intro n hn name hname
    have heq := congrArg Prod.fst (hoptions n hn name hname)
    simpa [sectionOptions, withSection] using heq
  · intro n hn name hname
    have heq : ((controllerNew.applyNodes config).node n).allowedProxyTargets =
        [] ++ namesOf (cfgSGetValue config ("node " ++ name) "AllowDependenciesOn") :=
      congrArg Prod.snd (hoptions n hn name hname)
    show ((controllerNew.applyNodes config).node n).allowedProxyTargets.map String.toList = _
    rw [heq]
    match cfgSGetValue config ("node " ++ name) "AllowDependenciesOn" with
    | none => rfl
    | some list => exact toList_names list
  · intro n hn name hname hnot
    have heq := hoptions n hn name hname
    rw [sectionOptions_of_not_mem hnot] at heq
    exact ⟨congrArg Prod.fst heq, congrArg Prod.snd heq⟩

/-- Three nodes, two of them with a section. -/
def fleetConfig : Config :=
  cfgSSetValue (cfgSSetValue (cfgSSetValue (cfgSSetValue
    { cfgInitialize with defaultSection := "bluechi-controller" }
    "bluechi-controller" "AllowedNodeNames" (some "laptop,,pi,laptop"))
    "node pi" "AllowDependenciesOn" (some "laptop,car"))
    "node car" "Allowed" (some "yes"))
    "node tv" "RequiredSelinuxContext" (some "system_u:system_r:bluechi_agent_t:s0")

theorem controllerApplyConfig_fleetConfig : ∃ settings s,
    controllerNew.controllerApplyConfig fleetConfig = some (settings, s) ∧
      ConfiguredNodes fleetConfig s :=
  ⟨_, _, rfl, controllerApplyConfig_configuredNodes rfl⟩

/-! ## Every configuration starts a run -/

lemma allowNode_eq (s : Controller) (name : String) :
    s.allowNode name = s.applyNodeConfig ⟨name, none, []⟩ := by
  have hsame : ∀ (s : Controller) (n : NodeId), (s.modifyNode n fun node => { node with
      requiredSelinuxContext := (none : Option String).or node.requiredSelinuxContext
      allowedProxyTargets := node.allowedProxyTargets ++ [] }) = s := by
    intro s n
    simp [modifyNode]
  unfold allowNode applyNodeConfig
  dsimp only
  rw [hsame]

lemma applySection_eq (config : Config) (s : Controller) (sectionName : String) :
    s.applySection config sectionName = s ∨
      ∃ cfg, s.applySection config sectionName = s.applyNodeConfig cfg := by
  match hsection : sectionNodeName sectionName with
  | none => exact Or.inl (by simp only [applySection, hsection])
  | some name =>
    match hfind : s.findNode name with
    | some n =>
      apply Or.inr
      refine ⟨⟨name, cfgSGetValue config sectionName "RequiredSelinuxContext",
        namesOf (cfgSGetValue config sectionName "AllowDependenciesOn")⟩, ?_⟩
      simp [applySection, hsection, hfind, applyNodeConfig, setNodeOptions]
    | none =>
      by_cases hallowed : cfgSGetBoolValue config sectionName "Allowed" = true
      · apply Or.inr
        refine ⟨⟨name, cfgSGetValue config sectionName "RequiredSelinuxContext",
          namesOf (cfgSGetValue config sectionName "AllowDependenciesOn")⟩, ?_⟩
        simp [applySection, hsection, hfind, hallowed, applyNodeConfig, setNodeOptions]
      · exact Or.inl (by simp [applySection, hsection, hfind, hallowed])

lemma applySections_eq (config : Config) (sections : List String) (s : Controller) :
    ∃ cfgs : List NodeConfig,
      sections.foldl (applySection config) s = cfgs.foldl applyNodeConfig s := by
  induction sections generalizing s with
  | nil => exact ⟨[], rfl⟩
  | cons first sections ih =>
    have ⟨cfgs, hcfgs⟩ := ih (s.applySection config first)
    apply (applySection_eq config s first).elim
    · intro heq
      rw [heq] at hcfgs
      refine ⟨cfgs, ?_⟩
      rw [List.foldl_cons, heq]
      exact hcfgs
    · intro ⟨cfg, heq⟩
      refine ⟨cfg :: cfgs, ?_⟩
      rw [List.foldl_cons, List.foldl_cons, hcfgs, heq]

/-- The threshold does not matter to the nodes. -/
lemma applyNodeConfigs_threshold (cfgs : List NodeConfig) (threshold : ℤ) (s : Controller) :
    { cfgs.foldl applyNodeConfig s with heartbeatThresholdMsec := threshold } =
      cfgs.foldl applyNodeConfig { s with heartbeatThresholdMsec := threshold } := by
  induction cfgs generalizing s with
  | nil => rfl
  | cons cfg cfgs ih =>
    have hone : { s.applyNodeConfig cfg with heartbeatThresholdMsec := threshold } =
        ({ s with heartbeatThresholdMsec := threshold } : Controller).applyNodeConfig cfg := by
      unfold applyNodeConfig
      rw [show ({ s with heartbeatThresholdMsec := threshold } : Controller).findNode cfg.name =
        s.findNode cfg.name from rfl]
      match s.findNode cfg.name with
      | none => rfl
      | some n => rfl
    rw [List.foldl_cons, List.foldl_cons, ih, hone]

/-- What `controller_apply_config` makes of a fresh controller is a start of the system. -/
theorem init_of_controllerApplyConfig {settings : Settings}
    (happly : controllerNew.controllerApplyConfig config = some (settings, s)) :
    system.init s := by
  have ⟨threshold, hs⟩ := controllerApplyConfig_eq_some happly
  have ⟨cfgs, hcfgs⟩ := applySections_eq config (cfgListSections config)
    ((namesOf (cfgGetValue config "AllowedNodeNames")).foldl allowNode controllerNew)
  have hnamed : ∀ (allowed : List String) (s : Controller), allowed.foldl allowNode s =
      (allowed.map (⟨·, none, []⟩)).foldl applyNodeConfig s := by
    intro allowed
    induction allowed with
    | nil => exact fun _ => rfl
    | cons first allowed ih =>
      intro s
      rw [List.foldl_cons, ih, allowNode_eq]
      rfl
  have happlied : ∃ cfgs : List NodeConfig,
      controllerNew.applyNodes config = cfgs.foldl applyNodeConfig controllerNew := by
    refine ⟨(namesOf (cfgGetValue config "AllowedNodeNames")).map (⟨·, none, []⟩) ++ cfgs, ?_⟩
    rw [applyNodes, hcfgs, hnamed, ← List.foldl_append]
  have ⟨all, hall⟩ := happlied
  refine ⟨threshold, all, ?_⟩
  rw [hs, hall]
  exact applyNodeConfigs_threshold all threshold controllerNew

end Controller
end BlueChi
