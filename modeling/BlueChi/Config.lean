import Mathlib.Data.List.Induction
import Mathlib.Data.List.Sort
import Mathlib.Data.String.Basic
import BlueChi.Library.Hashmap

/-!
# The configuration

The configuration is read from several sources, each of which hides what the ones before it say.
Within one file the values of a key are put together. A file is read into a map of its own, which
is copied when the whole file could be parsed.
-/

namespace BlueChi
namespace Cfg

/-! ## The map -/

/-- `struct config_option`. -/
structure ConfigOption where
  sectionName : String
  name : String
  value : Option String
  deriving DecidableEq

/-- What options are compared by. -/
def ConfigOption.key (o : ConfigOption) : String × String := (o.sectionName, o.name)

/-- `struct config`: the options with distinct keys, and the default section. -/
structure Config where
  cfgStore : List ConfigOption
  defaultSection : String
  distinct : (cfgStore.map ConfigOption.key).Nodup

/-- `hashmap_set` on the store. -/
def Config.put (config : Config) (o : ConfigOption) : Config where
  cfgStore := Keyed.put ConfigOption.key config.cfgStore o
  defaultSection := config.defaultSection
  distinct := Keyed.nodup_put config.distinct o

/-- `cfg_initialize`. -/
def cfgInitialize : Config := ⟨[], "", List.nodup_nil⟩

/-- `cfg_s_set_value`; an empty value is none. -/
def cfgSSetValue (config : Config) (sectionName name : String) (value : Option String) : Config :=
  config.put ⟨sectionName, name, value.filter (· ≠ "")⟩

/-- `cfg_set_value`. -/
def cfgSetValue (config : Config) (name : String) (value : Option String) : Config :=
  cfgSSetValue config config.defaultSection name value

/-- `cfg_s_get_value`. -/
def cfgSGetValue (config : Config) (sectionName name : String) : Option String :=
  (Keyed.get ConfigOption.key config.cfgStore (sectionName, name)).bind (·.value)

/-- `cfg_get_value`. -/
def cfgGetValue (config : Config) (name : String) : Option String :=
  cfgSGetValue config config.defaultSection name

/-- `cfg_s_get_bool_value`; `strcasecmp` does not tell upper from lower case. -/
def cfgSGetBoolValue (config : Config) (sectionName name : String) : Bool :=
  match cfgSGetValue config sectionName name with
  | some value => value.toLower ∈ ["true", "t", "yes", "y", "on"]
  | none => false

/-- `cfg_get_bool_value`. -/
def cfgGetBoolValue (config : Config) (name : String) : Bool :=
  cfgSGetBoolValue config config.defaultSection name

/-- `cfg_list_sections`: the set of all sections, in order. -/
def cfgListSections (config : Config) : List String :=
  (config.cfgStore.foldl (fun sections o =>
    if (Keyed.get id sections o.sectionName).isSome then sections
    else Keyed.put id sections o.sectionName) []).mergeSort fun a b => a ≤ b

/-- `cfg_copy_overwrite`. -/
def cfgCopyOverwrite (src dst : Config) : Config :=
  src.cfgStore.foldl (fun dst o => cfgSSetValue dst o.sectionName o.name o.value) dst

/-! ## Files -/

/-- What the parser reports about one line. -/
structure IniEvent where
  sectionName : String
  name : String
  value : String
  deriving DecidableEq

def IniEvent.key (e : IniEvent) : String × String := (e.sectionName, e.name)

/-- A file: the `errno` of `access`, what `ini_parse` returns when the handler accepts all lines (the
number of a bad line, or a negative number when the file cannot be opened), and the lines. -/
structure IniFile where
  errno : ℕ
  parsed : ℤ
  events : List IniEvent
  deriving DecidableEq

/-- `parsing_handler`; it accepts every line. -/
def parsingHandler (config : Config) (e : IniEvent) : Config :=
  match cfgSGetValue config e.sectionName e.name with
  | some existing => cfgSSetValue config e.sectionName e.name (some (existing ++ e.value))
  | none => cfgSSetValue config e.sectionName e.name (some e.value)

/-- `cfg_load_from_file`. -/
def cfgLoadFromFile (config : Config) (file : IniFile) : ℤ × Config :=
  if file.errno ≠ 0 then (-file.errno, config)
  else if file.parsed ≠ 0 then (file.parsed, config)
  else (0, cfgCopyOverwrite (file.events.foldl parsingHandler cfgInitialize) config)

/-- A directory: whether it is there, the `errno` of `scandir`, and its entries. -/
structure ConfDir where
  found : Bool
  errno : ℕ
  entries : List (String × IniFile)
  deriving DecidableEq

/-- `is_file_name_ending_with_conf`. -/
def isFileNameEndingWithConf (entry : String × IniFile) : Bool :=
  ".conf".toList.isSuffixOf entry.1.toList

/-- What `scandir` returns: the files ending with .conf, ordered by `alphasort`. -/
def ConfDir.files (dir : ConfDir) : List (String × IniFile) :=
  (dir.entries.filter isFileNameEndingWithConf).mergeSort fun a b => a.1 ≤ b.1

/-- The loop of `cfg_load_from_dir`, with the result so far. -/
def loadFiles (config : Config) (result : ℤ) : List IniFile → ℤ × Config
  | [] => (result, config)
  | file :: files =>
    match cfgLoadFromFile config file with
    | (result, config) => if result < 0 then (result, config) else loadFiles config result files

/-- `cfg_load_from_dir`. -/
def cfgLoadFromDir (config : Config) (dir : ConfDir) : ℤ × Config :=
  if !dir.found then (0, config)
  else if dir.errno ≠ 0 then (-dir.errno, config)
  else loadFiles config 0 (dir.files.map (·.2))

/-! ## All sources -/

/-- The environment variables and the options that they set. -/
def envVars : List (String × String) :=
  [("BC_LOG_LEVEL", "LogLevel"), ("BC_LOG_TARGET", "LogTarget"), ("BC_LOG_IS_QUIET", "LogIsQuiet")]

/-- `cfg_load_from_env`, with `getenv`. -/
def cfgLoadFromEnv (config : Config) (getenv : String → Option String) : Config :=
  envVars.foldl (fun config v =>
    match (getenv v.1).filter (· ≠ "") with
    | some value => cfgSetValue config v.2 (some value)
    | none => config) config

def eNoEnt : ℤ := 2
def eInval : ℤ := 22

/-- The result when a source could not be loaded. -/
def failure (result : ℤ) : ℤ := if result < 0 then result else -eInval

/-- Load a file if there is one, and go on unless that fails. -/
def loadThen (config : Config) (file : Option IniFile) (excused : ℤ → Bool)
    (next : Config → ℤ × Config) : ℤ × Config :=
  match file with
  | none => next config
  | some file =>
    match cfgLoadFromFile config file with
    | (result, config) =>
      if result = 0 ∨ excused result = true then next config else (failure result, config)

/-- `cfg_load_complete_configuration`. -/
def cfgLoadCompleteConfiguration (config : Config) (defaultConfigFile customConfigFile : Option IniFile)
    (customConfigDirectory : Option ConfDir) (getenv : String → Option String)
    (cliOptionConfigFile : Option IniFile) : ℤ × Config :=
  loadThen config defaultConfigFile (fun _ => false) fun config =>
  loadThen config customConfigFile (fun result => result = -eNoEnt) fun config =>
  match (customConfigDirectory.map (cfgLoadFromDir config)).getD (0, config) with
  | (result, config) =>
    if result ≠ 0 then (failure result, config)
    else loadThen (cfgLoadFromEnv config getenv) cliOptionConfigFile (fun _ => false)
      fun config => (0, config)

/-! ## What the sources say -/

/-- What a source says of a key: nothing, or the values that it has for it, put together. -/
def sourceValue (events : List IniEvent) (k : String × String) : Option String :=
  match events.filter fun e => e.key = k with
  | [] => none
  | found => some (String.join (found.map (·.value)))

/-- The value of a key is the one of the last source that has one, unless that is empty. A key that
no source has keeps its value. -/
def lastValue (sources : List (List IniEvent)) (k : String × String) (initial : Option String) :
    Option String :=
  match (sources.filterMap (sourceValue · k)).getLast? with
  | some value => if value = "" then none else some value
  | none => initial

/-- A file that is not there or could not be parsed says nothing. -/
def IniFile.lines (file : IniFile) : List IniEvent :=
  if file.errno = 0 ∧ file.parsed = 0 then file.events else []

def ConfDir.sources (dir : ConfDir) : List (List IniEvent) :=
  if dir.found then dir.files.map (·.2.lines) else []

/-- The environment variables that are not empty, one source each. -/
def envSources (defaultSection : String) (getenv : String → Option String) : List (List IniEvent) :=
  envVars.filterMap fun v => ((getenv v.1).filter (· ≠ "")).map fun value => [⟨defaultSection, v.2, value⟩]

/-- All sources, in their order. -/
def sources (defaultSection : String) (defaultConfigFile customConfigFile : Option IniFile)
    (customConfigDirectory : Option ConfDir) (getenv : String → Option String)
    (cliOptionConfigFile : Option IniFile) : List (List IniEvent) :=
  (defaultConfigFile.map (·.lines)).toList ++ (customConfigFile.map (·.lines)).toList ++
    (customConfigDirectory.map (·.sources)).getD [] ++ envSources defaultSection getenv ++
    (cliOptionConfigFile.map (·.lines)).toList

@[simp] lemma sourceValue_nil (k : String × String) : sourceValue [] k = none := rfl

lemma sourceValue_snoc (events : List IniEvent) (e : IniEvent) (k : String × String) :
    sourceValue (events ++ [e]) k =
      if e.key = k then some ((sourceValue events k).getD "" ++ e.value) else sourceValue events k := by
  have hjoin : ∀ values : List String, String.join (values ++ [e.value]) =
      String.join values ++ e.value := by
    intro values
    simp [String.join, List.foldl_append]
  unfold sourceValue
  rw [List.filter_append]
  by_cases hk : e.key = k
  · rw [if_pos hk, show [e].filter (fun e => e.key = k) = [e] by simp [hk]]
    cases hfound : events.filter fun e => e.key = k with
    | nil => simp [String.join]
    | cons a found =>
      show some (String.join ((a :: found ++ [e]).map (·.value))) = _
      rw [List.map_append]
      exact congrArg some (hjoin _)
  · rw [if_neg hk, show [e].filter (fun e => e.key = k) = [] by simp [hk], List.append_nil]

lemma sourceValue_one (e : IniEvent) (k : String × String) :
    sourceValue [e] k = if e.key = k then some e.value else none := by
  have hsnoc := sourceValue_snoc [] e k
  rw [List.nil_append] at hsnoc
  rw [hsnoc]
  simp

lemma lastValue_append (l l' : List (List IniEvent)) (k : String × String) (initial : Option String) :
    lastValue (l ++ l') k initial = lastValue l' k (lastValue l k initial) := by
  unfold lastValue
  rw [List.filterMap_append, List.getLast?_append]
  cases (l'.filterMap (sourceValue · k)).getLast? with
  | none => rfl
  | some value => rfl

@[simp] lemma lastValue_nil (k : String × String) (initial : Option String) :
    lastValue [] k initial = initial := rfl

lemma lastValue_singleton (events : List IniEvent) (k : String × String) (initial : Option String) :
    lastValue [events] k initial = match sourceValue events k with
      | some value => (some value).filter (· ≠ "")
      | none => initial := by
  unfold lastValue
  cases hvalue : sourceValue events k with
  | none => simp [hvalue]
  | some value =>
    simp only [List.filterMap_cons, hvalue, List.filterMap_nil, List.getLast?_singleton]
    by_cases hempty : value = ""
    · simp [hempty, Option.filter]
    · simp [hempty, Option.filter]

/-! ## Reading a file -/

/-- The option of a key. -/
def Config.option (config : Config) (k : String × String) : Option ConfigOption :=
  Keyed.get ConfigOption.key config.cfgStore k

/-- The value of a key. -/
def Config.value (config : Config) (k : String × String) : Option String := cfgSGetValue config k.1 k.2

lemma Config.value_eq (config : Config) (k : String × String) :
    config.value k = (config.option k).bind (·.value) := rfl

lemma option_cfgSSetValue (config : Config) (sectionName name : String) (value : Option String)
    (k : String × String) : (cfgSSetValue config sectionName name value).option k =
      if (sectionName, name) = k then some ⟨sectionName, name, value.filter (· ≠ "")⟩
      else config.option k :=
  Keyed.get_put _ _ _

lemma parsingHandler_eq (config : Config) (e : IniEvent) : parsingHandler config e =
    cfgSSetValue config e.sectionName e.name (some ((config.value e.key).getD "" ++ e.value)) := by
  unfold parsingHandler
  show _ = cfgSSetValue config e.sectionName e.name
    (some ((cfgSGetValue config e.sectionName e.name).getD "" ++ e.value))
  cases cfgSGetValue config e.sectionName e.name with
  | none => simp
  | some existing => rfl

/-- The map that a file is read into. -/
lemma option_parsed (events : List IniEvent) (k : String × String) :
    (events.foldl parsingHandler cfgInitialize).option k =
      (sourceValue events k).map fun value => ⟨k.1, k.2, (some value).filter (· ≠ "")⟩ := by
  induction events using List.reverseRecOn generalizing k with
  | nil => rfl
  | append_singleton events e ih =>
    rw [List.foldl_append, List.foldl_cons, List.foldl_nil, sourceValue_snoc]
    -- a value so far that is empty adds as little as none
    have hbefore : ((events.foldl parsingHandler cfgInitialize).value e.key).getD "" =
        (sourceValue events e.key).getD "" := by
      rw [Config.value_eq, ih]
      cases sourceValue events e.key with
      | none => rfl
      | some value =>
        by_cases hempty : value = ""
        · simp [hempty, Option.filter]
        · simp [hempty, Option.filter]
    rw [parsingHandler_eq, hbefore, option_cfgSSetValue]
    show (if e.key = k then _ else _) = _
    by_cases hk : e.key = k
    · rw [if_pos hk, if_pos hk, ← hk]
      rfl
    · rw [if_neg hk, if_neg hk]
      exact ih k

/-- An option as it is set. -/
def ConfigOption.set (o : ConfigOption) : ConfigOption := { o with value := o.value.filter (· ≠ "") }

/-- Copying does not depend on the order in which the source is visited. -/
lemma option_cfgCopyOverwrite (src dst : Config) (k : String × String) :
    (cfgCopyOverwrite src dst).option k = ((src.option k).map ConfigOption.set).or (dst.option k) := by
  have hstore : ∀ (l : List ConfigOption) (dst : Config),
      (l.foldl (fun dst o => cfgSSetValue dst o.sectionName o.name o.value) dst).cfgStore =
        (l.map ConfigOption.set).foldl (Keyed.put ConfigOption.key) dst.cfgStore := by
    intro l
    induction l with
    | nil => exact fun _ => rfl
    | cons o l ih => exact fun dst => ih _
  have hkeys : (src.cfgStore.map ConfigOption.set).map ConfigOption.key =
      src.cfgStore.map ConfigOption.key := by
    rw [List.map_map]
    rfl
  have hdistinct : ((src.cfgStore.map ConfigOption.set).map ConfigOption.key).Nodup := by
    rw [hkeys]
    exact src.distinct
  have hmap : Keyed.get ConfigOption.key (src.cfgStore.map ConfigOption.set) k =
      (Keyed.get ConfigOption.key src.cfgStore k).map ConfigOption.set :=
    Keyed.get_map (f := ConfigOption.set) (fun _ => rfl) _ k
  show Keyed.get _ (cfgCopyOverwrite src dst).cfgStore k = _
  rw [cfgCopyOverwrite, hstore, Keyed.get_foldl_put hdistinct, hmap]
  rfl

lemma defaultSection_cfgCopyOverwrite (src dst : Config) :
    (cfgCopyOverwrite src dst).defaultSection = dst.defaultSection := by
  unfold cfgCopyOverwrite
  generalize src.cfgStore = l
  induction l generalizing dst with
  | nil => rfl
  | cons o l ih => exact ih _

/-- The values after some sources. -/
structure Layers (sources : List (List IniEvent)) (config config' : Config) : Prop where
  defaultSection : config'.defaultSection = config.defaultSection
  value : ∀ k, config'.value k = lastValue sources k (config.value k)

namespace Layers

variable {l l' : List (List IniEvent)} {config config' config'' : Config}

lemma refl (config : Config) : Layers [] config config := ⟨rfl, fun _ => rfl⟩

lemma trans (h : Layers l config config') (h' : Layers l' config' config'') :
    Layers (l ++ l') config config'' := by
  refine ⟨h'.defaultSection.trans h.defaultSection, fun k => ?_⟩
  rw [lastValue_append, h'.value, h.value]

/-- A source that says nothing. -/
lemma silent (config : Config) : Layers [[]] config config := ⟨rfl, fun _ => rfl⟩

end Layers

lemma layers_cfgLoadFromFile (config : Config) (file : IniFile) :
    Layers [file.lines] config (cfgLoadFromFile config file).2 := by
  unfold cfgLoadFromFile IniFile.lines
  by_cases herrno : file.errno = 0
  · rw [if_neg (not_not.mpr herrno)]
    by_cases hparsed : file.parsed = 0
    · rw [if_neg (not_not.mpr hparsed), if_pos ⟨herrno, hparsed⟩]
      refine ⟨defaultSection_cfgCopyOverwrite _ _, fun k => ?_⟩
      rw [lastValue_singleton, Config.value_eq, option_cfgCopyOverwrite, option_parsed]
      cases sourceValue file.events k with
      | none => rfl
      | some value =>
        by_cases hempty : value = ""
        · simp [hempty, ConfigOption.set, Option.filter]
        · simp [hempty, ConfigOption.set, Option.filter]
    · rw [if_pos hparsed, if_neg fun h => hparsed h.2]
      exact .silent config
  · rw [if_pos herrno, if_neg fun h => herrno h.1]
    exact .silent config

/-! ## All sources -/

lemma layers_loadFiles (config : Config) (result : ℤ) (files : List IniFile)
    (hresult : (loadFiles config result files).1 = 0) :
    Layers (files.map (·.lines)) config (loadFiles config result files).2 := by
  induction files generalizing config result with
  | nil => exact .refl config
  | cons file files ih =>
    have hfile := layers_cfgLoadFromFile config file
    unfold loadFiles at hresult ⊢
    generalize cfgLoadFromFile config file = loaded at hresult hfile ⊢
    have ⟨result', config'⟩ := loaded
    simp only at hresult ⊢
    by_cases hneg : result' < 0
    · rw [if_pos hneg] at hresult
      exact absurd hresult (ne_of_lt hneg)
    · rw [if_neg hneg] at hresult ⊢
      exact hfile.trans (ih config' result' hresult)

lemma layers_cfgLoadFromDir (config : Config) (dir : ConfDir)
    (hresult : (cfgLoadFromDir config dir).1 = 0) :
    Layers dir.sources config (cfgLoadFromDir config dir).2 := by
  unfold cfgLoadFromDir at hresult ⊢
  unfold ConfDir.sources
  cases hfound : dir.found with
  | false => exact .refl config
  | true =>
    simp only [hfound, Bool.not_true, Bool.false_eq_true, if_false, if_true] at hresult ⊢
    by_cases herrno : dir.errno = 0
    · rw [if_neg (not_not.mpr herrno)] at hresult ⊢
      have hfiles := layers_loadFiles config 0 (dir.files.map (·.2)) hresult
      rwa [List.map_map] at hfiles
    · rw [if_pos herrno] at hresult
      have hzero : -(dir.errno : ℤ) = 0 := hresult
      omega

lemma layers_cfgLoadFromEnv (config : Config) (getenv : String → Option String) :
    Layers (envSources config.defaultSection getenv) config (cfgLoadFromEnv config getenv) := by
  unfold envSources cfgLoadFromEnv
  generalize envVars = vars
  induction vars generalizing config with
  | nil => exact .refl config
  | cons v vars ih =>
    rw [List.foldl_cons, List.filterMap_cons]
    cases hvalue : (getenv v.1).filter (· ≠ "") with
    | none => exact ih config
    | some value =>
      have hne : value ≠ "" := by
        have hfilter := Option.filter_eq_some_iff.mp hvalue
        simpa using hfilter.2
      have hset : Layers [[⟨config.defaultSection, v.2, value⟩]] config
          (cfgSetValue config v.2 (some value)) := by
        refine ⟨rfl, fun k => ?_⟩
        rw [lastValue_singleton, sourceValue_one, Config.value_eq, cfgSetValue, option_cfgSSetValue]
        have hkey : IniEvent.key ⟨config.defaultSection, v.2, value⟩ =
            (config.defaultSection, v.2) := rfl
        rw [hkey]
        by_cases hk : (config.defaultSection, v.2) = k
        · rw [if_pos hk, if_pos hk]
          rfl
        · rw [if_neg hk, if_neg hk]
          rfl
      exact hset.trans (ih (cfgSetValue config v.2 (some value)))

/-- A file that is loaded, or may be missing, is a layer below all that follows. -/
lemma layers_loadThen (config : Config) (file : Option IniFile) (excused : ℤ → Bool)
    (next : Config → ℤ × Config) (hresult : (loadThen config file excused next).1 = 0) :
    ∃ config', loadThen config file excused next = next config' ∧
      Layers (file.map (·.lines)).toList config config' := by
  cases file with
  | none => exact ⟨config, rfl, .refl config⟩
  | some file =>
    have hfile := layers_cfgLoadFromFile config file
    unfold loadThen at hresult ⊢
    simp only at hresult ⊢
    generalize cfgLoadFromFile config file = loaded at hresult hfile ⊢
    have ⟨result, config'⟩ := loaded
    simp only at hresult ⊢
    by_cases hgo : result = 0 ∨ excused result = true
    · rw [if_pos hgo]
      exact ⟨config', rfl, hfile⟩
    · rw [if_neg hgo] at hresult
      have hne : result ≠ 0 := fun h => hgo (Or.inl h)
      unfold failure eInval at hresult
      simp only at hresult
      split at hresult
      · exact absurd hresult hne
      · omega

/-- The files of a directory are ordered by their names. -/
lemma ConfDir.files_sorted (dir : ConfDir) : (dir.files.map (·.1)).Pairwise (· ≤ ·) := by
  rw [List.pairwise_map]
  have htrans : ∀ a b c : String × IniFile, decide (a.1 ≤ b.1) = true → decide (b.1 ≤ c.1) = true →
      decide (a.1 ≤ c.1) = true := fun a b c hab hbc => by
    rw [decide_eq_true_eq] at hab hbc ⊢
    exact le_trans hab hbc
  have htotal : ∀ a b : String × IniFile, (decide (a.1 ≤ b.1) || decide (b.1 ≤ a.1)) = true :=
    fun a b => by
      rw [Bool.or_eq_true, decide_eq_true_eq, decide_eq_true_eq]
      exact le_total a.1 b.1
  have hsorted := List.pairwise_mergeSort htrans htotal
    (dir.entries.filter isFileNameEndingWithConf)
  exact hsorted.imp of_decide_eq_true

/-- When the configuration is loaded, each key has the value of the last source that has one for it,
and a key that no source has keeps its value. The files of the directory come in the order of their
names, and nothing is taken from a file that cannot be parsed. -/
theorem configuration_layered (config : Config) (defaultConfigFile customConfigFile : Option IniFile)
    (customConfigDirectory : Option ConfDir) (getenv : String → Option String)
    (cliOptionConfigFile : Option IniFile)
    (hresult : (cfgLoadCompleteConfiguration config defaultConfigFile customConfigFile
      customConfigDirectory getenv cliOptionConfigFile).1 = 0) :
    (∀ sectionName name, cfgSGetValue (cfgLoadCompleteConfiguration config defaultConfigFile
        customConfigFile customConfigDirectory getenv cliOptionConfigFile).2 sectionName name =
      lastValue (sources config.defaultSection defaultConfigFile customConfigFile
        customConfigDirectory getenv cliOptionConfigFile) (sectionName, name)
        (cfgSGetValue config sectionName name)) ∧
    (∀ dir ∈ customConfigDirectory, (dir.files.map (·.1)).Pairwise (· ≤ ·) ∧
      dir.files.Perm (dir.entries.filter isFileNameEndingWithConf)) ∧
    ∀ config file, file.parsed ≠ 0 → (cfgLoadFromFile config file).2 = config := by
  refine ⟨?_, fun dir _ => ⟨dir.files_sorted, List.mergeSort_perm _ _⟩, fun config file hparsed => ?_⟩
  swap
  · unfold cfgLoadFromFile
    split
    · rfl
    · rfl
  unfold cfgLoadCompleteConfiguration at hresult ⊢
  have ⟨config₁, hdefault, hlayers₁⟩ := layers_loadThen _ _ _ _ hresult
  rw [hdefault] at hresult ⊢
  have ⟨config₂, hcustom, hlayers₂⟩ := layers_loadThen _ _ _ _ hresult
  rw [hcustom] at hresult ⊢
  have hdir : ((customConfigDirectory.map (cfgLoadFromDir config₂)).getD (0, config₂)).1 = 0 →
      Layers ((customConfigDirectory.map (·.sources)).getD []) config₂
        ((customConfigDirectory.map (cfgLoadFromDir config₂)).getD (0, config₂)).2 := by
    cases customConfigDirectory with
    | none => exact fun _ => .refl config₂
    | some dir => exact layers_cfgLoadFromDir config₂ dir
  generalize (customConfigDirectory.map (cfgLoadFromDir config₂)).getD (0, config₂) = loaded
    at hresult hdir ⊢
  have ⟨result, config₃⟩ := loaded
  simp only at hresult hdir ⊢
  by_cases hzero : result = 0
  · rw [if_neg (not_not.mpr hzero)] at hresult ⊢
    have ⟨config₄, hcli, hlayers₄⟩ := layers_loadThen _ _ _ _ hresult
    rw [hcli]
    have henv := layers_cfgLoadFromEnv config₃ getenv
    have hbefore := (hlayers₁.trans hlayers₂).trans (hdir hzero)
    rw [hbefore.defaultSection] at henv
    have hall := (hbefore.trans henv).trans hlayers₄
    intro sectionName name
    exact hall.value (sectionName, name)
  · rw [if_pos hzero] at hresult
    unfold failure eInval at hresult
    simp only at hresult
    split at hresult
    · exact absurd hresult hzero
    · omega

/-- The default file names a node and a level. -/
def defaultFile : IniFile := ⟨0, 0, [⟨"", "NodeName", "laptop"⟩, ⟨"", "LogLevel", "INFO"⟩]⟩

/-- A custom file that names the node in two lines. -/
def customFile : IniFile := ⟨0, 0, [⟨"", "NodeName", "p"⟩, ⟨"", "NodeName", "i"⟩]⟩

/-- The custom file hides the name of the default one, and the environment its level. -/
theorem configuration_layered_customFile :
    cfgSGetValue (cfgLoadCompleteConfiguration cfgInitialize (some defaultFile) (some customFile) none
        (fun v => if v = "BC_LOG_LEVEL" then some "DEBUG" else none) none).2 "" "NodeName" = some "pi" ∧
      cfgSGetValue (cfgLoadCompleteConfiguration cfgInitialize (some defaultFile) (some customFile) none
        (fun v => if v = "BC_LOG_LEVEL" then some "DEBUG" else none) none).2 "" "LogLevel" =
          some "DEBUG" := by
  have hlayered := (configuration_layered cfgInitialize (some defaultFile) (some customFile) none
    (fun v => if v = "BC_LOG_LEVEL" then some "DEBUG" else none) none (by decide +kernel)).1
  constructor
  · rw [hlayered]
    decide +kernel
  · rw [hlayered]
    decide +kernel

/-! ## Sections -/

/-- Each section is listed once. -/
theorem cfgListSections_spec (config : Config) :
    (cfgListSections config).Nodup ∧ ∀ sectionName,
      sectionName ∈ cfgListSections config ↔ ∃ o ∈ config.cfgStore, o.sectionName = sectionName := by
  have hset : ∀ (store : List ConfigOption) (sections : List String), sections.Nodup →
      let found := store.foldl (fun sections o =>
        if (Keyed.get id sections o.sectionName).isSome then sections
        else Keyed.put id sections o.sectionName) sections
      found.Nodup ∧ ∀ name, name ∈ found ↔ name ∈ sections ∨ ∃ o ∈ store, o.sectionName = name := by
    intro store
    induction store with
    | nil =>
      intro sections hnodup
      exact ⟨hnodup, fun name => by simp⟩
    | cons o store ih =>
      intro sections hnodup
      have hmem : (Keyed.get id sections o.sectionName).isSome = true ↔ o.sectionName ∈ sections := by
        rw [Keyed.get, List.find?_isSome]
        simp
      have hround : (if (Keyed.get id sections o.sectionName).isSome then sections
          else Keyed.put id sections o.sectionName) =
            if o.sectionName ∈ sections then sections else sections ++ [o.sectionName] := by
        by_cases hin : o.sectionName ∈ sections
        · rw [if_pos (hmem.mpr hin), if_pos hin]
        · have hnone := mt hmem.mp hin
          rw [if_neg hnone, if_neg hin, Keyed.put]
          exact if_neg hnone
      dsimp only
      rw [List.foldl_cons, hround]
      by_cases hin : o.sectionName ∈ sections
      · rw [if_pos hin]
        obtain ⟨hfound, hall⟩ := ih sections hnodup
        refine ⟨hfound, fun name => (hall name).trans ?_⟩
        rw [List.exists_mem_cons_iff]
        constructor
        · exact fun h => h.imp id Or.inr
        · intro h
          apply h.elim
          · exact Or.inl
          · intro h
            apply h.imp
            · intro heq
              exact heq ▸ hin
            · exact id
      · rw [if_neg hin]
        have hlonger : (sections ++ [o.sectionName]).Nodup := by
          apply List.Nodup.append hnodup (List.nodup_singleton _)
          exact List.disjoint_singleton.mpr hin
        obtain ⟨hfound, hall⟩ := ih _ hlonger
        refine ⟨hfound, fun name => (hall name).trans ?_⟩
        rw [List.mem_append, List.mem_singleton, List.exists_mem_cons_iff, or_assoc, eq_comm]
  obtain ⟨hnodup, hall⟩ := hset config.cfgStore [] List.nodup_nil
  have hperm : (cfgListSections config).Perm _ := List.mergeSort_perm _ _
  refine ⟨hperm.nodup_iff.mpr hnodup, fun sectionName => ?_⟩
  rw [hperm.mem_iff, hall]
  simp

/-- A value is found in a section that is listed. -/
lemma mem_cfgListSections_of_value {config : Config} {sectionName name value : String}
    (hvalue : cfgSGetValue config sectionName name = some value) :
    sectionName ∈ cfgListSections config := by
  rw [(cfgListSections_spec config).2]
  have ⟨o, ho, _⟩ := Option.bind_eq_some_iff.mp hvalue
  refine ⟨o, Keyed.mem_of_get_eq_some ho, ?_⟩
  have hkey : o.key = (sectionName, name) := Keyed.key_of_get_eq_some ho
  exact congrArg Prod.fst hkey

lemma mem_cfgListSections_of_bool {config : Config} {sectionName name : String}
    (hvalue : cfgSGetBoolValue config sectionName name = true) :
    sectionName ∈ cfgListSections config := by
  unfold cfgSGetBoolValue at hvalue
  split at hvalue
  · rename_i value hsome
    exact mem_cfgListSections_of_value hsome
  · exact Bool.noConfusion hvalue

/-! ## Errors in a directory -/

/-- The file can be read and parsed. -/
def IniFile.loads (file : IniFile) : Bool := file.errno = 0 && file.parsed = 0

/-- The file cannot be loaded, and the error is a positive number, the line of it. -/
def IniFile.failsOnLine (file : IniFile) : Bool := file.errno = 0 && file.parsed > 0

/-- The files that the loop of `cfg_load_from_dir` loads or tries to. -/
def visitedFiles (config : Config) : List IniFile → List IniFile
  | [] => []
  | file :: files =>
    match cfgLoadFromFile config file with
    | (result, config) => file :: if result < 0 then [] else visitedFiles config files

/-- The overrides of files. -/
def overriddenBy (config : Config) (files : List IniFile) : Config :=
  files.foldl (fun config file => (cfgLoadFromFile config file).2) config

/-- The result is 0 when all files have been loaded, no file is visited behind the first that cannot
be, and the configuration has the overrides of those before it. -/
structure ReportsErrors (config : Config) (files : List IniFile) (outcome : ℤ × Config) : Prop where
  result : outcome.1 = 0 ↔ ∀ file ∈ files, file.loads = true
  stops : visitedFiles config files =
    files.takeWhile IniFile.loads ++ (files.dropWhile IniFile.loads).take 1
  overrides : outcome.2 = overriddenBy config (files.takeWhile IniFile.loads)

/-- The first file that cannot be loaded is the last one, or its error is a negative number. -/
def FirstErrorEnds (files : List IniFile) : Prop :=
  ∀ file later, files.dropWhile IniFile.loads = file :: later →
    file.failsOnLine = true → later = []

variable {config : Config} {file : IniFile} {files : List IniFile}

lemma cfgLoadFromFile_of_loads (hloads : file.loads = true) (config : Config) :
    (cfgLoadFromFile config file).1 = 0 := by
  unfold IniFile.loads at hloads
  rw [Bool.and_eq_true, decide_eq_true_eq, decide_eq_true_eq] at hloads
  unfold cfgLoadFromFile
  rw [if_neg (not_not.mpr hloads.1), if_neg (not_not.mpr hloads.2)]

/-- A file that cannot be loaded leaves the configuration as it is. -/
lemma cfgLoadFromFile_of_fails (hfails : file.loads = false) (config : Config) :
    (cfgLoadFromFile config file).2 = config ∧
      (file.failsOnLine = true → (cfgLoadFromFile config file).1 > 0) ∧
      (file.failsOnLine = false → (cfgLoadFromFile config file).1 < 0) := by
  unfold IniFile.loads at hfails
  rw [Bool.and_eq_false_iff, decide_eq_false_iff_not, decide_eq_false_iff_not] at hfails
  unfold cfgLoadFromFile IniFile.failsOnLine
  by_cases herrno : file.errno = 0
  · have hparsed : file.parsed ≠ 0 := hfails.resolve_left (not_not.mpr herrno)
    rw [if_neg (not_not.mpr herrno), if_pos hparsed]
    simp [herrno]
    omega
  · rw [if_pos herrno]
    simp [herrno]
    omega

lemma loadFiles_cons (config : Config) (result : ℤ) (file : IniFile) (files : List IniFile) :
    loadFiles config result (file :: files) =
      if (cfgLoadFromFile config file).1 < 0 then cfgLoadFromFile config file
      else loadFiles (cfgLoadFromFile config file).2 (cfgLoadFromFile config file).1 files := rfl

lemma visitedFiles_cons (config : Config) (file : IniFile) (files : List IniFile) :
    visitedFiles config (file :: files) = file :: if (cfgLoadFromFile config file).1 < 0 then []
      else visitedFiles (cfgLoadFromFile config file).2 files := rfl

variable (config files) in
lemma loadFiles_of_loads (hloads : file.loads = true) (result : ℤ) :
    loadFiles config result (file :: files) =
      loadFiles (cfgLoadFromFile config file).2 0 files ∧
    visitedFiles config (file :: files) =
      file :: visitedFiles (cfgLoadFromFile config file).2 files := by
  have hzero := cfgLoadFromFile_of_loads hloads config
  rw [loadFiles_cons, visitedFiles_cons, hzero, if_neg (lt_irrefl 0), if_neg (lt_irrefl 0)]
  exact ⟨rfl, rfl⟩

/-- The files before the first that fails are loaded. -/
lemma reportsErrors_cons (hloads : file.loads = true) :
    ReportsErrors config (file :: files) (loadFiles config 0 (file :: files)) ↔
      ReportsErrors (cfgLoadFromFile config file).2 files
        (loadFiles (cfgLoadFromFile config file).2 0 files) := by
  have ⟨hload, hvisited⟩ := loadFiles_of_loads config files hloads 0
  have htake : (file :: files).takeWhile IniFile.loads = file :: files.takeWhile IniFile.loads :=
    List.takeWhile_cons_of_pos hloads
  have hdrop : (file :: files).dropWhile IniFile.loads = files.dropWhile IniFile.loads :=
    List.dropWhile_cons_of_pos hloads
  constructor
  · intro ⟨hresult, hstops, hoverrides⟩
    rw [hload] at hresult hoverrides
    rw [hvisited, htake, hdrop, List.cons_append, List.cons.injEq] at hstops
    rw [htake] at hoverrides
    refine ⟨hresult.trans ?_, hstops.2, hoverrides⟩
    rw [List.forall_mem_cons]
    exact and_iff_right hloads
  · intro ⟨hresult, hstops, hoverrides⟩
    refine ⟨?_, ?_, ?_⟩
    · rw [hload, hresult, List.forall_mem_cons]
      exact (and_iff_right hloads).symm
    · rw [hvisited, htake, hdrop, hstops, List.cons_append]
    · rw [hload, htake, hoverrides]
      rfl

/-- At a file that fails the loop ends, unless the error is the number of a line. -/
lemma reportsErrors_of_fails (hfails : file.loads = false) :
    ReportsErrors config (file :: files) (loadFiles config 0 (file :: files)) ↔
      (file.failsOnLine = true → files = []) := by
  have htake : (file :: files).takeWhile IniFile.loads = [] :=
    List.takeWhile_cons_of_neg (by simp [hfails])
  have hdrop : (file :: files).dropWhile IniFile.loads = file :: files :=
    List.dropWhile_cons_of_neg (by simp [hfails])
  have hnotAll : ¬∀ file' ∈ file :: files, file'.loads = true := fun hall => by
    rw [hall file List.mem_cons_self] at hfails
    exact Bool.noConfusion hfails
  have ⟨hsame, hpositive, hnegative⟩ := cfgLoadFromFile_of_fails hfails config
  have hload : loadFiles config 0 (file :: files) =
      if (cfgLoadFromFile config file).1 < 0 then cfgLoadFromFile config file
      else loadFiles config (cfgLoadFromFile config file).1 files := by
    rw [loadFiles_cons, hsame]
  have hvisited : visitedFiles config (file :: files) = file ::
      if (cfgLoadFromFile config file).1 < 0 then [] else visitedFiles config files := by
    rw [visitedFiles_cons, hsame]
  constructor
  · intro ⟨_, hstops, _⟩ hline
    -- the next file would be visited, too
    have hpos := hpositive hline
    rw [hvisited, htake, hdrop, if_neg (by omega), List.nil_append, List.take_succ_cons,
      List.take_zero, List.cons.injEq] at hstops
    match files, hstops.2 with
    | [], _ => rfl
    | next :: rest, hnone => exact absurd hnone (List.cons_ne_nil _ _)
  · intro hends
    by_cases hline : file.failsOnLine = true
    · have hpos := hpositive hline
      rw [hends hline] at hload hvisited hnotAll htake hdrop ⊢
      rw [if_neg (by omega)] at hload hvisited
      refine ⟨?_, ?_, ?_⟩
      · rw [hload]
        exact ⟨fun hzero => absurd hzero (by show ¬(cfgLoadFromFile config file).1 = 0; omega),
          fun hall => absurd hall hnotAll⟩
      · rw [hvisited, htake, hdrop]
        rfl
      · rw [hload, htake]
        rfl
    · have hneg := hnegative (by simpa using hline)
      rw [if_pos hneg] at hload hvisited
      refine ⟨?_, ?_, ?_⟩
      · rw [hload]
        exact ⟨fun hzero => absurd hzero (by omega), fun hall => absurd hall hnotAll⟩
      · rw [hvisited, htake, hdrop]
        rfl
      · rw [hload, htake, hsame]
        rfl

lemma reportsErrors_iff (config : Config) (files : List IniFile) :
    ReportsErrors config files (loadFiles config 0 files) ↔ FirstErrorEnds files := by
  induction files generalizing config with
  | nil =>
    constructor
    · intro _ file later hnil
      simp at hnil
    · intro _
      exact ⟨by simp [loadFiles], rfl, rfl⟩
  | cons file files ih =>
    match hfile : file.loads with
    | true =>
      rw [reportsErrors_cons hfile, ih]
      unfold FirstErrorEnds
      rw [List.dropWhile_cons_of_pos hfile]
    | false =>
      rw [reportsErrors_of_fails hfile]
      unfold FirstErrorEnds
      rw [List.dropWhile_cons_of_neg (by simp [hfile])]
      constructor
      · intro hends file' later heq
        rw [List.cons.injEq] at heq
        rw [← heq.1, ← heq.2]
        exact hends
      · intro hends
        exact hends file files rfl

/-- Errors of a directory are reported exactly when no file comes behind the first that cannot be
loaded, or its error is a negative number. -/
theorem cfgLoadFromDir_reportsErrors_iff (config : Config) {dir : ConfDir} (hfound : dir.found = true)
    (herrno : dir.errno = 0) :
    ((dir.files.map (·.1)).Pairwise (· ≤ ·) ∧
      ReportsErrors config (dir.files.map (·.2)) (cfgLoadFromDir config dir)) ↔
        FirstErrorEnds (dir.files.map (·.2)) := by
  have hload : cfgLoadFromDir config dir = loadFiles config 0 (dir.files.map (·.2)) := by
    unfold cfgLoadFromDir
    rw [hfound, Bool.not_true, if_neg Bool.false_ne_true, if_neg (not_not.mpr herrno)]
  rw [hload, ← reportsErrors_iff config]
  exact and_iff_right dir.files_sorted

/-- Two files, the first of which has a bad third line. -/
def dirWithBadLine : ConfDir :=
  ⟨true, 0, [("a.conf", ⟨0, 3, []⟩), ("b.conf", ⟨0, 0, [⟨"", "LogLevel", "INFO"⟩]⟩)]⟩

lemma files_of_sorted {dir : ConfDir} (hconf : dir.entries.filter isFileNameEndingWithConf = dir.entries)
    (hsorted : dir.entries.Pairwise fun a b => decide (a.1 ≤ b.1) = true) :
    dir.files = dir.entries := by
  unfold ConfDir.files
  rw [hconf]
  exact List.mergeSort_of_pairwise hsorted

/-- The error of the first file is lost when the second can be loaded. -/
theorem cfgLoadFromDir_badLine : ¬∀ (config : Config) (dir : ConfDir), dir.found = true →
    dir.errno = 0 → (dir.files.map (·.1)).Pairwise (· ≤ ·) ∧
      ReportsErrors config (dir.files.map (·.2)) (cfgLoadFromDir config dir) := by
  intro hall
  have hfiles : dirWithBadLine.files = dirWithBadLine.entries :=
    files_of_sorted (by decide +kernel) (by decide +kernel)
  have ⟨_, hresult, _, _⟩ := hall cfgInitialize dirWithBadLine rfl rfl
  have hzero : (cfgLoadFromDir cfgInitialize dirWithBadLine).1 = 0 := by
    show (loadFiles cfgInitialize 0 (dirWithBadLine.files.map (·.2))).1 = 0
    rw [hfiles]
    decide +kernel
  rw [hfiles] at hresult
  have hloads := hresult.mp hzero ⟨0, 3, []⟩ (by decide)
  exact absurd hloads (by decide)

/-- The same two files with names that put the bad line last. -/
def dirWithLastBadLine : ConfDir :=
  ⟨true, 0, [("a.conf", ⟨0, 0, [⟨"", "LogLevel", "INFO"⟩]⟩), ("b.conf", ⟨0, 3, []⟩)]⟩

/-- Then the error is reported. -/
theorem cfgLoadFromDir_lastBadLine :
    ReportsErrors cfgInitialize (dirWithLastBadLine.files.map (·.2))
      (cfgLoadFromDir cfgInitialize dirWithLastBadLine) := by
  have hfiles : dirWithLastBadLine.files = dirWithLastBadLine.entries :=
    files_of_sorted (by decide +kernel) (by decide +kernel)
  refine ((cfgLoadFromDir_reportsErrors_iff cfgInitialize rfl rfl).mpr ?_).2
  intro file later heq _
  rw [hfiles] at heq
  have hdrop : (dirWithLastBadLine.entries.map (·.2)).dropWhile IniFile.loads = [⟨0, 3, []⟩] := by
    decide
  rw [hdrop, List.cons.injEq] at heq
  exact heq.2.symm

end Cfg
end BlueChi
