import BlueChi.BusUtils
import BlueChi.IsOnline
import BlueChi.Library.Cursor

/-!
# Messages about changed properties

`bluechi-is-online` and two commands of `bluechictl` read an `a{sv}` array with a loop of their own. A
loop that leaves a container open reads no further.
-/

namespace BlueChi
namespace ChangedProperties

open Cursor

variable {μ δ : Type} (reader : Reader μ)

/-! ## bluechi-is-online -/

/-- What `on_properties_changed` does with the two properties. -/
structure Handlers (δ : Type) where
  connectionState : String → δ → δ
  controllerAddress : δ → δ

/-- The handlers of the tool. -/
def cliHandlers : Handlers IsOnline.Cli where
  connectionState conState cli := cli.handleConnectionStateChanged conState
  controllerAddress cli := cli.handleControllerAddressChanged

/-- `parse_status_changed_from_property`, which `parse_status_from_changed_properties` does as well. -/
def parseStatusChangedFromProperty (m : μ) (retConnectionStatus : Option String) :
    Except ℤ Unit × Option String × μ :=
  match reader.enterContainer .variant "s" m with
  | (.error r, m) => (.error r, retConnectionStatus, m)
  | (.ok _, m) =>
    match reader.readString m with
    | (.error r, m) => (.error r, retConnectionStatus, m)
    | (.ok status, m) =>
      match reader.exitContainer m with
      | (.error r, m) => (.error r, status, m)
      | (.ok _, m) => (.ok (), status, m)

lemma size_parseStatusChangedFromProperty (m : μ) (ret : Option String) :
    reader.size (parseStatusChangedFromProperty reader m ret).2.2 ≤ reader.size m := by
  have henter := reader.size_enterContainer_le .variant "s" m
  have hread := reader.size_readString (reader.enterContainer .variant "s" m).2
  have hexit := reader.size_exitContainer
    (reader.readString (reader.enterContainer .variant "s" m).2).2
  unfold parseStatusChangedFromProperty
  match h : reader.enterContainer .variant "s" m with
  | (.error r, m1) =>
    rw [h] at henter
    exact henter
  | (.ok entered, m1) =>
    rw [h] at henter hread hexit
    dsimp only at henter hread hexit ⊢
    match h' : reader.readString m1 with
    | (.error r, m2) =>
      rw [h'] at hread
      exact hread.trans henter
    | (.ok status, m2) =>
      rw [h'] at hread hexit
      dsimp only at hread hexit ⊢
      match h'' : reader.exitContainer m2 with
      | (.error r, m3) =>
        rw [h''] at hexit
        exact (hexit.trans hread).trans henter
      | (.ok _, m3) =>
        rw [h''] at hexit
        exact (hexit.trans hread).trans henter

/-- `handle_connection_state_changed`. -/
def handleConnectionStateChanged (h : Handlers δ) (m : μ) (d : δ) : μ × δ :=
  match parseStatusChangedFromProperty reader m none with
  | (.ok _, some conState, m) => (m, h.connectionState conState d)
  | (_, _, m) => (m, d)

lemma size_handleConnectionStateChanged (h : Handlers δ) (m : μ) (d : δ) :
    reader.size (handleConnectionStateChanged reader h m d).1 ≤ reader.size m := by
  have hparse := size_parseStatusChangedFromProperty reader m none
  unfold handleConnectionStateChanged
  split
  · rename_i heq
    rw [heq] at hparse
    exact hparse
  · rename_i heq
    rw [heq] at hparse
    exact hparse

/-- One round of the loop of `on_properties_changed`. -/
def onPropertiesChangedRound (h : Handlers δ) (m : μ) (d : δ) : (μ × δ) ⊕ (Except ℤ Unit × δ) :=
  match reader.enterContainer .dictEntry "sv" m with
  | (.ok true, m) =>
    match reader.readString m with
    | (.error r, _) => .inr (.error r, d)
    | (.ok none, m) => .inr ((reader.exitContainer m).1, d)
    | (.ok (some key), m) =>
      if key = "Status" then .inl (handleConnectionStateChanged reader h m d)
      else if key = "ControllerAddress" then .inl (m, h.controllerAddress d)
      else .inl (m, d)
  | (_, m) => .inr ((reader.exitContainer m).1, d)

/-- The loop of `on_properties_changed`. -/
def onPropertiesChangedLoop (h : Handlers δ) : reader.Round δ (Except ℤ Unit × δ) where
  run := onPropertiesChangedRound reader h
  reads {m d m' d'} hrun := by
    unfold onPropertiesChangedRound at hrun
    split at hrun
    · rename_i m1 henter
      have hless := reader.size_enterContainer henter
      have hread := reader.size_readString m1
      split at hrun
      · simp at hrun
      · simp at hrun
      · rename_i key m2 heq
        rw [heq] at hread
        dsimp only at hread
        split at hrun
        · have hstate := size_handleConnectionStateChanged reader h m2 d
          rw [Sum.inl.inj hrun] at hstate
          dsimp only at hstate
          omega
        · split at hrun
          · rw [← (Prod.mk.inj (Sum.inl.inj hrun)).1]
            omega
          · rw [← (Prod.mk.inj (Sum.inl.inj hrun)).1]
            omega
    · simp at hrun

/-- `on_properties_changed`. -/
def onPropertiesChanged (h : Handlers δ) (m : μ) (d : δ) : Except ℤ Unit × δ :=
  match reader.enterContainer .array "{sv}" (reader.skip m).2 with
  | (.error r, _) => (.error r, d)
  | (.ok _, m) => (onPropertiesChangedLoop reader h).loop m d

/-! ## bluechictl monitor -/

/-- What is printed: a line about the unit, and a line for a property. A missing string is printed as
well. -/
inductive Line
  | header (nodeName unitName interfaceName : Option String)
  | property (name : String) (value : Option String)
  deriving DecidableEq

/-- One round of the loop of `on_unit_properties_changed_signal`. -/
def onUnitPropertiesChangedRound (m : μ) (lines : List Line) :
    (μ × List Line) ⊕ (Except ℤ Unit × List Line) :=
  match reader.enterContainer .dictEntry "sv" m with
  | (.ok true, m) =>
    match reader.readString m with
    | (.error r, _) => .inr (.error r, lines)
    | (.ok none, m) => .inr ((reader.exitContainer m).1, lines)
    | (.ok (some s), m) =>
      match reader.peekType m with
      | .error r => .inr (.error r, lines)
      | .ok contents =>
        if contents = some "s" then
          match reader.enterContainer .variant "s" m with
          | (.error r, _) => .inr (.error r, lines)
          | (.ok _, m) =>
            match reader.readString m with
            | (.error r, _) => .inr (.error r, lines)
            | (.ok value, m) =>
              match reader.exitContainer m with
              | (.error r, _) => .inr (.error r, lines ++ [.property s value])
              | (.ok _, m) => .inl (m, lines ++ [.property s value])
        else
          match reader.exitContainer (reader.skip m).2 with
          | (.error r, _) => .inr (.error r, lines)
          | (.ok _, m) => .inl (m, lines)
  | (_, m) => .inr ((reader.exitContainer m).1, lines)

/-- The loop of `on_unit_properties_changed_signal`. -/
def onUnitPropertiesChangedLoop : reader.Round (List Line) (Except ℤ Unit × List Line) where
  run := onUnitPropertiesChangedRound reader
  reads {m lines m' lines'} hrun := by
    unfold onUnitPropertiesChangedRound at hrun
    split at hrun
    · rename_i m1 henter
      have hless := reader.size_enterContainer henter
      have hread := reader.size_readString m1
      split at hrun
      · simp at hrun
      · simp at hrun
      · rename_i s m2 heq
        rw [heq] at hread
        dsimp only at hread
        split at hrun
        · simp at hrun
        · split at hrun
          · have hvariant := reader.size_enterContainer_le .variant "s" m2
            split at hrun
            · simp at hrun
            · rename_i m3 heq'
              rw [heq'] at hvariant
              have hvalue := reader.size_readString m3
              split at hrun
              · simp at hrun
              · rename_i value m4 heq''
                rw [heq''] at hvalue
                have hexit := reader.size_exitContainer m4
                split at hrun
                · simp at hrun
                · rename_i m5 hleft
                  rw [hleft] at hexit
                  rw [← (Prod.mk.inj (Sum.inl.inj hrun)).1]
                  dsimp only at hvariant hvalue hexit
                  omega
          · have hskip := reader.size_skip m2
            have hexit := reader.size_exitContainer (reader.skip m2).2
            split at hrun
            · simp at hrun
            · rename_i m3 heq'
              rw [heq'] at hexit
              rw [← (Prod.mk.inj (Sum.inl.inj hrun)).1]
              dsimp only at hexit
              omega
    · simp at hrun

/-- `on_unit_properties_changed_signal`. -/
def onUnitPropertiesChangedSignal (m : μ) : Except ℤ Unit × List Line :=
  match reader.readString m with
  | (.error _, _) => (.ok (), [])
  | (.ok nodeName, m) =>
    match reader.readString m with
    | (.error _, _) => (.ok (), [])
    | (.ok unitName, m) =>
      match reader.readString m with
      | (.error _, _) => (.ok (), [])
      | (.ok interfaceName, m) =>
        let lines := [.header nodeName unitName interfaceName]
        match reader.enterContainer .array "{sv}" m with
        | (.error r, _) => (.error r, lines)
        | (.ok _, m) => (onUnitPropertiesChangedLoop reader).loop m lines

/-! ## bluechictl status -/

/-- One round of the loop of `parse_status_from_changed_properties`. -/
def parseStatusRound (m : μ) (retConnectionStatus : Option String) :
    (μ × Option String) ⊕ (Except ℤ Unit × Option String) :=
  match reader.enterContainer .dictEntry "sv" m with
  | (.ok true, m) =>
    match reader.readString m with
    | (.error r, _) => .inr (.error r, retConnectionStatus)
    | (.ok none, m) => .inr ((reader.exitContainer m).1, retConnectionStatus)
    | (.ok (some key), m) =>
      if key ≠ "Status" then .inr ((reader.exitContainer m).1, retConnectionStatus)
      else
        match parseStatusChangedFromProperty reader m retConnectionStatus with
        | (.error r, status, _) => .inr (.error r, status)
        | (.ok _, status, m) => .inl (m, status)
  | (_, m) => .inr ((reader.exitContainer m).1, retConnectionStatus)

/-- The loop of `parse_status_from_changed_properties`. -/
def parseStatusLoop : reader.Round (Option String) (Except ℤ Unit × Option String) where
  run := parseStatusRound reader
  reads {m ret m' ret'} hrun := by
    unfold parseStatusRound at hrun
    split at hrun
    · rename_i m1 henter
      have hless := reader.size_enterContainer henter
      have hread := reader.size_readString m1
      split at hrun
      · simp at hrun
      · simp at hrun
      · rename_i key m2 heq
        rw [heq] at hread
        dsimp only at hread
        split at hrun
        · simp at hrun
        · have hparse := size_parseStatusChangedFromProperty reader m2 ret
          split at hrun
          · simp at hrun
          · rename_i status m3 heq'
            rw [heq'] at hparse
            rw [← (Prod.mk.inj (Sum.inl.inj hrun)).1]
            dsimp only at hparse
            omega
    · simp at hrun

/-- `parse_status_from_changed_properties`. -/
def parseStatusFromChangedProperties (m : μ) (retConnectionStatus : Option String) :
    Except ℤ Unit × Option String :=
  match reader.enterContainer .array "{sv}" m with
  | (.error r, _) => (.error r, retConnectionStatus)
  | (.ok _, m) => (parseStatusLoop reader).loop m retConnectionStatus

/-! ## The messages -/

def valueOf : Variant → Item
  | .string value => .string value
  | .other signature _ => .other signature

def variantItem (value : Variant) : Item := .container .variant value.valueType [valueOf value]

def entryItem (e : String × Variant) : Item :=
  .container .dictEntry "sv" [.string e.1, variantItem e.2]

def arrayItem (props : Properties) : Item := .container .array "{sv}" (props.map entryItem)

variable {reader} {m : μ} {d : δ} {h : Handlers δ} {e : String × Variant} {props rest : Properties}
  {frame : Frame} {outer : List Frame} {lines : List Line} {ret : Option String}

/-- The reader is inside an entry of which the key has been read, and the value maybe. -/
def Inside (reader : Reader μ) (m : μ) (left : List Item) (rest : Properties) (frame : Frame)
    (outer : List Frame) : Prop :=
  reader.position m = ⟨⟨.dictEntry, left⟩, ⟨.array, rest.map entryItem⟩ :: frame :: outer⟩

/-- The reader is between the entries. -/
def Between (reader : Reader μ) (m : μ) (props : Properties) (frame : Frame) (outer : List Frame) :
    Prop :=
  reader.position m = ⟨⟨.array, props.map entryItem⟩, frame :: outer⟩

/-- An entry that is entered with its key. -/
lemma enter_entry (hm : Between reader m (e :: rest) frame outer) : ∃ m1 m2,
    reader.enterContainer .dictEntry "sv" m = (.ok true, m1) ∧
      reader.readString m1 = (.ok (some e.1), m2) ∧
      Inside reader m2 [variantItem e.2] rest frame outer := by
  have ⟨m1, henter, hm1⟩ := Reader.enter_of_container hm
  have ⟨m2, hread, hm2⟩ := Reader.read_of_string hm1
  exact ⟨m1, m2, henter, hread, hm2⟩

variable (reader) in
/-- The end of the array, which is left. -/
lemma enter_end (hm : Between reader m [] frame outer) : ∃ m1 m2,
    reader.enterContainer .dictEntry "sv" m = (.ok false, m1) ∧
      reader.exitContainer m1 = (.ok (), m2) := by
  have ⟨m1, henter, hm1⟩ := Reader.enter_of_end hm .dictEntry "sv"
  have ⟨m2, hexit, _⟩ := Reader.exit_of_read hm1
  exact ⟨m1, m2, henter, hexit⟩

/-- Inside an entry there is no other one. -/
lemma enter_inside {left : List Item} (hm : Inside reader m left rest frame outer)
    (hleft : left = [] ∨ left = [variantItem e.2]) : ∃ r m1,
    reader.enterContainer .dictEntry "sv" m = (.error r, m1) ∧
      Inside reader m1 left rest frame outer := by
  have hrefused : (reader.position m).enter .dictEntry "sv" = none := by
    rw [hm]
    apply hleft.elim
    · intro hnil
      rw [hnil]
      rfl
    · intro hvalue
      rw [hvalue]
      rfl
  have ⟨r, m1, henter, hm1⟩ := Reader.enter_of_refused hrefused
  exact ⟨r, m1, henter, hm1.trans hm⟩

/-- A string value is entered, read and left. -/
lemma parseStatusChangedFromProperty_string {value : String}
    (hm : Inside reader m [variantItem (.string value)] rest frame outer) (ret : Option String) :
    ∃ m1 m2 m3, reader.enterContainer .variant "s" m = (.ok true, m1) ∧
      reader.readString m1 = (.ok (some value), m2) ∧ reader.exitContainer m2 = (.ok (), m3) ∧
      parseStatusChangedFromProperty reader m ret = (.ok (), some value, m3) ∧
      Inside reader m3 [] rest frame outer := by
  have ⟨m1, henter, hm1⟩ := Reader.enter_of_container hm
  have ⟨m2, hread, hm2⟩ := Reader.read_of_string hm1
  have ⟨m3, hexit, hm3⟩ := Reader.exit_of_read hm2
  refine ⟨m1, m2, m3, henter, hread, hexit, ?_, hm3⟩
  unfold parseStatusChangedFromProperty
  rw [show reader.enterContainer .variant "s" m = (.ok true, m1) from henter]
  dsimp only
  rw [hread]
  dsimp only
  rw [hexit]

/-- A value of another type is not entered as a string. -/
lemma parseStatusChangedFromProperty_other {value : Variant} (hvalue : value.valueType ≠ "s")
    (hm : Inside reader m [variantItem value] rest frame outer) (ret : Option String) :
    ∃ r m1, parseStatusChangedFromProperty reader m ret = (.error r, ret, m1) ∧
      Inside reader m1 [variantItem value] rest frame outer := by
  have hrefused : (reader.position m).enter .variant "s" = none := by
    rw [hm]
    simp [variantItem, Position.enter, hvalue]
  obtain ⟨r, m1, henter, hm1⟩ := Reader.enter_of_refused hrefused
  refine ⟨r, m1, ?_, hm1.trans hm⟩
  unfold parseStatusChangedFromProperty
  rw [henter]

/-! ## What is-online reads -/

/-- The status that an entry reports. -/
def statusOf (e : String × Variant) : Option String :=
  match e.2 with
  | .string value => if e.1 = "Status" then some value else none
  | .other _ _ => none

/-- The effect of an entry. -/
def Handlers.visit (h : Handlers δ) (d : δ) (e : String × Variant) : δ :=
  match statusOf e with
  | some conState => h.connectionState conState d
  | none => if e.1 = "ControllerAddress" then h.controllerAddress d else d

/-- What is left of an entry after it has been handled. -/
def leftOf (e : String × Variant) : List Item :=
  if (statusOf e).isSome then [] else [variantItem e.2]

lemma onPropertiesChangedRound_entry (hm : Between reader m (e :: rest) frame outer) : ∃ m',
    onPropertiesChangedRound reader h m d = .inl (m', h.visit d e) ∧
      Inside reader m' (leftOf e) rest frame outer := by
  have ⟨m1, m2, henter, hread, hm2⟩ := enter_entry hm
  have ⟨key, value⟩ := e
  unfold onPropertiesChangedRound
  rw [henter]
  dsimp only
  rw [hread]
  dsimp only
  by_cases hkey : key = "Status"
  · rw [if_pos hkey]
    unfold handleConnectionStateChanged
    match value with
    | .string v =>
      have ⟨_, _, m3, _, _, _, hparse, hm3⟩ := parseStatusChangedFromProperty_string hm2 none
      refine ⟨m3, ?_, ?_⟩
      · rw [hparse]
        simp [Handlers.visit, statusOf, hkey]
      · simpa [leftOf, statusOf, hkey] using hm3
    | .other signature hother =>
      have ⟨r, m3, hparse, hm3⟩ := parseStatusChangedFromProperty_other
        (show (Variant.other signature hother).valueType ≠ "s" from hother) hm2 none
      refine ⟨m3, ?_, ?_⟩
      · rw [hparse]
        simp [Handlers.visit, statusOf, hkey]
      · simpa [leftOf, statusOf] using hm3
  · rw [if_neg hkey]
    have hstatus : statusOf (key, value) = none := by
      unfold statusOf
      match value with
      | .string v => exact if_neg hkey
      | .other _ _ => rfl
    have hleft : leftOf (key, value) = [variantItem value] := by
      simp [leftOf, hstatus]
    rw [hleft]
    unfold Handlers.visit
    rw [hstatus]
    by_cases haddress : key = "ControllerAddress"
    · refine ⟨m2, ?_, hm2⟩
      rw [if_pos haddress, if_pos haddress]
    · refine ⟨m2, ?_, hm2⟩
      rw [if_neg haddress, if_neg haddress]

/-- The loop does not go on in an entry that has not been left. -/
lemma onPropertiesChangedRound_inside (e : String × Variant)
    (hm : Inside reader m (leftOf e) rest frame outer) :
    if (statusOf e).isSome then onPropertiesChangedRound reader h m d = .inr (.ok (), d)
    else ∃ r, onPropertiesChangedRound reader h m d = .inr (.error r, d) := by
  have ⟨r, m1, henter, hm1⟩ := enter_inside (e := e) hm (by
    unfold leftOf
    split
    · exact Or.inl rfl
    · exact Or.inr rfl)
  unfold onPropertiesChangedRound
  rw [henter]
  dsimp only
  unfold leftOf at hm1
  by_cases hstatus : (statusOf e).isSome = true
  · rw [if_pos hstatus] at hm1 ⊢
    have ⟨m2, hexit, _⟩ := Reader.exit_of_read hm1
    rw [hexit]
  · rw [if_neg hstatus] at hm1 ⊢
    have ⟨r', m2, hexit, _⟩ := Reader.exit_of_unread hm1
    refine ⟨r', ?_⟩
    rw [hexit]

/-- Only the first entry counts, and the rest is lost. -/
lemma onPropertiesChanged_cons {interfaceName : String} {after : List Item}
    (hm : reader.position m =
      ⟨⟨.body, .string interfaceName :: arrayItem (e :: rest) :: after⟩, outer⟩) :
    if (statusOf e).isSome then onPropertiesChanged reader h m d = (.ok (), h.visit d e)
    else ∃ r, onPropertiesChanged reader h m d = (.error r, h.visit d e) := by
  have ⟨m1, hskip, hm1⟩ := Reader.skip_of_item hm
  have ⟨m2, henter, hm2⟩ := Reader.enter_of_container hm1
  have ⟨m3, hround, hm3⟩ := onPropertiesChangedRound_entry (h := h) (d := d) hm2
  have hloop : onPropertiesChanged reader h m d =
      (onPropertiesChangedLoop reader h).loop m3 (h.visit d e) := by
    unfold onPropertiesChanged
    rw [hskip]
    dsimp only
    rw [henter]
    exact Reader.loop_of_inl hround
  have hinside := onPropertiesChangedRound_inside (h := h) (d := h.visit d e) e hm3
  rw [hloop]
  by_cases hstatus : (statusOf e).isSome = true
  · rw [if_pos hstatus] at hinside ⊢
    exact Reader.loop_of_inr hinside
  · rw [if_neg hstatus] at hinside ⊢
    have ⟨r, hr⟩ := hinside
    exact ⟨r, Reader.loop_of_inr hr⟩

lemma onPropertiesChanged_nil {interfaceName : String} {after : List Item}
    (hm : reader.position m = ⟨⟨.body, .string interfaceName :: arrayItem [] :: after⟩, outer⟩) :
    onPropertiesChanged reader h m d = (.ok (), d) := by
  have ⟨m1, hskip, hm1⟩ := Reader.skip_of_item hm
  have ⟨m2, henter, hm2⟩ := Reader.enter_of_container hm1
  have ⟨m3, m4, hend, hexit⟩ := enter_end reader hm2
  have hround : onPropertiesChangedRound reader h m2 d = .inr (.ok (), d) := by
    unfold onPropertiesChangedRound
    rw [hend]
    dsimp only
    rw [hexit]
  unfold onPropertiesChanged
  rw [hskip]
  dsimp only
  rw [henter]
  exact Reader.loop_of_inr hround

/-! ## What bluechictl monitor reads -/

/-- The line of an entry, if its value is a string. -/
def lineOf (e : String × Variant) : Option Line :=
  match e.2 with
  | .string value => some (.property e.1 (some value))
  | .other _ _ => none

variable (lines) in
/-- The variant of a string is left, but not its entry. -/
lemma onUnitPropertiesChangedRound_string {key value : String}
    (hm : Between reader m ((key, .string value) :: rest) frame outer) : ∃ m',
    onUnitPropertiesChangedRound reader m lines =
      .inl (m', lines ++ [.property key (some value)]) ∧ Inside reader m' [] rest frame outer := by
  have ⟨m1, m2, henter, hread, hm2⟩ := enter_entry hm
  have hpeek : reader.peekType m2 = .ok (some "s") := by
    rw [reader.peek_eq, hm2]
    rfl
  have ⟨m3, m4, m5, hvariant, hvalue, hexit, _, hm5⟩ :=
    parseStatusChangedFromProperty_string hm2 none
  refine ⟨m5, ?_, hm5⟩
  unfold onUnitPropertiesChangedRound
  rw [henter]
  dsimp only
  rw [hread]
  dsimp only
  rw [hpeek]
  dsimp only
  rw [if_pos rfl, hvariant]
  dsimp only
  rw [hvalue]
  dsimp only
  rw [hexit]

variable (lines) in
/-- An entry with another value is left. -/
lemma onUnitPropertiesChangedRound_other {key signature : String} (hother : signature ≠ "s")
    (hm : Between reader m ((key, .other signature hother) :: rest) frame outer) : ∃ m',
    onUnitPropertiesChangedRound reader m lines = .inl (m', lines) ∧
      Between reader m' rest frame outer := by
  have ⟨m1, m2, henter, hread, hm2⟩ := enter_entry hm
  have hpeek : reader.peekType m2 = .ok (some signature) := by
    rw [reader.peek_eq, hm2]
    rfl
  have ⟨m3, hskip, hm3⟩ := Reader.skip_of_item hm2
  have ⟨m4, hexit, hm4⟩ := Reader.exit_of_read hm3
  refine ⟨m4, ?_, hm4⟩
  have hne : ¬some signature = some "s" := fun heq => hother (Option.some.inj heq)
  unfold onUnitPropertiesChangedRound
  rw [henter]
  dsimp only
  rw [hread]
  dsimp only
  rw [hpeek]
  dsimp only
  rw [if_neg hne, hskip]
  dsimp only
  rw [hexit]

/-- At most one line is printed, and there is no error. -/
lemma onUnitPropertiesChangedLoop_eq (props : Properties) (m : μ) (lines : List Line)
    (hm : Between reader m props frame outer) :
    (onUnitPropertiesChangedLoop reader).loop m lines =
      (.ok (), lines ++ (props.filterMap lineOf).take 1) := by
  induction props generalizing m with
  | nil =>
    have ⟨m1, m2, hend, hexit⟩ := enter_end reader hm
    apply Reader.loop_of_inr
    show onUnitPropertiesChangedRound reader m lines = _
    unfold onUnitPropertiesChangedRound
    rw [hend]
    dsimp only
    rw [hexit]
    simp
  | cons e rest ih =>
    match e with
    | (key, .string value) =>
      have ⟨m1, hround, hm1⟩ := onUnitPropertiesChangedRound_string lines hm
      rw [Reader.loop_of_inl hround]
      have ⟨r, m2, henter, hm2⟩ := enter_inside (e := (key, .string value)) hm1 (Or.inl rfl)
      have ⟨m3, hexit, _⟩ := Reader.exit_of_read hm2
      apply Reader.loop_of_inr
      show onUnitPropertiesChangedRound reader m1 _ = _
      unfold onUnitPropertiesChangedRound
      rw [henter]
      dsimp only
      rw [hexit]
      simp [lineOf]
    | (key, .other signature hother) =>
      have ⟨m1, hround, hm1⟩ := onUnitPropertiesChangedRound_other lines hother hm
      rw [Reader.loop_of_inl hround, ih m1 hm1]
      rfl

lemma onUnitPropertiesChangedSignal_eq {nodeName unitName interfaceName : String}
    {after : List Item}
    (hm : reader.position m = ⟨⟨.body, .string nodeName :: .string unitName ::
      .string interfaceName :: arrayItem props :: after⟩, outer⟩) :
    onUnitPropertiesChangedSignal reader m =
      (.ok (), .header (some nodeName) (some unitName) (some interfaceName) ::
        (props.filterMap lineOf).take 1) := by
  have ⟨m1, hnode, hm1⟩ := Reader.read_of_string hm
  have ⟨m2, hunit, hm2⟩ := Reader.read_of_string hm1
  have ⟨m3, hinterface, hm3⟩ := Reader.read_of_string hm2
  have ⟨m4, henter, hm4⟩ := Reader.enter_of_container hm3
  unfold onUnitPropertiesChangedSignal
  rw [hnode]
  dsimp only
  rw [hunit]
  dsimp only
  rw [hinterface]
  dsimp only
  rw [henter]
  exact onUnitPropertiesChangedLoop_eq props m4 _ hm4

/-! ## What bluechictl status reads -/

variable (ret) in
lemma parseStatusRound_status {conState : String} (hstatus : statusOf e = some conState)
    (hm : Between reader m (e :: rest) frame outer) : ∃ m',
    parseStatusRound reader m ret = .inl (m', some conState) ∧
      Inside reader m' [] rest frame outer := by
  have ⟨m1, m2, henter, hread, hm2⟩ := enter_entry hm
  have ⟨key, value⟩ := e
  match value with
  | .other _ _ => simp [statusOf] at hstatus
  | .string v =>
    have ⟨hkey, hv⟩ : key = "Status" ∧ v = conState := by
      by_cases hkey : key = "Status"
      · simp [statusOf, hkey] at hstatus
        exact ⟨hkey, hstatus⟩
      · simp [statusOf, hkey] at hstatus
    have ⟨_, _, m3, _, _, _, hparse, hm3⟩ := parseStatusChangedFromProperty_string hm2 ret
    refine ⟨m3, ?_, hm3⟩
    unfold parseStatusRound
    rw [henter]
    dsimp only
    rw [hread]
    dsimp only
    rw [if_neg (not_not.mpr hkey), hparse, hv]

variable (ret) in
/-- An entry that is no status ends the loop with an error. -/
lemma parseStatusRound_other (hstatus : statusOf e = none)
    (hm : Between reader m (e :: rest) frame outer) :
    ∃ r, parseStatusRound reader m ret = .inr (.error r, ret) := by
  have ⟨m1, m2, henter, hread, hm2⟩ := enter_entry hm
  have ⟨key, value⟩ := e
  unfold parseStatusRound
  rw [henter]
  dsimp only
  rw [hread]
  dsimp only
  by_cases hkey : key = "Status"
  · rw [if_neg (not_not.mpr hkey)]
    match value with
    | .string v => simp [statusOf, hkey] at hstatus
    | .other signature hother =>
      have ⟨r, m3, hparse, _⟩ := parseStatusChangedFromProperty_other
        (show (Variant.other signature hother).valueType ≠ "s" from hother) hm2 ret
      refine ⟨r, ?_⟩
      rw [hparse]
  · rw [if_pos hkey]
    have ⟨r, m3, hexit, _⟩ := Reader.exit_of_unread hm2
    refine ⟨r, ?_⟩
    rw [hexit]

lemma parseStatusFromChangedProperties_nil {after : List Item}
    (hm : reader.position m = ⟨⟨.body, arrayItem [] :: after⟩, outer⟩) :
    parseStatusFromChangedProperties reader m ret = (.ok (), ret) := by
  have ⟨m1, henter, hm1⟩ := Reader.enter_of_container hm
  have ⟨m2, m3, hend, hexit⟩ := enter_end reader hm1
  have hround : parseStatusRound reader m1 ret = .inr (.ok (), ret) := by
    unfold parseStatusRound
    rw [hend]
    dsimp only
    rw [hexit]
  unfold parseStatusFromChangedProperties
  rw [henter]
  exact Reader.loop_of_inr hround

variable (ret) in
/-- Only a first entry that is a status is read. -/
lemma parseStatusFromChangedProperties_cons {after : List Item}
    (hm : reader.position m = ⟨⟨.body, arrayItem (e :: rest) :: after⟩, outer⟩) :
    match statusOf e with
    | some conState => parseStatusFromChangedProperties reader m ret = (.ok (), some conState)
    | none => ∃ r, parseStatusFromChangedProperties reader m ret = (.error r, ret) := by
  have ⟨m1, henter, hm1⟩ := Reader.enter_of_container hm
  have hstart : parseStatusFromChangedProperties reader m ret =
      (parseStatusLoop reader).loop m1 ret := by
    unfold parseStatusFromChangedProperties
    rw [henter]
  rw [hstart]
  match hstatus : statusOf e with
  | some conState =>
    have ⟨m2, hround, hm2⟩ := parseStatusRound_status ret hstatus hm1
    have ⟨r, m3, hrefused, hm3⟩ := enter_inside (e := e) hm2 (Or.inl rfl)
    have ⟨m4, hexit, _⟩ := Reader.exit_of_read hm3
    show (parseStatusLoop reader).loop m1 ret = _
    rw [Reader.loop_of_inl hround]
    apply Reader.loop_of_inr
    show parseStatusRound reader m2 (some conState) = _
    unfold parseStatusRound
    rw [hrefused]
    dsimp only
    rw [hexit]
  | none =>
    have ⟨r, hround⟩ := parseStatusRound_other ret hstatus hm1
    exact ⟨r, Reader.loop_of_inr hround⟩

/-! ## What a reader should do -/

/-- The last status that is reported. -/
def lastStatus (props : Properties) : Option String :=
  props.foldl (fun last e => (statusOf e).or last) none

/-- The three messages about the same properties. -/
structure Messages (reader : Reader μ) (props : Properties) (changed signal array : μ) : Prop where
  changed : ∃ interfaceName after outer, reader.position changed =
    ⟨⟨.body, .string interfaceName :: arrayItem props :: after⟩, outer⟩
  signal : ∃ nodeName unitName interfaceName after outer, reader.position signal =
    ⟨⟨.body, .string nodeName :: .string unitName :: .string interfaceName :: arrayItem props ::
      after⟩, outer⟩
  array : ∃ after outer, reader.position array = ⟨⟨.body, arrayItem props :: after⟩, outer⟩

/-- Each entry has its effect, in order, and no other one has. -/
def OnlineReadsEntirely (reader : Reader μ) (props : Properties) (m : μ) : Prop :=
  ∀ (δ : Type) (h : Handlers δ) (d : δ),
    onPropertiesChanged reader h m d = (.ok (), props.foldl h.visit d)

/-- After the line about the unit, each string is printed. -/
def MonitorReadsEntirely (reader : Reader μ) (props : Properties) (m : μ) : Prop :=
  (onUnitPropertiesChangedSignal reader m).1 = .ok () ∧
    (onUnitPropertiesChangedSignal reader m).2.tail = props.filterMap lineOf

/-- The result is the last status, if there is one. -/
def StatusReadsEntirely (reader : Reader μ) (props : Properties) (m : μ) : Prop :=
  parseStatusFromChangedProperties reader m none = (.ok (), lastStatus props)

/-- Without an entry that would be read first, or with nothing to read behind it. -/
def OnlyFirstHandled (props : Properties) : Prop :=
  props = [] ∨ ∃ e rest, props = e :: rest ∧ (statusOf e).isSome = true ∧
    ∀ e' ∈ rest, statusOf e' = none ∧ e'.1 ≠ "ControllerAddress"

/-- The first entry is a status, and the last status is the same. -/
def FirstStatusLast (props : Properties) : Prop :=
  props = [] ∨ ∃ e rest, props = e :: rest ∧ (statusOf e).isSome = true ∧
    lastStatus props = statusOf e

/-- The handlers that keep what they are called with. -/
def recordHandlers : Handlers (List (Option String)) where
  connectionState conState calls := calls ++ [some conState]
  controllerAddress calls := calls ++ [none]

lemma record_length (props : Properties) (calls : List (Option String)) :
    calls.length ≤ (props.foldl recordHandlers.visit calls).length ∧
      ((props.foldl recordHandlers.visit calls).length = calls.length →
        ∀ e ∈ props, statusOf e = none ∧ e.1 ≠ "ControllerAddress") := by
  induction props generalizing calls with
  | nil => exact ⟨Nat.le_refl _, fun _ e he => absurd he List.not_mem_nil⟩
  | cons first rest ih =>
    have ⟨hle, heq⟩ := ih (recordHandlers.visit calls first)
    rw [List.foldl_cons]
    match hstatus : statusOf first with
    | some conState =>
      have hvisit : recordHandlers.visit calls first = calls ++ [some conState] := by
        simp [Handlers.visit, hstatus, recordHandlers]
      rw [hvisit] at hle ⊢
      rw [List.length_append, List.length_singleton] at hle
      constructor
      · omega
      · intro hlength
        omega
    | none =>
      by_cases haddress : first.1 = "ControllerAddress"
      · have hvisit : recordHandlers.visit calls first = calls ++ [none] := by
          simp [Handlers.visit, hstatus, haddress, recordHandlers]
        rw [hvisit] at hle ⊢
        rw [List.length_append, List.length_singleton] at hle
        constructor
        · omega
        · intro hlength
          omega
      · have hvisit : recordHandlers.visit calls first = calls := by
          simp [Handlers.visit, hstatus, haddress]
        rw [hvisit] at hle heq ⊢
        refine ⟨hle, fun hlength e he => ?_⟩
        apply (List.mem_cons.mp he).elim
        · intro hfirst
          rw [hfirst]
          exact ⟨hstatus, haddress⟩
        · exact heq hlength e

/-- Entries that are ignored change nothing. -/
lemma foldl_visit_of_ignored {d : δ}
    (hignored : ∀ e ∈ props, statusOf e = none ∧ e.1 ≠ "ControllerAddress") :
    props.foldl h.visit d = d := by
  induction props with
  | nil => rfl
  | cons first rest ih =>
    have ⟨hstatus, haddress⟩ := hignored first List.mem_cons_self
    have hvisit : h.visit d first = d := by
      simp [Handlers.visit, hstatus, haddress]
    rw [List.foldl_cons, hvisit]
    exact ih fun e he => hignored e (List.mem_cons_of_mem _ he)

lemma onlineReadsEntirely_iff {interfaceName : String} {after : List Item}
    (hm : reader.position m = ⟨⟨.body, .string interfaceName :: arrayItem props :: after⟩, outer⟩) :
    OnlineReadsEntirely reader props m ↔ OnlyFirstHandled props := by
  unfold OnlyFirstHandled
  match props with
  | [] => exact iff_of_true (fun _ _ _ => onPropertiesChanged_nil hm) (Or.inl rfl)
  | e :: rest =>
    constructor
    · intro hreads
      refine Or.inr ⟨e, rest, rfl, ?_⟩
      have hrecord := hreads _ recordHandlers []
      have hspec := onPropertiesChanged_cons (h := recordHandlers) (d := []) hm
      by_cases hstatus : (statusOf e).isSome = true
      · rw [if_pos hstatus] at hspec
        refine ⟨hstatus, ?_⟩
        have hcalls := congrArg Prod.snd (hspec.symm.trans hrecord)
        rw [List.foldl_cons] at hcalls
        exact (record_length rest _).2 (congrArg List.length hcalls).symm
      · rw [if_neg hstatus] at hspec
        have ⟨r, hr⟩ := hspec
        have herror := congrArg Prod.fst (hr.symm.trans hrecord)
        simp at herror
    · intro hor δ h d
      apply hor.elim
      · intro hnil
        simp at hnil
      · intro ⟨e', rest', heq, hstatus, hignored⟩
        have ⟨he, hrest⟩ := List.cons.inj heq
        have hspec := onPropertiesChanged_cons (h := h) (d := d) hm
        rw [he, if_pos hstatus] at hspec
        rw [hspec, he, hrest, List.foldl_cons, foldl_visit_of_ignored hignored]

lemma monitorReadsEntirely_iff {nodeName unitName interfaceName : String} {after : List Item}
    (hm : reader.position m = ⟨⟨.body, .string nodeName :: .string unitName ::
      .string interfaceName :: arrayItem props :: after⟩, outer⟩) :
    MonitorReadsEntirely reader props m ↔ (props.filterMap lineOf).length ≤ 1 := by
  unfold MonitorReadsEntirely
  rw [onUnitPropertiesChangedSignal_eq hm, List.tail_cons]
  constructor
  · intro ⟨_, htake⟩
    rw [← htake]
    exact List.length_take_le 1 _
  · intro hlength
    exact ⟨rfl, List.take_of_length_le hlength⟩

lemma statusReadsEntirely_iff {after : List Item}
    (hm : reader.position m = ⟨⟨.body, arrayItem props :: after⟩, outer⟩) :
    StatusReadsEntirely reader props m ↔ FirstStatusLast props := by
  unfold StatusReadsEntirely FirstStatusLast
  match props with
  | [] => exact iff_of_true (parseStatusFromChangedProperties_nil hm) (Or.inl rfl)
  | e :: rest =>
    have hspec := parseStatusFromChangedProperties_cons none hm
    constructor
    · intro hreads
      refine Or.inr ⟨e, rest, rfl, ?_⟩
      match hstatus : statusOf e with
      | some conState =>
        rw [hstatus] at hspec
        refine ⟨rfl, ?_⟩
        exact (congrArg Prod.snd (hspec.symm.trans hreads)).symm
      | none =>
        rw [hstatus] at hspec
        have ⟨r, hr⟩ := hspec
        have herror := congrArg Prod.fst (hr.symm.trans hreads)
        simp at herror
    · intro hor
      apply hor.elim
      · intro hnil
        simp at hnil
      · intro ⟨e', rest', heq, hstatus, hlast⟩
        have ⟨he, hrest⟩ := List.cons.inj heq
        have ⟨conState, hsome⟩ := Option.isSome_iff_exists.mp hstatus
        rw [he, hsome] at hspec
        rw [hspec, hlast, hsome]

/-- The loops of the three clients leave the first string entry open, or one of another property. -/
theorem readEntirely_iff {changed signal array : μ}
    (hm : Messages reader props changed signal array) :
    (OnlineReadsEntirely reader props changed ↔ OnlyFirstHandled props) ∧
      (MonitorReadsEntirely reader props signal ↔ (props.filterMap lineOf).length ≤ 1) ∧
      (StatusReadsEntirely reader props array ↔ FirstStatusLast props) := by
  have ⟨⟨_, _, _, hchanged⟩, ⟨_, _, _, _, _, hsignal⟩, ⟨_, _, harray⟩⟩ := hm
  exact ⟨onlineReadsEntirely_iff hchanged, monitorReadsEntirely_iff hsignal,
    statusReadsEntirely_iff harray⟩

/-- Messages about some properties that have not been read yet. -/
def changedMessage (props : Properties) : Position :=
  ⟨⟨.body, [.string "org.eclipse.bluechi.Node", arrayItem props,
    .container .array "s" []]⟩, []⟩

def signalMessage (props : Properties) : Position :=
  ⟨⟨.body, [.string "laptop", .string "mqtt.service", .string "org.freedesktop.systemd1.Unit",
    arrayItem props]⟩, []⟩

def arrayMessage (props : Properties) : Position :=
  ⟨⟨.body, [arrayItem props, .container .array "s" []]⟩, []⟩

lemma messages (props : Properties) : Messages Position.reader props (changedMessage props)
    (signalMessage props) (arrayMessage props) :=
  ⟨⟨_, _, _, rfl⟩, ⟨_, _, _, _, _, rfl⟩, ⟨_, _, rfl⟩⟩

/-- A message about the status only. -/
theorem readEntirely_status :
    let props := [("Status", Variant.string "online")]
    OnlineReadsEntirely Position.reader props (changedMessage props) ∧
      MonitorReadsEntirely Position.reader props (signalMessage props) ∧
      StatusReadsEntirely Position.reader props (arrayMessage props) := by
  have ⟨honline, hmonitor, hstatus⟩ :=
    readEntirely_iff (messages [("Status", Variant.string "online")])
  refine ⟨honline.mpr (Or.inr ⟨_, [], rfl, rfl, by simp⟩), hmonitor.mpr (by decide),
    hstatus.mpr (Or.inr ⟨_, [], rfl, rfl, rfl⟩)⟩

/-- The time when the node was last seen, and then its status. -/
def seenThenStatus : Properties :=
  [("LastSeenTimestamp", .other "t" (by decide)), ("Status", .string "online"),
    ("PeerIp", .string "192.168.2.3")]

theorem not_readEntirely : ¬∀ (μ : Type) (reader : Reader μ) (props : Properties)
    (changed signal array : μ), Messages reader props changed signal array →
      OnlineReadsEntirely reader props changed ∧ MonitorReadsEntirely reader props signal ∧
        StatusReadsEntirely reader props array := by
  intro hall
  have ⟨_, hmonitor, _⟩ := hall _ _ _ _ _ _ (messages seenThenStatus)
  unfold MonitorReadsEntirely at hmonitor
  rw [onUnitPropertiesChangedSignal_eq rfl] at hmonitor
  exact absurd hmonitor.2 (by decide)

end ChangedProperties
end BlueChi
