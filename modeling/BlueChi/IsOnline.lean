import Mathlib.Data.Int.Notation
import Mathlib.Data.List.Induction
import Mathlib.Data.Nat.Notation
import BlueChi.Library.Execution

/-!
# bluechi-is-online

The tool asks for the status of a service and, with `--monitor`, listens for changes until the
service is offline. A change of the controller's address excuses one offline report for a while.
-/

namespace BlueChi
namespace IsOnline

open Execution

/-! ## The tool -/

structure ConnectionState where
  hasName : Bool
  isConnected : Bool
  isSwitchingController : Bool
  deriving DecidableEq

structure ParsedParams where
  initialWait : ℤ
  shouldMonitor : Bool
  switchTimeout : ℤ
  service : String
  deriving DecidableEq

/-- `IsOnlineCli` with its event loop: the armed one-shot timers, each with the number of the
address change it was set for, and whether `sd_event_exit` was called. -/
structure Cli where
  state : ConnectionState
  params : ParsedParams
  waitTimer : Bool
  switchTimers : List ℕ
  addressChanges : ℕ
  exited : Bool
  deriving DecidableEq

/-- What the event loop hands out. A `PropertiesChanged` signal has one property. -/
inductive Event
  | nameOwnerChanged (name newOwner : String)
  | status (value : String)
  | controllerAddress
  | switchTimer (k : ℕ)
  | waitTimer
  /-- SIGTERM or SIGINT. -/
  | shutdown
  deriving DecidableEq

/-- The status of a node or an agent, or of the system. -/
def isUp (status : String) : Bool := status = "online" || status = "up"

/-- `connection_state_is_online`. -/
def connectionStateIsOnline (state : ConnectionState) : Bool := state.hasName && state.isConnected

namespace Cli

/-- `sd_event_exit`. -/
def exit (cli : Cli) : Cli := { cli with exited := true }

/-- `timer_callback`. -/
def timerCallback (cli : Cli) : Cli :=
  if connectionStateIsOnline cli.state && cli.params.shouldMonitor then cli else cli.exit

/-- `handle_connection_state_changed`. -/
def handleConnectionStateChanged (cli : Cli) (conState : String) : Cli :=
  let cli := { cli with state := { cli.state with isConnected := isUp conState } }
  if cli.state.isSwitchingController && !connectionStateIsOnline cli.state then
    { cli with state := { cli.state with isSwitchingController := false } }
  else if cli.params.shouldMonitor && !connectionStateIsOnline cli.state ||
      !cli.params.shouldMonitor && cli.params.initialWait > 0 && connectionStateIsOnline cli.state then
    cli.exit
  else cli

/-- `handle_controller_address_changed`, with `setup_timer`. -/
def handleControllerAddressChanged (cli : Cli) : Cli :=
  if cli.params.switchTimeout > 0 then
    { cli with
      switchTimers := cli.switchTimers ++ [cli.addressChanges]
      addressChanges := cli.addressChanges + 1
      state := { cli.state with isSwitchingController := true } }
  else cli

/-- `on_name_owner_changed`. -/
def onNameOwnerChanged (cli : Cli) (name newOwner : String) : Cli :=
  if name = cli.params.service ∧ newOwner ≠ "" then
    { cli with state := { cli.state with hasName := true } }
  else cli

/-- The callback of each event. A timer is armed until it expires. -/
def handle (cli : Cli) : Event → Option Cli
  | .nameOwnerChanged name newOwner => some (cli.onNameOwnerChanged name newOwner)
  | .status value => some (cli.handleConnectionStateChanged value)
  | .controllerAddress => some cli.handleControllerAddressChanged
  | .switchTimer k =>
    if k ∈ cli.switchTimers then
      some { cli with switchTimers := cli.switchTimers.erase k }.timerCallback
    else none
  | .waitTimer => if cli.waitTimer then some { cli with waitTimer := false }.timerCallback else none
  | .shutdown => some cli.exit

/-- No event is handed out after the loop has been left. -/
def step (cli : Cli) (e : Event) : Option Cli := if cli.exited then none else cli.handle e

/-- What `run_is_online` returns in the end. -/
def result (cli : Cli) : ℤ := if connectionStateIsOnline cli.state then 0 else -1

end Cli

/-- Whether `run_is_online` enters the loop. -/
def entersLoop (params : ParsedParams) (state : ConnectionState) : Bool :=
  params.shouldMonitor && connectionStateIsOnline state ||
    params.initialWait > 0 && !connectionStateIsOnline state

/-- `start_monitoring`. -/
def startMonitoring (params : ParsedParams) (state : ConnectionState) : Cli :=
  ⟨state, params, params.initialWait > 0, [], 0, false⟩

/-- The event loop, from what was found out about the service before. -/
def system : System Cli Event where
  init cli := ∃ params hasName isConnected, entersLoop params ⟨hasName, isConnected, false⟩ = true ∧
    cli = startMonitoring params ⟨hasName, isConnected, false⟩
  step := Cli.step

/-! ## When the loop has to end -/

/-- Whether the service has an owner after the event. -/
def Event.owner (service : String) (owned : Bool) : Event → Bool
  | .nameOwnerChanged name newOwner => if name = service then newOwner ≠ "" else owned
  | _ => owned

/-- Whether the last report after the event is one of being online. -/
def Event.reports (up : Bool) : Event → Bool
  | .status value => isUp value
  | _ => up

/-- The service, which was online before, has an owner and its last reported status is online. -/
def judgedOnline (params : ParsedParams) (es : List Event) : Bool :=
  es.foldl (Event.owner params.service) true && es.foldl Event.reports true

/-- The address changes, as far as offline reports are concerned. -/
structure Changes where
  /-- How many there were. -/
  count : ℕ
  /-- Those after which there was no offline report yet. -/
  unreported : List ℕ
  /-- When the last report is an offline one, the changes after which it was the first. -/
  excusing : List ℕ
  deriving DecidableEq

/-- A change counts when there is a timeout for it. -/
def Changes.next (params : ParsedParams) (c : Changes) : Event → Changes
  | .controllerAddress =>
    if params.switchTimeout > 0 then { c with count := c.count + 1, unreported := c.unreported ++ [c.count] } else c
  | .status value =>
    if isUp value then { c with excusing := [] } else { c with unreported := [], excusing := c.unreported }
  | _ => c

def changes (params : ParsedParams) (es : List Event) : Changes :=
  es.foldl (Changes.next params) ⟨0, [], []⟩

/-- The last report is the first offline one after a change whose timeout has not expired. -/
def Excused (params : ParsedParams) (es : List Event) : Prop :=
  ∃ k ∈ (changes params es).excusing, .switchTimer k ∉ es

instance (params : ParsedParams) (es : List Event) : Decidable (Excused params es) :=
  inferInstanceAs (Decidable (∃ k ∈ (changes params es).excusing, .switchTimer k ∉ es))

/-- The loop has to end after these events: the service is judged offline and not excused, or the
tool was told to stop. -/
def LoopEnds (params : ParsedParams) (es : List Event) : Prop :=
  .shutdown ∈ es ∨ judgedOnline params es = false ∧ ¬Excused params es

/-! ## What the tool gets right -/

/-- The events that the tool treats as it should. The service does not lose its owner. When an
offline report follows address changes, the timeout of one of them is running. When a timeout
expires while the service is offline, the report is not excused by another one. -/
def Treats (params : ParsedParams) (es : List Event) : Event → Prop
  | .nameOwnerChanged name newOwner => name = params.service → newOwner ≠ ""
  | .status value => isUp value = false → (changes params es).unreported ≠ [] →
      ∃ k ∈ (changes params es).unreported, .switchTimer k ∉ es
  | .switchTimer k => judgedOnline params es = false → ¬Excused params (es ++ [.switchTimer k])
  | _ => True

/-- All these events are treated as they should be. -/
def TreatsAll (params : ParsedParams) (es : List Event) : Prop :=
  ∀ before e after, es = before ++ e :: after → Treats params before e

/-! ## The loop and what it was told -/

variable {params : ParsedParams} {es : List Event} {cli cli' : Cli}

lemma changes_snoc (params : ParsedParams) (es : List Event) (e : Event) :
    changes params (es ++ [e]) = (changes params es).next params e := by
  rw [changes, List.foldl_append]
  rfl

lemma judgedOnline_snoc (params : ParsedParams) (es : List Event) (e : Event) :
    judgedOnline params (es ++ [e]) = (e.owner params.service (es.foldl (Event.owner params.service) true) &&
      e.reports (es.foldl Event.reports true)) := by
  rw [judgedOnline, List.foldl_append, List.foldl_append]
  rfl

/-- The event changes nothing of what the service is judged by. -/
lemma loopEnds_snoc {e : Event} (hshutdown : e ≠ .shutdown) (htimer : ∀ k, e ≠ .switchTimer k)
    (hchanges : ((changes params es).next params e).excusing = (changes params es).excusing)
    (hjudged : judgedOnline params (es ++ [e]) = judgedOnline params es) :
    LoopEnds params (es ++ [e]) ↔ LoopEnds params es := by
  unfold LoopEnds Excused
  rw [hjudged, changes_snoc, hchanges]
  simp [hshutdown.symm, (htimer _).symm]

/-- The record of the tool agrees with what it was told, and it is right to go on. -/
structure Follows (params : ParsedParams) (es : List Event) (cli : Cli) : Prop where
  ofParams : cli.params = params
  noWait : cli.waitTimer = false
  hasName : cli.state.hasName = true
  owned : es.foldl (Event.owner params.service) true = true
  isConnected : cli.state.isConnected = es.foldl Event.reports true
  switching : cli.state.isSwitchingController = true ↔ (changes params es).unreported ≠ []
  goesOn : ¬LoopEnds params es

lemma Follows.online (h : Follows params es cli) :
    connectionStateIsOnline cli.state = judgedOnline params es := by
  rw [connectionStateIsOnline, judgedOnline, h.hasName, h.owned, h.isConnected]

/-- What an event leads to: the tool leaves the loop when it has to, and otherwise its record is
right again. -/
def Keeps (params : ParsedParams) (es : List Event) (cli cli' : Cli) : Prop :=
  connectionStateIsOnline cli'.state = judgedOnline params es ∧
    (cli'.exited = true ∧ LoopEnds params es ∨ cli'.exited = cli.exited ∧ Follows params es cli')

lemma Follows.keeps (h : Follows params es cli') (hexited : cli'.exited = cli.exited) :
    Keeps params es cli cli' := ⟨h.online, Or.inr ⟨hexited, h⟩⟩

/-- An event that changes nothing for the tool. -/
lemma Follows.same (h : Follows params es cli) {e : Event} (hshutdown : e ≠ .shutdown)
    (htimer : ∀ k, e ≠ .switchTimer k)
    (howner : e.owner params.service true = true)
    (hreports : ∀ up, e.reports up = up)
    (hnext : (changes params es).next params e = changes params es) :
    Follows params (es ++ [e]) cli := by
  have hjudged : judgedOnline params (es ++ [e]) = judgedOnline params es := by
    rw [judgedOnline_snoc, h.owned, howner, hreports, judgedOnline, h.owned]
  refine ⟨h.ofParams, h.noWait, h.hasName, ?_, ?_, ?_, ?_⟩
  · rw [List.foldl_append, h.owned]
    exact howner
  · rw [List.foldl_append, h.isConnected]
    exact (hreports _).symm
  · rw [changes_snoc, hnext]
    exact h.switching
  · rw [loopEnds_snoc hshutdown htimer (by rw [hnext]) hjudged]
    exact h.goesOn

lemma keeps_onNameOwnerChanged (h : Follows params es cli) {name newOwner : String}
    (htreats : name = params.service → newOwner ≠ "") :
    Keeps params (es ++ [.nameOwnerChanged name newOwner]) cli
      (cli.onNameOwnerChanged name newOwner) := by
  have hsame : cli.onNameOwnerChanged name newOwner = cli := by
    unfold Cli.onNameOwnerChanged
    split
    · rw [← h.hasName]
    · rfl
  rw [hsame]
  refine (h.same (by simp) (by simp) ?_ (fun _ => rfl) rfl).keeps rfl
  show (if name = params.service then decide (newOwner ≠ "") else true) = true
  split
  · rename_i hname
    exact decide_eq_true (htreats hname)
  · rfl

/-- After a report of being online the loop goes on. -/
lemma keeps_status_up (h : Follows params es cli) (hmonitor : params.shouldMonitor = true)
    {value : String} (hup : isUp value = true) :
    Keeps params (es ++ [.status value]) cli (cli.handleConnectionStateChanged value) := by
  have hjudged : judgedOnline params (es ++ [.status value]) = true := by
    rw [judgedOnline_snoc, h.owned]
    exact hup
  have honline : connectionStateIsOnline { cli.state with isConnected := isUp value } = true := by
    rw [connectionStateIsOnline, h.hasName, hup]
    rfl
  have hhandled : cli.handleConnectionStateChanged value =
      { cli with state := { cli.state with isConnected := isUp value } } := by
    unfold Cli.handleConnectionStateChanged
    simp [honline, h.ofParams, hmonitor]
  rw [hhandled]
  refine Follows.keeps ⟨h.ofParams, h.noWait, h.hasName, ?_, ?_, ?_, ?_⟩ rfl
  · rw [List.foldl_append, h.owned]
    rfl
  · rw [List.foldl_append]
    rfl
  · rw [changes_snoc]
    show _ ↔ (Changes.next params (changes params es) (.status value)).unreported ≠ []
    rw [Changes.next, if_pos hup]
    exact h.switching
  · intro hends
    have hbefore := h.goesOn
    unfold LoopEnds at hends hbefore
    rw [hjudged] at hends
    simp at hends
    exact hbefore (Or.inl hends)

/-- An offline report ends the loop, or is excused. -/
lemma keeps_status_down (h : Follows params es cli) (hmonitor : params.shouldMonitor = true)
    {value : String} (hdown : isUp value = false)
    (htreats : (changes params es).unreported ≠ [] →
      ∃ k ∈ (changes params es).unreported, .switchTimer k ∉ es) :
    Keeps params (es ++ [.status value]) cli (cli.handleConnectionStateChanged value) := by
  have hjudged : judgedOnline params (es ++ [.status value]) = false := by
    rw [judgedOnline_snoc]
    show (_ && isUp value) = false
    rw [hdown, Bool.and_false]
  have hoffline : connectionStateIsOnline { cli.state with isConnected := isUp value } = false := by
    rw [connectionStateIsOnline, hdown]
    exact Bool.and_false _
  have hnext : changes params (es ++ [.status value]) =
      { changes params es with unreported := [], excusing := (changes params es).unreported } := by
    rw [changes_snoc, Changes.next, if_neg (by simp [hdown])]
  have hshutdown : .shutdown ∉ es ++ [.status value] := by
    intro hmem
    exact h.goesOn (Or.inl (by simpa using hmem))
  by_cases hopen : (changes params es).unreported = []
  · -- no change is waiting for a report
    have hswitching : cli.state.isSwitchingController = false := by
      rw [← Bool.not_eq_true, h.switching]
      exact not_not.mpr hopen
    have hhandled : cli.handleConnectionStateChanged value =
        { cli with state := { cli.state with isConnected := isUp value } }.exit := by
      unfold Cli.handleConnectionStateChanged
      simp [connectionStateIsOnline, hdown, hswitching, h.ofParams, hmonitor]
    rw [hhandled]
    refine ⟨hoffline.trans hjudged.symm, Or.inl ⟨rfl, Or.inr ⟨hjudged, ?_⟩⟩⟩
    intro ⟨k, hk, _⟩
    rw [hnext, hopen] at hk
    cases hk
  · have hswitching := h.switching.mpr hopen
    have hhandled : cli.handleConnectionStateChanged value = { cli with
        state := { cli.state with isConnected := isUp value, isSwitchingController := false } } := by
      unfold Cli.handleConnectionStateChanged
      simp [connectionStateIsOnline, hdown, hswitching]
    rw [hhandled]
    have ⟨k, hk, hrunning⟩ := htreats hopen
    refine Follows.keeps ⟨h.ofParams, h.noWait, h.hasName, ?_, ?_, ?_, ?_⟩ rfl
    · rw [List.foldl_append, h.owned]
      rfl
    · rw [List.foldl_append]
      rfl
    · rw [hnext]
      simp
    · intro hends
      rcases hends with hmem | ⟨_, hnot⟩
      · exact hshutdown hmem
      · apply hnot
        refine ⟨k, by rw [hnext]; exact hk, ?_⟩
        simpa using hrunning

lemma keeps_handleControllerAddressChanged (h : Follows params es cli) :
    Keeps params (es ++ [.controllerAddress]) cli cli.handleControllerAddressChanged := by
  have hjudged : judgedOnline params (es ++ [.controllerAddress]) = judgedOnline params es := by
    rw [judgedOnline_snoc]
    rfl
  have hparams := h.ofParams
  unfold Cli.handleControllerAddressChanged
  by_cases htimeout : params.switchTimeout > 0
  · rw [if_pos (hparams ▸ htimeout)]
    refine Follows.keeps ⟨h.ofParams, h.noWait, h.hasName, ?_, ?_, ?_, ?_⟩ rfl
    · rw [List.foldl_append, h.owned]
      rfl
    · rw [List.foldl_append]
      exact h.isConnected
    · rw [changes_snoc, Changes.next, if_pos htimeout]
      simp
    · rw [loopEnds_snoc (by simp) (by simp) (by rw [Changes.next, if_pos htimeout]) hjudged]
      exact h.goesOn
  · rw [if_neg (hparams ▸ htimeout)]
    refine (h.same (by simp) (by simp) rfl (fun _ => rfl) ?_).keeps rfl
    rw [Changes.next, if_neg htimeout]

/-- A timeout that expires while the service is offline ends the loop. -/
lemma keeps_switchTimer (h : Follows params es cli) (hmonitor : params.shouldMonitor = true) {k : ℕ}
    (htreats : judgedOnline params es = false → ¬Excused params (es ++ [.switchTimer k])) :
    Keeps params (es ++ [.switchTimer k]) cli
      { cli with switchTimers := cli.switchTimers.erase k }.timerCallback := by
  have hjudged : judgedOnline params (es ++ [.switchTimer k]) = judgedOnline params es := by
    rw [judgedOnline_snoc]
    rfl
  have hgoes : (connectionStateIsOnline cli.state && cli.params.shouldMonitor) =
      judgedOnline params es := by
    rw [h.online, h.ofParams, hmonitor, Bool.and_true]
  unfold Cli.timerCallback
  simp only
  rw [hgoes]
  cases hup : judgedOnline params es with
  | true =>
    rw [if_pos rfl]
    refine Follows.keeps ⟨h.ofParams, h.noWait, h.hasName, ?_, ?_, ?_, ?_⟩ rfl
    · rw [List.foldl_append, h.owned]
      rfl
    · rw [List.foldl_append]
      exact h.isConnected
    · rw [changes_snoc]
      exact h.switching
    · intro hends
      rcases hends with hmem | ⟨hoffline, _⟩
      · exact h.goesOn (Or.inl (by simpa using hmem))
      · rw [hjudged, hup] at hoffline
        cases hoffline
  | false =>
    rw [if_neg Bool.false_ne_true]
    refine ⟨?_, Or.inl ⟨rfl, Or.inr ⟨hjudged.trans hup, htreats hup⟩⟩⟩
    rw [hjudged]
    exact h.online

lemma Follows.step (h : Follows params es cli) (hmonitor : params.shouldMonitor = true) {e : Event}
    (htreats : Treats params es e) (hstep : cli.handle e = some cli') :
    Keeps params (es ++ [e]) cli cli' := by
  cases e with
  | nameOwnerChanged name newOwner =>
    rw [← Option.some.inj hstep]
    exact keeps_onNameOwnerChanged h htreats
  | status value =>
    rw [← Option.some.inj hstep]
    cases hvalue : isUp value with
    | true => exact keeps_status_up h hmonitor hvalue
    | false => exact keeps_status_down h hmonitor hvalue (htreats hvalue)
  | controllerAddress =>
    rw [← Option.some.inj hstep]
    exact keeps_handleControllerAddressChanged h
  | switchTimer k =>
    rw [Cli.handle] at hstep
    split at hstep
    · rw [← Option.some.inj hstep]
      exact keeps_switchTimer h hmonitor htreats
    · cases hstep
  | waitTimer =>
    rw [Cli.handle, h.noWait] at hstep
    cases hstep
  | shutdown =>
    rw [← Option.some.inj hstep]
    refine ⟨?_, Or.inl ⟨rfl, Or.inl (by simp)⟩⟩
    rw [judgedOnline_snoc]
    exact h.online

/-! ## Runs -/

/-- The tool as it enters the loop with `--monitor` and without `--wait`. -/
lemma follows_start {cli : Cli} (hinit : system.init cli) (hmonitor : cli.params.shouldMonitor = true)
    (hwait : cli.params.initialWait = 0) : cli.exited = false ∧ Follows cli.params [] cli := by
  have ⟨params, hasName, isConnected, henters, heq⟩ := hinit
  have hparams : cli.params = params := by rw [heq]; rfl
  rw [hparams] at hmonitor hwait
  simp only [entersLoop, hmonitor, hwait, connectionStateIsOnline, Bool.true_and, gt_iff_lt, Int.lt_irrefl,
    decide_false, Bool.false_and, Bool.or_false, Bool.and_eq_true] at henters
  rw [heq, henters.1, henters.2]
  refine ⟨rfl, rfl, ?_, rfl, rfl, rfl, by simp [changes, startMonitoring], ?_⟩
  · show decide (params.initialWait > 0) = false
    rw [hwait]
    rfl
  · intro hends
    rcases hends with hmem | ⟨hoffline, _⟩
    · cases hmem
    · cases hoffline

lemma TreatsAll.nil : TreatsAll params [] := by
  intro before e after heq
  have hne := List.append_ne_nil_of_right_ne_nil before (List.cons_ne_nil e after)
  exact absurd heq.symm hne

lemma TreatsAll.snoc {e : Event} (h : TreatsAll params es) (he : Treats params es e) :
    TreatsAll params (es ++ [e]) := by
  intro before e' after heq
  rcases List.eq_nil_or_concat after with hnil | ⟨after', last, hlast⟩
  · rw [hnil] at heq
    have ⟨hes, hlast⟩ := List.append_inj' heq rfl
    rw [← hes, ← List.singleton_inj.mp hlast]
    exact he
  · have hsplit : es ++ [e] = (before ++ e' :: after') ++ [last] := by simpa [hlast] using heq
    have ⟨hes, _⟩ := List.append_inj' hsplit rfl
    exact h before e' after' hes

lemma TreatsAll.of_snoc {e : Event} (h : TreatsAll params (es ++ [e])) :
    TreatsAll params es ∧ Treats params es e := by
  constructor
  · intro before e' after heq
    exact h before e' (after ++ [e]) (by rw [heq]; simp)
  · exact h es e [] rfl

/-- The run of the tool: it has left the loop when it had to, or its record is right. -/
lemma keeps_of_run {cli₀ : Cli} (hinit : system.init cli₀) (hmonitor : cli₀.params.shouldMonitor = true)
    (hwait : cli₀.params.initialWait = 0) (hrun : run system cli₀ es = some cli)
    (htreats : TreatsAll cli₀.params es) :
    connectionStateIsOnline cli.state = judgedOnline cli₀.params es ∧
      (cli.exited = true ∧ LoopEnds cli₀.params es ∨ cli.exited = false ∧ Follows cli₀.params es cli) := by
  have ⟨hgoing, hstart⟩ := follows_start hinit hmonitor hwait
  induction es using List.reverseRecOn generalizing cli with
  | nil =>
    rw [run_nil, Option.some.injEq] at hrun
    rw [← hrun]
    exact ⟨hstart.online, Or.inr ⟨hgoing, hstart⟩⟩
  | append_singleton es e ih =>
    rw [run_append, Option.bind_eq_some_iff] at hrun
    have ⟨before, hbefore, hlast⟩ := hrun
    rw [run_cons, Option.bind_eq_some_iff] at hlast
    have ⟨after, hafter, hnil⟩ := hlast
    rw [run_nil, Option.some.injEq] at hnil
    rw [hnil] at hafter
    have ⟨htreats', htreat⟩ := htreats.of_snoc
    have ⟨_, hstate⟩ := ih hbefore htreats'
    -- there is an event, so the loop was not left before
    have hrunning : before.exited = false ∧ before.handle e = some cli := by
      show _ ∧ _
      have hstep : before.step e = some cli := hafter
      unfold Cli.step at hstep
      split at hstep
      · cases hstep
      · rename_i hexited
        exact ⟨by simpa using hexited, hstep⟩
    rcases hstate with ⟨hexited, _⟩ | ⟨_, hfollows⟩
    · rw [hrunning.1] at hexited
      cases hexited
    · have ⟨honline, hkeeps⟩ := hfollows.step hmonitor htreat hrunning.2
      rw [hrunning.1] at hkeeps
      exact ⟨honline, hkeeps⟩

lemma keeps_iff {cli₀ : Cli} (h : cli.exited = true ∧ LoopEnds cli₀.params es ∨
    cli.exited = false ∧ Follows cli₀.params es cli) :
    cli.exited = true ↔ LoopEnds cli₀.params es := by
  rcases h with ⟨hexited, hends⟩ | ⟨hgoing, hfollows⟩
  · exact iff_of_true hexited hends
  · exact iff_of_false (by simp [hgoing]) hfollows.goesOn

/-- As long as it treats the events as it should, the tool leaves the loop at the first event after
which it has to, and the exit code says how the service is judged then. -/
theorem loop_ends_iff {cli₀ : Cli} (hinit : system.init cli₀)
    (hmonitor : cli₀.params.shouldMonitor = true) (hwait : cli₀.params.initialWait = 0)
    (hrun : run system cli₀ es = some cli) (htreats : TreatsAll cli₀.params es) :
    (∀ before e after, es = before ++ e :: after → ¬LoopEnds cli₀.params before) ∧
    (cli.exited = true ↔ LoopEnds cli₀.params es) ∧
    connectionStateIsOnline cli.state = judgedOnline cli₀.params es ∧
    (cli.result = 0 ↔ judgedOnline cli₀.params es = true) := by
  have ⟨honline, hstate⟩ := keeps_of_run hinit hmonitor hwait hrun htreats
  refine ⟨fun before e after heq => ?_, keeps_iff hstate, honline, ?_⟩
  · rw [heq, run_append, Option.bind_eq_some_iff] at hrun
    have ⟨t, ht, hrest⟩ := hrun
    rw [run_cons, Option.bind_eq_some_iff] at hrest
    have ⟨_, hstep, _⟩ := hrest
    have htreats' : TreatsAll cli₀.params before := by
      intro before' e' after' heq'
      exact htreats before' e' (after' ++ e :: after) (by rw [heq, heq']; simp)
    have ⟨_, hstate'⟩ := keeps_of_run hinit hmonitor hwait ht htreats'
    intro hends
    have hexited := (keeps_iff hstate').mpr hends
    have hstuck : t.step e = none := by rw [Cli.step, if_pos hexited]
    rw [show system.step t e = t.step e from rfl, hstuck] at hstep
    cases hstep
  · rw [Cli.result, honline]
    cases judgedOnline cli₀.params es <;> simp

/-- The agent is monitored, and excused for a second when its controller's address changes. -/
def monitorAgent : Cli := startMonitoring ⟨0, true, 1000, "org.eclipse.bluechi.Agent"⟩ ⟨true, true, false⟩

/-- The agent is switched to another controller, and the timeout expires before it is back. -/
def switchAgent : List Event := [.controllerAddress, .status "offline", .switchTimer 0]

/-- The offline report is excused until the timeout expires. -/
theorem loop_ends_switchAgent : ∃ cli, run system monitorAgent switchAgent = some cli ∧
    cli.exited = true ∧ cli.result = -1 ∧ (cli.exited = true ↔ LoopEnds monitorAgent.params switchAgent) ∧
      (cli.result = 0 ↔ judgedOnline monitorAgent.params switchAgent = true) := by
  refine ⟨_, rfl, rfl, rfl, ?_⟩
  have htreats : TreatsAll monitorAgent.params (([] ++ [.controllerAddress] ++ [.status "offline"]) ++
      [.switchTimer 0]) := by
    refine TreatsAll.snoc (TreatsAll.snoc (TreatsAll.snoc .nil trivial) ?_) ?_
    · intro _ _
      exact ⟨0, by decide, by decide⟩
    · intro _
      decide
  have ⟨_, hends, _, hresult⟩ := loop_ends_iff ⟨_, true, true, rfl, rfl⟩ rfl rfl rfl htreats
  exact ⟨hends, hresult⟩

/-- The service loses its owner, and the loop goes on. -/
theorem loop_not_ended : ¬∀ cli₀ es cli, system.init cli₀ → cli₀.params.shouldMonitor = true →
    cli₀.params.initialWait = 0 → run system cli₀ es = some cli →
      (cli.exited = true ↔ LoopEnds cli₀.params es) := by
  intro hall
  have hends := (hall monitorAgent [.nameOwnerChanged "org.eclipse.bluechi.Agent" ""] _
    ⟨_, true, true, rfl, rfl⟩ rfl rfl rfl).mpr (Or.inr ⟨by decide, by decide⟩)
  revert hends
  decide

end IsOnline
end BlueChi
