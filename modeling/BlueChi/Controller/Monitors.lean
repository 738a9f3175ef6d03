import BlueChi.Controller.Connections

/-!
# Client monitors

The methods of the monitor interface, the end of a client, and the switch of the metrics.
-/

namespace BlueChi

/-- `monitor->object_path`. -/
def monitorObjectPath (monitor : Monitor) : String :=
  s!"/org/eclipse/bluechi/monitor/{monitor.id.toNat}"

namespace Controller

/-! ## Making monitors -/

/-- `monitor_new`, at the next free address. -/
def monitorNew (s : Controller) (owner : String) : Controller :=
  let m := s.nextPtr
  { s.newRef (.monitor m) with
    monitor := Function.update s.monitor m ⟨s.nextMonitorId + 1, owner, [], false, []⟩
    nextPtr := m + 1
    nextMonitorId := s.nextMonitorId + 1 }

/-- `LIST_APPEND` to the monitors, with the reference that the list holds. -/
def appendMonitor (s : Controller) (m : MonitorId) : Controller :=
  { s.takeRef (.monitor m) .list with monitors := s.monitors ++ [m] }

/-- `controller_method_create_monitor`; `exported` is the outcome of `monitor_export`. The
error reply to a failed export is addressed to no message, so sd-bus answers the call. -/
def createMonitor (s : Controller) (serial : Serial) (owner : String) (exported : Bool) :
    Controller :=
  let m := s.nextPtr
  let s := s.monitorNew owner
  let s :=
    if exported then
      let s := s.modifyMonitor m fun monitor => { monitor with exportSlot := true }
      (s.emit (.reply serial (.objectPath (monitorObjectPath (s.monitor m))))).appendMonitor m
    else s.emit (.replyError serial "Invalid argument")
  s.monitorUnref m .creator

/-! ## Subscriptions of a monitor -/

/-- `create_monitor_subscription`, at the next free address. -/
def createMonitorSubscription (s : Controller) (m : MonitorId) (node : String)
    (units : List String) : Subscription × Controller :=
  let sub : Subscription := ⟨s.nextPtr, s.nextSubscriptionId + 1, .client m, node, units⟩
  (sub, { (s.newRef (.subscription s.nextPtr)).takeRef (.monitor m) (.subscription s.nextPtr) with
    nextPtr := s.nextPtr + 1, nextSubscriptionId := s.nextSubscriptionId + 1 })

/-- `LIST_APPEND` to the subscriptions of a monitor, with the reference that the list holds. -/
def appendMonitorSubscription (s : Controller) (m : MonitorId) (sub : Subscription) :
    Controller :=
  (s.takeRef (.subscription sub.ptr) .list).modifyMonitor m fun monitor =>
    { monitor with subscriptions := monitor.subscriptions ++ [sub] }

/-- `LIST_REMOVE` from the subscriptions of a monitor, and the drop of its reference. -/
def removeMonitorSubscription (s : Controller) (m : MonitorId) (sub : Subscription) :
    Controller :=
  let s := s.removeSubscription sub
  let s := (s.listRemove (.subscriptions m) (sub ∈ (s.monitor m).subscriptions)).modifyMonitor m
    fun monitor => { monitor with subscriptions := monitor.subscriptions.erase sub }
  s.subscriptionUnref sub .list

/-- `monitor_method_subscribe_list`, and with one unit `monitor_method_subscribe`. -/
def monitorMethodSubscribe (s : Controller) (m : MonitorId) (serial : Serial) (node : String)
    (units : List String) : Controller :=
  let (sub, s) := s.createMonitorSubscription m node units
  let s := (s.appendMonitorSubscription m sub).addSubscription sub
  (s.emit (.reply serial (.id sub.id))).subscriptionUnref sub .creator

/-- `monitor_method_unsubscribe`. -/
def monitorMethodUnsubscribe (s : Controller) (m : MonitorId) (serial : Serial)
    (subId : UInt32) : Controller :=
  match (s.monitor m).subscriptions.find? fun sub => sub.id = subId with
  | none => s.emit (.replyError serial s!"Subscription '{subId}' not found")
  | some sub => (s.removeMonitorSubscription m sub).emit (.reply serial .empty)

/-! ## Peers -/

/-- `monitor_add_peer`. -/
def monitorAddPeer (s : Controller) (m : MonitorId) (name : String) : Controller :=
  { s.modifyMonitor m fun monitor =>
      { monitor with peers := monitor.peers ++ [⟨s.nextPeerId + 1, name⟩] } with
    nextPeerId := s.nextPeerId + 1 }

/-- `monitor_method_add_peer`. -/
def monitorMethodAddPeer (s : Controller) (m : MonitorId) (serial : Serial) (name : String) :
    Controller :=
  if !busIdIsValid name then
    s.emit (.replyError serial s!"Peer name '{name}' is not a valid bus name")
  else if name ∈ recipients (s.monitor m) then
    s.emit (.replyError serial s!"Peer name '{name}' has already been added")
  else
    (s.monitorAddPeer m name).emit (.reply serial (.id (s.nextPeerId + 1)))

/-- `monitor_method_remove_peer`. -/
def monitorMethodRemovePeer (s : Controller) (m : MonitorId) (serial : Serial) (peerId : UInt32)
    (reason : String) : Controller :=
  match (s.monitor m).peers.find? fun peer => peer.id = peerId with
  | none => s.emit (.replyError serial s!"Peer with ID '{peerId}' not found.")
  | some peer =>
    let s := (s.emit (.monitorSignal m peer.name (.peerRemoved reason))).modifyMonitor m
      fun monitor => { monitor with peers := monitor.peers.erase peer }
    s.emit (.reply serial .empty)

/-! ## Closing -/

/-- The second half of `monitor_close`: the peers are told and the object leaves the bus. -/
def closePeers (s : Controller) (m : MonitorId) : Controller :=
  let s := (s.monitor m).peers.foldl
    (fun s peer => s.emit (.monitorSignal m peer.name (.peerRemoved "monitor closed"))) s
  s.modifyMonitor m fun monitor => { monitor with peers := [], exportSlot := false }

/-- `monitor_close`. -/
def monitorClose (s : Controller) (m : MonitorId) : Controller :=
  let s := (s.monitor m).subscriptions.foldl (fun s sub => s.removeMonitorSubscription m sub) s
  s.closePeers m

/-- `LIST_REMOVE` from the monitors. -/
def unlistMonitor (s : Controller) (m : MonitorId) : Controller :=
  { s.listRemove .monitors (m ∈ s.monitors) with monitors := s.monitors.erase m }

/-- `controller_remove_monitor`. -/
def removeMonitor (s : Controller) (m : MonitorId) : Controller :=
  (s.unlistMonitor m).monitorUnref m .list

/-- `monitor_method_close`. A monitor that is called is on the bus. -/
def monitorMethodClose (s : Controller) (m : MonitorId) (serial : Serial) : Controller :=
  let s := s.takeRef (.monitor m) .handler
  let s :=
    if !(s.monitor m).exportSlot then s.emit (.replyError serial "Monitor already closed")
    else ((s.monitorClose m).removeMonitor m).emit (.reply serial .empty)
  s.monitorUnref m .handler

/-- One round of the loop of `controller_client_disconnected`. -/
def closeOwned (clientId : String) (s : Controller) (m : MonitorId) : Controller :=
  if (s.monitor m).owner = clientId then (s.monitorClose m).removeMonitor m else s

/-- `controller_name_owner_changed`, with `controller_client_disconnected`. -/
def nameOwnerChanged (s : Controller) (name newOwner : String) : Controller :=
  if name.toList.head? = some ':' ∧ newOwner = "" then s.monitors.foldl (closeOwned name) s
  else s

/-! ## Metrics -/

/-- `controller_method_metrics_enable`; `exported` is the outcome of `metrics_export`. -/
def methodMetricsEnable (s : Controller) (serial : Serial) (exported : Bool)
    (fails : BusCall → Bool) : Controller :=
  if s.metricsEnabled then s.emit (.replyError serial "Metrics already enabled")
  else if !exported then s.emit (.replyError serial "Failed to register metrics service")
  else
    (s.nodes.foldl (nodeEnableMetrics fails) { s with metricsEnabled := true }).emit
      (.reply serial .empty)

/-- `controller_method_metrics_disable`. -/
def methodMetricsDisable (s : Controller) (serial : Serial) : Controller :=
  if !s.metricsEnabled then s.emit (.replyError serial "Metrics already disabled")
  else
    (s.nodes.foldl nodeDisableMetrics { s with metricsEnabled := false }).emit
      (.reply serial .empty)

/-! ## Stopping -/

/-- The removals of `controller_stop` from the jobs up to the monitors. -/
def stopClients (sync : SyncCalls) (s : Controller) : Controller :=
  let s := s.jobs.foldl (fun s job => s.removeJob sync job "cancelled due to shutdown") s
  let s := s.allSubscriptions.foldl removeSubscription s
  s.monitors.foldl removeMonitor s

/-- The removal of the nodes in `controller_stop`. -/
def stopNodes (s : Controller) : Controller :=
  let s := s.nodes.foldl removeNode s
  s.anonymousNodes.foldl removeNode s

/-- The event loop is left. -/
def markStopped (s : Controller) : Controller := { s with stopped := true }

/-- `controller_stop`. -/
def controllerStop (sync : SyncCalls) (s : Controller) : Controller :=
  let s := s.stopClients sync
  let s' := s.stopNodes
  if s.numberOfNodesOnline > 0 then (s'.checkSystemStatus s'.numberOfNodesOnline).markStopped
  else s'.markStopped

end Controller
end BlueChi
