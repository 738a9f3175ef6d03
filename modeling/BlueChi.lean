import BlueChi.Library.Execution
import BlueChi.Library.Lists
import BlueChi.StringUtil
import BlueChi.StringBuilder
import BlueChi.ParseUtil
import BlueChi.TimeUtil
import BlueChi.Liveness
import BlueChi.Config
import BlueChi.Proxy
import BlueChi.ChangedProperties
import BlueChi.Agent.MergedJobs
import BlueChi.Agent.MethodReplies
import BlueChi.Agent.ConnectionState
import BlueChi.Agent.ControllerAddress
import BlueChi.Agent.ProxyReach
import BlueChi.Agent.ProxyReplies
import BlueChi.Agent.ProxyAssertions
import BlueChi.Agent.UnitInfos
import BlueChi.Controller.Announcements
import BlueChi.Controller.AnonymousNodes
import BlueChi.Controller.Attaching
import BlueChi.Controller.DependencyCounts
import BlueChi.Controller.JobIsolation
import BlueChi.Controller.JobTimes
import BlueChi.Controller.MonitorCounts
import BlueChi.Controller.NodeReplies
import BlueChi.Controller.FanOut
import BlueChi.Controller.FleetReplies
import BlueChi.Controller.LateMessages
import BlueChi.Controller.Ownership
import BlueChi.Controller.Runs
import BlueChi.Controller.SystemStatus
import BlueChi.IsOnline
import BlueChi.Library.Replication
import BlueChi.Controller.Replication
import BlueChi.Controller.MetricsCalls
import BlueChi.Controller.Addressing
import BlueChi.Pairing.System
import BlueChi.Pairing.Channel
import BlueChi.Pairing.Agreement
import BlueChi.Library.Reports
import BlueChi.Controller.JobMoves
import BlueChi.Controller.JobSteps
import BlueChi.Controller.Listening
import BlueChi.Pairing.JobReports
import BlueChi.Pairing.Jobs
