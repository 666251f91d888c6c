import Pktlab.Dpdkd.Forward
import Pktlab.Dpdkd.JsonGrammar
import Pktlab.Dpdkd.JsonTruncation
import Pktlab.Dpdkd.JsonComplete
import Pktlab.Dpdkd.JsonMembers
import Pktlab.Dpdkd.Config
import Pktlab.Dpdkd.Render
import Pktlab.Dpdkd.Daemon
import Pktlab.Dpdkd.Dispatch
import Pktlab.Dpdkd.Framing
import Pktlab.Dpdkd.IpcServer
import Pktlab.Dpdkd.Response
import Pktlab.Dpdkd.Correlation
import Pktlab.Dpdkd.Worker
import Pktlab.Ctrld.Types
import Pktlab.Ctrld.Validation
import Pktlab.Ctrld.ValidationTotal
import Pktlab.Dpdkd.Cli
import Pktlab.Ctrld.Accepted
import Pktlab.Ctrld.Acceptance
import Pktlab.Ctrld.Launch
import Pktlab.Ctrld.Host
import Pktlab.Ctrld.Topology
import Pktlab.Ctrld.TopologySteps
import Pktlab.Ctrld.TopologyRuns
import Pktlab.Ctrld.TopologyRetry
import Pktlab.Ctrld.TopologyErrors
import Pktlab.Ctrld.TopologyRollback
import Pktlab.Ctrld.InterfaceNames
import Pktlab.Ctrld.Equipped
import Pktlab.Ctrld.Built
import Pktlab.Ctrld.Builds
import Pktlab.Ctrld.Controller
import Pktlab.Ctrld.Deadlock
import Pktlab.Ctrld.Writes
import Pktlab.Ctrld.Agreement
import Pktlab.Ctrld.SecondStop
import Pktlab.Ctrld.DpdkClient
import Pktlab.Ctrld.Rejected
import Pktlab.Ctrld.DpdkdSupervisor
import Pktlab.Ctrld.Orphans
import Pktlab.Ctrld.EffectiveRuntime
import Pktlab.Dpdkd.Disposal
import Pktlab.Dpdkd.Parser
import Pktlab.Dpdkd.Frames
import Pktlab.Dpdkd.Admission
import Pktlab.Ctrld.RulesetIssues
import Pktlab.Ctrld.LcoreSpec
import Pktlab.Ctrld.PrefixLengths
import Pktlab.Ctrld.Restart
import Pktlab.Ctrld.Transitional
import Pktlab.Ctrld.Reconciling
import Pktlab.Ctrld.StatusTotal
import Pktlab.Ctrld.Live
import Pktlab.Dpdkd.InMemory
import Pktlab.Dpdkd.InMemoryTracks
import Pktlab.Dpdkd.JsonStrict
import Pktlab.Dpdkd.RenderInMemory
import Pktlab.Dpdkd.ServerRun
import Pktlab.Ctrld.LiveStatus
import Pktlab.Ctrld.ClientCounters
import Pktlab.Dpdkd.Startup
import Pktlab.Lib.Dialogue
import Pktlab.Ctrld.DatapathMethods
import Pktlab.Ctrld.LiveMethods
import Pktlab.Ctrld.MethodQuestions
import Pktlab.Ctl.Client
import Pktlab.Ctl.Output
import Pktlab.Ctl.Chain
