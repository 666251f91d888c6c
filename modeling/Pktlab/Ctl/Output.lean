/-
# What pktlabctl prints

`ctl/pktlabctl/output.py`, the commands of `ctl/pktlabctl/commands` and the
dispatch of `cli.py`. A command makes one request, and then prints what it
fetched or fails; output is bytes, in UTF-8. What is not in the repository is
`Texts`: how a value and a failed validation are put in words, and `int` of a
text.

What a command shows of a response is dumped as the controller sent it
(`dump_shownStatus` and those beside it), and it can be printed
(`printable_dumpStatus` and those beside it).

Key definitions: `Texts`, `renderStatus`, `renderStats`, `renderStatsReset`,
`renderDatapathControl`, `renderTopologyResult`, `Command`, `Args.run`.
Key theorems: `dump_shownStatus`, `printable_dumpStatus`.
-/
import Pktlab.Ctl.Client
import Pktlab.Lib.JsonPrint

namespace Pktlab
namespace Ctl

open Utf8 Rfc8259 Decimal Python Ctrld Ctrld.Rest

/-- What the commands use of Python and of pydantic. -/
structure Texts where
  /-- `str` of a value, unless it raises -/
  str : Json → Option String
  /-- `str` of the error when a response fails its model -/
  validation : String → Json → String
  /-- `int` of a text -/
  int : String → Except Fault ℤ

/-! ### `model_dump(mode="json")` -/

def dumpControllerStatus (m : ControllerStatusModel) : Json :=
  record [("service", strJson m.service), ("version", strJson m.version), ("state", strJson m.state),
    ("message", strJson m.message)]

def dumpDatapathStatus (m : DatapathStatusModel) : Json :=
  record [("managed", boolJson m.managed), ("reachable", boolJson m.reachable), ("socket_path", strJson m.socketPath),
    ("pid", optJson (fun pid => natJson pid.1) m.pid), ("exit_code", optJson intJson m.exitCode),
    ("last_error", optJson strJson m.lastError), ("service", optJson strJson m.service),
    ("version", optJson strJson m.version), ("dpdk_version", optJson strJson m.dpdkVersion),
    ("state", optJson strJson m.state), ("message", optJson strJson m.message),
    ("applied_rule_version", optJson natJson m.appliedRuleVersion), ("ports_ready", boolJson m.portsReady),
    ("paused", boolJson m.paused)]

def dumpDatapathPort (m : DatapathPortModel) : Json :=
  record [("name", strJson m.name), ("port_id", natJson m.portId), ("role", strJson m.role), ("state", strJson m.state)]

def DatapathStatusResponseModel.dump (m : DatapathStatusResponseModel) : Json :=
  record [("controller", dumpControllerStatus m.controller), ("datapath", dumpDatapathStatus m.datapath),
    ("ports", .arr (m.ports.map dumpDatapathPort))]

def DatapathStatsResponseModel.dump (m : DatapathStatsResponseModel) : Json :=
  record [("datapath", dumpDatapathStatus m.datapath), ("stats", dumpStats m.stats)]

def DatapathStatsResetResponseModel.dump (m : DatapathStatsResetResponseModel) : Json :=
  record [("datapath", dumpDatapathStatus m.datapath), ("stats", dumpStats m.stats), ("message", strJson m.message)]

def DatapathControlResponseModel.dump (m : DatapathControlResponseModel) : Json :=
  record [("datapath", dumpDatapathStatus m.datapath), ("message", strJson m.message)]

def TopologyOperationResponseModel.dump (m : TopologyOperationResponseModel) : Json :=
  record [("operation", strJson m.operation), ("topology_name", optJson strJson m.topologyName),
    ("config_path", optJson strJson m.configPath), ("applied", boolJson m.applied),
    ("datapath_namespace", optJson strJson m.datapathNamespace), ("datapath_running", boolJson m.datapathRunning),
    ("message", strJson m.message)]

/-! ### Lines -/

def yesNo (b : Bool) : String := if b then "yes" else "no"

/-- A text that is there and is not empty. -/
def given (text : Option String) : Option String := text.filter fun s => s ≠ ""

/-- A line for a value, if it is there. -/
def lineFor {α : Type} (line : α → String) (value : Option α) : List String := (value.map line).toList

def joinLines (lines : List String) : String := String.intercalate "\n" lines

/-- `str.splitlines()`. -/
def splitlines : List Char → List (List Char)
  | [] => []
  | '\r' :: '\n' :: s => [] :: splitlines s
  | c :: s =>
    if isLineBreak c then [] :: splitlines s
    else
      match splitlines s with
      | [] => [[c]]
      | line :: lines => (c :: line) :: lines

/-- The line for the service, if there is one to name. -/
def serviceLine (datapath : DatapathStatusModel) : List String :=
  match given datapath.service, given datapath.version with
  | some service, some version =>
    [s!"  service: {service} {version}" ++ ((given datapath.dpdkVersion).map fun dpdk => s!" (DPDK {dpdk})").getD ""]
  | _, _ => []

/-- `render_human_status`. -/
def renderHumanStatus (payload : DatapathStatusResponseModel) : String :=
  let controller := payload.controller
  let datapath := payload.datapath
  let reachable := if datapath.reachable then "reachable" else "unreachable"
  let pid := (datapath.pid.map fun pid => toString pid.1).getD "n/a"
  joinLines
    ([s!"controller: {controller.state.1} ({controller.message.1})",
      s!"  service: {controller.service.1} {controller.version.1}",
      s!"datapath: {reachable}",
      s!"  managed: {yesNo datapath.managed}",
      s!"  socket: {datapath.socketPath.1}",
      s!"  pid: {pid}"] ++
    lineFor (fun state => s!"  state: {state}") datapath.state ++
    lineFor (fun message => s!"  message: {message}") (given datapath.message) ++
    serviceLine datapath ++
    lineFor (fun version => s!"  applied_rule_version: {version}") datapath.appliedRuleVersion ++
    [s!"  ports_ready: {yesNo datapath.portsReady}", s!"  paused: {yesNo datapath.paused}"] ++
    lineFor (fun code => s!"  exit_code: {code}") datapath.exitCode ++
    lineFor (fun error => s!"  error: {error}") (given datapath.lastError) ++
    (if payload.ports.isEmpty then []
      else "ports:" :: payload.ports.map fun port =>
        s!"  {port.role.1}: {port.name.1} (id={port.portId}, state={port.state.1})"))

/-- `sorted(stats.rule_hits, key=int)`, with the hits. -/
def sortedHits (int : String → Except Fault ℤ) (hits : List (String × ℤ)) : Except Fault (List (String × ℤ)) := do
  let keyed ← hits.mapM fun hit => do
    let key ← int hit.1
    pure (key, hit)
  pure ((keyed.insertionSort fun a b => a.1 ≤ b.1).map Prod.snd)

/-- `_render_human_stats_lines`. -/
def renderHumanStatsLines (int : String → Except Fault ℤ) (datapath : DatapathStatusModel) (stats : DatapathStatsModel)
    (heading : String) : Except Fault String := do
  let hits ← sortedHits int stats.ruleHits
  let state := datapath.state.getD "unknown"
  pure (joinLines
    ([s!"{heading}: {state}",
      s!"  socket: {datapath.socketPath.1}",
      s!"  rx_packets: {stats.rxPackets}",
      s!"  tx_packets: {stats.txPackets}",
      s!"  drop_packets: {stats.dropPackets}",
      s!"  drop_parse_errors: {stats.dropParseErrors}",
      s!"  drop_no_match: {stats.dropNoMatch}",
      s!"  rx_bursts: {stats.rxBursts}",
      s!"  tx_bursts: {stats.txBursts}",
      s!"  unsent_packets: {stats.unsentPackets}"] ++
    (if hits.isEmpty then ["  rule_hits: none"]
      else "  rule_hits:" :: hits.map fun hit => s!"    {hit.1}: {hit.2}")))

/-- `render_human_stats_reset`. -/
def renderHumanStatsReset (int : String → Except Fault ℤ) (payload : DatapathStatsResetResponseModel) :
    Except Fault String := do
  let counters ← renderHumanStatsLines int payload.datapath payload.stats "post-reset counters"
  pure (joinLines (s!"datapath stats reset: {payload.message.1}" :: (splitlines counters.toList).map String.ofList))

/-- `render_human_datapath_control`. -/
def renderHumanDatapathControl (action : String) (payload : DatapathControlResponseModel) : String :=
  let datapath := payload.datapath
  let state := datapath.state.getD "unknown"
  joinLines
    ([s!"datapath {action}: {payload.message.1}",
      s!"  state: {state}",
      s!"  socket: {datapath.socketPath.1}",
      s!"  reachable: {yesNo datapath.reachable}",
      s!"  ports_ready: {yesNo datapath.portsReady}",
      s!"  paused: {yesNo datapath.paused}"] ++
    lineFor (fun message => s!"  message: {message}") (given datapath.message))

/-- The lines of `render_topology_result`. -/
def renderHumanTopologyResult (payload : TopologyOperationResponseModel) : String :=
  joinLines
    ([s!"topology {payload.operation.1}: {payload.message.1}",
      s!"  applied: {yesNo payload.applied}",
      s!"  datapath_running: {yesNo payload.datapathRunning}"] ++
    lineFor (fun name => s!"  topology: {name}") payload.topologyName ++
    lineFor (fun path => s!"  config_path: {path}") payload.configPath ++
    lineFor (fun netns => s!"  datapath_namespace: {netns}") payload.datapathNamespace)

/-! ### Rendering -/

/-- The text of a report, or the JSON of its payload. -/
def render (jsonOutput : Bool) (dump : Json) (human : Except Fault String) : Except Fault (List UInt8) :=
  if jsonOutput then .ok (dumps dump) else human.map utf8

section Render

variable (texts : Texts) (jsonOutput : Bool)

/-- `render_status`. -/
def renderStatus (payload : DatapathStatusResponseModel) : Except Fault (List UInt8) :=
  render jsonOutput payload.dump (.ok (renderHumanStatus payload))

/-- `render_stats`. -/
def renderStats (payload : DatapathStatsResponseModel) : Except Fault (List UInt8) :=
  render jsonOutput payload.dump (renderHumanStatsLines texts.int payload.datapath payload.stats "datapath stats")

/-- `render_stats_reset`. -/
def renderStatsReset (payload : DatapathStatsResetResponseModel) : Except Fault (List UInt8) :=
  render jsonOutput payload.dump (renderHumanStatsReset texts.int payload)

/-- `render_datapath_control`. -/
def renderDatapathControl (action : String) (payload : DatapathControlResponseModel) : Except Fault (List UInt8) :=
  render jsonOutput payload.dump (.ok (renderHumanDatapathControl action payload))

/-- `render_topology_result`. -/
def renderTopologyResult (payload : TopologyOperationResponseModel) : Except Fault (List UInt8) :=
  render jsonOutput payload.dump (.ok (renderHumanTopologyResult payload))

end Render

/-! ### Commands -/

/-- The text of a `ControllerClientError`. -/
def ClientError.text (texts : Texts) : ClientError → String
  | .status code path detail =>
    s!"controller returned HTTP {code} for {path}" ++ ((detail.bind texts.str).map fun text => s!": {text}").getD ""
  | .request path text => s!"controller request failed for {path}: {text}"
  | .invalidJson => "controller returned invalid JSON"
  | .nonObject => "controller returned a non-object JSON payload"
  | .schema what response =>
    s!"controller {what} response did not match the expected schema: {texts.validation what response}"

/-- How a command ends. -/
structure Finished where
  exitCode : ℕ
  stdout : List UInt8 := []
  stderr : List UInt8 := []

/-- What is written when a command fails. -/
def failed (text : String) : Finished := { exitCode := 1, stderr := utf8 s!"pktlabctl: {text}\n" }

/-- What is written when a command has its output. -/
def printed (output : List UInt8) : Finished := { exitCode := 0, stdout := output ++ utf8 "\n" }

/-- A command that prints what it fetched. -/
def runCommand {α : Type} (texts : Texts) (result : Except Raised α) (output : α → Except Fault (List UInt8)) :
    Except Fault Finished :=
  match result with
  | .error (.client e) => .ok (failed (e.text texts))
  | .error (.fault e) => .error e
  | .ok payload => (output payload).map printed

/-- `except (ControllerClientError, ValueError)`, around what is fetched. -/
def catchValueError {α : Type} (texts : Texts) (result : Except Raised α) (output : α → Except Fault (List UInt8)) :
    Except Fault Finished :=
  match result with
  | .error (.fault (.valueError text)) => .ok (failed text)
  | result => runCommand texts result output

/-- The commands of `build_parser`. -/
inductive Command
  | status
  | statsShow
  | statsReset
  | datapathPause
  | datapathResume
  | topologyApply (configPath : String)
  | topologyDestroy

/-- A command line. -/
structure Args where
  controllerUrl : String
  jsonOutput : Bool
  command : Command

/-- `main`, once the command line is parsed; what the server answers is `http`. -/
def Args.run (texts : Texts) (lax : Coercions) (http : HttpRequest → HttpOutcome) (args : Args) :
    Except Fault Finished :=
  match args.command with
  | .status =>
    runCommand texts ((controllerClient args.controllerUrl).bind (getDatapathStatus http lax))
      (renderStatus args.jsonOutput)
  | .statsShow =>
    runCommand texts ((controllerClient args.controllerUrl).bind (getDatapathStats http lax))
      (renderStats texts args.jsonOutput)
  | .statsReset =>
    runCommand texts ((controllerClient args.controllerUrl).bind (resetDatapathStats http lax))
      (renderStatsReset texts args.jsonOutput)
  | .datapathPause =>
    runCommand texts ((controllerClient args.controllerUrl).bind (pauseDatapath http lax))
      (renderDatapathControl args.jsonOutput "pause")
  | .datapathResume =>
    runCommand texts ((controllerClient args.controllerUrl).bind (resumeDatapath http lax))
      (renderDatapathControl args.jsonOutput "resume")
  | .topologyApply configPath =>
    catchValueError texts
      ((controllerClient args.controllerUrl).bind fun baseUrl => applyTopology http lax baseUrl configPath)
      (renderTopologyResult args.jsonOutput)
  | .topologyDestroy =>
    runCommand texts ((controllerClient args.controllerUrl).bind (destroyTopology http lax))
      (renderTopologyResult args.jsonOutput)

/-! ### What the client dumps -/

theorem optJson_map {α β : Type} (f : α → β) (dump : β → Json) (o : Option α) :
    optJson dump (o.map f) = optJson (fun a => dump (f a)) o := by
  cases o <;> rfl

theorem dumpControllerStatus_shown (m : ControllerHealthModel) :
    dumpControllerStatus (shownController m) = dumpController m := rfl

theorem dumpDatapathStatus_shown (m : DatapathHealthModel) : dumpDatapathStatus (shownDatapath m) = dumpDatapath m := by
  unfold dumpDatapathStatus dumpDatapath datapathMembers shownDatapath
  simp only [optJson_map]

theorem dump_shownStatus (m : Rest.DatapathStatusResponseModel) : (shownStatus m).dump = dumpStatus m := by
  unfold DatapathStatusResponseModel.dump dumpStatus shownStatus
  rw [dumpControllerStatus_shown, dumpDatapathStatus_shown, List.map_map]
  rfl

theorem dump_shownStats (m : Rest.DatapathStatsResponseModel) : (shownStats m).dump = dumpStatsResponse m := by
  unfold DatapathStatsResponseModel.dump dumpStatsResponse shownStats
  rw [dumpDatapathStatus_shown]

theorem dump_shownStatsReset (m : Rest.DatapathStatsResetResponseModel) :
    (shownStatsReset m).dump = dumpStatsReset m := by
  unfold DatapathStatsResetResponseModel.dump dumpStatsReset shownStatsReset
  rw [dumpDatapathStatus_shown]

theorem dump_shownControl (m : Rest.DatapathControlResponseModel) : (shownControl m).dump = dumpControl m := by
  unfold DatapathControlResponseModel.dump dumpControl shownControl
  rw [dumpDatapathStatus_shown]

theorem dump_shownTopology (m : Rest.TopologyOperationResponseModel) : (shownTopology m).dump = dumpTopology m := rfl

/-! ### What is dumped can be printed -/

theorem printable_strJson (s : String) : Printable (strJson s) := .str (isUtf8_utf8 s)

theorem printable_boolJson (b : Bool) : Printable (boolJson b) := by
  cases b
  · exact .lit (by decide)
  · exact .lit (by decide)

theorem printable_natJson (n : ℕ) : Printable (natJson n) := .num (number_decimal n)

theorem printable_intJson (z : ℤ) : Printable (intJson z) := by
  unfold intJson
  split
  · exact .num (number_minus_decimal (by omega))
  · exact .num (number_decimal _)

theorem printable_optJson {α : Type} {dump : α → Json} (h : ∀ a, Printable (dump a)) (o : Option α) :
    Printable (optJson dump o) := by
  cases o with
  | none => exact .lit (by decide)
  | some a => exact h a

theorem printable_record {ms : List (String × Json)} (h : ∀ m ∈ ms, Printable m.2) : Printable (record ms) := by
  refine .obj (fun m hm => ?_) fun m hm => ?_
  all_goals obtain ⟨x, hx, rfl⟩ := List.mem_map.mp hm
  · exact isUtf8_utf8 x.1
  · exact h x hx

theorem printable_arr {α : Type} {dump : α → Json} (h : ∀ a, Printable (dump a)) (l : List α) :
    Printable (.arr (l.map dump)) := by
  refine .arr fun j hj => ?_
  obtain ⟨a, -, rfl⟩ := List.mem_map.mp hj
  exact h a

theorem printable_dumpController (m : ControllerHealthModel) : Printable (dumpController m) :=
  printable_record (by simp [printable_strJson])

theorem printable_dumpDatapath (m : DatapathHealthModel) : Printable (dumpDatapath m) :=
  printable_record (by
    simp [datapathMembers, printable_strJson, printable_boolJson, printable_natJson, printable_intJson,
      printable_optJson])

theorem printable_dumpPort (m : PortInfoModel) : Printable (dumpPort m) :=
  printable_record (by simp [printable_strJson, printable_natJson])

theorem printable_dumpStats (m : DatapathStatsModel) : Printable (dumpStats m) := by
  have hhits : Printable (record (m.ruleHits.map fun h => (h.1, intJson h.2))) := by
    refine printable_record fun x hx => ?_
    obtain ⟨h, -, rfl⟩ := List.mem_map.mp hx
    exact printable_intJson h.2
  exact printable_record (by simp [printable_natJson, hhits])

theorem printable_dumpStatus (m : Rest.DatapathStatusResponseModel) : Printable (dumpStatus m) :=
  printable_record (by
    simp [printable_dumpController, printable_dumpDatapath, printable_arr, printable_dumpPort])

theorem printable_dumpStatsResponse (m : Rest.DatapathStatsResponseModel) : Printable (dumpStatsResponse m) :=
  printable_record (by simp [printable_dumpDatapath, printable_dumpStats])

theorem printable_dumpStatsReset (m : Rest.DatapathStatsResetResponseModel) : Printable (dumpStatsReset m) :=
  printable_record (by simp [printable_dumpDatapath, printable_dumpStats, printable_strJson])

theorem printable_dumpControl (m : Rest.DatapathControlResponseModel) : Printable (dumpControl m) :=
  printable_record (by simp [printable_dumpDatapath, printable_strJson])

theorem printable_dumpTopology (m : Rest.TopologyOperationResponseModel) : Printable (dumpTopology m) :=
  printable_record (by simp [printable_strJson, printable_boolJson, printable_optJson])

end Ctl
end Pktlab
