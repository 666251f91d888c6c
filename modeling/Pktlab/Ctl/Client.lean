/-
# The client of the controller

`ctl/pktlabctl/client.py`: the models of the responses, `_request_json`, and
the methods of `ControllerClient`. What the transport does is an `HttpOutcome`;
what the server sends is read by models that forbid fields they do not know.

Every response of the API is one that the client reads, as the same values
(`readHealthResponse_dump` and the lemmas beside it): a field that one side had
and the other had not, a bound or a type that differed would break it.

Key definitions: `ControllerStatusModel`, `DatapathStatusModel`, `read…`,
`HttpOutcome`, `requestJson`, `ClientError`.
Key theorems: `readHealthResponse_dump`, `readStatusResponse_dump`, `fetch_respond`.
-/
import Pktlab.Ctrld.RestApi

namespace Pktlab
namespace Ctl

open Utf8 Rfc8259 Decimal Ctrld Ctrld.Rest

/-! ### Models -/

/-- `ControllerStatusModel`. -/
structure ControllerStatusModel where
  service : NonEmptyStr
  version : NonEmptyStr
  state : NonEmptyStr
  message : NonEmptyStr

/-- `DatapathStatusModel`. -/
structure DatapathStatusModel where
  managed : Bool
  reachable : Bool
  socketPath : NonEmptyStr
  pid : Option { n : ℕ // 1 ≤ n }
  exitCode : Option ℤ
  lastError : Option String
  service : Option String
  version : Option String
  dpdkVersion : Option String
  state : Option String
  message : Option String
  appliedRuleVersion : Option ℕ
  portsReady : Bool
  paused : Bool

/-- `DatapathPortModel`. -/
structure DatapathPortModel where
  name : NonEmptyStr
  portId : ℕ
  role : NonEmptyStr
  state : NonEmptyStr

/-- `HealthResponseModel`. -/
structure HealthResponseModel where
  controller : ControllerStatusModel
  datapath : DatapathStatusModel

/-- `DatapathStatusResponseModel`. -/
structure DatapathStatusResponseModel where
  controller : ControllerStatusModel
  datapath : DatapathStatusModel
  ports : List DatapathPortModel

/-- `DatapathStatsResponseModel`; the model of the counters is that of the
controller. -/
structure DatapathStatsResponseModel where
  datapath : DatapathStatusModel
  stats : DatapathStatsModel

/-- `DatapathStatsResetResponseModel`. -/
structure DatapathStatsResetResponseModel where
  datapath : DatapathStatusModel
  stats : DatapathStatsModel
  message : NonEmptyStr

/-- `DatapathControlResponseModel`. -/
structure DatapathControlResponseModel where
  datapath : DatapathStatusModel
  message : NonEmptyStr

/-- `TopologyOperationResponseModel`. -/
structure TopologyOperationResponseModel where
  operation : NonEmptyStr
  topologyName : Option String
  configPath : Option String
  applied : Bool
  datapathNamespace : Option String
  datapathRunning : Bool
  message : NonEmptyStr

/-! ### `model_validate` -/

/-- `null`. -/
def isNull : Json → Bool
  | .lit b => b = utf8 "null"
  | _ => false

/-- `… | None = None`. -/
def readOptional {α : Type} (read : Json → Option α) : Option Json → Option (Option α)
  | none => some none
  | some j => if isNull j then some none else (read j).map some

/-- `int = Field(ge=1)`. -/
def readPositive (lax : Coercions) (j : Json) : Option { n : ℕ // 1 ≤ n } :=
  (readNat lax j).bind fun n => if h : 1 ≤ n then some ⟨n, h⟩ else none

/-- `bool = False`. -/
def readFlag (lax : Coercions) : Option Json → Option Bool
  | none => some false
  | some j => readBool lax j

def readController (j : Json) : Option ControllerStatusModel := do
  let ms ← onlyFields ["service", "version", "state", "message"] j
  let service ← (get? ms "service").bind readNonEmptyStr
  let version ← (get? ms "version").bind readNonEmptyStr
  let state ← (get? ms "state").bind readNonEmptyStr
  let message ← (get? ms "message").bind readNonEmptyStr
  pure ⟨service, version, state, message⟩

section Read

variable (lax : Coercions)

def readDatapath (j : Json) : Option DatapathStatusModel := do
  let ms ← onlyFields ["managed", "reachable", "socket_path", "pid", "exit_code", "last_error", "service", "version",
    "dpdk_version", "state", "message", "applied_rule_version", "ports_ready", "paused"] j
  let managed ← (get? ms "managed").bind (readBool lax)
  let reachable ← (get? ms "reachable").bind (readBool lax)
  let socketPath ← (get? ms "socket_path").bind readNonEmptyStr
  let pid ← readOptional (readPositive lax) (get? ms "pid")
  let exitCode ← readOptional (readInt lax) (get? ms "exit_code")
  let lastError ← readOptional readStr (get? ms "last_error")
  let service ← readOptional readStr (get? ms "service")
  let version ← readOptional readStr (get? ms "version")
  let dpdkVersion ← readOptional readStr (get? ms "dpdk_version")
  let state ← readOptional readStr (get? ms "state")
  let message ← readOptional readStr (get? ms "message")
  let appliedRuleVersion ← readOptional (readNat lax) (get? ms "applied_rule_version")
  let portsReady ← readFlag lax (get? ms "ports_ready")
  let paused ← readFlag lax (get? ms "paused")
  pure ⟨managed, reachable, socketPath, pid, exitCode, lastError, service, version, dpdkVersion, state, message,
    appliedRuleVersion, portsReady, paused⟩

def readPort (j : Json) : Option DatapathPortModel := do
  let ms ← onlyFields ["name", "port_id", "role", "state"] j
  let name ← (get? ms "name").bind readNonEmptyStr
  let portId ← (get? ms "port_id").bind (readNat lax)
  let role ← (get? ms "role").bind readNonEmptyStr
  let state ← (get? ms "state").bind readNonEmptyStr
  pure ⟨name, portId, role, state⟩

def readPorts : Json → Option (List DatapathPortModel)
  | .arr js => js.mapM (readPort lax)
  | _ => none

def readHealthResponse (j : Json) : Option HealthResponseModel := do
  let ms ← onlyFields ["controller", "datapath"] j
  let controller ← (get? ms "controller").bind readController
  let datapath ← (get? ms "datapath").bind (readDatapath lax)
  pure ⟨controller, datapath⟩

def readStatusResponse (j : Json) : Option DatapathStatusResponseModel := do
  let ms ← onlyFields ["controller", "datapath", "ports"] j
  let controller ← (get? ms "controller").bind readController
  let datapath ← (get? ms "datapath").bind (readDatapath lax)
  let ports ← (get? ms "ports").bind (readPorts lax)
  pure ⟨controller, datapath, ports⟩

def readStatsResponse (j : Json) : Option DatapathStatsResponseModel := do
  let ms ← onlyFields ["datapath", "stats"] j
  let datapath ← (get? ms "datapath").bind (readDatapath lax)
  let stats ← (get? ms "stats").bind (datapathStats lax)
  pure ⟨datapath, stats⟩

def readStatsResetResponse (j : Json) : Option DatapathStatsResetResponseModel := do
  let ms ← onlyFields ["datapath", "stats", "message"] j
  let datapath ← (get? ms "datapath").bind (readDatapath lax)
  let stats ← (get? ms "stats").bind (datapathStats lax)
  let message ← (get? ms "message").bind readNonEmptyStr
  pure ⟨datapath, stats, message⟩

def readControlResponse (j : Json) : Option DatapathControlResponseModel := do
  let ms ← onlyFields ["datapath", "message"] j
  let datapath ← (get? ms "datapath").bind (readDatapath lax)
  let message ← (get? ms "message").bind readNonEmptyStr
  pure ⟨datapath, message⟩

def readTopologyResponse (j : Json) : Option TopologyOperationResponseModel := do
  let ms ← onlyFields ["operation", "topology_name", "config_path", "applied", "datapath_namespace", "datapath_running",
    "message"] j
  let operation ← (get? ms "operation").bind readNonEmptyStr
  let topologyName ← readOptional readStr (get? ms "topology_name")
  let configPath ← readOptional readStr (get? ms "config_path")
  let applied ← (get? ms "applied").bind (readBool lax)
  let datapathNamespace ← readOptional readStr (get? ms "datapath_namespace")
  let datapathRunning ← (get? ms "datapath_running").bind (readBool lax)
  let message ← (get? ms "message").bind readNonEmptyStr
  pure ⟨operation, topologyName, configPath, applied, datapathNamespace, datapathRunning, message⟩

end Read

/-! ### What the API sends is read -/

/-- The controller as the client sees it. -/
def shownController (m : ControllerHealthModel) : ControllerStatusModel :=
  ⟨⟨"pktlab-ctrld", by decide⟩, m.version, ⟨stateValue m.state, by cases m.state <;> decide⟩, m.message⟩

/-- The datapath as the client sees it. -/
def shownDatapath (m : DatapathHealthModel) : DatapathStatusModel where
  managed := m.managed
  reachable := m.reachable
  socketPath := m.socketPath
  pid := m.pid
  exitCode := m.exitCode
  lastError := m.lastError
  service := m.version.map fun _ => "pktlab-dpdkd"
  version := m.version.map VersionPayload.version
  dpdkVersion := m.version.map VersionPayload.dpdkVersion
  state := m.health.map fun h => h.state.value
  message := m.health.map fun h => h.message
  appliedRuleVersion := m.health.map fun h => h.appliedRuleVersion
  portsReady := (m.health.map HealthPayload.portsReady).getD false
  paused := (m.health.map HealthPayload.paused).getD false

def shownPort (m : PortInfoModel) : DatapathPortModel :=
  ⟨m.name, m.portId, ⟨roleValue m.role, by cases m.role <;> decide⟩,
    ⟨portStateValue m.state, by cases m.state <;> decide⟩⟩

def shownTopology (m : Rest.TopologyOperationResponseModel) : TopologyOperationResponseModel :=
  ⟨⟨m.operation.value, by cases m.operation <;> decide⟩, m.topologyName, m.configPath, m.applied, m.datapathNamespace,
    m.datapathRunning, m.message⟩

section Members

variable {fields : List (List UInt8 × Json)} {name : String} {j : Json} {α β : Type}

/-- The members of an object that was built from a record. -/
theorem record_fields (names : List String) (ms : List (String × Json)) (h : ∀ m ∈ ms, m.1 ∈ names) :
    ∃ fields, onlyFields names (record ms) = some fields ∧
      ∀ name j, ms.lookup name = some j → get? fields name = some j := by
  refine ⟨_, onlyFields_obj names ms h, fun name j hj => ?_⟩
  rw [← hj]
  clear h hj
  induction ms with
  | nil => rfl
  | cons m ms ih =>
    rw [List.map_cons, get?_cons, List.lookup_cons, ih]
    by_cases hname : name = m.1
    · rw [if_pos hname, hname, beq_self_eq_true]
    · rw [if_neg hname, beq_false_of_ne hname]

/-- One field after another. -/
theorem read_step {o : Option α} {f : α → Option β} {a : α} {b : Option β} (h : o = some a) (hf : f a = b) :
    (o >>= f) = b := by
  rw [h]
  exact hf

/-- A field that has to be there. -/
theorem reads_field {read : Json → Option α} {a : α} (hget : get? fields name = some j) (hread : read j = some a) :
    (get? fields name).bind read = some a := by
  rw [hget]
  exact hread

/-- A field that may be `null`. -/
theorem reads_optional {read : Json → Option β} {dump : α → Json} {o : Option α}
    (hget : get? fields name = some (optJson dump o)) (image : α → β) (h : ∀ a, read (dump a) = some (image a))
    (hnull : ∀ a, isNull (dump a) = false) : readOptional read (get? fields name) = some (o.map image) := by
  rw [hget]
  cases o with
  | none => rfl
  | some a =>
    rw [optJson, readOptional, hnull a, h a]
    rfl

end Members

theorem readStr_strJson (s : String) : readStr (strJson s) = some s := readStr_str s

theorem readNonEmptyStr_strJson (s : NonEmptyStr) : readNonEmptyStr (strJson s) = some s := readNonEmptyStr_str s

section Dump

variable (lax : Coercions)

theorem readBool_boolJson (b : Bool) : readBool lax (boolJson b) = some b := readBool_lit lax b

theorem readNat_natJson (n : ℕ) : readNat lax (natJson n) = some n := readNat_num lax n

theorem readInt_intJson (z : ℤ) : readInt lax (intJson z) = some z := by
  have hliteral : intLiteral (if z < 0 then ascii '-' :: decimal z.natAbs else decimal z.natAbs) = some z := by
    by_cases hz : z < 0
    · have hdigits : (decimal z.natAbs).all isDigit = true := List.all_eq_true.mpr (digits_decimal z.natAbs).2
      rw [if_pos hz, intLiteral, if_pos rfl, if_pos hdigits, decimalValue_decimal]
      exact congrArg some (by omega)
    · rw [if_neg hz, intLiteral_decimal]
      exact congrArg some (by omega)
  rw [intJson, readInt, hliteral, Option.some_or]

theorem readPositive_natJson (n : { n : ℕ // 1 ≤ n }) : readPositive lax (natJson n.1) = some n := by
  rw [readPositive, natJson, readNat_num, Option.bind_some, dif_pos n.2]

theorem readController_dump (m : ControllerHealthModel) :
    readController (dumpController m) = some (shownController m) := by
  obtain ⟨fields, hfields, hget⟩ := record_fields ["service", "version", "state", "message"]
    [("service", strJson "pktlab-ctrld"), ("version", strJson m.version), ("state", strJson (stateValue m.state)),
      ("message", strJson m.message)] (by simp)
  refine read_step hfields ?_
  refine read_step (reads_field (hget "service" _ rfl) (readNonEmptyStr_strJson (shownController m).service)) ?_
  refine read_step (reads_field (hget "version" _ rfl) (readNonEmptyStr_strJson m.version)) ?_
  refine read_step (reads_field (hget "state" _ rfl) (readNonEmptyStr_strJson (shownController m).state)) ?_
  exact read_step (reads_field (hget "message" _ rfl) (readNonEmptyStr_strJson m.message)) rfl

theorem readDatapath_dump (m : DatapathHealthModel) : readDatapath lax (dumpDatapath m) = some (shownDatapath m) := by
  obtain ⟨fields, hfields, hget⟩ := record_fields ["managed", "reachable", "socket_path", "pid", "exit_code", "last_error",
    "service", "version", "dpdk_version", "state", "message", "applied_rule_version", "ports_ready", "paused"]
    (datapathMembers m) (by simp [datapathMembers])
  refine read_step hfields ?_
  refine read_step (reads_field (hget "managed" _ rfl) (readBool_boolJson lax _)) ?_
  refine read_step (reads_field (hget "reachable" _ rfl) (readBool_boolJson lax _)) ?_
  refine read_step (reads_field (hget "socket_path" _ rfl) (readNonEmptyStr_strJson _)) ?_
  refine read_step (reads_optional (hget "pid" _ rfl) id (readPositive_natJson lax) fun _ => rfl) ?_
  refine read_step (reads_optional (hget "exit_code" _ rfl) id (readInt_intJson lax) fun _ => rfl) ?_
  refine read_step (reads_optional (hget "last_error" _ rfl) id readStr_strJson fun _ => rfl) ?_
  refine read_step (reads_optional (hget "service" _ rfl) _ (fun _ => readStr_strJson _) fun _ => rfl) ?_
  refine read_step (reads_optional (hget "version" _ rfl) _ (fun _ => readStr_strJson _) fun _ => rfl) ?_
  refine read_step (reads_optional (hget "dpdk_version" _ rfl) _ (fun _ => readStr_strJson _) fun _ => rfl) ?_
  refine read_step (reads_optional (hget "state" _ rfl) _ (fun _ => readStr_strJson _) fun _ => rfl) ?_
  refine read_step (reads_optional (hget "message" _ rfl) _ (fun _ => readStr_strJson _) fun _ => rfl) ?_
  refine read_step (reads_optional (hget "applied_rule_version" _ rfl) _ (fun _ => readNat_natJson lax _)
    fun _ => rfl) ?_
  refine read_step (a := (shownDatapath m).portsReady) ?_ ?_
  · rw [hget "ports_ready" _ rfl]
    exact readBool_boolJson lax _
  refine read_step (a := (shownDatapath m).paused) ?_ ?_
  · rw [hget "paused" _ rfl]
    exact readBool_boolJson lax _
  rw [Option.map_id, Option.map_id, Option.map_id]
  rfl

theorem readPort_dump (m : PortInfoModel) : readPort lax (dumpPort m) = some (shownPort m) := by
  obtain ⟨fields, hfields, hget⟩ := record_fields ["name", "port_id", "role", "state"]
    [("name", strJson m.name), ("port_id", natJson m.portId), ("role", strJson (roleValue m.role)),
      ("state", strJson (portStateValue m.state))] (by simp)
  refine read_step hfields ?_
  refine read_step (reads_field (hget "name" _ rfl) (readNonEmptyStr_strJson m.name)) ?_
  refine read_step (reads_field (hget "port_id" _ rfl) (readNat_natJson lax _)) ?_
  refine read_step (reads_field (hget "role" _ rfl) (readNonEmptyStr_strJson (shownPort m).role)) ?_
  exact read_step (reads_field (hget "state" _ rfl) (readNonEmptyStr_strJson (shownPort m).state)) rfl

theorem readPorts_dump (ms : List PortInfoModel) : readPorts lax (.arr (ms.map dumpPort)) = some (ms.map shownPort) := by
  rw [readPorts]
  induction ms with
  | nil => rfl
  | cons m ms ih =>
    rw [List.map_cons, List.mapM_cons]
    exact read_step (readPort_dump lax m) (read_step ih rfl)

theorem intDict_dump (hits : List (String × ℤ)) :
    intDict lax (record (hits.map fun h => (h.1, intJson h.2))) = some hits := by
  rw [record, intDict]
  induction hits with
  | nil => rfl
  | cons h hits ih =>
    rw [List.map_cons, List.map_cons, List.mapM_cons]
    refine read_step (a := h) ?_ (read_step ih rfl)
    exact read_step (decodeUtf8_utf8 h.1) (read_step (readInt_intJson lax h.2) rfl)

theorem datapathStats_dump (m : DatapathStatsModel) : datapathStats lax (dumpStats m) = some m := by
  obtain ⟨fields, hfields, hget⟩ := record_fields ["rx_packets", "tx_packets", "drop_packets", "drop_parse_errors",
    "drop_no_match", "rx_bursts", "tx_bursts", "unsent_packets", "rule_hits"]
    [("rx_packets", natJson m.rxPackets), ("tx_packets", natJson m.txPackets), ("drop_packets", natJson m.dropPackets),
      ("drop_parse_errors", natJson m.dropParseErrors), ("drop_no_match", natJson m.dropNoMatch),
      ("rx_bursts", natJson m.rxBursts), ("tx_bursts", natJson m.txBursts), ("unsent_packets", natJson m.unsentPackets),
      ("rule_hits", record (m.ruleHits.map fun h => (h.1, intJson h.2)))] (by simp)
  refine read_step hfields ?_
  refine read_step (reads_field (hget "rx_packets" _ rfl) (readNat_natJson lax _)) ?_
  refine read_step (reads_field (hget "tx_packets" _ rfl) (readNat_natJson lax _)) ?_
  refine read_step (reads_field (hget "drop_packets" _ rfl) (readNat_natJson lax _)) ?_
  refine read_step (reads_field (hget "drop_parse_errors" _ rfl) (readNat_natJson lax _)) ?_
  refine read_step (reads_field (hget "drop_no_match" _ rfl) (readNat_natJson lax _)) ?_
  refine read_step (reads_field (hget "rx_bursts" _ rfl) (readNat_natJson lax _)) ?_
  refine read_step (reads_field (hget "tx_bursts" _ rfl) (readNat_natJson lax _)) ?_
  refine read_step (reads_field (hget "unsent_packets" _ rfl) (readNat_natJson lax _)) ?_
  rw [hget "rule_hits" _ rfl]
  exact read_step (intDict_dump lax m.ruleHits) rfl

/-! ### Responses -/

def shownHealth (m : Rest.HealthResponseModel) : HealthResponseModel :=
  ⟨shownController m.controller, shownDatapath m.datapath⟩

def shownStatus (m : Rest.DatapathStatusResponseModel) : DatapathStatusResponseModel :=
  ⟨shownController m.controller, shownDatapath m.datapath, m.ports.map shownPort⟩

def shownStats (m : Rest.DatapathStatsResponseModel) : DatapathStatsResponseModel := ⟨shownDatapath m.datapath, m.stats⟩

def shownStatsReset (m : Rest.DatapathStatsResetResponseModel) : DatapathStatsResetResponseModel :=
  ⟨shownDatapath m.datapath, m.stats, m.message⟩

def shownControl (m : Rest.DatapathControlResponseModel) : DatapathControlResponseModel :=
  ⟨shownDatapath m.datapath, m.message⟩

theorem readHealthResponse_dump (m : Rest.HealthResponseModel) :
    readHealthResponse lax (dumpHealth m) = some (shownHealth m) := by
  obtain ⟨fields, hfields, hget⟩ := record_fields ["controller", "datapath"]
    [("controller", dumpController m.controller), ("datapath", dumpDatapath m.datapath)] (by simp)
  refine read_step hfields ?_
  refine read_step (reads_field (hget "controller" _ rfl) (readController_dump m.controller)) ?_
  exact read_step (reads_field (hget "datapath" _ rfl) (readDatapath_dump lax m.datapath)) rfl

theorem readStatusResponse_dump (m : Rest.DatapathStatusResponseModel) :
    readStatusResponse lax (dumpStatus m) = some (shownStatus m) := by
  obtain ⟨fields, hfields, hget⟩ := record_fields ["controller", "datapath", "ports"]
    [("controller", dumpController m.controller), ("datapath", dumpDatapath m.datapath),
      ("ports", .arr (m.ports.map dumpPort))] (by simp)
  refine read_step hfields ?_
  refine read_step (reads_field (hget "controller" _ rfl) (readController_dump m.controller)) ?_
  refine read_step (reads_field (hget "datapath" _ rfl) (readDatapath_dump lax m.datapath)) ?_
  exact read_step (reads_field (hget "ports" _ rfl) (readPorts_dump lax m.ports)) rfl

theorem readStatsResponse_dump (m : Rest.DatapathStatsResponseModel) :
    readStatsResponse lax (dumpStatsResponse m) = some (shownStats m) := by
  obtain ⟨fields, hfields, hget⟩ := record_fields ["datapath", "stats"]
    [("datapath", dumpDatapath m.datapath), ("stats", dumpStats m.stats)] (by simp)
  refine read_step hfields ?_
  refine read_step (reads_field (hget "datapath" _ rfl) (readDatapath_dump lax m.datapath)) ?_
  exact read_step (reads_field (hget "stats" _ rfl) (datapathStats_dump lax m.stats)) rfl

theorem readStatsResetResponse_dump (m : Rest.DatapathStatsResetResponseModel) :
    readStatsResetResponse lax (dumpStatsReset m) = some (shownStatsReset m) := by
  obtain ⟨fields, hfields, hget⟩ := record_fields ["datapath", "stats", "message"]
    [("datapath", dumpDatapath m.datapath), ("stats", dumpStats m.stats), ("message", strJson m.message)] (by simp)
  refine read_step hfields ?_
  refine read_step (reads_field (hget "datapath" _ rfl) (readDatapath_dump lax m.datapath)) ?_
  refine read_step (reads_field (hget "stats" _ rfl) (datapathStats_dump lax m.stats)) ?_
  exact read_step (reads_field (hget "message" _ rfl) (readNonEmptyStr_strJson m.message)) rfl

theorem readControlResponse_dump (m : Rest.DatapathControlResponseModel) :
    readControlResponse lax (dumpControl m) = some (shownControl m) := by
  obtain ⟨fields, hfields, hget⟩ := record_fields ["datapath", "message"]
    [("datapath", dumpDatapath m.datapath), ("message", strJson m.message)] (by simp)
  refine read_step hfields ?_
  refine read_step (reads_field (hget "datapath" _ rfl) (readDatapath_dump lax m.datapath)) ?_
  exact read_step (reads_field (hget "message" _ rfl) (readNonEmptyStr_strJson m.message)) rfl

theorem readTopologyResponse_dump (m : Rest.TopologyOperationResponseModel) :
    readTopologyResponse lax (dumpTopology m) = some (shownTopology m) := by
  obtain ⟨fields, hfields, hget⟩ := record_fields ["operation", "topology_name", "config_path", "applied",
    "datapath_namespace", "datapath_running", "message"]
    [("operation", strJson m.operation.value), ("topology_name", optJson strJson m.topologyName),
      ("config_path", optJson strJson m.configPath), ("applied", boolJson m.applied),
      ("datapath_namespace", optJson strJson m.datapathNamespace), ("datapath_running", boolJson m.datapathRunning),
      ("message", strJson m.message)] (by simp)
  refine read_step hfields ?_
  refine read_step (reads_field (hget "operation" _ rfl) (readNonEmptyStr_strJson (shownTopology m).operation)) ?_
  refine read_step (reads_optional (hget "topology_name" _ rfl) id readStr_strJson fun _ => rfl) ?_
  refine read_step (reads_optional (hget "config_path" _ rfl) id readStr_strJson fun _ => rfl) ?_
  refine read_step (reads_field (hget "applied" _ rfl) (readBool_boolJson lax _)) ?_
  refine read_step (reads_optional (hget "datapath_namespace" _ rfl) id readStr_strJson fun _ => rfl) ?_
  refine read_step (reads_field (hget "datapath_running" _ rfl) (readBool_boolJson lax _)) ?_
  refine read_step (reads_field (hget "message" _ rfl) (readNonEmptyStr_strJson m.message)) ?_
  rw [Option.map_id]
  rfl

end Dump

/-! ### Requests -/

/-- An exception that is no `ControllerClientError`. -/
inductive Fault
  | valueError (text : String)
  | other

/-- How `response.json()` raises. -/
inductive JsonFault
  | jsonDecodeError
  | fault (e : Fault)

/-- How a request ends: with a response, of which the status is known and what
`json()` makes of it, with an `httpx.HTTPError`, or with another exception. -/
inductive HttpOutcome
  | response (status : ℕ) (json : Except JsonFault Json)
  | httpError (text : String)
  | fault (e : Fault)

/-- What is asked of the server. -/
structure HttpRequest where
  baseUrl : String
  method : String
  path : String
  body : Option Json := none

/-- `ControllerClientError`, by what its text is made of. -/
inductive ClientError
  | status (code : ℕ) (path : String) (detail : Option Json)
  | request (path text : String)
  | invalidJson
  | nonObject
  | schema (what : String) (response : Json)

/-- What a method of the client can raise. -/
inductive Raised
  | client (e : ClientError)
  | fault (e : Fault)

/-- `payload.get("detail")` of an error response, if it is not `None`. -/
def detailOf : Except JsonFault Json → Option Json
  | .ok (.obj ms) => (get? ms "detail").filter fun j => !isNull j
  | _ => none

/-- `_request_json`; what the server answers is `http`. -/
def requestJson (http : HttpRequest → HttpOutcome) (r : HttpRequest) : Except Raised Json :=
  match http r with
  | .httpError text => .error (.client (.request r.path text))
  | .fault e => .error (.fault e)
  | .response status json =>
    if ¬ (200 ≤ status ∧ status ≤ 299) then .error (.client (.status status r.path (detailOf json)))
    else
      match json with
      | .error .jsonDecodeError => .error (.client .invalidJson)
      | .error (.fault e) => .error (.fault e)
      | .ok (.obj ms) => .ok (.obj ms)
      | .ok _ => .error (.client .nonObject)

/-- A request whose response is validated by a model. -/
def fetch {α : Type} (http : HttpRequest → HttpOutcome) (what : String) (read : Json → Option α) (r : HttpRequest) :
    Except Raised α :=
  match requestJson http r with
  | .error e => .error e
  | .ok response =>
    match read response with
    | none => .error (.client (.schema what response))
    | some m => .ok m

/-- `base_url.rstrip("/")`. -/
def rstripSlash (url : String) : String := String.ofList (url.toList.reverse.dropWhile (· = '/')).reverse

/-- `ControllerClient.__init__`: the `base_url` of the client. -/
def controllerClient (baseUrl : String) : Except Raised String :=
  if blank baseUrl then .error (.fault (.valueError "base_url must be a non-empty string"))
  else .ok (rstripSlash baseUrl)

section Methods

variable (http : HttpRequest → HttpOutcome) (lax : Coercions) (baseUrl : String)

/-- `get_health`. -/
def getHealth : Except Raised HealthResponseModel :=
  fetch http "health" (readHealthResponse lax) ⟨baseUrl, "GET", "/health", none⟩

/-- `get_datapath_status`. -/
def getDatapathStatus : Except Raised DatapathStatusResponseModel :=
  fetch http "datapath status" (readStatusResponse lax) ⟨baseUrl, "GET", "/datapath/status", none⟩

/-- `get_datapath_stats`. -/
def getDatapathStats : Except Raised DatapathStatsResponseModel :=
  fetch http "datapath stats" (readStatsResponse lax) ⟨baseUrl, "GET", "/datapath/stats", none⟩

/-- `reset_datapath_stats`. -/
def resetDatapathStats : Except Raised DatapathStatsResetResponseModel :=
  fetch http "datapath stats-reset" (readStatsResetResponse lax)
    ⟨baseUrl, "POST", "/datapath/stats/reset", some (record [])⟩

/-- `pause_datapath`. -/
def pauseDatapath : Except Raised DatapathControlResponseModel :=
  fetch http "datapath pause" (readControlResponse lax) ⟨baseUrl, "POST", "/datapath/pause", some (record [])⟩

/-- `resume_datapath`. -/
def resumeDatapath : Except Raised DatapathControlResponseModel :=
  fetch http "datapath resume" (readControlResponse lax) ⟨baseUrl, "POST", "/datapath/resume", some (record [])⟩

/-- `apply_topology`. -/
def applyTopology (configPath : String) : Except Raised TopologyOperationResponseModel :=
  if blank configPath then .error (.fault (.valueError "config_path must be a non-empty string"))
  else
    fetch http "topology apply" (readTopologyResponse lax)
      ⟨baseUrl, "POST", "/topology/apply", some (record [("config_path", strJson configPath)])⟩

/-- `destroy_topology`. -/
def destroyTopology : Except Raised TopologyOperationResponseModel :=
  fetch http "topology destroy" (readTopologyResponse lax) ⟨baseUrl, "POST", "/topology/destroy", some (record [])⟩

end Methods

/-- A response as it arrives. -/
def arrived : HttpResponse → HttpOutcome
  | .json status body => .response status (.ok body)
  | .text status _ => .response status (.error .jsonDecodeError)

section Fetch

variable {α : Type} {http : HttpRequest → HttpOutcome} {what : String} {read : Json → Option α} {r : HttpRequest}

/-- A model that was dumped is fetched. -/
theorem fetch_respond {members : List (String × Json)} {m : α}
    (hhttp : http r = arrived (respond (some (record members)))) (hread : read (record members) = some m) :
    fetch http what read r = .ok m := by
  have hrequest : requestJson http r = .ok (record members) := by
    rw [requestJson, hhttp]
    rfl
  rw [fetch, hrequest]
  simp only [hread]

/-- The error of a response is fetched. -/
theorem fetch_httpException {status : ℕ} {e : Methods.PktlabError} (hstatus : 300 ≤ status)
    (hhttp : http r = arrived (httpException status e)) :
    fetch http what read r = .error (.client (.status status r.path (some (toDict e)))) := by
  have hdetail : detailOf (.ok (record [("detail", toDict e)])) = some (toDict e) := by
    unfold detailOf record
    simp only [List.map_cons, List.map_nil, get?_cons]
    rfl
  have hrequest : requestJson http r = .error (.client (.status status r.path (some (toDict e)))) := by
    rw [requestJson, hhttp, httpException]
    simp only [arrived]
    rw [if_pos (by omega), hdetail]
  rw [fetch, hrequest]

end Fetch

end Ctl
end Pktlab
