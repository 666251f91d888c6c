/-
# The REST API of the controller

The response models of `pktlab_ctrld/api/models.py`, what they are dumped as,
and the routes of `routes_health.py`, `routes_datapath.py` and
`routes_topology.py`. A model holds its constraints in its types, so what is
left of `from_snapshot` is the one text that may be too short, the message of
the controller. An exception that a route does not turn into a response is an
internal server error.

Key definitions: `ControllerHealthModel`, `DatapathHealthModel`,
`TopologyOperationResponseModel`, `dump…`, `fromStatus`, `toHttpException`,
`route`, `getHealth`, `getDatapathStatus`, `getDatapathStats`,
`postStatsReset`, `postControl`, `topologyResponse`.
-/
import Pktlab.Ctrld.DatapathMethods

namespace Pktlab
namespace Ctrld
namespace Rest

open Utf8 Rfc8259 Decimal Methods

/-! ### Values -/

def strJson (s : String) : Json := .str (utf8 s)

def boolJson (b : Bool) : Json := .lit (if b then utf8 "true" else utf8 "false")

def natJson (n : ℕ) : Json := .num (decimal n)

def intJson (z : ℤ) : Json := .num (if z < 0 then ascii '-' :: decimal z.natAbs else decimal z.natAbs)

/-- `None` or a value. -/
def optJson {α : Type} (f : α → Json) : Option α → Json
  | none => .lit (utf8 "null")
  | some a => f a

/-- A `dict` with these members. -/
def record (members : List (String × Json)) : Json := .obj (members.map fun m => (utf8 m.1, m.2))

/-! ### Models -/

def stateValue : ControllerState → String
  | .stopped => "stopped"
  | .starting => "starting"
  | .running => "running"
  | .degraded => "degraded"
  | .reconciling => "reconciling"
  | .stopping => "stopping"
  | .failed => "failed"

def roleValue : PortRole → String
  | .ingress => "ingress"
  | .egress => "egress"

def portStateValue : DatapathPortState → String
  | .up => "up"
  | .down => "down"

/-- `ControllerHealthModel`; its `service` is always the same. -/
structure ControllerHealthModel where
  version : NonEmptyStr
  state : ControllerState
  message : NonEmptyStr

/-- `DatapathHealthModel`; the fields of a version come together, and those of
a health do. -/
structure DatapathHealthModel where
  managed : Bool
  reachable : Bool
  socketPath : NonEmptyStr
  pid : Option { n : ℕ // 1 ≤ n }
  exitCode : Option ℤ
  lastError : Option String
  version : Option VersionPayload
  health : Option HealthPayload

/-- `HealthResponseModel`. -/
structure HealthResponseModel where
  controller : ControllerHealthModel
  datapath : DatapathHealthModel

/-- `DatapathStatusResponseModel`. -/
structure DatapathStatusResponseModel where
  controller : ControllerHealthModel
  datapath : DatapathHealthModel
  ports : List PortInfoModel

/-- `DatapathStatsResponseModel`. -/
structure DatapathStatsResponseModel where
  datapath : DatapathHealthModel
  stats : DatapathStatsModel

/-- `DatapathStatsResetResponseModel`. -/
structure DatapathStatsResetResponseModel where
  datapath : DatapathHealthModel
  stats : DatapathStatsModel
  message : NonEmptyStr

/-- `DatapathControlResponseModel`. -/
structure DatapathControlResponseModel where
  datapath : DatapathHealthModel
  message : NonEmptyStr

/-- `Literal["apply", "destroy"]`. -/
inductive TopologyOperation
  | apply
  | destroy
  deriving DecidableEq, Repr

def TopologyOperation.value : TopologyOperation → String
  | .apply => "apply"
  | .destroy => "destroy"

/-- `TopologyOperationResponseModel`. -/
structure TopologyOperationResponseModel where
  operation : TopologyOperation
  topologyName : Option String
  configPath : Option String
  applied : Bool
  datapathNamespace : Option String
  datapathRunning : Bool
  message : NonEmptyStr

/-! ### `model_dump(mode="json")` -/

def dumpController (m : ControllerHealthModel) : Json :=
  record [("service", strJson "pktlab-ctrld"), ("version", strJson m.version), ("state", strJson (stateValue m.state)),
    ("message", strJson m.message)]

def datapathMembers (m : DatapathHealthModel) : List (String × Json) :=
  [("managed", boolJson m.managed), ("reachable", boolJson m.reachable), ("socket_path", strJson m.socketPath),
    ("pid", optJson (fun pid => natJson pid.1) m.pid), ("exit_code", optJson intJson m.exitCode),
    ("last_error", optJson strJson m.lastError), ("service", optJson (fun _ => strJson "pktlab-dpdkd") m.version),
    ("version", optJson (fun v => strJson v.version) m.version),
    ("dpdk_version", optJson (fun v => strJson v.dpdkVersion) m.version),
    ("state", optJson (fun h => strJson h.state.value) m.health),
    ("message", optJson (fun h => strJson h.message) m.health),
    ("applied_rule_version", optJson (fun h => natJson h.appliedRuleVersion) m.health),
    ("ports_ready", boolJson ((m.health.map HealthPayload.portsReady).getD false)),
    ("paused", boolJson ((m.health.map HealthPayload.paused).getD false))]

def dumpDatapath (m : DatapathHealthModel) : Json := record (datapathMembers m)

def dumpPort (m : PortInfoModel) : Json :=
  record [("name", strJson m.name), ("port_id", natJson m.portId), ("role", strJson (roleValue m.role)),
    ("state", strJson (portStateValue m.state))]

def dumpStats (m : DatapathStatsModel) : Json :=
  record [("rx_packets", natJson m.rxPackets), ("tx_packets", natJson m.txPackets),
    ("drop_packets", natJson m.dropPackets), ("drop_parse_errors", natJson m.dropParseErrors),
    ("drop_no_match", natJson m.dropNoMatch), ("rx_bursts", natJson m.rxBursts), ("tx_bursts", natJson m.txBursts),
    ("unsent_packets", natJson m.unsentPackets), ("rule_hits", record (m.ruleHits.map fun h => (h.1, intJson h.2)))]

def dumpHealth (m : HealthResponseModel) : Json :=
  record [("controller", dumpController m.controller), ("datapath", dumpDatapath m.datapath)]

def dumpStatus (m : DatapathStatusResponseModel) : Json :=
  record [("controller", dumpController m.controller), ("datapath", dumpDatapath m.datapath),
    ("ports", .arr (m.ports.map dumpPort))]

def dumpStatsResponse (m : DatapathStatsResponseModel) : Json :=
  record [("datapath", dumpDatapath m.datapath), ("stats", dumpStats m.stats)]

def dumpStatsReset (m : DatapathStatsResetResponseModel) : Json :=
  record [("datapath", dumpDatapath m.datapath), ("stats", dumpStats m.stats), ("message", strJson m.message)]

def dumpControl (m : DatapathControlResponseModel) : Json :=
  record [("datapath", dumpDatapath m.datapath), ("message", strJson m.message)]

def dumpTopology (m : TopologyOperationResponseModel) : Json :=
  record [("operation", strJson m.operation.value), ("topology_name", optJson strJson m.topologyName),
    ("config_path", optJson strJson m.configPath), ("applied", boolJson m.applied),
    ("datapath_namespace", optJson strJson m.datapathNamespace), ("datapath_running", boolJson m.datapathRunning),
    ("message", strJson m.message)]

/-! ### From the controller -/

/-- `__version__`. -/
def controllerVersion : NonEmptyStr := ⟨"0.1.0", by decide⟩

/-- The controller's part of `HealthResponseModel.from_snapshot`, unless the
message is empty. -/
def controllerHealth (r : Runtime) : Option ControllerHealthModel :=
  if h : r.controllerMessage ≠ "" then some ⟨controllerVersion, r.controllerState, ⟨r.controllerMessage, h⟩⟩ else none

/-- `_datapath_health_model_from_status`. -/
def fromStatus (status : ProcessStatus) : DatapathHealthModel where
  managed := status.managed
  reachable := status.reachable
  socketPath := status.socketPath
  pid := status.pid
  exitCode := status.exitCode
  lastError := status.lastError
  version := status.version
  health := status.health

/-- `HealthResponseModel.from_snapshot`. -/
def HealthResponseModel.fromSnapshot (snapshot : Methods.ControllerHealthSnapshot) : Option HealthResponseModel :=
  (controllerHealth snapshot.runtime).map fun controller => ⟨controller, fromStatus snapshot.datapathStatus⟩

/-- `DatapathStatusResponseModel.from_snapshot`. -/
def DatapathStatusResponseModel.fromSnapshot (snapshot : DatapathRuntimeStatusSnapshot) :
    Option DatapathStatusResponseModel :=
  (HealthResponseModel.fromSnapshot snapshot.controllerSnapshot).map fun health =>
    ⟨health.controller, health.datapath, snapshot.ports⟩

/-- `DatapathStatsResponseModel.from_snapshot`. -/
def DatapathStatsResponseModel.fromSnapshot (snapshot : DatapathRuntimeStatsSnapshot) : DatapathStatsResponseModel :=
  ⟨fromStatus snapshot.datapathStatus, snapshot.stats⟩

/-- `DatapathStatsResetResponseModel.from_result`. -/
def DatapathStatsResetResponseModel.fromResult (result : DatapathStatsResetResult) : DatapathStatsResetResponseModel :=
  ⟨fromStatus result.datapathStatus, result.stats, result.message⟩

/-- `DatapathControlResponseModel.from_result`. -/
def DatapathControlResponseModel.fromResult (result : DatapathControlResult) : DatapathControlResponseModel :=
  ⟨fromStatus result.datapathStatus, result.message⟩

/-- `Literal["apply", "destroy"]`, by value. -/
def topologyOperations : List (String × TopologyOperation) := [("apply", .apply), ("destroy", .destroy)]

/-- `TopologyOperationResponseModel.from_result`. -/
def TopologyOperationResponseModel.fromResult (result : Manager.OperationResult) :
    Option TopologyOperationResponseModel := do
  let operation ← topologyOperations.lookup result.operation
  if h : result.message ≠ "" then
    some ⟨operation, result.topologyName, result.configPath, result.applied, result.datapathNamespace,
      result.datapathRunning, ⟨result.message, h⟩⟩
  else none

/-! ### Routes -/

/-- A response over HTTP. -/
inductive HttpResponse
  | json (status : ℕ) (body : Json)
  | text (status : ℕ) (body : String)

/-- What is made of an exception that no route handles. -/
def internalServerError : HttpResponse := .text 500 "Internal Server Error"

/-- `PktlabError.to_dict`. -/
def toDict (e : PktlabError) : Json :=
  record ([("code", strJson e.code.value), ("message", strJson e.message)] ++
    if e.context.isEmpty then [] else [("context", record e.context)])

/-- An `HTTPException` with this detail. -/
def httpException (status : ℕ) (e : PktlabError) : HttpResponse := .json status (record [("detail", toDict e)])

/-- `_to_http_exception` of the datapath routes. -/
def toHttpException (e : PktlabError) : HttpResponse :=
  if e.code = .stateConflict then httpException 409 e
  else if e.code ∈ [Methods.ErrorCode.datapathTransportError, .processError, .timeout] then httpException 503 e
  else httpException 500 e

/-- `_to_http_exception` of the topology routes. -/
def toTopologyHttpException (e : PktlabError) : HttpResponse :=
  if e.code ∈ [Methods.ErrorCode.topologyValidationError, .configParseError] then httpException 422 e
  else if e.code = .stateConflict then httpException 409 e
  else httpException 500 e

/-- A route that returns a model or fails to build it. -/
def respond (body : Option Json) : HttpResponse := (body.map (.json 200)).getD internalServerError

section Routes

variable (context : SupervisorError → List (String × Json))

/-- `except PktlabError as exc: raise _to_http_exception(exc)`. -/
def exceptPktlab (e : MethodError) : HttpResponse :=
  ((e.pktlab? context).map toHttpException).getD internalServerError

/-- A route that handles a `PktlabError` of its method. -/
def route {α : Type} (method : Method α) (body : α → Option Json) : Method HttpResponse :=
  Script.tryCatch (do return respond (body (← method))) fun e => pure (exceptPktlab context e)

/-- `GET /health`, which handles nothing. -/
def getHealth : Method HttpResponse :=
  Script.tryCatch (do return respond ((HealthResponseModel.fromSnapshot (← Methods.healthSnapshot)).map dumpHealth))
    fun _ => pure internalServerError

/-- `GET /datapath/status`. -/
def getDatapathStatus : Method HttpResponse :=
  route context datapathStatusSnapshot fun snapshot => (DatapathStatusResponseModel.fromSnapshot snapshot).map dumpStatus

/-- `GET /datapath/stats`. -/
def getDatapathStats : Method HttpResponse :=
  route context datapathStatsSnapshot fun snapshot => some (dumpStatsResponse (.fromSnapshot snapshot))

/-- `POST /datapath/stats/reset`. -/
def postStatsReset : Method HttpResponse :=
  route context resetDatapathStats fun result => some (dumpStatsReset (.fromResult result))

/-- `POST /datapath/pause` and `POST /datapath/resume`. -/
def postControl (method : Method DatapathControlResult) : Method HttpResponse :=
  route context method fun result => some (dumpControl (.fromResult result))

/-- The routes that reach the datapath, by method and path. -/
def routeFor (method path : String) : Option (Method HttpResponse) :=
  match method, path with
  | "GET", "/health" => some getHealth
  | "GET", "/datapath/status" => some (getDatapathStatus context)
  | "GET", "/datapath/stats" => some (getDatapathStats context)
  | "POST", "/datapath/stats/reset" => some (postStatsReset context)
  | "POST", "/datapath/pause" => some (postControl context pauseForwarding)
  | "POST", "/datapath/resume" => some (postControl context resumeForwarding)
  | _, _ => none

end Routes

/-- `POST /topology/apply` and `POST /topology/destroy`, by how the method
ends: `none` is an exception that is no `PktlabError`. -/
def topologyResponse : Except (Option PktlabError) Manager.OperationResult → HttpResponse
  | .ok result => respond ((TopologyOperationResponseModel.fromResult result).map dumpTopology)
  | .error (some e) => toTopologyHttpException e
  | .error none => internalServerError

/-- How a route ends, by how its method does. -/
theorem route_run {σ T α : Type} {step : σ → T → (q : Question) → Option (σ × q.Reply)}
    {context : SupervisorError → List (String × Json)} {method : Method α} {body : α → Option Json}
    {l l' : LiveController} {d d' : σ} {ts : List T} {r : Except MethodError HttpResponse}
    (hrun : Script.perform step (route context method body) l d ts = some ((r, l'), d')) :
    (∃ a, Script.perform step method l d ts = some ((.ok a, l'), d') ∧ r = .ok (respond (body a))) ∨
      ∃ e, Script.perform step method l d ts = some ((.error e, l'), d') ∧ r = .ok (exceptPktlab context e) := by
  rcases Script.perform_tryCatch_eq_some hrun with ⟨a, ha, rfl⟩ | ⟨ts1, ts2, e, l1, d1, rfl, he, hrest⟩
  · rcases Script.perform_bind_eq_some ha with ⟨ts1, ts2, x, l1, d1, rfl, hx, hrest⟩ | ⟨e, -, he⟩
    · obtain ⟨rfl, heq, rfl⟩ := Dialogue.run_done.mp hrest
      cases heq
      rw [List.append_nil]
      exact Or.inl ⟨x, hx, rfl⟩
    · cases he
  · rcases Script.perform_bind_eq_some he with ⟨us1, us2, x, l2, d2, -, -, hx⟩ | ⟨e', he', heq⟩
    · obtain ⟨-, heq, -⟩ := Dialogue.run_done.mp hx
      cases heq
    · cases heq
      obtain ⟨rfl, heq, rfl⟩ := Dialogue.run_done.mp hrest
      cases heq
      rw [List.append_nil]
      exact Or.inr ⟨e, he', rfl⟩

end Rest
end Ctrld
end Pktlab
