/-
# The topology manager

`NetnsRunner` (`pktlab_ctrld/util/netns.py`), the steps of `apply` and
`destroy` (`topology/{namespaces,links,taps,routes}.py`) and `TopologyManager`
(`topology/manager.py`). A step is an `Op`: it changes the lab and returns, or
raises after part of its work is done. The lab has a script of `faults`: the
next calls of `ip` that fail whatever the state of the host, each with its
exit status. Once the script is used up, `exec` alone decides.

`start_datapath` and `stop_datapath` are the callbacks of the controller: they
create and remove the two TAP interfaces of the datapath in its namespace.

Key definitions: `Lab`, `Op`, `runIp`, `Manager`, `Manager.build`,
`Manager.destroyLocked`, `Manager.apply`, `Manager.destroy`.
-/
import Pktlab.Ctrld.Host
import Pktlab.Ctrld.Launch
import Pktlab.Lib.Effect

namespace Pktlab
namespace Ctrld

open Python

/-- An exception of the topology manager: a `PktlabError` with its code,
message and the errors in its context, or any other one. -/
inductive TopologyError
  | pktlab (code : ErrorCode) (message : String) (errors : List TopologyError)
  | other (detail : String)

/-- The exit status of a call of `ip` that fails. -/
abbrev Fault := { status : ℕ // status ≠ 0 }

/-- The TAP interfaces of a running datapath. -/
structure Taps where
  ns : String
  ingress : String
  egress : String
  deriving DecidableEq

/-- `_AppliedTopology`. -/
structure AppliedTopology where
  configPath : String
  validated : ValidatedTopologyConfig

/-- The host and what the controller keeps of it. -/
structure Lab where
  host : Host
  datapath : Option Taps
  current : Option AppliedTopology
  /-- the calls of `ip` to come that fail, in order; `none` is one that does not -/
  faults : List (Option Fault)
  /-- what `stop_datapath` raises -/
  stopRaises : Option TopologyError

abbrev Op := Eff TopologyError Lab

/-- `ProcessExecutionError("subprocess command failed")`. -/
def processError : TopologyError := .pktlab .processError "subprocess command failed" []

/-- Answer a call of `ip`: exit statuses that are not allowed raise. -/
def answer (status : ℕ) (allowed : List ℕ) (lab : Lab) : Except TopologyError ℕ × Lab :=
  if status ∈ allowed then (.ok status, lab) else (.error processError, lab)

/-! ### `NetnsRunner` -/

section Netns

variable (k : Kernel)

/-- `run_ip` for a command of `exec`. -/
def runIp (c : IpCommand) (allowed : List ℕ) : Op ℕ := fun lab =>
  match lab.faults with
  | some fault :: faults => answer fault.1 allowed { lab with faults := faults }
  | faults =>
    match exec k lab.host c with
    | .ok host => answer 0 allowed { lab with host := host, faults := faults.tail }
    | .error status => answer status allowed { lab with faults := faults.tail }

/-- The words that the line of a namespace adds to `list_namespaces`. -/
def nameTokens (name : String) : List String :=
  (splitLines name.toList).filterMap fun line => (firstWord line).map String.ofList

/-- What `list_namespaces` makes of the output of `ip netns list`. -/
def Host.listed (h : Host) : Finset String := h.namespaces.biUnion fun name => (nameTokens name).toFinset

/-- `list_namespaces`. -/
def listNamespaces : Op (Finset String) := fun lab =>
  match lab.faults with
  | some _ :: faults => (.error processError, { lab with faults := faults })
  | faults => (.ok lab.host.listed, { lab with faults := faults.tail })

/-- `run_ip` where only exit status 0 is allowed and the result is not used. -/
def callIp (c : IpCommand) : Op Unit := do
  let _ ← runIp k c [0]
  pure ()

/-- `namespace_exists`. -/
def namespaceExists (ns : String) : Op Bool := do
  let names ← listNamespaces
  pure (decide (ns ∈ names))

/-- `ensure_namespace`. -/
def ensureNamespace (ns : String) : Op Unit := do
  let found ← namespaceExists ns
  if found then pure () else callIp k (.netnsAdd ns)

/-- `delete_namespace`. -/
def deleteNamespace (ns : String) : Op Unit := do
  let found ← namespaceExists ns
  if found then callIp k (.netnsDel ns) else pure ()

/-- `link_exists`. -/
def linkExists (ns interface : String) : Op Bool := do
  let status ← runIp k (.linkShow ns interface) [0, 1]
  pure (decide (status = 0))

/-- `link_exists(…) and link_exists(…)`. -/
def bothLinksExist (nsA interfaceA nsB interfaceB : String) : Op Bool := do
  let foundA ← linkExists k nsA interfaceA
  if foundA then linkExists k nsB interfaceB else pure false

/-- `ensure_veth_pair`. -/
def ensureVethPair (nsA interfaceA nsB interfaceB : String) : Op Unit := do
  let found ← bothLinksExist k nsA interfaceA nsB interfaceB
  if found then pure () else callIp k (.vethAdd nsA interfaceA nsB interfaceB)

/-- `delete_link`. -/
def deleteLink (ns interface : String) : Op Unit := do
  let found ← linkExists k ns interface
  if found then callIp k (.linkDel ns interface) else pure ()

/-- `ensure_bridge`. -/
def ensureBridge (ns bridge : String) : Op Unit := do
  let found ← linkExists k ns bridge
  if found then pure () else callIp k (.bridgeAdd ns bridge)

/-- `replace_address`. -/
def replaceAddress (ns interface cidr : String) : Op Unit := callIp k (.addressReplace ns interface cidr)

/-- `replace_route`. -/
def replaceRoute (ns dst via : String) : Op Unit := callIp k (.routeReplace ns dst via)

/-- `attach_to_bridge`. -/
def attachToBridge (ns interface bridge : String) : Op Unit := callIp k (.setMaster ns interface bridge)

/-- `set_link_up`. -/
def setLinkUp (ns interface : String) : Op Unit := callIp k (.setUp ns interface)

end Netns

/-! ### The steps of `apply` and `destroy` -/

def INGRESS_BRIDGE_NAME : String := "br-in"
def EGRESS_BRIDGE_NAME : String := "br-out"

/-- `_split_ref`. -/
def splitRef (value : String) : String × String :=
  match splitFirst ':' value.toList with
  | some (ns, interface) => (String.ofList ns, String.ofList interface)
  | none => (value, "")

section Steps

variable (k : Kernel) (v : ValidatedTopologyConfig)

/-- `ensure_namespaces`. -/
def ensureNamespaces : Op Unit := Eff.each (fun ns => ensureNamespace k ns.name.1) v.topology.namespaces

/-- `destroy_namespaces`. -/
def destroyNamespaces : Op Unit :=
  Eff.each (fun ns => deleteNamespace k ns.name.1) v.topology.namespaces.reverse

/-- `if ip is not None: replace_address(…)`. -/
def addressIfGiven (ns interface : String) : Option String → Op Unit
  | some ip => replaceAddress k ns interface ip
  | none => pure ()

/-- The body of the loop of `ensure_links`. -/
def ensureLink (link : LinkModel) : Op Unit := do
  ensureVethPair k (splitRef link.a.1).1 (splitRef link.a.1).2 (splitRef link.b.1).1 (splitRef link.b.1).2
  addressIfGiven k (splitRef link.a.1).1 (splitRef link.a.1).2 link.ipA
  addressIfGiven k (splitRef link.b.1).1 (splitRef link.b.1).2 link.ipB

/-- `ensure_links`. -/
def ensureLinks : Op Unit := Eff.each (ensureLink k) v.topology.links

/-- `ensure_bridges`. -/
def ensureBridges : Op Unit := do
  ensureBridge k v.requestedDpdkConfig.netns.1 INGRESS_BRIDGE_NAME
  ensureBridge k v.requestedDpdkConfig.netns.1 EGRESS_BRIDGE_NAME

/-- The body of the loop of `bring_link_endpoints_up`. -/
def bringLinkUp (link : LinkModel) : Op Unit := do
  setLinkUp k (splitRef link.a.1).1 (splitRef link.a.1).2
  setLinkUp k (splitRef link.b.1).1 (splitRef link.b.1).2

/-- `bring_link_endpoints_up`. -/
def bringLinkEndpointsUp : Op Unit := Eff.each (bringLinkUp k) v.topology.links

/-- The loop over the links of `destroy_links_and_bridges`. -/
def destroyLink (link : LinkModel) : Op Unit :=
  deleteLink k (splitRef link.a.1).1 (splitRef link.a.1).2

/-- `destroy_links_and_bridges`. -/
def destroyLinksAndBridges : Op Unit := do
  deleteLink k v.requestedDpdkConfig.netns.1 EGRESS_BRIDGE_NAME
  deleteLink k v.requestedDpdkConfig.netns.1 INGRESS_BRIDGE_NAME
  Eff.each (destroyLink k) v.topology.links.reverse

/-- `ensure_routes`. -/
def ensureRoutes : Op Unit :=
  Eff.each (fun route => replaceRoute k route.netns.1 route.dst.1 route.via.1) v.topology.routes

/-- `wait_until`, when `polls` rounds fit before the deadline. -/
def waitUntil (predicate : Op Bool) (description : String) : ℕ → Op Unit
  | 0 => Eff.throw (.pktlab .timeout s!"timed out waiting for {description}" [])
  | polls + 1 => do
    let done ← predicate
    if done then pure () else waitUntil predicate description polls

/-- An exception of Python's own in an `Op`. -/
def liftExc {α : Type} : Except Exc α → Op α
  | .ok a => pure a
  | .error _ => Eff.throw (.other "ValueError")

/-- `reconcile_taps`. -/
def reconcileTaps (polls : ℕ) : Op Unit := do
  let ns := v.requestedDpdkConfig.netns.1
  let ingress ← liftExc (portNameForRole v .ingress)
  let egress ← liftExc (portNameForRole v .egress)
  waitUntil (linkExists k ns ingress) s!"{ingress} in namespace {ns}" polls
  waitUntil (linkExists k ns egress) s!"{egress} in namespace {ns}" polls
  attachToBridge k ns INGRESS_BRIDGE_KERNEL_INTERFACE INGRESS_BRIDGE_NAME
  attachToBridge k ns ingress INGRESS_BRIDGE_NAME
  attachToBridge k ns egress EGRESS_BRIDGE_NAME
  attachToBridge k ns EGRESS_BRIDGE_KERNEL_INTERFACE EGRESS_BRIDGE_NAME
  Eff.each (setLinkUp k ns)
    [INGRESS_BRIDGE_KERNEL_INTERFACE, ingress, egress, EGRESS_BRIDGE_KERNEL_INTERFACE, INGRESS_BRIDGE_NAME,
      EGRESS_BRIDGE_NAME]

end Steps

/-! ### The datapath -/

/-- Remove a TAP interface if it is there. -/
def Host.deleteTap (h : Host) (key : LinkKey) : Host :=
  if (h.links key).map Link.kind = some .tap then h.deleteLink key else h

/-- The lab after its datapath has ended. -/
def Lab.withoutDatapath (lab : Lab) : Lab :=
  match lab.datapath with
  | none => lab
  | some taps =>
    { lab with
      host := (lab.host.deleteTap (some taps.ns, taps.ingress)).deleteTap (some taps.ns, taps.egress)
      datapath := none }

/-- The callback `stop_datapath`. -/
def stopDatapath : Op Unit := fun lab =>
  match lab.stopRaises with
  | some e => (.error e, lab)
  | none => (.ok (), lab.withoutDatapath)

/-- The TAP interfaces of a datapath that becomes ready. -/
def createTaps (taps : Taps) : Op Unit := Eff.modify fun lab =>
  { lab with
    host := (lab.host.setLink (some taps.ns, taps.ingress) (Link.fresh .tap)).setLink
      (some taps.ns, taps.egress) (Link.fresh .tap)
    datapath := some taps }

/-- What the manager is given: the kernel under `ip`, how a path is loaded, the
interpreter that validates, whether a daemon gets ready on a host, and how
often a TAP interface is looked for. -/
structure Manager where
  kernel : Kernel
  interpreter : Interpreter
  load : String → Except TopologyError TopologyConfigModel
  starts : Host → ValidatedTopologyConfig → Bool
  polls : ℕ

namespace Manager

variable (m : Manager)

/-- The callback `start_datapath`: a running datapath is stopped first. The
daemon needs its namespace, and the two interface names have to be free. -/
def startDatapath (v : ValidatedTopologyConfig) : Op Bool := do
  stopDatapath
  let ns := v.requestedDpdkConfig.netns.1
  let ingress ← liftExc (portNameForRole v .ingress)
  let egress ← liftExc (portNameForRole v .egress)
  let lab ← Eff.get
  if m.starts lab.host v ∧ ns ∈ lab.host.namespaces ∧ lab.host.links (some ns, ingress) = none ∧
      lab.host.links (some ns, egress) = none then do
    createTaps ⟨ns, ingress, egress⟩
    pure true
  else Eff.throw (.pktlab .processError "datapath process exited before readiness was confirmed" [])

/-! ### `TopologyManager` -/

/-- `TopologyOperationResult`. -/
structure OperationResult where
  operation : String
  topologyName : Option String
  configPath : Option String
  applied : Bool
  datapathNamespace : Option String
  datapathRunning : Bool
  message : String
  requestedDpdkConfig : Option DpdkProcessConfigModel
  effectiveDpdkConfig : Option EffectiveDpdkRuntimeModel

/-- `_result`. -/
def result (operation : String) (v : ValidatedTopologyConfig) (configPath : String) (applied running : Bool)
    (message : String) : OperationResult where
  operation := operation
  topologyName := some v.topology.lab.name.1
  configPath := some configPath
  applied := applied
  datapathNamespace := some v.requestedDpdkConfig.netns.1
  datapathRunning := running
  message := message
  requestedDpdkConfig := some v.requestedDpdkConfig
  effectiveDpdkConfig := some v.effectiveDpdkConfig

/-- `try: op except PktlabError as exc: errors.append(exc)`. -/
def collect (op : Op Unit) (errors : List TopologyError) : Op (List TopologyError) :=
  Eff.tryCatch (do op; pure errors) fun e =>
    match e with
    | .pktlab .. => pure (errors ++ [e])
    | .other _ => Eff.throw e

/-- `_destroy_locked`. -/
def destroyLocked (v : ValidatedTopologyConfig) : Op Unit := do
  let errors ← collect stopDatapath []
  let errors ← collect (destroyLinksAndBridges m.kernel v) errors
  let errors ← collect (destroyNamespaces m.kernel v) errors
  if errors = [] then pure ()
  else Eff.throw (.pktlab .topologyDestroyError "failed to destroy topology cleanly" errors)

/-- The body of the `try` of `apply`. -/
def build (v : ValidatedTopologyConfig) : Op Bool := do
  ensureNamespaces m.kernel v
  ensureLinks m.kernel v
  ensureBridges m.kernel v
  let running ← m.startDatapath v
  reconcileTaps m.kernel v m.polls
  bringLinkEndpointsUp m.kernel v
  ensureRoutes m.kernel v
  pure running

/-- `_cleanup_failed_apply`. -/
def cleanupFailedApply (v : ValidatedTopologyConfig) : Op (List TopologyError) :=
  collect (m.destroyLocked v) []

/-- The `except` of `apply`: the error of the cleanup joins the context of the
one raised, and what is no `PktlabError` is wrapped. -/
def failApply (v : ValidatedTopologyConfig) (e : TopologyError) : Op Bool := do
  let cleanup ← m.cleanupFailedApply v
  match e with
  | .pktlab code message errors => Eff.throw (.pktlab code message (errors ++ cleanup))
  | .other detail =>
    Eff.throw (.pktlab .topologyApplyError "failed to apply topology" (.other detail :: cleanup))

/-- `load_topology` and `validate_topology`. -/
def loadValidated (configPath : String) : Except TopologyError ValidatedTopologyConfig :=
  match m.load configPath with
  | .error e => .error e
  | .ok config =>
    match validateTopologyConfig m.interpreter config with
    | .ok v => .ok v
    | .error (.validationError message code _) => .error (.pktlab code message [])
    | .error (.escaped _) => .error (.other "validation")

def setCurrent (current : Option AppliedTopology) : Op Unit :=
  Eff.modify fun lab => { lab with current := current }

/-- Tear down the topology that is applied, if there is one. -/
def clearCurrent : Op Unit := do
  let lab ← Eff.get
  match lab.current with
  | none => pure ()
  | some current => do
    m.destroyLocked current.validated
    setCurrent none

/-- `apply`. -/
def apply (configPath : String) : Op OperationResult :=
  match m.loadValidated configPath with
  | .error e => Eff.throw e
  | .ok v => do
    m.clearCurrent
    let running ← Eff.tryCatch (m.build v) (m.failApply v)
    setCurrent (some ⟨configPath, v⟩)
    pure (result "apply" v configPath true running "topology applied")

/-- `destroy`. -/
def destroy : Op OperationResult := do
  let lab ← Eff.get
  match lab.current with
  | none =>
    pure
      { operation := "destroy"
        topologyName := none
        configPath := none
        applied := false
        datapathNamespace := none
        datapathRunning := false
        message := "no topology is currently applied"
        requestedDpdkConfig := none
        effectiveDpdkConfig := none }
  | some current => do
    m.clearCurrent
    pure (result "destroy" current.validated current.configPath false false "topology destroyed")

end Manager

end Ctrld
end Pktlab
