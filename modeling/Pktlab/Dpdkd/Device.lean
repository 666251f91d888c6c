/-
# The devices under the datapath

`pktlab_eal_build_argv`, `pktlab_eal_start` and `pktlab_eal_cleanup`
(`dpdkd/src/eal.c`), `pktlab_ports_start` and `pktlab_ports_cleanup`
(`dpdkd/src/ports.c`), in the build with DPDK. DPDK itself is `Dpdk`: the EAL,
the mbuf pool and the two TAP devices, each in some phase. A call first checks
what DPDK asks of its caller and ends in `DeviceFault.misuse` where that does not
hold: a second `rte_eal_init`, a queue of a port that is not configured, a port
that is closed while it is started or closed twice, a pool that is freed twice
or under a started port. What DPDK answers is `Answers`.

`Sound` says that the fields of the daemon's structs know what DPDK has for it;
every function here keeps it, and none of them misuses a call. A start that
fails half-way leaves a `Sound` machine too, and from any such machine the
cleanup gives everything back (`release_spec`).

Key definitions: `Dpdk`, `Machine`, `ealBuildArgv`, `ealStart`, `portsStart`,
`portsCleanup`, `ealCleanup`, `Sound`, `Opening`.
Key theorems: `ealBuildArgv_eq`, `ealStart_spec`, `portsStart_spec`,
`release_spec`.
-/
import Pktlab.Lib.Effect
import Pktlab.Dpdkd.Daemon
import Mathlib.Logic.Function.Basic

namespace Pktlab
namespace Dpdkd

open Utf8 Decimal Effect

/-! ### DPDK -/

/-- The EAL, before `rte_eal_init`, initialised with arguments, and after a
cleanup or a failed initialisation. -/
inductive EalPhase
  | fresh
  | up (argv : List (List UInt8))
  | down
  deriving DecidableEq

/-- A TAP device from its probing to its end. -/
inductive PortPhase
  | probed
  | configured
  | receives
  | ready
  | started
  | closed
  deriving DecidableEq, Repr

/-- The calls on a port in a start. -/
inductive PortCall
  | adjust
  | configure
  | rxQueueSetup
  | txQueueSetup
  | start
  deriving DecidableEq, Repr

/-- The phase in which a call is made, and the one it leads to. -/
def PortCall.before : PortCall → PortPhase
  | .adjust => .probed
  | .configure => .probed
  | .rxQueueSetup => .configured
  | .txQueueSetup => .receives
  | .start => .ready

def PortCall.after : PortCall → PortPhase
  | .adjust => .probed
  | .configure => .configured
  | .rxQueueSetup => .receives
  | .txQueueSetup => .ready
  | .start => .started

/-- What DPDK has for the process: `net_tap0` and `net_tap1` have different
identifiers. -/
structure Dpdk where
  eal : EalPhase
  pool : Bool
  portId : PortRole → UInt16
  portId_ne : portId .ingress ≠ portId .egress
  phase : PortRole → PortPhase

/-- `rte_eal_init` succeeded and `rte_eal_cleanup` was not called. -/
def Dpdk.isUp (dpdk : Dpdk) : Bool :=
  match dpdk.eal with
  | .up _ => true
  | _ => false

/-- The device with an identifier. -/
def Dpdk.device? (dpdk : Dpdk) (id : UInt16) : Option PortRole :=
  if id = dpdk.portId .ingress then some .ingress else if id = dpdk.portId .egress then some .egress else none

theorem Dpdk.device?_portId (dpdk : Dpdk) (role : PortRole) : dpdk.device? (dpdk.portId role) = some role := by
  cases role with
  | ingress => exact if_pos rfl
  | egress => rw [Dpdk.device?, if_neg dpdk.portId_ne.symm, if_pos rfl]

/-- The calls that ask something of their caller. -/
inductive Call
  | ealInit
  | ealCleanup
  | poolCreate
  | poolFree
  | portByName
  | port (c : PortCall)
  | devStop
  | devClose
  | rxBurst
  | txBurst
  | threadRegister
  | threadUnregister
  | threadJoin
  | syncInit
  | syncDestroy
  | mutex
  deriving DecidableEq, Repr

/-- A call that was not allowed where it was made, or an error that a function
returns. -/
inductive DeviceFault
  | misuse (call : Call)
  | failed (error : DpdkdError)
  deriving DecidableEq

/-- What DPDK and the system answer during a start. -/
structure Answers where
  pid : ℕ
  ealInit : Bool
  poolCreate : Bool
  portByName : PortRole → Bool
  port : PortRole → PortCall → Bool

/-! ### The structs -/

/-- `struct pktlab_eal_config`, `struct pktlab_ports_config` and the fields of
`struct pktlab_datapath` that requests read, beside DPDK. `mempool` is whether
the pointer is set. -/
structure Machine where
  dpdk : Dpdk
  eal : EalConfig
  ealInitialized : Bool
  attached : PortRole → Bool
  mempool : Bool
  ready : Bool
  datapath : Datapath

/-- `ports->infos[index]`. -/
def PortsConfig.info (ports : PortsConfig) : PortRole → PortInfo
  | .ingress => ports.ingress
  | .egress => ports.egress

/-- `ports->infos[index].port_id = port_id`. -/
def PortsConfig.setPortId (ports : PortsConfig) (id : UInt16) : PortRole → PortsConfig
  | .ingress => { ports with ingress := { ports.ingress with portId := id } }
  | .egress => { ports with egress := { ports.egress with portId := id } }

/-- `pktlab_ports_set_state`. -/
def portsSetState (ports : PortsConfig) (state : PortState) : PortsConfig :=
  { ports with
    ingress := { ports.ingress with state := state }
    egress := { ports.egress with state := state } }

/-- `ports` in the datapath. -/
def Datapath.setPorts (datapath : Datapath) (ports : PortsConfig) : Datapath := { datapath with ports := ports }

theorem info_setPortId (ports : PortsConfig) (id : UInt16) (role : PortRole) :
    ((ports.setPortId id role).info role).portId = id := by
  cases role <;> rfl

theorem info_setPortId_ne (ports : PortsConfig) (id : UInt16) {role role' : PortRole} (h : role' ≠ role) :
    (ports.setPortId id role).info role' = ports.info role' := by
  cases role <;> cases role' <;> first | rfl | exact absurd rfl h

/-! ### The programs -/

/-- What a call asks of its caller. -/
def check (call : Call) (p : Machine → Prop) [DecidablePred p] : Eff DeviceFault Machine Unit := fun m =>
  if p m then (.ok (), m) else (.error (.misuse call), m)

/-- A function of the daemon sets its error and returns `-1`. -/
def fails (code : ErrorCode) (message : String) : Eff DeviceFault Machine Unit := Eff.throw (.failed ⟨code, message⟩)

/-- `PKTLAB_DPDKD_EAL_SOCKET_MEM_LEN`, `PKTLAB_DPDKD_EAL_FILE_PREFIX_LEN`,
`PKTLAB_DPDKD_MEMPOOL_NAME_LEN`. -/
def socketMemLen : ℕ := 32
def filePrefixLen : ℕ := 64
def mempoolNameLen : ℕ := 64

/-- `pktlab_eal_build_argv`. -/
def ealBuildArgv (eal : EalConfig) (pid : ℕ) : Except DpdkdError (List (List UInt8)) :=
  let socketMemArg := utf8 "--socket-mem=" ++ decimal eal.hugepagesMb.toNat
  let filePrefixArg := utf8 "--file-prefix=pktlab-" ++ decimal pid
  if socketMemArg.length ≥ socketMemLen then .error ⟨.internal, "failed to render DPDK socket memory argument"⟩
  else if filePrefixArg.length ≥ filePrefixLen then .error ⟨.internal, "failed to render DPDK file prefix argument"⟩
  else
    .ok [utf8 "pktlab-dpdkd", utf8 "-l", eal.lcores.bytes, utf8 "--no-pci", utf8 "--in-memory",
      utf8 "--iova-mode=va", utf8 "--no-telemetry", socketMemArg, filePrefixArg, eal.ingressVdevArg,
      eal.egressVdevArg]

/-- `rte_eal_init`. It may be called once. -/
def rteEalInit (argv : List (List UInt8)) (ok : Bool) : Eff DeviceFault Machine Unit := do
  check .ealInit fun m => m.dpdk.eal = .fresh
  Eff.modify fun m => { m with dpdk := { m.dpdk with eal := if ok then .up argv else .down } }
  if ok then pure () else fails .portInit "failed to initialize DPDK EAL"

/-- `pktlab_eal_start`. -/
def ealStart (answers : Answers) : Eff DeviceFault Machine Unit := do
  let m ← Eff.get
  if m.ealInitialized then pure ()
  else
    match ealBuildArgv m.eal answers.pid with
    | .error e => Eff.throw (.failed e)
    | .ok argv => do
      rteEalInit argv answers.ealInit
      Eff.modify fun m => { m with ealInitialized := true }

/-- `rte_pktmbuf_pool_create`. -/
def rtePoolCreate (ok : Bool) : Eff DeviceFault Machine Unit := do
  check .poolCreate fun m => m.dpdk.isUp = true ∧ m.dpdk.pool = false
  if ok then Eff.modify fun m => { m with dpdk := { m.dpdk with pool := true }, mempool := true }
  else fails .portInit "failed to create the datapath mbuf pool"

/-- `rte_eth_dev_get_port_by_name`, with the two stores that follow it. -/
def resolvePort (role : PortRole) (ok : Bool) : Eff DeviceFault Machine Unit := do
  check .portByName fun m => m.dpdk.isUp = true
  if ok then
    Eff.modify fun m =>
      { m with
        datapath := m.datapath.setPorts (m.datapath.ports.setPortId (m.dpdk.portId role) role)
        attached := Function.update m.attached role true }
  else fails .portInit "failed to resolve the TAP PMD port identifier"

/-- The phase of the device with the identifier that the daemon has for a
port. -/
def Machine.portPhase (m : Machine) (role : PortRole) : Option PortPhase :=
  (m.dpdk.device? (m.datapath.ports.info role).portId).map m.dpdk.phase

/-- What a call on a port asks: its identifier is known, the port is in the
phase for it, and a queue that receives has its pool. -/
def PortCall.Allowed (c : PortCall) (role : PortRole) (m : Machine) : Prop :=
  m.dpdk.isUp = true ∧ m.portPhase role = some c.before ∧ (c = .rxQueueSetup → m.dpdk.pool = true)

instance (c : PortCall) (role : PortRole) : DecidablePred (c.Allowed role) := fun m =>
  inferInstanceAs (Decidable
    (m.dpdk.isUp = true ∧ m.portPhase role = some c.before ∧ (c = .rxQueueSetup → m.dpdk.pool = true)))

/-- The device behind an identifier gets into a phase. -/
def Dpdk.setPhase (dpdk : Dpdk) (id : UInt16) (phase : PortPhase) : Dpdk :=
  match dpdk.device? id with
  | some role => { dpdk with phase := Function.update dpdk.phase role phase }
  | none => dpdk

theorem Dpdk.setPhase_portId (dpdk : Dpdk) (role : PortRole) (phase : PortPhase) :
    dpdk.setPhase (dpdk.portId role) phase = { dpdk with phase := Function.update dpdk.phase role phase } := by
  rw [Dpdk.setPhase, dpdk.device?_portId]

/-- The device with the identifier that the daemon has for a port gets into a
phase. -/
def Machine.setPhase (m : Machine) (role : PortRole) (phase : PortPhase) : Machine :=
  { m with dpdk := m.dpdk.setPhase (m.datapath.ports.info role).portId phase }

/-- `ports->attached[index]`. -/
def Machine.setAttached (m : Machine) (role : PortRole) (attached : Bool) : Machine :=
  { m with attached := Function.update m.attached role attached }

/-- One of the calls of `pktlab_ports_start` on a port. -/
def portCall (role : PortRole) (c : PortCall) (ok : Bool) (message : String) : Eff DeviceFault Machine Unit := do
  check (.port c) (c.Allowed role)
  if ok then Eff.modify fun m => m.setPhase role c.after else fails .portInit message

/-- The body of the loop of `pktlab_ports_start`. -/
def portStart (answers : Answers) (role : PortRole) : Eff DeviceFault Machine Unit := do
  resolvePort role (answers.portByName role)
  portCall role .adjust (answers.port role .adjust) "failed to adjust TAP PMD queue descriptor counts"
  portCall role .configure (answers.port role .configure) "failed to configure the TAP PMD port"
  portCall role .rxQueueSetup (answers.port role .rxQueueSetup) "failed to configure the TAP PMD receive queue"
  portCall role .txQueueSetup (answers.port role .txQueueSetup) "failed to configure the TAP PMD transmit queue"
  portCall role .start (answers.port role .start) "failed to start the TAP PMD port"

/-- `pktlab_ports_start`. -/
def portsStart (answers : Answers) : Eff DeviceFault Machine Unit := do
  let m ← Eff.get
  if m.ready then pure ()
  else if (utf8 "pktlab-mbuf-" ++ decimal answers.pid).length ≥ mempoolNameLen then
    fails .internal "failed to render the datapath mempool name"
  else do
    rtePoolCreate answers.poolCreate
    Eff.each (portStart answers) [.ingress, .egress]
    Eff.modify fun m =>
      { m with ready := true, datapath := m.datapath.setPorts (portsSetState m.datapath.ports .up) }

/-- `rte_eth_dev_stop`. A port that is not started stays as it is, and so does
one that does not stop. -/
def rteDevStop (role : PortRole) (ok : Bool) : Eff DeviceFault Machine Unit := do
  check .devStop fun m => m.dpdk.isUp = true ∧ m.portPhase role ≠ none ∧ m.portPhase role ≠ some .closed
  Eff.modify fun m =>
    if ok = true ∧ m.portPhase role = some .started then
      m.setPhase role .ready
    else m

/-- `rte_eth_dev_close`, for a port that is not started. -/
def rteDevClose (role : PortRole) : Eff DeviceFault Machine Unit := do
  check .devClose fun m => m.dpdk.isUp = true ∧ m.portPhase role ≠ none ∧ m.portPhase role ≠ some .started ∧
    m.portPhase role ≠ some .closed
  Eff.modify fun m => m.setPhase role .closed

/-- The port has no queue. -/
def PortPhase.idle : PortPhase → Bool
  | .probed => true
  | .configured => true
  | .closed => true
  | _ => false

def Dpdk.idle (dpdk : Dpdk) : Bool := (dpdk.phase .ingress).idle && (dpdk.phase .egress).idle

/-- `rte_mempool_free`, for a pool that no queue receives into, and the store
of `NULL`. -/
def rteMempoolFree : Eff DeviceFault Machine Unit := do
  check .poolFree fun m => m.dpdk.pool = true ∧ m.dpdk.idle = true
  Eff.modify fun m => { m with dpdk := { m.dpdk with pool := false }, mempool := false }

/-- `rte_eal_cleanup`. -/
def rteEalCleanup : Eff DeviceFault Machine Unit := do
  check .ealCleanup fun m => m.dpdk.isUp = true ∧ m.dpdk.pool = false ∧ m.dpdk.idle = true
  Eff.modify fun m => { m with dpdk := { m.dpdk with eal := .down } }

/-- The body of the loop of `pktlab_ports_cleanup`; `stops` is what
`rte_eth_dev_stop` answers. -/
def portCleanup (stops : PortRole → Bool) (role : PortRole) : Eff DeviceFault Machine Unit := do
  let m ← Eff.get
  if m.attached role then do
    rteDevStop role (stops role)
    rteDevClose role
    Eff.modify fun m => m.setAttached role false
  else pure ()

/-- The end of `pktlab_ports_cleanup`. -/
def poolCleanup : Eff DeviceFault Machine Unit := do
  let m ← Eff.get
  if m.mempool then rteMempoolFree else pure ()

/-- `pktlab_ports_cleanup`. -/
def portsCleanup (stops : PortRole → Bool) : Eff DeviceFault Machine Unit := do
  Eff.each (portCleanup stops) [.ingress, .egress]
  poolCleanup
  Eff.modify fun m =>
    { m with ready := false, datapath := m.datapath.setPorts (portsSetState m.datapath.ports .down) }

/-- `pktlab_eal_cleanup`. -/
def ealCleanup : Eff DeviceFault Machine Unit := do
  let m ← Eff.get
  if m.ealInitialized then do
    rteEalCleanup
    Eff.modify fun m => { m with ealInitialized := false }
  else pure ()

/-- What `pktlab_datapath_start` does when the ports or the worker do not start,
and `pktlab_datapath_cleanup` once the worker is gone. -/
def release (stops : PortRole → Bool) : Eff DeviceFault Machine Unit := do
  portsCleanup stops
  ealCleanup

/-- The start of the EAL and of the ports in `pktlab_datapath_start`. -/
def devicesStart (answers : Answers) (stops : PortRole → Bool) : Eff DeviceFault Machine Unit := do
  ealStart answers
  Eff.tryCatch (portsStart answers) fun fault => do
    release stops
    Eff.throw fault

/-! ### The arguments of the EAL -/

/-- The arguments always fit their buffers. -/
theorem ealBuildArgv_eq (eal : EalConfig) {pid : ℕ} (hpid : pid < 2 ^ 31) :
    ealBuildArgv eal pid =
      .ok [utf8 "pktlab-dpdkd", utf8 "-l", eal.lcores.bytes, utf8 "--no-pci", utf8 "--in-memory",
        utf8 "--iova-mode=va", utf8 "--no-telemetry", utf8 "--socket-mem=" ++ decimal eal.hugepagesMb.toNat,
        utf8 "--file-prefix=pktlab-" ++ decimal pid, eal.ingressVdevArg, eal.egressVdevArg] := by
  have hmem : (decimal eal.hugepagesMb.toNat).length ≤ 10 :=
    length_decimal_le (by decide) (lt_trans eal.hugepagesMb.toNat_lt (by decide))
  have hprefix : (decimal pid).length ≤ 10 := length_decimal_le (by decide) (lt_trans hpid (by decide))
  have hmemText : (utf8 "--socket-mem=").length = 13 := by decide
  have hprefixText : (utf8 "--file-prefix=pktlab-").length = 21 := by decide
  unfold ealBuildArgv
  rw [if_neg, if_neg]
  · rw [List.length_append, hprefixText, filePrefixLen]
    omega
  · rw [List.length_append, hmemText, socketMemLen]
    omega

/-! ### What the calls keep -/

section Specs

variable {P : Machine → Prop} {E : DeviceFault → Machine → Prop}

theorem triple_check {call : Call} {p : Machine → Prop} [DecidablePred p] (h : ∀ m, P m → p m) :
    Triple P (check call p) (fun _ => P) E := by
  intro m hm
  rw [check, if_pos (h m hm)]
  exact hm

/-- A call that fails as `ok` says. -/
theorem triple_answer {ok : Bool} {f : Machine → Machine} {code : ErrorCode} {message : String}
    {Q : Unit → Machine → Prop} (hok : ∀ m, P m → Q () (f m)) (hfail : ∀ m, P m → E (.failed ⟨code, message⟩) m) :
    Triple P (if ok then Eff.modify f else fails code message) Q E := by
  cases ok with
  | true => exact triple_modify hok
  | false => exact triple_throw _ hfail

end Specs

/-- The fields of the structs know what DPDK has for the daemon. -/
structure Sound (m : Machine) : Prop where
  eal : m.ealInitialized = m.dpdk.isUp
  pool : m.mempool = m.dpdk.pool
  mempool_up : m.mempool = true → m.ealInitialized = true
  attached_up : ∀ r, m.attached r = true → m.ealInitialized = true
  id : ∀ r, m.attached r = true → (m.datapath.ports.info r).portId = m.dpdk.portId r
  unclosed : ∀ r, m.attached r = true → m.dpdk.phase r ≠ .closed
  idle : ∀ r, m.attached r = false → (m.dpdk.phase r).idle = true
  ready : m.ready = true → m.mempool = true ∧ ∀ r, m.attached r = true ∧ m.dpdk.phase r = .started

/-- A function returned an error, and the machine is as it should be. -/
def FailedSound (fault : DeviceFault) (m : Machine) : Prop := (∃ e, fault = .failed e) ∧ Sound m ∧ m.ready = false

/-- The port that the daemon knows under its identifier. -/
theorem portPhase_eq {m : Machine} {role : PortRole}
    (hid : (m.datapath.ports.info role).portId = m.dpdk.portId role) : m.portPhase role = some (m.dpdk.phase role) := by
  rw [Machine.portPhase, hid, Dpdk.device?_portId, Option.map_some]

/-- A phase that the daemon sets reaches the device that it means. -/
theorem setPhase_eq {m : Machine} {role : PortRole} (hid : (m.datapath.ports.info role).portId = m.dpdk.portId role)
    (phase : PortPhase) :
    m.setPhase role phase = { m with dpdk := { m.dpdk with phase := Function.update m.dpdk.phase role phase } } := by
  rw [Machine.setPhase, hid, Dpdk.setPhase_portId]

/-! ### The start of the EAL -/

/-- Nothing is started yet. -/
structure Untouched (d : Datapath) (ids : PortRole → UInt16) (m : Machine) : Prop where
  datapath : m.datapath = d
  portId : m.dpdk.portId = ids
  mempool : m.mempool = false
  pool : m.dpdk.pool = false
  ready : m.ready = false
  attached : ∀ r, m.attached r = false
  phase : ∀ r, m.dpdk.phase r = .probed

variable {d : Datapath} {ids : PortRole → UInt16}

theorem Untouched.sound {m : Machine} (h : Untouched d ids m) (heal : m.ealInitialized = m.dpdk.isUp) : Sound m where
  eal := heal
  pool := h.mempool.trans h.pool.symm
  mempool_up := fun hm => by simp [h.mempool] at hm
  attached_up := fun r hr => by simp [h.attached] at hr
  id := fun r hr => by simp [h.attached] at hr
  unclosed := fun r hr => by simp [h.attached] at hr
  idle := fun r _ => by rw [h.phase]; rfl
  ready := fun hr => by simp [h.ready] at hr

theorem Untouched.setDatapath {m : Machine} (h : Untouched d ids m) (d' : Datapath) :
    Untouched d' ids { m with datapath := d' } :=
  ⟨rfl, h.portId, h.mempool, h.pool, h.ready, h.attached, h.phase⟩

/-- The EAL is up, or the function fails and it is not. -/
theorem ealStart_spec (answers : Answers) :
    Triple (fun m => Untouched d ids m ∧ m.ealInitialized = false ∧ m.dpdk.eal = .fresh) (ealStart answers)
      (fun _ m => Untouched d ids m ∧ m.ealInitialized = true ∧ m.dpdk.isUp = true) FailedSound := by
  refine triple_get_bind fun m0 hm0 => ?_
  rw [if_neg (by simp [hm0.2.1])]
  cases ealBuildArgv m0.eal answers.pid with
  | error e =>
    refine triple_throw _ fun m hm => ⟨⟨e, rfl⟩, hm.1.sound (hm.2.1.trans ?_), hm.1.ready⟩
    rw [Dpdk.isUp, hm.2.2]
  | ok argv =>
    refine triple_bind (R := fun _ m => Untouched d ids m ∧ m.dpdk.isUp = true) ?_ fun _ =>
      triple_modify fun m hm => ⟨⟨hm.1.datapath, hm.1.portId, hm.1.mempool, hm.1.pool, hm.1.ready, hm.1.attached,
        hm.1.phase⟩, rfl, hm.2⟩
    refine triple_bind (triple_check fun m hm => hm.2.2) fun _ => ?_
    refine triple_bind (R := fun _ m => Untouched d ids m ∧ m.ealInitialized = false ∧
      m.dpdk.isUp = answers.ealInit) ?_ fun _ => ?_
    · refine triple_modify fun m hm => ⟨⟨hm.1.datapath, hm.1.portId, hm.1.mempool, hm.1.pool, hm.1.ready,
        hm.1.attached, hm.1.phase⟩, hm.2.1, ?_⟩
      cases answers.ealInit <;> rfl
    · intro m hm
      cases hok : answers.ealInit with
      | true => exact ⟨hm.1, hm.2.2.trans hok⟩
      | false => exact ⟨⟨_, rfl⟩, hm.1.sound (hm.2.1.trans (hm.2.2.trans hok).symm), hm.1.ready⟩

/-! ### The start of the ports -/

/-- The pool is there, and each port is untouched or attached and in a
phase. -/
structure Opening (d : Datapath) (ids : PortRole → UInt16) (phases : PortRole → Option PortPhase) (m : Machine) :
    Prop where
  datapath : m.datapath = d
  portId : m.dpdk.portId = ids
  eal : m.ealInitialized = true
  up : m.dpdk.isUp = true
  mempool : m.mempool = true
  pool : m.dpdk.pool = true
  ready : m.ready = false
  attached : ∀ r, m.attached r = (phases r).isSome
  phase : ∀ r, m.dpdk.phase r = (phases r).getD .probed
  id : ∀ r, (phases r).isSome = true → (d.ports.info r).portId = ids r
  unclosed : ∀ r, phases r ≠ some .closed

variable {phases : PortRole → Option PortPhase}

theorem Opening.sound {m : Machine} (h : Opening d ids phases m) : Sound m where
  eal := h.eal.trans h.up.symm
  pool := h.mempool.trans h.pool.symm
  mempool_up := fun _ => h.eal
  attached_up := fun _ _ => h.eal
  id := fun r hr => by rw [h.datapath, h.portId, h.id r (h.attached r ▸ hr)]
  unclosed := fun r hr hc => by
    obtain ⟨phase, hp⟩ := Option.isSome_iff_exists.mp (h.attached r ▸ hr)
    rw [h.phase, hp, Option.getD_some] at hc
    exact h.unclosed r (hp.trans (congrArg some hc))
  idle := fun r hr => by
    rw [h.attached, Option.isSome_eq_false_iff, Option.isNone_iff_eq_none] at hr
    rw [h.phase, hr]
    rfl
  ready := fun hr => by simp [h.ready] at hr

/-- A port that is attached, under the identifier that the daemon has for it. -/
theorem Opening.portPhase {m : Machine} (h : Opening d ids phases m) {role : PortRole} {phase : PortPhase}
    (hp : phases role = some phase) : m.portPhase role = some phase := by
  have hid : (m.datapath.ports.info role).portId = m.dpdk.portId role := by
    rw [h.datapath, h.portId, h.id role (by rw [hp]; rfl)]
  rw [portPhase_eq hid, h.phase, hp, Option.getD_some]

/-- A call that succeeds takes its port to the next phase. -/
theorem portCall_spec {role : PortRole} {c : PortCall} (hp : phases role = some c.before) (ok : Bool)
    (message : String) :
    Triple (Opening d ids phases) (portCall role c ok message)
      (fun _ => Opening d ids (Function.update phases role (some c.after))) FailedSound := by
  refine triple_bind (triple_check fun m h => ⟨h.up, h.portPhase hp, fun _ => h.pool⟩) fun _ => ?_
  refine triple_answer (fun m h => ?_) fun m h => ⟨⟨_, rfl⟩, h.sound, h.ready⟩
  have hid : (m.datapath.ports.info role).portId = m.dpdk.portId role := by
    rw [h.datapath, h.portId, h.id role (by rw [hp]; rfl)]
  rw [setPhase_eq hid]
  refine ⟨h.datapath, h.portId, h.eal, h.up, h.mempool, h.pool, h.ready, fun r => ?_, fun r => ?_, fun r hr => ?_,
    fun r => ?_⟩
  · by_cases hr : r = role
    · subst hr
      rw [Function.update_self, h.attached, hp]
      rfl
    · rw [Function.update_of_ne hr, h.attached]
  · by_cases hr : r = role
    · subst hr
      simp only [Function.update_self, Option.getD_some]
    · simp only [Function.update_of_ne hr, h.phase]
  · by_cases hr' : r = role
    · subst hr'
      exact h.id r (by rw [hp]; rfl)
    · rw [Function.update_of_ne hr'] at hr
      exact h.id r hr
  · by_cases hr : r = role
    · subst hr
      rw [Function.update_self]
      cases c <;> simp [PortCall.after]
    · rw [Function.update_of_ne hr]
      exact h.unclosed r

/-- A port gets its identifier and is attached. -/
theorem resolvePort_spec {role : PortRole} (hp : phases role = none) (ok : Bool) :
    Triple (Opening d ids phases) (resolvePort role ok)
      (fun _ => Opening (d.setPorts (d.ports.setPortId (ids role) role)) ids
        (Function.update phases role (some .probed))) FailedSound := by
  refine triple_bind (triple_check fun m h => h.up) fun _ => ?_
  refine triple_answer (fun m h => ?_) fun m h => ⟨⟨_, rfl⟩, h.sound, h.ready⟩
  refine ⟨?_, h.portId, h.eal, h.up, h.mempool, h.pool, h.ready, fun r => ?_, fun r => ?_, fun r hr => ?_,
    fun r => ?_⟩
  · simp only [h.datapath, h.portId]
  · by_cases hr : r = role
    · subst hr
      simp only [Function.update_self, Option.isSome_some]
    · simp only [Function.update_of_ne hr, h.attached]
  · by_cases hr : r = role
    · subst hr
      rw [h.phase, hp, Function.update_self]
      rfl
    · rw [Function.update_of_ne hr, h.phase]
  · by_cases hr' : r = role
    · subst hr'
      exact info_setPortId d.ports (ids r) r
    · rw [Function.update_of_ne hr'] at hr
      refine Eq.trans ?_ (h.id r hr)
      exact congrArg PortInfo.portId (info_setPortId_ne d.ports (ids role) hr')
  · by_cases hr : r = role
    · subst hr
      rw [Function.update_self]
      simp
    · rw [Function.update_of_ne hr]
      exact h.unclosed r

/-- A round of the loop starts its port. -/
theorem portStart_spec (answers : Answers) {role : PortRole} (hp : phases role = none) :
    Triple (Opening d ids phases) (portStart answers role)
      (fun _ => Opening (d.setPorts (d.ports.setPortId (ids role) role)) ids
        (Function.update phases role (some .started))) FailedSound := by
  have hcall : ∀ (ph : PortPhase) (c : PortCall) (ok : Bool) (message : String), ph = c.before →
      Triple (Opening (d.setPorts (d.ports.setPortId (ids role) role)) ids (Function.update phases role (some ph)))
        (portCall role c ok message)
        (fun _ => Opening (d.setPorts (d.ports.setPortId (ids role) role)) ids
          (Function.update phases role (some c.after))) FailedSound := by
    rintro ph c ok message rfl
    have hspec : Triple (Opening (d.setPorts (d.ports.setPortId (ids role) role)) ids
        (Function.update phases role (some c.before))) (portCall role c ok message)
        (fun _ => Opening (d.setPorts (d.ports.setPortId (ids role) role)) ids
          (Function.update (Function.update phases role (some c.before)) role (some c.after))) FailedSound :=
      portCall_spec (Function.update_self ..) ok message
    rwa [Function.update_idem] at hspec
  refine triple_bind (resolvePort_spec hp _) fun _ => ?_
  refine triple_bind (hcall .probed .adjust _ _ rfl) fun _ => ?_
  refine triple_bind (hcall .probed .configure _ _ rfl) fun _ => ?_
  refine triple_bind (hcall .configured .rxQueueSetup _ _ rfl) fun _ => ?_
  refine triple_bind (hcall .receives .txQueueSetup _ _ rfl) fun _ => ?_
  exact hcall .ready .start _ _ rfl

/-- The ports of a datapath that is up. -/
def portsUp (ids : PortRole → UInt16) (ports : PortsConfig) : PortsConfig :=
  portsSetState ((ports.setPortId (ids .ingress) .ingress).setPortId (ids .egress) .egress) .up

/-- Both ports are started, or the function fails half-way. -/
theorem portsStart_spec (answers : Answers) :
    Triple (fun m => Untouched d ids m ∧ m.ealInitialized = true ∧ m.dpdk.isUp = true) (portsStart answers)
      (fun _ m => Sound m ∧ m.ready = true ∧ m.dpdk.portId = ids ∧ m.datapath = d.setPorts (portsUp ids d.ports))
      FailedSound := by
  refine triple_get_bind fun m0 hm0 => ?_
  rw [if_neg (by simp [hm0.1.ready])]
  split
  · exact triple_throw _ fun m hm => ⟨⟨_, rfl⟩, hm.1.sound (hm.2.1.trans hm.2.2.symm), hm.1.ready⟩
  · refine triple_bind (R := fun _ => Opening d ids fun _ => none) ?_ fun _ => ?_
    · refine triple_bind (triple_check fun m hm => ⟨hm.2.2, hm.1.pool⟩) fun _ => ?_
      refine triple_answer (fun m hm => ?_) fun m hm => ⟨⟨_, rfl⟩, hm.1.sound (hm.2.1.trans hm.2.2.symm), hm.1.ready⟩
      exact ⟨hm.1.datapath, hm.1.portId, hm.2.1, hm.2.2, rfl, rfl, hm.1.ready, hm.1.attached, hm.1.phase,
        fun r hr => by simp at hr, fun r => by simp⟩
    · refine triple_bind (R := fun _ => Opening
        (d.setPorts ((d.ports.setPortId (ids .ingress) .ingress).setPortId (ids .egress) .egress)) ids
        (Function.update (Function.update (fun _ => none) .ingress (some .started)) .egress (some .started))) ?_ ?_
      · exact triple_bind (portStart_spec answers rfl) fun _ =>
          triple_bind (portStart_spec answers rfl) fun _ => triple_pure () fun m hm => hm
      refine fun _ => triple_modify fun m hm => ?_
      have hstarted : ∀ r, m.attached r = true ∧ m.dpdk.phase r = .started := fun r => by
        rw [hm.attached, hm.phase]
        cases r <;> exact ⟨rfl, rfl⟩
      have hs := hm.sound
      refine ⟨⟨hs.eal, hs.pool, hs.mempool_up, hs.attached_up, fun r hr => ?_, hs.unclosed, hs.idle, fun _ =>
        ⟨hm.mempool, hstarted⟩⟩, rfl, hm.portId, ?_⟩
      · refine Eq.trans ?_ (hs.id r hr)
        cases r <;> rfl
      · simp only [hm.datapath]
        rfl

/-! ### Giving everything back -/

/-- All of it is given back. -/
structure Released (m : Machine) : Prop where
  sound : Sound m
  ealInitialized : m.ealInitialized = false
  attached : ∀ r, m.attached r = false
  mempool : m.mempool = false
  ready : m.ready = false

/-- DPDK has nothing any more. -/
theorem Released.dpdk {m : Machine} (h : Released m) :
    m.dpdk.isUp = false ∧ m.dpdk.pool = false ∧ m.dpdk.idle = true := by
  refine ⟨?_, ?_, ?_⟩
  · rw [← h.sound.eal, h.ealInitialized]
  · rw [← h.sound.pool, h.mempool]
  · rw [Dpdk.idle, h.sound.idle _ (h.attached _), h.sound.idle _ (h.attached _)]
    rfl

/-- A `Sound` machine during the loop: the ports of `done` are detached. -/
structure Closing (done : PortRole → Prop) (m : Machine) : Prop where
  sound : Sound { m with ready := false }
  detached : ∀ r, done r → m.attached r = false

variable {done : PortRole → Prop}

theorem Closing.id {m : Machine} (h : Closing done m) {role : PortRole} (hr : m.attached role = true) :
    (m.datapath.ports.info role).portId = m.dpdk.portId role :=
  h.sound.id role hr

theorem Closing.portPhase {m : Machine} (h : Closing done m) {role : PortRole} (hr : m.attached role = true) :
    m.portPhase role = some (m.dpdk.phase role) :=
  portPhase_eq (h.id hr)

/-- A port that stops is not started any more. -/
theorem rteDevStop_spec (role : PortRole) :
    Triple (fun m => Closing done m ∧ m.attached role = true) (rteDevStop role true)
      (fun _ m => (Closing done m ∧ m.attached role = true) ∧ m.dpdk.phase role ≠ .started) fun _ _ => False := by
  refine triple_bind (triple_check fun m ⟨h, hr⟩ => ?_) fun _ => triple_modify fun m ⟨h, hr⟩ => ?_
  · rw [h.portPhase hr]
    refine ⟨?_, by simp, fun hc => h.sound.unclosed role hr (Option.some.inj hc)⟩
    rw [← h.sound.eal, h.sound.attached_up role hr]
  · rw [h.portPhase hr]
    by_cases hp : m.dpdk.phase role = .started
    · rw [if_pos ⟨rfl, congrArg some hp⟩, setPhase_eq (h.id hr)]
      have hs := h.sound
      refine ⟨⟨⟨⟨hs.eal, hs.pool, hs.mempool_up, hs.attached_up, hs.id, fun r hr' => ?_, fun r hr' => ?_,
        fun hc => by simp at hc⟩, h.detached⟩, hr⟩, by simp⟩
      · by_cases he : r = role
        · subst he
          simp
        · simpa only [Function.update_of_ne he] using hs.unclosed r hr'
      · by_cases he : r = role
        · subst he
          simp [hr] at hr'
        · simpa only [Function.update_of_ne he] using hs.idle r hr'
    · rw [if_neg (fun hc => hp (Option.some.inj hc.2))]
      exact ⟨⟨h, hr⟩, hp⟩

/-- A port that is closed and detached. -/
theorem Closing.detach {m : Machine} (h : Closing done m) {role : PortRole} (hr : m.attached role = true) :
    Closing (fun r => done r ∨ r = role) ((m.setPhase role .closed).setAttached role false) := by
  rw [setPhase_eq (h.id hr)]
  have hs := h.sound
  have hattached : ∀ r, Function.update m.attached role false r = true → r ≠ role ∧ m.attached r = true := by
    intro r hr'
    by_cases he : r = role
    · subst he
      simp at hr'
    · rw [Function.update_of_ne he] at hr'
      exact ⟨he, hr'⟩
  refine ⟨⟨hs.eal, hs.pool, hs.mempool_up, fun r hr' => hs.attached_up r (hattached r hr').2,
    fun r hr' => hs.id r (hattached r hr').2, fun r hr' => ?_, fun r hr' => ?_, fun hc => by cases hc⟩, fun r hd => ?_⟩
  · obtain ⟨he, hold⟩ := hattached r hr'
    show Function.update m.dpdk.phase role .closed r ≠ .closed
    rw [Function.update_of_ne he]
    exact hs.unclosed r hold
  · show (Function.update m.dpdk.phase role .closed r).idle = true
    by_cases he : r = role
    · rw [he, Function.update_self]
      rfl
    · rw [Function.update_of_ne he]
      exact hs.idle r (Function.update_of_ne he false m.attached ▸ hr')
  · show Function.update m.attached role false r = false
    by_cases he : r = role
    · rw [he, Function.update_self]
    · rw [Function.update_of_ne he]
      exact h.detached r (hd.resolve_right he)

/-- A port that is not started is closed and detached. -/
theorem closePort_spec (role : PortRole) :
    Triple (fun m => (Closing done m ∧ m.attached role = true) ∧ m.dpdk.phase role ≠ .started)
      (do rteDevClose role; Eff.modify fun m => m.setAttached role false)
      (fun _ => Closing fun r => done r ∨ r = role) fun _ _ => False := by
  refine triple_bind (R := fun _ m => Closing (fun r => done r ∨ r = role) (m.setAttached role false)) ?_ fun _ =>
    triple_modify fun m hm => hm
  refine triple_bind (triple_check fun m ⟨⟨h, hr⟩, hp⟩ => ?_) fun _ => triple_modify fun m ⟨⟨h, hr⟩, _⟩ => h.detach hr
  rw [h.portPhase hr]
  refine ⟨?_, by simp, fun hc => hp (Option.some.inj hc), fun hc => h.sound.unclosed role hr (Option.some.inj hc)⟩
  rw [← h.sound.eal, h.sound.attached_up role hr]

/-- A round of the loop stops, closes and detaches its port. -/
theorem portCleanup_spec (role : PortRole) {stops : PortRole → Bool} (hstop : stops role = true) :
    Triple (Closing done) (portCleanup stops role) (fun _ => Closing fun r => done r ∨ r = role) fun _ _ => False := by
  refine triple_get_ite ?_ (triple_pure () fun m ⟨h, hr⟩ => ⟨h.sound, fun r hd => ?_⟩)
  · rw [hstop]
    exact triple_bind (rteDevStop_spec role) fun _ => closePort_spec role
  · rcases hd with hd | rfl
    · exact h.detached r hd
    · simpa using hr

/-- The pool is freed once both ports are detached. -/
theorem poolCleanup_spec :
    Triple (Closing fun _ => True) poolCleanup (fun _ m => Closing (fun _ => True) m ∧ m.mempool = false)
      fun _ _ => False := by
  refine triple_get_ite (triple_bind (triple_check fun m ⟨h, hp⟩ => ⟨h.sound.pool.symm.trans hp, ?_⟩) fun _ =>
    triple_modify fun m ⟨h, hp⟩ => ⟨⟨?_, h.detached⟩, rfl⟩) (triple_pure () fun m ⟨h, hp⟩ => ⟨h, by simpa using hp⟩)
  · rw [Dpdk.idle, h.sound.idle _ (h.detached _ trivial), h.sound.idle _ (h.detached _ trivial)]
    rfl
  · have hs := h.sound
    exact ⟨hs.eal, rfl, fun hc => by simp at hc, hs.attached_up, hs.id, hs.unclosed, hs.idle, fun hc => by simp at hc⟩

/-- From any `Sound` machine both ports are closed and the pool is freed. -/
theorem portsCleanup_spec {stops : PortRole → Bool} (hstops : ∀ r, stops r = true) :
    Triple Sound (portsCleanup stops)
      (fun _ m => Sound m ∧ (∀ r, m.attached r = false) ∧ m.mempool = false ∧ m.ready = false) fun _ _ => False := by
  refine triple_bind (R := fun _ => Closing fun _ => True) ?_ fun _ => triple_bind poolCleanup_spec fun _ =>
    triple_modify fun m ⟨h, hp⟩ => ?_
  · have hloop : Triple (Closing fun _ => False) (Eff.each (portCleanup stops) [.ingress, .egress])
        (fun _ => Closing fun r => (False ∨ r = .ingress) ∨ r = .egress) fun _ _ => False :=
      triple_bind (portCleanup_spec .ingress (hstops _)) fun _ =>
        triple_bind (portCleanup_spec .egress (hstops _)) fun _ => triple_pure () fun m hm => hm
    refine triple_mono hloop (fun m hm => ⟨?_, fun r hr => hr.elim⟩) (fun _ m hm => ⟨hm.sound, fun r _ =>
      hm.detached r ?_⟩) fun _ _ hf => hf
    · exact ⟨hm.eal, hm.pool, hm.mempool_up, hm.attached_up, hm.id, hm.unclosed, hm.idle, fun hc => by simp at hc⟩
    · cases r
      · exact Or.inl (Or.inr rfl)
      · exact Or.inr rfl
  · have hs := h.sound
    refine ⟨⟨hs.eal, hs.pool, hs.mempool_up, hs.attached_up, fun r hr => ?_, hs.unclosed, hs.idle,
      fun hc => by simp at hc⟩, fun r => h.detached r trivial, hp, rfl⟩
    exact absurd hr (by simp [h.detached r trivial])

/-- The EAL is the last to go. -/
theorem ealCleanup_spec :
    Triple (fun m => Sound m ∧ (∀ r, m.attached r = false) ∧ m.mempool = false ∧ m.ready = false) ealCleanup
      (fun _ => Released) fun _ _ => False := by
  refine triple_get_ite ?_ (triple_pure () fun m ⟨⟨h, hd, hp, hr⟩, hi⟩ => ⟨h, by simpa using hi, hd, hp, hr⟩)
  refine triple_bind (R := fun _ m => Released { m with ealInitialized := false })
    (triple_bind (triple_check fun m ⟨⟨h, hd, hp, _⟩, hi⟩ => ?_) fun _ =>
      triple_modify fun m ⟨⟨h, hd, hp, hr⟩, _⟩ => ⟨?_, rfl, hd, hp, hr⟩) fun _ => triple_modify fun m hm => hm
  · refine ⟨h.eal.symm.trans hi, h.pool.symm.trans hp, ?_⟩
    rw [Dpdk.idle, h.idle _ (hd _), h.idle _ (hd _)]
    rfl
  · refine ⟨rfl, h.pool, fun hc => ?_, fun r hc => ?_, fun r hc => ?_, fun r hc => ?_, h.idle, fun hc => ?_⟩
    · exact absurd hc (by simp [hp])
    · exact absurd hc (by simp [hd])
    · exact absurd hc (by simp [hd])
    · exact absurd hc (by simp [hd])
    · exact absurd hc (by simp [hr])

/-- **The cleanup gives everything back**, from wherever a start stopped. -/
theorem release_spec {stops : PortRole → Bool} (hstops : ∀ r, stops r = true) :
    Triple Sound (release stops) (fun _ => Released) fun _ _ => False :=
  triple_bind (portsCleanup_spec hstops) fun _ => ealCleanup_spec

/-- **The start of the devices** brings both ports up, or fails; when ports
stop, it gives back what it had. -/
theorem devicesStart_spec (answers : Answers) (stops : PortRole → Bool) :
    Triple (fun m => Untouched d ids m ∧ m.ealInitialized = false ∧ m.dpdk.eal = .fresh) (devicesStart answers stops)
      (fun _ m => Sound m ∧ m.ready = true ∧ m.dpdk.portId = ids ∧ m.datapath = d.setPorts (portsUp ids d.ports))
      fun fault m => (∀ r, stops r = true) → FailedSound fault m := by
  refine triple_bind (triple_mono (ealStart_spec answers) (fun _ h => h) (fun _ _ h => h) fun _ _ h _ => h) fun _ =>
    triple_tryCatch (portsStart_spec answers) fun fault => ?_
  by_cases hstops : ∀ r, stops r = true
  · refine triple_of_pre fun he => ?_
    refine triple_bind (R := fun _ => Released) ?_ fun _ => triple_throw _ fun m h _ => ⟨he, h.sound, h.ready⟩
    exact triple_mono (release_spec hstops) (fun _ h => h.1) (fun _ _ h => h) fun _ _ h => h.elim
  · refine triple_bind (R := fun _ _ => True) ?_ fun _ => triple_throw _ fun m _ hs => absurd hs hstops
    exact triple_mono triple_trivial (fun _ h => h) (fun _ _ h => h) fun _ _ _ hs => absurd hs hstops

end Dpdkd
end Pktlab
