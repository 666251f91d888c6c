/-
# The datapath configuration of the daemon

`pktlab_eal_prepare` (`dpdkd/src/eal.c`), `pktlab_ports_prepare`
(`dpdkd/src/ports.c`) and `pktlab_datapath_init` (`dpdkd/src/datapath.c`):
what the daemon checks of its configuration before it starts. A `const char *`
is the C string it points to (`CStr`); `main` sets every one of them, so there
is no `NULL`. `snprintf` into a buffer of `cap` bytes fits when the text has
fewer than `cap` bytes.

Key definitions: `CStr`, `DatapathConfig`, `ealPrepare`, `portsPrepare`,
`datapathInit`.
-/
import Pktlab.Dpdkd.JsonProto
import Pktlab.Dpdkd.Stats

namespace Pktlab
namespace Dpdkd

open Utf8

/-- A C string: its bytes without the terminator, so without a NUL. -/
structure CStr where
  bytes : List UInt8
  noNul : (0 : UInt8) ∉ bytes
  deriving DecidableEq

/-- `enum pktlab_port_role`. -/
inductive PortRole
  | ingress
  | egress
  deriving DecidableEq, Repr

/-- `enum pktlab_port_state`. -/
inductive PortState
  | down
  | up
  deriving DecidableEq, Repr

/-- `struct pktlab_port_info`. -/
structure PortInfo where
  name : CStr
  portId : UInt16
  role : PortRole
  state : PortState
  deriving DecidableEq

/-- `struct pktlab_datapath_config`. -/
structure DatapathConfig where
  lcores : CStr
  hugepagesMb : UInt32
  burstSize : UInt32
  rxQueueSize : UInt32
  txQueueSize : UInt32
  mempoolSize : UInt32
  ingressPortName : CStr
  egressPortName : CStr
  deriving DecidableEq

/-- The defaults of `datapath.h`, with which `main` starts. -/
def defaultConfig : DatapathConfig where
  lcores := ⟨utf8 "1", by decide⟩
  hugepagesMb := 256
  burstSize := 32
  rxQueueSize := 256
  txQueueSize := 256
  mempoolSize := 4096
  ingressPortName := ⟨utf8 "dtap0", by decide⟩
  egressPortName := ⟨utf8 "dtap1", by decide⟩

/-- `struct pktlab_eal_config`. -/
structure EalConfig where
  lcores : CStr
  hugepagesMb : UInt32
  ingressVdevName : List UInt8
  ingressVdevArg : List UInt8
  egressVdevName : List UInt8
  egressVdevArg : List UInt8
  deriving DecidableEq

/-- `struct pktlab_ports_config` after `pktlab_ports_prepare`; `infos` is the
array of two. -/
structure PortsConfig where
  burstSize : UInt16
  rxQueueSize : UInt16
  txQueueSize : UInt16
  mempoolSize : UInt32
  ingress : PortInfo
  egress : PortInfo
  deriving DecidableEq

/-- An error with `PKTLAB_DPDKD_ERR_INVALID_REQUEST`. -/
def invalidRequest {α : Type} (message : String) : Except DpdkdError α :=
  .error ⟨.invalidRequest, message⟩

/-- `PKTLAB_DPDKD_EAL_LCORES_LEN`, `PKTLAB_DPDKD_EAL_VDEV_ARG_LEN`,
`PKTLAB_DPDKD_NAME_LEN`. -/
def ealLcoresLen : ℕ := 64
def ealVdevArgLen : ℕ := 128
def nameLen : ℕ := 32

/-- `--vdev=%s,iface=%s`. -/
def vdevArg (vdev : String) (port : CStr) : List UInt8 :=
  utf8 "--vdev=" ++ utf8 vdev ++ utf8 ",iface=" ++ port.bytes

/-- `pktlab_eal_prepare`. The two device names always fit their buffers. -/
def ealPrepare (config : DatapathConfig) : Except DpdkdError EalConfig :=
  if config.lcores.bytes = [] then invalidRequest "lcores must be a non-empty string"
  else if config.lcores.bytes.length ≥ ealLcoresLen then
    invalidRequest "lcores exceeds the supported length"
  else if config.hugepagesMb = 0 ∨ config.hugepagesMb % 2 ≠ 0 then
    invalidRequest "hugepages_mb must be a positive multiple of 2 MB"
  else if (vdevArg "net_tap0" config.ingressPortName).length ≥ ealVdevArgLen then
    invalidRequest "ingress TAP vdev configuration exceeds the supported length"
  else if (vdevArg "net_tap1" config.egressPortName).length ≥ ealVdevArgLen then
    invalidRequest "egress TAP vdev configuration exceeds the supported length"
  else
    .ok
      { lcores := config.lcores
        hugepagesMb := config.hugepagesMb
        ingressVdevName := utf8 "net_tap0"
        ingressVdevArg := vdevArg "net_tap0" config.ingressPortName
        egressVdevName := utf8 "net_tap1"
        egressVdevArg := vdevArg "net_tap1" config.egressPortName }

/-- `pktlab_ports_prepare`. -/
def portsPrepare (config : DatapathConfig) : Except DpdkdError PortsConfig :=
  if config.burstSize = 0 ∨ config.burstSize > 256 then
    invalidRequest "burst_size must be between 1 and 256"
  else if config.rxQueueSize = 0 ∨ config.rxQueueSize > 65535 then
    invalidRequest "rx_queue_size must be between 1 and 65535"
  else if config.txQueueSize = 0 ∨ config.txQueueSize > 65535 then
    invalidRequest "tx_queue_size must be between 1 and 65535"
  else if config.mempoolSize = 0 then
    invalidRequest "mempool_size must be greater than zero"
  else if config.ingressPortName.bytes = [] ∨ config.egressPortName.bytes = [] then
    invalidRequest "ingress and egress port names must be non-empty"
  else if config.ingressPortName = config.egressPortName then
    invalidRequest "ingress and egress port names must be different"
  else if config.ingressPortName.bytes.length ≥ nameLen then
    invalidRequest "ingress port name exceeds the supported length"
  else if config.egressPortName.bytes.length ≥ nameLen then
    invalidRequest "egress port name exceeds the supported length"
  else
    .ok
      { burstSize := config.burstSize.toUInt16
        rxQueueSize := config.rxQueueSize.toUInt16
        txQueueSize := config.txQueueSize.toUInt16
        mempoolSize := config.mempoolSize
        ingress := ⟨config.ingressPortName, 0, .ingress, .down⟩
        egress := ⟨config.egressPortName, 1, .egress, .down⟩ }

/-- The part of `struct pktlab_datapath` that `pktlab_datapath_init` fills. -/
structure DatapathInit where
  eal : EalConfig
  ports : PortsConfig
  stats : StatsTracker
  deriving DecidableEq

/-- `pktlab_datapath_init`, when the mutex of the counters can be
initialised. -/
def datapathInit (config : DatapathConfig) : Except DpdkdError DatapathInit :=
  match ealPrepare config with
  | .error e => .error e
  | .ok eal =>
    match portsPrepare config with
    | .error e => .error e
    | .ok ports => .ok ⟨eal, ports, statsInit⟩

/-! ### What is accepted -/

/-- A check that fails with an error, in front of the rest. -/
theorem ite_invalid_eq_ok {α : Type} {c : Prop} [Decidable c] {message : String}
    {rest : Except DpdkdError α} {a : α} :
    (if c then invalidRequest message else rest) = .ok a ↔ ¬ c ∧ rest = .ok a := by
  by_cases h : c
  · simp [h, invalidRequest]
  · simp [h]

/-- What `pktlab_ports_prepare` accepts. -/
theorem portsPrepare_eq_ok {config : DatapathConfig} {ports : PortsConfig} :
    portsPrepare config = .ok ports ↔
      (config.burstSize ≠ 0 ∧ config.burstSize ≤ 256) ∧
      (config.rxQueueSize ≠ 0 ∧ config.rxQueueSize ≤ 65535) ∧
      (config.txQueueSize ≠ 0 ∧ config.txQueueSize ≤ 65535) ∧ config.mempoolSize ≠ 0 ∧
      (config.ingressPortName.bytes ≠ [] ∧ config.ingressPortName.bytes.length < nameLen) ∧
      (config.egressPortName.bytes ≠ [] ∧ config.egressPortName.bytes.length < nameLen) ∧
      config.ingressPortName ≠ config.egressPortName ∧
      ports =
        { burstSize := config.burstSize.toUInt16
          rxQueueSize := config.rxQueueSize.toUInt16
          txQueueSize := config.txQueueSize.toUInt16
          mempoolSize := config.mempoolSize
          ingress := ⟨config.ingressPortName, 0, .ingress, .down⟩
          egress := ⟨config.egressPortName, 1, .egress, .down⟩ } := by
  unfold portsPrepare
  simp only [ite_invalid_eq_ok, Except.ok.injEq, not_or, UInt32.not_lt, ge_iff_le, not_le, gt_iff_lt,
    ne_eq]
  constructor
  · rintro ⟨h1, h2, h3, h4, ⟨h5, h6⟩, h7, h8, h9, rfl⟩
    exact ⟨h1, h2, h3, h4, ⟨h5, h8⟩, ⟨h6, h9⟩, h7, rfl⟩
  · rintro ⟨h1, h2, h3, h4, ⟨h5, h8⟩, ⟨h6, h9⟩, h7, rfl⟩
    exact ⟨h1, h2, h3, h4, ⟨h5, h6⟩, h7, h8, h9, rfl⟩

/-- What `pktlab_eal_prepare` accepts. -/
theorem ealPrepare_eq_ok {config : DatapathConfig} {eal : EalConfig} :
    ealPrepare config = .ok eal ↔
      config.lcores.bytes ≠ [] ∧ config.lcores.bytes.length < ealLcoresLen ∧
      (config.hugepagesMb ≠ 0 ∧ config.hugepagesMb % 2 = 0) ∧
      (vdevArg "net_tap0" config.ingressPortName).length < ealVdevArgLen ∧
      (vdevArg "net_tap1" config.egressPortName).length < ealVdevArgLen ∧
      eal =
        { lcores := config.lcores
          hugepagesMb := config.hugepagesMb
          ingressVdevName := utf8 "net_tap0"
          ingressVdevArg := vdevArg "net_tap0" config.ingressPortName
          egressVdevName := utf8 "net_tap1"
          egressVdevArg := vdevArg "net_tap1" config.egressPortName } := by
  unfold ealPrepare
  simp only [ite_invalid_eq_ok, Except.ok.injEq, not_or, ge_iff_le, not_le, ne_eq, not_not]
  refine and_congr_right fun _ => and_congr_right fun _ => and_congr_right fun _ =>
    and_congr_right fun _ => and_congr_right fun _ => eq_comm

theorem datapathInit_eq_ok {config : DatapathConfig} {init : DatapathInit} :
    datapathInit config = .ok init ↔ ealPrepare config = .ok init.eal ∧ portsPrepare config = .ok init.ports ∧
      init.stats = statsInit := by
  unfold datapathInit
  cases ealPrepare config with
  | error e => simp
  | ok eal =>
    cases portsPrepare config with
    | error e => simp
    | ok ports =>
      simp only [Except.ok.injEq]
      refine ⟨fun h => by rw [← h]; exact ⟨rfl, rfl, rfl⟩, fun ⟨h1, h2, h3⟩ => ?_⟩
      rw [h1, h2, ← h3]

end Dpdkd
end Pktlab
