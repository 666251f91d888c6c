/-
# The configuration models of the controller

The pydantic models of `pktlab_ctrld/types.py` that validation reads. Every
constraint that pydantic checks when it builds a value is part of the type, so
a value of a type is one that parsing can produce: `min_length=1` is
`NonEmptyStr`, a lower bound of an integer or a model validator is a field.
A constrained string is checked to be encodable, an unconstrained one is not:
the lcores can hold a surrogate. In an address or the port of an action, it
would be one more text that is no address or no name, and these are `String`s.
The words `namespace`, `type` and `match` of the source are Lean's own; the
fields are `netns`, `kind` and `pattern` here.

Key definitions: `TopologyConfigModel`, `DpdkProcessConfigModel`,
`RulesetModel`, `EffectiveDpdkRuntimeModel`, `EffectiveFields.violations`.
-/
import Mathlib.Data.Nat.Notation
import Mathlib.Data.List.Basic
import Pktlab.Lib.Python

namespace Pktlab
namespace Ctrld

open Python

/-- `str = Field(min_length=1)`. -/
abbrev NonEmptyStr := { s : String // s ≠ "" }

/-- `RuleProtocol`. -/
inductive RuleProtocol
  | tcp
  | udp
  | icmp
  | any
  deriving DecidableEq, Repr

/-- `RuleActionType`. -/
inductive RuleActionType
  | forward
  | drop
  | count
  | mirror
  deriving DecidableEq, Repr

/-- `PortRole`. -/
inductive PortRole
  | ingress
  | egress
  deriving DecidableEq, Repr

/-! ### Rules -/

structure RuleMatchModel where
  proto : Option RuleProtocol
  srcIp : Option String
  dstIp : Option String
  srcCidr : Option String
  dstCidr : Option String
  srcPort : Option (Fin 65536)
  dstPort : Option (Fin 65536)
  deriving DecidableEq

/-- What `RuleActionModel.validate_port_requirement` demands. -/
def portRequirement : RuleActionType → Option String → Prop
  | .forward, port | .mirror, port => ∃ name ∈ port, name ≠ ""
  | .drop, port | .count, port => port = none

structure RuleActionModel where
  kind : RuleActionType
  port : Option String
  validatePortRequirement : portRequirement kind port

structure RuleModel where
  id : ℕ
  priority : ℕ
  pattern : RuleMatchModel
  action : RuleActionModel

structure RulesetModel where
  version : ℕ
  defaultAction : RuleActionModel
  entries : List RuleModel

/-! ### The topology -/

structure CapturePointModel where
  name : NonEmptyStr
  netns : NonEmptyStr
  interface : NonEmptyStr

structure LabModel where
  name : NonEmptyStr

structure NamespaceModel where
  name : NonEmptyStr

structure LinkModel where
  name : NonEmptyStr
  a : NonEmptyStr
  b : NonEmptyStr
  ipA : Option String
  ipB : Option String

structure DpdkPortModel where
  name : NonEmptyStr
  netns : NonEmptyStr
  role : PortRole

structure RouteModel where
  netns : NonEmptyStr
  dst : NonEmptyStr
  via : NonEmptyStr

structure DpdkProcessConfigModel where
  netns : NonEmptyStr
  lcores : Option Str
  hugepagesMb : Option ℕ
  burstSize : Option ℕ
  rxQueueSize : Option ℕ
  txQueueSize : Option ℕ
  mempoolSize : Option ℕ
  two_le_hugepagesMb : ∀ n ∈ hugepagesMb, 2 ≤ n
  burstSize_pos : ∀ n ∈ burstSize, 0 < n
  rxQueueSize_pos : ∀ n ∈ rxQueueSize, 0 < n
  txQueueSize_pos : ∀ n ∈ txQueueSize, 0 < n
  mempoolSize_pos : ∀ n ∈ mempoolSize, 0 < n

structure ProcessesModel where
  dpdkd : DpdkProcessConfigModel

structure TopologyConfigModel where
  lab : LabModel
  processes : ProcessesModel
  namespaces : List NamespaceModel
  links : List LinkModel
  dpdkPorts : List DpdkPortModel
  routes : List RouteModel
  rules : RulesetModel
  capturePoints : List CapturePointModel

/-! ### The effective runtime -/

/-- The arguments of the constructor of `EffectiveDpdkRuntimeModel`. -/
structure EffectiveFields where
  lcores : Str
  lcoreCount : ℕ
  hugepageSizeMb : ℕ
  hugepagesMb : ℕ
  burstSize : ℕ
  rxQueueSize : ℕ
  txQueueSize : ℕ
  mempoolSize : ℕ
  portCount : ℕ
  deriving DecidableEq

/-- The fields that break a constraint of `EffectiveDpdkRuntimeModel`; a string
with a bound on its length has to be encodable. -/
def EffectiveFields.violations (f : EffectiveFields) : List String :=
  [("lcores", decide (f.lcores ≠ [] ∧ f.lcores.Encodable)), ("lcore_count", decide (1 ≤ f.lcoreCount)),
    ("hugepage_size_mb", decide (f.hugepageSizeMb = 2)),
    ("hugepages_mb", decide (2 ≤ f.hugepagesMb ∧ f.hugepagesMb % 2 = 0)),
    ("burst_size", decide (1 ≤ f.burstSize)), ("rx_queue_size", decide (1 ≤ f.rxQueueSize)),
    ("tx_queue_size", decide (1 ≤ f.txQueueSize)), ("mempool_size", decide (1 ≤ f.mempoolSize)),
    ("port_count", decide (1 ≤ f.portCount))].filterMap fun c => if c.2 then none else some c.1

structure EffectiveDpdkRuntimeModel extends EffectiveFields where
  valid : toEffectiveFields.violations = []

theorem EffectiveFields.violations_eq_nil {f : EffectiveFields} :
    f.violations = [] ↔ (f.lcores ≠ [] ∧ f.lcores.Encodable) ∧ 1 ≤ f.lcoreCount ∧ f.hugepageSizeMb = 2 ∧
      (2 ≤ f.hugepagesMb ∧ f.hugepagesMb % 2 = 0) ∧ 1 ≤ f.burstSize ∧ 1 ≤ f.rxQueueSize ∧
      1 ≤ f.txQueueSize ∧ 1 ≤ f.mempoolSize ∧ 1 ≤ f.portCount := by
  simp only [violations, List.filterMap_eq_nil_iff, List.forall_mem_cons, List.not_mem_nil,
    false_implies, implies_true, and_true, ite_eq_left_iff, reduceCtorEq, imp_false, not_not,
    decide_eq_true_eq]

/-- The lcores of a model have a text. -/
theorem EffectiveDpdkRuntimeModel.text_lcores_ne (e : EffectiveDpdkRuntimeModel) : e.lcores.text ≠ "" := by
  obtain ⟨⟨hne, hencodable⟩, -⟩ := EffectiveFields.violations_eq_nil.mp e.valid
  intro hempty
  have hcoe := Str.coe_text hencodable
  rw [hempty] at hcoe
  exact hne hcoe.symm

end Ctrld
end Pktlab
