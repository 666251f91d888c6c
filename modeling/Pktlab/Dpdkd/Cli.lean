/-
# The command line of the daemon

The argument loop of `main` (`dpdkd/src/main.c`) with `pktlab_parse_u32_arg`
and the `strtoul` it calls, on an `unsigned long` of 64 bits in the C locale.
The loop sees the arguments after the program name.

Key definitions: `strtoul`, `parseU32Arg`, `CliOption`, `argLoop`, `mainArgs`.
Key theorems: `strtoul_decimal`, `parseU32Arg_decimal`.
-/
import Pktlab.Dpdkd.Config
import Pktlab.Lib.Decimal

namespace Pktlab
namespace Dpdkd

open Utf8 Rfc8259 Decimal

/-- `struct pktlab_daemon_config`, without the log level, which no argument
sets. -/
structure DaemonConfig where
  socketPath : CStr
  datapath : DatapathConfig
  deriving DecidableEq

/-- `isspace` in the C locale. -/
def isSpace (c : UInt8) : Bool := c == 0x20 || (0x09 ≤ c && c ≤ 0x0D)

/-- The sign `strtoul` accepts in front of the digits. -/
def strtoulSign (s : List UInt8) : Bool × List UInt8 :=
  match s with
  | [] => (false, [])
  | c :: rest => if c = ascii '-' then (true, rest) else if c = ascii '+' then (false, rest) else (false, s)

/-- `strtoul(s, &end, 10)`: the value and what `end` points to; `none` when
there is no number and `end` is `s`. A number that is too large is
`ULONG_MAX`, a minus sign negates modulo `2 ^ 64`. -/
def strtoul (s : List UInt8) : Option (ℕ × List UInt8) :=
  let (negative, body) := strtoulSign (s.dropWhile isSpace)
  let digits := body.takeWhile isDigit
  if digits = [] then none
  else if decimalValue digits ≥ 2 ^ 64 then some (2 ^ 64 - 1, body.dropWhile isDigit)
  else if negative then some ((2 ^ 64 - decimalValue digits) % 2 ^ 64, body.dropWhile isDigit)
  else some (decimalValue digits, body.dropWhile isDigit)

/-- `pktlab_parse_u32_arg`, with what it prints. -/
def parseU32Arg (name : String) (value : CStr) : Except String UInt32 :=
  if value.bytes = [] then .error s!"{name} requires a non-empty value"
  else
    match strtoul value.bytes with
    | none => .error s!"{name} requires an integer value"
    | some (parsed, rest) =>
      if rest ≠ [] then .error s!"{name} requires an integer value"
      else if parsed > 2 ^ 32 - 1 then .error s!"{name} exceeds the supported range"
      else .ok (UInt32.ofNat parsed)

/-- The options of the daemon that take a value. -/
inductive CliOption
  | socketPath
  | lcores
  | hugepagesMb
  | burstSize
  | rxQueueSize
  | txQueueSize
  | mempoolSize
  | ingressPortName
  | egressPortName
  deriving DecidableEq, Repr

namespace CliOption

def text : CliOption → String
  | socketPath => "--socket-path"
  | lcores => "--lcores"
  | hugepagesMb => "--hugepages-mb"
  | burstSize => "--burst-size"
  | rxQueueSize => "--rx-queue-size"
  | txQueueSize => "--tx-queue-size"
  | mempoolSize => "--mempool-size"
  | ingressPortName => "--ingress-port-name"
  | egressPortName => "--egress-port-name"

/-- The options in the order of the comparisons of `main`. -/
def all : List CliOption :=
  [socketPath, lcores, hugepagesMb, burstSize, rxQueueSize, txQueueSize, mempoolSize, ingressPortName,
    egressPortName]

/-- The option an argument names. -/
def ofArg (arg : CStr) : Option CliOption := all.find? fun o => arg.bytes = utf8 o.text

/-- Whether a missing value makes `main` print the usage. -/
def printsUsage : CliOption → Bool
  | socketPath | lcores | ingressPortName | egressPortName => true
  | _ => false

/-- Store the value of an option. -/
def store (config : DaemonConfig) (o : CliOption) (value : CStr) : Except String DaemonConfig :=
  let d := config.datapath
  match o with
  | socketPath => .ok { config with socketPath := value }
  | lcores => .ok { config with datapath := { d with lcores := value } }
  | hugepagesMb => (parseU32Arg o.text value).map fun n => { config with datapath := { d with hugepagesMb := n } }
  | burstSize => (parseU32Arg o.text value).map fun n => { config with datapath := { d with burstSize := n } }
  | rxQueueSize => (parseU32Arg o.text value).map fun n => { config with datapath := { d with rxQueueSize := n } }
  | txQueueSize => (parseU32Arg o.text value).map fun n => { config with datapath := { d with txQueueSize := n } }
  | mempoolSize => (parseU32Arg o.text value).map fun n => { config with datapath := { d with mempoolSize := n } }
  | ingressPortName => .ok { config with datapath := { d with ingressPortName := value } }
  | egressPortName => .ok { config with datapath := { d with egressPortName := value } }

end CliOption

/-- How the argument loop ends: `main` goes on, or exits. -/
inductive ArgOutcome
  | run (config : DaemonConfig)
  | help
  | usage
  | failure (message : Option String)
  deriving DecidableEq

/-- The argument loop of `main`. -/
def argLoop : List CStr → DaemonConfig → ArgOutcome
  | [], config => .run config
  | [arg], _ =>
    match CliOption.ofArg arg with
    | some o => if o.printsUsage then .usage else .failure none
    | none => if arg.bytes = utf8 "--help" then .help else .usage
  | arg :: value :: args, config =>
    match CliOption.ofArg arg with
    | some o =>
      match o.store config value with
      | .error message => .failure (some message)
      | .ok config => argLoop args config
    | none => if arg.bytes = utf8 "--help" then .help else .usage

/-- The configuration `main` starts the loop with. -/
def initialConfig : DaemonConfig where
  socketPath := ⟨utf8 "/run/pktlab/dpdkd.sock", by decide⟩
  datapath := defaultConfig

/-- `main` up to the initialisation of the daemon. -/
def mainArgs (args : List CStr) : ArgOutcome := argLoop args initialConfig

/-! ### Numerals -/

theorem isDigit_not_special {c : UInt8} (h : isDigit c = true) :
    isSpace c = false ∧ c ≠ ascii '-' ∧ c ≠ ascii '+' := by
  have hbytes : ∀ n < 256, isDigit (UInt8.ofNat n) = true →
      isSpace (UInt8.ofNat n) = false ∧ UInt8.ofNat n ≠ ascii '-' ∧ UInt8.ofNat n ≠ ascii '+' := by
    decide +kernel
  have hc := hbytes c.toNat c.toNat_lt
  rw [UInt8.ofNat_toNat] at hc
  exact hc h

theorem strtoul_decimal {n : ℕ} (h : n < 2 ^ 64) : strtoul (decimal n) = some (n, []) := by
  obtain ⟨hne, hdigits⟩ := digits_decimal n
  have htake : (decimal n).takeWhile isDigit = decimal n := List.takeWhile_eq_self_iff.mpr hdigits
  have hdrop : (decimal n).dropWhile isDigit = [] := List.dropWhile_eq_nil_iff.mpr hdigits
  have hspace : (decimal n).dropWhile isSpace = decimal n ∧ strtoulSign (decimal n) = (false, decimal n) := by
    cases hd : decimal n with
    | nil => exact absurd hd hne
    | cons c rest =>
      obtain ⟨h1, h2, h3⟩ := isDigit_not_special (hdigits c (by rw [hd]; exact List.mem_cons_self))
      exact ⟨by rw [List.dropWhile_cons, h1]; rfl, by simp [strtoulSign, h2, h3]⟩
  unfold strtoul
  simp only [hspace.1, hspace.2, htake, hdrop, hne, if_false, decimalValue_decimal, ge_iff_le,
    Nat.not_le.mpr h, Bool.false_eq_true]

theorem parseU32Arg_decimal (name : String) {n : ℕ} (h : n < 2 ^ 32) {value : CStr}
    (hvalue : value.bytes = decimal n) : parseU32Arg name value = .ok (UInt32.ofNat n) := by
  unfold parseU32Arg
  rw [hvalue, if_neg (digits_decimal n).1, strtoul_decimal (by omega)]
  simp only [ne_eq, not_true_eq_false, if_false, gt_iff_lt]
  rw [if_neg (by omega)]

end Dpdkd
end Pktlab
