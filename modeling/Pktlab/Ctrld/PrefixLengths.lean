/-
# Prefix lengths

The issues of `config/validation.py` ask for interfaces and networks "with
prefix length", and the `IPv4WithPrefix` pattern of the schema for one or two
digits behind a slash. The checks leave it to `ipaddress.ip_interface` and
`ip_network`, which take more: a bare address, for a network of its own, a
netmask or a hostmask behind the slash, and zeros before the prefix length. In
an accepted topology the prefix lengths are there exactly when none of these is
(`prefix_lengths_iff`).

Key definitions: `IPv4WithPrefix`, `AddressAndMask`, `Unprefixed`,
`TopologyConfigModel.prefixedTexts`.
Key theorems: `AddressAndMask.withPrefix_iff`, `Acceptable.read`, `prefix_lengths_iff`.
-/
import Mathlib.Data.List.FinRange
import Pktlab.Ctrld.Acceptance
import Pktlab.Ctrld.TopologyRuns

namespace Pktlab
namespace Ctrld

open Python

/-! ### Texts -/

/-- `\d+`. -/
def IsDecimal (text : List Char) : Prop := text ≠ [] ∧ ∀ c ∈ text, c.isDigit = true

instance (text : List Char) : Decidable (IsDecimal text) := inferInstanceAs (Decidable (_ ∧ _))

/-- Four parts between dots. -/
def Quad (part : List Char → Prop) (text : List Char) : Prop :=
  (splitAll '.' text).length = 4 ∧ ∀ p ∈ splitAll '.' text, part p

instance (part : List Char → Prop) [DecidablePred part] (text : List Char) : Decidable (Quad part text) :=
  inferInstanceAs (Decidable (_ ∧ _))

/-- `IPv4WithPrefix` of the schema, `^(?:\d{1,3}\.){3}\d{1,3}/\d{1,2}$`. -/
def IPv4WithPrefix (text : List Char) : Prop :=
  ∃ quad length, text = quad ++ '/' :: length ∧
    Quad (fun part => IsDecimal part ∧ part.length ≤ 3) quad ∧ IsDecimal length ∧ length.length ≤ 2

/-- A decimal number up to 255 without a leading zero. -/
def IsOctet (text : List Char) : Prop :=
  IsDecimal text ∧ text.length ≤ 3 ∧ (text.head? = some '0' → text.length = 1) ∧ Nat.ofDigitChars 10 text 0 ≤ 255

instance : DecidablePred IsOctet := fun _ => inferInstanceAs (Decidable (_ ∧ _))

/-- An address by itself, or with a mask behind a slash: the number of its ones
in decimal digits, or a netmask or a hostmask, which is written as an address. -/
inductive AddressAndMask : List Char → Prop
  | bare {address : List Char} : Quad IsOctet address → AddressAndMask address
  | number {address digits : List Char} : Quad IsOctet address → IsDecimal digits →
      AddressAndMask (address ++ '/' :: digits)
  | mask {address mask : List Char} : Quad IsOctet address → Quad IsOctet mask →
      AddressAndMask (address ++ '/' :: mask)

/-- **`ipaddress`.** `ip_interface` and `ip_network` read an address with an
optional mask. -/
structure ReadsMasks (py : Interpreter) : Prop where
  interface : ∀ text : String, IsV4 py.ipInterface text → AddressAndMask text.toList
  network : ∀ text : String, IsV4 py.ipNetwork text → AddressAndMask text.toList

/-- An address without a prefix length, with a mask in its place, or with zeros
before it. -/
inductive Unprefixed : List Char → Prop
  | bare {address : List Char} : Quad IsOctet address → Unprefixed address
  | mask {address mask : List Char} : Quad IsOctet address → Quad IsOctet mask →
      Unprefixed (address ++ '/' :: mask)
  | long {address digits : List Char} : Quad IsOctet address → IsDecimal digits → 2 < digits.length →
      Unprefixed (address ++ '/' :: digits)

theorem IsDecimal.noSlash {text : List Char} (h : IsDecimal text) : '/' ∉ text := fun hslash =>
  absurd (h.2 '/' hslash) (by decide)

theorem IsDecimal.noDot {text : List Char} (h : IsDecimal text) : '.' ∉ text := fun hdot =>
  absurd (h.2 '.' hdot) (by decide)

section Quad

variable {part : List Char → Prop} {text : List Char}

theorem Quad.mono {part' : List Char → Prop} (h : Quad part text) (hpart : ∀ p, part p → part' p) :
    Quad part' text := ⟨h.1, fun p hp => hpart p (h.2 p hp)⟩

/-- The parts are decimal, so there is no slash in between. -/
theorem Quad.noSlash (h : Quad part text) (hpart : ∀ p, part p → IsDecimal p) : '/' ∉ text := by
  intro hslash
  obtain ⟨p, hp, hmem⟩ := mem_splitAll hslash (by decide : '/' ≠ '.')
  exact (hpart p (h.2 p hp)).noSlash hmem

/-- A number has no four parts. -/
theorem Quad.not_isDecimal (h : Quad part text) : ¬IsDecimal text := by
  intro hdecimal
  have hlength := h.1
  rw [splitAll_eq_singleton hdecimal.noDot] at hlength
  cases hlength

end Quad

theorem IsOctet.isDecimal (text : List Char) (h : IsOctet text) : IsDecimal text := h.1

/-- There is no prefix length to be found in it. -/
theorem Unprefixed.not_withPrefix {text : List Char} (h : Unprefixed text) : ¬IPv4WithPrefix text := by
  rintro ⟨quad, length, htext, hquad, hlength, hle⟩
  have hsplit : splitFirst '/' text = some (quad, length) :=
    splitFirst_eq_some_iff.mpr ⟨htext, hquad.noSlash fun _ => And.left⟩
  cases h with
  | bare haddress =>
    rw [splitFirst_eq_none (haddress.noSlash IsOctet.isDecimal)] at hsplit
    cases hsplit
  | mask haddress hmask =>
    rw [splitFirst_append (haddress.noSlash IsOctet.isDecimal)] at hsplit
    cases hsplit
    exact hmask.not_isDecimal hlength
  | long haddress hdigits hlong =>
    rw [splitFirst_append (haddress.noSlash IsOctet.isDecimal)] at hsplit
    cases hsplit
    omega

/-- **What is read without a prefix length.** -/
theorem AddressAndMask.withPrefix_iff {text : List Char} (h : AddressAndMask text) :
    IPv4WithPrefix text ↔ ¬Unprefixed text := by
  refine ⟨fun hprefix hnone => hnone.not_withPrefix hprefix, fun hnone => ?_⟩
  cases h with
  | bare haddress => exact absurd (.bare haddress) hnone
  | mask haddress hmask => exact absurd (.mask haddress hmask) hnone
  | number haddress hdigits =>
    refine ⟨_, _, rfl, haddress.mono fun p hp => ⟨hp.1, hp.2.1⟩, hdigits, ?_⟩
    by_contra hlong
    exact hnone (.long haddress hdigits (Nat.lt_of_not_le hlong))

/-! ### Accepted topologies -/

/-- The addresses of a link. -/
def LinkModel.addresses (link : LinkModel) : List String := link.ipA.toList ++ link.ipB.toList

/-- The networks of a rule. -/
def RuleModel.cidrs (rule : RuleModel) : List String :=
  rule.pattern.srcCidr.toList ++ rule.pattern.dstCidr.toList

/-- The texts that are to have a prefix length. -/
def TopologyConfigModel.prefixedTexts (config : TopologyConfigModel) : List String :=
  config.links.flatMap LinkModel.addresses ++ (config.routes.map fun route => route.dst.1) ++
    config.rules.entries.flatMap RuleModel.cidrs

section Accepted

variable {py : Interpreter} {config : TopologyConfigModel}

/-- The addresses of a link that is in order are read as interfaces. -/
theorem LinkModel.Addressed.read {link : LinkModel} (h : link.Addressed py) {text : String}
    (htext : text ∈ link.addresses) : IsV4 py.ipInterface text := by
  unfold LinkModel.addresses at htext
  rcases h with ⟨ha, hb⟩ | ⟨ipA, hipA, ipB, hipB, a, b, ha, hb, -⟩
  · rw [ha, hb] at htext
    cases htext
  · rw [Option.mem_def.mp hipA, Option.mem_def.mp hipB] at htext
    rcases List.mem_append.mp htext with htext | htext
    · obtain rfl := List.mem_singleton.mp htext
      exact ⟨a, ha⟩
    · obtain rfl := List.mem_singleton.mp htext
      exact ⟨b, hb⟩

theorem RuleMatchModel.Acceptable.read {rule : RuleModel} (h : rule.pattern.Acceptable py) {text : String}
    (htext : text ∈ rule.cidrs) : IsV4 py.ipNetwork text := by
  rcases List.mem_append.mp htext with htext | htext
  · exact h.srcCidr text (Option.mem_toList.mp htext)
  · exact h.dstCidr text (Option.mem_toList.mp htext)

/-- The texts of an acceptable topology are read as interfaces or networks. -/
theorem Acceptable.read (h : Acceptable py config) {text : String} (htext : text ∈ config.prefixedTexts) :
    IsV4 py.ipInterface text ∨ IsV4 py.ipNetwork text := by
  rcases List.mem_append.mp htext with htext | htext
  · rcases List.mem_append.mp htext with htext | htext
    · obtain ⟨link, hlink, htext⟩ := List.mem_flatMap.mp htext
      exact .inl ((h.addressed link hlink).read htext)
    · obtain ⟨route, hroute, rfl⟩ := List.mem_map.mp htext
      exact .inr (h.routes route hroute).2.1
  · obtain ⟨rule, hrule, htext⟩ := List.mem_flatMap.mp htext
    exact .inr ((h.rules.patterns rule hrule).read htext)

/-- **Prefix lengths.** The texts of an accepted topology have their prefix
lengths exactly when none of them is a bare address, has a netmask or a
hostmask, or a prefix length of three digits or more. -/
theorem prefix_lengths_iff (hpy : ReadsMasks py) {v : ValidatedTopologyConfig}
    (h : validateTopologyConfig py config = .ok v) :
    (∀ text ∈ config.prefixedTexts, IPv4WithPrefix text.toList) ↔
      ∀ text ∈ config.prefixedTexts, ¬Unprefixed text.toList := by
  obtain ⟨effective, hclean, -⟩ := validateTopologyConfig_eq_ok.mp h
  refine forall₂_congr fun text htext => AddressAndMask.withPrefix_iff ?_
  exact (hclean.acceptable.read htext).elim (hpy.interface text) (hpy.network text)

end Accepted

/-! ### Dotted quads -/

/-- `_ip_int_from_string`. -/
def ipIntFromString (text : List Char) : Option IPv4Address :=
  if Quad IsOctet text then
    some (.ofNat 32 ((splitAll '.' text).foldl (fun n part => 256 * n + Nat.ofDigitChars 10 part 0) 0))
  else none

/-- `_prefix_from_prefix_string`. -/
def prefixFromPrefixString (text : List Char) : Option (Fin 33) :=
  if IsDecimal text ∧ text.length ≤ maxStrDigits then
    if h : Nat.ofDigitChars 10 text 0 < 33 then some ⟨_, h⟩ else none
  else none

/-- `_prefix_from_ip_int`: ones, and zeros behind them. -/
def prefixFromIpInt (mask : IPv4Address) : Option (Fin 33) :=
  (List.finRange 33).find? fun n => mask = BitVec.allOnes 32 <<< (32 - n.val)

/-- `_prefix_from_ip_string`: of a netmask, or of a hostmask, its complement. -/
def prefixFromIpString (text : List Char) : Option (Fin 33) :=
  (ipIntFromString text).bind fun mask => (prefixFromIpInt mask).or (prefixFromIpInt (~~~mask))

/-- An address and the number of ones in its mask, which is 32 when there is
none. -/
def addressAndPrefix (text : List Char) : Option (IPv4Address × Fin 33) :=
  match splitFirst '/' text with
  | none => (ipIntFromString text).map fun address => (address, 32)
  | some (address, mask) => do
    let address ← ipIntFromString address
    let length ← (prefixFromPrefixString mask).or (prefixFromIpString mask)
    some (address, length)

/-- The network around an address. -/
def networkOf (p : IPv4Address × Fin 33) : IPv4Network :=
  ⟨p.1 &&& (⟨p.1, p.2⟩ : IPv4Network).netmask, p.2⟩

/-- The result of a parser that knows version 4 only. -/
def ofOption {α : Type} (x : Option α) : IpResult α := x.elim .invalid .v4

/-- An interpreter for texts in ASCII that reads version 4. -/
def quadInterpreter : Interpreter :=
  { asciiInterpreter with
    ipAddress := fun text => ofOption (ipIntFromString text.toList)
    ipInterface := fun text => ofOption ((addressAndPrefix text.toList).map fun p => ⟨p.1, networkOf p⟩)
    ipNetwork := fun text => ofOption ((addressAndPrefix text.toList).map networkOf) }

theorem exists_ofOption {α β : Type} {x : Option α} {f : α → β} (h : ∃ b, ofOption (x.map f) = .v4 b) :
    ∃ a, x = some a := by
  cases x with
  | none =>
    obtain ⟨b, hb⟩ := h
    cases hb
  | some a => exact ⟨a, rfl⟩

theorem quad_of_ipIntFromString {text : List Char} {address : IPv4Address}
    (h : ipIntFromString text = some address) : Quad IsOctet text := by
  by_contra hquad
  rw [ipIntFromString, if_neg hquad] at h
  cases h

theorem addressAndMask_of_read {text : List Char} {p : IPv4Address × Fin 33}
    (h : addressAndPrefix text = some p) : AddressAndMask text := by
  unfold addressAndPrefix at h
  cases hsplit : splitFirst '/' text with
  | none =>
    rw [hsplit] at h
    obtain ⟨address, haddress, -⟩ := Option.map_eq_some_iff.mp h
    exact .bare (quad_of_ipIntFromString haddress)
  | some parts =>
    obtain ⟨before, after⟩ := parts
    rw [hsplit] at h
    obtain ⟨address, haddress, h⟩ := Option.bind_eq_some_iff.mp h
    obtain ⟨length, hlength, -⟩ := Option.bind_eq_some_iff.mp h
    have hquad := quad_of_ipIntFromString haddress
    rw [splitFirst_eq_some hsplit]
    rcases Option.or_eq_some_iff.mp hlength with hnumber | ⟨-, hmask⟩
    · refine .number hquad ?_
      by_contra hdecimal
      rw [prefixFromPrefixString, if_neg fun hnumber => hdecimal hnumber.1] at hnumber
      cases hnumber
    · obtain ⟨mask, hmask, -⟩ := Option.bind_eq_some_iff.mp hmask
      exact .mask hquad (quad_of_ipIntFromString hmask)

theorem quadInterpreter_reads : ReadsMasks quadInterpreter := by
  refine ⟨fun text h => ?_, fun text h => ?_⟩
  · obtain ⟨p, hp⟩ := exists_ofOption h
    exact addressAndMask_of_read hp
  · obtain ⟨p, hp⟩ := exists_ofOption h
    exact addressAndMask_of_read hp

/-- The plain lab, dropping what comes from a network. -/
def droppingLab (srcCidr : String) : TopologyConfigModel :=
  { plainLab with
    rules := { plainLab.rules with
      entries := [⟨1, 10, ⟨none, none, none, some srcCidr, none, none, none⟩, plainLab.rules.defaultAction⟩] } }

theorem prefix_lengths_given :
    ReadsMasks quadInterpreter ∧
    (∃ v, validateTopologyConfig quadInterpreter (droppingLab "10.0.0.0/24") = .ok v) ∧
    ∀ text ∈ (droppingLab "10.0.0.0/24").prefixedTexts, ¬Unprefixed text.toList := by
  have haccepted : (validateTopologyConfig quadInterpreter (droppingLab "10.0.0.0/24")).toBool = true := by
    decide +kernel
  have hprefix : ∀ text ∈ (droppingLab "10.0.0.0/24").prefixedTexts, IPv4WithPrefix text.toList := by
    intro text htext
    obtain rfl := List.mem_singleton.mp htext
    exact ⟨"10.0.0.0".toList, "24".toList, rfl, by decide, by decide, by decide⟩
  obtain ⟨v, hv⟩ := exists_of_toBool haccepted
  exact ⟨quadInterpreter_reads, ⟨v, hv⟩, (prefix_lengths_iff quadInterpreter_reads hv).mp hprefix⟩

/-- A forgotten prefix length is accepted, for one host, and so is a mask or a
zero before it. -/
theorem forgotten_prefix_accepted :
    ReadsMasks quadInterpreter ∧
    ∀ cidr ∈ ["10.0.0.0", "10.0.0.0/255.255.255.0", "10.0.0.0/0.0.0.255", "10.0.0.0/024"],
      (∃ v, validateTopologyConfig quadInterpreter (droppingLab cidr) = .ok v) ∧
      ¬∀ text ∈ (droppingLab cidr).prefixedTexts, IPv4WithPrefix text.toList := by
  refine ⟨quadInterpreter_reads, ?_⟩
  have haccepted : ∀ cidr ∈ ["10.0.0.0", "10.0.0.0/255.255.255.0", "10.0.0.0/0.0.0.255", "10.0.0.0/024"],
      (validateTopologyConfig quadInterpreter (droppingLab cidr)).toBool = true := by decide +kernel
  have hnone : ∀ cidr ∈ ["10.0.0.0", "10.0.0.0/255.255.255.0", "10.0.0.0/0.0.0.255", "10.0.0.0/024"],
      Unprefixed cidr.toList := by
    have haddress : Quad IsOctet "10.0.0.0".toList := by decide
    have hnetmask : Quad IsOctet "255.255.255.0".toList := by decide
    have hhostmask : Quad IsOctet "0.0.0.255".toList := by decide
    have hzero : IsDecimal "024".toList := by decide
    simp only [List.forall_mem_cons, List.not_mem_nil, false_implies, implies_true, and_true]
    exact ⟨.bare haddress, .mask haddress hnetmask, .mask haddress hhostmask, .long haddress hzero (by decide)⟩
  exact fun cidr hcidr => ⟨exists_of_toBool (haccepted cidr hcidr), fun h =>
    (hnone cidr hcidr).not_withPrefix (h cidr (List.mem_singleton.mpr rfl))⟩

end Ctrld
end Pktlab
