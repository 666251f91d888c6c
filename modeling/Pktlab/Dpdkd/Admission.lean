/-
# Which IPv4 frames the forwarding path lets through

`pktlab_datapath_forward_direction` (`dpdkd/src/datapath.c`) drops what
`pktlab_parser_parse` (`dpdkd/src/parser.c`) refuses, and the parser asks for
the transport header of a TCP or UDP frame and for nothing behind the fixed
header of any other.

Two things follow that the header alone does not tell. A later fragment has
no transport header, and yet one of a TCP or UDP datagram passes only when
its payload is as long as that header, and has zero ports only when it begins
with four zero bytes (`laterFragment_forwarded_iff`). And a frame whose
options are cut off passes when its protocol is neither TCP nor UDP
(`offered_complete_iff`).

Key definitions: `Burst.parsed`, `LaterFragment`, `ReadsZeroPorts`,
`TruncatedOptions`.
Key theorems: `mem_offered_iff`, `laterFragment_forwarded_iff`,
`offered_complete_iff`.
-/
import Pktlab.Dpdkd.Disposal
import Pktlab.Dpdkd.Frames

namespace Pktlab
namespace Dpdkd

open Octets

variable {burstSize : UInt16}

/-- The burst, with the daemon's parser. -/
def Burst.parsed (dpdk : PktmbufRead) (b : Burst RteMbuf burstSize) : Burst RteMbuf burstSize :=
  { b with parses := fun packet => (parserParse dpdk packet).1 = 0 }

@[simp] theorem Burst.received_parsed (dpdk : PktmbufRead) (b : Burst RteMbuf burstSize) :
    (b.parsed dpdk).received = b.received := rfl

@[simp] theorem Burst.parses_parsed (dpdk : PktmbufRead) (b : Burst RteMbuf burstSize)
    (packet : RteMbuf) :
    (b.parsed dpdk).parses packet = decide ((parserParse dpdk packet).1 = 0) := rfl

/-- The packets offered are those received that parse. -/
theorem mem_offered_iff (dpdk : PktmbufRead) (array : ℕ → RteMbuf) (b : Burst RteMbuf burstSize)
    {packet : RteMbuf} :
    packet ∈ (forwardDirection array (b.parsed dpdk)).offered ↔
      packet ∈ b.received ∧ Parses packet.bytes := by
  rw [forwardDirection_offered, List.mem_filter, Burst.parses_parsed, Burst.received_parsed,
    decide_eq_true_iff, parserParse_status]

/-! ### Later fragments -/

/-- A well-formed IPv4 frame with a fragment offset that is not zero. -/
structure LaterFragment (b : List UInt8) : Prop where
  etherType : etherTypeOf b = 0x0800
  version : versionOf b = 4
  ihl : 5 ≤ ihlOf b
  header : headerEnd b ≤ b.length
  offset : fragmentOffsetOf b ≠ 0

/-- The payload of the frame is as long as the transport header the parser
asks for, and begins with four zero bytes; for a protocol without one there
is nothing to ask. -/
def ReadsZeroPorts (b : List UInt8) : Prop :=
  transportLength b ≠ 0 →
    headerEnd b + transportLength b ≤ b.length ∧
      field b (headerEnd b) 2 = 0 ∧ field b (headerEnd b + 2) 2 = 0

/-- What the forwarding path is to do with a later fragment: parse it without
ports, offer it, and count parse errors for the burst's other packets only. -/
structure Forwarded (dpdk : PktmbufRead) (array : ℕ → RteMbuf) (b : Burst RteMbuf burstSize)
    (packet : RteMbuf) : Prop where
  status : (parserParse dpdk packet).1 = 0
  srcPort : (parserParse dpdk packet).2.srcPort = 0
  dstPort : (parserParse dpdk packet).2.dstPort = 0
  offered : packet ∈ (forwardDirection array (b.parsed dpdk)).offered
  parseErrors : (forwardDirection array (b.parsed dpdk)).parseErrors =
    (b.received.erase packet).countP fun other => (parserParse dpdk other).1 ≠ 0

/-- A later fragment parses when the transport header the parser asks for is
there. -/
theorem LaterFragment.parses_iff {b : List UInt8} (h : LaterFragment b) :
    Parses b ↔ (transportLength b ≠ 0 → headerEnd b + transportLength b ≤ b.length) := by
  have hend : headerEnd b = 14 + 4 * ihlOf b := rfl
  have hihl := h.ihl
  have hheader := h.header
  constructor
  · exact fun hp => (hp.2 h.etherType).transport
  · exact fun htransport => ⟨by omega, fun _ => ⟨by omega, h.version, hihl, htransport⟩⟩

/-- A port is zero when its two bytes are. -/
theorem ofNat_field_eq_zero_iff (b : List UInt8) (start : ℕ) :
    UInt16.ofNat (field b start 2) = 0 ↔ field b start 2 = 0 := by
  have hlt : field b start 2 < 2 ^ 16 := field_lt b start 2
  rw [← UInt16.toNat_inj, UInt16.toNat_ofNat', Nat.mod_eq_of_lt hlt]
  exact Iff.rfl

/-- The ports it is given. -/
theorem LaterFragment.ports_zero_iff {b : List UInt8} (h : LaterFragment b) :
    (pktMetaOf b).srcPort = 0 ∧ (pktMetaOf b).dstPort = 0 ↔
      (transportLength b ≠ 0 → field b (headerEnd b) 2 = 0 ∧ field b (headerEnd b + 2) 2 = 0) := by
  rw [pktMetaOf]
  simp only [h.etherType, ne_eq, not_true_eq_false, ↓reduceIte]
  by_cases h0 : transportLength b = 0
  · simp only [h0, ↓reduceIte, not_true_eq_false, false_implies, and_self]
  · simp only [h0, ↓reduceIte, not_false_eq_true, true_implies, ofNat_field_eq_zero_iff]

/-- A packet that parses is not among the parse failures. -/
theorem countP_erase_of_status {dpdk : PktmbufRead} {packets : List RteMbuf} {packet : RteMbuf}
    (hin : packet ∈ packets) (hstatus : (parserParse dpdk packet).1 = 0) :
    (packets.erase packet).countP (fun other => (parserParse dpdk other).1 ≠ 0) =
      packets.countP fun other => (parserParse dpdk other).1 ≠ 0 := by
  rw [(List.perm_cons_erase hin).countP_eq, List.countP_cons_of_neg]
  simp [hstatus]

theorem parseErrors_parsed (dpdk : PktmbufRead) (array : ℕ → RteMbuf) (b : Burst RteMbuf burstSize) :
    (forwardDirection array (b.parsed dpdk)).parseErrors =
      b.received.countP fun other => (parserParse dpdk other).1 ≠ 0 := by
  rw [forwardDirection_parseErrors, Burst.received_parsed]
  exact List.countP_congr fun other _ => by simp

/-- **Later fragments.** One is forwarded as a fragment, without ports and
without a parse error, exactly when its protocol is neither TCP nor UDP or its
payload happens to read as a transport header with zero ports. -/
theorem laterFragment_forwarded_iff (dpdk : PktmbufRead) (array : ℕ → RteMbuf)
    (b : Burst RteMbuf burstSize) {packet : RteMbuf} (hin : packet ∈ b.received)
    (h : LaterFragment packet.bytes) :
    Forwarded dpdk array b packet ↔ ReadsZeroPorts packet.bytes := by
  constructor
  · intro hf
    have hparses := (parserParse_status dpdk).mp hf.status
    have hports : (pktMetaOf packet.bytes).srcPort = 0 ∧ (pktMetaOf packet.bytes).dstPort = 0 := by
      have hsrc := hf.srcPort
      have hdst := hf.dstPort
      rw [parserParse_of_parses dpdk hparses] at hsrc hdst
      exact ⟨hsrc, hdst⟩
    exact fun h0 => ⟨h.parses_iff.mp hparses h0, h.ports_zero_iff.mp hports h0⟩
  · intro hz
    have hparses : Parses packet.bytes := h.parses_iff.mpr fun h0 => (hz h0).1
    have hstatus := (parserParse_status dpdk).mpr hparses
    obtain ⟨hsrc, hdst⟩ := h.ports_zero_iff.mpr fun h0 => (hz h0).2
    refine ⟨hstatus, ?_, ?_, (mem_offered_iff dpdk array b).mpr ⟨hin, hparses⟩, ?_⟩
    · rw [parserParse_of_parses dpdk hparses]
      exact hsrc
    · rw [parserParse_of_parses dpdk hparses]
      exact hdst
    · rw [parseErrors_parsed, countP_erase_of_status hin hstatus]

/-- A burst of one packet, all of whose offered packets are sent. -/
def burstOfOne (packet : RteMbuf) : Burst RteMbuf 32 where
  received := [packet]
  received_le := Nat.le_of_ble_eq_true rfl
  parses := fun _ => true
  transmit := List.length
  transmit_le := fun _ => le_rfl

/-- The last fragment of a datagram with no options, offset 185 words. -/
def fragmentBytes (protocol : UInt8) (payload : List UInt8) : List UInt8 :=
  [2, 0, 0, 0, 0, 2, 2, 0, 0, 0, 0, 1, 8, 0] ++
    [0x45, 0, 0, 24, 0, 7, 0, 185, 64, protocol, 0, 0, 10, 0, 0, 1, 10, 0, 1, 2] ++ payload

/-- Four bytes of a UDP datagram are left for it. -/
def shortFragment : RteMbuf where
  segments := [fragmentBytes 17 [1, 2, 3, 4]]
  length_lt := by decide

theorem shortFragment_laterFragment : LaterFragment shortFragment.bytes :=
  ⟨by decide, by decide, by decide, by decide, by decide⟩

/-- It is dropped as a parse error. -/
theorem shortFragment_dropped :
    ¬∀ (dpdk : PktmbufRead) (array : ℕ → RteMbuf) (b : Burst RteMbuf 32) (packet : RteMbuf),
      packet ∈ b.received → LaterFragment packet.bytes → Forwarded dpdk array b packet := by
  intro h
  have hf := h contiguousRead (fun _ => shortFragment) (burstOfOne shortFragment) shortFragment
    List.mem_cons_self shortFragment_laterFragment
  exact absurd hf.status (by decide)

/-- A fragment of an ICMP message. -/
def icmpFragment : RteMbuf where
  segments := [fragmentBytes 1 [1, 2, 3, 4]]
  length_lt := by decide

theorem icmpFragment_forwarded :
    icmpFragment ∈ (burstOfOne icmpFragment).received ∧ LaterFragment icmpFragment.bytes ∧
    Forwarded contiguousRead (fun _ => icmpFragment) (burstOfOne icmpFragment) icmpFragment := by
  have hin : icmpFragment ∈ (burstOfOne icmpFragment).received := List.mem_cons_self
  have hlater : LaterFragment icmpFragment.bytes :=
    ⟨by decide, by decide, by decide, by decide, by decide⟩
  have hports : ReadsZeroPorts icmpFragment.bytes := fun h0 => absurd rfl h0
  exact ⟨hin, hlater, (laterFragment_forwarded_iff _ _ _ hin hlater).mpr hports⟩

/-! ### Truncated options -/

/-- An IPv4 frame whose fixed header is there and whose options are not all
there, of a protocol for which the parser looks no further. -/
structure TruncatedOptions (b : List UInt8) : Prop where
  etherType : etherTypeOf b = 0x0800
  version : versionOf b = 4
  ihl : 5 ≤ ihlOf b
  fixed : 34 ≤ b.length
  options : b.length < headerEnd b
  protocol : transportLength b = 0

/-- An IPv4 frame that parses lacks its options or has its whole header. -/
theorem ParsesIpv4.truncated_or_complete {b : List UInt8} (htype : etherTypeOf b = 0x0800)
    (h : ParsesIpv4 b) : TruncatedOptions b ∨ headerEnd b ≤ b.length := by
  by_cases h0 : transportLength b = 0
  · by_cases hend : b.length < headerEnd b
    · exact .inl ⟨htype, h.version, h.ihl, h.fixed, hend, h0⟩
    · exact .inr (Nat.le_of_not_lt hend)
  · have := h.transport h0
    exact .inr (by omega)

theorem TruncatedOptions.parses {b : List UInt8} (h : TruncatedOptions b) : Parses b := by
  have hfixed := h.fixed
  exact ⟨by omega, fun _ => ⟨hfixed, h.version, h.ihl, fun h0 => absurd h.protocol h0⟩⟩

/-- **Whole headers.** A burst's IPv4 frames are offered with their whole
header exactly when it received none whose options are cut off and whose
protocol is neither TCP nor UDP. -/
theorem offered_complete_iff (dpdk : PktmbufRead) (array : ℕ → RteMbuf)
    (b : Burst RteMbuf burstSize) :
    (∀ packet ∈ (forwardDirection array (b.parsed dpdk)).offered,
      etherTypeOf packet.bytes = 0x0800 → 14 + 4 * ihlOf packet.bytes ≤ packet.bytes.length) ↔
    ∀ packet ∈ b.received, ¬TruncatedOptions packet.bytes := by
  constructor
  · intro h packet hin htrunc
    have hoffered := (mem_offered_iff dpdk array b).mpr ⟨hin, htrunc.parses⟩
    have hcomplete := h packet hoffered htrunc.etherType
    exact absurd htrunc.options (Nat.not_lt_of_le hcomplete)
  · intro h packet hoffered htype
    obtain ⟨hin, hparses⟩ := (mem_offered_iff dpdk array b).mp hoffered
    exact ((hparses.2 htype).truncated_or_complete htype).resolve_left (h packet hin)

/-- An ICMP message with a header length of 24 bytes, cut off after 20. -/
def cutOffPacket : RteMbuf where
  segments := [[2, 0, 0, 0, 0, 2, 2, 0, 0, 0, 0, 1, 8, 0,
    0x46, 0, 0, 20, 0, 7, 0, 0, 64, 1, 0, 0, 10, 0, 0, 1, 10, 0, 1, 2]]
  length_lt := by decide

/-- It is forwarded. -/
theorem cutOffPacket_offered :
    ¬∀ (dpdk : PktmbufRead) (array : ℕ → RteMbuf) (b : Burst RteMbuf 32),
      ∀ packet ∈ (forwardDirection array (b.parsed dpdk)).offered,
        etherTypeOf packet.bytes = 0x0800 → 14 + 4 * ihlOf packet.bytes ≤ packet.bytes.length := by
  intro h
  have hoffered : cutOffPacket ∈ (forwardDirection (fun _ => cutOffPacket)
      ((burstOfOne cutOffPacket).parsed contiguousRead)).offered := by decide
  exact absurd (h contiguousRead _ (burstOfOne cutOffPacket) cutOffPacket hoffered (by decide))
    (by decide)

end Dpdkd
end Pktlab
