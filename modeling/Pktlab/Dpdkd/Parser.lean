/-
# Parsing a frame

`pktlab_parser_parse` (`dpdkd/src/parser.c`) in the build with DPDK: it reads
the Ethernet header, of an IPv4 frame the fixed part of the IPv4 header, and
for TCP and UDP the transport header behind the options, each with
`rte_pktmbuf_read`, and fills a `struct pkt_meta`.

A packet is a chain of segments, and what DPDK promises of `rte_pktmbuf_read`
is in `PktmbufRead`: it returns the requested bytes of the segments read as
one, or `NULL` when they are not all there. So the parser sees the bytes of
the packet and not where they are split (`parserParse_congr`), and whether it
succeeds depends on the EtherType, the IPv4 version, the header length, the
protocol and the length of the packet (`parserParse_status`).

Key definitions: `RteMbuf`, `PktmbufRead`, `PktMeta`, `parserParse`,
`Parses`, `pktMetaOf`.
Key theorems: `parserParse_congr`, `parserParse_of_parses`,
`parserParse_status`.
-/
import Pktlab.Lib.Octets

namespace Pktlab
namespace Dpdkd

open Wire Octets

/-- A packet: the data of its segments. Its length is a `uint32_t`. -/
structure RteMbuf where
  segments : List (List UInt8)
  length_lt : segments.flatten.length < 2 ^ 32
deriving DecidableEq

/-- The bytes of a packet, its segments read as one. -/
def RteMbuf.bytes (packet : RteMbuf) : List UInt8 := packet.segments.flatten

/-- `rte_pktmbuf_pkt_len`. -/
def RteMbuf.pktLen (packet : RteMbuf) : UInt32 := .ofNat packet.bytes.length

/-- **`rte_pktmbuf_read`.** `none` is `NULL`. -/
structure PktmbufRead where
  read : RteMbuf → ℕ → ℕ → Option (List UInt8)
  read_some : ∀ {packet : RteMbuf} {start len : ℕ}, start + len ≤ packet.bytes.length →
    read packet start len = some (window packet.bytes start len)
  read_none : ∀ {packet : RteMbuf} {start len : ℕ}, packet.bytes.length < start + len →
    read packet start len = none

/-- The read of the segments as one, for samples. -/
def contiguousRead : PktmbufRead where
  read packet start len :=
    if start + len ≤ packet.bytes.length then some (window packet.bytes start len) else none
  read_some h := if_pos h
  read_none h := if_neg (Nat.not_le_of_lt h)

/-- `struct pkt_meta`. -/
structure PktMeta where
  etherType : UInt16 := 0
  l4Proto : UInt8 := 0
  srcIp : UInt32 := 0
  dstIp : UInt32 := 0
  srcPort : UInt16 := 0
  dstPort : UInt16 := 0
  pktLen : UInt16 := 0
  flags : UInt8 := 0
deriving DecidableEq

/-- `rte_be_to_cpu_16` of the header field at an offset. -/
def beToCpu16 (header : List UInt8) (offset : ℕ) : UInt16 := .ofNat (field header offset 2)

/-- `rte_be_to_cpu_32` of the header field at an offset. -/
def beToCpu32 (header : List UInt8) (offset : ℕ) : UInt32 := .ofNat (field header offset 4)

/-- The header's byte at an offset. -/
def byteAt (header : List UInt8) (offset : ℕ) : UInt8 := .ofNat (field header offset 1)

/-- `RTE_ETHER_TYPE_IPV4`. -/
def etherTypeIpv4 : UInt16 := 0x0800

/-- `IPPROTO_TCP`. -/
def ipprotoTcp : UInt8 := 6

/-- `IPPROTO_UDP`. -/
def ipprotoUdp : UInt8 := 17

section Parse

variable (dpdk : PktmbufRead)

/-- The transport header of `len` bytes at `l4_offset`: its ports are its
first two fields, whether it is TCP's or UDP's. -/
def parsePorts (packet : RteMbuf) (l4Offset len : ℕ) (pktMeta : PktMeta) : Int × PktMeta :=
  match dpdk.read packet l4Offset len with
  | none => (-1, pktMeta)
  | some header =>
    (0, { pktMeta with srcPort := beToCpu16 header 0, dstPort := beToCpu16 header 2 })

/-- The block for IPv4, with what the parser has filled in before it. -/
def parseIpv4 (packet : RteMbuf) (pktMeta : PktMeta) : Int × PktMeta :=
  match dpdk.read packet 14 20 with
  | none => (-1, pktMeta)
  | some ipv4Header =>
    let version := byteAt ipv4Header 0 >>> 4
    let ihlWords := byteAt ipv4Header 0 &&& 0x0F
    if version ≠ 4 ∨ ihlWords < 5 then (-1, pktMeta)
    else
      let pktMeta :=
        { pktMeta with
          l4Proto := byteAt ipv4Header 9
          srcIp := beToCpu32 ipv4Header 12
          dstIp := beToCpu32 ipv4Header 16 }
      -- at most 74: nothing wraps
      let l4Offset := 14 + ihlWords.toNat * 4
      if pktMeta.l4Proto = ipprotoTcp then parsePorts dpdk packet l4Offset 20 pktMeta
      else if pktMeta.l4Proto = ipprotoUdp then parsePorts dpdk packet l4Offset 8 pktMeta
      else (0, pktMeta)

/-- `pktlab_parser_parse`: its return value and what it leaves in `*meta`. -/
def parserParse (packet : RteMbuf) : Int × PktMeta :=
  let packetLength := packet.pktLen
  let pktMeta : PktMeta :=
    { pktLen := if packetLength > 65535 then 65535 else packetLength.toUInt16 }
  match dpdk.read packet 0 14 with
  | none => (-1, pktMeta)
  | some etherHeader =>
    let pktMeta := { pktMeta with etherType := beToCpu16 etherHeader 12 }
    if pktMeta.etherType ≠ etherTypeIpv4 then (0, pktMeta)
    else parseIpv4 dpdk packet pktMeta

end Parse

/-! ### The bytes of a packet -/

theorem PktmbufRead.read_congr (dpdk : PktmbufRead) {packet packet' : RteMbuf}
    (h : packet'.bytes = packet.bytes) (start len : ℕ) :
    dpdk.read packet' start len = dpdk.read packet start len := by
  by_cases hlen : start + len ≤ packet.bytes.length
  · rw [dpdk.read_some hlen, dpdk.read_some (h ▸ hlen), h]
  · rw [dpdk.read_none (Nat.lt_of_not_le hlen), dpdk.read_none (h ▸ Nat.lt_of_not_le hlen)]

/-- **Segments.** The result does not depend on where the bytes are split. -/
theorem parserParse_congr (dpdk : PktmbufRead) {packet packet' : RteMbuf}
    (h : packet'.bytes = packet.bytes) : parserParse dpdk packet' = parserParse dpdk packet := by
  have hlen : packet'.pktLen = packet.pktLen := by rw [RteMbuf.pktLen, RteMbuf.pktLen, h]
  simp only [parserParse, parseIpv4, parsePorts, hlen, dpdk.read_congr h]

/-! ### When a frame parses -/

/-- The EtherType of a frame. -/
def etherTypeOf (b : List UInt8) : ℕ := field b 12 2

/-- The version of its IPv4 header. -/
def versionOf (b : List UInt8) : ℕ := field b 14 1 / 16

/-- The length of its IPv4 header in 32-bit words. -/
def ihlOf (b : List UInt8) : ℕ := field b 14 1 % 16

/-- Its fragment offset. -/
def fragmentOffsetOf (b : List UInt8) : ℕ := field b 20 2 % 2 ^ 13

/-- Its protocol. -/
def protocolOf (b : List UInt8) : ℕ := field b 23 1

/-- Where its IPv4 header ends, the options included. -/
def headerEnd (b : List UInt8) : ℕ := 14 + 4 * ihlOf b

/-- The bytes the parser asks for behind the IPv4 header. -/
def transportLength (b : List UInt8) : ℕ :=
  if protocolOf b = 6 then 20 else if protocolOf b = 17 then 8 else 0

/-- **An IPv4 frame that parses.** The fixed header is there, and behind the
options what the parser asks for. -/
structure ParsesIpv4 (b : List UInt8) : Prop where
  fixed : 34 ≤ b.length
  version : versionOf b = 4
  ihl : 5 ≤ ihlOf b
  transport : transportLength b ≠ 0 → headerEnd b + transportLength b ≤ b.length

/-- A frame that parses. -/
def Parses (b : List UInt8) : Prop :=
  14 ≤ b.length ∧ (etherTypeOf b = 0x0800 → ParsesIpv4 b)

/-- What the parser makes of it. -/
def pktMetaOf (b : List UInt8) : PktMeta :=
  let ether : PktMeta := { etherType := .ofNat (etherTypeOf b), pktLen := .ofNat (min b.length 65535) }
  if etherTypeOf b ≠ 0x0800 then ether
  else
    let ipv4 :=
      { ether with
        l4Proto := .ofNat (protocolOf b)
        srcIp := .ofNat (field b 26 4)
        dstIp := .ofNat (field b 30 4) }
    if transportLength b = 0 then ipv4
    else
      { ipv4 with
        srcPort := .ofNat (field b (headerEnd b) 2)
        dstPort := .ofNat (field b (headerEnd b + 2) 2) }

theorem ofNat_shiftRight_four {n : ℕ} (h : n < 2 ^ 8) : UInt8.ofNat n >>> 4 = .ofNat (n / 16) := by
  have h4 : (4 : UInt8).toNat = 4 := rfl
  have h16 : 2 ^ (4 % 8) = 16 := rfl
  rw [← UInt8.toNat_inj, UInt8.toNat_shiftRight, UInt8.toNat_ofNat', UInt8.toNat_ofNat', h4,
    Nat.shiftRight_eq_div_pow, h16]
  omega

theorem toNat_ofNat_and_fifteen (n : ℕ) :
    (UInt8.ofNat n &&& 0x0F).toNat = n % 16 := by
  have h15 : (0x0F : UInt8).toNat = 2 ^ 4 - 1 := rfl
  rw [UInt8.toNat_and, UInt8.toNat_ofNat', h15, Nat.and_two_pow_sub_one_eq_mod]
  omega

theorem ofNat_inj_of_lt {m n : ℕ} (hm : m < 2 ^ 8) (hn : n < 2 ^ 8) :
    UInt8.ofNat m = UInt8.ofNat n ↔ m = n := by
  rw [← UInt8.toNat_inj, UInt8.toNat_ofNat', UInt8.toNat_ofNat', Nat.mod_eq_of_lt hm,
    Nat.mod_eq_of_lt hn]

section Spec

variable (dpdk : PktmbufRead) {packet : RteMbuf}

theorem parsePorts_some {l4Offset len : ℕ} (pktMeta : PktMeta) (hlen : 4 ≤ len)
    (h : l4Offset + len ≤ packet.bytes.length) :
    parsePorts dpdk packet l4Offset len pktMeta =
      (0, { pktMeta with
        srcPort := .ofNat (field packet.bytes l4Offset 2)
        dstPort := .ofNat (field packet.bytes (l4Offset + 2) 2) }) := by
  rw [parsePorts, dpdk.read_some h]
  simp only [beToCpu16]
  rw [field_window (by omega), field_window (by omega), Nat.add_zero]

theorem parsePorts_none {l4Offset len : ℕ} (pktMeta : PktMeta)
    (h : packet.bytes.length < l4Offset + len) :
    parsePorts dpdk packet l4Offset len pktMeta = (-1, pktMeta) := by
  rw [parsePorts, dpdk.read_none h]

/-- The version and the header length, as the parser tests them. -/
theorem version_ihl_iff (b : List UInt8) :
    (byteAt (window b 14 20) 0 >>> 4 ≠ 4 ∨ byteAt (window b 14 20) 0 &&& 0x0F < 5) ↔
      ¬(versionOf b = 4 ∧ 5 ≤ ihlOf b) := by
  have hlt := field_lt b 14 1
  have hbyte : byteAt (window b 14 20) 0 = .ofNat (field b 14 1) := by
    rw [byteAt, field_window (by omega), Nat.add_zero]
  have hversion : (UInt8.ofNat (field b 14 1) >>> 4 = 4) ↔ versionOf b = 4 := by
    rw [ofNat_shiftRight_four hlt]
    exact ofNat_inj_of_lt (n := 4) (by omega) (by omega)
  have hihl : (UInt8.ofNat (field b 14 1) &&& 0x0F < 5) ↔ ihlOf b < 5 := by
    rw [UInt8.lt_iff_toNat_lt, toNat_ofNat_and_fifteen]
    exact Iff.rfl
  rw [hbyte, ne_eq, hversion, hihl]
  omega

/-- The protocol, as the parser tests it. -/
theorem protocol_iff (b : List UInt8) {n : ℕ} (hn : n < 2 ^ 8) :
    byteAt (window b 14 20) 9 = .ofNat n ↔ protocolOf b = n := by
  rw [byteAt, field_window (by omega)]
  exact ofNat_inj_of_lt (field_lt b 23 1) hn

theorem l4Offset_eq (b : List UInt8) :
    14 + (byteAt (window b 14 20) 0 &&& 0x0F).toNat * 4 = headerEnd b := by
  rw [byteAt, field_window (by omega), toNat_ofNat_and_fifteen, Nat.mul_comm]
  rfl

/-- The block for IPv4, in terms of the frame's fields. -/
theorem parseIpv4_eq (pktMeta : PktMeta) (hfixed : 34 ≤ packet.bytes.length)
    (hversion : versionOf packet.bytes = 4) (hihl : 5 ≤ ihlOf packet.bytes) :
    parseIpv4 dpdk packet pktMeta =
      let ipv4 :=
        { pktMeta with
          l4Proto := .ofNat (protocolOf packet.bytes)
          srcIp := .ofNat (field packet.bytes 26 4)
          dstIp := .ofNat (field packet.bytes 30 4) }
      if transportLength packet.bytes = 0 then (0, ipv4)
      else parsePorts dpdk packet (headerEnd packet.bytes) (transportLength packet.bytes) ipv4 := by
  have hok : ¬(byteAt (window packet.bytes 14 20) 0 >>> 4 ≠ 4 ∨
      byteAt (window packet.bytes 14 20) 0 &&& 0x0F < 5) := by
    rw [version_ihl_iff]
    exact fun h => h ⟨hversion, hihl⟩
  have htcp : byteAt (window packet.bytes 14 20) 9 = ipprotoTcp ↔ protocolOf packet.bytes = 6 :=
    protocol_iff _ (n := 6) (by omega)
  have hudp : byteAt (window packet.bytes 14 20) 9 = ipprotoUdp ↔ protocolOf packet.bytes = 17 :=
    protocol_iff _ (n := 17) (by omega)
  have hproto : byteAt (window packet.bytes 14 20) 9 = .ofNat (protocolOf packet.bytes) := by
    rw [byteAt, field_window (by omega)]
    rfl
  rw [parseIpv4, dpdk.read_some hfixed]
  simp only [hok, ↓reduceIte, htcp, hudp, l4Offset_eq]
  simp only [hproto, beToCpu32]
  rw [field_window (by omega), field_window (by omega)]
  unfold transportLength
  by_cases h6 : protocolOf packet.bytes = 6
  · simp [h6]
  · by_cases h17 : protocolOf packet.bytes = 17
    · simp [h17]
    · simp [h6, h17]

/-- A frame without a full fixed header, or of another version, or with a
header that is too short for itself, is refused. -/
theorem parseIpv4_refused (pktMeta : PktMeta)
    (h : ¬(34 ≤ packet.bytes.length ∧ versionOf packet.bytes = 4 ∧ 5 ≤ ihlOf packet.bytes)) :
    parseIpv4 dpdk packet pktMeta = (-1, pktMeta) := by
  by_cases hfixed : 34 ≤ packet.bytes.length
  · have hbad := (version_ihl_iff packet.bytes).mpr fun hv => h ⟨hfixed, hv⟩
    rw [parseIpv4, dpdk.read_some hfixed]
    simp only [hbad, ↓reduceIte]
  · rw [parseIpv4, dpdk.read_none (by omega)]

theorem pktLen_eq (packet : RteMbuf) :
    (if packet.pktLen > 65535 then 65535 else packet.pktLen.toUInt16) =
      UInt16.ofNat (min packet.bytes.length 65535) := by
  have hnat : packet.pktLen.toNat = packet.bytes.length := by
    rw [RteMbuf.pktLen, UInt32.toNat_ofNat']
    exact Nat.mod_eq_of_lt packet.length_lt
  by_cases h : packet.pktLen > 65535
  · have hlt : 65535 < packet.bytes.length := hnat ▸ UInt32.lt_iff_toNat_lt.mp h
    rw [if_pos h, min_eq_right hlt.le]
    rfl
  · have hle : packet.bytes.length ≤ 65535 := by
      rw [gt_iff_lt, UInt32.lt_iff_toNat_lt, hnat] at h
      exact Nat.le_of_not_lt h
    rw [if_neg h, min_eq_left hle, ← UInt16.toNat_inj, UInt32.toNat_toUInt16, hnat,
      UInt16.toNat_ofNat']

/-- The parser, in terms of the frame's fields. -/
theorem parserParse_eq (h : 14 ≤ packet.bytes.length) :
    parserParse dpdk packet =
      let ether : PktMeta :=
        { etherType := .ofNat (etherTypeOf packet.bytes)
          pktLen := .ofNat (min packet.bytes.length 65535) }
      if etherTypeOf packet.bytes ≠ 0x0800 then (0, ether) else parseIpv4 dpdk packet ether := by
  have htype : beToCpu16 (window packet.bytes 0 14) 12 = .ofNat (etherTypeOf packet.bytes) := by
    rw [beToCpu16, field_window (by omega), Nat.zero_add]
    rfl
  have hipv4 : UInt16.ofNat (etherTypeOf packet.bytes) = etherTypeIpv4 ↔
      etherTypeOf packet.bytes = 0x0800 := by
    have hlt : etherTypeOf packet.bytes < 2 ^ 16 := field_lt packet.bytes 12 2
    rw [← UInt16.toNat_inj, UInt16.toNat_ofNat', Nat.mod_eq_of_lt hlt]
    exact Iff.rfl
  rw [parserParse, dpdk.read_some (by omega)]
  simp only [pktLen_eq, htype, ne_eq, hipv4]

theorem parserParse_short (h : packet.bytes.length < 14) : (parserParse dpdk packet).1 = -1 := by
  rw [parserParse, dpdk.read_none (by omega)]

/-- **A frame that parses** is described as its fields say. -/
theorem parserParse_of_parses (h : Parses packet.bytes) :
    parserParse dpdk packet = (0, pktMetaOf packet.bytes) := by
  rw [parserParse_eq dpdk h.1, pktMetaOf]
  by_cases htype : etherTypeOf packet.bytes = 0x0800
  · obtain ⟨hfixed, hversion, hihl, htransport⟩ := h.2 htype
    simp only [htype, ne_eq, not_true_eq_false, ↓reduceIte,
      parseIpv4_eq dpdk _ hfixed hversion hihl]
    by_cases h0 : transportLength packet.bytes = 0
    · simp only [h0, ↓reduceIte]
    · have hlen : 4 ≤ transportLength packet.bytes := by
        unfold transportLength at h0 ⊢
        split_ifs at h0 ⊢ <;> omega
      simp only [h0, ↓reduceIte, parsePorts_some dpdk _ hlen (htransport h0)]
  · simp only [htype, ne_eq, not_false_eq_true, ↓reduceIte]

/-- **Any other frame** is refused. -/
theorem parserParse_of_not_parses (h : ¬Parses packet.bytes) : (parserParse dpdk packet).1 = -1 := by
  by_cases hlen : 14 ≤ packet.bytes.length
  · have htype : etherTypeOf packet.bytes = 0x0800 := by
      by_contra hne
      exact h ⟨hlen, fun heq => absurd heq hne⟩
    have hbad : ¬ParsesIpv4 packet.bytes := fun hp => h ⟨hlen, fun _ => hp⟩
    rw [parserParse_eq dpdk hlen]
    simp only [htype, ne_eq, not_true_eq_false, ↓reduceIte]
    by_cases hipv4 :
        34 ≤ packet.bytes.length ∧ versionOf packet.bytes = 4 ∧ 5 ≤ ihlOf packet.bytes
    · obtain ⟨hfixed, hversion, hihl⟩ := hipv4
      have h0 : transportLength packet.bytes ≠ 0 := fun h0 =>
        hbad ⟨hfixed, hversion, hihl, fun hne => absurd h0 hne⟩
      have hshort : packet.bytes.length < headerEnd packet.bytes + transportLength packet.bytes := by
        by_contra hle
        exact hbad ⟨hfixed, hversion, hihl, fun _ => by omega⟩
      rw [parseIpv4_eq dpdk _ hfixed hversion hihl]
      simp only [h0, ↓reduceIte, parsePorts_none dpdk _ hshort]
    · rw [parseIpv4_refused dpdk _ hipv4]
  · exact parserParse_short dpdk (by omega)

/-- **The return value** is 0 exactly for the frames that parse. -/
theorem parserParse_status : (parserParse dpdk packet).1 = 0 ↔ Parses packet.bytes := by
  by_cases h : Parses packet.bytes
  · simp [parserParse_of_parses dpdk h, h]
  · simp [parserParse_of_not_parses dpdk h, h]

end Spec

end Dpdkd
end Pktlab
