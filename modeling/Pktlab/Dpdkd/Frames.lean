/-
# A frame builder and the parser

`Ipv4Frame.build` writes an Ethernet frame with an IPv4 header of any length,
any option bytes and any values in the fields the parser does not look at,
the fragment offset zero, and behind it a complete TCP or UDP header when the
protocol is one of these; `OtherFrame.build` writes a frame of another
EtherType. The parser undoes both, whatever the segments
(`parserParse_inverts`).

Each field is read back at the length of what the builder wrote before it.

Key definitions: `Ipv4Frame`, `Ipv4Frame.build`, `OtherFrame`.
Key theorems: `Ipv4Frame.parses_build`, `Ipv4Frame.pktMetaOf_build`,
`parserParse_inverts`.
-/
import Pktlab.Dpdkd.Parser

namespace Pktlab
namespace Dpdkd

open Wire Octets

/-- An IPv4 frame with fragment offset zero. `options` are the 32-bit words
between the fixed header and its end; the ports and what follows them in the
transport header are written for TCP and UDP only. -/
structure Ipv4Frame where
  dstMac : Vector UInt8 6
  srcMac : Vector UInt8 6
  typeOfService : UInt8
  totalLength : UInt16
  packetId : UInt16
  flags : Fin 8
  timeToLive : UInt8
  nextProtoId : UInt8
  hdrChecksum : UInt16
  srcAddr : UInt32
  dstAddr : UInt32
  options : List (Vector UInt8 4)
  options_le : options.length ≤ 10
  srcPort : UInt16
  dstPort : UInt16
  tcpRest : Vector UInt8 16
  udpRest : Vector UInt8 4
  payload : List UInt8

namespace Ipv4Frame

variable (f : Ipv4Frame)

/-- The Ethernet header. -/
def etherHeader : List UInt8 := f.dstMac.toList ++ f.srcMac.toList ++ be16 0x0800

/-- The fixed part of the IPv4 header. -/
def ipv4Header : List UInt8 :=
  [.ofNat (4 * 16 + (5 + f.options.length)), f.typeOfService] ++ be16 f.totalLength.toNat ++
    be16 f.packetId.toNat ++ [.ofNat (f.flags * 2 ^ 5), 0] ++ [f.timeToLive, f.nextProtoId] ++
    be16 f.hdrChecksum.toNat ++ be32 f.srcAddr.toNat ++ be32 f.dstAddr.toNat

/-- The options. -/
def optionBytes : List UInt8 := f.options.flatMap Vector.toList

/-- The transport header. -/
def transportHeader : List UInt8 :=
  if f.nextProtoId = ipprotoTcp then
    be16 f.srcPort.toNat ++ be16 f.dstPort.toNat ++ f.tcpRest.toList
  else if f.nextProtoId = ipprotoUdp then
    be16 f.srcPort.toNat ++ be16 f.dstPort.toNat ++ f.udpRest.toList
  else []

/-- The frame's bytes. -/
def build : List UInt8 :=
  f.etherHeader ++ (f.ipv4Header ++ (f.optionBytes ++ (f.transportHeader ++ f.payload)))

/-- What the parser is to make of it. -/
def pktMeta : PktMeta where
  etherType := 0x0800
  l4Proto := f.nextProtoId
  srcIp := f.srcAddr
  dstIp := f.dstAddr
  srcPort := if f.nextProtoId = ipprotoTcp ∨ f.nextProtoId = ipprotoUdp then f.srcPort else 0
  dstPort := if f.nextProtoId = ipprotoTcp ∨ f.nextProtoId = ipprotoUdp then f.dstPort else 0
  pktLen := .ofNat (min f.build.length 65535)

/-! ### Its fields -/

@[simp] theorem length_etherHeader : f.etherHeader.length = 14 := by
  simp [etherHeader]

@[simp] theorem length_ipv4Header : f.ipv4Header.length = 20 := rfl

@[simp] theorem length_optionBytes : f.optionBytes.length = 4 * f.options.length := by
  rw [optionBytes, List.length_flatMap]
  induction f.options with
  | nil => rfl
  | cons word words ih =>
    rw [List.map_cons, List.sum_cons, ih, Vector.length_toList, List.length_cons]
    omega

/-- The IPv4 header is where the parser reads it. -/
theorem window_ipv4Header : window f.build 14 20 = f.ipv4Header := by
  have h := window_append f.etherHeader f.ipv4Header
    (f.optionBytes ++ (f.transportHeader ++ f.payload))
  rwa [length_etherHeader, length_ipv4Header] at h

theorem field_ipv4Header (start len : ℕ) (h : start + len ≤ 20) :
    field f.build (14 + start) len = field f.ipv4Header start len := by
  rw [← field_window h, window_ipv4Header]

theorem etherTypeOf_build : etherTypeOf f.build = 0x0800 := by
  have h := field_append (f.dstMac.toList ++ f.srcMac.toList) (be16 0x0800)
    (f.ipv4Header ++ (f.optionBytes ++ (f.transportHeader ++ f.payload)))
  rw [← List.append_assoc, List.length_append, Vector.length_toList, Vector.length_toList] at h
  exact h.trans (ofBe_be16 (by omega))

/-- Four in the upper half of the byte, the header length in the lower. -/
theorem versionIhl_build : field f.build 14 1 = 4 * 16 + (5 + f.options.length) := by
  have hle := f.options_le
  calc field f.build 14 1 = field f.ipv4Header 0 1 := f.field_ipv4Header 0 1 (by omega)
    _ = (UInt8.ofNat (4 * 16 + (5 + f.options.length))).toNat := ofBe_singleton _
    _ = _ := by
      rw [UInt8.toNat_ofNat']
      omega

theorem versionOf_build : versionOf f.build = 4 := by
  have hle := f.options_le
  rw [versionOf, versionIhl_build]
  omega

theorem ihlOf_build : ihlOf f.build = 5 + f.options.length := by
  have hle := f.options_le
  rw [ihlOf, versionIhl_build]
  omega

theorem protocolOf_build : protocolOf f.build = f.nextProtoId.toNat :=
  (f.field_ipv4Header 9 1 (by omega)).trans (ofBe_singleton _)

theorem srcAddr_build : field f.build 26 4 = f.srcAddr.toNat :=
  (f.field_ipv4Header 12 4 (by omega)).trans (ofBe_be32 f.srcAddr.toNat_lt)

theorem dstAddr_build : field f.build 30 4 = f.dstAddr.toNat :=
  (f.field_ipv4Header 16 4 (by omega)).trans (ofBe_be32 f.dstAddr.toNat_lt)

theorem nextProtoId_eq_iff {n : UInt8} : f.nextProtoId = n ↔ protocolOf f.build = n.toNat := by
  rw [protocolOf_build, UInt8.toNat_inj]

/-! ### Its transport header -/

/-- What stands before the transport header. -/
theorem length_before_transport :
    (f.etherHeader ++ f.ipv4Header ++ f.optionBytes).length = headerEnd f.build := by
  simp only [List.length_append, length_etherHeader, length_ipv4Header, length_optionBytes, headerEnd,
    ihlOf_build]
  omega

theorem build_eq :
    f.build = f.etherHeader ++ f.ipv4Header ++ f.optionBytes ++ (f.transportHeader ++ f.payload) := by
  simp only [build, List.append_assoc]

theorem length_transportHeader : f.transportHeader.length = transportLength f.build := by
  have htcp : f.nextProtoId = ipprotoTcp ↔ protocolOf f.build = 6 := f.nextProtoId_eq_iff
  have hudp : f.nextProtoId = ipprotoUdp ↔ protocolOf f.build = 17 := f.nextProtoId_eq_iff
  unfold transportHeader transportLength
  simp only [htcp, hudp]
  split_ifs <;> simp

theorem length_build :
    f.build.length = headerEnd f.build + transportLength f.build + f.payload.length := by
  rw [← length_before_transport, ← length_transportHeader]
  conv => lhs; rw [build_eq]
  simp only [List.length_append]
  omega

/-- A transport header begins with the ports. -/
theorem transportHeader_ports (h : transportLength f.build ≠ 0) :
    ∃ rest, f.transportHeader = be16 f.srcPort.toNat ++ (be16 f.dstPort.toNat ++ rest) := by
  have htcp : f.nextProtoId = ipprotoTcp ↔ protocolOf f.build = 6 := f.nextProtoId_eq_iff
  have hudp : f.nextProtoId = ipprotoUdp ↔ protocolOf f.build = 17 := f.nextProtoId_eq_iff
  unfold transportHeader
  unfold transportLength at h
  simp only [htcp, hudp]
  split_ifs at h ⊢ with h6 h17
  · exact ⟨f.tcpRest.toList, List.append_assoc _ _ _⟩
  · exact ⟨f.udpRest.toList, List.append_assoc _ _ _⟩
  · exact absurd rfl h

/-- The ports are the first fields behind the options. -/
theorem ports_build (h : transportLength f.build ≠ 0) :
    field f.build (headerEnd f.build) 2 = f.srcPort.toNat ∧
    field f.build (headerEnd f.build + 2) 2 = f.dstPort.toNat := by
  obtain ⟨rest, hports⟩ := f.transportHeader_ports h
  generalize hpre : f.etherHeader ++ f.ipv4Header ++ f.optionBytes = pre
  have hlen : pre.length = headerEnd f.build := hpre ▸ f.length_before_transport
  have hsrc : f.build = pre ++ (be16 f.srcPort.toNat ++
      (be16 f.dstPort.toNat ++ (rest ++ f.payload))) := by
    rw [build_eq, hpre, hports]
    simp only [List.append_assoc]
  have hdst : f.build = pre ++ be16 f.srcPort.toNat ++
      (be16 f.dstPort.toNat ++ (rest ++ f.payload)) := by
    rw [List.append_assoc]
    exact hsrc
  have h1 := field_append pre (be16 f.srcPort.toNat) (be16 f.dstPort.toNat ++ (rest ++ f.payload))
  have h2 := field_append (pre ++ be16 f.srcPort.toNat) (be16 f.dstPort.toNat) (rest ++ f.payload)
  rw [← hsrc, hlen] at h1
  rw [← hdst, List.length_append, hlen] at h2
  exact ⟨h1.trans (ofBe_be16 f.srcPort.toNat_lt), h2.trans (ofBe_be16 f.dstPort.toNat_lt)⟩

/-! ### The parser undoes the builder -/

theorem parses_build : Parses f.build := by
  have hihl := f.ihlOf_build
  have hlen := f.length_build
  have hend : headerEnd f.build = 14 + 4 * ihlOf f.build := rfl
  exact ⟨by omega, fun _ => ⟨by omega, f.versionOf_build, by omega, fun _ => by omega⟩⟩

theorem pktMetaOf_build : pktMetaOf f.build = f.pktMeta := by
  have htcp : f.nextProtoId = ipprotoTcp ↔ protocolOf f.build = 6 := f.nextProtoId_eq_iff
  have hudp : f.nextProtoId = ipprotoUdp ↔ protocolOf f.build = 17 := f.nextProtoId_eq_iff
  have hproto : UInt8.ofNat (protocolOf f.build) = f.nextProtoId := by
    rw [protocolOf_build, UInt8.ofNat_toNat]
  have hports : f.nextProtoId = ipprotoTcp ∨ f.nextProtoId = ipprotoUdp ↔
      transportLength f.build ≠ 0 := by
    unfold transportLength
    rw [htcp, hudp]
    split_ifs with h6 h17 <;> simp_all
  rw [pktMetaOf, pktMeta]
  simp only [hports, etherTypeOf_build, srcAddr_build, dstAddr_build, hproto, UInt32.ofNat_toNat]
  by_cases h0 : transportLength f.build = 0
  · simp [h0]
  · obtain ⟨hsrc, hdst⟩ := f.ports_build h0
    simp [h0, hsrc, hdst]

end Ipv4Frame

/-- A frame of another EtherType. -/
structure OtherFrame where
  dstMac : Vector UInt8 6
  srcMac : Vector UInt8 6
  etherType : UInt16
  etherType_ne : etherType ≠ etherTypeIpv4
  payload : List UInt8

namespace OtherFrame

variable (f : OtherFrame)

/-- The frame's bytes. -/
def build : List UInt8 :=
  f.dstMac.toList ++ f.srcMac.toList ++ (be16 f.etherType.toNat ++ f.payload)

/-- What the parser is to make of it. -/
def pktMeta : PktMeta where
  etherType := f.etherType
  pktLen := .ofNat (min f.build.length 65535)

theorem etherTypeOf_build : etherTypeOf f.build = f.etherType.toNat := by
  have h := field_append (f.dstMac.toList ++ f.srcMac.toList) (be16 f.etherType.toNat) f.payload
  rw [List.length_append, Vector.length_toList, Vector.length_toList] at h
  exact h.trans (ofBe_be16 f.etherType.toNat_lt)

theorem etherTypeOf_build_ne : etherTypeOf f.build ≠ 0x0800 := by
  rw [etherTypeOf_build]
  exact fun h => f.etherType_ne (UInt16.toNat_inj.mp h)

theorem parses_build : Parses f.build := by
  refine ⟨?_, fun h => absurd h f.etherTypeOf_build_ne⟩
  simp only [build, List.length_append, Vector.length_toList, be16_length]
  omega

theorem pktMetaOf_build : pktMetaOf f.build = f.pktMeta := by
  have hne := f.etherTypeOf_build_ne
  rw [pktMetaOf]
  simp only [hne, ne_eq, not_false_eq_true, ↓reduceIte]
  rw [etherTypeOf_build, UInt16.ofNat_toNat]
  rfl

end OtherFrame

/-- **The parser inverts the builder.** A built IPv4 frame is described by
what it was built from, a frame of another EtherType by its type and length
only, and how the bytes are split into segments makes no difference. -/
theorem parserParse_inverts (dpdk : PktmbufRead) (packet : RteMbuf) :
    (∀ f : Ipv4Frame, packet.bytes = f.build → parserParse dpdk packet = (0, f.pktMeta)) ∧
    (∀ f : OtherFrame, packet.bytes = f.build → parserParse dpdk packet = (0, f.pktMeta)) ∧
    ∀ packet' : RteMbuf, packet'.bytes = packet.bytes →
      parserParse dpdk packet' = parserParse dpdk packet := by
  refine ⟨fun f h => ?_, fun f h => ?_, fun packet' h => parserParse_congr dpdk h⟩
  · rw [parserParse_of_parses dpdk (h ▸ f.parses_build), h, f.pktMetaOf_build]
  · rw [parserParse_of_parses dpdk (h ▸ f.parses_build), h, f.pktMetaOf_build]

/-- A UDP datagram with one word of options. -/
def sampleFrame : Ipv4Frame where
  dstMac := #v[2, 0, 0, 0, 0, 2]
  srcMac := #v[2, 0, 0, 0, 0, 1]
  typeOfService := 0
  totalLength := 36
  packetId := 7
  flags := 2
  timeToLive := 64
  nextProtoId := 17
  hdrChecksum := 0x1234
  srcAddr := 0x0A000001
  dstAddr := 0x0A000102
  options := [#v[1, 1, 1, 0]]
  options_le := by decide
  srcPort := 5000
  dstPort := 53
  tcpRest := .replicate 16 0
  udpRest := #v[0, 12, 0, 0]
  payload := [1, 2, 3, 4]

/-- It arrives cut in the middle of its IPv4 header. -/
def samplePacket : RteMbuf where
  segments := [sampleFrame.build.take 20, sampleFrame.build.drop 20]
  length_lt := by decide

theorem parserParse_inverts_sample :
    samplePacket.bytes = sampleFrame.build ∧
    parserParse contiguousRead samplePacket =
      (0, { etherType := 0x0800, l4Proto := 17, srcIp := 0x0A000001, dstIp := 0x0A000102,
            srcPort := 5000, dstPort := 53, pktLen := 50 }) := by
  have h : samplePacket.bytes = sampleFrame.build := by decide
  exact ⟨h, ((parserParse_inverts contiguousRead samplePacket).1 sampleFrame h).trans rfl⟩

end Dpdkd
end Pktlab
