/-
# What the daemon answers

Every frame the daemon sends is built from literal text, numbers and strings
that it stores: the request identifier, the port names, messages. The escaper
reproduces a stored string in JSON exactly when it holds no control character
but tab, line feed and carriage return (`Clean`); any other byte below `0x20`
goes into the frame as it is.

`Rendered` collects what a builder's text is: short enough, valid UTF-8, a
spelling of the stored value when the strings are clean, and with every
unescaped control byte of them in it. `response_strict_iff` puts them together
over every run of the daemon.

Key definitions: `Clean`, `Rendered`, `answer`, `Faithful`.
Key theorems: `escapeText_decodes`, `payload_rendered`,
`response_strict_iff`.
-/
import Pktlab.Dpdkd.Dispatch
import Pktlab.Lib.Json

namespace Pktlab
namespace Dpdkd

open Utf8 Rfc8259 Decimal JsonProto

/-- No byte below `0x20` but tab, line feed and carriage return. -/
def Clean (b : List UInt8) : Prop := ∀ c ∈ b, Bare c

theorem clean_plain {b : List UInt8} (h : ∀ c ∈ b, isPlain c = true) : Clean b := fun c hc => by
  have hplain := h c hc
  simp only [isPlain, Bool.and_eq_true, decide_eq_true_eq] at hplain
  exact Or.inl hplain.1.1

/-! ### The escaper -/

theorem replacement_decodes {ch : UInt8} {r : List UInt8} (h : replacement ch = some r) :
    ∃ e, r = [ascii '\\', e] ∧ unescape e = some ch := by
  unfold replacement at h
  split_ifs at h with h1 h2 h3 h4 h5
  · exact ⟨ascii '\\', (Option.some.inj h).symm, by rw [h1]; decide⟩
  · exact ⟨ascii '"', (Option.some.inj h).symm, by rw [h2]; decide⟩
  · exact ⟨ascii 'n', (Option.some.inj h).symm, by rw [h3]; decide⟩
  · exact ⟨ascii 'r', (Option.some.inj h).symm, by rw [h4]; decide⟩
  · exact ⟨ascii 't', (Option.some.inj h).symm, by rw [h5]; decide⟩

theorem replacement_none {ch : UInt8} (h : replacement ch = none) (hb : Bare ch) : isPlain ch = true := by
  unfold replacement at h
  split_ifs at h with h1 h2 h3 h4 h5
  rcases hb with hb | hb
  · simp [isPlain, hb, h1, h2]
  · simp only [isWs, Bool.or_eq_true, decide_eq_true_eq] at hb
    rcases hb with ((rfl | hb) | hb) | hb
    · decide
    · exact absurd hb h3
    · exact absurd hb h4
    · exact absurd hb h5

/-- What the escaper writes for a clean string decodes to it. -/
theorem escapeText_decodes : ∀ {b : List UInt8}, Clean b → Decodes (escapeText b) b
  | [], _ => .nil
  | ch :: b, h => by
    obtain ⟨hch, hb⟩ := List.forall_mem_cons.mp h
    have ih := escapeText_decodes hb
    show Decodes ((replacement ch).getD [ch] ++ escapeText b) (ch :: b)
    cases hr : replacement ch with
    | none => exact .plain (replacement_none hr hch) ih
    | some r =>
      obtain ⟨e, rfl, he⟩ := replacement_decodes hr
      exact .esc he ih

/-- A control byte that is not whitespace stays in the text. -/
theorem mem_escapeText {b : List UInt8} {c : UInt8} (hc : c ∈ b) (hbare : ¬ Bare c) : c ∈ escapeText b := by
  have hnone : replacement c = none := by
    unfold replacement
    split_ifs with h1 h2 h3 h4 h5
    all_goals first
      | rfl
      | exact absurd (by rw [‹c = _›]; first | exact Or.inl (by decide) | exact Or.inr (by decide)) hbare
  exact List.mem_flatMap.mpr ⟨c, hc, by rw [hnone]; exact List.mem_singleton_self c⟩

theorem escapeText_utf8 {b : List UInt8} (h : IsUtf8 b) : IsUtf8 (escapeText b) := by
  obtain ⟨cs, rfl⟩ := h
  have hassoc : escapeText (cs.flatMap String.utf8EncodeChar) =
      cs.flatMap fun c => escapeText (String.utf8EncodeChar c) := by
    simp only [escapeText, List.flatMap_assoc]
  rw [hassoc]
  refine IsUtf8.flatMap fun c _ => ?_
  by_cases hc : c.val.toNat ≤ 0x7f
  · rw [utf8EncodeChar_low hc]
    have hlow : (UInt8.ofNat c.val.toNat).toNat ≤ 0x7f := by
      rw [UInt8.toNat_ofNat']
      omega
    generalize UInt8.ofNat c.val.toNat = ch at hlow
    show IsUtf8 ((replacement ch).getD [ch] ++ [])
    rw [List.append_nil]
    unfold replacement
    split_ifs
    · exact (isUtf8_low (by decide)).append (isUtf8_low (by decide))
    · exact (isUtf8_low (by decide)).append (isUtf8_low (by decide))
    · exact (isUtf8_low (by decide)).append (isUtf8_low (by decide))
    · exact (isUtf8_low (by decide)).append (isUtf8_low (by decide))
    · exact (isUtf8_low (by decide)).append (isUtf8_low (by decide))
    · exact isUtf8_low hlow
  · -- none of the bytes of a longer character is one that the escaper replaces
    have hnone : ∀ ch ∈ String.utf8EncodeChar c, replacement ch = none := by
      intro ch hch
      have hhigh := utf8EncodeChar_high hc ch hch
      have hne : ∀ a : Char, (ascii a).toNat < 0x80 → ch ≠ ascii a := by
        rintro a ha rfl
        omega
      simp [replacement, hne '\\' (by decide), hne '"' (by decide), hne '\n' (by decide),
        hne '\r' (by decide), hne '\t' (by decide)]
    have hid : escapeText (String.utf8EncodeChar c) = String.utf8EncodeChar c := by
      unfold escapeText
      rw [List.flatMap_congr (g := fun ch => [ch]) fun ch hch => by rw [hnone ch hch, Option.getD_none]]
      simp
    rw [hid]
    exact isUtf8_encode c

/-! ### Texts the builders make -/

/-- `text` shows the value `j`, which holds the stored bytes `strings`, in
fewer than `cap` bytes. -/
structure Rendered (cap : ℕ) (j : Json) (strings text : List UInt8) : Prop where
  short : text.length < cap
  isUtf8 : IsUtf8 text
  spells : Clean strings → Spells j text
  control : ∀ c ∈ strings, ¬ Bare c → c ∈ text

/-- A text of a builder is a JSON text of its value exactly when the strings
in it are clean. -/
theorem Rendered.text_iff {cap : ℕ} {j : Json} {strings text : List UInt8} (h : Rendered cap j strings text) :
    (Text text ∧ Spells j text) ↔ Clean strings := by
  refine ⟨fun ⟨ht, _⟩ c hc => ?_, fun hc => ⟨(h.spells hc).text h.isUtf8, h.spells hc⟩⟩
  by_contra hbare
  exact hbare (ht.bare c (h.control c hc hbare))

/-- A member with a fixed name. -/
theorem plain_key (k : String) (h : ∀ c ∈ utf8 k, isPlain c = true) : Decodes (utf8 k) (utf8 k) :=
  decodes_plain h

/-- `\x7b"message": …\x7d`. -/
def ackJson (message : List UInt8) : Json := .obj [(utf8 "message", .str message)]

theorem ack_rendered {message : List UInt8} (hlen : message.length ≤ 127) (hutf : IsUtf8 message) :
    Rendered payloadCap (ackJson message) message (ackText (escapeText message)) where
  short := ack_short hlen
  isUtf8 := ((isUtf8_utf8 _).append (escapeText_utf8 hutf)).append (isUtf8_utf8 _)
  spells := fun hc => by
    have h := Spells.obj (SpellsMembers.compact_one (plain_key "message" (by decide))
      (.str (escapeText_decodes hc)))
    unfold ackText
    simp only [quoted, List.append_assoc, List.cons_append, List.nil_append] at h ⊢
    exact h
  control := fun c hc hb => List.mem_append_left _ (List.mem_append_right _ (mem_escapeText hc hb))

/-- What `pktlab_json_proto_make_version_payload` shows. -/
def versionJson : Json :=
  .obj [(utf8 "service", .str (utf8 "pktlab-dpdkd")), (utf8 "version", .str (utf8 "0.1.0")),
    (utf8 "dpdk_version", .str (utf8 "25.11.0"))]

theorem version_rendered :
    Rendered payloadCap versionJson [] versionText where
  short := version_short
  isUtf8 := by
    unfold versionText
    simp only [← utf8_append]
    exact isUtf8_utf8 _
  spells := fun _ => by
    have h := Spells.obj (.compact_more (plain_key "service" (by decide))
      (.str (plain_key "pktlab-dpdkd" (by decide)))
      (.compact_more (plain_key "version" (by decide)) (.str (plain_key "0.1.0" (by decide)))
        (.compact_one (plain_key "dpdk_version" (by decide)) (.str (plain_key "25.11.0" (by decide))))))
    exact h
  control := fun c hc => by simp at hc

def boolJson (b : Bool) : Json := .lit (boolName b)

theorem bool_spells (b : Bool) : Spells (boolJson b) (boolName b) := by
  cases b with
  | true => exact .lit (by simp [boolName])
  | false => exact .lit (by simp [boolName])

/-- What `pktlab_json_proto_make_health_payload` shows. -/
def healthJson (health : HealthSnapshot) : Json :=
  .obj [(utf8 "health", .obj
    [(utf8 "state", .str (utf8 (dpStateName health.state))), (utf8 "message", .str health.message),
      (utf8 "applied_rule_version", .num (decimal health.appliedRuleVersion.toNat)),
      (utf8 "ports_ready", boolJson health.portsReady), (utf8 "paused", boolJson health.paused)])]

theorem dpStateName_plain (s : DpState) : ∀ c ∈ utf8 (dpStateName s), isPlain c = true := by
  cases s <;> decide

theorem isUtf8_decimal (n : ℕ) : IsUtf8 (decimal n) := IsUtf8.flatMap fun c _ => isUtf8_encode c

theorem isUtf8_boolName (b : Bool) : IsUtf8 (boolName b) := by
  cases b <;> exact isUtf8_utf8 _

theorem health_rendered {health : HealthSnapshot} (hlen : health.message.length ≤ 127)
    (hutf : IsUtf8 health.message) :
    Rendered payloadCap (healthJson health) health.message
      (healthText health (escapeText health.message)) where
  short := health_short hlen
  isUtf8 := by
    simp only [healthText, List.append_assoc]
    repeat' first
      | exact isUtf8_utf8 _
      | exact escapeText_utf8 hutf
      | refine IsUtf8.append ?_ ?_
      | exact isUtf8_decimal _
      | exact isUtf8_boolName _
  spells := fun hc => by
    have h := Spells.obj (.compact_one (plain_key "health" (by decide))
      (.obj (.compact_more (plain_key "state" (by decide))
        (.str (decodes_plain (dpStateName_plain health.state)))
        (.compact_more (plain_key "message" (by decide)) (.str (escapeText_decodes hc))
          (.compact_more (plain_key "applied_rule_version" (by decide))
            (.num (number_decimal health.appliedRuleVersion.toNat))
            (.compact_more (plain_key "ports_ready" (by decide)) (bool_spells health.portsReady)
              (.compact_one (plain_key "paused" (by decide)) (bool_spells health.paused))))))))
    unfold healthText
    simp only [quoted, List.append_assoc, List.cons_append, List.nil_append] at h ⊢
    exact h
  control := fun c hc hb => by
    simp only [healthText, List.mem_append]
    simp only [mem_escapeText hc hb, or_true, true_or]

/-- What `pktlab_json_proto_make_stats_payload` shows. -/
def statsJson (stats : DpStatsSnapshot) : Json :=
  .obj [(utf8 "stats", .obj
    [(utf8 "rx_packets", .num (decimal stats.rxPackets.toNat)),
      (utf8 "tx_packets", .num (decimal stats.txPackets.toNat)),
      (utf8 "drop_packets", .num (decimal stats.dropPackets.toNat)),
      (utf8 "drop_parse_errors", .num (decimal stats.dropParseErrors.toNat)),
      (utf8 "drop_no_match", .num (decimal stats.dropNoMatch.toNat)),
      (utf8 "rx_bursts", .num (decimal stats.rxBursts.toNat)),
      (utf8 "tx_bursts", .num (decimal stats.txBursts.toNat)),
      (utf8 "unsent_packets", .num (decimal stats.unsentPackets.toNat)),
      (utf8 "rule_hits", .obj [])])]

theorem stats_rendered (stats : DpStatsSnapshot) :
    Rendered payloadCap (statsJson stats) [] (statsText stats) where
  short := stats_short stats
  isUtf8 := by
    simp only [statsText, List.append_assoc]
    repeat' first | exact isUtf8_utf8 _ | refine IsUtf8.append ?_ ?_ | exact isUtf8_decimal _
  spells := fun _ => by
    have h := Spells.obj (.compact_one (plain_key "stats" (by decide))
      (.obj (.compact_more (plain_key "rx_packets" (by decide)) (.num (number_decimal stats.rxPackets.toNat))
        (.compact_more (plain_key "tx_packets" (by decide)) (.num (number_decimal stats.txPackets.toNat))
        (.compact_more (plain_key "drop_packets" (by decide)) (.num (number_decimal stats.dropPackets.toNat))
        (.compact_more (plain_key "drop_parse_errors" (by decide))
          (.num (number_decimal stats.dropParseErrors.toNat))
        (.compact_more (plain_key "drop_no_match" (by decide)) (.num (number_decimal stats.dropNoMatch.toNat))
        (.compact_more (plain_key "rx_bursts" (by decide)) (.num (number_decimal stats.rxBursts.toNat))
        (.compact_more (plain_key "tx_bursts" (by decide)) (.num (number_decimal stats.txBursts.toNat))
        (.compact_more (plain_key "unsent_packets" (by decide))
          (.num (number_decimal stats.unsentPackets.toNat))
        (.compact_one (plain_key "rule_hits" (by decide)) (.emptyObj Ws.nil))))))))))))
    unfold statsText
    simp only [quoted, List.append_assoc, List.cons_append, List.nil_append] at h ⊢
    exact h
  control := fun c hc => by simp at hc

/-- What `pktlab_json_proto_make_ports_payload` shows of a port. -/
def portJson (port : PortInfo) : Json :=
  .obj [(utf8 "name", .str port.name.bytes), (utf8 "port_id", .num (decimal port.portId.toNat)),
    (utf8 "role", .str (utf8 (portRoleName port.role))),
    (utf8 "state", .str (utf8 (portStateName port.state)))]

def portsJson (ports : List PortInfo) : Json := .obj [(utf8 "ports", .arr (ports.map portJson))]

theorem portText_spells {port : PortInfo} (hc : Clean port.name.bytes) :
    Spells (portJson port) (portText port) := by
  have hrole : ∀ c ∈ utf8 (portRoleName port.role), isPlain c = true := by cases port.role <;> decide
  have hstate : ∀ c ∈ utf8 (portStateName port.state), isPlain c = true := by cases port.state <;> decide
  have h := Spells.obj (.compact_more (plain_key "name" (by decide)) (.str (escapeText_decodes hc))
    (.compact_more (plain_key "port_id" (by decide)) (.num (number_decimal port.portId.toNat))
      (.compact_more (plain_key "role" (by decide)) (.str (decodes_plain hrole))
        (.compact_one (plain_key "state" (by decide)) (.str (decodes_plain hstate))))))
  unfold portText portItem
  simp only [quoted, List.append_assoc, List.cons_append, List.nil_append, ↓reduceIte] at h ⊢
  exact h

theorem portText_utf8 {port : PortInfo} (hutf : IsUtf8 port.name.bytes) : IsUtf8 (portText port) := by
  unfold portText portItem
  simp only [↓reduceIte, List.nil_append, List.append_assoc]
  repeat' first
    | exact isUtf8_utf8 _
    | exact escapeText_utf8 hutf
    | refine IsUtf8.append ?_ ?_
    | exact isUtf8_decimal _

theorem mem_portText {port : PortInfo} {c : UInt8} (hc : c ∈ port.name.bytes) (hb : ¬ Bare c) :
    c ∈ portText port := by
  unfold portText portItem
  simp only [List.mem_append]
  simp only [mem_escapeText hc hb, or_true, true_or]

theorem ports_rendered {p0 p1 : PortInfo} (h0 : p0.name.bytes.length < nameLen)
    (h1 : p1.name.bytes.length < nameLen) (hu0 : IsUtf8 p0.name.bytes) (hu1 : IsUtf8 p1.name.bytes) :
    Rendered payloadCap (portsJson [p0, p1]) (p0.name.bytes ++ p1.name.bytes) (portsText p0 p1) where
  short := ports_short h0 h1
  isUtf8 := (((isUtf8_utf8 _).append (portText_utf8 hu0)).append
    (IsUtf8.append (isUtf8_low (b := ascii ',') (by decide)) (portText_utf8 hu1))).append (isUtf8_utf8 _)
  spells := fun hc => by
    obtain ⟨hc0, hc1⟩ := List.forall_mem_append.mp hc
    have h := Spells.obj (.compact_one (plain_key "ports" (by decide))
      (.arr (.compact_more (portText_spells hc0) (.compact_one (portText_spells hc1)))))
    unfold portsText
    simp only [quoted, List.append_assoc, List.cons_append, List.nil_append] at h ⊢
    exact h
  control := fun c hc hb => by
    rcases List.mem_append.mp hc with hc | hc
    · have h := mem_portText hc hb
      simp [portsText, h]
    · have h := mem_portText hc hb
      simp [portsText, h]

/-! ### The envelopes -/

/-- What `pktlab_json_proto_make_success` shows. -/
def successJson (id : List UInt8) (payload : Json) : Json :=
  .obj [(utf8 "id", .str id), (utf8 "ok", .lit (utf8 "true")), (utf8 "payload", payload)]

theorem success_rendered {id strings payload : List UInt8} {j : Json} (hlen : id.length ≤ 64)
    (hutf : IsUtf8 id) (hp : Rendered payloadCap j strings payload) :
    Rendered maxFrameSize (successJson id j) (id ++ strings) (successText (escapeText id) payload) where
  short := success_short hlen hp.short
  isUtf8 := ((((isUtf8_utf8 _).append (escapeText_utf8 hutf)).append (isUtf8_utf8 _)).append
    hp.isUtf8).append (isUtf8_utf8 _)
  spells := fun hc => by
    obtain ⟨hid, hs⟩ := List.forall_mem_append.mp hc
    have htrue : Spells (.lit (utf8 "true")) (utf8 "true") := .lit (by simp)
    have h := Spells.obj (.compact_more (plain_key "id" (by decide)) (.str (escapeText_decodes hid))
      (.compact_more (plain_key "ok" (by decide)) htrue
        (.compact_one (plain_key "payload" (by decide)) (hp.spells hs))))
    unfold successText
    simp only [quoted, List.append_assoc, List.cons_append, List.nil_append] at h ⊢
    exact h
  control := fun c hc hb => by
    rcases List.mem_append.mp hc with hc | hc
    · have h := mem_escapeText hc hb
      simp [successText, h]
    · have h := hp.control c hc hb
      simp [successText, h]

/-- What `pktlab_json_proto_make_error` shows. -/
def errorJson (id : List UInt8) (e : DpdkdError) : Json :=
  .obj [(utf8 "id", .str id), (utf8 "ok", .lit (utf8 "false")), (utf8 "error",
    .obj [(utf8 "code", .str (utf8 (errorCodeName e.code))), (utf8 "message", .str (utf8 e.message))])]

theorem error_rendered {id : List UInt8} {e : DpdkdError} (hlen : id.length ≤ 64) (hutf : IsUtf8 id)
    (he : Sayable e.message) : Rendered maxFrameSize (errorJson id e) id (errorResponse id e) where
  short := error_short hlen he
  isUtf8 := by
    unfold errorResponse errorText
    simp only [List.append_assoc]
    repeat' first
      | exact isUtf8_utf8 _
      | exact escapeText_utf8 hutf
      | exact escapeText_utf8 (isUtf8_utf8 _)
      | refine IsUtf8.append ?_ ?_
  spells := fun hc => by
    have hfalse : Spells (.lit (utf8 "false")) (utf8 "false") := .lit (by simp)
    have hcode : ∀ c ∈ utf8 (errorCodeName e.code), isPlain c = true := by cases e.code <;> decide
    have hmsg : Clean (utf8 e.message) := clean_plain he.2.2
    have h := Spells.obj (.compact_more (plain_key "id" (by decide)) (.str (escapeText_decodes hc))
      (.compact_more (plain_key "ok" (by decide)) hfalse
        (.compact_one (plain_key "error" (by decide))
          (.obj (.compact_more (plain_key "code" (by decide)) (.str (decodes_plain hcode))
            (.compact_one (plain_key "message" (by decide)) (.str (escapeText_decodes hmsg))))))))
    unfold errorResponse errorText
    simp only [quoted, List.append_assoc, List.cons_append, List.nil_append] at h ⊢
    exact h
  control := fun c hc hb => by
    have h := mem_escapeText hc hb
    simp [errorResponse, errorText, h]

/-! ### The states of a run -/

variable {n0 n1 : CStr}

/-- The health message is clean when the names are, and only then unless the
datapath is paused. -/
theorem Serving.clean_message {d : Daemon} (h : Serving n0 n1 d) :
    Clean d.health.message ↔ d.health.state = .paused ∨ (Clean n0.bytes ∧ Clean n1.bytes) := by
  obtain ⟨before, after, hm, -, hbefore, hafter⟩ := h.running
  rcases h.health with ⟨hs, hmsg⟩ | ⟨hs, hmsg⟩
  · rw [hmsg]
    exact iff_of_true (clean_plain (by decide)) (Or.inl hs)
  · rw [hmsg, hm]
    have hslash : Clean (utf8 "/") := clean_plain (by decide)
    unfold Clean at hslash ⊢
    simp only [List.forall_mem_append]
    constructor
    · rintro ⟨⟨⟨⟨-, hc0⟩, -⟩, hc1⟩, -⟩
      exact Or.inr ⟨hc0, hc1⟩
    · rintro (hp | ⟨hc0, hc1⟩)
      · exact absurd hp hs
      · exact ⟨⟨⟨⟨clean_plain hbefore, hc0⟩, hslash⟩, hc1⟩, clean_plain hafter⟩

theorem Serving.message_utf8 {d : Daemon} (h : Serving n0 n1 d) (hu0 : IsUtf8 n0.bytes) (hu1 : IsUtf8 n1.bytes) :
    IsUtf8 d.health.message := by
  rcases h.health with ⟨-, hm⟩ | ⟨-, hm⟩
  · rw [hm]
    exact isUtf8_utf8 _
  · obtain ⟨before, after, hr, -⟩ := h.running
    rw [hm, hr]
    exact ((((isUtf8_utf8 _).append hu0).append (isUtf8_utf8 _)).append hu1).append (isUtf8_utf8 _)

/-! ### Answers -/

/-- What the payload of a command shows. -/
def payloadJson (d : Daemon) : Command → Json
  | .getVersion => versionJson
  | .getHealth => healthJson d.health
  | .getPorts => portsJson [d.datapath.ports.ingress, d.datapath.ports.egress]
  | .getStats => statsJson (statsSnapshot d.datapath.stats)
  | c => ackJson (ackOf d c)

/-- The stored strings it holds. -/
def payloadStrings (d : Daemon) : Command → List UInt8
  | .getVersion => []
  | .getHealth => d.health.message
  | .getPorts => d.datapath.ports.ingress.name.bytes ++ d.datapath.ports.egress.name.bytes
  | .getStats => []
  | c => ackOf d c

theorem ack_of_rendered (d : Daemon) (c : Command) :
    Rendered payloadCap (ackJson (ackOf d c)) (ackOf d c) (ackText (escapeText (ackOf d c))) := by
  obtain ⟨s, hs, hlen, -⟩ := ackOf_sayable d c
  rw [hs]
  exact ack_rendered hlen (isUtf8_utf8 s)

theorem ackOf_clean (d : Daemon) (c : Command) : Clean (ackOf d c) := by
  obtain ⟨s, hs, -, hplain⟩ := ackOf_sayable d c
  rw [hs]
  exact clean_plain hplain

/-- The payload of every command shows its value. -/
theorem payload_rendered {d : Daemon} (h : Serving n0 n1 d) (h0 : n0.bytes.length < nameLen)
    (h1 : n1.bytes.length < nameLen) (hu0 : IsUtf8 n0.bytes) (hu1 : IsUtf8 n1.bytes) (c : Command) :
    Rendered payloadCap (payloadJson d c) (payloadStrings d c) (payloadText d c) := by
  cases c with
  | getVersion => exact version_rendered
  | getHealth => exact health_rendered (h.message_length h0 h1) (h.message_utf8 hu0 hu1)
  | getPorts =>
    exact ports_rendered (by rw [h.ingress]; exact h0) (by rw [h.egress]; exact h1)
      (by rw [h.ingress]; exact hu0) (by rw [h.egress]; exact hu1)
  | getStats => exact stats_rendered _
  | ping => exact ack_of_rendered d .ping
  | resetStats => exact ack_of_rendered d .resetStats
  | pauseDatapath => exact ack_of_rendered d .pauseDatapath
  | resumeDatapath => exact ack_of_rendered d .resumeDatapath

/-- The value the response to a frame stands for, with the strings as the
daemon stores them. -/
def answer (d : Daemon) (frame : List UInt8) : Json :=
  match failure d frame, command? (cString (parseRequest frame).1.cmd) with
  | some e, _ => errorJson (storedId frame) e
  | none, some c => successJson (storedId frame) (payloadJson d c)
  | none, none => errorJson (storedId frame) unknownCommand

/-- The response is sent, is a JSON text and stands for the answer. -/
def Faithful (d : Daemon) (frame : List UInt8) : Prop :=
  ∃ r, (handleFrame d frame).2 = some r ∧ Text r ∧ Spells (answer d frame) r

/-- The strings that the response to a frame shows can be shown: they hold no
control byte but tab, line feed and carriage return, and an error response
has an identifier to show. -/
def Showable (n0 n1 : CStr) (d : Daemon) (frame : List UInt8) : Prop :=
  Clean (storedId frame) ∧
    match failure d frame, command? (cString (parseRequest frame).1.cmd) with
    | some _, _ => storedId frame ≠ []
    | none, some .getPorts => Clean n0.bytes ∧ Clean n1.bytes
    | none, some .getHealth => d.health.state = .paused ∨ (Clean n0.bytes ∧ Clean n1.bytes)
    | none, _ => True

/-- An error response to a request without an identifier shows `unknown`,
which is not what is stored. -/
theorem errorResponse_unknown {e : DpdkdError} :
    ¬ Spells (errorJson [] e) (errorResponse (utf8 "unknown") e) := by
  intro h
  have hchars : ∀ {b : List UInt8}, (∀ c ∈ b, isPlain c = true) → ∃ u, Chars b u := fun hb =>
    (decodes_plain hb).chars
  obtain ⟨u, hu⟩ := hchars (b := utf8 "id") (by decide)
  obtain ⟨u', hu'⟩ := hchars (b := utf8 "unknown") (by decide)
  -- the text up to the identifier, and the rest
  have he : errorResponse (utf8 "unknown") e = ascii '{' :: (quoted (utf8 "id") ++ ascii ':' ::
      (quoted (utf8 "unknown") ++ (utf8 ",\"ok\":false,\"error\":\x7b\"code\":\"" ++
        (utf8 (errorCodeName e.code) ++ (utf8 "\",\"message\":\"" ++ (escapeText (utf8 e.message) ++
          utf8 "\"\x7d\x7d")))))) := by
    unfold errorResponse errorText
    simp only [quoted, List.append_assoc, List.cons_append, List.nil_append]
    rfl
  rw [he] at h
  have hd : Decodes (utf8 "unknown") [] := Spells.first_string hu hu' h
  cases hd

/-- **Responses.** Over every run of a daemon whose port names were accepted,
the response to a frame is a JSON text that stands for what the daemon stores
exactly when the strings in it can be shown. -/
theorem response_strict_iff {config : DatapathConfig} {init : DatapathInit}
    (hinit : datapathInit config = .ok init) (env : StartEnv) {events : List Event} {d : Daemon}
    (hrun : Run.run daemonStep (start env init) events = some d)
    (hu0 : IsUtf8 config.ingressPortName.bytes) (hu1 : IsUtf8 config.egressPortName.bytes)
    (frame : List UInt8) (hid : IsUtf8 (storedId frame)) :
    Faithful d frame ↔ Showable config.ingressPortName config.egressPortName d frame := by
  obtain ⟨h0, h1, -, -⟩ := names_of_datapathInit hinit
  have hd := run_serving hinit env hrun
  unfold Faithful Showable answer
  cases hf : failure d frame with
  | some e =>
    simp only
    rw [handleFrame_failure hd h0 h1 hf]
    by_cases hempty : storedId frame = []
    · rw [hempty]
      refine iff_of_false ?_ fun h => h.2 rfl
      rintro ⟨r, hr, -, hs⟩
      cases hr
      exact errorResponse_unknown hs
    · have hrend := error_rendered (storedId_length frame) hid (failure_sayable hf)
      rw [shownId, if_neg hempty]
      simp only [Option.some.injEq, exists_eq_left', hempty, ne_eq, not_false_eq_true, and_true]
      exact hrend.text_iff
  | none =>
    obtain ⟨c, hc, hr⟩ := handleFrame_success hd h0 h1 hf
    have hrend := success_rendered (storedId_length frame) hid (payload_rendered hd h0 h1 hu0 hu1 c)
    rw [hr, hc]
    have hclean : Clean (storedId frame ++ payloadStrings d c) ↔
        Clean (storedId frame) ∧ Clean (payloadStrings d c) := List.forall_mem_append
    have hshow := hrend.text_iff.trans hclean
    have hnil : Clean ([] : List UInt8) := fun c hc => by simp at hc
    simp only [Option.some.injEq, exists_eq_left']
    refine hshow.trans (and_congr_right fun _ => ?_)
    cases c with
    | getHealth => exact hd.clean_message
    | getPorts =>
      show Clean (d.datapath.ports.ingress.name.bytes ++ d.datapath.ports.egress.name.bytes) ↔ _
      rw [hd.ingress, hd.egress]
      exact List.forall_mem_append
    | getVersion => exact iff_of_true hnil trivial
    | getStats => exact iff_of_true hnil trivial
    | ping => exact iff_of_true (ackOf_clean d .ping) trivial
    | resetStats => exact iff_of_true (ackOf_clean d .resetStats) trivial
    | pauseDatapath => exact iff_of_true (ackOf_clean d .pauseDatapath) trivial
    | resumeDatapath => exact iff_of_true (ackOf_clean d .resumeDatapath) trivial

/-- A request for the ports with the identifier `a`. -/
def portsFrame : List UInt8 := utf8 "\x7b\"id\":\"a\",\"cmd\":\"get_ports\",\"payload\":\x7b\x7d\x7d"

theorem response_strict_ports :
    datapathInit defaultConfig = .ok defaultInit ∧ Faithful (start .noDpdk defaultInit) portsFrame := by
  have hinit : datapathInit defaultConfig = .ok defaultInit := by decide +kernel
  have hid : storedId portsFrame = utf8 "a" := by decide +kernel
  have hf : failure (start .noDpdk defaultInit) portsFrame = none := by decide +kernel
  have hc : command? (cString (parseRequest portsFrame).1.cmd) = some .getPorts := by decide +kernel
  have hclean : ∀ s ∈ ["a", "dtap0", "dtap1"], ∀ c ∈ utf8 s, (0x20 : UInt8) ≤ c := by decide
  have hrun : Run.run daemonStep (start .noDpdk defaultInit) [] = some (start .noDpdk defaultInit) := rfl
  refine ⟨hinit, (response_strict_iff hinit .noDpdk hrun (isUtf8_utf8 _) (isUtf8_utf8 _) portsFrame
    (by rw [hid]; exact isUtf8_utf8 _)).mpr ?_⟩
  unfold Showable
  rw [hf, hc, hid]
  exact ⟨fun c h => Or.inl (hclean "a" (by simp) c h), fun c h => Or.inl (hclean "dtap0" (by simp) c h),
    fun c h => Or.inl (hclean "dtap1" (by simp) c h)⟩

/-- A ping whose identifier is a backspace, written with the escape of RFC 8259. -/
def backspaceFrame : List UInt8 := utf8 "\x7b\"id\":\"\\b\",\"cmd\":\"ping\",\"payload\":\x7b\x7d\x7d"

/-- The identifier of an accepted request goes into the response unescaped. -/
theorem response_backspace_not_strict :
    ¬ ∀ (config : DatapathConfig) (init : DatapathInit) (env : StartEnv) (events : List Event) (d : Daemon)
      (frame : List UInt8), datapathInit config = .ok init →
      Run.run daemonStep (start env init) events = some d → IsUtf8 config.ingressPortName.bytes →
      IsUtf8 config.egressPortName.bytes → (parseRequest frame).2 = .ok () → IsUtf8 (storedId frame) →
      Faithful d frame := by
  intro h
  have hid : storedId backspaceFrame = [0x08] := by decide +kernel
  obtain ⟨r, hr, ht, -⟩ := h defaultConfig defaultInit .noDpdk [] _ backspaceFrame (by decide +kernel) rfl
    (isUtf8_utf8 _) (isUtf8_utf8 _) (by decide +kernel) (by rw [hid]; exact isUtf8_low (by decide))
  have hsent : (handleFrame (start .noDpdk defaultInit) backspaceFrame).2 =
      some (successText [0x08] (ackText (utf8 "pong"))) := by decide +kernel
  rw [hsent, Option.some.injEq] at hr
  have hmem : (0x08 : UInt8) ∈ r := by
    rw [← hr]
    decide +kernel
  rcases ht.bare 0x08 hmem with h1 | h1 <;> exact absurd h1 (by decide)

end Dpdkd
end Pktlab

