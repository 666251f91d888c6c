/-
# The escaper and the ports payload on memory

`dpdkd/src/json_proto.c`, lines 760 to 830 and 979 to 1056, over indices and
arrays with the checked operations of `Pktlab.Lib.Checked`: a read of the name
behind its NUL, a store behind the array, and a `buffer_cap - written` below
zero are faults. Sizes do not wrap, since no array is that large.

What these functions write is what the list functions of `Pktlab.Dpdkd.Render`
say (`escapeString_writes`, `makePortsPayload_writes`); the parser reads an
escaped string back as what it was.

Key definitions: `escapeString`, `snprintf`, `PortRecord`, `makePortsPayload`,
`Writes`.
Key theorems: `escapeString_writes`, `makePortsPayload_writes`,
`escapeString_parseString`, `makePortsPayload_exact`.
-/
import Pktlab.Dpdkd.InMemoryTracks
import Pktlab.Dpdkd.Correlation

namespace Pktlab
namespace Dpdkd
namespace InMemory

open Utf8 Decimal Rfc8259 Outline Checked
open JsonProto (replacement escapeText portItem portRoleName portStateName)

variable {cap : ℕ}

/-- The `while` of `pktlab_json_proto_escape_string`. -/
def escapeLoop (input : List UInt8) : ℕ → ℕ → Buffer cap → ℕ → Except Fault (Buffer cap × Option ℕ)
  | 0, _, _, _ => .error .fuel
  | fuel + 1, inPos, buffer, outPos => do
    let ch ← load input inPos
    if ch ≠ 0 then
      match replacement ch with
      | some r =>
        if outPos + r.length + 1 > cap then return (buffer, none)
        else
          let buffer ← buffer.storeAll outPos r
          escapeLoop input fuel (inPos + 1) buffer (outPos + r.length)
      | none =>
        if outPos + 2 > cap then return (buffer, none)
        else
          let buffer ← buffer.store outPos ch
          escapeLoop input fuel (inPos + 1) buffer (outPos + 1)
    else if cap = 0 then return (buffer, none)
    else
      let buffer ← buffer.store outPos 0
      return (buffer, some outPos)

/-- `pktlab_json_proto_escape_string`: the array and, on success,
`*output_len`. `input` is the memory from the string on. -/
def escapeString (input : List UInt8) (buffer : Buffer cap) : Except Fault (Buffer cap × Option ℕ) :=
  escapeLoop input (input.length + 1) 0 buffer 0

/-- `INT_MAX`. -/
def intMax : ℕ := 2147483647

/-- `snprintf(buffer + off, size, ..)` for a formatted `text`: what fits, with
a terminator, and the length of the whole text, or -1 when it is no `int`. -/
def snprintf (buffer : Buffer cap) (off size : ℕ) (text : List UInt8) : Except Fault (Buffer cap × ℤ) :=
  if intMax < text.length then return (buffer, -1)
  else if size = 0 then return (buffer, text.length)
  else do
    let buffer ← buffer.storeAll off (text.take (size - 1) ++ [0])
    return (buffer, text.length)

/-- `(size_t) n`. -/
def toSize (n : ℤ) : ℕ := (n % 2 ^ 64).toNat

/-- `struct pktlab_port_info` in memory, with a NUL in the array of its name. -/
structure PortRecord where
  name : Buffer nameLen
  terminated : (0 : UInt8) ∈ name.bytes
  portId : UInt16
  role : PortRole
  state : PortState

/-- The name as the string it is. -/
def PortRecord.nameString (port : PortRecord) : CStr := ⟨JsonProto.cString port.name.bytes, fun h => by
  simpa using List.mem_takeWhile_imp h⟩

/-- The port with its name as a string. -/
def PortRecord.info (port : PortRecord) : PortInfo := ⟨port.nameString, port.portId, port.role, port.state⟩

/-- The `for` of `pktlab_json_proto_make_ports_payload` and what follows it.
`escapedName` is what the stack holds where the array of this name is. -/
def portsLoop (buffer : Buffer cap) (escapedName : Buffer (nameLen * 2 + 1)) (first : Bool) (written : ℕ) :
    List PortRecord → Except Fault (Buffer cap × Option ℕ)
  | [] =>
    if written + 3 > cap then return (buffer, none)
    else do
      let buffer ← buffer.storeAll written (utf8 "]\x7d" ++ [0])
      return (buffer, some (written + 2))
  | port :: ports => do
    let (escapedName, r) ← escapeString port.name.bytes escapedName
    match r with
    | none => return (buffer, none)
    | some _ =>
      let name ← loadString escapedName.bytes
      let size ← minus cap written
      let (buffer, itemWritten) ← snprintf buffer written size (portItem first name port.info)
      if itemWritten < 0 then return (buffer, none)
      else
        let size ← minus cap written
        if toSize itemWritten ≥ size then return (buffer, none)
        else portsLoop buffer escapedName false (written + toSize itemWritten) ports

/-- `pktlab_json_proto_make_ports_payload`: the array and, on success,
`*json_len`. -/
def makePortsPayload (ports : List PortRecord) (escapedName : Buffer (nameLen * 2 + 1)) (buffer : Buffer cap) :
    Except Fault (Buffer cap × Option ℕ) :=
  if cap = 0 then return (buffer, none)
  else do
    let size ← minus cap 0
    let (buffer, n) ← snprintf buffer 0 size (utf8 "\x7b\"ports\":[")
    if toSize n ≥ cap then return (buffer, none)
    else portsLoop buffer escapedName true (toSize n) ports

/-! ### The escaper -/

/-- A builder ends, without a fault, as its list function: with nothing, or
with the length of the text, the text and a terminator in the array. -/
def Writes (b0 : Buffer cap) (text : Option (List UInt8)) (r : Except Fault (Buffer cap × Option ℕ)) : Prop :=
  ∃ buffer, r = .ok (buffer, text.map List.length) ∧ ∀ t, text = some t → Fills b0 (t ++ [0]) buffer

theorem Writes.fail (b0 buffer : Buffer cap) : Writes b0 none (.ok (buffer, none)) :=
  ⟨buffer, rfl, fun t h => by cases h⟩

theorem escapeLoop_writes {input junk : List UInt8} {b0 : Buffer cap} :
    ∀ {s out : List UInt8} {fuel inPos : ℕ} {buffer : Buffer cap}, At input inPos (s ++ 0 :: junk) →
      (0 : UInt8) ∉ s → s.length < fuel → Fills b0 out buffer → Room cap out →
      Writes b0 (JsonProto.escapeLoop cap s out) (escapeLoop input fuel inPos buffer out.length)
  | [], out, fuel, inPos, buffer, h, _, hf, hfills, hroom => by
    obtain ⟨fuel, rfl⟩ := Nat.exists_eq_add_of_le' (show 1 ≤ fuel by omega)
    rw [List.nil_append] at h
    rw [escapeLoop, h.load, ok_bind, if_neg (by simp), JsonProto.escapeLoop]
    by_cases h0 : cap = 0
    · rw [if_pos h0, if_pos h0]
      exact .fail b0 buffer
    · obtain ⟨buffer', hstore, hfills'⟩ := hfills.store (hroom.resolve_left fun hr => h0 hr.1) 0
      rw [if_neg h0, if_neg h0, hstore, ok_bind]
      refine ⟨buffer', rfl, fun t ht => ?_⟩
      cases ht
      exact hfills'
  | ch :: s, out, fuel, inPos, buffer, h, hs, hf, hfills, hroom => by
    rw [List.length_cons] at hf
    obtain ⟨fuel, rfl⟩ := Nat.exists_eq_add_of_le' (show 1 ≤ fuel by omega)
    have hch : ch ≠ 0 := fun h0 => hs (h0 ▸ List.mem_cons_self)
    have hs' : (0 : UInt8) ∉ s := fun hmem => hs (List.mem_cons_of_mem ch hmem)
    rw [List.cons_append] at h
    rw [escapeLoop, h.load, ok_bind, if_pos hch, JsonProto.escapeLoop]
    cases hr : replacement ch with
    | some r =>
      simp only
      by_cases hfull : out.length + r.length + 1 > cap
      · rw [if_pos hfull, if_pos hfull]
        exact .fail b0 buffer
      · obtain ⟨buffer', hstore, hfills'⟩ := hfills.storeAll (show out.length + r.length ≤ cap by omega)
        have ih := escapeLoop_writes h.next hs' (show s.length < fuel by omega) hfills'
          (Or.inr (by rw [List.length_append]; omega))
        rw [List.length_append] at ih
        rw [if_neg hfull, if_neg hfull, hstore, ok_bind]
        exact ih
    | none =>
      simp only
      by_cases hfull : out.length + 2 > cap
      · rw [if_pos hfull, if_pos hfull]
        exact .fail b0 buffer
      · obtain ⟨buffer', hstore, hfills'⟩ := hfills.store (by omega) ch
        have ih := escapeLoop_writes h.next hs' (show s.length < fuel by omega) hfills'
          (Or.inr (by rw [List.length_append, List.length_singleton]; omega))
        rw [List.length_append, List.length_singleton] at ih
        rw [if_neg hfull, if_neg hfull, hstore, ok_bind]
        exact ih

theorem escapeString_writes {s : List UInt8} (hs : (0 : UInt8) ∉ s) (junk : List UInt8) (buffer : Buffer cap) :
    Writes buffer (JsonProto.escapeString s cap) (escapeString (s ++ 0 :: junk) buffer) := by
  have hroom : Room cap [] := (Nat.eq_zero_or_pos cap).imp_left fun h0 => ⟨h0, rfl⟩
  have hfuel : s.length < (s ++ 0 :: junk).length + 1 := by
    rw [List.length_append]
    omega
  exact escapeLoop_writes (At.start _) hs hfuel (Fills.nil buffer) hroom

theorem parseString_quoted {k s : List UInt8} (h : Unquotes k s) {outCap : ℕ} (hcap : s.length + 1 ≤ outCap)
    (before after : List UInt8) (out : Buffer outCap) :
    ∃ out', parseString (before ++ quoted k ++ after) before.length out =
        .ok (out', .ok (before.length + (k.length + 2))) ∧ Fills out (s ++ [0]) out' := by
  have hat : At (before ++ quoted k ++ after) before.length (quoted k ++ after) := by
    rw [List.append_assoc]
    exact ⟨by rw [List.length_append]; omega, List.drop_left⟩
  obtain ⟨out', st, hparse, htracks, hfills⟩ := parseString_tracks hat out
  rw [JsonProto.parseString_unquotes h (by omega)] at htracks hfills
  rcases htracks.cases with ⟨rest, q, hrest, rfl, -, hq⟩ | ⟨e, he, -⟩
  · cases hrest
    have hlen := hq.length_eq
    have hquoted : (quoted k).length = k.length + 2 := by simp [quoted]
    rw [List.length_append, List.length_append, hquoted] at hlen
    have hend : q = before.length + (k.length + 2) := by omega
    refine ⟨out', by rw [hparse, hend], ?_⟩
    rwa [terminator, if_pos (by omega)] at hfills
  · cases he

/-- **Escaping and unescaping.** The escaper succeeds exactly when the escaped
string and its terminator fit, and the parser reads what it wrote, between
quotes, as the string it was. -/
theorem escapeString_parseString (s : CStr) (junk : List UInt8) (buffer : Buffer cap) :
    ∃ buffer' st, escapeString (s.bytes ++ 0 :: junk) buffer = .ok (buffer', st) ∧
      (st.isSome ↔ (escapeText s.bytes).length + 1 ≤ cap) ∧ (2 * s.bytes.length + 1 ≤ cap → st.isSome) ∧
      ∀ n, st = some n → n = (escapeText s.bytes).length ∧ Fills buffer (escapeText s.bytes ++ [0]) buffer' ∧
        ∀ (before after : List UInt8) (outCap : ℕ) (out : Buffer outCap), s.bytes.length + 1 ≤ outCap →
          ∃ out', parseString (before ++ quoted (buffer'.bytes.take n) ++ after) before.length out =
              .ok (out', .ok (before.length + (n + 2))) ∧ Fills out (s.bytes ++ [0]) out' := by
  obtain ⟨buffer', hrun, hfills⟩ := escapeString_writes s.noNul junk buffer
  have hlen := JsonProto.escapeText_length s.bytes
  rw [JsonProto.escapeString_eq] at hrun hfills
  refine ⟨buffer', _, hrun, ?_⟩
  by_cases hfit : (escapeText s.bytes).length < cap
  · rw [if_pos hfit] at hfills ⊢
    have hwritten := hfills _ rfl
    refine ⟨iff_of_true rfl hfit, fun _ => rfl, fun n hn => ?_⟩
    cases hn
    refine ⟨rfl, hwritten, fun before after outCap out hcap => ?_⟩
    rw [hwritten.take]
    exact parseString_quoted (JsonProto.unquotes_escapeText s.bytes) hcap before after out
  · rw [if_neg hfit]
    refine ⟨iff_of_false Bool.false_ne_true (by omega), fun hcap => by omega, fun n hn => ?_⟩
    cases hn

/-! ### The ports -/

theorem PortRecord.name_eq (port : PortRecord) : ∃ junk, port.name.bytes = port.info.name.bytes ++ 0 :: junk :=
  terminated_eq port.terminated

theorem PortRecord.name_lt (port : PortRecord) : port.info.name.bytes.length < nameLen := by
  obtain ⟨junk, hname⟩ := port.name_eq
  have hsize := port.name.size
  rw [hname, List.length_append, List.length_cons] at hsize
  omega

/-- A text behind what is written already, over its terminator. -/
theorem snprintf_writes {b0 buffer : Buffer cap} {out x text : List UInt8} (h : Fills b0 (out ++ x) buffer)
    (hx : x.length ≤ 1) (hlt : out.length < cap) (hlen : text.length ≤ intMax) :
    ∃ buffer', snprintf buffer out.length (cap - out.length) text = .ok (buffer', text.length) ∧
      (text.length < cap - out.length → Fills b0 (out ++ text ++ [0]) buffer') := by
  have hsize : (text.take (cap - out.length - 1) ++ [0]).length ≤ cap - out.length := by
    rw [List.length_append, List.length_take, List.length_singleton]
    omega
  have hover : x.length ≤ (text.take (cap - out.length - 1) ++ [0]).length := by
    rw [List.length_append, List.length_singleton]
    omega
  obtain ⟨buffer', hstore, hfills⟩ := h.storeOver hover (by omega)
  refine ⟨buffer', ?_, fun hfit => ?_⟩
  · rw [snprintf, if_neg (by omega), if_neg (by omega), hstore]
    rfl
  · rwa [List.take_of_length_le (by omega), ← List.append_assoc] at hfills

theorem toSize_natCast {n : ℕ} (h : n ≤ intMax) : toSize n = n := by
  unfold intMax at h
  unfold toSize
  omega

/-- The item of a port is short, with its comma. -/
theorem portItem_length (first : Bool) (port : PortRecord) :
    (portItem first (escapeText port.info.name.bytes) port.info).length ≤ intMax := by
  have htext := portText_length port.name_lt
  have hitem :
      (portItem first (escapeText port.info.name.bytes) port.info).length ≤ (portText port.info).length + 1 := by
    cases first with
    | true => exact Nat.le_succ _
    | false =>
      rw [portItem_later, List.length_cons]
      rfl
  unfold intMax
  omega

theorem escapeText_noNul {s : List UInt8} (hs : (0 : UInt8) ∉ s) : (0 : UInt8) ∉ escapeText s :=
  fun h => hs ((JsonProto.unquotes_escapeText s).nul.mpr h)

theorem portsLoop_writes {b0 : Buffer cap} : ∀ {ports : List PortRecord} {buffer : Buffer cap}
    {escapedName : Buffer (nameLen * 2 + 1)} {first : Bool} {written : List UInt8},
    Fills b0 (written ++ [0]) buffer → written.length < cap →
    Writes b0 (JsonProto.portsLoop cap first written (ports.map PortRecord.info))
      (portsLoop buffer escapedName first written.length ports)
  | [], buffer, escapedName, first, written, hfills, hlt => by
    have hclose : (utf8 "]\x7d").length = 2 := by decide
    rw [List.map_nil, portsLoop, JsonProto.portsLoop]
    by_cases hfull : written.length + 3 > cap
    · rw [if_pos hfull, if_pos hfull]
      exact .fail b0 buffer
    · have hroom : written.length + (utf8 "]\x7d" ++ [0]).length ≤ cap := by
        rw [List.length_append, hclose, List.length_singleton]
        omega
      obtain ⟨buffer', hstore, hfills'⟩ := hfills.storeOver (by decide) hroom
      rw [if_neg hfull, if_neg hfull, hstore, ok_bind]
      refine ⟨buffer', by rw [Option.map_some, List.length_append, hclose]; rfl, fun t ht => ?_⟩
      cases ht
      rwa [List.append_assoc]
  | port :: ports, buffer, escapedName, first, written, hfills, hlt => by
    obtain ⟨junk, hname⟩ := port.name_eq
    have hnoNul := port.info.name.noNul
    have hlen := port.name_lt
    have hescape : JsonProto.escapeString port.info.name.bytes (nameLen * 2 + 1) =
        some (escapeText port.info.name.bytes) := JsonProto.escapeString_fits (by omega)
    obtain ⟨escapedName', hrun, hname'⟩ := escapeString_writes hnoNul junk escapedName
    have hstring := loadString_eq (hname' _ hescape) (escapeText_noNul hnoNul)
    have hitem := portItem_length first port
    obtain ⟨buffer', hprint, hfills'⟩ := snprintf_writes hfills le_rfl hlt hitem
    rw [hescape, ← hname] at hrun
    rw [List.map_cons, portsLoop, JsonProto.portsLoop, hescape, hrun, ok_bind]
    simp only [Option.map_some]
    rw [hstring, ok_bind, minus_eq hlt.le, ok_bind, hprint, ok_bind]
    simp only
    rw [if_neg (Int.natCast_nonneg _).not_gt, ok_bind, toSize_natCast hitem]
    by_cases hfull : (portItem first (escapeText port.info.name.bytes) port.info).length ≥ cap - written.length
    · rw [if_pos hfull, if_pos hfull]
      exact .fail b0 buffer'
    · have ih := @portsLoop_writes b0 ports buffer' escapedName' false _ (hfills' (by omega))
        (by rw [List.length_append]; omega)
      rw [List.length_append] at ih
      rw [if_neg hfull, if_neg hfull]
      exact ih

theorem makePortsPayload_writes (ports : List PortRecord) (escapedName : Buffer (nameLen * 2 + 1))
    (buffer : Buffer cap) :
    Writes buffer (JsonProto.makePortsPayload (ports.map PortRecord.info) cap)
      (makePortsPayload ports escapedName buffer) := by
  have hopen : (utf8 "\x7b\"ports\":[").length = 10 := by decide
  unfold makePortsPayload JsonProto.makePortsPayload
  by_cases h0 : cap = 0
  · rw [if_pos h0, if_pos h0]
    exact .fail buffer buffer
  have hintMax : (utf8 "\x7b\"ports\":[").length ≤ intMax := by decide
  have hempty : Fills buffer ([] ++ []) buffer := Fills.nil buffer
  obtain ⟨buffer', hprint, hfills⟩ := snprintf_writes hempty (Nat.zero_le 1) (Nat.pos_of_ne_zero h0) hintMax
  rw [if_neg h0, if_neg h0, minus_eq (Nat.zero_le cap), ok_bind]
  rw [List.length_nil] at hprint hfills
  rw [hprint, ok_bind]
  simp only
  rw [toSize_natCast hintMax]
  by_cases hfull : (utf8 "\x7b\"ports\":[").length ≥ cap
  · rw [if_pos hfull, if_pos hfull]
    exact .fail buffer buffer'
  · rw [if_neg hfull, if_neg hfull]
    exact portsLoop_writes (hfills (by omega)) (by omega)

/-- **Exact ports, in memory.** The builder succeeds exactly when the text of
the ports and its terminator fit, and then this is what the array holds. -/
theorem makePortsPayload_exact (ports : List PortRecord) (escapedName : Buffer (nameLen * 2 + 1))
    (buffer : Buffer cap) :
    ∃ buffer' st, makePortsPayload ports escapedName buffer = .ok (buffer', st) ∧
      (st.isSome ↔ (portsReference (ports.map PortRecord.info)).length + 1 ≤ cap) ∧
      ∀ n, st = some n → n = (portsReference (ports.map PortRecord.info)).length ∧
        Fills buffer (portsReference (ports.map PortRecord.info) ++ [0]) buffer' := by
  have hnames : ∀ port ∈ ports.map PortRecord.info, port.name.bytes.length < nameLen := by
    intro info hmem
    obtain ⟨port, -, rfl⟩ := List.mem_map.mp hmem
    exact port.name_lt
  obtain ⟨buffer', hrun, hfills⟩ := makePortsPayload_writes ports escapedName buffer
  rw [makePortsPayload_fits hnames] at hrun hfills
  refine ⟨buffer', _, hrun, ?_⟩
  by_cases hfit : (portsReference (ports.map PortRecord.info)).length < cap
  · rw [if_pos hfit] at hfills ⊢
    refine ⟨iff_of_true rfl hfit, fun n hn => ?_⟩
    cases hn
    exact ⟨rfl, hfills _ rfl⟩
  · rw [if_neg hfit]
    refine ⟨iff_of_false Bool.false_ne_true (by omega), fun n hn => ?_⟩
    cases hn

end InMemory
end Dpdkd
end Pktlab
