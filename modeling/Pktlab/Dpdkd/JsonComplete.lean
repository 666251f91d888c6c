/-
# Requests the parser must accept

The strict requests of `JsonTruncation` as a client writes them: `Asks` names
the strings their `id` and `cmd` members decode to. Without a `\u` escape and
within the sizes of the buffers, the parser accepts such a request in every
spelling and stores these strings; they hold no NUL, so they are also what the
C strings in the buffers are.

Key definitions: `RequestText.Asks`, `RequestText.NoUni`.
Key theorems: `fills_stored`, `parseRequest_complete`.
-/
import Pktlab.Dpdkd.JsonTruncation

namespace Pktlab
namespace Dpdkd
namespace JsonProto

open Utf8 Rfc8259

/-- The request asks for `cmd` under the identifier `id`: both members are
strings that decode to these bytes, and `payload` is an object. -/
structure RequestText.Asks (R : RequestText) (id cmd : List UInt8) : Prop where
  id : ∀ m, (Field.id, m) ∈ R.fields → ∃ raw, m.value = quoted raw ∧ Decodes raw id
  cmd : ∀ m, (Field.cmd, m) ∈ R.fields → ∃ raw, m.value = quoted raw ∧ Decodes raw cmd
  payload : ∀ m, (Field.payload, m) ∈ R.fields → m.value.head? = some (ascii '{')

/-- No key and no value uses a `\u` escape. -/
def RequestText.NoUni (R : RequestText) : Prop :=
  ∀ fm ∈ R.fields, fm.2.keyU = false ∧ fm.2.valueU = false

/-- What the scan of a field stores in a request with this `id` and `cmd`. -/
def IpcRequest.stored (req : IpcRequest) : Field → List UInt8
  | .id => req.id
  | .cmd => req.cmd
  | .payload => []

theorem RequestText.mem_fields (R : RequestText) (f : Field) : f ∈ R.fields.map Prod.fst :=
  R.fields_perm.mem_iff.mpr (by cases f <;> simp)

/-- A value without a `\u` escape that is a string is one between its quotes. -/
theorem Member.chars_of_quoted {m : Member} (hu : m.valueU = false) {raw : List UInt8}
    (hv : m.value = quoted raw) : Chars raw false := by
  have hd := m.value_derives
  rw [hv, hu] at hd
  rcases value_shape hd with ⟨c, t, heq, hne, -⟩ | ⟨raw', heq, hraw'⟩ | ⟨b, heq, -⟩
  · exact absurd (List.cons.inj heq).1.symm hne
  · simp only [quoted, List.cons_append, List.cons.injEq, true_and, List.append_cancel_right_eq] at heq
    rw [heq]
    exact hraw'
  · exact absurd (List.cons.inj heq).1 (by decide)

/-- Plain bytes stand for themselves only. -/
theorem decodes_plain_eq : ∀ {b s : List UInt8}, (∀ c ∈ b, isPlain c = true) → Decodes b s → s = b
  | [], _, _, h => by
    cases h
    rfl
  | c :: b, s, hb, h => by
    obtain ⟨hc, hrest⟩ := List.forall_mem_cons.mp hb
    obtain ⟨s', rfl, hs'⟩ := decodes_plain_inv hc h
    rw [decodes_plain_eq hrest hs']

/-- A string without a `\u` escape stands for no NUL. -/
theorem decodes_no_nul {raw : List UInt8} {u : Bool} (hraw : Chars raw u) (hu : u = false) :
    ∀ {s : List UInt8}, Decodes raw s → (0 : UInt8) ∉ s := by
  induction hraw with
  | nil =>
    intro s h
    cases h
    exact List.not_mem_nil
  | @plain c b u hc _ ih =>
    intro s h
    obtain ⟨s', rfl, hs'⟩ := decodes_plain_inv hc h
    have hne : (0 : UInt8) ≠ c := fun h0 => by
      rw [← h0] at hc
      exact absurd hc (by decide)
    exact fun hmem => (List.mem_cons.mp hmem).elim hne (ih hu hs')
  | @esc e x b u he _ ih =>
    intro s h
    obtain ⟨s', rfl, hs'⟩ := decodes_esc_inv he h
    have hne : (0 : UInt8) ≠ x := fun h0 => by
      rw [← h0] at he
      unfold unescape at he
      split_ifs at he
      all_goals exact absurd he (by decide)
    exact fun hmem => (List.mem_cons.mp hmem).elim hne (ih hu hs')
  | uni => exact absurd hu (by decide)

theorem cString_of_no_nul {b : List UInt8} (h : (0 : UInt8) ∉ b) : cString b = b := by
  unfold cString
  rw [List.takeWhile_eq_self_iff]
  intro c hc
  have hne : c ≠ 0 := fun h0 => h (h0 ▸ hc)
  simpa using hne

/-- Members that hold what `req` stores are taken one after the other, and
the buffers of those that are there become `req`'s. -/
theorem fills_stored {req : IpcRequest} : ∀ {fields : List (Field × Member)} {s : RequestState},
    (∀ fm ∈ fields, fm.2.keyU = false ∧ fm.2.Holds (req.stored fm.1) fm.1) →
    ∃ s', Fills fields s s' ∧
      ((.id ∈ fields.map Prod.fst ∨ s.request.id = req.id) → s'.request.id = req.id) ∧
      ((.cmd ∈ fields.map Prod.fst ∨ s.request.cmd = req.cmd) → s'.request.cmd = req.cmd)
  | [], s, _ => ⟨s, rfl, by simp, by simp⟩
  | (f, m) :: fields, s, h => by
    obtain ⟨⟨hu, hx⟩, hrest⟩ := List.forall_mem_cons.mp h
    obtain ⟨s', hs', hid, hcmd⟩ := fills_stored (s := s.put f (req.stored f)) hrest
    have hlater : ∀ g, g ≠ f → g ∈ ((f, m) :: fields).map Prod.fst → g ∈ fields.map Prod.fst := fun g hg hmem =>
      (List.mem_cons.mp hmem).resolve_left hg
    refine ⟨s', ⟨hu, _, hx, hs'⟩, fun hmem => hid ?_, fun hmem => hcmd ?_⟩
    · cases f with
      | id => exact Or.inr rfl
      | cmd => exact hmem.imp_left (hlater .id (by decide))
      | payload => exact hmem.imp_left (hlater .id (by decide))
    · cases f with
      | id => exact hmem.imp_left (hlater .cmd (by decide))
      | cmd => exact Or.inr rfl
      | payload => exact hmem.imp_left (hlater .cmd (by decide))

/-- The last value ends before the text that follows the members. -/
theorem valuesLength_le : ∀ (fields : List (Field × Member)) (tail : List UInt8),
    valuesLength fields ≤ (membersText fields tail).length
  | [], _ => Nat.zero_le _
  | [(_, m)], tail => by
    rw [valuesLength, membersText, m.length_upTo (m.after ++ tail)]
    omega
  | (_, m) :: fm :: ms, tail => by
    have ih := valuesLength_le (fm :: ms) tail
    rw [valuesLength, membersText, m.length_upTo (m.after ++ _), List.length_append, List.length_cons]
    omega

/-- The parser on a whole request within the limits. -/
theorem parseRequest_asks (R : RequestText) {trail id cmd : List UInt8} (htrail : Ws trail)
    (hasks : R.Asks id cmd) (huni : R.NoUni) (hid : id.length ≤ 64) (hcmd : cmd.length ≤ 32)
    (hdepth : ∀ m, (Field.payload, m) ∈ R.fields → m.depth ≤ 16) :
    parseRequest (R.textThen trail) = (⟨id, cmd⟩, .ok ()) := by
  have hholds : ∀ fm ∈ R.fields, fm.2.keyU = false ∧ fm.2.Holds ((⟨id, cmd⟩ : IpcRequest).stored fm.1) fm.1 := by
    rintro ⟨f, m⟩ hm
    obtain ⟨hk, hv⟩ := huni _ hm
    refine ⟨hk, ?_⟩
    cases f with
    | id =>
      obtain ⟨raw, hraw, hd⟩ := hasks.id m hm
      exact ⟨raw, hraw, m.chars_of_quoted hv hraw, hd, hid⟩
    | cmd =>
      obtain ⟨raw, hraw, hd⟩ := hasks.cmd m hm
      exact ⟨raw, hraw, m.chars_of_quoted hv hraw, hd, hcmd⟩
    | payload => exact ⟨rfl, hasks.payload m hm, hv, hdepth m hm⟩
  obtain ⟨s', hfills, hsid, hscmd⟩ := fills_stored (s := {}) hholds
  have hreq : (⟨id, cmd⟩ : IpcRequest) = s'.request := by
    have h1 : s'.request.id = id := hsid (Or.inl (R.mem_fields .id))
    have h2 : s'.request.cmd = cmd := hscmd (Or.inl (R.mem_fields .cmd))
    rw [← h1, ← h2]
  have hend : R.valuesEnd ≤ (R.textThen trail).length := by
    have hle := valuesLength_le R.fields (ascii '}' :: trail)
    unfold RequestText.valuesEnd RequestText.textThen
    rw [List.length_append, List.length_cons]
    omega
  exact (parseRequest_iff R htrail (List.prefix_refl _) _).mpr ⟨hend, s', hfills, hreq⟩

/-- The strings of a request without a `\u` escape hold no NUL. -/
theorem RequestText.Asks.no_nul {R : RequestText} {id cmd : List UInt8} (hasks : R.Asks id cmd)
    (huni : R.NoUni) : (0 : UInt8) ∉ id ∧ (0 : UInt8) ∉ cmd := by
  have hfield : ∀ f, ∃ m, (f, m) ∈ R.fields := fun f => by
    obtain ⟨⟨g, m⟩, hm, rfl⟩ := List.mem_map.mp (R.mem_fields f)
    exact ⟨m, hm⟩
  obtain ⟨mid, hmid⟩ := hfield .id
  obtain ⟨mcmd, hmcmd⟩ := hfield .cmd
  obtain ⟨raw, hraw, hd⟩ := hasks.id mid hmid
  obtain ⟨raw', hraw', hd'⟩ := hasks.cmd mcmd hmcmd
  exact ⟨decodes_no_nul (mid.chars_of_quoted (huni _ hmid).2 hraw) rfl hd,
    decodes_no_nul (mcmd.chars_of_quoted (huni _ hmcmd).2 hraw') rfl hd'⟩

/-- **Complete parsing.** A strict request without a `\u` escape, whose `id`
and `cmd` decode to at most 64 and 32 bytes and whose payload nests at most 16
deep, is accepted whatever its spelling, and the buffers hold exactly the
decoded strings, also when they are read as C strings. -/
theorem parseRequest_complete (R : RequestText) {trail id cmd : List UInt8} (htrail : Ws trail)
    (hasks : R.Asks id cmd) (huni : R.NoUni) (hid : id.length ≤ 64) (hcmd : cmd.length ≤ 32)
    (hdepth : ∀ m, (Field.payload, m) ∈ R.fields → m.depth ≤ 16) :
    parseRequest (R.textThen trail) = (⟨id, cmd⟩, .ok ()) ∧ cString id = id ∧ cString cmd = cmd := by
  obtain ⟨hnid, hncmd⟩ := hasks.no_nul huni
  exact ⟨parseRequest_asks R htrail hasks huni hid hcmd hdepth, cString_of_no_nul hnid,
    cString_of_no_nul hncmd⟩

/-- A ping with the payload first, an escape in the identifier and whitespace. -/
def reorderedText : RequestText :=
  { lead := utf8 " "
    fields :=
      [(.payload, plainMember (utf8 "payload") (utf8 "\x7b\x7d") 1 payload_chars braces_derives),
        (.cmd, { plainMember (utf8 "cmd") (quoted (utf8 "ping")) 0 cmd_chars ping_derives with
          before := utf8 "\n", before_ws := by decide }),
        (.id, plainMember (utf8 "id") (quoted (utf8 "\\t7")) 0 id_chars
          (.string (.esc (x := 0x09) (by decide) (chars_plain (by decide)))))]
    lead_ws := by decide
    fields_perm := by decide
    names := fun fm hfm => by
      simp only [List.mem_cons, List.not_mem_nil, or_false] at hfm
      rcases hfm with rfl | rfl | rfl <;> exact decodes_plain (by decide) }

theorem parseRequest_reordered :
    reorderedText.textThen (utf8 "\n") =
      utf8 " \x7b\"payload\":\x7b\x7d,\n\"cmd\":\"ping\",\"id\":\"\\t7\"\x7d\n" ∧
    parseRequest (reorderedText.textThen (utf8 "\n")) = (⟨utf8 "\t7", utf8 "ping"⟩, .ok ()) := by
  have hid : Decodes (utf8 "\\t7") (utf8 "\t7") := .esc (by decide) (decodes_plain (by decide))
  have hcmd : Decodes (utf8 "ping") (utf8 "ping") := decodes_plain (by decide)
  have hasks : reorderedText.Asks (utf8 "\t7") (utf8 "ping") := by
    refine ⟨fun m hm => ?_, fun m hm => ?_, fun m hm => ?_⟩
    · simp only [reorderedText, List.mem_cons, Prod.mk.injEq, reduceCtorEq, false_and, List.not_mem_nil,
        or_false, false_or, true_and] at hm
      rw [hm]
      exact ⟨_, rfl, hid⟩
    · simp only [reorderedText, List.mem_cons, Prod.mk.injEq, reduceCtorEq, false_and, List.not_mem_nil,
        or_false, false_or, true_and] at hm
      rw [hm]
      exact ⟨_, rfl, hcmd⟩
    · simp only [reorderedText, List.mem_cons, Prod.mk.injEq, reduceCtorEq, false_and, List.not_mem_nil,
        or_false, true_and] at hm
      rw [hm]
      rfl
  have huni : reorderedText.NoUni := by
    intro fm hfm
    simp only [reorderedText, List.mem_cons, List.not_mem_nil, or_false] at hfm
    rcases hfm with rfl | rfl | rfl <;> exact ⟨rfl, rfl⟩
  have hdepth : ∀ m, (Field.payload, m) ∈ reorderedText.fields → m.depth ≤ 16 := by
    intro m hm
    simp only [reorderedText, List.mem_cons, Prod.mk.injEq, reduceCtorEq, false_and, List.not_mem_nil,
      or_false, true_and] at hm
    rw [hm]
    decide
  exact ⟨by decide +kernel,
    (parseRequest_complete reorderedText (by decide) hasks huni (by decide) (by decide) hdepth).1⟩

end JsonProto
end Dpdkd
end Pktlab
