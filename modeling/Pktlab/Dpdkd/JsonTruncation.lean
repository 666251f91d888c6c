/-
# Requests that lost their tail

A request is a strict JSON object with the members `id`, `cmd` and `payload`
in some order (`RequestText`). `requestLoop_iff` says for every prefix of such
an object what the parser makes of it: it accepts exactly when the prefix
reaches the end of the last member's value and the members are within the
limits of the daemon. The closing brace is not among what it asks for.

Key definitions: `Field`, `Member`, `RequestText`, `Member.Holds`.
Key theorems: `requestMember_iff`, `requestLoop_iff`, `parseRequest_iff`,
`truncated_rejected_iff`.
-/
import Pktlab.Dpdkd.JsonGrammar
import Pktlab.Lib.Json

namespace Pktlab
namespace Dpdkd
namespace JsonProto

open Utf8 Rfc8259

/-- The members of a request. -/
inductive Field
  | id
  | cmd
  | payload
  deriving DecidableEq, Repr

def Field.name : Field → String
  | .id => "id"
  | .cmd => "cmd"
  | .payload => "payload"

def RequestState.has (s : RequestState) : Field → Bool
  | .id => s.haveId
  | .cmd => s.haveCmd
  | .payload => s.havePayload

/-- The state after a member: what it holds and that it was seen. -/
def RequestState.put (s : RequestState) (f : Field) (x : List UInt8) : RequestState :=
  match f with
  | .id => { s with request := { s.request with id := x }, haveId := true }
  | .cmd => { s with request := { s.request with cmd := x }, haveCmd := true }
  | .payload => { s with havePayload := true }

@[simp] theorem RequestState.has_put (s : RequestState) (f g : Field) (x : List UInt8) :
    (s.put f x).has g = (decide (g = f) || s.has g) := by
  cases f <;> cases g <;> rfl

/-! ### One member -/

/-- What the value of a member must be for the scan of `f` to store `x` and
go on at `r`. -/
def Scans (json x r : List UInt8) : Field → Prop
  | .id => parseString idCap json = (x, .ok r)
  | .cmd => parseString cmdCap json = (x, .ok r)
  | .payload => x = [] ∧ skipValue (skipFuel (skipWs json)) 1 (skipWs json) = .ok r ∧
      (eat '{' (skipWs json)).isSome

theorem stringMember_eq_ok {s' : RequestState} {r : List UInt8} (cap : ℕ) (j2 : List UInt8)
    (g : List UInt8 → IpcRequest) (h : List UInt8 → RequestState) :
    ((match parseString cap j2 with
      | (out, .error e) => (g out, .error e)
      | (out, .ok json) => ((h out).request, .ok (h out, json)) :
        IpcRequest × Except Fail (RequestState × List UInt8)).2 = .ok (s', r) ↔
      ∃ x, parseString cap j2 = (x, .ok r) ∧ s' = h x) := by
  rcases hp : parseString cap j2 with ⟨out, e | j⟩
  · simp
  · simp only [Except.ok.injEq, Prod.mk.injEq]
    refine ⟨?_, ?_⟩
    · rintro ⟨rfl, rfl⟩
      exact ⟨out, ⟨rfl, rfl⟩, rfl⟩
    · rintro ⟨x, ⟨rfl, rfl⟩, rfl⟩
      exact ⟨rfl, rfl⟩

theorem requestMember_eq_ok {s s' : RequestState} {json r : List UInt8} :
    (requestMember s json).2 = .ok (s', r) ↔
      ∃ key j1 j2 f x, parseString keyCap json = (key, .ok j1) ∧ eat ':' (skipWs j1) = some j2 ∧
        cString key = utf8 (Field.name f) ∧ s.has f = false ∧ Scans j2 x r f ∧ s' = s.put f x := by
  rcases hk : parseString keyCap json with ⟨key, e | j1⟩
  · rw [requestMember, hk]
    simp
  rcases hc : eat ':' (skipWs j1) with _ | j2
  · simp only [requestMember, hk, hc, reject]
    simp [hc]
  -- the key decides the field
  have hfield : (∃ key' j1' j2' f x, (key, (.ok j1 : Except Fail (List UInt8))) = (key', .ok j1') ∧
      eat ':' (skipWs j1') = some j2' ∧ cString key' = utf8 (Field.name f) ∧ s.has f = false ∧
      Scans j2' x r f ∧ s' = s.put f x) ↔
      ∃ f x, cString key = utf8 (Field.name f) ∧ s.has f = false ∧ Scans j2 x r f ∧ s' = s.put f x := by
    constructor
    · rintro ⟨key', j1', j2', f, x, heq, hc', h⟩
      simp only [Prod.mk.injEq, Except.ok.injEq] at heq
      obtain ⟨rfl, rfl⟩ := heq
      rw [hc, Option.some.injEq] at hc'
      subst hc'
      exact ⟨f, x, h⟩
    · rintro ⟨f, x, h⟩
      exact ⟨key, j1, j2, f, x, rfl, hc, h⟩
  rw [hfield]
  have honly : ∀ f : Field, cString key = utf8 f.name →
      ((∃ g x, cString key = utf8 (Field.name g) ∧ s.has g = false ∧ Scans j2 x r g ∧ s' = s.put g x) ↔
        s.has f = false ∧ ∃ x, Scans j2 x r f ∧ s' = s.put f x) := by
    intro f hf
    constructor
    · rintro ⟨g, x, hg, h⟩
      have hgf : g = f := by
        rw [hf] at hg
        cases f <;> cases g <;> first | rfl | exact absurd hg (by decide)
      subst hgf
      exact ⟨h.1, x, h.2⟩
    · rintro ⟨h, x, hx⟩
      exact ⟨f, x, hf, h, hx⟩
  simp only [requestMember, hk, hc]
  by_cases hid : cString key = utf8 "id"
  · rw [honly .id hid, if_pos hid]
    cases hs : s.haveId with
    | true => simp [RequestState.has, hs, reject]
    | false =>
      rw [if_neg (by simp)]
      refine (stringMember_eq_ok idCap j2 (fun out => { s.request with id := out })
        (fun out => { s with request := { s.request with id := out }, haveId := true })).trans ?_
      simp [RequestState.has, hs, Scans, RequestState.put]
  by_cases hcmd : cString key = utf8 "cmd"
  · rw [honly .cmd hcmd, if_neg hid, if_pos hcmd]
    cases hs : s.haveCmd with
    | true => simp [RequestState.has, hs, reject]
    | false =>
      rw [if_neg (by simp)]
      refine (stringMember_eq_ok cmdCap j2 (fun out => { s.request with cmd := out })
        (fun out => { s with request := { s.request with cmd := out }, haveCmd := true })).trans ?_
      simp [RequestState.has, hs, Scans, RequestState.put]
  by_cases hpay : cString key = utf8 "payload"
  · rw [honly .payload hpay, if_neg hid, if_neg hcmd, if_pos hpay]
    cases hs : s.havePayload with
    | true => simp [RequestState.has, hs, reject]
    | false =>
      rw [if_neg (by simp)]
      rcases hv : skipValue (skipFuel (skipWs j2)) 1 (skipWs j2) with e | j3
      · simp [Scans, hv]
      · cases hb : eat '{' (skipWs j2) with
        | none => simp [Scans, hb]
        | some j4 =>
          simp only [Except.ok.injEq, Prod.mk.injEq, RequestState.has, hs, Scans, hv, hb, RequestState.put,
            Option.isSome_some, and_true, true_and, exists_eq_left, and_assoc]
          tauto
  · rw [if_neg hid, if_neg hcmd, if_neg hpay]
    refine iff_of_false (fun h => by cases h) ?_
    rintro ⟨f, x, hf, -⟩
    cases f with
    | id => exact hid hf
    | cmd => exact hcmd hf
    | payload => exact hpay hf

/-! ### Values of the grammar as members -/

/-- A member of a request as the grammar derives it: whitespace, key, colon,
value, whitespace. `depth` is how deep its value nests, `keyU` and `valueU`
say where a `\u` escape occurs. -/
structure Member where
  before : List UInt8
  key : List UInt8
  afterKey : List UInt8
  beforeValue : List UInt8
  value : List UInt8
  after : List UInt8
  depth : ℕ
  keyU : Bool
  valueU : Bool
  before_ws : Ws before
  key_chars : Chars key keyU
  afterKey_ws : Ws afterKey
  beforeValue_ws : Ws beforeValue
  value_derives : Derives .value value depth valueU
  after_ws : Ws after

/-- The member followed by `tail` right after its value. -/
def Member.upTo (m : Member) (tail : List UInt8) : List UInt8 :=
  m.before ++ (quoted m.key ++ (m.afterKey ++ ascii ':' :: (m.beforeValue ++ (m.value ++ tail))))

theorem Member.upTo_append (m : Member) (tail : List UInt8) : m.upTo tail = m.upTo [] ++ tail := by
  simp [Member.upTo]

theorem Member.length_upTo (m : Member) (tail : List UInt8) :
    (m.upTo tail).length = (m.upTo []).length + tail.length := by
  rw [m.upTo_append, List.length_append]

/-- A prefix that is long enough holds the whole value. -/
theorem Member.upTo_of_length (m : Member) {tail p : List UInt8} (hp : p <+: m.upTo tail)
    (hlen : (m.upTo []).length ≤ p.length) : ∃ q, p = m.upTo q := by
  rw [m.upTo_append] at hp
  rcases prefix_append_cases hp with ⟨-, hlt⟩ | ⟨q, rfl, -⟩
  · omega
  · exact ⟨q, (m.upTo_append q).symm⟩

/-- The value of `m` is one the daemon accepts for `f`, and `x` is what it
stores: a string of at most 64 or 32 bytes, or an object that nests at most
16 deep; nowhere a `\u` escape. -/
def Member.Holds (m : Member) (x : List UInt8) : Field → Prop
  | .id => ∃ raw, m.value = quoted raw ∧ Chars raw false ∧ Decodes raw x ∧ x.length ≤ 64
  | .cmd => ∃ raw, m.value = quoted raw ∧ Chars raw false ∧ Decodes raw x ∧ x.length ≤ 32
  | .payload => x = [] ∧ m.value.head? = some (ascii '{') ∧ m.valueU = false ∧ m.depth ≤ maxNesting

/-- The values by their first byte: a string, an object, or something else. -/
theorem value_shape {v : List UInt8} {d : ℕ} {u : Bool} (h : Derives .value v d u) :
    (∃ c t, v = c :: t ∧ c ≠ ascii '"' ∧ c ≠ ascii '{') ∨ (∃ raw, v = quoted raw ∧ Chars raw u) ∨
      ∃ b, v = ascii '{' :: b ++ [ascii '}'] ∧ Cuts b .members := by
  cases h with
  | literal hb =>
    simp only [List.mem_cons, List.not_mem_nil, or_false] at hb
    rcases hb with rfl | rfl | rfl
    · exact Or.inl ⟨ascii 't', utf8 "rue", rfl, by decide, by decide⟩
    · exact Or.inl ⟨ascii 'f', utf8 "alse", rfl, by decide, by decide⟩
    · exact Or.inl ⟨ascii 'n', utf8 "ull", rfl, by decide, by decide⟩
  | number hn =>
    obtain ⟨n, rfl⟩ := hn
    obtain ⟨c, t, ht, hc⟩ := number_cons n
    refine Or.inl ⟨c, t, ht, ?_, ?_⟩
    · rintro rfl
      exact absurd hc (by decide)
    · rintro rfl
      exact absurd hc (by decide)
  | string hb => exact Or.inr (Or.inl ⟨_, rfl, hb⟩)
  | emptyObject hw => exact Or.inr (Or.inr ⟨_, rfl, (ws_cuts hw).1⟩)
  | object hb => exact Or.inr (Or.inr ⟨_, rfl, derives_cuts hb⟩)
  | emptyArray _ => exact Or.inl ⟨ascii '[', _, rfl, by decide, by decide⟩
  | array _ => exact Or.inl ⟨ascii '[', _, rfl, by decide, by decide⟩

/-- The value of a member on a text that may be cut off: nothing of it is
there, or its first byte is, which is no whitespace. -/
theorem value_prefix {w v tail p : List UInt8} {d : ℕ} {u : Bool} (hw : Ws w) (hv : Derives .value v d u)
    (hp : p <+: w ++ (v ++ tail)) :
    skipWs p = [] ∨ ∃ c t q, v = c :: t ∧ isWs c = false ∧ p = w ++ c :: q ∧ skipWs p = c :: q ∧
      c :: q <+: v ++ tail := by
  obtain ⟨c, t, rfl, hc, -⟩ := value_cons hv
  rcases prefix_append_cases hp with ⟨hpw, -⟩ | ⟨q, rfl, hq⟩
  · exact Or.inl (skipWs_ws (hw.of_prefix hpw))
  rcases List.prefix_cons_iff.mp hq with rfl | ⟨q', rfl, -⟩
  · rw [List.append_nil]
    exact Or.inl (skipWs_ws hw)
  · exact Or.inr ⟨c, t, q', rfl, hc, rfl, by rw [skipWs_ws_append hw, skipWs_of_not_ws hc], hq⟩

/-- A string member on a text that may be cut off. -/
theorem parseString_prefix {w v tail p x r : List UInt8} {d : ℕ} {u : Bool} {cap : ℕ} (hcap : 0 < cap)
    (hw : Ws w) (hv : Derives .value v d u) (hp : p <+: w ++ (v ++ tail)) :
    parseString cap p = (x, .ok r) ↔
      (∃ raw, v = quoted raw ∧ Chars raw false ∧ Decodes raw x ∧ x.length < cap) ∧ p = w ++ (v ++ r) := by
  refine ⟨fun h => ?_, ?_⟩
  · rcases value_prefix hw hv hp with hnil | ⟨c, t, q, hct, hc, rfl, hskip, hq⟩
    · rw [parseString, hnil] at h
      cases h
    -- the value starts with the quote that the scan asked for
    by_cases hquote : c = ascii '"'
    swap
    · rw [parseString, hskip, eat_ne hquote] at h
      cases h
    subst hquote
    rcases value_shape hv with ⟨c, t', rfl, hne, -⟩ | ⟨raw, rfl, hraw⟩ | ⟨b, rfl, -⟩
    · exact absurd (List.cons.inj hct).1 hne
    swap
    · exact absurd (List.cons.inj hct).1 (by decide)
    rcases prefix_append_cases hq with ⟨hq', hlt⟩ | ⟨q', hq', -⟩
    · exact absurd (congrArg Prod.snd h) (parseString_cut hw hraw hq' hlt cap r)
    · rw [hq', quoted_append, parseString_quote hw] at h
      obtain ⟨rfl, rfl, s, hs, hlen⟩ := stringLoop_only hraw cap q' h
      obtain ⟨hx, hlt⟩ := hlen hcap
      rw [List.nil_append] at hx
      subst hx
      exact ⟨⟨raw, rfl, hraw, hs, by simpa using hlt (by simpa using hcap)⟩, by rw [hq']⟩
  · rintro ⟨⟨raw, rfl, hraw, hs, hlt⟩, rfl⟩
    rw [quoted_append, parseString_quote hw,
      stringLoop_ok hraw rfl cap r hs [] (fun _ => by simpa using hlt), if_pos hcap, List.nil_append]

/-- The payload on a text that may be cut off. -/
theorem payload_prefix {w v tail p r : List UInt8} {d : ℕ} {u : Bool} (hw : Ws w)
    (hv : Derives .value v d u) (hfol : ∀ q, q <+: tail → Follows q) (hp : p <+: w ++ (v ++ tail)) :
    (skipValue (skipFuel (skipWs p)) 1 (skipWs p) = .ok r ∧ (eat '{' (skipWs p)).isSome) ↔
      (v.head? = some (ascii '{') ∧ u = false ∧ d ≤ maxNesting) ∧ p = w ++ (v ++ r) := by
  have hfits : Fits 1 d ↔ d ≤ maxNesting := by
    unfold Fits maxNesting
    omega
  refine ⟨fun ⟨hval, hbrace⟩ => ?_, ?_⟩
  · rcases value_prefix hw hv hp with hnil | ⟨c, t, q, hct, hc, rfl, hskip, hq⟩
    · rw [hnil] at hbrace
      cases hbrace
    rw [hskip] at hval hbrace
    by_cases hc' : c = ascii '{'
    swap
    · rw [eat_ne hc'] at hbrace
      cases hbrace
    subst hc'
    rcases value_shape hv with ⟨c, t', rfl, -, hne⟩ | ⟨raw, rfl, -⟩ | ⟨b, hb, hcut⟩
    · exact absurd (List.cons.inj hct).1 hne
    · exact absurd (List.cons.inj hct).1 (by decide)
    rcases prefix_append_cases hq with ⟨hq', hlt⟩ | ⟨q', hq', hqt⟩
    · rw [hb] at hq' hlt
      exact absurd hval (skipValue_object_cut hcut hq' hlt le_rfl r)
    · rw [hq', skipValue_iff hv 1 r _ (hfol q' hqt), hfits] at hval
      · obtain ⟨rfl, hu, hd⟩ := hval
        exact ⟨⟨by rw [hct]; rfl, hu, hd⟩, by rw [hq']⟩
      · unfold skipFuel
        simp only [List.length_append]
        omega
  · rintro ⟨⟨hhead, hu, hd⟩, rfl⟩
    obtain ⟨c, t, hct, hc, -⟩ := value_cons hv
    have hr : r <+: tail := by
      have := (List.prefix_append_right_inj w).mp hp
      exact (List.prefix_append_right_inj v).mp this
    have hskip : skipWs (w ++ (v ++ r)) = v ++ r := by
      rw [skipWs_ws_append hw, hct, List.cons_append, skipWs_of_not_ws hc]
    rw [hskip]
    refine ⟨(skipValue_iff hv 1 r ?_ (hfol r hr)).mpr ⟨rfl, hu, hfits.mpr hd⟩, ?_⟩
    · unfold skipFuel
      simp only [List.length_append]
      omega
    · rw [hct, List.head?_cons, Option.some.injEq] at hhead
      rw [hct, hhead, List.cons_append, eat_self]
      rfl

theorem scans_iff (m : Member) {tail p x r : List UInt8} (hfol : ∀ q, q <+: tail → Follows q)
    (hp : p <+: m.beforeValue ++ (m.value ++ tail)) (f : Field) :
    Scans p x r f ↔ m.Holds x f ∧ p = m.beforeValue ++ (m.value ++ r) := by
  cases f with
  | id =>
    rw [Scans, parseString_prefix (by decide) m.beforeValue_ws m.value_derives hp]
    simp only [Member.Holds, idCap, Nat.lt_succ_iff]
  | cmd =>
    rw [Scans, parseString_prefix (by decide) m.beforeValue_ws m.value_derives hp]
    simp only [Member.Holds, cmdCap, Nat.lt_succ_iff]
  | payload =>
    rw [Scans, payload_prefix m.beforeValue_ws m.value_derives hfol hp]
    simp only [Member.Holds, and_assoc]

theorem cString_name (f : Field) : cString (utf8 f.name) = utf8 f.name := by
  cases f <;> decide

/-- The scan of a complete key. -/
theorem parseString_key {m : Member} {f : Field} (hname : Decodes m.key (utf8 f.name))
    (rest : List UInt8) {key j : List UInt8} :
    parseString keyCap (m.before ++ (quoted m.key ++ rest)) = (key, .ok j) ↔
      m.keyU = false ∧ key = utf8 f.name ∧ j = rest := by
  have hlen : (utf8 f.name).length < keyCap := by cases f <;> decide
  rw [quoted_append, parseString_quote m.before_ws]
  refine ⟨fun h => ?_, fun ⟨hu, hkey, hj⟩ => ?_⟩
  · obtain ⟨hj, hu, -⟩ := stringLoop_only m.key_chars keyCap rest h
    rw [stringLoop_ok m.key_chars hu keyCap rest hname [] (fun _ => by simpa using hlen),
      if_pos (by decide), Prod.mk.injEq] at h
    exact ⟨hu, h.1.symm, hj⟩
  · rw [stringLoop_ok m.key_chars hu keyCap rest hname [] (fun _ => by simpa using hlen),
      if_pos (by decide), hkey, hj]
    rfl

/-- **One member of a request.** On a text that may be cut off, a member is
taken exactly when the cut is behind its value and the daemon's limits are
kept. -/
theorem requestMember_iff {m : Member} {f : Field} (hname : Decodes m.key (utf8 f.name))
    {s s' : RequestState} (hs : s.has f = false) {tail p r : List UInt8}
    (hfol : ∀ q, q <+: tail → Follows q) (hp : p <+: m.upTo tail) :
    (requestMember s p).2 = .ok (s', r) ↔
      p = m.upTo r ∧ m.keyU = false ∧ ∃ x, m.Holds x f ∧ s' = s.put f x := by
  rw [requestMember_eq_ok]
  constructor
  · rintro ⟨key, j1, j2, g, x, hkey, hcolon, hg, -, hscan, rfl⟩
    obtain ⟨hj2, rfl⟩ := keyHead_cut m.before_ws m.key_chars m.afterKey_ws hp (congrArg Prod.snd hkey) hcolon
    obtain ⟨hu, rfl, -⟩ := (parseString_key hname _).mp hkey
    have hgf : g = f := by
      rw [cString_name] at hg
      cases f <;> cases g <;> first | rfl | exact absurd hg (by decide)
    subst hgf
    obtain ⟨hx, rfl⟩ := (scans_iff m hfol hj2 g).mp hscan
    exact ⟨rfl, hu, x, hx, rfl⟩
  · rintro ⟨rfl, hu, x, hx, rfl⟩
    have hr : m.beforeValue ++ (m.value ++ r) <+: m.beforeValue ++ (m.value ++ tail) := by
      obtain ⟨z, hz⟩ := hp
      simp only [Member.upTo, List.append_assoc, List.cons_append, List.append_cancel_left_eq,
        List.cons.injEq, true_and] at hz
      exact ⟨z, by simp [hz]⟩
    exact ⟨_, _, m.beforeValue ++ (m.value ++ r), f, x, (parseString_key hname _).mpr ⟨hu, rfl, rfl⟩,
      eat_after_ws (by decide) m.afterKey_ws _, cString_name f, hs, (scans_iff m hfol hr f).mpr ⟨hx, rfl⟩, rfl⟩

/-! ### The loop over the members -/

def RequestState.Complete (s : RequestState) : Prop := ∀ f, s.has f = true

theorem requestEnd_eq_ok {s : RequestState} {json : List UInt8} {req : IpcRequest} :
    requestEnd s json = (req, .ok ()) ↔ skipWs json = [] ∧ s.Complete ∧ req = s.request := by
  have hall : (!s.haveId || !s.haveCmd || !s.havePayload) = false ↔ s.Complete := by
    refine ⟨fun h f => ?_, fun h => ?_⟩
    · simp only [Bool.or_eq_false_iff, Bool.not_eq_false'] at h
      obtain ⟨⟨h1, h2⟩, h3⟩ := h
      cases f <;> assumption
    · have h1 : s.haveId = true := h .id
      have h2 : s.haveCmd = true := h .cmd
      have h3 : s.havePayload = true := h .payload
      simp [h1, h2, h3]
  rw [requestEnd]
  cases skipWs json with
  | cons b j => simp [reject]
  | nil =>
    cases hm : (!s.haveId || !s.haveCmd || !s.havePayload) with
    | true =>
      have hn : ¬ s.Complete := fun h => by
        rw [hall.mpr h] at hm
        cases hm
      simp [reject, hn]
    | false => simp [hall.mp hm, eq_comm]

theorem requestMember_skipWs (s : RequestState) (json : List UInt8) :
    requestMember s (skipWs json) = requestMember s json := by
  simp only [requestMember, parseString, skipWs_skipWs]

/-- How a member of the request is followed: a comma and further members, the
closing brace and the end, or the end of the frame. -/
def Ends (fuel : ℕ) (s : RequestState) (json : List UInt8) (req : IpcRequest) : Prop :=
  (∃ j, eat ',' (skipWs json) = some j ∧ requestLoop fuel s j = (req, .ok ())) ∨
    (eat ',' (skipWs json) = none ∧
      ((∃ j, eat '}' (skipWs json) = some j ∧ requestEnd s j = (req, .ok ())) ∨
        (skipWs json = [] ∧ requestEnd s [] = (req, .ok ()))))

theorem requestLoop_eq_ok {fuel : ℕ} {s : RequestState} {json : List UInt8} {req : IpcRequest} :
    requestLoop (fuel + 1) s json = (req, .ok ()) ↔
      (json = [] ∧ requestEnd s [] = (req, .ok ())) ∨
      (∃ j, eat '}' (skipWs json) = some j ∧ requestEnd s j = (req, .ok ())) ∨
      (json ≠ [] ∧ eat '}' (skipWs json) = none ∧
        ∃ s' j, (requestMember s json).2 = .ok (s', j) ∧ Ends fuel s' j req) := by
  cases json with
  | nil => simp [requestLoop, skipWs]
  | cons b json =>
    rw [requestLoop]
    cases h0 : eat '}' (skipWs (b :: json)) with
    | some j => simp
    | none =>
      simp only [requestMember_skipWs, reduceCtorEq, false_and, exists_false, false_or, ne_eq,
        not_false_eq_true, true_and]
      rcases hm : requestMember s (b :: json) with ⟨request, e | ⟨s', j⟩⟩
      · simp
      · simp only [Except.ok.injEq, Prod.mk.injEq, Ends, and_assoc]
        cases h1 : eat ',' (skipWs j) with
        | some j2 => simp [h1]
        | none =>
          cases h2 : eat '}' (skipWs j) with
          | some j2 =>
            have h3 : skipWs j ≠ [] := fun h => by
              rw [h] at h2
              cases h2
            simp [h1, h2, h3]
          | none =>
            cases h3 : skipWs j with
            | nil => simp [h3]
            | cons c t =>
              rw [h3] at h1 h2
              simp [h1, h2, h3, reject]

/-- The members of a request, separated by commas, and what follows them. -/
def membersText : List (Field × Member) → List UInt8 → List UInt8
  | [], tail => tail
  | [(_, m)], tail => m.upTo (m.after ++ tail)
  | (_, m) :: fm :: ms, tail => m.upTo (m.after ++ ascii ',' :: membersText (fm :: ms) tail)

/-- Where the value of the last member ends. -/
def valuesLength : List (Field × Member) → ℕ
  | [] => 0
  | [(_, m)] => (m.upTo []).length
  | (_, m) :: fm :: ms => (m.upTo []).length + (m.after.length + 1) + valuesLength (fm :: ms)

/-- Every member is one the daemon accepts, and taking them in turn leads
from `s` to `s'`. -/
def Fills : List (Field × Member) → RequestState → RequestState → Prop
  | [], s, s' => s' = s
  | (f, m) :: ms, s, s' => m.keyU = false ∧ ∃ x, m.Holds x f ∧ Fills ms (s.put f x) s'

/-- No member of a request starts with a closing brace, cut off or not. -/
theorem member_not_brace (m : Member) {tail p : List UInt8} (hp : p <+: m.upTo tail) :
    eat '}' (skipWs p) = none := by
  rcases prefix_append_cases hp with ⟨hw, -⟩ | ⟨q, rfl, hq⟩
  · exact eat_ws_none _ (m.before_ws.of_prefix hw)
  · rw [quoted_append] at hq
    rcases List.prefix_cons_iff.mp hq with rfl | ⟨q, rfl, -⟩
    · rw [List.append_nil, eat_ws_none _ m.before_ws]
    · exact eat_other '"' '}' (by decide) (by decide) m.before_ws q

/-- One turn of the loop on a member that may be cut off. -/
theorem requestLoop_turn {m : Member} {f : Field} (hname : Decodes m.key (utf8 f.name)) {s : RequestState}
    (hs : s.has f = false) {tail p : List UInt8} (hfol : ∀ q, q <+: tail → Follows q)
    (hp : p <+: m.upTo tail) {fuel : ℕ} {req : IpcRequest} :
    requestLoop (fuel + 1) s p = (req, .ok ()) ↔
      ∃ q, p = m.upTo q ∧ m.keyU = false ∧ ∃ x, m.Holds x f ∧ Ends fuel (s.put f x) q req := by
  have hnot : ¬ s.Complete := fun h => by
    rw [h f] at hs
    cases hs
  rw [requestLoop_eq_ok, member_not_brace m hp, requestEnd_eq_ok]
  simp only [hnot, false_and, and_false, false_or, reduceCtorEq, exists_false, true_and,
    requestMember_iff hname hs hfol hp]
  constructor
  · rintro ⟨-, s', q, ⟨rfl, hu, x, hx, rfl⟩, hend⟩
    exact ⟨q, rfl, hu, x, hx, hend⟩
  · rintro ⟨q, rfl, hu, x, hx, hend⟩
    exact ⟨by simp [Member.upTo, quoted], _, q, ⟨rfl, hu, x, hx, rfl⟩, hend⟩

theorem upTo_prefix_iff {m : Member} {q tail : List UInt8} : m.upTo q <+: m.upTo tail ↔ q <+: tail := by
  simp only [Member.upTo, List.prefix_append_right_inj, List.prefix_cons_inj]

theorem follows_prefix_brace {w t : List UInt8} (hw : Ws w) :
    ∀ q, q <+: w ++ ascii '}' :: t → Follows q := by
  intro q hq
  rcases prefix_append_cases hq with ⟨hq', -⟩ | ⟨z, rfl, hz⟩
  · exact follows_of_ws (hw.of_prefix hq')
  rcases List.prefix_cons_iff.mp hz with rfl | ⟨z', rfl, -⟩
  · rw [List.append_nil]
    exact follows_of_ws hw
  · exact follows_ws hw (by decide) z'

/-- At the end of the frame nothing else is asked for than that the members
are there. -/
theorem ends_ws {w : List UInt8} (hw : Ws w) {fuel : ℕ} {s : RequestState} {req : IpcRequest} :
    Ends fuel s w req ↔ s.Complete ∧ req = s.request := by
  simp [Ends, skipWs_ws hw, requestEnd_eq_ok, skipWs]

theorem ends_brace {w t : List UInt8} (hw : Ws w) (ht : Ws t) {fuel : ℕ} {s : RequestState}
    {req : IpcRequest} : Ends fuel s (w ++ ascii '}' :: t) req ↔ s.Complete ∧ req = s.request := by
  have hne : skipWs (w ++ ascii '}' :: t) ≠ [] := by
    rw [skipWs_ws_append hw, skipWs_of_not_ws (by decide)]
    simp
  simp [Ends, eat_other '}' ',' (by decide) (by decide) hw, eat_after_ws (c := '}') (by decide) hw,
    requestEnd_eq_ok, skipWs_ws ht, hne]

theorem ends_comma {w t : List UInt8} (hw : Ws w) {fuel : ℕ} {s : RequestState} {req : IpcRequest} :
    Ends fuel s (w ++ ascii ',' :: t) req ↔ requestLoop fuel s t = (req, .ok ()) := by
  simp [Ends, eat_after_ws (c := ',') (by decide) hw]

/-- **The loop on every prefix of a request.** -/
theorem requestLoop_iff {trail : List UInt8} (htrail : Ws trail) :
    ∀ (fields : List (Field × Member)) (p : List UInt8) (fuel : ℕ) (s : RequestState) (req : IpcRequest),
      fields ≠ [] → p <+: membersText fields (ascii '}' :: trail) → p.length + 1 ≤ fuel →
      (fields.map Prod.fst).Nodup → (∀ fm ∈ fields, Decodes fm.2.key (utf8 fm.1.name) ∧ s.has fm.1 = false) →
      (requestLoop fuel s p = (req, .ok ()) ↔
        valuesLength fields ≤ p.length ∧ ∃ s', Fills fields s s' ∧ s'.Complete ∧ req = s'.request)
  | [], _, _, _, _, hne, _, _, _, _ => absurd rfl hne
  | [(f, m)], p, fuel, s, req, _, hp, hf, _, hall => by
    obtain ⟨fuel, rfl⟩ := Nat.exists_eq_add_of_le' (show 1 ≤ fuel by omega)
    obtain ⟨hname, hs⟩ := hall (f, m) List.mem_cons_self
    rw [membersText] at hp
    rw [requestLoop_turn hname hs (follows_prefix_brace m.after_ws) hp]
    -- behind the value there is whitespace, then at most the brace and whitespace
    have hends : ∀ q, q <+: m.after ++ ascii '}' :: trail → ∀ s' : RequestState,
        Ends fuel s' q req ↔ s'.Complete ∧ req = s'.request := by
      intro q hq s'
      rcases prefix_append_cases hq with ⟨hq', -⟩ | ⟨z, rfl, hz⟩
      · exact ends_ws (m.after_ws.of_prefix hq')
      rcases List.prefix_cons_iff.mp hz with rfl | ⟨z', rfl, hz'⟩
      · rw [List.append_nil]
        exact ends_ws m.after_ws
      · exact ends_brace m.after_ws (htrail.of_prefix hz')
    constructor
    · rintro ⟨q, rfl, hu, x, hx, hend⟩
      rw [hends q (upTo_prefix_iff.mp hp)] at hend
      refine ⟨?_, _, ⟨hu, x, hx, rfl⟩, hend⟩
      rw [valuesLength, m.length_upTo q]
      omega
    · rintro ⟨hlen, s', ⟨hu, x, hx, rfl⟩, hend⟩
      obtain ⟨q, rfl⟩ := m.upTo_of_length hp hlen
      exact ⟨q, rfl, hu, x, hx, (hends q (upTo_prefix_iff.mp hp) _).mpr hend⟩
  | (f, m) :: (g, m') :: ms, p, fuel, s, req, _, hp, hf, hnd, hall => by
    obtain ⟨fuel, rfl⟩ := Nat.exists_eq_add_of_le' (show 1 ≤ fuel by omega)
    obtain ⟨hname, hs⟩ := hall (f, m) List.mem_cons_self
    rw [membersText] at hp
    rw [requestLoop_turn hname hs (follows_prefix_comma m.after_ws) hp]
    have hgf : g ≠ f := fun h => by simp [h] at hnd
    have hnd' : (((g, m') :: ms).map Prod.fst).Nodup := (List.nodup_cons.mp hnd).2
    -- the fields still to come are not seen yet after `f`
    have hrest : ∀ x, ∀ fm ∈ (g, m') :: ms,
        Decodes fm.2.key (utf8 fm.1.name) ∧ (s.put f x).has fm.1 = false := by
      intro x fm hfm
      obtain ⟨h1, h2⟩ := hall fm (List.mem_cons_of_mem _ hfm)
      have hne : fm.1 ≠ f := by
        rintro rfl
        exact (List.nodup_cons.mp hnd).1 (List.mem_map.mpr ⟨fm, hfm, rfl⟩)
      exact ⟨h1, by simp [hne, h2]⟩
    have hincomplete : ∀ x, ¬ (s.put f x).Complete := fun x h => by
      have := (hrest x (g, m') List.mem_cons_self).2
      rw [h g] at this
      cases this
    have ih := fun p' x hp' hf' => requestLoop_iff htrail ((g, m') :: ms) p' fuel (s.put f x) req (by simp)
      hp' hf' hnd' (hrest x)
    rw [valuesLength]
    constructor
    · rintro ⟨q, rfl, hu, x, hx, hend⟩
      rw [m.length_upTo q] at hf ⊢
      rcases prefix_append_cases (upTo_prefix_iff.mp hp) with ⟨hq, -⟩ | ⟨z, rfl, hz⟩
      · exact absurd ((ends_ws (m.after_ws.of_prefix hq)).mp hend).1 (hincomplete x)
      rcases List.prefix_cons_iff.mp hz with rfl | ⟨z', rfl, hz'⟩
      · rw [List.append_nil] at hend
        exact absurd ((ends_ws m.after_ws).mp hend).1 (hincomplete x)
      simp only [List.length_append, List.length_cons] at hf ⊢
      rw [ends_comma m.after_ws, ih z' x hz' (by omega)] at hend
      obtain ⟨hlen, s', hfill, hs'⟩ := hend
      exact ⟨by omega, s', ⟨hu, x, hx, hfill⟩, hs'⟩
    · rintro ⟨hlen, s', ⟨hu, x, hx, hfill⟩, hs'⟩
      obtain ⟨q, rfl⟩ := m.upTo_of_length hp (by omega)
      rw [m.length_upTo q] at hf hlen
      refine ⟨q, rfl, hu, x, hx, ?_⟩
      rcases prefix_append_cases (upTo_prefix_iff.mp hp) with ⟨-, hq⟩ | ⟨z, rfl, hz⟩
      · omega
      rcases List.prefix_cons_iff.mp hz with rfl | ⟨z', rfl, hz'⟩
      · rw [List.append_nil] at hlen
        omega
      simp only [List.length_append, List.length_cons] at hf hlen
      rw [ends_comma m.after_ws, ih z' x hz' (by omega)]
      exact ⟨by omega, s', hfill, hs'⟩

/-! ### Whole requests -/

/-- A strict JSON request object: whitespace, then the members `id`, `cmd`
and `payload` in any order, each key written in any way that decodes to its
name. -/
structure RequestText where
  lead : List UInt8
  fields : List (Field × Member)
  lead_ws : Ws lead
  fields_perm : (fields.map Prod.fst).Perm [.id, .cmd, .payload]
  names : ∀ fm ∈ fields, Decodes fm.2.key (utf8 fm.1.name)

/-- The request followed by `trail` after its closing brace. -/
def RequestText.textThen (R : RequestText) (trail : List UInt8) : List UInt8 :=
  R.lead ++ ascii '{' :: membersText R.fields (ascii '}' :: trail)

/-- The bytes of the request, up to its closing brace. -/
def RequestText.text (R : RequestText) : List UInt8 := R.textThen []

/-- The position after the last member's value. -/
def RequestText.valuesEnd (R : RequestText) : ℕ := R.lead.length + 1 + valuesLength R.fields

/-- The request keeps the limits of the daemon: `id` is a string of at most
64 bytes, `cmd` one of at most 32, `payload` an object that nests at most 16
deep, and neither they nor the keys use a `\u` escape. -/
def RequestText.WithinLimits (R : RequestText) : Prop :=
  ∀ fm ∈ R.fields, fm.2.keyU = false ∧ ∃ x, fm.2.Holds x fm.1

theorem fills_iff : ∀ {fields : List (Field × Member)} {s : RequestState},
    (∃ s', Fills fields s s') ↔ ∀ fm ∈ fields, fm.2.keyU = false ∧ ∃ x, fm.2.Holds x fm.1
  | [], s => by simp [Fills]
  | (f, m) :: ms, s => by
    simp only [Fills, List.forall_mem_cons]
    constructor
    · rintro ⟨s', hu, x, hx, h⟩
      exact ⟨⟨hu, x, hx⟩, fills_iff.mp ⟨s', h⟩⟩
    · rintro ⟨⟨hu, x, hx⟩, h⟩
      obtain ⟨s', hs'⟩ := (fills_iff (s := s.put f x)).mpr h
      exact ⟨s', hu, x, hx, hs'⟩

theorem Fills.has : ∀ {fields : List (Field × Member)} {s s' : RequestState}, Fills fields s s' →
    ∀ f, (f ∈ fields.map Prod.fst ∨ s.has f = true) → s'.has f = true
  | [], s, s', h, f, hf => by
    rw [Fills] at h
    subst h
    simpa using hf
  | (g, m) :: ms, s, s', h, f, hf => by
    obtain ⟨-, x, -, h'⟩ := h
    refine Fills.has h' f ?_
    rw [List.map_cons, List.mem_cons] at hf
    rcases hf with (rfl | hf) | hf
    · exact Or.inr (by simp)
    · exact Or.inl hf
    · exact Or.inr (by simp [hf])

/-- **The parser on every prefix of a request.** It accepts exactly the
prefixes that reach the end of the last value, of the requests within the
limits, and stores what the members hold. -/
theorem parseRequest_iff (R : RequestText) {trail p : List UInt8} (htrail : Ws trail)
    (hp : p <+: R.textThen trail) (req : IpcRequest) :
    parseRequest p = (req, .ok ()) ↔
      R.valuesEnd ≤ p.length ∧ ∃ s', Fills R.fields {} s' ∧ req = s'.request := by
  have hperm := R.fields_perm
  have hne : R.fields ≠ [] := fun h => by
    rw [h] at hperm
    exact absurd hperm.length_eq (by simp)
  have hnd : (R.fields.map Prod.fst).Nodup := hperm.nodup_iff.mpr (by decide)
  have hmem : ∀ f : Field, f ∈ R.fields.map Prod.fst := fun f =>
    hperm.mem_iff.mpr (by cases f <;> simp)
  have hcomplete : ∀ s', Fills R.fields {} s' → s'.Complete := fun s' h f => h.has f (Or.inl (hmem f))
  rcases prefix_append_cases hp with ⟨hw, hlt⟩ | ⟨q, rfl, hq⟩
  · rw [parseRequest, eat_ws_none _ (R.lead_ws.of_prefix hw)]
    refine iff_of_false (fun h => by cases h) fun h => ?_
    unfold RequestText.valuesEnd at h
    omega
  rcases List.prefix_cons_iff.mp hq with rfl | ⟨q', rfl, hq'⟩
  · rw [List.append_nil, parseRequest, eat_ws_none _ R.lead_ws]
    refine iff_of_false (fun h => by cases h) fun h => ?_
    unfold RequestText.valuesEnd at h
    omega
  rw [parseRequest, eat_after_ws (by decide) R.lead_ws]
  simp only
  rw [requestLoop_iff htrail R.fields q' _ {} req hne hq' le_rfl hnd
    fun fm hfm => ⟨R.names fm hfm, by cases fm.1 <;> rfl⟩]
  unfold RequestText.valuesEnd
  simp only [List.length_append, List.length_cons]
  constructor
  · rintro ⟨hlen, s', hfill, -, hreq⟩
    exact ⟨by omega, s', hfill, hreq⟩
  · rintro ⟨hlen, s', hfill, hreq⟩
    exact ⟨by omega, s', hfill, hcomplete s' hfill, hreq⟩

/-- **Truncated requests.** What is left of a request after a cut is answered
by an error exactly when the cut is before the end of the last value, or the
request was beyond the limits of the daemon anyway. -/
theorem truncated_rejected_iff (R : RequestText) (p : List UInt8) (hp : p <+: R.text) :
    (∃ e, (parseRequest p).2 = .error (.rejected e)) ↔ p.length < R.valuesEnd ∨ ¬ R.WithinLimits := by
  have hok : (parseRequest p).2 = .ok () ↔ R.valuesEnd ≤ p.length ∧ R.WithinLimits := by
    unfold RequestText.WithinLimits
    rw [← fills_iff (s := {})]
    constructor
    · intro h
      obtain ⟨hlen, s', hfill, -⟩ := (parseRequest_iff R Ws.nil hp _).mp (Prod.ext rfl h)
      exact ⟨hlen, s', hfill⟩
    · rintro ⟨hlen, s', hfill⟩
      exact congrArg Prod.snd ((parseRequest_iff R Ws.nil hp _).mpr ⟨hlen, s', hfill, rfl⟩)
  rw [← not_le, ← not_and_or, ← hok]
  rcases parseRequest_settles p with h | ⟨e, h, -⟩
  · simp [h]
  · simp [h]

/-- A member without whitespace and `\u` escapes. -/
def plainMember (key value : List UInt8) (depth : ℕ) (hkey : Chars key false)
    (hvalue : Derives .value value depth false) : Member :=
  { before := [], key := key, afterKey := [], beforeValue := [], value := value, after := [],
    depth := depth, keyU := false, valueU := false, before_ws := Ws.nil, key_chars := hkey,
    afterKey_ws := Ws.nil, beforeValue_ws := Ws.nil, value_derives := hvalue, after_ws := Ws.nil }

theorem chars_plain : ∀ {b : List UInt8}, (∀ c ∈ b, isPlain c = true) → Chars b false
  | [], _ => .nil
  | c :: _, h => .plain (h c List.mem_cons_self) (chars_plain fun d hd => h d (List.mem_cons_of_mem _ hd))

theorem id_chars : Chars (utf8 "id") false := chars_plain (by decide)

theorem cmd_chars : Chars (utf8 "cmd") false := chars_plain (by decide)

theorem payload_chars : Chars (utf8 "payload") false := chars_plain (by decide)

theorem ping_derives : Derives .value (quoted (utf8 "ping")) 0 false := .string (chars_plain (by decide))

theorem braces_derives : Derives .value (utf8 "\x7b\x7d") 1 false := .emptyObject Ws.nil

/-- A ping request. -/
def pingText : RequestText :=
  { lead := []
    fields :=
      [(.id, plainMember (utf8 "id") (quoted (utf8 "a")) 0 id_chars (.string (chars_plain (by decide)))),
        (.cmd, plainMember (utf8 "cmd") (quoted (utf8 "ping")) 0 cmd_chars ping_derives),
        (.payload, plainMember (utf8 "payload") (utf8 "\x7b\x7d") 1 payload_chars braces_derives)]
    lead_ws := Ws.nil
    fields_perm := List.Perm.refl _
    names := fun fm hfm => by
      simp only [List.mem_cons, List.not_mem_nil, or_false] at hfm
      rcases hfm with rfl | rfl | rfl <;> exact decodes_plain (by decide) }

/-- The cut in the middle of the payload is noticed. -/
theorem truncated_rejected_ping :
    pingText.text = utf8 "\x7b\"id\":\"a\",\"cmd\":\"ping\",\"payload\":\x7b\x7d\x7d" ∧
      ∃ e, (parseRequest (pingText.text.take 34)).2 = .error (.rejected e) :=
  ⟨by decide +kernel, (truncated_rejected_iff pingText _ (List.take_prefix _ _)).mpr
    (Or.inl (by decide +kernel))⟩

/-- The missing brace at the end is not. -/
theorem truncated_ping_accepted :
    ¬ ∀ (R : RequestText) (p : List UInt8), p <+: R.text → p.length < R.text.length →
      ∃ e, (parseRequest p).2 = .error (.rejected e) := by
  intro h
  obtain ⟨e, he⟩ := h pingText pingText.text.dropLast (List.dropLast_prefix _) (by decide +kernel)
  have hok : (parseRequest pingText.text.dropLast).2 = .ok () := by decide +kernel
  rw [hok] at he
  cases he

end JsonProto
end Dpdkd
end Pktlab
