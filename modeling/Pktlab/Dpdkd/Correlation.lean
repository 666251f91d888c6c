/-
# The identifier that a response carries

The parser fills the identifier while it scans, and the response to a frame
that fails carries what is there when the scan stops. The first member whose
key is read as `id` decides (`requestLoop_taken`); without one the identifier
is empty, and the response says `unknown` (`requestLoop_untaken`). What is
kept of a string is cut at 64 bytes and before the first `\u` escape
(`stringLoop_stem`), and a cut identifier is echoed as it is
(`long_id_truncated`).

Key definitions: `Takes`, `kept`, `IdMember`, `Correlated`, `Survives`.
Key theorems: `requestLoop_taken`, `requestLoop_untaken`, `stringLoop_stem`,
`IdMember.accepted`, `response_correlated_iff`.
-/
import Pktlab.Dpdkd.JsonMembers
import Pktlab.Dpdkd.IpcServer
import Pktlab.Dpdkd.Response

namespace Pktlab
namespace Dpdkd
namespace JsonProto

open Utf8 Rfc8259 Outline

/-! ### Which member gives the identifier -/

/-- The parser goes from one member to a later one: each member before it is
accepted and followed by a comma. -/
inductive Turns : RequestState → List UInt8 → RequestState → List UInt8 → Prop
  | here {s : RequestState} {t : List UInt8} : Turns s t s t
  | turn {s s₁ s₂ : RequestState} {t j t₁ t₂ : List UInt8} : (requestMember s t).2 = .ok (s₁, j) →
      eat ',' (skipWs j) = some t₁ → Turns s₁ t₁ s₂ t₂ → Turns s t s₂ t₂

/-- In the members `body` of a request, the one at `t` is reached, is the first
whose key is read as `id`, and has the value text `q`. -/
def Takes (body t q : List UInt8) : Prop :=
  ∃ s, Turns {} body s t ∧ s.haveId = false ∧ ReadsId t q

theorem starts_turn {s s' : RequestState} {t j t' : List UInt8} (hmember : (requestMember s t).2 = .ok (s', j))
    (hcomma : eat ',' (skipWs j) = some t') : starts t = t :: starts t' := by
  obtain ⟨v, rfl, hv⟩ := requestMember_passes hmember
  obtain ⟨w, hw, rfl⟩ := eat_skipWs_text hcomma
  rw [← List.append_assoc, starts_comma (hv.append (passes_ws hw))]

theorem eat_quote_of_key {cap : ℕ} {json key j : List UInt8} (h : parseString cap json = (key, .ok j)) :
    json ≠ [] ∧ eat '}' (skipWs json) = none := by
  obtain ⟨w, k, n, hw, rfl, -, -⟩ := parseString_text h
  refine ⟨by simp [quoted], ?_⟩
  rw [List.append_assoc]
  exact eat_quoted_none (by decide) hw k j

theorem eat_quote_of_member {s s' : RequestState} {json j : List UInt8}
    (h : (requestMember s json).2 = .ok (s', j)) : json ≠ [] ∧ eat '}' (skipWs json) = none := by
  obtain ⟨key, j1, j2, f, x, hkey, -⟩ := requestMember_eq_ok.mp h
  exact eat_quote_of_key hkey

/-- A turn of the loop that ends with a comma. -/
theorem requestLoop_comma {fuel : ℕ} {s s' : RequestState} {t j t' : List UInt8}
    (hmember : (requestMember s t).2 = .ok (s', j)) (hcomma : eat ',' (skipWs j) = some t') :
    requestLoop (fuel + 1) s t = requestLoop fuel s' t' := by
  obtain ⟨hne, hbrace⟩ := eat_quote_of_member hmember
  cases t with
  | nil => exact absurd rfl hne
  | cons b t =>
    rcases hm : requestMember s (b :: t) with ⟨request, result⟩
    rw [hm] at hmember
    dsimp only at hmember
    subst hmember
    rw [requestLoop]
    simp only [hbrace, requestMember_skipWs, hm, hcomma]

/-- The identifier that a turn leaves when the loop does not go on. -/
theorem requestLoop_last {fuel : ℕ} {s : RequestState} {t : List UInt8} (x : List UInt8)
    (hs : eat '}' (skipWs t) ≠ none ∨ t = [] → s.request.id = x) (hm : (requestMember s t).1.id = x)
    (hok : ∀ s' j, (requestMember s t).2 = .ok (s', j) → s'.request.id = x ∧
      ∀ t', eat ',' (skipWs j) = some t' → (requestLoop fuel s' t').1.id = x) :
    (requestLoop (fuel + 1) s t).1.id = x := by
  cases t with
  | nil =>
    rw [requestLoop, requestEnd_request]
    exact hs (Or.inr rfl)
  | cons b t =>
    rw [requestLoop]
    cases hbrace : eat '}' (skipWs (b :: t)) with
    | some j =>
      simp only [requestEnd_request]
      exact hs (Or.inl (by simp [hbrace]))
    | none =>
      simp only [requestMember_skipWs]
      rcases hrun : requestMember s (b :: t) with ⟨request, e | ⟨s', j⟩⟩
      · rw [hrun] at hm
        exact hm
      · obtain ⟨hid, hloop⟩ := hok s' j (by rw [hrun])
        dsimp only
        cases hcomma : eat ',' (skipWs j) with
        | some t' => exact hloop t' hcomma
        | none =>
          cases hclose : eat '}' (skipWs j) with
          | some t' =>
            dsimp only
            rw [requestEnd_request, hid]
          | none =>
            cases hrest : skipWs j with
            | nil =>
              dsimp only
              rw [requestEnd_request, hid]
            | cons c j' => exact hid

/-- Where no member that is reached is taken, the identifier stays. -/
theorem requestLoop_untaken : ∀ (fuel : ℕ) {s : RequestState} {t : List UInt8},
    (∀ s' t' q, Turns s t s' t' → ReadsId t' q → s'.haveId = true) →
    (requestLoop fuel s t).1.id = s.request.id
  | 0, s, t, _ => by rw [requestLoop.eq_def]
  | fuel + 1, s, t, h => by
    rcases requestMember_id s t with ⟨-, hm, hok⟩ | ⟨q, hq, hnew, -, -⟩
    · refine requestLoop_last _ (fun _ => rfl) hm fun s' j hmember => ⟨(hok s' j hmember).1, fun t' hcomma => ?_⟩
      rw [← (hok s' j hmember).1]
      exact requestLoop_untaken fuel fun s'' t'' q ht hq => h s'' t'' q (.turn hmember hcomma ht) hq
    · rw [h s t q .here hq] at hnew
      cases hnew

/-- An identifier that was taken is not taken again. -/
theorem turns_haveId {s s' : RequestState} {t t' : List UInt8} (h : Turns s t s' t') (hs : s.haveId = true) :
    s'.haveId = true := by
  induction h with
  | here => exact hs
  | @turn s s₁ s₂ t j t₁ t₂ hmember _ _ ih =>
    apply ih
    rcases requestMember_id s t with ⟨-, -, hok⟩ | ⟨q, -, hnew, -, -⟩
    · rw [(hok s₁ j hmember).2, hs]
    · rw [hs] at hnew
      cases hnew

/-- **The member that is taken gives the identifier**, whatever follows it. -/
theorem requestLoop_taken {s s' : RequestState} {t t' q : List UInt8} (h : Turns s t s' t')
    (hs' : s'.haveId = false) (hq : ReadsId t' q) : ∀ {fuel : ℕ}, t.length < fuel →
    (requestLoop fuel s t).1.id = (parseString idCap q).1 := by
  induction h with
  | @here s t =>
    intro fuel hfuel
    obtain ⟨fuel, rfl⟩ := Nat.exists_eq_add_of_le' (show 1 ≤ fuel by omega)
    obtain ⟨key, j, hkey, hcolon, hname⟩ := hq
    obtain ⟨hne, hbrace⟩ := eat_quote_of_key hkey
    rcases requestMember_id s t with ⟨hold, -, -⟩ | ⟨q', ⟨key', j', hkey', hcolon', -⟩, -, hm, hok⟩
    · rw [hold q ⟨key, j, hkey, hcolon, hname⟩] at hs'
      cases hs'
    · rw [hkey] at hkey'
      cases hkey'
      rw [hcolon] at hcolon'
      cases hcolon'
      refine requestLoop_last _ (fun hend => ?_) hm fun s₁ j₁ hmember =>
        ⟨(hok s₁ j₁ hmember).1, fun t₁ hcomma => ?_⟩
      · rcases hend with hend | hend
        · exact absurd hbrace hend
        · exact absurd hend hne
      · rw [← (hok s₁ j₁ hmember).1]
        exact requestLoop_untaken fuel fun _ _ _ ht _ => turns_haveId ht (hok s₁ j₁ hmember).2
  | @turn s s₁ s₂ t j t₁ t₂ hmember hcomma _ ih =>
    intro fuel hfuel
    obtain ⟨fuel, rfl⟩ := Nat.exists_eq_add_of_le' (show 1 ≤ fuel by omega)
    rw [requestLoop_comma hmember hcomma]
    refine ih hs' hq ?_
    have hcut := eat_skipWs_length hcomma
    have hshort : j.length < t.length := by
      obtain ⟨w, k, w', v, f, x, -, -, rfl, -⟩ := requestMember_text hmember
      simp only [quoted, List.length_append, List.length_cons]
      omega
    omega

/-! ### What is kept of a string -/

theorem skipWs_eq_dropWhile : ∀ b : List UInt8, skipWs b = b.dropWhile isWs
  | [] => rfl
  | c :: b => by
    cases h : isWs c with
    | true => rw [skipWs_cons_ws h, List.dropWhile_cons_of_pos h, skipWs_eq_dropWhile b]
    | false => rw [skipWs_of_not_ws h, List.dropWhile_cons_of_neg (by simp [h])]

theorem after_eq_eat (c : Char) (b : List UInt8) : after c b = eat c (skipWs b) := by
  rw [skipWs_eq_dropWhile]
  unfold after eat
  cases b.dropWhile isWs with
  | nil => rfl
  | cons x rest => rfl

/-- The buffer of a string holds its stem, as far as it fits. -/
theorem stringLoop_stem {cap : ℕ} : ∀ (json : List UInt8) {out : List UInt8}, out.length < cap →
    (stringLoop cap json out).1 = (out ++ stem json).take (cap - 1)
  | [], out, hlen => by
    rw [stringLoop, stem, List.append_nil, List.take_of_length_le (by omega)]
  | ch :: json, out, hlen => by
    have hcap : 0 < cap := by omega
    have hstop : out.take (cap - 1) = out := List.take_of_length_le (by omega)
    -- a byte is stored if there is room for it
    have hstore : ∀ {x : UInt8} {json' t : List UInt8}, (full cap out = false →
        (stringLoop cap json' (store cap out x)).1 = (store cap out x ++ t).take (cap - 1)) →
        (if full cap out then (out, reject "JSON string exceeds the allowed size")
          else stringLoop cap json' (store cap out x)).1 = (out ++ x :: t).take (cap - 1) := by
      intro x json' t hrec
      cases hfull : full cap out with
      | true =>
        have hroom : cap - 1 ≤ out.length := by
          simp only [full, Bool.and_eq_true, decide_eq_true_eq] at hfull
          omega
        rw [if_pos rfl, List.take_append_of_le_length hroom, hstop]
      | false =>
        rw [if_neg (by simp), hrec hfull, store_append hcap]
    have hroom : ∀ {x : UInt8}, full cap out = false → (store cap out x).length < cap := by
      intro x hfull
      simp only [full, Bool.and_eq_false_iff, decide_eq_false_iff_not] at hfull
      rw [store_length hcap]
      omega
    by_cases hq : ch = ascii '"'
    · subst hq
      rw [stringLoop_quote, stem_quote, List.append_nil, hstop]
    by_cases hb : ch = ascii '\\'
    · subst hb
      rw [stringLoop.eq_def]
      simp only [hq, ↓reduceIte]
      cases json with
      | nil =>
        rw [stem.eq_def]
        simp only [hq, ↓reduceIte]
        rw [List.append_nil, hstop]
      | cons e json =>
        dsimp only
        rw [escaped_eq]
        cases he : unescape e with
        | none =>
          dsimp only
          rw [stem_stop he, List.append_nil, hstop]
        | some x =>
          dsimp only
          rw [stem_esc he]
          exact hstore fun hfull => stringLoop_stem json (hroom hfull)
    · rw [stringLoop.eq_def]
      simp only [hq, hb, ↓reduceIte]
      rw [stem_plain hq hb]
      exact hstore fun hfull => stringLoop_stem json (hroom hfull)

/-- The C string that is kept of a string that is read at `q`. -/
def kept (q : List UInt8) : List UInt8 := cString (((after '"' q).elim [] stem).take maxIdLen)

theorem cString_parseString (q : List UInt8) : cString (parseString idCap q).1 = kept q := by
  unfold kept parseString
  rw [after_eq_eat]
  cases eat '"' (skipWs q) with
  | none => rfl
  | some b =>
    dsimp only
    rw [stringLoop_stem b (by decide), List.nil_append]
    rfl

theorem kept_quoted {w raw : List UInt8} {u : Bool} (hw : Ws w) (hraw : Chars raw u) (rest : List UInt8) :
    kept (w ++ (quoted raw ++ rest)) = (stem raw).take maxIdLen := by
  unfold kept
  rw [quoted_append, after_eq (by decide) hw, Option.elim_some, stem_chars hraw, cString_of_no_nul]
  exact fun h0 => stem_no_nul hraw (List.mem_of_mem_take h0)

/-! ### The member `id` of a frame -/

/-- The member that starts here is named `id`. -/
def Named (t : List UInt8) : Prop :=
  ∃ w k rest, Ws w ∧ t = w ++ (quoted k ++ rest) ∧ Decodes k (utf8 "id")

/-- The top-level member `id` of a frame, with a well-formed string as its
value: what the outline of the frame shows as its first member of this name.
Nothing is asked of the other members, nor of what follows the string. -/
structure IdMember (frame : List UInt8) where
  lead : List UInt8
  body : List UInt8
  before : List (List UInt8)
  member : Member
  raw : List UInt8
  escapes : Bool
  tail : List UInt8
  later : List (List UInt8)
  lead_ws : Ws lead
  frame_eq : frame = lead ++ ascii '{' :: body
  starts_eq : starts body = before ++ member.upTo tail :: later
  named : Decodes member.key (utf8 "id")
  first : ∀ t ∈ before, ¬ Named t
  value_eq : member.value = quoted raw
  chars : Chars raw escapes

namespace IdMember

variable {frame : List UInt8} (m : IdMember frame)

/-- The text from the member on. -/
def text : List UInt8 := m.member.upTo m.tail

/-- The text from its value on. -/
def valueText : List UInt8 := m.member.beforeValue ++ (quoted m.raw ++ m.tail)

theorem parseKey {key j : List UInt8} : parseString keyCap m.text = (key, .ok j) ↔
    m.member.keyU = false ∧ key = utf8 "id" ∧ j = m.member.afterKey ++ ascii ':' :: m.valueText := by
  unfold text Member.upTo valueText
  rw [m.value_eq]
  exact parseString_key (f := .id) m.named _

theorem readsId_iff {q : List UInt8} : ReadsId m.text q ↔ m.member.keyU = false ∧ q = m.valueText := by
  unfold ReadsId
  constructor
  · rintro ⟨key, j, hkey, hcolon, -⟩
    obtain ⟨hu, -, rfl⟩ := m.parseKey.mp hkey
    rw [eat_after_ws (by decide) m.member.afterKey_ws, Option.some.injEq] at hcolon
    exact ⟨hu, hcolon.symm⟩
  · rintro ⟨hu, rfl⟩
    exact ⟨_, _, m.parseKey.mpr ⟨hu, rfl, rfl⟩, eat_after_ws (by decide) m.member.afterKey_ws _, cString_name .id⟩

theorem kept_value : kept m.valueText = (stem m.raw).take maxIdLen := kept_quoted m.member.beforeValue_ws m.chars _

/-- Where the parser accepts the member, it is the one that is taken, and the
string was complete, without a `\u` escape, and short enough. -/
theorem of_accepted {s s' : RequestState} {j : List UInt8} (h : (requestMember s m.text).2 = .ok (s', j)) :
    s.haveId = false ∧ s'.haveId = true ∧ ReadsId m.text m.valueText ∧ m.escapes = false ∧
      (stem m.raw).length ≤ maxIdLen := by
  obtain ⟨key, j1, j2, f, x, hkey, hcolon, hname, hnew, hscan, rfl⟩ := requestMember_eq_ok.mp h
  obtain ⟨hu, rfl, rfl⟩ := m.parseKey.mp hkey
  rw [eat_after_ws (by decide) m.member.afterKey_ws, Option.some.injEq] at hcolon
  subst hcolon
  obtain rfl : f = .id := by
    apply name_inj
    rw [← hname]
    exact cString_name .id
  have hvalue : stringLoop idCap (m.raw ++ ascii '"' :: m.tail) [] = (x, .ok j) := by
    rw [← parseString_quote m.member.beforeValue_ws, ← quoted_append]
    exact hscan
  obtain ⟨-, hplain, y, hy, hlen⟩ := stringLoop_only m.chars idCap m.tail hvalue
  have hfits := (hlen (by decide)).2 (by decide)
  obtain rfl := (decodes_iff_stem m.chars hplain).mp hy
  refine ⟨hnew, rfl, m.readsId_iff.mpr ⟨hu, rfl⟩, hplain, ?_⟩
  simp only [idCap, List.length_nil, maxIdLen] at hfits ⊢
  omega

/-! ### Where the parser gets -/

/-- The member that is taken is this one or one before it. -/
theorem taken_before {s s' : RequestState} {t t' : List UInt8} (h : Turns s t s' t') (hs' : s'.haveId = false) :
    ∀ {before : List (List UInt8)}, starts t = before ++ m.text :: m.later → t' ∈ before ∨ t' = m.text := by
  induction h with
  | @here s t =>
    intro before hstarts
    obtain ⟨ts, hcons⟩ := starts_cons t
    rw [hcons] at hstarts
    cases before with
    | nil => exact Or.inr (List.cons.inj hstarts).1
    | cons b before => exact Or.inl (List.mem_cons.mpr (Or.inl (List.cons.inj hstarts).1))
  | @turn s s₁ s₂ t j t₁ t₂ hmember hcomma hrest ih =>
    intro before hstarts
    rw [starts_turn hmember hcomma] at hstarts
    cases before with
    | nil =>
      obtain ⟨rfl, -⟩ := List.cons.inj hstarts
      rw [turns_haveId hrest (m.of_accepted hmember).2.1] at hs'
      cases hs'
    | cons b before =>
      obtain ⟨-, hlater⟩ := List.cons.inj hstarts
      exact (ih hs' hlater).imp (List.mem_cons_of_mem b) id

/-- In a frame that is accepted this member is. -/
theorem accepted : ∀ (fuel : ℕ) {s : RequestState} {t : List UInt8}
    {request : IpcRequest} {before : List (List UInt8)}, requestLoop fuel s t = (request, .ok ()) →
    starts t = before ++ m.text :: m.later →
    ∃ s' s'' j, Turns s t s' m.text ∧ (requestMember s' m.text).2 = .ok (s'', j)
  | 0, s, t, request, before, h, _ => by
    rw [requestLoop] at h
    cases h
  | fuel + 1, s, t, request, before, h, hstarts => by
    have hquote : m.text = m.member.before ++ (quoted m.member.key ++
        (m.member.afterKey ++ ascii ':' :: (m.member.beforeValue ++ (m.member.value ++ m.tail)))) := rfl
    -- where the text is its only piece, this piece is the member
    have honly : starts t = [t] → t = m.text := by
      intro hone
      rw [hone] at hstarts
      have hmem : m.text ∈ [t] := hstarts ▸ List.mem_append_right before List.mem_cons_self
      exact (List.mem_singleton.mp hmem).symm
    have hbrace : eat '}' (skipWs m.text) = none := by
      rw [hquote]
      exact eat_quoted_none (by decide) m.member.before_ws _ _
    rcases requestLoop_eq_ok.mp h with ⟨rfl, -⟩ | ⟨j, hend, -⟩ | ⟨-, -, s', j, hmember, hends⟩
    · have hnil := honly (starts_end (Passes.nil _ _))
      rw [hquote] at hnil
      simp [quoted] at hnil
    · obtain ⟨w, hw, rfl⟩ := eat_skipWs_text hend
      rw [honly (starts_brace (passes_ws hw) j), hbrace] at hend
      cases hend
    obtain ⟨v, rfl, hv⟩ := requestMember_passes hmember
    rcases hends with ⟨t₁, hcomma, hloop⟩ | ⟨-, ⟨j', hclose, -⟩ | ⟨hnil, -⟩⟩
    · rw [starts_turn hmember hcomma] at hstarts
      cases before with
      | nil =>
        obtain ⟨heq, -⟩ := List.cons.inj hstarts
        rw [heq] at hmember ⊢
        exact ⟨s, s', j, .here, hmember⟩
      | cons b before =>
        obtain ⟨-, hlater⟩ := List.cons.inj hstarts
        obtain ⟨s₂, s₃, j₂, hturns, hat⟩ := accepted fuel hloop hlater
        exact ⟨s₂, s₃, j₂, .turn hmember hcomma hturns, hat⟩
    · obtain ⟨w, hw, rfl⟩ := eat_skipWs_text hclose
      have heq : v ++ (w ++ ascii '}' :: j') = m.text := by
        apply honly
        rw [← List.append_assoc]
        exact starts_brace (hv.append (passes_ws hw)) j'
      rw [heq] at hmember ⊢
      exact ⟨s, _, _, .here, hmember⟩
    · have heq : v ++ j = m.text := honly (starts_end (hv.append (passes_ws (skipWs_eq_nil hnil))))
      rw [heq] at hmember ⊢
      exact ⟨s, _, _, .here, hmember⟩

theorem parseRequest_eq : parseRequest frame = requestLoop (m.body.length + 1) {} m.body := by
  have hopen : eat '{' (skipWs frame) = some m.body :=
    (congrArg (fun b => eat '{' (skipWs b)) m.frame_eq).trans (eat_after_ws (by decide) m.lead_ws m.body)
  unfold parseRequest
  rw [hopen]

theorem storedId_taken {t q : List UInt8} (h : Takes m.body t q) : storedId frame = kept q := by
  obtain ⟨s, hturns, hnew, hreads⟩ := h
  unfold storedId
  rw [m.parseRequest_eq, requestLoop_taken hturns hnew hreads (Nat.lt_succ_self _), cString_parseString]

theorem storedId_untaken (h : ∀ t q, ¬ Takes m.body t q) : storedId frame = [] := by
  have huntaken : ∀ s t q, Turns {} m.body s t → ReadsId t q → s.haveId = true := by
    intro s t q hturns hreads
    by_contra hnew
    exact h t q ⟨s, hturns, by simpa using hnew, hreads⟩
  unfold storedId
  rw [m.parseRequest_eq, requestLoop_untaken _ huntaken]
  rfl

theorem takes_cases {t q : List UInt8} (h : Takes m.body t q) : t ∈ m.before ∨ t = m.text := by
  obtain ⟨s, hturns, hnew, -⟩ := h
  exact m.taken_before hturns hnew m.starts_eq

/-- In a frame that is accepted the member is taken, and completely. -/
theorem stored_of_accepted {request : IpcRequest} (h : parseRequest frame = (request, .ok ())) :
    Decodes m.raw (storedId frame) := by
  rw [m.parseRequest_eq] at h
  obtain ⟨s, s', j, hturns, hat⟩ := m.accepted _ h m.starts_eq
  obtain ⟨hnew, -, hreads, hplain, hlen⟩ := m.of_accepted hat
  rw [m.storedId_taken ⟨s, hturns, hnew, hreads⟩, m.kept_value, List.take_of_length_le hlen]
  exact (decodes_iff_stem m.chars hplain).mpr rfl

end IdMember

/-! ### The identifier of a response -/

/-- The string of the first member of a response, which has to be `id`. -/
def idOf (response : List UInt8) : Option (List UInt8) :=
  ((after '{' response).bind stringAt).bind fun key =>
    if key.1 = utf8 "id" then ((after ':' key.2).bind stringAt).bind fun value => unquote value.1 else none

theorem unquotes_escapeText : ∀ b : List UInt8, Unquotes (escapeText b) b
  | [] => .nil
  | ch :: b => by
    have ih := unquotes_escapeText b
    show Unquotes ((replacement ch).getD [ch] ++ escapeText b) (ch :: b)
    cases hr : replacement ch with
    | none =>
      have hne : ∀ c : UInt8, (replacement c).isSome → ch ≠ c := by
        rintro c hc rfl
        rw [hr] at hc
        cases hc
      exact .plain (hne _ (by decide)) (hne _ (by decide)) ih
    | some r =>
      obtain ⟨e, rfl, he⟩ := replacement_decodes hr
      exact .esc he ih

theorem idOf_eq {id k : List UInt8} (h : Unquotes k id) (rest : List UInt8) :
    idOf (utf8 "\x7b\"id\":\"" ++ k ++ (ascii '"' :: rest)) = some id := by
  have hname : Unquotes (utf8 "id") (utf8 "id") :=
    .plain (by decide) (by decide) (.plain (by decide) (by decide) .nil)
  have hkey := stringAt_eq Ws.nil hname (ascii ':' :: (quoted k ++ rest))
  have hvalue := stringAt_eq Ws.nil h rest
  have htext : utf8 "\x7b\"id\":\"" ++ k ++ (ascii '"' :: rest) =
      [] ++ ascii '{' :: ([] ++ quoted (utf8 "id") ++ ([] ++ ascii ':' :: (quoted k ++ rest))) := by
    rw [quoted_append]
    simp only [List.nil_append, List.append_assoc]
    rfl
  rw [List.nil_append] at hvalue
  unfold idOf
  rw [htext, after_eq (by decide) Ws.nil, Option.bind_some, List.nil_append (ascii ':' :: _), hkey,
    Option.bind_some, if_pos rfl, ← List.nil_append (ascii ':' :: _), after_eq (by decide) Ws.nil, Option.bind_some,
    hvalue, Option.bind_some, h.eq]

theorem idOf_errorResponse (id : List UInt8) (e : DpdkdError) : idOf (errorResponse id e) = some id := by
  unfold errorResponse errorText
  simp only [List.append_assoc]
  exact idOf_eq (unquotes_escapeText id) _

theorem idOf_successText (id payload : List UInt8) : idOf (successText (escapeText id) payload) = some id := by
  unfold successText
  simp only [List.append_assoc]
  exact idOf_eq (unquotes_escapeText id) _

/-! ### When a response is correlated -/

/-- `PKTLAB_JSON_PROTO_UNKNOWN_ID`, or all that the string `raw` stands for. -/
def Proper (raw y : List UInt8) : Prop := y = utf8 "unknown" ∨ Decodes raw y

/-- The frame is answered, and the identifier of the response is proper for
the string `raw`. -/
def Correlated (d : Daemon) (frame raw : List UInt8) : Prop :=
  ∃ d' response y, serveFrame dispatchRequest d frame = (d', some response) ∧ idOf response = some y ∧
    Proper raw y

/-- The buffer holds all of the string, or what stands before its first `\u`
escape is nothing or `unknown`. -/
def Survives (raw : List UInt8) (escapes : Bool) : Prop :=
  if escapes then stem raw = [] ∨ stem raw = utf8 "unknown" else (stem raw).length ≤ maxIdLen

theorem proper_shownId_iff {raw y : List UInt8} : Proper raw (shownId y) ↔ y = [] ∨ Proper raw y := by
  unfold shownId
  by_cases hy : y = []
  · rw [if_pos hy]
    exact iff_of_true (Or.inl rfl) (Or.inl hy)
  · rw [if_neg hy]
    exact ⟨Or.inr, fun h => h.resolve_left hy⟩

theorem eq_of_take_eq {n : ℕ} {b b' : List UInt8} (h : b.take n = b') (hlen : b'.length < n) : b = b' := by
  have hmin := congrArg List.length h
  rw [List.length_take] at hmin
  rw [← h, List.take_of_length_le (by omega)]

/-- The part of a string that is kept. -/
theorem proper_take_iff {raw : List UInt8} {u : Bool} (h : Chars raw u) :
    (stem raw).take maxIdLen = [] ∨ Proper raw ((stem raw).take maxIdLen) ↔ Survives raw u := by
  have hempty : (stem raw).take maxIdLen = [] → stem raw = [] := fun htake => eq_of_take_eq htake (by decide)
  have hunknown : (stem raw).take maxIdLen = utf8 "unknown" → stem raw = utf8 "unknown" := fun htake =>
    eq_of_take_eq htake (by decide)
  unfold Proper Survives
  cases u with
  | false =>
    rw [decodes_iff_stem h rfl, if_neg (by simp)]
    constructor
    · rintro (htake | htake | htake)
      · rw [hempty htake]
        decide
      · rw [hunknown htake]
        decide
      · have hlen := congrArg List.length htake
        rw [List.length_take] at hlen
        omega
    · intro hlen
      exact Or.inr (Or.inr (List.take_of_length_le hlen))
  | true =>
    rw [if_pos rfl]
    constructor
    · rintro (htake | htake | hdecodes)
      · exact Or.inl (hempty htake)
      · exact Or.inr (hunknown htake)
      · obtain ⟨z, hz, hnil⟩ := decodes_stem h hdecodes
        have hne : z ≠ [] := fun heq => absurd (hnil.mp heq) (by decide)
        have hpos := List.length_pos_of_ne_nil hne
        have hlen := congrArg List.length hz
        rw [List.length_take, List.length_append] at hlen
        omega
    · rintro (hstem | hstem)
      · rw [hstem]
        exact Or.inl rfl
      · rw [hstem]
        exact Or.inr (Or.inl rfl)

/-- The identifier that the daemon stores decides. -/
theorem correlated_iff_stored {n0 n1 : CStr} (h0 : n0.bytes.length < nameLen) (h1 : n1.bytes.length < nameLen)
    {d : Daemon} (hd : Serving n0 n1 d) {frame : List UInt8} (m : IdMember frame) :
    Correlated d frame m.raw ↔ storedId frame = [] ∨ Proper m.raw (storedId frame) := by
  -- the response is determined, and so is its identifier
  have hanswer : ∀ {d' : Daemon} {response y : List UInt8}, handleFrame d frame = (d', some response) →
      idOf response = some y → (Correlated d frame m.raw ↔ Proper m.raw y) := by
    intro d' response y hhandle hid
    unfold Correlated
    rw [serveFrame_dispatchRequest, hhandle]
    constructor
    · rintro ⟨_, _, y', heq, hid', hy⟩
      cases heq
      rw [hid] at hid'
      cases hid'
      exact hy
    · exact fun hy => ⟨d', response, y, rfl, hid, hy⟩
  cases hf : failure d frame with
  | some e =>
    rw [hanswer (handleFrame_failure hd h0 h1 hf) (idOf_errorResponse _ e)]
    exact proper_shownId_iff
  | none =>
    obtain ⟨c, -, hhandle⟩ := handleFrame_success hd h0 h1 hf
    rw [hanswer hhandle (idOf_successText _ _)]
    rcases failure_cases d frame with ⟨request, e, -, hf', -⟩ | ⟨request, hparse, -⟩
    · rw [hf] at hf'
      cases hf'
    · have hstored := m.stored_of_accepted hparse
      exact iff_of_true (Or.inr hstored) (Or.inr (Or.inr hstored))

/-- **When a response is correlated.** Whatever else is in a frame that has a
top-level `id` with a well-formed string, the response of a daemon that runs
carries all of the string or `unknown` if and only if

* what the parser takes from a member before it, if it takes one for the
  identifier, is nothing, `unknown` or all of the string;
* and if it takes this member, the string survives: it fits the buffer, or
  nothing but `unknown` stands before its first `\u` escape. -/
theorem response_correlated_iff {config : DatapathConfig} {init : DatapathInit}
    (hinit : datapathInit config = .ok init) (env : StartEnv) {events : List Event} {d : Daemon}
    (hrun : Run.run daemonStep (start env init) events = some d) {frame : List UInt8} (m : IdMember frame) :
    Correlated d frame m.raw ↔
      (∀ t ∈ m.before, ∀ q, Takes m.body t q → kept q = [] ∨ Proper m.raw (kept q)) ∧
      (∀ q, Takes m.body m.text q → Survives m.raw m.escapes) := by
  obtain ⟨h0, h1, -, -⟩ := names_of_datapathInit hinit
  rw [correlated_iff_stored h0 h1 (run_serving hinit env hrun) m, ← proper_take_iff m.chars, ← m.kept_value]
  have hvalue : ∀ {q : List UInt8}, Takes m.body m.text q → q = m.valueText := fun h => by
    obtain ⟨-, -, -, hreads⟩ := h
    exact (m.readsId_iff.mp hreads).2
  constructor
  · intro hstored
    refine ⟨fun t _ q htakes => ?_, fun q htakes => ?_⟩
    · rwa [m.storedId_taken htakes] at hstored
    · rwa [m.storedId_taken htakes, hvalue htakes] at hstored
  · rintro ⟨hbefore, hself⟩
    by_cases htaken : ∃ t q, Takes m.body t q
    · obtain ⟨t, q, htakes⟩ := htaken
      rw [m.storedId_taken htakes]
      rcases m.takes_cases htakes with ht | rfl
      · exact hbefore t ht q htakes
      · rw [hvalue htakes]
        exact hself q htakes
    · push Not at htaken
      exact Or.inl (m.storedId_untaken htaken)

/-- A frame that begins with its identifier. -/
def IdMember.ofFirst {raw : List UInt8} {u : Bool} (h : Chars raw u) (tail : List UInt8) :
    IdMember (ascii '{' :: (quoted (utf8 "id") ++ ascii ':' :: (quoted raw ++ tail))) where
  lead := []
  body := quoted (utf8 "id") ++ ascii ':' :: (quoted raw ++ tail)
  before := []
  member :=
    { before := [], key := utf8 "id", afterKey := [], beforeValue := [], value := quoted raw, after := [],
      depth := 0, keyU := false, valueU := u, before_ws := Ws.nil, key_chars := id_chars,
      afterKey_ws := Ws.nil, beforeValue_ws := Ws.nil, value_derives := .string h, after_ws := Ws.nil }
  raw := raw
  escapes := u
  tail := tail
  later := (starts (quoted (utf8 "id") ++ ascii ':' :: (quoted raw ++ tail))).tail
  lead_ws := Ws.nil
  frame_eq := rfl
  starts_eq := by
    obtain ⟨ts, hts⟩ := starts_cons (quoted (utf8 "id") ++ ascii ':' :: (quoted raw ++ tail))
    rw [hts]
    rfl
  named := show Decodes (utf8 "id") (utf8 "id") from decodes_plain (by decide)
  first := fun _ ht => absurd ht List.not_mem_nil
  value_eq := rfl
  chars := h

/-- Behind this identifier the frame is cut off. -/
theorem cut_frame_correlated : Correlated (start .noDpdk defaultInit)
    (ascii '{' :: (quoted (utf8 "id") ++ ascii ':' :: (quoted (utf8 "a") ++ utf8 ",\"cmd\":"))) (utf8 "a") := by
  have hinit : datapathInit defaultConfig = .ok defaultInit := by decide +kernel
  have hrun : Run.run daemonStep (start .noDpdk defaultInit) [] = some (start .noDpdk defaultInit) := rfl
  have hchars : Chars (utf8 "a") false := chars_plain (by decide)
  have hiff := response_correlated_iff hinit .noDpdk hrun (IdMember.ofFirst hchars (utf8 ",\"cmd\":"))
  refine hiff.mpr ⟨?_, fun q _ => ?_⟩
  · exact fun t ht => absurd ht List.not_mem_nil
  · show (stem (utf8 "a")).length ≤ maxIdLen
    decide

/-- Of an identifier of 65 bytes the response carries 64. -/
theorem long_id_truncated :
    ¬ ∀ {config : DatapathConfig} {init : DatapathInit}, datapathInit config = .ok init →
      ∀ (env : StartEnv) {events : List Event} {d : Daemon},
        Run.run daemonStep (start env init) events = some d →
          ∀ {frame : List UInt8} (m : IdMember frame), Correlated d frame m.raw := by
  intro h
  have hinit : datapathInit defaultConfig = .ok defaultInit := by decide +kernel
  have hrun : Run.run daemonStep (start .noDpdk defaultInit) [] = some (start .noDpdk defaultInit) := rfl
  have hplain : ∀ c ∈ List.replicate 65 (ascii 'a'), isPlain c = true := by decide
  have hchars : Chars (List.replicate 65 (ascii 'a')) false := chars_plain hplain
  obtain ⟨h0, h1, -, -⟩ := names_of_datapathInit hinit
  have hcorrelated := h hinit .noDpdk hrun
    (IdMember.ofFirst hchars (utf8 ",\"cmd\":\"ping\",\"payload\":\x7b\x7d\x7d"))
  rw [correlated_iff_stored h0 h1 (run_serving hinit .noDpdk hrun)] at hcorrelated
  have hstored : storedId (ascii '{' :: (quoted (utf8 "id") ++ ascii ':' ::
      (quoted (List.replicate 65 (ascii 'a')) ++ utf8 ",\"cmd\":\"ping\",\"payload\":\x7b\x7d\x7d"))) =
      List.replicate 64 (ascii 'a') := by decide +kernel
  rw [hstored] at hcorrelated
  rcases hcorrelated with hempty | hunknown | hdecodes
  · exact absurd hempty (by decide)
  · exact absurd hunknown (by decide +kernel)
  · exact absurd (decodes_plain_eq hplain hdecodes) (by decide +kernel)

end JsonProto
end Dpdkd
end Pktlab
