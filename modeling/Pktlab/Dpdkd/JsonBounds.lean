/-
# Every scan ends, inside the buffer

A scan that starts with `n` bytes left either returns with fewer left or
rejects with an error of its own (`Settles n`): it never reads past the end
and never runs out of fuel. The skippers call each other, so the statement
for the five of them is one induction on the fuel; `3 n + 1` is enough for
`skipValue` because a container costs three calls and at least one byte.

Key theorems: `stringLoop_settles`, `skipValue_settles`,
`parseRequest_settles`.
-/
import Pktlab.Dpdkd.JsonProto

namespace Pktlab
namespace Dpdkd
namespace JsonProto

open Utf8 Rfc8259

/-- A message that an error response can carry as it is: printable, neither
empty nor longer than 127 bytes, nothing to escape. -/
def Sayable (message : String) : Prop :=
  utf8 message ≠ [] ∧ (utf8 message).length ≤ 127 ∧ ∀ c ∈ utf8 message, isPlain c = true

instance (message : String) : Decidable (Sayable message) :=
  inferInstanceAs (Decidable (_ ∧ _ ∧ _))

/-- Success with fewer than `n` bytes left, or an error of the C code. -/
def Settles (n : ℕ) : Except Fail (List UInt8) → Prop
  | .ok json => json.length < n
  | .error (.rejected e) => Sayable e.message
  | .error _ => False

theorem Settles.mono {m n : ℕ} (h : m ≤ n) : ∀ {r : Except Fail (List UInt8)}, Settles m r → Settles n r
  | .ok _, hr => lt_of_lt_of_le hr h
  | .error (.rejected _), hr => hr

/-- The messages that the parser rejects a request with. -/
def rejections : List String :=
  ["unterminated JSON string", "unterminated JSON escape sequence", "unsupported JSON escape sequence",
    "JSON string exceeds the allowed size", "expected a JSON string", "invalid JSON literal",
    "invalid JSON number", "JSON nesting exceeds the supported limit", "expected a JSON object",
    "unterminated JSON object", "expected object member separator", "expected ':' after object key",
    "expected ',' or '\x7d' in object", "expected a JSON array", "unterminated JSON array",
    "expected ',' or ']' in array", "unexpected end of JSON input", "unexpected JSON token",
    "expected ':' after request key", "duplicate request id field", "duplicate request command field",
    "duplicate request payload field", "unexpected top-level request field", "request contains trailing data",
    "request must include id, cmd, and payload", "expected ',' or '\x7d' in request object",
    "request must be a JSON object"]

theorem sayable_rejections : ∀ message ∈ rejections, Sayable message := by decide +kernel

theorem settles_reject (n : ℕ) (message : String) (h : message ∈ rejections := by simp [rejections]) :
    Settles n (reject message) := sayable_rejections message h

theorem Settles.rejected {n : ℕ} {e : Fail} (h : Settles n (.error e)) :
    ∃ err, e = .rejected err ∧ Sayable err.message := by
  cases e with
  | rejected err => exact ⟨err, rfl, h⟩
  | fault => exact h.elim
  | fuel => exact h.elim

/-! ### The leaves -/

theorem skipWs_length_le : ∀ json : List UInt8, (skipWs json).length ≤ json.length
  | [] => le_rfl
  | b :: json => by
    unfold skipWs
    split
    · exact le_rfl
    · have := skipWs_length_le json
      simp only [List.length_cons]
      omega

theorem eat_eq_some {c : Char} {json rest : List UInt8} :
    eat c json = some rest ↔ json = ascii c :: rest := by
  cases json with
  | nil => simp [eat]
  | cons b json =>
    unfold eat
    split
    · rename_i h
      simp [h]
    · rename_i h
      simp [h]

theorem eat_length {c : Char} {json rest : List UInt8} (h : eat c json = some rest) :
    rest.length + 1 = json.length := by
  rw [eat_eq_some] at h
  rw [h, List.length_cons]

theorem eat_skipWs_length {c : Char} {json rest : List UInt8} (h : eat c (skipWs json) = some rest) :
    rest.length < json.length := by
  have h1 := eat_length h
  have h2 := skipWs_length_le json
  omega

theorem stringLoop_settles (cap : ℕ) : ∀ (json out : List UInt8),
    Settles (json.length + 1) (stringLoop cap json out).2
  | [], _ => settles_reject _ _
  | ch :: json, out => by
    unfold stringLoop
    split
    · show json.length < _
      simp only [List.length_cons]
      omega
    · split
      · split
        · exact settles_reject _ _
        · rename_i b json'
          split
          · exact settles_reject _ _
          · split
            · exact settles_reject _ _
            · refine (stringLoop_settles cap json' _).mono ?_
              simp only [List.length_cons]
              omega
      · split
        · exact settles_reject _ _
        · refine (stringLoop_settles cap json _).mono ?_
          simp only [List.length_cons]
          omega

theorem parseString_settles (cap : ℕ) (json : List UInt8) :
    Settles json.length (parseString cap json).2 := by
  unfold parseString
  split
  · exact settles_reject _ _
  · rename_i rest h
    exact (stringLoop_settles cap rest []).mono (eat_skipWs_length h)

theorem skipLiteral_settles {literal : String} (hl : 0 < (utf8 literal).length) (json : List UInt8) :
    Settles json.length (skipLiteral literal json) := by
  unfold skipLiteral
  split
  · exact settles_reject _ _
  · rename_i h
    show (json.drop _).length < json.length
    rw [List.length_drop]
    omega

theorem skipDigits_length_le : ∀ json : List UInt8, (skipDigits json).length ≤ json.length
  | [] => le_rfl
  | b :: json => by
    unfold skipDigits
    split
    · have := skipDigits_length_le json
      simp only [List.length_cons]
      omega
    · exact le_rfl

theorem skipFraction_length_le (json : List UInt8) : (skipFraction json).length ≤ json.length := by
  unfold skipFraction
  split
  · rename_i rest h
    have h1 := eat_length h
    have h2 := skipDigits_length_le rest
    omega
  · exact le_rfl

theorem eat_or_length {c d : Char} {json rest : List UInt8} (h : (eat c json).or (eat d json) = some rest) :
    rest.length + 1 = json.length := by
  rcases hc : eat c json with _ | r
  · rw [hc, Option.none_or] at h
    exact eat_length h
  · rw [hc, Option.some_or] at h
    exact (Option.some.inj h) ▸ eat_length hc

theorem skipExponent_length_le (json : List UInt8) : (skipExponent json).length ≤ json.length := by
  unfold skipExponent
  split
  · rename_i rest h
    have h1 := eat_or_length h
    have h2 := skipDigits_length_le (((eat '+' rest).or (eat '-' rest)).getD rest)
    have h3 : (((eat '+' rest).or (eat '-' rest)).getD rest).length ≤ rest.length := by
      rcases hs : (eat '+' rest).or (eat '-' rest) with _ | r
      · exact le_rfl
      · have := eat_or_length hs
        simp only [Option.getD_some]
        omega
    omega
  · exact le_rfl

theorem skipNumber_settles (b : UInt8) (json : List UInt8) :
    Settles (json.length + 1) (skipNumber (b :: json)) := by
  unfold skipNumber
  simp only
  generalize hs : (if b = ascii '-' then json else b :: json) = afterSign
  split
  · exact settles_reject _ _
  · rename_i h
    have h1 := skipExponent_length_le (skipFraction (skipDigits afterSign))
    have h2 := skipFraction_length_le (skipDigits afterSign)
    have h3 := skipDigits_length_le afterSign
    have h4 : afterSign.length ≤ json.length + 1 := by
      rw [← hs]
      split <;> simp
    show (skipExponent _).length < _
    simp only [List.length_cons] at h
    omega

/-! ### The skippers -/

/-- What the five skippers do with `fuel`. -/
structure SkipSettles (fuel : ℕ) : Prop where
  value : ∀ depth json, 3 * json.length + 1 ≤ fuel → Settles json.length (skipValue fuel depth json)
  object : ∀ depth json, 3 * json.length ≤ fuel → 0 < json.length →
    Settles json.length (skipObject fuel depth json)
  members : ∀ depth expect json, 3 * json.length + 2 ≤ fuel →
    Settles (json.length + 1) (objectLoop fuel depth expect json)
  array : ∀ depth json, 3 * json.length ≤ fuel → 0 < json.length →
    Settles json.length (skipArray fuel depth json)
  elements : ∀ depth json, 3 * json.length + 2 ≤ fuel →
    Settles (json.length + 1) (arrayLoop fuel depth json)

theorem objectLoop_settles {fuel : ℕ} (ih : SkipSettles fuel) (depth : ℕ) (expect : Bool) :
    ∀ json : List UInt8, 3 * json.length + 2 ≤ fuel + 1 →
      Settles (json.length + 1) (objectLoop (fuel + 1) depth expect json)
  | [], _ => by
    unfold objectLoop
    exact settles_reject _ _
  | b :: json, hf => by
    unfold objectLoop
    have hw := skipWs_length_le (b :: json)
    split
    · rename_i rest h
      exact Nat.lt_succ_of_lt (eat_skipWs_length h)
    split
    · exact settles_reject _ _
    have hp := parseString_settles 0 (skipWs (b :: json))
    generalize (parseString 0 (skipWs (b :: json))).2 = key at hp ⊢
    cases key with
    | error e => exact Settles.mono (by omega) hp
    | ok json1 =>
      have hp' : json1.length < (skipWs (b :: json)).length := hp
      simp only
      split
      · exact settles_reject _ _
      rename_i json2 h2
      have h2' := eat_skipWs_length h2
      have hv := ih.value (depth + 1) json2 (by omega)
      generalize skipValue fuel (depth + 1) json2 = value at hv ⊢
      cases value with
      | error e => exact Settles.mono (by omega) hv
      | ok json3 =>
        have hv' : json3.length < json2.length := hv
        simp only
        split
        · rename_i json4 h4
          have h4' := eat_skipWs_length h4
          exact (ih.members depth true json4 (by omega)).mono (by omega)
        · split
          · rename_i json4 h4
            have h4' := eat_skipWs_length h4
            show json4.length < _
            omega
          · exact settles_reject _ _

theorem arrayLoop_settles {fuel : ℕ} (ih : SkipSettles fuel) (depth : ℕ) :
    ∀ json : List UInt8, 3 * json.length + 2 ≤ fuel + 1 →
      Settles (json.length + 1) (arrayLoop (fuel + 1) depth json)
  | [], _ => by
    unfold arrayLoop
    exact settles_reject _ _
  | b :: json, hf => by
    unfold arrayLoop
    have hw := skipWs_length_le (b :: json)
    split
    · rename_i rest h
      exact Nat.lt_succ_of_lt (eat_skipWs_length h)
    have hv := ih.value (depth + 1) (skipWs (b :: json)) (by omega)
    generalize skipValue fuel (depth + 1) (skipWs (b :: json)) = value at hv ⊢
    cases value with
    | error e => exact Settles.mono (by omega) hv
    | ok json1 =>
      have hv' : json1.length < (skipWs (b :: json)).length := hv
      simp only
      split
      · rename_i json2 h2
        have h2' := eat_skipWs_length h2
        exact (ih.elements depth json2 (by omega)).mono (by omega)
      · split
        · rename_i json2 h2
          have h2' := eat_skipWs_length h2
          show json2.length < _
          omega
        · exact settles_reject _ _

theorem skipSettles : ∀ fuel : ℕ, SkipSettles fuel
  | 0 =>
    { value := fun _ _ h => by omega
      object := fun _ _ h h' => by omega
      members := fun _ _ _ h => by omega
      array := fun _ _ h h' => by omega
      elements := fun _ _ h => by omega }
  | fuel + 1 => by
    have ih := skipSettles fuel
    refine ⟨fun depth json hf => ?_, fun depth json hf hpos => ?_,
      objectLoop_settles ih, fun depth json hf hpos => ?_, arrayLoop_settles ih⟩
    · unfold skipValue
      have hw := skipWs_length_le json
      split
      · exact settles_reject _ _
      rename_i b rest hb
      rw [hb, List.length_cons] at hw
      have hlit : ∀ literal : String, 0 < (utf8 literal).length →
          Settles json.length (skipLiteral literal (b :: rest)) := fun literal hl =>
        (skipLiteral_settles hl (b :: rest)).mono hw
      split
      · exact (ih.object depth (b :: rest) (by simp only [List.length_cons]; omega) (by simp)).mono hw
      split
      · exact (ih.array depth (b :: rest) (by simp only [List.length_cons]; omega) (by simp)).mono hw
      split
      · exact (parseString_settles 0 (b :: rest)).mono hw
      split
      · exact hlit "true" (by decide)
      split
      · exact hlit "false" (by decide)
      split
      · exact hlit "null" (by decide)
      split
      · exact (skipNumber_settles b rest).mono hw
      · exact settles_reject _ _
    · unfold skipObject
      split
      · exact settles_reject _ _
      · split
        · exact settles_reject _ _
        · rename_i rest h
          have h' := eat_skipWs_length h
          exact (ih.members depth true rest (by omega)).mono h'
    · unfold skipArray
      split
      · exact settles_reject _ _
      · split
        · exact settles_reject _ _
        · rename_i rest h
          have h' := eat_skipWs_length h
          exact (ih.elements depth rest (by omega)).mono h'

theorem skipValue_settles (depth : ℕ) (json : List UInt8) :
    Settles json.length (skipValue (skipFuel json) depth json) :=
  (skipSettles _).value depth json le_rfl

example : (skipValue (skipFuel (utf8 "[1, true]]")) 1 (utf8 "[1, true]]")).toOption = some (utf8 "]") := by
  decide +kernel

/-! ### The request -/

/-- Both string members leave what `parseString` leaves. -/
theorem stringMember_settles (cap : ℕ) (f : List UInt8 → IpcRequest) (g : List UInt8 → RequestState)
    (json : List UInt8) :
    Settles json.length ((match parseString cap json with
      | (out, .error e) => (f out, .error e)
      | (out, .ok json) => ((g out).request, .ok (g out, json)) :
        IpcRequest × Except Fail (RequestState × List UInt8)).2.map (·.2)) := by
  have hp := parseString_settles cap json
  generalize parseString cap json = p at hp ⊢
  obtain ⟨out, e | rest⟩ := p
  · exact hp
  · exact hp

theorem requestMember_settles (s : RequestState) (json : List UInt8) :
    Settles json.length ((requestMember s json).2.map (·.2)) := by
  unfold requestMember
  have hk := parseString_settles keyCap json
  generalize parseString keyCap json = k at hk ⊢
  obtain ⟨key, e | json1⟩ := k
  · exact hk
  · have hk' : json1.length < json.length := hk
    simp only
    split
    · exact settles_reject _ _
    rename_i json2 h2
    have h2' := eat_skipWs_length h2
    split
    · split
      · exact settles_reject _ _
      · exact (stringMember_settles idCap (fun out => { s.request with id := out })
          (fun out => { s with request := { s.request with id := out }, haveId := true }) json2).mono (by omega)
    split
    · split
      · exact settles_reject _ _
      · exact (stringMember_settles cmdCap (fun out => { s.request with cmd := out })
          (fun out => { s with request := { s.request with cmd := out }, haveCmd := true }) json2).mono (by omega)
    split
    · split
      · exact settles_reject _ _
      · have hw := skipWs_length_le json2
        have hv := skipValue_settles 1 (skipWs json2)
        generalize skipValue (skipFuel (skipWs json2)) 1 (skipWs json2) = v at hv ⊢
        cases v with
        | error e => exact Settles.mono (by omega) hv
        | ok json3 =>
          have hv' : json3.length < (skipWs json2).length := hv
          simp only
          split
          · trivial
          · show json3.length < _
            omega
    · exact settles_reject _ _

/-- The outcome is success or an error of the C code. -/
def Returns : Except Fail Unit → Prop
  | .ok () => True
  | .error (.rejected e) => Sayable e.message
  | .error _ => False

theorem returns_reject (message : String) (h : message ∈ rejections := by simp [rejections]) :
    Returns (reject message) := sayable_rejections message h

theorem requestEnd_returns (s : RequestState) (json : List UInt8) : Returns (requestEnd s json).2 := by
  unfold requestEnd
  split
  · exact returns_reject _
  · split
    · exact returns_reject _
    · trivial

theorem requestLoop_returns : ∀ (fuel : ℕ) (s : RequestState) (json : List UInt8),
    json.length + 1 ≤ fuel → Returns (requestLoop fuel s json).2
  | 0, _, _, h => by omega
  | fuel + 1, s, [], _ => by
    unfold requestLoop
    exact requestEnd_returns s []
  | fuel + 1, s, b :: json, hf => by
    unfold requestLoop
    have hw := skipWs_length_le (b :: json)
    split
    · exact requestEnd_returns _ _
    have hm := requestMember_settles s (skipWs (b :: json))
    generalize requestMember s (skipWs (b :: json)) = m at hm ⊢
    obtain ⟨request, e | ⟨s', json1⟩⟩ := m
    · obtain ⟨err, rfl, herr⟩ := Settles.rejected hm
      exact herr
    · have hm' : json1.length < (skipWs (b :: json)).length := hm
      simp only
      split
      · rename_i json2 h2
        have h2' := eat_skipWs_length h2
        exact requestLoop_returns fuel s' json2 (by simp only [List.length_cons] at *; omega)
      · split
        · exact requestEnd_returns _ _
        · split
          · exact requestEnd_returns _ _
          · exact returns_reject _

/-- **The parser returns.** On every buffer the outcome is success or an
error that the C code reports. -/
theorem parseRequest_settles (json : List UInt8) :
    (parseRequest json).2 = .ok () ∨
      ∃ e, (parseRequest json).2 = .error (.rejected e) ∧ Sayable e.message := by
  have h : Returns (parseRequest json).2 := by
    unfold parseRequest
    split
    · exact returns_reject _
    · exact requestLoop_returns _ _ _ le_rfl
  generalize (parseRequest json).2 = r at h ⊢
  rcases r with (e | _ | _) | ⟨⟩
  · exact Or.inr ⟨e, rfl, h⟩
  · cases h
  · cases h
  · exact Or.inl rfl

/-! ### The buffers -/

/-- A buffer of the parser never holds more than its capacity, less one for
the terminator. -/
theorem stringLoop_length {cap : ℕ} : ∀ (json out : List UInt8), out.length < cap →
    (stringLoop cap json out).1.length < cap
  | [], out, h => h
  | ch :: json, out, h => by
    have hstore : ∀ c, full cap out = false → (store cap out c).length < cap := by
      intro c hf
      simp only [full, Bool.and_eq_false_iff, decide_eq_false_iff_not] at hf
      rw [store, if_pos (by omega), List.length_append, List.length_singleton]
      omega
    unfold stringLoop
    split
    · exact h
    · split
      · split
        · exact h
        · split
          · exact h
          · split
            · exact h
            · rename_i hf
              exact stringLoop_length _ _ (hstore _ (by simpa using hf))
      · split
        · exact h
        · rename_i hf
          exact stringLoop_length _ _ (hstore _ (by simpa using hf))

theorem parseString_length {cap : ℕ} (hcap : 0 < cap) (json : List UInt8) :
    (parseString cap json).1.length < cap := by
  unfold parseString
  split
  · exact hcap
  · exact stringLoop_length _ _ hcap

/-- The member that starts here has a key that is read as `id`, and `q` is the
text from its value on. -/
def ReadsId (json q : List UInt8) : Prop :=
  ∃ key j, parseString keyCap json = (key, .ok j) ∧ eat ':' (skipWs j) = some q ∧ cString key = utf8 "id"

/-- What a member does to the identifier: nothing, or it is the first one that
is read as `id`, and what its string stores is the identifier from then on. -/
theorem requestMember_id (s : RequestState) (json : List UInt8) :
    ((∀ q, ReadsId json q → s.haveId = true) ∧ (requestMember s json).1.id = s.request.id ∧
      ∀ s' r, (requestMember s json).2 = .ok (s', r) → s'.request.id = s.request.id ∧ s'.haveId = s.haveId) ∨
    ∃ q, ReadsId json q ∧ s.haveId = false ∧ (requestMember s json).1.id = (parseString idCap q).1 ∧
      ∀ s' r, (requestMember s json).2 = .ok (s', r) → s'.request.id = (parseString idCap q).1 ∧ s'.haveId = true := by
  rcases hk : parseString keyCap json with ⟨key, e | j1⟩
  · refine Or.inl ⟨fun q ⟨key', j, hp, _⟩ => ?_, ?_, fun s' r h => ?_⟩
    · rw [hk] at hp
      cases hp
    · simp only [requestMember, hk]
    · simp only [requestMember, hk] at h
      cases h
  cases hc : eat ':' (skipWs j1) with
  | none =>
    refine Or.inl ⟨fun q ⟨key', j, hp, hq, _⟩ => ?_, ?_, fun s' r h => ?_⟩
    · rw [hk] at hp
      cases hp
      rw [hc] at hq
      cases hq
    · simp only [requestMember, hk, hc]
    · simp only [requestMember, hk, hc] at h
      cases h
  | some j2 =>
    have hreads : ∀ q, ReadsId json q → q = j2 ∧ cString key = utf8 "id" := by
      rintro q ⟨key', j, hp, hq, hname⟩
      rw [hk] at hp
      cases hp
      rw [hc] at hq
      cases hq
      exact ⟨rfl, hname⟩
    simp only [requestMember, hk, hc]
    by_cases hid : cString key = utf8 "id"
    · rw [if_pos hid]
      cases hs : s.haveId with
      | true => exact Or.inl ⟨fun _ _ => rfl, rfl, fun s' r h => by cases h⟩
      | false =>
        refine Or.inr ⟨j2, ⟨key, j1, hk, hc, hid⟩, rfl, ?_⟩
        rw [if_neg (by simp)]
        rcases parseString idCap j2 with ⟨out, e | j3⟩
        · exact ⟨rfl, fun s' r h => by cases h⟩
        · exact ⟨rfl, fun s' r h => by cases h; exact ⟨rfl, rfl⟩⟩
    · refine Or.inl ⟨fun q hq => absurd (hreads q hq).2 hid, ?_⟩
      rw [if_neg hid]
      split_ifs
      · exact ⟨rfl, fun s' r h => by cases h⟩
      · rcases parseString cmdCap j2 with ⟨out, e | j3⟩
        · exact ⟨rfl, fun s' r h => by cases h⟩
        · exact ⟨rfl, fun s' r h => by cases h; exact ⟨rfl, rfl⟩⟩
      · exact ⟨rfl, fun s' r h => by cases h⟩
      · rcases skipValue (skipFuel (skipWs j2)) 1 (skipWs j2) with e | j3
        · exact ⟨rfl, fun s' r h => by cases h⟩
        · rcases eat '{' (skipWs j2) with _ | j4
          · exact ⟨rfl, fun s' r h => by cases h⟩
          · exact ⟨rfl, fun s' r h => by cases h; exact ⟨rfl, rfl⟩⟩
      · exact ⟨rfl, fun s' r h => by cases h⟩

theorem requestMember_id_length {s : RequestState} (hs : s.request.id.length < idCap) (json : List UInt8) :
    (requestMember s json).1.id.length < idCap ∧
      ∀ s' r, (requestMember s json).2 = .ok (s', r) → s'.request.id.length < idCap := by
  rcases requestMember_id s json with ⟨-, h1, h2⟩ | ⟨q, -, -, h1, h2⟩
  · exact ⟨by rw [h1]; exact hs, fun s' r h => by rw [(h2 s' r h).1]; exact hs⟩
  · have hq : (parseString idCap q).1.length < idCap := parseString_length (by decide) q
    exact ⟨by rw [h1]; exact hq, fun s' r h => by rw [(h2 s' r h).1]; exact hq⟩

theorem requestEnd_request (s : RequestState) (json : List UInt8) : (requestEnd s json).1 = s.request := by
  unfold requestEnd
  split
  · rfl
  · split <;> rfl

theorem requestLoop_id : ∀ (fuel : ℕ) (s : RequestState) (json : List UInt8),
    s.request.id.length < idCap → (requestLoop fuel s json).1.id.length < idCap
  | 0, _, _, h => h
  | fuel + 1, s, [], h => by
    rw [requestLoop, requestEnd_request]
    exact h
  | fuel + 1, s, b :: json, h => by
    unfold requestLoop
    split
    · rw [requestEnd_request]
      exact h
    obtain ⟨h1, h2⟩ := requestMember_id_length h (skipWs (b :: json))
    rcases hm : requestMember s (skipWs (b :: json)) with ⟨request, e | ⟨s', j⟩⟩
    · rw [hm] at h1
      exact h1
    · have h' := h2 s' j (by rw [hm])
      simp only
      split
      · exact requestLoop_id fuel s' _ h'
      · split
        · rw [requestEnd_request]
          exact h'
        · split
          · rw [requestEnd_request]
            exact h'
          · exact h'

/-- The identifier of a request, accepted or not, has at most 64 bytes. -/
theorem parseRequest_id (json : List UInt8) : (parseRequest json).1.id.length < idCap := by
  unfold parseRequest
  split
  · decide
  · exact requestLoop_id _ _ _ (by decide)

end JsonProto
end Dpdkd
end Pktlab
