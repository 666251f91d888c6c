/-
# The members that an accepted frame has

What `pktlab_json_proto_parse_request` makes of the members of a frame, for
frames of any bytes. The parser takes more than JSON: control characters and
NUL in strings, a comma before the closing brace, no closing brace at all. The
members are therefore those of the outline of the frame, which asks for
nothing but quotes, brackets, commas and colons. Whatever a scanner consumes
passes the outline without a cut (`skipValue_passes`), so the turns of the
loop are the pieces of the outline (`requestLoop_entries`).

The keys and the strings are compared and copied up to their first NUL. An
accepted frame is decoded faithfully exactly when there is none in a key and
none in the strings of `id` and `cmd` (`decoding_faithful_iff`).

Key definitions: `DecodedFaithfully`, `NoNul`, `Parsed`.
Key theorems: `stringLoop_text`, `skipValue_passes`, `requestLoop_entries`,
`decoding_faithful_iff`.
-/
import Pktlab.Dpdkd.JsonComplete
import Pktlab.Lib.Outline

namespace Pktlab
namespace Dpdkd
namespace JsonProto

open Utf8 Rfc8259 Outline

/-! ### What the scanners consume -/

theorem skipWs_text : ∀ json : List UInt8, ∃ w, Ws w ∧ json = w ++ skipWs json
  | [] => ⟨[], Ws.nil, rfl⟩
  | b :: json => by
    cases h : isWs b with
    | true =>
      obtain ⟨w, hw, heq⟩ := skipWs_text json
      refine ⟨b :: w, List.forall_mem_cons.mpr ⟨h, hw⟩, ?_⟩
      rw [skipWs_cons_ws h, List.cons_append, ← heq]
    | false => exact ⟨[], Ws.nil, by rw [skipWs_of_not_ws h, List.nil_append]⟩

theorem eat_skipWs_text {c : Char} {json r : List UInt8} (h : eat c (skipWs json) = some r) :
    ∃ w, Ws w ∧ json = w ++ ascii c :: r := by
  obtain ⟨w, hw, heq⟩ := skipWs_text json
  rw [eat_eq_some.mp h] at heq
  exact ⟨w, hw, heq⟩

theorem skipWs_eq_nil {json : List UInt8} (h : skipWs json = []) : Ws json := by
  obtain ⟨w, hw, heq⟩ := skipWs_text json
  rw [h, List.append_nil] at heq
  exact heq ▸ hw

/-- What a string that is read stands for. -/
theorem stringLoop_text (cap : ℕ) : ∀ {json out o r : List UInt8}, stringLoop cap json out = (o, .ok r) →
    ∃ k s, json = k ++ ascii '"' :: r ∧ Unquotes k s ∧ (0 < cap → o = out ++ s)
  | [], out, o, r, h => by
    simp [stringLoop, reject] at h
  | ch :: json, out, o, r, h => by
    by_cases hq : ch = ascii '"'
    · subst hq
      rw [stringLoop_quote] at h
      cases h
      exact ⟨[], [], rfl, .nil, fun _ => (List.append_nil out).symm⟩
    by_cases hb : ch = ascii '\\'
    · subst hb
      rw [stringLoop.eq_def] at h
      simp only [hq, ↓reduceIte] at h
      cases json with
      | nil => simp [reject] at h
      | cons e json =>
        simp only at h
        rw [escaped_eq] at h
        cases he : unescape e with
        | none =>
          rw [he] at h
          simp [reject] at h
        | some x =>
          rw [he] at h
          simp only at h
          split at h
          · simp [reject] at h
          · obtain ⟨k, s, heq, hk, hout⟩ := stringLoop_text cap h
            refine ⟨ascii '\\' :: e :: k, x :: s, by rw [heq]; rfl, .esc he hk, fun hcap => ?_⟩
            rw [hout hcap, store_append hcap]
    · rw [stringLoop.eq_def] at h
      simp only [hq, hb, ↓reduceIte] at h
      split at h
      · simp [reject] at h
      · obtain ⟨k, s, heq, hk, hout⟩ := stringLoop_text cap h
        refine ⟨ch :: k, ch :: s, by rw [heq]; rfl, .plain hq hb hk, fun hcap => ?_⟩
        rw [hout hcap, store_append hcap]

theorem parseString_unquotes {cap : ℕ} {k s : List UInt8} (h : Unquotes k s) (hroom : s.length < cap)
    (rest : List UInt8) : parseString cap (quoted k ++ rest) = (s, .ok rest) := by
  have heat := eat_after_ws (c := '"') (by decide) Ws.nil (k ++ ascii '"' :: rest)
  rw [List.nil_append] at heat
  rw [parseString, quoted_append, heat]
  simp only
  rw [stringLoop_unquotes h rest fun _ => by rwa [List.length_nil, Nat.zero_add], if_pos (by omega), List.nil_append]

theorem parseString_text {cap : ℕ} {json o r : List UInt8} (h : parseString cap json = (o, .ok r)) :
    ∃ w k s, Ws w ∧ json = w ++ quoted k ++ r ∧ Unquotes k s ∧ (0 < cap → o = s) := by
  unfold parseString at h
  cases he : eat '"' (skipWs json) with
  | none =>
    rw [he] at h
    cases h
  | some j =>
    rw [he] at h
    obtain ⟨w, hw, heq⟩ := eat_skipWs_text he
    obtain ⟨k, s, hj, hk, hout⟩ := stringLoop_text cap h
    refine ⟨w, k, s, hw, ?_, hk, fun hcap => ?_⟩
    · rw [heq, hj]
      simp [quoted]
    · rw [hout hcap, List.nil_append]

theorem skipString_passes {json r : List UInt8} (h : (parseString 0 json).2 = .ok r) :
    ∃ v, json = v ++ r ∧ ∀ d, Passes .text d v .text d := by
  obtain ⟨w, k, s, hw, heq, hk, -⟩ := parseString_text (Prod.ext rfl h : parseString 0 json = (_, .ok r))
  exact ⟨w ++ quoted k, heq, fun d => (passes_ws hw).append (passes_string hk)⟩

theorem isNumeric_neutral {c : UInt8} (h : isNumeric c = true) : Neutral c := by
  have hne : ∀ x : UInt8, isNumeric x = false → c ≠ x := by
    rintro x hx rfl
    rw [h] at hx
    cases hx
  refine ⟨hne _ (by decide), ?_, ?_, hne _ (by decide)⟩
  · simp [isOpen, hne (ascii '{') (by decide), hne (ascii '[') (by decide)]
  · simp [isClose, hne (ascii '}') (by decide), hne (ascii ']') (by decide)]

theorem skipNumber_passes {json r : List UInt8} (h : skipNumber json = .ok r) :
    ∃ v, json = v ++ r ∧ ∀ d, Passes .text d v .text d := by
  obtain ⟨v, heq, hv⟩ := skipNumber_numeric h
  exact ⟨v, heq, fun d => passes_neutral fun c hc => isNumeric_neutral (hv c hc)⟩

theorem skipLiteral_text {literal : String} {json r : List UInt8} (h : skipLiteral literal json = .ok r) :
    json = utf8 literal ++ r := by
  unfold skipLiteral at h
  split at h
  · cases h
  · rename_i hcond
    simp only [not_or, not_not] at hcond
    cases h
    have hsplit := List.take_append_drop (utf8 literal).length json
    rw [hcond.2] at hsplit
    exact hsplit.symm

theorem skipLiteral_passes {literal : String} (hl : ∀ c ∈ utf8 literal, Neutral c) {json r : List UInt8}
    (h : skipLiteral literal json = .ok r) : ∃ v, json = v ++ r ∧ ∀ d, Passes .text d v .text d :=
  ⟨utf8 literal, skipLiteral_text h, fun _ => passes_neutral hl⟩

/-- What the skippers consume passes the outline: a value as a whole, the rest
of an object or an array up to the bracket that closes it. -/
structure SkipPasses (fuel : ℕ) : Prop where
  value : ∀ depth json r, skipValue fuel depth json = .ok r →
    ∃ v, json = v ++ r ∧ ∀ d, Passes .text d v .text d
  object : ∀ depth json r, skipObject fuel depth json = .ok r →
    ∃ v, json = v ++ r ∧ ∀ d, Passes .text d v .text d
  array : ∀ depth json r, skipArray fuel depth json = .ok r →
    ∃ v, json = v ++ r ∧ ∀ d, Passes .text d v .text d
  members : ∀ depth json r, objectLoop fuel depth true json = .ok r →
    ∃ v, json = v ++ r ∧ ∀ d, Passes .text (d + 1) v .text d
  elements : ∀ depth json r, arrayLoop fuel depth json = .ok r →
    ∃ v, json = v ++ r ∧ ∀ d, Passes .text (d + 1) v .text d

/-- Whitespace and a bracket that closes. -/
theorem passes_wsClose {w : List UInt8} (hw : Ws w) {c : UInt8} (hc : isClose c = true) (d : ℕ) :
    Passes .text (d + 1) (w ++ [c]) .text d := (passes_ws hw).append (passes_close hc)

theorem objectLoop_passes {fuel : ℕ} (ih : SkipPasses fuel) {depth : ℕ} {json r : List UInt8}
    (h : objectLoop (fuel + 1) depth true json = .ok r) :
    ∃ v, json = v ++ r ∧ ∀ d, Passes .text (d + 1) v .text d := by
  rcases objectLoop_eq_ok.mp h with hend | ⟨-, j1, j2, j3, hkey, hcolon, hvalue, hrest⟩
  · obtain ⟨w, hw, rfl⟩ := eat_skipWs_text hend
    exact ⟨w ++ [ascii '}'], by simp, passes_wsClose hw (by decide)⟩
  obtain ⟨vk, rfl, hk⟩ := skipString_passes hkey
  obtain ⟨wc, hwc, rfl⟩ := eat_skipWs_text hcolon
  obtain ⟨vv, rfl, hv⟩ := ih.value _ _ _ hvalue
  have hmember : ∀ d, Passes .text d (vk ++ (wc ++ [ascii ':']) ++ vv) .text d := fun d =>
    ((hk d).append ((passes_ws hwc).append (passes_neutral_byte (by decide)))).append (hv d)
  rcases hrest with ⟨j4, hcomma, hloop⟩ | ⟨-, hend⟩
  · obtain ⟨w, hw, rfl⟩ := eat_skipWs_text hcomma
    obtain ⟨vl, rfl, hl⟩ := ih.members _ _ _ hloop
    refine ⟨vk ++ (wc ++ [ascii ':']) ++ vv ++ (w ++ [ascii ',']) ++ vl, by simp, fun d => ?_⟩
    exact ((hmember (d + 1)).append ((passes_ws hw).append passes_comma)).append (hl d)
  · obtain ⟨w, hw, rfl⟩ := eat_skipWs_text hend
    refine ⟨vk ++ (wc ++ [ascii ':']) ++ vv ++ (w ++ [ascii '}']), by simp, fun d => ?_⟩
    exact (hmember (d + 1)).append (passes_wsClose hw (by decide) d)

theorem arrayLoop_passes {fuel : ℕ} (ih : SkipPasses fuel) {depth : ℕ} {json r : List UInt8}
    (h : arrayLoop (fuel + 1) depth json = .ok r) :
    ∃ v, json = v ++ r ∧ ∀ d, Passes .text (d + 1) v .text d := by
  rcases arrayLoop_eq_ok.mp h with hend | ⟨-, -, j1, hvalue, hrest⟩
  · obtain ⟨w, hw, rfl⟩ := eat_skipWs_text hend
    exact ⟨w ++ [ascii ']'], by simp, passes_wsClose hw (by decide)⟩
  obtain ⟨vv, rfl, hv⟩ := ih.value _ _ _ hvalue
  rcases hrest with ⟨j2, hcomma, hloop⟩ | ⟨-, hend⟩
  · obtain ⟨w, hw, rfl⟩ := eat_skipWs_text hcomma
    obtain ⟨vl, rfl, hl⟩ := ih.elements _ _ _ hloop
    refine ⟨vv ++ (w ++ [ascii ',']) ++ vl, by simp, fun d => ?_⟩
    exact ((hv (d + 1)).append ((passes_ws hw).append passes_comma)).append (hl d)
  · obtain ⟨w, hw, rfl⟩ := eat_skipWs_text hend
    refine ⟨vv ++ (w ++ [ascii ']']), by simp, fun d => ?_⟩
    exact (hv (d + 1)).append (passes_wsClose hw (by decide) d)

theorem skipObject_passes {fuel : ℕ} (ih : SkipPasses fuel) {depth : ℕ} {json r : List UInt8}
    (h : skipObject (fuel + 1) depth json = .ok r) : ∃ v, json = v ++ r ∧ ∀ d, Passes .text d v .text d := by
  rw [skipObject] at h
  split at h
  · cases h
  · split at h
    · cases h
    · rename_i j hopen
      obtain ⟨w, hw, rfl⟩ := eat_skipWs_text hopen
      obtain ⟨v, rfl, hv⟩ := ih.members _ _ _ h
      refine ⟨w ++ [ascii '{'] ++ v, by simp, fun d => ?_⟩
      exact ((passes_ws hw).append (passes_open (by decide))).append (hv d)

theorem skipArray_passes {fuel : ℕ} (ih : SkipPasses fuel) {depth : ℕ} {json r : List UInt8}
    (h : skipArray (fuel + 1) depth json = .ok r) : ∃ v, json = v ++ r ∧ ∀ d, Passes .text d v .text d := by
  rw [skipArray] at h
  split at h
  · cases h
  · split at h
    · cases h
    · rename_i j hopen
      obtain ⟨w, hw, rfl⟩ := eat_skipWs_text hopen
      obtain ⟨v, rfl, hv⟩ := ih.elements _ _ _ h
      refine ⟨w ++ [ascii '['] ++ v, by simp, fun d => ?_⟩
      exact ((passes_ws hw).append (passes_open (by decide))).append (hv d)

/-- The value that starts with the byte `b`. -/
theorem skipValue_passes {fuel : ℕ} (ih : SkipPasses fuel) {depth : ℕ} {json r : List UInt8}
    (h : skipValue (fuel + 1) depth json = .ok r) : ∃ v, json = v ++ r ∧ ∀ d, Passes .text d v .text d := by
  obtain ⟨w, hw, heq⟩ := skipWs_text json
  have hrest : ∃ v, skipWs json = v ++ r ∧ ∀ d, Passes .text d v .text d := by
    rw [skipValue] at h
    cases hjson : skipWs json with
    | nil =>
      rw [hjson] at h
      cases h
    | cons b j =>
      rw [hjson] at h
      simp only at h
      split_ifs at h
      · exact ih.object _ _ _ h
      · exact ih.array _ _ _ h
      · exact skipString_passes h
      · exact skipLiteral_passes (by decide) h
      · exact skipLiteral_passes (by decide) h
      · exact skipLiteral_passes (by decide) h
      · exact skipNumber_passes h
      · cases h
  obtain ⟨v, hv, hpass⟩ := hrest
  refine ⟨w ++ v, ?_, fun d => (passes_ws hw).append (hpass d)⟩
  rw [List.append_assoc, ← hv]
  exact heq

theorem skipPasses (fuel : ℕ) : SkipPasses fuel := by
  induction fuel with
  | zero =>
    constructor
    · intro depth json r h
      rw [skipValue] at h
      cases h
    · intro depth json r h
      rw [skipObject] at h
      cases h
    · intro depth json r h
      rw [skipArray] at h
      cases h
    · intro depth json r h
      rw [objectLoop.eq_def] at h
      cases h
    · intro depth json r h
      rw [arrayLoop.eq_def] at h
      cases h
  | succ fuel ih =>
    exact ⟨fun _ _ _ => skipValue_passes ih, fun _ _ _ => skipObject_passes ih, fun _ _ _ => skipArray_passes ih,
      fun _ _ _ => objectLoop_passes ih, fun _ _ _ => arrayLoop_passes ih⟩

/-! ### The members of an accepted frame -/

/-- The key of `e` is read as `f`, and a string value as what `f` stores. -/
structure ReadAs (request : IpcRequest) (e : Entry) (f : Field) : Prop where
  key : ∃ k, Unquotes e.key k ∧ cString k = utf8 f.name
  value : f ≠ .payload → IsString e.value (request.stored f)

/-- The members taken so far, each with the field it was read as. -/
structure Parsed (ps : List (Entry × Field)) (s : RequestState) : Prop where
  nodup : (ps.map Prod.snd).Nodup
  has : ∀ f, s.has f = true ↔ f ∈ ps.map Prod.snd
  read : ∀ p ∈ ps, ReadAs s.request p.1 p.2

theorem parsed_nil : Parsed [] {} := by
  refine ⟨List.nodup_nil, fun f => ?_, by simp⟩
  cases f with
  | id => simp [RequestState.has]
  | cmd => simp [RequestState.has]
  | payload => simp [RequestState.has]

theorem stored_put_of_ne (s : RequestState) {f g : Field} (x : List UInt8) (h : g ≠ f) :
    (s.put f x).request.stored g = s.request.stored g := by
  cases f <;> cases g <;> first | rfl | exact absurd rfl h

/-- What a member that is taken looks like, and what is taken from it. -/
theorem requestMember_text {s s' : RequestState} {json r : List UInt8}
    (h : (requestMember s json).2 = .ok (s', r)) :
    ∃ w k w' v f x, Ws w ∧ Ws w' ∧ json = w ++ quoted k ++ (w' ++ ascii ':' :: (v ++ r)) ∧
      (∃ n, Unquotes k n ∧ cString n = utf8 (Field.name f)) ∧ s.has f = false ∧ s' = s.put f x ∧
      Passes .text 0 v .text 0 ∧ (f ≠ .payload → ∃ wv raw, Ws wv ∧ v = wv ++ quoted raw ∧ Unquotes raw x) := by
  obtain ⟨key, j1, j2, f, x, hkey, hcolon, hname, hnew, hscan, rfl⟩ := requestMember_eq_ok.mp h
  obtain ⟨w, k, n, hw, rfl, hk, hout⟩ := parseString_text hkey
  obtain ⟨w', hw', rfl⟩ := eat_skipWs_text hcolon
  rw [hout (by decide)] at hname
  have hstring : ∀ {cap : ℕ}, 0 < cap → parseString cap j2 = (x, .ok r) →
      ∃ wv raw, Ws wv ∧ j2 = (wv ++ quoted raw) ++ r ∧ Unquotes raw x := by
    intro cap hcap hparse
    obtain ⟨wv, raw, y, hwv, hj, hraw, hy⟩ := parseString_text hparse
    exact ⟨wv, raw, hwv, hj, (hy hcap) ▸ hraw⟩
  have hvalue : ∃ v, j2 = v ++ r ∧ Passes .text 0 v .text 0 ∧
      (f ≠ .payload → ∃ wv raw, Ws wv ∧ v = wv ++ quoted raw ∧ Unquotes raw x) := by
    cases f with
    | id =>
      obtain ⟨wv, raw, hwv, hj, hraw⟩ := hstring (by decide) hscan
      exact ⟨_, hj, (passes_ws hwv).append (passes_string hraw), fun _ => ⟨wv, raw, hwv, rfl, hraw⟩⟩
    | cmd =>
      obtain ⟨wv, raw, hwv, hj, hraw⟩ := hstring (by decide) hscan
      exact ⟨_, hj, (passes_ws hwv).append (passes_string hraw), fun _ => ⟨wv, raw, hwv, rfl, hraw⟩⟩
    | payload =>
      obtain ⟨-, hskip, -⟩ := hscan
      rw [skipValue_skipWs] at hskip
      obtain ⟨v, hj, hpass⟩ := (skipPasses _).value _ _ _ hskip
      exact ⟨v, hj, hpass 0, fun hne => absurd rfl hne⟩
  obtain ⟨v, rfl, hpass, hstr⟩ := hvalue
  exact ⟨w, k, w', v, f, x, hw, hw', rfl, ⟨n, hk, hname⟩, hnew, rfl, hpass, hstr⟩

theorem member_passes {w k n w' v : List UInt8} (hw : Ws w) (hk : Unquotes k n) (hw' : Ws w')
    (hv : Passes .text 0 v .text 0) : Passes .text 0 (w ++ quoted k ++ (w' ++ ascii ':' :: v)) .text 0 := by
  have hkey : Passes .text 0 (w ++ quoted k) .text 0 := (passes_ws hw).append (passes_string hk)
  have hcolon : Passes .text 0 (w' ++ [ascii ':']) .text 0 :=
    (passes_ws hw').append (passes_neutral_byte (by decide))
  have htext : w' ++ ascii ':' :: v = w' ++ [ascii ':'] ++ v := by simp
  rw [htext]
  exact hkey.append (hcolon.append hv)

theorem requestMember_passes {s s' : RequestState} {json r : List UInt8}
    (h : (requestMember s json).2 = .ok (s', r)) : ∃ v, json = v ++ r ∧ Passes .text 0 v .text 0 := by
  obtain ⟨w, k, w', v, f, x, hw, hw', rfl, ⟨n, hk, -⟩, -, -, hpass, -⟩ := requestMember_text h
  exact ⟨w ++ quoted k ++ (w' ++ ascii ':' :: v), by simp, member_passes hw hk hw' hpass⟩

/-- Taking one more member. -/
theorem Parsed.put {ps : List (Entry × Field)} {s : RequestState} (h : Parsed ps s) {e : Entry} {f : Field}
    {x : List UInt8} (hnew : s.has f = false) (hread : ReadAs (s.put f x).request e f) :
    Parsed (ps ++ [(e, f)]) (s.put f x) := by
  have hfresh : f ∉ ps.map Prod.snd := fun hmem => by
    rw [(h.has f).mpr hmem] at hnew
    cases hnew
  refine ⟨?_, fun g => ?_, fun p hp => ?_⟩
  · rw [List.map_append, List.nodup_append]
    refine ⟨h.nodup, by simp, fun a ha b hb => ?_⟩
    have hb' : b = f := by simpa using hb
    rintro rfl
    exact hfresh (hb' ▸ ha)
  · have hg := h.has g
    simp only [RequestState.has_put, Bool.or_eq_true, decide_eq_true_eq, List.map_append, List.map_cons,
      List.map_nil, List.mem_append, List.mem_singleton, hg]
    exact or_comm
  · rcases List.mem_append.mp hp with hp | hp
    · obtain ⟨hkey, hvalue⟩ := h.read p hp
      have hne : p.2 ≠ f := fun heq => hfresh (heq ▸ List.mem_map_of_mem hp)
      exact ⟨hkey, fun hpay => stored_put_of_ne s x hne ▸ hvalue hpay⟩
    · rw [List.mem_singleton] at hp
      rw [hp]
      exact hread

/-- **The turns of the loop are the pieces of the outline.** -/
theorem requestLoop_entries : ∀ (fuel : ℕ) {s : RequestState} {json : List UInt8} {request : IpcRequest}
    {ps : List (Entry × Field)}, Parsed ps s → requestLoop fuel s json = (request, .ok ()) →
    ∃ ps' s', entries (outline .text 0 json) = some (ps'.map Prod.fst) ∧ Parsed (ps ++ ps') s' ∧ s'.Complete ∧
      s'.request = request
  | 0, _, _, _, _, _, h => by
    rw [requestLoop] at h
    cases h
  | fuel + 1, s, json, request, ps, hs, h => by
    have hend : ∀ {w b j : List UInt8}, Ws w → outline .text 0 json = [(w, b)] →
        requestEnd s j = (request, .ok ()) → ∃ ps' s', entries (outline .text 0 json) = some (ps'.map Prod.fst) ∧
          Parsed (ps ++ ps') s' ∧ s'.Complete ∧ s'.request = request := by
      intro w b j hw hout hreq
      obtain ⟨-, hcomplete, rfl⟩ := requestEnd_eq_ok.mp hreq
      refine ⟨[], s, ?_, by rwa [List.append_nil], hcomplete, rfl⟩
      rw [hout, entries_blank hw]
      rfl
    rcases requestLoop_eq_ok.mp h with ⟨rfl, hreq⟩ | ⟨j, hbrace, hreq⟩ | ⟨-, -, s', j, hmember, hends⟩
    · exact hend Ws.nil (outline_end (Passes.nil _ _)) hreq
    · obtain ⟨w, hw, rfl⟩ := eat_skipWs_text hbrace
      exact hend hw (outline_brace (passes_ws hw) j) hreq
    obtain ⟨w, k, w', v, f, x, hw, hw', rfl, ⟨n, hk, hname⟩, hnew, rfl, hpass, hstr⟩ := requestMember_text hmember
    -- the piece of this member, with the whitespace `t` behind its value
    have hpiece : ∀ {t : List UInt8}, Ws t →
        Passes .text 0 (w ++ quoted k ++ (w' ++ ascii ':' :: (v ++ t))) .text 0 := fun ht =>
      member_passes hw hk hw' (hpass.append (passes_ws ht))
    have htaken : ∀ {t : List UInt8}, Ws t →
        Parsed (ps ++ [(⟨k, v ++ t⟩, f)]) (s.put f x) := by
      intro t ht
      refine hs.put hnew ⟨⟨n, hk, hname⟩, fun hpay => ?_⟩
      obtain ⟨wv, raw, hwv, rfl, hraw⟩ := hstr hpay
      have hstored : (s.put f x).request.stored f = x := by
        cases f with
        | id => rfl
        | cmd => rfl
        | payload => exact absurd rfl hpay
      rw [hstored]
      exact ⟨wv, raw, t, hwv, ht, rfl, hraw⟩
    have hlast : ∀ {t b j' : List UInt8}, Ws t →
        outline .text 0 (w ++ quoted k ++ (w' ++ ascii ':' :: (v ++ j))) =
          [(w ++ quoted k ++ (w' ++ ascii ':' :: (v ++ t)), b)] →
        requestEnd (s.put f x) j' = (request, .ok ()) →
        ∃ ps' s', entries (outline .text 0 (w ++ quoted k ++ (w' ++ ascii ':' :: (v ++ j)))) =
          some (ps'.map Prod.fst) ∧ Parsed (ps ++ ps') s' ∧ s'.Complete ∧ s'.request = request := by
      intro t b j' ht hout hreq
      obtain ⟨-, hcomplete, rfl⟩ := requestEnd_eq_ok.mp hreq
      refine ⟨[(⟨k, v ++ t⟩, f)], s.put f x, ?_, htaken ht, hcomplete, rfl⟩
      rw [hout]
      exact entries_cons (entry_eq hw hk hw') rfl
    rcases hends with ⟨j', hcomma, hloop⟩ | ⟨-, ⟨j', hbrace, hreq⟩ | ⟨hnil, hreq⟩⟩
    · obtain ⟨t, ht, rfl⟩ := eat_skipWs_text hcomma
      obtain ⟨ps', s', hentries, hparsed, hcomplete, hreq⟩ := requestLoop_entries fuel (htaken ht) hloop
      refine ⟨(⟨k, v ++ t⟩, f) :: ps', s', ?_, by rwa [List.append_assoc] at hparsed, hcomplete, hreq⟩
      have htext : w ++ quoted k ++ (w' ++ ascii ':' :: (v ++ (t ++ ascii ',' :: j'))) =
          w ++ quoted k ++ (w' ++ ascii ':' :: (v ++ t)) ++ ascii ',' :: j' := by simp
      rw [htext, outline_comma (hpiece ht), List.map_cons]
      exact entries_cons (entry_eq hw hk hw') hentries
    · obtain ⟨t, ht, rfl⟩ := eat_skipWs_text hbrace
      have htext : w ++ quoted k ++ (w' ++ ascii ':' :: (v ++ (t ++ ascii '}' :: j'))) =
          w ++ quoted k ++ (w' ++ ascii ':' :: (v ++ t)) ++ ascii '}' :: j' := by simp
      exact hlast ht (by rw [htext, outline_brace (hpiece ht)]) hreq
    · exact hlast (skipWs_eq_nil hnil) (outline_end (hpiece (skipWs_eq_nil hnil))) hreq

/-- **What an accepted frame is.** Its members are read as the three fields,
each once. -/
theorem parseRequest_entries {frame : List UInt8} {request : IpcRequest}
    (h : parseRequest frame = (request, .ok ())) :
    ∃ ps : List (Entry × Field), object frame = some (ps.map Prod.fst) ∧ (ps.map Prod.snd).Perm [.id, .cmd, .payload] ∧
      ∀ p ∈ ps, ReadAs request p.1 p.2 := by
  unfold parseRequest at h
  cases hopen : eat '{' (skipWs frame) with
  | none =>
    rw [hopen] at h
    cases h
  | some json =>
    rw [hopen] at h
    simp only at h
    obtain ⟨w, hw, hframe⟩ := eat_skipWs_text hopen
    obtain ⟨ps, s, hentries, hparsed, hcomplete, rfl⟩ := requestLoop_entries _ parsed_nil h
    rw [List.nil_append] at hparsed
    refine ⟨ps, ?_, ?_, hparsed.read⟩
    · unfold object
      rw [hframe, after_eq (by decide) hw, Option.bind_some, hentries]
    · rw [List.perm_ext_iff_of_nodup hparsed.nodup (by decide)]
      intro f
      refine iff_of_true ((hparsed.has f).mp (hcomplete f)) ?_
      cases f with
      | id => decide
      | cmd => decide
      | payload => decide

/-! ### When the decoding is faithful -/

/-- The members of the frame are `id`, `cmd` and `payload`, each once, and the
C strings of the request are the complete strings of `id` and `cmd`. -/
def DecodedFaithfully (frame : List UInt8) (request : IpcRequest) : Prop :=
  ∃ es, object frame = some es ∧
    (es.map fun e => unquote e.key).Perm [some (utf8 "id"), some (utf8 "cmd"), some (utf8 "payload")] ∧
    (∀ e ∈ es, unquote e.key = some (utf8 "id") → stringValue e.value = some (cString request.id)) ∧
    ∀ e ∈ es, unquote e.key = some (utf8 "cmd") → stringValue e.value = some (cString request.cmd)

/-- No NUL in a key, and none in the values of `id` and `cmd`. -/
def NoNul (frame : List UInt8) : Prop :=
  ∀ es, object frame = some es → (∀ e ∈ es, (0 : UInt8) ∉ e.key) ∧
    ∀ e ∈ es, unquote e.key = some (utf8 "id") ∨ unquote e.key = some (utf8 "cmd") → (0 : UInt8) ∉ e.value

theorem cString_eq_self_iff {b : List UInt8} : cString b = b ↔ (0 : UInt8) ∉ b := by
  refine ⟨fun h h0 => ?_, cString_of_no_nul⟩
  unfold cString at h
  rw [List.takeWhile_eq_self_iff] at h
  simpa using h 0 h0

theorem name_no_nul (f : Field) : (0 : UInt8) ∉ utf8 f.name := by
  cases f with
  | id => decide
  | cmd => decide
  | payload => decide

theorem name_inj {f g : Field} (h : utf8 f.name = utf8 g.name) : f = g := by
  cases f <;> cases g <;> first | rfl | exact absurd h (by decide)

namespace ReadAs

variable {request : IpcRequest} {e : Entry} {f : Field}

/-- Without a NUL the key is the name of the field. -/
theorem unquote_key (h : ReadAs request e f) (hn : (0 : UInt8) ∉ e.key) : unquote e.key = some (utf8 f.name) := by
  obtain ⟨k, hk, hname⟩ := h.key
  rw [cString_of_no_nul (fun h0 => hn (hk.nul.mp h0))] at hname
  rw [hk.eq, hname]

/-- A key that is the name of a field is read as this field. -/
theorem field_eq (h : ReadAs request e f) {g : Field} (hkey : unquote e.key = some (utf8 g.name)) : f = g := by
  obtain ⟨k, hk, hname⟩ := h.key
  rw [hk.eq, Option.some.injEq] at hkey
  rw [hkey, cString_of_no_nul (name_no_nul g)] at hname
  exact (name_inj hname).symm

/-- The value is decoded completely exactly when there is no NUL in it. -/
theorem complete_iff (h : ReadAs request e f) (hf : f ≠ .payload) :
    stringValue e.value = some (cString (request.stored f)) ↔ (0 : UInt8) ∉ e.value := by
  have hvalue := h.value hf
  rw [hvalue.eq, Option.some.injEq, ← hvalue.nul, ← cString_eq_self_iff]
  exact eq_comm

end ReadAs

/-- **When an accepted frame is decoded faithfully.** The members of every
frame that the parser accepts are exactly `id`, `cmd` and `payload`, and the C
strings are the complete strings of the first two, if and only if no NUL is
written in a top-level key or in the values of `id` and `cmd`. -/
theorem decoding_faithful_iff {frame : List UInt8} {request : IpcRequest}
    (h : parseRequest frame = (request, .ok ())) : DecodedFaithfully frame request ↔ NoNul frame := by
  obtain ⟨ps, hobject, hperm, hread⟩ := parseRequest_entries h
  -- a member of the frame with the field it is read as
  have hpair : ∀ e ∈ ps.map Prod.fst, ∃ f, ReadAs request e f := by
    intro e he
    obtain ⟨p, hp, rfl⟩ := List.mem_map.mp he
    exact ⟨p.2, hread p hp⟩
  constructor
  · rintro ⟨es, hes, hkeys, hid, hcmd⟩ es' hes'
    rw [hobject, Option.some.injEq] at hes hes'
    subst hes
    subst hes'
    refine ⟨fun e he h0 => ?_, fun e he hname => ?_⟩
    · obtain ⟨f, hp⟩ := hpair e he
      obtain ⟨k, hk, -⟩ := hp.key
      have hmem : some k ∈ [some (utf8 "id"), some (utf8 "cmd"), some (utf8 "payload")] :=
        hkeys.mem_iff.mp (List.mem_map.mpr ⟨e, he, hk.eq⟩)
      have hk0 : (0 : UInt8) ∈ k := hk.nul.mpr h0
      simp only [List.mem_cons, Option.some.injEq, List.not_mem_nil, or_false] at hmem
      rcases hmem with rfl | rfl | rfl
      · exact name_no_nul .id hk0
      · exact name_no_nul .cmd hk0
      · exact name_no_nul .payload hk0
    · obtain ⟨f, hp⟩ := hpair e he
      rcases hname with hname | hname
      · obtain rfl : f = .id := hp.field_eq hname
        exact (hp.complete_iff (by decide)).mp (hid e he hname)
      · obtain rfl : f = .cmd := hp.field_eq hname
        exact (hp.complete_iff (by decide)).mp (hcmd e he hname)
  · intro hnul
    obtain ⟨hkeys, hvalues⟩ := hnul _ hobject
    refine ⟨_, hobject, ?_, fun e he hname => ?_, fun e he hname => ?_⟩
    · have hnames : (ps.map Prod.fst).map (fun e => unquote e.key) =
          (ps.map Prod.snd).map fun f => some (utf8 f.name) := by
        rw [List.map_map, List.map_map]
        refine List.map_congr_left fun p hp => ?_
        exact (hread p hp).unquote_key (hkeys p.1 (List.mem_map_of_mem hp))
      rw [hnames]
      exact hperm.map fun f : Field => some (utf8 f.name)
    · obtain ⟨f, hp⟩ := hpair e he
      obtain rfl : f = .id := hp.field_eq hname
      exact (hp.complete_iff (by decide)).mpr (hvalues e he (Or.inl hname))
    · obtain ⟨f, hp⟩ := hpair e he
      obtain rfl : f = .cmd := hp.field_eq hname
      exact (hp.complete_iff (by decide)).mpr (hvalues e he (Or.inr hname))

/-- A ping that ends in a comma, with a tab in its identifier. -/
def looseFrame : List UInt8 := utf8 "\x7b\"id\":\"a\t\",\"cmd\":\"ping\",\"payload\":\x7b\x7d,"

theorem decoding_faithful_loose : parseRequest looseFrame = (⟨utf8 "a\t", utf8 "ping"⟩, .ok ()) ∧
    DecodedFaithfully looseFrame ⟨utf8 "a\t", utf8 "ping"⟩ := by
  have hparse : parseRequest looseFrame = (⟨utf8 "a\t", utf8 "ping"⟩, .ok ()) := by decide +kernel
  have hobject : object looseFrame = some
      [⟨utf8 "id", utf8 "\"a\t\""⟩, ⟨utf8 "cmd", utf8 "\"ping\""⟩, ⟨utf8 "payload", utf8 "\x7b\x7d"⟩] := by
    decide +kernel
  refine ⟨hparse, (decoding_faithful_iff hparse).mpr fun es hes => ?_⟩
  rw [hobject, Option.some.injEq] at hes
  subst hes
  decide +kernel

/-- A ping whose first key is `id`, a NUL and `x`. -/
def nulFrame : List UInt8 :=
  utf8 "\x7b\"id" ++ [0] ++ utf8 "x\":\"a\",\"cmd\":\"ping\",\"payload\":\x7b\x7d\x7d"

/-- It is accepted, and none of its members is `id`. -/
theorem nul_key_accepted :
    ¬ ∀ (frame : List UInt8) (request : IpcRequest), parseRequest frame = (request, .ok ()) →
      DecodedFaithfully frame request := by
  intro h
  have hparse : parseRequest nulFrame = (⟨utf8 "a", utf8 "ping"⟩, .ok ()) := by decide +kernel
  obtain ⟨es, hes, hkeys, -⟩ := h nulFrame _ hparse
  have hnames : (object nulFrame).map (List.map fun e => unquote e.key) =
      some [some (utf8 "id" ++ [0] ++ utf8 "x"), some (utf8 "cmd"), some (utf8 "payload")] := by decide +kernel
  rw [hes, Option.map_some, Option.some.injEq] at hnames
  have hid : some (utf8 "id") ∈ es.map fun e => unquote e.key := hkeys.mem_iff.mpr List.mem_cons_self
  rw [hnames] at hid
  revert hid
  decide +kernel

end JsonProto
end Dpdkd
end Pktlab
