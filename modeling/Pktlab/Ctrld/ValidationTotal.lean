/-
# When validation ends with a value or a typed error

`validateTopologyConfig` and `deriveEffectiveDpdkRuntime` are meant to return
or to raise a `ValidationError` with code `TOPOLOGY_VALIDATION_ERROR` and its
issues (`Typed`). They go on computing with values they have already found
bad, and some of these computations raise something else: formatting an
integer of more than 4300 digits, `int` of a superscript, a list of more CPUs
than memory holds, a float quotient, and last the constraints of
`EffectiveDpdkRuntimeModel`, which odd huge pages, zero ports or a surrogate in
the lcores break.
`RuntimeSafe` and `TopologySafe` say which inputs stay clear of all of them;
they are exactly the inputs with a typed outcome (`validation_typed_iff`).

Key definitions: `Typed`, `LcoresSafe`, `RuntimeSafe`, `TopologySafe`.
Key theorems: `lcoreLoop_returns`, `ruleLoop_returns`,
`deriveEffectiveDpdkRuntimeInto_returns`, `validation_typed_iff`.
-/
import Pktlab.Ctrld.Validation

namespace Pktlab
namespace Ctrld

open Python

/-- The call returns, or raises the typed error with at least one issue. -/
def Typed {α : Type} (r : Except Raised α) : Prop :=
  (∃ a, r = .ok a) ∨ ∃ message issues,
    r = .error (.validationError message .topologyValidationError issues) ∧ issues ≠ []

/-- Nothing is raised on the way. -/
def Returns {ε α : Type} (x : Except ε α) : Prop := ∃ a, x = .ok a

section Returns

variable {ε α β : Type}

@[simp] theorem returns_ok (a : α) : Returns (.ok a : Except ε α) := ⟨a, rfl⟩

@[simp] theorem not_returns_error (e : ε) : ¬ Returns (.error e : Except ε α) := by
  rintro ⟨a, h⟩
  cases h

theorem returns_bind {x : Except ε α} {f : α → Except ε β} :
    Returns (x >>= f) ↔ ∃ a, x = .ok a ∧ Returns (f a) := by
  cases x with
  | error e => simp [Returns, bind, Except.bind]
  | ok a => simp [Returns, bind, Except.bind]

theorem exists_of_toBool {x : Except ε α} (h : x.toBool = true) : ∃ a, x = .ok a := by
  cases x with
  | error e => cases h
  | ok a => exact ⟨a, rfl⟩

theorem exists_ok_and {x : Except ε α} {p : α → Prop} (hx : Returns x) (hp : ∀ a, p a) :
    ∃ a, x = .ok a ∧ p a := by
  obtain ⟨a, ha⟩ := hx
  exact ⟨a, ha, hp a⟩

@[simp] theorem returns_map {x : Except ε α} {f : α → β} : Returns (x.map f) ↔ Returns x := by
  cases x with
  | error e => simp [Except.map]
  | ok a => simp [Except.map]

/-- A bind whose continuation always returns. -/
theorem returns_bind_const {x : Except ε α} {f : α → Except ε β} {p : Prop} (h : ∀ a, Returns (f a) ↔ p) :
    Returns (x >>= f) ↔ Returns x ∧ p := by
  rw [returns_bind]
  refine ⟨fun ⟨a, ha, hf⟩ => ⟨⟨a, ha⟩, (h a).mp hf⟩, fun ⟨⟨a, ha⟩, hp⟩ => ⟨a, ha, (h a).mpr hp⟩⟩

end Returns

/-- The typed error is raised for collected issues and for nothing else. -/
theorem typed_raiseIssues {α : Type} {message : String} {r : Except Exc (List ValidationIssue × α)} :
    Typed (raiseIssues message .topologyValidationError r) ↔ Returns r := by
  rcases r with e | ⟨issues, a⟩
  · simp [Typed, raiseIssues]
  · cases issues with
    | nil => simp [Typed, raiseIssues]
    | cons issue issues => simp [Typed, raiseIssues]

/-! ### Integers in messages -/

theorem returns_str {n : ℕ} : Returns (str n) ↔ n < 10 ^ maxStrDigits := by
  unfold str strOfInt
  split <;> simp [*]

theorem returns_limitIssue {path code : String} {value limit : ℕ} {message : String → String}
    (hlimit : limit < 10 ^ 5) :
    Returns (limitIssue path code value limit message) ↔ value < 10 ^ maxStrDigits := by
  unfold limitIssue
  split
  · rw [returns_map, returns_str]
  · rename_i h
    exact iff_of_true (returns_ok _) (lt_pow_maxStrDigits (by decide) (show value < 10 ^ 5 by omega))

/-! ### The lcore specification -/

/-- The texts `_parse_lcore_spec` reads as integers. -/
def numerals (token : Str) : List Str :=
  match splitFirst (.char '-') token with
  | some (startText, endText) => [startText, endText]
  | none => [token]

section Lcores

variable (py : Interpreter)

/-- A token that passes the `isdigit` checks. -/
def Numeric (token : Str) : Prop := ∀ text ∈ numerals token, py.digits.isdigit text

/-- `int` can read the numerals: decimal digits, and not too many. -/
def Readable (token : Str) : Prop :=
  ∀ text ∈ numerals token, (∀ c ∈ text, (py.digits.decimal c).isSome) ∧ text.length ≤ maxStrDigits

/-- How many CPUs a token stands for; none when its range descends. -/
def cpus (token : Str) : ℕ :=
  match splitFirst (.char '-') token with
  | some (startText, endText) => py.digits.value endText + 1 - py.digits.value startText
  | none => 1

/-- Every token up to the first one that is rejected is readable, and the CPUs
fit a list that has `n` elements already. -/
def LcoresFit (n : ℕ) (tokens : List Str) : Prop :=
  ∀ before token after, tokens = before ++ token :: after →
    (∀ t ∈ before, Numeric py t ∧ 0 < cpus py t) → Numeric py token →
      Readable py token ∧ n + ((before ++ [token]).map (cpus py)).sum ≤ py.listCap

/-- The lcores of a request can be read as far as `_parse_lcore_spec` goes. -/
def LcoresSafe (lcores : Str) : Prop := LcoresFit py 0 (lcoreTokens lcores)

variable {py}

theorem lcoresFit_nil {n : ℕ} : LcoresFit py n [] := by
  intro before token after h
  simp at h

theorem lcoresFit_cons {n : ℕ} {token : Str} {tokens : List Str} :
    LcoresFit py n (token :: tokens) ↔
      (Numeric py token → Readable py token ∧ n + cpus py token ≤ py.listCap) ∧
      (Numeric py token → 0 < cpus py token → LcoresFit py (n + cpus py token) tokens) := by
  refine ⟨fun h => ⟨fun hnum => ?_, fun hnum hpos before t after hsplit hbefore ht => ?_⟩, ?_⟩
  · simpa using h [] token tokens rfl (by simp) hnum
  · have := h (token :: before) t after (by rw [hsplit]; rfl)
      (List.forall_mem_cons.mpr ⟨⟨hnum, hpos⟩, hbefore⟩) ht
    simpa [Nat.add_assoc] using this
  · rintro ⟨hhead, htail⟩ before t after hsplit hbefore ht
    cases before with
    | nil =>
      obtain ⟨rfl, rfl⟩ : token = t ∧ tokens = after := by simpa using hsplit
      simpa using hhead ht
    | cons t0 before =>
      obtain ⟨rfl, rfl⟩ : token = t0 ∧ tokens = before ++ t :: after := by simpa using hsplit
      obtain ⟨⟨hnum, hpos⟩, hrest⟩ := List.forall_mem_cons.mp hbefore
      have := htail hnum hpos before t after rfl hrest ht
      simpa [Nat.add_assoc] using this

theorem int_eq_ok {text : Str} {n : ℕ} :
    py.int text = .ok n ↔ ((∀ c ∈ text, (py.digits.decimal c).isSome) ∧ text.length ≤ maxStrDigits) ∧
      n = py.digits.value text := by
  unfold Interpreter.int DigitTable.intOfStr
  by_cases h : (∀ c ∈ text, (py.digits.decimal c).isSome) ∧ text.length ≤ maxStrDigits
  · rw [if_pos h]
    exact ⟨fun heq => ⟨h, (Except.ok.inj heq).symm⟩, fun heq => by rw [heq.2]; rfl⟩
  · rw [if_neg h]
    exact iff_of_false (by rintro ⟨⟩) fun heq => h heq.1

/-- The CPUs of a token. -/
def expand (py : Interpreter) (token : Str) : List ℕ :=
  match splitFirst (.char '-') token with
  | some (startText, _) => List.range' (py.digits.value startText) (cpus py token)
  | none => [py.digits.value token]

theorem length_expand (token : Str) : (expand py token).length = cpus py token := by
  unfold expand
  split
  · simp
  · rename_i h
    simp [cpus, h]

theorem append_eq_ok {parsed out : List ℕ} {n : ℕ} :
    py.append parsed n = .ok out ↔ parsed.length + 1 ≤ py.listCap ∧ out = parsed ++ [n] := by
  unfold Interpreter.append
  split <;> simp [*, eq_comm]

theorem extendRange_eq_ok {parsed out : List ℕ} {start stop : ℕ} :
    py.extendRange parsed start stop = .ok out ↔
      parsed.length + (stop + 1 - start) ≤ py.listCap ∧
        out = parsed ++ List.range' start (stop + 1 - start) := by
  unfold Interpreter.extendRange
  split
  · simp [*, eq_comm]
  · split <;> simp [*]

/-- One round of the loop: a rejected token ends it, the others grow the list. -/
theorem lcoreLoop_cons_returns (path : String) (token : Str) (tokens : List Str)
    (parsed : List ℕ) :
    Returns (lcoreLoop py path (token :: tokens) parsed) ↔
      (Numeric py token → Readable py token ∧ (0 < cpus py token →
        parsed.length + cpus py token ≤ py.listCap ∧
          Returns (lcoreLoop py path tokens (parsed ++ expand py token)))) := by
  rw [lcoreLoop.eq_2]
  cases hsplit : splitFirst (.char '-') token with
  | none =>
    have hnumerals : numerals token = [token] := by
      unfold numerals
      rw [hsplit]
    have hcpus : cpus py token = 1 := by
      unfold cpus
      rw [hsplit]
    have hexpand : expand py token = [py.digits.value token] := by
      unfold expand
      rw [hsplit]
    rw [Numeric, Readable, hnumerals, hcpus, hexpand]
    simp only [List.forall_mem_singleton]
    by_cases hdigit : py.digits.isdigit token = true
    · simp only [hdigit, not_true_eq_false, if_false, returns_bind, int_eq_ok, append_eq_ok, true_implies,
        Nat.zero_lt_one]
      refine ⟨fun ⟨n, ⟨hread, hn⟩, out, ⟨hfit, hout⟩, hrest⟩ => ⟨hread, hfit, ?_⟩,
        fun ⟨hread, hfit, hrest⟩ => ⟨_, ⟨hread, rfl⟩, _, ⟨hfit, rfl⟩, hrest⟩⟩
      rw [hout, hn] at hrest
      exact hrest
    · rw [if_pos hdigit]
      exact iff_of_true (returns_ok _) fun h => absurd h hdigit
  | some parts =>
    obtain ⟨startText, endText⟩ := parts
    have hnumerals : numerals token = [startText, endText] := by
      unfold numerals
      rw [hsplit]
    have hcpus : cpus py token = py.digits.value endText + 1 - py.digits.value startText := by
      unfold cpus
      rw [hsplit]
    have hexpand : expand py token =
        List.range' (py.digits.value startText) (py.digits.value endText + 1 - py.digits.value startText) := by
      unfold expand
      rw [hsplit, hcpus]
    rw [Numeric, Readable, hnumerals, hcpus, hexpand]
    simp only [List.forall_mem_cons, List.not_mem_nil, false_implies, implies_true, and_true]
    by_cases hdigit : py.digits.isdigit startText = true ∧ py.digits.isdigit endText = true
    · simp only [hdigit, and_self, not_true_eq_false, if_false, returns_bind, int_eq_ok, true_implies]
      by_cases hdesc : py.digits.value startText > py.digits.value endText
      · refine ⟨fun ⟨_, ⟨hstart, _⟩, _, ⟨hend, _⟩, _⟩ => ⟨⟨hstart, hend⟩, fun hpos => by omega⟩,
          fun ⟨⟨hstart, hend⟩, _⟩ => ⟨_, ⟨hstart, rfl⟩, _, ⟨hend, rfl⟩, ?_⟩⟩
        rw [if_pos hdesc]
        exact returns_ok _
      · refine ⟨fun ⟨start, ⟨hstart, h1⟩, stop, ⟨hend, h2⟩, hrest⟩ => ⟨⟨hstart, hend⟩, fun _ => ?_⟩,
          fun ⟨⟨hstart, hend⟩, hrest⟩ => ⟨_, ⟨hstart, rfl⟩, _, ⟨hend, rfl⟩, ?_⟩⟩
        · rw [h1, h2, if_neg hdesc, returns_bind] at hrest
          obtain ⟨out, hout, hrest⟩ := hrest
          obtain ⟨hfit, rfl⟩ := extendRange_eq_ok.mp hout
          exact ⟨hfit, hrest⟩
        · obtain ⟨hfit, hrest⟩ := hrest (by omega)
          rw [if_neg hdesc, returns_bind]
          exact ⟨_, extendRange_eq_ok.mpr ⟨hfit, rfl⟩, hrest⟩
    · rw [if_pos hdigit]
      exact iff_of_true (returns_ok _) fun h => absurd h hdigit

/-- **The loop of `_parse_lcore_spec` raises nothing exactly when the tokens
fit.** -/
theorem lcoreLoop_returns (path : String) :
    ∀ (tokens : List Str) (parsed : List ℕ), parsed.length ≤ py.listCap →
      (Returns (lcoreLoop py path tokens parsed) ↔ LcoresFit py parsed.length tokens)
  | [], parsed, _ => by
    refine iff_of_true ?_ lcoresFit_nil
    unfold lcoreLoop
    split <;> exact returns_ok _
  | token :: tokens, parsed, hlen => by
    rw [lcoreLoop_cons_returns, lcoresFit_cons]
    have hnext : parsed.length + cpus py token ≤ py.listCap →
        (Returns (lcoreLoop py path tokens (parsed ++ expand py token)) ↔
          LcoresFit py (parsed.length + cpus py token) tokens) := by
      intro hfit
      have hgrown : (parsed ++ expand py token).length = parsed.length + cpus py token := by
        rw [List.length_append, length_expand]
      rw [← hgrown] at hfit ⊢
      exact lcoreLoop_returns path tokens _ hfit
    refine ⟨fun h => ⟨fun hnum => ⟨(h hnum).1, ?_⟩, fun hnum hpos => ?_⟩, fun ⟨hhead, htail⟩ hnum => ?_⟩
    · -- a descending range adds nothing
      rcases Nat.eq_zero_or_pos (cpus py token) with hzero | hpos
      · omega
      · exact ((h hnum).2 hpos).1
    · obtain ⟨hfit, hrest⟩ := (h hnum).2 hpos
      exact (hnext hfit).mp hrest
    · obtain ⟨hread, hfit⟩ := hhead hnum
      exact ⟨hread, fun hpos => ⟨hfit, (hnext hfit).mpr (htail hnum hpos)⟩⟩

theorem parseLcoreSpec_returns (value : Str) (path : String) :
    Returns (parseLcoreSpec py value path) ↔ LcoresSafe py value := by
  unfold parseLcoreSpec LcoresSafe
  split
  · rename_i h
    rw [h]
    exact iff_of_true (returns_ok _) lcoresFit_nil
  · exact lcoreLoop_returns path _ _ (Nat.zero_le _)

end Lcores

/-! ### Rule identifiers -/

/-- An element repeats at the head of a list, or later, where the head counts as
seen. -/
theorem repeats_cons (P seen : ℕ → Prop) (i : ℕ) (ids : List ℕ) :
    ((seen i ∨ 1 < (i :: ids).count i → P i) ∧
        ∀ id ∈ ids, seen id ∨ 1 < (i :: ids).count id → P id) ↔
      (seen i → P i) ∧ ∀ id ∈ ids, (id = i ∨ seen id) ∨ 1 < ids.count id → P id := by
  refine ⟨fun ⟨hhead, htail⟩ => ⟨fun h => hhead (Or.inl h), fun id hid h => htail id hid ?_⟩,
    fun ⟨hhead, htail⟩ => ⟨?_, fun id hid h => htail id hid ?_⟩⟩
  · rcases h with (rfl | h) | h
    · have hpos : 0 < ids.count id := List.count_pos_iff.mpr hid
      exact Or.inr (by rw [List.count_cons_self]; omega)
    · exact Or.inl h
    · exact Or.inr (h.trans_le List.count_le_count_cons)
  · rintro (h | h)
    · exact hhead h
    · rw [List.count_cons_self] at h
      exact htail i (List.count_pos_iff.mp (by omega)) (Or.inl (Or.inl rfl))
  · by_cases heq : id = i
    · exact Or.inl (Or.inl heq)
    · rw [List.count_cons_of_ne (Ne.symm heq)] at h
      exact h.imp Or.inr fun hcount => hcount

/-- **The rule loop raises nothing exactly when the identifiers that repeat can
be formatted.** -/
theorem ruleLoop_returns (py : Interpreter) (pathPrefix : Option String)
    (allowedPorts : Option (Finset String)) :
    ∀ (rules : List RuleModel) (seenIds : List (ℕ × ℕ)) (index : ℕ), (∀ p ∈ seenIds, p.2 < index) →
      (Returns (ruleLoop py pathPrefix allowedPorts seenIds index rules) ↔
        ∀ id ∈ rules.map RuleModel.id,
          ((∃ p ∈ seenIds, p.1 = id) ∨ 1 < (rules.map RuleModel.id).count id) → id < 10 ^ maxStrDigits)
  | [], _, _, _ => by simp [ruleLoop]
  | rule :: rules, seenIds, index, hseen => by
    rw [ruleLoop, List.map_cons, List.forall_mem_cons,
      repeats_cons (fun id => id < 10 ^ maxStrDigits) (fun id => ∃ p ∈ seenIds, p.1 = id)]
    rcases setdefault_cases seenIds rule.id index with ⟨w, hw, hset⟩ | ⟨hnew, hset⟩
    · -- the identifier has been seen, so its message is built
      have hne : w ≠ index := Nat.ne_of_lt (hseen _ hw)
      rw [hset]
      simp only [if_pos hne]
      rw [returns_bind_const fun _ => returns_bind_const fun _ => iff_of_true (returns_ok _) trivial,
        returns_map, returns_str, and_true, ruleLoop_returns py pathPrefix allowedPorts rules seenIds (index + 1)
          fun p hp => Nat.lt_succ_of_lt (hseen p hp)]
      have hid : ∃ p ∈ seenIds, p.1 = rule.id := ⟨_, hw, rfl⟩
      refine and_congr ⟨fun h _ => h, fun h => h hid⟩ (forall₂_congr fun id _ => ?_)
      have hmem : (id = rule.id ∨ ∃ p ∈ seenIds, p.1 = id) ↔ ∃ p ∈ seenIds, p.1 = id := by
        refine ⟨fun h => h.elim (fun heq => heq ▸ hid) fun hseen => hseen, Or.inr⟩
      rw [hmem]
    · have hseen' : ∀ p ∈ (rule.id, index) :: seenIds, p.2 < index + 1 := by
        refine List.forall_mem_cons.mpr ⟨Nat.lt_succ_self _, fun p hp => Nat.lt_succ_of_lt (hseen p hp)⟩
      rw [hset]
      simp only [ne_eq, not_true_eq_false, if_false]
      rw [returns_bind_const fun _ => returns_bind_const fun _ => iff_of_true (returns_ok _) trivial, and_true,
        ruleLoop_returns py pathPrefix allowedPorts rules _ (index + 1) hseen']
      have hid : ¬ ∃ p ∈ seenIds, p.1 = rule.id := fun ⟨p, hp, heq⟩ => hnew p hp heq
      have hmem : ∀ id, (∃ p ∈ (rule.id, index) :: seenIds, p.1 = id) ↔
          (id = rule.id ∨ ∃ p ∈ seenIds, p.1 = id) := by
        intro id
        rw [List.exists_mem_cons_iff, eq_comm]
      simp only [hid, hmem, returns_ok, false_implies]

/-! ### The effective runtime -/

theorem le_roundUpPowerOfTwo (value : ℕ) : value ≤ roundUpPowerOfTwo value := by
  unfold roundUpPowerOfTwo
  split
  · assumption
  · have := Nat.lt_size_self (value - 1)
    omega

namespace DpdkProcessConfigModel

variable (requested : DpdkProcessConfigModel)

theorem effectiveRxQueueSize_pos : 0 < requested.effectiveRxQueueSize := by
  unfold effectiveRxQueueSize
  cases h : requested.rxQueueSize with
  | none => decide
  | some n => exact requested.rxQueueSize_pos n h

theorem effectiveTxQueueSize_pos : 0 < requested.effectiveTxQueueSize := by
  unfold effectiveTxQueueSize
  cases h : requested.txQueueSize with
  | none => decide
  | some n => exact requested.txQueueSize_pos n h

theorem effectiveBurstSize_pos : 0 < requested.effectiveBurstSize := by
  unfold effectiveBurstSize
  cases h : requested.burstSize with
  | none => decide
  | some n => exact requested.burstSize_pos n h

theorem effectiveLcores_ne : requested.effectiveLcores ≠ [] := by
  unfold effectiveLcores
  split
  · split
    · decide
    · assumption
  · decide

theorem recommendedMempoolSize_ge (portCount : ℕ) :
    MIN_MEMPOOL_SIZE ≤ requested.recommendedMempoolSize portCount ∧
      portCount ≤ requested.recommendedMempoolSize portCount := by
  have hround := le_roundUpPowerOfTwo (max MIN_MEMPOOL_SIZE
    (portCount * (requested.effectiveRxQueueSize + requested.effectiveTxQueueSize) *
      MEMPOOL_HEADROOM_FACTOR))
  refine ⟨(le_max_left _ _).trans hround, ?_⟩
  calc portCount
      ≤ portCount * (requested.effectiveRxQueueSize + requested.effectiveTxQueueSize) :=
        Nat.le_mul_of_pos_right _ (Nat.add_pos_left requested.effectiveRxQueueSize_pos _)
    _ ≤ _ := Nat.le_mul_of_pos_right _ (by decide)
    _ ≤ _ := (le_max_right _ _).trans hround

theorem effectiveMempoolSize_pos (portCount : ℕ) : 0 < requested.effectiveMempoolSize portCount := by
  unfold effectiveMempoolSize
  cases h : requested.mempoolSize with
  | none => exact Nat.lt_of_lt_of_le (by decide) (requested.recommendedMempoolSize_ge portCount).1
  | some n => exact requested.mempoolSize_pos n h

end DpdkProcessConfigModel

/-- The requests and port counts that stay clear of the exceptions validation
does not catch. -/
structure RuntimeSafe (py : Interpreter) (requested : DpdkProcessConfigModel) (portCount : ℕ) : Prop where
  lcores : LcoresSafe py requested.effectiveLcores
  /-- the effective lcores are a constrained string -/
  encodable : requested.effectiveLcores.Encodable
  rxQueueSize : requested.effectiveRxQueueSize < 10 ^ maxStrDigits
  txQueueSize : requested.effectiveTxQueueSize < 10 ^ maxStrDigits
  burstSize : requested.effectiveBurstSize < 10 ^ maxStrDigits
  /-- a mempool that is too small is reported together with the recommended size -/
  recommended : ∀ m ∈ requested.mempoolSize, m < requested.recommendedMempoolSize portCount →
    requested.recommendedMempoolSize portCount < 10 ^ maxStrDigits
  /-- the memory estimate is a float -/
  mempoolSize : requested.effectiveMempoolSize portCount < 2 ^ 1032 - 2 ^ 978
  hugepagesMb : ∀ h ∈ requested.hugepagesMb, h % 2 = 0 ∧ h < 10 ^ maxStrDigits
  portCount : 0 < portCount

theorem queueIssues_returns (pathPrefix : String) (requested : DpdkProcessConfigModel) :
    Returns (queueIssues pathPrefix requested) ↔ requested.effectiveRxQueueSize < 10 ^ maxStrDigits ∧
      requested.effectiveTxQueueSize < 10 ^ maxStrDigits ∧
      requested.effectiveBurstSize < 10 ^ maxStrDigits := by
  unfold queueIssues
  rw [returns_bind_const fun _ => returns_bind_const fun _ => returns_bind_const fun _ =>
      iff_of_true (returns_ok _) trivial,
    returns_limitIssue (by decide), returns_limitIssue (by decide), returns_limitIssue (by decide), and_true]

theorem recommendedHugepagesMb_returns (mempoolSize : ℕ) :
    Returns (recommendedHugepagesMb mempoolSize) ↔ mempoolSize < 2 ^ 1032 - 2 ^ 978 := by
  have hbound : 2 ^ (1024 + 20) - 2 ^ (970 + 20) = (2 ^ 1032 - 2 ^ 978) * MBUF_MEMORY_ESTIMATE_BYTES := by
    have hbytes : MBUF_MEMORY_ESTIMATE_BYTES = 2 ^ 12 := by decide
    rw [hbytes, Nat.sub_mul, ← pow_add, ← pow_add]
  have hsome := ceilTrueDivPow2_isSome (a := mempoolSize * MBUF_MEMORY_ESTIMATE_BYTES) (k := 20)
  rw [hbound, Nat.mul_lt_mul_right (by decide)] at hsome
  rw [← hsome]
  unfold recommendedHugepagesMb
  cases ceilTrueDivPow2 (mempoolSize * MBUF_MEMORY_ESTIMATE_BYTES) 20 with
  | none => simp
  | some c => simp

theorem recommendedHugepagesMb_bounds {mempoolSize recommended : ℕ}
    (h : recommendedHugepagesMb mempoolSize = .ok recommended) :
    2 ≤ recommended ∧ recommended % 2 = 0 ∧ recommended < 10 ^ maxStrDigits := by
  unfold recommendedHugepagesMb at h
  cases hc : ceilTrueDivPow2 (mempoolSize * MBUF_MEMORY_ESTIMATE_BYTES) 20 with
  | none =>
    rw [hc] at h
    cases h
  | some c =>
    rw [hc] at h
    have hle : c ≤ 2 ^ 1024 := ceilTrueDivPow2_le hc
    have hbig : 2 ^ 10 ≤ 2 ^ 1024 := Nat.pow_le_pow_right (by omega) (by omega)
    have hnext : 2 ^ 1025 = 2 ^ 1024 * 2 := pow_succ 2 1024
    have hdigits : 2 ^ 1025 ≤ 10 ^ maxStrDigits := two_pow_le_pow_maxStrDigits (by decide)
    obtain rfl := Except.ok.inj h
    simp only [roundUpToMultiple, DEFAULT_HUGEPAGES_FLOOR_MB, FIXED_RUNTIME_OVERHEAD_MB,
      DEFAULT_HUGEPAGE_SIZE_MB]
    generalize 10 ^ maxStrDigits = D at hdigits
    rw [hnext] at hdigits
    generalize 2 ^ 1024 = T at hle hbig hdigits
    exact ⟨by omega, by omega, by omega⟩

theorem undersizedMempool_returns {pathPrefix : String} {mempoolSize portCount recommended : ℕ}
    (hports : portCount ≤ recommended) :
    Returns (undersizedMempool pathPrefix mempoolSize portCount recommended) ↔
      (mempoolSize < recommended → recommended < 10 ^ maxStrDigits) := by
  unfold undersizedMempool
  split
  · rename_i hlt
    rw [returns_bind_const fun _ => returns_bind_const fun _ => returns_bind_const fun _ =>
      iff_of_true (returns_ok _) trivial, returns_str, returns_str, returns_str]
    refine ⟨fun h _ => h.2.2.1, fun h => ?_⟩
    have hr := h hlt
    exact ⟨hlt.trans hr, hports.trans_lt hr, hr, trivial⟩
  · rename_i hlt
    exact iff_of_true (returns_ok _) fun h => absurd h hlt

theorem mempoolIssues_returns (pathPrefix : String) (requested : DpdkProcessConfigModel) (portCount : ℕ) :
    Returns (mempoolIssues pathPrefix requested portCount) ↔
      (∀ m ∈ requested.mempoolSize, m < requested.recommendedMempoolSize portCount →
        requested.recommendedMempoolSize portCount < 10 ^ maxStrDigits) ∧
      requested.effectiveMempoolSize portCount < 10 ^ maxStrDigits := by
  unfold mempoolIssues
  rw [returns_bind_const fun _ => returns_bind_const fun _ => iff_of_true (returns_ok _) trivial,
    returns_limitIssue (by decide), and_true,
    undersizedMempool_returns (requested.recommendedMempoolSize_ge portCount).2]
  refine and_congr_left fun _ => ?_
  unfold DpdkProcessConfigModel.effectiveMempoolSize
  cases requested.mempoolSize with
  | none => simp
  | some m => simp

theorem hugepagesIssues_returns (pathPrefix : String) {hugepagesMb recommended : ℕ}
    (hr : recommended < 10 ^ maxStrDigits) :
    Returns (hugepagesIssues pathPrefix hugepagesMb recommended) ↔ hugepagesMb < 10 ^ maxStrDigits := by
  unfold hugepagesIssues
  rw [returns_bind_const fun _ => returns_bind_const fun _ => iff_of_true (returns_ok _) trivial,
    returns_limitIssue (by decide), and_true]
  refine and_iff_right_of_imp fun hh => ?_
  unfold undersizedHugepages
  split
  · rw [returns_bind_const fun _ => returns_bind_const fun _ => iff_of_true (returns_ok _) trivial,
      returns_str, returns_str]
    exact ⟨hh, hr, trivial⟩
  · exact returns_ok _

theorem make_returns {fields : EffectiveFields} :
    Returns (EffectiveDpdkRuntimeModel.make fields) ↔ fields.violations = [] := by
  unfold EffectiveDpdkRuntimeModel.make
  split <;> simp [*]

/-- **A derivation raises nothing exactly on the safe requests.** -/
theorem deriveEffectiveDpdkRuntimeInto_returns (py : Interpreter) (pathPrefix : String)
    (requested : DpdkProcessConfigModel) (portCount : ℕ) :
    Returns (deriveEffectiveDpdkRuntimeInto pathPrefix requested py portCount) ↔
      RuntimeSafe py requested portCount := by
  have hmem : 2 ^ 1032 - 2 ^ 978 ≤ 10 ^ maxStrDigits :=
    (Nat.sub_le _ _).trans (two_pow_le_pow_maxStrDigits (by decide))
  unfold deriveEffectiveDpdkRuntimeInto
  refine ⟨fun h => ?_, fun h => ?_⟩
  · simp only [returns_bind] at h
    obtain ⟨lcores, hlcores, queues, hqueues, mempool, hmempool, recommended, hrecommended, hugepages,
      hhugepages, effective, hmake, -⟩ := h
    obtain ⟨hrx, htx, hburst⟩ := (queueIssues_returns _ _).mp ⟨_, hqueues⟩
    obtain ⟨hundersized, -⟩ := (mempoolIssues_returns _ _ _).mp ⟨_, hmempool⟩
    obtain ⟨-, -, hlt⟩ := recommendedHugepagesMb_bounds hrecommended
    have hprintable := (hugepagesIssues_returns pathPrefix hlt).mp ⟨_, hhugepages⟩
    obtain ⟨⟨-, hencodable⟩, -, -, ⟨-, heven⟩, -, -, -, -, hports⟩ :=
      EffectiveFields.violations_eq_nil.mp (make_returns.mp ⟨_, hmake⟩)
    refine ⟨(parseLcoreSpec_returns _ _).mp ⟨_, hlcores⟩, hencodable, hrx, htx, hburst, hundersized,
      (recommendedHugepagesMb_returns _).mp ⟨_, hrecommended⟩, fun n hn => ?_, hports⟩
    rw [Option.mem_def.mp hn, Option.getD_some] at heven hprintable
    exact ⟨heven, hprintable⟩
  · obtain ⟨⟨issues, lcoreIds⟩, hlcores⟩ := (parseLcoreSpec_returns requested.effectiveLcores
      s!"{pathPrefix}.lcores").mpr h.lcores
    obtain ⟨queues, hqueues⟩ := (queueIssues_returns pathPrefix requested).mpr
      ⟨h.rxQueueSize, h.txQueueSize, h.burstSize⟩
    obtain ⟨mempool, hmempool⟩ := (mempoolIssues_returns pathPrefix requested portCount).mpr
      ⟨h.recommended, h.mempoolSize.trans_le hmem⟩
    obtain ⟨recommended, hrecommended⟩ := (recommendedHugepagesMb_returns _).mpr h.mempoolSize
    obtain ⟨htwo, heven, hlt⟩ := recommendedHugepagesMb_bounds hrecommended
    have heffective : 2 ≤ requested.hugepagesMb.getD recommended ∧
        requested.hugepagesMb.getD recommended % 2 = 0 ∧
        requested.hugepagesMb.getD recommended < 10 ^ maxStrDigits := by
      cases hreq : requested.hugepagesMb with
      | none => exact ⟨htwo, heven, hlt⟩
      | some n => exact ⟨requested.two_le_hugepagesMb n hreq, h.hugepagesMb n hreq⟩
    obtain ⟨hugepages, hhugepages⟩ := (hugepagesIssues_returns pathPrefix hlt).mpr heffective.2.2
    have hcount : 1 ≤ if lcoreIds = [] then 1 else lcoreIds.length := by
      split
      · exact le_refl _
      · exact List.length_pos_iff.mpr ‹_›
    simp only [returns_bind, hlcores, hqueues, hmempool, hrecommended, hhugepages, Except.ok.injEq,
      exists_eq_left']
    refine exists_ok_and (make_returns.mpr (EffectiveFields.violations_eq_nil.mpr ?_)) fun _ => returns_ok _
    exact ⟨⟨requested.effectiveLcores_ne, h.encodable⟩, hcount, rfl, ⟨heffective.1, heffective.2.1⟩,
      requested.effectiveBurstSize_pos, requested.effectiveRxQueueSize_pos,
      requested.effectiveTxQueueSize_pos, requested.effectiveMempoolSize_pos portCount, h.portCount⟩

/-! ### The entry points -/

/-- The configurations that stay clear of the exceptions validation does not
catch: an identifier that repeats is formatted too. -/
structure TopologySafe (py : Interpreter) (config : TopologyConfigModel) : Prop where
  ruleIds : ∀ id, 1 < (config.rules.entries.map RuleModel.id).count id → id < 10 ^ maxStrDigits
  runtime : RuntimeSafe py config.processes.dpdkd config.dpdkPorts.length

theorem collectRulesetIssues_returns (py : Interpreter) (ruleset : RulesetModel) (pathPrefix : Option String)
    (allowedPortNames : Option (Finset String)) :
    Returns (collectRulesetIssues py ruleset pathPrefix allowedPortNames) ↔
      ∀ id, 1 < (ruleset.entries.map RuleModel.id).count id → id < 10 ^ maxStrDigits := by
  unfold collectRulesetIssues
  rw [returns_map, ruleLoop_returns py pathPrefix allowedPortNames _ [] 0 (by simp)]
  simp only [List.not_mem_nil, false_and, exists_false, false_or]
  exact ⟨fun h id hid => h id (List.count_pos_iff.mp (by omega)) hid, fun h id _ hid => h id hid⟩

theorem validateTopologyConfig_typed (py : Interpreter) (config : TopologyConfigModel) :
    Typed (validateTopologyConfig py config) ↔ TopologySafe py config := by
  unfold validateTopologyConfig
  rw [typed_raiseIssues]
  have hrules := collectRulesetIssues_returns py config.rules (some "rules")
    (some (config.dpdkPorts.map fun port => port.name.1).toFinset)
  have hruntime := deriveEffectiveDpdkRuntimeInto_returns py "processes.dpdkd" config.processes.dpdkd
    config.dpdkPorts.length
  refine ⟨fun h => ?_, fun h => ?_⟩
  · simp only [returns_bind] at h
    obtain ⟨issues, hissues, runtime, hderive, -⟩ := h
    exact ⟨hrules.mp ⟨_, hissues⟩, hruntime.mp ⟨_, hderive⟩⟩
  · obtain ⟨issues, hissues⟩ := hrules.mpr h.ruleIds
    obtain ⟨runtime, hderive⟩ := hruntime.mpr h.runtime
    simp only [returns_bind]
    exact ⟨issues, hissues, runtime, hderive, returns_ok _⟩

/-- **Validation has a typed outcome exactly on the safe inputs.** -/
theorem validation_typed_iff (py : Interpreter) :
    (∀ config, Typed (validateTopologyConfig py config) ↔ TopologySafe py config) ∧
      ∀ requested portCount,
        Typed (deriveEffectiveDpdkRuntime py requested portCount) ↔ RuntimeSafe py requested portCount := by
  refine ⟨validateTopologyConfig_typed py, fun requested portCount => ?_⟩
  unfold deriveEffectiveDpdkRuntime
  rw [typed_raiseIssues, deriveEffectiveDpdkRuntimeInto_returns]

/-! ### A lab -/

/-- An interpreter for texts in ASCII that hold no IP address. -/
def asciiInterpreter : Interpreter where
  digits := asciiDigits
  listCap := 2 ^ 60 - 1
  listCap_lt := by decide
  ipAddress _ := .invalid
  ipInterface _ := .invalid
  ipNetwork _ := .invalid

/-- The datapath in its own namespace, between two hosts. -/
def twoHostLab (dpdkd : DpdkProcessConfigModel) (ingress egress : NonEmptyStr) : TopologyConfigModel where
  lab := ⟨⟨"lab", by decide⟩⟩
  processes := ⟨dpdkd⟩
  namespaces := [⟨⟨"src", by decide⟩⟩, ⟨⟨"dp", by decide⟩⟩, ⟨⟨"dst", by decide⟩⟩]
  links :=
    [⟨⟨"in", by decide⟩, ⟨"src:eth0", by decide⟩, ⟨"dp:veth-in-k", by decide⟩, none, none⟩,
      ⟨⟨"out", by decide⟩, ⟨"dp:veth-out-k", by decide⟩, ⟨"dst:eth0", by decide⟩, none, none⟩]
  dpdkPorts := [⟨ingress, ⟨"dp", by decide⟩, .ingress⟩, ⟨egress, ⟨"dp", by decide⟩, .egress⟩]
  routes := []
  rules := ⟨1, ⟨.drop, none, rfl⟩, []⟩
  capturePoints := []

/-- A request that leaves everything but the huge pages to the controller. -/
def hugepagesRequest (n : ℕ) (hn : 2 ≤ n) : DpdkProcessConfigModel where
  netns := ⟨"dp", by decide⟩
  lcores := none
  hugepagesMb := some n
  burstSize := none
  rxQueueSize := none
  txQueueSize := none
  mempoolSize := none
  two_le_hugepagesMb := by simpa using hn
  burstSize_pos := by simp
  rxQueueSize_pos := by simp
  txQueueSize_pos := by simp
  mempoolSize_pos := by simp

/-- Three megabytes of huge pages are reported as no multiple of two, and then
break the constraint of the effective model before the report is raised. -/
theorem odd_hugepages_not_typed :
    ¬ ∀ (py : Interpreter) (config : TopologyConfigModel), Typed (validateTopologyConfig py config) := by
  intro h
  have hsafe := (validateTopologyConfig_typed asciiInterpreter _).mp (h asciiInterpreter
    (twoHostLab (hugepagesRequest 3 (by decide)) ⟨"dtap0", by decide⟩ ⟨"dtap1", by decide⟩))
  exact absurd (hsafe.runtime.hugepagesMb 3 rfl).1 (by decide)

end Ctrld
end Pktlab
