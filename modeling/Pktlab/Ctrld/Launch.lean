/-
# From an accepted topology to a daemon that starts

`build_dpdk_runtime_args` (`pktlab_ctrld/app.py`) renders the effective runtime
of a validated topology as arguments of the daemon. `Launches` says that these
arguments reach the daemon, that its argument loop and `pktlab_datapath_init`
succeed, and that the prepared configuration has the effective values and the
port names of the topology. The controller sets no limit to the length of the
lcores and of the port names, where the daemon has buffers of 64 and 32 bytes,
and a port name may hold a NUL, which no argument can; apart from that every
accepted topology launches (`launches_iff`).

Key definitions: `buildDpdkRuntimeArgs`, `encodeArg`, `Carries`, `Launches`,
`FitsDaemon`.
Key theorems: `launches_iff`.
-/
import Pktlab.Ctrld.SilentRuntime
import Pktlab.Dpdkd.Cli

namespace Pktlab
namespace Ctrld

open Python Utf8 Decimal Dpdkd

/-- `_port_name_for_role`; without such a port it raises `ValueError`. -/
def portNameForRole (v : ValidatedTopologyConfig) (role : PortRole) : Except Exc String :=
  match v.topology.dpdkPorts.find? fun port => port.role = role with
  | some port => .ok port.name.1
  | none => .error .valueError

/-- `build_dpdk_runtime_args`. -/
def buildDpdkRuntimeArgs (v : ValidatedTopologyConfig) : Except Exc (List String) := do
  let effective := v.effectiveDpdkConfig
  let ingressPortName ← portNameForRole v .ingress
  let egressPortName ← portNameForRole v .egress
  let hugepagesMb ← str effective.hugepagesMb
  let burstSize ← str effective.burstSize
  let rxQueueSize ← str effective.rxQueueSize
  let txQueueSize ← str effective.txQueueSize
  let mempoolSize ← str effective.mempoolSize
  -- a constrained string has no other code points than its text
  .ok ["--lcores", effective.lcores.text, "--hugepages-mb", hugepagesMb, "--burst-size", burstSize,
    "--rx-queue-size", rxQueueSize, "--tx-queue-size", txQueueSize, "--mempool-size", mempoolSize,
    "--ingress-port-name", ingressPortName, "--egress-port-name", egressPortName]

/-- An argument as `subprocess` passes it on, in UTF-8; with a NUL in it
`Popen` raises `ValueError`. -/
def encodeArg (arg : String) : Option CStr :=
  if h : (0 : UInt8) ∉ utf8 arg then some ⟨utf8 arg, h⟩ else none

/-- The prepared configuration has the effective values and the port names. -/
structure Carries (v : ValidatedTopologyConfig) (init : DatapathInit) : Prop where
  lcores : init.eal.lcores.bytes = utf8 v.effectiveDpdkConfig.lcores.text
  hugepagesMb : init.eal.hugepagesMb.toNat = v.effectiveDpdkConfig.hugepagesMb
  burstSize : init.ports.burstSize.toNat = v.effectiveDpdkConfig.burstSize
  rxQueueSize : init.ports.rxQueueSize.toNat = v.effectiveDpdkConfig.rxQueueSize
  txQueueSize : init.ports.txQueueSize.toNat = v.effectiveDpdkConfig.txQueueSize
  mempoolSize : init.ports.mempoolSize.toNat = v.effectiveDpdkConfig.mempoolSize
  ingress : ∀ port ∈ v.topology.dpdkPorts, port.role = .ingress →
    init.ports.ingress.name.bytes = utf8 port.name.1
  egress : ∀ port ∈ v.topology.dpdkPorts, port.role = .egress →
    init.ports.egress.name.bytes = utf8 port.name.1

/-- The rendered arguments start a daemon with the configuration of `v`. -/
def Launches (v : ValidatedTopologyConfig) : Prop :=
  ∃ args argv config init, buildDpdkRuntimeArgs v = .ok args ∧ args.mapM encodeArg = some argv ∧
    mainArgs argv = .run config ∧ datapathInit config.datapath = .ok init ∧ Carries v init

/-- The texts of a topology fit the buffers of the daemon. -/
structure FitsDaemon (config : TopologyConfigModel) : Prop where
  lcores : (utf8 config.processes.dpdkd.effectiveLcores.text).length < ealLcoresLen
  portNames : ∀ port ∈ config.dpdkPorts,
    (utf8 port.name.1).length < nameLen ∧ (0 : UInt8) ∉ utf8 port.name.1

/-! ### The rendered arguments -/

/-- What the arguments of a validated topology look like. -/
def renderedArgs (e : EffectiveFields) (ingress egress : String) : List String :=
  ["--lcores", e.lcores.text, "--hugepages-mb", toString e.hugepagesMb, "--burst-size", toString e.burstSize,
    "--rx-queue-size", toString e.rxQueueSize, "--tx-queue-size", toString e.txQueueSize, "--mempool-size",
    toString e.mempoolSize, "--ingress-port-name", ingress, "--egress-port-name", egress]

theorem str_eq_ok {n : ℕ} (h : n < 10 ^ 5) : str n = .ok (toString n) := by
  unfold str strOfInt
  rw [if_pos (lt_pow_maxStrDigits (by decide) h)]
  rfl

theorem utf8_toString (n : ℕ) : utf8 (toString n) = decimal n := by
  unfold utf8 decimal
  rw [show toString n = String.ofList (Nat.toDigits 10 n) from rfl, String.toList_ofList]

theorem buildDpdkRuntimeArgs_eq {v : ValidatedTopologyConfig} {ingress egress : String}
    (hlimits : RuntimeLimits v.effectiveDpdkConfig.toEffectiveFields)
    (hin : portNameForRole v .ingress = .ok ingress) (hout : portNameForRole v .egress = .ok egress) :
    buildDpdkRuntimeArgs v = .ok (renderedArgs v.effectiveDpdkConfig.toEffectiveFields ingress egress) := by
  unfold buildDpdkRuntimeArgs
  dsimp only
  rw [hin, hout, str_eq_ok (hlimits.hugepagesMb.trans_lt (by decide)),
    str_eq_ok (hlimits.burstSize.trans_lt (by decide)), str_eq_ok (hlimits.rxQueueSize.trans_lt (by decide)),
    str_eq_ok (hlimits.txQueueSize.trans_lt (by decide)), str_eq_ok (hlimits.mempoolSize.trans_lt (by decide))]
  rfl

theorem encodeArg_eq_some {arg : String} {c : CStr} : encodeArg arg = some c ↔ c.bytes = utf8 arg := by
  unfold encodeArg
  split
  · refine ⟨fun h => by cases h; rfl, fun h => ?_⟩
    cases c
    cases h
    rfl
  · rename_i h
    exact iff_of_false (by rintro ⟨⟩) fun heq => h (heq ▸ c.noNul)

theorem mem_mapM_encodeArg : ∀ {args : List String} {argv : List CStr}, args.mapM encodeArg = some argv →
    ∀ arg ∈ args, (0 : UInt8) ∉ utf8 arg
  | [], _, _ => by simp
  | arg :: args, argv, h => by
    rw [List.mapM_cons] at h
    obtain ⟨c, hc, h⟩ := Option.bind_eq_some_iff.mp h
    obtain ⟨rest, hrest, -⟩ := Option.bind_eq_some_iff.mp h
    refine List.forall_mem_cons.mpr ⟨?_, mem_mapM_encodeArg hrest⟩
    rw [← encodeArg_eq_some.mp hc]
    exact c.noNul

theorem decimal_noNul (n : ℕ) : (0 : UInt8) ∉ decimal n := by
  intro h
  exact absurd ((digits_decimal n).2 0 h) (by decide)

/-! ### The arguments in the daemon -/

/-- The configuration the daemon reads from the arguments. -/
def launchConfig (e : EffectiveFields) (lcores ingress egress : CStr) : DaemonConfig where
  socketPath := initialConfig.socketPath
  datapath :=
    { lcores := lcores
      hugepagesMb := UInt32.ofNat e.hugepagesMb
      burstSize := UInt32.ofNat e.burstSize
      rxQueueSize := UInt32.ofNat e.rxQueueSize
      txQueueSize := UInt32.ofNat e.txQueueSize
      mempoolSize := UInt32.ofNat e.mempoolSize
      ingressPortName := ingress
      egressPortName := egress }

/-- An option as an argument. -/
def optionArg (o : CliOption) : CStr := ⟨utf8 o.text, by cases o <;> decide⟩

/-- A number as an argument. -/
def decimalArg (n : ℕ) : CStr := ⟨decimal n, decimal_noNul n⟩

theorem ofArg_optionArg (o : CliOption) : CliOption.ofArg (optionArg o) = some o := by
  cases o <;> decide

theorem argLoop_option {o : CliOption} {value : CStr} {args : List CStr} {config config' : DaemonConfig}
    (h : o.store config value = .ok config') :
    argLoop (optionArg o :: value :: args) config = argLoop args config' := by
  rw [argLoop, ofArg_optionArg]
  simp only [h]

theorem encodeArg_decimalArg (n : ℕ) : encodeArg (toString n) = some (decimalArg n) :=
  encodeArg_eq_some.mpr (utf8_toString n).symm

/-- An option and its value in front of encoded arguments. -/
theorem encode_option (o : CliOption) {value : String} {c : CStr} {args : List String} {argv : List CStr}
    (hc : encodeArg value = some c) (hargs : args.mapM encodeArg = some argv) :
    (o.text :: value :: args).mapM encodeArg = some (optionArg o :: c :: argv) := by
  have ho : encodeArg o.text = some (optionArg o) := encodeArg_eq_some.mpr rfl
  rw [List.mapM_cons, ho, List.mapM_cons, hc, hargs]
  rfl

theorem parseU32Arg_decimalArg (name : String) {n : ℕ} (h : n < 2 ^ 32) :
    parseU32Arg name (decimalArg n) = .ok (UInt32.ofNat n) :=
  parseU32Arg_decimal name h rfl

/-- **The rendered arguments are read back.** -/
theorem mainArgs_rendered {e : EffectiveFields} {ingress egress : String} {l i o : CStr}
    (hlimits : RuntimeLimits e) (hl : l.bytes = utf8 e.lcores.text) (hi : i.bytes = utf8 ingress)
    (ho : o.bytes = utf8 egress) :
    ∃ argv, (renderedArgs e ingress egress).mapM encodeArg = some argv ∧
      mainArgs argv = .run (launchConfig e l i o) := by
  refine ⟨[optionArg .lcores, l, optionArg .hugepagesMb, decimalArg e.hugepagesMb, optionArg .burstSize,
    decimalArg e.burstSize, optionArg .rxQueueSize, decimalArg e.rxQueueSize, optionArg .txQueueSize,
    decimalArg e.txQueueSize, optionArg .mempoolSize, decimalArg e.mempoolSize, optionArg .ingressPortName, i,
    optionArg .egressPortName, o], ?_, ?_⟩
  · exact encode_option .lcores (encodeArg_eq_some.mpr hl) <|
      encode_option .hugepagesMb (encodeArg_decimalArg _) <|
      encode_option .burstSize (encodeArg_decimalArg _) <|
      encode_option .rxQueueSize (encodeArg_decimalArg _) <|
      encode_option .txQueueSize (encodeArg_decimalArg _) <|
      encode_option .mempoolSize (encodeArg_decimalArg _) <|
      encode_option .ingressPortName (encodeArg_eq_some.mpr hi) <|
      encode_option .egressPortName (encodeArg_eq_some.mpr ho) rfl
  · have hhuge := parseU32Arg_decimalArg "--hugepages-mb" (hlimits.hugepagesMb.trans_lt (by decide))
    have hburst := parseU32Arg_decimalArg "--burst-size" (hlimits.burstSize.trans_lt (by decide))
    have hrx := parseU32Arg_decimalArg "--rx-queue-size" (hlimits.rxQueueSize.trans_lt (by decide))
    have htx := parseU32Arg_decimalArg "--tx-queue-size" (hlimits.txQueueSize.trans_lt (by decide))
    have hmem := parseU32Arg_decimalArg "--mempool-size" (hlimits.mempoolSize.trans_lt (by decide))
    unfold mainArgs
    rw [argLoop_option (o := .lcores) rfl,
      argLoop_option (o := .hugepagesMb) (by rw [CliOption.store, CliOption.text, hhuge]; rfl),
      argLoop_option (o := .burstSize) (by rw [CliOption.store, CliOption.text, hburst]; rfl),
      argLoop_option (o := .rxQueueSize) (by rw [CliOption.store, CliOption.text, hrx]; rfl),
      argLoop_option (o := .txQueueSize) (by rw [CliOption.store, CliOption.text, htx]; rfl),
      argLoop_option (o := .mempoolSize) (by rw [CliOption.store, CliOption.text, hmem]; rfl),
      argLoop_option (o := .ingressPortName) rfl, argLoop_option (o := .egressPortName) rfl]
    rfl

/-! ### The prepared configuration -/

/-- A number below the word size survives the daemon's `uint32_t`. -/
theorem ofNat_facts {n k : ℕ} (hpos : 0 < n) (hle : n ≤ k) (hk : k < 2 ^ 32) :
    (UInt32.ofNat n).toNat = n ∧ UInt32.ofNat n ≠ 0 ∧ UInt32.ofNat n ≤ UInt32.ofNat k := by
  have hof : ∀ m, m < 2 ^ 32 → (UInt32.ofNat m).toNat = m := fun m hm => by
    rw [UInt32.toNat_ofNat', Nat.mod_eq_of_lt hm]
  have hn := hof n (by omega)
  refine ⟨hn, fun h => ?_, ?_⟩
  · rw [h] at hn
    exact absurd hn (by simp; omega)
  · rw [UInt32.le_iff_toNat_le, hn, hof k hk]
    exact hle

theorem vdevArg_fits {vdev : String} (hvdev : (utf8 vdev).length = 8) {port : CStr}
    (h : port.bytes.length < nameLen) : (vdevArg vdev port).length < ealVdevArgLen := by
  have h1 : (utf8 "--vdev=").length = 7 := by decide
  have h2 : (utf8 ",iface=").length = 7 := by decide
  simp only [vdevArg, List.length_append, h1, h2, hvdev, ealVdevArgLen, nameLen] at h ⊢
  omega

/-- The limits of the controller are within those of the daemon, so only the
lengths are left to check. -/
theorem datapathInit_launch {e : EffectiveDpdkRuntimeModel} {l i o : CStr}
    (hlimits : RuntimeLimits e.toEffectiveFields) (hl : l.bytes ≠ []) (hi : i.bytes ≠ []) (ho : o.bytes ≠ [])
    (hne : i ≠ o) (hlen : l.bytes.length < ealLcoresLen) (hilen : i.bytes.length < nameLen)
    (holen : o.bytes.length < nameLen) :
    ∃ init, datapathInit (launchConfig e.toEffectiveFields l i o).datapath = .ok init := by
  obtain ⟨-, -, -, ⟨htwo, heven⟩, hburst, hrx, htx, hmem, -⟩ := EffectiveFields.violations_eq_nil.mp e.valid
  obtain ⟨hh, hh0, -⟩ := ofNat_facts (Nat.lt_of_lt_of_le (by decide) htwo) hlimits.hugepagesMb (by decide)
  obtain ⟨-, hb0, hb⟩ := ofNat_facts hburst hlimits.burstSize (by decide)
  obtain ⟨-, hr0, hr⟩ := ofNat_facts hrx hlimits.rxQueueSize (by decide)
  obtain ⟨-, ht0, ht⟩ := ofNat_facts htx hlimits.txQueueSize (by decide)
  obtain ⟨-, hm0, -⟩ := ofNat_facts hmem hlimits.mempoolSize (by decide)
  have hmod : UInt32.ofNat e.hugepagesMb % 2 = 0 := by
    rw [← UInt32.toNat_inj, UInt32.toNat_mod, hh]
    exact heven
  have hqueue : UInt32.ofNat MAX_QUEUE_SIZE ≤ 65535 := by decide
  have heal : ealPrepare (launchConfig e.toEffectiveFields l i o).datapath = .ok _ := ealPrepare_eq_ok.mpr
    ⟨hl, hlen, ⟨hh0, hmod⟩, vdevArg_fits (by decide) hilen, vdevArg_fits (by decide) holen, rfl⟩
  have hports : portsPrepare (launchConfig e.toEffectiveFields l i o).datapath = .ok _ := portsPrepare_eq_ok.mpr
    ⟨⟨hb0, hb⟩, ⟨hr0, UInt32.le_trans hr hqueue⟩, ⟨ht0, UInt32.le_trans ht hqueue⟩, hm0, ⟨hi, hilen⟩,
      ⟨ho, holen⟩, hne, rfl⟩
  exact ⟨⟨_, _, statsInit⟩, datapathInit_eq_ok.mpr ⟨heal, hports, rfl⟩⟩

/-- What a daemon that accepts the arguments has prepared. -/
theorem datapathInit_values {e : EffectiveFields} {l i o : CStr} {init : DatapathInit}
    (hlimits : RuntimeLimits e) (h : datapathInit (launchConfig e l i o).datapath = .ok init) :
    (l.bytes.length < ealLcoresLen ∧ i.bytes.length < nameLen ∧ o.bytes.length < nameLen) ∧
      init.eal.lcores = l ∧ init.eal.hugepagesMb.toNat = e.hugepagesMb ∧
      init.ports.burstSize.toNat = e.burstSize ∧ init.ports.rxQueueSize.toNat = e.rxQueueSize ∧
      init.ports.txQueueSize.toNat = e.txQueueSize ∧ init.ports.mempoolSize.toNat = e.mempoolSize ∧
      init.ports.ingress.name = i ∧ init.ports.egress.name = o := by
  obtain ⟨heal, hports, -⟩ := datapathInit_eq_ok.mp h
  obtain ⟨-, hlen, -, -, -, heal⟩ := ealPrepare_eq_ok.mp heal
  obtain ⟨-, -, -, -, ⟨-, hilen⟩, ⟨-, holen⟩, -, hports⟩ := portsPrepare_eq_ok.mp hports
  have hword : ∀ {n k : ℕ}, n ≤ k → k < 2 ^ 16 → (UInt32.ofNat n).toUInt16.toNat = n := by
    intro n k hn hk
    rw [UInt32.toNat_toUInt16, UInt32.toNat_ofNat', Nat.mod_eq_of_lt (by omega), Nat.mod_eq_of_lt (by omega)]
  have hlong : ∀ {n k : ℕ}, n ≤ k → k < 2 ^ 32 → (UInt32.ofNat n).toNat = n := by
    intro n k hn hk
    rw [UInt32.toNat_ofNat', Nat.mod_eq_of_lt (by omega)]
  refine ⟨⟨hlen, hilen, holen⟩, by rw [heal]; rfl, ?_, ?_, ?_, ?_, ?_, by rw [hports]; rfl, by rw [hports]; rfl⟩
  · rw [heal]
    exact hlong hlimits.hugepagesMb (by decide)
  · rw [hports]
    exact hword hlimits.burstSize (by decide)
  · rw [hports]
    exact hword hlimits.rxQueueSize (by decide)
  · rw [hports]
    exact hword hlimits.txQueueSize (by decide)
  · rw [hports]
    exact hlong hlimits.mempoolSize (by decide)

/-- A C string for a text without NUL. -/
theorem exists_cstr {s : String} (h : (0 : UInt8) ∉ utf8 s) : ∃ c : CStr, c.bytes = utf8 s := ⟨⟨_, h⟩, rfl⟩

/-- The ingress and the egress port of an accepted topology. -/
theorem Clean.ports_pair {py : Interpreter} {config : TopologyConfigModel}
    {effective : EffectiveDpdkRuntimeModel} (h : Clean py config effective) :
    ∃ pin pout, (∀ port, port ∈ config.dpdkPorts ↔ port = pin ∨ port = pout) ∧ pin.role = .ingress ∧
      pout.role = .egress ∧ config.dpdkPorts.find? (fun port => port.role = .ingress) = some pin ∧
      config.dpdkPorts.find? (fun port => port.role = .egress) = some pout ∧ pin.name.1 ≠ pout.name.1 := by
  obtain ⟨hroles, hnames⟩ := h.ports_roles
  obtain ⟨pin, hpin, hrin, hfin, huin⟩ := find?_role (hroles .ingress)
  obtain ⟨pout, hpout, hrout, hfout, huout⟩ := find?_role (hroles .egress)
  refine ⟨pin, pout, fun port => ⟨fun hport => ?_, ?_⟩, hrin, hrout, hfin, hfout, fun heq => ?_⟩
  · cases hrole : port.role with
    | ingress => exact Or.inl (huin port hport hrole)
    | egress => exact Or.inr (huout port hport hrole)
  · rintro (rfl | rfl)
    · exact hpin
    · exact hpout
  · have hsame := List.inj_on_of_nodup_map hnames hpin hpout heq
    rw [hsame, hrout] at hrin
    cases hrin

/-- What the arguments of an accepted topology are made of: its two ports, and
its lcores as a C string. -/
structure ArgsOf (config : TopologyConfigModel) (v : ValidatedTopologyConfig) (pin pout : DpdkPortModel)
    (l : CStr) : Prop where
  topology : v.topology = config
  limits : RuntimeLimits v.effectiveDpdkConfig.toEffectiveFields
  lcores : v.effectiveDpdkConfig.lcores = config.processes.dpdkd.effectiveLcores
  lcoresArg : l.bytes = utf8 v.effectiveDpdkConfig.lcores.text
  ports : ∀ port, port ∈ config.dpdkPorts ↔ port = pin ∨ port = pout
  ingress : pin.role = .ingress
  egress : pout.role = .egress
  names : pin.name.1 ≠ pout.name.1
  build : buildDpdkRuntimeArgs v =
    .ok (renderedArgs v.effectiveDpdkConfig.toEffectiveFields pin.name.1 pout.name.1)

theorem exists_argsOf {py : Interpreter} {config : TopologyConfigModel} {v : ValidatedTopologyConfig}
    (h : validateTopologyConfig py config = .ok v) : ∃ pin pout l, ArgsOf config v pin pout l := by
  obtain ⟨effective, hclean, rfl⟩ := validateTopologyConfig_eq_ok.mp h
  obtain ⟨hlimits, hlcores, ids, hparse⟩ := derive_silent hclean.runtime
  obtain ⟨pin, pout, hports, hrin, hrout, hfin, hfout, hne⟩ := hclean.ports_pair
  obtain ⟨-, htokens, -⟩ := parseLcoreSpec_silent.mp hparse
  obtain ⟨l, hl⟩ : ∃ l : CStr, l.bytes = utf8 effective.lcores.text := by
    rw [hlcores]
    exact exists_cstr (zero_notMem_utf8 fun hnul =>
      lcores_noNul (fun token htoken => (htokens token htoken).1) (Str.mem_text.mp hnul))
  refine ⟨pin, pout, l, rfl, hlimits, hlcores, hl, hports, hrin, hrout, hne,
    buildDpdkRuntimeArgs_eq hlimits ?_ ?_⟩
  · unfold portNameForRole
    rw [hfin]
  · unfold portNameForRole
    rw [hfout]

namespace ArgsOf

variable {config : TopologyConfigModel} {v : ValidatedTopologyConfig} {pin pout : DpdkPortModel} {l : CStr}

/-- A daemon that starts has found room for the texts. -/
theorem fits (h : ArgsOf config v pin pout l) (hlaunch : Launches v) : FitsDaemon config := by
  obtain ⟨args, argv, daemon, init, hargs, hmap, hmain, hinit, -⟩ := hlaunch
  obtain rfl := Except.ok.inj (h.build.symm.trans hargs)
  have hclear := mem_mapM_encodeArg hmap
  obtain ⟨i, hi⟩ := exists_cstr (hclear pin.name.1 (by simp [renderedArgs]))
  obtain ⟨o, ho⟩ := exists_cstr (hclear pout.name.1 (by simp [renderedArgs]))
  obtain ⟨argv', hmap', hmain'⟩ := mainArgs_rendered h.limits h.lcoresArg hi ho
  obtain rfl := Option.some.inj (hmap'.symm.trans hmap)
  obtain rfl := ArgOutcome.run.inj (hmain'.symm.trans hmain)
  obtain ⟨⟨hllen, hilen, holen⟩, -⟩ := datapathInit_values h.limits hinit
  rw [h.lcoresArg, h.lcores] at hllen
  rw [hi] at hilen
  rw [ho] at holen
  refine ⟨hllen, fun port hport => ?_⟩
  rcases (h.ports port).mp hport with rfl | rfl
  · exact ⟨hilen, hi ▸ i.noNul⟩
  · exact ⟨holen, ho ▸ o.noNul⟩

/-- Texts that fit are all a daemon needs to start. -/
theorem launches (h : ArgsOf config v pin pout l) (hfits : FitsDaemon config) : Launches v := by
  obtain ⟨hilen, hinul⟩ := hfits.portNames pin ((h.ports pin).mpr (Or.inl rfl))
  obtain ⟨holen, honul⟩ := hfits.portNames pout ((h.ports pout).mpr (Or.inr rfl))
  obtain ⟨i, hi⟩ := exists_cstr hinul
  obtain ⟨o, ho⟩ := exists_cstr honul
  have hdiffer : i ≠ o := by
    rintro rfl
    exact h.names (utf8_inj (hi.symm.trans ho))
  have hl : l.bytes ≠ [] ∧ l.bytes.length < ealLcoresLen := by
    rw [h.lcoresArg]
    refine ⟨utf8_ne_nil (EffectiveDpdkRuntimeModel.text_lcores_ne _), ?_⟩
    rw [h.lcores]
    exact hfits.lcores
  obtain ⟨argv, hmap, hmain⟩ := mainArgs_rendered h.limits h.lcoresArg hi ho
  obtain ⟨init, hinit⟩ := datapathInit_launch h.limits hl.1 (by rw [hi]; exact utf8_ne_nil pin.name.2)
    (by rw [ho]; exact utf8_ne_nil pout.name.2) hdiffer hl.2 (by rw [hi]; exact hilen) (by rw [ho]; exact holen)
  obtain ⟨-, hcl, hch, hcb, hcr, hct, hcm, hci, hco⟩ := datapathInit_values h.limits hinit
  refine ⟨_, argv, _, init, h.build, hmap, hmain, hinit, by rw [hcl, h.lcoresArg], hch, hcb, hcr, hct, hcm,
    fun port hport hrole => ?_, fun port hport hrole => ?_⟩
  · rw [h.topology] at hport
    rcases (h.ports port).mp hport with rfl | rfl
    · rw [hci, hi]
    · rw [h.egress] at hrole
      cases hrole
  · rw [h.topology] at hport
    rcases (h.ports port).mp hport with rfl | rfl
    · rw [h.ingress] at hrole
      cases hrole
    · rw [hco, ho]

end ArgsOf

/-- **Which accepted topologies launch.** -/
theorem launches_iff {py : Interpreter} {config : TopologyConfigModel} {v : ValidatedTopologyConfig}
    (h : validateTopologyConfig py config = .ok v) : Launches v ↔ FitsDaemon config := by
  obtain ⟨pin, pout, l, hargs⟩ := exists_argsOf h
  exact ⟨hargs.fits, hargs.launches⟩

/-- A lab with the default port names is accepted. -/
theorem launches_twoHostLab :
    ∃ v, validateTopologyConfig asciiInterpreter (twoHostLab (hugepagesRequest 256 (by decide))
      ⟨"dtap0", by decide⟩ ⟨"dtap1", by decide⟩) = .ok v ∧ Launches v := by
  have haccepted : (validateTopologyConfig asciiInterpreter (twoHostLab (hugepagesRequest 256 (by decide))
      ⟨"dtap0", by decide⟩ ⟨"dtap1", by decide⟩)).toBool = true := by decide +kernel
  obtain ⟨v, hv⟩ := exists_of_toBool haccepted
  refine ⟨v, hv, (launches_iff hv).mpr ⟨by decide, ?_⟩⟩
  decide

/-- The controller accepts a port name of 32 characters, one more than the
daemon. -/
theorem long_port_name_not_launched :
    ¬ ∀ (py : Interpreter) (config : TopologyConfigModel) (v : ValidatedTopologyConfig),
      validateTopologyConfig py config = .ok v → Launches v := by
  intro h
  have haccepted : (validateTopologyConfig asciiInterpreter (twoHostLab (hugepagesRequest 256 (by decide))
      ⟨"ingress-port-of-the-first-dp-lab", by decide⟩ ⟨"dtap1", by decide⟩)).toBool = true := by decide +kernel
  obtain ⟨v, hv⟩ := exists_of_toBool haccepted
  obtain ⟨pin, pout, l, hargs⟩ := exists_argsOf hv
  have hfits := (hargs.fits (h _ _ v hv)).portNames _ List.mem_cons_self
  exact absurd hfits.1 (by decide)

end Ctrld
end Pktlab
