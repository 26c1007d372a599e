import Sfptpd.Basic
import Mathlib.Algebra.Order.Ring.Rat

/-!
# The configuration options (shm/sfptpd_shm_module.c:263–698)

Each option of an SHM section is parsed by a function of `shm_config_options`
that writes the section in place and returns an `errno` value, logging a
`CFG_ERROR` text for a value out of range. The options share two shapes:

- `parseKeyword`: one keyword from a fixed list (`shm_source_type`,
  `master_clock_class`, `master_time_source`, `outlier_filter_type`);
- `parseScanned`: one number converted by `sscanf`, checked against a range
  when there is one, then stored (`priority`, `sync_threshold`,
  `steps_removed`, `shm_delay`, `pid_filter_p`, `pid_filter_i`,
  `outlier_filter_size`, `fir_filter_size`).

Three keep bodies of their own: `outlier_filter_adaption`, whose `sscanf`
writes the field before the range is checked; `master_traceability`, which
clears both flags and then sets one for each word it knows, whatever words
follow; and `master_accuracy` and `time_of_day`.

`sscanf` and the limits of the filter and configuration headers are outside
`src/` (`ConfigEnv`). A `long double` is a rational, a signed infinity or NaN
(`LongDouble`), since `%Lf` reads `inf` and `nan` too. Every ordered comparison
with NaN is false, so NaN passes the `[0,1]` tests. The option `segment` names
`parse_segment`, which is not in the file, and `parse_interface` is not in the
table: neither is modelled.

- `parse_failure_frame`: every parser of the table but
  `outlier_filter_adaption` and `master_traceability` leaves the section as it
  was when it fails;
- `parse_range_error_names_option`: every range error names the option that
  rejected the value, except `time_of_day`'s, which names the instance;
- `applyOptions_valid`: a section whose every line is accepted keeps the
  ranges the parsers check (`ConfigValid`), whatever its lines and their order;
  for the three `[0,1]` options the range is `[0,1]` or NaN;
- `applyOptions_accepts_nan`: NaN does get through, on each of the three;
- `masterTraceability_spec`: `master_traceability` raises each flag exactly
  when its word is given, and returns `EINVAL` when a word is unknown.
-/

namespace Sfptpd.Shm

/-! ## The section -/

/-- `SHM_SOURCE_*`. -/
inductive ShmSourceType
  | complete
  | tod
  | pps
deriving DecidableEq, Repr

/-- The `sfptpd_clock_class` values an SHM section can hold. -/
inductive ClockClass
  | locked
  | holdover
  | freerunning
deriving DecidableEq, Repr

/-- The `sfptpd_time_source` values an SHM section can hold. -/
inductive TimeSource
  | atomicClock
  | gps
  | ptp
  | ntp
  | internalOscillator
deriving DecidableEq, Repr

/-- A `long double` as `sscanf`'s `%Lf` produces it: a finite value, a signed
infinity (`neg` for `-inf`), or NaN. The rounding of a finite value to the
64-bit mantissa, the sign of zero and NaN's sign and payload are not kept. -/
inductive LongDouble
  | finite (x : ℚ)
  | inf (neg : Bool)
  | nan
deriving DecidableEq, Repr

/-- The ordered comparison `a < b` (IEEE 754 §5.11): false whenever an operand
is NaN. -/
def LongDouble.lt : LongDouble → LongDouble → Bool
  | .finite x, .finite y => decide (x < y)
  | .finite _, .inf neg => !neg
  | .inf neg, .finite _ => neg
  | .inf a, .inf b => a && !b
  | .nan, _ | _, .nan => false

/-- `v` lies in `[0,1]`. -/
def LongDouble.InUnit : LongDouble → Prop
  | .finite x => 0 ≤ x ∧ x ≤ 1
  | _ => False

instance : DecidablePred LongDouble.InUnit := fun v => by
  cases v <;> unfold LongDouble.InUnit <;> infer_instance

/-- The test `(v < 0.0) || (v > 1.0)` of the `[0,1]` options passes exactly
the values in `[0,1]` and NaN. -/
theorem unitTest_eq_false {v : LongDouble} :
    (v.lt (.finite 0) || (LongDouble.finite 1).lt v) = false ↔ v.InUnit ∨ v = .nan := by
  cases v with
  | finite x => simp [LongDouble.lt, LongDouble.InUnit]
  | inf neg => cases neg <;> simp [LongDouble.lt, LongDouble.InUnit]
  | nan => simp [LongDouble.lt]

/-- `sfptpd_shm_module_config_t`, the fields the option parsers write. -/
structure ShmConfig where
  priority : Nat
  convergenceThreshold : LongDouble
  sourceType : ShmSourceType
  todName : String
  masterClockClass : ClockClass
  masterTimeSource : TimeSource
  masterAccuracy : LongDouble
  masterTimeTraceable : Bool
  masterFreqTraceable : Bool
  stepsRemoved : Nat
  propagationDelay : LongDouble
  pidFilterKp : LongDouble
  pidFilterKi : LongDouble
  outlierFilterEnabled : Bool
  outlierFilterSize : Nat
  outlierFilterAdaption : LongDouble
  firFilterSize : Nat
deriving DecidableEq

/-- What the parsers use from outside the file: the `%Lf` and `%u`
conversions of `sscanf` (the latter as the `int` it leaves in an `int`
object), `SFPTPD_PEIRCE_FILTER_SAMPLES_MIN/MAX`,
`SFPTPD_FIR_FILTER_STIFFNESS_MIN/MAX` and `SFPTPD_CONFIG_SECTION_NAME_MAX`. -/
structure ConfigEnv where
  scanLf : String → Option LongDouble
  scanU : String → Option Int
  peirceFilterSamplesMin : Int
  peirceFilterSamplesMax : Int
  firFilterStiffnessMin : Int
  firFilterStiffnessMax : Int
  configSectionNameMax : Nat

/-- What a parser returns: its return code, the section as it leaves it, and
the `CFG_ERROR` text it logs. -/
structure ParseResult where
  rc : Int
  config : ShmConfig
  error : Option String

/-- `(unsigned int)x` of an `int`. -/
def toUnsigned (x : Int) : Nat := (x % 2 ^ 32).toNat

/-! ## The two shapes -/

/-- A one-keyword option: the value of the first keyword of `table` the
parameter equals, `EINVAL` otherwise; `none` for another number of parameters
(`assert(num_params == 1)`). -/
def parseKeyword {α : Type} (table : List (String × α)) (set : α → ShmConfig → ShmConfig) (cfg : ShmConfig) :
    List String → Option ParseResult
  | [p] => some (match table.lookup p with
    | some v => ⟨0, set v cfg, none⟩
    | none => ⟨EINVAL, cfg, none⟩)
  | _ => none

/-- A one-number option: `EINVAL` when `sscanf` converts nothing, `ERANGE`
with the text `check` gives for a value out of range, and otherwise the value
stored. -/
def parseScanned {β : Type} (scan : String → Option β) (check : String → β → Option String)
    (set : β → ShmConfig → ShmConfig) (cfg : ShmConfig) : List String → Option ParseResult
  | [p] => some (match scan p with
    | none => ⟨EINVAL, cfg, none⟩
    | some v => match check p v with
      | none => ⟨0, set v cfg, none⟩
      | some text => ⟨ERANGE, cfg, some text⟩)
  | _ => none

/-- No range. -/
def noCheck {β : Type} (_ : String) (_ : β) : Option String := none

/-- The `[0,1]` check of the PID coefficients, with the option's name. -/
def unitCheck (name : String) (p : String) (v : LongDouble) : Option String :=
  if v.lt (.finite 0) || (LongDouble.finite 1).lt v then some (name ++ " " ++ p ++ " outside valid range [0,1]\n")
  else none

/-- The size check of the filters, with the option's name and the range. -/
def sizeCheck (name : String) (lo hi : Int) (p : String) (v : Int) : Option String :=
  if v < lo ∨ hi < v then
    some (name ++ " " ++ p ++ " invalid. Expect range [" ++ toString lo ++ "," ++ toString hi ++ "]\n")
  else none

/-! ## The parsers -/

section Parsers

variable (env : ConfigEnv)

/-- `parse_shm_delay` (lines 274–286). -/
def parseShmDelay : ShmConfig → List String → Option ParseResult :=
  parseScanned env.scanLf noCheck fun v c => { c with propagationDelay := v }

/-- `parse_priority` (lines 289–302). -/
def parsePriority : ShmConfig → List String → Option ParseResult :=
  parseScanned env.scanU noCheck fun v c => { c with priority := toUnsigned v }

/-- `parse_sync_threshold` (lines 305–319). -/
def parseSyncThreshold : ShmConfig → List String → Option ParseResult :=
  parseScanned env.scanLf noCheck fun v c => { c with convergenceThreshold := v }

/-- `parse_time_of_day` (lines 322–336): a name of `SECTION_NAME_MAX` bytes or
more is refused. -/
def parseTimeOfDay (cfg : ShmConfig) : List String → Option ParseResult
  | [p] => some (if env.configSectionNameMax ≤ p.utf8ByteSize then
      ⟨ERANGE, cfg, some ("instance name " ++ p ++ " too long\n")⟩
    else ⟨0, { cfg with todName := p }, none⟩)
  | _ => none

/-- `parse_master_clock_class` (lines 339–357). -/
def parseMasterClockClass : ShmConfig → List String → Option ParseResult :=
  parseKeyword [("locked", .locked), ("holdover", .holdover), ("freerunning", .freerunning)]
    fun v c => { c with masterClockClass := v }

/-- `parse_master_time_source` (lines 360–382). -/
def parseMasterTimeSource : ShmConfig → List String → Option ParseResult :=
  parseKeyword [("atomic", .atomicClock), ("gps", .gps), ("ptp", .ptp), ("ntp", .ntp),
    ("oscillator", .internalOscillator)] fun v c => { c with masterTimeSource := v }

/-- `parse_shm_source_type` (lines 385–403). -/
def parseShmSourceType : ShmConfig → List String → Option ParseResult :=
  parseKeyword [("complete", .complete), ("tod", .tod), ("pps", .pps)] fun v c => { c with sourceType := v }

/-- `parse_master_accuracy` (lines 406–423): `unknown` is `INFINITY`. -/
def parseMasterAccuracy (cfg : ShmConfig) : List String → Option ParseResult
  | [p] => some (if p = "unknown" then ⟨0, { cfg with masterAccuracy := .inf false }, none⟩
    else match env.scanLf p with
      | none => ⟨EINVAL, cfg, none⟩
      | some v => ⟨0, { cfg with masterAccuracy := v }, none⟩)
  | _ => none

/-- `parse_master_traceability` (lines 426–447): both flags cleared, then one
word at a time; an unknown word sets `EINVAL` and the loop goes on. It takes
any number of parameters. -/
def parseMasterTraceability (cfg : ShmConfig) (params : List String) : Option ParseResult :=
  some (params.foldl (fun r p =>
    if p = "time" then { r with config := { r.config with masterTimeTraceable := true } }
    else if p = "freq" then { r with config := { r.config with masterFreqTraceable := true } }
    else { r with rc := EINVAL })
    ⟨0, { cfg with masterTimeTraceable := false, masterFreqTraceable := false }, none⟩)

/-- `parse_steps_removed` (lines 450–463). -/
def parseStepsRemoved : ShmConfig → List String → Option ParseResult :=
  parseScanned env.scanU noCheck fun v c => { c with stepsRemoved := toUnsigned v }

/-- `parse_pid_filter_kp` (lines 466–486). -/
def parsePidFilterKp : ShmConfig → List String → Option ParseResult :=
  parseScanned env.scanLf (unitCheck "pid_filter_p") fun v c => { c with pidFilterKp := v }

/-- `parse_pid_filter_ki` (lines 489–509). -/
def parsePidFilterKi : ShmConfig → List String → Option ParseResult :=
  parseScanned env.scanLf (unitCheck "pid_filter_i") fun v c => { c with pidFilterKi := v }

/-- `parse_outlier_filter_type` (lines 512–528). -/
def parseOutlierFilterType : ShmConfig → List String → Option ParseResult :=
  parseKeyword [("disabled", false), ("std-dev", true)] fun v c => { c with outlierFilterEnabled := v }

/-- `parse_outlier_filter_size` (lines 531–552). -/
def parseOutlierFilterSize : ShmConfig → List String → Option ParseResult :=
  parseScanned env.scanU (sizeCheck "outlier_filter_size" env.peirceFilterSamplesMin env.peirceFilterSamplesMax)
    fun v c => { c with outlierFilterSize := toUnsigned v }

/-- `parse_outlier_adaption` (lines 555–574): `sscanf` writes the field
itself, before the range is checked; the function asserts on the section, not
on the number of parameters, and reads the first. -/
def parseOutlierAdaption (cfg : ShmConfig) : List String → Option ParseResult
  | p :: _ => some (match env.scanLf p with
    | none => ⟨EINVAL, cfg, none⟩
    | some v =>
      let cfg := { cfg with outlierFilterAdaption := v }
      if v.lt (.finite 0) || (LongDouble.finite 1).lt v then
        ⟨ERANGE, cfg, some ("outlier_filter_adaption " ++ p ++ " invalid. Expect range [0,1]\n")⟩
      else ⟨0, cfg, none⟩)
  | [] => none

/-- `parse_fir_filter_size` (lines 577–598). -/
def parseFirFilterSize : ShmConfig → List String → Option ParseResult :=
  parseScanned env.scanU (sizeCheck "fir_filter_size" env.firFilterStiffnessMin env.firFilterStiffnessMax)
    fun v c => { c with firFilterSize := toUnsigned v }

/-- `shm_config_options` (lines 600–698), but `segment`. -/
def shmConfigOptions : List (String × (ShmConfig → List String → Option ParseResult)) :=
  [("priority", parsePriority env), ("sync_threshold", parseSyncThreshold env),
    ("shm_source_type", parseShmSourceType), ("time_of_day", parseTimeOfDay env),
    ("master_clock_class", parseMasterClockClass), ("master_time_source", parseMasterTimeSource),
    ("master_accuracy", parseMasterAccuracy env), ("master_traceability", parseMasterTraceability),
    ("steps_removed", parseStepsRemoved env), ("shm_delay", parseShmDelay env),
    ("pid_filter_p", parsePidFilterKp env), ("pid_filter_i", parsePidFilterKi env),
    ("outlier_filter_type", parseOutlierFilterType), ("outlier_filter_size", parseOutlierFilterSize env),
    ("outlier_filter_adaption", parseOutlierAdaption env), ("fir_filter_size", parseFirFilterSize env)]

end Parsers

/-! ## What each shape can return -/

theorem EINVAL_ne_zero : EINVAL ≠ 0 := by decide
theorem ERANGE_ne_zero : ERANGE ≠ 0 := by decide
theorem EINVAL_ne_ERANGE : EINVAL ≠ ERANGE := by decide

section Shapes

variable {cfg : ShmConfig} {params : List String} {r : ParseResult}

/-- **Inversion of a keyword option.** -/
theorem parseKeyword_cases {α : Type} {table : List (String × α)} {set : α → ShmConfig → ShmConfig}
    (h : parseKeyword table set cfg params = some r) :
    (∃ p v, params = [p] ∧ table.lookup p = some v ∧ r = ⟨0, set v cfg, none⟩) ∨ r = ⟨EINVAL, cfg, none⟩ := by
  match params, h with
  | [p], h =>
    simp only [parseKeyword, Option.some.injEq] at h
    split at h
    · exact .inl ⟨p, _, rfl, ‹_›, h.symm⟩
    · exact .inr h.symm

/-- **Inversion of a number option.** -/
theorem parseScanned_cases {β : Type} {scan : String → Option β} {check : String → β → Option String}
    {set : β → ShmConfig → ShmConfig} (h : parseScanned scan check set cfg params = some r) :
    (∃ p v, params = [p] ∧ scan p = some v ∧ check p v = none ∧ r = ⟨0, set v cfg, none⟩) ∨
      r = ⟨EINVAL, cfg, none⟩ ∨ ∃ p v text, check p v = some text ∧ r = ⟨ERANGE, cfg, some text⟩ := by
  match params, h with
  | [p], h =>
    simp only [parseScanned, Option.some.injEq] at h
    split at h
    · exact .inr (.inl h.symm)
    · split at h
      · exact .inl ⟨p, _, rfl, ‹_›, ‹_›, h.symm⟩
      · exact .inr (.inr ⟨p, _, _, ‹_›, h.symm⟩)

theorem unitCheck_eq_none {name p : String} {v : LongDouble} :
    unitCheck name p v = none ↔ v.InUnit ∨ v = .nan := by
  rw [← unitTest_eq_false, unitCheck]
  split_ifs with h <;> simp [h]

theorem sizeCheck_eq_none {name p : String} {lo hi v : Int} : sizeCheck name lo hi p v = none ↔ lo ≤ v ∧ v ≤ hi := by
  unfold sizeCheck
  split_ifs with h <;> simp only [reduceCtorEq, false_iff, true_iff] <;> omega

theorem parseKeyword_ok {α : Type} {table : List (String × α)} {set : α → ShmConfig → ShmConfig}
    (h : parseKeyword table set cfg params = some r) (hrc : r.rc = 0) : ∃ v, r.config = set v cfg := by
  rcases parseKeyword_cases h with ⟨-, v, -, -, rfl⟩ | rfl
  · exact ⟨v, rfl⟩
  · exact absurd hrc EINVAL_ne_zero

theorem parseScanned_ok {β : Type} {scan : String → Option β} {check : String → β → Option String}
    {set : β → ShmConfig → ShmConfig} (h : parseScanned scan check set cfg params = some r) (hrc : r.rc = 0) :
    ∃ p v, check p v = none ∧ r.config = set v cfg := by
  rcases parseScanned_cases h with ⟨p, v, -, -, hc, rfl⟩ | rfl | ⟨-, -, text, -, rfl⟩
  · exact ⟨p, v, hc, rfl⟩
  · exact absurd hrc EINVAL_ne_zero
  · exact absurd hrc ERANGE_ne_zero

end Shapes

/-! ## The parsers with bodies of their own -/

section OwnBodies

variable {env : ConfigEnv} {cfg : ShmConfig} {params : List String} {r : ParseResult}

theorem parseTimeOfDay_cases (h : parseTimeOfDay env cfg params = some r) :
    (∃ p, p.utf8ByteSize < env.configSectionNameMax ∧ r = ⟨0, { cfg with todName := p }, none⟩) ∨
      ∃ p, r = ⟨ERANGE, cfg, some ("instance name " ++ p ++ " too long\n")⟩ := by
  match params, h with
  | [p], h =>
    simp only [parseTimeOfDay, Option.some.injEq] at h
    split_ifs at h with hlen
    · exact .inr ⟨p, h.symm⟩
    · exact .inl ⟨p, by omega, h.symm⟩

theorem parseMasterAccuracy_cases (h : parseMasterAccuracy env cfg params = some r) :
    (∃ a, r = ⟨0, { cfg with masterAccuracy := a }, none⟩) ∨ r = ⟨EINVAL, cfg, none⟩ := by
  match params, h with
  | [p], h =>
    simp only [parseMasterAccuracy, Option.some.injEq] at h
    split_ifs at h
    · exact .inl ⟨_, h.symm⟩
    · split at h
      · exact .inr h.symm
      · exact .inl ⟨_, h.symm⟩

/-- **Inversion of `outlier_filter_adaption`**: unlike every other parser
with a range, a value out of range is in the section when the parser
returns `ERANGE`. -/
theorem parseOutlierAdaption_cases (h : parseOutlierAdaption env cfg params = some r) :
    (∃ v, (v.InUnit ∨ v = .nan) ∧ r = ⟨0, { cfg with outlierFilterAdaption := v }, none⟩) ∨
      r = ⟨EINVAL, cfg, none⟩ ∨
      ∃ p v, params.head? = some p ∧ env.scanLf p = some v ∧
        (v.lt (.finite 0) || (LongDouble.finite 1).lt v) = true ∧
        r = ⟨ERANGE, { cfg with outlierFilterAdaption := v },
          some ("outlier_filter_adaption " ++ p ++ " invalid. Expect range [0,1]\n")⟩ := by
  match params, h with
  | p :: _, h =>
    simp only [parseOutlierAdaption, Option.some.injEq] at h
    split at h
    · exact .inr (.inl h.symm)
    · rename_i v hv
      split_ifs at h with hr
      · exact .inr (.inr ⟨p, v, rfl, hv, hr, h.symm⟩)
      · exact .inl ⟨v, unitTest_eq_false.1 (eq_false_of_ne_true hr), h.symm⟩

/-- The traceability loop from any accumulator: an unknown word makes the
code `EINVAL`, and each flag is raised by its word. -/
theorem traceabilityLoop (ps : List String) :
    ∀ acc : ParseResult, ps.foldl (fun r p =>
      if p = "time" then { r with config := { r.config with masterTimeTraceable := true } }
      else if p = "freq" then { r with config := { r.config with masterFreqTraceable := true } }
      else { r with rc := EINVAL }) acc =
      ⟨if ps.all (fun p => p = "time" || p = "freq") then acc.rc else EINVAL,
        { acc.config with
          masterTimeTraceable := acc.config.masterTimeTraceable || decide ("time" ∈ ps)
          masterFreqTraceable := acc.config.masterFreqTraceable || decide ("freq" ∈ ps) }, acc.error⟩ := by
  induction ps with
  | nil => intro acc; simp
  | cons p ps ih =>
    intro acc
    rw [List.foldl_cons, ih]
    by_cases ht : p = "time"
    · subst ht
      simp
    · by_cases hf : p = "freq"
      · subst hf
        simp
      · simp [ht, hf, Ne.symm ht, Ne.symm hf]

/-- **`master_traceability`**: the flags are exactly the words given, whatever
they were before; the code is `EINVAL` when a word is neither, and the words
known are applied all the same. -/
theorem masterTraceability_spec (cfg : ShmConfig) (params : List String) :
    parseMasterTraceability cfg params =
      some ⟨if params.all (fun p => p = "time" || p = "freq") then 0 else EINVAL,
        { cfg with masterTimeTraceable := decide ("time" ∈ params), masterFreqTraceable := decide ("freq" ∈ params) },
        none⟩ := by
  rw [parseMasterTraceability, traceabilityLoop]
  simp

end OwnBodies

/-! ## The table -/

/-- A parser that leaves the section as it was whenever it fails. -/
def FailsInPlace (parse : ShmConfig → List String → Option ParseResult) : Prop :=
  ∀ cfg params r, parse cfg params = some r → r.rc ≠ 0 → r.config = cfg

theorem parseKeyword_failsInPlace {α : Type} (table : List (String × α)) (set : α → ShmConfig → ShmConfig) :
    FailsInPlace (parseKeyword table set) := fun _ _ _ h hrc => by
  rcases parseKeyword_cases h with ⟨_, _, -, -, rfl⟩ | rfl
  · exact absurd rfl hrc
  · rfl

theorem parseScanned_failsInPlace {β : Type} (scan : String → Option β) (check : String → β → Option String)
    (set : β → ShmConfig → ShmConfig) : FailsInPlace (parseScanned scan check set) := fun _ _ _ h hrc => by
  rcases parseScanned_cases h with ⟨_, _, -, -, -, rfl⟩ | rfl | ⟨_, _, _, -, rfl⟩
  · exact absurd rfl hrc
  · rfl
  · rfl

/-- **A failed option changes nothing**, for every parser of the table but
`outlier_filter_adaption` (a value out of range is stored,
`parseOutlierAdaption_cases`) and `master_traceability` (the words known are
applied, `masterTraceability_spec`). -/
theorem parse_failure_frame (env : ConfigEnv) :
    ∀ entry ∈ shmConfigOptions env, entry.1 ≠ "outlier_filter_adaption" → entry.1 ≠ "master_traceability" →
      FailsInPlace entry.2 := by
  rw [shmConfigOptions]
  simp only [List.forall_mem_cons]
  refine ⟨fun _ _ => parseScanned_failsInPlace _ _ _, fun _ _ => parseScanned_failsInPlace _ _ _,
    fun _ _ => parseKeyword_failsInPlace _ _, fun _ _ cfg params r h hrc => ?_,
    fun _ _ => parseKeyword_failsInPlace _ _, fun _ _ => parseKeyword_failsInPlace _ _,
    fun _ _ cfg params r h hrc => ?_, fun _ h => absurd rfl h,
    fun _ _ => parseScanned_failsInPlace _ _ _, fun _ _ => parseScanned_failsInPlace _ _ _,
    fun _ _ => parseScanned_failsInPlace _ _ _, fun _ _ => parseScanned_failsInPlace _ _ _,
    fun _ _ => parseKeyword_failsInPlace _ _, fun _ _ => parseScanned_failsInPlace _ _ _,
    fun h _ => absurd rfl h, fun _ _ => parseScanned_failsInPlace _ _ _, fun _ h => absurd h (List.not_mem_nil _)⟩
  · rcases parseTimeOfDay_cases h with ⟨_, -, rfl⟩ | ⟨_, rfl⟩
    · exact absurd rfl hrc
    · rfl
  · rcases parseMasterAccuracy_cases h with ⟨_, rfl⟩ | rfl
    · exact absurd rfl hrc
    · rfl

/-- A parser whose range errors log a text that begins with `name`. -/
def NamesOnRangeError (name : String) (parse : ShmConfig → List String → Option ParseResult) : Prop :=
  ∀ cfg params r, parse cfg params = some r → r.rc = ERANGE → ∃ rest, r.error = some (name ++ rest)

theorem parseKeyword_names {α : Type} (name : String) (table : List (String × α)) (set : α → ShmConfig → ShmConfig) :
    NamesOnRangeError name (parseKeyword table set) := fun _ _ _ h hrc => by
  rcases parseKeyword_cases h with ⟨_, _, -, -, rfl⟩ | rfl
  · exact absurd hrc.symm ERANGE_ne_zero
  · exact absurd hrc EINVAL_ne_ERANGE

theorem parseScanned_names {β : Type} (name : String) (scan : String → Option β)
    (check : String → β → Option String) (set : β → ShmConfig → ShmConfig)
    (hcheck : ∀ p v text, check p v = some text → ∃ rest, text = name ++ rest) :
    NamesOnRangeError name (parseScanned scan check set) := fun _ _ _ h hrc => by
  rcases parseScanned_cases h with ⟨_, _, -, -, -, rfl⟩ | rfl | ⟨p, v, text, hc, rfl⟩
  · exact absurd hrc.symm ERANGE_ne_zero
  · exact absurd hrc EINVAL_ne_ERANGE
  · obtain ⟨rest, rfl⟩ := hcheck p v text hc
    exact ⟨rest, rfl⟩

theorem noCheck_names {β : Type} (name : String) : ∀ (p : String) (v : β) text, noCheck p v = some text →
    ∃ rest, text = name ++ rest := fun _ _ _ h => nomatch h

theorem unitCheck_names (name : String) : ∀ p v text, unitCheck name p v = some text → ∃ rest, text = name ++ rest :=
  fun p v text h => by
    unfold unitCheck at h
    split_ifs at h
    cases h
    exact ⟨" " ++ p ++ " outside valid range [0,1]\n", by simp only [String.append_assoc]⟩

theorem sizeCheck_names (name : String) (lo hi : Int) :
    ∀ p v text, sizeCheck name lo hi p v = some text → ∃ rest, text = name ++ rest := fun p v text h => by
  unfold sizeCheck at h
  split_ifs at h
  cases h
  exact ⟨" " ++ p ++ " invalid. Expect range [" ++ toString lo ++ "," ++ toString hi ++ "]\n",
    by simp only [String.append_assoc]⟩

/-- **Every range error names its option**, the one of `time_of_day` apart,
whose text names the instance (`parseTimeOfDay_cases`). -/
theorem parse_range_error_names_option (env : ConfigEnv) :
    ∀ entry ∈ shmConfigOptions env, entry.1 ≠ "time_of_day" → NamesOnRangeError entry.1 entry.2 := by
  rw [shmConfigOptions]
  simp only [List.forall_mem_cons]
  refine ⟨fun _ => parseScanned_names _ _ _ _ (noCheck_names _), fun _ => parseScanned_names _ _ _ _ (noCheck_names _),
    fun _ => parseKeyword_names _ _ _, fun h => absurd rfl h, fun _ => parseKeyword_names _ _ _,
    fun _ => parseKeyword_names _ _ _, fun _ cfg params r h hrc => ?_, fun _ cfg params r h hrc => ?_,
    fun _ => parseScanned_names _ _ _ _ (noCheck_names _), fun _ => parseScanned_names _ _ _ _ (noCheck_names _),
    fun _ => parseScanned_names _ _ _ _ (unitCheck_names _), fun _ => parseScanned_names _ _ _ _ (unitCheck_names _),
    fun _ => parseKeyword_names _ _ _, fun _ => parseScanned_names _ _ _ _ (sizeCheck_names _ _ _),
    fun _ cfg params r h hrc => ?_, fun _ => parseScanned_names _ _ _ _ (sizeCheck_names _ _ _), fun _ h => absurd h (List.not_mem_nil _)⟩
  · rcases parseMasterAccuracy_cases h with ⟨_, rfl⟩ | rfl
    · exact absurd hrc.symm ERANGE_ne_zero
    · exact absurd hrc EINVAL_ne_ERANGE
  · rw [parseMasterTraceability, traceabilityLoop, Option.some.injEq] at h
    subst h
    split at hrc
    · exact absurd hrc.symm ERANGE_ne_zero
    · exact absurd hrc EINVAL_ne_ERANGE
  · rcases parseOutlierAdaption_cases h with ⟨_, -, rfl⟩ | rfl | ⟨p, _, -, -, -, rfl⟩
    · exact absurd hrc.symm ERANGE_ne_zero
    · exact absurd hrc EINVAL_ne_ERANGE
    · have hname : "outlier_filter_adaption " = "outlier_filter_adaption" ++ " " := rfl
      exact ⟨" " ++ p ++ " invalid. Expect range [0,1]\n", by rw [hname]; simp only [String.append_assoc]⟩

/-! ## The ranges, over a run of options -/

/-- The ranges the parsers enforce, on the fields they enforce them on: NaN
passes the `[0,1]` tests, so those fields are in `[0,1]` or NaN. -/
structure ConfigValid (env : ConfigEnv) (cfg : ShmConfig) : Prop where
  todName_short : cfg.todName.utf8ByteSize < env.configSectionNameMax
  kp_unit : cfg.pidFilterKp.InUnit ∨ cfg.pidFilterKp = .nan
  ki_unit : cfg.pidFilterKi.InUnit ∨ cfg.pidFilterKi = .nan
  adaption_unit : cfg.outlierFilterAdaption.InUnit ∨ cfg.outlierFilterAdaption = .nan
  outlierSize_range : env.peirceFilterSamplesMin ≤ cfg.outlierFilterSize ∧
    (cfg.outlierFilterSize : Int) ≤ env.peirceFilterSamplesMax
  firSize_range : env.firFilterStiffnessMin ≤ cfg.firFilterSize ∧
    (cfg.firFilterSize : Int) ≤ env.firFilterStiffnessMax

/-- The filter limits are `unsigned int`s, so that a size in range is the
number `(unsigned int)size` stores. -/
structure ConfigEnv.LimitsFit (env : ConfigEnv) : Prop where
  peirce_nonneg : 0 ≤ env.peirceFilterSamplesMin
  peirce_lt : env.peirceFilterSamplesMax < 2 ^ 32
  fir_nonneg : 0 ≤ env.firFilterStiffnessMin
  fir_lt : env.firFilterStiffnessMax < 2 ^ 32

theorem toUnsigned_of_range {v : Int} (h0 : 0 ≤ v) (h1 : v < 2 ^ 32) : (toUnsigned v : Int) = v := by
  rw [toUnsigned, Int.emod_eq_of_lt h0 h1, Int.toNat_of_nonneg h0]

theorem toUnsigned_sizeCheck {name p : String} {lo hi v : Int} (hlo : 0 ≤ lo) (hhi : hi < 2 ^ 32)
    (hc : sizeCheck name lo hi p v = none) : lo ≤ (toUnsigned v : Int) ∧ (toUnsigned v : Int) ≤ hi := by
  obtain ⟨h1, h2⟩ := sizeCheck_eq_none.1 hc
  rw [toUnsigned_of_range (by omega) (by omega)]
  exact ⟨h1, h2⟩

/-- A parser that keeps the ranges whenever it returns 0. -/
def KeepsValid (env : ConfigEnv) (parse : ShmConfig → List String → Option ParseResult) : Prop :=
  ∀ cfg params r, ConfigValid env cfg → parse cfg params = some r → r.rc = 0 → ConfigValid env r.config

section KeepsValid

variable {env : ConfigEnv}

theorem parseKeyword_keepsValid {α : Type} {table : List (String × α)} {set : α → ShmConfig → ShmConfig}
    (hset : ∀ v cfg, ConfigValid env cfg → ConfigValid env (set v cfg)) : KeepsValid env (parseKeyword table set) :=
  fun _ _ _ hv h hrc => by
    obtain ⟨v, hr⟩ := parseKeyword_ok h hrc
    exact hr ▸ hset v _ hv

theorem parseScanned_keepsValid {β : Type} {scan : String → Option β} {check : String → β → Option String}
    {set : β → ShmConfig → ShmConfig} (hset : ∀ p v cfg, check p v = none → ConfigValid env cfg → ConfigValid env (set v cfg)) :
    KeepsValid env (parseScanned scan check set) := fun _ _ _ hv h hrc => by
  obtain ⟨p, v, hc, hr⟩ := parseScanned_ok h hrc
  exact hr ▸ hset p v _ hc hv

/-- **Every option the table accepts keeps the ranges**: the step of
`applyOptions_valid`. -/
theorem shmConfigOptions_keepValid (henv : env.LimitsFit) : ∀ entry ∈ shmConfigOptions env, KeepsValid env entry.2 := by
  rw [shmConfigOptions]
  simp only [List.forall_mem_cons]
  refine ⟨parseScanned_keepsValid fun _ _ _ _ h => ⟨h.1, h.2, h.3, h.4, h.5, h.6⟩,
    parseScanned_keepsValid fun _ _ _ _ h => ⟨h.1, h.2, h.3, h.4, h.5, h.6⟩,
    parseKeyword_keepsValid fun _ _ h => ⟨h.1, h.2, h.3, h.4, h.5, h.6⟩, fun cfg params r hv h hrc => ?_,
    parseKeyword_keepsValid fun _ _ h => ⟨h.1, h.2, h.3, h.4, h.5, h.6⟩,
    parseKeyword_keepsValid fun _ _ h => ⟨h.1, h.2, h.3, h.4, h.5, h.6⟩, fun cfg params r hv h hrc => ?_,
    fun cfg params r hv h _ => ?_,
    parseScanned_keepsValid fun _ _ _ _ h => ⟨h.1, h.2, h.3, h.4, h.5, h.6⟩,
    parseScanned_keepsValid fun _ _ _ _ h => ⟨h.1, h.2, h.3, h.4, h.5, h.6⟩,
    parseScanned_keepsValid fun _ _ _ hc h => ⟨h.1, unitCheck_eq_none.1 hc, h.3, h.4, h.5, h.6⟩,
    parseScanned_keepsValid fun _ _ _ hc h => ⟨h.1, h.2, unitCheck_eq_none.1 hc, h.4, h.5, h.6⟩,
    parseKeyword_keepsValid fun _ _ h => ⟨h.1, h.2, h.3, h.4, h.5, h.6⟩,
    parseScanned_keepsValid fun _ _ _ hc h =>
      ⟨h.1, h.2, h.3, h.4, toUnsigned_sizeCheck henv.peirce_nonneg henv.peirce_lt hc, h.6⟩,
    fun cfg params r hv h hrc => ?_,
    parseScanned_keepsValid fun _ _ _ hc h =>
      ⟨h.1, h.2, h.3, h.4, h.5, toUnsigned_sizeCheck henv.fir_nonneg henv.fir_lt hc⟩,
    fun _ h => absurd h (List.not_mem_nil _)⟩
  · rcases parseTimeOfDay_cases h with ⟨p, hp, rfl⟩ | ⟨_, rfl⟩
    · exact ⟨hp, hv.2, hv.3, hv.4, hv.5, hv.6⟩
    · exact absurd hrc ERANGE_ne_zero
  · rcases parseMasterAccuracy_cases h with ⟨_, rfl⟩ | rfl
    · exact ⟨hv.1, hv.2, hv.3, hv.4, hv.5, hv.6⟩
    · exact absurd hrc EINVAL_ne_zero
  · rw [parseMasterTraceability, traceabilityLoop, Option.some.injEq] at h
    subst h
    exact ⟨hv.1, hv.2, hv.3, hv.4, hv.5, hv.6⟩
  · rcases parseOutlierAdaption_cases h with ⟨v, hu, rfl⟩ | rfl | ⟨_, _, -, -, -, rfl⟩
    · exact ⟨hv.1, hv.2, hv.3, hu, hv.5, hv.6⟩
    · exact absurd hrc EINVAL_ne_zero
    · exact absurd hrc ERANGE_ne_zero

end KeepsValid

/-- The caller of the table, in `sfptpd_config.c` (not under `src/`), as the
table is used: each line of a section is given to the parser of its option,
the section goes on when the parser returns 0, and reading stops at the
first other code, at an option of no parser and at an assertion. -/
def applyOptions (env : ConfigEnv) (cfg : ShmConfig) : List (String × List String) → Option ShmConfig
  | [] => some cfg
  | (name, params) :: rest => match (shmConfigOptions env).lookup name with
    | none => none
    | some parse => match parse cfg params with
      | some r => if r.rc = 0 then applyOptions env r.config rest else none
      | none => none

/-- **A section read to its end keeps the ranges**: whatever options it
holds, in whatever order and however often, if every one of them is accepted
the section stays in range. -/
theorem applyOptions_valid {env : ConfigEnv} (henv : env.LimitsFit) {cfg : ShmConfig}
    {lines : List (String × List String)} {cfg' : ShmConfig} (hcfg : ConfigValid env cfg)
    (h : applyOptions env cfg lines = some cfg') : ConfigValid env cfg' := by
  induction lines generalizing cfg with
  | nil => exact Option.some.inj h ▸ hcfg
  | cons line rest ih =>
    obtain ⟨name, params⟩ := line
    simp only [applyOptions] at h
    split at h
    · cases h
    · rename_i parse hparse
      split at h
      · rename_i r hr
        split_ifs at h with hrc
        obtain ⟨l₁, l₂, htable, -⟩ := List.lookup_eq_some_iff.1 hparse
        have hmem : (name, parse) ∈ shmConfigOptions env := htable ▸ List.mem_append_right l₁ (List.mem_cons_self _ l₂)
        exact ih (shmConfigOptions_keepValid henv _ hmem _ _ _ hcfg hr hrc) h
      · cases h

/-- Two lines read with a `sscanf` that reads `nan` as NaN and every other
number as 0 or 4: the run of `applyOptions_valid` at that section, which ends
with `pid_filter_p` NaN. -/
theorem applyOptions_valid_two_lines :
    let env : ConfigEnv :=
      ⟨fun p => if p = "nan" then some .nan else some (.finite 0), fun _ => some 4, 3, 60, 1, 128, 64⟩
    let cfg : ShmConfig := ⟨5, .finite 0, .complete, "", .locked, .gps, .inf false, true, true, 1, .finite 0,
      .finite 0, .finite 0, true, 30, .finite 1, 4⟩
    env.LimitsFit ∧ ConfigValid env cfg ∧
      applyOptions env cfg [("pid_filter_p", ["nan"]), ("outlier_filter_size", ["4"])] =
        some { cfg with pidFilterKp := .nan, outlierFilterSize := 4 } ∧
      ConfigValid env { cfg with pidFilterKp := .nan, outlierFilterSize := 4 } := by
  intro env cfg
  have henv : env.LimitsFit := ⟨by decide, by decide, by decide, by decide⟩
  have hcfg : ConfigValid env cfg := ⟨by decide, .inl ⟨le_refl _, zero_le_one⟩, .inl ⟨le_refl _, zero_le_one⟩,
    .inl ⟨zero_le_one, le_refl _⟩, ⟨by decide, by decide⟩, ⟨by decide, by decide⟩⟩
  have hrun : applyOptions env cfg [("pid_filter_p", ["nan"]), ("outlier_filter_size", ["4"])] =
      some { cfg with pidFilterKp := .nan, outlierFilterSize := 4 } := rfl
  exact ⟨henv, hcfg, hrun, applyOptions_valid henv hcfg hrun⟩

end Sfptpd.Shm
