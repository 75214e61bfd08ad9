/-
  ClockDiscipline/Proofs/SoundSettings.lean
  =========================================
  **Which settings pass the check, and which of them make no sense.**

  The check collects remarks and passes if there are none, so each part of it
  passes by itself (`Config.isSound_iff`).  A weight or a gain is objected to if
  it compares with zero in the wrong way, and what is not a number does not
  compare at all; the gains of the bus clock are not looked at.  So settings
  make sense exactly if they pass and these numbers are in order, too
  (`Config.sensible_iff`).
-/
import ClockDiscipline.Config.Settings
import ClockDiscipline.Proofs.Doubles

namespace ClockDiscipline

namespace Config

/-! ### Repetitions -/

theorem not_mem_take_iff_nodup {α : Type} {xs : List α} :
    (∀ i x, xs[i]? = some x → x ∉ xs.take i) ↔ xs.Nodup := by
  rw [List.Nodup, List.pairwise_iff_getElem]
  constructor
  · intro h i j hi hj hij hsame
    refine h j _ (List.getElem?_eq_getElem hj) (List.mem_take_iff_getElem.mpr ?_)
    exact ⟨i, Nat.lt_min.mpr ⟨hij, hi⟩, hsame⟩
  · intro h j x hx hmem
    obtain ⟨hj, rfl⟩ := List.getElem?_eq_some_iff.mp hx
    obtain ⟨i, hi, hsame⟩ := List.mem_take_iff_getElem.mp hmem
    obtain ⟨hij, hlt⟩ := Nat.lt_min.mp hi
    exact h i j hlt hj hij hsame

section Repetitions

variable {α : Type} [BEq α] [LawfulBEq α] {xs : List α}

theorem getElem?_repetitions (i : Nat) :
    (repetitions xs)[i]? = xs[i]?.map fun x => (x, (xs.take i).contains x) := by
  simp only [repetitions, List.getElem?_map, List.getElem?_zipIdx, Option.map_map]
  cases xs[i]? <;> simp

theorem mem_repetitions {x : α} {repeated : Bool} :
    (x, repeated) ∈ repetitions xs ↔
      ∃ i, xs[i]? = some x ∧ (xs.take i).contains x = repeated := by
  simp only [List.mem_iff_getElem?, getElem?_repetitions, Option.map_eq_some_iff, Prod.mk.injEq]
  constructor
  · rintro ⟨i, _, hx, rfl, hrepeated⟩
    exact ⟨i, hx, hrepeated⟩
  · rintro ⟨i, hx, hrepeated⟩
    exact ⟨i, x, hx, rfl, hrepeated⟩

end Repetitions

/-! ### Parts without remarks -/

theorem remarkIf_eq_nil_iff {wrong : Bool} {text : String} :
    remarkIf wrong text = [] ↔ wrong = false := by
  cases wrong <;> simp [remarkIf]

theorem portRemarks_eq_nil_iff {ports : List PortConfig} :
    portRemarks ports = [] ↔ (ports.map (·.number)).Nodup := by
  rw [← not_mem_take_iff_nodup]
  simp only [portRemarks, List.flatMap_eq_nil_iff, Prod.forall, mem_repetitions,
    remarkIf_eq_nil_iff]
  constructor
  · intro h i number hnumber
    simpa using h number _ ⟨i, hnumber, rfl⟩
  · rintro h number repeated ⟨i, hnumber, rfl⟩
    simpa using h i number hnumber

/-- The pulse of a source lasts longer than nothing and less than a second. -/
def WidthFits (source : SourceConfig) : Prop :=
  0 < source.pulseWidth.toInt ∧ source.pulseWidth.toInt < 1000000000

theorem sourceRemarks_eq_nil_iff {sources : List SourceConfig} :
    sourceRemarks sources = [] ↔
      (sources.map (·.device)).Nodup ∧ ∀ s ∈ sources, WidthFits s := by
  rw [← not_mem_take_iff_nodup]
  have hzip : ∀ i s, sources[i]? = some s →
      (s, s.device, ((sources.map (·.device)).take i).contains s.device) ∈
        sources.zip (repetitions (sources.map (·.device))) := by
    intro i s hs
    refine List.mem_iff_getElem?.mpr ⟨i, ?_⟩
    rw [List.getElem?_zip_eq_some, getElem?_repetitions]
    simp [hs]
  constructor
  · intro h
    rw [sourceRemarks, List.flatMap_eq_nil_iff] at h
    have hboth : ∀ i s, sources[i]? = some s →
        s.device ∉ (sources.map (·.device)).take i ∧ WidthFits s := by
      intro i s hs
      have hnone := h _ (hzip i s hs)
      simp only [List.append_eq_nil_iff, remarkIf_eq_nil_iff] at hnone
      refine ⟨by simpa using hnone.1, ?_⟩
      simpa [WidthFits] using hnone.2
    constructor
    · intro i device hdevice
      rw [List.getElem?_map] at hdevice
      obtain ⟨s, hs, rfl⟩ := Option.map_eq_some_iff.mp hdevice
      exact (hboth i s hs).1
    · intro s hs
      obtain ⟨i, hi⟩ := List.mem_iff_getElem?.mp hs
      exact (hboth i s hi).2
  · rintro ⟨hnodup, hwidths⟩
    rw [sourceRemarks, List.flatMap_eq_nil_iff]
    rintro ⟨s, device, repeated⟩ hmem
    obtain ⟨i, hi⟩ := List.mem_iff_getElem?.mp hmem
    rw [List.getElem?_zip_eq_some, getElem?_repetitions] at hi
    obtain ⟨hs, hrepeated⟩ := hi
    obtain ⟨_, hdevice, hpair⟩ := Option.map_eq_some_iff.mp hrepeated
    cases hpair
    simp only [List.append_eq_nil_iff, remarkIf_eq_nil_iff]
    constructor
    · simpa using hnodup i device hdevice
    · simpa [WidthFits] using hwidths s (List.mem_of_getElem? hs)

theorem busRemarks_eq_nil_iff {tracking : TrackingConfig} :
    busRemarks tracking = [] ↔ 0 < tracking.maxOffset.toInt ∧ 0 < tracking.periodMs := by
  have hperiod : 0 < tracking.periodMs ↔ tracking.periodMs ≠ 0 := UInt64.pos_iff_ne_zero
  simp [busRemarks, remarkIf_eq_nil_iff, hperiod]

/-! ### Settings that make sense -/

/-- Apart from weights and gains, the settings make sense. -/
structure WellFormed (config : Config) : Prop where
  level : config.level? ≠ none
  listens : config.sources ≠ []
  devices : (config.sources.map (·.device)).Nodup
  widths : ∀ s ∈ config.sources, WidthFits s
  ports : (config.ports.map (·.number)).Nodup
  bus : ∀ bus, config.bus = some bus →
    0 < bus.tracking.maxOffset.toInt ∧ 0 < bus.tracking.periodMs

/-- The settings make sense: the weight is positive, and no servo that is run has
    a negative gain, that of the bus clock included. -/
structure Sensible (config : Config) : Prop extends WellFormed config where
  weight : 0 < config.sync.sampleWeight
  gains : 0 ≤ config.servo.gains.kp ∧ 0 ≤ config.servo.gains.ki
  busGains : ∀ bus, config.bus = some bus →
    0 ≤ bus.tracking.gains.kp ∧ 0 ≤ bus.tracking.gains.ki

/-- What the check takes for granted: the weight and the gains are numbers, and those of
    the bus clock are not negative. -/
structure GainsOrdered (config : Config) : Prop where
  weight : config.sync.sampleWeight.isNaN = false
  gains : config.servo.gains.kp.isNaN = false ∧ config.servo.gains.ki.isNaN = false
  busGains : ∀ bus, config.bus = some bus →
    0 ≤ bus.tracking.gains.kp ∧ 0 ≤ bus.tracking.gains.ki

/-- What the check looks at. -/
theorem isSound_iff {config : Config} :
    config.isSound = true ↔ config.WellFormed ∧ ¬config.sync.sampleWeight ≤ 0 ∧
      ¬config.servo.gains.kp < 0 ∧ ¬config.servo.gains.ki < 0 := by
  simp only [isSound, remarks, List.isEmpty_iff, List.append_eq_nil_iff, remarkIf_eq_nil_iff,
    sourceRemarks_eq_nil_iff, portRemarks_eq_nil_iff, Option.isNone_eq_false_iff,
    Option.isSome_iff_ne_none, List.isEmpty_eq_false_iff, Bool.or_eq_false_iff,
    decide_eq_false_iff_not]
  constructor
  · rintro ⟨⟨⟨⟨⟨⟨hlevel, hlistens⟩, hdevices, hwidths⟩, hports⟩, hweight⟩, hgains⟩, hbus⟩
    refine ⟨⟨hlevel, hlistens, hdevices, hwidths, hports, ?_⟩, hweight, hgains⟩
    intro bus hsome
    rw [hsome] at hbus
    exact busRemarks_eq_nil_iff.mp hbus
  · rintro ⟨⟨hlevel, hlistens, hdevices, hwidths, hports, hbus⟩, hweight, hgains⟩
    refine ⟨⟨⟨⟨⟨⟨hlevel, hlistens⟩, hdevices, hwidths⟩, hports⟩, hweight⟩, hgains⟩, ?_⟩
    split
    · rfl
    · next bus hsome => exact busRemarks_eq_nil_iff.mpr (hbus bus hsome)

/-- Settings make sense exactly if they pass the check and, besides, the weight and
    the gains of the clocks are numbers and the gains of the bus clock are not
    negative. -/
theorem sensible_iff (config : Config) :
    config.Sensible ↔ config.isSound = true ∧ config.GainsOrdered := by
  rw [isSound_iff]
  constructor
  · intro h
    obtain ⟨hweight, hnumber⟩ := Binary64.zero_lt_iff.mp h.weight
    obtain ⟨hkp, hkpNumber⟩ := Binary64.zero_le_iff.mp h.gains.1
    obtain ⟨hki, hkiNumber⟩ := Binary64.zero_le_iff.mp h.gains.2
    exact ⟨⟨h.toWellFormed, hweight, hkp, hki⟩, hnumber, ⟨hkpNumber, hkiNumber⟩, h.busGains⟩
  · rintro ⟨⟨hwell, hweight, hkp, hki⟩, hordered⟩
    refine ⟨hwell, ?_, ⟨?_, ?_⟩, hordered.busGains⟩
    · exact Binary64.zero_lt_iff.mpr ⟨hweight, hordered.weight⟩
    · exact Binary64.zero_le_iff.mpr ⟨hkp, hordered.gains.1⟩
    · exact Binary64.zero_le_iff.mpr ⟨hki, hordered.gains.2⟩

/-- A source, and a weight that is not a number. -/
def weightless : Config where
  sync := { sampleWeight := Float.ofBits 0x7ff8000000000000 }
  sources := [{ device := "/dev/ptp0" }]

/-- Not all settings that pass the check make sense. -/
theorem not_forall_sensible : ¬∀ config : Config, config.isSound = true ↔ config.Sensible := by
  intro h
  have hsound : weightless.isSound = true := by decide +kernel
  have hnumber := (Binary64.zero_lt_iff.mp ((h weightless).mp hsound).weight).2
  revert hnumber
  decide +kernel

end Config

end ClockDiscipline
