import GridPlatform.RawSamples
import Mathlib.Tactic.NormNum

/-!
`AccumulationAdapterBase._get_samples`: the periods meeting the query, in start order, are
stitched into one sequence. A synthetic zero stands at `from` when the first period starts
later; each later period drops its first sample and has the previous period's last quantity
added; an extrapolated sample holds the last one up to `to`.
-/
namespace GridPlatform

/-- Modelled from the spec: `DataSeries.create_point_sample` (`legacy.measurementpoints`, not
in the source) makes the point sample, non-cachable when `uncachable`. -/
def DataSeries.createPointSample (timestamp : Int) (physicalQuantity : ℚ)
    (uncachable extrapolated : Bool) : Sample :=
  ⟨timestamp, physicalQuantity, !uncachable, extrapolated⟩

/-- Modelled from the spec: `period_set.in_range(from, to).order_by('from_timestamp')`
(`gridplatform.datasequences`, not in the source) keeps the periods meeting `[from, to]`; the
periods of a sequence are already in start order. -/
def inRange (fromTimestamp toTimestamp : Int) (periods : List AccumulationPeriod) :
    List AccumulationPeriod :=
  periods.filter fun p => p.fromTimestamp ≤ toTimestamp ∧ fromTimestamp ≤ p.toTimestamp

namespace AccumulationAdapter

def addPeriodOffset (periodOffset : ℚ) (sample : Sample) : Sample :=
  { sample with physicalQuantity := sample.physicalQuantity + periodOffset }

@[simp] theorem addPeriodOffset_timestamp (o : ℚ) (s : Sample) :
    (addPeriodOffset o s).timestamp = s.timestamp := rfl

@[simp] theorem addPeriodOffset_cachable (o : ℚ) (s : Sample) :
    (addPeriodOffset o s).cachable = s.cachable := rfl

@[simp] theorem addPeriodOffset_extrapolated (o : ℚ) (s : Sample) :
    (addPeriodOffset o s).extrapolated = s.extrapolated := rfl

/-- The loop over the remaining periods, from `period_offset` and `last_sample_yielded`: every
sample after a period's first is yielded with the offset added, `last_sample_yielded` becomes
the last of them as the period gave it, and the next offset is the period's last quantity
(`ZERO` for a period that gives nothing). -/
def getSamplesOfRemainingPeriods (fromTimestamp toTimestamp : Int) :
    ℚ → Option Sample → List AccumulationPeriod →
      Except AssertionError (List Sample × Option Sample)
  | _, lastSampleYielded, [] => pure ([], lastSampleYielded)
  | periodOffset, lastSampleYielded, inputPeriod :: inputPeriods => do
    let samples ← inputPeriod.getSamples (max fromTimestamp inputPeriod.fromTimestamp)
      (min toTimestamp inputPeriod.toTimestamp)
    let nextPeriodOffset := (samples.getLast?.map (·.physicalQuantity)).getD 0
    let (rest, lastSampleYielded') ← getSamplesOfRemainingPeriods fromTimestamp toTimestamp
      nextPeriodOffset (samples.tail.getLast? <|> lastSampleYielded) inputPeriods
    pure (samples.tail.map (addPeriodOffset periodOffset) ++ rest, lastSampleYielded')

def zeroSample (timestamp : Int) : Sample := DataSeries.createPointSample timestamp 0 true true

/-- `AccumulationAdapterBase._get_samples` over the periods `in_range` hands it. -/
def getSamples (fromTimestamp toTimestamp : Int) (inputPeriods : List AccumulationPeriod) :
    Except AssertionError (List Sample) := do
  let (yielded, lastSampleYielded) ← match inputPeriods with
    | [] => pure ([], none)
    | firstInputPeriod :: inputPeriods => do
      let leading := if firstInputPeriod.fromTimestamp > fromTimestamp then
        [zeroSample fromTimestamp] else []
      let samples ← firstInputPeriod.getSamples (max fromTimestamp firstInputPeriod.fromTimestamp)
        (min toTimestamp firstInputPeriod.toTimestamp)
      let (rest, lastSampleYielded) ← getSamplesOfRemainingPeriods fromTimestamp toTimestamp
        ((samples.getLast?.map (·.physicalQuantity)).getD 0) (samples.getLast? <|> leading.getLast?)
        inputPeriods
      let trailing := match lastSampleYielded with
        | some last => if last.timestamp ≠ toTimestamp then
            [{ last with timestamp := toTimestamp, cachable := false, extrapolated := true }]
          else []
        | none => []
      pure (leading ++ samples ++ rest ++ trailing, lastSampleYielded)
  match lastSampleYielded with
  | none => pure (yielded ++ [zeroSample fromTimestamp, zeroSample toTimestamp])
  | some _ => pure yielded

/-! ## Only the zero-start check can fail -/

section Failures

variable {u v : Int} (huv : u ≤ v)
include huv

theorem getSamplesOfRemainingPeriods_failsOnlyAt {ps : List AccumulationPeriod}
    (hps : ∀ p ∈ ps, p.fromTimestamp ≤ v ∧ u ≤ p.toTimestamp) (o : ℚ) (last : Option Sample) :
    FailsOnlyAt 288 (getSamplesOfRemainingPeriods u v o last ps) := by
  induction ps generalizing o last with
  | nil => exact FailsOnlyAt.ok _
  | cons p ps ih =>
    have hp := hps p (List.mem_cons_self _ _)
    have ih := fun o last => ih (fun q hq => hps q (List.mem_cons_of_mem _ hq)) o last
    exact (p.getSamples_clipped_failsOnlyAt huv hp.1 hp.2).bind fun _ =>
      (ih _ _).bind fun _ => FailsOnlyAt.ok _

theorem getSamples_failsOnlyAt {ps : List AccumulationPeriod}
    (hps : ∀ p ∈ ps, p.fromTimestamp ≤ v ∧ u ≤ p.toTimestamp) :
    FailsOnlyAt 288 (getSamples u v ps) := by
  unfold getSamples
  cases ps with
  | nil => exact FailsOnlyAt.ok _
  | cons p ps =>
    have hp := hps p (List.mem_cons_self _ _)
    exact (p.getSamples_clipped_failsOnlyAt huv hp.1 hp.2).bind fun _ =>
      (getSamplesOfRemainingPeriods_failsOnlyAt huv (fun q hq => hps q (List.mem_cons_of_mem _ hq))
        _ _).bind fun x => by rcases x with ⟨_, _ | _⟩ <;> exact FailsOnlyAt.ok _

end Failures

/-! ## Meters swapped between periods

Three nonpulse periods of ten seconds, each on a new meter counting from zero. -/

def firstMeter : AccumulationPeriod :=
  ⟨⟨0, 10, ⟨[⟨0, 0⟩, ⟨10, 10⟩], by decide⟩, by decide⟩, .nonpulseAccumulation, by simp⟩

def secondMeter : AccumulationPeriod :=
  ⟨⟨10, 20, ⟨[⟨10, 0⟩, ⟨20, 10⟩], by decide⟩, by decide⟩, .nonpulseAccumulation, by simp⟩

def thirdMeter : AccumulationPeriod :=
  ⟨⟨20, 30, ⟨[⟨20, 0⟩, ⟨25, 5⟩, ⟨30, 10⟩], by decide⟩, by decide⟩, .nonpulseAccumulation, by simp⟩

/-- The second meter, read only up to 15 s. -/
def shortMeter : AccumulationPeriod :=
  ⟨⟨10, 20, ⟨[⟨10, 0⟩, ⟨15, 5⟩], by decide⟩, by decide⟩, .nonpulseAccumulation, by simp⟩

def unsupportedPeriod : AccumulationPeriod := ⟨⟨0, 10, ⟨[], by decide⟩, by decide⟩, .unsupported, by simp⟩

theorem firstMeter_getSamples :
    firstMeter.getSamples 0 10 = .ok [⟨0, 0, true, false⟩, ⟨10, 10, true, false⟩] :=
  (AccumulationPeriod.getSamples_of_readings rfl (by decide) ⟨0, 0⟩ ⟨10, 10⟩ (by decide) (by decide)
    (by decide) (by decide) (by decide)).trans rfl

theorem secondMeter_getSamples :
    secondMeter.getSamples 10 20 = .ok [⟨10, 0, true, false⟩, ⟨20, 10, true, false⟩] :=
  (AccumulationPeriod.getSamples_of_readings rfl (by decide) ⟨10, 0⟩ ⟨20, 10⟩ (by decide) (by decide)
    (by decide) (by decide) (by decide)).trans rfl

theorem thirdMeter_getSamples : thirdMeter.getSamples 20 30 =
    .ok [⟨20, 0, true, false⟩, ⟨25, 5, true, false⟩, ⟨30, 10, true, false⟩] :=
  (AccumulationPeriod.getSamples_of_readings rfl (by decide) ⟨20, 0⟩ ⟨30, 10⟩ (by decide) (by decide)
    (by decide) (by decide) (by decide)).trans rfl

/-- The third period's samples carry the second period's usage only: at 25 s the stitched
quantity is 15, not the 25 the first two periods' usage gives. -/
theorem carry_skips_earlier_periods :
    getSamples 0 30 [firstMeter, secondMeter, thirdMeter] = .ok [⟨0, 0, true, false⟩,
      ⟨10, 10, true, false⟩, ⟨20, 20, true, false⟩, ⟨25, 15, true, false⟩, ⟨30, 20, true, false⟩] := by
  have h1 : firstMeter.fromTimestamp = 0 ∧ firstMeter.toTimestamp = 10 := ⟨rfl, rfl⟩
  have h2 : secondMeter.fromTimestamp = 10 ∧ secondMeter.toTimestamp = 20 := ⟨rfl, rfl⟩
  have h3 : thirdMeter.fromTimestamp = 20 ∧ thirdMeter.toTimestamp = 30 := ⟨rfl, rfl⟩
  simp [getSamples, getSamplesOfRemainingPeriods, h1, h2, h3, firstMeter_getSamples,
    secondMeter_getSamples, thirdMeter_getSamples, addPeriodOffset]
  norm_num

theorem secondMeter_getSamples_at_end :
    secondMeter.getSamples 20 20 = .ok [⟨20, 10, true, false⟩] :=
  (AccumulationPeriod.getSamples_of_readings rfl (by decide) ⟨20, 10⟩ ⟨20, 10⟩ (by decide) (by decide)
    (by decide) (by decide) (by decide)).trans rfl

theorem thirdMeter_getSamples_at_start :
    thirdMeter.getSamples 20 20 = .ok [⟨20, 0, true, false⟩] :=
  (AccumulationPeriod.getSamples_of_readings rfl (by decide) ⟨20, 0⟩ ⟨20, 0⟩ (by decide) (by decide)
    (by decide) (by decide) (by decide)).trans rfl

theorem shortMeter_getSamples :
    shortMeter.getSamples 10 20 = .ok [⟨10, 0, true, false⟩, ⟨15, 5, true, false⟩,
      ⟨20, 5, false, true⟩] :=
  (AccumulationPeriod.getSamples_held_after_last rfl (by decide) ⟨10, 0⟩ ⟨15, 5⟩ (by decide) (by decide)
    (by decide) (by decide) (by decide) (by decide) (by decide)).trans rfl

/-- The usage `D(a, b)` a run reports: its last quantity less its first. -/
def development (samples : List Sample) : ℚ :=
  match samples.head?, samples.getLast? with
  | some first, some last => last.physicalQuantity - first.physicalQuantity
  | _, _ => 0

/-- Split at the join of the second and third period, the usage of `[0, 30]` is 20 while its
two halves report 20 and 10. -/
theorem development_split_at_join :
    getSamples 0 30 (inRange 0 30 [firstMeter, secondMeter, thirdMeter]) = .ok [⟨0, 0, true, false⟩,
      ⟨10, 10, true, false⟩, ⟨20, 20, true, false⟩, ⟨25, 15, true, false⟩, ⟨30, 20, true, false⟩] ∧
    getSamples 0 20 (inRange 0 20 [firstMeter, secondMeter, thirdMeter]) =
      .ok [⟨0, 0, true, false⟩, ⟨10, 10, true, false⟩, ⟨20, 20, true, false⟩] ∧
    getSamples 20 30 (inRange 20 30 [firstMeter, secondMeter, thirdMeter]) =
      .ok [⟨20, 10, true, false⟩, ⟨25, 15, true, false⟩, ⟨30, 20, true, false⟩] ∧
    development [⟨0, 0, true, false⟩, ⟨10, 10, true, false⟩, ⟨20, 20, true, false⟩,
      ⟨25, 15, true, false⟩, ⟨30, 20, true, false⟩] ≠
    development [⟨0, 0, true, false⟩, ⟨10, 10, true, false⟩, ⟨20, 20, true, false⟩] +
      development [⟨20, 10, true, false⟩, ⟨25, 15, true, false⟩, ⟨30, 20, true, false⟩] := by
  have h1 : firstMeter.fromTimestamp = 0 ∧ firstMeter.toTimestamp = 10 := ⟨rfl, rfl⟩
  have h2 : secondMeter.fromTimestamp = 10 ∧ secondMeter.toTimestamp = 20 := ⟨rfl, rfl⟩
  have h3 : thirdMeter.fromTimestamp = 20 ∧ thirdMeter.toTimestamp = 30 := ⟨rfl, rfl⟩
  refine ⟨?_, ?_, ?_, by norm_num [development]⟩ <;>
  · simp [getSamples, getSamplesOfRemainingPeriods, inRange, h1, h2, h3, firstMeter_getSamples,
      secondMeter_getSamples, thirdMeter_getSamples, secondMeter_getSamples_at_end,
      thirdMeter_getSamples_at_start, addPeriodOffset]
    norm_num

/-- When the last period ends before `to`, the sample held up to `to` drops the carry: the
quantity falls from 15 to 5. -/
theorem trailing_sample_drops_carry :
    getSamples 0 30 [firstMeter, shortMeter] = .ok [⟨0, 0, true, false⟩, ⟨10, 10, true, false⟩,
      ⟨15, 15, true, false⟩, ⟨20, 15, false, true⟩, ⟨30, 5, false, true⟩] := by
  have h1 : firstMeter.fromTimestamp = 0 ∧ firstMeter.toTimestamp = 10 := ⟨rfl, rfl⟩
  have h2 : shortMeter.fromTimestamp = 10 ∧ shortMeter.toTimestamp = 20 := ⟨rfl, rfl⟩
  simp [getSamples, getSamplesOfRemainingPeriods, h1, h2, firstMeter_getSamples,
    shortMeter_getSamples, addPeriodOffset]
  norm_num

/-- After a period that yields nothing, the next period's first sample is still skipped: the
run over `[0, 20]` starts at 20. -/
theorem first_sample_skipped_after_empty_period :
    getSamples 0 20 [unsupportedPeriod, secondMeter] = .ok [⟨20, 10, true, false⟩] := by
  have h1 : unsupportedPeriod.getSamples 0 10 = .ok [] := rfl
  have h2 : secondMeter.fromTimestamp = 10 ∧ secondMeter.toTimestamp = 20 := ⟨rfl, rfl⟩
  have h3 : unsupportedPeriod.fromTimestamp = 0 ∧ unsupportedPeriod.toTimestamp = 10 := ⟨rfl, rfl⟩
  simp [getSamples, getSamplesOfRemainingPeriods, h1, h2, h3, secondMeter_getSamples,
    addPeriodOffset]

end AccumulationAdapter

end GridPlatform
