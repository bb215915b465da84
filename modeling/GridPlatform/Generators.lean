import GridPlatform.AccumulationAdapter

/-!
The accumulation adapters' `get_samples` are generators: a caller sees each sample as it is
yielded, and a failed assertion stops the generator after the samples before it. `Yielded` is
what a generator yields until it stops, with the assertion that stopped it; `list(...)` over it
is the eager model of `AccumulationPeriod.getSamples` and `AccumulationAdapter.getSamples`,
which the two generators here refine.
-/
namespace GridPlatform

/-- What a generator yields until it stops: its samples, and the `AssertionError` that stopped
it, if one did. -/
structure Yielded where
  samples : List Sample
  raised : Option AssertionError
  deriving DecidableEq, Repr

namespace Yielded

/-- `list(...)` over the generator: all of its samples, or the assertion it raised. -/
def list (y : Yielded) : Except AssertionError (List Sample) :=
  match y.raised with
  | none => .ok y.samples
  | some e => .error e

@[simp] theorem list_none (ss : List Sample) : (⟨ss, none⟩ : Yielded).list = .ok ss := rfl

@[simp] theorem list_some (ss : List Sample) (e : AssertionError) :
    (⟨ss, some e⟩ : Yielded).list = .error e := rfl

end Yielded

namespace AccumulationPeriod

variable (p : AccumulationPeriod)

/-- `AccumulationPeriodAdapterBase.get_samples` run as the generator it is, and
`UnsupportedPeriodAdapter.get_samples`. The range assertions of `PeriodAdapterBase.get_samples`
and `_get_converted_samples` run before the first sample; `_get_converted_samples` is taken
whole, which loses nothing: on a window the range assertions let through it raises nothing. The
first sample's assertions run before it is yielded, the final sample's after all are. -/
def yieldSamples (fromTimestamp toTimestamp : Int) : Yielded :=
  match p.kind with
  | .unsupported => ⟨[], none⟩
  | _ =>
    match (do
        check (fromTimestamp ≤ toTimestamp) 268
        check (fromTimestamp ≥ p.fromTimestamp) 269
        check (toTimestamp ≤ p.toTimestamp) 270
        p.getConvertedSamples fromTimestamp toTimestamp : Except AssertionError (List Sample)) with
    | .error e => ⟨[], some e⟩
    | .ok [] => ⟨[], none⟩
    | .ok (firstSample :: rest) =>
      if firstSample.timestamp ≠ fromTimestamp then ⟨[], some ⟨285⟩⟩
      else if fromTimestamp = p.fromTimestamp ∧ firstSample.physicalQuantity ≠ 0 then
        ⟨[], some ⟨288⟩⟩
      else if ((firstSample :: rest).getLast (List.cons_ne_nil _ _)).timestamp ≠ toTimestamp then
        ⟨firstSample :: rest, some ⟨296⟩⟩
      else ⟨firstSample :: rest, none⟩

/-- The eager model is `list(...)` over the generator. -/
theorem getSamples_eq_list (u v : Int) : p.getSamples u v = (p.yieldSamples u v).list := by
  unfold yieldSamples
  split
  · next hk => simp only [getSamples, hk]; rfl
  unfold getSamples
  split
  · contradiction
  by_cases hin : u ≤ v ∧ u ≥ p.fromTimestamp ∧ v ≤ p.toTimestamp
  · obtain ⟨h₁, h₂, h₃⟩ := hin
    simp only [check_of_pos h₁, check_of_pos h₂, check_of_pos h₃, pure_bind]
    rcases p.getConvertedSamples u v with e | _ | ⟨first, rest⟩
    · rfl
    · rfl
    · simp only [ok_bind]
      by_cases h₅ : first.timestamp = u
      · rw [check_of_pos h₅, pure_bind]
        split_ifs <;> simp_all [check_of_neg]
      · rw [check_of_neg h₅]
        simp [h₅]
  · -- a range check fails: both raise it before any sample
    by_cases h₁ : u ≤ v
    · rw [check_of_pos h₁, pure_bind]
      by_cases h₂ : u ≥ p.fromTimestamp
      · rw [check_of_pos h₂, pure_bind, check_of_neg fun h₃ => hin ⟨h₁, h₂, h₃⟩]; rfl
      · rw [check_of_neg h₂]; rfl
    · rw [check_of_neg h₁]; rfl

end AccumulationPeriod

namespace AccumulationAdapter

/-- The loop over the remaining periods run as the generator runs it: each period's samples
after its first are yielded with the offset added as the period yields them, and an assertion
of a period stops the run there. It gives what the loop yields and `last_sample_yielded`. -/
def yieldSamplesOfRemainingPeriods (fromTimestamp toTimestamp : Int) :
    ℚ → Option Sample → List AccumulationPeriod → Yielded × Option Sample
  | _, lastSampleYielded, [] => (⟨[], none⟩, lastSampleYielded)
  | periodOffset, lastSampleYielded, inputPeriod :: inputPeriods =>
    let period := inputPeriod.yieldSamples (max fromTimestamp inputPeriod.fromTimestamp)
      (min toTimestamp inputPeriod.toTimestamp)
    let yielded := period.samples.tail.map (addPeriodOffset periodOffset)
    let lastSampleYielded := period.samples.tail.getLast? <|> lastSampleYielded
    match period.raised with
    | some e => (⟨yielded, some e⟩, lastSampleYielded)
    | none =>
      let (rest, lastSampleYielded) := yieldSamplesOfRemainingPeriods fromTimestamp toTimestamp
        ((period.samples.getLast?.map (·.physicalQuantity)).getD 0) lastSampleYielded inputPeriods
      (⟨yielded ++ rest.samples, rest.raised⟩, lastSampleYielded)

/-- `AccumulationAdapterBase._get_samples` run as the generator it is, over the periods
`in_range` hands it. -/
def yieldSamples (fromTimestamp toTimestamp : Int) : List AccumulationPeriod → Yielded
  | [] => ⟨[zeroSample fromTimestamp, zeroSample toTimestamp], none⟩
  | firstInputPeriod :: inputPeriods =>
    let leading := if firstInputPeriod.fromTimestamp > fromTimestamp then
      [zeroSample fromTimestamp] else []
    let first := firstInputPeriod.yieldSamples (max fromTimestamp firstInputPeriod.fromTimestamp)
      (min toTimestamp firstInputPeriod.toTimestamp)
    match first.raised with
    | some e => ⟨leading ++ first.samples, some e⟩
    | none =>
      let (rest, lastSampleYielded) := yieldSamplesOfRemainingPeriods fromTimestamp toTimestamp
        ((first.samples.getLast?.map (·.physicalQuantity)).getD 0)
        (first.samples.getLast? <|> leading.getLast?) inputPeriods
      match rest.raised, lastSampleYielded with
      | some e, _ => ⟨leading ++ first.samples ++ rest.samples, some e⟩
      | none, some last => ⟨leading ++ first.samples ++ rest.samples ++
          if last.timestamp ≠ toTimestamp then
            [{ last with timestamp := toTimestamp, cachable := false, extrapolated := true }]
          else [], none⟩
      | none, none => ⟨leading ++ first.samples ++ rest.samples ++
          [zeroSample fromTimestamp, zeroSample toTimestamp], none⟩

variable {u v : Int}

/-- The eager loop over the remaining periods is `list(...)` over what the loop yields. -/
theorem getSamplesOfRemainingPeriods_eq_list (o : ℚ) (last : Option Sample)
    (ps : List AccumulationPeriod) :
    getSamplesOfRemainingPeriods u v o last ps =
      (yieldSamplesOfRemainingPeriods u v o last ps).1.list.map
        (·, (yieldSamplesOfRemainingPeriods u v o last ps).2) := by
  induction ps generalizing o last with
  | nil => rfl
  | cons p ps ih =>
    simp only [getSamplesOfRemainingPeriods, yieldSamplesOfRemainingPeriods,
      AccumulationPeriod.getSamples_eq_list]
    rcases p.yieldSamples (max u p.fromTimestamp) (min v p.toTimestamp) with ⟨ss, _ | e⟩
    · simp only [Yielded.list_none, ok_bind, ih]
      rcases yieldSamplesOfRemainingPeriods u v ((ss.getLast?.map (·.physicalQuantity)).getD 0)
        (ss.tail.getLast? <|> last) ps with ⟨⟨rest, _ | e⟩, last'⟩ <;> rfl
    · rfl

/-- The eager model of `_get_samples` is `list(...)` over the generator. -/
theorem getSamples_eq_list (ps : List AccumulationPeriod) :
    getSamples u v ps = (yieldSamples u v ps).list := by
  cases ps with
  | nil => rfl
  | cons p ps =>
    simp only [getSamples, yieldSamples, AccumulationPeriod.getSamples_eq_list]
    rcases p.yieldSamples (max u p.fromTimestamp) (min v p.toTimestamp) with ⟨ss, _ | e⟩
    · simp only [Yielded.list_none, ok_bind, getSamplesOfRemainingPeriods_eq_list]
      rcases yieldSamplesOfRemainingPeriods u v ((ss.getLast?.map (·.physicalQuantity)).getD 0)
        (ss.getLast? <|> (if p.fromTimestamp > u then [zeroSample u] else []).getLast?) ps with
        ⟨⟨rest, _ | e⟩, _ | last⟩
      · simp
      all_goals rfl
    · rfl

end AccumulationAdapter

end GridPlatform
