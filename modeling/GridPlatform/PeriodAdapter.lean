import GridPlatform.MeterCurve

/-!
`PeriodAdapterBase` and the accumulation period adapters of
`legacy/datasequence_adapters/models.py`. A generator consumed to the end either yields its
list of samples or raises; `Except AssertionError (List Sample)` is that outcome. Physical
quantities share the period's unit, so a quantity is its exact value.
-/
namespace GridPlatform

/-- A point sample: `Sample(timestamp, timestamp, physical_quantity, cachable, extrapolated)`. -/
structure Sample where
  timestamp : Int
  physicalQuantity : ℚ
  cachable : Bool
  extrapolated : Bool
  deriving DecidableEq, Repr

def check (c : Prop) [Decidable c] (line : Nat) : Except AssertionError Unit :=
  if c then pure () else throw ⟨line⟩

@[simp] theorem check_of_pos {c : Prop} [Decidable c] (h : c) (line : Nat) :
    check c line = pure () := if_pos h

theorem check_of_neg {c : Prop} [Decidable c] (h : ¬c) (line : Nat) :
    check c line = .error ⟨line⟩ := if_neg h

/-- A computation whose only assertion that can fail is the one at `line`. -/
def FailsOnlyAt {α : Type} (line : Nat) (r : Except AssertionError α) : Prop :=
  ∀ e, r = .error e → e.line = line

namespace FailsOnlyAt

variable {α β : Type} {line : Nat}

theorem ok (a : α) : FailsOnlyAt line (.ok a) := fun _ h => nomatch h

theorem bind {x : Except AssertionError α} {f : α → Except AssertionError β}
    (hx : FailsOnlyAt line x) (hf : ∀ a, FailsOnlyAt line (f a)) : FailsOnlyAt line (x >>= f) := by
  cases x with
  | error e => exact fun e' h => by cases h; exact hx e rfl
  | ok a => exact hf a

end FailsOnlyAt

/-- A period with the bounds its adapter reads: `from_timestamp` and `to_timestamp`, with unset
bounds already replaced by `DATETIME_MIN` and `HOUR_MAX`. -/
structure Period where
  fromTimestamp : Int
  toTimestamp : Int
  datasource : Datasource
  bounds_le : fromTimestamp ≤ toTimestamp

/-- `PeriodAdapterBase.create_point_sample`; the adapter only lends the sample its unit. -/
def createPointSample (timestamp : Int) (physicalQuantity : ℚ) (cachable extrapolated : Bool) :
    Sample :=
  ⟨timestamp, physicalQuantity, cachable, extrapolated⟩

def interpolateSample (timestamp : Int) (rawDataBefore rawDataAfter : RawData) :
    Except AssertionError Sample := do
  let value ← interpolate timestamp rawDataBefore rawDataAfter
  pure (createPointSample timestamp value true false)

/-- `AccumulationPeriodAdapterBase._extrapolate_sample` -/
def extrapolateSample (timestamp : Int) (rawData : RawData) : Sample :=
  createPointSample timestamp rawData.value false true

namespace Period

variable (p : Period)

def leadingRawData : Option RawData := p.datasource.getLeadingRawData p.fromTimestamp

def firstRawData : Option RawData :=
  (p.datasource.rawdataInRange p.fromTimestamp p.toTimestamp).head?

end Period

/-- The subclass of an accumulation period, as `wrap_period` dispatches on it. -/
inductive PeriodKind
  | nonpulseAccumulation
  | pulseAccumulation (pulseQuantity outputQuantity : ℚ)
  | unsupported
  deriving DecidableEq, Repr

/-- A period with its adapter's kind. `_conversion_factor` divides by the pulse quantity, so a
pulse period carries that it is nonzero: at zero the first converted sample would raise
`ZeroDivisionError`. -/
structure AccumulationPeriod extends Period where
  kind : PeriodKind
  pulseQuantity_ne_zero : ∀ pq oq, kind = .pulseAccumulation pq oq → pq ≠ 0

namespace AccumulationPeriod

variable (p : AccumulationPeriod)

def offset : Except AssertionError ℚ :=
  match p.firstRawData with
  | none =>
    match p.leadingRawData with
    | none => pure 0
    | some leading => pure leading.value
  | some first =>
    if first.timestamp = p.fromTimestamp then pure first.value
    else
      match p.leadingRawData with
      | some leading => interpolate p.fromTimestamp leading first
      | none => pure first.value

def subtractOffset (sample : Sample) : Except AssertionError Sample := do
  let offset ← p.offset
  pure { sample with physicalQuantity := sample.physicalQuantity - offset }

/-- `# yield sample before first raw data if missing` -/
def samplesBeforeFirstRawData (fromTimestamp : Int) (firstRawData : RawData) :
    Except AssertionError (List Sample) :=
  if firstRawData.timestamp ≠ fromTimestamp then do
    let firstSample ← match p.datasource.getLeadingRawData (max p.fromTimestamp fromTimestamp) with
      | some leading => interpolateSample fromTimestamp leading firstRawData
      | none => pure (extrapolateSample fromTimestamp firstRawData)
    pure [← p.subtractOffset firstSample]
  else pure []

/-- `# yield final sample after final raw data if missing` -/
def samplesAfterFinalRawData (toTimestamp : Int) (finalRawData : RawData) :
    Except AssertionError (List Sample) :=
  if finalRawData.timestamp ≠ toTimestamp then do
    let finalSample ← match p.datasource.getFollowingRawData (min p.toTimestamp toTimestamp) with
      | some following => interpolateSample toTimestamp finalRawData following
      | none => pure (extrapolateSample toTimestamp finalRawData)
    pure [← p.subtractOffset finalSample]
  else pure []

def getRawSamples (fromTimestamp toTimestamp : Int) : Except AssertionError (List Sample) := do
  check (fromTimestamp ≤ toTimestamp) 337
  check (p.fromTimestamp ≤ fromTimestamp) 338
  check (toTimestamp ≤ p.toTimestamp) 339
  match p.datasource.rawdataInRange fromTimestamp toTimestamp with
  | [] =>
    match p.datasource.getLeadingRawData fromTimestamp,
      p.datasource.getFollowingRawData toTimestamp with
    | some leading, some following =>
      let first ← p.subtractOffset (← interpolateSample fromTimestamp leading following)
      if fromTimestamp = toTimestamp then pure [first]
      else pure [first, ← p.subtractOffset (← interpolateSample toTimestamp leading following)]
    | some rawData, none | none, some rawData =>
      let first ← p.subtractOffset (extrapolateSample fromTimestamp rawData)
      if fromTimestamp = toTimestamp then pure [first]
      else pure [first, ← p.subtractOffset (extrapolateSample toTimestamp rawData)]
    | none, none => pure []
  | firstRawData :: rest =>
    let leadingSamples ← p.samplesBeforeFirstRawData fromTimestamp firstRawData
    let rawSamples ← (firstRawData :: rest).mapM fun rawData =>
      p.subtractOffset (createPointSample rawData.timestamp rawData.value true false)
    let finalSamples ← p.samplesAfterFinalRawData toTimestamp
      ((firstRawData :: rest).getLast (List.cons_ne_nil _ _))
    pure (leadingSamples ++ rawSamples ++ finalSamples)

/-- `PulseAccumulationPeriodAdapter._conversion_factor`: output quantity per pulse. -/
def conversionFactor (pulseQuantity outputQuantity : ℚ) : ℚ := outputQuantity / pulseQuantity

def convertSample (factor : ℚ) (sample : Sample) : Sample :=
  { sample with physicalQuantity := factor * sample.physicalQuantity }

/-- `_get_converted_samples` of the pulse and nonpulse adapters; an unsupported period never
reaches it. -/
def getConvertedSamples (fromTimestamp toTimestamp : Int) : Except AssertionError (List Sample) :=
  match p.kind with
  | .pulseAccumulation pulseQuantity outputQuantity =>
    (p.getRawSamples fromTimestamp toTimestamp).map
      (List.map (convertSample (conversionFactor pulseQuantity outputQuantity)))
  | _ => p.getRawSamples fromTimestamp toTimestamp

/-- `AccumulationPeriodAdapterBase.get_samples` over `PeriodAdapterBase.get_samples`, and
`UnsupportedPeriodAdapter.get_samples`. -/
def getSamples (fromTimestamp toTimestamp : Int) : Except AssertionError (List Sample) :=
  match p.kind with
  | .unsupported => pure []
  | _ => do
    check (fromTimestamp ≤ toTimestamp) 268
    check (fromTimestamp ≥ p.fromTimestamp) 269
    check (toTimestamp ≤ p.toTimestamp) 270
    let samples ← p.getConvertedSamples fromTimestamp toTimestamp
    match samples with
    | [] => pure []
    | firstSample :: rest =>
      check (firstSample.timestamp = fromTimestamp) 285
      if fromTimestamp = p.fromTimestamp then check (firstSample.physicalQuantity = 0) 288
      check (((firstSample :: rest).getLast (List.cons_ne_nil _ _)).timestamp = toTimestamp) 296
      pure samples

end AccumulationPeriod

end GridPlatform
