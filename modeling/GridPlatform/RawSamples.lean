import GridPlatform.PeriodAdapter

/-!
`_get_raw_samples` samples the meter curve: at `from`, at `to` and at every reading between,
each less the period's offset, and flagged extrapolated exactly outside the readings.
-/
namespace GridPlatform

namespace Datasource

variable (ds : Datasource)

/-- The meter curve's sample at `t` less `offset`, extrapolated outside the readings. -/
def meterSample (offset : ℚ) (t : Int) : Sample :=
  createPointSample t (ds.meterValue t - offset) (ds.bracketed t) (!ds.bracketed t)

def meterSamples (offset : ℚ) (fromTimestamp toTimestamp : Int) : List Sample :=
  if ds.rawdata = [] then [] else (ds.windowTimes fromTimestamp toTimestamp).map (ds.meterSample offset)

variable {ds} {o : ℚ} {t : Int}

theorem meterSample_of_mem {r : RawData} (hr : r ∈ ds.rawdata) :
    ds.meterSample o r.timestamp = createPointSample r.timestamp (r.value - o) true false := by
  simp [meterSample, meterValue_of_mem hr, bracketed_of_mem hr]

theorem meterSample_of_forall_ne (ht : ∀ r ∈ ds.rawdata, r.timestamp ≠ t) :
    ds.meterSample o t = createPointSample t
      (segmentValue (ds.lastUpTo t) (ds.firstAfter t) t - o)
      ((ds.lastUpTo t).isSome && (ds.firstAfter t).isSome)
      (!((ds.lastUpTo t).isSome && (ds.firstAfter t).isSome)) := by
  simp only [meterSample, meterValue, bracketed_of_forall_ne ht]

/-- A window from a reading starts on it. -/
theorem head_rawdataInRange {a : RawData} (ha : a ∈ ds.rawdata) {v : Int} (hav : a.timestamp ≤ v)
    (hne : ds.rawdataInRange a.timestamp v ≠ []) :
    ((ds.rawdataInRange a.timestamp v).head hne).timestamp = a.timestamp :=
  le_antisymm (key_le_of_head? (rawdataInRange_sorted _ _) (mem_rawdataInRange.2 ⟨ha, le_rfl, hav⟩)
    (List.head?_eq_head hne)) (mem_rawdataInRange.1 (List.head_mem hne)).2.1

/-- A window up to a reading ends on it. -/
theorem getLast_rawdataInRange {b : RawData} (hb : b ∈ ds.rawdata) {u : Int} (hub : u ≤ b.timestamp)
    (hne : ds.rawdataInRange u b.timestamp ≠ []) :
    ((ds.rawdataInRange u b.timestamp).getLast hne).timestamp = b.timestamp :=
  le_antisymm (mem_rawdataInRange.1 (List.getLast_mem hne)).2.2
    (key_le_of_getLast? (rawdataInRange_sorted _ _) (mem_rawdataInRange.2 ⟨hb, hub, le_rfl⟩)
      (List.getLast?_eq_getLast _ hne))

/-- At the readings of a window the curve's samples are the readings, less the offset. -/
theorem map_meterSample_rawdataInRange (u v : Int) :
    ((ds.rawdataInRange u v).map (·.timestamp)).map (ds.meterSample o) =
      (ds.rawdataInRange u v).map fun r => createPointSample r.timestamp (r.value - o) true false := by
  rw [List.map_map]
  exact List.map_congr_left fun r hr => meterSample_of_mem (mem_rawdataInRange.1 hr).1

/-- On a window from one reading to another, the curve's samples are the window's readings, less
the offset. -/
theorem meterSamples_of_readings {a b : RawData} (ha : a ∈ ds.rawdata) (hb : b ∈ ds.rawdata)
    (hab : a.timestamp ≤ b.timestamp) :
    ds.meterSamples o a.timestamp b.timestamp = (ds.rawdataInRange a.timestamp b.timestamp).map
      fun r => createPointSample r.timestamp (r.value - o) true false := by
  have hne := List.ne_nil_of_mem (mem_rawdataInRange.2 ⟨ha, le_rfl, hab⟩)
  rw [meterSamples, if_neg (List.ne_nil_of_mem ha), windowTimes_of_rawdataInRange rfl hne hab,
    head_rawdataInRange ha hab, getLast_rawdataInRange hb hab]
  simpa using map_meterSample_rawdataInRange a.timestamp b.timestamp

/-- After the last reading `b` the curve holds `b`, extrapolated. -/
theorem meterSample_after_last {b : RawData} (hb : b ∈ ds.rawdata)
    (hlast : ∀ r ∈ ds.rawdata, r.timestamp ≤ b.timestamp) (hbt : b.timestamp < t) :
    ds.meterSample o t = createPointSample t (b.value - o) false true := by
  have hup : ds.lastUpTo t = some b := by
    have hsame : ds.rawdata.filter (·.timestamp ≤ t) = ds.rawdata.filter (·.timestamp ≤ b.timestamp) :=
      List.filter_congr fun r hr => by simp [(hlast r hr).trans hbt.le, hlast r hr]
    rw [lastUpTo, hsame]
    exact getLast?_filter_le_of_mem ds.sorted hb
  have hafter : ds.firstAfter t = none := by
    simp only [firstAfter, List.head?_eq_none_iff, List.filter_eq_nil_iff, decide_eq_true_eq, not_lt]
    exact fun r hr => (hlast r hr).trans hbt.le
  have hnot : ∀ r ∈ ds.rawdata, r.timestamp ≠ t := fun r hr => ((hlast r hr).trans_lt hbt).ne
  simp [meterSample_of_forall_ne hnot, hup, hafter, segmentValue]

/-- Between two readings, `_interpolate_sample` gives the curve's sample. -/
theorem interpolateSample_of_bracket {a b : RawData} (ha : ds.lastUpTo t = some a)
    (hb : ds.firstAfter t = some b) :
    interpolateSample t a b = .ok (createPointSample t (ds.meterValue t) true false) := by
  have ha' := List.mem_filter.1 (List.mem_of_getLast?_eq_some ha)
  have hb' := List.mem_filter.1 (List.mem_of_mem_head? hb)
  simp only [decide_eq_true_eq] at ha' hb'
  simp [interpolateSample, interpolate_of_le_of_lt ha'.2 hb'.2, meterValue, ha, hb, segmentValue]

end Datasource

namespace AccumulationPeriod

variable {p : AccumulationPeriod} {o : ℚ} {t : Int}

theorem subtractOffset_of_offset (ho : p.offset = .ok o) (s : Sample) :
    p.subtractOffset s = .ok { s with physicalQuantity := s.physicalQuantity - o } := by
  simp [subtractOffset, ho]

theorem interpolateSample_subtractOffset (ho : p.offset = .ok o) {a b : RawData}
    (ha : p.datasource.lastUpTo t = some a) (hb : p.datasource.firstAfter t = some b)
    (ht : ∀ r ∈ p.datasource.rawdata, r.timestamp ≠ t) :
    ∃ s, interpolateSample t a b = .ok s ∧ p.subtractOffset s = .ok (p.datasource.meterSample o t) := by
  refine ⟨_, Datasource.interpolateSample_of_bracket ha hb, ?_⟩
  simp [subtractOffset_of_offset ho, Datasource.meterSample_of_forall_ne ht, ha, hb, createPointSample,
    Datasource.meterValue]

theorem extrapolateSample_subtractOffset (ho : p.offset = .ok o) {r : RawData}
    (h : p.datasource.lastUpTo t = some r ∧ p.datasource.firstAfter t = none ∨
      p.datasource.lastUpTo t = none ∧ p.datasource.firstAfter t = some r)
    (ht : ∀ x ∈ p.datasource.rawdata, x.timestamp ≠ t) :
    p.subtractOffset (extrapolateSample t r) = .ok (p.datasource.meterSample o t) := by
  rw [subtractOffset_of_offset ho, Datasource.meterSample_of_forall_ne ht]
  rcases h with ⟨ha, hb⟩ | ⟨ha, hb⟩ <;>
    simp [ha, hb, segmentValue, extrapolateSample, createPointSample]

section Window

variable {u v : Int} (ho : p.offset = .ok o) (hu : p.fromTimestamp ≤ u) (huv : u ≤ v)
  (hv : v ≤ p.toTimestamp)
include ho hu huv hv

/-- A window holding no reading gets its one or two samples from the readings around it. -/
theorem getRawSamples_of_gap (hgap : p.datasource.rawdataInRange u v = []) :
    p.getRawSamples u v = .ok (p.datasource.meterSamples o u v) := by
  obtain ⟨hLu, hFu, hnu⟩ := Datasource.lastUpTo_firstAfter_of_gap hgap le_rfl huv
  obtain ⟨hLv, hFv, hnv⟩ := Datasource.lastUpTo_firstAfter_of_gap hgap huv le_rfl
  have hout : ∀ r ∈ p.datasource.rawdata, ¬(u ≤ r.timestamp ∧ r.timestamp ≤ v) := fun r hr hin =>
    by simpa [hgap] using Datasource.mem_rawdataInRange.2 ⟨hr, hin⟩
  have htimes : p.datasource.windowTimes u v = if u = v then [u] else [u, v] := by
    have : p.datasource.rawdata.filter (fun r => u < r.timestamp ∧ r.timestamp < v) = [] :=
      List.filter_eq_nil_iff.2 fun r hr h => hout r hr (by simp at h; omega)
    rw [Datasource.windowTimes, this]; rfl
  simp only [getRawSamples, check_of_pos huv, check_of_pos hu, check_of_pos hv, pure_bind, hgap]
  cases hL : p.datasource.getLeadingRawData u <;> cases hF : p.datasource.getFollowingRawData v <;>
    dsimp only
  case none.none =>
    have hnil : p.datasource.rawdata = [] := List.eq_nil_iff_forall_not_mem.2 fun r hr => by
      simp only [Datasource.getLeadingRawData, Datasource.getFollowingRawData,
        List.getLast?_eq_none_iff, List.head?_eq_none_iff, List.filter_eq_nil_iff,
        decide_eq_true_eq] at hL hF
      have := hout r hr; have := hL r hr; have := hF r hr
      omega
    simp [Datasource.meterSamples, hnil]
  case none.some f =>
    have hne := List.ne_nil_of_mem (List.mem_filter.1 (List.mem_of_mem_head? hF)).1
    rw [extrapolateSample_subtractOffset ho (.inr ⟨hLu.trans hL, hFu.trans hF⟩) hnu, ok_bind,
      Datasource.meterSamples, if_neg hne, htimes]
    split_ifs
    · rfl
    · rw [extrapolateSample_subtractOffset ho (.inr ⟨hLv.trans hL, hFv.trans hF⟩) hnv]; rfl
  case some.none l =>
    have hne := List.ne_nil_of_mem (List.mem_filter.1 (List.mem_of_getLast?_eq_some hL)).1
    rw [extrapolateSample_subtractOffset ho (.inl ⟨hLu.trans hL, hFu.trans hF⟩) hnu, ok_bind,
      Datasource.meterSamples, if_neg hne, htimes]
    split_ifs
    · rfl
    · rw [extrapolateSample_subtractOffset ho (.inl ⟨hLv.trans hL, hFv.trans hF⟩) hnv]; rfl
  case some.some l f =>
    have hne := List.ne_nil_of_mem (List.mem_filter.1 (List.mem_of_getLast?_eq_some hL)).1
    obtain ⟨s, hs, hs'⟩ := interpolateSample_subtractOffset ho (hLu.trans hL) (hFu.trans hF) hnu
    rw [hs, ok_bind, hs', ok_bind, Datasource.meterSamples, if_neg hne, htimes]
    split_ifs
    · rfl
    · obtain ⟨s', hs₁, hs₂⟩ := interpolateSample_subtractOffset ho (hLv.trans hL) (hFv.trans hF) hnv
      rw [hs₁, ok_bind, hs₂]; rfl

omit huv hv in
theorem samplesBeforeFirstRawData_eq {first : RawData} {rest : List RawData}
    (hw : p.datasource.rawdataInRange u v = first :: rest) :
    p.samplesBeforeFirstRawData u first =
      .ok ((if first.timestamp ≠ u then [u] else []).map (p.datasource.meterSample o)) := by
  unfold samplesBeforeFirstRawData
  split_ifs with hne
  · obtain ⟨hL, hF, hn⟩ := Datasource.lastUpTo_firstAfter_of_head hw hne
    rw [max_eq_right hu]
    cases hl : p.datasource.getLeadingRawData u <;> dsimp only
    · rw [pure_bind, extrapolateSample_subtractOffset ho (.inr ⟨hL.trans hl, hF⟩) hn]; rfl
    · obtain ⟨s, hs, hs'⟩ := interpolateSample_subtractOffset ho (hL.trans hl) hF hn
      rw [hs, ok_bind, hs']; rfl
  · rfl

omit hu huv in
theorem samplesAfterFinalRawData_eq {w : List RawData}
    (hw : p.datasource.rawdataInRange u v = w) (hne : w ≠ []) :
    p.samplesAfterFinalRawData v (w.getLast hne) =
      .ok ((if (w.getLast hne).timestamp ≠ v then [v] else []).map (p.datasource.meterSample o)) := by
  unfold samplesAfterFinalRawData
  split_ifs with hne'
  · obtain ⟨hL, hF, hn⟩ := Datasource.lastUpTo_firstAfter_of_getLast hw hne hne'
    rw [min_eq_right hv]
    cases hf : p.datasource.getFollowingRawData v <;> dsimp only
    · rw [pure_bind, extrapolateSample_subtractOffset ho (.inl ⟨hL, hF.trans hf⟩) hn]; rfl
    · obtain ⟨s, hs, hs'⟩ := interpolateSample_subtractOffset ho hL (hF.trans hf) hn
      rw [hs, ok_bind, hs']; rfl
  · rfl

/-- A window holding readings yields them, with a sample made up at each end that is not one. -/
theorem getRawSamples_of_cons {first : RawData} {rest : List RawData}
    (hw : p.datasource.rawdataInRange u v = first :: rest) :
    p.getRawSamples u v = .ok (p.datasource.meterSamples o u v) := by
  have hmem : ∀ r ∈ first :: rest, r ∈ p.datasource.rawdata :=
    fun r hr => (Datasource.mem_rawdataInRange.1 (hw ▸ hr)).1
  have hraw : (first :: rest).mapM (fun r =>
      p.subtractOffset (createPointSample r.timestamp r.value true false)) =
      .ok ((first :: rest).map fun r => p.datasource.meterSample o r.timestamp) :=
    mapM_ok fun r hr => by
      rw [subtractOffset_of_offset ho, Datasource.meterSample_of_mem (hmem r hr)]; rfl
  simp only [getRawSamples, check_of_pos huv, check_of_pos hu, check_of_pos hv, pure_bind, hw]
  rw [samplesBeforeFirstRawData_eq ho hu hw, ok_bind, hraw, ok_bind,
    samplesAfterFinalRawData_eq ho hv hw (List.cons_ne_nil _ _), ok_bind,
    Datasource.meterSamples, if_neg (List.ne_nil_of_mem (hmem first (List.mem_cons_self _ _))),
    Datasource.windowTimes_of_rawdataInRange hw (List.cons_ne_nil _ _) huv]
  simp only [List.map_append, List.map_map]
  rfl

theorem getRawSamples_eq_meterSamples : p.getRawSamples u v = .ok (p.datasource.meterSamples o u v) := by
  cases hw : p.datasource.rawdataInRange u v with
  | nil => exact getRawSamples_of_gap ho hu huv hv hw
  | cons first rest => exact getRawSamples_of_cons ho hu huv hv hw

end Window

/-- The offset is always computed: its one interpolation has the period start between the
readings around it. -/
theorem offset_ok (p : AccumulationPeriod) : ∃ o, p.offset = .ok o := by
  unfold offset
  cases hf : p.firstRawData with
  | none => cases p.leadingRawData <;> exact ⟨_, rfl⟩
  | some first =>
    dsimp only
    split_ifs with h
    · exact ⟨_, rfl⟩
    cases hl : p.leadingRawData with
    | none => exact ⟨_, rfl⟩
    | some leading =>
      have hfirst := Datasource.mem_rawdataInRange.1 (List.mem_of_mem_head? hf)
      have hlead := List.mem_filter.1 (List.mem_of_getLast?_eq_some hl)
      simp only [decide_eq_true_eq] at hlead
      exact ⟨_, interpolate_of_le_of_lt hlead.2.le (lt_of_le_of_ne hfirst.2.1 (Ne.symm h))⟩

/-- What a supported period's adapter yields before its assertions: the meter curve's samples,
each quantity multiplied by `output_quantity / pulse_quantity` for a pulse period. -/
def convertedMeterSamples (p : AccumulationPeriod) (o : ℚ) (u v : Int) : List Sample :=
  match p.kind with
  | .pulseAccumulation pulseQuantity outputQuantity =>
    (p.datasource.meterSamples o u v).map fun s =>
      { s with physicalQuantity := outputQuantity / pulseQuantity * s.physicalQuantity }
  | _ => p.datasource.meterSamples o u v

theorem getConvertedSamples_eq (ho : p.offset = .ok o) {u v : Int} (hu : p.fromTimestamp ≤ u)
    (huv : u ≤ v) (hv : v ≤ p.toTimestamp) :
    p.getConvertedSamples u v = .ok (p.convertedMeterSamples o u v) := by
  rcases hk : p.kind <;> simp [getConvertedSamples, convertedMeterSamples, convertSample,
    conversionFactor, hk, getRawSamples_eq_meterSamples ho hu huv hv]

theorem convertedMeterSamples_timestamps (p : AccumulationPeriod) (o : ℚ) (u v : Int) :
    (p.convertedMeterSamples o u v).map (·.timestamp) =
      if p.datasource.rawdata = [] then [] else p.datasource.windowTimes u v := by
  unfold convertedMeterSamples Datasource.meterSamples
  split <;> split_ifs <;> simp [Function.comp_def, Datasource.meterSample,
    createPointSample]

/-- The adapter's `get_samples` yields the converted curve samples; of its assertions only the
zero-start check (line 288) can fail. -/
theorem getSamples_eq (ho : p.offset = .ok o) {u v : Int} (hu : p.fromTimestamp ≤ u)
    (huv : u ≤ v) (hv : v ≤ p.toTimestamp) (hk : p.kind ≠ .unsupported) :
    p.getSamples u v = if u = p.fromTimestamp ∧
        ∃ s ∈ (p.convertedMeterSamples o u v).head?, s.physicalQuantity ≠ 0
      then .error ⟨288⟩ else .ok (p.convertedMeterSamples o u v) := by
  have htimes := convertedMeterSamples_timestamps p o u v
  unfold getSamples
  split
  · exact absurd ‹_› hk
  simp only [check_of_pos huv, check_of_pos (ge_iff_le.2 hu), check_of_pos hv, pure_bind,
    getConvertedSamples_eq ho hu huv hv]
  generalize p.convertedMeterSamples o u v = ss at htimes ⊢
  cases ss with
  | nil => simp
  | cons first rest =>
    have hne : p.datasource.rawdata ≠ [] := fun h => by simp [h] at htimes
    rw [if_neg hne] at htimes
    have hfirst : first.timestamp = u := by
      have := congrArg List.head? htimes
      rwa [List.map_cons, List.head?_cons, List.head?_eq_head (Datasource.windowTimes_ne_nil u v),
        Datasource.head_windowTimes, Option.some.injEq] at this
    have hlast : ((first :: rest).getLast (List.cons_ne_nil _ _)).timestamp = v := by
      rw [← @Datasource.getLast_windowTimes p.datasource u v]
      simp only [← htimes, List.getLast_map]
    simp only [ok_bind, check_of_pos hfirst, check_of_pos hlast, pure_bind, Option.mem_def,
      Option.some.injEq, exists_eq_left]
    by_cases h0 : u = p.fromTimestamp
    · by_cases hz : first.physicalQuantity = 0
      · simp [h0, hz]
      · simp [h0, hz, check]; rfl
    · simp [h0]

/-! ### The offset at the period start -/

/-- In a period holding no reading, the offset is the last reading before it, or zero. -/
theorem offset_of_gap (p : AccumulationPeriod)
    (hgap : p.datasource.rawdataInRange p.fromTimestamp p.toTimestamp = []) :
    p.offset = .ok ((p.leadingRawData.map (·.value)).getD 0) := by
  have hfirst : p.firstRawData = none := by simp [Period.firstRawData, hgap]
  unfold offset
  rw [hfirst]
  cases p.leadingRawData <;> rfl

/-- The offset is the meter curve at the period start once the period holds a reading or no
reading lies after it. -/
theorem offset_eq_meterValue (p : AccumulationPeriod)
    (h : (∃ r ∈ p.datasource.rawdata, p.fromTimestamp ≤ r.timestamp ∧ r.timestamp ≤ p.toTimestamp) ∨
      ∀ r ∈ p.datasource.rawdata, r.timestamp ≤ p.toTimestamp) :
    p.offset = .ok (p.datasource.meterValue p.fromTimestamp) := by
  have := p.bounds_le
  cases hw : p.datasource.rawdataInRange p.fromTimestamp p.toTimestamp with
  | nil =>
    obtain ⟨hL, hF, -⟩ := Datasource.lastUpTo_firstAfter_of_gap hw le_rfl this
    have hnone : p.datasource.getFollowingRawData p.toTimestamp = none := by
      rcases h with ⟨r, hr, hin⟩ | hall
      · exact absurd (Datasource.mem_rawdataInRange.2 ⟨hr, hin⟩) (hw ▸ List.not_mem_nil r)
      · simpa [Datasource.getFollowingRawData] using hall
    rw [offset_of_gap p hw, Datasource.meterValue, hL, hF, hnone, Period.leadingRawData]
    cases p.datasource.getLeadingRawData p.fromTimestamp <;> rfl
  | cons first rest =>
    have hfirst : p.firstRawData = some first := by simp [Period.firstRawData, hw]
    have hmem := Datasource.mem_rawdataInRange.1 (hw ▸ List.mem_cons_self first rest)
    unfold offset
    rw [hfirst]
    dsimp only
    split_ifs with hne
    · rw [← hne, Datasource.meterValue_of_mem hmem.1]
      rfl
    obtain ⟨hL, hF, -⟩ := Datasource.lastUpTo_firstAfter_of_head hw hne
    rw [Datasource.meterValue, hL, hF, Period.leadingRawData]
    cases hl : p.datasource.getLeadingRawData p.fromTimestamp with
    | none => rfl
    | some l =>
      have hlead := List.mem_filter.1 (List.mem_of_getLast?_eq_some hl)
      simp only [decide_eq_true_eq] at hlead
      exact interpolate_of_le_of_lt hlead.2.le (lt_of_le_of_ne hmem.2.1 (Ne.symm hne))

/-- Measured from the curve at `from`, the first converted curve sample is zero. -/
theorem head?_convertedMeterSamples (p : AccumulationPeriod) {u v : Int} :
    ∀ s ∈ (p.convertedMeterSamples (p.datasource.meterValue u) u v).head?, s.physicalQuantity = 0 := by
  have hhead : (p.datasource.windowTimes u v).head? = some u := by
    rw [List.head?_eq_head (Datasource.windowTimes_ne_nil u v), Datasource.head_windowTimes]
  intro s hs
  unfold convertedMeterSamples Datasource.meterSamples at hs
  split at hs <;> split_ifs at hs <;>
    simp [List.head?_map, hhead, Datasource.meterSample, createPointSample] at hs <;>
    exact hs ▸ rfl

/-- With the curve at the period start as its offset, `get_samples` succeeds on every window of
the period. -/
theorem getSamples_of_offset_eq_meterValue {p : AccumulationPeriod}
    (ho : p.offset = .ok (p.datasource.meterValue p.fromTimestamp)) (hk : p.kind ≠ .unsupported)
    {u v : Int} (hu : p.fromTimestamp ≤ u) (huv : u ≤ v) (hv : v ≤ p.toTimestamp) :
    p.getSamples u v = .ok (p.convertedMeterSamples (p.datasource.meterValue p.fromTimestamp) u v) := by
  rw [getSamples_eq ho hu huv hv hk, if_neg]
  rintro ⟨rfl, s, hs, hs0⟩
  exact hs0 (head?_convertedMeterSamples p s hs)

/-- A nonpulse period whose meter reads zero at its start yields the meter curve's samples on
every window of the period. -/
theorem getSamples_of_zero_start {p : AccumulationPeriod} (hk : p.kind = .nonpulseAccumulation)
    (hzero : ⟨p.fromTimestamp, 0⟩ ∈ p.datasource.rawdata) {u v : Int} (hu : p.fromTimestamp ≤ u)
    (huv : u ≤ v) (hv : v ≤ p.toTimestamp) :
    p.getSamples u v = .ok (p.datasource.meterSamples 0 u v) := by
  have ho := offset_eq_meterValue p (.inl ⟨_, hzero, le_rfl, p.bounds_le⟩)
  have h := getSamples_of_offset_eq_meterValue ho (by simp [hk]) hu huv hv
  simpa only [Datasource.meterValue_of_mem hzero, convertedMeterSamples, hk] using h

/-- On a window from one reading to another, such a period yields the window's readings as they
are. -/
theorem getSamples_of_readings {p : AccumulationPeriod} (hk : p.kind = .nonpulseAccumulation)
    (hzero : ⟨p.fromTimestamp, 0⟩ ∈ p.datasource.rawdata) (a b : RawData)
    (ha : a ∈ p.datasource.rawdata) (hb : b ∈ p.datasource.rawdata)
    (hu : p.fromTimestamp ≤ a.timestamp) (hab : a.timestamp ≤ b.timestamp)
    (hv : b.timestamp ≤ p.toTimestamp) :
    p.getSamples a.timestamp b.timestamp = .ok ((p.datasource.rawdataInRange a.timestamp b.timestamp).map
      fun r => ⟨r.timestamp, r.value, true, false⟩) := by
  rw [getSamples_of_zero_start hk hzero hu hab hv, Datasource.meterSamples_of_readings ha hb hab]
  simp [createPointSample]

/-- On a window from a reading to a time after the last reading `b`, such a period yields the
window's readings as they are, then `b` held up to `to`, extrapolated. -/
theorem getSamples_held_after_last {p : AccumulationPeriod} (hk : p.kind = .nonpulseAccumulation)
    (hzero : ⟨p.fromTimestamp, 0⟩ ∈ p.datasource.rawdata) (a b : RawData)
    (ha : a ∈ p.datasource.rawdata) (hb : b ∈ p.datasource.rawdata)
    (hlast : ∀ r ∈ p.datasource.rawdata, r.timestamp ≤ b.timestamp) (hu : p.fromTimestamp ≤ a.timestamp)
    (hab : a.timestamp ≤ b.timestamp) {v : Int} (hbv : b.timestamp < v) (hv : v ≤ p.toTimestamp) :
    p.getSamples a.timestamp v = .ok ((p.datasource.rawdataInRange a.timestamp b.timestamp).map
      (fun r => ⟨r.timestamp, r.value, true, false⟩) ++ [⟨v, b.value, false, true⟩]) := by
  have hsame : p.datasource.rawdataInRange a.timestamp v =
      p.datasource.rawdataInRange a.timestamp b.timestamp :=
    List.filter_congr fun r hr => by simp [(hlast r hr).trans hbv.le, hlast r hr]
  have hne : p.datasource.rawdataInRange a.timestamp v ≠ [] :=
    List.ne_nil_of_mem (Datasource.mem_rawdataInRange.2 ⟨ha, le_rfl, by omega⟩)
  have hend : ((p.datasource.rawdataInRange a.timestamp v).getLast hne).timestamp ≠ v :=
    (hlast _ (Datasource.mem_rawdataInRange.1 (List.getLast_mem hne)).1).trans_lt hbv |>.ne
  rw [getSamples_of_zero_start hk hzero hu (by omega) hv, Datasource.meterSamples,
    if_neg (List.ne_nil_of_mem ha), Datasource.windowTimes_of_rawdataInRange rfl hne (by omega),
    if_pos hend, Datasource.head_rawdataInRange ha (by omega)]
  simp only [ne_eq, not_true_eq_false, if_false, List.nil_append, List.map_append,
    Datasource.map_meterSample_rawdataInRange, hsame, List.map_cons, List.map_nil,
    Datasource.meterSample_after_last hb hlast hbv, createPointSample, sub_zero]

/-- Clipped to a query window it meets, a period's `get_samples` can only fail its zero-start
check. -/
theorem getSamples_clipped_failsOnlyAt (p : AccumulationPeriod) {u v : Int} (huv : u ≤ v)
    (hp : p.fromTimestamp ≤ v) (hp' : u ≤ p.toTimestamp) :
    FailsOnlyAt 288 (p.getSamples (max u p.fromTimestamp) (min v p.toTimestamp)) := by
  by_cases hk : p.kind = .unsupported
  · simp only [getSamples, hk]; exact FailsOnlyAt.ok _
  obtain ⟨o, ho⟩ := offset_ok p
  have := p.bounds_le
  rw [getSamples_eq ho (le_max_right _ _) (by omega) (min_le_right _ _) hk]
  split_ifs
  · intro e h; cases h; rfl
  · exact FailsOnlyAt.ok _

/-- `_get_raw_samples` samples the meter curve less the offset at `from`, at `to` and at every
reading between, extrapolated exactly outside the readings; a pulse adapter multiplies each
quantity by `output_quantity / pulse_quantity`. -/
theorem getConvertedSamples_on_meter_curve (p : AccumulationPeriod) {u v : Int}
    (hu : p.fromTimestamp ≤ u) (huv : u ≤ v) (hv : v ≤ p.toTimestamp) :
    ∃ o, p.offset = .ok o ∧ p.getRawSamples u v = .ok (p.datasource.meterSamples o u v) ∧
      p.getConvertedSamples u v = .ok (match p.kind with
        | .pulseAccumulation pq oq => (p.datasource.meterSamples o u v).map fun s =>
            { s with physicalQuantity := oq / pq * s.physicalQuantity }
        | _ => p.datasource.meterSamples o u v) := by
  obtain ⟨o, ho⟩ := offset_ok p
  exact ⟨o, ho, getRawSamples_eq_meterSamples ho hu huv hv, getConvertedSamples_eq ho hu huv hv⟩

/-- The readings of the pulse example of the specification, at 0, 1 h and 2 h, on a meter of two
pulses per kWh. -/
def pulseExample : AccumulationPeriod :=
  ⟨⟨0, 7200, ⟨[⟨0, 0⟩, ⟨3600, 100⟩, ⟨7200, 250⟩], by decide⟩, by decide⟩, .pulseAccumulation 2 1,
    by simp⟩

theorem pulseExample_on_meter_curve : (0 : Int) ≤ 0 ∧ (0 : Int) ≤ 7200 ∧ (7200 : Int) ≤ 7200 ∧
    ∃ o, pulseExample.offset = .ok o ∧
      pulseExample.getRawSamples 0 7200 = .ok (pulseExample.datasource.meterSamples o 0 7200) ∧
      pulseExample.getConvertedSamples 0 7200 = .ok (match pulseExample.kind with
        | .pulseAccumulation pq oq => (pulseExample.datasource.meterSamples o 0 7200).map fun s =>
            { s with physicalQuantity := oq / pq * s.physicalQuantity }
        | _ => pulseExample.datasource.meterSamples o 0 7200) :=
  ⟨by decide, by decide, by decide,
    getConvertedSamples_on_meter_curve pulseExample (by decide) (by decide) (by decide)⟩

/-- A period holding no reading, whose datasource has one reading after the period. -/
def periodBeforeItsReading : AccumulationPeriod :=
  ⟨⟨0, 10, ⟨[⟨20, 5⟩], by decide⟩, by decide⟩, .nonpulseAccumulation, by simp⟩

/-- There the offset is zero although the curve starts at 5, and `get_samples` from the period
start fails its zero-start assertion. -/
theorem offset_misses_reading_after_period :
    periodBeforeItsReading.offset = .ok 0 ∧ periodBeforeItsReading.datasource.meterValue 0 = 5 ∧
      periodBeforeItsReading.getSamples 0 10 = .error ⟨288⟩ := by
  refine ⟨rfl, rfl, ?_⟩
  rw [getSamples_eq (show periodBeforeItsReading.offset = .ok 0 from rfl) (by decide) (by decide) (by decide)
    (by decide)]
  simp [convertedMeterSamples, periodBeforeItsReading, Datasource.meterSamples,
    Datasource.windowTimes, Datasource.meterSample, createPointSample]
  decide

end AccumulationPeriod

end GridPlatform
