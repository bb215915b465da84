import GridPlatform.AccumulationAdapter
import Mathlib.Data.List.Chain

/-!
`NonaccumulationPeriodAdapter` and `NonaccumulationAdapter`: no offset and no carry. A period
yields its readings with the curve interpolated at `from` and `to`, and nothing where the
readings do not reach; the adapter drops a sample at a period's own end unless it is `to`.
-/
namespace GridPlatform

namespace NonaccumulationPeriodAdapter

variable (p : Period)

/-- `# yield sample before first raw data if missing` -/
def samplesBeforeFirstRawData (fromTimestamp : Int) (firstRawData : RawData) :
    Except AssertionError (List Sample) :=
  if firstRawData.timestamp ≠ fromTimestamp then
    match p.datasource.getLeadingRawData fromTimestamp with
    | some leading => do pure [← interpolateSample fromTimestamp leading firstRawData]
    | none => pure []
  else pure []

/-- `# yield final sample after final raw data if missing` -/
def samplesAfterFinalRawData (toTimestamp : Int) (finalRawData : RawData) :
    Except AssertionError (List Sample) :=
  if finalRawData.timestamp ≠ toTimestamp then
    match p.datasource.getFollowingRawData toTimestamp with
    | some following => do pure [← interpolateSample toTimestamp finalRawData following]
    | none => pure []
  else pure []

def getSamplesPureImplementation (fromTimestamp toTimestamp : Int) :
    Except AssertionError (List Sample) := do
  check (fromTimestamp ≤ toTimestamp) 465
  match p.datasource.rawdataInRange (max fromTimestamp p.fromTimestamp)
      (min toTimestamp p.toTimestamp) with
  | [] =>
    match p.datasource.getLeadingRawData fromTimestamp,
      p.datasource.getFollowingRawData toTimestamp with
    | some leading, some following =>
      let first ← interpolateSample fromTimestamp leading following
      if fromTimestamp = toTimestamp then pure [first]
      else pure [first, ← interpolateSample toTimestamp leading following]
    | _, _ => pure []
  | firstRawData :: rest =>
    let leadingSamples ← samplesBeforeFirstRawData p fromTimestamp firstRawData
    let finalSamples ← samplesAfterFinalRawData p toTimestamp
      ((firstRawData :: rest).getLast (List.cons_ne_nil _ _))
    pure (leadingSamples ++ (firstRawData :: rest).map (fun rawData =>
      createPointSample rawData.timestamp rawData.value true false) ++ finalSamples)

/-- `PeriodAdapterBase.get_samples` over `_get_samples_pure_implementation`. -/
def getSamples (fromTimestamp toTimestamp : Int) : Except AssertionError (List Sample) := do
  check (fromTimestamp ≤ toTimestamp) 268
  check (fromTimestamp ≥ p.fromTimestamp) 269
  check (toTimestamp ≤ p.toTimestamp) 270
  getSamplesPureImplementation p fromTimestamp toTimestamp

end NonaccumulationPeriodAdapter

/-! ## A period samples the curve where readings bracket it -/

namespace Datasource

variable (ds : Datasource)

def curveSample (t : Int) : Sample := createPointSample t (ds.meterValue t) true false

/-- The curve's samples at the window's times that readings bracket. -/
def interpolatedSamples (u v : Int) : List Sample :=
  ((ds.windowTimes u v).filter ds.bracketed).map ds.curveSample

end Datasource

namespace NonaccumulationPeriodAdapter

section Window

variable {p : Period} {u v : Int} (hu : p.fromTimestamp ≤ u) (huv : u ≤ v) (hv : v ≤ p.toTimestamp)
include hu huv hv

theorem getSamplesPureImplementation_of_gap (hgap : p.datasource.rawdataInRange u v = []) :
    getSamplesPureImplementation p u v = .ok (p.datasource.interpolatedSamples u v) := by
  obtain ⟨hLu, hFu, hnu⟩ := Datasource.lastUpTo_firstAfter_of_gap hgap le_rfl huv
  obtain ⟨hLv, hFv, hnv⟩ := Datasource.lastUpTo_firstAfter_of_gap hgap huv le_rfl
  have hout : ∀ r ∈ p.datasource.rawdata, ¬(u ≤ r.timestamp ∧ r.timestamp ≤ v) := fun r hr hin =>
    by simpa [hgap] using Datasource.mem_rawdataInRange.2 ⟨hr, hin⟩
  have htimes : p.datasource.windowTimes u v = if u = v then [u] else [u, v] := by
    have : p.datasource.rawdata.filter (fun r => u < r.timestamp ∧ r.timestamp < v) = [] :=
      List.filter_eq_nil_iff.2 fun r hr h => hout r hr (by simp at h; omega)
    rw [Datasource.windowTimes, this]; rfl
  have hbr : ∀ t ∈ [u, v], p.datasource.bracketed t = ((p.datasource.getLeadingRawData u).isSome &&
      (p.datasource.getFollowingRawData v).isSome) := by
    simp only [List.mem_cons, List.mem_singleton, List.not_mem_nil, or_false]
    rintro t (rfl | rfl)
    · rw [Datasource.bracketed_of_forall_ne hnu, hLu, hFu]
    · rw [Datasource.bracketed_of_forall_ne hnv, hLv, hFv]
  have hsub : ∀ l : List Int, l.Sublist [u, v] → l.filter p.datasource.bracketed =
      if (p.datasource.getLeadingRawData u).isSome && (p.datasource.getFollowingRawData v).isSome
      then l else [] := fun l hl => by
    split_ifs with h
    · exact List.filter_eq_self.2 fun t ht => (hbr t (hl.subset ht)).trans h
    · exact List.filter_eq_nil_iff.2 fun t ht => by simp [hbr t (hl.subset ht), h]
  simp only [getSamplesPureImplementation, check_of_pos huv, pure_bind, max_eq_left hu,
    min_eq_left hv, hgap, Datasource.interpolatedSamples, htimes]
  cases hL : p.datasource.getLeadingRawData u <;> cases hF : p.datasource.getFollowingRawData v <;>
    dsimp only
  case some.some l f =>
    rw [Datasource.interpolateSample_of_bracket (hLu.trans hL) (hFu.trans hF), ok_bind]
    split_ifs
    · simp [hsub [u] (by simp), hL, hF, Datasource.curveSample]
    · rw [Datasource.interpolateSample_of_bracket (hLv.trans hL) (hFv.trans hF), ok_bind]
      simp [hsub [u, v] (List.Sublist.refl _), hL, hF, Datasource.curveSample]
  all_goals split_ifs <;> simp [hsub [u] (by simp), hsub [u, v] (List.Sublist.refl _), hL, hF]

omit hu huv hv in
theorem samplesBeforeFirstRawData_eq {first : RawData} {rest : List RawData}
    (hw : p.datasource.rawdataInRange u v = first :: rest) :
    samplesBeforeFirstRawData p u first = .ok (((if first.timestamp ≠ u then [u] else []).filter
      p.datasource.bracketed).map p.datasource.curveSample) := by
  unfold samplesBeforeFirstRawData
  split_ifs with hne
  · obtain ⟨hL, hF, hn⟩ := Datasource.lastUpTo_firstAfter_of_head hw hne
    have hb : p.datasource.bracketed u = (p.datasource.getLeadingRawData u).isSome := by
      rw [Datasource.bracketed_of_forall_ne hn, hL, hF]; simp
    cases hl : p.datasource.getLeadingRawData u <;> dsimp only
    · simp [hb, hl]
    · rw [Datasource.interpolateSample_of_bracket (hL.trans hl) hF, ok_bind]
      simp [hb, hl, Datasource.curveSample]
  · rfl

omit hu huv hv in
theorem samplesAfterFinalRawData_eq {w : List RawData}
    (hw : p.datasource.rawdataInRange u v = w) (hne : w ≠ []) :
    samplesAfterFinalRawData p v (w.getLast hne) = .ok (((if (w.getLast hne).timestamp ≠ v then [v]
      else []).filter p.datasource.bracketed).map p.datasource.curveSample) := by
  unfold samplesAfterFinalRawData
  split_ifs with hne'
  · obtain ⟨hL, hF, hn⟩ := Datasource.lastUpTo_firstAfter_of_getLast hw hne hne'
    have hb : p.datasource.bracketed v = (p.datasource.getFollowingRawData v).isSome := by
      rw [Datasource.bracketed_of_forall_ne hn, hL, hF]; simp
    cases hf : p.datasource.getFollowingRawData v <;> dsimp only
    · simp [hb, hf]
    · rw [Datasource.interpolateSample_of_bracket hL (hF.trans hf), ok_bind]
      simp [hb, hf, Datasource.curveSample]
  · rfl

theorem getSamplesPureImplementation_of_cons {first : RawData} {rest : List RawData}
    (hw : p.datasource.rawdataInRange u v = first :: rest) :
    getSamplesPureImplementation p u v = .ok (p.datasource.interpolatedSamples u v) := by
  have hmem : ∀ r ∈ first :: rest, r ∈ p.datasource.rawdata :=
    fun r hr => (Datasource.mem_rawdataInRange.1 (hw ▸ hr)).1
  have hraw : (first :: rest).map (fun r => createPointSample r.timestamp r.value true false) =
      (((first :: rest).map (·.timestamp)).filter p.datasource.bracketed).map
        p.datasource.curveSample := by
    rw [List.filter_eq_self.2 fun t ht => ?_, List.map_map]
    · exact List.map_congr_left fun r hr => by
        simp [Datasource.curveSample, Datasource.meterValue_of_mem (hmem r hr)]
    · obtain ⟨r, hr, rfl⟩ := List.mem_map.1 ht
      exact Datasource.bracketed_of_mem (hmem r hr)
  simp only [getSamplesPureImplementation, check_of_pos huv, pure_bind, max_eq_left hu,
    min_eq_left hv, hw]
  rw [samplesBeforeFirstRawData_eq hw, ok_bind, samplesAfterFinalRawData_eq hw (List.cons_ne_nil _ _),
    ok_bind, Datasource.interpolatedSamples,
    Datasource.windowTimes_of_rawdataInRange hw (List.cons_ne_nil _ _) huv, List.filter_append,
    List.filter_append, List.map_append, List.map_append, hraw]
  rfl

/-- Within the period `get_samples`' range assertions pass. -/
theorem getSamples_of_within : getSamples p u v = getSamplesPureImplementation p u v := by
  simp only [getSamples, check_of_pos huv, check_of_pos (ge_iff_le.2 hu), check_of_pos hv, pure_bind]

theorem getSamplesPureImplementation_eq :
    getSamplesPureImplementation p u v = .ok (p.datasource.interpolatedSamples u v) := by
  cases hw : p.datasource.rawdataInRange u v with
  | nil => exact getSamplesPureImplementation_of_gap hu huv hv hw
  | cons first rest => exact getSamplesPureImplementation_of_cons hu huv hv hw

/-- The non-accumulation period adapter samples the meter curve at `from`, `to` and the
readings between, where readings lie on both sides, and never extrapolates. -/
theorem getSamples_interpolates :
    getSamples p u v = .ok (p.datasource.interpolatedSamples u v) := by
  simp only [getSamples, check_of_pos huv, check_of_pos (ge_iff_le.2 hu), check_of_pos hv, pure_bind]
  cases hw : p.datasource.rawdataInRange u v with
  | nil => exact getSamplesPureImplementation_of_gap hu huv hv hw
  | cons first rest => exact getSamplesPureImplementation_of_cons hu huv hv hw

end Window

/-- The non-accumulation period adapter fails exactly at the first of `get_samples`' range
assertions that the window violates: within the period it never fails. -/
theorem getSamples_error_iff (p : Period) (u v : Int) (e : AssertionError) :
    getSamples p u v = .error e ↔
      (¬u ≤ v ∧ e = ⟨268⟩) ∨ (u ≤ v ∧ ¬p.fromTimestamp ≤ u ∧ e = ⟨269⟩) ∨
        (u ≤ v ∧ p.fromTimestamp ≤ u ∧ ¬v ≤ p.toTimestamp ∧ e = ⟨270⟩) := by
  by_cases huv : u ≤ v
  · by_cases hu : p.fromTimestamp ≤ u
    · by_cases hv : v ≤ p.toTimestamp
      · simp [getSamples_of_within hu huv hv, getSamplesPureImplementation_eq hu huv hv, huv, hu, hv]
      · simp [getSamples, check_of_neg, huv, hu, hv, eq_comm]
    · simp [getSamples, check_of_neg, huv, hu, eq_comm]
  · simp [getSamples, check_of_neg, huv, eq_comm]

/-- The specification's gap example: readings half an hour before and after the window. -/
def gapPeriod : Period := ⟨0, 3600, ⟨[⟨-1800, 10⟩, ⟨5400, 20⟩], by decide⟩, by decide⟩

theorem gapPeriod_interpolates : (0 : Int) ≤ 0 ∧ (0 : Int) ≤ 3600 ∧ (3600 : Int) ≤ 3600 ∧
    getSamples gapPeriod 0 3600 = .ok (gapPeriod.datasource.interpolatedSamples 0 3600) :=
  ⟨by decide, by decide, by decide, getSamples_interpolates (by decide) (by decide) (by decide)⟩

end NonaccumulationPeriodAdapter

/-- `NonaccumulationAdapter._get_samples` over the periods `in_range` hands it. -/
def NonaccumulationAdapter.getSamples (fromTimestamp toTimestamp : Int) :
    List Period → Except AssertionError (List Sample)
  | [] => pure []
  | inputPeriod :: inputPeriods => do
    let samples ← NonaccumulationPeriodAdapter.getSamples inputPeriod
      (max fromTimestamp inputPeriod.fromTimestamp) (min toTimestamp inputPeriod.toTimestamp)
    let rest ← NonaccumulationAdapter.getSamples fromTimestamp toTimestamp inputPeriods
    pure (samples.filter (fun sample => sample.timestamp ≠ inputPeriod.toTimestamp ∨
      inputPeriod.toTimestamp = toTimestamp) ++ rest)

namespace Datasource

variable {ds : Datasource} {u v : Int}

theorem mem_windowTimes_of_mem_interpolatedSamples {s : Sample} (hs : s ∈ ds.interpolatedSamples u v) :
    s.timestamp ∈ ds.windowTimes u v := by
  obtain ⟨t, ht, rfl⟩ := List.mem_map.1 hs
  exact (List.mem_filter.1 ht).1

theorem interpolatedSamples_pairwise (huv : u ≤ v) :
    (ds.interpolatedSamples u v).Pairwise (·.timestamp < ·.timestamp) :=
  List.pairwise_map.2 ((windowTimes_sorted huv).filter _)

end Datasource

namespace NonaccumulationAdapter

/-- What `_get_samples` yields for one period: its curve samples over its part of the query,
without the one at the period's own end unless that end is `to`. -/
def periodSamples (fromTimestamp toTimestamp : Int) (inputPeriod : Period) : List Sample :=
  (inputPeriod.datasource.interpolatedSamples (max fromTimestamp inputPeriod.fromTimestamp)
    (min toTimestamp inputPeriod.toTimestamp)).filter fun sample =>
      sample.timestamp ≠ inputPeriod.toTimestamp ∨ inputPeriod.toTimestamp = toTimestamp

section Query

variable {u v : Int} (huv : u ≤ v)
include huv

/-- The adapter yields the periods' own samples one period after the other. -/
theorem getSamples_eq_flatMap :
    ∀ {qs : List Period}, (∀ q ∈ qs, q.fromTimestamp ≤ v ∧ u ≤ q.toTimestamp) →
      getSamples u v qs = .ok (qs.flatMap (periodSamples u v))
  | [], _ => rfl
  | q :: qs, hqs => by
    have hq := hqs q (List.mem_cons_self _ _)
    have := q.bounds_le
    have hu := le_max_right u q.fromTimestamp
    have huv : max u q.fromTimestamp ≤ min v q.toTimestamp := by omega
    have hv := min_le_right v q.toTimestamp
    simp only [getSamples, NonaccumulationPeriodAdapter.getSamples_of_within hu huv hv,
      NonaccumulationPeriodAdapter.getSamplesPureImplementation_eq hu huv hv, ok_bind,
      getSamples_eq_flatMap fun q' hq' => hqs q' (List.mem_cons_of_mem _ hq'), List.flatMap_cons]
    rfl

theorem getSamples_ok : ∀ {qs : List Period}, (∀ q ∈ qs, q.fromTimestamp ≤ v ∧ u ≤ q.toTimestamp) →
    ∃ ss, getSamples u v qs = .ok ss :=
  fun hqs => ⟨_, getSamples_eq_flatMap huv hqs⟩

section Period

variable {q : Period} (hq : q.fromTimestamp ≤ v ∧ u ≤ q.toTimestamp)
include hq

/-- A period's samples lie in its part of the query, and one at the period's end is at `to`. -/
theorem mem_periodSamples {s : Sample} (hs : s ∈ periodSamples u v q) :
    max u q.fromTimestamp ≤ s.timestamp ∧ s.timestamp ≤ min v q.toTimestamp ∧
      (s.timestamp = q.toTimestamp → q.toTimestamp = v) := by
  have := q.bounds_le
  obtain ⟨hs, hkeep⟩ := List.mem_filter.1 hs
  have hb := Datasource.bounds_of_mem_windowTimes (by omega)
    (Datasource.mem_windowTimes_of_mem_interpolatedSamples hs)
  simp only [ne_eq, decide_eq_true_eq] at hkeep
  exact ⟨hb.1, hb.2, fun h => hkeep.resolve_left (not_not.2 h)⟩

theorem periodSamples_pairwise : (periodSamples u v q).Pairwise (·.timestamp < ·.timestamp) := by
  have := q.bounds_le
  exact (Datasource.interpolatedSamples_pairwise (by omega)).filter _

end Period

/-- Samples of periods in time order, no period but the last ending at `to`, come in strictly
increasing time. -/
theorem flatMap_periodSamples_pairwise :
    ∀ {qs : List Period}, qs.Pairwise (·.toTimestamp ≤ ·.fromTimestamp) →
      (∀ q ∈ qs, q.fromTimestamp ≤ v ∧ u ≤ q.toTimestamp) → (∀ q ∈ qs.dropLast, q.toTimestamp ≠ v) →
      (qs.flatMap (periodSamples u v)).Pairwise (·.timestamp < ·.timestamp)
  | [], _, _, _ => List.Pairwise.nil
  | q :: qs, hord, hqs, hend => by
    have hq := hqs q (List.mem_cons_self _ _)
    have hend := forall_mem_dropLast_cons hend
    rw [List.flatMap_cons, List.pairwise_append]
    refine ⟨periodSamples_pairwise huv hq, flatMap_periodSamples_pairwise hord.of_cons
      (fun q' hq' => hqs q' (List.mem_cons_of_mem _ hq')) hend.2, fun s hs s' hs' => ?_⟩
    obtain ⟨q', hq', hs'⟩ := List.mem_flatMap.1 hs'
    have hqq' := List.rel_of_pairwise_cons hord hq'
    have hqv := hend.1 (List.ne_nil_of_mem hq')
    have h := mem_periodSamples huv hq hs
    have h' := mem_periodSamples huv (hqs q' (List.mem_cons_of_mem _ hq')) hs'
    have : s.timestamp ≠ q.toTimestamp := fun he => hqv (h.2.2 he)
    omega

/-- Over periods in time order, each ending at or before the next starts and each meeting the
query, `_get_samples` yields samples within `[from, to]`; they come in strictly increasing time
when no period but the last ends at `to`. -/
theorem getSamples_increasing {qs : List Period}
    (hord : qs.Chain' (·.toTimestamp ≤ ·.fromTimestamp))
    (hqs : ∀ q ∈ qs, q.fromTimestamp ≤ v ∧ u ≤ q.toTimestamp) {ss : List Sample}
    (h : getSamples u v qs = .ok ss) :
    (∀ s ∈ ss, u ≤ s.timestamp ∧ s.timestamp ≤ v) ∧
      ((∀ q ∈ qs.dropLast, q.toTimestamp ≠ v) → ss.Pairwise (·.timestamp < ·.timestamp)) := by
  rw [getSamples_eq_flatMap huv hqs, Except.ok.injEq] at h
  subst h
  refine ⟨fun s hs => ?_, flatMap_periodSamples_pairwise huv
    ((@List.chain'_iff_pairwise _ _ ⟨fun a b _ hab hbc => hab.trans (b.bounds_le.trans hbc)⟩ _).1 hord)
    hqs⟩
  obtain ⟨q, hq, hs⟩ := List.mem_flatMap.1 hs
  have := mem_periodSamples huv (hqs q hq) hs
  omega

end Query

/-- One meter read at 0 s, 10 s and 20 s, its sequence split into two periods at 10 s. -/
def splitMeter : Datasource := ⟨[⟨0, 1⟩, ⟨10, 2⟩, ⟨20, 3⟩], by decide⟩

def firstSplit : Period := ⟨0, 10, splitMeter, by decide⟩

def secondSplit : Period := ⟨10, 20, splitMeter, by decide⟩

/-- Queried over both periods, the first stops before the join and the second starts there. -/
theorem splitMeter_increasing :
    let ss := [firstSplit, secondSplit].flatMap (periodSamples 0 20)
    (0 : Int) ≤ 20 ∧ [firstSplit, secondSplit].Chain' (·.toTimestamp ≤ ·.fromTimestamp) ∧
    (∀ q ∈ [firstSplit, secondSplit], q.fromTimestamp ≤ 20 ∧ 0 ≤ q.toTimestamp) ∧
    getSamples 0 20 [firstSplit, secondSplit] = .ok ss ∧
    (∀ q ∈ [firstSplit, secondSplit].dropLast, q.toTimestamp ≠ 20) ∧
    (∀ s ∈ ss, 0 ≤ s.timestamp ∧ s.timestamp ≤ 20) ∧
      ((∀ q ∈ [firstSplit, secondSplit].dropLast, q.toTimestamp ≠ 20) →
        ss.Pairwise (·.timestamp < ·.timestamp)) :=
  have hord : [firstSplit, secondSplit].Chain' (·.toTimestamp ≤ ·.fromTimestamp) :=
    List.chain'_pair.2 (by decide)
  have hqs : ∀ q ∈ [firstSplit, secondSplit], q.fromTimestamp ≤ 20 ∧ 0 ≤ q.toTimestamp := by decide
  have h := getSamples_eq_flatMap (by decide) hqs
  ⟨by decide, hord, hqs, h, by decide, getSamples_increasing (by decide) hord hqs h⟩

/-- Queried up to the join, both periods yield the sample at 10 s: the first keeps it since its
end is `to`, the second starts at `to` and samples its one-point part of the query. -/
theorem period_starting_at_to_repeats_sample :
    [firstSplit, secondSplit].Chain' (·.toTimestamp ≤ ·.fromTimestamp) ∧
    (∀ q ∈ [firstSplit, secondSplit], q.fromTimestamp ≤ 10 ∧ 0 ≤ q.toTimestamp) ∧
    getSamples 0 10 [firstSplit, secondSplit] =
      .ok [⟨0, 1, true, false⟩, ⟨10, 2, true, false⟩, ⟨10, 2, true, false⟩] := by
  have hqs : ∀ q ∈ [firstSplit, secondSplit], q.fromTimestamp ≤ 10 ∧ 0 ≤ q.toTimestamp := by
    decide
  refine ⟨List.chain'_pair.2 (by decide), hqs, ?_⟩
  rw [getSamples_eq_flatMap (by decide) hqs]
  simp [periodSamples, firstSplit, secondSplit, splitMeter, Datasource.interpolatedSamples,
    Datasource.windowTimes, Datasource.bracketed, Datasource.curveSample, createPointSample,
    Datasource.meterValue, Datasource.lastUpTo, Datasource.firstAfter, segmentValue, lineThrough]

/-! ## What the adapter yields -/

section Yields

variable {u v : Int} (huv : u ≤ v) {qs : List Period}
  (hqs : ∀ q ∈ qs, q.fromTimestamp ≤ v ∧ u ≤ q.toTimestamp) {ss : List Sample}
  (h : getSamples u v qs = .ok ss)
include huv hqs h

/-- Every sample of `_get_samples` over periods meeting the query is the meter curve of one of
them, at a time within the query and that period where readings lie on both sides: the adapter
never extrapolates, and marks every sample cachable. -/
theorem getSamples_on_curve :
    ∀ s ∈ ss, ∃ q ∈ qs, s = q.datasource.curveSample s.timestamp ∧
      q.datasource.bracketed s.timestamp = true ∧
      max u q.fromTimestamp ≤ s.timestamp ∧ s.timestamp ≤ min v q.toTimestamp := by
  rw [getSamples_eq_flatMap huv hqs] at h
  cases h
  intro s hs
  obtain ⟨q, hq, hs⟩ := List.mem_flatMap.1 hs
  have hb := mem_periodSamples huv (hqs q hq) hs
  obtain ⟨t, ht, rfl⟩ := List.mem_map.1 (List.mem_filter.1 hs).1
  exact ⟨q, hq, rfl, (List.mem_filter.1 ht).2, hb.1, hb.2.1⟩

/-- `_get_samples` drops no reading: each reading of a period within its part of the query is
yielded as it is, unless it lies at the period's end before `to`. -/
theorem getSamples_yields_readings {q : Period} (hq : q ∈ qs) {r : RawData}
    (hr : r ∈ q.datasource.rawdata) (hu : max u q.fromTimestamp ≤ r.timestamp)
    (hv : r.timestamp ≤ min v q.toTimestamp) (hend : r.timestamp ≠ q.toTimestamp ∨ q.toTimestamp = v) :
    createPointSample r.timestamp r.value true false ∈ ss := by
  rw [getSamples_eq_flatMap huv hqs] at h
  cases h
  have ht : r.timestamp ∈ q.datasource.windowTimes (max u q.fromTimestamp) (min v q.toTimestamp) := by
    refine (Datasource.mem_windowTimes (hu.trans hv)).2 ?_
    rcases eq_or_lt_of_le hu with hu | hu
    · exact .inl hu.symm
    rcases eq_or_lt_of_le hv with hv | hv
    · exact .inr (.inl hv)
    · exact .inr (.inr ⟨r, hr, hu, hv, rfl⟩)
  have hs := List.mem_map_of_mem q.datasource.curveSample
    (List.mem_filter.2 ⟨ht, Datasource.bracketed_of_mem hr⟩)
  rw [Datasource.curveSample, Datasource.meterValue_of_mem hr] at hs
  exact List.mem_flatMap.2 ⟨q, hq, List.mem_filter.2 ⟨hs, by simpa using hend⟩⟩

end Yields

/-- The split meter queried over both of its periods. -/
theorem splitMeter_on_curve :
    (0 : Int) ≤ 20 ∧ (∀ q ∈ [firstSplit, secondSplit], q.fromTimestamp ≤ 20 ∧ 0 ≤ q.toTimestamp) ∧
    ∃ ss, getSamples 0 20 [firstSplit, secondSplit] = .ok ss ∧
      ∀ s ∈ ss, ∃ q ∈ [firstSplit, secondSplit], s = q.datasource.curveSample s.timestamp ∧
        q.datasource.bracketed s.timestamp = true ∧
        max 0 q.fromTimestamp ≤ s.timestamp ∧ s.timestamp ≤ min 20 q.toTimestamp :=
  have hqs : ∀ q ∈ [firstSplit, secondSplit], q.fromTimestamp ≤ 20 ∧ 0 ≤ q.toTimestamp := by
    decide
  have h := getSamples_eq_flatMap (by decide) hqs
  ⟨by decide, hqs, _, h, getSamples_on_curve (by decide) hqs h⟩

/-- The reading at 20 s, the second period's end and `to`, is yielded. -/
theorem splitMeter_yields_last_reading :
    (0 : Int) ≤ 20 ∧ (∀ q ∈ [firstSplit, secondSplit], q.fromTimestamp ≤ 20 ∧ 0 ≤ q.toTimestamp) ∧
    secondSplit ∈ [firstSplit, secondSplit] ∧ ⟨20, 3⟩ ∈ secondSplit.datasource.rawdata ∧
    max 0 secondSplit.fromTimestamp ≤ 20 ∧ 20 ≤ min 20 secondSplit.toTimestamp ∧
    ((20 : Int) ≠ secondSplit.toTimestamp ∨ secondSplit.toTimestamp = 20) ∧
    ∃ ss, getSamples 0 20 [firstSplit, secondSplit] = .ok ss ∧ createPointSample 20 3 true false ∈ ss :=
  have hqs : ∀ q ∈ [firstSplit, secondSplit], q.fromTimestamp ≤ 20 ∧ 0 ≤ q.toTimestamp := by
    decide
  have h := getSamples_eq_flatMap (by decide) hqs
  have hr : (⟨20, 3⟩ : RawData) ∈ secondSplit.datasource.rawdata := by decide
  ⟨by decide, hqs, .tail _ (.head _), hr, by decide, by decide, .inr rfl, _, h,
    getSamples_yields_readings (by decide) hqs h (.tail _ (.head _)) hr (by decide) (by decide)
      (.inr rfl)⟩

end NonaccumulationAdapter

/-- On a query `from ≤ to` over periods that meet it, consuming either adapter's samples trips
no assertion but the accumulation period's zero-start check (line 288). -/
theorem getSamples_trip_only_zero_start {u v : Int} (huv : u ≤ v) {ps : List AccumulationPeriod}
    {qs : List Period} (hps : ∀ p ∈ ps, p.fromTimestamp ≤ v ∧ u ≤ p.toTimestamp)
    (hqs : ∀ q ∈ qs, q.fromTimestamp ≤ v ∧ u ≤ q.toTimestamp) :
    (∀ e, AccumulationAdapter.getSamples u v ps = .error e → e.line = 288) ∧
      ∃ ss, NonaccumulationAdapter.getSamples u v qs = .ok ss :=
  ⟨AccumulationAdapter.getSamples_failsOnlyAt huv hps, NonaccumulationAdapter.getSamples_ok huv hqs⟩

theorem getSamples_trip_only_zero_start_example : (0 : Int) ≤ 30 ∧
    (∀ p ∈ [AccumulationAdapter.firstMeter, AccumulationAdapter.secondMeter,
      AccumulationAdapter.thirdMeter], p.fromTimestamp ≤ 30 ∧ 0 ≤ p.toTimestamp) ∧
    (∀ q ∈ [NonaccumulationPeriodAdapter.gapPeriod], q.fromTimestamp ≤ 30 ∧ 0 ≤ q.toTimestamp) ∧
    (∀ e, AccumulationAdapter.getSamples 0 30 [AccumulationAdapter.firstMeter, AccumulationAdapter.secondMeter,
      AccumulationAdapter.thirdMeter] = .error e →
      e.line = 288) ∧ ∃ ss, NonaccumulationAdapter.getSamples 0 30 [NonaccumulationPeriodAdapter.gapPeriod] = .ok ss := by
  have hps : ∀ p ∈ [AccumulationAdapter.firstMeter, AccumulationAdapter.secondMeter,
      AccumulationAdapter.thirdMeter], p.fromTimestamp ≤ 30 ∧ 0 ≤ p.toTimestamp := by decide
  have hqs : ∀ q ∈ [NonaccumulationPeriodAdapter.gapPeriod], q.fromTimestamp ≤ 30 ∧
      0 ≤ q.toTimestamp := by decide
  exact ⟨by decide, hps, hqs, getSamples_trip_only_zero_start (by decide) hps hqs⟩

end GridPlatform
