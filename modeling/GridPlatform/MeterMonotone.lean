import GridPlatform.AccumulationRun
import Mathlib.Algebra.Order.Field.Basic

/-!
A meter whose readings never decrease. Its curve never decreases, so a period's samples come in
nondecreasing quantity unless a pulse period scales by a negative factor, and measured from the
period's offset they are nonnegative once the readings are. Across periods the stitched run can
still drop: the carry holds the previous period's usage only.
-/
namespace GridPlatform

namespace Datasource

variable {ds : Datasource} {t t' : Int}

/-- The last reading up to `t` is the latest such reading. -/
theorem lastUpTo_spec {a : RawData} (ha : ds.lastUpTo t = some a) :
    a ∈ ds.rawdata ∧ a.timestamp ≤ t ∧ ∀ r ∈ ds.rawdata, r.timestamp ≤ t → r.timestamp ≤ a.timestamp := by
  have hmem := List.mem_filter.1 (List.mem_of_getLast?_eq_some ha)
  simp only [decide_eq_true_eq] at hmem
  exact ⟨hmem.1, hmem.2, fun r hr hrt =>
    key_le_of_getLast? (ds.sorted.filter _) (List.mem_filter.2 ⟨hr, by simpa using hrt⟩) ha⟩

/-- The first reading after `t` is the earliest such reading. -/
theorem firstAfter_spec {b : RawData} (hb : ds.firstAfter t = some b) :
    b ∈ ds.rawdata ∧ t < b.timestamp ∧ ∀ r ∈ ds.rawdata, t < r.timestamp → b.timestamp ≤ r.timestamp := by
  have hmem := List.mem_filter.1 (List.mem_of_mem_head? hb)
  simp only [decide_eq_true_eq] at hmem
  exact ⟨hmem.1, hmem.2, fun r hr htr =>
    key_le_of_head? (ds.sorted.filter _) (List.mem_filter.2 ⟨hr, by simpa using htr⟩) hb⟩

/-- Between two readings the curve lies between their values: the line's fraction of the way is
in `[0, 1]`. -/
theorem lineThrough_mem_Icc {a b : RawData} (hab : a.value ≤ b.value) (ha : a.timestamp ≤ t)
    (hb : t < b.timestamp) : a.value ≤ lineThrough a b t ∧ lineThrough a b t ≤ b.value := by
  have hden : (0 : ℚ) < ((b.timestamp - a.timestamp : Int) : ℚ) := by exact_mod_cast (by omega)
  have hfrac₀ : (0 : ℚ) ≤ ((t - a.timestamp : Int) : ℚ) / ((b.timestamp - a.timestamp : Int) : ℚ) :=
    div_nonneg (by exact_mod_cast (by omega)) hden.le
  have hfrac₁ : ((t - a.timestamp : Int) : ℚ) / ((b.timestamp - a.timestamp : Int) : ℚ) ≤ 1 :=
    (div_le_one hden).2 (by exact_mod_cast (by omega))
  have hrise : (0 : ℚ) ≤ b.value - a.value := sub_nonneg.2 hab
  constructor
  · exact le_add_of_nonneg_right (mul_nonneg hrise hfrac₀)
  · calc lineThrough a b t ≤ a.value + (b.value - a.value) * 1 :=
          add_le_add_left (mul_le_mul_of_nonneg_left hfrac₁ hrise) _
      _ = b.value := by ring

section Nondecreasing

variable (hmono : ∀ x ∈ ds.rawdata, ∀ y ∈ ds.rawdata, x.timestamp ≤ y.timestamp → x.value ≤ y.value)
include hmono

/-- The curve at `t` is at least every reading up to `t`. -/
theorem value_le_meterValue {r : RawData} (hr : r ∈ ds.rawdata) (hrt : r.timestamp ≤ t) :
    r.value ≤ ds.meterValue t := by
  cases ha : ds.lastUpTo t with
  | none =>
    have := List.getLast?_eq_none_iff.1 ha
    exact absurd (List.mem_filter.2 ⟨hr, by simpa using hrt⟩) (this ▸ List.not_mem_nil r)
  | some a =>
    obtain ⟨haR, hat, hmax⟩ := lastUpTo_spec ha
    have hra := hmono r hr a haR (hmax r hr hrt)
    rw [meterValue, ha]
    cases hb : ds.firstAfter t with
    | none => exact hra
    | some b =>
      obtain ⟨hbR, htb, -⟩ := firstAfter_spec hb
      exact hra.trans (lineThrough_mem_Icc (hmono a haR b hbR (by omega)) hat htb).1

/-- The curve at `t` is at most every reading at or after `t`. -/
theorem meterValue_le_value {r : RawData} (hr : r ∈ ds.rawdata) (htr : t ≤ r.timestamp) :
    ds.meterValue t ≤ r.value := by
  rcases htr.lt_or_eq with htr | rfl
  · cases hb : ds.firstAfter t with
    | none =>
      have := List.head?_eq_none_iff.1 hb
      exact absurd (List.mem_filter.2 ⟨hr, by simpa using htr⟩) (this ▸ List.not_mem_nil r)
    | some b =>
      obtain ⟨hbR, htb, hmin⟩ := firstAfter_spec hb
      have hbr := hmono b hbR r hr (hmin r hr htr)
      rw [meterValue, hb]
      cases ha : ds.lastUpTo t with
      | none => exact hbr
      | some a =>
        obtain ⟨haR, hat, -⟩ := lastUpTo_spec ha
        exact (lineThrough_mem_Icc (hmono a haR b hbR (by omega)) hat htb).2.trans hbr
  · exact (meterValue_of_mem hr).le

/-- On readings that never decrease, the meter curve never decreases. -/
theorem meterValue_mono (htt' : t ≤ t') : ds.meterValue t ≤ ds.meterValue t' := by
  by_cases hbetween : ∃ r ∈ ds.rawdata, t ≤ r.timestamp ∧ r.timestamp ≤ t'
  · obtain ⟨r, hr, htr, hrt'⟩ := hbetween
    exact (meterValue_le_value hmono hr htr).trans (value_le_meterValue hmono hr hrt')
  push_neg at hbetween
  -- no reading between the two times: both lie on one segment of the curve
  have hL : ds.lastUpTo t' = ds.lastUpTo t :=
    congrArg List.getLast? (List.filter_congr fun r hr => by
      have := hbetween r hr
      simp only [decide_eq_decide]
      omega)
  have hF : ds.firstAfter t' = ds.firstAfter t :=
    congrArg List.head? (List.filter_congr fun r hr => by
      have := hbetween r hr
      simp only [decide_eq_decide]
      omega)
  rw [meterValue, meterValue, hL, hF]
  cases ha : ds.lastUpTo t with
  | none => cases ds.firstAfter t <;> exact le_rfl
  | some a =>
    cases hb : ds.firstAfter t with
    | none => exact le_rfl
    | some b =>
      obtain ⟨haR, hat, -⟩ := lastUpTo_spec ha
      obtain ⟨hbR, htb, -⟩ := firstAfter_spec hb
      have hrise : (0 : ℚ) ≤ b.value - a.value := sub_nonneg.2 (hmono a haR b hbR (by omega))
      have hden : (0 : ℚ) ≤ ((b.timestamp - a.timestamp : Int) : ℚ) := by exact_mod_cast (by omega)
      exact add_le_add_left (mul_le_mul_of_nonneg_left
        (div_le_div_of_nonneg_right (by exact_mod_cast (by omega)) hden) hrise) _

/-- With nonnegative readings the curve is nonnegative. -/
theorem meterValue_nonneg (hnonneg : ∀ r ∈ ds.rawdata, 0 ≤ r.value) (t : Int) :
    0 ≤ ds.meterValue t := by
  by_cases hbefore : ∃ r ∈ ds.rawdata, r.timestamp ≤ t
  · obtain ⟨r, hr, hrt⟩ := hbefore
    exact (hnonneg r hr).trans (value_le_meterValue hmono hr hrt)
  push_neg at hbefore
  have hL : ds.lastUpTo t = none :=
    List.getLast?_eq_none_iff.2 (List.filter_eq_nil_iff.2 fun r hr => by simpa using hbefore r hr)
  rw [meterValue, hL]
  cases hb : ds.firstAfter t with
  | none => exact le_rfl
  | some b => exact hnonneg b (firstAfter_spec hb).1

end Nondecreasing

end Datasource

namespace AccumulationPeriod

variable {p : AccumulationPeriod}
  (hmono : ∀ x ∈ p.datasource.rawdata, ∀ y ∈ p.datasource.rawdata,
    x.timestamp ≤ y.timestamp → x.value ≤ y.value)
include hmono

/-- On nonnegative readings that never decrease, the offset is at most the curve at the period
start: the curve there, or the last reading before a period holding none, or zero. -/
theorem offset_le_meterValue (hnonneg : ∀ r ∈ p.datasource.rawdata, 0 ≤ r.value) :
    ∃ o, p.offset = .ok o ∧ o ≤ p.datasource.meterValue p.fromTimestamp := by
  cases hw : p.datasource.rawdataInRange p.fromTimestamp p.toTimestamp with
  | cons first rest =>
    exact ⟨_, offset_eq_meterValue p
      (.inl ⟨first, Datasource.mem_rawdataInRange.1 (hw ▸ List.mem_cons_self first rest)⟩), le_rfl⟩
  | nil =>
    refine ⟨_, offset_of_gap p hw, ?_⟩
    cases hl : p.leadingRawData with
    | none => exact Datasource.meterValue_nonneg hmono hnonneg _
    | some l =>
      have hlead := List.mem_filter.1 (List.mem_of_getLast?_eq_some hl)
      simp only [decide_eq_true_eq] at hlead
      exact Datasource.value_le_meterValue hmono hlead.1 hlead.2.le

variable (hfactor : ∀ pq oq, p.kind = .pulseAccumulation pq oq → 0 ≤ conversionFactor pq oq)
include hfactor

/-- The converted curve samples never decrease. -/
theorem convertedMeterSamples_nondecreasing (o : ℚ) {u v : Int} (huv : u ≤ v) :
    (p.convertedMeterSamples o u v).Pairwise (·.physicalQuantity ≤ ·.physicalQuantity) := by
  have hmeter : (p.datasource.meterSamples o u v).Pairwise
      (·.physicalQuantity ≤ ·.physicalQuantity) := by
    unfold Datasource.meterSamples
    split_ifs
    · exact List.Pairwise.nil
    · refine List.pairwise_map.2 ((Datasource.windowTimes_sorted huv).imp fun htt' => ?_)
      exact sub_le_sub_right (Datasource.meterValue_mono hmono htt'.le) o
  unfold convertedMeterSamples
  split
  · next pq oq hk =>
    exact List.pairwise_map.2 (hmeter.imp fun h => mul_le_mul_of_nonneg_left h (hfactor pq oq hk))
  · exact hmeter

/-- Measured from an offset at most the curve at the period start, the converted curve samples
from the start on are nonnegative. -/
theorem convertedMeterSamples_nonneg {o : ℚ} (hoF : o ≤ p.datasource.meterValue p.fromTimestamp)
    {u v : Int} (hu : p.fromTimestamp ≤ u) (huv : u ≤ v) :
    ∀ s ∈ p.convertedMeterSamples o u v, 0 ≤ s.physicalQuantity := by
  -- every sample is the scaled curve at a time of the window, less the offset
  have hmeter : ∀ s ∈ p.datasource.meterSamples o u v, 0 ≤ s.physicalQuantity := by
    intro s hs
    unfold Datasource.meterSamples at hs
    split_ifs at hs
    · exact absurd hs (List.not_mem_nil s)
    obtain ⟨t, ht, rfl⟩ := List.mem_map.1 hs
    have hut := (Datasource.bounds_of_mem_windowTimes huv ht).1
    exact sub_nonneg.2 (hoF.trans (Datasource.meterValue_mono hmono (hu.trans hut)))
  unfold convertedMeterSamples
  split
  · next pq oq hkind =>
    intro s hs
    obtain ⟨x, hx, rfl⟩ := List.mem_map.1 hs
    exact mul_nonneg (hfactor pq oq hkind) (hmeter x hx)
  · exact hmeter

/-- On a meter whose readings never decrease, a period's `get_samples` yields quantities that
never decrease, unless a pulse period scales by a negative factor; with nonnegative readings
they are nonnegative too. -/
theorem getSamples_nondecreasing {u v : Int} (hu : p.fromTimestamp ≤ u) (huv : u ≤ v)
    (hv : v ≤ p.toTimestamp) {ss : List Sample} (h : p.getSamples u v = .ok ss) :
    ss.Pairwise (·.physicalQuantity ≤ ·.physicalQuantity) ∧
      ((∀ r ∈ p.datasource.rawdata, 0 ≤ r.value) → ∀ s ∈ ss, 0 ≤ s.physicalQuantity) := by
  by_cases hk : p.kind = .unsupported
  · simp only [getSamples, hk, pure_eq_ok, Except.ok.injEq] at h
    subst h
    simp
  obtain ⟨o, ho⟩ := offset_ok p
  rw [getSamples_ok_eq ho hu huv hv hk h]
  refine ⟨convertedMeterSamples_nondecreasing hmono hfactor o huv, fun hnonneg => ?_⟩
  obtain ⟨o', ho', hoF⟩ := offset_le_meterValue hmono hnonneg
  obtain rfl := Except.ok.inj (ho.symm.trans ho')
  exact convertedMeterSamples_nonneg hmono hfactor hoF hu huv

end AccumulationPeriod

theorem thirdMeter_nondecreasing :
    let p := AccumulationAdapter.thirdMeter
    let ss : List Sample := [⟨20, 0, true, false⟩, ⟨25, 5, true, false⟩, ⟨30, 10, true, false⟩]
    (∀ x ∈ p.datasource.rawdata, ∀ y ∈ p.datasource.rawdata,
      x.timestamp ≤ y.timestamp → x.value ≤ y.value) ∧
    (∀ pq oq, p.kind = .pulseAccumulation pq oq → 0 ≤ AccumulationPeriod.conversionFactor pq oq) ∧
    p.fromTimestamp ≤ 20 ∧ (20 : Int) ≤ 30 ∧ 30 ≤ p.toTimestamp ∧ p.getSamples 20 30 = .ok ss ∧
    ss.Pairwise (·.physicalQuantity ≤ ·.physicalQuantity) ∧
      ((∀ r ∈ p.datasource.rawdata, 0 ≤ r.value) → ∀ s ∈ ss, 0 ≤ s.physicalQuantity) :=
  have hmono : ∀ x ∈ AccumulationAdapter.thirdMeter.datasource.rawdata,
      ∀ y ∈ AccumulationAdapter.thirdMeter.datasource.rawdata,
        x.timestamp ≤ y.timestamp → x.value ≤ y.value := by decide
  have hfactor : ∀ pq oq, AccumulationAdapter.thirdMeter.kind = .pulseAccumulation pq oq →
      0 ≤ AccumulationPeriod.conversionFactor pq oq := fun _ _ h => nomatch h
  ⟨hmono, hfactor, by decide, by decide, by decide, AccumulationAdapter.thirdMeter_getSamples,
    AccumulationPeriod.getSamples_nondecreasing hmono hfactor (by decide) (by decide) (by decide)
      AccumulationAdapter.thirdMeter_getSamples⟩

end GridPlatform
