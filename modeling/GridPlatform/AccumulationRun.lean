import GridPlatform.CachableSamples
import Mathlib.Data.List.Chain
import Mathlib.Tactic.Ring

/-!
A whole run of `AccumulationAdapterBase._get_samples`. Over periods in time order that meet the
query, a run lies within `[from, to]`, comes in strictly increasing time and ends at `to`, and
only its made-up samples are extrapolated; each period's part of it starts at zero when the
period's offset is the meter curve at its start, which holds once the period holds a reading or
no reading lies after it.
-/
namespace GridPlatform

namespace AccumulationPeriod

variable {p : AccumulationPeriod} {a b : Int} {ss : List Sample}

/-- A successful `get_samples` yields nothing or one sample at each time of the window. -/
theorem getSamples_timestamps (ha : p.fromTimestamp ≤ a) (hab : a ≤ b) (hb : b ≤ p.toTimestamp)
    (h : p.getSamples a b = .ok ss) :
    ss = [] ∨ ss.map (·.timestamp) = p.datasource.windowTimes a b := by
  by_cases hk : p.kind = .unsupported
  · simp only [getSamples, hk, pure_eq_ok, Except.ok.injEq] at h
    exact .inl h.symm
  obtain ⟨o, ho⟩ := offset_ok p
  have htimes := convertedMeterSamples_timestamps p o a b
  rw [← getSamples_ok_eq ho ha hab hb hk h] at htimes
  split_ifs at htimes
  · exact .inl (List.map_eq_nil_iff.1 htimes)
  · exact .inr htimes

/-- Clipped to a query it meets, a period yields samples in strictly increasing time within its
part of the query. -/
theorem getSamples_clipped_sorted {u v : Int} (huv : u ≤ v)
    (hp : p.fromTimestamp ≤ v ∧ u ≤ p.toTimestamp)
    (h : p.getSamples (max u p.fromTimestamp) (min v p.toTimestamp) = .ok ss) :
    ss.Pairwise (·.timestamp < ·.timestamp) ∧
      ∀ s ∈ ss, max u p.fromTimestamp ≤ s.timestamp ∧ s.timestamp ≤ min v p.toTimestamp := by
  have := p.bounds_le
  have hab : max u p.fromTimestamp ≤ min v p.toTimestamp := by omega
  rcases getSamples_timestamps (le_max_right _ _) hab (min_le_right _ _) h with rfl | hts
  · simp
  refine ⟨List.pairwise_map.1 (hts ▸ Datasource.windowTimes_sorted hab), fun s hs => ?_⟩
  exact Datasource.bounds_of_mem_windowTimes hab (hts ▸ List.mem_map_of_mem _ hs)

/-- The first converted curve sample is nonzero exactly when there is one, the curve at `from`
differs from the offset, and a pulse period's output quantity is not zero. -/
theorem exists_head?_convertedMeterSamples_ne_zero (p : AccumulationPeriod) (o : ℚ) (u v : Int) :
    (∃ s ∈ (p.convertedMeterSamples o u v).head?, s.physicalQuantity ≠ 0) ↔
      p.datasource.rawdata ≠ [] ∧ p.datasource.meterValue u - o ≠ 0 ∧
        ∀ pq oq, p.kind = .pulseAccumulation pq oq → oq ≠ 0 := by
  have hhead : (p.datasource.windowTimes u v).head? = some u := by
    rw [List.head?_eq_head (Datasource.windowTimes_ne_nil u v), Datasource.head_windowTimes]
  unfold convertedMeterSamples Datasource.meterSamples
  split
  · next pq oq hk =>
    -- a pulse period divides by a nonzero pulse quantity
    have := p.pulseQuantity_ne_zero pq oq hk
    split_ifs <;> simp_all [List.head?_map, Datasource.meterSample, createPointSample, and_comm]
  · split_ifs <;> simp_all [List.head?_map, Datasource.meterSample, createPointSample, and_comm]

/-- From the period start, the first converted sample is nonzero exactly when the period holds no
reading and the first reading after it differs from the last one before it (from zero when there
is none), unless a pulse period's output quantity is zero. -/
theorem head?_convertedMeterSamples_ne_zero_iff {p : AccumulationPeriod} {o : ℚ}
    (ho : p.offset = .ok o) (v : Int) :
    (∃ s ∈ (p.convertedMeterSamples o p.fromTimestamp v).head?, s.physicalQuantity ≠ 0) ↔
      p.datasource.rawdataInRange p.fromTimestamp p.toTimestamp = [] ∧
      (∃ f, p.datasource.getFollowingRawData p.toTimestamp = some f ∧
        f.value ≠ (p.leadingRawData.map (·.value)).getD 0) ∧
      ∀ pq oq, p.kind = .pulseAccumulation pq oq → oq ≠ 0 := by
  rw [exists_head?_convertedMeterSamples_ne_zero]
  have := p.bounds_le
  cases hw : p.datasource.rawdataInRange p.fromTimestamp p.toTimestamp with
  | cons first rest =>
    have hmem := Datasource.mem_rawdataInRange.1 (hw ▸ List.mem_cons_self first rest)
    obtain rfl := Except.ok.inj (ho.symm.trans (offset_eq_meterValue p (.inl ⟨first, hmem⟩)))
    simp
  | nil =>
    obtain ⟨hL, hF, -⟩ := Datasource.lastUpTo_firstAfter_of_gap hw le_rfl this
    obtain rfl := Except.ok.inj (ho.symm.trans (offset_of_gap p hw))
    rw [Datasource.meterValue, hL, hF, Period.leadingRawData]
    cases hf : p.datasource.getFollowingRawData p.toTimestamp with
    | none => cases p.datasource.getLeadingRawData p.fromTimestamp <;> simp [segmentValue]
    | some f =>
      have hfmem := List.mem_filter.1 (List.mem_of_mem_head? hf)
      simp only [decide_eq_true_eq] at hfmem
      cases hl : p.datasource.getLeadingRawData p.fromTimestamp with
      | none => simp [segmentValue, List.ne_nil_of_mem hfmem.1]
      | some l =>
        have hlmem := List.mem_filter.1 (List.mem_of_getLast?_eq_some hl)
        simp only [decide_eq_true_eq] at hlmem
        have h₁ : l.timestamp ≠ p.fromTimestamp := by omega
        have h₂ : f.timestamp ≠ l.timestamp := by omega
        simp [segmentValue, lineThrough, List.ne_nil_of_mem hfmem.1, sub_eq_zero, h₁, h₂, eq_comm]

/-- A supported period's `get_samples` fails exactly at the first of its range assertions that the
window violates, or, on a window from the period start, at the zero-start check when the period
holds no reading and the first reading after it differs from the last one before it (from zero
when there is none), unless a pulse period's output quantity is zero. The checks at lines 285 and
296 never fail. -/
theorem getSamples_fails_iff (p : AccumulationPeriod) (hk : p.kind ≠ .unsupported) (u v : Int)
    (e : AssertionError) :
    p.getSamples u v = .error e ↔
      (¬u ≤ v ∧ e = ⟨268⟩) ∨ (u ≤ v ∧ ¬p.fromTimestamp ≤ u ∧ e = ⟨269⟩) ∨
      (u ≤ v ∧ p.fromTimestamp ≤ u ∧ ¬v ≤ p.toTimestamp ∧ e = ⟨270⟩) ∨
      (u = p.fromTimestamp ∧ u ≤ v ∧ v ≤ p.toTimestamp ∧ e = ⟨288⟩ ∧
        p.datasource.rawdataInRange p.fromTimestamp p.toTimestamp = [] ∧
        (∃ f, p.datasource.getFollowingRawData p.toTimestamp = some f ∧
          f.value ≠ (p.leadingRawData.map (·.value)).getD 0) ∧
        ∀ pq oq, p.kind = .pulseAccumulation pq oq → oq ≠ 0) := by
  by_cases hin : u ≤ v ∧ p.fromTimestamp ≤ u ∧ v ≤ p.toTimestamp
  · obtain ⟨huv, hu, hv⟩ := hin
    obtain ⟨o, ho⟩ := offset_ok p
    -- within the period only the zero-start check can fail, and only from the period start
    simp only [huv, hu, hv, not_true_eq_false, false_and, and_false, false_or, true_and]
    rw [getSamples_eq ho hu huv hv hk]
    by_cases huF : u = p.fromTimestamp
    · subst huF
      have hiff := head?_convertedMeterSamples_ne_zero_iff ho v
      split_ifs with h
      · exact ⟨fun h' => ⟨rfl, (Except.error.inj h').symm, hiff.1 h.2⟩, fun ⟨_, he, _⟩ => he ▸ rfl⟩
      · exact iff_of_false (fun h' => by cases h') fun ⟨_, _, hC⟩ => h ⟨rfl, hiff.2 hC⟩
    · rw [if_neg fun h => huF h.1]
      exact iff_of_false (fun h' => by cases h') fun ⟨h, _⟩ => huF h
  · -- the first range assertion the window violates
    unfold getSamples
    split
    · exact absurd ‹_› hk
    by_cases huv : u ≤ v
    · by_cases hu : p.fromTimestamp ≤ u
      · have hv : ¬v ≤ p.toTimestamp := fun hv => hin ⟨huv, hu, hv⟩
        simp [check_of_neg, huv, hu, hv]
        exact eq_comm
      · have huF : u ≠ p.fromTimestamp := fun h => hu h.ge
        simp [check_of_neg, huv, hu, huF]
        exact eq_comm
    · simp [check_of_neg, huv]
      exact eq_comm

/-- A period holding no reading, between readings at 0 s and 30 s. -/
def betweenReadings : AccumulationPeriod :=
  ⟨⟨10, 20, ⟨[⟨0, 0⟩, ⟨30, 30⟩], by decide⟩, by decide⟩, .nonpulseAccumulation, by simp⟩

/-- From its start, the period fails its zero-start check. -/
theorem betweenReadings_fails_iff :
    let p := betweenReadings
    p.kind ≠ .unsupported ∧
    (p.getSamples 10 20 = .error ⟨288⟩ ↔
      (¬(10 : Int) ≤ 20 ∧ (⟨288⟩ : AssertionError) = ⟨268⟩) ∨
      ((10 : Int) ≤ 20 ∧ ¬p.fromTimestamp ≤ 10 ∧ (⟨288⟩ : AssertionError) = ⟨269⟩) ∨
      ((10 : Int) ≤ 20 ∧ p.fromTimestamp ≤ 10 ∧ ¬20 ≤ p.toTimestamp ∧
        (⟨288⟩ : AssertionError) = ⟨270⟩) ∨
      (10 = p.fromTimestamp ∧ (10 : Int) ≤ 20 ∧ 20 ≤ p.toTimestamp ∧
        (⟨288⟩ : AssertionError) = ⟨288⟩ ∧
        p.datasource.rawdataInRange p.fromTimestamp p.toTimestamp = [] ∧
        (∃ f, p.datasource.getFollowingRawData p.toTimestamp = some f ∧
          f.value ≠ (p.leadingRawData.map (·.value)).getD 0) ∧
        ∀ pq oq, p.kind = .pulseAccumulation pq oq → oq ≠ 0)) :=
  ⟨by decide, getSamples_fails_iff betweenReadings (by decide) 10 20 ⟨288⟩⟩

end AccumulationPeriod

namespace AccumulationAdapter

variable {u v : Int}

/-- One step of the loop over the remaining periods: the period succeeds, and the loop goes on from
its last quantity. -/
theorem getSamplesOfRemainingPeriods_cons_ok {o : ℚ} {last y : Option Sample}
    {p : AccumulationPeriod} {ps : List AccumulationPeriod} {rest : List Sample}
    (h : getSamplesOfRemainingPeriods u v o last (p :: ps) = .ok (rest, y)) :
    ∃ ss rest₁, p.getSamples (max u p.fromTimestamp) (min v p.toTimestamp) = .ok ss ∧
      getSamplesOfRemainingPeriods u v ((ss.getLast?.map (·.physicalQuantity)).getD 0)
        (ss.tail.getLast? <|> last) ps = .ok (rest₁, y) ∧
      rest = ss.tail.map (addPeriodOffset o) ++ rest₁ := by
  simp only [getSamplesOfRemainingPeriods, bind_eq_ok] at h
  obtain ⟨ss, hss, ⟨rest₁, y₁⟩, hrest, h⟩ := h
  simp only [pure_eq_ok, Except.ok.injEq, Prod.mk.injEq] at h
  obtain ⟨rfl, rfl⟩ := h
  exact ⟨ss, rest₁, hss, hrest, rfl⟩

/-- The remaining periods, each starting at or after `b`, yield samples in strictly increasing
time after `max from b` and up to `to`; the last sample yielded is at the time of their last
sample when they yield one. -/
theorem getSamplesOfRemainingPeriods_sorted (huv : u ≤ v) {ps : List AccumulationPeriod}
    (hord : ps.Pairwise (·.toTimestamp ≤ ·.fromTimestamp))
    (hps : ∀ q ∈ ps, q.fromTimestamp ≤ v ∧ u ≤ q.toTimestamp) {b : Int}
    (hb : ∀ q ∈ ps, b ≤ q.fromTimestamp) {o : ℚ} {last y : Option Sample} {rest : List Sample}
    (h : getSamplesOfRemainingPeriods u v o last ps = .ok (rest, y)) :
    rest.Pairwise (·.timestamp < ·.timestamp) ∧
      (∀ s ∈ rest, max u b < s.timestamp ∧ s.timestamp ≤ v) ∧
      y.map (·.timestamp) = ((rest.map (·.timestamp)).getLast? <|> last.map (·.timestamp)) := by
  induction ps generalizing b o last rest y with
  | nil =>
    simp only [getSamplesOfRemainingPeriods, pure_eq_ok, Except.ok.injEq, Prod.mk.injEq] at h
    obtain ⟨rfl, rfl⟩ := h
    simp
  | cons q ps ih =>
    obtain ⟨ss, rest₁, hss, hrec, rfl⟩ := getSamplesOfRemainingPeriods_cons_ok h
    have hq := q.bounds_le
    have hqb := hb q (List.mem_cons_self _ _)
    obtain ⟨hsorted, hbounds⟩ :=
      AccumulationPeriod.getSamples_clipped_sorted huv (hps q (List.mem_cons_self _ _)) hss
    obtain ⟨hsorted₁, hbounds₁, hy⟩ := ih (List.pairwise_cons.1 hord).2
      (fun q' hq' => hps q' (List.mem_cons_of_mem _ hq')) (List.pairwise_cons.1 hord).1 hrec
    -- the samples after a period's first lie strictly after its start
    have htail : ∀ s ∈ ss.tail.map (addPeriodOffset o),
        max u q.fromTimestamp < s.timestamp ∧ s.timestamp ≤ min v q.toTimestamp := by
      cases ss with
      | nil => simp
      | cons s₀ tl =>
        intro s hs
        obtain ⟨x, hx, rfl⟩ := List.mem_map.1 hs
        have := hbounds s₀ (List.mem_cons_self _ _)
        have := List.rel_of_pairwise_cons hsorted hx
        have := hbounds x (List.mem_cons_of_mem _ hx)
        simp only [addPeriodOffset_timestamp]
        omega
    refine ⟨List.pairwise_append.2 ⟨List.pairwise_map.2 hsorted.tail, hsorted₁, ?_⟩, ?_, ?_⟩
    · intro s hs s' hs'
      have := htail s hs
      have := hbounds₁ s' hs'
      omega
    · intro s hs
      rcases List.mem_append.1 hs with hs | hs
      · have := htail s hs
        omega
      · have := hbounds₁ s hs
        omega
    · rw [hy]
      simp only [List.map_append, List.map_map, List.getLast?_append, List.getLast?_map, Option.map_orElse]
      cases rest₁.getLast? <;> cases ss.tail.getLast? <;> rfl

/-- In a list increasing in time, no sample comes after the last. -/
theorem timestamp_le_of_getLast? {l : List Sample} (hl : l.Pairwise (·.timestamp < ·.timestamp))
    {s : Sample} (hs : s ∈ l) {t : Int} (ht : (l.map (·.timestamp)).getLast? = some t) :
    s.timestamp ≤ t := by
  rw [List.getLast?_map] at ht
  obtain ⟨z, hz, rfl⟩ := Option.map_eq_some'.1 ht
  exact key_le_of_getLast? hl hs hz

/-- A run over periods: the zero at `from` when the first period starts later, the first
period's samples, the remaining periods' samples, and then the sample held up to `to`, or the
two zeros when nothing was yielded. -/
theorem getSamples_cons_eq {p : AccumulationPeriod} {ps : List AccumulationPeriod}
    {ss : List Sample} (h : getSamples u v (p :: ps) = .ok ss) :
    ∃ ss₁ rest y, p.getSamples (max u p.fromTimestamp) (min v p.toTimestamp) = .ok ss₁ ∧
      getSamplesOfRemainingPeriods u v ((ss₁.getLast?.map (·.physicalQuantity)).getD 0)
        (ss₁.getLast? <|> (if p.fromTimestamp > u then [zeroSample u] else []).getLast?) ps =
          .ok (rest, y) ∧
      ss = (if p.fromTimestamp > u then [zeroSample u] else []) ++ ss₁ ++ rest ++
        match y with
        | some last => if last.timestamp ≠ v then
            [{ last with timestamp := v, cachable := false, extrapolated := true }] else []
        | none => [zeroSample u, zeroSample v] := by
  simp only [getSamples, bind_eq_ok] at h
  obtain ⟨ss₁, hss₁, ⟨rest, y⟩, hrest, ⟨yielded, y'⟩, h₁, h₂⟩ := h
  simp only [pure_eq_ok, Except.ok.injEq, Prod.mk.injEq] at h₁
  obtain ⟨rfl, rfl⟩ := h₁
  refine ⟨ss₁, rest, y, hss₁, hrest, ?_⟩
  cases y <;> simpa [eq_comm] using h₂

/-- What a run yields before the sample held up to `to`: the zero at `from` when the first period
starts later, then the periods' samples, within `[from, to]` and in strictly increasing time; the
last sample yielded is the last of them. -/
theorem getSamples_yielded_sorted (huv : u ≤ v) {p : AccumulationPeriod} {ps : List AccumulationPeriod}
    (hord : (p :: ps).Pairwise (·.toTimestamp ≤ ·.fromTimestamp))
    (hps : ∀ q ∈ p :: ps, q.fromTimestamp ≤ v ∧ u ≤ q.toTimestamp) {o : ℚ} {y : Option Sample}
    {ss₁ rest : List Sample}
    (hss₁ : p.getSamples (max u p.fromTimestamp) (min v p.toTimestamp) = .ok ss₁)
    (hrest : getSamplesOfRemainingPeriods u v o
      (ss₁.getLast? <|> (if p.fromTimestamp > u then [zeroSample u] else []).getLast?) ps =
        .ok (rest, y)) :
    ((if p.fromTimestamp > u then [zeroSample u] else []) ++ ss₁ ++ rest).Pairwise
        (·.timestamp < ·.timestamp) ∧
      (∀ s ∈ (if p.fromTimestamp > u then [zeroSample u] else []) ++ ss₁ ++ rest,
        u ≤ s.timestamp ∧ s.timestamp ≤ v) ∧
      y.map (·.timestamp) =
        (((if p.fromTimestamp > u then [zeroSample u] else []) ++ ss₁ ++ rest).map
          (·.timestamp)).getLast? := by
  have := p.bounds_le
  obtain ⟨hsorted₁, hbounds₁⟩ :=
    AccumulationPeriod.getSamples_clipped_sorted huv (hps p (List.mem_cons_self _ _)) hss₁
  obtain ⟨hsorted₂, hbounds₂, hy⟩ := getSamplesOfRemainingPeriods_sorted huv
    (List.pairwise_cons.1 hord).2 (fun q hq => hps q (List.mem_cons_of_mem _ hq))
    (List.pairwise_cons.1 hord).1 hrest
  generalize hlead : (if p.fromTimestamp > u then [zeroSample u] else []) = lead at hy ⊢
  have hlead' : ∀ s ∈ lead, s.timestamp = u ∧ u < p.fromTimestamp := by
    subst hlead
    split_ifs with hgt
    · simp [zeroSample, DataSeries.createPointSample, hgt]
    · simp
  -- the zero, then the first period's part, then what comes after the first period's end
  have hbounds : ∀ s ∈ lead ++ ss₁, u ≤ s.timestamp ∧ s.timestamp ≤ min v p.toTimestamp := by
    intro s hs
    rcases List.mem_append.1 hs with hs | hs
    · have := hlead' s hs
      omega
    · have := hbounds₁ s hs
      omega
  refine ⟨List.pairwise_append.2 ⟨List.pairwise_append.2 ⟨?_, hsorted₁, ?_⟩, hsorted₂, ?_⟩, ?_, ?_⟩
  · subst hlead
    split_ifs <;> simp
  · intro a ha b hb
    have := hlead' a ha
    have := hbounds₁ b hb
    omega
  · intro a ha b hb
    have := hbounds a ha
    have := hbounds₂ b hb
    omega
  · intro s hs
    rcases List.mem_append.1 hs with hs | hs
    · have := hbounds s hs
      omega
    · have := hbounds₂ s hs
      omega
  · rw [hy]
    simp only [List.map_append, List.getLast?_append, List.getLast?_map, Option.map_orElse]
    cases rest.getLast? <;> cases ss₁.getLast? <;> cases lead.getLast? <;> rfl

/-- The sample held up to `to` after a run that ends before `to` keeps it within `[from, to]` and
in strictly increasing time, and ends it at `to`. -/
theorem append_held_sorted (huv : u ≤ v) {l : List Sample}
    (hsorted : l.Pairwise (·.timestamp < ·.timestamp))
    (hbounds : ∀ s ∈ l, u ≤ s.timestamp ∧ s.timestamp ≤ v) {last : Sample}
    (hlast : (l.map (·.timestamp)).getLast? = some last.timestamp) (hv : last.timestamp ≠ v) :
    let held : Sample := { last with timestamp := v, cachable := false, extrapolated := true }
    (∀ s ∈ l ++ [held], u ≤ s.timestamp ∧ s.timestamp ≤ v) ∧
      (l ++ [held]).Pairwise (·.timestamp < ·.timestamp) ∧
      (l ++ [held]).getLast?.map (·.timestamp) = some v := by
  have hlv : last.timestamp ≤ v := by
    obtain ⟨s, hs, hst⟩ := List.mem_map.1 (List.mem_of_getLast?_eq_some hlast)
    exact hst ▸ (hbounds s hs).2
  -- every sample yielded comes before the one held up to `to`
  have hlt : ∀ s ∈ l, s.timestamp < v := fun s hs =>
    lt_of_le_of_lt (timestamp_le_of_getLast? hsorted hs hlast) (lt_of_le_of_ne hlv hv)
  refine ⟨fun s hs => ?_, List.pairwise_append.2 ⟨hsorted, List.pairwise_singleton _ _,
    fun a ha b hb => ?_⟩, by simp⟩
  · rcases List.mem_append.1 hs with hs | hs
    · exact hbounds s hs
    · rw [List.mem_singleton.1 hs]
      exact ⟨huv, le_rfl⟩
  · rw [List.mem_singleton.1 hb]
    exact hlt a ha

/-- Over periods in time order that meet the query, a run lies within `[from, to]`, comes in
strictly increasing time and ends at `to`; it repeats a time only as its two zeros when
`from = to` and no period yields a sample. -/
theorem getSamples_sorted_ends_at_to (huv : u ≤ v) {ps : List AccumulationPeriod}
    (hord : ps.Chain' (·.toTimestamp ≤ ·.fromTimestamp))
    (hps : ∀ p ∈ ps, p.fromTimestamp ≤ v ∧ u ≤ p.toTimestamp) {ss : List Sample}
    (h : getSamples u v ps = .ok ss) :
    (∀ s ∈ ss, u ≤ s.timestamp ∧ s.timestamp ≤ v) ∧
      (ss.Pairwise (·.timestamp < ·.timestamp) ∨ u = v ∧ ss = [zeroSample u, zeroSample v]) ∧
      ss.getLast?.map (·.timestamp) = some v := by
  have hzeros : (∀ s ∈ [zeroSample u, zeroSample v], u ≤ s.timestamp ∧ s.timestamp ≤ v) ∧
      ([zeroSample u, zeroSample v].Pairwise (·.timestamp < ·.timestamp) ∨
        u = v ∧ [zeroSample u, zeroSample v] = [zeroSample u, zeroSample v]) ∧
      [zeroSample u, zeroSample v].getLast?.map (·.timestamp) = some v := by
    refine ⟨by simp [zeroSample, DataSeries.createPointSample, huv], ?_, rfl⟩
    rcases huv.lt_or_eq with huv | huv
    · exact .inl (by simp [zeroSample, DataSeries.createPointSample, huv])
    · exact .inr ⟨huv, rfl⟩
  cases ps with
  | nil =>
    cases h
    exact hzeros
  | cons p ps =>
    obtain ⟨ss₁, rest, y, hss₁, hrest, rfl⟩ := getSamples_cons_eq h
    obtain ⟨hsorted, hbounds, hlast⟩ := getSamples_yielded_sorted huv
      ((@List.chain'_iff_pairwise _ _ ⟨fun a b _ hab hbc => hab.trans (b.bounds_le.trans hbc)⟩ _).1
        hord) hps hss₁ hrest
    cases y with
    | none =>
      rw [List.map_eq_nil_iff.1 (List.getLast?_eq_none_iff.1 hlast.symm), List.nil_append]
      exact hzeros
    | some last =>
      dsimp only
      by_cases hv : last.timestamp ≠ v
      · rw [if_pos hv]
        obtain ⟨h₁, h₂, h₃⟩ := append_held_sorted huv hsorted hbounds hlast.symm hv
        exact ⟨h₁, .inl h₂, h₃⟩
      · rw [if_neg hv, List.append_nil]
        exact ⟨hbounds, .inl hsorted, by rw [← List.getLast?_map, ← hlast]; exact congrArg some (not_not.1 hv)⟩

/-- The second and third meter's periods over `[10, 30]`. -/
theorem secondMeter_thirdMeter_getSamples : getSamples 10 30 [secondMeter, thirdMeter] =
    .ok [⟨10, 0, true, false⟩, ⟨20, 10, true, false⟩, ⟨25, 15, true, false⟩, ⟨30, 20, true, false⟩] := by
  have h2 : secondMeter.fromTimestamp = 10 ∧ secondMeter.toTimestamp = 20 := ⟨rfl, rfl⟩
  have h3 : thirdMeter.fromTimestamp = 20 ∧ thirdMeter.toTimestamp = 30 := ⟨rfl, rfl⟩
  simp [getSamples, getSamplesOfRemainingPeriods, h2, h3, secondMeter_getSamples,
    thirdMeter_getSamples, addPeriodOffset]
  norm_num

theorem secondMeter_thirdMeter_sorted :
    let ss : List Sample :=
      [⟨10, 0, true, false⟩, ⟨20, 10, true, false⟩, ⟨25, 15, true, false⟩, ⟨30, 20, true, false⟩]
    (10 : Int) ≤ 30 ∧ [secondMeter, thirdMeter].Chain' (·.toTimestamp ≤ ·.fromTimestamp) ∧
    (∀ p ∈ [secondMeter, thirdMeter], p.fromTimestamp ≤ 30 ∧ 10 ≤ p.toTimestamp) ∧
    getSamples 10 30 [secondMeter, thirdMeter] = .ok ss ∧
    (∀ s ∈ ss, 10 ≤ s.timestamp ∧ s.timestamp ≤ 30) ∧
      (ss.Pairwise (·.timestamp < ·.timestamp) ∨ (10 : Int) = 30 ∧ ss = [zeroSample 10, zeroSample 30]) ∧
      ss.getLast?.map (·.timestamp) = some 30 :=
  have hord : [secondMeter, thirdMeter].Chain' (·.toTimestamp ≤ ·.fromTimestamp) :=
    List.chain'_pair.2 (by decide)
  have hps : ∀ p ∈ [secondMeter, thirdMeter], p.fromTimestamp ≤ 30 ∧ 10 ≤ p.toTimestamp := by decide
  ⟨by decide, hord, hps, secondMeter_thirdMeter_getSamples,
    getSamples_sorted_ends_at_to (by decide) hord hps secondMeter_thirdMeter_getSamples⟩

/-- A period meeting the query yields its part of it once, if supported, it holds a reading or
has none after its end. -/
theorem getSamples_clipped_ok (huv : u ≤ v) {p : AccumulationPeriod}
    (hp : p.fromTimestamp ≤ v ∧ u ≤ p.toTimestamp)
    (hread : p.kind ≠ .unsupported →
      (∃ r ∈ p.datasource.rawdata, p.fromTimestamp ≤ r.timestamp ∧ r.timestamp ≤ p.toTimestamp) ∨
        ∀ r ∈ p.datasource.rawdata, r.timestamp ≤ p.toTimestamp) :
    ∃ ss, p.getSamples (max u p.fromTimestamp) (min v p.toTimestamp) = .ok ss := by
  by_cases hk : p.kind = .unsupported
  · exact ⟨[], by simp [AccumulationPeriod.getSamples, hk]⟩
  have := p.bounds_le
  exact ⟨_, AccumulationPeriod.getSamples_of_offset_eq_meterValue
    (AccumulationPeriod.offset_eq_meterValue p (hread hk)) hk (le_max_right _ _) (by omega)
    (min_le_right _ _)⟩

/-- The loop over the remaining periods succeeds when each of them yields its part of the
query. -/
theorem getSamplesOfRemainingPeriods_ok {ps : List AccumulationPeriod}
    (hps : ∀ p ∈ ps, ∃ ss, p.getSamples (max u p.fromTimestamp) (min v p.toTimestamp) = .ok ss)
    (o : ℚ) (last : Option Sample) : ∃ r, getSamplesOfRemainingPeriods u v o last ps = .ok r := by
  induction ps generalizing o last with
  | nil => exact ⟨_, rfl⟩
  | cons q qs ih =>
    obtain ⟨ss, hss⟩ := hps q (List.mem_cons_self _ _)
    obtain ⟨⟨rest, y⟩, hr⟩ := ih (fun q' hq' => hps q' (List.mem_cons_of_mem _ hq'))
      ((ss.getLast?.map (·.physicalQuantity)).getD 0) (ss.tail.getLast? <|> last)
    exact ⟨_, by simp only [getSamplesOfRemainingPeriods, hss, hr, ok_bind]; rfl⟩

/-- When every supported period holds a reading or has none after its end, a run over periods
meeting the query trips no assertion. -/
theorem getSamples_never_fails (huv : u ≤ v) {ps : List AccumulationPeriod}
    (hps : ∀ p ∈ ps, p.fromTimestamp ≤ v ∧ u ≤ p.toTimestamp)
    (hread : ∀ p ∈ ps, p.kind ≠ .unsupported →
      (∃ r ∈ p.datasource.rawdata, p.fromTimestamp ≤ r.timestamp ∧ r.timestamp ≤ p.toTimestamp) ∨
        ∀ r ∈ p.datasource.rawdata, r.timestamp ≤ p.toTimestamp) :
    ∃ ss, getSamples u v ps = .ok ss := by
  have hclipped := fun p hp => getSamples_clipped_ok huv (hps p hp) (hread p hp)
  cases ps with
  | nil => exact ⟨_, rfl⟩
  | cons p ps =>
    obtain ⟨ss₁, hss₁⟩ := hclipped p (List.mem_cons_self _ _)
    obtain ⟨⟨rest, y⟩, hr⟩ := getSamplesOfRemainingPeriods_ok
      (fun q hq => hclipped q (List.mem_cons_of_mem _ hq)) ((ss₁.getLast?.map (·.physicalQuantity)).getD 0)
      (ss₁.getLast? <|> (if p.fromTimestamp > u then [zeroSample u] else []).getLast?)
    simp only [getSamples, hss₁, hr, ok_bind]
    cases y <;> exact ⟨_, rfl⟩

theorem swappedMeters_never_fail :
    (0 : Int) ≤ 30 ∧
    (∀ p ∈ [firstMeter, secondMeter, thirdMeter], p.fromTimestamp ≤ 30 ∧ 0 ≤ p.toTimestamp) ∧
    (∀ p ∈ [firstMeter, secondMeter, thirdMeter], p.kind ≠ .unsupported →
      (∃ r ∈ p.datasource.rawdata, p.fromTimestamp ≤ r.timestamp ∧ r.timestamp ≤ p.toTimestamp) ∨
        ∀ r ∈ p.datasource.rawdata, r.timestamp ≤ p.toTimestamp) ∧
    ∃ ss, getSamples 0 30 [firstMeter, secondMeter, thirdMeter] = .ok ss :=
  have hps : ∀ p ∈ [firstMeter, secondMeter, thirdMeter],
      p.fromTimestamp ≤ 30 ∧ 0 ≤ p.toTimestamp := by decide
  have hread : ∀ p ∈ [firstMeter, secondMeter, thirdMeter], p.kind ≠ .unsupported →
      (∃ r ∈ p.datasource.rawdata, p.fromTimestamp ≤ r.timestamp ∧ r.timestamp ≤ p.toTimestamp) ∨
        ∀ r ∈ p.datasource.rawdata, r.timestamp ≤ p.toTimestamp := by decide
  ⟨by decide, hps, hread, getSamples_never_fails (by decide) hps hread⟩

/-! ### Usage within one period -/

/-- The converted curve samples report as usage the meter curve's advance, scaled as the period
converts. -/
theorem development_convertedMeterSamples (p : AccumulationPeriod) (o : ℚ) (u v : Int) :
    development (p.convertedMeterSamples o u v) = (match p.kind with
      | .pulseAccumulation pq oq => AccumulationPeriod.conversionFactor pq oq
      | _ => 1) * (p.datasource.meterValue v - p.datasource.meterValue u) := by
  have hhead : (p.datasource.windowTimes u v).head? = some u := by
    rw [List.head?_eq_head (Datasource.windowTimes_ne_nil u v), Datasource.head_windowTimes]
  have hlast : (p.datasource.windowTimes u v).getLast? = some v := by
    rw [List.getLast?_eq_getLast _ (Datasource.windowTimes_ne_nil u v), Datasource.getLast_windowTimes]
  have hcurve : p.datasource.rawdata = [] → ∀ t, p.datasource.meterValue t = 0 := fun h t => by
    simp [Datasource.meterValue, Datasource.lastUpTo, Datasource.firstAfter, h, segmentValue]
  rcases hk : p.kind with _ | ⟨pq, oq⟩ | _ <;>
    simp only [AccumulationPeriod.convertedMeterSamples, Datasource.meterSamples, hk] <;>
    split_ifs with hnil <;>
    simp [development, List.head?_map, List.getLast?_map, hhead, hlast, hcurve, hnil,
      Datasource.meterSample, createPointSample, AccumulationPeriod.conversionFactor, mul_sub]

/-- Within one period a run reports as usage the meter curve's advance over the query, scaled as
the period converts. -/
theorem development_single_period (p : AccumulationPeriod) :
    ∃ k : ℚ, ∀ {u v : Int} {ss : List Sample}, p.fromTimestamp ≤ u → u ≤ v → v ≤ p.toTimestamp →
      getSamples u v [p] = .ok ss →
        development ss = k * (p.datasource.meterValue v - p.datasource.meterValue u) := by
  refine ⟨match p.kind with
    | .pulseAccumulation pq oq => AccumulationPeriod.conversionFactor pq oq
    | .nonpulseAccumulation => 1
    | .unsupported => 0, fun {u v ss} hu huv hv h => ?_⟩
  obtain ⟨ss₁, rest, y, hss₁, hrest, rfl⟩ := getSamples_cons_eq h
  rw [max_eq_left hu, min_eq_left hv] at hss₁
  simp only [getSamplesOfRemainingPeriods, pure_eq_ok, Except.ok.injEq, Prod.mk.injEq] at hrest
  obtain ⟨rfl, rfl⟩ := hrest
  rw [if_neg (not_lt.2 hu), List.nil_append, List.append_nil]
  have hzeros : development [zeroSample u, zeroSample v] = 0 := by
    simp [development, zeroSample, DataSeries.createPointSample]
  by_cases hk : p.kind = .unsupported
  · simp only [AccumulationPeriod.getSamples, hk, pure_eq_ok, Except.ok.injEq] at hss₁
    subst hss₁
    simp [hk, hzeros]
  obtain ⟨o, ho⟩ := AccumulationPeriod.offset_ok p
  obtain rfl := AccumulationPeriod.getSamples_ok_eq ho hu huv hv hk hss₁
  have htimes := AccumulationPeriod.convertedMeterSamples_timestamps p o u v
  split_ifs at htimes with hnil
  · rw [List.map_eq_nil_iff.1 htimes]
    simp [hzeros, Datasource.meterValue, Datasource.lastUpTo, Datasource.firstAfter, hnil,
      segmentValue]
  · have hlast : ((p.convertedMeterSamples o u v).getLast?).map (·.timestamp) = some v := by
      rw [← List.getLast?_map, htimes, List.getLast?_eq_getLast _ (Datasource.windowTimes_ne_nil u v),
        Datasource.getLast_windowTimes]
    obtain ⟨last, hl, hlv⟩ := Option.map_eq_some'.1 hlast
    simp only [hl, List.getLast?_nil, Option.orElse_none, hlv, ne_eq, not_true_eq_false, if_false,
      List.append_nil]
    rw [development_convertedMeterSamples]
    cases hkind : p.kind <;> simp_all

/-- Within one period the usage a run reports is additive over splits of the query, as it is
not at a join of periods. -/
theorem development_additive_within_period {p : AccumulationPeriod} {a b c : Int}
    (ha : p.fromTimestamp ≤ a) (hab : a ≤ b) (hbc : b ≤ c) (hc : c ≤ p.toTimestamp)
    {s₁ s₂ s₃ : List Sample} (h₁ : getSamples a c [p] = .ok s₁) (h₂ : getSamples a b [p] = .ok s₂)
    (h₃ : getSamples b c [p] = .ok s₃) :
    development s₁ = development s₂ + development s₃ := by
  obtain ⟨k, hk⟩ := development_single_period p
  rw [hk ha (hab.trans hbc) hc h₁, hk ha hab (hbc.trans hc) h₂, hk (ha.trans hab) hbc hc h₃]
  ring

theorem thirdMeter_halves :
    thirdMeter.getSamples 20 25 = .ok [⟨20, 0, true, false⟩, ⟨25, 5, true, false⟩] ∧
      thirdMeter.getSamples 25 30 = .ok [⟨25, 5, true, false⟩, ⟨30, 10, true, false⟩] :=
  ⟨(AccumulationPeriod.getSamples_of_readings rfl (by decide) ⟨20, 0⟩ ⟨25, 5⟩ (by decide)
      (by decide) (by decide) (by decide) (by decide)).trans rfl,
    (AccumulationPeriod.getSamples_of_readings rfl (by decide) ⟨25, 5⟩ ⟨30, 10⟩ (by decide)
      (by decide) (by decide) (by decide) (by decide)).trans rfl⟩

/-- The third meter's period split at 25 s. -/
theorem thirdMeter_development_additive :
    thirdMeter.fromTimestamp ≤ 20 ∧ (20 : Int) ≤ 25 ∧ (25 : Int) ≤ 30 ∧ 30 ≤ thirdMeter.toTimestamp ∧
    getSamples 20 30 [thirdMeter] =
      .ok [⟨20, 0, true, false⟩, ⟨25, 5, true, false⟩, ⟨30, 10, true, false⟩] ∧
    getSamples 20 25 [thirdMeter] = .ok [⟨20, 0, true, false⟩, ⟨25, 5, true, false⟩] ∧
    getSamples 25 30 [thirdMeter] = .ok [⟨25, 5, true, false⟩, ⟨30, 10, true, false⟩] ∧
    development [⟨20, 0, true, false⟩, ⟨25, 5, true, false⟩, ⟨30, 10, true, false⟩] =
      development [⟨20, 0, true, false⟩, ⟨25, 5, true, false⟩] +
        development [⟨25, 5, true, false⟩, ⟨30, 10, true, false⟩] := by
  have h3 : thirdMeter.fromTimestamp = 20 ∧ thirdMeter.toTimestamp = 30 := ⟨rfl, rfl⟩
  have h₁ : getSamples 20 30 [thirdMeter] =
      .ok [⟨20, 0, true, false⟩, ⟨25, 5, true, false⟩, ⟨30, 10, true, false⟩] := by
    simp [getSamples, getSamplesOfRemainingPeriods, h3, thirdMeter_getSamples]
  have h₂ : getSamples 20 25 [thirdMeter] = .ok [⟨20, 0, true, false⟩, ⟨25, 5, true, false⟩] := by
    simp [getSamples, getSamplesOfRemainingPeriods, h3, thirdMeter_halves.1]
  have h₃ : getSamples 25 30 [thirdMeter] = .ok [⟨25, 5, true, false⟩, ⟨30, 10, true, false⟩] := by
    simp [getSamples, getSamplesOfRemainingPeriods, h3, thirdMeter_halves.2]
  exact ⟨by decide, by decide, by decide, by decide, h₁, h₂, h₃,
    development_additive_within_period (by decide) (by decide) (by decide) (by decide) h₁ h₂ h₃⟩

end AccumulationAdapter

end GridPlatform
