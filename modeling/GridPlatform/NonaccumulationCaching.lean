import GridPlatform.CachableSamples
import GridPlatform.NonaccumulationAdapter

/-!
The non-accumulation adapter against later data. It yields only samples marked cachable, and
rightly so: a sample stands where readings lie on both sides of it, so a reading that arrives
after all of a datasource's readings moves none of them, and the run after it yields every
earlier sample again, in the same order.
-/
namespace GridPlatform

namespace Datasource

variable {ds : Datasource} {r : RawData} (hr : ∀ x ∈ ds.rawdata, x.timestamp < r.timestamp)
  {u v : Int}

theorem curveSample_append {t : Int} (h : ds.bracketed t = true) :
    (ds.append r hr).curveSample t = ds.curveSample t := by
  obtain ⟨x, hx, htx⟩ := exists_ge_of_bracketed h
  rw [curveSample, curveSample, meterValue_append hr hx htx]

include hr

/-- A later reading keeps every interpolated sample of a window, in order. -/
theorem interpolatedSamples_sublist_append (huv : u ≤ v) :
    (ds.interpolatedSamples u v).Sublist ((ds.append r hr).interpolatedSamples u v) := by
  have hsub : (ds.windowTimes u v).filter ds.bracketed ⊆
      ((ds.append r hr).windowTimes u v).filter (ds.append r hr).bracketed := by
    intro t ht
    obtain ⟨ht, hb⟩ := List.mem_filter.1 ht
    obtain ⟨x, hx, htx⟩ := exists_ge_of_bracketed hb
    exact List.mem_filter.2 ⟨mem_windowTimes_append hr huv ht, (bracketed_append hr hx htx).trans hb⟩
  have hsorted := fun ds : Datasource => (ds.windowTimes_sorted huv).filter ds.bracketed
  have hsl := List.sublist_of_subperm_of_sorted
    (List.subperm_of_subset (hsorted ds).nodup hsub) (hsorted ds) (hsorted _)
  unfold interpolatedSamples
  rw [← List.map_congr_left fun t ht => curveSample_append hr (List.mem_filter.1 ht).2]
  exact hsl.map _

end Datasource

namespace Period

/-- The period once its datasource has received `r`, later than all of its readings. -/
def append (p : Period) (r : RawData)
    (hr : ∀ x ∈ p.datasource.rawdata, x.timestamp < r.timestamp) : Period :=
  { p with datasource := p.datasource.append r hr }

/-- `p'` is `p` once `r` has arrived: `p` itself, or `p` whose datasource received `r` after all
of its readings. -/
def Receives (r : RawData) (p p' : Period) : Prop :=
  p' = p ∨ ∃ hr, p' = p.append r hr

theorem Receives.toTimestamp_eq {r : RawData} {p p' : Period} (h : Receives r p p') :
    p'.toTimestamp = p.toTimestamp := by
  rcases h with rfl | ⟨_, rfl⟩ <;> rfl

theorem Receives.fromTimestamp_eq {r : RawData} {p p' : Period} (h : Receives r p p') :
    p'.fromTimestamp = p.fromTimestamp := by
  rcases h with rfl | ⟨_, rfl⟩ <;> rfl

end Period

namespace NonaccumulationAdapter

variable {u v : Int} {r : RawData}

theorem periodSamples_sublist (huv : u ≤ v) {q q' : Period} (h : q.Receives r q')
    (hq : q.fromTimestamp ≤ v ∧ u ≤ q.toTimestamp) :
    (periodSamples u v q).Sublist (periodSamples u v q') := by
  rcases h with rfl | ⟨hr, rfl⟩
  · exact List.Sublist.refl _
  have := q.bounds_le
  exact (Datasource.interpolatedSamples_sublist_append hr (by omega)).filter _

theorem meets_of_receives {qs qs' : List Period} (hrecv : List.Forall₂ (Period.Receives r) qs qs')
    (hqs : ∀ q ∈ qs, q.fromTimestamp ≤ v ∧ u ≤ q.toTimestamp) :
    ∀ q' ∈ qs', q'.fromTimestamp ≤ v ∧ u ≤ q'.toTimestamp := by
  induction hrecv with
  | nil => exact fun _ h => absurd h (List.not_mem_nil _)
  | @cons q q' qs qs' hqq' _ ih =>
    intro p hp
    rcases List.mem_cons.1 hp with rfl | hp
    · rw [hqq'.fromTimestamp_eq, hqq'.toTimestamp_eq]
      exact hqs q (List.mem_cons_self _ _)
    · exact ih (fun q hq => hqs q (List.mem_cons_of_mem _ hq)) p hp

theorem flatMap_periodSamples_sublist (huv : u ≤ v) {qs qs' : List Period}
    (hrecv : List.Forall₂ (Period.Receives r) qs qs')
    (hqs : ∀ q ∈ qs, q.fromTimestamp ≤ v ∧ u ≤ q.toTimestamp) :
    (qs.flatMap (periodSamples u v)).Sublist (qs'.flatMap (periodSamples u v)) := by
  induction hrecv with
  | nil => exact List.Sublist.refl _
  | @cons q q' qs qs' hqq' _ ih =>
    rw [List.flatMap_cons, List.flatMap_cons]
    exact (periodSamples_sublist huv hqq' (hqs q (List.mem_cons_self _ _))).append
      (ih fun q hq => hqs q (List.mem_cons_of_mem _ hq))

/-- Every sample of a non-accumulation run is marked cachable and not extrapolated, and rightly
so: after a reading arrives later than all readings of one or more datasources, the run yields
every earlier sample again, in the same order. -/
theorem getSamples_cachable_kept (huv : u ≤ v) {qs qs' : List Period}
    (hrecv : List.Forall₂ (Period.Receives r) qs qs')
    (hqs : ∀ q ∈ qs, q.fromTimestamp ≤ v ∧ u ≤ q.toTimestamp) :
    ∃ ss ss', getSamples u v qs = .ok ss ∧ getSamples u v qs' = .ok ss' ∧
      (∀ s ∈ ss, s.cachable = true ∧ s.extrapolated = false) ∧ ss.Sublist ss' := by
  refine ⟨_, _, getSamples_eq_flatMap huv hqs, getSamples_eq_flatMap huv (meets_of_receives hrecv hqs),
    fun s hs => ?_, flatMap_periodSamples_sublist huv hrecv hqs⟩
  obtain ⟨q, -, hs⟩ := List.mem_flatMap.1 hs
  obtain ⟨t, -, rfl⟩ := List.mem_map.1 (List.mem_filter.1 hs).1
  exact ⟨rfl, rfl⟩

/-- The split meter receives a reading at 25 s. -/
theorem splitMeter_reading_keeps_samples :
    let qs' := [firstSplit.append ⟨25, 4⟩ (by decide), secondSplit.append ⟨25, 4⟩ (by decide)]
    (0 : Int) ≤ 20 ∧ List.Forall₂ (Period.Receives ⟨25, 4⟩) [firstSplit, secondSplit] qs' ∧
    (∀ q ∈ [firstSplit, secondSplit], q.fromTimestamp ≤ 20 ∧ 0 ≤ q.toTimestamp) ∧
    ∃ ss ss', getSamples 0 20 [firstSplit, secondSplit] = .ok ss ∧ getSamples 0 20 qs' = .ok ss' ∧
      (∀ s ∈ ss, s.cachable = true ∧ s.extrapolated = false) ∧ ss.Sublist ss' :=
  have hrecv : List.Forall₂ (Period.Receives ⟨25, 4⟩) [firstSplit, secondSplit]
      [firstSplit.append ⟨25, 4⟩ (by decide), secondSplit.append ⟨25, 4⟩ (by decide)] :=
    .cons (.inr ⟨_, rfl⟩) (.cons (.inr ⟨_, rfl⟩) .nil)
  have hqs : ∀ q ∈ [firstSplit, secondSplit], q.fromTimestamp ≤ 20 ∧ 0 ≤ q.toTimestamp := by
    decide
  ⟨by decide, hrecv, hqs, getSamples_cachable_kept (by decide) hrecv hqs⟩

end NonaccumulationAdapter

end GridPlatform
