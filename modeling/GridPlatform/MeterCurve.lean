import GridPlatform.RawData

/-!
The meter curve `R` of a datasource, the reference the period adapters are compared with:
linear between consecutive readings, held at the first reading before it and at the last
reading after it. `windowTimes` lists `{from, to}` with the readings strictly between.
-/
namespace GridPlatform

/-- Two increasing lists of times with the same elements are equal. -/
theorem eq_of_sorted_of_mem_iff {l₁ l₂ : List Int} (h₁ : l₁.Sorted (· < ·))
    (h₂ : l₂.Sorted (· < ·)) (h : ∀ t, t ∈ l₁ ↔ t ∈ l₂) : l₁ = l₂ :=
  List.eq_of_perm_of_sorted ((List.perm_ext_iff_of_nodup h₁.nodup h₂.nodup).2 h) h₁ h₂

/-- The straight line through two readings, at `t`. -/
def lineThrough (a b : RawData) (t : Int) : ℚ :=
  a.value + (b.value - a.value) *
    ((t - a.timestamp : Int) / (b.timestamp - a.timestamp : Int) : ℚ)

theorem interpolate_of_le_of_lt {a b : RawData} {t : Int} (ha : a.timestamp ≤ t)
    (hb : t < b.timestamp) : interpolate t a b = .ok (lineThrough a b t) := by
  simp [interpolate, lineThrough, ha, hb]

theorem lineThrough_self (a b : RawData) : lineThrough a b a.timestamp = a.value := by
  simp [lineThrough]

/-- The curve between the last reading up to `t` and the first reading after it. -/
def segmentValue : Option RawData → Option RawData → Int → ℚ
  | some a, some b, t => lineThrough a b t
  | some a, none, _ => a.value
  | none, some b, _ => b.value
  | none, none, _ => 0

namespace Datasource

variable (ds : Datasource)

def lastUpTo (t : Int) : Option RawData := (ds.rawdata.filter (·.timestamp ≤ t)).getLast?

def firstAfter (t : Int) : Option RawData := (ds.rawdata.filter (t < ·.timestamp)).head?

/-- The meter curve `R`. -/
def meterValue (t : Int) : ℚ := segmentValue (ds.lastUpTo t) (ds.firstAfter t) t

/-- Some reading lies at or before `t` and some at or after it. -/
def bracketed (t : Int) : Bool :=
  ds.rawdata.any (·.timestamp ≤ t) && ds.rawdata.any (t ≤ ·.timestamp)

/-- `{from, to}` together with the timestamps of the readings between them, increasing. -/
def windowTimes (fromTimestamp toTimestamp : Int) : List Int :=
  if fromTimestamp = toTimestamp then [fromTimestamp]
  else fromTimestamp :: (ds.rawdata.filter fun r =>
    fromTimestamp < r.timestamp ∧ r.timestamp < toTimestamp).map (·.timestamp) ++ [toTimestamp]

variable {ds}

theorem meterValue_of_mem {r : RawData} (hr : r ∈ ds.rawdata) : ds.meterValue r.timestamp = r.value := by
  simp only [meterValue, lastUpTo, getLast?_filter_le_of_mem ds.sorted hr]
  cases ds.firstAfter r.timestamp <;> simp [segmentValue, lineThrough_self]

theorem bracketed_of_mem {r : RawData} (hr : r ∈ ds.rawdata) : ds.bracketed r.timestamp = true := by
  simp only [bracketed, Bool.and_eq_true, List.any_eq_true, decide_eq_true_eq]
  exact ⟨⟨r, hr, le_rfl⟩, ⟨r, hr, le_rfl⟩⟩

/-- Away from the readings, `bracketed` asks for a reading on each side. -/
theorem bracketed_of_forall_ne {t : Int} (ht : ∀ r ∈ ds.rawdata, r.timestamp ≠ t) :
    ds.bracketed t = ((ds.lastUpTo t).isSome && (ds.firstAfter t).isSome) := by
  have hne : ∀ r ∈ ds.rawdata, t ≤ r.timestamp ↔ t < r.timestamp :=
    fun r hr => ⟨fun h => lt_of_le_of_ne h (ht r hr).symm, le_of_lt⟩
  rw [Bool.eq_iff_iff]
  simp only [bracketed, lastUpTo, firstAfter, Bool.and_eq_true, List.any_eq_true,
    decide_eq_true_eq, List.getLast?_isSome, List.head?_isSome, ne_eq, List.filter_eq_nil_iff,
    not_forall, not_not, exists_prop]
  exact and_congr Iff.rfl ⟨fun ⟨r, hr, h⟩ => ⟨r, hr, (hne r hr).1 h⟩,
    fun ⟨r, hr, h⟩ => ⟨r, hr, (hne r hr).2 h⟩⟩

theorem mem_rawdataInRange {u v : Int} {r : RawData} :
    r ∈ ds.rawdataInRange u v ↔ r ∈ ds.rawdata ∧ u ≤ r.timestamp ∧ r.timestamp ≤ v := by
  simp [rawdataInRange]

theorem rawdataInRange_sorted (u v : Int) :
    (ds.rawdataInRange u v).Sorted (·.timestamp < ·.timestamp) :=
  ds.sorted.filter _

/-! ### The curve at the points where an adapter makes up a sample -/

section Window

variable {u v t : Int}

/-- Inside a window holding no reading, the curve runs between the readings on either side. -/
theorem lastUpTo_firstAfter_of_gap (h : ds.rawdataInRange u v = []) (hu : u ≤ t) (hv : t ≤ v) :
    ds.lastUpTo t = ds.getLeadingRawData u ∧ ds.firstAfter t = ds.getFollowingRawData v ∧
      ∀ r ∈ ds.rawdata, r.timestamp ≠ t := by
  have hout : ∀ r ∈ ds.rawdata, ¬(u ≤ r.timestamp ∧ r.timestamp ≤ v) := fun r hr hin =>
    by simpa [h] using mem_rawdataInRange.2 ⟨hr, hin⟩
  refine ⟨congrArg List.getLast? (List.filter_congr fun r hr => ?_),
    congrArg List.head? (List.filter_congr fun r hr => ?_), fun r hr ht => hout r hr (by omega)⟩ <;>
  · have := hout r hr
    simp only [decide_eq_decide]
    omega

/-- The first reading of a window that does not start on a reading comes right after its
start. -/
theorem lastUpTo_firstAfter_of_head {first : RawData} {rest : List RawData}
    (h : ds.rawdataInRange u v = first :: rest) (hne : first.timestamp ≠ u) :
    ds.lastUpTo u = ds.getLeadingRawData u ∧ ds.firstAfter u = some first ∧
      ∀ r ∈ ds.rawdata, r.timestamp ≠ u := by
  have hfirst := mem_rawdataInRange.1 (h ▸ List.mem_cons_self first rest)
  have hsorted := List.sorted_cons.1 (h ▸ rawdataInRange_sorted u v)
  have hnot : ∀ r ∈ ds.rawdata, r.timestamp ≠ u := by
    intro r hr hru
    have hmem : r ∈ first :: rest := h ▸ mem_rawdataInRange.2 ⟨hr, by omega, by omega⟩
    rcases List.mem_cons.1 hmem with rfl | hrest
    · exact hne hru
    · have := hsorted.1 r hrest; omega
  refine ⟨congrArg List.getLast? (List.filter_congr fun r hr => ?_), ?_, hnot⟩
  · have := hnot r hr
    simp only [decide_eq_decide]
    omega
  · have hwin : (ds.rawdata.filter (·.timestamp ≤ v)).filter (u < ·.timestamp) =
        ds.rawdataInRange u v := by
      rw [List.filter_filter]
      exact List.filter_congr fun r hr => by
        have := hnot r hr
        rw [Bool.eq_iff_iff]
        simp only [Bool.and_eq_true, decide_eq_true_eq]
        omega
    rw [firstAfter, ← filter_le_append_filter_gt ds.sorted v, List.filter_append, hwin, h]
    rfl

/-- The last reading of a nonempty window that does not end on a reading comes right
before its end. -/
theorem lastUpTo_firstAfter_of_getLast {w : List RawData} (h : ds.rawdataInRange u v = w)
    (hw : w ≠ []) (hne : (w.getLast hw).timestamp ≠ v) :
    ds.lastUpTo v = some (w.getLast hw) ∧ ds.firstAfter v = ds.getFollowingRawData v ∧
      ∀ r ∈ ds.rawdata, r.timestamp ≠ v := by
  have hsorted : (w.dropLast ++ [w.getLast hw]).Sorted (·.timestamp < ·.timestamp) := by
    rw [List.dropLast_append_getLast]; exact h ▸ rawdataInRange_sorted u v
  have hlt := fun r hr => (List.pairwise_append.1 hsorted).2.2 r hr _ (List.mem_singleton_self _)
  have hnot : ∀ r ∈ ds.rawdata, r.timestamp ≠ v := by
    intro r hr hrv
    have hlast := mem_rawdataInRange.1 (by rw [h]; exact List.getLast_mem hw)
    have hmem : r ∈ w.dropLast ++ [w.getLast hw] := by
      rw [List.dropLast_append_getLast, ← h]; exact mem_rawdataInRange.2 ⟨hr, by omega, by omega⟩
    rcases List.mem_append.1 hmem with hd | hl
    · have := hlt r hd; omega
    · exact hne (List.mem_singleton.1 hl ▸ hrv)
  refine ⟨?_, rfl, hnot⟩
  have hwin : (ds.rawdata.filter (u ≤ ·.timestamp)).filter (·.timestamp ≤ v) = w := by
    rw [List.filter_filter, ← h]
    exact List.filter_congr fun r _ => by
      rw [Bool.eq_iff_iff]
      simp only [Bool.and_eq_true, decide_eq_true_eq]
      omega
  rw [lastUpTo, ← filter_lt_append_filter_ge ds.sorted u, List.filter_append, hwin,
    List.getLast?_append, List.getLast?_eq_getLast w hw]
  rfl

end Window

/-! ### The sample times of a window -/

theorem windowTimes_ne_nil (u v : Int) : ds.windowTimes u v ≠ [] := by
  unfold windowTimes; split_ifs <;> simp

theorem head_windowTimes (u v : Int) : (ds.windowTimes u v).head (windowTimes_ne_nil u v) = u := by
  unfold windowTimes; split_ifs <;> rfl

theorem getLast_windowTimes (u v : Int) :
    (ds.windowTimes u v).getLast (windowTimes_ne_nil u v) = v := by
  unfold windowTimes; split_ifs with h
  · exact h
  · simp

theorem windowTimes_sorted {u v : Int} (hle : u ≤ v) : (ds.windowTimes u v).Sorted (· < ·) := by
  unfold windowTimes
  split_ifs with huv
  · exact List.sorted_singleton _
  · refine List.sorted_cons.2 ⟨fun b hb => ?_, List.pairwise_append.2
      ⟨((ds.sorted.filter _).map _ fun _ _ h => h), List.sorted_singleton _, fun a ha b hb => ?_⟩⟩
    · rcases List.mem_append.1 hb with hb | hb
      · obtain ⟨r, hr, rfl⟩ := List.mem_map.1 hb
        simp only [List.mem_filter, decide_eq_true_eq] at hr
        exact hr.2.1
      · rw [List.mem_singleton.1 hb]; omega
    · obtain ⟨r, hr, rfl⟩ := List.mem_map.1 ha
      simp only [List.mem_filter, decide_eq_true_eq] at hr
      rw [List.mem_singleton.1 hb]; exact hr.2.2

theorem mem_windowTimes {u v t : Int} (hle : u ≤ v) : t ∈ ds.windowTimes u v ↔
    t = u ∨ t = v ∨ ∃ r ∈ ds.rawdata, u < r.timestamp ∧ r.timestamp < v ∧ r.timestamp = t := by
  unfold windowTimes
  split_ifs with huv
  · subst huv
    constructor
    · intro h; exact .inl (List.mem_singleton.1 h)
    · rintro (h | h | ⟨r, -, h₁, h₂, -⟩)
      · exact List.mem_singleton.2 h
      · exact List.mem_singleton.2 h
      · omega
  · simp only [List.mem_cons, List.mem_append, List.mem_map, List.mem_filter, List.mem_singleton,
      decide_eq_true_eq, List.not_mem_nil, or_false, and_assoc]
    constructor
    · rintro ((h | ⟨r, hr, h₁, h₂, rfl⟩) | h)
      exacts [.inl h, .inr (.inr ⟨r, hr, h₁, h₂, rfl⟩), .inr (.inl h)]
    · rintro (h | h | ⟨r, hr, h₁, h₂, rfl⟩)
      exacts [.inl (.inl h), .inr h, .inl (.inr ⟨r, hr, h₁, h₂, rfl⟩)]

theorem bounds_of_mem_windowTimes {u v t : Int} (hle : u ≤ v) (ht : t ∈ ds.windowTimes u v) :
    u ≤ t ∧ t ≤ v := by
  rcases (mem_windowTimes hle).1 ht with h | h | ⟨r, -, h₁, h₂, h⟩ <;> omega

/-- The sample times of a window holding readings: its readings, with `from` and `to` added
where no reading lies on them. -/
theorem windowTimes_of_rawdataInRange {u v : Int} {w : List RawData}
    (hw : ds.rawdataInRange u v = w) (hne : w ≠ []) (huv : u ≤ v) :
    ds.windowTimes u v = (if (w.head hne).timestamp ≠ u then [u] else []) ++
      w.map (·.timestamp) ++ (if (w.getLast hne).timestamp ≠ v then [v] else []) := by
  obtain ⟨first, rest, rfl⟩ := List.exists_cons_of_ne_nil hne
  have hmem : ∀ r ∈ first :: rest, r ∈ ds.rawdata ∧ u ≤ r.timestamp ∧ r.timestamp ≤ v :=
    fun r hr => mem_rawdataInRange.1 (hw ▸ hr)
  have hfirst := hmem first (List.mem_cons_self _ _)
  have hgtu : first.timestamp ≠ u → ∀ r ∈ first :: rest, u < r.timestamp := fun h r hr =>
    lt_of_le_of_ne (hmem r hr).2.1 ((lastUpTo_firstAfter_of_head hw h).2.2 r (hmem r hr).1).symm
  have hltv : ((first :: rest).getLast hne).timestamp ≠ v → ∀ r ∈ first :: rest, r.timestamp < v :=
    fun h r hr => lt_of_le_of_ne (hmem r hr).2.2 ((lastUpTo_firstAfter_of_getLast hw hne h).2.2 r (hmem r hr).1)
  refine (eq_of_sorted_of_mem_iff ?_ (windowTimes_sorted huv) fun t => ?_).symm
  · refine List.pairwise_append.2 ⟨List.pairwise_append.2 ⟨?_, ?_, ?_⟩, ?_, ?_⟩
    · split_ifs <;> simp
    · exact (hw ▸ rawdataInRange_sorted u v).map _ fun _ _ h => h
    · intro a ha b hb
      rw [List.mem_ite_nil_right, List.mem_singleton] at ha
      obtain ⟨h, rfl⟩ := ha
      obtain ⟨r, hr, rfl⟩ := List.mem_map.1 hb
      exact hgtu h r hr
    · split_ifs <;> simp
    · intro a ha b hb
      rw [List.mem_ite_nil_right, List.mem_singleton] at hb
      obtain ⟨h, rfl⟩ := hb
      rcases List.mem_append.1 ha with ha | ha
      · rw [List.mem_ite_nil_right, List.mem_singleton] at ha
        obtain ⟨h', rfl⟩ := ha
        exact lt_of_lt_of_le (hgtu h' first (List.mem_cons_self _ _)) hfirst.2.2
      · obtain ⟨r, hr, rfl⟩ := List.mem_map.1 ha
        exact hltv h r hr
  · rw [mem_windowTimes huv]
    have hin : ∀ r ∈ ds.rawdata, u ≤ r.timestamp → r.timestamp ≤ v → r ∈ first :: rest :=
      fun r hr h₁ h₂ => hw ▸ mem_rawdataInRange.2 ⟨hr, h₁, h₂⟩
    constructor
    · intro ht
      simp only [List.mem_append, List.mem_map] at ht
      rcases ht with (ht | ⟨r, hr, rfl⟩) | ht
      · exact .inl (List.mem_singleton.1 (List.mem_ite_nil_right.1 ht).2)
      · obtain ⟨hr', h₁, h₂⟩ := hmem r hr
        rcases h₁.lt_or_eq with h₁ | h₁ <;> rcases h₂.lt_or_eq with h₂ | h₂
        exacts [.inr (.inr ⟨r, hr', h₁, h₂, rfl⟩), .inr (.inl h₂), .inl h₁.symm, .inl h₁.symm]
      · exact .inr (.inl (List.mem_singleton.1 (List.mem_ite_nil_right.1 ht).2))
    · rintro (rfl | rfl | ⟨r, hr, h₁, h₂, rfl⟩)
      · by_cases h : first.timestamp = t <;> simp [h]
      · by_cases h : ((first :: rest).getLast hne).timestamp = t
        · exact List.mem_append_left _
            (List.mem_append_right _ (List.mem_map.2 ⟨_, List.getLast_mem hne, h⟩))
        · simp [h]
      · exact List.mem_append_left _
          (List.mem_append_right _ (List.mem_map_of_mem _ (hin r hr h₁.le h₂.le)))

end Datasource

end GridPlatform
