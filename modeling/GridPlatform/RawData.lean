import Mathlib.Algebra.Order.Field.Rat
import Mathlib.Data.List.Sort

/-!
Raw readings of a datasource and the lookups that the period adapters of
`legacy/datasequence_adapters/models.py` make on them. Timestamps are whole seconds, so the
microsecond assertions of `interpolate` (lines 39-41) always hold and are left out. A failed
`assert` is an `AssertionError` that records its source line.
-/
namespace GridPlatform

structure RawData where
  timestamp : Int
  value : ℚ
  deriving DecidableEq, Repr

/-- The readings of one datasource, ordered by their unique timestamps. -/
structure Datasource where
  rawdata : List RawData
  sorted : rawdata.Sorted (·.timestamp < ·.timestamp)

structure AssertionError where
  line : Nat
  deriving DecidableEq, Repr

@[simp] theorem ok_bind {α β : Type} (a : α) (f : α → Except AssertionError β) :
    (Except.ok a >>= f) = f a := rfl

theorem mapM_ok {α β : Type} {f : α → Except AssertionError β} {g : α → β} :
    ∀ {l : List α}, (∀ x ∈ l, f x = .ok (g x)) → l.mapM f = .ok (l.map g)
  | [], _ => rfl
  | x :: xs, h => by
    rw [List.mapM_cons, h x (List.mem_cons_self x xs),
      mapM_ok fun y hy => h y (List.mem_cons_of_mem x hy)]
    rfl

@[simp] theorem pure_eq_ok {α : Type} (a : α) : (pure a : Except AssertionError α) = .ok a := rfl

@[simp] theorem map_ok {α β : Type} (f : α → β) (a : α) :
    Except.map f (.ok a : Except AssertionError α) = .ok (f a) := rfl

theorem bind_eq_ok {α β : Type} {x : Except AssertionError α} {f : α → Except AssertionError β}
    {b : β} : x >>= f = .ok b ↔ ∃ a, x = .ok a ∧ f a = .ok b := by
  cases x <;> simp [bind, Except.bind]

@[simp] theorem error_bind {α β : Type} (e : AssertionError) (f : α → Except AssertionError β) :
    (Except.error e >>= f) = .error e := rfl

namespace Datasource

/-- `rawdata_set.filter(timestamp__lt=timestamp).order_by('timestamp').last()` -/
def getLeadingRawData (ds : Datasource) (timestamp : Int) : Option RawData :=
  (ds.rawdata.filter (·.timestamp < timestamp)).getLast?

/-- `rawdata_set.filter(timestamp__gt=timestamp).order_by('timestamp').first()` -/
def getFollowingRawData (ds : Datasource) (timestamp : Int) : Option RawData :=
  (ds.rawdata.filter (timestamp < ·.timestamp)).head?

/-- `rawdata_set.filter(timestamp__gte=from_timestamp, timestamp__lte=to_timestamp)` -/
def rawdataInRange (ds : Datasource) (fromTimestamp toTimestamp : Int) : List RawData :=
  ds.rawdata.filter fun r => fromTimestamp ≤ r.timestamp ∧ r.timestamp ≤ toTimestamp

/-- The datasource after a reading later than all of its readings arrives. -/
def append (ds : Datasource) (r : RawData) (h : ∀ x ∈ ds.rawdata, x.timestamp < r.timestamp) :
    Datasource :=
  ⟨ds.rawdata ++ [r], List.pairwise_append.2 ⟨ds.sorted, List.pairwise_singleton _ r, by simpa using h⟩⟩

end Datasource

def interpolate (timestamp : Int) (pointA pointB : RawData) : Except AssertionError ℚ :=
  if pointA.timestamp ≤ timestamp ∧ timestamp < pointB.timestamp then
    .ok (pointA.value + (pointB.value - pointA.value) *
      ((timestamp - pointA.timestamp : Int) / (pointB.timestamp - pointA.timestamp : Int) : ℚ))
  else .error ⟨38⟩

/-! ## Sorted readings -/

section Sorted

variable {l : List RawData}

/-- A predicate that holds of every reading earlier than one it holds of cuts a sorted list
into the prefix where it holds and the suffix where it does not. -/
theorem filter_append_filter_not (hl : l.Sorted (·.timestamp < ·.timestamp)) (p : RawData → Bool)
    (hp : ∀ a b, a.timestamp < b.timestamp → p b → p a) :
    l.filter p ++ l.filter (fun r => !p r) = l := by
  induction l with
  | nil => rfl
  | cons x xs ih =>
    obtain ⟨hx, hxs⟩ := List.sorted_cons.1 hl
    by_cases hpx : p x
    · simp [List.filter_cons, hpx, ih hxs]
    · have hnil : xs.filter p = [] :=
        List.filter_eq_nil_iff.2 fun y hy hpy => hpx (hp x y (hx y hy) hpy)
      have := ih hxs
      rw [hnil, List.nil_append] at this
      simp [List.filter_cons, hpx, hnil, this]

theorem filter_lt_append_filter_ge (hl : l.Sorted (·.timestamp < ·.timestamp)) (t : Int) :
    l.filter (·.timestamp < t) ++ l.filter (t ≤ ·.timestamp) = l := by
  conv_rhs => rw [← filter_append_filter_not hl (·.timestamp < t)
    (fun a b hab hb => by simp only [decide_eq_true_eq] at hb ⊢; omega)]
  congr 2; funext r; rw [← decide_not]; exact decide_eq_decide.2 not_lt.symm

theorem filter_le_append_filter_gt (hl : l.Sorted (·.timestamp < ·.timestamp)) (t : Int) :
    l.filter (·.timestamp ≤ t) ++ l.filter (t < ·.timestamp) = l := by
  conv_rhs => rw [← filter_append_filter_not hl (·.timestamp ≤ t)
    (fun a b hab hb => by simp only [decide_eq_true_eq] at hb ⊢; omega)]
  congr 2; funext r; rw [← decide_not]; exact decide_eq_decide.2 not_le.symm

/-- In a sorted list a reading is the last one up to its own timestamp. -/
theorem getLast?_filter_le_of_mem (hl : l.Sorted (·.timestamp < ·.timestamp)) {r : RawData}
    (hr : r ∈ l) : (l.filter (·.timestamp ≤ r.timestamp)).getLast? = some r := by
  obtain ⟨xs, ys, rfl⟩ := List.append_of_mem hr
  obtain ⟨-, hys, hxy⟩ := List.pairwise_append.1 hl
  have hx : ∀ x ∈ xs, x.timestamp < r.timestamp := fun x hx => hxy x hx r (by simp)
  have hy : ∀ y ∈ ys, r.timestamp < y.timestamp := (List.sorted_cons.1 hys).1
  rw [List.filter_append, List.filter_eq_self.2 (by simpa using fun x hx' => (hx x hx').le),
    List.filter_cons_of_pos (by simp), List.filter_eq_nil_iff.2 (by simpa using hy)]
  simp

end Sorted

/-- What holds of every element but the last of `a :: l` holds of `a` when `l` is not empty, and
of every element but the last of `l`. -/
theorem forall_mem_dropLast_cons {α : Type} {P : α → Prop} {a : α} {l : List α}
    (h : ∀ b ∈ (a :: l).dropLast, P b) : (l ≠ [] → P a) ∧ ∀ b ∈ l.dropLast, P b := by
  rcases l with _ | ⟨c, l⟩
  · exact ⟨fun hne => absurd rfl hne, fun b hb => absurd hb (List.not_mem_nil b)⟩
  · exact ⟨fun _ => h a (List.mem_cons_self _ _), fun b hb => h b (List.mem_cons_of_mem _ hb)⟩

section Keyed

variable {α : Type} {f : α → Int} {l : List α} (hl : l.Pairwise (f · < f ·)) {x z : α}
include hl

/-- In a list increasing in a key, no element comes after the last. -/
theorem key_le_of_getLast? (hx : x ∈ l) (hz : l.getLast? = some z) : f x ≤ f z := by
  have hne : l ≠ [] := List.ne_nil_of_mem hx
  rw [List.getLast?_eq_getLast l hne, Option.some.injEq] at hz
  subst hz
  rw [← List.dropLast_append_getLast hne] at hl hx
  rcases List.mem_append.1 hx with hx | hx
  · exact ((List.pairwise_append.1 hl).2.2 x hx _ (List.mem_singleton_self _)).le
  · rw [List.mem_singleton.1 hx]

/-- In a list increasing in a key, no element comes before the first. -/
theorem key_le_of_head? (hx : x ∈ l) (hz : l.head? = some z) : f z ≤ f x := by
  cases l with
  | nil => cases hz
  | cons a l =>
    obtain rfl := Option.some.inj hz
    rcases List.mem_cons.1 hx with rfl | hx
    · exact le_rfl
    · exact (List.rel_of_pairwise_cons hl hx).le

end Keyed

end GridPlatform
