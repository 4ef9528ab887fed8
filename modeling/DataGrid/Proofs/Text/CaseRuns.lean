import DataGrid.Text.Case

/-!
# Tables of runs

The case mappings of single characters are tables of runs. What is said of a table holds run by run, and
is checked so.

* **`image`**: what a table maps a code point to.
* **`near`**: the runs that code points between two others may belong to. A run is compared with these
  only, not with the whole of a table (`image_near`).
* `CaseRange.includes`, `CaseRange.misses`: whether one run maps all that another one maps, and in the same
  way, or none of its images. From there `image_eq_of_includes` and `image_eq_self_of_misses`.
* `spares`, `CaseRange.isWithin`: whether runs keep off a class of code points, or stay within it.
-/

namespace DataGrid.Text

/-- What some runs map a code point to: itself, if it is in none of them. -/
def image (ranges : List CaseRange) (n : Nat) : Nat := (ranges.findSome? (·.map? n)).getD n

/-- Runs that do not map a code point may be left out. -/
theorem image_filter {ranges : List CaseRange} {keep : CaseRange → Bool} {n : Nat}
    (kept : ∀ r ∈ ranges, ∀ m, r.map? n = some m → keep r = true) :
    image (ranges.filter keep) n = image ranges n := by
  have found : (ranges.filter keep).findSome? (·.map? n) = ranges.findSome? (·.map? n) := by
    induction ranges with
    | nil => rfl
    | cons r ranges ih =>
      rw [List.forall_mem_cons] at kept
      rw [List.filter_cons, List.findSome?_cons]
      cases mapped : r.map? n with
      | none =>
        rw [← ih kept.2]
        split
        · rw [List.findSome?_cons, mapped]
        · rfl
      | some m => rw [if_pos (kept.1 m mapped), List.findSome?_cons, mapped]
  rw [image, found, image]

namespace CaseRange

variable {r s : CaseRange} {n m : Nat}

/-- A run maps each of its code points, as many steps apart as the run says, by one distance. -/
theorem map?_eq_some_iff :
    r.map? n = some m ↔
      (r.first ≤ n ∧ n ≤ r.last ∧ (n - r.first) % r.stride = 0) ∧ r.target + (n - r.first) = m := by
  simp [map?]

/-- The last code point that a run maps to. -/
def lastTarget (r : CaseRange) : Nat := r.target + (r.last - r.first)

/-- A run maps to code points between its first and its last target. -/
theorem target_bounds (mapped : r.map? n = some m) : r.target ≤ m ∧ m ≤ r.lastTarget := by
  obtain ⟨⟨first, last, -⟩, rfl⟩ := map?_eq_some_iff.mp mapped
  exact ⟨Nat.le_add_right _ _, Nat.add_le_add_left (Nat.sub_le_sub_right last _) _⟩

/-- Whether some code point between two others may belong to a run. -/
def meets (r : CaseRange) (low high : Nat) : Bool := Nat.ble r.first high && Nat.ble low r.last

/-- A run that maps a code point between two others meets the interval between them. -/
theorem meets_of_map? {low high : Nat} (mapped : r.map? n = some m) (above : low ≤ n)
    (below : n ≤ high) : r.meets low high = true := by
  obtain ⟨⟨first, last, -⟩, -⟩ := map?_eq_some_iff.mp mapped
  rw [meets, Bool.and_eq_true, Nat.ble_eq, Nat.ble_eq]
  exact ⟨Nat.le_trans first below, Nat.le_trans above last⟩

/-- Whether a run maps to characters only. -/
def hasCharacters (r : CaseRange) : Bool :=
  Nat.blt r.lastTarget 0xD800 || Nat.blt 0xDFFF r.target && Nat.blt r.lastTarget 0x110000

/-- Where a run maps to characters only, each image is one. -/
theorem isValidChar_of_hasCharacters (h : r.hasCharacters = true) (mapped : r.map? n = some m) :
    m.isValidChar := by
  have bounds := target_bounds mapped
  simp only [hasCharacters, Bool.or_eq_true, Bool.and_eq_true, Nat.blt_eq] at h
  unfold Nat.isValidChar
  omega

/-- Whether a run maps all that another one maps, and in the same way. -/
def includes (s r : CaseRange) : Bool :=
  Nat.ble s.first r.first && Nat.ble r.last s.last && Nat.beq (s.target + r.first) (r.target + s.first) &&
    Nat.beq ((r.first - s.first) % s.stride) 0 && Nat.beq (r.stride % s.stride) 0

/-- A run that includes another one maps what that one maps to the same code points. -/
theorem map?_of_includes (h : s.includes r = true) (mapped : r.map? n = some m) : s.map? n = some m := by
  obtain ⟨⟨first, last, step⟩, rfl⟩ := map?_eq_some_iff.mp mapped
  simp only [includes, Bool.and_eq_true, Nat.ble_eq, Nat.beq_eq] at h
  obtain ⟨⟨⟨⟨low, high⟩, shift⟩, offset⟩, stride⟩ := h
  have split : n - s.first = (n - r.first) + (r.first - s.first) := by omega
  have steps : s.stride ∣ n - s.first := by
    rw [split]
    exact Nat.dvd_add (Nat.dvd_trans (Nat.dvd_of_mod_eq_zero stride) (Nat.dvd_of_mod_eq_zero step))
      (Nat.dvd_of_mod_eq_zero offset)
  exact map?_eq_some_iff.mpr ⟨⟨by omega, by omega, Nat.mod_eq_zero_of_dvd steps⟩, by omega⟩

/-- The run that maps the images of a run back. -/
def inverse (r : CaseRange) : CaseRange := ⟨r.target, r.lastTarget, r.stride, r.first⟩

/-- The inverse of a run maps each image back. -/
theorem map?_inverse (mapped : r.map? n = some m) : r.inverse.map? m = some n := by
  have bounds := target_bounds mapped
  obtain ⟨⟨first, last, step⟩, rfl⟩ := map?_eq_some_iff.mp mapped
  refine map?_eq_some_iff.mpr ⟨⟨bounds.1, bounds.2, ?_⟩, ?_⟩
  · rwa [inverse, Nat.add_sub_cancel_left]
  · rw [inverse, Nat.add_sub_cancel_left, Nat.add_sub_cancel' first]

/-- Whether the code points that a run maps to are not those of another run: they lie before it or after
it, or in the gaps between its code points. -/
def misses (r s : CaseRange) : Bool :=
  !s.meets r.target r.lastTarget ||
    (Nat.beq s.stride 2 && (Nat.beq r.stride 2 || Nat.beq r.first r.last) &&
      Nat.beq ((r.target + s.first) % 2) 1)

/-- A run that another one misses does not map the images of that one. -/
theorem map?_eq_none_of_misses (missed : r.misses s = true) (mapped : r.map? n = some m) :
    s.map? m = none := by
  rw [Option.eq_none_iff_forall_not_mem]
  intro k again
  obtain ⟨⟨first, last, step⟩, rfl⟩ := map?_eq_some_iff.mp mapped
  obtain ⟨⟨first', last', step'⟩, -⟩ := map?_eq_some_iff.mp again
  simp only [misses, meets, lastTarget, Bool.or_eq_true, Bool.and_eq_true, Bool.not_eq_true',
    ← Bool.not_eq_true, Nat.ble_eq, Nat.beq_eq] at missed
  rcases missed with outside | ⟨⟨two, strideOrSingle⟩, odd⟩
  · omega
  · rw [two] at step'
    rcases strideOrSingle with stride | single
    · rw [stride] at step
      omega
    · omega

end CaseRange

/-! ## Runs nearby -/

/-- The code points in stretches, none of which has many runs of one table. -/
def stretches : List (Nat × Nat) :=
  [(0, 0x17F), (0x180, 0x1EF), (0x1F0, 0x24F), (0x250, 0x2FF), (0x300, 0x3FF), (0x400, 0x52F),
   (0x530, 0x13FF), (0x1400, 0x1EFF), (0x1F00, 0x1FFF), (0x2000, 0x2BFF), (0x2C00, 0x2FFF),
   (0x3000, 0xA7FF), (0xA800, 0x10FFFF)]

/-- The runs that code points between two others may belong to. They are taken from the runs of one stretch,
if it has both. -/
def near (ranges : List CaseRange) (low high : Nat) : List CaseRange :=
  let sameStretch := stretches.find? fun u => Nat.ble u.1 low && Nat.ble high u.2
  (sameStretch.elim ranges fun u => ranges.filter (·.meets u.1 u.2)).filter (·.meets low high)

section near

variable {ranges : List CaseRange} {r s : CaseRange} {low high n m : Nat}

/-- **A code point is mapped by the runs nearby as by the whole of a table.** -/
theorem image_near (above : low ≤ n) (below : n ≤ high) :
    image (near ranges low high) n = image ranges n := by
  rw [near, image_filter fun s _ m mapped => CaseRange.meets_of_map? mapped above below]
  cases found : stretches.find? fun u => Nat.ble u.1 low && Nat.ble high u.2 with
  | none => rfl
  | some u =>
    have both := List.find?_some found
    rw [Bool.and_eq_true, Nat.ble_eq, Nat.ble_eq] at both
    exact image_filter fun s _ m mapped =>
      CaseRange.meets_of_map? mapped (Nat.le_trans both.1 above) (Nat.le_trans below both.2)

/-- A run is followed by a table where the first run nearby includes it. -/
theorem image_eq_of_includes (h : (near ranges r.first r.last).head?.any (·.includes r) = true)
    (mapped : r.map? n = some m) : image ranges n = m := by
  obtain ⟨⟨first, last, -⟩, -⟩ := CaseRange.map?_eq_some_iff.mp mapped
  rw [← image_near first last]
  cases nearby : near ranges r.first r.last with
  | nil =>
    rw [nearby] at h
    cases h
  | cons s others =>
    rw [nearby] at h
    rw [image, List.findSome?_cons, CaseRange.map?_of_includes h mapped]
    rfl

/-- What a run maps to is left as it is by a table whose runs nearby miss it. -/
theorem image_eq_self_of_misses (h : (near ranges r.target r.lastTarget).all r.misses = true)
    (mapped : r.map? n = some m) : image ranges m = m := by
  have bounds := CaseRange.target_bounds mapped
  have missed : (near ranges r.target r.lastTarget).findSome? (·.map? m) = none :=
    List.findSome?_eq_none_iff.mpr fun s hs =>
      CaseRange.map?_eq_none_of_misses (List.all_eq_true.mp h s hs) mapped
  rw [← image_near bounds.1 bounds.2, image, missed]
  rfl

end near

/-! ## Classes of code points -/

/-- A code point belongs to a class if it lies in one of its ranges. -/
theorem inRanges_eq_true_iff {ranges : List (Nat × Nat)} {n : Nat} :
    inRanges ranges n = true ↔ ∃ u ∈ ranges, u.1 ≤ n ∧ n ≤ u.2 := by
  simp [inRanges]

/-- Whether two classes of code points have none in common. -/
def apart (xs ys : List (Nat × Nat)) : Bool :=
  xs.all fun u => ys.all fun v => !(Nat.ble u.1 v.2 && Nat.ble v.1 u.2)

/-- A code point of a class does not belong to a class without common code points. -/
theorem not_inRanges_of_apart {xs ys : List (Nat × Nat)} {n : Nat} (h : apart xs ys = true)
    (mem : inRanges xs n = true) : inRanges ys n = false := by
  obtain ⟨u, hu, low, high⟩ := inRanges_eq_true_iff.mp mem
  rw [← Bool.not_eq_true, inRanges_eq_true_iff]
  rintro ⟨v, hv, low', high'⟩
  have separate := List.all_eq_true.mp (List.all_eq_true.mp h u hu) v hv
  simp only [Bool.not_eq_true', ← Bool.not_eq_true, Bool.and_eq_true, Nat.ble_eq] at separate
  omega

/-- Whether some runs neither map a code point of a class nor map another one into it. -/
def spares (ranges : List CaseRange) (kept : List (Nat × Nat)) : Bool :=
  ranges.all fun r => kept.all fun u =>
    !r.meets u.1 u.2 && !(Nat.ble r.target u.2 && Nat.ble u.1 r.lastTarget)

/-- What is mapped and what it is mapped to stay out of a class that the runs spare. -/
theorem not_inRanges_of_map? {ranges : List CaseRange} {kept : List (Nat × Nat)}
    (spared : spares ranges kept = true) {r : CaseRange} (listed : r ∈ ranges) {n m : Nat}
    (mapped : r.map? n = some m) : inRanges kept n = false ∧ inRanges kept m = false := by
  have apart := List.all_eq_true.mp (List.all_eq_true.mp spared r listed)
  simp only [← Bool.not_eq_true, inRanges_eq_true_iff]
  constructor <;> rintro ⟨u, hu, within⟩
  · have separate := apart u hu
    rw [CaseRange.meets_of_map? mapped within.1 within.2] at separate
    cases separate
  · have bounds := CaseRange.target_bounds mapped
    have separate := apart u hu
    simp only [Bool.and_eq_true, Bool.not_eq_true', ← Bool.not_eq_true, Nat.ble_eq] at separate
    omega

/-- Whether a run maps code points of a class only, and to code points of the class. -/
def CaseRange.isWithin (r : CaseRange) (kept : List (Nat × Nat)) : Bool :=
  (kept.any fun u => Nat.ble u.1 r.first && Nat.ble r.last u.2) &&
    kept.any fun u => Nat.ble u.1 r.target && Nat.ble r.lastTarget u.2

/-- What a run within a class maps belongs to the class, and so does what it is mapped to. -/
theorem inRanges_of_isWithin {r : CaseRange} {kept : List (Nat × Nat)} {n m : Nat}
    (h : r.isWithin kept = true) (mapped : r.map? n = some m) :
    inRanges kept n = true ∧ inRanges kept m = true := by
  have bounds := CaseRange.target_bounds mapped
  obtain ⟨⟨first, last, -⟩, -⟩ := CaseRange.map?_eq_some_iff.mp mapped
  simp only [CaseRange.isWithin, Bool.and_eq_true, List.any_eq_true, Nat.ble_eq] at h
  obtain ⟨⟨u, hu, low, high⟩, v, hv, low', high'⟩ := h
  rw [inRanges_eq_true_iff, inRanges_eq_true_iff]
  exact ⟨⟨u, hu, by omega⟩, v, hv, by omega⟩

end DataGrid.Text
