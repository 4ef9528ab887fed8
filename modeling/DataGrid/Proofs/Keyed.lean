import DataGrid.Keyed
import Mathlib.Data.List.Basic

/-!
# Collections of entries with different keys

A key that is not there yet is set at the end, so a list of entries with different keys becomes a
collection as it stands (`entries_ofList`), in which each key has the value of its entry and no other
key has a value (`get?_ofList_iff`). Where keys come several times, the last entry of each counts
(`get?_ofList_of_last`).
-/

namespace DataGrid.Keyed

variable {α : Type} {key : String} {v : α} {es : List (String × α)}

/-- Of two values that are set for one key the second remains. -/
theorem setEntry_setEntry (key : String) (v w : α) (es : List (String × α)) :
    setEntry key w (setEntry key v es) = setEntry key w es := by
  induction es with
  | nil => simp [setEntry]
  | cons e es ih =>
    by_cases h : e.1 = key
    · simp [setEntry, h]
    · simp [setEntry, h, ih]

/-- A key has no value exactly if no entry has the key. -/
theorem getEntry?_eq_none_iff : getEntry? key es = none ↔ key ∉ es.map (·.1) := by
  induction es with
  | nil => simp [ getEntry?]
  | cons e es ih =>
    by_cases h : e.1 = key
    · simp [h, getEntry?]
    · simp [h, ih, Ne.symm h, getEntry?]

/-- A key that has no value yet is set at the end. -/
theorem setEntry_eq_append (h : getEntry? key es = none) (v : α) :
    setEntry key v es = es ++ [(key, v)] := by
  induction es with
  | nil => rfl
  | cons e es ih =>
    unfold getEntry? at h
    split_ifs at h with he
    rw [setEntry, if_neg he, ih h, List.cons_append]

/-- Where the keys are different, a key has the value of its entry. -/
theorem getEntry?_of_mem (distinct : (es.map (·.1)).Nodup) (h : (key, v) ∈ es) :
    getEntry? key es = some v := by
  induction es with
  | nil => cases h
  | cons e es ih =>
    rw [List.map_cons, List.nodup_cons] at distinct
    rw [ getEntry?]
    rcases List.mem_cons.mp h with rfl | later
    · rw [if_pos rfl]
    · have ne : e.1 ≠ key := fun eq => distinct.1 (eq ▸ List.mem_map_of_mem later)
      rw [if_neg ne, ih distinct.2 later]

/-- The value of a key comes from an entry with the key. -/
theorem mem_of_getEntry?_eq_some (h : getEntry? key es = some v) : (key, v) ∈ es := by
  induction es with
  | nil => cases h
  | cons e es ih =>
    unfold getEntry? at h
    split_ifs at h with he
    · obtain rfl := Option.some.inj h
      rw [← he]
      exact List.mem_cons_self
    · exact List.mem_cons_of_mem e (ih h)

/-- The first entries go before. -/
theorem getEntry?_append (key : String) (es fs : List (String × α)) :
    getEntry? key (es ++ fs) = ( getEntry? key es).or ( getEntry? key fs) := by
  induction es with
  | nil => rfl
  | cons e es ih =>
    rw [List.cons_append, getEntry?, getEntry?, ih]
    split <;> rfl

/-- Entries with new and different keys are put at the end one after the other. -/
theorem entries_foldl_set {m : Keyed α} (distinct : ((m.entries ++ es).map (·.1)).Nodup) :
    (es.foldl (fun m e => m.set e.1 e.2) m).entries = m.entries ++ es := by
  induction es generalizing m with
  | nil => rw [List.foldl_nil, List.append_nil]
  | cons e es ih =>
    have new : getEntry? e.1 m.entries = none := by
      rw [List.map_append, List.nodup_append] at distinct
      exact getEntry?_eq_none_iff.mpr fun h => distinct.2.2 _ h e.1 List.mem_cons_self rfl
    have last : (m.set e.1 e.2).entries = m.entries ++ [e] := setEntry_eq_append new e.2
    have shifted : (m.set e.1 e.2).entries ++ es = m.entries ++ e :: es := by
      rw [last, List.append_assoc, List.singleton_append]
    rw [List.foldl_cons, ih (shifted ▸ distinct), shifted]

/-- A list of entries with different keys becomes a collection as it stands. -/
theorem entries_ofList (distinct : (es.map (·.1)).Nodup) : (ofList es).entries = es :=
  entries_foldl_set distinct

/-- In a collection that is made from entries with different keys, each key has the value of its entry
and no other one. -/
theorem get?_ofList_iff (distinct : (es.map (·.1)).Nodup) :
    (ofList es).get? key = some v ↔ (key, v) ∈ es := by
  rw [get?, entries_ofList distinct]
  exact ⟨mem_of_getEntry?_eq_some, getEntry?_of_mem distinct⟩

/-- Entries with other keys leave the value of a key alone. -/
theorem get?_foldl_set_of_not_mem {m : Keyed α} (other : key ∉ es.map (·.1)) :
    (es.foldl (fun m e => m.set e.1 e.2) m).get? key = m.get? key := by
  induction es generalizing m with
  | nil => rfl
  | cons e es ih =>
    rw [List.map_cons, List.mem_cons, not_or] at other
    rw [List.foldl_cons, ih other.2, get?_set, if_neg (Ne.symm other.1)]

/-- A key that no entry has is without a value in the collection made from them. -/
theorem get?_ofList_of_not_mem (other : key ∉ es.map (·.1)) : (ofList es).get? key = none :=
  get?_foldl_set_of_not_mem other

/-- Of several entries with one key the last one counts. -/
theorem get?_ofList_of_last {front back : List (String × α)} (last : key ∉ back.map (·.1)) :
    (ofList (front ++ (key, v) :: back)).get? key = some v := by
  rw [ofList, List.foldl_append, List.foldl_cons, get?_foldl_set_of_not_mem last, get?_set,
    if_pos rfl]

end DataGrid.Keyed
