import DataGrid.Proofs.Search.Terms
import Mathlib.Data.List.Forall2

/-!
# Search conditions ask for what the search boxes ask for

A data source that filters by itself is sent a condition for each entry that has terms, and reads
the value of the condition as a grid reads a search text. **`searchConditions_faithful`** says that
it is asked for the same: each condition has the terms of its entry, and the filter of the
conditions, read as entries (**`SearchCondition.toEntry`**), is the filter of the entries.
-/

namespace DataGrid

/-- What stands in a search box that asks for the same as a condition. -/
def SearchCondition.toEntry (c : SearchCondition) : SearchEntry where
  column := c.column
  kind := c.kind
  text := c.value

/-- A condition that stands for an entry: it is about the same column and has the same terms. -/
structure SearchCondition.StandsFor (m : SearchMarks) (c : SearchCondition) (e : SearchEntry) :
    Prop where
  column : c.column = e.column
  kind : c.kind = e.kind
  isFunction : c.isFunction = e.isFunction
  terms : m.terms c.value = m.terms e.text

variable {m : SearchMarks} {e : SearchEntry} {c : SearchCondition}

/-! ## One condition -/

/-- There is no condition for an entry exactly if the entry has no terms. -/
theorem SearchEntry.condition?_eq_none_iff : e.condition? m = none ↔ m.terms e.text = [] := by
  simp [condition?, SearchMarks.terms]

/-- The condition for an entry stands for it: joining the terms and splitting them again loses none. -/
theorem SearchEntry.standsFor_of_condition? (h : e.condition? m = some c) : c.StandsFor m e := by
  simp only [condition?] at h
  split at h
  · cases h
  · cases h
    refine ⟨rfl, rfl, rfl, ?_⟩
    rw [SearchMarks.terms, SearchMarks.terms, String.toList_ofList, m.termChars_join]

/-- A condition that stands for an entry asks for the same comparisons. -/
theorem SearchCondition.StandsFor.comparisons_eq (h : c.StandsFor m e) :
    c.toEntry.comparisons m = e.comparisons m :=
  SearchEntry.comparisons_congr h.column h.terms

/-! ## All conditions -/

/-- The entries with terms and the conditions are as many, and each condition stands for the entry
at its place. -/
theorem forall₂_searchConditions (m : SearchMarks) (entries : List SearchEntry) :
    List.Forall₂ (fun e c => c.StandsFor m e) (entries.filter (m.terms ·.text ≠ []))
      (searchConditions m entries) := by
  induction entries with
  | nil => exact .nil
  | cons e entries ih =>
    cases h : e.condition? m with
    | none =>
      have none := SearchEntry.condition?_eq_none_iff.mp h
      rw [searchConditions, List.filterMap_cons_none h, List.filter_cons_of_neg (by simp [none])]
      exact ih
    | some c =>
      have some : m.terms e.text ≠ [] := fun none => by
        rw [SearchEntry.condition?_eq_none_iff.mpr none] at h
        cases h
      rw [searchConditions, List.filterMap_cons_some h,
        List.filter_cons_of_pos (by simpa using some)]
      exact .cons (SearchEntry.standsFor_of_condition? h) ih

/-- Conditions that each stand for an entry ask for the comparisons of all entries together. -/
theorem flatMap_comparisons_toEntry {entries : List SearchEntry} {conditions : List SearchCondition}
    (h : List.Forall₂ (fun e c => c.StandsFor m e) entries conditions) :
    (conditions.map (·.toEntry)).flatMap (·.comparisons m) = entries.flatMap (·.comparisons m) := by
  induction h with
  | nil => rfl
  | cons stands _ ih =>
    rw [List.map_cons, List.flatMap_cons, List.flatMap_cons, stands.comparisons_eq, ih]

/-- **Search conditions ask for the same as the entries.** There is one for each entry that has
terms, in the order of the entries, for the same column and with the same terms, and all of them
read as entries make up the same filter. -/
theorem searchConditions_faithful (m : SearchMarks) (entries : List SearchEntry) :
    List.Forall₂
        (fun e c => c.column = e.column ∧ c.kind = e.kind ∧ c.isFunction = e.isFunction ∧
          m.terms c.value = m.terms e.text)
        (entries.filter (m.terms ·.text ≠ [])) (searchConditions m entries) ∧
      Filter.ofEntries m ((searchConditions m entries).map (·.toEntry)) =
        Filter.ofEntries m entries := by
  have stand := forall₂_searchConditions m entries
  constructor
  · exact stand.imp fun e c h => ⟨h.column, h.kind, h.isFunction, h.terms⟩
  · rw [Filter.ofEntries_eq, Filter.ofEntries_eq, flatMap_comparisons_toEntry stand,
      flatMap_comparisons_filter (by simp)]

-- A separator that is itself blank, with more blanks around and between the terms.
example : (searchConditions ⟨' ', '%'⟩ [⟨"NAME", .string, "  a\t  >b ", none, false⟩,
    ⟨"CITY", .string, "   ", none, false⟩]).map (·.value) = ["a >b"] := by decide

end DataGrid
