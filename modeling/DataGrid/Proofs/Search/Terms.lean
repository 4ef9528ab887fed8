import DataGrid.Proofs.Search.Grammar
import DataGrid.Search.Entry

/-!
# The terms of a search text

A search text is cut at the separator, and each piece is trimmed. The terms are the pieces that have
anything left. What comes of this is said here once.

* `termChars_join`: terms written one after the other with the separator between them have the same
  terms again, whatever the separator is. No term holds the separator, so none is cut, and none has
  blanks around it, so none is trimmed.
* `terms_of_not_mem`: a text without the separator is one term, and so a plain text is its own only term
  (`IsPlain.terms_eq`). It asks for cells with just this text (`IsPlain.parse_eq`).
* `ofEntries_eq`: a filter has the comparisons of all its entries. The entries that are left out
  as blank have none.
-/

namespace DataGrid

open Text

/-! ## Terms -/

namespace SearchMarks

variable (m : SearchMarks)

/-- The terms are the trimmed pieces between the separators, blank ones left out. -/
theorem mem_termChars_iff {text term : List Char} :
    term ∈ m.termChars text ↔ (∃ piece ∈ splitAt m.separator text, trim piece = term) ∧ term ≠ [] := by
  simp [termChars]

/-- No term contains the separator. -/
theorem separator_not_mem_of_mem_termChars {text term : List Char} (h : term ∈ m.termChars text) :
    m.separator ∉ term := by
  obtain ⟨⟨piece, hp, rfl⟩, -⟩ := m.mem_termChars_iff.mp h
  exact fun hc => not_mem_of_mem_splitAt hp (mem_of_mem_trim hc)

/-- A term has no blanks at its ends. -/
theorem trim_of_mem_termChars {text term : List Char} (h : term ∈ m.termChars text) :
    trim term = term := by
  obtain ⟨⟨piece, -, rfl⟩, -⟩ := m.mem_termChars_iff.mp h
  exact (trim_spec piece).trim_eq

/-- Terms with the separator between them have the same terms again. -/
theorem termChars_join (text : List Char) :
    m.termChars (join m.separator (m.termChars text)) = m.termChars text := by
  by_cases none : m.termChars text = []
  · rw [none]
    rfl
  · have pieces : splitAt m.separator (join m.separator (m.termChars text)) = m.termChars text :=
      splitAt_join none fun t ht => m.separator_not_mem_of_mem_termChars ht
    have trimmed : (m.termChars text).map trim = m.termChars text := by
      rw [List.map_congr_left fun t ht => m.trim_of_mem_termChars ht, List.map_id']
    rw [termChars, pieces, trimmed]
    exact List.filter_eq_self.mpr fun t ht => by simpa using (m.mem_termChars_iff.mp ht).2

/-- A blank text has no terms, also if the separator is not blank itself. -/
theorem terms_of_isBlankText {text : String} (h : isBlankText text = true) : m.terms text = [] := by
  have blank : ∀ c ∈ text.toList, isBlank c = true :=
    (trim_eq_nil_iff _).mp (by simpa [isBlankText] using h)
  refine List.map_eq_nil_iff.mpr (List.eq_nil_iff_forall_not_mem.mpr fun term hterm => ?_)
  obtain ⟨⟨piece, hp, rfl⟩, ne⟩ := m.mem_termChars_iff.mp hterm
  exact ne ((trim_eq_nil_iff piece).mpr fun c hc => blank c (mem_of_mem_splitAt hp hc))

/-- A text without the separator is one term, unless it is blank. -/
theorem terms_of_not_mem {text : String} (whole : m.separator ∉ text.toList)
    (nonempty : trim text.toList ≠ []) : m.terms text = [trimmed text] := by
  rw [terms, termChars, splitAt_of_not_mem whole, List.map_singleton,
    List.filter_cons_of_pos (by simpa using nonempty)]
  rfl

/-! ## Plain terms -/

/-- Whether a text is a term that asks for just this text: nothing in it is cut off, and it has
neither an operator nor a wildcard. -/
structure IsPlain (text : List Char) : Prop where
  nonempty : text ≠ []
  trimmed : Trimmed text
  whole : m.separator ∉ text
  noPattern : m.wildcard ∉ text
  noOrdering : ∀ c ∈ text.head?, c ≠ '<' ∧ c ≠ '>'
  noNegation : ¬ ['!', '='] <+: text

variable {m} {text : String}

/-- A plain text is its own only term. -/
theorem IsPlain.terms_eq (h : m.IsPlain text.toList) : m.terms text = [text] := by
  have same : trim text.toList = text.toList := h.trimmed.trim_eq
  have nonempty : trim text.toList ≠ [] := by
    rw [same]
    exact h.nonempty
  rw [m.terms_of_not_mem h.whole nonempty, Text.trimmed, same, String.ofList_toList]

/-- A plain text starts with no operator. -/
theorem IsPlain.not_startsWithOperator (h : m.IsPlain text.toList) :
    ¬ Term.StartsWithOperator text.toList := by
  rintro ⟨spelling, listed, rest, starts⟩
  have first (c : Char) (hc : (spelling.toList ++ rest).head? = some c) : c ≠ '<' ∧ c ≠ '>' :=
    h.noOrdering c (starts ▸ hc)
  simp only [Term.spellings, List.mem_cons, List.not_mem_nil, or_false] at listed
  obtain rfl | rfl | rfl | rfl | rfl | rfl := listed
  · exact (first '<' rfl).1 rfl
  · exact h.noNegation ⟨rest, starts⟩
  · exact (first '<' rfl).1 rfl
  · exact (first '>' rfl).2 rfl
  · exact (first '<' rfl).1 rfl
  · exact (first '>' rfl).2 rfl

/-- A plain text is an operand without an operator, which asks for equality. -/
theorem IsPlain.parse_eq (h : m.IsPlain text.toList) :
    Term.parse m.wildcard text = (.equal, text) := by
  rw [Term.parse_eq_iff, Term.parseChars, h.trimmed.trim_eq,
    Term.parseTrimmed_of_not_startsWithOperator h.not_startsWithOperator, if_neg h.noPattern]

end SearchMarks

/-! ## Comparisons -/

/-- The comparisons of an entry depend on its column and its terms only. -/
theorem SearchEntry.comparisons_congr {m : SearchMarks} {e e' : SearchEntry}
    (column : e.column = e'.column) (terms : m.terms e.text = m.terms e'.text) :
    e.comparisons m = e'.comparisons m := by
  rw [comparisons, comparisons, column, terms]

/-- An entry asks for nothing exactly if it has no terms. -/
theorem SearchEntry.comparisons_eq_nil_iff {m : SearchMarks} {e : SearchEntry} :
    e.comparisons m = [] ↔ m.terms e.text = [] :=
  List.map_eq_nil_iff

/-- Entries without terms may be left out when the comparisons are collected. -/
theorem flatMap_comparisons_filter {m : SearchMarks} {keep : SearchEntry → Bool}
    (h : ∀ e, keep e = false → m.terms e.text = []) (entries : List SearchEntry) :
    (entries.filter keep).flatMap (·.comparisons m) = entries.flatMap (·.comparisons m) := by
  induction entries with
  | nil => rfl
  | cons e entries ih =>
    rw [List.flatMap_cons, ← ih]
    cases kept : keep e with
    | true => rw [List.filter_cons_of_pos kept, List.flatMap_cons]
    | false =>
      rw [List.filter_cons_of_neg (by simp [kept]), SearchEntry.comparisons_eq_nil_iff.mpr (h e kept),
        List.nil_append]

namespace Filter

/-- A filter has the comparisons of all its entries; those of blank entries are none. -/
theorem ofEntries_eq (m : SearchMarks) (entries : List SearchEntry) :
    ofEntries m entries =
      { comparisons := entries.flatMap (·.comparisons m), wildcard := m.wildcard } := by
  have blank (e : SearchEntry) (h : (!e.isBlank) = false) : m.terms e.text = [] :=
    m.terms_of_isBlankText (by simpa [SearchEntry.isBlank] using h)
  rw [ofEntries, flatMap_comparisons_filter blank]

end Filter

end DataGrid
