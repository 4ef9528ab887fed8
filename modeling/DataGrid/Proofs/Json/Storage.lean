import DataGrid.Proofs.Json.ReadBack
import DataGrid.Proofs.Settings.Partial

/-!
# Filters, conditions, summaries and settings in JSON

What is stored as a JSON text is read back from it: the text stands for the document that was written
(`read?_text`), as none of these documents has a floating-point number or a name twice (`Plain`), and the
document stands for the thing that it came from.

* `Filter.ofDocument?_toDocument` and the lemmas beside it: a document is read back field by field.
* `ChangeSummary.fits_of_ofDocument?`: the counts of a summary have 64 bits where one is read, and where they
  have, it is read back.
* `Plain.dropping`, **`Settings.SetsExactly.dropping`**: without some of its members a document is still
  plain, and it sets exactly the keys that are left.
* **`load?_stored`**: so all of these are read back from their texts, and whatever fields and sections are
  dropped from the text of settings, those and no others have their defaults.
-/

namespace DataGrid

open Document

/-! ## Documents of filters, conditions and summaries -/

/-- A kind of columns is read back from its name. -/
theorem Kind.ofDocument?_toDocument (k : Kind) : ofDocument? k.toDocument = some k := by
  cases k <;> rfl

/-- An operator is read back from its name. -/
theorem Operator.ofDocument?_toDocument (o : Operator) : ofDocument? o.toDocument = some o := by
  cases o <;> rfl

/-- A comparison is read back from its document. -/
theorem Comparison.ofDocument?_toDocument (c : Comparison) : ofDocument? c.toDocument = some c := by
  rw [ofDocument?, toDocument]
  simp [members?, required_cons_self, required_cons_of_ne, Operator.ofDocument?_toDocument, text?]

namespace Filter

/-- A filter is read back from its document, with its wildcard. -/
theorem ofDocument?_toDocument (f : Filter) : ofDocument? f.toDocument = some f := by
  rw [ofDocument?, toDocument]
  simp [members?, required_cons_self, defaulted_cons_self, defaulted_cons_of_ne,
    list?_map_of_forall Comparison.ofDocument?_toDocument, character?_ofCharacter]

/-- The document of a filter without its wildcard. -/
theorem dropping_wildcard (f : Filter) : f.toDocument.dropping (· == ["wildcard"]) =
    .record [("comparisons", .sequence (f.comparisons.map Comparison.toDocument))] := by
  rw [toDocument, dropping, droppingMembers_eq]
  rfl

/-- A filter without its wildcard is read with the default one. -/
theorem ofDocument?_dropping_wildcard (f : Filter) :
    ofDocument? (f.toDocument.dropping (· == ["wildcard"])) =
      some { f with wildcard := Term.defaultWildcard } := by
  rw [dropping_wildcard, ofDocument?]
  simp [members?, required_cons_self, defaulted, Keyed.getEntry?,
    list?_map_of_forall Comparison.ofDocument?_toDocument]

end Filter

/-- A search condition is read back from its document. -/
theorem SearchCondition.ofDocument?_toDocument (c : SearchCondition) :
    ofDocument? c.toDocument = some c := by
  rw [ofDocument?, toDocument]
  simp [members?, required_cons_self, required_cons_of_ne, Kind.ofDocument?_toDocument, text?, boolean?]

namespace ChangeSummary

/-- The counts of a summary. -/
def counts (s : ChangeSummary) : List Nat :=
  [s.candidates, s.added, s.modified, s.deleted, s.prunedBlank, s.prunedUnchanged]

/-- Whether all counts of a summary have 64 bits. -/
def Fits (s : ChangeSummary) : Prop := ∀ n ∈ s.counts, n < UInt64.size

/-- A count that is read from a field has 64 bits. -/
theorem lt_of_required_count? {members : List (String × Document)} {field : String} {n : Nat}
    (read : required count? members field = some n) : n < UInt64.size := by
  obtain ⟨d, -, read⟩ := Option.bind_eq_some_iff.mp read
  unfold count? at read
  split at read
  · split_ifs at read with small
    obtain rfl := Option.some.inj read
    exact small
  · cases read

/-- Only summaries whose counts have 64 bits are read. -/
theorem fits_of_ofDocument? {d : Document} {s : ChangeSummary} (read : ofDocument? d = some s) :
    s.Fits := by
  simp only [ofDocument?, Option.bind_eq_bind, Option.bind_eq_some_iff, Option.pure_def,
    Option.some.injEq] at read
  obtain ⟨members, -, candidates, readCandidates, added, readAdded, modified, readModified, deleted,
    readDeleted, prunedBlank, readPrunedBlank, prunedUnchanged, readPrunedUnchanged, rfl⟩ := read
  exact List.forall_iff_forall_mem.mp ⟨lt_of_required_count? readCandidates,
    lt_of_required_count? readAdded, lt_of_required_count? readModified,
    lt_of_required_count? readDeleted, lt_of_required_count? readPrunedBlank,
    lt_of_required_count? readPrunedUnchanged⟩

/-- A summary whose counts have 64 bits is read back from its document. -/
theorem ofDocument?_toDocument {s : ChangeSummary} (fits : s.Fits) :
    ofDocument? s.toDocument = some s := by
  have each : s.counts.Forall fun (n : Nat) => count? (.integer n) = some n :=
    List.forall_iff_forall_mem.mpr fun n mem => if_pos (fits n mem)
  obtain ⟨candidates, added, modified, deleted, prunedBlank,
    (prunedUnchanged : count? (.integer s.prunedUnchanged) = some _)⟩ := each
  rw [ofDocument?, toDocument]
  simp [members?, required_cons_self, required_cons_of_ne, candidates, added, modified, deleted,
    prunedBlank, prunedUnchanged]

end ChangeSummary

/-! ## Settings with members dropped -/

namespace Settings

/-- The path to a key. -/
def Key.path (k : Key) : List String := k.group ++ [k.name]

/-- The document of settings sets all keys. -/
theorem setsExactly_toDocument (s : Settings) : SetsExactly s.toDocument s fun _ => true := by
  refine ⟨fun path mem e found => ?_, fun k => ?_⟩
  · simp only [sections, List.mem_cons, List.not_mem_nil, or_false] at mem
    obtain rfl | rfl | rfl | rfl | rfl := mem
    all_goals exact ⟨_, (Option.some.inj found).symm⟩
  · cases k <;> rfl

variable {d : Document} {s : Settings} {given : Key → Bool}

/-- **Without some of its members a document sets the keys that are left**, to the values that they had. -/
theorem SetsExactly.dropping (sets : SetsExactly d s given) (dropped : List String → Bool) :
    SetsExactly (d.dropping dropped) s fun k => given k && isKept dropped k.path := by
  refine ⟨fun path mem e found => ?_, fun k => ?_⟩
  · rw [at?_dropping] at found
    split_ifs at found
    obtain ⟨whole, there, rfl⟩ := Option.map_eq_some_iff.mp found
    obtain ⟨members, rfl⟩ := sets.sections path mem whole there
    exact ⟨_, rfl⟩
  · rw [at?_dropping, sets.keys k]
    show (if isKept dropped k.path then _ else none) = _
    cases isKept dropped k.path with
    | false => rw [Bool.and_false]; rfl
    | true =>
      cases given k with
      | false => rfl
      -- The value of a key is no record, so nothing is dropped inside it.
      | true => cases k <;> rfl

/-- Settings are read back from their document, in either format. -/
theorem ofDocument?_toDocument (format : Format) (s : Settings) :
    ofDocument? format s.toDocument = some s := by
  rw [ofDocument?_of_setsExactly s.setsExactly_toDocument]
  rfl

/-- Settings are read with the defaults of the keys that were dropped. -/
theorem ofDocument?_dropping (format : Format) (s : Settings) (dropped : List String → Bool) :
    ofDocument? format (s.toDocument.dropping dropped) =
      some (s.overDefaults fun k => isKept dropped k.path) :=
  ofDocument?_of_setsExactly (s.setsExactly_toDocument.dropping dropped)

example (s : Settings) :
    s.overDefaults (fun k => isKept (· == ["classifier", "boolean_tokens"]) k.path) =
      { s with classifier := { s.classifier with tokens := {} } } := rfl

end Settings

/-! ## Texts -/

namespace Json

variable {α : Type} {read : Document → Option α} {d : Document}

/-- A record is plain if its names are different and its members are plain one by one. -/
theorem Plain.members {members : List (String × Document)} (distinct : (members.map (·.1)).Nodup)
    (each : members.Forall fun m => Plain m.2) : Plain (.record members) :=
  .record distinct (List.forall_iff_forall_mem.mp each)

/-- A sequence of things is plain if each of them is. -/
theorem Plain.list {write : α → Document} (each : ∀ a, Plain (write a)) (items : List α) :
    Plain (.sequence (items.map write)) := by
  refine .sequence fun d mem => ?_
  obtain ⟨a, -, rfl⟩ := List.mem_map.mp mem
  exact each a

/-- The document of a comparison is plain. -/
theorem plain_comparison (c : Comparison) : Plain c.toDocument :=
  .members (by simp) ⟨.text _, .text _, .text _⟩

/-- The document of a filter is plain, whatever is searched for. -/
theorem plain_filter (f : Filter) : Plain f.toDocument :=
  .members (by simp) ⟨.list plain_comparison f.comparisons, .text _⟩

/-- The document of a search condition is plain. -/
theorem plain_searchCondition (c : SearchCondition) : Plain c.toDocument :=
  .members (by simp) ⟨.text _, .text _, .text _, .boolean _⟩

/-- The document of a summary is plain if its counts have 64 bits. -/
theorem plain_changeSummary {s : ChangeSummary} (fits : s.Fits) : Plain s.toDocument := by
  have count : s.counts.Forall fun (n : Nat) => Plain (.integer n) :=
    List.forall_iff_forall_mem.mpr fun n mem => .integer (by omega) (by exact_mod_cast fits n mem)
  exact .members (by simp) count

/-- The document of settings is plain, whatever texts are in them. -/
theorem plain_settings (s : Settings) : Plain s.toDocument := by
  have tokens : Plain s.classifier.tokens.toDocument :=
    .members (by simp) ⟨.text _, .text _, .text _⟩
  have classifier : Plain s.classifier.toDocument := .members (by simp) ⟨tokens, .text _⟩
  have filter : Plain s.filter.toDocument := .members (by simp) ⟨.text _, .text _, .boolean _⟩
  have layout : Plain s.layout.toDocument :=
    .members (by simp) ⟨.list .text s.layout.hiddenColumns, .text _, .text _⟩
  exact .members (by simp) ⟨classifier, filter, layout⟩

/-- A plain document is plain without some of its members too. -/
theorem Plain.dropping (plain : Plain d) (dropped : List String → Bool) :
    Plain (d.dropping dropped) := by
  induction plain generalizing dropped with
  | null => exact .null
  | boolean b => exact .boolean b
  | integer low high => exact .integer low high
  | text s => exact .text s
  | sequence each => exact .sequence each
  | @record members distinct each ih =>
    rw [Document.dropping, droppingMembers_eq]
    refine .record ?_ fun m mem => ?_
    · rw [List.map_map]
      exact distinct.sublist (List.filter_sublist.map _)
    · obtain ⟨whole, left, rfl⟩ := List.mem_map.mp mem
      exact ih whole (List.mem_of_mem_filter left) _

/-- The thing that a JSON text stands for. -/
def load? (read : Document → Option α) (text : String) : Option α := (read? text).bind read

/-- What stands for a plain document is read from its text as from the document. -/
theorem load?_text (plain : Plain d) : load? read (text d) = read d := by
  rw [load?, read?_text plain, Option.bind_some]

/-- **What is stored is read back.** Filters, search conditions and settings are read back from their JSON
texts, whatever they contain, and a summary of changes exactly if its counts have 64 bits. A filter without
its wildcard has the default one. Of settings any members may be dropped, whole sections too: they are read as
the same settings, in which exactly the keys that were dropped, or with them a section that they are in, have
their defaults. -/
theorem load?_stored :
    (∀ f : Filter, load? Filter.ofDocument? (text f.toDocument) = some f ∧
      load? Filter.ofDocument? (text (f.toDocument.dropping (· == ["wildcard"]))) =
        some { f with wildcard := Term.defaultWildcard }) ∧
    (∀ c : SearchCondition, load? SearchCondition.ofDocument? (text c.toDocument) = some c) ∧
    (∀ s : ChangeSummary, load? ChangeSummary.ofDocument? (text s.toDocument) = some s ↔ s.Fits) ∧
    (∀ s : Settings, load? (Settings.ofDocument? .json) (text s.toDocument) = some s) ∧
    ∀ (s : Settings) (dropped : List String → Bool),
      let given := fun k : Settings.Key => isKept dropped k.path
      load? (Settings.ofDocument? .json) (text (s.toDocument.dropping dropped)) =
          some (s.overDefaults given) ∧
        ∀ k : Settings.Key,
          (given k = true ↔ ∀ front, front ≠ [] → front <+: k.path → dropped front = false) ∧
            k.leaf (s.overDefaults given) = k.leaf (if given k then s else {}) := by
  refine ⟨fun f => ⟨?_, ?_⟩, fun c => ?_, fun s => ⟨fun found => ?_, fun fits => ?_⟩, fun s => ?_,
    fun s dropped => ⟨?_, fun k => ⟨isKept_iff, s.leaf_overDefaults _ k⟩⟩⟩
  · rw [load?_text (plain_filter f), f.ofDocument?_toDocument]
  · rw [load?_text ((plain_filter f).dropping _), f.ofDocument?_dropping_wildcard]
  · rw [load?_text (plain_searchCondition c), c.ofDocument?_toDocument]
  · obtain ⟨d, -, read⟩ := Option.bind_eq_some_iff.mp found
    exact ChangeSummary.fits_of_ofDocument? read
  · rw [load?_text (plain_changeSummary fits), ChangeSummary.ofDocument?_toDocument fits]
  · rw [load?_text (plain_settings s), Settings.ofDocument?_toDocument]
  · rw [load?_text ((plain_settings s).dropping dropped), Settings.ofDocument?_dropping]

end Json

end DataGrid
