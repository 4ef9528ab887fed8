import DataGrid.Proofs.Document.Fields
import DataGrid.Proofs.Toml.Tables
import DataGrid.Settings.Format

/-!
# Settings are read back from their text

* **`Settings.toToml_roundTrip`**: all settings, whatever texts and characters are in them, are read
  back from the text that they are written in.

The text is that of four tables without quotes in names and keys, so it says what these tables say
(`Toml.read?_text`). Put together, this is the document `Settings.storedDocument`, and each part of
it stands for the part of the settings that it came from.
-/

namespace DataGrid

open Document

/-! ## Parts of the settings -/

/-- The literals of a check box are read back from their document. -/
theorem BooleanTokens.ofDocument?_toDocument (format : Format) (t : BooleanTokens) :
    ofDocument? format t.toDocument = some t := by
  rw [ofDocument?, toDocument]
  simp [members?, defaulted_cons_self, defaulted_cons_of_ne, text?]

/-- A rule of evidence is read back from its name. -/
theorem Evidence.ofDocument?_toDocument (format : Format) (e : Evidence) :
    ofDocument? format e.toDocument = some e := by
  cases e <;> rfl

/-- The settings of search are read back from their document. -/
theorem FilterSettings.ofDocument?_toDocument (format : Format) (s : FilterSettings) :
    ofDocument? format s.toDocument = some s := by
  rw [ofDocument?, toDocument]
  simp [members?, defaulted_cons_self, defaulted_cons_of_ne, character?_ofCharacter, boolean?]

/-- The options of layout are read back from their document. -/
theorem LayoutOptions.ofDocument?_toDocument (format : Format) (o : LayoutOptions) :
    ofDocument? format o.toDocument = some o := by
  rw [ofDocument?, toDocument]
  simp [members?, defaulted_cons_self, defaulted_cons_of_ne, list?_text, text?]

namespace Settings

open Toml

/-- The document that the text of settings stands for, with its members in the order of the text. -/
def storedDocument (s : Settings) : Document :=
  .record [
    ("classifier", .record [
      ("evidence", s.classifier.evidence.toDocument),
      ("boolean_tokens", s.classifier.tokens.toDocument)]),
    ("filter", s.filter.toDocument),
    ("layout", s.layout.toDocument)]

/-- Settings are read back from the document that their text stands for, in which the order of the
members is another one. -/
theorem ofDocument?_storedDocument (format : Format) (s : Settings) :
    ofDocument? format s.storedDocument = some s := by
  have classifier : ClassifierOptions.ofDocument? format
      (.record [("evidence", s.classifier.evidence.toDocument),
        ("boolean_tokens", s.classifier.tokens.toDocument)]) = some s.classifier := by
    rw [ClassifierOptions.ofDocument?]
    simp [members?, defaulted_cons_self, defaulted_cons_of_ne,
      BooleanTokens.ofDocument?_toDocument, Evidence.ofDocument?_toDocument]
  rw [ofDocument?, storedDocument]
  simp [members?, defaulted_cons_self, defaulted_cons_of_ne, classifier,
    FilterSettings.ofDocument?_toDocument, LayoutOptions.ofDocument?_toDocument]

/-! ## The text -/

/-- The tables that settings are written in need no quotes in names and keys. -/
theorem isBare_of_mem_paragraphs {s : Settings} {p : Paragraph} (h : p ∈ s.paragraphs) :
    p.IsBare := by
  simp only [paragraphs, List.mem_cons, List.not_mem_nil, or_false] at h
  obtain rfl | rfl | rfl | rfl := h
  all_goals exact ⟨by simp, by simp [keyLimit], by simp; decide, by simp; decide⟩

/-- No table that settings are written in has a key twice. -/
theorem nodup_keys_of_mem_paragraphs {s : Settings} {p : Paragraph} (h : p ∈ s.paragraphs) :
    (p.lines.map (·.1)).Nodup := by
  simp only [paragraphs, List.mem_cons, List.not_mem_nil, or_false] at h
  obtain rfl | rfl | rfl | rfl := h
  all_goals simp

/-- The text of settings stands for their document. -/
theorem read?_toToml (s : Settings) : read? s.toToml = some s.storedDocument := by
  obtain ⟨root, added, document⟩ : ∃ root, s.paragraphs.foldlM Section.addTable (.empty .header) =
      some root ∧ root.document = s.storedDocument := ⟨_, rfl, rfl⟩
  rw [toToml, read?_text_eq_document (fun p => isBare_of_mem_paragraphs)
    (fun p => nodup_keys_of_mem_paragraphs) added, document]

/-- **All settings are read back from their text.** -/
theorem toToml_roundTrip (s : Settings) : ofToml? s.toToml = some s := by
  rw [ofToml?, read?_toToml, Option.bind_some, ofDocument?_storedDocument]

end Settings

end DataGrid
