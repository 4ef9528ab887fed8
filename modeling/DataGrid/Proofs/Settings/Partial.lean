import DataGrid.Proofs.Document.Paths
import DataGrid.Proofs.Settings.RoundTrip
import Mathlib.Data.List.Nodup

/-!
# Settings with keys left out

A text of settings need not have all keys, and it may have others. Keys that are left out have their
defaults, which come from three levels: a key, a section, or the literals of a check box inside the section
of classification. **`Settings.SetsExactly`** says that a document sets some keys to the values of given
settings and no other keys, where sections may be missing or empty and anything may stand under names that
are not keys.

* `defaulted_section`: a section that is missing is read like one without contents, so that only the keys in
  it have to be looked at (`SetsExactly.exists_setsIn`).
* `defaulted_eq_some`: a key has its value where it is set and its default where it is not.
* **`Settings.ofToml?_partial`**: so a text that sets some keys is read as the settings with these keys, and
  with the defaults of all others (`Settings.overDefaults`).
* **`Settings.ofToml?_toTomlOnly`**: for each choice of keys there is such a text, with the lines that
  settings are written in.
-/

namespace DataGrid

namespace Document

/-! ## Fields that may be missing -/

variable {α : Type} {read : Document → Option α} {members : List (String × Document)} {field : String}
  {d : Document} {default v : α}

/-- A section that has its default where it is empty has it where it is missing, so that a missing one is
read like an empty one. -/
theorem defaulted_section {inner : List (String × Document)}
    (empty : read (.record []) = some default)
    (contents : (Keyed.getEntry? field members).getD (.record []) = .record inner)
    (reads : read (.record inner) = some v) : defaulted read members field default = some v := by
  rw [← reads, ← contents, defaulted]
  cases Keyed.getEntry? field members with
  | none => exact empty.symm
  | some e => rfl

/-- A field has its value where it is set and its default where it is not. -/
theorem defaulted_eq_some {given : Bool}
    (set : Keyed.getEntry? field members = if given then some d else none) (reads : read d = some v) :
    defaulted read members field default = some (if given then v else default) := by
  rw [defaulted, set]
  cases given with
  | true => exact reads
  | false => rfl

end Document

namespace Settings

open Document Toml

/-! ## Keys -/

/-- The settings that have a key. -/
inductive Key
  | evidence
  | trueValue
  | falseValue
  | indeterminateValue
  | separator
  | wildcard
  | caseSensitive
  | hiddenColumns
  | highlightColumn
  | numericFormat
  deriving DecidableEq, Repr

/-- The sections of settings, the whole among them. -/
def sections : List (List String) :=
  [[], ["classifier"], ["classifier", "boolean_tokens"], ["filter"], ["layout"]]

namespace Key

/-- All keys. -/
def all : List Key :=
  [.evidence, .trueValue, .falseValue, .indeterminateValue, .separator, .wildcard, .caseSensitive,
    .hiddenColumns, .highlightColumn, .numericFormat]

/-- The path to the section of a key. -/
def group : Key → List String
  | .evidence => ["classifier"]
  | .trueValue | .falseValue | .indeterminateValue => ["classifier", "boolean_tokens"]
  | .separator | .wildcard | .caseSensitive => ["filter"]
  | .hiddenColumns | .highlightColumn | .numericFormat => ["layout"]

/-- The name of a key in its section. -/
def name : Key → String
  | .evidence => "evidence"
  | .trueValue => "true_value"
  | .falseValue => "false_value"
  | .indeterminateValue => "indeterminate_value"
  | .separator => "separator"
  | .wildcard => "wildcard"
  | .caseSensitive => "case_sensitive"
  | .hiddenColumns => "hidden_columns"
  | .highlightColumn => "highlight_column"
  | .numericFormat => "numeric_format"

/-- The value of a key as it is written. -/
def leaf (s : Settings) : Key → Leaf
  | .evidence => .text s.classifier.evidence.storedName
  | .trueValue => .text s.classifier.tokens.trueValue
  | .falseValue => .text s.classifier.tokens.falseValue
  | .indeterminateValue => .text s.classifier.tokens.indeterminateValue
  | .separator => .text (String.ofList [s.filter.separator])
  | .wildcard => .text (String.ofList [s.filter.wildcard])
  | .caseSensitive => .boolean s.filter.caseSensitive
  | .hiddenColumns => .texts s.layout.hiddenColumns
  | .highlightColumn => .text s.layout.highlightColumn
  | .numericFormat => .text s.layout.numericFormat

end Key

/-- Settings that agree with others on some keys and have their defaults elsewhere. -/
def overDefaults (s : Settings) (given : Key → Bool) : Settings :=
  let own {α : Type} (k : Key) (part : Settings → α) : α := if given k then part s else part {}
  { classifier := {
      tokens := {
        trueValue := own .trueValue (·.classifier.tokens.trueValue)
        falseValue := own .falseValue (·.classifier.tokens.falseValue)
        indeterminateValue := own .indeterminateValue (·.classifier.tokens.indeterminateValue) }
      evidence := own .evidence (·.classifier.evidence) }
    filter := {
      separator := own .separator (·.filter.separator)
      wildcard := own .wildcard (·.filter.wildcard)
      caseSensitive := own .caseSensitive (·.filter.caseSensitive) }
    layout := {
      hiddenColumns := own .hiddenColumns (·.layout.hiddenColumns)
      highlightColumn := own .highlightColumn (·.layout.highlightColumn)
      numericFormat := own .numericFormat (·.layout.numericFormat) } }

/-- Whether a document sets exactly some keys, to the values that they have in some settings. What stands
where a section is expected is a section; under other names there may be anything. -/
structure SetsExactly (d : Document) (s : Settings) (given : Key → Bool) : Prop where
  sections : ∀ path ∈ Settings.sections, ∀ e, d.at? path = some e → ∃ members, e = .record members
  keys : ∀ k : Key, d.at? (k.group ++ [k.name]) =
    if given k then some (k.leaf s).toDocument else none

variable {format : Format} {s : Settings} {given : Key → Bool} {d : Document}
  {members : List (String × Document)}

/-! ## Reading sections -/

/-- Whether the members of a section set exactly some of its keys. -/
def SetsIn (group : List String) (members : List (String × Document)) (s : Settings)
    (given : Key → Bool) : Prop :=
  ∀ k : Key, k.group = group →
    Keyed.getEntry? k.name members = if given k then some (k.leaf s).toDocument else none

/-- A section is read through its members, of which a section that is missing has none. -/
theorem SetsExactly.exists_setsIn (sets : SetsExactly d s given) {path : List String}
    (mem : path ∈ Settings.sections) :
    ∃ members, (d.at? path).getD (.record []) = .record members ∧ SetsIn path members s given ∧
      ∀ name, d.at? (path ++ [name]) = Keyed.getEntry? name members := by
  obtain ⟨members, contents, found⟩ : ∃ members, (d.at? path).getD (.record []) = .record members ∧
      ∀ name, d.at? (path ++ [name]) = Keyed.getEntry? name members := by
    cases there : d.at? path with
    | none =>
      refine ⟨[], rfl, fun name => ?_⟩
      rw [at?_append, there]
      rfl
    | some e =>
      obtain ⟨members, rfl⟩ := sets.sections path mem e there
      refine ⟨members, rfl, fun name => ?_⟩
      rw [at?_append, there, Option.bind_some, at?_singleton]
  refine ⟨members, contents, fun k group => ?_, found⟩
  rw [← found, ← group]
  exact sets.keys k

/-- The literals of a check box are read from the keys that are set in their section. -/
theorem tokens_of_setsIn (sets : SetsIn ["classifier", "boolean_tokens"] members s given) :
    BooleanTokens.ofDocument? format (.record members) =
      some (s.overDefaults given).classifier.tokens := by
  have trueValue : defaulted text? members "true_value" ({} : BooleanTokens).trueValue = some _ :=
    defaulted_eq_some (sets .trueValue rfl) rfl
  have falseValue : defaulted text? members "false_value" ({} : BooleanTokens).falseValue = some _ :=
    defaulted_eq_some (sets .falseValue rfl) rfl
  have indeterminateValue : defaulted text? members "indeterminate_value"
      ({} : BooleanTokens).indeterminateValue = some _ :=
    defaulted_eq_some (sets .indeterminateValue rfl) rfl
  simp only [BooleanTokens.ofDocument?, members?, Option.bind_eq_bind, Option.bind_some, trueValue,
    falseValue, indeterminateValue]
  rfl

/-- The settings of search are read from the keys that are set in their section. -/
theorem filter_of_setsIn (sets : SetsIn ["filter"] members s given) :
    FilterSettings.ofDocument? format (.record members) = some (s.overDefaults given).filter := by
  have separator : defaulted character? members "separator" ({} : FilterSettings).separator = some _ :=
    defaulted_eq_some (sets .separator rfl) (character?_ofCharacter s.filter.separator)
  have wildcard : defaulted character? members "wildcard" ({} : FilterSettings).wildcard = some _ :=
    defaulted_eq_some (sets .wildcard rfl) (character?_ofCharacter s.filter.wildcard)
  have caseSensitive : defaulted boolean? members "case_sensitive"
      ({} : FilterSettings).caseSensitive = some _ :=
    defaulted_eq_some (sets .caseSensitive rfl) rfl
  simp only [FilterSettings.ofDocument?, members?, Option.bind_eq_bind, Option.bind_some, separator,
    wildcard, caseSensitive]
  rfl

/-- The options of layout are read from the keys that are set in their section. -/
theorem layout_of_setsIn (sets : SetsIn ["layout"] members s given) :
    LayoutOptions.ofDocument? format (.record members) = some (s.overDefaults given).layout := by
  have hiddenColumns : defaulted (list? text?) members "hidden_columns"
      ({} : LayoutOptions).hiddenColumns = some _ :=
    defaulted_eq_some (sets .hiddenColumns rfl) (list?_text s.layout.hiddenColumns)
  have highlightColumn : defaulted text? members "highlight_column"
      ({} : LayoutOptions).highlightColumn = some _ :=
    defaulted_eq_some (sets .highlightColumn rfl) rfl
  have numericFormat : defaulted text? members "numeric_format"
      ({} : LayoutOptions).numericFormat = some _ :=
    defaulted_eq_some (sets .numericFormat rfl) rfl
  simp only [LayoutOptions.ofDocument?, members?, Option.bind_eq_bind, Option.bind_some, hiddenColumns,
    highlightColumn, numericFormat]
  rfl

/-- The literals of a check box are a section inside the section of classification. -/
theorem classifier_of_setsIn (sets : SetsIn ["classifier"] members s given)
    {inner : List (String × Document)}
    (tokens : (Keyed.getEntry? "boolean_tokens" members).getD (.record []) = .record inner)
    (setsInner : SetsIn ["classifier", "boolean_tokens"] inner s given) :
    ClassifierOptions.ofDocument? format (.record members) =
      some (s.overDefaults given).classifier := by
  have evidence : defaulted (Evidence.ofDocument? format) members "evidence"
      ({} : ClassifierOptions).evidence = some _ :=
    defaulted_eq_some (sets .evidence rfl) (Evidence.ofDocument?_toDocument format s.classifier.evidence)
  have literals : defaulted (BooleanTokens.ofDocument? format) members "boolean_tokens"
      ({} : ClassifierOptions).tokens = some _ :=
    defaulted_section rfl tokens (tokens_of_setsIn setsInner)
  simp only [ClassifierOptions.ofDocument?, members?, Option.bind_eq_bind, Option.bind_some, evidence,
    literals]
  rfl

/-- **A document that sets some keys stands for the settings with these keys and with the defaults of all
others**, in either format. -/
theorem ofDocument?_of_setsExactly (sets : SetsExactly d s given) :
    Settings.ofDocument? format d = some (s.overDefaults given) := by
  obtain ⟨members, whole, -, found⟩ :=
    sets.exists_setsIn (show [] ∈ Settings.sections by decide)
  obtain rfl : d = .record members := whole
  obtain ⟨classifier, classifierAt, setsClassifier, foundInner⟩ :=
    sets.exists_setsIn (show ["classifier"] ∈ Settings.sections by decide)
  obtain ⟨tokens, tokensAt, setsTokens, -⟩ :=
    sets.exists_setsIn (show ["classifier", "boolean_tokens"] ∈ Settings.sections by decide)
  obtain ⟨filter, filterAt, setsFilter, -⟩ :=
    sets.exists_setsIn (show ["filter"] ∈ Settings.sections by decide)
  obtain ⟨layout, layoutAt, setsLayout, -⟩ :=
    sets.exists_setsIn (show ["layout"] ∈ Settings.sections by decide)
  have readClassifier : defaulted (ClassifierOptions.ofDocument? format) members "classifier"
      ({} : Settings).classifier = some _ :=
    defaulted_section rfl (found "classifier" ▸ classifierAt)
      (classifier_of_setsIn setsClassifier (foundInner "boolean_tokens" ▸ tokensAt) setsTokens)
  have readFilter : defaulted (FilterSettings.ofDocument? format) members "filter"
      ({} : Settings).filter = some _ :=
    defaulted_section rfl (found "filter" ▸ filterAt) (filter_of_setsIn setsFilter)
  have readLayout : defaulted (LayoutOptions.ofDocument? format) members "layout"
      ({} : Settings).layout = some _ :=
    defaulted_section rfl (found "layout" ▸ layoutAt) (layout_of_setsIn setsLayout)
  simp only [Settings.ofDocument?, members?, Option.bind_eq_bind, Option.bind_some, readClassifier,
    readFilter, readLayout]
  rfl

/-- Under each key stands its own value if the key is given, and its default if it is not. -/
theorem leaf_overDefaults (s : Settings) (given : Key → Bool) (k : Key) :
    k.leaf (s.overDefaults given) = k.leaf (if given k then s else {}) := by
  cases k <;> simp only [Key.leaf, overDefaults] <;> split <;> rfl

/-- **A text that sets some keys is read as the settings with these keys and with the defaults of all
others**, however the text is laid out, whichever sections are missing or empty, and whatever else it
says. -/
theorem ofToml?_partial {text : String} (read : Toml.read? text = some d)
    (sets : SetsExactly d s given) :
    ofToml? text = some (s.overDefaults given) ∧
      ∀ k : Key, k.leaf (s.overDefaults given) = k.leaf (if given k then s else {}) := by
  refine ⟨?_, leaf_overDefaults s given⟩
  rw [ofToml?, read, Option.bind_some, ofDocument?_of_setsExactly sets]

/-- Two keys, an empty section, and names that are no keys, some of them the names of keys and sections in
other places. -/
theorem ofToml?_partial_two_keys :
    let paragraphs : List Paragraph := [⟨["wildcard"], []⟩,
      ⟨["classifier", "boolean_tokens"], [("note", .texts ["A", "B"]), ("true_value", .text "Y")]⟩,
      ⟨["filter"], [("separator", .text "|")]⟩, ⟨["filter", "layout"], [("highlight_column", .boolean true)]⟩,
      ⟨["layout"], []⟩]
    let s : Settings := ⟨⟨⟨"Y", "N", "?"⟩, .anyLiteral⟩, ⟨'|', '*', true⟩, ⟨["A"], "B", "C"⟩⟩
    let given : Key → Bool := fun k => k = .trueValue ∨ k = .separator
    let d : Document := .record [("wildcard", .record []),
      ("classifier", .record [("boolean_tokens",
        .record [("note", .sequence [.text "A", .text "B"]), ("true_value", .text "Y")])]),
      ("filter", .record [("separator", .text "|"),
        ("layout", .record [("highlight_column", .boolean true)])]),
      ("layout", .record [])]
    (Toml.read? (Toml.text paragraphs) = some d ∧ SetsExactly d s given) ∧
    ofToml? (Toml.text paragraphs) = some (s.overDefaults given) ∧
    ∀ k : Key, k.leaf (s.overDefaults given) = k.leaf (if given k then s else {}) := by
  intro paragraphs s given d
  have bare : ∀ p ∈ paragraphs, p.IsBare := by
    intro p mem
    simp only [paragraphs, List.mem_cons, List.not_mem_nil, or_false] at mem
    obtain rfl | rfl | rfl | rfl | rfl := mem
    all_goals exact ⟨by simp, by simp [keyLimit], by simp; decide, by simp <;> decide⟩
  have keys : ∀ p ∈ paragraphs, (p.lines.map (·.1)).Nodup := by
    intro p mem
    simp only [paragraphs, List.mem_cons, List.not_mem_nil, or_false] at mem
    obtain rfl | rfl | rfl | rfl | rfl := mem
    all_goals simp
  obtain ⟨root, added, document⟩ : ∃ root, paragraphs.foldlM Section.addTable (.empty .header) =
      some root ∧ root.document = d := ⟨_, rfl, rfl⟩
  have read : Toml.read? (Toml.text paragraphs) = some d := by
    rw [read?_text_eq_document bare keys added, document]
  have sets : SetsExactly d s given := by
    refine ⟨fun path mem e found => ?_, fun k => ?_⟩
    · simp only [Settings.sections, List.mem_cons, List.not_mem_nil, or_false] at mem
      obtain rfl | rfl | rfl | rfl | rfl := mem
      all_goals exact ⟨_, (Option.some.inj found).symm⟩
    · cases k <;> rfl
  exact ⟨⟨read, sets⟩, ofToml?_partial read sets⟩

/-! ## Texts with some keys only -/

/-- Every key is listed. -/
theorem Key.mem_all (k : Key) : k ∈ all := by
  cases k <;> decide

/-- No two keys have one name, also where they are in different sections. -/
theorem Key.name_inj {j k : Key} (h : j.name = k.name) : j = k :=
  List.inj_on_of_nodup_map (show (all.map name).Nodup by decide) j.mem_all k.mem_all h

/-- The name of a key needs no quotes. -/
theorem Key.isBareKey_name (k : Key) : IsBareKey k.name := by
  cases k <;> exact ⟨by decide, by decide⟩

/-- The lines of a section with the keys that are given. -/
def linesIn (s : Settings) (given : Key → Bool) (group : List String) : List (String × Leaf) :=
  (Key.all.filter fun k => k.group = group ∧ given k = true).map fun k => (k.name, k.leaf s)

/-- The tables that settings are written in, with the lines of the keys that are given. -/
def paragraphsOnly (s : Settings) (given : Key → Bool) : List Paragraph :=
  [["classifier"], ["classifier", "boolean_tokens"], ["filter"], ["layout"]].map fun group =>
    ⟨group, s.linesIn given group⟩

/-- Settings as a TOML text with the keys that are given. -/
def toTomlOnly (s : Settings) (given : Key → Bool) : String := Toml.text (s.paragraphsOnly given)

/-- With all keys this is the text that settings are written in. -/
theorem toTomlOnly_all (s : Settings) : s.toTomlOnly (fun _ => true) = s.toToml := rfl

/-- The members that the lines of a section stand for. -/
def membersIn (s : Settings) (given : Key → Bool) (group : List String) : List (String × Document) :=
  (s.linesIn given group).map fun (key, leaf) => (key, leaf.toDocument)

/-- No section has two lines for one key. -/
theorem nodup_keys_linesIn (s : Settings) (given : Key → Bool) (group : List String) :
    ((s.linesIn given group).map (·.1)).Nodup := by
  have distinct : (Key.all.map Key.name).Nodup := by decide
  rw [linesIn, List.map_map]
  exact distinct.sublist (List.filter_sublist.map _)

/-- The members that a section has are the given keys of this section with their values. -/
theorem mem_membersIn_iff {group : List String} {name : String} {e : Document} :
    (name, e) ∈ s.membersIn given group ↔
      ∃ k : Key, k.group = group ∧ given k = true ∧ k.name = name ∧ (k.leaf s).toDocument = e := by
  simp [membersIn, linesIn, Key.mem_all, and_assoc]

/-- The lines of a section set the given keys in it and no others. -/
theorem setsIn_membersIn (s : Settings) (given : Key → Bool) (group : List String) :
    SetsIn group (s.membersIn given group) s given := by
  intro k hk
  have names : (s.membersIn given group).map (·.1) = (s.linesIn given group).map (·.1) := by
    rw [membersIn, List.map_map]
    rfl
  cases set : given k with
  | true =>
    rw [if_pos rfl]
    exact Keyed.getEntry?_of_mem (names ▸ nodup_keys_linesIn s given group)
      (mem_membersIn_iff.mpr ⟨k, hk, set, rfl, rfl⟩)
  | false =>
    rw [if_neg Bool.false_ne_true, Keyed.getEntry?_eq_none_iff, List.mem_map]
    rintro ⟨⟨name, e⟩, mem, rfl⟩
    obtain ⟨j, -, given_j, same, -⟩ := mem_membersIn_iff.mp mem
    rw [Key.name_inj same, set] at given_j
    cases given_j

/-- The document that the text of some keys stands for. -/
def storedOnly (s : Settings) (given : Key → Bool) : Document :=
  .record [
    ("classifier", .record (s.membersIn given ["classifier"] ++
      [("boolean_tokens", .record (s.membersIn given ["classifier", "boolean_tokens"]))])),
    ("filter", .record (s.membersIn given ["filter"])),
    ("layout", .record (s.membersIn given ["layout"]))]

/-- The section of classification has no line with the name of the section inside it. -/
theorem tokens_not_mem (s : Settings) (given : Key → Bool) :
    Keyed.getEntry? "boolean_tokens" (s.membersIn given ["classifier"]) = none := by
  rw [Keyed.getEntry?_eq_none_iff, List.mem_map]
  rintro ⟨⟨name, e⟩, mem, rfl⟩
  obtain ⟨k, -, -, same, -⟩ := mem_membersIn_iff.mp mem
  cases k <;> exact absurd same (by decide)

/-- The document of some keys sets these keys and no others. -/
theorem setsExactly_storedOnly (s : Settings) (given : Key → Bool) :
    SetsExactly (s.storedOnly given) s given := by
  have tokensAt : (s.storedOnly given).at? ["classifier", "boolean_tokens"] =
      some (.record (s.membersIn given ["classifier", "boolean_tokens"])) := by
    show (record (s.membersIn given ["classifier"] ++ _)).at? ["boolean_tokens"] = _
    rw [at?_singleton, Keyed.getEntry?_append, tokens_not_mem]
    rfl
  have setsClassifier : SetsIn ["classifier"] (s.membersIn given ["classifier"] ++
      [("boolean_tokens", .record (s.membersIn given ["classifier", "boolean_tokens"]))]) s given := by
    intro k hk
    -- The literals are a section of their own, which leaves one key here.
    obtain rfl : k = .evidence := by
      cases k with
      | evidence => rfl
      | _ => exact absurd hk (by decide)
    rw [Keyed.getEntry?_append, setsIn_membersIn s given _ _ hk]
    cases given .evidence <;> rfl
  have sectionOf (k : Key) : ∃ members, (s.storedOnly given).at? k.group = some (.record members) ∧
      SetsIn k.group members s given := by
    cases k with
    | evidence => exact ⟨_, rfl, setsClassifier⟩
    | trueValue | falseValue | indeterminateValue => exact ⟨_, tokensAt, setsIn_membersIn s given _⟩
    | _ => exact ⟨_, rfl, setsIn_membersIn s given _⟩
  refine ⟨fun path mem e found => ?_, fun k => ?_⟩
  · simp only [Settings.sections, List.mem_cons, List.not_mem_nil, or_false] at mem
    obtain rfl | rfl | rfl | rfl | rfl := mem
    case inr.inr.inl =>
      rw [tokensAt] at found
      exact ⟨_, (Option.some.inj found).symm⟩
    all_goals exact ⟨_, (Option.some.inj found).symm⟩
  · obtain ⟨members, there, sets⟩ := sectionOf k
    rw [at?_append, there, Option.bind_some, at?_singleton]
    exact sets k rfl

/-- What the lines of a section put into it. -/
def itemsIn (s : Settings) (given : Key → Bool) (group : List String) : List (String × Item) :=
  (s.linesIn given group).map fun (key, leaf) => (key, .value leaf.toDocument)

/-- The tables with the given keys make up one table, in which the literals of a check box have gone
into the section of classification. -/
theorem foldlM_paragraphsOnly (s : Settings) (given : Key → Bool) :
    (s.paragraphsOnly given).foldlM Section.addTable (.empty .header) = some ⟨.header, [
      ("classifier", .table .header (s.itemsIn given ["classifier"] ++
        [("boolean_tokens", .table .header (s.itemsIn given ["classifier", "boolean_tokens"]))])),
      ("filter", .table .header (s.itemsIn given ["filter"])),
      ("layout", .table .header (s.itemsIn given ["layout"]))]⟩ := by
  let classifier := s.itemsIn given ["classifier"]
  let tokens := s.itemsIn given ["classifier", "boolean_tokens"]
  let inner : Paragraph :=
    ⟨["classifier", "boolean_tokens"], s.linesIn given ["classifier", "boolean_tokens"]⟩
  have free : Keyed.getEntry? "boolean_tokens" classifier = none := by
    have names : classifier.map (·.1) = (s.membersIn given ["classifier"]).map (·.1) := by
      simp only [classifier, itemsIn, membersIn, List.map_map]
      rfl
    rw [Keyed.getEntry?_eq_none_iff, names, ← Keyed.getEntry?_eq_none_iff]
    exact tokens_not_mem s given
  have placed : Section.place "boolean_tokens" tokens ⟨.header, classifier⟩ =
      some ⟨.header, classifier ++ [("boolean_tokens", .table .header tokens)]⟩ :=
    Section.place_eq_some_iff.mpr
      ⟨free, congrArg (Section.mk .header) (Keyed.setEntry_eq_append free _)⟩
  have added : Section.addTable ⟨.header, [("classifier", .table .header classifier)]⟩ inner =
      some ⟨.header, [("classifier", .table .header
        (classifier ++ [("boolean_tokens", .table .header tokens)]))]⟩ := by
    show (Section.place "boolean_tokens" tokens ⟨.header, classifier⟩ >>= _) = _
    rw [placed]
    rfl
  show (Section.addTable ⟨.header, [("classifier", .table .header classifier)]⟩ inner >>= _) = _
  rw [added]
  rfl

/-- The text of some keys stands for their document. -/
theorem read?_toTomlOnly (s : Settings) (given : Key → Bool) :
    read? (s.toTomlOnly given) = some (s.storedOnly given) := by
  have bare : ∀ p ∈ s.paragraphsOnly given, p.IsBare := by
    intro p mem
    obtain ⟨group, listed, rfl⟩ := List.mem_map.mp mem
    have lines : ∀ line ∈ s.linesIn given group, IsBareKey line.1 := by
      intro line mem
      obtain ⟨k, -, rfl⟩ := List.mem_map.mp mem
      exact k.isBareKey_name
    simp only [List.mem_cons, List.not_mem_nil, or_false] at listed
    obtain rfl | rfl | rfl | rfl := listed
    all_goals exact ⟨by simp, by simp [keyLimit], by simp; decide, lines⟩
  have keys : ∀ p ∈ s.paragraphsOnly given, (p.lines.map (·.1)).Nodup := by
    intro p mem
    obtain ⟨group, -, rfl⟩ := List.mem_map.mp mem
    exact nodup_keys_linesIn s given group
  rw [toTomlOnly, read?_text_eq_document bare keys (foldlM_paragraphsOnly s given), storedOnly]
  simp only [Section.document, membersOf, Item.document, membersOf_append, itemsIn, membersOf_lines]
  rfl

/-- **Every choice of keys has a text, and what is left out of it is read as a default.** -/
theorem ofToml?_toTomlOnly (s : Settings) (given : Key → Bool) :
    ofToml? (s.toTomlOnly given) = some (s.overDefaults given) := by
  rw [ofToml?, read?_toTomlOnly, Option.bind_some,
    ofDocument?_of_setsExactly (setsExactly_storedOnly s given)]

end Settings

end DataGrid
