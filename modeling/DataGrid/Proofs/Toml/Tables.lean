import DataGrid.Proofs.Keyed
import DataGrid.Proofs.Toml.Lines

/-!
# Tables of TOML are put together as they were written

The statements of a table open it with its header and then put a value into it for each line.
Together they do one thing to the tree of all tables: they put a new table in its place
(**`Section.addTable`**).

* `Section.alter_assign_place`: a value set in a table that has just been placed might as well have
  been placed with the table.
* **`foldlM_statements`**: so the statements of a table with different keys place it with all its
  lines.
* **`read?_text_eq_document`**: a text of such tables stands for the tree that they make up one
  after the other.
-/

namespace DataGrid

namespace Toml

/-! ## Changes at the end of a path -/

namespace Section

variable {made : Origin} {f g : Section → Option Section} {path : List String} {t t' : Section}

/-- What has been set is found. -/
theorem get?_set (t : Section) (name : String) (item : Item) :
    (t.set name item).get? name = some item := by
  simp [get?, set, Keyed.getEntry?_setEntry]

/-- What is set later counts. -/
theorem set_set (t : Section) (name : String) (item item' : Item) :
    (t.set name item).set name item' = t.set name item' := by
  simp [set, Keyed.setEntry_setEntry]

/-- The table that a path goes into under a name, and what becomes of the outer table when something
else stands in its place. -/
def enter (made : Origin) (name : String) (t : Section) : Option (Section × (Section → Section)) :=
  let putBack (inner : Section) := t.set name (.table inner.origin inner.items)
  match t.get? name with
  | none => some (empty made, putBack)
  | some (.value _) => none
  | some (.table origin items) =>
    if made = .dotted ∧ origin = .header then none else some (⟨origin, items⟩, putBack)
  | some (.array tables) =>
    tables.getLast?.map fun last =>
      (⟨.header, last⟩, fun inner => t.set name (.array (tables.dropLast ++ [inner.items])))

/-- A change at the end of a path is made in the table that the path goes into, which is then put back.
-/
theorem alter_cons (name : String) : t.alter made f (name :: path) =
    (t.enter made name).bind fun r => (r.1.alter made f path).map r.2 := by
  rw [alter, enter]
  rcases t.get? name with _ | _ | ⟨origin, items⟩ | tables
  · simp [Option.map_eq_bind]
  · rfl
  · dsimp only
    split
    · rfl
    · simp [Option.map_eq_bind]
  · simp [Option.map_eq_bind, Option.bind_assoc]

/-- Such a change succeeds exactly if the path goes on and the change succeeds inside. -/
theorem alter_cons_eq_some_iff {name : String} : t.alter made f (name :: path) = some t' ↔
    ∃ inner putBack, t.enter made name = some (inner, putBack) ∧
      ∃ inner', inner.alter made f path = some inner' ∧ putBack inner' = t' := by
  simp [alter_cons, Option.bind_eq_some_iff, Option.map_eq_some_iff]

/-- What stands in the place of a table is what a path goes into, if its origin is that of the
table. -/
theorem enter_putBack {name : String} {inner u : Section} {putBack : Section → Section}
    (h : t.enter .implied name = some (inner, putBack)) (hu : u.origin = inner.origin) :
    (putBack u).origin = t.origin ∧ (putBack u).enter .implied name = some (u, putBack) := by
  rw [enter] at h
  rcases hget : t.get? name with _ | _ | ⟨origin, items⟩ | tables <;> rw [hget] at h
  · obtain ⟨rfl, rfl⟩ := h
    simp [enter, get?_set, set_set]
    rfl
  · cases h
  · obtain ⟨rfl, rfl⟩ := h
    simp [enter, get?_set, set_set]
    rfl
  · obtain ⟨last, hlast, h⟩ := Option.map_eq_some_iff.mp h
    obtain ⟨rfl, rfl⟩ := h
    have eta : (⟨.header, u.items⟩ : Section) = u := congrArg (Section.mk · u.items) hu.symm
    simp [enter, get?_set, set_set, eta]
    rfl

/-- A change that keeps the origin of the table that it is made to keeps the origins of the tables
on the way to it. -/
theorem origin_alter (hf : ∀ u u', f u = some u' → u'.origin = u.origin)
    (h : t.alter .implied f path = some t') : t'.origin = t.origin := by
  induction path generalizing t t' with
  | nil => exact hf t t' h
  | cons name path ih =>
    obtain ⟨inner, putBack, entered, inner', changed, rfl⟩ := alter_cons_eq_some_iff.mp h
    exact (enter_putBack entered (ih changed)).1

/-- A change that does more succeeds wherever the other one does. -/
theorem alter_mono (hfg : ∀ u u', f u = some u' → g u = some u')
    (h : t.alter made f path = some t') : t.alter made g path = some t' := by
  induction path generalizing t t' with
  | nil => exact hfg t t' h
  | cons name path ih =>
    obtain ⟨inner, putBack, entered, inner', changed, rfl⟩ := alter_cons_eq_some_iff.mp h
    exact alter_cons_eq_some_iff.mpr ⟨inner, putBack, entered, inner', ih changed, rfl⟩

/-! ## One table -/

/-- The table with a new table inside it. -/
def place (name : String) (items : List (String × Item)) (t : Section) : Option Section :=
  if (t.get? name).isSome then none else some (t.set name (.table .header items))

variable {name key : String} {items : List (String × Item)}

/-- A table is placed exactly where nothing has its name. -/
theorem place_eq_some_iff :
    place name items t = some t' ↔ t.get? name = none ∧ t.set name (.table .header items) = t' := by
  rw [place]
  rcases t.get? name with _ | item
  · simp
  · simp

/-- Placing an empty table is opening it, where nothing has its name. -/
theorem alter_open_place (h : t.alter .implied (place name []) path = some t') :
    t.open? path name = some t' := by
  refine alter_mono (fun u u' placed => ?_) h
  obtain ⟨new, rfl⟩ := place_eq_some_iff.mp placed
  rw [new]

/-- Whether a table can be placed does not depend on what it contains. -/
theorem exists_alter_place (items' : List (String × Item))
    (h : t.alter .implied (place name items) path = some t') :
    ∃ u, t.alter .implied (place name items') path = some u := by
  induction path generalizing t t' with
  | nil =>
    obtain ⟨new, -⟩ := place_eq_some_iff.mp h
    exact ⟨_, place_eq_some_iff.mpr ⟨new, rfl⟩⟩
  | cons outer path ih =>
    obtain ⟨inner, putBack, entered, inner', placed, -⟩ := alter_cons_eq_some_iff.mp h
    obtain ⟨u, placed⟩ := ih placed
    exact ⟨_, alter_cons_eq_some_iff.mpr ⟨inner, putBack, entered, u, placed, rfl⟩⟩

/-- A key that is new is set in a table, unless dots in a key have made the table. -/
theorem assign_nil (ht : t.origin ≠ .dotted) (new : t.get? key = none) (d : Document) :
    t.assign [] key d = some (t.set key (.value d)) := by
  simp [assign, alter, ht, new]

/-- A value set in a table that has just been placed might as well have been placed with it. -/
theorem alter_assign_place (placed : t.alter .implied (place name items) path = some t')
    (new : key ∉ items.map (·.1)) (d : Document) :
    t'.alter .implied (assign [] key d) (path ++ [name]) =
      t.alter .implied (place name (items ++ [(key, .value d)])) path := by
  induction path generalizing t t' with
  | nil =>
    obtain ⟨free, rfl⟩ := place_eq_some_iff.mp placed
    have unset : (⟨.header, items⟩ : Section).get? key = none :=
      Keyed.getEntry?_eq_none_iff.mpr new
    have entered : (t.set name (.table .header items)).enter .implied name =
        some (⟨.header, items⟩, fun inner => t.set name (.table inner.origin inner.items)) := by
      simp [enter, get?_set, set_set]
    rw [List.nil_append, alter_cons, entered, Option.bind_some, alter,
      assign_nil (by simp) unset, Option.map_some, alter, place, free]
    simp [set, Keyed.setEntry_eq_append unset]
  | cons outer path ih =>
    obtain ⟨inner, putBack, entered, inner', within, rfl⟩ := alter_cons_eq_some_iff.mp placed
    have origin : inner'.origin = inner.origin := by
      refine origin_alter (fun u u' h => ?_) within
      obtain ⟨-, rfl⟩ := place_eq_some_iff.mp h
      rfl
    rw [List.cons_append, alter_cons, alter_cons, entered, (enter_putBack entered origin).2,
      Option.bind_some, Option.bind_some, ih within]

/-- The tables with a table of a text put in its place. -/
def addTable (t : Section) (p : Paragraph) : Option Section := do
  let (path, name) ← splitKey p.name
  t.alter .implied (place name (p.lines.map fun (key, leaf) => (key, .value leaf.toDocument))) path

end Section

/-! ## Statements -/

open Section

variable {path : List String} {name : String} {t root : Section} {p : Paragraph}
  {paragraphs : List Paragraph}

/-- A key is its path and its last part. -/
theorem eq_append_of_splitKey {key : List String} (h : splitKey key = some (path, name)) :
    key = path ++ [name] := by
  obtain ⟨last, hlast, pair⟩ := Option.map_eq_some_iff.mp h
  obtain ⟨rfl, rfl⟩ := Prod.mk.inj pair
  exact (List.dropLast_append_getLast? last hlast).symm

/-- The lines of a table that has just been placed might as well have been placed with it. -/
theorem foldlM_assign {items : List (String × Item)}
    (placed : t.alter .implied (place name items) path = some root) (lines : List (String × Leaf))
    (keys : (items.map (·.1) ++ lines.map (·.1)).Nodup) :
    (lines.map fun (key, leaf) => Statement.assign [key] leaf.toDocument).foldlM Progress.step
        ⟨root, path ++ [name]⟩ =
      (t.alter .implied (place name
        (items ++ lines.map fun (key, leaf) => (key, .value leaf.toDocument))) path).map
        (⟨·, path ++ [name]⟩) := by
  induction lines generalizing items root with
  | nil => simp [placed]
  | cons line lines ih =>
    obtain ⟨key, leaf⟩ := line
    have new : key ∉ items.map (·.1) := by
      intro old
      exact (List.nodup_append.mp keys).2.2 key old key List.mem_cons_self rfl
    obtain ⟨root', placed'⟩ := exists_alter_place (items ++ [(key, .value leaf.toDocument)]) placed
    have step : Progress.step ⟨root, path ++ [name]⟩ (.assign [key] leaf.toDocument) =
        some ⟨root', path ++ [name]⟩ := by
      simp [Progress.step, splitKey, alter_assign_place placed new, placed']
    rw [List.map_cons, List.foldlM_cons, step]
    have rest := ih placed' (by simpa using keys)
    simpa using rest

/-- **The statements of a table with different keys put it in its place.** -/
theorem foldlM_statements (keys : (p.lines.map (·.1)).Nodup) {progress : Progress}
    (h : progress.root.addTable p = some root) :
    p.statements.foldlM Progress.step progress = some ⟨root, p.name⟩ := by
  obtain ⟨⟨path, name⟩, split, placed⟩ := Option.bind_eq_some_iff.mp h
  have whole : p.name = path ++ [name] := eq_append_of_splitKey split
  -- The header opens the table without lines, which can be placed wherever the whole table can.
  obtain ⟨root', opened⟩ := exists_alter_place [] placed
  have step : Progress.step progress (.header p.name) = some ⟨root', p.name⟩ := by
    simp [Progress.step, split, alter_open_place opened]
  rw [Paragraph.statements, List.foldlM_cons, step, whole]
  have rest := foldlM_assign opened p.lines (by simpa using keys)
  simpa [placed] using rest

/-- The statements of several tables put one after the other in its place. -/
theorem foldlM_flatMap_statements (keys : ∀ p ∈ paragraphs, (p.lines.map (·.1)).Nodup)
    (progress : Progress) (h : paragraphs.foldlM addTable progress.root = some root) :
    ((paragraphs.flatMap Paragraph.statements).foldlM Progress.step progress).map (·.root) =
      some root := by
  induction paragraphs generalizing progress with
  | nil => simpa using h
  | cons p paragraphs ih =>
    obtain ⟨key, keys⟩ := List.forall_mem_cons.mp keys
    obtain ⟨root', added, h⟩ := Option.bind_eq_some_iff.mp h
    rw [List.flatMap_cons, List.foldlM_append, foldlM_statements key added]
    exact ih keys _ h

/-- The members of a table come in order. -/
theorem membersOf_append (items items' : List (String × Item)) :
    membersOf (items ++ items') = membersOf items ++ membersOf items' := by
  induction items with
  | nil => rfl
  | cons item items ih => rw [List.cons_append, membersOf, membersOf, ih, List.cons_append]

/-- The members that come of the lines of a table are its keys with their values. -/
theorem membersOf_lines (lines : List (String × Leaf)) :
    membersOf (lines.map fun (key, leaf) => (key, .value leaf.toDocument)) =
      lines.map fun (key, leaf) => (key, leaf.toDocument) := by
  induction lines with
  | nil => rfl
  | cons line lines ih =>
    rw [List.map_cons, membersOf, ih, List.map_cons]
    rfl

/-- **A text of tables stands for the tree that they make up**, if their names and keys do without
quotes and no table has a key twice. -/
theorem read?_text_eq_document (bare : ∀ p ∈ paragraphs, p.IsBare)
    (keys : ∀ p ∈ paragraphs, (p.lines.map (·.1)).Nodup)
    (h : paragraphs.foldlM Section.addTable (.empty .header) = some root) :
    read? (text paragraphs) = some root.document := by
  have fold := foldlM_flatMap_statements keys {} h
  obtain ⟨progress, folded, rfl⟩ := Option.map_eq_some_iff.mp fold
  rw [read?_text bare, assemble?, folded, Option.map_some]

end Toml

end DataGrid
