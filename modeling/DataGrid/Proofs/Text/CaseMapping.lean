import DataGrid.Proofs.Text.CaseFolding

/-!
# Lower case and upper case, character by character

What a text becomes in lower case is put together from what its characters become, but for the capital
sigma, which looks at the text around it.

* **`leavesAlone`**: a mapping may leave a class of characters alone. It then maps no other characters
  into the class either (`mapped_of_inRanges`, `not_inRanges_of_mem_mapped`).
* **`lower_append_gap`**: no sigma looks past a blank, so a text is put into lower case piece by piece
  between its blanks.
* **`lowerChar_of_mem_lowerAfter`**: what a text becomes in lower case consists of characters that lower case
  leaves as they are. A text without a capital sigma is put into lower case character by character
  (`lowerAfter_eq_flatMap`).
* **`exists_upperChar`**: the upper-case form of a small letter starts with a capital, which becomes a small
  letter with this capital again. It need not be the same small letter.
-/

namespace DataGrid.Text

/-! ## Classes that a mapping leaves alone -/

/-- Whether a case mapping leaves a class of characters alone: it maps none of them, and no other character
to one of them. -/
def leavesAlone (ranges : List CaseRange) (expansions : List (Nat × List Nat))
    (kept : List (Nat × Nat)) : Bool :=
  spares ranges kept && !inRanges kept 0 &&
    expansions.all fun e => !inRanges kept e.1 && e.2.all fun n => !inRanges kept n

section mapped

variable {ranges : List CaseRange} {expansions : List (Nat × List Nat)} {kept : List (Nat × Nat)}
  {c d : Char}

/-- The form of a character is its expansion, or the character that its run maps it to, or itself. -/
theorem mapped_cases (ranges : List CaseRange) (expansions : List (Nat × List Nat)) (c : Char) :
    (∃ e ∈ expansions, e.1 = c.toNat ∧ mapped ranges expansions c = e.2.map Char.ofNat) ∨
      (∃ r ∈ ranges, ∃ m, r.map? c.toNat = some m ∧ mapped ranges expansions c = [Char.ofNat m]) ∨
        mapped ranges expansions c = [c] := by
  rw [mapped]
  cases expanded : expansions.lookup c.toNat with
  | some image =>
    obtain ⟨front, back, rfl, -⟩ := List.lookup_eq_some_iff.mp expanded
    exact .inl ⟨(c.toNat, image), by simp, rfl, rfl⟩
  | none =>
    cases found : ranges.findSome? (·.map? c.toNat) with
    | none => exact .inr (.inr rfl)
    | some m =>
      obtain ⟨r, listed, image⟩ := List.exists_of_findSome?_eq_some found
      exact .inr (.inl ⟨r, listed, m, image, rfl⟩)

/-- A number that is no code point stands for the character with the code point zero. -/
theorem inRanges_ofNat_eq_false {n : Nat} (zero : inRanges kept 0 = false)
    (h : inRanges kept n = false) : inRanges kept (Char.ofNat n).toNat = false := by
  by_cases valid : n.isValidChar
  · rwa [toNat_ofNat_of_isValidChar valid]
  · rwa [Char.ofNat, dif_neg valid]

/-- A character of a class that is left alone stays as it is. -/
theorem mapped_of_inRanges (alone : leavesAlone ranges expansions kept = true)
    (h : inRanges kept c.toNat = true) : mapped ranges expansions c = [c] := by
  simp only [leavesAlone, Bool.and_eq_true, List.all_eq_true, Bool.not_eq_true'] at alone
  obtain ⟨⟨runs, -⟩, expanded⟩ := alone
  rcases mapped_cases ranges expansions c with ⟨e, listed, code, -⟩ | ⟨r, listed, m, image, -⟩ | same
  · rw [← code, (expanded e listed).1] at h
    cases h
  · rw [(not_inRanges_of_map? runs listed image).1] at h
    cases h
  · exact same

/-- No character outside of a class that is left alone gets a form with a character of the class. -/
theorem not_inRanges_of_mem_mapped (alone : leavesAlone ranges expansions kept = true)
    (h : inRanges kept c.toNat = false) (mem : d ∈ mapped ranges expansions c) :
    inRanges kept d.toNat = false := by
  simp only [leavesAlone, Bool.and_eq_true, List.all_eq_true, Bool.not_eq_true'] at alone
  obtain ⟨⟨runs, zero⟩, expanded⟩ := alone
  rcases mapped_cases ranges expansions c with
    ⟨e, listed, -, form⟩ | ⟨r, listed, m, image, form⟩ | form <;> rw [form] at mem
  · obtain ⟨n, hn, rfl⟩ := List.mem_map.mp mem
    exact inRanges_ofNat_eq_false zero ((expanded e listed).2 n hn)
  · rw [List.mem_singleton.mp mem]
    exact inRanges_ofNat_eq_false zero (not_inRanges_of_map? runs listed image).2
  · rwa [List.mem_singleton.mp mem]

end mapped

/-! ## Blanks -/

section blanks

variable {b : Char} {g s u before before' : List Char}

/-- The blanks and the underscore. -/
def separatorRanges : List (Nat × Nat) := (0x5F, 0x5F) :: blankRanges

/-- Lower case leaves the separators alone. -/
theorem leavesAlone_lower : leavesAlone lowerRanges lowerExpansions separatorRanges = true := by
  decide

/-- Upper case leaves the separators alone. -/
theorem leavesAlone_upper : leavesAlone upperRanges upperExpansions separatorRanges = true := by
  decide

/-- No blank is a cased letter or a character that a sigma looks past. -/
theorem apart_blankRanges : apart blankRanges (caseIgnorableRanges ++ casedRanges) = true := by
  decide +kernel

/-- A blank stays as it is in lower case. -/
theorem lowerChar_of_isBlank (blank : isBlank b = true) : lowerChar b = [b] := by
  refine mapped_of_inRanges leavesAlone_lower (inRanges_eq_true_iff.mpr ?_)
  obtain ⟨u, hu, within⟩ := inRanges_eq_true_iff.mp blank
  exact ⟨u, List.mem_cons_of_mem _ hu, within⟩

/-- A blank is neither passed over nor a cased letter. -/
theorem startsCased_cons_of_isBlank (blank : isBlank b = true) : startsCased (b :: s) = false := by
  have neither := not_inRanges_of_apart apart_blankRanges blank
  rw [inRanges, List.any_append, Bool.or_eq_false_iff] at neither
  rw [startsCased, if_neg (Bool.not_eq_true _ ▸ neither.1)]
  exact neither.2

/-- What stands behind a blank does not count for a sigma in front of it. -/
theorem startsCased_append_of_isBlank (blank : isBlank b = true) (s u : List Char) :
    startsCased (s ++ b :: u) = startsCased s := by
  induction s with
  | nil => exact startsCased_cons_of_isBlank blank
  | cons c s ih => rw [List.cons_append, startsCased, startsCased, ih]

/-- All that counts of the text in front is whether a cased letter is the last that is not passed over. -/
theorem lowerAfter_congr (same : startsCased before = startsCased before') (s : List Char) :
    lowerAfter before s = lowerAfter before' s := by
  induction s generalizing before before' with
  | nil => rfl
  | cons c s ih =>
    have next : startsCased (c :: before) = startsCased (c :: before') := by
      rw [startsCased, startsCased, same]
    rw [lowerAfter, lowerAfter, lowerSigma, lowerSigma, same, ih next]

/-- No sigma looks past a blank. -/
theorem lowerAfter_append_of_isBlank (blank : isBlank b = true) (before s u : List Char) :
    lowerAfter before (s ++ b :: u) = lowerAfter before s ++ b :: lower u := by
  induction s generalizing before with
  | nil =>
    have noSigma : b ≠ 'Σ' := by
      rintro rfl
      exact absurd blank (by decide)
    have fresh : startsCased (b :: before) = startsCased [] := startsCased_cons_of_isBlank blank
    show lowerAfter before (b :: u) = b :: lower u
    rw [lowerAfter, if_neg noSigma, lowerChar_of_isBlank blank, lowerAfter_congr fresh]
    rfl
  | cons c s ih =>
    rw [List.cons_append, lowerAfter, lowerAfter, ih, lowerSigma, lowerSigma,
      startsCased_append_of_isBlank blank, List.append_assoc]

/-- **A text is put into lower case piece by piece between its blanks.** -/
theorem lower_append_gap (nonempty : g ≠ []) (blanks : ∀ b ∈ g, isBlank b = true) (s u : List Char) :
    lower (s ++ g ++ u) = lower s ++ g ++ lower u := by
  induction g generalizing s with
  | nil => exact absurd rfl nonempty
  | cons b g ih =>
    rw [List.forall_mem_cons] at blanks
    have first : lower (s ++ b :: (g ++ u)) = lower s ++ b :: lower (g ++ u) :=
      lowerAfter_append_of_isBlank blanks.1 [] s (g ++ u)
    rw [List.append_assoc, List.cons_append, first, List.append_assoc, List.cons_append]
    cases g with
    | nil => rfl
    | cons b' g =>
      have others := ih (List.cons_ne_nil b' g) blanks.2 []
      rw [List.nil_append] at others
      rw [others]
      rfl

end blanks

/-! ## Texts in lower case -/

section lowered

variable {c d : Char} {s before : List Char}

/-- No run into lower case maps to a code point that a run nearby maps on. -/
theorem misses_lowerRanges :
    (lowerRanges.all fun r => (near lowerRanges r.target r.lastTarget).all r.misses) = true := by
  decide

/-- No run maps the capital I with a dot or maps to it. -/
theorem spares_lowerExpansions : spares lowerRanges [(0x130, 0x130)] = true := by decide

/-- The characters of an expansion in lower case are in lower case. -/
theorem lowerChar_of_mem_lowerExpansions {e : Nat × List Nat} (listed : e ∈ lowerExpansions)
    (h : d ∈ e.2.map Char.ofNat) : lowerChar d = [d] := by
  have letter : lowerChar 'i' = ['i'] := by decide
  have dot : lowerChar '\u0307' = ['\u0307'] := by decide
  obtain rfl := List.mem_singleton.mp listed
  rcases List.mem_cons.mp h with rfl | h
  · exact letter
  · obtain rfl := List.mem_singleton.mp h
    exact dot

/-- The capital I with a dot is the only letter that has an expansion in lower case. -/
theorem lookup_lowerExpansions {n : Nat} (h : inRanges [(0x130, 0x130)] n = false) :
    lowerExpansions.lookup n = none := by
  refine List.lookup_eq_none_iff.mpr fun e he => ?_
  obtain rfl := List.mem_singleton.mp he
  rw [bne_iff_ne]
  rintro rfl
  cases h

/-- The form of a character that has no expansion. -/
theorem mapped_of_lookup_eq_none {ranges : List CaseRange} {expansions : List (Nat × List Nat)}
    (plain : expansions.lookup c.toNat = none) :
    mapped ranges expansions c = [Char.ofNat (image ranges c.toNat)] := by
  rw [mapped, plain, image]
  cases ranges.findSome? (·.map? c.toNat) with
  | none => exact congrArg (fun d => [d]) (Char.ofNat_toNat c).symm
  | some m => rfl

/-- What a character becomes in lower case is in lower case. -/
theorem lowerChar_of_mem_lowerChar (h : d ∈ lowerChar c) : lowerChar d = [d] := by
  rcases mapped_cases lowerRanges lowerExpansions c with
    ⟨e, listed, -, form⟩ | ⟨r, listed, m, mapped, form⟩ | form <;> rw [lowerChar, form] at h
  · exact lowerChar_of_mem_lowerExpansions listed h
  · rw [List.mem_singleton.mp h]
    have code := toNat_ofNat_of_isValidChar (isValidChar_of_lowerRanges listed mapped)
    have plain := lookup_lowerExpansions (not_inRanges_of_map? spares_lowerExpansions listed mapped).2
    have missed := List.all_eq_true.mp misses_lowerRanges r listed
    rw [← code] at plain
    rw [lowerChar, mapped_of_lookup_eq_none plain, code, image_eq_self_of_misses missed mapped]
  · obtain rfl := List.mem_singleton.mp h
    exact form

/-- By itself a capital sigma becomes the small letter that stands inside of words. -/
theorem lowerChar_sigma : lowerChar 'Σ' = ['σ'] := by decide

/-- Both lower-case forms of a capital sigma are in lower case. -/
theorem lowerChar_lowerSigma (before after : List Char) :
    lowerChar (lowerSigma before after) = [lowerSigma before after] := by
  have final : lowerChar 'ς' = ['ς'] := by decide
  have inner : lowerChar 'σ' = ['σ'] := by decide
  rw [lowerSigma]
  split
  · exact final
  · exact inner

/-- **What a text becomes in lower case consists of characters that lower case leaves as they are.** -/
theorem lowerChar_of_mem_lowerAfter (h : d ∈ lowerAfter before s) : lowerChar d = [d] := by
  induction s generalizing before with
  | nil => cases h
  | cons c s ih =>
    rw [lowerAfter] at h
    rcases List.mem_append.mp h with here | later
    · split at here
      · rw [List.mem_singleton.mp here, lowerChar_lowerSigma]
      · exact lowerChar_of_mem_lowerChar here
    · exact ih later

/-- A character that lower case leaves as it is is no capital sigma. -/
theorem ne_sigma_of_lowerChar (h : lowerChar c = [c]) : c ≠ 'Σ' := by
  rintro rfl
  rw [lowerChar_sigma] at h
  exact absurd h (by decide)

/-- A text without a capital sigma is put into lower case character by character. -/
theorem lowerAfter_eq_flatMap (noSigma : 'Σ' ∉ s) (before : List Char) :
    lowerAfter before s = s.flatMap lowerChar := by
  induction s generalizing before with
  | nil => rfl
  | cons c s ih =>
    rw [List.mem_cons, not_or] at noSigma
    rw [lowerAfter, if_neg (Ne.symm noSigma.1), ih noSigma.2, List.flatMap_cons]

/-- Characters that lower case leaves as they are make up a text that it leaves as it is. -/
theorem flatMap_lowerChar_eq_self (small : ∀ c ∈ s, lowerChar c = [c]) : s.flatMap lowerChar = s := by
  induction s with
  | nil => rfl
  | cons c s ih =>
    rw [List.forall_mem_cons] at small
    rw [List.flatMap_cons, small.1, ih small.2]
    rfl

/-- The first character of a text is put into lower case by itself. -/
theorem lower_cons (c : Char) (s : List Char) : lower (c :: s) = lowerChar c ++ lowerAfter [c] s := by
  rw [lower, lowerAfter]
  split
  · rename_i sigma
    rw [sigma, lowerChar_sigma]
    rfl
  · rfl

end lowered

/-! ## Upper case and back -/

section raised

variable {c : Char}

/-- Whether a character becomes one character in lower case, and this becomes it again in upper case. -/
def Returns (c : Char) : Prop := ∃ d, lowerChar c = [d] ∧ upperChar d = [c]

namespace CaseRange

/-- Whether a code point is that of a small letter with the capital at another one. -/
def hasCapital (small capital : Nat) : Bool :=
  Nat.blt small 0xD800 && image (near upperRanges small small) small == capital &&
    (upperExpansions.lookup small).isNone

/-- Whether the images of a run are characters that return. Most return by way of the character that they
are the image of. -/
def imagesReturn (r : CaseRange) : Bool :=
  let nearby := near lowerRanges r.target r.lastTarget
  r.hasCharacters &&
    (nearby.head?.any (·.includes r.inverse) || (List.range (r.last - r.first + 1)).all fun k =>
      k % r.stride != 0 || image nearby (r.target + k) == r.first + k ||
        hasCapital (image nearby (r.target + k)) (r.target + k))

variable {r : CaseRange} {n m : Nat}

/-- The check of a run says of each character that it maps: the image is a character, and it returns by
way of the character that it comes from or by way of another one. -/
theorem imagesReturn_spec (h : r.imagesReturn = true) (mapped : r.map? n = some m) :
    m.isValidChar ∧ (image lowerRanges m = n ∨ hasCapital (image lowerRanges m) m = true) := by
  obtain ⟨characters, back⟩ := Bool.and_eq_true_iff.mp h
  refine ⟨isValidChar_of_hasCharacters characters mapped, ?_⟩
  rcases Bool.or_eq_true_iff.mp back with inverted | back
  · exact .inl (image_eq_of_includes inverted (map?_inverse mapped))
  · have bounds := target_bounds mapped
    obtain ⟨⟨first, last, step⟩, rfl⟩ := map?_eq_some_iff.mp mapped
    have within : n - r.first ≤ r.last - r.first := Nat.sub_le_sub_right last _
    have here := List.all_eq_true.mp back (n - r.first) (List.mem_range.mpr (Nat.lt_succ_of_le within))
    rw [Nat.add_sub_cancel' first, step, image_near bounds.1 bounds.2] at here
    simpa using here

end CaseRange

/-- All runs into upper case pass the check. -/
theorem imagesReturn_upperRanges : upperRanges.all CaseRange.imagesReturn = true := by
  decide +kernel

/-- No run into upper case maps the capital I with a dot or maps to it. -/
theorem spares_upperRanges : spares upperRanges [(0x130, 0x130)] = true := by decide

/-- The first code point of an expansion is one with a small letter that it is the capital of, and no other
one is that of a capital sigma. -/
theorem returns_upperExpansions :
    (upperExpansions.all fun e => match e.2 with
      | [] => false
      | n :: others => Nat.blt n 0xD800 && !inRanges [(0x130, 0x130)] n &&
          CaseRange.hasCapital (image (near lowerRanges n n) n) n &&
            !(others.map Char.ofNat).contains 'Σ') = true := by
  decide +kernel

/-- No character disappears in upper case. -/
theorem upperChar_ne_nil (c : Char) : upperChar c ≠ [] := by
  rcases mapped_cases upperRanges upperExpansions c with
    ⟨⟨code, image⟩, listed, -, form⟩ | ⟨r, listed, m, -, form⟩ | form <;> rw [upperChar, form]
  · have returns := List.all_eq_true.mp returns_upperExpansions _ listed
    intro none
    rw [List.map_eq_nil_iff.mp none] at returns
    cases returns
  · exact List.cons_ne_nil _ _
  · exact List.cons_ne_nil _ _

/-- A character returns that is the capital of its small letter. -/
theorem returns_of_hasCapital {n : Nat} (valid : n.isValidChar) (plain : lowerExpansions.lookup n = none)
    (h : CaseRange.hasCapital (image lowerRanges n) n = true) : Returns (Char.ofNat n) := by
  have code := toNat_ofNat_of_isValidChar valid
  simp only [CaseRange.hasCapital, Bool.and_eq_true, Nat.blt_eq, beq_iff_eq,
    Option.isNone_iff_eq_none] at h
  obtain ⟨⟨low, capital⟩, single⟩ := h
  have code' := toNat_ofNat_of_isValidChar (.inl low)
  rw [image_near (Nat.le_refl _) (Nat.le_refl _)] at capital
  refine ⟨Char.ofNat (image lowerRanges n), ?_, ?_⟩
  · rw [← code] at plain
    rw [lowerChar, mapped_of_lookup_eq_none plain, code]
  · rw [← code'] at single
    rw [upperChar, mapped_of_lookup_eq_none single, code', capital]

/-- What a run maps a character to returns. -/
theorem returns_of_map? {r : CaseRange} (listed : r ∈ upperRanges) {m : Nat}
    (mapped : r.map? c.toNat = some m) (form : upperChar c = [Char.ofNat m]) : Returns (Char.ofNat m) := by
  obtain ⟨valid, back⟩ :=
    CaseRange.imagesReturn_spec (List.all_eq_true.mp imagesReturn_upperRanges r listed) mapped
  have plain := lookup_lowerExpansions (not_inRanges_of_map? spares_upperRanges listed mapped).2
  -- The way back leads to the character itself, or to another one with the same capital.
  rcases back with same | other
  · have code := toNat_ofNat_of_isValidChar valid
    rw [← code] at plain
    refine ⟨c, ?_, form⟩
    rw [lowerChar, mapped_of_lookup_eq_none plain, code, same, Char.ofNat_toNat]
  · exact returns_of_hasCapital valid plain other

/-- **The upper-case form of a small letter starts with a character that returns.** No other character of
it is a capital sigma. -/
theorem exists_upperChar (small : lowerChar c = [c]) :
    ∃ C s, upperChar c = C :: s ∧ Returns C ∧ 'Σ' ∉ s := by
  rcases mapped_cases upperRanges upperExpansions c with
    ⟨⟨code, image⟩, listed, -, form⟩ | ⟨r, listed, m, mapped, form⟩ | form
  · have returns := List.all_eq_true.mp returns_upperExpansions _ listed
    cases image with
    | nil => cases returns
    | cons n others =>
      simp only [Bool.and_eq_true, Nat.blt_eq, Bool.not_eq_true', ← Bool.not_eq_true (List.contains _ _),
        List.contains_iff_mem, image_near (Nat.le_refl n) (Nat.le_refl n)] at returns
      obtain ⟨⟨⟨low, undotted⟩, capital⟩, noSigma⟩ := returns
      exact ⟨Char.ofNat n, others.map Char.ofNat, form,
        returns_of_hasCapital (.inl low) (lookup_lowerExpansions undotted) capital, noSigma⟩
  · exact ⟨Char.ofNat m, [], form, returns_of_map? listed mapped form, List.not_mem_nil⟩
  · exact ⟨c, [], form, ⟨c, small, form⟩, List.not_mem_nil⟩

end raised

end DataGrid.Text
