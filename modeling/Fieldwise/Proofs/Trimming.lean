import Fieldwise.Text.Blank
import Mathlib.Data.List.TakeWhile

/-!
# Trimming and cutting

Blanks at either end of a text do not change its trimmed form, and a text is cut at a
separator where a part without the separator ends.
-/

namespace Fieldwise.Text

/-! ### Blanks at the ends -/

/-- A text of blanks alone. -/
def Blank (cs : List Char) : Prop := ∀ c ∈ cs, isBlank c = true

theorem blank_iff_all (cs : List Char) : Blank cs ↔ cs.all isBlank = true := by
  rw [List.all_eq_true]
  rfl

instance (cs : List Char) : Decidable (Blank cs) := decidable_of_iff _ (blank_iff_all cs).symm

theorem trimStart_append_left (before cs : List Char) (h : Blank before) :
    trimStart (before ++ cs) = trimStart cs := List.dropWhile_append_of_pos h

theorem trimEnd_append_right (cs after : List Char) (h : Blank after) :
    trimEnd (cs ++ after) = trimEnd cs := by
  have hreverse : ∀ c ∈ after.reverse, isBlank c = true :=
    fun c hc => h c (List.mem_reverse.mp hc)
  simp only [trimEnd, List.reverse_append, List.dropWhile_append_of_pos hreverse]

theorem trimStart_append_of_ne_nil (cs after : List Char) (h : trimStart cs ≠ []) :
    trimStart (cs ++ after) = trimStart cs ++ after := by
  unfold trimStart at h ⊢
  rw [List.dropWhile_append]
  simp [h]

theorem trimStart_eq_nil_iff (cs : List Char) : trimStart cs = [] ↔ Blank cs :=
  List.dropWhile_eq_nil_iff

theorem trimStart_split (cs : List Char) : ∃ before, Blank before ∧ cs = before ++ trimStart cs := by
  refine ⟨cs.takeWhile isBlank, ?_, (List.takeWhile_append_dropWhile).symm⟩
  intro c hc
  exact List.mem_takeWhile_imp hc

theorem trimEnd_split (cs : List Char) : ∃ after, Blank after ∧ cs = trimEnd cs ++ after := by
  obtain ⟨before, hbefore, heq⟩ := trimStart_split cs.reverse
  refine ⟨before.reverse, fun c hc => hbefore c (List.mem_reverse.mp hc), ?_⟩
  have hreverse := congrArg List.reverse heq
  rw [List.reverse_reverse, List.reverse_append] at hreverse
  exact hreverse

theorem trim_pad (before cs after : List Char) (hbefore : Blank before) (hafter : Blank after) :
    trim (before ++ cs ++ after) = trim cs := by
  unfold trim
  rw [List.append_assoc, trimStart_append_left before _ hbefore]
  by_cases hnil : trimStart cs = []
  · have hblank : Blank (cs ++ after) := by
      intro c hc
      rcases List.mem_append.mp hc with hc | hc
      · exact (trimStart_eq_nil_iff cs).mp hnil c hc
      · exact hafter c hc
    rw [hnil, (trimStart_eq_nil_iff _).mpr hblank]
  · rw [trimStart_append_of_ne_nil cs after hnil, trimEnd_append_right _ after hafter]

theorem trim_trimStart (cs : List Char) : trim (trimStart cs) = trim cs := by
  obtain ⟨before, hbefore, heq⟩ := trimStart_split cs
  have hpad := trim_pad before (trimStart cs) [] hbefore (by intro c hc; cases hc)
  rw [List.append_nil, ← heq] at hpad
  exact hpad.symm

theorem trim_trimEnd (cs : List Char) : trim (trimEnd cs) = trim cs := by
  obtain ⟨after, hafter, heq⟩ := trimEnd_split cs
  have hpad := trim_pad [] (trimEnd cs) after (by intro c hc; cases hc) hafter
  rw [List.nil_append, ← heq] at hpad
  exact hpad.symm

theorem trim_trim (cs : List Char) : trim (trim cs) = trim cs :=
  (trim_trimEnd (trimStart cs)).trans (trim_trimStart cs)

theorem trim_eq_nil_iff (cs : List Char) : trim cs = [] ↔ Blank cs := by
  constructor
  · intro h
    obtain ⟨after, hafter, heq⟩ := trimEnd_split (trimStart cs)
    have hend : trimEnd (trimStart cs) = [] := h
    rw [hend, List.nil_append] at heq
    obtain ⟨before, hbefore, hcs⟩ := trimStart_split cs
    rw [hcs, heq]
    intro c hc
    rcases List.mem_append.mp hc with hc | hc
    · exact hbefore c hc
    · exact hafter c hc
  · intro h
    rw [trim, (trimStart_eq_nil_iff cs).mpr h]
    rfl

theorem trimEnd_append_cons (cs ds : List Char) (c : Char) (hc : isBlank c = false) :
    trimEnd (cs ++ c :: ds) = cs ++ c :: trimEnd ds := by
  have hshape : (cs ++ c :: ds).reverse = ds.reverse ++ c :: cs.reverse := by
    rw [List.reverse_append, List.reverse_cons, List.append_assoc, List.singleton_append]
  have hkept : (c :: cs.reverse).dropWhile isBlank = c :: cs.reverse :=
    trimStart_of_not_blank hc cs.reverse
  simp only [trimEnd]
  rw [hshape, List.dropWhile_append, hkept]
  split
  · rename_i hnil
    rw [List.isEmpty_iff.mp hnil]
    simp
  · simp

/-- A character that is no blank keeps apart what is lost at the two ends. -/
theorem trim_append_cons (cs ds : List Char) (c : Char) (hc : isBlank c = false) :
    trim (cs ++ c :: ds) = trimStart cs ++ c :: trimEnd ds := by
  have hstart : trimStart (cs ++ c :: ds) = trimStart cs ++ c :: ds := by
    by_cases hnil : trimStart cs = []
    · rw [trimStart_append_left cs _ ((trimStart_eq_nil_iff cs).mp hnil), hnil, List.nil_append,
        trimStart_of_not_blank hc]
    · exact trimStart_append_of_ne_nil cs _ hnil
  rw [trim, hstart, trimEnd_append_cons _ _ _ hc]

theorem mem_of_mem_trimStart (cs : List Char) (c : Char) (h : c ∈ trimStart cs) : c ∈ cs := by
  obtain ⟨before, _, heq⟩ := trimStart_split cs
  rw [heq]
  exact List.mem_append_right _ h

theorem mem_of_mem_trimEnd (cs : List Char) (c : Char) (h : c ∈ trimEnd cs) : c ∈ cs := by
  obtain ⟨after, _, heq⟩ := trimEnd_split cs
  rw [heq]
  exact List.mem_append_left _ h

theorem mem_of_mem_trim (cs : List Char) (c : Char) (h : c ∈ trim cs) : c ∈ cs :=
  mem_of_mem_trimStart cs c (mem_of_mem_trimEnd _ c h)

theorem trim_eq_self (cs : List Char) (h : ∀ c ∈ cs, isBlank c = false) : trim cs = cs := by
  have hstart : ∀ ds : List Char, (∀ c ∈ ds, isBlank c = false) → trimStart ds = ds := by
    intro ds hds
    cases ds with
    | nil => rfl
    | cons d ds => exact trimStart_of_not_blank (hds d (List.mem_cons_self ..)) ds
  have hreverse : ∀ c ∈ cs.reverse, isBlank c = false :=
    fun c hc => h c (List.mem_reverse.mp hc)
  have hend : trimStart cs.reverse = cs.reverse := hstart cs.reverse hreverse
  rw [trim, hstart cs h, trimEnd]
  rw [trimStart] at hend
  rw [hend, List.reverse_reverse]

/-! ### Cutting at a separator -/

theorem cutAt_eq_none_iff (sep : Char) (cs : List Char) : cutAt sep cs = none ↔ sep ∉ cs := by
  induction cs with
  | nil => simp [cutAt]
  | cons c cs ih =>
    by_cases h : c = sep
    · simp [cutAt, h]
    · have hne : ¬sep = c := fun he => h he.symm
      simp [cutAt, h, hne, ih]

theorem cutAt_append_cons (sep : Char) (cs ds : List Char) (h : sep ∉ cs) :
    cutAt sep (cs ++ sep :: ds) = some (cs, ds) := by
  induction cs with
  | nil => simp [cutAt]
  | cons c cs ih =>
    have hc : c ≠ sep := fun he => h (he ▸ List.mem_cons_self ..)
    have hcs : sep ∉ cs := fun hm => h (List.mem_cons_of_mem _ hm)
    simp only [List.cons_append, cutAt, hc, ↓reduceIte, ih hcs, Option.map_some]

theorem eq_of_cutAt (sep : Char) (cs before after : List Char)
    (h : cutAt sep cs = some (before, after)) : cs = before ++ sep :: after := by
  induction cs generalizing before with
  | nil => cases h
  | cons c cs ih =>
    rw [cutAt] at h
    split at h
    · rename_i hc
      cases h
      rw [hc, List.nil_append]
    · obtain ⟨parts, hparts, heq⟩ := Option.map_eq_some_iff.mp h
      cases heq
      rw [ih parts.1 hparts, List.cons_append]

theorem mem_intercalate (sep c : Char) (items : List (List Char)) (item : List Char)
    (h : item ∈ items) (hc : c ∈ item) : c ∈ [sep].intercalate items := by
  induction items with
  | nil => cases h
  | cons first rest ih =>
    by_cases hnil : rest = []
    · subst hnil
      rw [List.intercalate_singleton, ← List.mem_singleton.mp h]
      exact hc
    · rw [List.intercalate_cons_of_ne_nil hnil, List.append_assoc]
      rcases List.mem_cons.mp h with rfl | hrest
      · exact List.mem_append_left _ hc
      · exact List.mem_append_right _ (List.mem_append_right _ (ih hrest))

theorem mem_of_mem_splitOn (sep c : Char) (cs piece : List Char) (h : piece ∈ cs.splitOn sep)
    (hc : c ∈ piece) : c ∈ cs := by
  have hjoined := mem_intercalate sep c _ piece h hc
  rw [List.intercalate_splitOn] at hjoined
  exact hjoined

theorem notMem_of_mem_splitOn (sep : Char) (cs piece : List Char) (h : piece ∈ cs.splitOn sep) :
    sep ∉ piece := by
  induction cs generalizing piece with
  | nil =>
    rw [List.splitOn_nil, List.mem_singleton] at h
    simp [h]
  | cons c cs ih =>
    rw [List.splitOn_cons_eq_if_modifyHead] at h
    split at h
    · rcases List.mem_cons.mp h with rfl | h
      · simp
      · exact ih piece h
    · rename_i hne
      cases hsplit : cs.splitOn sep with
      | nil => simp [hsplit] at h
      | cons first rest =>
        rw [hsplit] at ih h
        rcases List.mem_cons.mp h with rfl | h
        · have hfirst := ih first (List.mem_cons_self ..)
          have hc : ¬sep = c := fun he => hne (beq_iff_eq.mpr he.symm)
          simp [hfirst, hc]
        · exact ih piece (List.mem_cons_of_mem _ h)

/-! ### Trimmed items -/

theorem map_trim_splitOn_trimEnd (sep : Char) (items : List (List Char)) (hne : items ≠ [])
    (hsep : isBlank sep = false) (h : ∀ item ∈ items, sep ∉ item) :
    ((trimEnd ([sep].intercalate items)).splitOn sep).map trim = items.map trim := by
  induction items with
  | nil => exact absurd rfl hne
  | cons item rest ih =>
    have hitem : sep ∉ item := h item (List.mem_cons_self ..)
    have hrest : ∀ i ∈ rest, sep ∉ i := fun i hi => h i (List.mem_cons_of_mem _ hi)
    by_cases hnil : rest = []
    · subst hnil
      have hend : sep ∉ trimEnd item := fun hm => hitem (mem_of_mem_trimEnd item sep hm)
      rw [List.intercalate_singleton, List.splitOn_eq_singleton hend, List.map_singleton,
        trim_trimEnd, List.map_singleton]
    · rw [List.intercalate_cons_of_ne_nil hnil, List.append_assoc, List.singleton_append,
        trimEnd_append_cons _ _ _ hsep, List.splitOn_append_cons_self_of_not_mem hitem,
        List.map_cons, ih hnil hrest, List.map_cons]

/-- Trimming a list in writing does not change its trimmed items. -/
theorem map_trim_splitOn_trim (sep : Char) (items : List (List Char)) (hne : items ≠ [])
    (hsep : isBlank sep = false) (h : ∀ item ∈ items, sep ∉ item) :
    ((trim ([sep].intercalate items)).splitOn sep).map trim = items.map trim := by
  cases items with
  | nil => exact absurd rfl hne
  | cons item rest =>
    have hitem : sep ∉ item := h item (List.mem_cons_self ..)
    have hrest : ∀ i ∈ rest, sep ∉ i := fun i hi => h i (List.mem_cons_of_mem _ hi)
    by_cases hnil : rest = []
    · subst hnil
      have htrim : sep ∉ trim item := fun hm => hitem (mem_of_mem_trim item sep hm)
      rw [List.intercalate_singleton, List.splitOn_eq_singleton htrim, List.map_singleton,
        List.map_singleton, trim_trim]
    · have hstart : sep ∉ trimStart item := fun hm => hitem (mem_of_mem_trimStart item sep hm)
      rw [List.intercalate_cons_of_ne_nil hnil, List.append_assoc, List.singleton_append,
        trim_append_cons _ _ _ hsep, List.splitOn_append_cons_self_of_not_mem hstart,
        List.map_cons, map_trim_splitOn_trimEnd sep rest hnil hsep hrest, List.map_cons,
        trim_trimStart]

end Fieldwise.Text
