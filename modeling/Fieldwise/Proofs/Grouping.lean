import Fieldwise.FieldMap
import Mathlib.Data.List.Induction

/-!
# Grouping by name

A list is grouped by a name that every item has: the names in the order in which they
first appear, and under each name its items in the order of the list. Pushing the items
one by one into a map gives exactly these groups, and reading the groups one after the
other gives every item once. A list that comes name by name is its own regrouping.
-/

namespace Fieldwise

universe u v

/-! ### Maps by their look-up -/

theorem Entries.get?_of_mem {α : Type u} {entries : List (String × α)} {key : String} {a : α}
    (h : (Entries.keys entries).Nodup) (hmem : (key, a) ∈ entries) :
    Entries.get? key entries = some a := by
  induction entries with
  | nil => cases hmem
  | cons entry rest ih =>
    obtain ⟨k, b⟩ := entry
    have hnodup : k ∉ Entries.keys rest ∧ (Entries.keys rest).Nodup := List.nodup_cons.mp h
    rcases List.mem_cons.mp hmem with heq | hrest
    · cases heq
      simp only [Entries.get?, ↓reduceIte]
    · have hne : k ≠ key := by
        rintro rfl
        exact hnodup.1 (List.mem_map_of_mem hrest)
      simp only [Entries.get?, hne, ↓reduceIte]
      exact ih hnodup.2 hrest

theorem Entries.get?_eq_none_iff {α : Type u} (key : String) (entries : List (String × α)) :
    Entries.get? key entries = none ↔ key ∉ Entries.keys entries := by
  induction entries with
  | nil => exact iff_of_true rfl List.not_mem_nil
  | cons entry rest ih =>
    obtain ⟨k, a⟩ := entry
    have hkeys : Entries.keys ((k, a) :: rest) = k :: Entries.keys rest := rfl
    rw [hkeys, List.mem_cons, not_or]
    by_cases hk : k = key
    · simp [Entries.get?, hk]
    · have hne : ¬key = k := fun h => hk h.symm
      simp only [Entries.get?, hk, ↓reduceIte, ih, hne, not_false_eq_true, true_and]

theorem Entries.eq_map_get? {α : Type u} (d : α) (entries : List (String × α))
    (h : (Entries.keys entries).Nodup) :
    entries = (Entries.keys entries).map fun k => (k, (Entries.get? k entries).getD d) := by
  have hself : entries.map (fun entry => (entry.1, (Entries.get? entry.1 entries).getD d)) =
      entries.map id := by
    apply List.map_congr_left
    rintro ⟨k, a⟩ hmem
    rw [Entries.get?_of_mem h hmem]
    rfl
  rw [List.map_id] at hself
  rw [Entries.keys, List.map_map]
  exact hself.symm

namespace Grouping

variable {α : Type u} {β : Type v} (key : α → String)

/-! ### Groups -/

/-- The names of the items, each where it first appears. -/
def names (xs : List α) : List String := (xs.map key).eraseDups

/-- The items with a name, in the order of the list. -/
def under (name : String) (xs : List α) : List α := xs.filter fun x => key x = name

/-- The names, each with its items. -/
def groups (xs : List α) : List (String × List α) :=
  (names key xs).map fun name => (name, under key name xs)

/-- The items name by name. -/
def regrouped (xs : List α) : List α := (names key xs).flatMap fun name => under key name xs

theorem mem_names (name : String) (xs : List α) :
    name ∈ names key xs ↔ ∃ x ∈ xs, key x = name := by
  simp only [names, List.mem_eraseDups, List.mem_map]

theorem key_of_mem_under (name : String) (xs : List α) (x : α) (h : x ∈ under key name xs) :
    key x = name := by
  simpa using (List.mem_filter.mp h).2

theorem under_ne_nil (name : String) (xs : List α) (h : name ∈ names key xs) :
    under key name xs ≠ [] := by
  obtain ⟨x, hx, hk⟩ := (mem_names key name xs).mp h
  exact List.ne_nil_of_mem (List.mem_filter.mpr ⟨hx, decide_eq_true hk⟩)

theorem under_eq_nil (name : String) (xs : List α) (h : name ∉ names key xs) :
    under key name xs = [] := by
  apply List.filter_eq_nil_iff.mpr
  intro x hx hk
  exact h ((mem_names key name xs).mpr ⟨x, hx, of_decide_eq_true hk⟩)

theorem groups_keys (xs : List α) : Entries.keys (groups key xs) = names key xs := by
  simp only [Entries.keys, groups, List.map_map, Function.comp_def, List.map_id']

theorem groups_values (xs : List α) :
    ((groups key xs).map Prod.snd).flatten = regrouped key xs := by
  simp only [groups, regrouped, List.map_map, Function.comp_def, List.flatMap]

/-! ### One item more -/

theorem names_concat (xs : List α) (x : α) :
    names key (xs ++ [x]) =
      if key x ∈ names key xs then names key xs else names key xs ++ [key x] := by
  simp only [names, List.map_append, List.map_cons, List.map_nil, List.eraseDups_append,
    List.mem_eraseDups]
  split
  · rename_i h
    have hgone : [key x].removeAll (xs.map key) = [] := by
      simp only [List.removeAll, List.filter_eq_nil_iff, List.mem_singleton]
      rintro y rfl
      simpa using h
    rw [hgone, List.eraseDups_nil, List.append_nil]
  · rename_i h
    have hkept : [key x].removeAll (xs.map key) = [key x] := by
      apply List.filter_eq_self.mpr
      intro y hy
      rw [List.mem_singleton.mp hy]
      simpa using h
    rw [hkept]
    rfl

theorem under_append (name : String) (xs ys : List α) :
    under key name (xs ++ ys) = under key name xs ++ under key name ys := List.filter_append ..

theorem under_concat (name : String) (xs : List α) (x : α) :
    under key name (xs ++ [x]) =
      under key name xs ++ if name = key x then [x] else [] := by
  by_cases h : name = key x
  · simp [under, h]
  · have hne : ¬key x = name := fun he => h he.symm
    simp [under, h, hne]

/-! ### Two lists -/

theorem names_append (xs ys : List α) :
    names key (xs ++ ys) =
      names key xs ++ (names key ys).filter fun name => name ∉ names key xs := by
  induction ys using List.reverseRecOn with
  | nil => simp [names]
  | append_singleton ys y ih =>
    have hmem : key y ∈ names key (xs ++ ys) ↔ key y ∈ names key xs ∨ key y ∈ names key ys := by
      simp only [mem_names, List.mem_append, or_and_right, exists_or]
    rw [← List.append_assoc, names_concat, names_concat]
    by_cases hagain : key y ∈ names key ys
    · rw [if_pos (hmem.mpr (Or.inr hagain)), if_pos hagain, ih]
    · by_cases hbefore : key y ∈ names key xs
      · rw [if_pos (hmem.mpr (Or.inl hbefore)), if_neg hagain, ih, List.filter_append]
        simp [hbefore]
      · have hnew : key y ∉ names key (xs ++ ys) := fun h => (hmem.mp h).elim hbefore hagain
        rw [if_neg hnew, if_neg hagain, ih, List.filter_append]
        simp [hbefore]

theorem names_append_of_disjoint (xs ys : List α) (h : ∀ x ∈ xs, ∀ y ∈ ys, key x ≠ key y) :
    names key (xs ++ ys) = names key xs ++ names key ys := by
  have hkept : (names key ys).filter (fun name => name ∉ names key xs) = names key ys := by
    apply List.filter_eq_self.mpr
    intro name hname
    obtain ⟨y, hy, rfl⟩ := (mem_names key name ys).mp hname
    apply decide_eq_true
    intro hmem
    obtain ⟨x, hx, he⟩ := (mem_names key (key y) xs).mp hmem
    exact h x hx y hy he
  rw [names_append, hkept]

/-- The groups of the first list, each with the items of the second at its end, and after them the
groups of the second that have new names. -/
theorem groups_append (xs ys : List α) :
    groups key (xs ++ ys) =
      ((groups key xs).map fun g => (g.1, g.2 ++ under key g.1 ys)) ++
        (groups key ys).filter fun g => g.1 ∉ names key xs := by
  have hold : ((names key xs).map fun name => (name, under key name (xs ++ ys))) =
      (groups key xs).map fun g => (g.1, g.2 ++ under key g.1 ys) := by
    simp only [groups, List.map_map, Function.comp_def, under_append]
  have hnew : (((names key ys).filter fun name => name ∉ names key xs).map fun name =>
      (name, under key name (xs ++ ys))) = (groups key ys).filter fun g => g.1 ∉ names key xs := by
    rw [groups, List.filter_map]
    apply List.map_congr_left
    intro name hname
    have hfresh : name ∉ names key xs := of_decide_eq_true (List.mem_filter.mp hname).2
    rw [under_append, under_eq_nil key name xs hfresh, List.nil_append]
  rw [groups, names_append, List.map_append, hold, hnew]

/-! ### Pushing items into a map -/

/-- The map that the items make when each is pushed under its name. -/
def collect (f : α → β) (xs : List α) : FieldMap (List β) :=
  xs.foldl (fun m x => m.push (key x) (f x)) .empty

theorem collect_concat (f : α → β) (xs : List α) (x : α) :
    collect key f (xs ++ [x]) = (collect key f xs).push (key x) (f x) := by
  simp only [collect, List.foldl_append, List.foldl_cons, List.foldl_nil]

theorem collect_keys (f : α → β) (xs : List α) : (collect key f xs).keys = names key xs := by
  -- A name that appears again keeps its place in the map and among the names alike.
  induction xs using List.reverseRecOn with
  | nil => rfl
  | append_singleton xs x ih =>
    rw [collect_concat, FieldMap.keys_push, names_concat, ih]

theorem collect_get? (f : α → β) (xs : List α) (name : String) :
    ((collect key f xs).get? name).getD [] = (under key name xs).map f := by
  induction xs using List.reverseRecOn with
  | nil => rfl
  | append_singleton xs x ih =>
    rw [collect_concat, FieldMap.get?_push, under_concat]
    by_cases hn : name = key x
    · subst hn
      simp only [↓reduceIte, Option.getD_some, ih, List.map_append, List.map_cons, List.map_nil]
    · simp only [hn, ↓reduceIte, List.append_nil, ih]

/-- Pushing every item under its name makes the groups. -/
theorem collect_entries (f : α → β) (xs : List α) :
    (collect key f xs).entries = (groups key xs).map fun g => (g.1, g.2.map f) := by
  have hentries := Entries.eq_map_get? [] (collect key f xs).entries (collect key f xs).distinct
  have hkeys : Entries.keys (collect key f xs).entries = names key xs := collect_keys key f xs
  rw [hentries, hkeys, groups, List.map_map]
  apply List.map_congr_left
  intro name _
  exact congrArg (Prod.mk name) (collect_get? key f xs name)

theorem names_nodup (xs : List α) : (names key xs).Nodup := by
  rw [← collect_keys key id xs]
  exact (collect key id xs).nodup_keys

/-! ### Nothing is lost -/

theorem flatMap_under_perm (ks : List String) (xs : List α) (h : ks.Nodup) :
    (ks.flatMap fun k => under key k xs).Perm (xs.filter fun x => key x ∈ ks) := by
  induction ks with
  | nil => simp
  | cons k ks ih =>
    have hk : k ∉ ks ∧ ks.Nodup := List.nodup_cons.mp h
    have hsplit := List.filter_append_perm (fun x => decide (key x = k))
      (xs.filter fun x => key x ∈ k :: ks)
    have hfirst : (xs.filter fun x => key x ∈ k :: ks).filter (fun x => decide (key x = k)) =
        under key k xs := by
      rw [List.filter_filter]
      apply List.filter_congr
      intro x _
      by_cases hx : key x = k <;> simp [hx]
    have hothers : (xs.filter fun x => key x ∈ k :: ks).filter (fun x => !decide (key x = k)) =
        xs.filter fun x => key x ∈ ks := by
      rw [List.filter_filter]
      apply List.filter_congr
      intro x _
      by_cases hx : key x = k
      · simp [hx, hk.1]
      · simp [hx]
    rw [hfirst, hothers] at hsplit
    rw [List.flatMap_cons]
    exact ((ih hk.2).append_left _).trans hsplit

/-- Reading name by name gives every item, and each as often as it was there. -/
theorem regrouped_perm (xs : List α) : (regrouped key xs).Perm xs := by
  have hall : (xs.filter fun x => key x ∈ names key xs) = xs := by
    apply List.filter_eq_self.mpr
    intro x hx
    exact decide_eq_true ((mem_names key (key x) xs).mpr ⟨x, hx, rfl⟩)
  have hperm := flatMap_under_perm key (names key xs) xs (names_nodup key xs)
  rw [hall] at hperm
  exact hperm

theorem regrouped_length (xs : List α) : (regrouped key xs).length = xs.length :=
  (regrouped_perm key xs).length_eq

theorem groups_eq_nil_iff (xs : List α) : groups key xs = [] ↔ xs = [] := by
  constructor
  · intro h
    have hnames : names key xs = [] := List.map_eq_nil_iff.mp h
    have hlength := regrouped_length key xs
    rw [regrouped, hnames] at hlength
    exact List.length_eq_zero_iff.mp hlength.symm
  · rintro rfl
    rfl

theorem names_perm (xs ys : List α) (h : xs.Perm ys) : (names key xs).Perm (names key ys) := by
  apply (List.perm_ext_iff_of_nodup (names_nodup key xs) (names_nodup key ys)).mpr
  intro name
  simp only [mem_names, h.mem_iff]

theorem under_perm (name : String) (xs ys : List α) (h : xs.Perm ys) :
    (under key name xs).Perm (under key name ys) := h.filter _

/-! ### Lists that come name by name -/

variable (ks : List String) (g : String → List α)

theorem names_eq_singleton (name : String) (xs : List α) (hne : xs ≠ [])
    (hxs : ∀ x ∈ xs, key x = name) : names key xs = [name] := by
  induction xs using List.reverseRecOn with
  | nil => exact absurd rfl hne
  | append_singleton xs x ih =>
    have hx : key x = name := hxs x (List.mem_append_right _ (List.mem_singleton_self x))
    have hinit : ∀ y ∈ xs, key y = name := fun y hy => hxs y (List.mem_append_left _ hy)
    rw [names_concat, hx]
    by_cases hnil : xs = []
    · subst hnil
      simp [names]
    · rw [ih hnil hinit]
      simp

theorem names_flatMap (hks : ks.Nodup) (hg : ∀ k ∈ ks, ∀ x ∈ g k, key x = k) :
    names key (ks.flatMap g) = ks.filter fun k => !(g k).isEmpty := by
  induction ks with
  | nil => rfl
  | cons k ks ih =>
    have hk : k ∉ ks ∧ ks.Nodup := List.nodup_cons.mp hks
    have hhead : ∀ x ∈ g k, key x = k := hg k (List.mem_cons_self ..)
    have htail : ∀ n ∈ ks, ∀ x ∈ g n, key x = n := fun n hn => hg n (List.mem_cons_of_mem _ hn)
    have hdisjoint : ∀ x ∈ g k, ∀ y ∈ ks.flatMap g, key x ≠ key y := by
      intro x hx y hy he
      obtain ⟨n, hn, hyn⟩ := List.mem_flatMap.mp hy
      rw [hhead x hx, htail n hn y hyn] at he
      exact hk.1 (he ▸ hn)
    rw [List.flatMap_cons, names_append_of_disjoint key _ _ hdisjoint, ih hk.2 htail]
    by_cases hnil : g k = []
    · simp [hnil, names]
    · rw [names_eq_singleton key k (g k) hnil hhead]
      simp [hnil]

theorem under_flatMap (hks : ks.Nodup) (hg : ∀ k ∈ ks, ∀ x ∈ g k, key x = k) (name : String)
    (hname : name ∈ ks) : under key name (ks.flatMap g) = g name := by
  induction ks with
  | nil => exact absurd hname (List.not_mem_nil)
  | cons k ks ih =>
    have hk : k ∉ ks ∧ ks.Nodup := List.nodup_cons.mp hks
    have hhead : ∀ x ∈ g k, key x = k := hg k (List.mem_cons_self ..)
    have htail : ∀ n ∈ ks, ∀ x ∈ g n, key x = n := fun n hn => hg n (List.mem_cons_of_mem _ hn)
    rw [List.flatMap_cons, under_append]
    rcases List.mem_cons.mp hname with rfl | hmem
    · have hself : under key name (g name) = g name :=
        List.filter_eq_self.mpr fun x hx => decide_eq_true (hhead x hx)
      have hnone : under key name (ks.flatMap g) = [] := by
        apply List.filter_eq_nil_iff.mpr
        intro x hx hxn
        obtain ⟨n, hn, hxg⟩ := List.mem_flatMap.mp hx
        rw [htail n hn x hxg] at hxn
        exact hk.1 (of_decide_eq_true hxn ▸ hn)
      rw [hself, hnone, List.append_nil]
    · have hne : name ≠ k := by
        rintro rfl
        exact hk.1 hmem
      have hnone : under key name (g k) = [] := by
        apply List.filter_eq_nil_iff.mpr
        intro x hx hxn
        rw [hhead x hx] at hxn
        exact hne (of_decide_eq_true hxn).symm
      rw [hnone, List.nil_append, ih hk.2 htail hmem]

theorem flatMap_filter_of_nil (p : String → Bool) (h : ∀ k, p k = false → g k = []) :
    (ks.filter p).flatMap g = ks.flatMap g := by
  induction ks with
  | nil => rfl
  | cons k ks ih =>
    cases hk : p k with
    | true => simp only [List.filter_cons, hk, ↓reduceIte, List.flatMap_cons, ih]
    | false =>
      have hnil := h k hk
      simp only [List.filter_cons, hk, Bool.false_eq_true, ↓reduceIte, List.flatMap_cons, hnil,
        List.nil_append, ih]

theorem flatMap_filter_ne_nil :
    (ks.filter fun k => !(g k).isEmpty).flatMap g = ks.flatMap g :=
  flatMap_filter_of_nil ks g _ fun k hk => by simpa using hk

theorem groups_flatMap (hks : ks.Nodup) (hg : ∀ k ∈ ks, ∀ x ∈ g k, key x = k) :
    groups key (ks.flatMap g) =
      (ks.filter fun k => !(g k).isEmpty).map fun k => (k, g k) := by
  rw [groups, names_flatMap key ks g hks hg]
  apply List.map_congr_left
  intro k hk
  rw [under_flatMap key ks g hks hg k (List.mem_filter.mp hk).1]

/-- A list that comes name by name is not changed by regrouping. -/
theorem regrouped_flatMap (hks : ks.Nodup) (hg : ∀ k ∈ ks, ∀ x ∈ g k, key x = k) :
    regrouped key (ks.flatMap g) = ks.flatMap g := by
  rw [← groups_values, groups_flatMap key ks g hks hg, List.map_map]
  exact flatMap_filter_ne_nil ks g

/-! ### Grouping what was regrouped -/

theorem names_regrouped (xs : List α) : names key (regrouped key xs) = names key xs := by
  have hunder : ∀ k ∈ names key xs, ∀ x ∈ under key k xs, key x = k :=
    fun k _ => key_of_mem_under key k xs
  rw [regrouped, names_flatMap key _ _ (names_nodup key xs) hunder]
  apply List.filter_eq_self.mpr
  intro k hk
  simpa using under_ne_nil key k xs hk

theorem under_regrouped (name : String) (xs : List α) :
    under key name (regrouped key xs) = under key name xs := by
  have hunder : ∀ k ∈ names key xs, ∀ x ∈ under key k xs, key x = k :=
    fun k _ => key_of_mem_under key k xs
  by_cases hname : name ∈ names key xs
  · exact under_flatMap key _ _ (names_nodup key xs) hunder name hname
  · have hgone : name ∉ names key (regrouped key xs) := by
      rw [names_regrouped]
      exact hname
    rw [under_eq_nil key name xs hname, under_eq_nil key name _ hgone]

/-- Reading the groups one after the other and grouping again gives the same groups. -/
theorem groups_regrouped (xs : List α) : groups key (regrouped key xs) = groups key xs := by
  rw [groups, groups, names_regrouped]
  apply List.map_congr_left
  intro name _
  rw [under_regrouped]

/-! ### Leaving a name out -/

theorem under_filter (p : α → Bool) (name : String) (xs : List α) :
    under key name (xs.filter p) = (under key name xs).filter p := by
  rw [under, under, List.filter_filter, List.filter_filter]
  apply List.filter_congr
  intro x _
  exact Bool.and_comm _ _

theorem filter_ne_eq_nil (name : String) (xs : List α) (h : ∀ x ∈ xs, key x = name) :
    xs.filter (fun x => key x ≠ name) = [] := by
  apply List.filter_eq_nil_iff.mpr
  intro x hx
  simp [h x hx]

theorem names_filter_ne (name : String) (xs : List α) :
    names key (xs.filter fun x => key x ≠ name) = (names key xs).filter fun n => n ≠ name := by
  induction xs using List.reverseRecOn with
  | nil => rfl
  | append_singleton xs x ih =>
    rw [List.filter_append, names_concat]
    by_cases hx : key x = name
    · have hnone : [x].filter (fun x => key x ≠ name) = [] := by simp [hx]
      rw [hnone, List.append_nil, ih]
      split
      · rfl
      · simp [hx]
    · have hkept : [x].filter (fun x => key x ≠ name) = [x] := by simp [hx]
      rw [hkept, names_concat, ih]
      by_cases hmem : key x ∈ names key xs
      · simp [hmem, hx]
      · simp [hmem, hx]

theorem groups_filter_ne (name : String) (xs : List α) :
    (groups key xs).filter (fun g => g.1 ≠ name) =
      groups key (xs.filter fun x => key x ≠ name) := by
  rw [groups, groups, List.filter_map, names_filter_ne]
  apply List.map_congr_left
  intro k hk
  have hne : k ≠ name := by simpa using (List.mem_filter.mp hk).2
  have hkept : (under key k xs).filter (fun x => key x ≠ name) = under key k xs := by
    apply List.filter_eq_self.mpr
    intro x hx
    rw [key_of_mem_under key k xs x hx]
    exact decide_eq_true hne
  rw [under_filter, hkept]

/-- Regrouping keeps the order of the items of the other names. -/
theorem regrouped_filter_ne (name : String) (xs : List α) :
    (regrouped key xs).filter (fun x => key x ≠ name) =
      regrouped key (xs.filter fun x => key x ≠ name) := by
  have hgone : ∀ k, decide (k ≠ name) = false →
      under key k (xs.filter fun x => key x ≠ name) = [] := by
    intro k hk
    have hname : k = name := by simpa using hk
    rw [under_filter, hname]
    exact filter_ne_eq_nil key name _ (key_of_mem_under key name xs)
  rw [regrouped, regrouped, names_filter_ne, flatMap_filter_of_nil _ _ _ hgone,
    List.filter_flatMap]
  simp only [under_filter]

end Grouping

end Fieldwise
