import Fieldwise.Unicode.Folding
import Mathlib.Tactic.SplitIfs

/-!
# The forms of letters

Bisection finds an entry of an ascending table, so the next form of a character is the one that
the steps of the orbits give. Of these, few have to do with ASCII letters: each letter has two
forms, upper and lower case, apart from `k` and `s`, which have a third one outside ASCII.
-/

namespace Fieldwise.Unicode

/-! ### Bisection -/

def Ascending (starts : Array Nat) : Prop :=
  ∀ i j, i ≤ j → j < starts.size → starts.getD i 0 ≤ starts.getD j 0

theorem countUpTo_bounds (starts : Array Nat) (n low high : Nat) (hstarts : Ascending starts)
    (hlow : low ≤ high) (hhigh : high ≤ starts.size) :
    low ≤ countUpTo starts n low high ∧ countUpTo starts n low high ≤ high ∧
      (∀ i, low ≤ i → i < countUpTo starts n low high → starts.getD i 0 ≤ n) ∧
      ∀ i, countUpTo starts n low high ≤ i → i < high → n < starts.getD i 0 := by
  fun_induction countUpTo starts n low high with
  | case1 low high hempty =>
    refine ⟨by omega, by omega, ?_, ?_⟩
    · intro i hi hi'
      omega
    · intro i hi hi'
      omega
  | case2 low high hrange middle hle ih =>
    obtain ⟨hlow', hhigh', hbelow, habove⟩ := ih (by omega) hhigh
    refine ⟨by omega, hhigh', ?_, habove⟩
    intro i hi hi'
    by_cases hfirst : i ≤ middle
    · have hmiddle := hstarts i middle hfirst (by omega)
      omega
    · exact hbelow i (by omega) hi'
  | case3 low high hrange middle hgt ih =>
    obtain ⟨hlow', hhigh', hbelow, habove⟩ := ih (by omega) (by omega)
    refine ⟨hlow', by omega, hbelow, ?_⟩
    intro i hi hi'
    by_cases hlast : middle ≤ i
    · have hmiddle := hstarts middle i hlast (by omega)
      omega
    · exact habove i hi (by omega)

/-- An entry is the last one that is not greater than itself. -/
theorem getD_countUpTo (starts : Array Nat) (n i : Nat) (hstarts : Ascending starts)
    (hi : i < starts.size) (hn : starts.getD i 0 = n) :
    starts.getD (countUpTo starts n 0 starts.size - 1) 0 = n := by
  obtain ⟨_, hhigh, hbelow, habove⟩ :=
    countUpTo_bounds starts n 0 starts.size hstarts (Nat.zero_le _) (Nat.le_refl _)
  have hafter : i < countUpTo starts n 0 starts.size := by
    rcases Nat.lt_or_ge i (countUpTo starts n 0 starts.size) with hlt | hge
    · exact hlt
    · have hgt := habove i hge hi
      omega
  have hlast := hbelow (countUpTo starts n 0 starts.size - 1) (Nat.zero_le _) (by omega)
  have hfirst := hstarts i (countUpTo starts n 0 starts.size - 1) (by omega) (by omega)
  omega

/-! ### The table of orbits -/

/-- The pairs in the order of the table. -/
def sortedPairs : List (Nat × Nat) := casePairs.mergeSort fun a b => a.1 ≤ b.1

theorem mem_sortedPairs (pair : Nat × Nat) : pair ∈ sortedPairs ↔ pair ∈ casePairs :=
  (List.mergeSort_perm casePairs _).mem_iff

theorem getD_starts (i : Nat) :
    caseTable.starts.getD i 0 = (sortedPairs[i]?.map Prod.fst).getD 0 := by
  simp [caseTable, sortedPairs, Array.getD_eq_getD_getElem?]

theorem getD_values (i fallback : Nat) :
    caseTable.values.getD i fallback = (sortedPairs[i]?.map Prod.snd).getD fallback := by
  simp [caseTable, sortedPairs, Array.getD_eq_getD_getElem?]

theorem size_starts : caseTable.starts.size = sortedPairs.length := by
  simp [caseTable, sortedPairs]

theorem ascending_caseTable : Ascending caseTable.starts := by
  have hsorted : sortedPairs.Pairwise fun a b => a.1 ≤ b.1 := by
    have htrans : ∀ a b c : Nat × Nat, decide (a.1 ≤ b.1) = true → decide (b.1 ≤ c.1) = true →
        decide (a.1 ≤ c.1) = true := by
      intro a b c hab hbc
      simp only [decide_eq_true_eq] at hab hbc ⊢
      omega
    have htotal : ∀ a b : Nat × Nat, (decide (a.1 ≤ b.1) || decide (b.1 ≤ a.1)) = true := by
      intro a b
      simp only [Bool.or_eq_true, decide_eq_true_eq]
      omega
    have hpairwise := List.pairwise_mergeSort htrans htotal casePairs
    simp only [decide_eq_true_eq] at hpairwise
    exact hpairwise
  intro i j hij hj
  rw [size_starts] at hj
  have hi : i < sortedPairs.length := by omega
  rw [getD_starts, getD_starts, List.getElem?_eq_getElem hi, List.getElem?_eq_getElem hj]
  rcases Nat.lt_or_eq_of_le hij with hlt | rfl
  · exact List.pairwise_iff_getElem.mp hsorted i j hi hj hlt
  · exact Nat.le_refl _

/-- The next form of a character is the second of its pair, and the character if it has none. -/
theorem nextCase_spec (c : Char) :
    (∃ n, (c.toNat, n) ∈ casePairs ∧ nextCase c = Char.ofNat n) ∨
      (∀ n, (c.toNat, n) ∉ casePairs) ∧ nextCase c = c := by
  unfold nextCase
  generalize hplace : countUpTo caseTable.starts c.toNat 0 caseTable.starts.size - 1 = i
  simp only [getD_values]
  by_cases hfound : caseTable.starts.getD i 0 = c.toNat
  · rw [if_pos hfound]
    cases hpair : sortedPairs[i]? with
    | none =>
      -- The table would be empty.
      right
      have hcount := (countUpTo_bounds caseTable.starts c.toNat 0 caseTable.starts.size
        ascending_caseTable (Nat.zero_le _) (Nat.le_refl _)).2.1
      have hlength := List.getElem?_eq_none_iff.mp hpair
      rw [size_starts] at hcount hplace
      have hempty : sortedPairs = [] := List.eq_nil_of_length_eq_zero (by omega)
      refine ⟨?_, Char.ofNat_toNat c⟩
      intro n hmem
      rw [← mem_sortedPairs, hempty] at hmem
      cases hmem
    | some pair =>
      left
      refine ⟨pair.2, ?_, rfl⟩
      have hkey : pair.1 = c.toNat := by
        rw [getD_starts, hpair] at hfound
        exact hfound
      rw [← hkey, ← mem_sortedPairs]
      exact List.mem_of_getElem? hpair
  · right
    rw [if_neg hfound]
    refine ⟨?_, rfl⟩
    intro n hmem
    obtain ⟨j, hj⟩ := List.mem_iff_getElem?.mp ((mem_sortedPairs _).mpr hmem)
    have hsize : j < caseTable.starts.size := by
      rw [size_starts]
      exact (List.getElem?_eq_some_iff.mp hj).1
    have hentry : caseTable.starts.getD j 0 = c.toNat := by
      rw [getD_starts, hj]
      rfl
    have hlast := getD_countUpTo caseTable.starts c.toNat j ascending_caseTable hsize hentry
    rw [hplace] at hlast
    exact hfound hlast

/-! ### Orbits -/

theorem mem_caseOrbit_self (c : Char) : c ∈ caseOrbit c := by
  unfold caseOrbit
  generalize nextCase = next
  grind

theorem mem_caseOrbit_next (c : Char) : nextCase c ∈ caseOrbit c := by
  unfold caseOrbit
  generalize nextCase = next
  grind

theorem mem_caseOrbit_next_next (c : Char) : nextCase (nextCase c) ∈ caseOrbit c := by
  unfold caseOrbit
  generalize nextCase = next
  grind

/-- A set of forms that each come from the set alone holds all of an orbit or nothing of it. -/
theorem of_mem_caseOrbit (forms : Char → Prop) (hback : ∀ c, forms (nextCase c) → forms c)
    (c w : Char) (hw : forms w) (h : w ∈ caseOrbit c) : forms c := by
  have hsteps : w = c ∨ w = nextCase c ∨ w = nextCase (nextCase c) ∨
      w = nextCase (nextCase (nextCase c)) := by
    unfold caseOrbit at h
    generalize nextCase = next at h ⊢
    grind
  rcases hsteps with rfl | rfl | rfl | rfl
  · exact hw
  · exact hback _ hw
  · exact hback _ (hback _ hw)
  · exact hback _ (hback _ (hback _ hw))

/-! ### ASCII letters -/

/-- The code points of the forms of ASCII letters: both cases, the long s and the Kelvin sign. -/
def isLetterForm (n : Nat) : Bool :=
  (Nat.ble 65 n && Nat.ble n 90) || (Nat.ble 97 n && Nat.ble n 122) || n == 383 || n == 8490

theorem isLetterForm_iff (n : Nat) :
    isLetterForm n = true ↔ (65 ≤ n ∧ n ≤ 90) ∨ (97 ≤ n ∧ n ≤ 122) ∨ n = 383 ∨ n = 8490 := by
  simp only [isLetterForm, Bool.or_eq_true, Bool.and_eq_true, Nat.ble_eq, beq_iff_eq, or_assoc]

/-- The next form of an ASCII letter. -/
def nextForm (n : Nat) : Nat :=
  if n = 107 then 8490
  else if n = 8490 then 75
  else if n = 115 then 383
  else if n = 383 then 83
  else if n < 97 then n + 32
  else n - 32

/-- The pairs with a form of an ASCII letter. -/
def letterPairs : List (Nat × Nat) :=
  (List.range' 65 26 ++ List.range' 97 12 ++
    [110, 112, 114, 116, 118, 120, 122, 109, 111, 113, 115, 117, 119, 121, 383, 8490]).map
      fun n => (n, nextForm n)

theorem filter_casePairs :
    casePairs.filter (fun pair => isLetterForm pair.1 || isLetterForm pair.2) = letterPairs := by
  decide +kernel

theorem mem_letterPairs (n m : Nat) (h : isLetterForm n = true ∨ isLetterForm m = true)
    (hmem : (n, m) ∈ casePairs) : (n, m) ∈ letterPairs := by
  rw [← filter_casePairs, List.mem_filter, Bool.or_eq_true]
  exact ⟨hmem, h⟩

theorem of_mem_letterPairs (n m : Nat) (hmem : (n, m) ∈ letterPairs) :
    isLetterForm n = true ∧ m = nextForm n := by
  have hall : ∀ pair ∈ letterPairs, isLetterForm pair.1 = true ∧ pair.2 = nextForm pair.1 := by
    decide +kernel
  exact hall (n, m) hmem

theorem mem_casePairs_form (n : Nat) (h : isLetterForm n = true) :
    (n, nextForm n) ∈ casePairs := by
  have hmem : (n, nextForm n) ∈ letterPairs := by
    apply List.mem_map.mpr
    refine ⟨n, ?_, rfl⟩
    rw [isLetterForm_iff] at h
    simp only [List.mem_append, List.mem_range'_1, List.mem_cons, List.not_mem_nil]
    omega
  rw [← filter_casePairs] at hmem
  exact (List.mem_filter.mp hmem).1

theorem toNat_ofNat (n : Nat) (h : n.isValidChar) : (Char.ofNat n).toNat = n := by
  rw [Char.ofNat, dif_pos h]
  rfl

theorem nextForm_lt (n : Nat) (h : isLetterForm n = true) : nextForm n < 55296 := by
  rw [isLetterForm_iff] at h
  unfold nextForm
  split_ifs <;> omega

/-- The forms of an ASCII letter lead to each other. -/
theorem toNat_nextCase (c : Char) (h : isLetterForm c.toNat = true) :
    (nextCase c).toNat = nextForm c.toNat := by
  have hvalid : (nextForm c.toNat).isValidChar := .inl (nextForm_lt c.toNat h)
  rcases nextCase_spec c with ⟨n, hpair, hnext⟩ | ⟨hnone, _⟩
  · have hform := (of_mem_letterPairs _ _ (mem_letterPairs _ _ (.inl h) hpair)).2
    rw [hnext, hform, toNat_ofNat _ hvalid]
  · exact absurd (mem_casePairs_form c.toNat h) (hnone _)

/-- What leads to a form of an ASCII letter is one, or is the form itself. -/
theorem form_of_nextCase (c : Char) (h : isLetterForm (nextCase c).toNat = true) :
    isLetterForm c.toNat = true := by
  rcases nextCase_spec c with ⟨n, hpair, hnext⟩ | ⟨_, hself⟩
  · by_cases hvalid : n.isValidChar
    · rw [hnext, toNat_ofNat n hvalid] at h
      exact (of_mem_letterPairs _ _ (mem_letterPairs _ _ (.inr h) hpair)).1
    · have hzero : nextCase c = '\x00' := by
        rw [hnext, Char.ofNat, dif_neg hvalid]
        rfl
      rw [hzero] at h
      exact absurd h (by decide)
  · rw [hself] at h
    exact h

/-- The forms of a letter in lower case. -/
def FormOf (w : Nat) (n : Nat) : Prop :=
  n = w ∨ n + 32 = w ∨ (w = 115 ∧ n = 383) ∨ (w = 107 ∧ n = 8490)

/-- An ASCII letter in lower case stands for its two cases, and `s` and `k` for a third form. -/
theorem mem_caseOrbit_iff (w c : Char) (hw : 97 ≤ w.toNat ∧ w.toNat ≤ 122) :
    w ∈ caseOrbit c ↔ FormOf w.toNat c.toNat := by
  have hletter : ∀ d : Char, FormOf w.toNat d.toNat → isLetterForm d.toNat = true := by
    intro d hd
    unfold FormOf at hd
    rw [isLetterForm_iff]
    omega
  constructor
  · apply of_mem_caseOrbit (fun d => FormOf w.toNat d.toNat)
    · intro d hd
      have hform := form_of_nextCase d (hletter _ hd)
      simp only [toNat_nextCase d hform] at hd
      rw [isLetterForm_iff] at hform
      unfold FormOf nextForm at hd
      unfold FormOf
      split_ifs at hd <;> omega
    · exact .inl rfl
  · intro hc
    have hform := hletter c hc
    have hnext := toNat_nextCase c hform
    have hcode := hc
    unfold FormOf at hcode
    -- From a form outside ASCII the orbit leads to the upper case first.
    have hthird : isLetterForm (nextForm c.toNat) = true → w.toNat = nextForm (nextForm c.toNat) →
        w ∈ caseOrbit c := by
      intro hupper hw'
      rw [← hnext] at hupper
      have hlower : w = nextCase (nextCase c) := by
        apply Char.toNat_inj.mp
        rw [toNat_nextCase _ hupper, hnext, hw']
      rw [hlower]
      exact mem_caseOrbit_next_next c
    rcases hcode with hself | hupper | ⟨hs, hlong⟩ | ⟨hk, hkelvin⟩
    · have heq : w = c := Char.toNat_inj.mp hself.symm
      rw [heq]
      exact mem_caseOrbit_self c
    · have hlower : w = nextCase c := by
        apply Char.toNat_inj.mp
        rw [hnext, nextForm]
        split_ifs <;> omega
      rw [hlower]
      exact mem_caseOrbit_next c
    · apply hthird
      · rw [hlong]
        decide
      · rw [hlong, hs]
        decide
    · apply hthird
      · rw [hkelvin]
        decide
      · rw [hkelvin, hk]
        decide

end Fieldwise.Unicode
