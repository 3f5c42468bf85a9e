import Fieldwise.Format
import Fieldwise.Proofs.Numerals
import Mathlib.Logic.Basic

/-!
# IPv4 and IPv6 addresses

An IPv4 address is read from its dotted form and from no other text, so a text shows one address
and an address has one text. No such text has a colon, and every text of an IPv6 address has one:
eight groups need colons between them, and fewer need a double colon. So the families are
disjoint.
-/

namespace Fieldwise

namespace Address

open Number (EndsDigits natural)

/-! ### Octets -/

theorem toNat_le_octet (n : UInt8) : n.toNat ≤ 255 := by
  have hn := n.toNat_lt
  omega

theorem length_natural_octet (n : UInt8) : (natural n.toNat).length ≤ 3 := by
  have hn := toNat_le_octet n
  apply (Nat.length_toDigits_le_iff (by decide) (by decide)).mpr
  omega

/-- An octet is read from its decimal form, up to where the digits end. -/
theorem readOctet_eq_some_iff (cs rest : List Char) (n : UInt8) :
    readOctet cs = some (n, rest) ↔ cs = natural n.toNat ++ rest ∧ EndsDigits rest := by
  constructor
  · intro h
    simp only [readOctet] at h
    split at h
    · rename_i hoctet
      obtain ⟨hne, -, hzero, hsize⟩ := hoctet
      obtain ⟨rfl, rfl⟩ := Prod.mk.inj (Option.some.inj h)
      have hdigits : ∀ c ∈ cs.takeWhile Char.isDigit, c.isDigit = true :=
        fun c hc => List.mem_takeWhile_imp hc
      have hwritten := Number.natural_ofDigitChars _ hne hdigits
        ((Number.not_leadingZero_iff _).mpr hzero)
      have hvalue : (UInt8.ofNat (Nat.ofDigitChars 10 (cs.takeWhile Char.isDigit) 0)).toNat =
          Nat.ofDigitChars 10 (cs.takeWhile Char.isDigit) 0 := by
        rw [UInt8.toNat_ofNat']
        omega
      rw [hvalue, hwritten, List.takeWhile_append_dropWhile]
      exact ⟨rfl, Number.endsDigits_dropWhile cs⟩
    · cases h
  · intro h
    obtain ⟨rfl, hrest⟩ := h
    have hdigits := Number.isDigit_of_mem_natural n.toNat
    have hoctet : natural n.toNat ≠ [] ∧ (natural n.toNat).length ≤ 3 ∧
        ((natural n.toNat).head? = some '0' → (natural n.toNat).length = 1) ∧ n.toNat ≤ 255 :=
      ⟨Number.natural_ne_nil _, length_natural_octet n,
        (Number.not_leadingZero_iff _).mp (Number.not_leadingZero_natural _), toNat_le_octet n⟩
    simp only [readOctet, Number.takeWhile_digits hdigits hrest,
      Number.dropWhile_digits hdigits hrest, Number.ofDigitChars_natural]
    rw [if_pos hoctet, UInt8.ofNat_toNat]

theorem readPointOctet_eq_some_iff (cs rest : List Char) (n : UInt8) :
    readPointOctet cs = some (n, rest) ↔
      cs = '.' :: (natural n.toNat ++ rest) ∧ EndsDigits rest := by
  unfold readPointOctet
  split
  · rw [readOctet_eq_some_iff, List.cons.injEq]
    simp only [true_and]
  · rename_i hpoint
    constructor
    · intro h
      cases h
    · intro h
      exact absurd h.1 (hpoint _)

/-! ### IPv4 addresses -/

theorem V4.readFront_eq_some_iff (cs rest : List Char) (address : V4) :
    V4.readFront cs = some (address, rest) ↔ cs = address.chars ++ rest ∧ EndsDigits rest := by
  have hpoint : ∀ cs, EndsDigits ('.' :: cs) := fun cs => Number.endsDigits_cons '.' cs rfl
  simp only [V4.readFront, Option.bind_eq_bind, Option.bind_eq_some_iff, Prod.exists,
    readOctet_eq_some_iff, readPointOctet_eq_some_iff, Option.some.injEq, Prod.mk.injEq]
  constructor
  · rintro ⟨a, _, ⟨rfl, -⟩, b, _, ⟨rfl, -⟩, c, _, ⟨rfl, -⟩, d, _, ⟨rfl, hrest⟩, rfl, rfl⟩
    refine ⟨?_, hrest⟩
    simp only [V4.chars, List.append_assoc, List.cons_append]
  · intro h
    obtain ⟨rfl, hrest⟩ := h
    refine ⟨address.a, _, ⟨?_, hpoint _⟩, address.b, _, ⟨rfl, hpoint _⟩, address.c, _,
      ⟨rfl, hpoint _⟩, address.d, rest, ⟨rfl, hrest⟩, rfl, rfl⟩
    simp only [V4.chars, List.append_assoc, List.cons_append]

theorem V4.read_eq_some_iff (cs : List Char) (address : V4) :
    V4.read cs = some address ↔ cs = address.chars := by
  have hfront : V4.read cs = some address ↔ V4.readFront cs = some (address, []) := by
    unfold V4.read
    split
    · rename_i found hread
      rw [hread, Option.some.injEq, Option.some.injEq, Prod.mk.injEq]
      simp only [and_true]
    · rename_i hread
      constructor
      · intro h
        cases h
      · intro h
        exact absurd h (hread address)
  rw [hfront, V4.readFront_eq_some_iff, List.append_nil]
  exact and_iff_left Number.endsDigits_nil

theorem V4.colon_notMem_chars (address : V4) : ':' ∉ address.chars := by
  have hoctet : ∀ n : Nat, ':' ∉ natural n := by
    intro n hn
    exact absurd (Number.isDigit_of_mem_natural n ':' hn) (by decide)
  simp [V4.chars, hoctet]

/-- The decimal forms of the octets, with points between them. -/
def V4.dotted (address : V4) : String := s!"{address.a}.{address.b}.{address.c}.{address.d}"

theorem V4.toList_dotted (address : V4) : address.dotted.toList = address.chars := by
  have hoctet : ∀ n : UInt8, (toString n).toList = natural n.toNat := by
    intro n
    exact String.toList_ofList
  have hpoint : (toString ".").toList = ['.'] := rfl
  simp only [V4.dotted, String.toList_append, hoctet, hpoint, V4.chars, List.append_assoc,
    List.cons_append, List.nil_append]

/-! ### IPv6 addresses -/

theorem eq_cons_of_dropColon? (cs rest : List Char) (h : dropColon? cs = some rest) :
    cs = ':' :: rest := by
  unfold dropColon? at h
  split at h
  · rw [Option.some.inj h]
  · cases h

theorem suffix_of_readGroup (cs rest : List Char) (group : UInt16)
    (h : readGroup cs = some (group, rest)) : rest <:+ cs := by
  simp only [readGroup] at h
  split at h
  · obtain ⟨-, rfl⟩ := Prod.mk.inj (Option.some.inj h)
    exact List.dropWhile_suffix _
  · cases h

theorem suffix_of_readFront (cs rest : List Char) (address : V4)
    (h : V4.readFront cs = some (address, rest)) : rest <:+ cs := by
  rw [((V4.readFront_eq_some_iff cs rest address).mp h).1]
  exact List.suffix_append _ _

/-- What is left after groups were read is the end of the text. -/
theorem readGroups_suffix (first : Bool) (room : Nat) (cs : List Char) :
    (readGroups first room cs).2.2 <:+ cs := by
  induction room generalizing first cs with
  | zero => exact List.suffix_refl cs
  | succ room ih =>
    have hstart : ∀ tail, (if first then some cs else dropColon? cs) = some tail →
        tail <:+ cs := by
      intro tail htail
      cases first with
      | true => exact Option.some.inj htail ▸ List.suffix_refl _
      | false =>
        rw [eq_cons_of_dropColon? cs tail htail]
        exact List.suffix_cons _ _
    simp only [readGroups]
    split
    · rename_i address rest hembedded
      split at hembedded
      · cases hembedded
      · obtain ⟨tail, htail, hread⟩ := Option.bind_eq_some_iff.mp hembedded
        exact (suffix_of_readFront tail rest address hread).trans (hstart tail htail)
    · split
      · rename_i group rest hgroup
        obtain ⟨tail, htail, hread⟩ := Option.bind_eq_some_iff.mp hgroup
        exact (ih false rest).trans
          ((suffix_of_readGroup tail rest group hread).trans (hstart tail htail))
      · exact List.suffix_refl cs

/-- A group that is not the first stands after a colon. -/
theorem colon_mem_of_readGroups (room : Nat) (cs : List Char)
    (h : (readGroups false room cs).1 ≠ []) : ':' ∈ cs := by
  cases room with
  | zero => exact absurd rfl h
  | succ room =>
    cases hcolon : dropColon? cs with
    | none =>
      simp [readGroups, hcolon] at h
    | some rest =>
      rw [eq_cons_of_dropColon? cs rest hcolon]
      exact List.mem_cons_self ..

/-- An IPv4 address gives two groups, so more of them have a colon between them. -/
theorem colon_mem_of_two_lt (room : Nat) (cs : List Char)
    (h : 2 < (readGroups true room cs).1.length) : ':' ∈ cs := by
  cases room with
  | zero => cases h
  | succ room =>
    simp only [readGroups, ↓reduceIte] at h
    split at h
    · exact absurd h (Nat.lt_irrefl 2)
    · split at h
      · rename_i group rest hgroup
        have hnext : (readGroups false room rest).1 ≠ [] := by
          intro hnil
          simp only [hnil, List.length_singleton] at h
          omega
        exact (suffix_of_readGroup cs rest group hgroup).mem
          (colon_mem_of_readGroups room rest hnext)
      · cases h

theorem colon_mem_of_read (cs : List Char) (h : (V6.read cs).isSome = true) : ':' ∈ cs := by
  simp only [V6.read] at h
  split at h
  · rename_i hfull
    apply colon_mem_of_two_lt 8
    omega
  · split at h
    · cases h
    · obtain ⟨address, hread⟩ := Option.isSome_iff_exists.mp h
      obtain ⟨rest, hcolon, -⟩ := Option.bind_eq_some_iff.mp hread
      have hmem : ':' ∈ (readGroups true 8 cs).2.2 := by
        rw [eq_cons_of_dropColon? _ rest hcolon]
        exact List.mem_cons_self ..
      exact (readGroups_suffix true 8 cs).mem hmem

end Address

/-! ### The families -/

open Address (V4)

theorem isIpv4_iff (cs : List Char) :
    Format.isIpv4 cs = true ↔ ∃ address : V4, cs = address.chars := by
  simp only [Format.isIpv4, Option.isSome_iff_exists, Address.V4.read_eq_some_iff]

theorem not_isIpv4_and_isIpv6 (cs : List Char) :
    ¬(Format.isIpv4 cs = true ∧ Format.isIpv6 cs = true) := by
  intro h
  obtain ⟨address, rfl⟩ := (isIpv4_iff cs).mp h.1
  exact address.colon_notMem_chars (Address.colon_mem_of_read _ h.2)

/-- A text is an IPv4 address if it is the dotted form of one, and then it shows this one and no
other text does. A text of an IPv6 address has a colon, so no text is of both families, and an IP
address is of one of them and not of the other. -/
theorem address_families_apart (s : String) :
    (Format.isIpv4 s.toList = true ↔ ∃ address : V4, s = address.dotted) ∧
    (∀ address, V4.read s.toList = some address ↔ s = address.dotted) ∧
    Function.Injective V4.dotted ∧
    ¬(Format.isIpv4 s.toList = true ∧ Format.isIpv6 s.toList = true) ∧
    (Format.isIpv6 s.toList = true → ':' ∈ s.toList) ∧
    (Format.isIp s.toList = true ↔
      Xor (Format.isIpv4 s.toList = true) (Format.isIpv6 s.toList = true)) := by
  have hdotted : ∀ address : V4, s.toList = address.chars ↔ s = address.dotted := by
    intro address
    rw [← address.toList_dotted, String.toList_inj]
  refine ⟨?_, ?_, ?_, not_isIpv4_and_isIpv6 _, Address.colon_mem_of_read _, ?_⟩
  · simp only [isIpv4_iff, hdotted]
  · intro address
    rw [Address.V4.read_eq_some_iff, hdotted]
  · intro first second hsame
    have hread := (Address.V4.read_eq_some_iff _ first).mpr first.toList_dotted
    rw [hsame, (Address.V4.read_eq_some_iff _ second).mpr second.toList_dotted] at hread
    exact (Option.some.inj hread).symm
  · have hapart := not_isIpv4_and_isIpv6 s.toList
    rw [Format.isIp, Bool.or_eq_true, xor_iff_or_and_not_and]
    exact (and_iff_left hapart).symm

example :
    Format.isIpv6 "::ffff:192.0.2.255".toList = true ∧
      Format.isIp "192.0.2.0255".toList = false := by
  decide

end Fieldwise
