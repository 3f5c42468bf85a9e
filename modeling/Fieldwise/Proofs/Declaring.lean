import Fieldwise.Proofs.Due
import Fieldwise.Proofs.Grouping

/-!
# Schemas declared field by field

Entries that are put into a map one after the other keep the place of the first and the value
of the last of their name. So fields of distinct names that are declared one after the other
make a schema that holds them in this order with their constraints, and what is due on a
record comes field by field from the list that was declared.
-/

namespace Fieldwise

universe u

/-! ### Entries in order -/

/-- The value of the last entry with a name. -/
def Entries.last? {α : Type u} (name : String) (entries : List (String × α)) : Option α :=
  (Grouping.under Prod.fst name entries).getLast?.map Prod.snd

theorem Entries.last?_concat {α : Type u} (name : String) (entries : List (String × α))
    (entry : String × α) :
    Entries.last? name (entries ++ [entry]) =
      if name = entry.1 then some entry.2 else Entries.last? name entries := by
  rw [last?, Grouping.under_concat]
  split
  · rw [List.getLast?_concat, Option.map_some]
  · rw [List.append_nil, last?]

/-! ### Maps of entries -/

theorem Entries.alter_of_notMem {α : Type u} (key : String) (f : Option α → α)
    (entries : List (String × α)) (h : key ∉ Entries.keys entries) :
    Entries.alter key f entries = entries ++ [(key, f none)] := by
  induction entries with
  | nil => rfl
  | cons entry rest ih =>
    obtain ⟨k, a⟩ := entry
    have hne : ¬k = key := by
      rintro rfl
      exact h (List.mem_cons_self ..)
    have hrest : key ∉ Entries.keys rest := fun hmem => h (List.mem_cons_of_mem _ hmem)
    simp only [Entries.alter, hne, ↓reduceIte, ih hrest, List.cons_append]

namespace FieldMap

variable {α : Type u}

theorem ofList_concat (entries : List (String × α)) (entry : String × α) :
    ofList (entries ++ [entry]) = (ofList entries).insert entry.1 entry.2 := by
  rw [ofList, List.foldl_append]
  rfl

/-- A list of entries with distinct names is the map that it makes. -/
theorem entries_ofList (entries : List (String × α)) (h : (Entries.keys entries).Nodup) :
    (ofList entries).entries = entries := by
  induction entries using List.reverseRecOn with
  | nil => rfl
  | append_singleton rest entry ih =>
    obtain ⟨key, a⟩ := entry
    have hkeys : Entries.keys (rest ++ [(key, a)]) = Entries.keys rest ++ [key] :=
      List.map_append
    rw [hkeys] at h
    have hrest : (Entries.keys rest).Nodup := (List.nodup_append.mp h).1
    have hkey : key ∉ Entries.keys (ofList rest).entries := by
      rw [ih hrest]
      intro hmem
      exact (List.nodup_append.mp h).2.2 key hmem key (List.mem_singleton_self key) rfl
    have hinsert : ((ofList rest).insert key a).entries =
        (ofList rest).entries ++ [(key, a)] :=
      Entries.alter_of_notMem key _ _ hkey
    rw [ofList_concat, hinsert, ih hrest]

theorem keys_ofList (entries : List (String × α)) :
    (ofList entries).keys = Grouping.names Prod.fst entries := by
  induction entries using List.reverseRecOn with
  | nil => rfl
  | append_singleton rest entry ih => rw [ofList_concat, keys_insert, ih, Grouping.names_concat]

theorem get?_ofList_eq_last? (entries : List (String × α)) (name : String) :
    (ofList entries).get? name = Entries.last? name entries := by
  induction entries using List.reverseRecOn with
  | nil => rfl
  | append_singleton rest entry ih =>
    rw [ofList_concat, get?_insert, ih, Entries.last?_concat]

theorem get?_ofList (entries : List (String × α)) (h : (Entries.keys entries).Nodup)
    (key : String) (a : α) (hmem : (key, a) ∈ entries) : (ofList entries).get? key = some a := by
  rw [get?, entries_ofList entries h]
  exact Entries.get?_of_mem h hmem

end FieldMap

/-! ### Schemas of distinct fields -/

namespace Schema

/-- The schema that declares fields one after the other. -/
def ofFields (fields : List (String × Constraints)) : Schema :=
  fields.foldl (fun schema field => schema.declare field.1 field.2) ∅

theorem fields_ofFields (fields : List (String × Constraints)) :
    (ofFields fields).fields = .ofList fields := by
  have hdeclare : ∀ (schema : Schema) (field : String × Constraints),
      schema.fields.insert field.1 field.2 = (schema.declare field.1 field.2).fields :=
    fun _ _ => rfl
  exact (List.foldl_hom Schema.fields hdeclare).symm

theorem due_ofFields {ρ : Type} [Record ρ] (fields : List (String × Constraints))
    (h : (Entries.keys fields).Nodup) (options : Options) (record : ρ) :
    (ofFields fields).due options record = fields.flatMap fun (name, constraints) =>
      constraints.due options name (Record.field? record name) := by
  rw [due, fields_ofFields, FieldMap.entries_ofList fields h]

end Schema

end Fieldwise
