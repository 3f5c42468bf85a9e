import Fieldwise.Proofs.Declaring
import Fieldwise.Proofs.Evaluation
import Fieldwise.Proofs.SessionRun
import Mathlib.Data.List.Flatten

/-!
# Records however they are stored

A schema asks a record for the values under its own names, and for nothing else. So records
of different kinds are alike to a schema if they answer alike under these names, in whatever
order and with whatever else they were filled. What is found in one field depends on the
value of this field alone: another value there leaves the other fields as they are.
-/

namespace Fieldwise

universe u

/-! ### Look-up in what is stored -/

namespace Entries

variable {α : Type u} (entries : List (String × α)) (name : String)

theorem getElem?_hashMap_ofList : (Std.HashMap.ofList entries)[name]? = last? name entries := by
  rw [Std.HashMap.ofList_eq_insertMany_empty]
  induction entries using List.reverseRecOn with
  | nil => exact Std.HashMap.getElem?_empty
  | append_singleton rest entry ih =>
    rw [Std.HashMap.insertMany_append, Std.HashMap.insertMany_list_singleton,
      Std.HashMap.getElem?_insert, ih, last?_concat]
    simp only [beq_iff_eq, @eq_comm String entry.1 name]

theorem getElem?_treeMap_ofList : (Std.TreeMap.ofList entries)[name]? = last? name entries := by
  rw [Std.TreeMap.ofList_eq_insertMany_empty]
  induction entries using List.reverseRecOn with
  | nil => exact Std.TreeMap.getElem?_emptyc
  | append_singleton rest entry ih =>
    rw [Std.TreeMap.insertMany_append, Std.TreeMap.insertMany_list_singleton,
      Std.TreeMap.getElem?_insert, ih, last?_concat]
    simp only [Std.LawfulEqCmp.compare_eq_iff_eq, @eq_comm String entry.1 name]

/-- Distinct names have one entry each. -/
theorem under_eq_toList (h : (keys entries).Nodup) :
    Grouping.under Prod.fst name entries = ((get? name entries).map (Prod.mk name)).toList := by
  induction entries with
  | nil => rfl
  | cons entry rest ih =>
    obtain ⟨k, a⟩ := entry
    have hnodup : k ∉ keys rest ∧ (keys rest).Nodup := List.nodup_cons.mp h
    have htail := ih hnodup.2
    rw [Grouping.under] at htail
    by_cases hk : k = name
    · subst hk
      have hnone : get? k rest = none := (get?_eq_none_iff k rest).mpr hnodup.1
      rw [hnone] at htail
      simp only [Grouping.under, List.filter_cons, decide_true, ↓reduceIte, htail, get?]
      rfl
    · simp only [Grouping.under, List.filter_cons, hk, decide_false, Bool.false_eq_true,
        ↓reduceIte, htail, get?]

end Entries

/-! ### Records that are alike to a schema -/

namespace Session

variable {ρ σ : Type} [Record ρ] [Record σ]

theorem checkFields_congr (s : Session) (record : ρ) (other : σ)
    (fields : List (String × Constraints))
    (h : ∀ name ∈ Entries.keys fields, Record.field? record name = Record.field? other name) :
    s.checkFields record fields = s.checkFields other fields := by
  induction fields generalizing s with
  | nil => rfl
  | cons field rest ih =>
    obtain ⟨name, constraints⟩ := field
    have hhead : Record.field? record name = Record.field? other name :=
      h name (List.mem_cons_self ..)
    have htail : ∀ s : Session, s.checkFields record rest = s.checkFields other rest :=
      fun s => ih s fun name hname => h name (List.mem_cons_of_mem _ hname)
    simp only [checkFields, hhead, htail]

end Session

namespace Schema

variable {ρ σ : Type} [Record ρ] [Record σ] (schema : Schema)

/-- The schema finds the same in both records, and reports the same events on the way. -/
structure Alike (record : ρ) (other : σ) : Prop where
  validated : ∀ options, schema.validateWith options record = schema.validateWith options other
  evaluated : schema.evaluate record = schema.evaluate other
  checked : ∀ s : Session, s.check schema record = s.check schema other

theorem alike_of_fields (record : ρ) (other : σ)
    (h : ∀ name ∈ schema.names, Record.field? record name = Record.field? other name) :
    schema.Alike record other := by
  have hchecked : ∀ s : Session, s.check schema record = s.check schema other := by
    intro s
    rw [Session.check, Session.check, Session.checkFields_congr s record other _ h]
  have hvalidated : ∀ options,
      schema.validateWith options record = schema.validateWith options other := by
    intro options
    rw [validateWith, validateWith, hchecked]
  have hevaluated : schema.evaluate record = schema.evaluate other := by
    rw [evaluate, evaluate, hchecked]
  exact ⟨hvalidated, hevaluated, hchecked⟩

/-- The entries are those of the map in some order, with others under names that the schema
does not declare. -/
def Stores {α : Type u} (m : FieldMap α) (entries : List (String × α)) : Prop :=
  ∃ extra, (∀ entry ∈ extra, entry.1 ∉ schema.names) ∧ entries.Perm (m.entries ++ extra)

theorem last?_of_stores {α : Type u} (m : FieldMap α) (entries : List (String × α))
    (h : schema.Stores m entries) (name : String) (hname : name ∈ schema.names) :
    Entries.last? name entries = m.get? name := by
  obtain ⟨extra, hextra, hperm⟩ := h
  have hnone : Grouping.under Prod.fst name extra = [] := by
    apply List.filter_eq_nil_iff.mpr
    intro entry hentry hkey
    exact hextra entry hentry (of_decide_eq_true hkey ▸ hname)
  have hunder : Grouping.under Prod.fst name (m.entries ++ extra) =
      ((m.get? name).map (Prod.mk name)).toList := by
    rw [Grouping.under_append, hnone, List.append_nil,
      Entries.under_eq_toList m.entries name m.distinct]
    rfl
  have hsame := Grouping.under_perm Prod.fst name _ _ hperm
  rw [hunder] at hsame
  rw [Entries.last?]
  cases hget : m.get? name with
  | none =>
    rw [hget] at hsame
    rw [hsame.eq_nil]
    rfl
  | some a =>
    rw [hget] at hsame
    rw [List.perm_singleton.mp hsame]
    rfl

/-! ### Another value in one field -/

/-- The schema finds the same in both records in all fields but one, in the same order: when
they are validated, when they are evaluated, and when they are checked by a session after
anything else that was done to it. -/
structure AlikeExcept (field : String) (record : ρ) (other : σ) : Prop where
  validated : ∀ options,
    (schema.validateWith options record).value.toList.filter (fun v => v.field ≠ field) =
      (schema.validateWith options other).value.toList.filter fun v => v.field ≠ field
  evaluated :
    (schema.evaluate record).value.2.entries.filter (fun entry => entry.1 ≠ field) =
      (schema.evaluate other).value.2.entries.filter fun entry => entry.1 ≠ field
  checked : ∀ options (ops : List Operation) (s : Session),
    s = ((Session.fresh options).run ops).value.1 →
      (s.check schema record).value.violations.filter (fun v => v.field ≠ field) =
        (s.check schema other).value.violations.filter fun v => v.field ≠ field

theorem due_filter_ne (field : String) (record : ρ) (other : σ)
    (h : ∀ name ∈ schema.names, name ≠ field →
      Record.field? record name = Record.field? other name) (options : Options) :
    (schema.due options record).filter (fun v => v.field ≠ field) =
      (schema.due options other).filter fun v => v.field ≠ field := by
  rw [due_eq_flatMap, due_eq_flatMap, List.filter_flatMap, List.filter_flatMap]
  apply List.flatMap_congr
  intro name hname
  by_cases hfield : name = field
  · -- What either record has under this name is left out.
    subst hfield
    rw [Grouping.filter_ne_eq_nil Violation.field name _
        (schema.field_of_mem_dueOn options record name),
      Grouping.filter_ne_eq_nil Violation.field name _
        (schema.field_of_mem_dueOn options other name)]
  · rw [dueOn, dueOn, h name hname hfield]

theorem alikeExcept_of_fields (field : String) (record : ρ) (other : σ)
    (h : ∀ name ∈ schema.names, name ≠ field →
      Record.field? record name = Record.field? other name) :
    schema.AlikeExcept field record other := by
  have hdue := schema.due_filter_ne field record other h
  refine ⟨?_, ?_, ?_⟩
  · intro options
    rw [value_validateWith, value_validateWith, ValidationResult.toList_ofList,
      ValidationResult.toList_ofList, hdue]
  · rw [value_evaluate, value_evaluate, Grouping.collect_entries, Grouping.collect_entries,
      List.filter_map, List.filter_map]
    have hgroups := Grouping.groups_filter_ne Violation.field field
    simp only [Function.comp_def, hgroups, hdue]
  · rintro options ops s rfl
    have hviolations : ∀ vs,
        (((Session.fresh options).addAll (Operation.sinceClear options ops)).addAll
          vs).violations.filter (fun v => v.field ≠ field) =
        Grouping.regrouped Violation.field
          ((Operation.sinceClear options ops ++ vs).filter fun v => v.field ≠ field) := by
      intro vs
      rw [← Session.addAll_append, Session.violations_addAll_fresh,
        Grouping.regrouped_filter_ne]
    rw [Session.run_session, Session.value_check, Session.value_check, Session.options_addAll,
      hviolations, hviolations, List.filter_append, List.filter_append]
    have hoptions : (Session.fresh options).options = options := rfl
    rw [hoptions, hdue]

/-! ### Every kind of record -/

/-- What a schema finds in a record depends on the values under the names that it declares and
on nothing else, not even on the kind of the record. So an object and a map that was filled
with its members in some order, and with anything under other names, are alike to it, a
document that is no object is like an empty record, and another value in one field changes
nothing in the others. -/
theorem declared_fields_decide :
    (∀ {ρ σ : Type} [Record ρ] [Record σ] (record : ρ) (other : σ),
      (∀ name ∈ schema.names, Record.field? record name = Record.field? other name) →
        schema.Alike record other) ∧
    (∀ (object : FieldMap Json) (members : List (String × Json)),
      schema.Stores object members →
        schema.Alike (Json.object object.entries) (FieldMap.ofList members)) ∧
    (∀ (object : FieldMap Json) (entries : List (String × Value)),
      schema.Stores (object.mapValues Value.ofJson) entries →
        schema.Alike (Json.object object.entries) (FieldMap.ofList entries) ∧
        schema.Alike (Json.object object.entries) (Std.HashMap.ofList entries) ∧
        schema.Alike (Json.object object.entries) (Std.TreeMap.ofList entries)) ∧
    (∀ document : Json, (∀ members, document ≠ .object members) →
      schema.Alike document (∅ : FieldMap Value)) ∧
    (∀ {ρ σ : Type} [Record ρ] [Record σ] (field : String) (record : ρ) (other : σ),
      (∀ name ∈ schema.names, name ≠ field →
        Record.field? record name = Record.field? other name) →
        schema.AlikeExcept field record other) := by
  refine ⟨?_, ?_, ?_, ?_, ?_⟩
  · intro ρ σ _ _ record other h
    exact schema.alike_of_fields record other h
  · intro object members h
    apply alike_of_fields
    intro name hname
    have hstored : (FieldMap.ofList members).get? name = object.get? name := by
      rw [FieldMap.get?_ofList_eq_last?]
      exact schema.last?_of_stores object members h name hname
    exact (congrArg (Option.map Value.ofJson) hstored).symm
  · intro object entries h
    have hfield : ∀ name ∈ schema.names,
        Record.field? (Json.object object.entries) name = Entries.last? name entries := by
      intro name hname
      rw [schema.last?_of_stores _ entries h name hname, FieldMap.get?_mapValues]
      rfl
    refine ⟨?_, ?_, ?_⟩
    · apply alike_of_fields
      intro name hname
      exact (hfield name hname).trans (FieldMap.get?_ofList_eq_last? entries name).symm
    · apply alike_of_fields
      intro name hname
      exact (hfield name hname).trans (Entries.getElem?_hashMap_ofList entries name).symm
    · apply alike_of_fields
      intro name hname
      exact (hfield name hname).trans (Entries.getElem?_treeMap_ofList entries name).symm
  · intro document h
    apply alike_of_fields
    intro name _
    cases document with
    | object members => exact absurd rfl (h members)
    | _ => rfl
  · intro ρ σ _ _ field record other h
    exact schema.alikeExcept_of_fields field record other h

/-- The map was filled in another order and holds a colour that nothing asks for; in the last
record only the age is another one. -/
theorem shuffled_map_is_alike :
    ∃ (schema : Schema) (object : FieldMap Json) (entries : List (String × Value))
      (grown : FieldMap Value),
      schema = ofFields [("name", [⟨.required, none⟩]), ("age", [⟨.min 18, none⟩])] ∧
      object = .ofList [("name", .null), ("age", .int 7)] ∧
      entries = [("age", .int 7), ("colour", .text "red"), ("name", .null)] ∧
      grown = .ofList [("name", .null), ("age", .int 30)] ∧
      schema.Stores (object.mapValues Value.ofJson) entries ∧
      schema.Alike (Json.object object.entries) (Std.HashMap.ofList entries) ∧
      schema.Alike (Json.list []) (∅ : FieldMap Value) ∧
      schema.AlikeExcept "age" (Json.object object.entries) grown ∧
      (schema.validateWith {} (Json.object object.entries)).value.toList.map Violation.field =
        ["name", "age"] ∧
      (schema.validateWith {} grown).value.toList.map Violation.field = ["name"] := by
  have hstores : Stores (ofFields [("name", [⟨.required, none⟩]), ("age", [⟨.min 18, none⟩])])
      ((FieldMap.ofList [("name", Json.null), ("age", .int 7)]).mapValues Value.ofJson)
      [("age", .int 7), ("colour", .text "red"), ("name", .null)] := by
    refine ⟨[("colour", .text "red")], by decide, ?_⟩
    exact @List.perm_append_comm _ [("age", Value.int 7), ("colour", .text "red")]
      [("name", .null)]
  have hsame : ∀ name ∈ ["name", "age"], name ≠ "age" →
      Record.field? (Json.object [("name", .null), ("age", .int 7)]) name =
        Record.field? (FieldMap.ofList [("name", Value.null), ("age", .int 30)]) name := by
    intro name hname hne
    rcases List.mem_pair.mp hname with rfl | rfl
    · rfl
    · exact absurd rfl hne
  refine ⟨_, _, _, _, rfl, rfl, rfl, rfl, hstores, ?_, ?_, ?_, by decide, by decide⟩
  · exact ((declared_fields_decide _).2.2.1 _ _ hstores).2.1
  · exact (declared_fields_decide _).2.2.2.1 (.list []) (by simp)
  · exact (declared_fields_decide _).2.2.2.2 "age" _ _ hsame

end Schema

end Fieldwise
