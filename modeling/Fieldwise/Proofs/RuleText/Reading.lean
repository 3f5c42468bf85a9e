import Fieldwise.Proofs.Log
import Fieldwise.Proofs.Trimming
import Mathlib.Data.List.Basic

/-!
# The three readings of rule text

Every token of a text makes a constraint or has a fault. Reading permissively keeps the
constraints, reading for faults keeps the faults, and reading strictly gives all constraints
or the first fault. The pieces between bars are read one by one, so each reading of a text
is put together from the readings of its pieces.
-/

namespace Fieldwise.RuleText

/-! ### Tokens of pieces -/

/-- The pieces of a text between bars that are not blank. -/
def pieces (text : String) : List (List Char) :=
  (text.toList.splitOn '|').filter fun piece => !piece.all Text.isBlank

theorem Token.ofChars?_eq_none_iff (cs : List Char) :
    Token.ofChars? cs = none ↔ Text.Blank cs := by
  rw [← Text.trim_eq_nil_iff]
  unfold Token.ofChars?
  split
  · rename_i hnil
    simp [hnil]
  · rename_i hne
    split
    · exact iff_of_false (Option.some_ne_none _) hne
    · exact iff_of_false (Option.some_ne_none _) hne

theorem tokens_of_notMem (cs : List Char) (h : '|' ∉ cs) :
    tokens cs = (Token.ofChars? cs).toList := by
  rw [tokens, List.splitOn_eq_singleton h, List.filterMap_cons, List.filterMap_nil]
  cases Token.ofChars? cs with
  | none => rfl
  | some t => rfl

theorem notMem_of_mem_pieces (text : String) (piece : List Char) (h : piece ∈ pieces text) :
    '|' ∉ piece :=
  Text.notMem_of_mem_splitOn '|' _ piece (List.mem_filter.mp h).1

theorem tokens_of_mem_pieces (text : String) (piece : List Char) (h : piece ∈ pieces text) :
    ∃ t, tokens piece = [t] := by
  have hfilled : ¬Text.Blank piece := by
    rw [Text.blank_iff_all]
    simpa using (List.mem_filter.mp h).2
  rw [tokens_of_notMem piece (notMem_of_mem_pieces text piece h)]
  cases ht : Token.ofChars? piece with
  | none => exact absurd ((Token.ofChars?_eq_none_iff piece).mp ht) hfilled
  | some t => exact ⟨t, rfl⟩

theorem tokens_eq_flatMap (text : String) :
    tokens text.toList = (pieces text).flatMap tokens := by
  have hpieces : (pieces text).filterMap Token.ofChars? = tokens text.toList := by
    rw [pieces, List.filterMap_filter, tokens]
    apply List.filterMap_congr
    intro piece _
    split
    · rfl
    · rename_i hblank
      have hall : piece.all Text.isBlank = true := by simpa using hblank
      exact ((Token.ofChars?_eq_none_iff piece).mpr ((Text.blank_iff_all piece).mpr hall)).symm
  rw [← hpieces, List.filterMap_eq_flatMap_toList]
  apply List.flatMap_congr
  intro piece hpiece
  exact (tokens_of_notMem piece (notMem_of_mem_pieces text piece hpiece)).symm

theorem length_tokens (text : String) : (tokens text.toList).length = (pieces text).length := by
  rw [tokens_eq_flatMap, List.length_flatMap]
  have hone : (pieces text).map (fun piece => (tokens piece).length) =
      (pieces text).map fun _ => 1 := by
    apply List.map_congr_left
    intro piece hpiece
    obtain ⟨t, ht⟩ := tokens_of_mem_pieces text piece hpiece
    rw [ht, List.length_singleton]
  rw [hone]
  simp

/-! ### Readings of token lists -/

theorem Token.outcome (t : Token) :
    (∃ c, t.constraint = .ok c ∧ t.constraint.toOption = some c ∧ t.fault? = none) ∨
      (∃ e, t.constraint = .error e ∧ t.constraint.toOption = none ∧ t.fault? = some e) := by
  unfold Token.fault?
  cases t.constraint with
  | ok c => exact Or.inl ⟨c, rfl, rfl, rfl⟩
  | error e => exact Or.inr ⟨e, rfl, rfl, rfl⟩

theorem length_kept_add_length_faults (ts : List Token) :
    (ts.filterMap fun t => t.constraint.toOption).length + (ts.filterMap Token.fault?).length =
      ts.length := by
  induction ts with
  | nil => rfl
  | cons t rest ih =>
    rcases t.outcome with ⟨c, _, hkept, hfault⟩ | ⟨e, _, hkept, hfault⟩
    · simp only [List.filterMap_cons, hkept, hfault, List.length_cons]
      omega
    · simp only [List.filterMap_cons, hkept, hfault, List.length_cons]
      omega

/-- Reading strictly stops at the first fault, and without one keeps every constraint. -/
theorem mapM_constraint (ts : List Token) :
    ts.mapM Token.constraint =
      match ts.filterMap Token.fault? with
      | [] => .ok (ts.filterMap fun t => t.constraint.toOption)
      | e :: _ => .error e := by
  induction ts with
  | nil => rfl
  | cons t rest ih =>
    rw [List.mapM_cons, ih]
    rcases t.outcome with ⟨c, hc, hkept, hfault⟩ | ⟨e, he, hkept, hfault⟩
    · simp only [List.filterMap_cons, hc, hfault]
      cases rest.filterMap Token.fault? with
      | nil => rfl
      | cons e faults => rfl
    · simp only [List.filterMap_cons, he, hfault]
      rfl

theorem parseStrict_eq (text : String) :
    parseStrict text =
      match diagnose text with
      | [] => .ok (parse text).value
      | e :: _ => .error e := by
  rw [parseStrict, mapM_constraint, value_parse, diagnose]

theorem exists_parseStrict_iff (text : String) :
    (∃ cs, parseStrict text = .ok cs) ↔ diagnose text = [] := by
  rw [parseStrict_eq]
  cases diagnose text with
  | nil => simp
  | cons e faults => simp

theorem value_parse_of_parseStrict (text : String) (cs : Constraints)
    (h : parseStrict text = .ok cs) : (parse text).value = cs := by
  have hdiagnose := (exists_parseStrict_iff text).mp ⟨cs, h⟩
  rw [parseStrict_eq, hdiagnose] at h
  exact Except.ok.inj h

/-! ### Checks of annotated records -/

/-- A token was dropped. -/
def isRuleDropped : Event → Bool
  | .ruleDropped _ _ => true
  | _ => false

theorem filter_events_check (options : Options) (field : String) (constraints : Constraints)
    (v : Option Value) :
    (constraints.check options field v).events.filter isRuleDropped = [] := by
  rw [Constraints.events_check]
  apply List.filter_eq_nil_iff.mpr
  intro event hevent hdropped
  have hlevel := Constraints.level_of_mem_dueEvents options field constraints v event hevent
  cases event with
  | ruleDropped rules error => cases hlevel
  | _ => cases hdropped

theorem filter_events_parse (text : String) :
    (parse text).events.filter isRuleDropped = (diagnose text).map (Event.ruleDropped text) := by
  rw [events_parse]
  apply List.filter_eq_self.mpr
  intro event hevent
  obtain ⟨e, _, rfl⟩ := List.mem_map.mp hevent
  rfl

theorem filter_events_checkAnnotated (s : Session) (fields : List RuledField) :
    (s.checkAnnotated fields).events.filter isRuleDropped =
      fields.flatMap fun a => (diagnose a.rules).map (Event.ruleDropped a.rules) := by
  have hfields : (s.checkRuledFields fields).events.filter isRuleDropped =
      fields.flatMap fun a => (diagnose a.rules).map (Event.ruleDropped a.rules) := by
    induction fields generalizing s with
    | nil => rfl
    | cons a rest ih =>
      simp only [Session.checkRuledFields, Session.checkField, Logged.events_bind,
        List.filter_append, filter_events_parse, filter_events_check, ih, Logged.events_pure,
        List.append_nil, List.nil_append, List.flatMap_cons]
  simp only [Session.checkAnnotated, Logged.events_bind, Logged.events_pure, List.filter_append,
    hfields]
  simp [Logged.report, isRuleDropped]

theorem faults_eq_nil_iff (fields : List RuledField) :
    RuledField.faults fields = [] ↔ ∀ a ∈ fields, diagnose a.rules = [] :=
  List.flatMap_eq_nil_iff

/-! ### Agreement -/

/-- The three readings agree on every text. Each piece alone is kept or faulty in all three
of them, and the readings of the text are those of its pieces in order; strict reading keeps
all or gives the first fault; the faults are what permissive reading reports, and the other
two report nothing. So a record that brings its rules is free of faults exactly if strict
reading accepts all of them, and then checking it drops nothing. -/
theorem readings_agree (text : String) :
    (parse text).value.length + (diagnose text).length = (pieces text).length ∧
    (parse text).value =
      ((pieces text).flatMap fun piece => (parse (String.ofList piece)).value) ∧
    diagnose text = ((pieces text).flatMap fun piece => diagnose (String.ofList piece)) ∧
    (∀ piece ∈ pieces text,
      (∃ c, (parse (String.ofList piece)).value = [c] ∧ diagnose (String.ofList piece) = [] ∧
        parseStrict (String.ofList piece) = .ok [c]) ∨
      (∃ e, (parse (String.ofList piece)).value = [] ∧ diagnose (String.ofList piece) = [e] ∧
        parseStrict (String.ofList piece) = .error e)) ∧
    (parseStrict text =
      match diagnose text with
      | [] => .ok (parse text).value
      | e :: _ => .error e) ∧
    ((parse text).events.map fun event => (event.level, event.message, event.fields)) =
      ((diagnose text).map fun e =>
        (Level.debug, "dropping rule token", [("rules", text), ("error", e.message)])) ∧
    (∀ fields : List RuledField,
      RuledField.faults fields = (fields.flatMap fun a => diagnose a.rules) ∧
      (RuledField.faults fields = [] ↔ ∀ a ∈ fields, ∃ cs, parseStrict a.rules = .ok cs) ∧
      (RuledField.faults fields = [] ↔
        ∀ s : Session, (s.checkAnnotated fields).events.filter isRuleDropped = [])) := by
  refine ⟨?_, ?_, ?_, ?_, parseStrict_eq text, ?_, ?_⟩
  · rw [value_parse, diagnose, length_kept_add_length_faults, length_tokens]
  · simp only [value_parse, String.toList_ofList, tokens_eq_flatMap text, List.filterMap_flatMap]
  · simp only [diagnose, String.toList_ofList, tokens_eq_flatMap text, List.filterMap_flatMap]
  · intro piece hpiece
    obtain ⟨t, ht⟩ := tokens_of_mem_pieces text piece hpiece
    rw [parseStrict_eq, value_parse, diagnose, String.toList_ofList, ht]
    rcases t.outcome with ⟨c, _, hkept, hfault⟩ | ⟨e, _, hkept, hfault⟩
    · exact Or.inl ⟨c, by simp [hkept, hfault]⟩
    · exact Or.inr ⟨e, by simp [hkept, hfault]⟩
  · rw [events_parse, List.map_map]
    rfl
  · intro fields
    refine ⟨rfl, ?_, ?_⟩
    · simp only [faults_eq_nil_iff, exists_parseStrict_iff]
    · have hdropped : ∀ s : Session, (s.checkAnnotated fields).events.filter isRuleDropped = [] ↔
          RuledField.faults fields = [] := by
        intro s
        simp only [filter_events_checkAnnotated, faults_eq_nil_iff, List.flatMap_eq_nil_iff,
          List.map_eq_nil_iff]
      exact ⟨fun h s => (hdropped s).mpr h, fun h => (hdropped {}).mp (h {})⟩

end Fieldwise.RuleText
