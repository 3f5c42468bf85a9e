import Fieldwise.Proofs.Log
import Mathlib.Data.List.Induction

/-!
# Messages that replace the usual ones

What a constraint of a field is to blame for is what the check of the field gains by it: the
violations that are found with the constraint after those before it, and not without it. They
show the message that the constraint brings, in place of the usual one and of the words of a
custom rule. The one exception is a bound that is asked of a value that is no number: where that is
reported, it is said in words of its own.
-/

namespace Fieldwise

/-- A bound that is asked of a value that is there and no number, and the mismatch is reported. -/
def Rule.ReportsMismatch (options : Options) (v : Option Value) (rule : Rule) : Prop :=
  options.mismatch = .report ∧ ∃ w ∈ v, w.isEmpty = false ∧ rule.IsMismatch w

namespace Constraints

/-- What the check of a field gains by a constraint after these. -/
def gained (options : Options) (field : String) (earlier : Constraints) (c : Constraint)
    (v : Option Value) : List Violation :=
  (check options field (earlier ++ [c]) v).value.drop (check options field earlier v).value.length

/-- The violations due because of a constraint after these. A missing value is the fault of the
first constraint that asks for one. -/
def dueAfter (options : Options) (field : String) (earlier : Constraints) (c : Constraint)
    (v : Option Value) : List Violation :=
  match v.filter fun v => !v.isEmpty with
  | none => if earlier.isRequired || !c.isRequired then [] else [⟨field, c.message, "required"⟩]
  | some w => (c.due? options field w).toList

section

variable (options : Options) (field : String) (earlier : Constraints) (v : Option Value)

theorem isRequired_eq_false_iff :
    earlier.isRequired = false ↔ earlier.filter Constraint.isRequired = [] := by
  simp [isRequired]

theorem dueMissing_concat (c : Constraint) :
    dueMissing field (earlier ++ [c]) =
      dueMissing field earlier ++
        if earlier.isRequired || !c.isRequired then [] else [⟨field, c.message, "required"⟩] := by
  unfold dueMissing
  rw [List.filter_append]
  cases hasks : earlier.isRequired with
  | false =>
    rw [(isRequired_eq_false_iff earlier).mp hasks, List.nil_append]
    cases hc : c.isRequired with
    | false => simp [hc]
    | true => simp [hc]
  | true =>
    obtain ⟨first, rest, hfilter⟩ : ∃ first rest,
        earlier.filter Constraint.isRequired = first :: rest := by
      apply List.exists_cons_of_ne_nil
      intro hnil
      rw [(isRequired_eq_false_iff earlier).mpr hnil] at hasks
      cases hasks
    rw [hfilter]
    rfl

theorem due_eq_match (constraints : Constraints) :
    constraints.due options field v =
      match v.filter fun v => !v.isEmpty with
      | none => dueMissing field constraints
      | some w => constraints.filterMap (Constraint.due? options field w) := by
  rw [due_eq_asked]
  unfold asked?
  cases constraints with
  | nil =>
    cases v.filter fun v => !v.isEmpty with
    | none => rfl
    | some w => rfl
  | cons c rest => rfl

theorem due_concat (c : Constraint) :
    due options field (earlier ++ [c]) v =
      due options field earlier v ++ dueAfter options field earlier c v := by
  rw [due_eq_match, due_eq_match, dueAfter]
  cases v.filter fun v => !v.isEmpty with
  | none => exact dueMissing_concat field earlier c
  | some w =>
    simp only [List.filterMap_eq_flatMap_toList, List.flatMap_append, List.flatMap_singleton]

theorem gained_eq (c : Constraint) :
    gained options field earlier c v = dueAfter options field earlier c v := by
  rw [gained, value_check, value_check, due_concat, List.drop_left]

/-- Every violation of a field is gained by one of its constraints. -/
theorem exists_gained_of_mem (constraints : Constraints) (violation : Violation)
    (h : violation ∈ (check options field constraints v).value) :
    ∃ earlier c later, constraints = earlier ++ c :: later ∧
      violation ∈ gained options field earlier c v := by
  rw [value_check] at h
  induction constraints using List.reverseRecOn with
  | nil => cases h
  | append_singleton earlier c ih =>
    rw [due_concat] at h
    rcases List.mem_append.mp h with hearlier | hlast
    · obtain ⟨front, d, later, rfl, hd⟩ := ih hearlier
      exact ⟨front, d, later ++ [c], by simp, hd⟩
    · exact ⟨earlier, c, [], rfl, gained_eq options field earlier v c ▸ hlast⟩

theorem dueAfter_congr {these those : Constraints} (h : these.isRequired = those.isRequired)
    (c : Constraint) :
    dueAfter options field these c v = dueAfter options field those c v := by
  rw [dueAfter, dueAfter, h]

/-- What the later constraints are to blame for does not depend on the messages before them. -/
theorem due_append_cons (later : Constraints) (rule : Rule) :
    ∃ others, ∀ override, due options field (earlier ++ ⟨rule, override⟩ :: later) v =
      due options field earlier v ++ dueAfter options field earlier ⟨rule, override⟩ v ++
        others := by
  induction later using List.reverseRecOn with
  | nil => exact ⟨[], fun override => by rw [due_concat, List.append_nil]⟩
  | append_singleton later d ih =>
    obtain ⟨others, hothers⟩ := ih
    let usual : Constraints := earlier ++ ⟨rule, none⟩ :: later
    refine ⟨others ++ dueAfter options field usual d v, fun override => ?_⟩
    have hrequired : isRequired (earlier ++ ⟨rule, override⟩ :: later) = usual.isRequired := by
      simp only [isRequired, usual, List.any_append, List.any_cons]
      rfl
    calc due options field (earlier ++ ⟨rule, override⟩ :: (later ++ [d])) v
        = due options field ((earlier ++ ⟨rule, override⟩ :: later) ++ [d]) v := by simp
      _ = due options field (earlier ++ ⟨rule, override⟩ :: later) v ++
            dueAfter options field usual d v := by
        rw [due_concat, dueAfter_congr options field v hrequired]
      _ = _ := by rw [hothers, List.append_assoc]

end

end Constraints

/-! ### Messages -/

namespace Constraint

variable (options : Options) (field : String) (w : Value) (c : Constraint) (m : String)

theorem due?_of_isMismatch (h : c.rule.IsMismatch w) :
    c.due? options field w =
      if options.mismatch = .report then some ⟨field, "Must be a number", "type_mismatch"⟩
      else none := by
  rw [due?, if_pos h]
  cases options.mismatch with
  | skip => rfl
  | report => rfl

/-- The message is shown for what breaks the rule, and for nothing else. -/
theorem due?_withMessage :
    (c.withMessage m).due? options field w =
      if c.rule.IsMismatch w then c.due? options field w
      else if c.rule.Holds w then none
      else some ⟨field, m, c.code⟩ := by
  by_cases hmismatch : c.rule.IsMismatch w
  · have hsame : (c.withMessage m).rule.IsMismatch w := hmismatch
    rw [if_pos hmismatch, due?_of_isMismatch _ _ _ _ hmismatch, due?_of_isMismatch _ _ _ _ hsame]
  · have hrule : (c.withMessage m).rule = c.rule := rfl
    rw [if_neg hmismatch, due?, hrule, if_neg hmismatch]
    rfl

end Constraint

namespace Constraints

variable (options : Options) (field : String) (earlier : Constraints) (v : Option Value)
  (c : Constraint) (m : String)

theorem reportsMismatch_iff {w : Value} (hw : (v.filter fun v => !v.isEmpty) = some w)
    (rule : Rule) :
    rule.ReportsMismatch options v ↔ options.mismatch = .report ∧ rule.IsMismatch w := by
  obtain ⟨rfl, hfilled⟩ := Option.filter_eq_some_iff.mp hw
  simp only [Bool.not_eq_eq_eq_not, Bool.not_true] at hfilled
  simp [Rule.ReportsMismatch, hfilled]

theorem message_of_mem_dueAfter (hrule : ¬c.rule.ReportsMismatch options v)
    (violation : Violation)
    (h : violation ∈ dueAfter options field earlier (c.withMessage m) v) :
    violation.message = m := by
  unfold dueAfter at h
  split at h
  · split at h
    · cases h
    · rw [List.mem_singleton.mp h]
      rfl
  · rename_i w hw
    rw [reportsMismatch_iff options v hw] at hrule
    rw [Constraint.due?_withMessage] at h
    split at h
    · -- A mismatch that is not reported leaves nothing behind.
      rename_i hmismatch
      have hskip : options.mismatch ≠ .report := fun hreport => hrule ⟨hreport, hmismatch⟩
      rw [Constraint.due?_of_isMismatch _ _ _ _ hmismatch, if_neg hskip] at h
      cases h
    · split at h
      · cases h
      · rw [List.mem_singleton.mp h]

theorem dueAfter_of_reportsMismatch (hrule : c.rule.ReportsMismatch options v) :
    dueAfter options field earlier c v = [⟨field, "Must be a number", "type_mismatch"⟩] := by
  obtain ⟨hreport, w, hw, hfilled, hmismatch⟩ := hrule
  have hpresent : (v.filter fun v => !v.isEmpty) = some w := by
    rw [Option.mem_def.mp hw]
    simp [hfilled]
  rw [dueAfter, hpresent]
  show (c.due? options field w).toList = _
  rw [Constraint.due?_of_isMismatch _ _ _ _ hmismatch, if_pos hreport]
  rfl

theorem places_withMessage :
    (dueAfter options field earlier (c.withMessage m) v).map
        (fun violation => (violation.field, violation.code)) =
      (dueAfter options field earlier c v).map
        (fun violation => (violation.field, violation.code)) := by
  have hasks : (c.withMessage m).isRequired = c.isRequired := rfl
  unfold dueAfter
  cases v.filter fun v => !v.isEmpty with
  | none =>
    simp only [hasks]
    split
    · rfl
    · rfl
  | some w =>
    simp only [Constraint.due?_withMessage]
    split
    · rfl
    · rename_i hmismatch
      simp only [Constraint.due?, if_neg hmismatch]
      split
      · rfl
      · rfl

/-- Every violation of a field is recorded because of one of its constraints, and those that are
recorded because of a constraint with a message of its own show that message, whatever the other
constraints are and whether the value is there or not, unless the constraint is a bound on a value
that is no number. The message changes nothing else. -/
theorem override_message_shown (s : Session) (field : String) (v : Option Value) :
    (∀ constraints, ∀ violation ∈ (check s.options field constraints v).value,
      ∃ earlier c later, constraints = earlier ++ c :: later ∧
        violation ∈ gained s.options field earlier c v) ∧
    ∀ (earlier later : Constraints) (c : Constraint), ∃ others, ∀ m,
      let mine := gained s.options field earlier (c.withMessage m) v
      (s.checkField field v (earlier ++ c.withMessage m :: later)).value =
        ((s.checkField field v earlier).value.addAll mine).addAll others ∧
      (¬c.rule.ReportsMismatch s.options v → ∀ violation ∈ mine, violation.message = m) ∧
      (c.rule.ReportsMismatch s.options v →
        mine = [⟨field, "Must be a number", "type_mismatch"⟩]) ∧
      mine.map (fun violation => (violation.field, violation.code)) =
        (gained s.options field earlier c v).map
          fun violation => (violation.field, violation.code) := by
  refine ⟨exists_gained_of_mem s.options field v, fun earlier later c => ?_⟩
  obtain ⟨others, hothers⟩ := due_append_cons s.options field earlier v later c.rule
  refine ⟨others, fun m => ?_⟩
  simp only [gained_eq]
  refine ⟨?_, ?_, ?_, ?_⟩
  · have hdue : due s.options field (earlier ++ c.withMessage m :: later) v = _ := hothers (some m)
    rw [Session.value_checkField, Session.value_checkField, value_check, value_check, hdue,
      Session.addAll_append, Session.addAll_append]
    rfl
  · exact fun hrule => message_of_mem_dueAfter s.options field earlier v c m hrule
  · exact fun hrule => dueAfter_of_reportsMismatch s.options field earlier v _ hrule
  · exact places_withMessage s.options field earlier v c m

/-- A bound on a value that is no number does not show its message. -/
theorem mismatch_not_overridden :
    ¬∀ (options : Options) (field : String) (earlier : Constraints) (c : Constraint) (m : String)
      (v : Option Value), ∀ violation ∈ gained options field earlier (c.withMessage m) v,
        violation.message = m := by
  intro hwins
  have hgained : gained ⟨.report⟩ "n" [] (Constraint.withMessage ⟨.min 10, none⟩ "too small")
      (some (.text "many")) = [⟨"n", "Must be a number", "type_mismatch"⟩] := by decide
  have hmessage := hwins ⟨.report⟩ "n" [] ⟨.min 10, none⟩ "too small" (some (.text "many"))
    ⟨"n", "Must be a number", "type_mismatch"⟩ (hgained ▸ List.mem_singleton_self _)
  exact absurd hmessage (by decide)

example :
    (check {} "n" [⟨.email, some "not an address"⟩, ⟨.required, some "give one"⟩,
      ⟨.required, some "give another"⟩] none).value = [⟨"n", "give one", "required"⟩] := by
  decide

end Constraints

end Fieldwise
