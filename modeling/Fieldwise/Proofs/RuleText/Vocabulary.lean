import Fieldwise.Proofs.RuleText.Writing

/-!
# The vocabulary of rule text

Twenty-two codes name rules, and each says what the rule takes as its parameter: nothing, a
number, a length, a text, a list or a pattern. The code of a token decides how its argument is
read, and so which rule it writes and for which reasons it is refused.
-/

namespace Fieldwise.RuleText

/-! ### Codes -/

/-- What a rule takes as its parameter. -/
inductive ParameterKind
  | none
  | number
  | length
  | text
  | list
  | pattern
deriving DecidableEq

/-- The codes that name rules, each with what its rule takes. -/
def vocabulary : List (String × ParameterKind) :=
  [("required", .none), ("email", .none), ("url", .none), ("alpha", .none), ("alphanum", .none),
    ("numeric", .none), ("uuid", .none), ("ip", .none), ("ipv4", .none), ("ipv6", .none),
    ("date", .none), ("time", .none), ("datetime", .none), ("min", .number), ("max", .number),
    ("min_len", .length), ("max_len", .length), ("in", .list), ("not_in", .list),
    ("equal", .text), ("not_equal", .text), ("regex", .pattern)]

def codes : List String := vocabulary.map Prod.fst

namespace Token

def code (t : Token) : String := String.ofList t.name

/-- How a token is read whose rule takes a parameter of a kind. The rule has the code of the
token, and can be written where its parameter can. -/
inductive Reads (t : Token) : ParameterKind → Prop
  | none (rule : Rule) (hmake : rule.code = t.code ∧ rule.Writable) (h : t.rule = .ok rule) :
      Reads t .none
  | number (make : Int64 → Rule) (hmake : ∀ n, (make n).code = t.code ∧ (make n).Writable)
      (h : t.rule = (t.readArgument Number.readInt64).map make) : Reads t .number
  | length (make : UInt64 → Rule) (hmake : ∀ n, (make n).code = t.code ∧ (make n).Writable)
      (h : t.rule = (t.readArgument Number.readUInt64).map make) : Reads t .length
  | text (make : String → Rule)
      (hmake : ∀ s, (make s).code = t.code ∧ (IsArgument s.toList → (make s).Writable))
      (h : t.rule = t.textArgument.map make) : Reads t .text
  | list (make : List String → Rule)
      (hmake : ∀ options, (make options).code = t.code ∧
        (options ≠ [] ∧ options ≠ [""] ∧ (∀ option ∈ options, IsItem option.toList) →
          (make options).Writable))
      (h : t.rule = t.listArgument.map make) : Reads t .list
  | pattern (hcode : t.code = "regex") (h : t.rule = t.patternArgument) : Reads t .pattern

theorem reads_vocabulary (argument : Option (List Char)) :
    ∀ entry ∈ vocabulary, (⟨entry.1.toList, argument⟩ : Token).Reads entry.2 := by
  simp only [vocabulary, List.forall_mem_cons]
  -- The rules in the order of the vocabulary.
  refine ⟨.none .required ⟨rfl, trivial⟩ rfl, .none .email ⟨rfl, trivial⟩ rfl,
    .none .url ⟨rfl, trivial⟩ rfl, .none .alpha ⟨rfl, trivial⟩ rfl,
    .none .alphanumeric ⟨rfl, trivial⟩ rfl, .none .numeric ⟨rfl, trivial⟩ rfl,
    .none .uuid ⟨rfl, trivial⟩ rfl, .none .ip ⟨rfl, trivial⟩ rfl,
    .none .ipv4 ⟨rfl, trivial⟩ rfl, .none .ipv6 ⟨rfl, trivial⟩ rfl,
    .none (.timeFormat .date) ⟨rfl, trivial⟩ rfl, .none (.timeFormat .time) ⟨rfl, trivial⟩ rfl,
    .none (.timeFormat .dateTime) ⟨rfl, trivial⟩ rfl,
    .number .min (fun _ => ⟨rfl, trivial⟩) rfl, .number .max (fun _ => ⟨rfl, trivial⟩) rfl,
    .length .minLength (fun _ => ⟨rfl, trivial⟩) rfl,
    .length .maxLength (fun _ => ⟨rfl, trivial⟩) rfl,
    .list .oneOf (fun _ => ⟨rfl, id⟩) rfl, .list .notOneOf (fun _ => ⟨rfl, id⟩) rfl,
    .text .equal (fun _ => ⟨rfl, id⟩) rfl, .text .notEqual (fun _ => ⟨rfl, id⟩) rfl,
    .pattern rfl rfl, fun entry h => ?_⟩
  cases h

theorem reads_of_mem (t : Token) (kind : ParameterKind) (h : (t.code, kind) ∈ vocabulary) :
    t.Reads kind := by
  obtain ⟨name, argument⟩ := t
  have hreads := reads_vocabulary argument _ h
  simp only [code, String.toList_ofList] at hreads
  exact hreads

theorem rule_of_unknown (t : Token) (h : t.code ∉ codes) :
    t.rule = .error (.unknownRule t.code) := by
  unfold rule
  split
  case h_23 => rfl
  all_goals
    rename_i hname
    exact absurd (by rw [code, hname]; decide) h

/-- A token gives a code that names no rule, or is read as its code says. -/
theorem unknown_or_reads (t : Token) :
    t.code ∉ codes ∨ ∃ kind, (t.code, kind) ∈ vocabulary ∧ t.Reads kind := by
  by_cases h : t.code ∈ codes
  · obtain ⟨⟨name, kind⟩, hentry, hname⟩ := List.mem_map.mp h
    have hmem : (t.code, kind) ∈ vocabulary := by
      rw [← hname]
      exact hentry
    exact Or.inr ⟨kind, hmem, t.reads_of_mem kind hmem⟩
  · exact Or.inl h

/-! ### Arguments -/

theorem argument_outcome (t : Token) :
    (t.argument = none ∨ t.argument = some []) ∨
      ∃ argument, t.argument = some argument ∧ argument ≠ [] := by
  cases t.argument with
  | none => exact Or.inl (Or.inl rfl)
  | some argument =>
    cases argument with
    | nil => exact Or.inl (Or.inr rfl)
    | cons c cs => exact Or.inr ⟨c :: cs, rfl, List.cons_ne_nil _ _⟩

theorem required_of_argument (t : Token) (argument : List Char)
    (h : t.argument = some argument) (hfilled : argument ≠ []) : t.required = .ok argument := by
  obtain ⟨name, given⟩ := t
  cases h
  exact required_of_ne_nil name argument hfilled

theorem required_of_missing (t : Token) (h : t.argument = none ∨ t.argument = some []) :
    t.required = .error (.missingArgument t.code) := by
  obtain ⟨name, given⟩ := t
  rcases h with h | h
  · cases h
    rfl
  · cases h
    rfl

theorem readArgument_of_required {α : Type} (t : Token) (read : List Char → Option α)
    (argument : List Char) (h : t.required = .ok argument) :
    t.readArgument read =
      match read argument with
      | some a => .ok a
      | none => .error (.invalidArgument t.code (String.ofList argument)) := by
  rw [readArgument, h]
  rfl

theorem patternArgument_of_required (t : Token) (argument : List Char)
    (h : t.required = .ok argument) :
    t.patternArgument =
      match Pattern.compile (String.ofList argument) with
      | .ok p => .ok (.pattern p (String.ofList argument))
      | .error reason => .error (.invalidPattern (String.ofList argument) reason) := by
  rw [patternArgument, textArgument, h]
  rfl

theorem rule_of_required_error (t : Token) (kind : ParameterKind) (e : RuleError)
    (hreads : t.Reads kind) (hkind : kind ≠ .none) (h : t.required = .error e) :
    t.rule = .error e := by
  cases hreads with
  | none rule hmake hrule => exact absurd rfl hkind
  | number make hmake hrule | length make hmake hrule =>
    rw [hrule, readArgument, h]
    rfl
  | text make hmake hrule =>
    rw [hrule, textArgument, h]
    rfl
  | list make hmake hrule =>
    rw [hrule, listArgument, h]
    rfl
  | pattern hcode hrule =>
    rw [hrule, patternArgument, textArgument, h]
    rfl

/-! ### Faults -/

/-- The reasons to refuse a token: its code names no rule, its rule takes a parameter and the
argument is missing, or the argument is no number, no length or no pattern where one has to
be. -/
inductive Refused (t : Token) : RuleError → Prop
  | unknown (h : t.code ∉ codes) : Refused t (.unknownRule t.code)
  | missing {kind : ParameterKind} (hkind : (t.code, kind) ∈ vocabulary)
      (hparameter : kind ≠ .none) (h : t.argument = none ∨ t.argument = some []) :
      Refused t (.missingArgument t.code)
  | number {argument : List Char} (hkind : (t.code, .number) ∈ vocabulary)
      (hargument : t.argument = some argument) (hfilled : argument ≠ [])
      (h : Number.readInt64 argument = none) :
      Refused t (.invalidArgument t.code (String.ofList argument))
  | length {argument : List Char} (hkind : (t.code, .length) ∈ vocabulary)
      (hargument : t.argument = some argument) (hfilled : argument ≠ [])
      (h : Number.readUInt64 argument = none) :
      Refused t (.invalidArgument t.code (String.ofList argument))
  | pattern {argument : List Char} {reason : PatternError}
      (hkind : (t.code, .pattern) ∈ vocabulary) (hargument : t.argument = some argument)
      (hfilled : argument ≠ []) (h : Pattern.compile (String.ofList argument) = .error reason) :
      Refused t (.invalidPattern (String.ofList argument) reason)

theorem rule_of_refused (t : Token) (e : RuleError) (h : t.Refused e) : t.rule = .error e := by
  cases h with
  | unknown hcode => exact t.rule_of_unknown hcode
  | @missing kind hkind hparameter hmissing =>
    exact t.rule_of_required_error kind _ (t.reads_of_mem kind hkind) hparameter
      (t.required_of_missing hmissing)
  | @number argument hkind hargument hfilled hread =>
    have hrequired := t.required_of_argument argument hargument hfilled
    cases t.reads_of_mem _ hkind with
    | number make hmake hrule =>
      rw [hrule, t.readArgument_of_required _ argument hrequired, hread]
      rfl
  | @length argument hkind hargument hfilled hread =>
    have hrequired := t.required_of_argument argument hargument hfilled
    cases t.reads_of_mem _ hkind with
    | length make hmake hrule =>
      rw [hrule, t.readArgument_of_required _ argument hrequired, hread]
      rfl
  | @pattern argument reason hkind hargument hfilled hread =>
    have hrequired := t.required_of_argument argument hargument hfilled
    cases t.reads_of_mem _ hkind with
    | pattern hcode hrule =>
      rw [hrule, t.patternArgument_of_required argument hrequired, hread]

theorem read_of_readArgument_error {α : Type} (t : Token) (read : List Char → Option α)
    (make : α → Rule) (argument : List Char) (e : RuleError) (hrequired : t.required = .ok argument)
    (h : (t.readArgument read).map make = .error e) :
    read argument = none ∧ e = .invalidArgument t.code (String.ofList argument) := by
  rw [t.readArgument_of_required read argument hrequired] at h
  cases hread : read argument with
  | some a =>
    rw [hread] at h
    cases h
  | none =>
    rw [hread] at h
    cases h
    exact ⟨rfl, rfl⟩

theorem refused_of_rule (t : Token) (e : RuleError) (h : t.rule = .error e) : t.Refused e := by
  rcases t.unknown_or_reads with hunknown | ⟨kind, hkind, hreads⟩
  · rw [t.rule_of_unknown hunknown] at h
    cases h
    exact .unknown hunknown
  by_cases hparameter : kind = .none
  · subst hparameter
    cases hreads with
    | none rule hmake hrule =>
      rw [hrule] at h
      cases h
  rcases t.argument_outcome with hmissing | ⟨argument, hargument, hfilled⟩
  · rw [t.rule_of_required_error kind _ hreads hparameter (t.required_of_missing hmissing)] at h
    cases h
    exact .missing hkind hparameter hmissing
  · have hrequired := t.required_of_argument argument hargument hfilled
    cases hreads with
    | none rule hmake hrule => exact absurd rfl hparameter
    | number make hmake hrule =>
      rw [hrule] at h
      obtain ⟨hread, rfl⟩ := t.read_of_readArgument_error _ make argument e hrequired h
      exact .number hkind hargument hfilled hread
    | length make hmake hrule =>
      rw [hrule] at h
      obtain ⟨hread, rfl⟩ := t.read_of_readArgument_error _ make argument e hrequired h
      exact .length hkind hargument hfilled hread
    | text make hmake hrule =>
      rw [hrule, textArgument, hrequired] at h
      cases h
    | list make hmake hrule =>
      rw [hrule, listArgument, hrequired] at h
      cases h
    | pattern hcode hrule =>
      rw [hrule, t.patternArgument_of_required argument hrequired] at h
      cases hread : Pattern.compile (String.ofList argument) with
      | ok p =>
        rw [hread] at h
        cases h
      | error reason =>
        rw [hread] at h
        cases h
        exact .pattern hkind hargument hfilled hread

theorem fault?_eq_some_iff (t : Token) (e : RuleError) : t.fault? = some e ↔ t.Refused e := by
  have hfault : t.fault? = some e ↔ t.rule = .error e := by
    unfold fault? constraint
    cases t.rule with
    | ok rule => simp [Except.map]
    | error fault => simp [Except.map]
  exact hfault.trans ⟨t.refused_of_rule e, t.rule_of_refused e⟩

end Token

end Fieldwise.RuleText
