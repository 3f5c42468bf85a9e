import Fieldwise.Proofs.Building
import Fieldwise.Proofs.RuleText.Vocabulary

/-!
# Rule texts joined by a bar

A bar ends one token and begins the next, whatever stands around it. So each reading of two
texts with a bar between them is put together from the readings of the two, and a token that
makes no constraint can be put in anywhere: the constraints of the text stay, and with them
every evaluation.
-/

namespace Fieldwise.RuleText

/-! ### Readings of joined texts -/

theorem tokens_bar (a b : String) :
    tokens (a ++ "|" ++ b).toList = tokens a.toList ++ tokens b.toList := by
  have hbar : (a ++ "|" ++ b).toList = a.toList ++ '|' :: b.toList := by simp
  rw [hbar, tokens, List.splitOn_append_cons_self, List.filterMap_append]
  rfl

theorem value_parse_bar (a b : String) :
    (parse (a ++ "|" ++ b)).value = (parse a).value ++ (parse b).value := by
  simp only [value_parse, tokens_bar, List.filterMap_append]

theorem diagnose_bar (a b : String) : diagnose (a ++ "|" ++ b) = diagnose a ++ diagnose b := by
  simp only [diagnose, tokens_bar, List.filterMap_append]

theorem parseStrict_bar (a b : String) :
    parseStrict (a ++ "|" ++ b) =
      match parseStrict a, parseStrict b with
      | .ok cs, .ok ds => .ok (cs ++ ds)
      | .error e, _ => .error e
      | .ok _, .error e => .error e := by
  simp only [parseStrict_eq, diagnose_bar, value_parse_bar]
  cases diagnose a with
  | nil =>
    cases diagnose b with
    | nil => rfl
    | cons e faults => rfl
  | cons e faults => rfl

/-! ### Tokens that make no constraint -/

/-- A single token that makes no constraint: a blank one, or one that is refused for its code
or its argument. -/
def Idle (piece : String) : Prop :=
  '|' ∉ piece.toList ∧
    (Text.Blank piece.toList ∨ ∃ t e, Token.ofChars? piece.toList = some t ∧ t.Refused e)

/-- The idle tokens are exactly the single ones that reading drops. -/
theorem idle_iff (piece : String) (hbar : '|' ∉ piece.toList) :
    Idle piece ↔ (parse piece).value = [] := by
  rw [value_parse, tokens_of_notMem _ hbar]
  cases ht : Token.ofChars? piece.toList with
  | none =>
    have hblank := (Token.ofChars?_eq_none_iff _).mp ht
    exact iff_of_true ⟨hbar, Or.inl hblank⟩ rfl
  | some t =>
    have hfilled : ¬Text.Blank piece.toList := by
      rw [← Token.ofChars?_eq_none_iff, ht]
      exact Option.some_ne_none t
    have hidle : Idle piece ↔ ∃ e, t.fault? = some e := by
      simp only [Idle, hbar, hfilled, ht, Option.some_inj, not_false_eq_true, true_and, false_or,
        ← Token.fault?_eq_some_iff, exists_eq_left', exists_and_left]
    rw [hidle]
    rcases t.outcome with ⟨c, _, hkept, hfault⟩ | ⟨e, _, hkept, hfault⟩
    · simp [hkept, hfault]
    · simp [hkept, hfault]

/-- A text, and the text with idle tokens put in: before its first token, after its last one,
or at a bar. -/
inductive Stuffed (text : String) : String → Prop
  | same : Stuffed text text
  | first {piece rest : String} (hidle : Idle piece) (h : Stuffed text rest) :
      Stuffed text (piece ++ "|" ++ rest)
  | last {piece rest : String} (hidle : Idle piece) (h : Stuffed text rest) :
      Stuffed text (rest ++ "|" ++ piece)
  | between {before piece after : String} (hidle : Idle piece)
      (h : Stuffed text (before ++ "|" ++ after)) :
      Stuffed text (before ++ "|" ++ piece ++ "|" ++ after)

theorem value_parse_stuffed (text stuffed : String) (h : Stuffed text stuffed) :
    (parse stuffed).value = (parse text).value := by
  induction h with
  | same => rfl
  | @first piece rest hidle _ ih =>
    rw [value_parse_bar, (idle_iff piece hidle.1).mp hidle, List.nil_append, ih]
  | @last piece rest hidle _ ih =>
    rw [value_parse_bar, (idle_iff piece hidle.1).mp hidle, List.append_nil, ih]
  | @between before piece after hidle _ ih =>
    rw [value_parse_bar, value_parse_bar, (idle_iff piece hidle.1).mp hidle, List.append_nil,
      ← value_parse_bar, ih]

/-! ### Evaluations -/

theorem value_build_congr (before after : List Declaration) (name text other : String)
    (h : (parse other).value = (parse text).value) :
    (Schema.build (before ++ .rules name other :: after)).value =
      (Schema.build (before ++ .rules name text :: after)).value := by
  simp only [Schema.value_build, Declaration.accepted, List.filterMap_append,
    List.filterMap_cons, Declaration.entry?, h]

theorem value_checkAnnotated_congr (s : Session) (before after : List RuledField)
    (a : RuledField) (text other : String) (h : (parse other).value = (parse text).value) :
    (s.checkAnnotated (before ++ { a with rules := other } :: after)).value =
      (s.checkAnnotated (before ++ { a with rules := text } :: after)).value := by
  simp only [Session.value_checkAnnotated, List.flatMap_append, List.flatMap_cons,
    RuledField.due, RuledField.externalName, h]

/-- Reading two texts with a bar between them reads the two apart, in all three readings. So
idle tokens, which are exactly those that make no constraint, can be put into a text anywhere:
its constraints stay as they are, and so does every evaluation of a schema that is built with
the text or of an annotated record that brings it. -/
theorem rule_tokens_independent :
    (∀ a b : String,
      (parse (a ++ "|" ++ b)).value = (parse a).value ++ (parse b).value ∧
      diagnose (a ++ "|" ++ b) = diagnose a ++ diagnose b ∧
      parseStrict (a ++ "|" ++ b) =
        match parseStrict a, parseStrict b with
        | .ok cs, .ok ds => .ok (cs ++ ds)
        | .error e, _ => .error e
        | .ok _, .error e => .error e) ∧
    (∀ piece : String, '|' ∉ piece.toList → (Idle piece ↔ (parse piece).value = [])) ∧
    ∀ text stuffed, Stuffed text stuffed →
      (parse stuffed).value = (parse text).value ∧
      (∀ (before after : List Declaration) (name : String),
        let plain := (Schema.build (before ++ .rules name text :: after)).value
        let other := (Schema.build (before ++ .rules name stuffed :: after)).value
        other = plain ∧
        ∀ {ρ : Type} [Record ρ] (record : ρ) (options : Options),
          other.validateWith options record = plain.validateWith options record ∧
          other.evaluate record = plain.evaluate record) ∧
      ∀ (s : Session) (before after : List RuledField) (a : RuledField),
        (s.checkAnnotated (before ++ { a with rules := stuffed } :: after)).value =
          (s.checkAnnotated (before ++ { a with rules := text } :: after)).value := by
  refine ⟨fun a b => ⟨value_parse_bar a b, diagnose_bar a b, parseStrict_bar a b⟩, idle_iff, ?_⟩
  intro text stuffed h
  have hvalue := value_parse_stuffed text stuffed h
  refine ⟨hvalue, ?_, ?_⟩
  · intro before after name plain other
    have hschema : other = plain := value_build_congr before after name text stuffed hvalue
    refine ⟨hschema, ?_⟩
    intro ρ _ record options
    rw [hschema]
    exact ⟨rfl, rfl⟩
  · intro s before after a
    exact value_checkAnnotated_congr s before after a text stuffed hvalue

/-- Idle tokens of every kind: an unknown code, a blank, a number that is none, a missing
argument and a pattern that is none. -/
theorem idle_tokens_leave_constraints :
    Stuffed "required|min:3" "frob:x|required| |min:abc|max|min:3|regex:(" ∧
      (parse "frob:x|required| |min:abc|max|min:3|regex:(").value =
        [⟨.required, none⟩, ⟨.min 3, none⟩] := by
  have hunknown : Idle "frob:x" :=
    ⟨by decide, Or.inr ⟨⟨"frob".toList, some "x".toList⟩, _, rfl, .unknown (by decide)⟩⟩
  have hblank : Idle " " := ⟨by decide, Or.inl (by decide)⟩
  have hnumber : Idle "min:abc" :=
    ⟨by decide, Or.inr ⟨⟨"min".toList, some "abc".toList⟩, _, rfl,
      .number (by decide) rfl (by decide) rfl⟩⟩
  have hmissing : Idle "max" :=
    ⟨by decide, Or.inr ⟨⟨"max".toList, none⟩, _, rfl,
      @Token.Refused.missing _ .number (by decide) (by decide) (Or.inl rfl)⟩⟩
  have hpattern : Idle "regex:(" :=
    ⟨by decide, Or.inr ⟨⟨"regex".toList, some "(".toList⟩, _, rfl,
      .pattern (by decide) rfl (by decide) rfl⟩⟩
  have hstuffed : Stuffed "required|min:3" "frob:x|required| |min:abc|max|min:3|regex:(" := by
    have hmax : Stuffed "required|min:3" "required|max|min:3" :=
      @Stuffed.between _ "required" "max" "min:3" hmissing .same
    have hmin : Stuffed "required|min:3" "required|min:abc|max|min:3" :=
      @Stuffed.between _ "required" "min:abc" "max|min:3" hnumber hmax
    have hspace : Stuffed "required|min:3" "required| |min:abc|max|min:3" :=
      @Stuffed.between _ "required" " " "min:abc|max|min:3" hblank hmin
    have hlast : Stuffed "required|min:3" "required| |min:abc|max|min:3|regex:(" :=
      @Stuffed.last _ "regex:(" "required| |min:abc|max|min:3" hpattern hspace
    exact @Stuffed.first _ "frob:x" "required| |min:abc|max|min:3|regex:(" hunknown hlast
  exact ⟨hstuffed, (rule_tokens_independent.2.2 _ _ hstuffed).1⟩

end Fieldwise.RuleText
