import Fieldwise.Proofs.Numerals
import Fieldwise.Proofs.RuleText.Reading
import Fieldwise.Schema
import Mathlib.Data.List.Forall2

/-!
# Writing rule text

A list of rules is written as tokens with bars between them: the code of each rule, and its
parameter after a colon. Blanks may stand around tokens, codes, arguments and items, blank
tokens anywhere, and any argument after the code of a rule that has no parameter. Reading
gives the rules back, however they are spelled, as long as the parameters do not collide
with the separators.
-/

namespace Fieldwise

/-! ### Rules that can be written -/

namespace RuleText

/-- A text that can stand as an argument: something, with no blank at its ends and no bar. -/
def IsArgument (cs : List Char) : Prop := cs ≠ [] ∧ Text.trim cs = cs ∧ '|' ∉ cs

/-- A text that can stand between commas. -/
def IsItem (cs : List Char) : Prop := Text.trim cs = cs ∧ '|' ∉ cs ∧ ',' ∉ cs

end RuleText

namespace Rule

/-- A rule with a code in rule text, whose parameters can be written there. -/
def Writable : Rule → Prop
  | .pattern p source => Pattern.compile source = .ok p ∧ RuleText.IsArgument source.toList
  | .equal expected | .notEqual expected => RuleText.IsArgument expected.toList
  | .oneOf options | .notOneOf options =>
    options ≠ [] ∧ options ≠ [""] ∧ ∀ option ∈ options, RuleText.IsItem option.toList
  | .timeFormat (.custom _) | .after _ | .before _ | .custom _ => False
  | _ => True

/-- The parameter in writing: the items of a list, a single text, or nothing. -/
def parameter : Rule → List (List Char)
  | .min bound | .max bound => [Number.integer bound.toInt]
  | .minLength length | .maxLength length => [Number.natural length.toNat]
  | .pattern _ source => [source.toList]
  | .oneOf options | .notOneOf options => options.map String.toList
  | .equal expected | .notEqual expected => [expected.toList]
  | _ => []

end Rule

/-- A constraint that rule text can write: its rule is writable and its message the usual
one. -/
def Constraint.Writable (c : Constraint) : Prop := c.override = none ∧ c.rule.Writable

namespace RuleText

/-! ### Spellings -/

/-- A text with blanks around it. -/
def Padded (cs padded : List Char) : Prop :=
  ∃ before after, Text.Blank before ∧ Text.Blank after ∧ padded = before ++ cs ++ after

/-- The ways to write a rule as a token. -/
inductive Spelled (rule : Rule) : List Char → Prop
  | plain {name : List Char} (bare : rule.parameter = [])
      (hname : Padded rule.code.toList name) : Spelled rule name
  | ignored {name argument : List Char} (bare : rule.parameter = [])
      (hname : Padded rule.code.toList name) (hargument : '|' ∉ argument) :
      Spelled rule (name ++ ':' :: argument)
  | parameter {name argument : List Char} {items : List (List Char)}
      (filled : rule.parameter ≠ []) (hname : Padded rule.code.toList name)
      (hitems : List.Forall₂ Padded rule.parameter items)
      (hargument : Padded ([','].intercalate items) argument) :
      Spelled rule (name ++ ':' :: argument)

/-- The ways to write constraints as pieces, blank ones among them. -/
inductive SpelledAll : Constraints → List (List Char) → Prop
  | done : SpelledAll [] []
  | blank {cs : Constraints} {piece : List Char} {rest : List (List Char)}
      (hpiece : Text.Blank piece) (hrest : SpelledAll cs rest) : SpelledAll cs (piece :: rest)
  | token {c : Constraint} {cs : Constraints} {piece : List Char} {rest : List (List Char)}
      (hpiece : Spelled c.rule piece) (hrest : SpelledAll cs rest) :
      SpelledAll (c :: cs) (piece :: rest)

/-- The texts that write constraints. -/
def Writes (cs : Constraints) (text : String) : Prop :=
  ∃ pieces, SpelledAll cs pieces ∧ text = String.ofList (['|'].intercalate pieces)

/-- A constraint as a token without anything that need not be there. -/
def tokenText (c : Constraint) : List Char :=
  match c.rule.parameter with
  | [] => c.code.toList
  | items => c.code.toList ++ ':' :: [','].intercalate items

/-- Constraints as a text without anything that need not be there. -/
def render (cs : Constraints) : String := String.ofList (['|'].intercalate (cs.map tokenText))

theorem padded_self (cs : List Char) : Padded cs cs := by
  have hnil : Text.Blank [] := fun c hc => by cases hc
  exact ⟨[], [], hnil, hnil, by simp⟩

theorem trim_padded (cs padded : List Char) (h : Padded cs padded) :
    Text.trim padded = Text.trim cs := by
  obtain ⟨before, after, hbefore, hafter, rfl⟩ := h
  exact Text.trim_pad before cs after hbefore hafter

theorem notMem_padded (cs padded : List Char) (c : Char) (h : Padded cs padded)
    (hc : Text.isBlank c = false) (hcs : c ∉ cs) : c ∉ padded := by
  obtain ⟨before, after, hbefore, hafter, rfl⟩ := h
  intro hm
  rcases List.mem_append.mp hm with hm | hm
  · rcases List.mem_append.mp hm with hm | hm
    · exact absurd (hbefore c hm) (by simp [hc])
    · exact hcs hm
  · exact absurd (hafter c hm) (by simp [hc])

theorem notMem_intercalate (sep c : Char) (items : List (List Char)) (hsep : c ≠ sep)
    (h : ∀ item ∈ items, c ∉ item) : c ∉ [sep].intercalate items := by
  induction items with
  | nil => simp
  | cons item rest ih =>
    have hitem := h item (List.mem_cons_self ..)
    have hrest := ih fun i hi => h i (List.mem_cons_of_mem _ hi)
    by_cases hnil : rest = []
    · subst hnil
      rw [List.intercalate_singleton]
      exact hitem
    · rw [List.intercalate_cons_of_ne_nil hnil]
      simp [hitem, hrest, hsep]

theorem forall₂_padded_trim (cs items : List (List Char)) (h : List.Forall₂ Padded cs items)
    (htrim : ∀ c ∈ cs, Text.trim c = c) : items.map Text.trim = cs := by
  induction h with
  | nil => rfl
  | cons hitem _ ih =>
    have hhead := htrim _ (List.mem_cons_self ..)
    have htail := ih fun c hc => htrim c (List.mem_cons_of_mem _ hc)
    rw [List.map_cons, htail, trim_padded _ _ hitem, hhead]

theorem forall₂_padded_notMem (cs items : List (List Char)) (c : Char)
    (h : List.Forall₂ Padded cs items) (hc : Text.isBlank c = false) (hcs : ∀ cs' ∈ cs, c ∉ cs') :
    ∀ item ∈ items, c ∉ item := by
  induction h with
  | nil =>
    intro item hitem
    cases hitem
  | cons hitem _ ih =>
    intro item hmem
    rcases List.mem_cons.mp hmem with rfl | hmem
    · exact notMem_padded _ _ c hitem hc (hcs _ (List.mem_cons_self ..))
    · exact ih (fun cs' h' => hcs cs' (List.mem_cons_of_mem _ h')) item hmem

/-! ### Codes and parameters -/

/-- The code of a rule is a name that no separator and no blank gets into. -/
theorem code_clean (rule : Rule) :
    rule.code.toList ≠ [] ∧ Text.trim rule.code.toList = rule.code.toList ∧
      ':' ∉ rule.code.toList ∧ '|' ∉ rule.code.toList := by
  cases rule with
  | timeFormat layout =>
    cases layout with
    | date => decide
    | time => decide
    | dateTime => decide
    | custom layout =>
      simp only [Rule.code]
      decide
  | _ =>
    simp only [Rule.code]
    decide

theorem isItem_natural (n : Nat) : IsItem (Number.natural n) := by
  have hdigit := Number.isDigit_of_mem_natural n
  refine ⟨Number.trim_natural n, ?_, ?_⟩
  · intro hm
    exact absurd (hdigit _ hm) (by decide)
  · intro hm
    exact absurd (hdigit _ hm) (by decide)

theorem isItem_integer (z : Int) : IsItem (Number.integer z) := by
  obtain ⟨_, hbar, hcomma⟩ := isItem_natural z.natAbs
  refine ⟨Number.trim_integer z, ?_⟩
  unfold Number.integer
  split
  · simp [hbar, hcomma]
  · exact ⟨hbar, hcomma⟩

theorem parameter_clean (rule : Rule) (h : rule.Writable) :
    ∀ text ∈ rule.parameter, Text.trim text = text ∧ '|' ∉ text := by
  intro text hm
  cases rule with
  | min bound | max bound =>
    rw [List.mem_singleton.mp hm]
    exact ⟨(isItem_integer _).1, (isItem_integer _).2.1⟩
  | minLength length | maxLength length =>
    rw [List.mem_singleton.mp hm]
    exact ⟨(isItem_natural _).1, (isItem_natural _).2.1⟩
  | pattern p source =>
    rw [List.mem_singleton.mp hm]
    exact h.2.2
  | equal expected | notEqual expected =>
    rw [List.mem_singleton.mp hm]
    exact h.2
  | oneOf options | notOneOf options =>
    obtain ⟨option, hoption, rfl⟩ := List.mem_map.mp hm
    exact ⟨(h.2.2 option hoption).1, (h.2.2 option hoption).2.1⟩
  | _ => cases hm

/-! ### Reading a token back -/

namespace Token

variable (name argument : List Char)

theorem required_of_ne_nil (h : argument ≠ []) :
    (⟨name, some argument⟩ : Token).required = .ok argument := by
  cases argument with
  | nil => exact absurd rfl h
  | cons c cs => rfl

theorem readArgument_of_read {α : Type} (read : List Char → Option α) (a : α)
    (h : argument ≠ []) (hread : read argument = some a) :
    (⟨name, some argument⟩ : Token).readArgument read = .ok a := by
  simp only [readArgument, required_of_ne_nil name argument h, bind, Except.bind, hread]
  rfl

theorem textArgument_of_ne_nil (h : argument ≠ []) :
    (⟨name, some argument⟩ : Token).textArgument = .ok (String.ofList argument) := by
  rw [textArgument, required_of_ne_nil name argument h]
  rfl

theorem listArgument_of_items (options : List String) (h : argument ≠ [])
    (hitems : (argument.splitOn ',').map Text.trim = options.map String.toList) :
    (⟨name, some argument⟩ : Token).listArgument = .ok options := by
  have hoptions : (argument.splitOn ',').map (fun item => String.ofList (Text.trim item)) =
      options := by
    have hmap := congrArg (List.map String.ofList) hitems
    simpa [Function.comp_def] using hmap
  rw [listArgument, required_of_ne_nil name argument h]
  exact congrArg Except.ok hoptions

theorem patternArgument_of_compile (p : Pattern) (source : String) (h : source.toList ≠ [])
    (hcompile : Pattern.compile source = .ok p) :
    (⟨name, some source.toList⟩ : Token).patternArgument = .ok (.pattern p source) := by
  simp only [patternArgument, textArgument_of_ne_nil name source.toList h, bind, Except.bind,
    String.ofList_toList, hcompile]
  rfl

end Token

/-- A rule without a parameter is read back whatever the argument. -/
theorem rule_of_bare (rule : Rule) (argument : Option (List Char)) (h : rule.Writable)
    (bare : rule.parameter = []) : (⟨rule.code.toList, argument⟩ : Token).rule = .ok rule := by
  cases rule with
  | timeFormat layout =>
    cases layout with
    | date => rfl
    | time => rfl
    | dateTime => rfl
    | custom layout => exact h.elim
  | oneOf options | notOneOf options => exact absurd (List.map_eq_nil_iff.mp bare) h.1
  | after boundary | before boundary | custom check => exact h.elim
  | min bound | max bound | minLength length | maxLength length => cases bare
  | pattern p source => cases bare
  | equal expected | notEqual expected => cases bare
  | _ => rfl

theorem listArgument_of_padded (name : List Char) (options : List String)
    (items : List (List Char)) (hne : options ≠ []) (hone : options ≠ [""])
    (hclean : ∀ option ∈ options, IsItem option.toList)
    (hitems : List.Forall₂ Padded (options.map String.toList) items) :
    (⟨name, some (Text.trim ([','].intercalate items))⟩ : Token).listArgument = .ok options := by
  have htrim : items.map Text.trim = options.map String.toList := by
    apply forall₂_padded_trim _ _ hitems
    intro text hm
    obtain ⟨option, hoption, rfl⟩ := List.mem_map.mp hm
    exact (hclean option hoption).1
  have hcomma : ∀ item ∈ items, ',' ∉ item := by
    apply forall₂_padded_notMem _ _ ',' hitems (by decide)
    intro text hm
    obtain ⟨option, hoption, rfl⟩ := List.mem_map.mp hm
    exact (hclean option hoption).2.2
  have hlength : items.length = options.length := by
    rw [← hitems.length_eq, List.length_map]
  have hfilled : items ≠ [] := by
    intro hnil
    rw [hnil, List.length_nil] at hlength
    exact hne (List.length_eq_zero_iff.mp hlength.symm)
  have hsplit := Text.map_trim_splitOn_trim ',' items hfilled (by decide) hcomma
  rw [htrim] at hsplit
  apply Token.listArgument_of_items name _ options _ hsplit
  -- An empty argument reads as one empty item, and that is the list that cannot be written.
  intro hnil
  rw [hnil] at hsplit
  apply hone
  have hempty : options.map String.toList = [""].map String.toList := hsplit.symm
  exact (List.map_injective_iff.mpr fun a b h => String.toList_inj.mp h) hempty

theorem argument_of_padded (text : List Char) (items : List (List Char))
    (htrim : Text.trim text = text) (hitems : List.Forall₂ Padded [text] items) :
    Text.trim ([','].intercalate items) = text := by
  cases hitems with
  | cons hitem hrest =>
    cases hrest
    rw [List.intercalate_singleton, trim_padded _ _ hitem, htrim]

theorem rule_of_parameter (rule : Rule) (items : List (List Char)) (h : rule.Writable)
    (filled : rule.parameter ≠ []) (hitems : List.Forall₂ Padded rule.parameter items) :
    (⟨rule.code.toList, some (Text.trim ([','].intercalate items))⟩ : Token).rule =
      .ok rule := by
  cases rule with
  | min bound =>
    rw [argument_of_padded _ items (isItem_integer _).1 hitems]
    have hread := Token.readArgument_of_read "min".toList _ Number.readInt64 bound
      (Number.integer_ne_nil _) (Number.readInt64_integer bound)
    simp only [Rule.code]
    exact congrArg (Except.map Rule.min) hread
  | max bound =>
    rw [argument_of_padded _ items (isItem_integer _).1 hitems]
    have hread := Token.readArgument_of_read "max".toList _ Number.readInt64 bound
      (Number.integer_ne_nil _) (Number.readInt64_integer bound)
    simp only [Rule.code]
    exact congrArg (Except.map Rule.max) hread
  | minLength least =>
    rw [argument_of_padded _ items (isItem_natural _).1 hitems]
    have hread := Token.readArgument_of_read "min_len".toList _ Number.readUInt64 least
      (Number.natural_ne_nil _) (Number.readUInt64_natural least)
    simp only [Rule.code]
    exact congrArg (Except.map Rule.minLength) hread
  | maxLength most =>
    rw [argument_of_padded _ items (isItem_natural _).1 hitems]
    have hread := Token.readArgument_of_read "max_len".toList _ Number.readUInt64 most
      (Number.natural_ne_nil _) (Number.readUInt64_natural most)
    simp only [Rule.code]
    exact congrArg (Except.map Rule.maxLength) hread
  | pattern p source =>
    obtain ⟨hcompile, hne, htrim, _⟩ := h
    rw [argument_of_padded _ items htrim hitems]
    simp only [Rule.code]
    exact Token.patternArgument_of_compile "regex".toList p source hne hcompile
  | equal expected =>
    rw [argument_of_padded _ items h.2.1 hitems]
    have htext := Token.textArgument_of_ne_nil "equal".toList expected.toList h.1
    rw [String.ofList_toList] at htext
    simp only [Rule.code]
    exact congrArg (Except.map Rule.equal) htext
  | notEqual expected =>
    rw [argument_of_padded _ items h.2.1 hitems]
    have htext := Token.textArgument_of_ne_nil "not_equal".toList expected.toList h.1
    rw [String.ofList_toList] at htext
    simp only [Rule.code]
    exact congrArg (Except.map Rule.notEqual) htext
  | oneOf options =>
    have hlist := listArgument_of_padded "in".toList options items h.1 h.2.1 h.2.2 hitems
    simp only [Rule.code]
    exact congrArg (Except.map Rule.oneOf) hlist
  | notOneOf options =>
    have hlist := listArgument_of_padded "not_in".toList options items h.1 h.2.1 h.2.2 hitems
    simp only [Rule.code]
    exact congrArg (Except.map Rule.notOneOf) hlist
  | _ => exact absurd rfl filled

/-! ### Reading the pieces back -/

theorem Token.ofChars?_of_notMem (cs : List Char) (hfilled : Text.trim cs ≠ [])
    (hcolon : ':' ∉ cs) : Token.ofChars? cs = some ⟨Text.trim cs, none⟩ := by
  have hcut : Text.cutAt ':' (Text.trim cs) = none :=
    (Text.cutAt_eq_none_iff ':' _).mpr fun hm => hcolon (Text.mem_of_mem_trim cs ':' hm)
  unfold Token.ofChars?
  split
  · contradiction
  · rw [hcut]

/-- A piece is cut at its first colon, whatever stands after it. -/
theorem Token.ofChars?_append_cons (name argument : List Char) (hcolon : ':' ∉ name) :
    Token.ofChars? (name ++ ':' :: argument) =
      some ⟨Text.trim name, some (Text.trim argument)⟩ := by
  have htrim : Text.trim (name ++ ':' :: argument) =
      Text.trimStart name ++ ':' :: Text.trimEnd argument :=
    Text.trim_append_cons name argument ':' (by decide)
  have hstart : ':' ∉ Text.trimStart name :=
    fun hm => hcolon (Text.mem_of_mem_trimStart name ':' hm)
  unfold Token.ofChars?
  rw [htrim]
  split
  · rename_i hnil
    simp at hnil
  · rw [Text.cutAt_append_cons ':' _ _ hstart]
    simp only [Text.trim_trimStart, Text.trim_trimEnd]

theorem token_of_spelled (rule : Rule) (piece : List Char) (h : rule.Writable)
    (hpiece : Spelled rule piece) :
    '|' ∉ piece ∧ ∃ t, Token.ofChars? piece = some t ∧ t.rule = .ok rule := by
  obtain ⟨hcode, htrim, hcolon, hbar⟩ := code_clean rule
  cases hpiece with
  | plain bare hname =>
    have hname_trim := (trim_padded _ _ hname).trans htrim
    have hname_colon := notMem_padded _ _ ':' hname (by decide) hcolon
    refine ⟨notMem_padded _ _ '|' hname (by decide) hbar, _,
      Token.ofChars?_of_notMem piece ?_ hname_colon, ?_⟩
    · rw [hname_trim]
      exact hcode
    · rw [hname_trim]
      exact rule_of_bare rule none h bare
  | @ignored name argument bare hname hargument =>
    have hname_trim := (trim_padded _ _ hname).trans htrim
    have hname_colon := notMem_padded _ _ ':' hname (by decide) hcolon
    have hname_bar := notMem_padded _ _ '|' hname (by decide) hbar
    -- The argument may have colons of its own: only the first one cuts.
    refine ⟨?_, _, Token.ofChars?_append_cons name argument hname_colon, ?_⟩
    · simp [hname_bar, hargument]
    · rw [hname_trim]
      exact rule_of_bare rule _ h bare
  | @parameter name argument items filled hname hitems hargument =>
    have hname_trim := (trim_padded _ _ hname).trans htrim
    have hname_colon := notMem_padded _ _ ':' hname (by decide) hcolon
    have hname_bar := notMem_padded _ _ '|' hname (by decide) hbar
    have hclean := parameter_clean rule h
    have hitems_bar := forall₂_padded_notMem _ _ '|' hitems (by decide)
      fun text hm => (hclean text hm).2
    have hjoined_bar := notMem_intercalate ',' '|' items (by decide) hitems_bar
    have hargument_bar := notMem_padded _ _ '|' hargument (by decide) hjoined_bar
    refine ⟨?_, _, Token.ofChars?_append_cons name argument hname_colon, ?_⟩
    · simp [hname_bar, hargument_bar]
    · rw [hname_trim, trim_padded _ _ hargument]
      exact rule_of_parameter rule items h filled hitems

theorem tokens_of_spelledAll (cs : Constraints) (pieces : List (List Char))
    (h : ∀ c ∈ cs, c.Writable) (hpieces : SpelledAll cs pieces) :
    (∀ piece ∈ pieces, '|' ∉ piece) ∧
      (pieces.filterMap Token.ofChars?).mapM Token.constraint = .ok cs := by
  -- The induction is on how the pieces came about: a blank piece makes no token, and any
  -- other piece makes the token of the next constraint.
  induction hpieces with
  | done => exact ⟨fun piece hm => absurd hm List.not_mem_nil, rfl⟩
  | @blank cs piece rest hpiece _ ih =>
    obtain ⟨hbars, hread⟩ := ih h
    have hbar : '|' ∉ piece := fun hm => absurd (hpiece '|' hm) (by decide)
    refine ⟨List.forall_mem_cons.mpr ⟨hbar, hbars⟩, ?_⟩
    rw [List.filterMap_cons_none ((Token.ofChars?_eq_none_iff piece).mpr hpiece)]
    exact hread
  | @token c cs piece rest hpiece _ ih =>
    obtain ⟨hc, hcs⟩ := List.forall_mem_cons.mp h
    obtain ⟨hbars, hread⟩ := ih hcs
    obtain ⟨hbar, t, ht, hrule⟩ := token_of_spelled c.rule piece hc.2 hpiece
    have hconstraint : t.constraint = .ok c := by
      have hshape : c = ⟨c.rule, none⟩ := by rw [← hc.1]
      rw [Token.constraint, hrule, hshape]
      rfl
    refine ⟨List.forall_mem_cons.mpr ⟨hbar, hbars⟩, ?_⟩
    rw [List.filterMap_cons_some ht, List.mapM_cons, hconstraint, hread]
    rfl

theorem parseStrict_of_writes (cs : Constraints) (text : String) (h : ∀ c ∈ cs, c.Writable)
    (htext : Writes cs text) : parseStrict text = .ok cs := by
  obtain ⟨pieces, hpieces, rfl⟩ := htext
  obtain ⟨hbars, hread⟩ := tokens_of_spelledAll cs pieces h hpieces
  have htokens : tokens (['|'].intercalate pieces) = pieces.filterMap Token.ofChars? := by
    by_cases hnil : pieces = []
    · subst hnil
      decide
    · rw [tokens, List.splitOn_intercalate _ hbars hnil]
  rw [parseStrict, String.toList_ofList, htokens, hread]

/-! ### Writing -/

theorem writes_render (cs : Constraints) : Writes cs (render cs) := by
  refine ⟨cs.map tokenText, ?_, rfl⟩
  induction cs with
  | nil => exact SpelledAll.done
  | cons c cs ih =>
    refine SpelledAll.token ?_ ih
    unfold tokenText
    split
    · rename_i bare
      exact Spelled.plain bare (padded_self _)
    · rename_i items filled
      refine Spelled.parameter filled (padded_self _) ?_ (padded_self _)
      exact List.forall₂_same.mpr fun item _ => padded_self item

/-! ### Reading what was written -/

/-- Every text that writes the constraints gives them back, in all three readings and without
an event, and a schema that declares a field by it is the one that declares the constraints. -/
theorem readings_of_writes (cs : Constraints) (h : ∀ c ∈ cs, c.Writable) :
    Writes cs (render cs) ∧
    ∀ text, Writes cs text →
      parseStrict text = .ok cs ∧ (parse text).value = cs ∧ diagnose text = [] ∧
      ∀ (schema : Schema) (name : String),
        schema.tryRules name text = .ok (schema.declare name cs) ∧
        (schema.rules name text).value = schema.declare name cs ∧
        (schema.rules name text).events = [] := by
  refine ⟨writes_render cs, ?_⟩
  intro text htext
  have hstrict := parseStrict_of_writes cs text h htext
  have hdiagnose : diagnose text = [] := (exists_parseStrict_iff text).mp ⟨cs, hstrict⟩
  have hvalue : (parse text).value = cs := by
    have hagree := parseStrict_eq text
    rw [hstrict, hdiagnose] at hagree
    exact (Except.ok.inj hagree).symm
  have hevents : (parse text).events = [] := by
    rw [events_parse, hdiagnose, List.map_nil]
  refine ⟨hstrict, hvalue, hdiagnose, ?_⟩
  intro schema name
  refine ⟨?_, ?_, ?_⟩
  · rw [Schema.tryRules, hstrict]
    rfl
  · rw [Schema.rules, Logged.value_bind, hvalue]
    rfl
  · rw [Schema.rules, Logged.events_bind, hevents]
    rfl

/-- A text with padding everywhere, a blank token, an argument that is ignored, an empty item
and colons inside arguments. -/
theorem spaced_text_read_back :
    ∃ p, Pattern.compile "^[a-z]:x+$" = .ok p ∧
      parseStrict (" required : yes:no |\u2003| min : -5|in: new york ,, b |equal:a: b" ++
        "|regex: ^[a-z]:x+$ ") =
        .ok [⟨.required, none⟩, ⟨.min (-5), none⟩, ⟨.oneOf ["new york", "", "b"], none⟩,
          ⟨.equal "a: b", none⟩, ⟨.pattern p "^[a-z]:x+$", none⟩] := by
  obtain ⟨p, hp⟩ : ∃ p, Pattern.compile "^[a-z]:x+$" = .ok p := ⟨_, rfl⟩
  refine ⟨p, hp, ((readings_of_writes _ ?_).2 _ ?_).1⟩
  · intro c hc
    simp only [List.mem_cons, List.not_mem_nil, or_false] at hc
    rcases hc with rfl | rfl | rfl | rfl | rfl
    · exact ⟨rfl, trivial⟩
    · exact ⟨rfl, trivial⟩
    · exact ⟨rfl, by decide, by decide, by unfold IsItem; decide⟩
    · exact ⟨rfl, by decide, by decide, by decide⟩
    · exact ⟨rfl, hp, by decide, by decide, by decide⟩
  · have hspaced (cs : List Char) : Padded cs ([' '] ++ cs ++ [' ']) :=
      ⟨[' '], [' '], by decide, by decide, rfl⟩
    have hbound : Padded (Number.integer (-5 : Int64).toInt) " -5".toList :=
      ⟨[' '], [], by decide, by decide, by decide⟩
    have hmin : Spelled (.min (-5)) " min : -5".toList :=
      .parameter (by decide) (hspaced _) (.cons hbound .nil) (padded_self _)
    have hlist : Spelled (.oneOf ["new york", "", "b"]) "in: new york ,, b ".toList :=
      .parameter (by decide) (padded_self _)
        (.cons (hspaced _) (.cons (padded_self []) (.cons (hspaced _) .nil))) (padded_self _)
    have hequal : Spelled (.equal "a: b") "equal:a: b".toList :=
      .parameter (by decide) (padded_self _) (.cons (padded_self _) .nil) (padded_self _)
    have hfilled : (Rule.pattern p "^[a-z]:x+$").parameter ≠ [] := List.cons_ne_nil _ _
    have hname : Padded (Rule.pattern p "^[a-z]:x+$").code.toList "regex".toList :=
      padded_self _
    have hregex : Spelled (.pattern p "^[a-z]:x+$") "regex: ^[a-z]:x+$ ".toList :=
      .parameter hfilled hname (.cons (padded_self _) .nil) (hspaced _)
    refine ⟨[" required : yes:no ".toList, "\u2003".toList, " min : -5".toList,
      "in: new york ,, b ".toList, "equal:a: b".toList, "regex: ^[a-z]:x+$ ".toList], ?_, rfl⟩
    exact .token (.ignored rfl (hspaced _) (by decide)) (.blank (by decide)
      (.token hmin (.token hlist (.token hequal (.token hregex .done)))))

end RuleText

end Fieldwise
