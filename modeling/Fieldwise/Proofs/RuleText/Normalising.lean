import Fieldwise.Proofs.Outcomes
import Fieldwise.Proofs.RuleText.Vocabulary

/-!
# The normal form of rule text

Whatever a text holds, the constraints that are read from it can be written: their arguments
were cut at the separators and trimmed, and arguments that cannot be used were dropped. So a
text has a normal form, the plain writing of its constraints, which strict reading takes back
to the same constraints and which is its own normal form.
-/

namespace Fieldwise.RuleText

/-! ### Arguments of tokens -/

namespace Token

/-- The argument, if there is one, has no blank at its ends and no bar. -/
def Trimmed (t : Token) : Prop :=
  ∀ argument, t.argument = some argument → Text.trim argument = argument ∧ '|' ∉ argument

theorem trimmed_of_ofChars? (piece : List Char) (t : Token) (hbar : '|' ∉ piece)
    (h : ofChars? piece = some t) : t.Trimmed := by
  intro argument hargument
  unfold ofChars? at h
  split at h
  · cases h
  · split at h
    · rename_i name rest hcut
      cases h
      cases hargument
      have hpiece := Text.eq_of_cutAt ':' _ name rest hcut
      refine ⟨Text.trim_trim rest, ?_⟩
      intro hmem
      have hrest : '|' ∈ Text.trim piece := by
        rw [hpiece]
        exact List.mem_append_right _ (List.mem_cons_of_mem _ (Text.mem_of_mem_trim rest '|' hmem))
      exact hbar (Text.mem_of_mem_trim piece '|' hrest)
    · cases h
      cases hargument

theorem trimmed_of_mem_tokens (cs : List Char) (t : Token) (h : t ∈ tokens cs) : t.Trimmed := by
  obtain ⟨piece, hpiece, ht⟩ := List.mem_filterMap.mp h
  exact trimmed_of_ofChars? piece t (Text.notMem_of_mem_splitOn '|' cs piece hpiece) ht

end Token

/-- The items of an argument can stand between commas, and they are not one empty item. -/
theorem items_of_argument (argument : List Char) (hfilled : argument ≠ [])
    (htrim : Text.trim argument = argument) (hbar : '|' ∉ argument) :
    let options := (argument.splitOn ',').map fun item => String.ofList (Text.trim item)
    options ≠ [] ∧ options ≠ [""] ∧ ∀ option ∈ options, IsItem option.toList := by
  refine ⟨?_, ?_, ?_⟩
  · intro hnil
    exact List.splitOn_ne_nil ',' argument (List.map_eq_nil_iff.mp hnil)
  · intro hone
    obtain ⟨item, hitems, hitem⟩ := List.map_eq_singleton_iff.mp hone
    -- A single item is the whole argument, and that is trimmed and not empty.
    have hwhole : [','].intercalate (argument.splitOn ',') = argument :=
      List.intercalate_splitOn ','
    rw [hitems, List.intercalate_singleton] at hwhole
    rw [hwhole, htrim] at hitem
    have hnil := congrArg String.toList hitem
    rw [String.toList_ofList] at hnil
    exact hfilled hnil
  · intro option hoption
    obtain ⟨item, hitem, rfl⟩ := List.mem_map.mp hoption
    rw [String.toList_ofList]
    refine ⟨Text.trim_trim item, ?_, ?_⟩
    · intro hmem
      exact hbar (Text.mem_of_mem_splitOn ',' '|' argument item hitem
        (Text.mem_of_mem_trim item '|' hmem))
    · intro hmem
      exact Text.notMem_of_mem_splitOn ',' argument item hitem (Text.mem_of_mem_trim item ',' hmem)

/-! ### Rules of tokens -/

namespace Token

theorem isArgument_of_required (t : Token) (argument : List Char) (ht : t.Trimmed)
    (h : t.required = .ok argument) : IsArgument argument := by
  rcases t.argument_outcome with hmissing | ⟨given, hgiven, hfilled⟩
  · rw [t.required_of_missing hmissing] at h
    cases h
  · rw [t.required_of_argument given hgiven hfilled] at h
    cases h
    exact ⟨hfilled, ht argument hgiven⟩

/-- A token with a trimmed argument writes a rule of its code that can be written back. -/
theorem rule_of_reads (t : Token) (kind : ParameterKind) (rule : Rule) (hreads : t.Reads kind)
    (ht : t.Trimmed) (h : t.rule = .ok rule) : rule.code = t.code ∧ rule.Writable := by
  cases hreads with
  | none made hmake hrule =>
    rw [hrule] at h
    cases h
    exact hmake
  | number make hmake hrule | length make hmake hrule =>
    rw [hrule] at h
    obtain ⟨n, _, rfl⟩ := exists_of_map_eq_ok make _ rule h
    exact hmake n
  | text make hmake hrule =>
    rw [hrule] at h
    obtain ⟨s, hs, rfl⟩ := exists_of_map_eq_ok make _ rule h
    obtain ⟨argument, hargument, rfl⟩ := exists_of_map_eq_ok String.ofList _ s hs
    have hwritable := (hmake (String.ofList argument)).2
    rw [String.toList_ofList] at hwritable
    exact ⟨(hmake _).1, hwritable (t.isArgument_of_required argument ht hargument)⟩
  | list make hmake hrule =>
    rw [hrule] at h
    obtain ⟨options, hoptions, rfl⟩ := exists_of_map_eq_ok make _ rule h
    obtain ⟨argument, hargument, rfl⟩ := exists_of_map_eq_ok _ _ options hoptions
    obtain ⟨hfilled, htrim, hbar⟩ := t.isArgument_of_required argument ht hargument
    exact ⟨(hmake _).1, (hmake _).2 (items_of_argument argument hfilled htrim hbar)⟩
  | pattern hcode hrule =>
    rw [hrule] at h
    cases hargument : t.required with
    | error e =>
      rw [patternArgument, textArgument, hargument] at h
      cases h
    | ok argument =>
    rw [t.patternArgument_of_required argument hargument] at h
    cases hcompile : Pattern.compile (String.ofList argument) with
    | error reason =>
      rw [hcompile] at h
      cases h
    | ok p =>
      rw [hcompile] at h
      cases h
      have hclean := t.isArgument_of_required argument ht hargument
      rw [← @String.toList_ofList argument] at hclean
      exact ⟨hcode.symm, hcompile, hclean⟩

theorem writable_of_rule (t : Token) (rule : Rule) (ht : t.Trimmed) (h : t.rule = .ok rule) :
    rule.code ∈ codes ∧ rule.Writable := by
  rcases t.unknown_or_reads with hunknown | ⟨kind, hkind, hreads⟩
  · rw [t.rule_of_unknown hunknown] at h
    cases h
  · obtain ⟨hcode, hwritable⟩ := t.rule_of_reads kind rule hreads ht h
    rw [hcode]
    exact ⟨List.mem_map_of_mem hkind, hwritable⟩

end Token

/-! ### Normal forms -/

/-- The constraints of a text, written plainly. -/
def normalise (text : String) : String := render (parse text).value

/-- Every constraint of a text has the usual message and one of the codes of rule text, and can
be written. -/
theorem writable_of_mem_parse (text : String) (c : Constraint) (h : c ∈ (parse text).value) :
    c.code ∈ codes ∧ c.Writable := by
  rw [value_parse] at h
  obtain ⟨t, ht, hc⟩ := List.mem_filterMap.mp h
  rcases t.outcome with ⟨made, hmade, hkept, _⟩ | ⟨e, _, hkept, _⟩
  · rw [hkept] at hc
    cases hc
    obtain ⟨rule, hrule, rfl⟩ := exists_of_map_eq_ok _ _ _ hmade
    obtain ⟨hcode, hwritable⟩ :=
      t.writable_of_rule rule (Token.trimmed_of_mem_tokens _ t ht) hrule
    exact ⟨hcode, rfl, hwritable⟩
  · rw [hkept] at hc
    cases hc

theorem parseStrict_normalise (text : String) :
    parseStrict (normalise text) = .ok (parse text).value :=
  parseStrict_of_writes _ _ (fun c hc => (writable_of_mem_parse text c hc).2) (writes_render _)

/-- What is read from any text is in order: each constraint has the usual message, one of the
codes of rule text and a parameter that can be written, and a pattern is shown by its own
source. So the plain writing of the constraints is read back strictly as the same constraints,
and writing these again changes nothing. -/
theorem parsed_text_normalises (text : String) :
    (∀ c ∈ (parse text).value, c.override = none ∧ c.code ∈ codes ∧ c.rule.Writable ∧
      ∀ p source, c.rule = .pattern p source → p.source = source) ∧
    parseStrict (normalise text) = .ok (parse text).value ∧
    normalise (normalise text) = normalise text := by
  refine ⟨?_, parseStrict_normalise text, ?_⟩
  · intro c hc
    obtain ⟨hcode, hoverride, hwritable⟩ := writable_of_mem_parse text c hc
    refine ⟨hoverride, hcode, hwritable, ?_⟩
    intro p source hrule
    rw [hrule] at hwritable
    exact Pattern.source_of_compile hwritable.1
  · have hagain : (parse (normalise text)).value = (parse text).value :=
      value_parse_of_parseStrict _ _ (parseStrict_normalise text)
    rw [normalise, hagain, normalise]

/-- Blanks, an argument that is ignored, an empty item, a code that names no rule, and a number
with a sign and a leading zero. -/
theorem untidy_text_normalises :
    normalise " required : yes |in: b ,, a|frob|min:+05" = "required|in:b,,a|min:5" ∧
      (Rule.oneOf ["b", "", "a"]).Writable ∧
      parseStrict "required|in:b,,a|min:5" =
        .ok [⟨.required, none⟩, ⟨.oneOf ["b", "", "a"], none⟩, ⟨.min 5, none⟩] ∧
      normalise "required|in:b,,a|min:5" = "required|in:b,,a|min:5" := by
  have hvalue : (parse " required : yes |in: b ,, a|frob|min:+05").value =
      [⟨.required, none⟩, ⟨.oneOf ["b", "", "a"], none⟩, ⟨.min 5, none⟩] := rfl
  have hnormal : normalise " required : yes |in: b ,, a|frob|min:+05" =
      "required|in:b,,a|min:5" := rfl
  obtain ⟨hconstraints, hread, hagain⟩ :=
    parsed_text_normalises " required : yes |in: b ,, a|frob|min:+05"
  rw [hnormal] at hread hagain
  rw [hvalue] at hconstraints hread
  have hlist := hconstraints ⟨.oneOf ["b", "", "a"], none⟩ (by simp)
  exact ⟨hnormal, hlist.2.2.1, hread, hagain⟩

end Fieldwise.RuleText
