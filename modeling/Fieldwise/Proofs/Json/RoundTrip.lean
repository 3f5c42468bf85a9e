import Fieldwise.Proofs.Declaring
import Fieldwise.Proofs.Json.Scalars
import Fieldwise.Session
import Mathlib.Data.List.DropRight

/-!
# JSON documents read back

The compact text of a document is read back as the document, whatever the characters of its
texts and names, as long as it holds no double, no object repeats a name and it is nested within
the limit. What goes through lists and objects is about any text behind the document and any fuel
that covers what is written. The document of a session is of this kind, because a session keeps
its fields apart.
-/

namespace Fieldwise

namespace Json

/-! ### Documents -/

/-- A document that its text determines: no double stands in it, a number that fits 64 signed
bits is signed, no object has two members of one name, and lists and objects are nested up to
`room`. -/
inductive Lossless : Json → (room : Nat) → Prop
  | null {room : Nat} : Lossless .null room
  | bool {room : Nat} (b : Bool) : Lossless (.bool b) room
  | int {room : Nat} (n : Int64) : Lossless (.int n) room
  | uint {room : Nat} (n : UInt64) (h : 9223372036854775808 ≤ n.toNat) : Lossless (.uint n) room
  | text {room : Nat} (s : String) : Lossless (.text s) room
  | list {room : Nat} (items : List Json) (h : ∀ item ∈ items, Lossless item room) :
      Lossless (.list items) (room + 1)
  | object {room : Nat} (members : List (String × Json)) (hnames : (Entries.keys members).Nodup)
      (h : ∀ m ∈ members, Lossless m.2 room) : Lossless (.object members) (room + 1)

/-- The text of a document is read as the document, whatever stands behind it. -/
def ReadsBack (j : Json) (room : Nat) : Prop :=
  ∀ fuel rest, j.compact.length ≤ fuel → EndsNumber rest →
    readValue room (fuel + 1) (j.compact ++ rest) = some (j, rest)

variable {room : Nat}

/-! ### Scalars -/

theorem readValue_number (fuel : Nat) (c : Char) (cs : List Char)
    (h : c.isDigit = true ∨ c = '-') :
    readValue room (fuel + 1) (c :: cs) = readNumber (c :: cs) := by
  have hspace : ¬isSpace c = true := by
    intro hspace
    simp only [isSpace, Bool.or_eq_true, beq_iff_eq] at hspace
    rcases hspace with ((rfl | rfl) | rfl) | rfl <;> exact absurd h (by decide)
  have hskip : skipSpace (c :: cs) = c :: cs := List.dropWhile_cons_of_neg hspace
  rw [readValue, hskip]
  split
  all_goals try
    rename_i hcons
    obtain ⟨rfl, -⟩ := List.cons.inj hcons
    exact absurd h (by decide)
  rfl

theorem readValue_integer (fuel : Nat) (z : Int) (rest : List Char) :
    readValue room (fuel + 1) (Number.integer z ++ rest) = readNumber (Number.integer z ++ rest) := by
  unfold Number.integer
  split
  · exact readValue_number fuel _ _ (.inr rfl)
  · obtain ⟨c, cs, heq, -⟩ := Number.natural_eq_cons z.natAbs
    have hc : c ∈ Number.natural z.natAbs := by
      rw [heq]
      exact List.mem_cons_self ..
    rw [heq]
    exact readValue_number fuel c _ (.inl (Number.isDigit_of_mem_natural _ c hc))

theorem readsBack_int (n : Int64) : ReadsBack (.int n) room := by
  intro fuel rest _ hrest
  rw [compact, readValue_integer, readNumber_integer hrest, integerOf_int64]
  rfl

theorem readsBack_uint (n : UInt64) (h : 9223372036854775808 ≤ n.toNat) :
    ReadsBack (.uint n) room := by
  intro fuel rest _ hrest
  have hwritten : Number.natural n.toNat = Number.integer n.toNat := rfl
  rw [compact, hwritten, readValue_integer, readNumber_integer hrest]
  exact congrArg (Option.map fun j => (j, rest)) (integerOf_uint64 n h)

theorem readsBack_text (s : String) : ReadsBack (.text s) room := by
  intro fuel rest hfuel _
  have hskip : ∀ cs, skipSpace ('"' :: cs) = '"' :: cs := fun _ => rfl
  simp only [compact, quoted_append, readValue, hskip, readString_quoted s fuel hfuel,
    Option.map_some, String.ofList_toList]

/-! ### Lists -/

-- Blanks before an item are skipped twice, by the list and by the item.
theorem skipSpace_idem (cs : List Char) : skipSpace (skipSpace cs) = skipSpace cs :=
  List.dropWhile_idempotent isSpace cs

theorem readValue_skipSpace (fuel : Nat) (cs : List Char) :
    readValue room fuel (skipSpace cs) = readValue room fuel cs := by
  cases fuel with
  | zero => rfl
  | succ fuel => rw [readValue, readValue, skipSpace_idem]

theorem readItems_skipSpace (fuel : Nat) (cs : List Char) :
    readItems room fuel (skipSpace cs) = readItems room fuel cs := by
  cases fuel with
  | zero => rfl
  | succ fuel => rw [readItems, readItems, readValue_skipSpace]

theorem readItems_bracket (fuel : Nat) (cs tail : List Char) (h : skipSpace cs = ']' :: tail) :
    readItems room fuel cs = none := by
  rw [← readItems_skipSpace, h]
  cases fuel with
  | zero => rfl
  | succ fuel =>
    cases fuel with
    | zero => rfl
    | succ fuel => rfl

theorem readValue_list {fuel : Nat} {cs rest : List Char} {items : List Json}
    (h : readItems room fuel cs = some (items, rest)) :
    readValue (room + 1) (fuel + 1) ('[' :: cs) = some (.list items, rest) := by
  have hskip : skipSpace ('[' :: cs) = '[' :: cs := rfl
  simp only [readValue, hskip]
  split
  · -- No item starts with the closing bracket, so the list that was read is not the empty one.
    rename_i hclose
    rw [readItems_bracket fuel cs _ hclose] at h
    cases h
  · rw [readItems_skipSpace, h]
    rfl

theorem endsNumber_compactItems (items : List Json) (rest : List Char) :
    EndsNumber (compactItems false items ++ rest) := by
  cases items with
  | nil => exact endsNumber_cons _ _ (by decide)
  | cons item items => exact endsNumber_cons _ _ (by decide)

theorem length_compactItems_pos (items : List Json) : 0 < (compactItems false items).length := by
  cases items with
  | nil => exact Nat.succ_pos _
  | cons item items => exact Nat.succ_pos _

theorem readValue_compactItems {item : Json} (h : item.ReadsBack room) (items : List Json)
    (fuel : Nat) (hfuel : (compactItems true (item :: items)).length ≤ fuel) (rest : List Char) :
    readValue room fuel (compactItems true (item :: items) ++ rest) =
      some (item, compactItems false items ++ rest) := by
  have htext : compactItems true (item :: items) = item.compact ++ compactItems false items := rfl
  have hpos := length_compactItems_pos items
  rw [htext, List.length_append] at hfuel
  rw [htext, List.append_assoc]
  cases fuel with
  | zero => omega
  | succ fuel => exact h fuel _ (by omega) (endsNumber_compactItems items rest)

theorem readItems_last {fuel : Nat} {cs rest : List Char} {item : Json}
    (h : readValue room fuel cs = some (item, ']' :: rest)) :
    readItems room (fuel + 1) cs = some ([item], rest) := by
  rw [readItems, h]
  rfl

theorem readItems_next {fuel : Nat} {cs tail rest : List Char} {item : Json} {items : List Json}
    (h : readValue room fuel cs = some (item, ',' :: tail))
    (htail : readItems room fuel tail = some (items, rest)) :
    readItems room (fuel + 1) cs = some (item :: items, rest) := by
  have hskip : skipSpace (',' :: tail) = ',' :: tail := rfl
  simp only [readItems, h, Option.bind_eq_bind, Option.bind_some, hskip, htail]

theorem readItems_compactItems (item : Json) (items : List Json)
    (h : ∀ j ∈ item :: items, ReadsBack j room) (fuel : Nat)
    (hfuel : (compactItems true (item :: items)).length ≤ fuel) (rest : List Char) :
    readItems room (fuel + 1) (compactItems true (item :: items) ++ rest) =
      some (item :: items, rest) := by
  -- The fuel of the rest is one less, which the comma before it makes up for.
  induction items generalizing item fuel with
  | nil =>
    have hitem := readValue_compactItems (h item (List.mem_cons_self ..)) [] fuel hfuel rest
    exact readItems_last hitem
  | cons next items ih =>
    have hitem := readValue_compactItems (h item (List.mem_cons_self ..)) (next :: items) fuel
      hfuel rest
    have htext : compactItems true (item :: next :: items) =
        item.compact ++ ',' :: compactItems true (next :: items) := rfl
    rw [htext, List.length_append, List.length_cons] at hfuel
    cases fuel with
    | zero => omega
    | succ fuel =>
      have hitems := ih next (fun j hj => h j (List.mem_cons_of_mem _ hj)) fuel (by omega)
      exact readItems_next hitem hitems

theorem readsBack_list (items : List Json) (h : ∀ item ∈ items, ReadsBack item room) :
    ReadsBack (.list items) (room + 1) := by
  intro fuel rest hfuel _
  cases items with
  | nil => rfl
  | cons item items =>
    have htext : (list (item :: items)).compact = '[' :: compactItems true (item :: items) := rfl
    rw [htext, List.length_cons] at hfuel
    rw [htext, List.cons_append]
    cases fuel with
    | zero => omega
    | succ fuel => exact readValue_list (readItems_compactItems item items h fuel (by omega) rest)

/-! ### Objects -/

theorem readMembers_skipSpace (fuel : Nat) (cs : List Char) :
    readMembers room fuel (skipSpace cs) = readMembers room fuel cs := by
  cases fuel with
  | zero => rfl
  | succ fuel => rw [readMembers, readMembers, skipSpace_idem]

theorem readMembers_brace (fuel : Nat) (cs tail : List Char) (h : skipSpace cs = '\x7d' :: tail) :
    readMembers room fuel cs = none := by
  rw [← readMembers_skipSpace, h]
  cases fuel with
  | zero => rfl
  | succ fuel => rfl

theorem readValue_object {fuel : Nat} {cs rest : List Char} {members : List (String × Json)}
    (h : readMembers room fuel cs = some (members, rest)) :
    readValue (room + 1) (fuel + 1) ('\x7b' :: cs) =
      some (.object (FieldMap.ofList members).entries, rest) := by
  have hskip : skipSpace ('\x7b' :: cs) = '\x7b' :: cs := rfl
  simp only [readValue, hskip]
  split
  · rename_i hclose
    rw [readMembers_brace fuel cs _ hclose] at h
    cases h
  · rw [readMembers_skipSpace, h]
    rfl

theorem endsNumber_compactMembers (members : List (String × Json)) (rest : List Char) :
    EndsNumber (compactMembers false members ++ rest) := by
  cases members with
  | nil => exact endsNumber_cons _ _ (by decide)
  | cons m members => exact endsNumber_cons _ _ (by decide)

theorem readMembers_last {fuel : Nat} {cs tail rest : List Char} {name : String} {value : Json}
    (hname : readString fuel cs = some (name.toList, ':' :: tail))
    (hvalue : readValue room fuel tail = some (value, '\x7d' :: rest)) :
    readMembers room (fuel + 1) ('"' :: cs) = some ([(name, value)], rest) := by
  have hquote : skipSpace ('"' :: cs) = '"' :: cs := rfl
  have hcolon : skipSpace (':' :: tail) = ':' :: tail := rfl
  have hbrace : skipSpace ('\x7d' :: rest) = '\x7d' :: rest := rfl
  simp only [readMembers, hquote, hname, hcolon, hvalue, hbrace, Option.bind_eq_bind,
    Option.bind_some, String.ofList_toList]

theorem readMembers_next {fuel : Nat} {cs tail next rest : List Char} {name : String}
    {value : Json} {members : List (String × Json)}
    (hname : readString fuel cs = some (name.toList, ':' :: tail))
    (hvalue : readValue room fuel tail = some (value, ',' :: next))
    (hnext : readMembers room fuel next = some (members, rest)) :
    readMembers room (fuel + 1) ('"' :: cs) = some ((name, value) :: members, rest) := by
  have hquote : skipSpace ('"' :: cs) = '"' :: cs := rfl
  have hcolon : skipSpace (':' :: tail) = ':' :: tail := rfl
  have hcomma : skipSpace (',' :: next) = ',' :: next := rfl
  simp only [readMembers, hquote, hname, hcolon, hvalue, hcomma, hnext, Option.bind_eq_bind,
    Option.bind_some, String.ofList_toList]

/-- A written member is its name in quotes, a colon and its value. -/
theorem exists_readString_readValue {value : Json} (h : value.ReadsBack room) (name : String)
    (members : List (String × Json)) (fuel : Nat)
    (hfuel : (compactMembers true ((name, value) :: members)).length ≤ fuel) (rest : List Char) :
    ∃ cs tail, compactMembers true ((name, value) :: members) ++ rest = '"' :: cs ∧
      readString fuel cs = some (name.toList, ':' :: tail) ∧
      readValue room fuel tail = some (value, compactMembers false members ++ rest) := by
  have htext : compactMembers true ((name, value) :: members) =
      quoted name ++ ':' :: (value.compact ++ compactMembers false members) := rfl
  rw [htext, List.length_append, List.length_cons, List.length_append] at hfuel
  rw [htext, List.append_assoc, quoted_append]
  refine ⟨_, value.compact ++ (compactMembers false members ++ rest), rfl, ?_, ?_⟩
  · rw [readString_quoted name fuel (by omega), List.cons_append, List.append_assoc]
  · cases fuel with
    | zero => omega
    | succ fuel => exact h fuel _ (by omega) (endsNumber_compactMembers members rest)

theorem readMembers_compactMembers (m : String × Json) (members : List (String × Json))
    (h : ∀ m' ∈ m :: members, ReadsBack m'.2 room) (fuel : Nat)
    (hfuel : (compactMembers true (m :: members)).length ≤ fuel) (rest : List Char) :
    readMembers room (fuel + 1) (compactMembers true (m :: members) ++ rest) =
      some (m :: members, rest) := by
  induction members generalizing m fuel with
  | nil =>
    obtain ⟨cs, tail, htext, hname, hvalue⟩ :=
      exists_readString_readValue (h m (List.mem_cons_self ..)) m.1 [] fuel hfuel rest
    rw [htext]
    exact readMembers_last hname hvalue
  | cons next members ih =>
    obtain ⟨cs, tail, htext, hname, hvalue⟩ :=
      exists_readString_readValue (h m (List.mem_cons_self ..)) m.1 (next :: members) fuel hfuel
        rest
    have hlength : (compactMembers true (next :: members)).length + 1 ≤ fuel := by
      have hcompact : compactMembers true (m :: next :: members) = quoted m.1 ++ ':' ::
          (m.2.compact ++ ',' :: compactMembers true (next :: members)) := rfl
      simp only [hcompact, List.length_append, List.length_cons] at hfuel
      omega
    cases fuel with
    | zero => omega
    | succ fuel =>
      have hmembers := ih next (fun j hj => h j (List.mem_cons_of_mem _ hj)) fuel (by omega)
      rw [htext]
      exact readMembers_next hname hvalue hmembers

theorem readsBack_object (members : List (String × Json)) (hnames : (Entries.keys members).Nodup)
    (h : ∀ m ∈ members, ReadsBack m.2 room) : ReadsBack (.object members) (room + 1) := by
  intro fuel rest hfuel _
  cases members with
  | nil => rfl
  | cons m members =>
    have htext : (object (m :: members)).compact = '\x7b' :: compactMembers true (m :: members) :=
      rfl
    rw [htext, List.length_cons] at hfuel
    rw [htext, List.cons_append]
    cases fuel with
    | zero => omega
    | succ fuel =>
      have hread := readMembers_compactMembers m members h fuel (by omega) rest
      rw [readValue_object hread, FieldMap.entries_ofList _ hnames]

/-! ### Whole texts -/

theorem Lossless.readsBack {j : Json} (h : Lossless j room) : ReadsBack j room := by
  induction h with
  | null => exact fun _ _ _ _ => rfl
  | bool b =>
    intro fuel rest _ _
    cases b with
    | false => rfl
    | true => rfl
  | int n => exact readsBack_int n
  | uint n h => exact readsBack_uint n h
  | text s => exact readsBack_text s
  | list items _ ih => exact readsBack_list items ih
  | object members hnames _ ih => exact readsBack_object members hnames ih

/-- The compact text of a lossless document writes this document and no other. -/
theorem ofText?_toText {j : Json} (h : Lossless j nestingLimit) : ofText? j.toText = some j := by
  have hread := h.readsBack j.compact.length [] (Nat.le_refl _) endsNumber_nil
  rw [List.append_nil] at hread
  simp only [ofText?, toText, String.toList_ofList, hread, Option.bind_eq_bind, Option.bind_some]
  rfl

/-- A double that is not finite is written as something else. -/
example : ofText? (float .nan).toText = some null := by rfl

end Json

/-! ### Sessions -/

namespace Value

theorem ofJsonList_text (messages : List String) :
    ofJsonList (messages.map Json.text) = messages.map Value.text := by
  induction messages with
  | nil => rfl
  | cons message rest ih => exact congrArg (Value.text message :: ·) ih

theorem ofJsonMembers_messages (entries : List (String × List String)) :
    ofJsonMembers (entries.map fun e => (e.1, .list (e.2.map .text))) =
      entries.map fun e => (e.1, .list (e.2.map .text)) := by
  induction entries with
  | nil => rfl
  | cons e rest ih =>
    simp only [List.map_cons, ofJsonMembers, ofJson, ofJsonList_text, ih]

end Value

namespace Session

variable (s : Session)

theorem lossless_toJson : s.toJson.Lossless Json.nestingLimit := by
  apply Json.Lossless.object
  · rw [Entries.keys_map (fun _ (messages : List String) => Json.list (messages.map .text))]
    exact s.fieldErrors.distinct
  · intro m hm
    obtain ⟨e, -, rfl⟩ := List.mem_map.mp hm
    apply Json.Lossless.list
    intro item hitem
    obtain ⟨message, -, rfl⟩ := List.mem_map.mp hitem
    exact .text message

/-- The text of a session's document, read as JSON and taken as a value, maps the failed
fields in order to the lists of their messages in order. -/
theorem json_text_reads_back_field_errors :
    ∃ document members, Json.ofText? s.toJson.toText = some document ∧
      Value.ofJson document = .map members ∧ Entries.keys members = s.fieldErrors.keys ∧
      ∀ field, Entries.get? field members =
        (s.fieldErrors.get? field).map fun messages => .list (messages.map .text) := by
  refine ⟨s.toJson, s.fieldErrors.entries.map fun e => (e.1, .list (e.2.map .text)),
    Json.ofText?_toText s.lossless_toJson, ?_, ?_, ?_⟩
  · exact congrArg Value.map (Value.ofJsonMembers_messages s.fieldErrors.entries)
  · exact Entries.keys_map (fun _ (messages : List String) => Value.list (messages.map .text)) _
  · intro field
    exact Entries.get?_map (fun messages : List String => Value.list (messages.map .text)) field _

end Session

end Fieldwise
