import Fieldwise.Pattern.Error
import Fieldwise.Pattern.Expression
import Fieldwise.Text.Blank
import Fieldwise.Unicode.Age
import Fieldwise.Unicode.Category
import Fieldwise.Unicode.Property.Index
import Fieldwise.Unicode.Script
import Fieldwise.Unicode.Segmentation

/-!
# Properties by name

A pattern asks for a property by its name, or by the name of a family and a value.
Names are compared loosely: case, spaces, hyphens and underscores do not count, nor
does a leading `is`.
-/

namespace Fieldwise.Pattern

/-- A set of characters. -/
abbrev CharSet := Char → Bool

/-! ### Names -/

def significant (cs : List Char) : List Char :=
  (cs.filter fun c => c.toNat < 0x80 && !(c == ' ' || c == '_' || c == '-')).map Text.lowerAscii

/-- The loose form of a name. The category `C` may not be called `isc`. -/
def looseName (name : String) : List Char :=
  match name.toList with
  | i :: s :: rest =>
    if Text.lowerAscii i = 'i' ∧ Text.lowerAscii s = 's' then
      let loose := significant rest
      if loose = ['c'] then ['i', 's', 'c'] else loose
    else significant (i :: s :: rest)
  | cs => significant cs

/-- One of the names, up to the way it is written. -/
def isCalled (loose : List Char) (names : List String) : Bool :=
  names.any fun name => looseName name == loose

/-! ### Categories -/

/-- The long names of the categories, by abbreviation. -/
def categoryNames : List (String × List String) :=
  [("Lu", ["Uppercase_Letter"]), ("Ll", ["Lowercase_Letter"]), ("Lt", ["Titlecase_Letter"]),
    ("Lm", ["Modifier_Letter"]), ("Lo", ["Other_Letter"]), ("Mn", ["Nonspacing_Mark"]),
    ("Mc", ["Spacing_Mark"]), ("Me", ["Enclosing_Mark"]), ("Nd", ["Decimal_Number", "digit"]),
    ("Nl", ["Letter_Number"]), ("No", ["Other_Number"]), ("Pc", ["Connector_Punctuation"]),
    ("Pd", ["Dash_Punctuation"]), ("Ps", ["Open_Punctuation"]), ("Pe", ["Close_Punctuation"]),
    ("Pi", ["Initial_Punctuation"]), ("Pf", ["Final_Punctuation"]),
    ("Po", ["Other_Punctuation"]), ("Sm", ["Math_Symbol"]), ("Sc", ["Currency_Symbol"]),
    ("Sk", ["Modifier_Symbol"]), ("So", ["Other_Symbol"]), ("Zs", ["Space_Separator"]),
    ("Zl", ["Line_Separator"]), ("Zp", ["Paragraph_Separator"]), ("Cc", ["Control", "cntrl"]),
    ("Cf", ["Format"]), ("Co", ["Private_Use"]), ("Cn", ["Unassigned"])]

/-- The groups of categories: their names, and the abbreviations of their members. -/
def categoryGroups : List (List String × List String) :=
  [(["L", "Letter"], ["Lu", "Ll", "Lt", "Lm", "Lo"]),
    (["LC", "Cased_Letter"], ["Lu", "Ll", "Lt"]),
    (["M", "Mark", "Combining_Mark"], ["Mn", "Mc", "Me"]),
    (["N", "Number"], ["Nd", "Nl", "No"]),
    (["P", "Punctuation", "punct"], ["Pc", "Pd", "Ps", "Pe", "Pi", "Pf", "Po"]),
    (["S", "Symbol"], ["Sm", "Sc", "Sk", "So"]),
    (["Z", "Separator"], ["Zs", "Zl", "Zp"]),
    (["C", "Other"], ["Cc", "Cf", "Cs", "Co", "Cn"])]

def inCategories (abbreviations : List String) : CharSet :=
  let categories := abbreviations.map Unicode.Category.ofAbbreviation
  fun c => categories.contains (Unicode.category c)

/-- The set with the name of a category, of a group of categories, or of one of the
sets of all, all assigned and all ASCII characters. No character is a surrogate, and
a pattern may not ask for one. -/
def categorySet? (loose : List Char) : Option (Except PatternError CharSet) :=
  if isCalled loose ["Any"] then some (.ok fun _ => true)
  else if isCalled loose ["Assigned"] then
    some (.ok fun c => Unicode.category c != .unassigned)
  else if isCalled loose ["ASCII"] then some (.ok fun c => c.toNat < 0x80)
  else if isCalled loose ["Cs", "Surrogate"] then some (.error .propertyValueNotFound)
  else
    match categoryNames.find? fun entry => isCalled loose (entry.1 :: entry.2) with
    | some entry => some (.ok (inCategories [entry.1]))
    | none =>
      (categoryGroups.find? fun group => isCalled loose group.1).map fun group =>
        .ok (inCategories group.2)

/-! ### Scripts -/

/-- The code of the script with a name. Two names stand for no set. -/
def scriptCode? (loose : List Char) : Option (Except PatternError String) :=
  if isCalled loose ["Zzzz", "Unknown", "Hrkt", "Katakana_Or_Hiragana"] then
    some (.error .propertyValueNotFound)
  else
    (Unicode.scriptNames.find? fun entry => isCalled loose (entry.1 :: entry.2)).map fun entry =>
      .ok entry.1

/-! ### Queries -/

/-- The names that belong to a category although a property has them too. -/
def categoryOnly : List String := ["Cf", "Sc", "LC"]

def yesNo? (loose : List Char) : Option CharSet :=
  (Unicode.Property.entries.find? fun entry => isCalled loose entry.names).map fun entry =>
    entry.members.contains

/-- The set with a name: a property, a category or a script, in that order. -/
def namedSet (name : String) : Except PatternError CharSet :=
  let loose := looseName name
  match if isCalled loose categoryOnly then none else yesNo? loose with
  | some set => .ok set
  | none =>
    match categorySet? loose with
    | some result => result
    | none =>
      match scriptCode? loose with
      | some result => result.map fun code c => Unicode.script c == code
      | none => .error .propertyNotFound

/-- The set of the characters up to a version of the standard. -/
def ageSet (loose : List Char) : Except PatternError CharSet :=
  match Unicode.additions.find? fun addition => isCalled loose addition.1.names with
  | some addition => .ok (Unicode.isIn addition.1)
  | none => .error .propertyValueNotFound

def valueSet (property : Unicode.ValuedProperty) (loose : List Char) :
    Except PatternError CharSet :=
  match property.values.find? fun entry => isCalled loose (entry.1 :: entry.2) with
  | some entry => .ok fun c => property.code c == entry.1
  | none => .error .propertyValueNotFound

/-- The name of a property of the standard that has no values to ask for. -/
def isValueless (loose : List Char) : Bool :=
  (yesNo? loose).isSome || isCalled loose Unicode.Property.otherNames

/-- The set with a value in a family: of categories, of scripts, of scripts in use, of
versions, or of what counts where text is divided. -/
def valuedSet (name value : String) : Except PatternError CharSet :=
  let family := looseName name
  let loose := looseName value
  if isCalled family ["General_Category", "gc"] then
    (categorySet? loose).getD (.error .propertyValueNotFound)
  else if isCalled family ["Script", "sc"] then
    ((scriptCode? loose).getD (.error .propertyValueNotFound)).map
      fun code c => Unicode.script c == code
  else if isCalled family ["Script_Extensions", "scx"] then
    ((scriptCode? loose).getD (.error .propertyValueNotFound)).map Unicode.hasScript
  else if isCalled family ["Age"] then ageSet loose
  else
    match Unicode.breakProperties.find? fun property => isCalled family property.names with
    | some property => valueSet property loose
    | none =>
      if isValueless family then .error .propertyValueNotFound else .error .propertyNotFound

/-- The set that a query asks for. -/
def PropertyQuery.resolve : PropertyQuery → Except PatternError CharSet
  | .named name => namedSet name
  | .valued name value => valuedSet name value

end Fieldwise.Pattern
