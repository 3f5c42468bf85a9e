/-!
# Tables of code points

A property of characters is constant on long runs of code points. A table keeps
the code points where a run begins and finds the run of a code point by bisection.
The tables are written as text: a set as the lengths of its runs, which lie
outside and inside the set by turns, and a function as the length of each run
followed by its value.
-/

namespace Fieldwise.Unicode

/-! ### Bisection -/

/-- The number of entries of an ascending array that are at most `n`, if it lies
between `low` and `high`. -/
def countUpTo (starts : Array Nat) (n low high : Nat) : Nat :=
  if high ≤ low then low
  else
    let middle := (low + high) / 2
    if starts.getD middle 0 ≤ n then countUpTo starts n (middle + 1) high
    else countUpTo starts n low middle
termination_by high - low

/-- The sums of the initial parts of a list, the empty one left out. -/
def partialSums (total : Nat) : List Nat → List Nat
  | [] => []
  | n :: rest => (total + n) :: partialSums (total + n) rest

/-- The words of a text, which blanks and line ends stand between. -/
def words (text : String) : List String := (text.splitOn "\n").flatMap fun line => line.splitOn " "

/-! ### Sets -/

/-- A set of code points: those where an odd number of the boundaries lie at or
below. -/
structure RangeSet where
  boundaries : Array Nat

/-- The set with these run lengths, the first outside it. -/
def RangeSet.ofRuns (runs : String) : RangeSet :=
  ⟨(partialSums 0 ((words runs).filterMap String.toNat?)).toArray⟩

/-- The character belongs to the set. -/
def RangeSet.contains (s : RangeSet) (c : Char) : Bool :=
  countUpTo s.boundaries c.toNat 0 s.boundaries.size % 2 == 1

/-! ### Functions -/

/-- A function on code points: the value of the last run that begins at or below. -/
structure RunTable (α : Type) where
  starts : Array Nat
  values : Array α

/-- The runs of a text such as `32Cc1Zs3Po`: lengths, each followed by a name. Blanks and
line ends do not count. -/
def readRuns (text : String) : List (Nat × String) :=
  let flush (runs : List (Nat × String)) (length : Nat) (name : String) :=
    if name = "" then runs else (length, name) :: runs
  let (runs, length, name) := text.foldl
    (fun (state : List (Nat × String) × Nat × String) c =>
      let (runs, length, name) := state
      if c.isDigit then
        if name = "" then (runs, 10 * length + (c.toNat - '0'.toNat), name)
        else ((length, name) :: runs, c.toNat - '0'.toNat, "")
      else if c = ' ' ∨ c = '\n' then (runs, length, name)
      else (runs, length, name.push c))
    ([], 0, "")
  (flush runs length name).reverse

/-- The function with these runs, where `value` gives the value of a name. -/
def RunTable.ofRuns {α : Type} (value : String → α) (text : String) : RunTable α :=
  let runs := readRuns text
  ⟨(0 :: partialSums 0 (runs.map Prod.fst)).toArray, (runs.map fun run => value run.2).toArray⟩

/-- The value at a character; `fallback` beyond the last run. -/
def RunTable.get {α : Type} (table : RunTable α) (fallback : α) (c : Char) : α :=
  table.values.getD (countUpTo table.starts c.toNat 0 table.starts.size - 1) fallback

end Fieldwise.Unicode
