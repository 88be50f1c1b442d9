/-!
# How much two names are alike

Two names are compared by the characters that they share at nearly the same places: the mean of
the share of each name that is matched and of the share of the matches that stand in order. The
measure is kept as a fraction, so that a comparison of two of them is exact.
-/

namespace PilotLamp.NameLikeness

/-- A fraction of naturals. -/
structure Fraction where
  /-- The numerator. -/
  numerator : Nat
  /-- The denominator. -/
  denominator : Nat
deriving DecidableEq, Repr

/-- Whether a fraction is larger than another. -/
def Fraction.exceeds (first second : Fraction) : Bool :=
  decide (second.numerator * first.denominator < first.numerator * second.denominator)

/-- A character with a mark that says whether it is matched. -/
abbrev Marked := List (Char × Bool)

/-- Marks the first unmatched occurrence of a character from a lowest to a highest place; the
places of the list begin at `place`. -/
def mark? (c : Char) (lowest highest : Nat) : Nat → Marked → Option Marked
  | _, [] => none
  | place, (other, matched) :: rest =>
    if lowest ≤ place ∧ place ≤ highest ∧ !matched ∧ other = c then some ((other, true) :: rest)
    else (mark? c lowest highest (place + 1) rest).map ((other, matched) :: ·)

/-- Matches the characters of a name, from a place on, with those of another at most `reach`
places away. Answers the characters that are matched and the other name with its marks. -/
def matchChars (reach : Nat) : Nat → List Char → Marked → List Char × Marked
  | _, [], marked => ([], marked)
  | place, c :: rest, marked =>
    match mark? c (place - reach) (place + reach) 0 marked with
    | none => matchChars reach (place + 1) rest marked
    | some marked =>
      let (found, marked) := matchChars reach (place + 1) rest marked
      (c :: found, marked)

/-- How far apart two matching characters may stand in names of some lengths. -/
def reachOf (first second : Nat) : Nat := max first second / 2 - 1

/-- How much two names are alike. -/
def ofNames (first second : List Char) : Fraction :=
  let (found, marked) :=
    matchChars (reachOf first.length second.length) 0 first (second.map (·, false))
  let others := (marked.filter Prod.snd).map Prod.fst
  let m := found.length
  let swaps := ((found.zip others).filter fun pair => pair.1 != pair.2).length / 2
  if m = 0 then ⟨0, 1⟩
  else
    let a := first.length
    let b := second.length
    ⟨m * m * b + m * m * a + (m - swaps) * a * b, 3 * a * b * m⟩

/-- The name among some that is most like a name and more than a bound; the later of equals. -/
def closest? (bound : Fraction) (name : String) (names : List String) : Option String :=
  let better (best : Option (String × Fraction)) (other : String) : Option (String × Fraction) :=
    let likeness := ofNames name.toList other.toList
    match best with
    | none => if likeness.exceeds bound then some (other, likeness) else none
    | some (old, most) => if most.exceeds likeness then some (old, most) else some (other, likeness)
  (names.foldl better none).map Prod.fst

end PilotLamp.NameLikeness
