/-!
Versions: the positions that migrations take in their sequence.

A numbered version is a list of numbers together with the text it was written as. Trailing zeros do
not matter for its position, so `1` and `1.0` are the same position written twice; the numbers are
kept without them, and the text is kept for display. Two further positions bound all others:
`empty` lies below every numbered version and `latest` above.
-/

namespace MigrationStatus

/-- The list without the zeros at its end. -/
def trimZeros : List UInt64 → List UInt64
  | [] => []
  | part :: rest =>
    match trimZeros rest with
    | [] => if part = 0 then [] else [part]
    | kept => part :: kept

theorem getLast?_trimZeros (parts : List UInt64) : (trimZeros parts).getLast? ≠ some 0 := by
  induction parts with
  | nil => simp [trimZeros]
  | cons part rest ih =>
    rw [trimZeros]
    split
    · by_cases h : part = 0 <;> simp [h]
    · next kept hne =>
      cases hkept : trimZeros rest with
      | nil => exact absurd hkept hne
      | cons first others => simpa [hkept, List.getLast?_cons_cons] using ih

theorem trimZeros_eq_self {parts : List UInt64} (h : parts.getLast? ≠ some 0) :
    trimZeros parts = parts := by
  induction parts with
  | nil => rfl
  | cons part rest ih =>
    cases rest with
    | nil => simp_all [trimZeros]
    | cons next others =>
      rw [trimZeros, ih (by simpa [List.getLast?_cons_cons] using h)]

/-- The numbers of a version, most significant first, with no zero at the end. -/
structure Version.Parts where
  toList : List UInt64
  getLast?_ne_zero : toList.getLast? ≠ some 0

namespace Version.Parts

@[ext]
theorem ext {left right : Parts} (h : left.toList = right.toList) : left = right := by
  cases left
  cases right
  congr

def ofList (numbers : List UInt64) : Parts := ⟨trimZeros numbers, getLast?_trimZeros numbers⟩

@[simp]
theorem toList_ofList (numbers : List UInt64) : (ofList numbers).toList = trimZeros numbers := rfl

instance : DecidableEq Parts := fun left right =>
  if h : left.toList = right.toList then isTrue (ext h) else isFalse fun heq => h (heq ▸ rfl)

instance : Ord Parts := ⟨fun left right => compare left.toList right.toList⟩

end Version.Parts

/-- A position in the sequence of migrations. -/
inductive Version where
  /-- Before every migration. -/
  | empty
  /-- The position given by the numbers, written as `text`. -/
  | numbered (parts : Version.Parts) (text : String)
  /-- After every migration. -/
  | latest
  deriving DecidableEq

namespace Version

instance : Inhabited Version := ⟨.empty⟩

/-- The decimal digits of the numbers, with points between them. -/
def dotted (numbers : List UInt64) : List Char :=
  ['.'].intercalate (numbers.map fun number => Nat.toDigits 10 number.toNat)

/-- The version with these numbers, written with points between them. -/
def ofParts (numbers : List UInt64) : Version :=
  .numbered (.ofList numbers) (String.ofList (dotted numbers))

def isEmpty : Version → Bool
  | .empty => true
  | _ => false

def isLatest : Version → Bool
  | .latest => true
  | _ => false

/-- Whether this is a position of its own, which can be stored, and not one of the two bounds. -/
def isNumbered : Version → Bool
  | .numbered .. => true
  | _ => false

/-- The version as it is shown: a numbered one as it was written. -/
def display : Version → String
  | .empty => "<< Empty >>"
  | .numbered _ text => text
  | .latest => "<< Latest >>"

/-- The numbers of a numbered version. -/
def parts? : Version → Option (List UInt64)
  | .numbered parts _ => some parts.toList
  | _ => none

/-- Which of the three kinds of position this is, in ascending order. -/
def rank : Version → Nat
  | .empty => 0
  | .numbered .. => 1
  | .latest => 2

/-- Numbered versions compare number by number; the bounds enclose them. -/
instance : Ord Version where
  compare
    | .numbered left _, .numbered right _ => compare left right
    | left, right => compare left.rank right.rank

instance : LT Version := ltOfOrd

instance : LE Version := leOfOrd

/-- Whether both stand at the same position, in whatever way they are written. -/
def same (left right : Version) : Bool := compare left right == .eq

/-- All that a hash of the version may depend on: its kind and its numbers, not its text. -/
def hashKey (version : Version) : Nat × List UInt64 :=
  (version.rank, version.parts?.getD [])

instance : Hashable Version := ⟨fun version => hash version.hashKey⟩

/-- The versions in ascending order; those at the same position keep the order they came in. -/
def sorted (versions : List Version) : List Version :=
  versions.mergeSort fun left right => (compare left right).isLE

/-- Puts the version into an ascending list, where it replaces the one at the same position. -/
def insert (version : Version) : List Version → List Version
  | [] => [version]
  | first :: rest =>
    match compare version first with
    | .lt => version :: first :: rest
    | .eq => version :: rest
    | .gt => first :: insert version rest

/-- The positions taken, ascending, each as it was written last. -/
def distinct (versions : List Version) : List Version :=
  versions.foldl (fun taken version => insert version taken) []

end Version

end MigrationStatus
