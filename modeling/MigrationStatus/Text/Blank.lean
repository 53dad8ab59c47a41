/-!
White space as Unicode defines it, and the removal of it from both ends of a text.

Texts are lists of characters here: versions, kinds and keywords are read by recursion on such
lists, and strings are opened once at the boundary.
-/

namespace MigrationStatus.Text

/-- The characters with the Unicode property `White_Space`. -/
def isBlank (c : Char) : Bool :=
  let n := c.toNat
  (9 ≤ n && n ≤ 13) || n == 0x20 || n == 0x85 || n == 0xA0 || n == 0x1680 ||
    (0x2000 ≤ n && n ≤ 0x200A) || n == 0x2028 || n == 0x2029 || n == 0x202F || n == 0x205F ||
    n == 0x3000

/-- The text without the white space at its end. -/
def trimEnd (text : List Char) : List Char :=
  (text.reverse.dropWhile isBlank).reverse

/-- The text without the white space at either end. -/
def trim (text : List Char) : List Char :=
  trimEnd (text.dropWhile isBlank)

/-- Core's white space is white space here as well. -/
theorem isBlank_of_isWhitespace {c : Char} (h : c.isWhitespace = true) : isBlank c = true := by
  simp only [Char.isWhitespace, Bool.or_eq_true, decide_eq_true_eq] at h
  rcases h with ((h | h) | h) | h <;> subst h <;> decide

theorem trimEnd_eq_self {text : List Char} (h : ∀ c ∈ text.getLast?, isBlank c = false) :
    trimEnd text = text := by
  rcases List.eq_nil_or_concat text with rfl | ⟨front, last, rfl⟩
  · rfl
  · have hlast : isBlank last = false := h last (by simp)
    simp [trimEnd, hlast]

theorem trim_eq_self {text : List Char} (h : ∀ c ∈ text, isBlank c = false) : trim text = text := by
  have hstart : text.dropWhile isBlank = text := by
    cases text with
    | nil => rfl
    | cons first rest =>
      rw [List.dropWhile_cons, h first List.mem_cons_self]
      rfl
  rw [trim, hstart]
  exact trimEnd_eq_self fun c hc => h c (List.mem_of_getLast? hc)

end MigrationStatus.Text
