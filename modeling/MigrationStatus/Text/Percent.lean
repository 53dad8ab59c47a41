import MigrationStatus.Text.Digits
/-!
Text in which a percent sign with two hexadecimal digits stands for a byte.
-/

namespace MigrationStatus.Text

/-- The bytes that a text stands for: its own in UTF-8, and one for every percent sign in front of
two hexadecimal digits. Any other percent sign stands for itself. -/
def percentDecoded (text : List Char) : List UInt8 :=
  match text with
  | [] => []
  | c :: rest =>
    if c == '%' && 2 ≤ rest.length && (rest.take 2).all isHex then
      UInt8.ofNat (valueIn 16 (rest.take 2)) :: percentDecoded (rest.drop 2)
    else String.utf8EncodeChar c ++ percentDecoded rest
termination_by text.length
decreasing_by all_goals simp only [List.length_cons, List.length_drop]; omega

end MigrationStatus.Text
