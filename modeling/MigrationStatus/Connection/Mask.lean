import MigrationStatus.Text.Cut
/-!
The address of a database as it is shown: with stars in place of the password.
-/

namespace MigrationStatus.Connection

/-- The address with the password masked. What stands between the two slashes and the first `@`
holds a password if it has a colon; everything from its first colon on is masked. -/
def maskedChars (address : List Char) : List Char :=
  match Text.cut? [':', '/', '/'] address with
  | none => address
  | some (scheme, rest) =>
    match Text.cut? ['@'] rest with
    | none => address
    | some (userInfo, place) =>
      match Text.cut? [':'] userInfo with
      | none => address
      | some (user, _) => scheme ++ "://".toList ++ user ++ ":***@".toList ++ place

def masked (address : String) : String := String.ofList (maskedChars address.toList)

end MigrationStatus.Connection
