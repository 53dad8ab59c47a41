/-!
The checksum of a script: the digest of its content, as text.
-/

namespace MigrationStatus.Checksum

/-- A way to boil a message down to sixteen bytes. -/
abbrev Digest := ByteArray → Vector UInt8 16

/-- Two hexadecimal digits. -/
def byteText (byte : UInt8) : List Char :=
  [Nat.digitChar (byte.toNat / 16), Nat.digitChar (byte.toNat % 16)]

/-- The digest as thirty-two hexadecimal digits. -/
def text (digest : Digest) (message : ByteArray) : String :=
  String.ofList ((digest message).toList.flatMap byteText)

end MigrationStatus.Checksum
