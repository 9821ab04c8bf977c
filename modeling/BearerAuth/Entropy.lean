import BearerAuth.Text.Hex

/-! # Random values

Token and user ids are random UUIDs, and password salts are random bytes. Both are made from draws
of sixteen bytes; where the draws come from is left to the outer program.
-/

namespace BearerAuth.Entropy

/-- Sixteen drawn bytes marked as a random UUID: four version and two variant bits are fixed. -/
def markUuid (bytes : List UInt8) : List UInt8 :=
  bytes.mapIdx fun i b =>
    if i = 6 then (b &&& 0x0F) ||| 0x40 else if i = 8 then (b &&& 0x3F) ||| 0x80 else b

/-- The text of sixteen bytes in groups of 4, 2, 2, 2 and 6. -/
def uuidText (bytes : List UInt8) : String :=
  let group (start length : Nat) : List Char := Text.hex ((bytes.drop start).take length)
  String.ofList
    (group 0 4 ++ '-' :: group 4 2 ++ '-' :: group 6 2 ++ '-' :: group 8 2 ++ '-' :: group 10 6)

/-- The random UUID of a draw. -/
def uuid (draw : List UInt8) : String := uuidText (markUuid draw)

end BearerAuth.Entropy
