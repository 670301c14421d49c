import TypedRows.Cell
import TypedRows.Number.ByteOrder
/-!
# Storage of boxed scalars

A boxed scalar keeps the bytes that it had in its array, the least significant byte first. Texts take four
bytes for each character.
-/

namespace TypedRows

/-- The bytes that a boxed scalar is stored in. -/
def Boxed.storage : Boxed → Bytes
  | .bool value => [if value then 1 else 0]
  | .int _ width i => littleEndian (width / 8) (unsignedOf (width / 8) i)
  | .float .half x => littleEndian 2 (x.round .half).toBits
  | .float .single x => littleEndian 4 (x.round .single).toBits
  | .float .double x => littleEndian 8 x.toBits
  | .text s => s.toList.flatMap fun c => littleEndian 4 c.toNat
  | .bytes data => data
  | .instant _ count => littleEndian 8 (unsignedOf 8 (count.getD noInstantCount))

end TypedRows
