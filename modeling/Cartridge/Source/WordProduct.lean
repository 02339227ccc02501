/-!
# Products in machine words

Some numbers of a source are products that are taken in words of a fixed width.  A product that its
word cannot hold stops the generation of sources.
-/

namespace Cartridge.Source

/-- A type of machine words, by the least number that it holds and the least number above all that
it holds. -/
structure WordType where
  least : Int
  bound : Int

namespace WordType

/-- Words of 32 bits with a sign. -/
def int32 : WordType := ⟨-2147483648, 2147483648⟩

/-- Words of 32 bits without a sign. -/
def uint32 : WordType := ⟨0, 4294967296⟩

/-- Words of 64 bits without a sign. -/
def uint64 : WordType := ⟨0, 18446744073709551616⟩

end WordType

/-- A product that is taken in a machine word. -/
structure WordProduct where
  type : WordType
  left : Int
  right : Int

namespace WordProduct

/-- The product of the numbers themselves. -/
def exact (product : WordProduct) : Int :=
  product.left * product.right

/-- The word can hold the product. -/
def fits (product : WordProduct) : Bool :=
  product.type.least ≤ product.exact && product.exact < product.type.bound

/-- The product, unless it overflows its word. -/
def value? (product : WordProduct) : Option Int :=
  if product.fits then some product.exact else none

/-- The number that a source holds; a source with a product that overflows is never written. -/
def number (product : WordProduct) : Int :=
  product.value?.getD 0

end WordProduct

end Cartridge.Source
