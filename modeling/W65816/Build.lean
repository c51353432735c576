import W65816.Descriptor
import W65816.Listing

set_option autoImplicit false

/-!
# Building the table

The whole build in the order its faults are looked for: the legend, then the listing's rows
in order, then the amendments, then the coverage of the opcodes.
-/

namespace W65816

/-- The table a listing and amendments give under a legend, or the first fault. -/
def buildTable (legend : Except Fault Legend) (lines : List String) (amendments : List Amendment) :
    Except Fault Table := do
  let g ← legend
  let rows ← Listing.parse g lines
  let t ← AmendmentTable.build amendments
  Table.assemble g rows t

end W65816
