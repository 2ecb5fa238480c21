import ProxyFilter.Unicode.CodeMap
import ProxyFilter.Unicode.Recent

/-!
# Letters that join

In some scripts letters join those beside them. `joinsNext` and `joinsFormer` tell the letters that
join the one behind or before them, as of Unicode 17.0; `isTransparent` are the marks on which
joining does not depend. The table is right for every character that the name of a domain may have
and that is no such mark.
-/

namespace ProxyFilter.Unicode

/-- The letters that join, as runs from U+0000 on: `D` for those that join on both sides, `L` and
`R` for those that join only the letter behind or before them, and a hyphen for others. -/
def joiningTable : String :=
    "-1568D1-1R4D1R1D1R1D5R4D13-1D7R1D23-14D3R3-5D15R18D38R1D2R9D1R1D1R1D2R2-1R9-16R2-10D3-2D1-16R2
    D3R5D4R1D9R1D1R1D1R1D2R31D11R3D15R2D4R1D1R2D3R2D6-74D42-76R1D5R2D1R1D10R1D1R8-2D1-1D4-1R1D1R26
    -3D1-2D5R1D27R3-1R1D2R2D6R1D15-3902D1-24D96-7D41-36752D50L1-25165D5R1-1R1-1R2-2L1R5D4L1D5R1D3
    R1-2R7D4R1-144D1R1D1R3D3R1D2R1D1R2D1R8-16R4D2-337L1D33R1D13-402R1D2-1D10-96D3R1D17-12D3R1-27D4
    R2D16-42D1-1D2R3-1D1R2D2R1D2-1D1R2D1-4R1D1L21-55618D46-988848"

/-- The runs of the table. -/
def joining : RunTable := RunTable.ofText joiningTable

/-- The marks on which joining does not depend. -/
def transparent : CodeSet :=
  (ofRecentCategories ["Mn", "Me"]).union (CodeSet.single 0x1E94B)

/-- Joining does not depend on this mark. -/
def isTransparent (n : Nat) : Bool := transparent.contains n

/-- The letter joins the one behind it. -/
def joinsNext (n : Nat) : Bool := ["D", "L"].contains (joining.label n)

/-- The letter joins the one before it. -/
def joinsFormer (n : Nat) : Bool := ["D", "R"].contains (joining.label n)

end ProxyFilter.Unicode
