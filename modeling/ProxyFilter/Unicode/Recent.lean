import ProxyFilter.Unicode.Property

/-!
# Characters of Unicode 17.0

Names, quoted texts and domains know the characters that Unicode 17.0 added. `recentRuns` lists
their categories, with that of the one older letter whose category changed, and `ofRecentCategories`
is the set of the code points of some categories in that version.
-/

namespace ProxyFilter.Unicode

/-- The categories that are not those of Unicode 16.0, as runs from U+0000 on, with a hyphen for
code points whose category is the same. -/
def recentTable : String :=
    "-661Lo1-1529Lo1-972Lo1-127Lo1-3570Mn15-2Mn12-1493Sc1-2772So1-31799Lu1Ll1-2Lu1-1Lu1-28Lm1-21457
    So16-445So2-54So7-2929Lo26-1387Lm1Lo2-8Po1So8-33Mn2-3172Mn1Mc1Mn3Mc1Mn1Mc1-584Lo41Lm1Lo2-4Nd10
    -20662Lu25-2Ll25-286Lm2Nl3-6145Lo8-1289Lo22-97Lo115-16135So3-445So23-15So16Sm1-6095Lo31-1Lo3
    Mn1Lo2Mn1Lo7Mn2Lo5Mn1-8Lo1Lm1-4056So1-158So4-341Sm9-379So4-50So1-3So1-57So1-4So1-28So1-4So1
    -266So1-47935Lo6-5986Lo12-21762Lo4298-904070"

/-- The runs of the table. -/
def recentRuns : List (String × Nat × Nat) := CodeSet.runs recentTable

/-- The code points whose category is not that of Unicode 16.0. -/
def recent : CodeSet := (CodeSet.ofLabels recentRuns ["-"]).negateBelow 0x10FFFF

/-- The code points of some categories in Unicode 17.0. -/
def ofRecentCategories (names : List String) : CodeSet :=
  ((ofCategories names).difference recent).union (CodeSet.ofLabels recentRuns names)

/-- The marks of all kinds. -/
def recentMarks : CodeSet := ofRecentCategories ["Mn", "Mc", "Me"]

/-- The code points with the property `Alphabetic` in Unicode 17.0. -/
def recentAlphabetic : CodeSet :=
  CodeSet.unions
    [ofRecentCategories ["Lu", "Ll", "Lt", "Lm", "Lo", "Nl"], otherAlphabetic,
     CodeSet.ofRanges
       [(0x10EFA, 0x10EFB), (0x11B60, 0x11B67), (0x1E6E3, 0x1E6E3), (0x1E6E6, 0x1E6E6),
        (0x1E6EE, 0x1E6EF), (0x1E6F5, 0x1E6F5)]]

/-- The letters and numbers of all scripts. -/
def recentAlphanumeric : CodeSet :=
  recentAlphabetic.union (ofRecentCategories ["Nd", "Nl", "No"])

/-- The code points with the property `Grapheme_Extend` in Unicode 17.0. -/
def recentGraphemeExtend : CodeSet := (ofRecentCategories ["Mn", "Me"]).union otherGraphemeExtend

/-- The characters that show: all but controls, unassigned and private ones, and blanks other than
the space. -/
def printable : CodeSet :=
  ((ofRecentCategories ["Cc", "Cf", "Cs", "Co", "Cn", "Zl", "Zp", "Zs"]).negate).union
    (CodeSet.single 32)

end ProxyFilter.Unicode
