import ProxyFilter.Unicode.CodeMap

/-!
# Directions of characters

Characters are written from left to right or from right to left; digits, marks and other characters
go with those around them. `Direction.ofCode` tells the direction of every character that the name
of a domain may have, as of Unicode 17.0.
-/

namespace ProxyFilter.Unicode

/-- The direction of a character. -/
inductive Direction
  /-- From left to right. -/
  | left
  /-- From right to left. -/
  | right
  /-- A digit that most scripts use. -/
  | digit
  /-- A digit of a script that is written from right to left. -/
  | rightDigit
  /-- A mark, which goes with the character before it. -/
  | mark
  /-- Any other character. -/
  | neutral
  deriving DecidableEq, Repr

/-- The directions as runs from U+0000 on, with a letter for each: `L` and `R` for the two
directions, `E` and `A` for the two kinds of digits, `M` for marks and `N` for others. -/
def directionTable : String :=
    "N48E10N39L26N100L24N1L449N2L7N14L2N28L1N17M113L4N2L127N2L139M8L255N7M45R1M1R1M2R1M2R1M9R54N2R1
    N2R1N1R1N2M11R48M21A10N1A2R3M1R101M8N1M6R2M2N1M4R2E10R23M1R30M29R89M11R58M9R2N4R3M1R24M4R1M9R1
    M3R1M7R41M5R57M9R42M57L55M1L1M1L4M8L4M1L3M15L2M2L29M1L58M1L4M6L6M1L20M4L12N2L7N1L2M5L57M2L3M27
    L20M2L3M1L11M2L57M1L4M8L4M3L18M4L11N8L1M8L58M1L2M1L1M6L6M10L11M4L28M1L61M1L12M3L35N13M1L3M1L55
    M1L1M3L5M18L10M4L18N7L2M1L58M1L15M9L13M4L26M2L57M2L4M5L7M1L20M4L27M1L72M5L3M6L89M1L2M11N1L7M8
    L98M1L2M9L11M8L72M2L27M1L1M1L1M1N4L51M14L1M5L1M2L5M49L8M1L102M4L1M6L1M2L2M2L25M2L4M3L16M4L13M1
    L2M2L6M1L15M1L703M3L48N16L96N1L666N5L114M3L29M2L30M14L18M14L55M7L8M1L2M11L7N1L1M3L16N32L117M2
    L34M1L118M3L4M2L9M1L6M7N6L152N34L23M2L2M3L56M1L1M9L1M1L2M8L6M13L48M84L48M1L1M5L1M1L5M1L40M9L12
    M2L32M4L2M2L1M3L56M1L1M2L3M1L1M3L58M8L2M5L149M3L1M13L1M7L4M1L6M1L3M2L198M65L523N196M52N74L60
    N428L69N26L1N790L1N339L256N816L181N7L3M4L6N7L127M1L96M32N517L3N25L9M4L2N1L6N4L2N4L88M4L3N1L90
    N1L196N48L7120N64L22160N64L317N3L95M4N1M10N3L29M2L80M2L14N35L101N1L121M1L3M1L4M1L25M2L1N4M4L8
    N8L52N12L68M10L18M18L13M1L38M8L25M11L46M3L48M1L2M4L2M2L39M1L67M6L2M2L2M11L3M1L8M1L47M1L51M1L1
    M3L2M2L5M2L1M1L42M2L8M11L105N86L37M1L2M1L4M3L20270M148R17N605M37N46R397L257N1L62N77L3N64L45
    M131L96M1E31L118M10L1152R287N1R225M15R40M8R165M6R78N7R484M12A26R31M5N1R241A32R43M2R35N42M6R70
    M11R49M4R122L1M1L54M15L11N20L10M1L2M2L10M3L49M4L2M2L7M14L48M3L36M5L1M9L61M1L12M2L52M9L10M4L2M1
    L95M3L2M1L1M2L6M1L2M63L95M1L3M13L16M2L57M2L3M1L37M26L59M7L12M1L1M1L1M1L14M31L56M8L2M3L1M1L23M1
    L84M6L1M1L4M2L1M2L238M6L4M2L1M2L27M36L51M8L2M1L1M2L31N32L43M1L1M1L2M6L1M1L101M3L2M4L1M9L255M9
    L1M2L256M2L1M1L4M1L144M8L4M1L32M6L2M2L40M6L2M4L8M9L1M6L2M3L46M13L1M2L198M1L1M3L1M1L201M14L84
    M23L1M7L1M2L1M75L49M21L1M9L64M3L2M1L1M1L347M2L11M2L52M8L2M1L1M1L23M86L37N42L5185M1L6M25L11454
    M12L3M3L2496M5L59M7L1048M1L63M4L79N1L1M12L19629M2L3937N768M80L535M3L17M8L2M7L30M4L59N89M3N123
    L64N96L1696M55L4M50L8M1L14M1L22M1125L256M256L48M7L375M18L44M4L15N465L28M4L254M2L243M1L2M1L7M2
    L5M9L258R208M82R34M7R1445N608L29N3L61N57L122N3488L983040"

/-- The runs of the table. -/
def directions : RunTable := RunTable.ofText directionTable

/-- The direction of a character. -/
def Direction.ofCode (n : Nat) : Direction :=
  ([("L", left), ("R", right), ("E", digit), ("A", rightDigit), ("M", mark)].lookup
    (directions.label n)).getD neutral

end ProxyFilter.Unicode
