import Profiling.Unicode.Compose

/-!
# Direction and joining

How characters are laid out: their direction, and how letters of joined scripts
connect to their neighbours.
-/

namespace Profiling.Unicode

def directionTable : String :=
  String.join
    ["9BN1S1B1S1WS1B14BN3B1S1WS2ON3ET5ON1ES1CS1ES2CS10EN1CS6ON26L6ON26L4ON6BN1B26BN1CS1ON4ET4ON1L2",
     "ON1BN2ON2ET2EN1ON1L3ON1EN1L5ON23L1ON31L1ON449L2ON7L14ON2L14ON5L9ON1L17ON112NSM4L2ON8L1ON5L2O",
     "N1L1ON110L1ON140L7NSM256L1ON2L2ON1ET1R45NSM1R1NSM1R2NSM1R2NSM1R1NSM56R6AN2ON1AL2ET1AL1CS1AL2",
     "ON11NSM48AL21NSM10AN1ET2AN3AL1NSM101AL7NSM1AN1ON6NSM2AL2NSM1ON4NSM2AL10EN23AL1NSM30AL27NSM91",
     "AL11NSM15AL43R9NSM2R4ON3R1NSM24R4NSM1R9NSM1R3NSM1R5NSM43R3NSM4R48AL2AN6AL8NSM42AL24NSM1AN32N",
     "SM55L1NSM1L1NSM4L8NSM4L1NSM3L7NSM10L2NSM29L1NSM58L1NSM4L4NSM8L1NSM20L2NSM14L2ET7L1ET2L1NSM2L",
     "2NSM57L1NSM4L2NSM4L2NSM2L3NSM3L1NSM30L2NSM3L1NSM11L2NSM57L1NSM4L5NSM1L2NSM4L1NSM20L2NSM13L1E",
     "T8L6NSM1L1NSM58L1NSM2L1NSM1L4NSM8L1NSM7L2NSM11L2NSM30L1NSM61L1NSM12L1NSM37L6ON1ET1ON5L1NSM3L",
     "1NSM55L1NSM1L3NSM5L3NSM1L4NSM7L2NSM11L2NSM20L7ON2L1NSM58L1NSM15L2NSM20L2NSM28L2NSM57L2NSM4L4",
     "NSM8L1NSM20L2NSM29L1NSM72L1NSM7L3NSM1L1NSM90L1NSM2L7NSM4L1ET7L8NSM98L1NSM2L9NSM11L7NSM73L2NS",
     "M27L1NSM1L1NSM1L1NSM4ON51L14NSM1L5NSM1L2NSM5L11NSM1L36NSM9L1NSM102L4NSM1L6NSM1L2NSM2L2NSM25L",
     "2NSM4L3NSM16L4NSM13L1NSM2L2NSM6L1NSM15L1NSM703L3NSM48L10ON102L1ON639L1WS26L2ON117L3NSM29L2NS",
     "M30L2NSM30L2NSM64L2NSM1L7NSM8L1NSM2L11NSM7L1ET1L1NSM18L10ON6L11ON3NSM1BN1NSM117L2NSM34L1NSM1",
     "18L3NSM4L2NSM9L1NSM6L3NSM4L1ON3L2ON152L34ON23L2NSM2L1NSM58L1NSM1L7NSM1L1NSM1L1NSM2L8NSM6L10N",
     "SM2L1NSM48L31NSM49L4NSM48L1NSM1L5NSM1L1NSM5L1NSM40L9NSM12L2NSM32L4NSM2L2NSM1L3NSM56L1NSM1L2N",
     "SM3L1NSM1L3NSM58L8NSM2L2NSM152L3NSM1L13NSM1L7NSM4L1NSM6L1NSM3L2NSM198L64NSM445L1ON1L3ON11L3O",
     "N13L3ON13L3ON13L2ON1L11WS3BN1L1R24ON1WS1B1LRE1RLE1PDF1LRO1RLO1CS5ET15ON1CS26ON1WS6BN1LRI1RLI",
     "1FSI1PDI6BN1EN3L6EN2ES3ON1L10EN2ES3ON17L48ET33NSM15L2ON1L4ON1L2ON10L1ON1L3ON5L6ON1L1ON1L1ON1",
     "L1ON4L1ET11L2ON4L5ON5L4ON2L16ON41L3ON4L130ON1ES1ET290ON69L26ON1L145ON25L11ON21L40ON20EN78L45",
     "0ON1L339ON256L628ON2L32ON1L105ON229L6ON4L3NSM7L7ON127L1NSM96L32NSM94ON34L26ON1L89ON12L214ON2",
     "6L12ON4L1WS4ON3L25ON9L4NSM2L1ON5L2ON5L3ON89L2NSM2ON3L1ON90L1ON196L36ON57L2ON49L16ON28L3ON50L",
     "15ON12L4ON167L4ON99L2ON31L1ON6592L64ON22160L55ON326L3ON95L4NSM1ON10NSM2ON30L2NSM80L2NSM14L34",
     "ON102L1ON121L1NSM3L1NSM4L1NSM25L2NSM1L4ON1NSM11L2ET58L4ON76L2NSM26L18NSM13L1NSM38L8NSM25L11N",
     "SM46L3NSM48L1NSM2L4NSM2L2NSM39L1NSM67L6NSM2L2NSM2L2NSM12L1NSM8L1NSM47L1NSM51L1NSM1L3NSM2L2NS",
     "M5L2NSM1L1NSM42L2NSM8L1NSM115L2ON121L1NSM2L1NSM4L1NSM20271L1R1NSM10R1ES38R494AL18ON127AL1ON3",
     "2BN13AL3ON16NSM10ON6L16NSM32ON1CS1ON1CS1L1ON1CS9ON1ET2ON2ES3ON1L1ON2ET1ON4L143AL1BN1L2ON3ET5",
     "ON1ES1CS1ES2CS10EN1CS6ON26L6ON26L11ON122L2ET3ON2ET1L7ON1L9BN5ON2BN257L1ON62L77ON3L13ON3L1ON9",
     "2L1NSM226L1NSM27EN122L5NSM1157L287R1ON225R3NSM1R2NSM5R4NSM40R3NSM4R1NSM165R2NSM82R7ON448R36A",
     "L4NSM8AL10AN6AL288R31AN44R2NSM19R61AL3NSM48R22AL11NSM31AL18R4NSM122R1L1NSM54L15NSM11L20ON10L",
     "1NSM2L2NSM10L3NSM49L4NSM2L2NSM7L1NSM61L3NSM36L5NSM1L8NSM62L1NSM12L2NSM52L9NSM10L4NSM2L1NSM95",
     "L3NSM2L1NSM1L2NSM6L1NSM2L1NSM157L1NSM3L8NSM21L2NSM57L2NSM3L1NSM37L7NSM3L5NSM195L8NSM2L3NSM1L",
     "1NSM23L1NSM84L6NSM1L1NSM4L2NSM1L2NSM238L4NSM6L2NSM1L2NSM27L2NSM85L8NSM2L1NSM1L2NSM31L13ON62L",
     "1NSM1L1NSM2L6NSM1L1NSM101L3NSM2L4NSM1L5NSM259L9NSM1L2NSM256L2NSM1L1NSM4L1NSM144L4NSM2L2NSM4L",
     "1NSM32L6NSM2L2NSM40L6NSM2L4NSM8L1NSM9L6NSM2L3NSM46L13NSM1L2NSM406L7NSM1L6NSM84L22NSM2L7NSM1L",
     "2NSM1L2NSM122L6NSM3L1NSM1L2NSM1L7NSM1L1NSM72L2NSM3L1NSM1L1NSM347L2NSM11L2NSM52L5NSM5L1NSM1L1",
     "NSM146L8ON4ET17ON5198L1NSM6L15NSM13978L5NSM59L7NSM1048L1NSM63L4NSM79L1ON1L1NSM19640L2NSM1L4B",
     "N4700L46NSM2L23NSM544L3NSM9L8BN8NSM2L7NSM30L4NSM59L2ON21L66ON3NSM1ON186L87ON900L1ON57L1ON57L",
     "1ON57L1ON57L1ON10L50EN512L55NSM4L50NSM8L1NSM14L1NSM22L5NSM1L15NSM1360L7NSM1L17NSM2L7NSM1L2NS",
     "M1L5NSM100L1NSM160L7NSM375L1NSM61L4NSM15L1ET492L4NSM784L208R7NSM109R7NSM805R80AL64R80AL176R2",
     "40AL2ON14AL256R44ON4L100ON12L15ON2L15ON1L15ON1L37ON10L11EN5ON31L1ON58L6ON61L1ON178L6ON154L98",
     "4ON4L17ON3L13ON3L119ON4L95ON6L12ON4L1ON15L12ON4L56ON8L10ON6L40ON8L30ON2L2ON78L340ON12L14ON2L",
     "13ON3L9ON7L46ON1L7ON8L14ON4L9ON7L9ON7L147ON1L55ON37L10EN1028L2BN65534L2BN65534L2BN65534L2BN6",
     "5534L2BN65534L2BN65534L2BN65534L2BN65534L2BN65534L2BN65534L2BN65534L2BN65534L258BN240NSM3600",
     "BN61438L2BN65534L2BN65534L2BN0L"]

def directionRuns : List (Nat × String) := readRuns 0 [] directionTable.toList

def direction (c : Char) : String := (valueAt c.toNat directionRuns).getD "L"

def joiningTable : String :=
  String.join
    ["173U1T594U112T275U7T263U45T1U1T1U2T1U2T1U1T72U11T1U1T3U1D1U4R1D1R1D1R5D4R13D1C7D1R2D21T14U2D",
     "1T3R1U3R16D18R38D1R2D9R1D1R1D1R2D2R1U1R7T2U6T2U2T1U4T2R10U3D2U1D15U1T1R1T3D5R4D1R9D1R1D1R1D1",
     "R2D1R27T2U1R11D3R15D2R4D1R1D2R3D2R6D38U11T25U33D9T6U1C2U1T24U4T1U9T1U3T1U5T18U1R5D2R1D1R10D1",
     "R1D3R3T4U1D1U4D1U1R1D2R5U19R3C1D2U5D1R1D7U9T10D3R1U1R2D2R6D1R15D1U24T1U32T55U1T1U1T4U8T4U1T3",
     "U7T10U2T29U1T58U1T4U4T8U1T20U2T26U1T2U2T57U1T4U2T4U2T2U3T3U1T30U2T3U1T11U2T57U1T4U5T1U2T4U1T",
     "20U2T22U6T1U1T58U1T2U1T1U4T8U1T7U2T11U2T30U1T61U1T12U1T50U1T3U1T55U1T1U3T5U3T1U4T7U2T11U2T29",
     "U1T58U1T2U1T6U1T5U2T20U2T28U2T57U2T4U4T8U1T20U2T29U1T72U1T7U3T1U1T90U1T2U7T12U8T98U1T2U9T11U",
     "7T73U2T27U1T1U1T1U1T55U14T1U5T1U2T5U11T1U36T9U1T102U4T1U6T1U2T2U2T25U2T4U3T16U4T13U1T2U2T6U1",
     "T15U1T703U3T946U3T29U2T30U2T30U2T64U2T1U7T8U1T2U11T9U1T41U1D2U1C3T1U1T16U89D12U2T34D1T1D117U",
     "3T4U2T9U1T6U3T219U2T2U1T58U1T1U7T1U1T1U1T2U8T6U10T2U1T48U46T2U12T20U4T48U1T1U5T1U1T5U1T40U9T",
     "12U2T32U4T2U2T1U3T56U1T1U2T3U1T1U3T58U8T2U2T152U3T1U13T1U7T4U1T6U1T3U2T198U64T523U1T1U1C2T26",
     "U5T49U5T5U6T96U33T3070U3T141U1T96U32T554U4T107U2T30164U4T1U10T32U2T80U2T272U1T3U1T4U1T25U2T5",
     "U1T19U50D1L81U2T26U18T13U1T38U8T25U11T46U3T48U1T2U4T2U2T39U1T67U6T2U2T2U2T12U1T8U1T47U1T51U1",
     "T1U3T2U2T5U2T1U1T42U2T8U1T238U1T2U1T4U1T20272U1T737U16T16U16T207U1T249U3T513U1T226U1T149U5T1",
     "670U3T1U2T5U4T40U3T4U1T128U5D1R1U1R1U2R2U1L5R4D1L5D1R3D1R2U1R2T4U4D1R144U1D1R1D3R3D1R2D1R1D2",
     "R1D1R23U4R2D337U1L33D1R1D4T65U5T317U2T21U1R2D1U2D50U6T48U3D1R17D1U11T3D1R27U4D2R12D4T42U1D1U",
     "2D3R1U1D2R2D1R2D1U1D2R1D4U1R1D1L53U1T54U15T41U1T2U2T10U3T49U4T2U2T7U1T61U3T36U5T1U8T62U1T12U",
     "2T52U9T10U4T2U1T95U3T2U1T1U2T6U1T2U1T157U1T3U8T21U2T57U2T3U1T37U7T3U5T70U6T13U1T1U1T1U1T14U2",
     "T85U8T2U3T1U1T23U1T84U6T1U1T4U2T1U2T238U4T6U2T1U2T27U2T85U8T2U1T1U2T106U1T1U1T2U6T1U1T101U1T",
     "1U1T2U4T1U5T259U9T1U2T256U2T1U1T4U1T144U4T2U2T4U1T32U10T40U6T2U4T8U1T9U6T2U3T46U13T1U2T198U1",
     "T1U3T1U1T201U7T1U6T1U1T82U22T2U7T1U2T1U2T122U6T3U1T1U2T1U7T1U1T72U2T3U1T1U1T347U2T11U2T52U5T",
     "5U1T1U1T23U1T5333U17T6U15T11464U12T3U3T2496U5T59U7T1048U1T63U4T81U1T19640U2T1U4T4700U46T2U23",
     "T544U3T9U16T2U7T30U4T148U3T1979U55T4U50T8U1T14U1T22U5T1U15T1360U7T1U17T2U7T1U2T1U5T100U1T160",
     "U7T375U1T61U4T508U4T254U2T243U1T2U1T7U2T5U1T474U7T41U68D8T792245U1T30U96T128U240T196112U"]

def joiningRuns : List (Nat × String) := readRuns 0 [] joiningTable.toList

def joining (c : Char) : String := (valueAt c.toNat joiningRuns).getD "U"

/-- Marks of this rank silence the vowel of the letter before them. -/
def isVirama (c : Char) : Bool := markRank c == 9

/-- Whether an invisible joiner may stand between the characters before it, last
first, and those after it. A virama before it allows both joiners; the joiner that
parts letters may also stand between letters that would join. -/
def joinerAllowed (joiner : Char) (before after : List Char) : Bool :=
  let skip (cs : List Char) : Option String :=
    (cs.map joining).find? (· ≠ "T")
  match before with
  | [] => false
  | c :: _ =>
    isVirama c || (joiner == '\u200c'
      && (skip before).any (["L", "D"].contains ·) && (skip after).any (["R", "D"].contains ·))

/-- Whether all joiners of a text may stand where they are. -/
def joinersAllowed : List Char → List Char → Bool
  | _, [] => true
  | before, c :: cs =>
    (if c = '\u200c' || c = '\u200d' then joinerAllowed c before cs else true)
      && joinersAllowed (c :: before) cs

/-- Whether a text has characters that are written from right to left. -/
def hasRightToLeft (cs : List Char) : Bool := cs.any fun c => ["R", "AL", "AN"].contains (direction c)

/-- Whether a label can stand in a host name that has right-to-left characters. -/
def isOneDirection (label : List Char) : Bool :=
  let classes := label.map direction
  let last := classes.reverse.find? (· ≠ "NSM")
  match classes with
  | [] => true
  | first :: _ =>
    if first = "R" ∨ first = "AL" then
      classes.all (["R", "AL", "AN", "EN", "ES", "CS", "ET", "ON", "BN", "NSM"].contains ·)
        && last.any (["R", "AL", "EN", "AN"].contains ·)
        && !(classes.contains "EN" && classes.contains "AN")
    else if first = "L" then
      classes.all (["L", "EN", "ES", "CS", "ET", "ON", "BN", "NSM"].contains ·)
        && last.any (["L", "EN"].contains ·)
    else false

end Profiling.Unicode
