import LineScript.Text.Blank
import LineScript.Text.Digit
import LineScript.Text.Name.Aliases
import LineScript.Text.Name.Alphabets
import LineScript.Text.Name.Forms
import LineScript.Text.Name.Historic
import LineScript.Text.Name.Pictographs
import LineScript.Text.Name.Scripts
import LineScript.Text.Name.Signs
import LineScript.Text.Name.Syllabaries
import LineScript.Text.Name.Symbols
import LineScript.Text.Word
import Std.Data.HashMap

/-!
# Names of characters

The character that a name stands for. Most names are listed in tables. The name of a Hangul syllable
spells its parts, and the name of an ideograph ends with its code point, so these are computed. The
names of syllables and of unified ideographs are written in upper case; all others in any case.
-/

namespace LineScript.Text.Name

/-! ## Listed names -/

/-- Words that the tables write as one or two letters: the first 26 as `a` to `z`, the next as `aa`,
`ab` and so on. -/
def commonWords : List String :=
  ["ABOVE AND ARROW BELOW BLACK CAPITAL DOUBLE FINAL FORM HORIZONTAL INITIAL ISOLATED LEFT",
   "LEFTWARDS LETTER RIGHT RIGHTWARDS SIGN SMALL STROKE SYMBOL THREE TRIANGLE-HEADED VERTICAL",
   "WHITE WITH ABBREVIATION ABKHASIAN ACCENT ACKNOWLEDGE ACUTE AIN AIRPLANE ALEF ALEPH ALMOST",
   "ALPAPRAANA ALPHA ALTERNATE ALTERNATING AMPERSAND ANGLE ANTICLOCKWISE ANTIMONY ANUDATTA",
   "ANUSVARA APOSTROPHE APPROXIMATE APPROXIMATELY ARABIC ARABIC-INDIC ARCHAIC ARCHAION ARMENIAN",
   "ARROW-TAIL ARROWHEAD ARROWHEADS ARROWS ASH ASTERISK ATTACHED AVAGRAHA BACKHAND BACKSLASH",
   "BALLOON-SPOKED BALLOT BAMBOOS BAR BARB BARLINE BARRED BENT BESIDE BETA BETH BETWEEN BHA",
   "BIRGA BISHOP BLACK-LETTER BLOCK BOLD BOTTOM BOX BRACKET BREVE BUBBLE BUILDING BULLET",
   "C-SIMPLIFIED CANCELLATION CANDRA CANDRABINDU CARET CARON CARRIER CEDILLA CEILING",
   "CENTRALIZATION CENTRE CENTRED CHA CHARACTER CHARACTERS CHE CHECK CHESS CHI CHIEUCH CIEUC",
   "CIRCLE CIRCLED CIRCLES CIRCULAR CIRCUMFLEX CLICK CLOCKWISE CLOSED CLUBS COLON COMBINING",
   "COMMA COMMERCIAL COMPRESSED CONJOINED CONSONANT CONTACT CONTAINING CONTAINS CONTROL COPTIC",
   "CORNER CORNERS CRESCENT CRESCENTS CROSS CROSSED CROSSED-TAIL CROSSING CRYPTOGRAMMIC CURL",
   "CURLY CURRENCY CURVE CURVED CYRILLIC DAGESH DALETH DAMMA DAMMATAN DANDA DASH DASHED DASIA",
   "DDA DDHA DEGREES DELTA DESCENDER DHA DIAERESIS DIAGONAL DIALECT-P DIALYTIKA DIAMOND DIAMONDS",
   "DIFFERENTIAL DIGAMMA DIGIT DIGRAPH DISH DIVIDER DIVISION DODEKATA DOLLAR DOT DOTLESS DOTS",
   "DOTTED DOUBLE-LINE DOUBLE-STRUCK DOWN DOWN-POINTING DOWNWARDS DRAGON EARTH EAST",
   "EGYPTOLOGICAL EIGHT EIGHTEEN EIGHTH EIGHTHS EIGHTY EKFONITIKON ELEMENT ELEVEN ELLIPSIS END",
   "ENVELOPE EPSILON EQUAL EQUALS EQUIHOPPER EQUILATERAL EQUIVALENT EXCLAMATION EXTENDED",
   "EXTENSION EXTRA-HIGH EXTREMELY EYEGAZE-WALLPLANE EYES FACE FALLING FATHA FATHATAN FIFTEEN",
   "FIFTY FILL FILLER FINGER FINGER-POST FINGERS FIRST FISHHOOK FIVE FLAG FLOOR FLOURISH FOLDER",
   "FOR FORTY FORWARD FOUR FOURTEEN FRACTION FROM FULL GAMMA GAN2 GAR GEMINATION GEORGIAN GESH2",
   "GHA GHAIN GIMEL GISH GLOTTAL GRAVE GREATER-THAN GREEK GROMOPOVODNAYA GUNU HAH HALF HAMZA",
   "HAND HAND-ANGLE HAND-CIRCLE HAND-CUP HAND-CURLICUE HAND-FIST HAND-HINGE HAND-HOOK HAND-OVAL",
   "HANDS HANGUL HARPOON HEAD HEART HEARTS HEAVY HEH HETH HIGH HINGED HIRAGANA HITTING HOLDING",
   "HOOK HORN HORSE HUNDRED HYPHEN HYPHEN-MINUS ICHOS IDEOGRAM IDEOGRAPHIC IEUNG IGI IMAGE",
   "INDEPENDENT INDEX INDICATOR INFINITY INFORMATION INSIDE INSULAR INTEGRAL INTERROBANG",
   "INTERSECTION INVERSE INVERTED IOTA IOTATED IOTIFIED ITALIC ITERATION IZHITSA J-SIMPLIFIED",
   "JAPANESE JEEM JHA JIHVAMULIYA JOINER KAF KAPH KAPPA KAPYEOUNMIEUM KAPYEOUNPHIEUPH",
   "KAPYEOUNPIEUP KAREN KASKAL KASRA KASRATAN KATAKANA KATAKANA-HIRAGANA KENTIMATA KEYBOARD KHA",
   "KHAH KHIEUKH KHOKHLOM KING KIYEOK KLYUCHEVAYA KNIGHT KOET KOMI KRYZHEM LAGAB LAM LAMDA",
   "LAMEDH LARGE LARGEST LATIN LEAF LEFT-FACING LEFT-POINTING LEFT-STEM LEFT-TO-RIGHT LENGTH",
   "LENGTHENER LENTICULAR LESS-THAN LIGATURE LIGHT LINE LITTLE LLA LOGICAL LOGOGRAM LONG LONSUM",
   "LOOP LOW LOWER LOZENGE LUNATE MACRON MADDA MAHAAPRAANA MAHAPRANA MAKSURA MARK MARKER",
   "MATHEMATICAL MEASURE MEASURED MEDIAL MEDIUM MEEM MIDDLE MIDDLE-WELSH MILLIONS MINUS MODIFIER",
   "MONOGRAM MOON MOUNTAIN MOUTH MOVEMENT MOVEMENT-FLOORPLANE MOVEMENT-WALLPLANE MULTIPLE",
   "MULTIPLICATION MURDA MUSICAL NASKAPI NEGATIVE NEO NEPOSTOYANNAYA NEUTRAL NGA NIEUN-CIEUC",
   "NIEUN-HIEUH NIKOLSBURG NINE NINETEEN NINETY NNA NOON NORMAL NORTH NOT NOTATION NOTCHED NOTE",
   "NOTEHEAD NUBIAN NUKTA NUMBER NUMERAL NUN NYA OBLIQUE OCLOCK OGONEK OLD OMEGA OMICRON",
   "ONCOMING ONE ONE-HUNDRED-AND-SIXTIETH OPEN OPERATOR OPPOSING ORIGINAL ORKHON ORNAMENT",
   "OUTLINED OVER OVERBAR OVERLAY OVERLINE OXIA PAIRED PALATAL PARAGRAPH PARALLEL PARENTHESIS",
   "PARENTHESIZED PARTIAL PAWN PENTAGON PERISPOMENI PERPENDICULAR PERSON PHA PHI PHIEUPH",
   "PIEUP-SIOS PIEUP-SIOS-TIKEUT PINWHEEL PLASTICS PLUS POINT POINTED POINTING POVYSHE POWERS",
   "PRECEDES PRESENTATION PRIME PRISHTHAMATRA PRODUCT PROSGEGRAMMENI PSILI PUNCTUATION QAF QUAD",
   "QUADRANT QUADRUPLE QUARTER QUARTERS QUEEN QUESTION QUOTATION RAISED RECTANGLE REH RESH REST",
   "RETROFLEX REVERSE REVERSED RHO RIEUL-HIEUH RIEUL-KIYEOK RIEUL-MIEUM RIEUL-PHIEUPH",
   "RIEUL-PIEUP RIEUL-SIOS RIEUL-THIEUTH RIGHT-FACING RIGHT-POINTING RIGHT-SHADOWED",
   "RIGHT-TO-LEFT RING RISING ROOK ROTATED ROTATION-FLOORPLANE ROTATION-WALLPLANE ROUND ROUNDED",
   "RTAGS SAD SADHE SALTIRE SAMEKH SANS-SERIF SAYISI SCHWA SCISSORS SCRIPT SECANT SECOND SECTION",
   "SEEN SEMICIRCLE SEMICOLON SEMIDIRECT SEPARATOR SEQUENTIAL SEVEN SEVENTEEN SEVENTY SHA SHAD",
   "SHADE SHADOWED SHAFT SHAR2 SHE SHEEN SHELL SHESHIG SHIN SHORT SIDDHAM SIDE SIDEWAYS SIGMA",
   "SILHOUETTE SIMALUNGUN SIMILAR SIMPLIFIED SINGLE SINGLE-LINE SIX SIXTEEN SIXTEENTH SIXTEENTHS",
   "SIXTY SLANTED SLASH SMILING SOFT SOLIDUS SOUND SOUTH SPACE SPADES SPEECH SPOKED SPREAD",
   "SQUARE SQUARED SSA SSANGCIEUC SSANGKIYEOK SSANGPIEUP SSANGTIKEUT STAR START STATERS STOP",
   "STRAIGHT SUBGROUP SUBJOINED SUBLIMATE SUBSCRIPT SUBSET SUBSTITUTION SUBUNIT SUCCEEDS",
   "SUPERSCRIPT SUPERSET SVARITA SVETLAYA SYLLABLE TABULATION TACK TAH TAIL TAK4 TALENTS",
   "TEARDROP-SPOKED TEDUNG TELEPHONE TEN TENU THA THE THEH THESPIAN THETA THIEUTH THIRD THIRDS",
   "THIRTEEN THIRTY THIRTY-SECOND THOUSAND THOUSANDS THROUGH THUMB TIKEUT TILDE TIMES TONE",
   "TONGUE TONOS TOP TORTOISE TRANSMISSION TRANSPOSITION TRESVETLAYA TRIANGLE TRIANGULAR TRIPLE",
   "TSA TSHA TSHEG TTA TTHA TUAREG TURNED TURNSTILE TWELFTHS TWELVE TWENTY TWENTY-FIVE TWO",
   "TWO-HEADED U-SHAPED UMBRELLA UNDER UNDERBAR UNION UP-POINTING UPADHMANIYA UPPER UPSILON",
   "UPWARDS VARIA VARIANT VARIATION VERTICALLY VERY VIRAMA VISARGA VOCALIC VOICED VOLAPUK VOWEL",
   "WATER WAVE WAW WEST WEST-CREE WITHIN WORD WRINKLED WRIST Y-CREE YANG YEH YENISEI YODH",
   "YPOGEGRAMMENI YUS ZAIN ZAPYATAYA ZAPYATOY ZAYIN ZERO ZETA ZIGZAG"]

def commonWordList : Array String :=
  (commonWords.flatMap (·.splitOn " ")).toArray

/-- The word that a text of the tables stands for. -/
def wordOf (text : String) : String :=
  if text.toList.all Char.isLower then
    let number := text.toList.foldl (fun n c => 26 * n + (c.toNat - 'a'.toNat + 1)) 0
    commonWordList.getD (number - 1) text
  else text

/-- A word with the next number at its end, written with no fewer digits. -/
def nextNumbered (word : String) : String :=
  let digits := (word.toList.reverse.takeWhile Char.isDigit).reverse
  let next := (toString ((number? 10 digits).getD 0 + 1)).toList
  let zeros := List.replicate (digits.length - next.length) '0'
  String.ofList (word.toList.take (word.length - digits.length) ++ zeros ++ next)

/-- Where a reader of the tables stands: the code point of the next name, how many words the last name
took over, its words, and the names so far. -/
structure Reading where
  code : Nat
  common : Nat
  words : List String
  names : Std.HashMap String Nat

def Reading.add (r : Reading) (words : List String) : Reading :=
  { r with code := r.code + 1, words, names := r.names.insert (" ".intercalate words) r.code }

/-- Add names that differ from the last one in the number at their end. -/
def Reading.series (r : Reading) (count : Nat) : Reading :=
  count.repeat (fun r => r.add (r.words.modify (r.words.length - 1) nextNumbered)) r

/-- Read one entry of a table. A code point and a colon stand before a name that does not follow the
last one. Then a digit says how many words the name takes over from the last one; without a digit
these are as many as there. The other words follow. A star and a count behind them stand for the next
names of a series. -/
def Reading.entry (r : Reading) (entry : String) : Reading :=
  let (code, text) := match entry.splitOn ":" with
    | [number, text] => ((number? 16 number.toList).getD 0, text)
    | _ => (r.code, entry)
  let (text, count) := match text.splitOn "*" with
    | [text, count] => (text, (number? 10 count.toList).getD 0)
    | _ => (text, 0)
  let (common, text) := match text.toList with
    | [] => (r.common, text)
    | mark :: rest => if mark.isDigit then (mark.toNat - '0'.toNat, String.ofList rest) else (r.common, text)
  let further := if text.isEmpty then [] else text.splitOn " "
  let words := r.words.take common ++ further.map wordOf
  (Reading.add { r with code, common } words).series count

def Reading.rows (r : Reading) (rows : List String) : Reading :=
  rows.foldl (fun r row => (row.splitOn ",").foldl Reading.entry r) r

/-- The code points of all listed names. -/
def listed : Std.HashMap String Nat :=
  let tables := [alphabets, scripts, symbols, syllabaries, forms, historic, signs, pictographs, aliases]
  (tables.foldl Reading.rows ⟨0, 0, [], ∅⟩).names

/-! ## Computed names -/

/-- Beginnings of names that a code point completes with its number, and the ranges of these code
points. -/
def numberedRanges : List (String × List (Nat × Nat)) :=
  [("CJK COMPATIBILITY IDEOGRAPH-", [(0xF900, 0xFA6D), (0xFA70, 0xFAD9), (0x2F800, 0x2FA1D)]),
   ("KHITAN SMALL SCRIPT CHARACTER-", [(0x18B00, 0x18CD5)]),
   ("NUSHU CHARACTER-", [(0x1B170, 0x1B2FB)])]

/-- The code point whose name ends with its number of four or five digits. -/
def numbered? (name : List Char) : Option Nat :=
  numberedRanges.findSome? fun (start, ranges) => do
    let digits ← after? start.toList name
    let n ← number? 16 digits
    if inRanges ranges n && digits.length == (if n < 0x10000 then 4 else 5) then some n else none

/-- The ranges of the unified ideographs. -/
def unifiedRanges : List (Nat × Nat) :=
  [(0x3400, 0x4DBF), (0x4E00, 0x9FFF), (0x20000, 0x2A6DF), (0x2A700, 0x2B738), (0x2B740, 0x2B81D),
   (0x2B820, 0x2CEA1), (0x2CEB0, 0x2EBE0), (0x30000, 0x3134A)]

/-- The unified ideograph with a number of four or five digits, of which the first may be zeros. -/
def unified? (digits : List Char) : Option Nat := do
  let n ← number? 16 digits
  if (digits.length == 4 || digits.length == 5) && !digits.any Char.isLower && inRanges unifiedRanges n then
    some n
  else none

/-- The initial consonants of Hangul syllables. -/
def initials : List String :=
  ["G", "GG", "N", "D", "DD", "R", "M", "B", "BB", "S", "SS", "", "J", "JJ", "C", "K", "T", "P", "H"]

def vowels : List String :=
  ["A", "AE", "YA", "YAE", "EO", "E", "YEO", "YE", "O", "WA", "WAE", "OE", "YO", "U", "WEO", "WE",
   "WI", "YU", "EU", "YI", "I"]

/-- The final consonants of Hangul syllables. -/
def finals : List String :=
  ["", "G", "GG", "GS", "N", "NJ", "NH", "D", "L", "LG", "LM", "LB", "LS", "LT", "LP", "LH", "M", "B",
   "BS", "S", "SS", "NG", "J", "C", "K", "T", "P", "H"]

/-- The place of the longest part that a text begins with, and what follows it. -/
def longestPart? (parts : List String) (cs : List Char) : Option (Nat × List Char) :=
  let found := parts.zipIdx.filterMap fun (part, i) => (after? part.toList cs).map (i, ·)
  found.foldl (fun best next =>
    match best with
    | some (_, rest) => if next.2.length < rest.length then some next else best
    | none => some next) none

/-- The Hangul syllable whose parts a text spells. -/
def syllable? (cs : List Char) : Option Nat := do
  let (initial, cs) ← longestPart? initials cs
  let (vowel, cs) ← longestPart? vowels cs
  let (final, cs) ← longestPart? finals cs
  if cs.isEmpty then some (0xAC00 + (initial * vowels.length + vowel) * finals.length + final) else none

/-! ## All names -/

/-- The code point of the character with a name. -/
def code? (name : List Char) : Option Nat :=
  match after? "HANGUL SYLLABLE ".toList name with
  | some parts => syllable? parts
  | none =>
    match after? "CJK UNIFIED IDEOGRAPH-".toList name with
    | some digits => unified? digits
    | none =>
      let name := name.map Char.toUpper
      match numbered? name with
      | some n => some n
      | none => listed.get? (String.ofList name)

end LineScript.Text.Name
