import Gutter.Text.CharName.AncientLetters
import Gutter.Text.CharName.EasternLetters
import Gutter.Text.CharName.Glyphs
import Gutter.Text.CharName.Letters
import Gutter.Text.CharName.Notation
import Gutter.Text.CharName.Pictures
import Gutter.Text.CharName.Signs
import Gutter.Text.Hex
import Gutter.Text.Numeral

/-! Character names: the character that a name stands for. Names are written without regard to case;
only those that a rule spells out, of ideographs and Hangul syllables, have to be in capitals. -/

namespace Gutter.Text

/-! ### Control characters

Names of characters that have no name of their own, short names of others, and names that correct a
mistaken one. -/

/-- Control characters by each of their names, the short names of marks that are not seen, and
corrected names. -/
def controlNames : List (Nat × String) :=
  [(0x00, "NULL"), (0x00, "NUL"), (0x01, "START OF HEADING"), (0x01, "SOH"),
   (0x02, "START OF TEXT"), (0x02, "STX"), (0x03, "END OF TEXT"), (0x03, "ETX"),
   (0x04, "END OF TRANSMISSION"), (0x04, "EOT"), (0x05, "ENQUIRY"), (0x05, "ENQ"),
   (0x06, "ACKNOWLEDGE"), (0x06, "ACK"), (0x07, "ALERT"), (0x07, "BEL"), (0x08, "BACKSPACE"),
   (0x08, "BS"), (0x09, "CHARACTER TABULATION"), (0x09, "HORIZONTAL TABULATION"), (0x09, "HT"),
   (0x09, "TAB"), (0x0a, "LINE FEED"), (0x0a, "NEW LINE"), (0x0a, "END OF LINE"), (0x0a, "EOL"),
   (0x0a, "LF"), (0x0a, "NL"), (0x0b, "LINE TABULATION"), (0x0b, "VERTICAL TABULATION"),
   (0x0b, "VT"), (0x0c, "FORM FEED"), (0x0c, "FF"), (0x0d, "CARRIAGE RETURN"), (0x0d, "CR"),
   (0x0e, "SHIFT OUT"), (0x0e, "LOCKING-SHIFT ONE"), (0x0e, "SO"), (0x0f, "SHIFT IN"),
   (0x0f, "LOCKING-SHIFT ZERO"), (0x0f, "SI"), (0x10, "DATA LINK ESCAPE"), (0x10, "DLE"),
   (0x11, "DEVICE CONTROL ONE"), (0x11, "DC1"), (0x12, "DEVICE CONTROL TWO"), (0x12, "DC2"),
   (0x13, "DEVICE CONTROL THREE"), (0x13, "DC3"), (0x14, "DEVICE CONTROL FOUR"), (0x14, "DC4"),
   (0x15, "NEGATIVE ACKNOWLEDGE"), (0x15, "NAK"), (0x16, "SYNCHRONOUS IDLE"), (0x16, "SYN"),
   (0x17, "END OF TRANSMISSION BLOCK"), (0x17, "ETB"), (0x18, "CANCEL"), (0x18, "CAN"),
   (0x19, "END OF MEDIUM"), (0x19, "EOM"), (0x1a, "SUBSTITUTE"), (0x1a, "SUB"), (0x1b, "ESCAPE"),
   (0x1b, "ESC"), (0x1c, "INFORMATION SEPARATOR FOUR"), (0x1c, "FILE SEPARATOR"), (0x1c, "FS"),
   (0x1d, "INFORMATION SEPARATOR THREE"), (0x1d, "GROUP SEPARATOR"), (0x1d, "GS"),
   (0x1e, "INFORMATION SEPARATOR TWO"), (0x1e, "RECORD SEPARATOR"), (0x1e, "RS"),
   (0x1f, "INFORMATION SEPARATOR ONE"), (0x1f, "UNIT SEPARATOR"), (0x1f, "US"), (0x20, "SP"),
   (0x7f, "DELETE"), (0x7f, "DEL"), (0x80, "PADDING CHARACTER"), (0x80, "PAD"),
   (0x81, "HIGH OCTET PRESET"), (0x81, "HOP"), (0x82, "BREAK PERMITTED HERE"), (0x82, "BPH"),
   (0x83, "NO BREAK HERE"), (0x83, "NBH"), (0x84, "INDEX"), (0x84, "IND"), (0x85, "NEXT LINE"),
   (0x85, "NEL"), (0x86, "START OF SELECTED AREA"), (0x86, "SSA"), (0x87, "END OF SELECTED AREA"),
   (0x87, "ESA"), (0x88, "CHARACTER TABULATION SET"), (0x88, "HORIZONTAL TABULATION SET"),
   (0x88, "HTS"), (0x89, "CHARACTER TABULATION WITH JUSTIFICATION"),
   (0x89, "HORIZONTAL TABULATION WITH JUSTIFICATION"), (0x89, "HTJ"), (0x8a, "LINE TABULATION SET"),
   (0x8a, "VERTICAL TABULATION SET"), (0x8a, "VTS"), (0x8b, "PARTIAL LINE FORWARD"),
   (0x8b, "PARTIAL LINE DOWN"), (0x8b, "PLD"), (0x8c, "PARTIAL LINE BACKWARD"),
   (0x8c, "PARTIAL LINE UP"), (0x8c, "PLU"), (0x8d, "REVERSE LINE FEED"), (0x8d, "REVERSE INDEX"),
   (0x8d, "RI"), (0x8e, "SINGLE SHIFT TWO"), (0x8e, "SINGLE-SHIFT-2"), (0x8e, "SS2"),
   (0x8f, "SINGLE SHIFT THREE"), (0x8f, "SINGLE-SHIFT-3"), (0x8f, "SS3"),
   (0x90, "DEVICE CONTROL STRING"), (0x90, "DCS"), (0x91, "PRIVATE USE ONE"),
   (0x91, "PRIVATE USE-1"), (0x91, "PU1"), (0x92, "PRIVATE USE TWO"), (0x92, "PRIVATE USE-2"),
   (0x92, "PU2"), (0x93, "SET TRANSMIT STATE"), (0x93, "STS"), (0x94, "CANCEL CHARACTER"),
   (0x94, "CCH"), (0x95, "MESSAGE WAITING"), (0x95, "MW"), (0x96, "START OF GUARDED AREA"),
   (0x96, "START OF PROTECTED AREA"), (0x96, "SPA"), (0x97, "END OF GUARDED AREA"),
   (0x97, "END OF PROTECTED AREA"), (0x97, "EPA"), (0x98, "START OF STRING"), (0x98, "SOS"),
   (0x99, "SINGLE GRAPHIC CHARACTER INTRODUCER"), (0x99, "SGC"),
   (0x9a, "SINGLE CHARACTER INTRODUCER"), (0x9a, "SCI"), (0x9b, "CONTROL SEQUENCE INTRODUCER"),
   (0x9b, "CSI"), (0x9c, "STRING TERMINATOR"), (0x9c, "ST"), (0x9d, "OPERATING SYSTEM COMMAND"),
   (0x9d, "OSC"), (0x9e, "PRIVACY MESSAGE"), (0x9e, "PM"), (0x9f, "APPLICATION PROGRAM COMMAND"),
   (0x9f, "APC"), (0xa0, "NBSP"), (0xad, "SHY"), (0x1a2, "LATIN CAPITAL LETTER GHA"),
   (0x1a3, "LATIN SMALL LETTER GHA"), (0x34f, "CGJ"), (0x61c, "ALM"),
   (0x709, "SYRIAC SUBLINEAR COLON SKEWED LEFT"), (0xcde, "KANNADA LETTER LLLA"),
   (0xe9d, "LAO LETTER FO FON"), (0xe9f, "LAO LETTER FO FAY"), (0xea3, "LAO LETTER RO"),
   (0xea5, "LAO LETTER LO"), (0xfd0, "TIBETAN MARK BKA- SHOG GI MGO RGYAN"),
   (0x11ec, "HANGUL JONGSEONG YESIEUNG-KIYEOK"), (0x11ed, "HANGUL JONGSEONG YESIEUNG-SSANGKIYEOK"),
   (0x11ee, "HANGUL JONGSEONG SSANGYESIEUNG"), (0x11ef, "HANGUL JONGSEONG YESIEUNG-KHIEUKH"),
   (0x180b, "FVS1"), (0x180c, "FVS2"), (0x180d, "FVS3"), (0x180e, "MVS"), (0x180f, "FVS4"),
   (0x200b, "ZWSP"), (0x200c, "ZWNJ"), (0x200d, "ZWJ"), (0x200e, "LRM"), (0x200f, "RLM"),
   (0x202a, "LRE"), (0x202b, "RLE"), (0x202c, "PDF"), (0x202d, "LRO"), (0x202e, "RLO"),
   (0x202f, "NNBSP"), (0x205f, "MMSP"), (0x2060, "WJ"), (0x2066, "LRI"), (0x2067, "RLI"),
   (0x2068, "FSI"), (0x2069, "PDI"), (0x2118, "WEIERSTRASS ELLIPTIC FUNCTION"),
   (0x2448, "MICR ON US SYMBOL"), (0x2449, "MICR DASH SYMBOL"),
   (0x2b7a, "LEFTWARDS TRIANGLE-HEADED ARROW WITH DOUBLE VERTICAL STROKE"),
   (0x2b7c, "RIGHTWARDS TRIANGLE-HEADED ARROW WITH DOUBLE VERTICAL STROKE"),
   (0xa015, "YI SYLLABLE ITERATION MARK"), (0xaa6e, "MYANMAR LETTER KHAMTI LLA"),
   (0xfe18, "PRESENTATION FORM FOR VERTICAL RIGHT WHITE LENTICULAR BRACKET"),
   (0xfeff, "BYTE ORDER MARK"), (0xfeff, "BOM"), (0xfeff, "ZWNBSP"),
   (0x122d4, "CUNEIFORM SIGN NU11 TENU"), (0x122d5, "CUNEIFORM SIGN NU11 OVER NU11 BUR OVER BUR"),
   (0x16e56, "MEDEFAIDRIN CAPITAL LETTER H"), (0x16e57, "MEDEFAIDRIN CAPITAL LETTER NG"),
   (0x16e76, "MEDEFAIDRIN SMALL LETTER H"), (0x16e77, "MEDEFAIDRIN SMALL LETTER NG"),
   (0x1b001, "HENTAIGANA LETTER E-1"),
   (0x1d0c5, "BYZANTINE MUSICAL SYMBOL FTHORA SKLIRON CHROMA VASIS")]

/-! ### All characters -/

/-- How many words two names have in common from the first one on. -/
def commonWords : List (List Char) → List (List Char) → Nat
  | v :: vs, w :: ws => if v = w then commonWords vs ws + 1 else 0
  | _, _ => 0

/-- How many words an entry takes over from the name before it, and the words that follow them. A
digit at its start says how many it takes over. -/
def entryParts : List Char → Nat × List Char
  | c :: rest => if isAsciiDigit c then (decimalNumber [c], rest) else (0, c :: rest)
  | [] => (0, [])

/-- The code point whose name these words are, among entries counted from `code`; the name before
them has `common` words in common with it. -/
def codeInEntries? (words : List (List Char)) : Nat → Nat → List (List Char) → Option Nat
  | _, _, [] => none
  | common, code, entry :: rest =>
    let (kept, text) := entryParts entry
    if common < kept then codeInEntries? words common (code + 1) rest
    else
      let own := splitOn ' ' text
      if own = words.drop kept then some code
      else
        codeInEntries? words (kept + commonWords own (words.drop kept)) (code + 1) rest

/-- The entries that lines hold, divided by semicolons. -/
def entriesOf (lines : List String) : List (List Char) :=
  lines.flatMap fun line => (splitOn ';' line.toList).filter fun entry => !entry.isEmpty

def codeInRuns? (words : List (List Char)) (runs : List (Nat × List String)) : Option Nat :=
  runs.findSome? fun (first, lines) => codeInEntries? words 0 first (entriesOf lines)

/-- Characters whose names end in their code point: the start of the names, and where they are. -/
def numberedNames : List (String × List (Nat × Nat)) :=
  [("CJK COMPATIBILITY IDEOGRAPH-", [(0xf900, 0xfa6d), (0xfa70, 0xfad9), (0x2f800, 0x2fa1d)]),
   ("KHITAN SMALL SCRIPT CHARACTER-", [(0x18b00, 0x18cd5)]),
   ("NUSHU CHARACTER-", [(0x1b170, 0x1b2fb)])]

/-- The code point that a name ends in: four digits, or five of which the first is not zero. -/
def numberedCode? (capital : List Char) : Option Nat :=
  numberedNames.findSome? fun (start, ranges) => do
    let digits ← dropStart? start.toList capital
    let code := hexValue digits
    let proper := digits.all isHexDigit && digits.length = if code < 0x10000 then 4 else 5
    if proper && ranges.any fun (first, last) => first ≤ code && code ≤ last then some code
    else none

/-- The selector of a number from 1 to 256; the first sixteen stand by themselves. -/
def selectorCode? (capital : List Char) : Option Nat := do
  let digits ← (dropStart? "VARIATION SELECTOR-".toList capital).or (dropStart? "VS".toList capital)
  let n := decimalNumber digits
  if digits.all isAsciiDigit && digits.head? ≠ some '0' && 1 ≤ n && n ≤ 256 then
    some (if n ≤ 16 then 0xfdff + n else 0xe00ef + n)
  else none

/-- The ideographs that have their code point for a name. -/
def unifiedIdeographs : List (Nat × Nat) :=
  [(0x3400, 0x4dbf), (0x4e00, 0x9fff), (0x20000, 0x2a6df), (0x2a700, 0x2b738), (0x2b740, 0x2b81d),
   (0x2b820, 0x2cea1), (0x2ceb0, 0x2ebe0), (0x30000, 0x3134a)]

/-- An ideograph is named by the four or five digits of its code point. -/
def ideographCode? (name : List Char) : Option Nat := do
  let digits ← dropStart? "CJK UNIFIED IDEOGRAPH-".toList name
  if !(digits.length = 4 ∨ digits.length = 5) then none
  if !digits.all (fun c => isHexDigit c && !('a' ≤ c && c ≤ 'f')) then none
  let code := hexValue digits
  if unifiedIdeographs.any fun (first, last) => first ≤ code && code ≤ last then some code else none

def leadingJamo : List String :=
  ["G", "GG", "N", "D", "DD", "R", "M", "B", "BB", "S", "SS", "", "J", "JJ", "C", "K", "T", "P",
   "H"]

def vowelJamo : List String :=
  ["A", "AE", "YA", "YAE", "EO", "E", "YEO", "YE", "O", "WA", "WAE", "OE", "YO", "U", "WEO", "WE",
   "WI", "YU", "EU", "YI", "I"]

def trailingJamo : List String :=
  ["", "G", "GG", "GS", "N", "NJ", "NH", "D", "L", "LG", "LM", "LB", "LS", "LT", "LP", "LH", "M",
   "B", "BS", "S", "SS", "NG", "J", "C", "K", "T", "P", "H"]

/-- The longest part that `text` starts with: its place, and what follows. -/
def longestPart? (parts : List String) (text : List Char) : Option (Nat × List Char) :=
  let found := parts.zipIdx.filterMap fun (part, place) =>
    (dropStart? part.toList text).map fun rest => (place, rest)
  found.foldl (fun best next =>
    match best with
    | some (_, rest) => if next.2.length < rest.length then some next else best
    | none => some next) none

/-- A Hangul syllable is named by its parts: the first consonant, the vowel and the
last consonant. -/
def syllableCode? (name : List Char) : Option Nat := do
  let parts ← dropStart? "HANGUL SYLLABLE ".toList name
  let (leading, parts) ← longestPart? leadingJamo parts
  let (vowel, parts) ← longestPart? vowelJamo parts
  let (trailing, parts) ← longestPart? trailingJamo parts
  if parts.isEmpty then some (0xac00 + (leading * 21 + vowel) * 28 + trailing) else none

/-- The code point of the character that a name stands for. -/
def namedCode? (name : List Char) : Option Nat :=
  let capital := name.map Char.toUpper
  let words := splitOn ' ' capital
  let runs := [letterNames, signNames, easternLetterNames, ancientLetterNames, glyphNames,
    notationNames, pictureNames]
  if name.isEmpty then none
  else
    (ideographCode? name).orElse fun _ =>
    (syllableCode? name).orElse fun _ =>
    (numberedCode? capital).orElse fun _ =>
    (selectorCode? capital).orElse fun _ =>
    (runs.findSome? (codeInRuns? words)).orElse fun _ =>
    (controlNames.find? fun (_, other) => other.toList = capital).map (·.1)

end Gutter.Text
