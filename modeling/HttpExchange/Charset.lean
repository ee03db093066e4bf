import HttpExchange.Text.Blank
import HttpExchange.Text.Hex
import HttpExchange.Utf8

/-! # Character sets of bodies

    The character sets by their labels, and the strict reading of bytes in
    each of them.  A label is compared without regard to case and to the
    punctuation between its parts.

    Bytes are not read in all character sets.  The labels of the others are
    listed, and a body in one of them has neither a text nor a fault of its
    own. -/

namespace HttpExchange

open Text

/-- The character sets that bodies are read in. -/
inductive Charset where
  | utf8
  /-- UTF-8 after an optional byte order mark. -/
  | utf8Marked
  /-- UTF-16 in the order of its byte order mark, little end first without
      one. -/
  | utf16
  | utf16Little
  | utf16Big
  | latin1
  | ascii
  | latin9
  | windows1252
  deriving DecidableEq, Repr

namespace Charset

/-- Which bytes cannot be read, in which character set and why. -/
structure Misfit where
  charset : String
  /-- The first of them. -/
  first : UInt8
  start : Nat
  length : Nat
  reason : String
  deriving DecidableEq, Repr

/-- Why a body is not read as text. -/
inductive Fault where
  /-- No character set has the label. -/
  | unknown (label : String)
  /-- The label names an encoding that does not lead to text. -/
  | notText (label : String)
  /-- Bytes are not read here in the character set with the label. -/
  | unread (label : String)
  | undecodable (misfit : Misfit)
  deriving DecidableEq, Repr

/-- The wording of a misfit: where, and why. -/
def Misfit.message (m : Misfit) : String :=
  "'" ++ m.charset ++ "' codec can't decode " ++
    (if m.length = 1 then
      "byte 0x" ++ String.ofList (hexDigits 2 m.first.toNat) ++ " in position " ++ toString m.start
    else "bytes in position " ++ toString m.start ++ "-" ++ toString (m.start + m.length - 1)) ++
    ": " ++ m.reason

/-- As much of a text as fits into a number of bytes in UTF-8.  A replacement
    character stands for one that is cut. -/
def clip (room : Nat) : List Char → List Char
  | [] => []
  | c :: cs =>
    let size := (Utf8.encodeChar c).length
    if size ≤ room then c :: clip (room - size) cs
    else if room = 0 then [] else ['\ufffd']

/-- How many bytes of a label are shown that does not lead to text. -/
def shownLabel : Nat := 400

/-- The wording of a fault. -/
def Fault.message : Fault → String
  | .unknown label => "unknown encoding: " ++ label
  | .notText label =>
    "'" ++ String.ofList (clip shownLabel label.toList)
      ++ "' is not a text encoding; use codecs.decode() to handle arbitrary codecs"
  | .unread label => "character set not read here: " ++ label
  | .undecodable misfit => misfit.message

/-! ## Labels -/

/-- May the character stand in the parts of a label? -/
def isLabelChar (c : Char) : Bool := c.isAlphanum || c == '.'

/-- The parts of a label, small and joined with underscores.  Punctuation at
    the ends is dropped. -/
def normalForm (label : List Char) : List Char :=
  let blanked := label.map fun c => if isLabelChar c then c.toLower else ' '
  ['_'].intercalate (words blanked)

/-- How something is labelled, in normal form: by its name or by one of the
    aliases. -/
structure Labels where
  name : String
  aliases : List String

/-- The labels of a character set. -/
def labels : Charset → Labels
  | .utf8 => ⟨"utf_8", ["u8", "utf", "utf8", "utf8_ucs2", "utf8_ucs4", "cp65001"]⟩
  | .utf8Marked => ⟨"utf_8_sig", []⟩
  | .utf16 => ⟨"utf_16", ["u16", "utf16"]⟩
  | .utf16Little => ⟨"utf_16_le", ["unicodelittleunmarked", "utf_16le"]⟩
  | .utf16Big => ⟨"utf_16_be", ["unicodebigunmarked", "utf_16be"]⟩
  | .latin1 => ⟨"latin_1", ["8859", "cp819", "csisolatin1", "ibm819", "iso8859", "iso8859_1",
      "iso_8859_1", "iso_8859_1_1987", "iso_ir_100", "l1", "latin", "latin1"]⟩
  | .ascii => ⟨"ascii", ["646", "ansi_x3.4_1968", "ansi_x3_4_1968", "ansi_x3.4_1986", "cp367",
      "csascii", "ibm367", "iso646_us", "iso_646.irv_1991", "iso_ir_6", "us", "us_ascii"]⟩
  | .latin9 => ⟨"iso8859_15", ["iso_8859_15", "l9", "latin9"]⟩
  | .windows1252 => ⟨"cp1252", ["1252", "windows_1252"]⟩

/-- The labels of encodings that do not lead to text. -/
def notTextLabels : List Labels :=
  [⟨"base64_codec", ["base64", "base_64"]⟩, ⟨"bz2_codec", ["bz2"]⟩, ⟨"hex_codec", ["hex"]⟩,
    ⟨"quopri_codec", ["quopri", "quoted_printable", "quotedprintable"]⟩, ⟨"rot_13", ["rot13"]⟩,
    ⟨"uu_codec", ["uu"]⟩, ⟨"zlib_codec", ["zip", "zlib"]⟩]

/-- The names of the character sets that bytes are not read in. -/
def unreadNames : List String :=
  ["big5", "big5hkscs", "charmap", "cp037", "cp1006", "cp1026", "cp1125", "cp1140", "cp1250",
    "cp1251", "cp1253", "cp1254", "cp1255", "cp1256", "cp1257", "cp1258", "cp273", "cp424",
    "cp437", "cp500", "cp720", "cp737", "cp775", "cp850", "cp852", "cp855", "cp856", "cp857",
    "cp858", "cp860", "cp861", "cp862", "cp863", "cp864", "cp865", "cp866", "cp869", "cp874",
    "cp875", "cp932", "cp949", "cp950", "euc_jis_2004", "euc_jisx0213", "euc_jp", "euc_kr",
    "gb18030", "gb2312", "gbk", "hp_roman8", "hz", "idna", "iso2022_jp", "iso2022_jp_1",
    "iso2022_jp_2", "iso2022_jp_2004", "iso2022_jp_3", "iso2022_jp_ext", "iso2022_kr",
    "iso8859_10", "iso8859_11", "iso8859_13", "iso8859_14", "iso8859_16", "iso8859_2",
    "iso8859_3", "iso8859_4", "iso8859_5", "iso8859_6", "iso8859_7", "iso8859_8", "iso8859_9",
    "johab", "koi8_r", "koi8_t", "koi8_u", "kz1048", "mac_arabic", "mac_croatian", "mac_cyrillic",
    "mac_farsi", "mac_greek", "mac_iceland", "mac_latin2", "mac_roman", "mac_romanian",
    "mac_turkish", "palmos", "ptcp154", "punycode", "raw_unicode_escape", "shift_jis",
    "shift_jis_2004", "shift_jisx0213", "tis_620", "undefined", "unicode_escape", "utf_32",
    "utf_32_be", "utf_32_le", "utf_7"]

/-- The aliases of these. -/
def unreadAliases : List String :=
  ["big5_tw", "csbig5", "x_mac_trad_chinese", "big5_hkscs", "hkscs", "037", "csibm037",
    "ebcdic_cp_ca", "ebcdic_cp_nl", "ebcdic_cp_us", "ebcdic_cp_wt", "ibm037", "ibm039", "1026",
    "csibm1026", "ibm1026", "1125", "cp866u", "ibm1125", "ruscii", "1140", "ibm1140", "1250",
    "windows_1250", "1251", "windows_1251", "1253", "windows_1253", "1254", "windows_1254",
    "1255", "windows_1255", "1256", "windows_1256", "1257", "windows_1257", "1258",
    "windows_1258", "273", "csibm273", "ibm273", "424", "csibm424", "ebcdic_cp_he", "ibm424",
    "437", "cspc8codepage437", "ibm437", "500", "csibm500", "ebcdic_cp_be", "ebcdic_cp_ch",
    "ibm500", "775", "cspc775baltic", "ibm775", "850", "cspc850multilingual", "ibm850", "852",
    "cspcp852", "ibm852", "855", "csibm855", "ibm855", "857", "csibm857", "ibm857", "858",
    "csibm858", "ibm858", "860", "csibm860", "ibm860", "861", "cp_is", "csibm861", "ibm861",
    "862", "cspc862latinhebrew", "ibm862", "863", "csibm863", "ibm863", "864", "csibm864",
    "ibm864", "865", "csibm865", "ibm865", "866", "csibm866", "ibm866", "869", "cp_gr",
    "csibm869", "ibm869", "932", "ms932", "ms_kanji", "mskanji", "949", "ms949", "uhc", "950",
    "ms950", "euc_jis2004", "eucjis2004", "jisx0213", "eucjisx0213", "eucjp", "u_jis", "ujis",
    "euckr", "korean", "ks_c_5601", "ks_c_5601_1987", "ks_x_1001", "ksc5601", "ksx1001",
    "x_mac_korean", "gb18030_2000", "chinese", "csiso58gb231280", "euc_cn", "euccn",
    "eucgb2312_cn", "gb2312_1980", "gb2312_80", "iso_ir_58", "x_mac_simp_chinese", "936", "cp936",
    "ms936", "cp1051", "ibm1051", "r8", "roman8", "hz_gb", "hz_gb_2312", "hzgb", "csiso2022jp",
    "iso2022jp", "iso_2022_jp", "iso2022jp_1", "iso_2022_jp_1", "iso2022jp_2", "iso_2022_jp_2",
    "iso2022jp_2004", "iso_2022_jp_2004", "iso2022jp_3", "iso_2022_jp_3", "iso2022jp_ext",
    "iso_2022_jp_ext", "csiso2022kr", "iso2022kr", "iso_2022_kr", "csisolatin6", "iso_8859_10",
    "iso_8859_10_1992", "iso_ir_157", "l6", "latin6", "iso_8859_11", "iso_8859_11_2001", "thai",
    "iso_8859_13", "l7", "latin7", "iso_8859_14", "iso_8859_14_1998", "iso_celtic", "iso_ir_199",
    "l8", "latin8", "iso_8859_16", "iso_8859_16_2001", "iso_ir_226", "l10", "latin10",
    "csisolatin2", "iso_8859_2", "iso_8859_2_1987", "iso_ir_101", "l2", "latin2", "csisolatin3",
    "iso_8859_3", "iso_8859_3_1988", "iso_ir_109", "l3", "latin3", "csisolatin4", "iso_8859_4",
    "iso_8859_4_1988", "iso_ir_110", "l4", "latin4", "csisolatincyrillic", "cyrillic",
    "iso_8859_5", "iso_8859_5_1988", "iso_ir_144", "arabic", "asmo_708", "csisolatinarabic",
    "ecma_114", "iso_8859_6", "iso_8859_6_1987", "iso_ir_127", "csisolatingreek", "ecma_118",
    "elot_928", "greek", "greek8", "iso_8859_7", "iso_8859_7_1987", "iso_ir_126",
    "csisolatinhebrew", "hebrew", "iso_8859_8", "iso_8859_8_1988", "iso_ir_138", "csisolatin5",
    "iso_8859_9", "iso_8859_9_1989", "iso_ir_148", "l5", "latin5", "cp1361", "ms1361", "cskoi8r",
    "kz_1048", "rk1048", "strk1048_2002", "maccyrillic", "macgreek", "maciceland", "mac_centeuro",
    "maccentraleurope", "maclatin2", "macintosh", "macroman", "macturkish", "cp154", "csptcp154",
    "cyrillic_asian", "pt154", "csshiftjis", "s_jis", "shiftjis", "sjis", "x_mac_japanese",
    "s_jis_2004", "shiftjis2004", "sjis_2004", "s_jisx0213", "shiftjisx0213", "sjisx0213",
    "iso_ir_166", "tis620", "tis_620_0", "tis_620_2529_0", "tis_620_2529_1", "u32", "utf32",
    "utf_32be", "utf_32le", "u7", "unicode_1_1_utf_7", "utf7"]

/-- All character sets that bytes are read in. -/
def all : List Charset :=
  [.utf8, .utf8Marked, .utf16, .utf16Little, .utf16Big, .latin1, .ascii, .latin9, .windows1252]

/-- Is a label, in normal form, among names and aliases?  In an alias a point may
    stand for an underscore. -/
def isAmong (names aliases : List String) (label : String) : Bool :=
  names.contains label || aliases.contains label ||
    aliases.contains (String.ofList (label.toList.map fun c => if c = '.' then '_' else c))

/-- Is a label, in normal form, one of these? -/
def Labels.covers (l : Labels) (label : String) : Bool := isAmong [l.name] l.aliases label

/-- The character set with a label. -/
def ofLabel (label : String) : Except Fault Charset :=
  let name := String.ofList (normalForm label.toList)
  match all.find? fun c => c.labels.covers name with
  | some c => .ok c
  | none =>
    .error (if notTextLabels.any fun l => l.covers name then .notText label
      else if isAmong unreadNames unreadAliases name then .unread label
      else .unknown label)

/-! ## Bytes as text -/

/-- Read bytes one by one with a table that may lack some of them. -/
def decodeBytes (charset reason : String) (table : UInt8 → Option Char) (pos : Nat) :
    List UInt8 → Except Misfit (List Char)
  | [] => .ok []
  | b :: rest =>
    match table b with
    | some c => (c :: ·) <$> decodeBytes charset reason table (pos + 1) rest
    | none => .error ⟨charset, b, pos, 1, reason⟩

/-- The character with the number of the byte. -/
def sameNumber (b : UInt8) : Char := Char.ofNat b.toNat

/-- Bytes below 0x80 are ASCII. -/
def asciiTable (b : UInt8) : Option Char := if b.toNat < 0x80 then some (sameNumber b) else none

/-- The characters in which Latin-9 differs from Latin-1. -/
def latin9Table (b : UInt8) : Option Char :=
  match b.toNat with
  | 0xA4 => some '€'
  | 0xA6 => some 'Š'
  | 0xA8 => some 'š'
  | 0xB4 => some 'Ž'
  | 0xB8 => some 'ž'
  | 0xBC => some 'Œ'
  | 0xBD => some 'œ'
  | 0xBE => some 'Ÿ'
  | _ => some (sameNumber b)

/-- The code points of the bytes 0x80 to 0x9F in windows-1252; zero where it
    has no character. -/
def windowsControls : List Nat :=
  [0x20AC, 0, 0x201A, 0x0192, 0x201E, 0x2026, 0x2020, 0x2021, 0x02C6, 0x2030, 0x0160, 0x2039,
    0x0152, 0, 0x017D, 0, 0, 0x2018, 0x2019, 0x201C, 0x201D, 0x2022, 0x2013, 0x2014, 0x02DC,
    0x2122, 0x0161, 0x203A, 0x0153, 0, 0x017E, 0x0178]

/-- The characters of windows-1252. -/
def windowsTable (b : UInt8) : Option Char :=
  let n := b.toNat
  if 0x80 ≤ n ∧ n < 0xA0 then
    match windowsControls.getD (n - 0x80) 0 with
    | 0 => none
    | code => some (Char.ofNat code)
  else some (sameNumber b)

/-- The number of two bytes in an order. -/
def unit (big : Bool) (a b : UInt8) : Nat :=
  if big then a.toNat * 256 + b.toNat else b.toNat * 256 + a.toNat

/-- Is the number the first half of a surrogate pair? -/
def isHigh (n : Nat) : Bool := 0xD800 ≤ n && n < 0xDC00

/-- Is the number the second half of a surrogate pair? -/
def isLow (n : Nat) : Bool := 0xDC00 ≤ n && n < 0xE000

/-- The name of UTF-16 in an order of bytes. -/
def utf16Name (big : Bool) : String := if big then "utf-16-be" else "utf-16-le"

/-- Read UTF-16 from the byte at position `pos` on. -/
def decodeUnits (big : Bool) (pos : Nat) : List UInt8 → Except Misfit (List Char)
  | [] => .ok []
  | [a] => .error ⟨utf16Name big, a, pos, 1, "truncated data"⟩
  | a :: b :: rest =>
    let n := unit big a b
    if isLow n then .error ⟨utf16Name big, a, pos, 2, "illegal encoding"⟩
    else if isHigh n then
      match rest with
      | c :: d :: rest =>
        let m := unit big c d
        if isLow m then
          (Char.ofNat (0x10000 + (n - 0xD800) * 1024 + (m - 0xDC00)) :: ·) <$>
            decodeUnits big (pos + 4) rest
        else .error ⟨utf16Name big, a, pos, 2, "illegal UTF-16 surrogate"⟩
      | short => .error ⟨utf16Name big, a, pos, 2 + short.length, "unexpected end of data"⟩
    else (Char.ofNat n :: ·) <$> decodeUnits big (pos + 2) rest

/-- Read UTF-8, reporting a fault as a misfit. -/
def decodeUtf8 (bytes : List UInt8) : Except Misfit (List Char) :=
  (Utf8.decode bytes).mapError fun fault =>
    ⟨"utf-8", bytes.getD fault.start 0, fault.start, fault.length, fault.reason.text⟩

/-- Read bytes in a character set. -/
def decode (bytes : List UInt8) : Charset → Except Misfit (List Char)
  | .utf8 => decodeUtf8 bytes
  | .utf8Marked =>
    match bytes with
    | 0xEF :: 0xBB :: 0xBF :: rest => decodeUtf8 rest
    | _ => decodeUtf8 bytes
  | .utf16 =>
    match bytes with
    | 0xFF :: 0xFE :: rest => decodeUnits false 2 rest
    | 0xFE :: 0xFF :: rest => decodeUnits true 2 rest
    | _ => decodeUnits false 0 bytes
  | .utf16Little => decodeUnits false 0 bytes
  | .utf16Big => decodeUnits true 0 bytes
  | .latin1 => .ok (bytes.map sameNumber)
  | .ascii => decodeBytes "ascii" "ordinal not in range(128)" asciiTable 0 bytes
  | .latin9 => decodeBytes "iso8859-15" "character maps to <undefined>" latin9Table 0 bytes
  | .windows1252 =>
    decodeBytes "charmap" "character maps to <undefined>" windowsTable 0 bytes

/-- Read bytes in the character set with a label.  No bytes are no text in
    any of them. -/
def read (label : String) (bytes : List UInt8) : Except Fault String :=
  if bytes.isEmpty then .ok ""
  else match ofLabel label with
    | .error fault => .error fault
    | .ok charset => match charset.decode bytes with
      | .ok cs => .ok (String.ofList cs)
      | .error misfit => .error (.undecodable misfit)

end Charset

end HttpExchange
