/-
This file lists the character sets that a text may be in, finds them by their names, and reads
bytes in them. Bytes that are no characters are replaced; a text as a whole cannot be read where
its set is none, wants a mark that is missing, or puts up with no faults.
-/

import ClientModel.Text.Charset.Designated
import ClientModel.Text.Charset.Page
import ClientModel.Text.Charset.Punycode
import ClientModel.Text.Charset.Shifted
import ClientModel.Text.Utf8

namespace ClientModel.Text

/-! ### Faults -/

/-- Why bytes cannot be read in a character set. -/
inductive CharsetFault where
  /-- No mark tells the order of the bytes of a unit of so many bits. -/
  | unmarked (bits : Nat)
  /-- A byte that has to be ASCII is not. -/
  | beyondAscii (byte : UInt8) (position : Nat)
  /-- What is named turns bytes into bytes. -/
  | bytes
  /-- What is named turns texts into texts. -/
  | letters
  /-- The set has no characters. -/
  | undefinedSet
  /-- The set puts up with no faults. -/
  | strict
  /-- Too many bytes wait for the end of an escape sequence. -/
  | waiting
  /-- The name holds a null character. -/
  | nullCharacter
  /-- Parts of the name are numbered, others are not; `numbered` tells it of the later one. -/
  | numbering (numbered : Bool)
  deriving DecidableEq, Repr

/-- The text of a fault. -/
def CharsetFault.message : CharsetFault → String
  | .unmarked bits => s!"UTF-{bits} stream does not start with BOM"
  | .beyondAscii byte position =>
    let digits := String.ofList (hexDigits 2 byte.toNat)
    s!"'ascii' codec can't decode byte 0x{digits} in position {position}: ordinal not in range(128)"
  | .bytes => "the character set is none"
  | .letters => "descriptor 'translate' for 'str' objects doesn't apply to a 'bytes' object"
  | .undefinedSet => "undefined encoding"
  | .strict => "Unsupported error handling replace"
  | .waiting => "pending buffer overflow"
  | .nullCharacter => "embedded null character"
  | .numbering numbered =>
    let (later, earlier) := if numbered then ("int", "NoneType") else ("NoneType", "int")
    s!"'<' not supported between instances of '{later}' and '{earlier}'"

/-! ### Character sets -/

/-- A set in which a character is one byte or two, or in a few cases more. -/
inductive Pairs where
  | japaneseShifted
  | japaneseShiftedExtended
  | japaneseMarked
  | japaneseShiftedWide (revised : Bool)
  | japaneseMarkedWide (revised : Bool)
  | korean
  | koreanUnified
  | koreanNumbered
  | simplifiedChinese
  | simplifiedChineseExtended
  | simplifiedChineseWhole
  | simplifiedChineseNarrow
  | traditionalChinese
  | traditionalChineseExtended
  | traditionalChineseHongKong
  deriving DecidableEq, Repr

/-- What comes of bytes. -/
def Pairs.read (bytes : List UInt8) : Pairs → Reading
  | .japaneseShifted => Japanese.shifted.read bytes
  | .japaneseShiftedExtended => Japanese.shiftedExtended.read bytes
  | .japaneseMarked => Japanese.readMarked bytes
  | .japaneseShiftedWide revised => (Japanese.shiftedWide revised).read bytes
  | .japaneseMarkedWide revised => Japanese.readMarkedWide revised bytes
  | .korean => Korean.read bytes
  | .koreanUnified => Korean.unified.read bytes
  | .koreanNumbered => Korean.readNumbered bytes
  | .simplifiedChinese => Chinese.simplified.read bytes
  | .simplifiedChineseExtended => Chinese.extended.read bytes
  | .simplifiedChineseWhole => Chinese.readWhole bytes
  | .simplifiedChineseNarrow => Chinese.readNarrow bytes
  | .traditionalChinese => Chinese.traditional.read bytes
  | .traditionalChineseExtended => Chinese.traditionalExtended.read bytes
  | .traditionalChineseHongKong => Chinese.hongKong.read bytes

/-- A character set. -/
inductive Charset where
  | utf8
  /-- UTF-8, perhaps with a mark in front. -/
  | utf8Marked
  | utf7
  /-- UTF-16; without an order, a mark in front has to tell it. -/
  | utf16 (order : Option ByteOrder)
  /-- UTF-32; without an order, a mark in front has to tell it. -/
  | utf32 (order : Option ByteOrder)
  /-- A set in which each byte is one character. -/
  | page (page : Page)
  /-- The first 256 characters, the others described after a backslash. -/
  | escaped
  /-- The same, with descriptions by codes only. -/
  | escapedRaw
  | punycode
  /-- A set in which a character is one byte or two. -/
  | paired (set : Pairs)
  /-- A set of seven bits in which escape sequences designate others. -/
  | designated (set : Escapes)
  /-- What is known by a name and can read nothing. -/
  | unreadable (cause : CharsetFault)
  deriving DecidableEq, Repr

namespace Charset

/-! ### Names -/

/-- The sets that are no pages, each with its name and its other names. -/
def others : List (List String × Charset) := [
  (["utf_8", "u8", "utf", "utf8", "utf8_ucs2", "utf8_ucs4", "cp65001"], .utf8),
  (["utf_8_sig"], .utf8Marked),
  (["utf_7", "u7", "utf7", "unicode_1_1_utf_7"], .utf7),
  (["utf_16", "u16", "utf16"], .utf16 none),
  (["utf_16_be", "unicodebigunmarked", "utf_16be"], .utf16 (some .big)),
  (["utf_16_le", "unicodelittleunmarked", "utf_16le"], .utf16 (some .little)),
  (["utf_32", "u32", "utf32"], .utf32 none),
  (["utf_32_be", "utf_32be"], .utf32 (some .big)),
  (["utf_32_le", "utf_32le"], .utf32 (some .little)),
  (["unicode_escape"], .escaped),
  (["raw_unicode_escape"], .escapedRaw),
  (["punycode"], .punycode),
  (["base64_codec", "base64", "base_64"], .unreadable .bytes),
  (["bz2_codec", "bz2"], .unreadable .bytes),
  (["hex_codec", "hex"], .unreadable .bytes),
  (["quopri_codec", "quopri", "quoted_printable", "quotedprintable"], .unreadable .bytes),
  (["uu_codec", "uu"], .unreadable .bytes),
  (["zlib_codec", "zip", "zlib"], .unreadable .bytes),
  (["rot_13", "rot13"], .unreadable .letters),
  (["idna"], .unreadable .strict),
  (["undefined"], .unreadable .undefinedSet)]

/-- The sets of pairs, each with its name and its other names. -/
def pairs : List (List String × Charset) := [
  (["shift_jis", "csshiftjis", "s_jis", "shiftjis", "sjis", "x_mac_japanese"],
    .paired .japaneseShifted),
  (["cp932", "932", "ms932", "ms_kanji", "mskanji"], .paired .japaneseShiftedExtended),
  (["euc_jp", "eucjp", "u_jis", "ujis"], .paired .japaneseMarked),
  (["shift_jisx0213", "s_jisx0213", "shiftjisx0213", "sjisx0213"],
    .paired (.japaneseShiftedWide false)),
  (["shift_jis_2004", "s_jis_2004", "shiftjis2004", "sjis_2004"],
    .paired (.japaneseShiftedWide true)),
  (["euc_jisx0213", "eucjisx0213"], .paired (.japaneseMarkedWide false)),
  (["euc_jis_2004", "euc_jis2004", "eucjis2004", "jisx0213"], .paired (.japaneseMarkedWide true)),
  (["iso2022_jp_3", "iso2022jp_3", "iso_2022_jp_3"], .designated (.japaneseWide false)),
  (["iso2022_jp_2004", "iso2022jp_2004", "iso_2022_jp_2004"], .designated (.japaneseWide true)),
  (["iso2022_jp", "csiso2022jp", "iso2022jp", "iso_2022_jp"], .designated .japanese),
  (["iso2022_jp_1", "iso2022jp_1", "iso_2022_jp_1"], .designated .japaneseRare),
  (["iso2022_jp_2", "iso2022jp_2", "iso_2022_jp_2"], .designated .japaneseMixed),
  (["iso2022_jp_ext", "iso2022jp_ext", "iso_2022_jp_ext"], .designated .japaneseExtended),
  (["euc_kr", "euckr", "korean", "ks_c_5601", "ks_c_5601_1987", "ks_x_1001", "ksc5601", "ksx1001",
    "x_mac_korean"],
    .paired .korean),
  (["cp949", "949", "ms949", "uhc"], .paired .koreanUnified),
  (["johab", "cp1361", "ms1361"], .paired .koreanNumbered),
  (["iso2022_kr", "csiso2022kr", "iso2022kr", "iso_2022_kr"], .designated .korean),
  (["gb2312", "chinese", "csiso58gb231280", "euc_cn", "euccn", "eucgb2312_cn", "gb2312_1980",
    "gb2312_80", "iso_ir_58", "x_mac_simp_chinese"],
    .paired .simplifiedChinese),
  (["gbk", "936", "cp936", "ms936"], .paired .simplifiedChineseExtended),
  (["gb18030", "gb18030_2000"], .paired .simplifiedChineseWhole),
  (["hz", "hz_gb", "hz_gb_2312", "hzgb"], .paired .simplifiedChineseNarrow),
  (["big5", "big5_tw", "csbig5", "x_mac_trad_chinese"], .paired .traditionalChinese),
  (["cp950", "950", "ms950"], .paired .traditionalChineseExtended),
  (["big5hkscs", "big5_hkscs", "hkscs"], .paired .traditionalChineseHongKong)]

/-- All sets. -/
def all : List (List String × Charset) :=
  others ++ pairs ++ Page.all.map fun entry => (entry.1, .page entry.2)

/-- A letter or a digit of ASCII, or a point: what counts in a name. -/
def isNameCharacter (character : Char) : Bool :=
  character.isAlphanum || character == '.'

/-- A name in small letters, with one underscore for all marks between its parts. `marked` tells
that there was a mark after a part. -/
def plainFrom : (started marked : Bool) → List Char → List Char
  | _, _, [] => []
  | started, marked, character :: rest =>
    if isNameCharacter character then
      let plain := character.toLower :: plainFrom true false rest
      if started && marked then '_' :: plain else plain
    else plainFrom started true rest

/-- A name in the form in which names are compared. -/
def plainName (name : List Char) : String := String.ofList (plainFrom false false name)

/-- A name with underscores for points. -/
def withoutPoints (name : String) : String :=
  String.ofList (name.toList.map fun character => if character == '.' then '_' else character)

/-- Whether a plain name is one of these. A point is as good as an underscore in all but the
first. -/
def isNamed (name : String) (names : List String) : Bool :=
  names.contains name || names.tail.contains (withoutPoints name)

/-- The character set of a name, if it is one of those known. -/
def ofName? (name : List Char) : Option Charset :=
  (all.find? fun entry => isNamed (plainName name) entry.1).map Prod.snd

/-! ### Reading -/

/-- What the mark in front of units says, and the bytes after it. -/
def mark? (width : Nat) (bytes : List UInt8) : Option (ByteOrder × List UInt8) :=
  let front := bytes.take width
  if ByteOrder.number front .big == 0xFEFF then some (.big, bytes.drop width)
  else if ByteOrder.number front .little == 0xFEFF then some (.little, bytes.drop width)
  else none

/-- Reads units of so many bytes whose order a mark in front tells; fewer bytes than a unit need
none. -/
def readMarked (width : Nat) (readUnits : ByteOrder → List UInt8 → Reading) (bytes : List UInt8) :
    Except CharsetFault Reading :=
  if bytes.length < width then .ok (readUnits .little bytes)
  else match mark? width bytes with
    | some (order, rest) => .ok (readUnits order rest)
    | none => .error (.unmarked (8 * width))

/-- What comes of bytes in a character set. -/
def reading (charset : Charset) (bytes : List UInt8) : Except CharsetFault Reading :=
  match charset with
  | .utf8 => .ok (utf8From 0 bytes)
  | .utf8Marked =>
    let mark : List UInt8 := [0xEF, 0xBB, 0xBF]
    if bytes.isPrefixOf mark then .ok []
    else if mark.isPrefixOf bytes then .ok (utf8From 0 (bytes.drop 3))
    else .ok (utf8From 0 bytes)
  | .utf7 => .ok (Shifted.read bytes)
  | .utf16 (some order) => .ok (Wide.readPairs order bytes)
  | .utf16 none => readMarked 2 Wide.readPairs bytes
  | .utf32 (some order) => .ok (Wide.readQuadruples order bytes)
  | .utf32 none => readMarked 4 Wide.readQuadruples bytes
  | .page own => .ok (own.read bytes)
  | .escaped => .ok (Escaped.read bytes)
  | .escapedRaw => .ok (Escaped.readRaw bytes)
  | .punycode =>
    (Punycode.read bytes).mapError fun (byte, position) => .beyondAscii byte position
  | .paired set => .ok (set.read bytes)
  | .designated set =>
    if Escapes.mostWaiting < set.waiting .start 0 bytes then .error .waiting
    else .ok (set.read bytes)
  | .unreadable cause => .error cause

/-- The text of bytes in a character set, whatever is no character replaced. -/
def read (charset : Charset) (bytes : ByteArray) : Except CharsetFault String :=
  match charset with
  | .utf8 => .ok (readUtf8Loosely bytes)
  | _ => (charset.reading bytes.toList).map Reading.loosely

/-- The text of bytes that are characters throughout. Where no mark tells the order of the bytes of
a unit, the lowest comes first. -/
def readStrictly? (charset : Charset) (bytes : List UInt8) : Option String :=
  match charset.reading bytes, charset with
  | .ok reading, _ => reading.strictly?
  | .error _, .utf16 none => (Wide.readPairs .little bytes).strictly?
  | .error _, .utf32 none => (Wide.readQuadruples .little bytes).strictly?
  | .error _, _ => none

end Charset

end ClientModel.Text
