import RowIngest.Text.Charset.Designated
import RowIngest.Text.Charset.Escaped
import RowIngest.Text.Charset.HostText
import RowIngest.Text.Charset.Name
import RowIngest.Text.Charset.SingleByte
import RowIngest.Text.Charset.Unicode
/-!
How text is written in bytes, by the name of the charset. A byte may be a character, or a character
has several bytes, or bytes turn between sets of characters. Main statement: a table of single
bytes gives as many characters as there are bytes.
-/
namespace RowIngest.Text

inductive Charset where
  /-- UTF-8; a mark in front may be dropped. -/
  | utf8 (dropsMark : Bool)
  | ascii
  /-- Each byte is the character of its number. -/
  | latin
  | table (t : Charset.Table)
  /-- UTF-16; where no order of bytes is given, a mark in front must tell it. -/
  | utf16 (order? : Option ByteOrder)
  | utf32 (order? : Option ByteOrder)
  | utf7
  | punycode
  /-- Text as names of hosts are written. -/
  | hostname
  /-- A charset that reads each character by itself. -/
  | plain (codec : String) (step : Unit → List UInt8 → Charset.Plain)
  /-- ASCII with pairs of bytes between tildes. -/
  | inPairs
  | turning (codec : String) (t : Charset.Turning)
  /-- No text can be read. -/
  | unusable

namespace Charset

/-- The charsets by their own names, apart from the tables. -/
def own : List (String × Charset) :=
  [("utf_8", .utf8 false),
   ("utf_8_sig", .utf8 true),
   ("ascii", .ascii),
   ("latin_1", .latin),
   ("charmap", .latin),
   ("utf_7", .utf7),
   ("utf_16", .utf16 none),
   ("utf_16_le", .utf16 (some .little)),
   ("utf_16_be", .utf16 (some .big)),
   ("utf_32", .utf32 none),
   ("utf_32_le", .utf32 (some .little)),
   ("utf_32_be", .utf32 (some .big)),
   ("punycode", .punycode),
   ("idna", .hostname),
   ("undefined", .unusable),
   ("unicode_escape", .plain "unicodeescape" escapedStep),
   ("raw_unicode_escape", .plain "rawunicodeescape" rawStep),
   ("hz", .inPairs),
   ("euc_kr", .plain "euc_kr" (koreanStep false)),
   ("cp949", .plain "cp949" (koreanStep true)),
   ("johab", .plain "johab" composingStep),
   ("gb2312", .plain "gb2312" (chineseStep .national)),
   ("gbk", .plain "gbk" (chineseStep .larger)),
   ("gb18030", .plain "gb18030" (chineseStep .whole)),
   ("big5", .plain "big5" (taiwaneseStep .usual)),
   ("cp950", .plain "cp950" (taiwaneseStep .system)),
   ("big5hkscs", .plain "big5hkscs" (taiwaneseStep .hongKong)),
   ("euc_jp", .plain "euc_jp" (rowsStep .plain)),
   ("euc_jisx0213", .plain "euc_jisx0213" (rowsStep (.added false))),
   ("euc_jis_2004", .plain "euc_jis_2004" (rowsStep (.added true))),
   ("shift_jis", .plain "shift_jis" (doubledStep .plain)),
   ("shift_jisx0213", .plain "shift_jisx0213" (doubledStep (.added false))),
   ("shift_jis_2004", .plain "shift_jis_2004" (doubledStep (.added true))),
   ("cp932", .plain "cp932" systemStep),
   ("iso2022_jp", .turning "iso2022_jp" .japan),
   ("iso2022_jp_1", .turning "iso2022_jp_1" .japanSecond),
   ("iso2022_jp_2", .turning "iso2022_jp_2" .japanAbroad),
   ("iso2022_jp_2004", .turning "iso2022_jp_2004" .japanLater),
   ("iso2022_jp_3", .turning "iso2022_jp_3" .japanEarlier),
   ("iso2022_jp_ext", .turning "iso2022_jp_ext" .japanKana),
   ("iso2022_kr", .turning "iso2022_kr" .korea)]

/-- Conversions of bytes that have no text as their outcome. -/
def conversions : List String :=
  ["base64_codec", "bz2_codec", "hex_codec", "quopri_codec", "rot_13", "uu_codec", "zlib_codec"]

/-- The word for the charset of the surroundings, which is UTF-8. -/
def localeWord : String := "locale"

/-- Whether a name is that of a conversion. -/
def isConversion (name : String) : Bool := conversions.contains (ownName name)

def ofName? (name : String) : Option Charset :=
  if name = localeWord then some (.utf8 false)
  else
    let name := ownName name
    (own.lookup name).or ((Table.all.lookup name).map .table)

def utf8Mark : List UInt8 := [0xEF, 0xBB, 0xBF]

def decodeUtf8 (bytes : List UInt8) : Except Unreadable (List Char) :=
  (Utf8.decode bytes).mapError fun e => .undecodable e.message

def decode (charset : Charset) (bytes : List UInt8) : Except Unreadable (List Char) :=
  let explained (r : Except Error (List Char)) := r.mapError (·.unreadable)
  match charset with
  | .utf8 false => decodeUtf8 bytes
  | .utf8 true =>
    if utf8Mark.isPrefixOf bytes then decodeUtf8 (bytes.drop utf8Mark.length)
    else if bytes.isPrefixOf utf8Mark then .ok []
    else decodeUtf8 bytes
  | .ascii => explained (decodeAscii 0 bytes)
  | .latin => .ok (bytes.map charOf)
  | .table t => explained (decodeTable t bytes)
  | .utf16 (some order) => explained (decode16 order 0 bytes)
  | .utf16 none => decodeMarked 2 "UTF-16" (mark16? bytes) decode16 bytes
  | .utf32 (some order) => explained (decode32 order 0 bytes)
  | .utf32 none => decodeMarked 4 "UTF-32" (mark32? bytes) decode32 bytes
  | .utf7 => explained (decode7 0 none bytes)
  | .punycode => decodePunycode bytes
  | .hostname => decodeName bytes
  | .plain codec step => explained (run codec step () 0 0 bytes)
  | .inPairs => explained (run "hz" tildeStep false 0 0 bytes)
  | .turning codec t => explained (run codec (turningStep t) Places.start 0 0 bytes)
  | .unusable => .error (.unusable "undefined encoding")

/-- Each byte becomes one character. -/
theorem length_of_decodeTable {t : Table} {bytes : List UInt8} {cs : List Char}
    (h : decodeTable t bytes = .ok cs) : cs.length = bytes.length :=
  length_of_decodeEach bytes 0 h

end Charset

end RowIngest.Text
