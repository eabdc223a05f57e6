/-
This file reads the Chinese character sets. Those for simplified Chinese grew out of one grid: the
next set has all ideographs, the last one all characters, in four bytes where two do not suffice.
-/

import ClientModel.Text.Charset.Grid.HongKong
import ClientModel.Text.Charset.Grid.SimplifiedChinese
import ClientModel.Text.Charset.Grid.TraditionalChinese
import ClientModel.Text.Charset.Paired

namespace ClientModel.Text.Chinese

/-! ### Traditional Chinese -/

/-- The set for traditional Chinese. -/
def traditional : Paired where
  singles := [Paired.ascii]
  firsts := [(0xA1, 0xFE)]
  seconds := [(0x40, 0x7E), (0xA1, 0xFE)]
  grid := (Grid.empty 94 157).writeRows 0 0 Grid.traditionalChinese

/-- The same with characters that were added, and some that are others of the same form. -/
def traditionalExtended : Paired where
  singles := traditional.singles
  firsts := traditional.firsts
  seconds := traditional.seconds
  grid := traditional.grid.write 0 5 "‧" |>.write 0 14 "﹑" |>.write 0 96 "¯" |>.write 0 129 "～"
    |>.write 0 144 "⊕⊙" |>.write 1 1 "∕﹨" |>.write 1 4 "￥" |>.write 1 6 "￠￡"
    |>.write 2 127 "€" |>.write 88 116 "碁銹裏墻恒粧嫺╔╦╗╠╬╣╚╩╝╒╤╕╞╪╡╘╧╛╓╥╖╟╫╢╙╨╜║═╭╮╰╯▓"

/-- The set for traditional Chinese with the characters of Hong Kong. -/
def hongKong : Paired where
  singles := traditional.singles
  firsts := [(0x87, 0xFE)]
  seconds := traditional.seconds
  grid := (Grid.empty 120 157).writeRows 26 0 Grid.traditionalChinese
    |>.writeRows 0 0 Grid.hongKong
    |>.putEach (Grid.places 63 1 63 94 ++ Grid.places 64 1 0 157)
      (List.replicate 251 replacement)
    |>.writeRuns ([(63, 63), (64, 0), (65, 0)].zipWith (fun (row, column) text =>
      (row, column, text)) Grid.hongKongSigns)
    |>.writeRuns ([(114, 116), (115, 0), (116, 0), (117, 0), (118, 0), (119, 0)].zipWith
      (fun (row, column) text => (row, column, text)) Grid.hongKongLast)
  besides := [((1, 34), [some 'Ê', some '\u0304']), ((1, 36), [some 'Ê', some '\u030C']),
    ((1, 65), [some 'ê', some '\u0304']), ((1, 67), [some 'ê', some '\u030C'])]

/-! ### Simplified Chinese -/

/-- The set with the characters used most. -/
def simplified : Paired where
  singles := [Paired.ascii]
  firsts := [(0xA1, 0xFE)]
  seconds := [(0xA1, 0xFE)]
  grid := (Grid.empty 94 94).writeRows 0 0 Grid.simplifiedChinese

/-- The cells of the first grid in the one of all ideographs, with the signs that were added to
them. -/
def signs : Grid :=
  (Grid.empty 126 190).writeRows 32 96 Grid.simplifiedChinese
    |>.write 32 99 "·" |>.write 32 105 "—" |>.write 33 96 "ⅰⅱⅲⅳⅴⅵⅶⅷⅸⅹ"
    |>.write 37 159 "︵︶︹︺︿﹀︽︾﹁﹂﹃﹄" |>.write 37 173 "︻︼︷︸︱" |>.write 37 179 "︳︴"
    |>.write 39 0 ("ˊˋ˙–―‥‵℅℉↖↗↘↙∕∟∣≒≦≧⊿═║╒╓╔╕╖╗╘╙╚╛╜╝╞╟╠╡╢╣╤╥╦╧╨╩╪╫╬╭╮╯╰╱╲╳▁▂▃▄▅▆▇" ++
      "█▉▊▋▌▍▎▏▓▔▕▼▽◢◣◤◥☉⊕〒〝〞")
    |>.write 39 122 "ɑ" |>.write 39 124 "ńň" |>.write 39 127 "ɡ"
    |>.write 40 0 "〡〢〣〤〥〦〧〨〩㊣㎎㎏㎜㎝㎞㎡㏄㏎㏑㏒㏕︰￢￤" |>.write 40 25 "℡㈱" |>.write 40 28 "‐"
    |>.write 40 32 "ー゛゜ヽヾ〆ゝゞ﹉﹊﹋﹌﹍﹎﹏﹐﹑﹒﹔﹕﹖﹗﹙﹚﹛﹜﹝﹞﹟﹠﹡﹢﹣﹤﹥﹦﹨﹩﹪﹫" |>.write 40 85 "〇"

/-- Ideographs that stand after all the others. -/
def lastIdeographs : List Char :=
  ("\uF92C\uF979\uF995\uF9E7\uF9F1\uFA0C\uFA0D\uFA0E\uFA0F\uFA11\uFA13\uFA14\uFA18\uFA1F" ++
    "\uFA20\uFA21\uFA23\uFA24\uFA27\uFA28\uFA29").toList

/-- The characters used most, with all ideographs. -/
def ideographs : Grid :=
  signs.putEach (Grid.places 0 32 0 190 ++ Grid.places 41 85 0 96)
    (signs.lacking 0x4E00 20902 ++ lastIdeographs)

/-- The set with all ideographs. -/
def extended : Paired where
  singles := [Paired.ascii]
  firsts := [(0x81, 0xFE)]
  seconds := [(0x40, 0x7E), (0x80, 0xFE)]
  grid := ideographs

/-! ### All characters -/

/-- The cells for private use, and those that were free. -/
def privatePlaces : List (Nat × Nat) :=
  (Grid.places 41 6 96 94 ++ Grid.places 119 7 96 94 ++ Grid.places 32 7 0 96 ++
    Grid.places 32 7 96 94 ++ Grid.places 39 2 0 190 ++ Grid.places 86 1 96 94 ++
    Grid.places 125 1 0 96).filter fun (row, column) => ideographs.character? row column == none

/-- All ideographs with characters for private use, and with those that have taken the place of
some of them since. -/
def whole : Grid :=
  let later :=
    "⺁\uE816\uE817\uE818⺄㑳㑇⺈⺋\uE81E㖞㘚㘎⺌⺗㥮㤘\uE826㧏㧟㩳㧐\uE82B\uE82C㭎㱮㳠⺧\uE831\uE832⺪" ++
    "䁖䅟⺮䌷⺳⺶⺷\uE83B䎱䎬⺻䏝䓖䙡䙌\uE843䜣䜩䝼䞍⻊䥇䥺䥽䦂䦃䦅䦆䦟䦛䦷䦶\uE854\uE855䲣䲟䲠䲡䱷䲢" ++
    "䴓䴔䴕䴖䴗䴘䴙䶮\uE864"
  ideographs.putEach privatePlaces
      ((List.range' 0xE000 privatePlaces.length).map Char.ofNat)
    |>.write 33 162 "€" |>.write 39 126 "ǹ" |>.write 40 72 "〾⿰⿱⿲⿳⿴⿵⿶⿷⿸⿹⿺⿻" |>.write 125 16 later

/-- The set with all characters in two bytes. -/
def wholePairs : Paired where
  singles := extended.singles
  firsts := extended.firsts
  seconds := extended.seconds
  grid := whole

/-- The characters of the first plane beyond ASCII that no pair is. -/
def remaining : Array Char :=
  (whole.lacking 0x80 0xD780 ++ whole.lacking 0xE000 0x2000).toArray

/-- The character of four bytes. -/
def quadruple? (first second third fourth : Nat) : Option Char := do
  let row ← placeIn? [(0x81, 0xFE)] first
  let column ← placeIn? [(0x30, 0x39)] second
  let inner ← placeIn? [(0x81, 0xFE)] third
  let last ← placeIn? [(0x30, 0x39)] fourth
  let number := ((row * 10 + column) * 126 + inner) * 10 + last
  if row < 4 then remaining[number]?
  else if 15 ≤ row && number - 189000 < 0x100000 then
    some (Char.ofNat (0x10000 + (number - 189000)))
  else none

/-- What comes of the bytes from some byte on. A digit after the first byte tells that there are
four. -/
def wholePieceAt (byte : UInt8) (rest : List UInt8) : Reading × Nat :=
  if 0x80 ≤ byte && (rest.head?.any fun second => 0x30 ≤ second && second ≤ 0x39) then
    match rest with
    | second :: third :: fourth :: _ =>
      match quadruple? byte.toNat second.toNat third.toNat fourth.toNat with
      | some character => ([some character], 4)
      | none => ([none], 1)
    | _ => ([none], 1 + rest.length)
  else wholePairs.pieceAt byte rest

/-- Reads bytes of the set with all characters. -/
def readWhole (bytes : List UInt8) : Reading := Reading.byPieces wholePieceAt 0 bytes

/-! ### Seven bits -/

/-- What comes of two bytes of seven bits that tell a cell with something in it. -/
def narrow? (first second : UInt8) : Option Reading :=
  if first < 0x80 && second < 0x80 then simplified.pair? (first.toNat + 0x80) (second.toNat + 0x80)
  else none

/-- What comes of the bytes from some byte on, inside of Chinese or outside, and where the next ones
are. A tilde and a brace lead inside and outside; a tilde before the end of a line joins it with
the next one. -/
def narrowPieceAt (inside : Bool) (byte : UInt8) (rest : List UInt8) : Reading × Nat × Bool :=
  if byte == 0x7E then
    match inside, rest with
    | false, 0x7E :: _ => ([some '~'], 2, false)
    | false, 0x7B :: _ => ([], 2, true)
    | false, 0x0A :: _ => ([], 2, false)
    | true, 0x7D :: _ => ([], 2, false)
    | _, _ => ([none], 1, inside)
  else if 0x80 ≤ byte then ([none], 1, inside)
  else if inside then
    match rest.head?.bind (narrow? byte) with
    | some characters => (characters, 2, inside)
    | none => ([none], 1, inside)
  else ([some (Char.ofNat byte.toNat)], 1, inside)

/-- Reads bytes of seven bits. -/
def readNarrow (bytes : List UInt8) : Reading := Reading.byPiecesFrom narrowPieceAt false 0 bytes

end ClientModel.Text.Chinese
