import BuildEnv.Text.Basic

/-!
# Tables of single byte charsets

The characters of the bytes `0x80` to `0xFF` in each charset, sixteen to a
row.  U+FFFD stands where a charset has no character.
-/

namespace BuildEnv

namespace Charset

/-- The characters of some rows. -/
def ofRows (rows : List String) : Text :=
  rows.flatMap String.toList

/-- The upper half of IBM866. -/
def ibm866 : Text := ofRows [
  "АБВГДЕЖЗИЙКЛМНОП",
  "РСТУФХЦЧШЩЪЫЬЭЮЯ",
  "абвгдежзийклмноп",
  "░▒▓│┤╡╢╖╕╣║╗╝╜╛┐",
  "└┴┬├─┼╞╟╚╔╩╦╠═╬╧",
  "╨╤╥╙╘╒╓╫╪┘┌█▄▌▐▀",
  "рстуфхцчшщъыьэюя",
  "ЁёЄєЇїЎў°∙·√№¤■\u00A0"]

/-- The upper half of ISO-8859-10. -/
def iso8859x10 : Text := ofRows [
  "\u0080\u0081\u0082\u0083\u0084\u0085\u0086\u0087\u0088\u0089\u008A\u008B\u008C\u008D\u008E\u008F",
  "\u0090\u0091\u0092\u0093\u0094\u0095\u0096\u0097\u0098\u0099\u009A\u009B\u009C\u009D\u009E\u009F",
  "\u00A0ĄĒĢĪĨĶ§ĻĐŠŦŽ\u00ADŪŊ",
  "°ąēģīĩķ·ļđšŧž―ūŋ",
  "ĀÁÂÃÄÅÆĮČÉĘËĖÍÎÏ",
  "ÐŅŌÓÔÕÖŨØŲÚÛÜÝÞß",
  "āáâãäåæįčéęëėíîï",
  "ðņōóôõöũøųúûüýþĸ"]

/-- The upper half of ISO-8859-13. -/
def iso8859x13 : Text := ofRows [
  "\u0080\u0081\u0082\u0083\u0084\u0085\u0086\u0087\u0088\u0089\u008A\u008B\u008C\u008D\u008E\u008F",
  "\u0090\u0091\u0092\u0093\u0094\u0095\u0096\u0097\u0098\u0099\u009A\u009B\u009C\u009D\u009E\u009F",
  "\u00A0”¢£¤„¦§Ø©Ŗ«¬\u00AD®Æ",
  "°±²³“µ¶·ø¹ŗ»¼½¾æ",
  "ĄĮĀĆÄÅĘĒČÉŹĖĢĶĪĻ",
  "ŠŃŅÓŌÕÖ×ŲŁŚŪÜŻŽß",
  "ąįāćäåęēčéźėģķīļ",
  "šńņóōõö÷ųłśūüżž’"]

/-- The upper half of ISO-8859-14. -/
def iso8859x14 : Text := ofRows [
  "\u0080\u0081\u0082\u0083\u0084\u0085\u0086\u0087\u0088\u0089\u008A\u008B\u008C\u008D\u008E\u008F",
  "\u0090\u0091\u0092\u0093\u0094\u0095\u0096\u0097\u0098\u0099\u009A\u009B\u009C\u009D\u009E\u009F",
  "\u00A0Ḃḃ£ĊċḊ§Ẁ©ẂḋỲ\u00AD®Ÿ",
  "ḞḟĠġṀṁ¶ṖẁṗẃṠỳẄẅṡ",
  "ÀÁÂÃÄÅÆÇÈÉÊËÌÍÎÏ",
  "ŴÑÒÓÔÕÖṪØÙÚÛÜÝŶß",
  "àáâãäåæçèéêëìíîï",
  "ŵñòóôõöṫøùúûüýŷÿ"]

/-- The upper half of ISO-8859-15. -/
def iso8859x15 : Text := ofRows [
  "\u0080\u0081\u0082\u0083\u0084\u0085\u0086\u0087\u0088\u0089\u008A\u008B\u008C\u008D\u008E\u008F",
  "\u0090\u0091\u0092\u0093\u0094\u0095\u0096\u0097\u0098\u0099\u009A\u009B\u009C\u009D\u009E\u009F",
  "\u00A0¡¢£€¥Š§š©ª«¬\u00AD®¯",
  "°±²³Žµ¶·ž¹º»ŒœŸ¿",
  "ÀÁÂÃÄÅÆÇÈÉÊËÌÍÎÏ",
  "ÐÑÒÓÔÕÖ×ØÙÚÛÜÝÞß",
  "àáâãäåæçèéêëìíîï",
  "ðñòóôõö÷øùúûüýþÿ"]

/-- The upper half of ISO-8859-16. -/
def iso8859x16 : Text := ofRows [
  "\u0080\u0081\u0082\u0083\u0084\u0085\u0086\u0087\u0088\u0089\u008A\u008B\u008C\u008D\u008E\u008F",
  "\u0090\u0091\u0092\u0093\u0094\u0095\u0096\u0097\u0098\u0099\u009A\u009B\u009C\u009D\u009E\u009F",
  "\u00A0ĄąŁ€„Š§š©Ș«Ź\u00ADźŻ",
  "°±ČłŽ”¶·žčș»ŒœŸż",
  "ÀÁÂĂÄĆÆÇÈÉÊËÌÍÎÏ",
  "ĐŃÒÓÔŐÖŚŰÙÚÛÜĘȚß",
  "àáâăäćæçèéêëìíîï",
  "đńòóôőöśűùúûüęțÿ"]

/-- The upper half of ISO-8859-2. -/
def iso8859x2 : Text := ofRows [
  "\u0080\u0081\u0082\u0083\u0084\u0085\u0086\u0087\u0088\u0089\u008A\u008B\u008C\u008D\u008E\u008F",
  "\u0090\u0091\u0092\u0093\u0094\u0095\u0096\u0097\u0098\u0099\u009A\u009B\u009C\u009D\u009E\u009F",
  "\u00A0Ą˘Ł¤ĽŚ§¨ŠŞŤŹ\u00ADŽŻ",
  "°ą˛ł´ľśˇ¸šşťź˝žż",
  "ŔÁÂĂÄĹĆÇČÉĘËĚÍÎĎ",
  "ĐŃŇÓÔŐÖ×ŘŮÚŰÜÝŢß",
  "ŕáâăäĺćçčéęëěíîď",
  "đńňóôőö÷řůúűüýţ˙"]

/-- The upper half of ISO-8859-3. -/
def iso8859x3 : Text := ofRows [
  "\u0080\u0081\u0082\u0083\u0084\u0085\u0086\u0087\u0088\u0089\u008A\u008B\u008C\u008D\u008E\u008F",
  "\u0090\u0091\u0092\u0093\u0094\u0095\u0096\u0097\u0098\u0099\u009A\u009B\u009C\u009D\u009E\u009F",
  "\u00A0Ħ˘£¤\uFFFDĤ§¨İŞĞĴ\u00AD\uFFFDŻ",
  "°ħ²³´µĥ·¸ışğĵ½\uFFFDż",
  "ÀÁÂ\uFFFDÄĊĈÇÈÉÊËÌÍÎÏ",
  "\uFFFDÑÒÓÔĠÖ×ĜÙÚÛÜŬŜß",
  "àáâ\uFFFDäċĉçèéêëìíîï",
  "\uFFFDñòóôġö÷ĝùúûüŭŝ˙"]

/-- The upper half of ISO-8859-4. -/
def iso8859x4 : Text := ofRows [
  "\u0080\u0081\u0082\u0083\u0084\u0085\u0086\u0087\u0088\u0089\u008A\u008B\u008C\u008D\u008E\u008F",
  "\u0090\u0091\u0092\u0093\u0094\u0095\u0096\u0097\u0098\u0099\u009A\u009B\u009C\u009D\u009E\u009F",
  "\u00A0ĄĸŖ¤ĨĻ§¨ŠĒĢŦ\u00ADŽ¯",
  "°ą˛ŗ´ĩļˇ¸šēģŧŊžŋ",
  "ĀÁÂÃÄÅÆĮČÉĘËĖÍÎĪ",
  "ĐŅŌĶÔÕÖ×ØŲÚÛÜŨŪß",
  "āáâãäåæįčéęëėíîī",
  "đņōķôõö÷øųúûüũū˙"]

/-- The upper half of ISO-8859-5. -/
def iso8859x5 : Text := ofRows [
  "\u0080\u0081\u0082\u0083\u0084\u0085\u0086\u0087\u0088\u0089\u008A\u008B\u008C\u008D\u008E\u008F",
  "\u0090\u0091\u0092\u0093\u0094\u0095\u0096\u0097\u0098\u0099\u009A\u009B\u009C\u009D\u009E\u009F",
  "\u00A0ЁЂЃЄЅІЇЈЉЊЋЌ\u00ADЎЏ",
  "АБВГДЕЖЗИЙКЛМНОП",
  "РСТУФХЦЧШЩЪЫЬЭЮЯ",
  "абвгдежзийклмноп",
  "рстуфхцчшщъыьэюя",
  "№ёђѓєѕіїјљњћќ§ўџ"]

/-- The upper half of ISO-8859-6. -/
def iso8859x6 : Text := ofRows [
  "\u0080\u0081\u0082\u0083\u0084\u0085\u0086\u0087\u0088\u0089\u008A\u008B\u008C\u008D\u008E\u008F",
  "\u0090\u0091\u0092\u0093\u0094\u0095\u0096\u0097\u0098\u0099\u009A\u009B\u009C\u009D\u009E\u009F",
  "\u00A0\uFFFD\uFFFD\uFFFD¤\uFFFD\uFFFD\uFFFD\uFFFD\uFFFD\uFFFD\uFFFD،\u00AD\uFFFD\uFFFD",
  "\uFFFD\uFFFD\uFFFD\uFFFD\uFFFD\uFFFD\uFFFD\uFFFD\uFFFD\uFFFD\uFFFD\u061B\uFFFD\uFFFD\uFFFD\u061F",
  "\uFFFD\u0621\u0622\u0623\u0624\u0625\u0626\u0627\u0628\u0629\u062A\u062B\u062C\u062D\u062E\u062F",
  "\u0630\u0631\u0632\u0633\u0634\u0635\u0636\u0637\u0638\u0639\u063A\uFFFD\uFFFD\uFFFD\uFFFD\uFFFD",
  "\u0640\u0641\u0642\u0643\u0644\u0645\u0646\u0647\u0648\u0649\u064A\u064B\u064C\u064D\u064E\u064F",
  "\u0650\u0651\u0652\uFFFD\uFFFD\uFFFD\uFFFD\uFFFD\uFFFD\uFFFD\uFFFD\uFFFD\uFFFD\uFFFD\uFFFD\uFFFD"]

/-- The upper half of ISO-8859-7. -/
def iso8859x7 : Text := ofRows [
  "\u0080\u0081\u0082\u0083\u0084\u0085\u0086\u0087\u0088\u0089\u008A\u008B\u008C\u008D\u008E\u008F",
  "\u0090\u0091\u0092\u0093\u0094\u0095\u0096\u0097\u0098\u0099\u009A\u009B\u009C\u009D\u009E\u009F",
  "\u00A0‘’£€₯¦§¨©ͺ«¬\u00AD\uFFFD―",
  "°±²³΄΅Ά·ΈΉΊ»Ό½ΎΏ",
  "ΐΑΒΓΔΕΖΗΘΙΚΛΜΝΞΟ",
  "ΠΡ\uFFFDΣΤΥΦΧΨΩΪΫάέήί",
  "ΰαβγδεζηθικλμνξο",
  "πρςστυφχψωϊϋόύώ\uFFFD"]

/-- The upper half of ISO-8859-8. -/
def iso8859x8 : Text := ofRows [
  "\u0080\u0081\u0082\u0083\u0084\u0085\u0086\u0087\u0088\u0089\u008A\u008B\u008C\u008D\u008E\u008F",
  "\u0090\u0091\u0092\u0093\u0094\u0095\u0096\u0097\u0098\u0099\u009A\u009B\u009C\u009D\u009E\u009F",
  "\u00A0\uFFFD¢£¤¥¦§¨©×«¬\u00AD®¯",
  "°±²³´µ¶·¸¹÷»¼½¾\uFFFD",
  "\uFFFD\uFFFD\uFFFD\uFFFD\uFFFD\uFFFD\uFFFD\uFFFD\uFFFD\uFFFD\uFFFD\uFFFD\uFFFD\uFFFD\uFFFD\uFFFD",
  "\uFFFD\uFFFD\uFFFD\uFFFD\uFFFD\uFFFD\uFFFD\uFFFD\uFFFD\uFFFD\uFFFD\uFFFD\uFFFD\uFFFD\uFFFD‗",
  "\u05D0\u05D1\u05D2\u05D3\u05D4\u05D5\u05D6\u05D7\u05D8\u05D9\u05DA\u05DB\u05DC\u05DD\u05DE\u05DF",
  "\u05E0\u05E1\u05E2\u05E3\u05E4\u05E5\u05E6\u05E7\u05E8\u05E9\u05EA\uFFFD\uFFFD\u200E\u200F\uFFFD"]

/-- The upper half of KOI8-R. -/
def koi8R : Text := ofRows [
  "─│┌┐└┘├┤┬┴┼▀▄█▌▐",
  "░▒▓⌠■∙√≈≤≥\u00A0⌡°²·÷",
  "═║╒ё╓╔╕╖╗╘╙╚╛╜╝╞",
  "╟╠╡Ё╢╣╤╥╦╧╨╩╪╫╬©",
  "юабцдефгхийклмно",
  "пярстужвьызшэщчъ",
  "ЮАБЦДЕФГХИЙКЛМНО",
  "ПЯРСТУЖВЬЫЗШЭЩЧЪ"]

/-- The upper half of KOI8-U. -/
def koi8U : Text := ofRows [
  "─│┌┐└┘├┤┬┴┼▀▄█▌▐",
  "░▒▓⌠■∙√≈≤≥\u00A0⌡°²·÷",
  "═║╒ёє╔ії╗╘╙╚╛ґў╞",
  "╟╠╡ЁЄ╣ІЇ╦╧╨╩╪ҐЎ©",
  "юабцдефгхийклмно",
  "пярстужвьызшэщчъ",
  "ЮАБЦДЕФГХИЙКЛМНО",
  "ПЯРСТУЖВЬЫЗШЭЩЧЪ"]

/-- The upper half of macintosh. -/
def macintosh : Text := ofRows [
  "ÄÅÇÉÑÖÜáàâäãåçéè",
  "êëíìîïñóòôöõúùûü",
  "†°¢£§•¶ß®©™´¨≠ÆØ",
  "∞±≤≥¥µ∂∑∏π∫ªºΩæø",
  "¿¡¬√ƒ≈∆«»…\u00A0ÀÃÕŒœ",
  "–—“”‘’÷◊ÿŸ⁄€‹›ﬁﬂ",
  "‡·‚„‰ÂÊÁËÈÍÎÏÌÓÔ",
  "\uF8FFÒÚÛÙıˆ˜¯˘˙˚¸˝˛ˇ"]

/-- The upper half of windows-1250. -/
def windows1250 : Text := ofRows [
  "€\u0081‚\u0083„…†‡\u0088‰Š‹ŚŤŽŹ",
  "\u0090‘’“”•–—\u0098™š›śťžź",
  "\u00A0ˇ˘Ł¤Ą¦§¨©Ş«¬\u00AD®Ż",
  "°±˛ł´µ¶·¸ąş»Ľ˝ľż",
  "ŔÁÂĂÄĹĆÇČÉĘËĚÍÎĎ",
  "ĐŃŇÓÔŐÖ×ŘŮÚŰÜÝŢß",
  "ŕáâăäĺćçčéęëěíîď",
  "đńňóôőö÷řůúűüýţ˙"]

/-- The upper half of windows-1251. -/
def windows1251 : Text := ofRows [
  "ЂЃ‚ѓ„…†‡€‰Љ‹ЊЌЋЏ",
  "ђ‘’“”•–—\u0098™љ›њќћџ",
  "\u00A0ЎўЈ¤Ґ¦§Ё©Є«¬\u00AD®Ї",
  "°±Ііґµ¶·ё№є»јЅѕї",
  "АБВГДЕЖЗИЙКЛМНОП",
  "РСТУФХЦЧШЩЪЫЬЭЮЯ",
  "абвгдежзийклмноп",
  "рстуфхцчшщъыьэюя"]

/-- The upper half of windows-1252. -/
def windows1252 : Text := ofRows [
  "€\u0081‚ƒ„…†‡ˆ‰Š‹Œ\u008DŽ\u008F",
  "\u0090‘’“”•–—˜™š›œ\u009DžŸ",
  "\u00A0¡¢£¤¥¦§¨©ª«¬\u00AD®¯",
  "°±²³´µ¶·¸¹º»¼½¾¿",
  "ÀÁÂÃÄÅÆÇÈÉÊËÌÍÎÏ",
  "ÐÑÒÓÔÕÖ×ØÙÚÛÜÝÞß",
  "àáâãäåæçèéêëìíîï",
  "ðñòóôõö÷øùúûüýþÿ"]

/-- The upper half of windows-1253. -/
def windows1253 : Text := ofRows [
  "€\u0081‚ƒ„…†‡\u0088‰\u008A‹\u008C\u008D\u008E\u008F",
  "\u0090‘’“”•–—\u0098™\u009A›\u009C\u009D\u009E\u009F",
  "\u00A0΅Ά£¤¥¦§¨©\uFFFD«¬\u00AD®―",
  "°±²³΄µ¶·ΈΉΊ»Ό½ΎΏ",
  "ΐΑΒΓΔΕΖΗΘΙΚΛΜΝΞΟ",
  "ΠΡ\uFFFDΣΤΥΦΧΨΩΪΫάέήί",
  "ΰαβγδεζηθικλμνξο",
  "πρςστυφχψωϊϋόύώ\uFFFD"]

/-- The upper half of windows-1254. -/
def windows1254 : Text := ofRows [
  "€\u0081‚ƒ„…†‡ˆ‰Š‹Œ\u008D\u008E\u008F",
  "\u0090‘’“”•–—˜™š›œ\u009D\u009EŸ",
  "\u00A0¡¢£¤¥¦§¨©ª«¬\u00AD®¯",
  "°±²³´µ¶·¸¹º»¼½¾¿",
  "ÀÁÂÃÄÅÆÇÈÉÊËÌÍÎÏ",
  "ĞÑÒÓÔÕÖ×ØÙÚÛÜİŞß",
  "àáâãäåæçèéêëìíîï",
  "ğñòóôõö÷øùúûüışÿ"]

/-- The upper half of windows-1255. -/
def windows1255 : Text := ofRows [
  "€\u0081‚ƒ„…†‡ˆ‰\u008A‹\u008C\u008D\u008E\u008F",
  "\u0090‘’“”•–—˜™\u009A›\u009C\u009D\u009E\u009F",
  "\u00A0¡¢£₪¥¦§¨©×«¬\u00AD®¯",
  "°±²³´µ¶·¸¹÷»¼½¾¿",
  "\u05B0\u05B1\u05B2\u05B3\u05B4\u05B5\u05B6\u05B7\u05B8\u05B9\u05BA\u05BB\u05BC\u05BD\u05BE\u05BF",
  "\u05C0\u05C1\u05C2\u05C3\u05F0\u05F1\u05F2\u05F3\u05F4\uFFFD\uFFFD\uFFFD\uFFFD\uFFFD\uFFFD\uFFFD",
  "\u05D0\u05D1\u05D2\u05D3\u05D4\u05D5\u05D6\u05D7\u05D8\u05D9\u05DA\u05DB\u05DC\u05DD\u05DE\u05DF",
  "\u05E0\u05E1\u05E2\u05E3\u05E4\u05E5\u05E6\u05E7\u05E8\u05E9\u05EA\uFFFD\uFFFD\u200E\u200F\uFFFD"]

/-- The upper half of windows-1256. -/
def windows1256 : Text := ofRows [
  "€\u067E‚ƒ„…†‡ˆ‰\u0679‹Œ\u0686\u0698\u0688",
  "\u06AF‘’“”•–—\u06A9™\u0691›œ\u200C\u200D\u06BA",
  "\u00A0،¢£¤¥¦§¨©\u06BE«¬\u00AD®¯",
  "°±²³´µ¶·¸¹\u061B»¼½¾\u061F",
  "\u06C1\u0621\u0622\u0623\u0624\u0625\u0626\u0627\u0628\u0629\u062A\u062B\u062C\u062D\u062E\u062F",
  "\u0630\u0631\u0632\u0633\u0634\u0635\u0636×\u0637\u0638\u0639\u063A\u0640\u0641\u0642\u0643",
  "à\u0644â\u0645\u0646\u0647\u0648çèéêë\u0649\u064Aîï",
  "\u064B\u064C\u064D\u064Eô\u064F\u0650÷\u0651ù\u0652ûü\u200E\u200F\u06D2"]

/-- The upper half of windows-1257. -/
def windows1257 : Text := ofRows [
  "€\u0081‚\u0083„…†‡\u0088‰\u008A‹\u008C¨ˇ¸",
  "\u0090‘’“”•–—\u0098™\u009A›\u009C¯˛\u009F",
  "\u00A0\uFFFD¢£¤\uFFFD¦§Ø©Ŗ«¬\u00AD®Æ",
  "°±²³´µ¶·ø¹ŗ»¼½¾æ",
  "ĄĮĀĆÄÅĘĒČÉŹĖĢĶĪĻ",
  "ŠŃŅÓŌÕÖ×ŲŁŚŪÜŻŽß",
  "ąįāćäåęēčéźėģķīļ",
  "šńņóōõö÷ųłśūüżž˙"]

/-- The upper half of windows-1258. -/
def windows1258 : Text := ofRows [
  "€\u0081‚ƒ„…†‡ˆ‰\u008A‹Œ\u008D\u008E\u008F",
  "\u0090‘’“”•–—˜™\u009A›œ\u009D\u009EŸ",
  "\u00A0¡¢£¤¥¦§¨©ª«¬\u00AD®¯",
  "°±²³´µ¶·¸¹º»¼½¾¿",
  "ÀÁÂĂÄÅÆÇÈÉÊË\u0300ÍÎÏ",
  "ĐÑ\u0309ÓÔƠÖ×ØÙÚÛÜƯ\u0303ß",
  "àáâăäåæçèéêë\u0301íîï",
  "đñ\u0323óôơö÷øùúûüư₫ÿ"]

/-- The upper half of windows-874. -/
def windows874 : Text := ofRows [
  "€\u0081\u0082\u0083\u0084…\u0086\u0087\u0088\u0089\u008A\u008B\u008C\u008D\u008E\u008F",
  "\u0090‘’“”•–—\u0098\u0099\u009A\u009B\u009C\u009D\u009E\u009F",
  "\u00A0กขฃคฅฆงจฉชซฌญฎฏ",
  "ฐฑฒณดตถทธนบปผฝพฟ",
  "ภมยรฤลฦวศษสหฬอฮฯ",
  "ะ\u0E31าำ\u0E34\u0E35\u0E36\u0E37\u0E38\u0E39\u0E3A\uFFFD\uFFFD\uFFFD\uFFFD฿",
  "เแโใไๅๆ\u0E47\u0E48\u0E49\u0E4A\u0E4B\u0E4C\u0E4D\u0E4E๏",
  "๐๑๒๓๔๕๖๗๘๙๚๛\uFFFD\uFFFD\uFFFD\uFFFD"]

/-- The upper half of x-mac-cyrillic. -/
def macCyrillic : Text := ofRows [
  "АБВГДЕЖЗИЙКЛМНОП",
  "РСТУФХЦЧШЩЪЫЬЭЮЯ",
  "†°Ґ£§•¶І®©™Ђђ≠Ѓѓ",
  "∞±≤≥іµґЈЄєЇїЉљЊњ",
  "јЅ¬√ƒ≈∆«»…\u00A0ЋћЌќѕ",
  "–—“”‘’÷„ЎўЏџ№Ёёя",
  "абвгдежзийклмноп",
  "рстуфхцчшщъыьэю€"]

end Charset

end BuildEnv
