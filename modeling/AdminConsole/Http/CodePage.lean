/-!
# Http/CodePage — character sets of one byte

In these sets the first half is ASCII. The second half is given as a text of its characters; in the
ISO sets it begins with the control characters of the same numbers. A replacement character stands
for a byte that is no character.
-/

namespace AdminConsole.Http

/-- The control characters of the second half. -/
def highControls : List Char := (List.range 32).map fun n => Char.ofNat (128 + n)

/-- A character set of one byte: its names, and the characters of the bytes from 128 on. -/
structure CodePage where
  names : List String
  high : List Char

/-- The set of ISO 8859, part 2. -/
def iso8859Part2 : CodePage :=
  { names := ["iso8859_2", "csisolatin2", "iso_8859_2", "iso_8859_2_1987", "iso_ir_101", "l2",
      "latin2"]
    high := highControls
      ++ "\u00a0Ą˘Ł¤ĽŚ§¨ŠŞŤŹ\u00adŽŻ°ą˛ł´ľśˇ¸šşťź˝žżŔÁÂĂÄĹĆÇČÉĘËĚÍÎĎĐŃŇÓÔŐÖ×ŘŮÚŰÜÝŢßŕáâ".toList
      ++ "ăäĺćçčéęëěíîďđńňóôőö÷řůúűüýţ˙".toList }

/-- The set of ISO 8859, part 3. -/
def iso8859Part3 : CodePage :=
  { names := ["iso8859_3", "csisolatin3", "iso_8859_3", "iso_8859_3_1988", "iso_ir_109", "l3",
      "latin3"]
    high := highControls
      ++ "\u00a0Ħ˘£¤\ufffdĤ§¨İŞĞĴ\u00ad\ufffdŻ°ħ²³´µĥ·¸ışğĵ½\ufffdżÀÁÂ\ufffdÄĊĈÇÈÉÊËÌÍÎ".toList
      ++ "Ï\ufffdÑÒÓÔĠÖ×ĜÙÚÛÜŬŜßàáâ\ufffdäċĉçèéêëìíîï\ufffdñòóôġö÷ĝùúûüŭŝ˙".toList }

/-- The set of ISO 8859, part 4. -/
def iso8859Part4 : CodePage :=
  { names := ["iso8859_4", "csisolatin4", "iso_8859_4", "iso_8859_4_1988", "iso_ir_110", "l4",
      "latin4"]
    high := highControls
      ++ "\u00a0ĄĸŖ¤ĨĻ§¨ŠĒĢŦ\u00adŽ¯°ą˛ŗ´ĩļˇ¸šēģŧŊžŋĀÁÂÃÄÅÆĮČÉĘËĖÍÎĪĐŅŌĶÔÕÖ×ØŲÚÛÜŨŪßāáâ".toList
      ++ "ãäåæįčéęëėíîīđņōķôõö÷øųúûüũū˙".toList }

/-- The set of ISO 8859, part 5. -/
def iso8859Part5 : CodePage :=
  { names := ["iso8859_5", "csisolatincyrillic", "cyrillic", "iso_8859_5", "iso_8859_5_1988",
      "iso_ir_144"]
    high := highControls
      ++ "\u00a0ЁЂЃЄЅІЇЈЉЊЋЌ\u00adЎЏАБВГДЕЖЗИЙКЛМНОПРСТУФХЦЧШЩЪЫЬЭЮЯабвгдежзийклмнопрст".toList
      ++ "уфхцчшщъыьэюя№ёђѓєѕіїјљњћќ§ўџ".toList }

/-- The set of ISO 8859, part 6. -/
def iso8859Part6 : CodePage :=
  { names := ["iso8859_6", "arabic", "asmo_708", "csisolatinarabic", "ecma_114", "iso_8859_6",
      "iso_8859_6_1987", "iso_ir_127"]
    high := highControls
      ++ "\u00a0\ufffd\ufffd\ufffd¤\ufffd\ufffd\ufffd\ufffd\ufffd\ufffd\ufffd،\u00ad".toList
      ++ "\ufffd\ufffd\ufffd\ufffd\ufffd\ufffd\ufffd\ufffd\ufffd\ufffd\ufffd\ufffd".toList
      ++ "\ufffd\u061b\ufffd\ufffd\ufffd\u061f\ufffd\u0621\u0622\u0623\u0624\u0625".toList
      ++ "\u0626\u0627\u0628\u0629\u062a\u062b\u062c\u062d\u062e\u062f\u0630\u0631".toList
      ++ "\u0632\u0633\u0634\u0635\u0636\u0637\u0638\u0639\u063a\ufffd\ufffd\ufffd".toList
      ++ "\ufffd\ufffd\u0640\u0641\u0642\u0643\u0644\u0645\u0646\u0647\u0648\u0649".toList
      ++ "\u064a\u064b\u064c\u064d\u064e\u064f\u0650\u0651\u0652\ufffd\ufffd\ufffd".toList
      ++ "\ufffd\ufffd\ufffd\ufffd\ufffd\ufffd\ufffd\ufffd\ufffd\ufffd".toList }

/-- The set of ISO 8859, part 7. -/
def iso8859Part7 : CodePage :=
  { names := ["iso8859_7", "csisolatingreek", "ecma_118", "elot_928", "greek", "greek8",
      "iso_8859_7", "iso_8859_7_1987", "iso_ir_126"]
    high := highControls
      ++ "\u00a0‘’£€₯¦§¨©ͺ«¬\u00ad\ufffd―°±²³΄΅Ά·ΈΉΊ»Ό½ΎΏΐΑΒΓΔΕΖΗΘΙΚΛΜΝΞΟΠΡ\ufffdΣΤΥΦΧΨ".toList
      ++ "ΩΪΫάέήίΰαβγδεζηθικλμνξοπρςστυφχψωϊϋόύώ\ufffd".toList }

/-- The set of ISO 8859, part 8. -/
def iso8859Part8 : CodePage :=
  { names := ["iso8859_8", "csisolatinhebrew", "hebrew", "iso_8859_8", "iso_8859_8_1988",
      "iso_ir_138"]
    high := highControls
      ++ "\u00a0\ufffd¢£¤¥¦§¨©×«¬\u00ad®¯°±²³´µ¶·¸¹÷»¼½¾\ufffd\ufffd\ufffd\ufffd\ufffd".toList
      ++ "\ufffd\ufffd\ufffd\ufffd\ufffd\ufffd\ufffd\ufffd\ufffd\ufffd\ufffd\ufffd".toList
      ++ "\ufffd\ufffd\ufffd\ufffd\ufffd\ufffd\ufffd\ufffd\ufffd\ufffd\ufffd\ufffd".toList
      ++ "\ufffd\ufffd\ufffd‗\u05d0\u05d1\u05d2\u05d3\u05d4\u05d5\u05d6\u05d7\u05d8".toList
      ++ "\u05d9\u05da\u05db\u05dc\u05dd\u05de\u05df\u05e0\u05e1\u05e2\u05e3\u05e4".toList
      ++ "\u05e5\u05e6\u05e7\u05e8\u05e9\u05ea\ufffd\ufffd\u200e\u200f\ufffd".toList }

/-- The set of ISO 8859, part 9. -/
def iso8859Part9 : CodePage :=
  { names := ["iso8859_9", "csisolatin5", "iso_8859_9", "iso_8859_9_1989", "iso_ir_148", "l5",
      "latin5"]
    high := highControls
      ++ "\u00a0¡¢£¤¥¦§¨©ª«¬\u00ad®¯°±²³´µ¶·¸¹º»¼½¾¿ÀÁÂÃÄÅÆÇÈÉÊËÌÍÎÏĞÑÒÓÔÕÖ×ØÙÚÛÜİŞßàáâ".toList
      ++ "ãäåæçèéêëìíîïğñòóôõö÷øùúûüışÿ".toList }

/-- The set of ISO 8859, part 10. -/
def iso8859Part10 : CodePage :=
  { names := ["iso8859_10", "csisolatin6", "iso_8859_10", "iso_8859_10_1992", "iso_ir_157", "l6",
      "latin6"]
    high := highControls
      ++ "\u00a0ĄĒĢĪĨĶ§ĻĐŠŦŽ\u00adŪŊ°ąēģīĩķ·ļđšŧž―ūŋĀÁÂÃÄÅÆĮČÉĘËĖÍÎÏÐŅŌÓÔÕÖŨØŲÚÛÜÝÞßāáâ".toList
      ++ "ãäåæįčéęëėíîïðņōóôõöũøųúûüýþĸ".toList }

/-- The set of ISO 8859, part 11. -/
def iso8859Part11 : CodePage :=
  { names := ["iso8859_11", "thai", "iso_8859_11", "iso_8859_11_2001"]
    high := highControls
      ++ "\u00a0กขฃคฅฆงจฉชซฌญฎฏฐฑฒณดตถทธนบปผฝพฟภมยรฤลฦวศษสหฬอฮฯะ\u0e31าำ\u0e34\u0e35".toList
      ++ "\u0e36\u0e37\u0e38\u0e39\u0e3a\ufffd\ufffd\ufffd\ufffd฿เแโใไๅๆ\u0e47\u0e48".toList
      ++ "\u0e49\u0e4a\u0e4b\u0e4c\u0e4d\u0e4e๏๐๑๒๓๔๕๖๗๘๙๚๛\ufffd\ufffd\ufffd\ufffd".toList }

/-- The set of ISO 8859, part 13. -/
def iso8859Part13 : CodePage :=
  { names := ["iso8859_13", "iso_8859_13", "l7", "latin7"]
    high := highControls
      ++ "\u00a0”¢£¤„¦§Ø©Ŗ«¬\u00ad®Æ°±²³“µ¶·ø¹ŗ»¼½¾æĄĮĀĆÄÅĘĒČÉŹĖĢĶĪĻŠŃŅÓŌÕÖ×ŲŁŚŪÜŻŽßąįā".toList
      ++ "ćäåęēčéźėģķīļšńņóōõö÷ųłśūüżž’".toList }

/-- The set of ISO 8859, part 14. -/
def iso8859Part14 : CodePage :=
  { names := ["iso8859_14", "iso_8859_14", "iso_8859_14_1998", "iso_celtic", "iso_ir_199", "l8",
      "latin8"]
    high := highControls
      ++ "\u00a0Ḃḃ£ĊċḊ§Ẁ©ẂḋỲ\u00ad®ŸḞḟĠġṀṁ¶ṖẁṗẃṠỳẄẅṡÀÁÂÃÄÅÆÇÈÉÊËÌÍÎÏŴÑÒÓÔÕÖṪØÙÚÛÜÝŶßàáâ".toList
      ++ "ãäåæçèéêëìíîïŵñòóôõöṫøùúûüýŷÿ".toList }

/-- The set of ISO 8859, part 15. -/
def iso8859Part15 : CodePage :=
  { names := ["iso8859_15", "iso_8859_15", "l9", "latin9"]
    high := highControls
      ++ "\u00a0¡¢£€¥Š§š©ª«¬\u00ad®¯°±²³Žµ¶·ž¹º»ŒœŸ¿ÀÁÂÃÄÅÆÇÈÉÊËÌÍÎÏÐÑÒÓÔÕÖ×ØÙÚÛÜÝÞßàáâ".toList
      ++ "ãäåæçèéêëìíîïðñòóôõö÷øùúûüýþÿ".toList }

/-- The set of ISO 8859, part 16. -/
def iso8859Part16 : CodePage :=
  { names := ["iso8859_16", "iso_8859_16", "iso_8859_16_2001", "iso_ir_226", "l10", "latin10"]
    high := highControls
      ++ "\u00a0ĄąŁ€„Š§š©Ș«Ź\u00adźŻ°±ČłŽ”¶·žčș»ŒœŸżÀÁÂĂÄĆÆÇÈÉÊËÌÍÎÏĐŃÒÓÔŐÖŚŰÙÚÛÜĘȚßàáâ".toList
      ++ "ăäćæçèéêëìíîïđńòóôőöśűùúûüęțÿ".toList }

/-- The set of code page 1250. -/
def cp1250 : CodePage :=
  { names := ["cp1250", "1250", "windows_1250"]
    high := "€\ufffd‚\ufffd„…†‡\ufffd‰Š‹ŚŤŽŹ\ufffd‘’“”•–—\ufffd™š›śťžź\u00a0ˇ˘Ł¤Ą¦§¨©Ş«¬".toList
      ++ "\u00ad®Ż°±˛ł´µ¶·¸ąş»Ľ˝ľżŔÁÂĂÄĹĆÇČÉĘËĚÍÎĎĐŃŇÓÔŐÖ×ŘŮÚŰÜÝŢßŕáâăäĺćçčéęëěíîďđńňóô".toList
      ++ "őö÷řůúűüýţ˙".toList }

/-- The set of code page 1251. -/
def cp1251 : CodePage :=
  { names := ["cp1251", "1251", "windows_1251"]
    high := "ЂЃ‚ѓ„…†‡€‰Љ‹ЊЌЋЏђ‘’“”•–—\ufffd™љ›њќћџ\u00a0ЎўЈ¤Ґ¦§Ё©Є«¬\u00ad®Ї°±Ііґµ¶·ё№є»јЅ".toList
      ++ "ѕїАБВГДЕЖЗИЙКЛМНОПРСТУФХЦЧШЩЪЫЬЭЮЯабвгдежзийклмнопрстуфхцчшщъыьэюя".toList }

/-- The set of code page 1252. -/
def cp1252 : CodePage :=
  { names := ["cp1252", "1252", "windows_1252"]
    high := "€\ufffd‚ƒ„…†‡ˆ‰Š‹Œ\ufffdŽ\ufffd\ufffd‘’“”•–—˜™š›œ\ufffdžŸ\u00a0¡¢£¤¥¦§¨©ª«¬".toList
      ++ "\u00ad®¯°±²³´µ¶·¸¹º»¼½¾¿ÀÁÂÃÄÅÆÇÈÉÊËÌÍÎÏÐÑÒÓÔÕÖ×ØÙÚÛÜÝÞßàáâãäåæçèéêëìíîïðñòóô".toList
      ++ "õö÷øùúûüýþÿ".toList }

/-- The set of code page 1253. -/
def cp1253 : CodePage :=
  { names := ["cp1253", "1253", "windows_1253"]
    high := "€\ufffd‚ƒ„…†‡\ufffd‰\ufffd‹\ufffd\ufffd\ufffd\ufffd\ufffd‘’“”•–—\ufffd™\ufffd".toList
      ++ "›\ufffd\ufffd\ufffd\ufffd\u00a0΅Ά£¤¥¦§¨©\ufffd«¬\u00ad®―°±²³΄µ¶·ΈΉΊ»Ό½ΎΏΐΑΒΓΔ".toList
      ++ "ΕΖΗΘΙΚΛΜΝΞΟΠΡ\ufffdΣΤΥΦΧΨΩΪΫάέήίΰαβγδεζηθικλμνξοπρςστυφχψωϊϋόύώ\ufffd".toList }

/-- The set of code page 1254. -/
def cp1254 : CodePage :=
  { names := ["cp1254", "1254", "windows_1254"]
    high := "€\ufffd‚ƒ„…†‡ˆ‰Š‹Œ\ufffd\ufffd\ufffd\ufffd‘’“”•–—˜™š›œ\ufffd\ufffdŸ\u00a0¡¢£¤".toList
      ++ "¥¦§¨©ª«¬\u00ad®¯°±²³´µ¶·¸¹º»¼½¾¿ÀÁÂÃÄÅÆÇÈÉÊËÌÍÎÏĞÑÒÓÔÕÖ×ØÙÚÛÜİŞßàáâãäåæçèéêëì".toList
      ++ "íîïğñòóôõö÷øùúûüışÿ".toList }

/-- The set of code page 1255. -/
def cp1255 : CodePage :=
  { names := ["cp1255", "1255", "windows_1255"]
    high := "€\ufffd‚ƒ„…†‡ˆ‰\ufffd‹\ufffd\ufffd\ufffd\ufffd\ufffd‘’“”•–—˜™\ufffd›\ufffd".toList
      ++ "\ufffd\ufffd\ufffd\u00a0¡¢£₪¥¦§¨©×«¬\u00ad®¯°±²³´µ¶·¸¹÷»¼½¾¿\u05b0\u05b1".toList
      ++ "\u05b2\u05b3\u05b4\u05b5\u05b6\u05b7\u05b8\u05b9\ufffd\u05bb\u05bc\u05bd".toList
      ++ "\u05be\u05bf\u05c0\u05c1\u05c2\u05c3\u05f0\u05f1\u05f2\u05f3\u05f4\ufffd".toList
      ++ "\ufffd\ufffd\ufffd\ufffd\ufffd\ufffd\u05d0\u05d1\u05d2\u05d3\u05d4\u05d5".toList
      ++ "\u05d6\u05d7\u05d8\u05d9\u05da\u05db\u05dc\u05dd\u05de\u05df\u05e0\u05e1".toList
      ++ "\u05e2\u05e3\u05e4\u05e5\u05e6\u05e7\u05e8\u05e9\u05ea\ufffd\ufffd\u200e".toList
      ++ "\u200f\ufffd".toList }

/-- The set of code page 1256. -/
def cp1256 : CodePage :=
  { names := ["cp1256", "1256", "windows_1256"]
    high := "€\u067e‚ƒ„…†‡ˆ‰\u0679‹Œ\u0686\u0698\u0688\u06af‘’“”•–—\u06a9™\u0691›œ\u200c".toList
      ++ "\u200d\u06ba\u00a0،¢£¤¥¦§¨©\u06be«¬\u00ad®¯°±²³´µ¶·¸¹\u061b»¼½¾\u061f\u06c1".toList
      ++ "\u0621\u0622\u0623\u0624\u0625\u0626\u0627\u0628\u0629\u062a\u062b\u062c".toList
      ++ "\u062d\u062e\u062f\u0630\u0631\u0632\u0633\u0634\u0635\u0636×\u0637\u0638".toList
      ++ "\u0639\u063a\u0640\u0641\u0642\u0643à\u0644â\u0645\u0646\u0647\u0648çèéêë".toList
      ++ "\u0649\u064aîï\u064b\u064c\u064d\u064eô\u064f\u0650÷\u0651ù\u0652ûü\u200e".toList
      ++ "\u200f\u06d2".toList }

/-- The set of code page 1257. -/
def cp1257 : CodePage :=
  { names := ["cp1257", "1257", "windows_1257"]
    high := "€\ufffd‚\ufffd„…†‡\ufffd‰\ufffd‹\ufffd¨ˇ¸\ufffd‘’“”•–—\ufffd™\ufffd›\ufffd¯˛".toList
      ++ "\ufffd\u00a0\ufffd¢£¤\ufffd¦§Ø©Ŗ«¬\u00ad®Æ°±²³´µ¶·ø¹ŗ»¼½¾æĄĮĀĆÄÅĘĒČÉŹĖĢĶĪĻŠŃŅ".toList
      ++ "ÓŌÕÖ×ŲŁŚŪÜŻŽßąįāćäåęēčéźėģķīļšńņóōõö÷ųłśūüżž˙".toList }

/-- The set of code page 1258. -/
def cp1258 : CodePage :=
  { names := ["cp1258", "1258", "windows_1258"]
    high := "€\ufffd‚ƒ„…†‡ˆ‰\ufffd‹Œ\ufffd\ufffd\ufffd\ufffd‘’“”•–—˜™\ufffd›œ\ufffd\ufffdŸ".toList
      ++ "\u00a0¡¢£¤¥¦§¨©ª«¬\u00ad®¯°±²³´µ¶·¸¹º»¼½¾¿ÀÁÂĂÄÅÆÇÈÉÊË\u0300ÍÎÏĐÑ\u0309ÓÔƠÖ×Ø".toList
      ++ "ÙÚÛÜƯ\u0303ßàáâăäåæçèéêë\u0301íîïđñ\u0323óôơö÷øùúûüư₫ÿ".toList }

/-- The set of KOI8-R. -/
def koi8R : CodePage :=
  { names := ["koi8_r", "cskoi8r"]
    high := "─│┌┐└┘├┤┬┴┼▀▄█▌▐░▒▓⌠■∙√≈≤≥\u00a0⌡°²·÷═║╒ё╓╔╕╖╗╘╙╚╛╜╝╞╟╠╡Ё╢╣╤╥╦╧╨╩╪╫╬©юабцдефг".toList
      ++ "хийклмнопярстужвьызшэщчъЮАБЦДЕФГХИЙКЛМНОПЯРСТУЖВЬЫЗШЭЩЧЪ".toList }

/-- The set of KOI8-U. -/
def koi8U : CodePage :=
  { names := ["koi8_u"]
    high := "─│┌┐└┘├┤┬┴┼▀▄█▌▐░▒▓⌠■∙√≈≤≥\u00a0⌡°²·÷═║╒ёє╔ії╗╘╙╚╛ґ╝╞╟╠╡ЁЄ╣ІЇ╦╧╨╩╪Ґ╬©юабцдефг".toList
      ++ "хийклмнопярстужвьызшэщчъЮАБЦДЕФГХИЙКЛМНОПЯРСТУЖВЬЫЗШЭЩЧЪ".toList }

/-- The set of code page 437. -/
def cp437 : CodePage :=
  { names := ["cp437", "437", "cspc8codepage437", "ibm437"]
    high := "ÇüéâäàåçêëèïîìÄÅÉæÆôöòûùÿÖÜ¢£¥₧ƒáíóúñÑªº¿⌐¬½¼¡«»░▒▓│┤╡╢╖╕╣║╗╝╜╛┐└┴┬├─┼╞╟╚╔╩╦╠".toList
      ++ "═╬╧╨╤╥╙╘╒╓╫╪┘┌█▄▌▐▀αßΓπΣσµτΦΘΩδ∞φε∩≡±≥≤⌠⌡÷≈°∙·√ⁿ²■\u00a0".toList }

/-- The set of code page 850. -/
def cp850 : CodePage :=
  { names := ["cp850", "850", "cspc850multilingual", "ibm850"]
    high := "ÇüéâäàåçêëèïîìÄÅÉæÆôöòûùÿÖÜø£Ø×ƒáíóúñÑªº¿®¬½¼¡«»░▒▓│┤ÁÂÀ©╣║╗╝¢¥┐└┴┬├─┼ãÃ╚╔╩╦╠".toList
      ++ "═╬¤ðÐÊËÈıÍÎÏ┘┌█▄¦Ì▀ÓßÔÒõÕµþÞÚÛÙýÝ¯´\u00ad±‗¾¶§÷¸°¨·¹³²■\u00a0".toList }

/-- The set of code page 852. -/
def cp852 : CodePage :=
  { names := ["cp852", "852", "cspcp852", "ibm852"]
    high := "ÇüéâäůćçłëŐőîŹÄĆÉĹĺôöĽľŚśÖÜŤťŁ×čáíóúĄąŽžĘę¬źČş«»░▒▓│┤ÁÂĚŞ╣║╗╝Żż┐└┴┬├─┼Ăă╚╔╩╦╠".toList
      ++ "═╬¤đĐĎËďŇÍÎě┘┌█▄ŢŮ▀ÓßÔŃńňŠšŔÚŕŰýÝţ´\u00ad˝˛ˇ˘§÷¸°¨˙űŘř■\u00a0".toList }

/-- The set of code page 858. -/
def cp858 : CodePage :=
  { names := ["cp858", "858", "csibm858", "ibm858"]
    high := "ÇüéâäàåçêëèïîìÄÅÉæÆôöòûùÿÖÜø£Ø×ƒáíóúñÑªº¿®¬½¼¡«»░▒▓│┤ÁÂÀ©╣║╗╝¢¥┐└┴┬├─┼ãÃ╚╔╩╦╠".toList
      ++ "═╬¤ðÐÊËÈ€ÍÎÏ┘┌█▄¦Ì▀ÓßÔÒõÕµþÞÚÛÙýÝ¯´\u00ad±‗¾¶§÷¸°¨·¹³²■\u00a0".toList }

/-- The set of code page 866. -/
def cp866 : CodePage :=
  { names := ["cp866", "866", "csibm866", "ibm866"]
    high := "АБВГДЕЖЗИЙКЛМНОПРСТУФХЦЧШЩЪЫЬЭЮЯабвгдежзийклмноп░▒▓│┤╡╢╖╕╣║╗╝╜╛┐└┴┬├─┼╞╟╚╔╩╦╠".toList
      ++ "═╬╧╨╤╥╙╘╒╓╫╪┘┌█▄▌▐▀рстуфхцчшщъыьэюяЁёЄєЇїЎў°∙·√№¤■\u00a0".toList }

/-- The set of the Macintosh. -/
def macRoman : CodePage :=
  { names := ["mac_roman", "macintosh", "macroman"]
    high := "ÄÅÇÉÑÖÜáàâäãåçéèêëíìîïñóòôöõúùûü†°¢£§•¶ß®©™´¨≠ÆØ∞±≤≥¥µ∂∑∏π∫ªºΩæø¿¡¬√ƒ≈∆«»…".toList
      ++ "\u00a0ÀÃÕŒœ–—“”‘’÷◊ÿŸ⁄€‹›ﬁﬂ‡·‚„‰ÂÊÁËÈÍÎÏÌÓÔ\uf8ffÒÚÛÙıˆ˜¯˘˙˚¸˝˛ˇ".toList }

/-- All sets. -/
def codePages : List CodePage := [
  iso8859Part2, iso8859Part3, iso8859Part4, iso8859Part5, iso8859Part6, iso8859Part7,
  iso8859Part8, iso8859Part9, iso8859Part10, iso8859Part11, iso8859Part13, iso8859Part14,
  iso8859Part15, iso8859Part16, cp1250, cp1251, cp1252, cp1253, cp1254, cp1255, cp1256, cp1257,
  cp1258, koi8R, koi8U, cp437, cp850, cp852, cp858, cp866, macRoman]

end AdminConsole.Http
