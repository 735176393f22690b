/-!
# Code pages

The single-byte encodings that extend ASCII, with the names under which they
are known. The names are in lower case with underscores; the upper half gives
the characters of the bytes from 128 on, U+FFFD standing for a byte without a
character. A page without upper half has ASCII characters only.
-/

namespace SolutionScript.Xml

/-- A single-byte encoding that extends ASCII. -/
structure CodePage where
  names : List String
  upperHalf : String

/-- The single-byte encodings that extend ASCII. -/
def codePages : List CodePage := [
  ⟨[
    "ascii", "646", "ansi_x3.4_1968", "ansi_x3.4_1986", "ansi_x3_4_1968", "cp367", "csascii",
    "ibm367", "iso646_us", "iso_646.irv_1991", "iso_ir_6", "us", "us_ascii", "iso2022_jp",
    "csiso2022jp", "iso2022jp", "iso_2022_jp", "iso2022_jp_1", "iso2022jp_1", "iso_2022_jp_1",
    "iso2022_jp_2", "iso2022jp_2", "iso_2022_jp_2", "iso2022_jp_2004", "iso2022jp_2004",
    "iso_2022_jp_2004", "iso2022_jp_3", "iso2022jp_3", "iso_2022_jp_3", "iso2022_jp_ext",
    "iso2022jp_ext", "iso_2022_jp_ext", "utf_8", "cp65001", "u8", "utf", "utf8", "utf8_ucs2",
    "utf8_ucs4", "utf_8_sig", "hz", "hz_gb", "hz_gb_2312", "hzgb"],
    ""⟩,
  ⟨[
    "cp1006"],
    ("\u0080\u0081\u0082\u0083\u0084\u0085\u0086\u0087\u0088\u0089\u008a\u008b\u008c\u008d\u008e\u008f" ++
    "\u0090\u0091\u0092\u0093\u0094\u0095\u0096\u0097\u0098\u0099\u009a\u009b\u009c\u009d\u009e\u009f" ++
    "\u00a0۰۱۲۳۴۵۶۷۸۹،\u061b\u00ad\u061f\ufe81" ++
    "\ufe8d\ufe8e\ufe8e\ufe8f\ufe91\ufb56\ufb58\ufe93\ufe95\ufe97\ufb66\ufb68\ufe99\ufe9b\ufe9d\ufe9f" ++
    "\ufb7a\ufb7c\ufea1\ufea3\ufea5\ufea7\ufea9\ufb84\ufeab\ufead\ufb8c\ufeaf\ufb8a\ufeb1\ufeb3\ufeb5" ++
    "\ufeb7\ufeb9\ufebb\ufebd\ufebf\ufec1\ufec5\ufec9\ufeca\ufecb\ufecc\ufecd\ufece\ufecf\ufed0\ufed1" ++
    "\ufed3\ufed5\ufed7\ufed9\ufedb\ufb92\ufb94\ufedd\ufedf\ufee0\ufee1\ufee3\ufb9e\ufee5\ufee7\ufe85" ++
    "\ufeed\ufba6\ufba8\ufba9\ufbaa\ufe80\ufe89\ufe8a\ufe8b\ufef1\ufef2\ufef3\ufbb0\ufbae\ufe7c\ufe7d")⟩,
  ⟨[
    "cp1125", "1125", "cp866u", "ibm1125", "ruscii"],
    ("АБВГДЕЖЗИЙКЛМНОП" ++
    "РСТУФХЦЧШЩЪЫЬЭЮЯ" ++
    "абвгдежзийклмноп" ++
    "░▒▓│┤╡╢╖╕╣║╗╝╜╛┐" ++
    "└┴┬├─┼╞╟╚╔╩╦╠═╬╧" ++
    "╨╤╥╙╘╒╓╫╪┘┌█▄▌▐▀" ++
    "рстуфхцчшщъыьэюя" ++
    "ЁёҐґЄєІіЇї·√№¤■\u00a0")⟩,
  ⟨[
    "cp1250", "1250", "windows_1250"],
    ("€\ufffd‚\ufffd„…†‡\ufffd‰Š‹ŚŤŽŹ" ++
    "\ufffd‘’“”•–—\ufffd™š›śťžź" ++
    "\u00a0ˇ˘Ł¤Ą¦§¨©Ş«¬\u00ad®Ż" ++
    "°±˛ł´µ¶·¸ąş»Ľ˝ľż" ++
    "ŔÁÂĂÄĹĆÇČÉĘËĚÍÎĎ" ++
    "ĐŃŇÓÔŐÖ×ŘŮÚŰÜÝŢß" ++
    "ŕáâăäĺćçčéęëěíîď" ++
    "đńňóôőö÷řůúűüýţ˙")⟩,
  ⟨[
    "cp1251", "1251", "windows_1251"],
    ("ЂЃ‚ѓ„…†‡€‰Љ‹ЊЌЋЏ" ++
    "ђ‘’“”•–—\ufffd™љ›њќћџ" ++
    "\u00a0ЎўЈ¤Ґ¦§Ё©Є«¬\u00ad®Ї" ++
    "°±Ііґµ¶·ё№є»јЅѕї" ++
    "АБВГДЕЖЗИЙКЛМНОП" ++
    "РСТУФХЦЧШЩЪЫЬЭЮЯ" ++
    "абвгдежзийклмноп" ++
    "рстуфхцчшщъыьэюя")⟩,
  ⟨[
    "cp1252", "1252", "windows_1252"],
    ("€\ufffd‚ƒ„…†‡ˆ‰Š‹Œ\ufffdŽ\ufffd" ++
    "\ufffd‘’“”•–—˜™š›œ\ufffdžŸ" ++
    "\u00a0¡¢£¤¥¦§¨©ª«¬\u00ad®¯" ++
    "°±²³´µ¶·¸¹º»¼½¾¿" ++
    "ÀÁÂÃÄÅÆÇÈÉÊËÌÍÎÏ" ++
    "ÐÑÒÓÔÕÖ×ØÙÚÛÜÝÞß" ++
    "àáâãäåæçèéêëìíîï" ++
    "ðñòóôõö÷øùúûüýþÿ")⟩,
  ⟨[
    "cp1253", "1253", "windows_1253"],
    ("€\ufffd‚ƒ„…†‡\ufffd‰\ufffd‹\ufffd\ufffd\ufffd\ufffd" ++
    "\ufffd‘’“”•–—\ufffd™\ufffd›\ufffd\ufffd\ufffd\ufffd" ++
    "\u00a0΅Ά£¤¥¦§¨©\ufffd«¬\u00ad®―" ++
    "°±²³΄µ¶·ΈΉΊ»Ό½ΎΏ" ++
    "ΐΑΒΓΔΕΖΗΘΙΚΛΜΝΞΟ" ++
    "ΠΡ\ufffdΣΤΥΦΧΨΩΪΫάέήί" ++
    "ΰαβγδεζηθικλμνξο" ++
    "πρςστυφχψωϊϋόύώ\ufffd")⟩,
  ⟨[
    "cp1254", "1254", "windows_1254"],
    ("€\ufffd‚ƒ„…†‡ˆ‰Š‹Œ\ufffd\ufffd\ufffd" ++
    "\ufffd‘’“”•–—˜™š›œ\ufffd\ufffdŸ" ++
    "\u00a0¡¢£¤¥¦§¨©ª«¬\u00ad®¯" ++
    "°±²³´µ¶·¸¹º»¼½¾¿" ++
    "ÀÁÂÃÄÅÆÇÈÉÊËÌÍÎÏ" ++
    "ĞÑÒÓÔÕÖ×ØÙÚÛÜİŞß" ++
    "àáâãäåæçèéêëìíîï" ++
    "ğñòóôõö÷øùúûüışÿ")⟩,
  ⟨[
    "cp1255", "1255", "windows_1255"],
    ("€\ufffd‚ƒ„…†‡ˆ‰\ufffd‹\ufffd\ufffd\ufffd\ufffd" ++
    "\ufffd‘’“”•–—˜™\ufffd›\ufffd\ufffd\ufffd\ufffd" ++
    "\u00a0¡¢£₪¥¦§¨©×«¬\u00ad®¯" ++
    "°±²³´µ¶·¸¹÷»¼½¾¿" ++
    "\u05b0\u05b1\u05b2\u05b3\u05b4\u05b5\u05b6\u05b7\u05b8\u05b9\ufffd\u05bb\u05bc\u05bd\u05be\u05bf" ++
    "\u05c0\u05c1\u05c2\u05c3\u05f0\u05f1\u05f2\u05f3\u05f4\ufffd\ufffd\ufffd\ufffd\ufffd\ufffd\ufffd" ++
    "\u05d0\u05d1\u05d2\u05d3\u05d4\u05d5\u05d6\u05d7\u05d8\u05d9\u05da\u05db\u05dc\u05dd\u05de\u05df" ++
    "\u05e0\u05e1\u05e2\u05e3\u05e4\u05e5\u05e6\u05e7\u05e8\u05e9\u05ea\ufffd\ufffd\u200e\u200f\ufffd")⟩,
  ⟨[
    "cp1256", "1256", "windows_1256"],
    ("€\u067e‚ƒ„…†‡ˆ‰\u0679‹Œ\u0686\u0698\u0688" ++
    "\u06af‘’“”•–—\u06a9™\u0691›œ\u200c\u200d\u06ba" ++
    "\u00a0،¢£¤¥¦§¨©\u06be«¬\u00ad®¯" ++
    "°±²³´µ¶·¸¹\u061b»¼½¾\u061f" ++
    "\u06c1\u0621\u0622\u0623\u0624\u0625\u0626\u0627\u0628\u0629\u062a\u062b\u062c\u062d\u062e\u062f" ++
    "\u0630\u0631\u0632\u0633\u0634\u0635\u0636×\u0637\u0638\u0639\u063a\u0640\u0641\u0642\u0643" ++
    "à\u0644â\u0645\u0646\u0647\u0648çèéêë\u0649\u064aîï" ++
    "\u064b\u064c\u064d\u064eô\u064f\u0650÷\u0651ù\u0652ûü\u200e\u200f\u06d2")⟩,
  ⟨[
    "cp1257", "1257", "windows_1257"],
    ("€\ufffd‚\ufffd„…†‡\ufffd‰\ufffd‹\ufffd¨ˇ¸" ++
    "\ufffd‘’“”•–—\ufffd™\ufffd›\ufffd¯˛\ufffd" ++
    "\u00a0\ufffd¢£¤\ufffd¦§Ø©Ŗ«¬\u00ad®Æ" ++
    "°±²³´µ¶·ø¹ŗ»¼½¾æ" ++
    "ĄĮĀĆÄÅĘĒČÉŹĖĢĶĪĻ" ++
    "ŠŃŅÓŌÕÖ×ŲŁŚŪÜŻŽß" ++
    "ąįāćäåęēčéźėģķīļ" ++
    "šńņóōõö÷ųłśūüżž˙")⟩,
  ⟨[
    "cp1258", "1258", "windows_1258"],
    ("€\ufffd‚ƒ„…†‡ˆ‰\ufffd‹Œ\ufffd\ufffd\ufffd" ++
    "\ufffd‘’“”•–—˜™\ufffd›œ\ufffd\ufffdŸ" ++
    "\u00a0¡¢£¤¥¦§¨©ª«¬\u00ad®¯" ++
    "°±²³´µ¶·¸¹º»¼½¾¿" ++
    "ÀÁÂĂÄÅÆÇÈÉÊË\u0300ÍÎÏ" ++
    "ĐÑ\u0309ÓÔƠÖ×ØÙÚÛÜƯ\u0303ß" ++
    "àáâăäåæçèéêë\u0301íîï" ++
    "đñ\u0323óôơö÷øùúûüư₫ÿ")⟩,
  ⟨[
    "cp437", "437", "cspc8codepage437", "ibm437"],
    ("ÇüéâäàåçêëèïîìÄÅ" ++
    "ÉæÆôöòûùÿÖÜ¢£¥₧ƒ" ++
    "áíóúñÑªº¿⌐¬½¼¡«»" ++
    "░▒▓│┤╡╢╖╕╣║╗╝╜╛┐" ++
    "└┴┬├─┼╞╟╚╔╩╦╠═╬╧" ++
    "╨╤╥╙╘╒╓╫╪┘┌█▄▌▐▀" ++
    "αßΓπΣσµτΦΘΩδ∞φε∩" ++
    "≡±≥≤⌠⌡÷≈°∙·√ⁿ²■\u00a0")⟩,
  ⟨[
    "cp720"],
    ("\u0080\u0081éâ\u0084à\u0086çêëèïî\u008d\u008e\u008f" ++
    "\u0090\u0651\u0652ô¤\u0640ûù\u0621\u0622\u0623\u0624£\u0625\u0626\u0627" ++
    "\u0628\u0629\u062a\u062b\u062c\u062d\u062e\u062f\u0630\u0631\u0632\u0633\u0634\u0635«»" ++
    "░▒▓│┤╡╢╖╕╣║╗╝╜╛┐" ++
    "└┴┬├─┼╞╟╚╔╩╦╠═╬╧" ++
    "╨╤╥╙╘╒╓╫╪┘┌█▄▌▐▀" ++
    "\u0636\u0637\u0638\u0639\u063a\u0641µ\u0642\u0643\u0644\u0645\u0646\u0647\u0648\u0649\u064a" ++
    "≡\u064b\u064c\u064d\u064e\u064f\u0650≈°∙·√ⁿ²■\u00a0")⟩,
  ⟨[
    "cp737"],
    ("ΑΒΓΔΕΖΗΘΙΚΛΜΝΞΟΠ" ++
    "ΡΣΤΥΦΧΨΩαβγδεζηθ" ++
    "ικλμνξοπρσςτυφχψ" ++
    "░▒▓│┤╡╢╖╕╣║╗╝╜╛┐" ++
    "└┴┬├─┼╞╟╚╔╩╦╠═╬╧" ++
    "╨╤╥╙╘╒╓╫╪┘┌█▄▌▐▀" ++
    "ωάέήϊίόύϋώΆΈΉΊΌΎ" ++
    "Ώ±≥≤ΪΫ÷≈°∙·√ⁿ²■\u00a0")⟩,
  ⟨[
    "cp775", "775", "cspc775baltic", "ibm775"],
    ("ĆüéāäģåćłēŖŗīŹÄÅ" ++
    "ÉæÆōöĢ¢ŚśÖÜø£Ø×¤" ++
    "ĀĪóŻżź”¦©®¬½¼Ł«»" ++
    "░▒▓│┤ĄČĘĖ╣║╗╝ĮŠ┐" ++
    "└┴┬├─┼ŲŪ╚╔╩╦╠═╬Ž" ++
    "ąčęėįšųūž┘┌█▄▌▐▀" ++
    "ÓßŌŃõÕµńĶķĻļņĒŅ’" ++
    "\u00ad±“¾¶§÷„°∙·¹³²■\u00a0")⟩,
  ⟨[
    "cp850", "850", "cspc850multilingual", "ibm850"],
    ("ÇüéâäàåçêëèïîìÄÅ" ++
    "ÉæÆôöòûùÿÖÜø£Ø×ƒ" ++
    "áíóúñÑªº¿®¬½¼¡«»" ++
    "░▒▓│┤ÁÂÀ©╣║╗╝¢¥┐" ++
    "└┴┬├─┼ãÃ╚╔╩╦╠═╬¤" ++
    "ðÐÊËÈıÍÎÏ┘┌█▄¦Ì▀" ++
    "ÓßÔÒõÕµþÞÚÛÙýÝ¯´" ++
    "\u00ad±‗¾¶§÷¸°¨·¹³²■\u00a0")⟩,
  ⟨[
    "cp852", "852", "cspcp852", "ibm852"],
    ("ÇüéâäůćçłëŐőîŹÄĆ" ++
    "ÉĹĺôöĽľŚśÖÜŤťŁ×č" ++
    "áíóúĄąŽžĘę¬źČş«»" ++
    "░▒▓│┤ÁÂĚŞ╣║╗╝Żż┐" ++
    "└┴┬├─┼Ăă╚╔╩╦╠═╬¤" ++
    "đĐĎËďŇÍÎě┘┌█▄ŢŮ▀" ++
    "ÓßÔŃńňŠšŔÚŕŰýÝţ´" ++
    "\u00ad˝˛ˇ˘§÷¸°¨˙űŘř■\u00a0")⟩,
  ⟨[
    "cp855", "855", "csibm855", "ibm855"],
    ("ђЂѓЃёЁєЄѕЅіІїЇјЈ" ++
    "љЉњЊћЋќЌўЎџЏюЮъЪ" ++
    "аАбБцЦдДеЕфФгГ«»" ++
    "░▒▓│┤хХиИ╣║╗╝йЙ┐" ++
    "└┴┬├─┼кК╚╔╩╦╠═╬¤" ++
    "лЛмМнНоОп┘┌█▄Пя▀" ++
    "ЯрРсСтТуУжЖвВьЬ№" ++
    "\u00adыЫзЗшШэЭщЩчЧ§■\u00a0")⟩,
  ⟨[
    "cp856"],
    ("\u05d0\u05d1\u05d2\u05d3\u05d4\u05d5\u05d6\u05d7\u05d8\u05d9\u05da\u05db\u05dc\u05dd\u05de\u05df" ++
    "\u05e0\u05e1\u05e2\u05e3\u05e4\u05e5\u05e6\u05e7\u05e8\u05e9\u05ea\ufffd£\ufffd×\ufffd" ++
    "\ufffd\ufffd\ufffd\ufffd\ufffd\ufffd\ufffd\ufffd\ufffd®¬½¼\ufffd«»" ++
    "░▒▓│┤\ufffd\ufffd\ufffd©╣║╗╝¢¥┐" ++
    "└┴┬├─┼\ufffd\ufffd╚╔╩╦╠═╬¤" ++
    "\ufffd\ufffd\ufffd\ufffd\ufffd\ufffd\ufffd\ufffd\ufffd┘┌█▄¦\ufffd▀" ++
    "\ufffd\ufffd\ufffd\ufffd\ufffd\ufffdµ\ufffd\ufffd\ufffd\ufffd\ufffd\ufffd\ufffd¯´" ++
    "\u00ad±‗¾¶§÷¸°¨·¹³²■\u00a0")⟩,
  ⟨[
    "cp857", "857", "csibm857", "ibm857"],
    ("ÇüéâäàåçêëèïîıÄÅ" ++
    "ÉæÆôöòûùİÖÜø£ØŞş" ++
    "áíóúñÑĞğ¿®¬½¼¡«»" ++
    "░▒▓│┤ÁÂÀ©╣║╗╝¢¥┐" ++
    "└┴┬├─┼ãÃ╚╔╩╦╠═╬¤" ++
    "ºªÊËÈ\ufffdÍÎÏ┘┌█▄¦Ì▀" ++
    "ÓßÔÒõÕµ\ufffd×ÚÛÙìÿ¯´" ++
    "\u00ad±\ufffd¾¶§÷¸°¨·¹³²■\u00a0")⟩,
  ⟨[
    "cp858", "858", "csibm858", "ibm858"],
    ("ÇüéâäàåçêëèïîìÄÅ" ++
    "ÉæÆôöòûùÿÖÜø£Ø×ƒ" ++
    "áíóúñÑªº¿®¬½¼¡«»" ++
    "░▒▓│┤ÁÂÀ©╣║╗╝¢¥┐" ++
    "└┴┬├─┼ãÃ╚╔╩╦╠═╬¤" ++
    "ðÐÊËÈ€ÍÎÏ┘┌█▄¦Ì▀" ++
    "ÓßÔÒõÕµþÞÚÛÙýÝ¯´" ++
    "\u00ad±‗¾¶§÷¸°¨·¹³²■\u00a0")⟩,
  ⟨[
    "cp860", "860", "csibm860", "ibm860"],
    ("ÇüéâãàÁçêÊèÍÔìÃÂ" ++
    "ÉÀÈôõòÚùÌÕÜ¢£Ù₧Ó" ++
    "áíóúñÑªº¿Ò¬½¼¡«»" ++
    "░▒▓│┤╡╢╖╕╣║╗╝╜╛┐" ++
    "└┴┬├─┼╞╟╚╔╩╦╠═╬╧" ++
    "╨╤╥╙╘╒╓╫╪┘┌█▄▌▐▀" ++
    "αßΓπΣσµτΦΘΩδ∞φε∩" ++
    "≡±≥≤⌠⌡÷≈°∙·√ⁿ²■\u00a0")⟩,
  ⟨[
    "cp861", "861", "cp_is", "csibm861", "ibm861"],
    ("ÇüéâäàåçêëèÐðÞÄÅ" ++
    "ÉæÆôöþûÝýÖÜø£Ø₧ƒ" ++
    "áíóúÁÍÓÚ¿⌐¬½¼¡«»" ++
    "░▒▓│┤╡╢╖╕╣║╗╝╜╛┐" ++
    "└┴┬├─┼╞╟╚╔╩╦╠═╬╧" ++
    "╨╤╥╙╘╒╓╫╪┘┌█▄▌▐▀" ++
    "αßΓπΣσµτΦΘΩδ∞φε∩" ++
    "≡±≥≤⌠⌡÷≈°∙·√ⁿ²■\u00a0")⟩,
  ⟨[
    "cp862", "862", "cspc862latinhebrew", "ibm862"],
    ("\u05d0\u05d1\u05d2\u05d3\u05d4\u05d5\u05d6\u05d7\u05d8\u05d9\u05da\u05db\u05dc\u05dd\u05de\u05df" ++
    "\u05e0\u05e1\u05e2\u05e3\u05e4\u05e5\u05e6\u05e7\u05e8\u05e9\u05ea¢£¥₧ƒ" ++
    "áíóúñÑªº¿⌐¬½¼¡«»" ++
    "░▒▓│┤╡╢╖╕╣║╗╝╜╛┐" ++
    "└┴┬├─┼╞╟╚╔╩╦╠═╬╧" ++
    "╨╤╥╙╘╒╓╫╪┘┌█▄▌▐▀" ++
    "αßΓπΣσµτΦΘΩδ∞φε∩" ++
    "≡±≥≤⌠⌡÷≈°∙·√ⁿ²■\u00a0")⟩,
  ⟨[
    "cp863", "863", "csibm863", "ibm863"],
    ("ÇüéâÂà¶çêëèïî‗À§" ++
    "ÉÈÊôËÏûù¤ÔÜ¢£ÙÛƒ" ++
    "¦´óú¨¸³¯Î⌐¬½¼¾«»" ++
    "░▒▓│┤╡╢╖╕╣║╗╝╜╛┐" ++
    "└┴┬├─┼╞╟╚╔╩╦╠═╬╧" ++
    "╨╤╥╙╘╒╓╫╪┘┌█▄▌▐▀" ++
    "αßΓπΣσµτΦΘΩδ∞φε∩" ++
    "≡±≥≤⌠⌡÷≈°∙·√ⁿ²■\u00a0")⟩,
  ⟨[
    "cp865", "865", "csibm865", "ibm865"],
    ("ÇüéâäàåçêëèïîìÄÅ" ++
    "ÉæÆôöòûùÿÖÜø£Ø₧ƒ" ++
    "áíóúñÑªº¿⌐¬½¼¡«¤" ++
    "░▒▓│┤╡╢╖╕╣║╗╝╜╛┐" ++
    "└┴┬├─┼╞╟╚╔╩╦╠═╬╧" ++
    "╨╤╥╙╘╒╓╫╪┘┌█▄▌▐▀" ++
    "αßΓπΣσµτΦΘΩδ∞φε∩" ++
    "≡±≥≤⌠⌡÷≈°∙·√ⁿ²■\u00a0")⟩,
  ⟨[
    "cp866", "866", "csibm866", "ibm866"],
    ("АБВГДЕЖЗИЙКЛМНОП" ++
    "РСТУФХЦЧШЩЪЫЬЭЮЯ" ++
    "абвгдежзийклмноп" ++
    "░▒▓│┤╡╢╖╕╣║╗╝╜╛┐" ++
    "└┴┬├─┼╞╟╚╔╩╦╠═╬╧" ++
    "╨╤╥╙╘╒╓╫╪┘┌█▄▌▐▀" ++
    "рстуфхцчшщъыьэюя" ++
    "ЁёЄєЇїЎў°∙·√№¤■\u00a0")⟩,
  ⟨[
    "cp869", "869", "cp_gr", "csibm869", "ibm869"],
    ("\ufffd\ufffd\ufffd\ufffd\ufffd\ufffdΆ\ufffd·¬¦‘’Έ―Ή" ++
    "ΊΪΌ\ufffd\ufffdΎΫ©Ώ²³ά£έήί" ++
    "ϊΐόύΑΒΓΔΕΖΗ½ΘΙ«»" ++
    "░▒▓│┤ΚΛΜΝ╣║╗╝ΞΟ┐" ++
    "└┴┬├─┼ΠΡ╚╔╩╦╠═╬Σ" ++
    "ΤΥΦΧΨΩαβγ┘┌█▄δε▀" ++
    "ζηθικλμνξοπρσςτ΄" ++
    "\u00ad±υφχ§ψ΅°¨ωϋΰώ■\u00a0")⟩,
  ⟨[
    "cp874"],
    ("€\ufffd\ufffd\ufffd\ufffd…\ufffd\ufffd\ufffd\ufffd\ufffd\ufffd\ufffd\ufffd\ufffd\ufffd" ++
    "\ufffd‘’“”•–—\ufffd\ufffd\ufffd\ufffd\ufffd\ufffd\ufffd\ufffd" ++
    "\u00a0กขฃคฅฆงจฉชซฌญฎฏ" ++
    "ฐฑฒณดตถทธนบปผฝพฟ" ++
    "ภมยรฤลฦวศษสหฬอฮฯ" ++
    "ะ\u0e31าำ\u0e34\u0e35\u0e36\u0e37\u0e38\u0e39\u0e3a\ufffd\ufffd\ufffd\ufffd฿" ++
    "เแโใไๅๆ\u0e47\u0e48\u0e49\u0e4a\u0e4b\u0e4c\u0e4d\u0e4e๏" ++
    "๐๑๒๓๔๕๖๗๘๙๚๛\ufffd\ufffd\ufffd\ufffd")⟩,
  ⟨[
    "hp_roman8", "cp1051", "csHPRoman8", "ibm1051", "r8", "roman8"],
    ("\u0080\u0081\u0082\u0083\u0084\u0085\u0086\u0087\u0088\u0089\u008a\u008b\u008c\u008d\u008e\u008f" ++
    "\u0090\u0091\u0092\u0093\u0094\u0095\u0096\u0097\u0098\u0099\u009a\u009b\u009c\u009d\u009e\u009f" ++
    "\u00a0ÀÂÈÊËÎÏ´ˋˆ¨˜ÙÛ₤" ++
    "¯Ýý°ÇçÑñ¡¿¤£¥§ƒ¢" ++
    "âêôûáéóúàèòùäëöü" ++
    "ÅîØÆåíøæÄìÖÜÉïßÔ" ++
    "ÁÃãÐðÍÌÓÒÕõŠšÚŸÿ" ++
    "Þþ·µ¶¾—¼½ªº«■»±\ufffd")⟩,
  ⟨[
    "iso8859_1", "latin_1", "8859", "cp819", "csisolatin1", "ibm819", "iso8859", "iso8859_1",
    "iso_8859_1", "iso_8859_1_1987", "iso_ir_100", "l1", "latin", "latin1", "charmap",
    "raw_unicode_escape", "unicode_escape"],
    ("\u0080\u0081\u0082\u0083\u0084\u0085\u0086\u0087\u0088\u0089\u008a\u008b\u008c\u008d\u008e\u008f" ++
    "\u0090\u0091\u0092\u0093\u0094\u0095\u0096\u0097\u0098\u0099\u009a\u009b\u009c\u009d\u009e\u009f" ++
    "\u00a0¡¢£¤¥¦§¨©ª«¬\u00ad®¯" ++
    "°±²³´µ¶·¸¹º»¼½¾¿" ++
    "ÀÁÂÃÄÅÆÇÈÉÊËÌÍÎÏ" ++
    "ÐÑÒÓÔÕÖ×ØÙÚÛÜÝÞß" ++
    "àáâãäåæçèéêëìíîï" ++
    "ðñòóôõö÷øùúûüýþÿ")⟩,
  ⟨[
    "iso8859_10", "csisolatin6", "iso_8859_10", "iso_8859_10_1992", "iso_ir_157", "l6", "latin6"],
    ("\u0080\u0081\u0082\u0083\u0084\u0085\u0086\u0087\u0088\u0089\u008a\u008b\u008c\u008d\u008e\u008f" ++
    "\u0090\u0091\u0092\u0093\u0094\u0095\u0096\u0097\u0098\u0099\u009a\u009b\u009c\u009d\u009e\u009f" ++
    "\u00a0ĄĒĢĪĨĶ§ĻĐŠŦŽ\u00adŪŊ" ++
    "°ąēģīĩķ·ļđšŧž―ūŋ" ++
    "ĀÁÂÃÄÅÆĮČÉĘËĖÍÎÏ" ++
    "ÐŅŌÓÔÕÖŨØŲÚÛÜÝÞß" ++
    "āáâãäåæįčéęëėíîï" ++
    "ðņōóôõöũøųúûüýþĸ")⟩,
  ⟨[
    "iso8859_11", "iso_8859_11", "iso_8859_11_2001", "thai"],
    ("\u0080\u0081\u0082\u0083\u0084\u0085\u0086\u0087\u0088\u0089\u008a\u008b\u008c\u008d\u008e\u008f" ++
    "\u0090\u0091\u0092\u0093\u0094\u0095\u0096\u0097\u0098\u0099\u009a\u009b\u009c\u009d\u009e\u009f" ++
    "\u00a0กขฃคฅฆงจฉชซฌญฎฏ" ++
    "ฐฑฒณดตถทธนบปผฝพฟ" ++
    "ภมยรฤลฦวศษสหฬอฮฯ" ++
    "ะ\u0e31าำ\u0e34\u0e35\u0e36\u0e37\u0e38\u0e39\u0e3a\ufffd\ufffd\ufffd\ufffd฿" ++
    "เแโใไๅๆ\u0e47\u0e48\u0e49\u0e4a\u0e4b\u0e4c\u0e4d\u0e4e๏" ++
    "๐๑๒๓๔๕๖๗๘๙๚๛\ufffd\ufffd\ufffd\ufffd")⟩,
  ⟨[
    "iso8859_13", "iso_8859_13", "l7", "latin7"],
    ("\u0080\u0081\u0082\u0083\u0084\u0085\u0086\u0087\u0088\u0089\u008a\u008b\u008c\u008d\u008e\u008f" ++
    "\u0090\u0091\u0092\u0093\u0094\u0095\u0096\u0097\u0098\u0099\u009a\u009b\u009c\u009d\u009e\u009f" ++
    "\u00a0”¢£¤„¦§Ø©Ŗ«¬\u00ad®Æ" ++
    "°±²³“µ¶·ø¹ŗ»¼½¾æ" ++
    "ĄĮĀĆÄÅĘĒČÉŹĖĢĶĪĻ" ++
    "ŠŃŅÓŌÕÖ×ŲŁŚŪÜŻŽß" ++
    "ąįāćäåęēčéźėģķīļ" ++
    "šńņóōõö÷ųłśūüżž’")⟩,
  ⟨[
    "iso8859_14", "iso_8859_14", "iso_8859_14_1998", "iso_celtic", "iso_ir_199", "l8", "latin8"],
    ("\u0080\u0081\u0082\u0083\u0084\u0085\u0086\u0087\u0088\u0089\u008a\u008b\u008c\u008d\u008e\u008f" ++
    "\u0090\u0091\u0092\u0093\u0094\u0095\u0096\u0097\u0098\u0099\u009a\u009b\u009c\u009d\u009e\u009f" ++
    "\u00a0Ḃḃ£ĊċḊ§Ẁ©ẂḋỲ\u00ad®Ÿ" ++
    "ḞḟĠġṀṁ¶ṖẁṗẃṠỳẄẅṡ" ++
    "ÀÁÂÃÄÅÆÇÈÉÊËÌÍÎÏ" ++
    "ŴÑÒÓÔÕÖṪØÙÚÛÜÝŶß" ++
    "àáâãäåæçèéêëìíîï" ++
    "ŵñòóôõöṫøùúûüýŷÿ")⟩,
  ⟨[
    "iso8859_15", "iso_8859_15", "l9", "latin9"],
    ("\u0080\u0081\u0082\u0083\u0084\u0085\u0086\u0087\u0088\u0089\u008a\u008b\u008c\u008d\u008e\u008f" ++
    "\u0090\u0091\u0092\u0093\u0094\u0095\u0096\u0097\u0098\u0099\u009a\u009b\u009c\u009d\u009e\u009f" ++
    "\u00a0¡¢£€¥Š§š©ª«¬\u00ad®¯" ++
    "°±²³Žµ¶·ž¹º»ŒœŸ¿" ++
    "ÀÁÂÃÄÅÆÇÈÉÊËÌÍÎÏ" ++
    "ÐÑÒÓÔÕÖ×ØÙÚÛÜÝÞß" ++
    "àáâãäåæçèéêëìíîï" ++
    "ðñòóôõö÷øùúûüýþÿ")⟩,
  ⟨[
    "iso8859_16", "iso_8859_16", "iso_8859_16_2001", "iso_ir_226", "l10", "latin10"],
    ("\u0080\u0081\u0082\u0083\u0084\u0085\u0086\u0087\u0088\u0089\u008a\u008b\u008c\u008d\u008e\u008f" ++
    "\u0090\u0091\u0092\u0093\u0094\u0095\u0096\u0097\u0098\u0099\u009a\u009b\u009c\u009d\u009e\u009f" ++
    "\u00a0ĄąŁ€„Š§š©Ș«Ź\u00adźŻ" ++
    "°±ČłŽ”¶·žčș»ŒœŸż" ++
    "ÀÁÂĂÄĆÆÇÈÉÊËÌÍÎÏ" ++
    "ĐŃÒÓÔŐÖŚŰÙÚÛÜĘȚß" ++
    "àáâăäćæçèéêëìíîï" ++
    "đńòóôőöśűùúûüęțÿ")⟩,
  ⟨[
    "iso8859_2", "csisolatin2", "iso_8859_2", "iso_8859_2_1987", "iso_ir_101", "l2", "latin2"],
    ("\u0080\u0081\u0082\u0083\u0084\u0085\u0086\u0087\u0088\u0089\u008a\u008b\u008c\u008d\u008e\u008f" ++
    "\u0090\u0091\u0092\u0093\u0094\u0095\u0096\u0097\u0098\u0099\u009a\u009b\u009c\u009d\u009e\u009f" ++
    "\u00a0Ą˘Ł¤ĽŚ§¨ŠŞŤŹ\u00adŽŻ" ++
    "°ą˛ł´ľśˇ¸šşťź˝žż" ++
    "ŔÁÂĂÄĹĆÇČÉĘËĚÍÎĎ" ++
    "ĐŃŇÓÔŐÖ×ŘŮÚŰÜÝŢß" ++
    "ŕáâăäĺćçčéęëěíîď" ++
    "đńňóôőö÷řůúűüýţ˙")⟩,
  ⟨[
    "iso8859_3", "csisolatin3", "iso_8859_3", "iso_8859_3_1988", "iso_ir_109", "l3", "latin3"],
    ("\u0080\u0081\u0082\u0083\u0084\u0085\u0086\u0087\u0088\u0089\u008a\u008b\u008c\u008d\u008e\u008f" ++
    "\u0090\u0091\u0092\u0093\u0094\u0095\u0096\u0097\u0098\u0099\u009a\u009b\u009c\u009d\u009e\u009f" ++
    "\u00a0Ħ˘£¤\ufffdĤ§¨İŞĞĴ\u00ad\ufffdŻ" ++
    "°ħ²³´µĥ·¸ışğĵ½\ufffdż" ++
    "ÀÁÂ\ufffdÄĊĈÇÈÉÊËÌÍÎÏ" ++
    "\ufffdÑÒÓÔĠÖ×ĜÙÚÛÜŬŜß" ++
    "àáâ\ufffdäċĉçèéêëìíîï" ++
    "\ufffdñòóôġö÷ĝùúûüŭŝ˙")⟩,
  ⟨[
    "iso8859_4", "csisolatin4", "iso_8859_4", "iso_8859_4_1988", "iso_ir_110", "l4", "latin4"],
    ("\u0080\u0081\u0082\u0083\u0084\u0085\u0086\u0087\u0088\u0089\u008a\u008b\u008c\u008d\u008e\u008f" ++
    "\u0090\u0091\u0092\u0093\u0094\u0095\u0096\u0097\u0098\u0099\u009a\u009b\u009c\u009d\u009e\u009f" ++
    "\u00a0ĄĸŖ¤ĨĻ§¨ŠĒĢŦ\u00adŽ¯" ++
    "°ą˛ŗ´ĩļˇ¸šēģŧŊžŋ" ++
    "ĀÁÂÃÄÅÆĮČÉĘËĖÍÎĪ" ++
    "ĐŅŌĶÔÕÖ×ØŲÚÛÜŨŪß" ++
    "āáâãäåæįčéęëėíîī" ++
    "đņōķôõö÷øųúûüũū˙")⟩,
  ⟨[
    "iso8859_5", "csisolatincyrillic", "cyrillic", "iso_8859_5", "iso_8859_5_1988", "iso_ir_144"],
    ("\u0080\u0081\u0082\u0083\u0084\u0085\u0086\u0087\u0088\u0089\u008a\u008b\u008c\u008d\u008e\u008f" ++
    "\u0090\u0091\u0092\u0093\u0094\u0095\u0096\u0097\u0098\u0099\u009a\u009b\u009c\u009d\u009e\u009f" ++
    "\u00a0ЁЂЃЄЅІЇЈЉЊЋЌ\u00adЎЏ" ++
    "АБВГДЕЖЗИЙКЛМНОП" ++
    "РСТУФХЦЧШЩЪЫЬЭЮЯ" ++
    "абвгдежзийклмноп" ++
    "рстуфхцчшщъыьэюя" ++
    "№ёђѓєѕіїјљњћќ§ўџ")⟩,
  ⟨[
    "iso8859_6", "arabic", "asmo_708", "csisolatinarabic", "ecma_114", "iso_8859_6",
    "iso_8859_6_1987", "iso_ir_127"],
    ("\u0080\u0081\u0082\u0083\u0084\u0085\u0086\u0087\u0088\u0089\u008a\u008b\u008c\u008d\u008e\u008f" ++
    "\u0090\u0091\u0092\u0093\u0094\u0095\u0096\u0097\u0098\u0099\u009a\u009b\u009c\u009d\u009e\u009f" ++
    "\u00a0\ufffd\ufffd\ufffd¤\ufffd\ufffd\ufffd\ufffd\ufffd\ufffd\ufffd،\u00ad\ufffd\ufffd" ++
    "\ufffd\ufffd\ufffd\ufffd\ufffd\ufffd\ufffd\ufffd\ufffd\ufffd\ufffd\u061b\ufffd\ufffd\ufffd\u061f" ++
    "\ufffd\u0621\u0622\u0623\u0624\u0625\u0626\u0627\u0628\u0629\u062a\u062b\u062c\u062d\u062e\u062f" ++
    "\u0630\u0631\u0632\u0633\u0634\u0635\u0636\u0637\u0638\u0639\u063a\ufffd\ufffd\ufffd\ufffd\ufffd" ++
    "\u0640\u0641\u0642\u0643\u0644\u0645\u0646\u0647\u0648\u0649\u064a\u064b\u064c\u064d\u064e\u064f" ++
    "\u0650\u0651\u0652\ufffd\ufffd\ufffd\ufffd\ufffd\ufffd\ufffd\ufffd\ufffd\ufffd\ufffd\ufffd\ufffd")⟩,
  ⟨[
    "iso8859_7", "csisolatingreek", "ecma_118", "elot_928", "greek", "greek8", "iso_8859_7",
    "iso_8859_7_1987", "iso_ir_126"],
    ("\u0080\u0081\u0082\u0083\u0084\u0085\u0086\u0087\u0088\u0089\u008a\u008b\u008c\u008d\u008e\u008f" ++
    "\u0090\u0091\u0092\u0093\u0094\u0095\u0096\u0097\u0098\u0099\u009a\u009b\u009c\u009d\u009e\u009f" ++
    "\u00a0‘’£€₯¦§¨©ͺ«¬\u00ad\ufffd―" ++
    "°±²³΄΅Ά·ΈΉΊ»Ό½ΎΏ" ++
    "ΐΑΒΓΔΕΖΗΘΙΚΛΜΝΞΟ" ++
    "ΠΡ\ufffdΣΤΥΦΧΨΩΪΫάέήί" ++
    "ΰαβγδεζηθικλμνξο" ++
    "πρςστυφχψωϊϋόύώ\ufffd")⟩,
  ⟨[
    "iso8859_8", "csisolatinhebrew", "hebrew", "iso_8859_8", "iso_8859_8_1988", "iso_ir_138"],
    ("\u0080\u0081\u0082\u0083\u0084\u0085\u0086\u0087\u0088\u0089\u008a\u008b\u008c\u008d\u008e\u008f" ++
    "\u0090\u0091\u0092\u0093\u0094\u0095\u0096\u0097\u0098\u0099\u009a\u009b\u009c\u009d\u009e\u009f" ++
    "\u00a0\ufffd¢£¤¥¦§¨©×«¬\u00ad®¯" ++
    "°±²³´µ¶·¸¹÷»¼½¾\ufffd" ++
    "\ufffd\ufffd\ufffd\ufffd\ufffd\ufffd\ufffd\ufffd\ufffd\ufffd\ufffd\ufffd\ufffd\ufffd\ufffd\ufffd" ++
    "\ufffd\ufffd\ufffd\ufffd\ufffd\ufffd\ufffd\ufffd\ufffd\ufffd\ufffd\ufffd\ufffd\ufffd\ufffd‗" ++
    "\u05d0\u05d1\u05d2\u05d3\u05d4\u05d5\u05d6\u05d7\u05d8\u05d9\u05da\u05db\u05dc\u05dd\u05de\u05df" ++
    "\u05e0\u05e1\u05e2\u05e3\u05e4\u05e5\u05e6\u05e7\u05e8\u05e9\u05ea\ufffd\ufffd\u200e\u200f\ufffd")⟩,
  ⟨[
    "iso8859_9", "csisolatin5", "iso_8859_9", "iso_8859_9_1989", "iso_ir_148", "l5", "latin5"],
    ("\u0080\u0081\u0082\u0083\u0084\u0085\u0086\u0087\u0088\u0089\u008a\u008b\u008c\u008d\u008e\u008f" ++
    "\u0090\u0091\u0092\u0093\u0094\u0095\u0096\u0097\u0098\u0099\u009a\u009b\u009c\u009d\u009e\u009f" ++
    "\u00a0¡¢£¤¥¦§¨©ª«¬\u00ad®¯" ++
    "°±²³´µ¶·¸¹º»¼½¾¿" ++
    "ÀÁÂÃÄÅÆÇÈÉÊËÌÍÎÏ" ++
    "ĞÑÒÓÔÕÖ×ØÙÚÛÜİŞß" ++
    "àáâãäåæçèéêëìíîï" ++
    "ğñòóôõö÷øùúûüışÿ")⟩,
  ⟨[
    "koi8_r", "cskoi8r"],
    ("─│┌┐└┘├┤┬┴┼▀▄█▌▐" ++
    "░▒▓⌠■∙√≈≤≥\u00a0⌡°²·÷" ++
    "═║╒ё╓╔╕╖╗╘╙╚╛╜╝╞" ++
    "╟╠╡Ё╢╣╤╥╦╧╨╩╪╫╬©" ++
    "юабцдефгхийклмно" ++
    "пярстужвьызшэщчъ" ++
    "ЮАБЦДЕФГХИЙКЛМНО" ++
    "ПЯРСТУЖВЬЫЗШЭЩЧЪ")⟩,
  ⟨[
    "koi8_t"],
    ("қғ‚Ғ„…†‡\ufffd‰ҳ‹ҲҷҶ\ufffd" ++
    "Қ‘’“”•–—\ufffd™\ufffd›\ufffd\ufffd\ufffd\ufffd" ++
    "\ufffdӯӮё¤ӣ¦§\ufffd\ufffd\ufffd«¬\u00ad®\ufffd" ++
    "°±²Ё\ufffdӢ¶·\ufffd№\ufffd»\ufffd\ufffd\ufffd©" ++
    "юабцдефгхийклмно" ++
    "пярстужвьызшэщчъ" ++
    "ЮАБЦДЕФГХИЙКЛМНО" ++
    "ПЯРСТУЖВЬЫЗШЭЩЧЪ")⟩,
  ⟨[
    "koi8_u"],
    ("─│┌┐└┘├┤┬┴┼▀▄█▌▐" ++
    "░▒▓⌠■∙√≈≤≥\u00a0⌡°²·÷" ++
    "═║╒ёє╔ії╗╘╙╚╛ґ╝╞" ++
    "╟╠╡ЁЄ╣ІЇ╦╧╨╩╪Ґ╬©" ++
    "юабцдефгхийклмно" ++
    "пярстужвьызшэщчъ" ++
    "ЮАБЦДЕФГХИЙКЛМНО" ++
    "ПЯРСТУЖВЬЫЗШЭЩЧЪ")⟩,
  ⟨[
    "kz1048", "kz_1048", "rk1048", "strk1048_2002"],
    ("ЂЃ‚ѓ„…†‡€‰Љ‹ЊҚҺЏ" ++
    "ђ‘’“”•–—\ufffd™љ›њқһџ" ++
    "\u00a0ҰұӘ¤Ө¦§Ё©Ғ«¬\u00ad®Ү" ++
    "°±Ііөµ¶·ё№ғ»әҢңү" ++
    "АБВГДЕЖЗИЙКЛМНОП" ++
    "РСТУФХЦЧШЩЪЫЬЭЮЯ" ++
    "абвгдежзийклмноп" ++
    "рстуфхцчшщъыьэюя")⟩,
  ⟨[
    "mac_croatian"],
    ("ÄÅÇÉÑÖÜáàâäãåçéè" ++
    "êëíìîïñóòôöõúùûü" ++
    "†°¢£§•¶ß®Š™´¨≠ŽØ" ++
    "∞±≤≥∆µ∂∑∏š∫ªºΩžø" ++
    "¿¡¬√ƒ≈Ć«Č…\u00a0ÀÃÕŒœ" ++
    "Đ—“”‘’÷◊\uf8ff©⁄€‹›Æ»" ++
    "–·‚„‰ÂćÁčÈÍÎÏÌÓÔ" ++
    "đÒÚÛÙıˆ˜¯πË˚¸Êæˇ")⟩,
  ⟨[
    "mac_cyrillic", "maccyrillic"],
    ("АБВГДЕЖЗИЙКЛМНОП" ++
    "РСТУФХЦЧШЩЪЫЬЭЮЯ" ++
    "†°Ґ£§•¶І®©™Ђђ≠Ѓѓ" ++
    "∞±≤≥іµґЈЄєЇїЉљЊњ" ++
    "јЅ¬√ƒ≈∆«»…\u00a0ЋћЌќѕ" ++
    "–—“”‘’÷„ЎўЏџ№Ёёя" ++
    "абвгдежзийклмноп" ++
    "рстуфхцчшщъыьэю€")⟩,
  ⟨[
    "mac_greek", "macgreek"],
    ("Ä¹²É³ÖÜ΅àâä΄¨çéè" ++
    "êë£™îï•½‰ôö¦€ùûü" ++
    "†ΓΔΘΛΞΠß®©ΣΪ§≠°·" ++
    "Α±≤≥¥ΒΕΖΗΙΚΜΦΫΨΩ" ++
    "άΝ¬ΟΡ≈Τ«»…\u00a0ΥΧΆΈœ" ++
    "–―“”‘’÷ΉΊΌΎέήίόΏ" ++
    "ύαβψδεφγηιξκλμνο" ++
    "πώρστθωςχυζϊϋΐΰ\u00ad")⟩,
  ⟨[
    "mac_iceland", "maciceland"],
    ("ÄÅÇÉÑÖÜáàâäãåçéè" ++
    "êëíìîïñóòôöõúùûü" ++
    "Ý°¢£§•¶ß®©™´¨≠ÆØ" ++
    "∞±≤≥¥µ∂∑∏π∫ªºΩæø" ++
    "¿¡¬√ƒ≈∆«»…\u00a0ÀÃÕŒœ" ++
    "–—“”‘’÷◊ÿŸ⁄€ÐðÞþ" ++
    "ý·‚„‰ÂÊÁËÈÍÎÏÌÓÔ" ++
    "\uf8ffÒÚÛÙıˆ˜¯˘˙˚¸˝˛ˇ")⟩,
  ⟨[
    "mac_latin2", "mac_centeuro", "maccentraleurope", "maclatin2"],
    ("ÄĀāÉĄÖÜáąČäčĆćéŹ" ++
    "źĎíďĒēĖóėôöõúĚěü" ++
    "†°Ę£§•¶ß®©™ę¨≠ģĮ" ++
    "įĪ≤≥īĶ∂∑łĻļĽľĹĺŅ" ++
    "ņŃ¬√ńŇ∆«»…\u00a0ňŐÕőŌ" ++
    "–—“”‘’÷◊ōŔŕŘ‹›řŖ" ++
    "ŗŠ‚„šŚśÁŤťÍŽžŪÓÔ" ++
    "ūŮÚůŰűŲųÝýķŻŁżĢˇ")⟩,
  ⟨[
    "mac_roman", "macintosh", "macroman"],
    ("ÄÅÇÉÑÖÜáàâäãåçéè" ++
    "êëíìîïñóòôöõúùûü" ++
    "†°¢£§•¶ß®©™´¨≠ÆØ" ++
    "∞±≤≥¥µ∂∑∏π∫ªºΩæø" ++
    "¿¡¬√ƒ≈∆«»…\u00a0ÀÃÕŒœ" ++
    "–—“”‘’÷◊ÿŸ⁄€‹›ﬁﬂ" ++
    "‡·‚„‰ÂÊÁËÈÍÎÏÌÓÔ" ++
    "\uf8ffÒÚÛÙıˆ˜¯˘˙˚¸˝˛ˇ")⟩,
  ⟨[
    "mac_romanian"],
    ("ÄÅÇÉÑÖÜáàâäãåçéè" ++
    "êëíìîïñóòôöõúùûü" ++
    "†°¢£§•¶ß®©™´¨≠ĂȘ" ++
    "∞±≤≥¥µ∂∑∏π∫ªºΩăș" ++
    "¿¡¬√ƒ≈∆«»…\u00a0ÀÃÕŒœ" ++
    "–—“”‘’÷◊ÿŸ⁄€‹›Țț" ++
    "‡·‚„‰ÂÊÁËÈÍÎÏÌÓÔ" ++
    "\uf8ffÒÚÛÙıˆ˜¯˘˙˚¸˝˛ˇ")⟩,
  ⟨[
    "mac_turkish", "macturkish"],
    ("ÄÅÇÉÑÖÜáàâäãåçéè" ++
    "êëíìîïñóòôöõúùûü" ++
    "†°¢£§•¶ß®©™´¨≠ÆØ" ++
    "∞±≤≥¥µ∂∑∏π∫ªºΩæø" ++
    "¿¡¬√ƒ≈∆«»…\u00a0ÀÃÕŒœ" ++
    "–—“”‘’÷◊ÿŸĞğİıŞş" ++
    "‡·‚„‰ÂÊÁËÈÍÎÏÌÓÔ" ++
    "\uf8ffÒÚÛÙ\uf8a0ˆ˜¯˘˙˚¸˝˛ˇ")⟩,
  ⟨[
    "palmos"],
    ("€\u0081‚ƒ„…†‡ˆ‰Š‹Œ♦♣♥" ++
    "♠‘’“”•–—˜™š\u009bœ\u009d\u009eŸ" ++
    "\u00a0¡¢£¤¥¦§¨©ª«¬\u00ad®¯" ++
    "°±²³´µ¶·¸¹º»¼½¾¿" ++
    "ÀÁÂÃÄÅÆÇÈÉÊËÌÍÎÏ" ++
    "ÐÑÒÓÔÕÖ×ØÙÚÛÜÝÞß" ++
    "àáâãäåæçèéêëìíîï" ++
    "ðñòóôõö÷øùúûüýþÿ")⟩,
  ⟨[
    "ptcp154", "cp154", "csptcp154", "cyrillic_asian", "pt154"],
    ("ҖҒӮғ„…ҶҮҲүҠӢҢҚҺҸ" ++
    "җ‘’“”•–—ҳҷҡӣңқһҹ" ++
    "\u00a0ЎўЈӨҘҰ§Ё©Ә«¬ӯ®Ҝ" ++
    "°ұІіҙө¶·ё№ә»јҪҫҝ" ++
    "АБВГДЕЖЗИЙКЛМНОП" ++
    "РСТУФХЦЧШЩЪЫЬЭЮЯ" ++
    "абвгдежзийклмноп" ++
    "рстуфхцчшщъыьэюя")⟩,
  ⟨[
    "tis_620", "iso_ir_166", "tis620", "tis_620_0", "tis_620_2529_0", "tis_620_2529_1"],
    ("\u0080\u0081\u0082\u0083\u0084\u0085\u0086\u0087\u0088\u0089\u008a\u008b\u008c\u008d\u008e\u008f" ++
    "\u0090\u0091\u0092\u0093\u0094\u0095\u0096\u0097\u0098\u0099\u009a\u009b\u009c\u009d\u009e\u009f" ++
    "\ufffdกขฃคฅฆงจฉชซฌญฎฏ" ++
    "ฐฑฒณดตถทธนบปผฝพฟ" ++
    "ภมยรฤลฦวศษสหฬอฮฯ" ++
    "ะ\u0e31าำ\u0e34\u0e35\u0e36\u0e37\u0e38\u0e39\u0e3a\ufffd\ufffd\ufffd\ufffd฿" ++
    "เแโใไๅๆ\u0e47\u0e48\u0e49\u0e4a\u0e4b\u0e4c\u0e4d\u0e4e๏" ++
    "๐๑๒๓๔๕๖๗๘๙๚๛\ufffd\ufffd\ufffd\ufffd")⟩]

/-- The single-byte encodings that do not extend ASCII. -/
def incompatiblePages : List String := [
  "cp037", "037", "csibm037", "ebcdic_cp_ca", "ebcdic_cp_nl", "ebcdic_cp_us", "ebcdic_cp_wt",
  "ibm037", "ibm039", "cp1026", "1026", "csibm1026", "ibm1026", "cp1140", "1140", "ibm1140",
  "cp273", "273", "csibm273", "ibm273", "cp424", "424", "csibm424", "ebcdic_cp_he", "ibm424",
  "cp500", "500", "csibm500", "ebcdic_cp_be", "ebcdic_cp_ch", "ibm500", "cp864", "864",
  "csibm864", "ibm864", "cp875", "mac_arabic", "mac_farsi"]

/-- The encodings that need several bytes for some characters. -/
def wideEncodings : List String := [
  "big5", "big5_tw", "csbig5", "x_mac_trad_chinese", "big5hkscs", "big5_hkscs", "hkscs",
  "cp932", "932", "ms932", "ms_kanji", "mskanji", "cp949", "949", "ms949", "uhc", "cp950",
  "950", "ms950", "euc_jis_2004", "euc_jis2004", "eucjis2004", "jisx0213", "euc_jisx0213",
  "eucjisx0213", "euc_jp", "eucjp", "u_jis", "ujis", "euc_kr", "euckr", "korean", "ks_c_5601",
  "ks_c_5601_1987", "ks_x_1001", "ksc5601", "ksx1001", "x_mac_korean", "gb18030",
  "gb18030_2000", "gb2312", "chinese", "csiso58gb231280", "euc_cn", "euccn", "eucgb2312_cn",
  "gb2312_1980", "gb2312_80", "iso_ir_58", "x_mac_simp_chinese", "gbk", "936", "cp936",
  "ms936", "iso2022_kr", "csiso2022kr", "iso2022kr", "iso_2022_kr", "johab", "cp1361",
  "ms1361", "shift_jis", "csshiftjis", "s_jis", "shiftjis", "sjis", "x_mac_japanese",
  "shift_jis_2004", "s_jis_2004", "shiftjis2004", "sjis_2004", "shift_jisx0213", "s_jisx0213",
  "shiftjisx0213", "sjisx0213", "utf_16", "u16", "utf16", "utf_16_be", "unicodebigunmarked",
  "utf_16be", "utf_16_le", "unicodelittleunmarked", "utf_16le", "utf_32", "u32", "utf32",
  "utf_32_be", "utf_32be", "utf_32_le", "utf_32le", "utf_7", "u7", "unicode_1_1_utf_7", "utf7"]

/-- The names of transformations of bytes that give no text. -/
def byteTransformations : List String := [
  "base64", "base64_codec", "base_64", "bz2", "bz2_codec", "hex", "hex_codec", "quopri",
  "quopri_codec", "quoted_printable", "quotedprintable", "rot13", "rot_13", "uu", "uu_codec",
  "zip", "zlib", "zlib_codec"]

/-- The names in which a dot may not stand for an underscore. -/
def undottedNames : List String := [
  "base64_codec", "bz2_codec", "euc_jis_2004", "euc_jisx0213", "euc_jp", "euc_kr", "hex_codec",
  "hp_roman8", "iso2022_jp", "iso2022_jp_1", "iso2022_jp_2", "iso2022_jp_2004", "iso2022_jp_3",
  "iso2022_jp_ext", "iso2022_kr", "iso8859_10", "iso8859_11", "iso8859_13", "iso8859_14",
  "iso8859_15", "iso8859_16", "iso8859_2", "iso8859_3", "iso8859_4", "iso8859_5", "iso8859_6",
  "iso8859_7", "iso8859_8", "iso8859_9", "koi8_r", "koi8_t", "koi8_u", "latin_1", "mac_arabic",
  "mac_croatian", "mac_cyrillic", "mac_farsi", "mac_greek", "mac_iceland", "mac_latin2",
  "mac_roman", "mac_romanian", "mac_turkish", "quopri_codec", "raw_unicode_escape", "rot_13",
  "shift_jis", "shift_jis_2004", "shift_jisx0213", "tis_620", "unicode_escape", "utf_16",
  "utf_16_be", "utf_16_le", "utf_32", "utf_32_be", "utf_32_le", "utf_7", "utf_8", "utf_8_sig",
  "uu_codec", "zlib_codec"]

end SolutionScript.Xml
