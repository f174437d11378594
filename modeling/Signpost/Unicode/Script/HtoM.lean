/-
# Scripts, H to M

The characters of the scripts whose names begin with H to M, each under its
names in normal form. The tables are those of version 16 of the Unicode
Character Database, as sorted, disjoint ranges of code points.

Key definitions: `Unicode.scriptsHtoM`.
-/
import Signpost.CharSet.Basic

namespace Signpost
namespace Unicode

/-- The scripts from H to M. -/
def scriptsHtoM : List (List String × CharSet) := [
  (["hang", "hangul"], ⟨[
    (0x1100, 0x11FF), (0x302E, 0x302F), (0x3131, 0x318E), (0x3200, 0x321E), (0x3260, 0x327E),
    (0xA960, 0xA97C), (0xAC00, 0xD7A3), (0xD7B0, 0xD7C6), (0xD7CB, 0xD7FB), (0xFFA0, 0xFFBE),
    (0xFFC2, 0xFFC7), (0xFFCA, 0xFFCF), (0xFFD2, 0xFFD7), (0xFFDA, 0xFFDC)]⟩),
  (["han", "hani"], ⟨[
    (0x2E80, 0x2E99), (0x2E9B, 0x2EF3), (0x2F00, 0x2FD5), (0x3005, 0x3005), (0x3007, 0x3007),
    (0x3021, 0x3029), (0x3038, 0x303B), (0x3400, 0x4DBF), (0x4E00, 0x9FFF), (0xF900, 0xFA6D),
    (0xFA70, 0xFAD9), (0x16FE2, 0x16FE3), (0x16FF0, 0x16FF1), (0x20000, 0x2A6DF),
    (0x2A700, 0x2B739), (0x2B740, 0x2B81D), (0x2B820, 0x2CEA1), (0x2CEB0, 0x2EBE0),
    (0x2EBF0, 0x2EE5D), (0x2F800, 0x2FA1D), (0x30000, 0x3134A), (0x31350, 0x323AF)]⟩),
  (["rohg", "hanifirohingya"], ⟨[(0x10D00, 0x10D27), (0x10D30, 0x10D39)]⟩),
  (["hano", "hanunoo"], ⟨[(0x1720, 0x1734)]⟩),
  (["hatr", "hatran"], ⟨[(0x108E0, 0x108F2), (0x108F4, 0x108F5), (0x108FB, 0x108FF)]⟩),
  (["hebr", "hebrew"], ⟨[
    (0x591, 0x5C7), (0x5D0, 0x5EA), (0x5EF, 0x5F4), (0xFB1D, 0xFB36), (0xFB38, 0xFB3C),
    (0xFB3E, 0xFB3E), (0xFB40, 0xFB41), (0xFB43, 0xFB44), (0xFB46, 0xFB4F)]⟩),
  (["hira", "hiragana"], ⟨[
    (0x3041, 0x3096), (0x309D, 0x309F), (0x1B001, 0x1B11F), (0x1B132, 0x1B132),
    (0x1B150, 0x1B152), (0x1F200, 0x1F200)]⟩),
  (["armi", "imperialaramaic"], ⟨[(0x10840, 0x10855), (0x10857, 0x1085F)]⟩),
  (["zinh", "qaai", "inherited"], ⟨[
    (0x300, 0x36F), (0x485, 0x486), (0x64B, 0x655), (0x670, 0x670), (0x951, 0x954),
    (0x1AB0, 0x1ACE), (0x1CD0, 0x1CD2), (0x1CD4, 0x1CE0), (0x1CE2, 0x1CE8), (0x1CED, 0x1CED),
    (0x1CF4, 0x1CF4), (0x1CF8, 0x1CF9), (0x1DC0, 0x1DFF), (0x200C, 0x200D), (0x20D0, 0x20F0),
    (0x302A, 0x302D), (0x3099, 0x309A), (0xFE00, 0xFE0F), (0xFE20, 0xFE2D), (0x101FD, 0x101FD),
    (0x102E0, 0x102E0), (0x1133B, 0x1133B), (0x1CF00, 0x1CF2D), (0x1CF30, 0x1CF46),
    (0x1D167, 0x1D169), (0x1D17B, 0x1D182), (0x1D185, 0x1D18B), (0x1D1AA, 0x1D1AD),
    (0xE0100, 0xE01EF)]⟩),
  (["phli", "inscriptionalpahlavi"], ⟨[(0x10B60, 0x10B72), (0x10B78, 0x10B7F)]⟩),
  (["prti", "inscriptionalparthian"], ⟨[(0x10B40, 0x10B55), (0x10B58, 0x10B5F)]⟩),
  (["java", "javanese"], ⟨[(0xA980, 0xA9CD), (0xA9D0, 0xA9D9), (0xA9DE, 0xA9DF)]⟩),
  (["kthi", "kaithi"], ⟨[(0x11080, 0x110C2), (0x110CD, 0x110CD)]⟩),
  (["knda", "kannada"], ⟨[
    (0xC80, 0xC8C), (0xC8E, 0xC90), (0xC92, 0xCA8), (0xCAA, 0xCB3), (0xCB5, 0xCB9),
    (0xCBC, 0xCC4), (0xCC6, 0xCC8), (0xCCA, 0xCCD), (0xCD5, 0xCD6), (0xCDD, 0xCDE),
    (0xCE0, 0xCE3), (0xCE6, 0xCEF), (0xCF1, 0xCF3)]⟩),
  (["kana", "katakana"], ⟨[
    (0x30A1, 0x30FA), (0x30FD, 0x30FF), (0x31F0, 0x31FF), (0x32D0, 0x32FE), (0x3300, 0x3357),
    (0xFF66, 0xFF6F), (0xFF71, 0xFF9D), (0x1AFF0, 0x1AFF3), (0x1AFF5, 0x1AFFB),
    (0x1AFFD, 0x1AFFE), (0x1B000, 0x1B000), (0x1B120, 0x1B122), (0x1B155, 0x1B155),
    (0x1B164, 0x1B167)]⟩),
  (["kawi"], ⟨[(0x11F00, 0x11F10), (0x11F12, 0x11F3A), (0x11F3E, 0x11F5A)]⟩),
  (["kali", "kayahli"], ⟨[(0xA900, 0xA92D), (0xA92F, 0xA92F)]⟩),
  (["khar", "kharoshthi"], ⟨[
    (0x10A00, 0x10A03), (0x10A05, 0x10A06), (0x10A0C, 0x10A13), (0x10A15, 0x10A17),
    (0x10A19, 0x10A35), (0x10A38, 0x10A3A), (0x10A3F, 0x10A48), (0x10A50, 0x10A58)]⟩),
  (["kits", "khitansmallscript"], ⟨[(0x16FE4, 0x16FE4), (0x18B00, 0x18CD5), (0x18CFF, 0x18CFF)]⟩),
  (["khmr", "khmer"], ⟨[(0x1780, 0x17DD), (0x17E0, 0x17E9), (0x17F0, 0x17F9), (0x19E0, 0x19FF)]⟩),
  (["khoj", "khojki"], ⟨[(0x11200, 0x11211), (0x11213, 0x11241)]⟩),
  (["sind", "khudawadi"], ⟨[(0x112B0, 0x112EA), (0x112F0, 0x112F9)]⟩),
  (["krai", "kiratrai"], ⟨[(0x16D40, 0x16D79)]⟩),
  (["lao", "laoo"], ⟨[
    (0xE81, 0xE82), (0xE84, 0xE84), (0xE86, 0xE8A), (0xE8C, 0xEA3), (0xEA5, 0xEA5),
    (0xEA7, 0xEBD), (0xEC0, 0xEC4), (0xEC6, 0xEC6), (0xEC8, 0xECE), (0xED0, 0xED9), (0xEDC, 0xEDF)]⟩),
  (["latn", "latin"], ⟨[
    (0x41, 0x5A), (0x61, 0x7A), (0xAA, 0xAA), (0xBA, 0xBA), (0xC0, 0xD6), (0xD8, 0xF6),
    (0xF8, 0x2B8), (0x2E0, 0x2E4), (0x1D00, 0x1D25), (0x1D2C, 0x1D5C), (0x1D62, 0x1D65),
    (0x1D6B, 0x1D77), (0x1D79, 0x1DBE), (0x1E00, 0x1EFF), (0x2071, 0x2071), (0x207F, 0x207F),
    (0x2090, 0x209C), (0x212A, 0x212B), (0x2132, 0x2132), (0x214E, 0x214E), (0x2160, 0x2188),
    (0x2C60, 0x2C7F), (0xA722, 0xA787), (0xA78B, 0xA7CD), (0xA7D0, 0xA7D1), (0xA7D3, 0xA7D3),
    (0xA7D5, 0xA7DC), (0xA7F2, 0xA7FF), (0xAB30, 0xAB5A), (0xAB5C, 0xAB64), (0xAB66, 0xAB69),
    (0xFB00, 0xFB06), (0xFF21, 0xFF3A), (0xFF41, 0xFF5A), (0x10780, 0x10785), (0x10787, 0x107B0),
    (0x107B2, 0x107BA), (0x1DF00, 0x1DF1E), (0x1DF25, 0x1DF2A)]⟩),
  (["lepc", "lepcha"], ⟨[(0x1C00, 0x1C37), (0x1C3B, 0x1C49), (0x1C4D, 0x1C4F)]⟩),
  (["limb", "limbu"], ⟨[
    (0x1900, 0x191E), (0x1920, 0x192B), (0x1930, 0x193B), (0x1940, 0x1940), (0x1944, 0x194F)]⟩),
  (["lina", "lineara"], ⟨[(0x10600, 0x10736), (0x10740, 0x10755), (0x10760, 0x10767)]⟩),
  (["linb", "linearb"], ⟨[
    (0x10000, 0x1000B), (0x1000D, 0x10026), (0x10028, 0x1003A), (0x1003C, 0x1003D),
    (0x1003F, 0x1004D), (0x10050, 0x1005D), (0x10080, 0x100FA)]⟩),
  (["lisu"], ⟨[(0xA4D0, 0xA4FF), (0x11FB0, 0x11FB0)]⟩),
  (["lyci", "lycian"], ⟨[(0x10280, 0x1029C)]⟩),
  (["lydi", "lydian"], ⟨[(0x10920, 0x10939), (0x1093F, 0x1093F)]⟩),
  (["mahj", "mahajani"], ⟨[(0x11150, 0x11176)]⟩),
  (["maka", "makasar"], ⟨[(0x11EE0, 0x11EF8)]⟩),
  (["mlym", "malayalam"], ⟨[
    (0xD00, 0xD0C), (0xD0E, 0xD10), (0xD12, 0xD44), (0xD46, 0xD48), (0xD4A, 0xD4F),
    (0xD54, 0xD63), (0xD66, 0xD7F)]⟩),
  (["mand", "mandaic"], ⟨[(0x840, 0x85B), (0x85E, 0x85E)]⟩),
  (["mani", "manichaean"], ⟨[(0x10AC0, 0x10AE6), (0x10AEB, 0x10AF6)]⟩),
  (["marc", "marchen"], ⟨[(0x11C70, 0x11C8F), (0x11C92, 0x11CA7), (0x11CA9, 0x11CB6)]⟩),
  (["gonm", "masaramgondi"], ⟨[
    (0x11D00, 0x11D06), (0x11D08, 0x11D09), (0x11D0B, 0x11D36), (0x11D3A, 0x11D3A),
    (0x11D3C, 0x11D3D), (0x11D3F, 0x11D47), (0x11D50, 0x11D59)]⟩),
  (["medf", "medefaidrin"], ⟨[(0x16E40, 0x16E9A)]⟩),
  (["mtei", "meeteimayek"], ⟨[(0xAAE0, 0xAAF6), (0xABC0, 0xABED), (0xABF0, 0xABF9)]⟩),
  (["mend", "mendekikakui"], ⟨[(0x1E800, 0x1E8C4), (0x1E8C7, 0x1E8D6)]⟩),
  (["merc", "meroiticcursive"], ⟨[(0x109A0, 0x109B7), (0x109BC, 0x109CF), (0x109D2, 0x109FF)]⟩),
  (["mero", "meroitichieroglyphs"], ⟨[(0x10980, 0x1099F)]⟩),
  (["modi"], ⟨[(0x11600, 0x11644), (0x11650, 0x11659)]⟩),
  (["mong", "mongolian"], ⟨[
    (0x1800, 0x1801), (0x1804, 0x1804), (0x1806, 0x1819), (0x1820, 0x1878), (0x1880, 0x18AA),
    (0x11660, 0x1166C)]⟩),
  (["mro", "mroo"], ⟨[(0x16A40, 0x16A5E), (0x16A60, 0x16A69), (0x16A6E, 0x16A6F)]⟩),
  (["mult", "multani"], ⟨[
    (0x11280, 0x11286), (0x11288, 0x11288), (0x1128A, 0x1128D), (0x1128F, 0x1129D),
    (0x1129F, 0x112A9)]⟩),
  (["mymr", "myanmar"], ⟨[
    (0x1000, 0x109F), (0xA9E0, 0xA9FE), (0xAA60, 0xAA7F), (0x116D0, 0x116E3)]⟩)]

end Unicode
end Signpost
