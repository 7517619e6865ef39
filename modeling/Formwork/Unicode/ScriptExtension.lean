import Formwork.Unicode.Script

namespace Formwork.Unicode

set_option maxRecDepth 10000 in
def sharedCharacters : List (String × Ranges) := [
  ("adlm", ⟨[
    0x61f, 0x620, 0x640, 0x641, 0x204f, 0x2050, 0x2e41, 0x2e42]⟩),
  ("arab", ⟨[
    0x60c, 0x60d, 0x61b, 0x61c, 0x61f, 0x620, 0x640, 0x641, 0x64b, 0x656, 0x670, 0x671, 0x204f,
    0x2050, 0x2e41, 0x2e42, 0xfd3e, 0xfd40, 0x102e0, 0x102fc]⟩),
  ("armn", ⟨[
    0x308, 0x309]⟩),
  ("avst", ⟨[
    0xb7, 0xb8, 0x2e30, 0x2e32]⟩),
  ("beng", ⟨[
    0x2bc, 0x2bd, 0x951, 0x953, 0x964, 0x966, 0x1cd0, 0x1cd1, 0x1cd2, 0x1cd3, 0x1cd5, 0x1cd7,
    0x1cd8, 0x1cd9, 0x1ce1, 0x1ce2, 0x1cea, 0x1ceb, 0x1ced, 0x1cee, 0x1cf2, 0x1cf3, 0x1cf5, 0x1cf8,
    0xa8f1, 0xa8f2]⟩),
  ("bopo", ⟨[
    0x2c7, 0x2c8, 0x2c9, 0x2cc, 0x2d9, 0x2da, 0x3001, 0x3004, 0x3008, 0x3012, 0x3013, 0x3020,
    0x302a, 0x302e, 0x3030, 0x3031, 0x3037, 0x3038, 0x30fb, 0x30fc, 0xfe45, 0xfe47, 0xff61,
    0xff66]⟩),
  ("bugi", ⟨[
    0xa9cf, 0xa9d0]⟩),
  ("buhd", ⟨[
    0x1735, 0x1737]⟩),
  ("cari", ⟨[
    0xb7, 0xb8, 0x205a, 0x205b, 0x205d, 0x205e, 0x2e31, 0x2e32]⟩),
  ("aghb", ⟨[
    0x304, 0x305, 0x331, 0x332, 0x35e, 0x35f]⟩),
  ("cakm", ⟨[
    0x9e6, 0x9f0, 0x1040, 0x104a]⟩),
  ("cher", ⟨[
    0x300, 0x303, 0x304, 0x305, 0x30b, 0x30d, 0x323, 0x325, 0x330, 0x332]⟩),
  ("copt", ⟨[
    0xb7, 0xb8, 0x300, 0x301, 0x304, 0x306, 0x307, 0x308, 0x374, 0x376, 0x2e17, 0x2e18, 0x102e0,
    0x102fc]⟩),
  ("cprt", ⟨[
    0x10100, 0x10103, 0x10107, 0x10134, 0x10137, 0x10140]⟩),
  ("cpmn", ⟨[
    0x10100, 0x10102]⟩),
  ("cyrl", ⟨[
    0x2bc, 0x2bd, 0x300, 0x303, 0x304, 0x305, 0x306, 0x307, 0x308, 0x309, 0x30b, 0x30c, 0x311,
    0x312, 0x485, 0x487, 0x1df8, 0x1df9, 0x2e43, 0x2e44]⟩),
  ("deva", ⟨[
    0x2bc, 0x2bd, 0x951, 0x953, 0x964, 0x966, 0x1cd0, 0x1cf7, 0x1cf8, 0x1cfa, 0x20f0, 0x20f1,
    0xa830, 0xa83a]⟩),
  ("dogr", ⟨[
    0x964, 0x970, 0xa830, 0xa83a]⟩),
  ("dupl", ⟨[
    0xb7, 0xb8, 0x307, 0x309, 0x30a, 0x30b, 0x323, 0x325, 0x2e3c, 0x2e3d, 0x1bca0, 0x1bca4]⟩),
  ("elba", ⟨[
    0xb7, 0xb8, 0x305, 0x306]⟩),
  ("ethi", ⟨[
    0x30e, 0x30f]⟩),
  ("geor", ⟨[
    0xb7, 0xb8, 0x589, 0x58a, 0x10fb, 0x10fc, 0x205a, 0x205b, 0x2e31, 0x2e32]⟩),
  ("glag", ⟨[
    0xb7, 0xb8, 0x303, 0x304, 0x305, 0x306, 0x484, 0x485, 0x487, 0x488, 0x589, 0x58a, 0x10fb,
    0x10fc, 0x205a, 0x205b, 0x2e43, 0x2e44, 0xa66f, 0xa670]⟩),
  ("goth", ⟨[
    0xb7, 0xb8, 0x304, 0x306, 0x308, 0x309, 0x331, 0x332]⟩),
  ("gran", ⟨[
    0x951, 0x953, 0x964, 0x966, 0xbe6, 0xbf4, 0x1cd0, 0x1cd1, 0x1cd2, 0x1cd4, 0x1cf2, 0x1cf5,
    0x1cf8, 0x1cfa, 0x20f0, 0x20f1, 0x1133b, 0x1133c, 0x11fd0, 0x11fd2, 0x11fd3, 0x11fd4]⟩),
  ("grek", ⟨[
    0xb7, 0xb8, 0x300, 0x302, 0x304, 0x305, 0x306, 0x307, 0x308, 0x309, 0x313, 0x314, 0x342, 0x343,
    0x345, 0x346, 0x374, 0x375, 0x1dc0, 0x1dc2, 0x205d, 0x205e]⟩),
  ("gujr", ⟨[
    0x951, 0x953, 0x964, 0x966, 0xa830, 0xa83a]⟩),
  ("gong", ⟨[
    0xb7, 0xb8, 0x964, 0x966]⟩),
  ("guru", ⟨[
    0x951, 0x953, 0x964, 0x966, 0xa830, 0xa83a]⟩),
  ("hani", ⟨[
    0xb7, 0xb8, 0x2ff0, 0x3000, 0x3001, 0x3004, 0x3006, 0x3007, 0x3008, 0x3012, 0x3013, 0x3020,
    0x302a, 0x302e, 0x3030, 0x3031, 0x3037, 0x3038, 0x303c, 0x3040, 0x30fb, 0x30fc, 0x3190, 0x31a0,
    0x31c0, 0x31e6, 0x31ef, 0x31f0, 0x3220, 0x3248, 0x3280, 0x32b1, 0x32c0, 0x32cc, 0x32ff, 0x3300,
    0x3358, 0x3371, 0x337b, 0x3380, 0x33e0, 0x33ff, 0xa700, 0xa708, 0xfe45, 0xfe47, 0xff61, 0xff66,
    0x1d360, 0x1d372, 0x1f250, 0x1f252]⟩),
  ("hang", ⟨[
    0x3001, 0x3004, 0x3008, 0x3012, 0x3013, 0x3020, 0x3030, 0x3031, 0x3037, 0x3038, 0x30fb, 0x30fc,
    0xfe45, 0xfe47, 0xff61, 0xff66]⟩),
  ("rohg", ⟨[
    0x60c, 0x60d, 0x61b, 0x61c, 0x61f, 0x620, 0x640, 0x641, 0x6d4, 0x6d5]⟩),
  ("hano", ⟨[
    0x1735, 0x1737]⟩),
  ("hebr", ⟨[
    0x307, 0x309]⟩),
  ("hira", ⟨[
    0x3001, 0x3004, 0x3008, 0x3012, 0x3013, 0x3020, 0x3030, 0x3036, 0x3037, 0x3038, 0x303c, 0x303e,
    0x3099, 0x309d, 0x30a0, 0x30a1, 0x30fb, 0x30fd, 0xfe45, 0xfe47, 0xff61, 0xff66, 0xff70, 0xff71,
    0xff9e, 0xffa0]⟩),
  ("java", ⟨[
    0xa9cf, 0xa9d0]⟩),
  ("kthi", ⟨[
    0x966, 0x970, 0x2e31, 0x2e32, 0xa830, 0xa83a]⟩),
  ("knda", ⟨[
    0x951, 0x953, 0x964, 0x966, 0x1cd0, 0x1cd1, 0x1cd2, 0x1cd4, 0x1cda, 0x1cdb, 0x1cf2, 0x1cf3,
    0x1cf4, 0x1cf5, 0xa830, 0xa836]⟩),
  ("kana", ⟨[
    0x305, 0x306, 0x323, 0x324, 0x3001, 0x3004, 0x3008, 0x3012, 0x3013, 0x3020, 0x3030, 0x3036,
    0x3037, 0x3038, 0x303c, 0x303e, 0x3099, 0x309d, 0x30a0, 0x30a1, 0x30fb, 0x30fd, 0xfe45, 0xfe47,
    0xff61, 0xff66, 0xff70, 0xff71, 0xff9e, 0xffa0]⟩),
  ("kali", ⟨[
    0xa92e, 0xa92f]⟩),
  ("khoj", ⟨[
    0xae6, 0xaf0, 0xa830, 0xa83a]⟩),
  ("sind", ⟨[
    0x964, 0x966, 0xa830, 0xa83a]⟩),
  ("latn", ⟨[
    0xb7, 0xb8, 0x2bc, 0x2bd, 0x2c7, 0x2c8, 0x2c9, 0x2cc, 0x2cd, 0x2ce, 0x2d7, 0x2d8, 0x2d9, 0x2da,
    0x300, 0x30f, 0x310, 0x312, 0x313, 0x314, 0x323, 0x326, 0x32d, 0x32f, 0x330, 0x332, 0x358,
    0x359, 0x35e, 0x35f, 0x363, 0x370, 0x485, 0x487, 0x951, 0x953, 0x10fb, 0x10fc, 0x1df8, 0x1df9,
    0x202f, 0x2030, 0x20f0, 0x20f1, 0x2e17, 0x2e18, 0xa700, 0xa708, 0xa92e, 0xa92f]⟩),
  ("limb", ⟨[
    0x965, 0x966]⟩),
  ("lina", ⟨[
    0x10107, 0x10134]⟩),
  ("linb", ⟨[
    0x10100, 0x10103, 0x10107, 0x10134, 0x10137, 0x10140]⟩),
  ("lisu", ⟨[
    0x2bc, 0x2bd, 0x2cd, 0x2ce, 0x300a, 0x300c]⟩),
  ("lyci", ⟨[
    0x205a, 0x205b]⟩),
  ("lydi", ⟨[
    0xb7, 0xb8, 0x2e31, 0x2e32]⟩),
  ("mahj", ⟨[
    0xb7, 0xb8, 0x964, 0x970, 0xa830, 0xa83a]⟩),
  ("mlym", ⟨[
    0x951, 0x953, 0x964, 0x966, 0x1cda, 0x1cdb, 0x1cf2, 0x1cf3, 0xa830, 0xa833]⟩),
  ("mand", ⟨[
    0x640, 0x641]⟩),
  ("mani", ⟨[
    0x640, 0x641]⟩),
  ("gonm", ⟨[
    0x964, 0x966]⟩),
  ("mero", ⟨[
    0x205d, 0x205e]⟩),
  ("modi", ⟨[
    0xa830, 0xa83a]⟩),
  ("mong", ⟨[
    0x1802, 0x1804, 0x1805, 0x1806, 0x202f, 0x2030, 0x3001, 0x3003, 0x3008, 0x300c]⟩),
  ("mult", ⟨[
    0xa66, 0xa70]⟩),
  ("mymr", ⟨[
    0xa92e, 0xa92f]⟩),
  ("nand", ⟨[
    0x951, 0x952, 0x964, 0x966, 0xce6, 0xcf0, 0x1ce9, 0x1cea, 0x1cf2, 0x1cf3, 0x1cfa, 0x1cfb,
    0xa830, 0xa836]⟩),
  ("newa", ⟨[
    0x951, 0x953, 0x1cd5, 0x1cd6, 0x1cd7, 0x1cd9, 0x1ce2, 0x1ce3, 0x1ce9, 0x1cea, 0x1ceb, 0x1cec,
    0x1ced, 0x1cee]⟩),
  ("nkoo", ⟨[
    0x60c, 0x60d, 0x61b, 0x61c, 0x61f, 0x620, 0xfd3e, 0xfd40]⟩),
  ("hung", ⟨[
    0x205a, 0x205b, 0x205d, 0x205e, 0x2e31, 0x2e32, 0x2e41, 0x2e42]⟩),
  ("perm", ⟨[
    0xb7, 0xb8, 0x300, 0x301, 0x306, 0x309, 0x313, 0x314, 0x483, 0x484]⟩),
  ("orkh", ⟨[
    0x205a, 0x205b, 0x2e30, 0x2e31]⟩),
  ("ougr", ⟨[
    0x640, 0x641, 0x10af2, 0x10af3]⟩),
  ("orya", ⟨[
    0x951, 0x953, 0x964, 0x966, 0x1cda, 0x1cdb, 0x1cf2, 0x1cf3]⟩),
  ("osge", ⟨[
    0x301, 0x302, 0x304, 0x305, 0x30b, 0x30c, 0x358, 0x359]⟩),
  ("phag", ⟨[
    0x1802, 0x1804, 0x1805, 0x1806, 0x202f, 0x2030, 0x3002, 0x3003]⟩),
  ("phlp", ⟨[
    0x640, 0x641]⟩),
  ("runr", ⟨[
    0x16eb, 0x16ee]⟩),
  ("samr", ⟨[
    0x2e31, 0x2e32]⟩),
  ("shrd", ⟨[
    0x951, 0x952, 0x1cd7, 0x1cd8, 0x1cd9, 0x1cda, 0x1cdc, 0x1cde, 0x1ce0, 0x1ce1, 0x1cea, 0x1ceb,
    0x1ced, 0x1cee, 0xa830, 0xa836, 0xa838, 0xa839]⟩),
  ("shaw", ⟨[
    0xb7, 0xb8]⟩),
  ("sinh", ⟨[
    0x964, 0x966, 0x1cf2, 0x1cf3]⟩),
  ("sogd", ⟨[
    0x640, 0x641]⟩),
  ("sylo", ⟨[
    0x964, 0x966, 0x9e6, 0x9f0]⟩),
  ("syrc", ⟨[
    0x303, 0x305, 0x307, 0x309, 0x30a, 0x30b, 0x323, 0x326, 0x32d, 0x32f, 0x330, 0x332, 0x60c,
    0x60d, 0x61b, 0x61d, 0x61f, 0x620, 0x640, 0x641, 0x64b, 0x656, 0x670, 0x671, 0x1df8, 0x1df9,
    0x1dfa, 0x1dfb]⟩),
  ("tglg", ⟨[
    0x1735, 0x1737]⟩),
  ("tagb", ⟨[
    0x1735, 0x1737]⟩),
  ("tale", ⟨[
    0x300, 0x302, 0x307, 0x309, 0x30c, 0x30d, 0x1040, 0x104a]⟩),
  ("takr", ⟨[
    0x964, 0x966, 0xa830, 0xa83a]⟩),
  ("taml", ⟨[
    0x951, 0x953, 0x964, 0x966, 0x1cda, 0x1cdb, 0xa8f3, 0xa8f4, 0x11301, 0x11302, 0x11303, 0x11304,
    0x1133b, 0x1133d]⟩),
  ("tang", ⟨[
    0x2ff0, 0x3000, 0x31ef, 0x31f0]⟩),
  ("telu", ⟨[
    0x951, 0x953, 0x964, 0x966, 0x1cd5, 0x1cd7, 0x1cd8, 0x1cd9, 0x1cda, 0x1cdb, 0x1cf2, 0x1cf3]⟩),
  ("thaa", ⟨[
    0x60c, 0x60d, 0x61b, 0x61d, 0x61f, 0x620, 0x660, 0x66a, 0xfdf2, 0xfdf3, 0xfdfd, 0xfdfe]⟩),
  ("thai", ⟨[
    0x2bc, 0x2bd, 0x2d7, 0x2d8, 0x303, 0x304, 0x331, 0x332]⟩),
  ("tibt", ⟨[
    0x3008, 0x300c]⟩),
  ("tfng", ⟨[
    0x302, 0x303, 0x304, 0x305, 0x306, 0x30a, 0x323, 0x324]⟩),
  ("tirh", ⟨[
    0x951, 0x953, 0x964, 0x966, 0x1cd5, 0x1cd6, 0x1ce2, 0x1ce3, 0x1cf2, 0x1cf3, 0xa830, 0xa83a]⟩),
  ("toto", ⟨[
    0x2bc, 0x2bd]⟩),
  ("yezi", ⟨[
    0x60c, 0x60d, 0x61b, 0x61c, 0x61f, 0x620, 0x660, 0x66a]⟩),
  ("yiii", ⟨[
    0x3001, 0x3003, 0x3008, 0x3012, 0x3014, 0x301c, 0x30fb, 0x30fc, 0xff61, 0xff66]⟩),
  ("gara", ⟨[
    0x60c, 0x60d, 0x61b, 0x61c, 0x61f, 0x620]⟩),
  ("gukh", ⟨[
    0x965, 0x966]⟩),
  ("onao", ⟨[
    0x964, 0x966]⟩),
  ("sunu", ⟨[
    0x300, 0x302, 0x303, 0x304, 0x30d, 0x30e, 0x310, 0x311, 0x32d, 0x32e, 0x331, 0x332]⟩),
  ("todr", ⟨[
    0x301, 0x302, 0x304, 0x305, 0x307, 0x308, 0x311, 0x312, 0x313, 0x314, 0x35e, 0x35f]⟩),
  ("tutg", ⟨[
    0xce6, 0xcf0, 0x1cf2, 0x1cf3, 0x1cf4, 0x1cf5, 0xa830, 0xa836, 0xa8f1, 0xa8f2]⟩)]

end Formwork.Unicode
