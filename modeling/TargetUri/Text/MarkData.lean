import TargetUri.Text.CharTable

set_option autoImplicit false

/-!
# Marks

The data of the Unicode character database that putting letters and marks together needs: which
characters are combining marks, in which order marks on one letter are written, and which
characters are a letter and a mark in one. Of each only what a domain name may hold is listed.

## Main definitions

* `TargetUri.Text.markClasses` — combining marks with their classes.
* `TargetUri.Text.spacingMarks` — the marks that take up space of their own.
* `TargetUri.Text.composites` — characters that are two in one.
-/

namespace TargetUri.Text

/-- The combining marks, as ranges in ascending order with the class of each: marks of ascending
class are written in that order, and marks of class zero keep their place. -/
def markClasses : List (Nat × Nat × Nat) := [
  (0x300, 0x314, 230), (0x315, 0x315, 232), (0x316, 0x319, 220), (0x31A, 0x31A, 232),
  (0x31B, 0x31B, 216), (0x31C, 0x320, 220), (0x321, 0x322, 202), (0x323, 0x326, 220),
  (0x327, 0x328, 202), (0x329, 0x333, 220), (0x334, 0x338, 1), (0x339, 0x33C, 220),
  (0x33D, 0x33F, 230), (0x342, 0x342, 230), (0x346, 0x346, 230), (0x347, 0x349, 220),
  (0x34A, 0x34C, 230), (0x34D, 0x34E, 220), (0x350, 0x352, 230), (0x353, 0x356, 220),
  (0x357, 0x357, 230), (0x358, 0x358, 232), (0x359, 0x35A, 220), (0x35B, 0x35B, 230),
  (0x35C, 0x35C, 233), (0x35D, 0x35E, 234), (0x35F, 0x35F, 233), (0x360, 0x361, 234),
  (0x362, 0x362, 233), (0x363, 0x36F, 230), (0x483, 0x487, 230), (0x488, 0x489, 0),
  (0x591, 0x591, 220), (0x592, 0x595, 230), (0x596, 0x596, 220), (0x597, 0x599, 230),
  (0x59A, 0x59A, 222), (0x59B, 0x59B, 220), (0x59C, 0x5A1, 230), (0x5A2, 0x5A7, 220),
  (0x5A8, 0x5A9, 230), (0x5AA, 0x5AA, 220), (0x5AB, 0x5AC, 230), (0x5AD, 0x5AD, 222),
  (0x5AE, 0x5AE, 228), (0x5AF, 0x5AF, 230), (0x5B0, 0x5B0, 10), (0x5B1, 0x5B1, 11),
  (0x5B2, 0x5B2, 12), (0x5B3, 0x5B3, 13), (0x5B4, 0x5B4, 14), (0x5B5, 0x5B5, 15),
  (0x5B6, 0x5B6, 16), (0x5B7, 0x5B7, 17), (0x5B8, 0x5B8, 18), (0x5B9, 0x5BA, 19),
  (0x5BB, 0x5BB, 20), (0x5BC, 0x5BC, 21), (0x5BD, 0x5BD, 22), (0x5BF, 0x5BF, 23),
  (0x5C1, 0x5C1, 24), (0x5C2, 0x5C2, 25), (0x5C4, 0x5C4, 230), (0x5C5, 0x5C5, 220),
  (0x5C7, 0x5C7, 18), (0x610, 0x617, 230), (0x618, 0x618, 30), (0x619, 0x619, 31),
  (0x61A, 0x61A, 32), (0x64B, 0x64B, 27), (0x64C, 0x64C, 28), (0x64D, 0x64D, 29),
  (0x64E, 0x64E, 30), (0x64F, 0x64F, 31), (0x650, 0x650, 32), (0x651, 0x651, 33),
  (0x652, 0x652, 34), (0x653, 0x654, 230), (0x655, 0x656, 220), (0x657, 0x65B, 230),
  (0x65C, 0x65C, 220), (0x65D, 0x65E, 230), (0x65F, 0x65F, 220), (0x670, 0x670, 35),
  (0x6D6, 0x6DC, 230), (0x6DF, 0x6E2, 230), (0x6E3, 0x6E3, 220), (0x6E4, 0x6E4, 230),
  (0x6E7, 0x6E8, 230), (0x6EA, 0x6EA, 220), (0x6EB, 0x6EC, 230), (0x6ED, 0x6ED, 220),
  (0x711, 0x711, 36), (0x730, 0x730, 230), (0x731, 0x731, 220), (0x732, 0x733, 230),
  (0x734, 0x734, 220), (0x735, 0x736, 230), (0x737, 0x739, 220), (0x73A, 0x73A, 230),
  (0x73B, 0x73C, 220), (0x73D, 0x73D, 230), (0x73E, 0x73E, 220), (0x73F, 0x741, 230),
  (0x742, 0x742, 220), (0x743, 0x743, 230), (0x744, 0x744, 220), (0x745, 0x745, 230),
  (0x746, 0x746, 220), (0x747, 0x747, 230), (0x748, 0x748, 220), (0x749, 0x74A, 230),
  (0x7A6, 0x7B0, 0), (0x7EB, 0x7F1, 230), (0x7F2, 0x7F2, 220), (0x7F3, 0x7F3, 230),
  (0x7FD, 0x7FD, 220), (0x816, 0x819, 230), (0x81B, 0x823, 230), (0x825, 0x827, 230),
  (0x829, 0x82D, 230), (0x859, 0x85B, 220), (0x898, 0x898, 230), (0x899, 0x89B, 220),
  (0x89C, 0x89F, 230), (0x8CA, 0x8CE, 230), (0x8CF, 0x8D3, 220), (0x8D4, 0x8E1, 230),
  (0x8E3, 0x8E3, 220), (0x8E4, 0x8E5, 230), (0x8E6, 0x8E6, 220), (0x8E7, 0x8E8, 230),
  (0x8E9, 0x8E9, 220), (0x8EA, 0x8EC, 230), (0x8ED, 0x8EF, 220), (0x8F0, 0x8F0, 27),
  (0x8F1, 0x8F1, 28), (0x8F2, 0x8F2, 29), (0x8F3, 0x8F5, 230), (0x8F6, 0x8F6, 220),
  (0x8F7, 0x8F8, 230), (0x8F9, 0x8FA, 220), (0x8FB, 0x8FF, 230), (0x900, 0x903, 0),
  (0x93A, 0x93B, 0), (0x93C, 0x93C, 7), (0x93E, 0x94C, 0), (0x94D, 0x94D, 9), (0x94E, 0x94F, 0),
  (0x951, 0x951, 230), (0x952, 0x952, 220), (0x953, 0x954, 230), (0x955, 0x957, 0),
  (0x962, 0x963, 0), (0x981, 0x983, 0), (0x9BC, 0x9BC, 7), (0x9BE, 0x9C4, 0), (0x9C7, 0x9C8, 0),
  (0x9CB, 0x9CC, 0), (0x9CD, 0x9CD, 9), (0x9D7, 0x9D7, 0), (0x9E2, 0x9E3, 0), (0x9FE, 0x9FE, 230),
  (0xA01, 0xA03, 0), (0xA3C, 0xA3C, 7), (0xA3E, 0xA42, 0), (0xA47, 0xA48, 0), (0xA4B, 0xA4C, 0),
  (0xA4D, 0xA4D, 9), (0xA51, 0xA51, 0), (0xA70, 0xA71, 0), (0xA75, 0xA75, 0), (0xA81, 0xA83, 0),
  (0xABC, 0xABC, 7), (0xABE, 0xAC5, 0), (0xAC7, 0xAC9, 0), (0xACB, 0xACC, 0), (0xACD, 0xACD, 9),
  (0xAE2, 0xAE3, 0), (0xAFA, 0xAFF, 0), (0xB01, 0xB03, 0), (0xB3C, 0xB3C, 7), (0xB3E, 0xB44, 0),
  (0xB47, 0xB48, 0), (0xB4B, 0xB4C, 0), (0xB4D, 0xB4D, 9), (0xB55, 0xB57, 0), (0xB62, 0xB63, 0),
  (0xB82, 0xB82, 0), (0xBBE, 0xBC2, 0), (0xBC6, 0xBC8, 0), (0xBCA, 0xBCC, 0), (0xBCD, 0xBCD, 9),
  (0xBD7, 0xBD7, 0), (0xC00, 0xC04, 0), (0xC3C, 0xC3C, 7), (0xC3E, 0xC44, 0), (0xC46, 0xC48, 0),
  (0xC4A, 0xC4C, 0), (0xC4D, 0xC4D, 9), (0xC55, 0xC55, 84), (0xC56, 0xC56, 91), (0xC62, 0xC63, 0),
  (0xC81, 0xC83, 0), (0xCBC, 0xCBC, 7), (0xCBE, 0xCC4, 0), (0xCC6, 0xCC8, 0), (0xCCA, 0xCCC, 0),
  (0xCCD, 0xCCD, 9), (0xCD5, 0xCD6, 0), (0xCE2, 0xCE3, 0), (0xCF3, 0xCF3, 0), (0xD00, 0xD03, 0),
  (0xD3B, 0xD3C, 9), (0xD3E, 0xD44, 0), (0xD46, 0xD48, 0), (0xD4A, 0xD4C, 0), (0xD4D, 0xD4D, 9),
  (0xD57, 0xD57, 0), (0xD62, 0xD63, 0), (0xD81, 0xD83, 0), (0xDCA, 0xDCA, 9), (0xDCF, 0xDD4, 0),
  (0xDD6, 0xDD6, 0), (0xDD8, 0xDDF, 0), (0xDF2, 0xDF3, 0), (0xE31, 0xE31, 0), (0xE34, 0xE37, 0),
  (0xE38, 0xE39, 103), (0xE3A, 0xE3A, 9), (0xE47, 0xE47, 0), (0xE48, 0xE4B, 107),
  (0xE4C, 0xE4E, 0), (0xEB1, 0xEB1, 0), (0xEB4, 0xEB7, 0), (0xEB8, 0xEB9, 118), (0xEBA, 0xEBA, 9),
  (0xEBB, 0xEBC, 0), (0xEC8, 0xECB, 122), (0xECC, 0xECE, 0), (0xF18, 0xF19, 220),
  (0xF35, 0xF35, 220), (0xF37, 0xF37, 220), (0xF39, 0xF39, 216), (0xF3E, 0xF3F, 0),
  (0xF71, 0xF71, 129), (0xF72, 0xF72, 130), (0xF74, 0xF74, 132), (0xF7A, 0xF7D, 130),
  (0xF7E, 0xF7F, 0), (0xF80, 0xF80, 130), (0xF82, 0xF83, 230), (0xF84, 0xF84, 9),
  (0xF86, 0xF87, 230), (0xF8D, 0xF92, 0), (0xF94, 0xF97, 0), (0xF99, 0xF9C, 0), (0xF9E, 0xFA1, 0),
  (0xFA3, 0xFA6, 0), (0xFA8, 0xFAB, 0), (0xFAD, 0xFB8, 0), (0xFBA, 0xFBC, 0), (0xFC6, 0xFC6, 220),
  (0x102B, 0x1036, 0), (0x1037, 0x1037, 7), (0x1038, 0x1038, 0), (0x1039, 0x103A, 9),
  (0x103B, 0x103E, 0), (0x1056, 0x1059, 0), (0x105E, 0x1060, 0), (0x1062, 0x1064, 0),
  (0x1067, 0x106D, 0), (0x1071, 0x1074, 0), (0x1082, 0x108C, 0), (0x108D, 0x108D, 220),
  (0x108F, 0x108F, 0), (0x109A, 0x109D, 0), (0x135D, 0x135F, 230), (0x1712, 0x1713, 0),
  (0x1714, 0x1715, 9), (0x1732, 0x1733, 0), (0x1734, 0x1734, 9), (0x1752, 0x1753, 0),
  (0x1772, 0x1773, 0), (0x17B6, 0x17D1, 0), (0x17D2, 0x17D2, 9), (0x17D3, 0x17D3, 0),
  (0x17DD, 0x17DD, 230), (0x1885, 0x1886, 0), (0x18A9, 0x18A9, 228), (0x1920, 0x192B, 0),
  (0x1930, 0x1938, 0), (0x1939, 0x1939, 222), (0x193A, 0x193A, 230), (0x193B, 0x193B, 220),
  (0x1A17, 0x1A17, 230), (0x1A18, 0x1A18, 220), (0x1A19, 0x1A1B, 0), (0x1A55, 0x1A5E, 0),
  (0x1A60, 0x1A60, 9), (0x1A61, 0x1A74, 0), (0x1A75, 0x1A7C, 230), (0x1A7F, 0x1A7F, 220),
  (0x1AB0, 0x1AB4, 230), (0x1AB5, 0x1ABA, 220), (0x1ABB, 0x1ABC, 230), (0x1ABD, 0x1ABD, 220),
  (0x1ABE, 0x1ABE, 0), (0x1ABF, 0x1AC0, 220), (0x1AC1, 0x1AC2, 230), (0x1AC3, 0x1AC4, 220),
  (0x1AC5, 0x1AC9, 230), (0x1ACA, 0x1ACA, 220), (0x1ACB, 0x1ACE, 230), (0x1B00, 0x1B04, 0),
  (0x1B34, 0x1B34, 7), (0x1B35, 0x1B43, 0), (0x1B44, 0x1B44, 9), (0x1B6B, 0x1B6B, 230),
  (0x1B6C, 0x1B6C, 220), (0x1B6D, 0x1B73, 230), (0x1B80, 0x1B82, 0), (0x1BA1, 0x1BA9, 0),
  (0x1BAA, 0x1BAB, 9), (0x1BAC, 0x1BAD, 0), (0x1BE6, 0x1BE6, 7), (0x1BE7, 0x1BF1, 0),
  (0x1BF2, 0x1BF3, 9), (0x1C24, 0x1C36, 0), (0x1C37, 0x1C37, 7), (0x1CD0, 0x1CD2, 230),
  (0x1CD4, 0x1CD4, 1), (0x1CD5, 0x1CD9, 220), (0x1CDA, 0x1CDB, 230), (0x1CDC, 0x1CDF, 220),
  (0x1CE0, 0x1CE0, 230), (0x1CE1, 0x1CE1, 0), (0x1CE2, 0x1CE8, 1), (0x1CED, 0x1CED, 220),
  (0x1CF4, 0x1CF4, 230), (0x1CF7, 0x1CF7, 0), (0x1CF8, 0x1CF9, 230), (0x1DC0, 0x1DC1, 230),
  (0x1DC2, 0x1DC2, 220), (0x1DC3, 0x1DC9, 230), (0x1DCA, 0x1DCA, 220), (0x1DCB, 0x1DCC, 230),
  (0x1DCD, 0x1DCD, 234), (0x1DCE, 0x1DCE, 214), (0x1DCF, 0x1DCF, 220), (0x1DD0, 0x1DD0, 202),
  (0x1DD1, 0x1DF5, 230), (0x1DF6, 0x1DF6, 232), (0x1DF7, 0x1DF8, 228), (0x1DF9, 0x1DF9, 220),
  (0x1DFA, 0x1DFA, 218), (0x1DFB, 0x1DFB, 230), (0x1DFC, 0x1DFC, 233), (0x1DFD, 0x1DFD, 220),
  (0x1DFE, 0x1DFE, 230), (0x1DFF, 0x1DFF, 220), (0x20D0, 0x20D1, 230), (0x20D2, 0x20D3, 1),
  (0x20D4, 0x20D7, 230), (0x20D8, 0x20DA, 1), (0x20DB, 0x20DC, 230), (0x20DD, 0x20E0, 0),
  (0x20E1, 0x20E1, 230), (0x20E2, 0x20E4, 0), (0x20E5, 0x20E6, 1), (0x20E7, 0x20E7, 230),
  (0x20E8, 0x20E8, 220), (0x20E9, 0x20E9, 230), (0x20EA, 0x20EB, 1), (0x20EC, 0x20EF, 220),
  (0x20F0, 0x20F0, 230), (0x2CEF, 0x2CF1, 230), (0x2D7F, 0x2D7F, 9), (0x2DE0, 0x2DFF, 230),
  (0x302A, 0x302A, 218), (0x302B, 0x302B, 228), (0x302C, 0x302C, 232), (0x302D, 0x302D, 222),
  (0x302E, 0x302F, 224), (0x3099, 0x309A, 8), (0xA66F, 0xA66F, 230), (0xA670, 0xA672, 0),
  (0xA674, 0xA67D, 230), (0xA69E, 0xA69F, 230), (0xA6F0, 0xA6F1, 230), (0xA802, 0xA802, 0),
  (0xA806, 0xA806, 9), (0xA80B, 0xA80B, 0), (0xA823, 0xA827, 0), (0xA82C, 0xA82C, 9),
  (0xA880, 0xA881, 0), (0xA8B4, 0xA8C3, 0), (0xA8C4, 0xA8C4, 9), (0xA8C5, 0xA8C5, 0),
  (0xA8E0, 0xA8F1, 230), (0xA8FF, 0xA8FF, 0), (0xA926, 0xA92A, 0), (0xA92B, 0xA92D, 220),
  (0xA947, 0xA952, 0), (0xA953, 0xA953, 9), (0xA980, 0xA983, 0), (0xA9B3, 0xA9B3, 7),
  (0xA9B4, 0xA9BF, 0), (0xA9C0, 0xA9C0, 9), (0xA9E5, 0xA9E5, 0), (0xAA29, 0xAA36, 0),
  (0xAA43, 0xAA43, 0), (0xAA4C, 0xAA4D, 0), (0xAA7B, 0xAA7D, 0), (0xAAB0, 0xAAB0, 230),
  (0xAAB2, 0xAAB3, 230), (0xAAB4, 0xAAB4, 220), (0xAAB7, 0xAAB8, 230), (0xAABE, 0xAABF, 230),
  (0xAAC1, 0xAAC1, 230), (0xAAEB, 0xAAEF, 0), (0xAAF5, 0xAAF5, 0), (0xAAF6, 0xAAF6, 9),
  (0xABE3, 0xABEA, 0), (0xABEC, 0xABEC, 0), (0xABED, 0xABED, 9), (0xFB1E, 0xFB1E, 26),
  (0xFE20, 0xFE26, 230), (0xFE27, 0xFE2D, 220), (0xFE2E, 0xFE2F, 230), (0x101FD, 0x101FD, 220),
  (0x102E0, 0x102E0, 220), (0x10376, 0x1037A, 230), (0x10A01, 0x10A03, 0), (0x10A05, 0x10A06, 0),
  (0x10A0C, 0x10A0C, 0), (0x10A0D, 0x10A0D, 220), (0x10A0E, 0x10A0E, 0), (0x10A0F, 0x10A0F, 230),
  (0x10A38, 0x10A38, 230), (0x10A39, 0x10A39, 1), (0x10A3A, 0x10A3A, 220), (0x10A3F, 0x10A3F, 9),
  (0x10AE5, 0x10AE5, 230), (0x10AE6, 0x10AE6, 220), (0x10D24, 0x10D27, 230),
  (0x10EAB, 0x10EAC, 230), (0x10EFD, 0x10EFF, 220), (0x10F46, 0x10F47, 220),
  (0x10F48, 0x10F4A, 230), (0x10F4B, 0x10F4B, 220), (0x10F4C, 0x10F4C, 230),
  (0x10F4D, 0x10F50, 220), (0x10F82, 0x10F82, 230), (0x10F83, 0x10F83, 220),
  (0x10F84, 0x10F84, 230), (0x10F85, 0x10F85, 220), (0x11000, 0x11002, 0), (0x11038, 0x11045, 0),
  (0x11046, 0x11046, 9), (0x11070, 0x11070, 9), (0x11073, 0x11074, 0), (0x1107F, 0x1107F, 9),
  (0x11080, 0x11082, 0), (0x110B0, 0x110B8, 0), (0x110B9, 0x110B9, 9), (0x110BA, 0x110BA, 7),
  (0x110C2, 0x110C2, 0), (0x11100, 0x11102, 230), (0x11127, 0x11132, 0), (0x11133, 0x11134, 9),
  (0x11145, 0x11146, 0), (0x11173, 0x11173, 7), (0x11180, 0x11182, 0), (0x111B3, 0x111BF, 0),
  (0x111C0, 0x111C0, 9), (0x111C9, 0x111C9, 0), (0x111CA, 0x111CA, 7), (0x111CB, 0x111CC, 0),
  (0x111CE, 0x111CF, 0), (0x1122C, 0x11234, 0), (0x11235, 0x11235, 9), (0x11236, 0x11236, 7),
  (0x11237, 0x11237, 0), (0x1123E, 0x1123E, 0), (0x11241, 0x11241, 0), (0x112DF, 0x112E8, 0),
  (0x112E9, 0x112E9, 7), (0x112EA, 0x112EA, 9), (0x11300, 0x11303, 0), (0x1133B, 0x1133C, 7),
  (0x1133E, 0x11344, 0), (0x11347, 0x11348, 0), (0x1134B, 0x1134C, 0), (0x1134D, 0x1134D, 9),
  (0x11357, 0x11357, 0), (0x11362, 0x11363, 0), (0x11366, 0x1136C, 230), (0x11370, 0x11374, 230),
  (0x11435, 0x11441, 0), (0x11442, 0x11442, 9), (0x11443, 0x11445, 0), (0x11446, 0x11446, 7),
  (0x1145E, 0x1145E, 230), (0x114B0, 0x114C1, 0), (0x114C2, 0x114C2, 9), (0x114C3, 0x114C3, 7),
  (0x115AF, 0x115B5, 0), (0x115B8, 0x115BE, 0), (0x115BF, 0x115BF, 9), (0x115C0, 0x115C0, 7),
  (0x115DC, 0x115DD, 0), (0x11630, 0x1163E, 0), (0x1163F, 0x1163F, 9), (0x11640, 0x11640, 0),
  (0x116AB, 0x116B5, 0), (0x116B6, 0x116B6, 9), (0x116B7, 0x116B7, 7), (0x1171D, 0x1172A, 0),
  (0x1172B, 0x1172B, 9), (0x1182C, 0x11838, 0), (0x11839, 0x11839, 9), (0x1183A, 0x1183A, 7),
  (0x11930, 0x11935, 0), (0x11937, 0x11938, 0), (0x1193B, 0x1193C, 0), (0x1193D, 0x1193E, 9),
  (0x11940, 0x11940, 0), (0x11942, 0x11942, 0), (0x11943, 0x11943, 7), (0x119D1, 0x119D7, 0),
  (0x119DA, 0x119DF, 0), (0x119E0, 0x119E0, 9), (0x119E4, 0x119E4, 0), (0x11A01, 0x11A0A, 0),
  (0x11A33, 0x11A33, 0), (0x11A34, 0x11A34, 9), (0x11A35, 0x11A39, 0), (0x11A3B, 0x11A3E, 0),
  (0x11A47, 0x11A47, 9), (0x11A51, 0x11A5B, 0), (0x11A8A, 0x11A98, 0), (0x11A99, 0x11A99, 9),
  (0x11C2F, 0x11C36, 0), (0x11C38, 0x11C3E, 0), (0x11C3F, 0x11C3F, 9), (0x11C92, 0x11CA7, 0),
  (0x11CA9, 0x11CB6, 0), (0x11D31, 0x11D36, 0), (0x11D3A, 0x11D3A, 0), (0x11D3C, 0x11D3D, 0),
  (0x11D3F, 0x11D41, 0), (0x11D42, 0x11D42, 7), (0x11D43, 0x11D43, 0), (0x11D44, 0x11D45, 9),
  (0x11D47, 0x11D47, 0), (0x11D8A, 0x11D8E, 0), (0x11D90, 0x11D91, 0), (0x11D93, 0x11D96, 0),
  (0x11D97, 0x11D97, 9), (0x11EF3, 0x11EF6, 0), (0x11F00, 0x11F01, 0), (0x11F03, 0x11F03, 0),
  (0x11F34, 0x11F3A, 0), (0x11F3E, 0x11F40, 0), (0x11F41, 0x11F42, 9), (0x13440, 0x13440, 0),
  (0x13447, 0x13455, 0), (0x16AF0, 0x16AF4, 1), (0x16B30, 0x16B36, 230), (0x16F4F, 0x16F4F, 0),
  (0x16F51, 0x16F87, 0), (0x16F8F, 0x16F92, 0), (0x16FE4, 0x16FE4, 0), (0x16FF0, 0x16FF1, 6),
  (0x1BC9D, 0x1BC9D, 0), (0x1BC9E, 0x1BC9E, 1), (0x1CF00, 0x1CF2D, 0), (0x1CF30, 0x1CF46, 0),
  (0x1D165, 0x1D166, 216), (0x1D167, 0x1D169, 1), (0x1D16D, 0x1D16D, 226),
  (0x1D16E, 0x1D172, 216), (0x1D17B, 0x1D182, 220), (0x1D185, 0x1D189, 230),
  (0x1D18A, 0x1D18B, 220), (0x1D1AA, 0x1D1AD, 230), (0x1D242, 0x1D244, 230),
  (0x1DA00, 0x1DA36, 0), (0x1DA3B, 0x1DA6C, 0), (0x1DA75, 0x1DA75, 0), (0x1DA84, 0x1DA84, 0),
  (0x1DA9B, 0x1DA9F, 0), (0x1DAA1, 0x1DAAF, 0), (0x1E000, 0x1E006, 230), (0x1E008, 0x1E018, 230),
  (0x1E01B, 0x1E021, 230), (0x1E023, 0x1E024, 230), (0x1E026, 0x1E02A, 230),
  (0x1E08F, 0x1E08F, 230), (0x1E130, 0x1E136, 230), (0x1E2AE, 0x1E2AE, 230),
  (0x1E2EC, 0x1E2EF, 230), (0x1E4EC, 0x1E4ED, 232), (0x1E4EE, 0x1E4EE, 220),
  (0x1E4EF, 0x1E4EF, 230), (0x1E8D0, 0x1E8D6, 220), (0x1E944, 0x1E949, 230),
  (0x1E94A, 0x1E94A, 7)]

/-- The combining marks that take up space of their own, as ranges in ascending order. -/
def spacingMarks : List (Nat × Nat) := [
  (0x903, 0x903), (0x93B, 0x93B), (0x93E, 0x940), (0x949, 0x94C), (0x94E, 0x94F), (0x982, 0x983),
  (0x9BE, 0x9C0), (0x9C7, 0x9C8), (0x9CB, 0x9CC), (0x9D7, 0x9D7), (0xA03, 0xA03), (0xA3E, 0xA40),
  (0xA83, 0xA83), (0xABE, 0xAC0), (0xAC9, 0xAC9), (0xACB, 0xACC), (0xB02, 0xB03), (0xB3E, 0xB3E),
  (0xB40, 0xB40), (0xB47, 0xB48), (0xB4B, 0xB4C), (0xB57, 0xB57), (0xBBE, 0xBBF), (0xBC1, 0xBC2),
  (0xBC6, 0xBC8), (0xBCA, 0xBCC), (0xBD7, 0xBD7), (0xC01, 0xC03), (0xC41, 0xC44), (0xC82, 0xC83),
  (0xCBE, 0xCC4), (0xCC6, 0xCC8), (0xCCA, 0xCCB), (0xCD5, 0xCD6), (0xCF3, 0xCF3), (0xD02, 0xD03),
  (0xD3E, 0xD40), (0xD46, 0xD48), (0xD4A, 0xD4C), (0xD57, 0xD57), (0xD82, 0xD83), (0xDCF, 0xDD1),
  (0xDD8, 0xDDF), (0xDF2, 0xDF3), (0xF3E, 0xF3F), (0xF7F, 0xF7F), (0x102B, 0x102C),
  (0x1031, 0x1031), (0x1038, 0x1038), (0x103B, 0x103C), (0x1056, 0x1057), (0x1062, 0x1064),
  (0x1067, 0x106D), (0x1083, 0x1084), (0x1087, 0x108C), (0x108F, 0x108F), (0x109A, 0x109C),
  (0x1715, 0x1715), (0x1734, 0x1734), (0x17B6, 0x17B6), (0x17BE, 0x17C5), (0x17C7, 0x17C8),
  (0x1923, 0x1926), (0x1929, 0x192B), (0x1930, 0x1931), (0x1933, 0x1938), (0x1A19, 0x1A1A),
  (0x1A55, 0x1A55), (0x1A57, 0x1A57), (0x1A61, 0x1A61), (0x1A63, 0x1A64), (0x1A6D, 0x1A72),
  (0x1B04, 0x1B04), (0x1B35, 0x1B35), (0x1B3B, 0x1B3B), (0x1B3D, 0x1B41), (0x1B43, 0x1B44),
  (0x1B82, 0x1B82), (0x1BA1, 0x1BA1), (0x1BA6, 0x1BA7), (0x1BAA, 0x1BAA), (0x1BE7, 0x1BE7),
  (0x1BEA, 0x1BEC), (0x1BEE, 0x1BEE), (0x1BF2, 0x1BF3), (0x1C24, 0x1C2B), (0x1C34, 0x1C35),
  (0x1CE1, 0x1CE1), (0x1CF7, 0x1CF7), (0x302E, 0x302F), (0xA823, 0xA824), (0xA827, 0xA827),
  (0xA880, 0xA881), (0xA8B4, 0xA8C3), (0xA952, 0xA953), (0xA983, 0xA983), (0xA9B4, 0xA9B5),
  (0xA9BA, 0xA9BB), (0xA9BE, 0xA9C0), (0xAA2F, 0xAA30), (0xAA33, 0xAA34), (0xAA4D, 0xAA4D),
  (0xAA7B, 0xAA7B), (0xAA7D, 0xAA7D), (0xAAEB, 0xAAEB), (0xAAEE, 0xAAEF), (0xAAF5, 0xAAF5),
  (0xABE3, 0xABE4), (0xABE6, 0xABE7), (0xABE9, 0xABEA), (0xABEC, 0xABEC), (0x11000, 0x11000),
  (0x11002, 0x11002), (0x11082, 0x11082), (0x110B0, 0x110B2), (0x110B7, 0x110B8),
  (0x1112C, 0x1112C), (0x11145, 0x11146), (0x11182, 0x11182), (0x111B3, 0x111B5),
  (0x111BF, 0x111C0), (0x111CE, 0x111CE), (0x1122C, 0x1122E), (0x11232, 0x11233),
  (0x11235, 0x11235), (0x112E0, 0x112E2), (0x11302, 0x11303), (0x1133E, 0x1133F),
  (0x11341, 0x11344), (0x11347, 0x11348), (0x1134B, 0x1134D), (0x11357, 0x11357),
  (0x11362, 0x11363), (0x11435, 0x11437), (0x11440, 0x11441), (0x11445, 0x11445),
  (0x114B0, 0x114B2), (0x114B9, 0x114B9), (0x114BB, 0x114BE), (0x114C1, 0x114C1),
  (0x115AF, 0x115B1), (0x115B8, 0x115BB), (0x115BE, 0x115BE), (0x11630, 0x11632),
  (0x1163B, 0x1163C), (0x1163E, 0x1163E), (0x116AC, 0x116AC), (0x116AE, 0x116AF),
  (0x116B6, 0x116B6), (0x11720, 0x11721), (0x11726, 0x11726), (0x1182C, 0x1182E),
  (0x11838, 0x11838), (0x11930, 0x11935), (0x11937, 0x11938), (0x1193D, 0x1193D),
  (0x11940, 0x11940), (0x11942, 0x11942), (0x119D1, 0x119D3), (0x119DC, 0x119DF),
  (0x119E4, 0x119E4), (0x11A07, 0x11A08), (0x11A39, 0x11A39), (0x11A57, 0x11A58),
  (0x11A97, 0x11A97), (0x11C2F, 0x11C2F), (0x11C3E, 0x11C3F), (0x11CA9, 0x11CA9),
  (0x11CB1, 0x11CB1), (0x11CB4, 0x11CB4), (0x11D8A, 0x11D8E), (0x11D93, 0x11D94),
  (0x11D96, 0x11D96), (0x11EF5, 0x11EF6), (0x11F03, 0x11F03), (0x11F34, 0x11F35),
  (0x11F3E, 0x11F3F), (0x11F41, 0x11F41), (0x16F51, 0x16F87), (0x16FF0, 0x16FF1),
  (0x1D165, 0x1D166), (0x1D16D, 0x1D172)]

/-- The characters that are two in one, each with the two, in ascending order. -/
def composites : List CharWords := [
  ⟨0xE0, "a\u0300 a\u0301 a\u0302 a\u0303 a\u0308 a\u030a"⟩,
  ⟨0xE7, "c\u0327 e\u0300 e\u0301 e\u0302 e\u0308 i\u0300 i\u0301 i\u0302 i\u0308"⟩,
  ⟨0xF1, "n\u0303 o\u0300 o\u0301 o\u0302 o\u0303 o\u0308"⟩,
  ⟨0xF9, "u\u0300 u\u0301 u\u0302 u\u0308 y\u0301"⟩,
  ⟨0xFF, "y\u0308"⟩,
  ⟨0x101, "a\u0304"⟩,
  ⟨0x103, "a\u0306"⟩,
  ⟨0x105, "a\u0328"⟩,
  ⟨0x107, "c\u0301"⟩,
  ⟨0x109, "c\u0302"⟩,
  ⟨0x10B, "c\u0307"⟩,
  ⟨0x10D, "c\u030c"⟩,
  ⟨0x10F, "d\u030c"⟩,
  ⟨0x113, "e\u0304"⟩,
  ⟨0x115, "e\u0306"⟩,
  ⟨0x117, "e\u0307"⟩,
  ⟨0x119, "e\u0328"⟩,
  ⟨0x11B, "e\u030c"⟩,
  ⟨0x11D, "g\u0302"⟩,
  ⟨0x11F, "g\u0306"⟩,
  ⟨0x121, "g\u0307"⟩,
  ⟨0x123, "g\u0327"⟩,
  ⟨0x125, "h\u0302"⟩,
  ⟨0x129, "i\u0303"⟩,
  ⟨0x12B, "i\u0304"⟩,
  ⟨0x12D, "i\u0306"⟩,
  ⟨0x12F, "i\u0328"⟩,
  ⟨0x135, "j\u0302"⟩,
  ⟨0x137, "k\u0327"⟩,
  ⟨0x13A, "l\u0301"⟩,
  ⟨0x13C, "l\u0327"⟩,
  ⟨0x13E, "l\u030c"⟩,
  ⟨0x144, "n\u0301"⟩,
  ⟨0x146, "n\u0327"⟩,
  ⟨0x148, "n\u030c"⟩,
  ⟨0x14D, "o\u0304"⟩,
  ⟨0x14F, "o\u0306"⟩,
  ⟨0x151, "o\u030b"⟩,
  ⟨0x155, "r\u0301"⟩,
  ⟨0x157, "r\u0327"⟩,
  ⟨0x159, "r\u030c"⟩,
  ⟨0x15B, "s\u0301"⟩,
  ⟨0x15D, "s\u0302"⟩,
  ⟨0x15F, "s\u0327"⟩,
  ⟨0x161, "s\u030c"⟩,
  ⟨0x163, "t\u0327"⟩,
  ⟨0x165, "t\u030c"⟩,
  ⟨0x169, "u\u0303"⟩,
  ⟨0x16B, "u\u0304"⟩,
  ⟨0x16D, "u\u0306"⟩,
  ⟨0x16F, "u\u030a"⟩,
  ⟨0x171, "u\u030b"⟩,
  ⟨0x173, "u\u0328"⟩,
  ⟨0x175, "w\u0302"⟩,
  ⟨0x177, "y\u0302"⟩,
  ⟨0x17A, "z\u0301"⟩,
  ⟨0x17C, "z\u0307"⟩,
  ⟨0x17E, "z\u030c"⟩,
  ⟨0x1A1, "o\u031b"⟩,
  ⟨0x1B0, "u\u031b"⟩,
  ⟨0x1CE, "a\u030c"⟩,
  ⟨0x1D0, "i\u030c"⟩,
  ⟨0x1D2, "o\u030c"⟩,
  ⟨0x1D4, "u\u030c"⟩,
  ⟨0x1D6, "ü\u0304"⟩,
  ⟨0x1D8, "ü\u0301"⟩,
  ⟨0x1DA, "ü\u030c"⟩,
  ⟨0x1DC, "ü\u0300"⟩,
  ⟨0x1DF, "ä\u0304"⟩,
  ⟨0x1E1, "ȧ\u0304"⟩,
  ⟨0x1E3, "æ\u0304"⟩,
  ⟨0x1E7, "g\u030c"⟩,
  ⟨0x1E9, "k\u030c"⟩,
  ⟨0x1EB, "o\u0328"⟩,
  ⟨0x1ED, "ǫ\u0304"⟩,
  ⟨0x1EF, "ʒ\u030c j\u030c"⟩,
  ⟨0x1F5, "g\u0301"⟩,
  ⟨0x1F9, "n\u0300"⟩,
  ⟨0x1FB, "å\u0301"⟩,
  ⟨0x1FD, "æ\u0301"⟩,
  ⟨0x1FF, "ø\u0301"⟩,
  ⟨0x201, "a\u030f"⟩,
  ⟨0x203, "a\u0311"⟩,
  ⟨0x205, "e\u030f"⟩,
  ⟨0x207, "e\u0311"⟩,
  ⟨0x209, "i\u030f"⟩,
  ⟨0x20B, "i\u0311"⟩,
  ⟨0x20D, "o\u030f"⟩,
  ⟨0x20F, "o\u0311"⟩,
  ⟨0x211, "r\u030f"⟩,
  ⟨0x213, "r\u0311"⟩,
  ⟨0x215, "u\u030f"⟩,
  ⟨0x217, "u\u0311"⟩,
  ⟨0x219, "s\u0326"⟩,
  ⟨0x21B, "t\u0326"⟩,
  ⟨0x21F, "h\u030c"⟩,
  ⟨0x227, "a\u0307"⟩,
  ⟨0x229, "e\u0327"⟩,
  ⟨0x22B, "ö\u0304"⟩,
  ⟨0x22D, "õ\u0304"⟩,
  ⟨0x22F, "o\u0307"⟩,
  ⟨0x231, "ȯ\u0304"⟩,
  ⟨0x233, "y\u0304"⟩,
  ⟨0x390, "ϊ\u0301"⟩,
  ⟨0x3AC, "α\u0301 ε\u0301 η\u0301 ι\u0301 ϋ\u0301"⟩,
  ⟨0x3CA, "ι\u0308 υ\u0308 ο\u0301 υ\u0301 ω\u0301"⟩,
  ⟨0x439, "и\u0306"⟩,
  ⟨0x450, "е\u0300 е\u0308"⟩,
  ⟨0x453, "г\u0301"⟩,
  ⟨0x457, "і\u0308"⟩,
  ⟨0x45C, "к\u0301 и\u0300 у\u0306"⟩,
  ⟨0x477, "ѵ\u030f"⟩,
  ⟨0x4C2, "ж\u0306"⟩,
  ⟨0x4D1, "а\u0306"⟩,
  ⟨0x4D3, "а\u0308"⟩,
  ⟨0x4D7, "е\u0306"⟩,
  ⟨0x4DB, "ә\u0308"⟩,
  ⟨0x4DD, "ж\u0308"⟩,
  ⟨0x4DF, "з\u0308"⟩,
  ⟨0x4E3, "и\u0304"⟩,
  ⟨0x4E5, "и\u0308"⟩,
  ⟨0x4E7, "о\u0308"⟩,
  ⟨0x4EB, "ө\u0308"⟩,
  ⟨0x4ED, "э\u0308"⟩,
  ⟨0x4EF, "у\u0304"⟩,
  ⟨0x4F1, "у\u0308"⟩,
  ⟨0x4F3, "у\u030b"⟩,
  ⟨0x4F5, "ч\u0308"⟩,
  ⟨0x4F9, "ы\u0308"⟩,
  ⟨0x622, "\u0627\u0653 \u0627\u0654 \u0648\u0654 \u0627\u0655 \u064a\u0654"⟩,
  ⟨0x6C0, "\u06d5\u0654"⟩,
  ⟨0x6C2, "\u06c1\u0654"⟩,
  ⟨0x6D3, "\u06d2\u0654"⟩,
  ⟨0x929, "न\u093c"⟩,
  ⟨0x931, "र\u093c"⟩,
  ⟨0x934, "ळ\u093c"⟩,
  ⟨0x9CB, "\u09c7\u09be \u09c7\u09d7"⟩,
  ⟨0xB48, "\u0b47\u0b56"⟩,
  ⟨0xB4B, "\u0b47\u0b3e \u0b47\u0b57"⟩,
  ⟨0xB94, "ஒ\u0bd7"⟩,
  ⟨0xBCA, "\u0bc6\u0bbe \u0bc7\u0bbe \u0bc6\u0bd7"⟩,
  ⟨0xC48, "\u0c46\u0c56"⟩,
  ⟨0xCC0, "\u0cbf\u0cd5"⟩,
  ⟨0xCC7, "\u0cc6\u0cd5 \u0cc6\u0cd6"⟩,
  ⟨0xCCA, "\u0cc6\u0cc2 \u0cca\u0cd5"⟩,
  ⟨0xD4A, "\u0d46\u0d3e \u0d47\u0d3e \u0d46\u0d57"⟩,
  ⟨0xDDA, "\u0dd9\u0dca"⟩,
  ⟨0xDDC, "\u0dd9\u0dcf \u0ddc\u0dca \u0dd9\u0ddf"⟩,
  ⟨0x1026, "ဥ\u102e"⟩,
  ⟨0x1B06, "ᬅ\u1b35"⟩,
  ⟨0x1B08, "ᬇ\u1b35"⟩,
  ⟨0x1B0A, "ᬉ\u1b35"⟩,
  ⟨0x1B0C, "ᬋ\u1b35"⟩,
  ⟨0x1B0E, "ᬍ\u1b35"⟩,
  ⟨0x1B12, "ᬑ\u1b35"⟩,
  ⟨0x1B3B, "\u1b3a\u1b35"⟩,
  ⟨0x1B3D, "\u1b3c\u1b35"⟩,
  ⟨0x1B40, "\u1b3e\u1b35 \u1b3f\u1b35"⟩,
  ⟨0x1B43, "\u1b42\u1b35"⟩,
  ⟨0x1E01, "a\u0325"⟩,
  ⟨0x1E03, "b\u0307"⟩,
  ⟨0x1E05, "b\u0323"⟩,
  ⟨0x1E07, "b\u0331"⟩,
  ⟨0x1E09, "ç\u0301"⟩,
  ⟨0x1E0B, "d\u0307"⟩,
  ⟨0x1E0D, "d\u0323"⟩,
  ⟨0x1E0F, "d\u0331"⟩,
  ⟨0x1E11, "d\u0327"⟩,
  ⟨0x1E13, "d\u032d"⟩,
  ⟨0x1E15, "ē\u0300"⟩,
  ⟨0x1E17, "ē\u0301"⟩,
  ⟨0x1E19, "e\u032d"⟩,
  ⟨0x1E1B, "e\u0330"⟩,
  ⟨0x1E1D, "ȩ\u0306"⟩,
  ⟨0x1E1F, "f\u0307"⟩,
  ⟨0x1E21, "g\u0304"⟩,
  ⟨0x1E23, "h\u0307"⟩,
  ⟨0x1E25, "h\u0323"⟩,
  ⟨0x1E27, "h\u0308"⟩,
  ⟨0x1E29, "h\u0327"⟩,
  ⟨0x1E2B, "h\u032e"⟩,
  ⟨0x1E2D, "i\u0330"⟩,
  ⟨0x1E2F, "ï\u0301"⟩,
  ⟨0x1E31, "k\u0301"⟩,
  ⟨0x1E33, "k\u0323"⟩,
  ⟨0x1E35, "k\u0331"⟩,
  ⟨0x1E37, "l\u0323"⟩,
  ⟨0x1E39, "ḷ\u0304"⟩,
  ⟨0x1E3B, "l\u0331"⟩,
  ⟨0x1E3D, "l\u032d"⟩,
  ⟨0x1E3F, "m\u0301"⟩,
  ⟨0x1E41, "m\u0307"⟩,
  ⟨0x1E43, "m\u0323"⟩,
  ⟨0x1E45, "n\u0307"⟩,
  ⟨0x1E47, "n\u0323"⟩,
  ⟨0x1E49, "n\u0331"⟩,
  ⟨0x1E4B, "n\u032d"⟩,
  ⟨0x1E4D, "õ\u0301"⟩,
  ⟨0x1E4F, "õ\u0308"⟩,
  ⟨0x1E51, "ō\u0300"⟩,
  ⟨0x1E53, "ō\u0301"⟩,
  ⟨0x1E55, "p\u0301"⟩,
  ⟨0x1E57, "p\u0307"⟩,
  ⟨0x1E59, "r\u0307"⟩,
  ⟨0x1E5B, "r\u0323"⟩,
  ⟨0x1E5D, "ṛ\u0304"⟩,
  ⟨0x1E5F, "r\u0331"⟩,
  ⟨0x1E61, "s\u0307"⟩,
  ⟨0x1E63, "s\u0323"⟩,
  ⟨0x1E65, "ś\u0307"⟩,
  ⟨0x1E67, "š\u0307"⟩,
  ⟨0x1E69, "ṣ\u0307"⟩,
  ⟨0x1E6B, "t\u0307"⟩,
  ⟨0x1E6D, "t\u0323"⟩,
  ⟨0x1E6F, "t\u0331"⟩,
  ⟨0x1E71, "t\u032d"⟩,
  ⟨0x1E73, "u\u0324"⟩,
  ⟨0x1E75, "u\u0330"⟩,
  ⟨0x1E77, "u\u032d"⟩,
  ⟨0x1E79, "ũ\u0301"⟩,
  ⟨0x1E7B, "ū\u0308"⟩,
  ⟨0x1E7D, "v\u0303"⟩,
  ⟨0x1E7F, "v\u0323"⟩,
  ⟨0x1E81, "w\u0300"⟩,
  ⟨0x1E83, "w\u0301"⟩,
  ⟨0x1E85, "w\u0308"⟩,
  ⟨0x1E87, "w\u0307"⟩,
  ⟨0x1E89, "w\u0323"⟩,
  ⟨0x1E8B, "x\u0307"⟩,
  ⟨0x1E8D, "x\u0308"⟩,
  ⟨0x1E8F, "y\u0307"⟩,
  ⟨0x1E91, "z\u0302"⟩,
  ⟨0x1E93, "z\u0323"⟩,
  ⟨0x1E95, "z\u0331 h\u0331 t\u0308 w\u030a y\u030a"⟩,
  ⟨0x1EA1, "a\u0323"⟩,
  ⟨0x1EA3, "a\u0309"⟩,
  ⟨0x1EA5, "â\u0301"⟩,
  ⟨0x1EA7, "â\u0300"⟩,
  ⟨0x1EA9, "â\u0309"⟩,
  ⟨0x1EAB, "â\u0303"⟩,
  ⟨0x1EAD, "ạ\u0302"⟩,
  ⟨0x1EAF, "ă\u0301"⟩,
  ⟨0x1EB1, "ă\u0300"⟩,
  ⟨0x1EB3, "ă\u0309"⟩,
  ⟨0x1EB5, "ă\u0303"⟩,
  ⟨0x1EB7, "ạ\u0306"⟩,
  ⟨0x1EB9, "e\u0323"⟩,
  ⟨0x1EBB, "e\u0309"⟩,
  ⟨0x1EBD, "e\u0303"⟩,
  ⟨0x1EBF, "ê\u0301"⟩,
  ⟨0x1EC1, "ê\u0300"⟩,
  ⟨0x1EC3, "ê\u0309"⟩,
  ⟨0x1EC5, "ê\u0303"⟩,
  ⟨0x1EC7, "ẹ\u0302"⟩,
  ⟨0x1EC9, "i\u0309"⟩,
  ⟨0x1ECB, "i\u0323"⟩,
  ⟨0x1ECD, "o\u0323"⟩,
  ⟨0x1ECF, "o\u0309"⟩,
  ⟨0x1ED1, "ô\u0301"⟩,
  ⟨0x1ED3, "ô\u0300"⟩,
  ⟨0x1ED5, "ô\u0309"⟩,
  ⟨0x1ED7, "ô\u0303"⟩,
  ⟨0x1ED9, "ọ\u0302"⟩,
  ⟨0x1EDB, "ơ\u0301"⟩,
  ⟨0x1EDD, "ơ\u0300"⟩,
  ⟨0x1EDF, "ơ\u0309"⟩,
  ⟨0x1EE1, "ơ\u0303"⟩,
  ⟨0x1EE3, "ơ\u0323"⟩,
  ⟨0x1EE5, "u\u0323"⟩,
  ⟨0x1EE7, "u\u0309"⟩,
  ⟨0x1EE9, "ư\u0301"⟩,
  ⟨0x1EEB, "ư\u0300"⟩,
  ⟨0x1EED, "ư\u0309"⟩,
  ⟨0x1EEF, "ư\u0303"⟩,
  ⟨0x1EF1, "ư\u0323"⟩,
  ⟨0x1EF3, "y\u0300"⟩,
  ⟨0x1EF5, "y\u0323"⟩,
  ⟨0x1EF7, "y\u0309"⟩,
  ⟨0x1EF9, "y\u0303"⟩,
  ⟨0x1F00, "α\u0313 α\u0314 ἀ\u0300 ἁ\u0300 ἀ\u0301 ἁ\u0301 ἀ\u0342 ἁ\u0342"⟩,
  ⟨0x1F10, "ε\u0313 ε\u0314 ἐ\u0300 ἑ\u0300 ἐ\u0301 ἑ\u0301"⟩,
  ⟨0x1F20, "η\u0313 η\u0314 ἠ\u0300 ἡ\u0300 ἠ\u0301 ἡ\u0301 ἠ\u0342 ἡ\u0342"⟩,
  ⟨0x1F30, "ι\u0313 ι\u0314 ἰ\u0300 ἱ\u0300 ἰ\u0301 ἱ\u0301 ἰ\u0342 ἱ\u0342"⟩,
  ⟨0x1F40, "ο\u0313 ο\u0314 ὀ\u0300 ὁ\u0300 ὀ\u0301 ὁ\u0301"⟩,
  ⟨0x1F50, "υ\u0313 υ\u0314 ὐ\u0300 ὑ\u0300 ὐ\u0301 ὑ\u0301 ὐ\u0342 ὑ\u0342"⟩,
  ⟨0x1F60, "ω\u0313 ω\u0314 ὠ\u0300 ὡ\u0300 ὠ\u0301 ὡ\u0301 ὠ\u0342 ὡ\u0342"⟩,
  ⟨0x1F70, "α\u0300"⟩,
  ⟨0x1F72, "ε\u0300"⟩,
  ⟨0x1F74, "η\u0300"⟩,
  ⟨0x1F76, "ι\u0300"⟩,
  ⟨0x1F78, "ο\u0300"⟩,
  ⟨0x1F7A, "υ\u0300"⟩,
  ⟨0x1F7C, "ω\u0300"⟩,
  ⟨0x1FB0, "α\u0306 α\u0304"⟩,
  ⟨0x1FB6, "α\u0342"⟩,
  ⟨0x1FC6, "η\u0342"⟩,
  ⟨0x1FD0, "ι\u0306 ι\u0304 ϊ\u0300"⟩,
  ⟨0x1FD6, "ι\u0342 ϊ\u0342"⟩,
  ⟨0x1FE0, "υ\u0306 υ\u0304 ϋ\u0300"⟩,
  ⟨0x1FE4, "ρ\u0313 ρ\u0314 υ\u0342 ϋ\u0342"⟩,
  ⟨0x1FF6, "ω\u0342"⟩,
  ⟨0x219A, "←\u0338 →\u0338"⟩,
  ⟨0x21AE, "↔\u0338"⟩,
  ⟨0x21CD, "⇐\u0338 ⇔\u0338 ⇒\u0338"⟩,
  ⟨0x2204, "∃\u0338"⟩,
  ⟨0x2209, "∈\u0338"⟩,
  ⟨0x220C, "∋\u0338"⟩,
  ⟨0x2224, "∣\u0338"⟩,
  ⟨0x2226, "∥\u0338"⟩,
  ⟨0x2241, "∼\u0338"⟩,
  ⟨0x2244, "≃\u0338"⟩,
  ⟨0x2247, "≅\u0338"⟩,
  ⟨0x2249, "≈\u0338"⟩,
  ⟨0x2260, "=\u0338"⟩,
  ⟨0x2262, "≡\u0338"⟩,
  ⟨0x226D, "≍\u0338 <\u0338 >\u0338 ≤\u0338 ≥\u0338"⟩,
  ⟨0x2274, "≲\u0338 ≳\u0338"⟩,
  ⟨0x2278, "≶\u0338 ≷\u0338"⟩,
  ⟨0x2280, "≺\u0338 ≻\u0338"⟩,
  ⟨0x2284, "⊂\u0338 ⊃\u0338"⟩,
  ⟨0x2288, "⊆\u0338 ⊇\u0338"⟩,
  ⟨0x22AC, "⊢\u0338 ⊨\u0338 ⊩\u0338 ⊫\u0338"⟩,
  ⟨0x22E0, "≼\u0338 ≽\u0338 ⊑\u0338 ⊒\u0338"⟩,
  ⟨0x22EA, "⊲\u0338 ⊳\u0338 ⊴\u0338 ⊵\u0338"⟩,
  ⟨0x304C, "か\u3099"⟩,
  ⟨0x304E, "き\u3099"⟩,
  ⟨0x3050, "く\u3099"⟩,
  ⟨0x3052, "け\u3099"⟩,
  ⟨0x3054, "こ\u3099"⟩,
  ⟨0x3056, "さ\u3099"⟩,
  ⟨0x3058, "し\u3099"⟩,
  ⟨0x305A, "す\u3099"⟩,
  ⟨0x305C, "せ\u3099"⟩,
  ⟨0x305E, "そ\u3099"⟩,
  ⟨0x3060, "た\u3099"⟩,
  ⟨0x3062, "ち\u3099"⟩,
  ⟨0x3065, "つ\u3099"⟩,
  ⟨0x3067, "て\u3099"⟩,
  ⟨0x3069, "と\u3099"⟩,
  ⟨0x3070, "は\u3099 は\u309a"⟩,
  ⟨0x3073, "ひ\u3099 ひ\u309a"⟩,
  ⟨0x3076, "ふ\u3099 ふ\u309a"⟩,
  ⟨0x3079, "へ\u3099 へ\u309a"⟩,
  ⟨0x307C, "ほ\u3099 ほ\u309a"⟩,
  ⟨0x3094, "う\u3099"⟩,
  ⟨0x309E, "\u309d\u3099"⟩,
  ⟨0x30AC, "カ\u3099"⟩,
  ⟨0x30AE, "キ\u3099"⟩,
  ⟨0x30B0, "ク\u3099"⟩,
  ⟨0x30B2, "ケ\u3099"⟩,
  ⟨0x30B4, "コ\u3099"⟩,
  ⟨0x30B6, "サ\u3099"⟩,
  ⟨0x30B8, "シ\u3099"⟩,
  ⟨0x30BA, "ス\u3099"⟩,
  ⟨0x30BC, "セ\u3099"⟩,
  ⟨0x30BE, "ソ\u3099"⟩,
  ⟨0x30C0, "タ\u3099"⟩,
  ⟨0x30C2, "チ\u3099"⟩,
  ⟨0x30C5, "ツ\u3099"⟩,
  ⟨0x30C7, "テ\u3099"⟩,
  ⟨0x30C9, "ト\u3099"⟩,
  ⟨0x30D0, "ハ\u3099 ハ\u309a"⟩,
  ⟨0x30D3, "ヒ\u3099 ヒ\u309a"⟩,
  ⟨0x30D6, "フ\u3099 フ\u309a"⟩,
  ⟨0x30D9, "ヘ\u3099 ヘ\u309a"⟩,
  ⟨0x30DC, "ホ\u3099 ホ\u309a"⟩,
  ⟨0x30F4, "ウ\u3099"⟩,
  ⟨0x30F7, "ワ\u3099 ヰ\u3099 ヱ\u3099 ヲ\u3099"⟩,
  ⟨0x30FE, "\u30fd\u3099"⟩,
  ⟨0x1109A, "𑂚"⟩,
  ⟨0x1109C, "𑂜"⟩,
  ⟨0x110AB, "𑂫"⟩,
  ⟨0x1112E, "𑄮 𑄯"⟩,
  ⟨0x1134B, "𑍋 𑍌"⟩,
  ⟨0x114BB, "𑒻 𑒼"⟩,
  ⟨0x114BE, "𑒾"⟩,
  ⟨0x115BA, "𑖺 𑖻"⟩,
  ⟨0x11938, "𑤸"⟩]

end TargetUri.Text
