import Headroom.Text.Emoji

/-!
# Display width

The number of columns that a text takes in a terminal.  Most characters take one
column, wide ones take two, and marks none.  Where several characters are drawn as
one, they take the columns of what is drawn, so a text is measured from its end to
its start: what is known of the characters after one decides what that one adds.
-/

namespace Headroom.Text

/-- The ranges of the characters that take no column: those that are ignored where they cannot
be shown, those that are drawn onto another one, and the signs that enclose digits. -/
def invisibleRanges : List (Nat × Nat) :=
  [(0xAD, 0xAD), (0x300, 0x36F), (0x483, 0x489), (0x591, 0x5BD), (0x5BF, 0x5BF), (0x5C1, 0x5C2),
   (0x5C4, 0x5C5), (0x5C7, 0x5C7), (0x605, 0x605), (0x610, 0x61A), (0x61C, 0x61C), (0x64B, 0x65F),
   (0x670, 0x670), (0x6D6, 0x6DC), (0x6DF, 0x6E4), (0x6E7, 0x6E8), (0x6EA, 0x6ED), (0x70F, 0x70F),
   (0x711, 0x711), (0x730, 0x74A), (0x7A6, 0x7B0), (0x7EB, 0x7F3), (0x7FD, 0x7FD), (0x816, 0x819),
   (0x81B, 0x823), (0x825, 0x827), (0x829, 0x82D), (0x859, 0x85B), (0x890, 0x891), (0x897, 0x89F),
   (0x8CA, 0x902), (0x93A, 0x93A), (0x93C, 0x93C), (0x941, 0x948), (0x94D, 0x94D), (0x951, 0x957),
   (0x962, 0x963), (0x981, 0x981), (0x9BC, 0x9BC), (0x9BE, 0x9BE), (0x9C1, 0x9C4), (0x9CD, 0x9CD),
   (0x9D7, 0x9D7), (0x9E2, 0x9E3), (0x9FE, 0x9FE), (0xA01, 0xA02), (0xA3C, 0xA3C), (0xA41, 0xA42),
   (0xA47, 0xA48), (0xA4B, 0xA4D), (0xA51, 0xA51), (0xA70, 0xA71), (0xA75, 0xA75), (0xA81, 0xA82),
   (0xABC, 0xABC), (0xAC1, 0xAC5), (0xAC7, 0xAC8), (0xACD, 0xACD), (0xAE2, 0xAE3), (0xAFA, 0xAFF),
   (0xB01, 0xB01), (0xB3C, 0xB3C), (0xB3E, 0xB3F), (0xB41, 0xB44), (0xB4D, 0xB4D), (0xB55, 0xB57),
   (0xB62, 0xB63), (0xB82, 0xB82), (0xBBE, 0xBBE), (0xBC0, 0xBC0), (0xBCD, 0xBCD), (0xBD7, 0xBD7),
   (0xC00, 0xC00), (0xC04, 0xC04), (0xC3C, 0xC3C), (0xC3E, 0xC40), (0xC46, 0xC48), (0xC4A, 0xC4D),
   (0xC55, 0xC56), (0xC62, 0xC63), (0xC81, 0xC81), (0xCBC, 0xCBC), (0xCBF, 0xCC0), (0xCC2, 0xCC2),
   (0xCC6, 0xCC8), (0xCCA, 0xCCD), (0xCD5, 0xCD6), (0xCE2, 0xCE3), (0xD00, 0xD01), (0xD3B, 0xD3C),
   (0xD3E, 0xD3E), (0xD41, 0xD44), (0xD4D, 0xD4E), (0xD57, 0xD57), (0xD62, 0xD63), (0xD81, 0xD81),
   (0xDCA, 0xDCA), (0xDCF, 0xDCF), (0xDD2, 0xDD4), (0xDD6, 0xDD6), (0xDDF, 0xDDF), (0xE31, 0xE31),
   (0xE34, 0xE3A), (0xE47, 0xE4E), (0xEB1, 0xEB1), (0xEB4, 0xEBC), (0xEC8, 0xECE), (0xF18, 0xF19),
   (0xF35, 0xF35), (0xF37, 0xF37), (0xF39, 0xF39), (0xF71, 0xF7E), (0xF80, 0xF84), (0xF86, 0xF87),
   (0xF8D, 0xF97), (0xF99, 0xFBC), (0xFC6, 0xFC6), (0x102D, 0x1030), (0x1032, 0x1037),
   (0x1039, 0x103A), (0x103D, 0x103E), (0x1058, 0x1059), (0x105E, 0x1060), (0x1071, 0x1074),
   (0x1082, 0x1082), (0x1085, 0x1086), (0x108D, 0x108D), (0x109D, 0x109D), (0x1160, 0x11FF),
   (0x135D, 0x135F), (0x1712, 0x1715), (0x1732, 0x1734), (0x1752, 0x1753), (0x1772, 0x1773),
   (0x17B4, 0x17B5), (0x17B7, 0x17BD), (0x17C6, 0x17C6), (0x17C9, 0x17D3), (0x17DD, 0x17DD),
   (0x180B, 0x180F), (0x1885, 0x1886), (0x18A9, 0x18A9), (0x1920, 0x1922), (0x1927, 0x1928),
   (0x1932, 0x1932), (0x1939, 0x193B), (0x1A17, 0x1A18), (0x1A1B, 0x1A1B), (0x1A56, 0x1A56),
   (0x1A58, 0x1A5E), (0x1A60, 0x1A60), (0x1A62, 0x1A62), (0x1A65, 0x1A6C), (0x1A73, 0x1A7C),
   (0x1A7F, 0x1A7F), (0x1AB0, 0x1ACE), (0x1B00, 0x1B03), (0x1B34, 0x1B3D), (0x1B42, 0x1B44),
   (0x1B6B, 0x1B73), (0x1B80, 0x1B81), (0x1BA2, 0x1BA5), (0x1BA8, 0x1BAD), (0x1BE6, 0x1BE6),
   (0x1BE8, 0x1BE9), (0x1BED, 0x1BED), (0x1BEF, 0x1BF3), (0x1C2C, 0x1C33), (0x1C36, 0x1C37),
   (0x1CD0, 0x1CD2), (0x1CD4, 0x1CE0), (0x1CE2, 0x1CE8), (0x1CED, 0x1CED), (0x1CF4, 0x1CF4),
   (0x1CF8, 0x1CF9), (0x1DC0, 0x1DFF), (0x200B, 0x200F), (0x202A, 0x202E), (0x2060, 0x206F),
   (0x20D0, 0x20F0), (0x2CEF, 0x2CF1), (0x2DE0, 0x2DFF), (0x302A, 0x302F), (0x3099, 0x309A),
   (0x3164, 0x3164), (0xA66F, 0xA672), (0xA674, 0xA67D), (0xA69E, 0xA69F), (0xA6F0, 0xA6F1),
   (0xA802, 0xA802), (0xA806, 0xA806), (0xA80B, 0xA80B), (0xA825, 0xA826), (0xA82C, 0xA82C),
   (0xA8C4, 0xA8C5), (0xA8E0, 0xA8F1), (0xA8FA, 0xA8FA), (0xA8FF, 0xA8FF), (0xA926, 0xA92D),
   (0xA947, 0xA951), (0xA953, 0xA953), (0xA980, 0xA982), (0xA9B3, 0xA9B3), (0xA9B6, 0xA9B9),
   (0xA9BC, 0xA9BD), (0xA9C0, 0xA9C0), (0xA9E5, 0xA9E5), (0xAA29, 0xAA2E), (0xAA31, 0xAA32),
   (0xAA35, 0xAA36), (0xAA43, 0xAA43), (0xAA4C, 0xAA4C), (0xAA7C, 0xAA7C), (0xAAB0, 0xAAB0),
   (0xAAB2, 0xAAB4), (0xAAB7, 0xAAB8), (0xAABE, 0xAABF), (0xAAC1, 0xAAC1), (0xAAEC, 0xAAED),
   (0xAAF6, 0xAAF6), (0xABE5, 0xABE5), (0xABE8, 0xABE8), (0xABED, 0xABED), (0xD7B0, 0xD7C6),
   (0xD7CB, 0xD7FB), (0xFB1E, 0xFB1E), (0xFE00, 0xFE0F), (0xFE20, 0xFE2F), (0xFEFF, 0xFEFF),
   (0xFF9E, 0xFFA0), (0xFFF0, 0xFFF8), (0x101FD, 0x101FD), (0x102E0, 0x102E0), (0x10376, 0x1037A),
   (0x10A01, 0x10A03), (0x10A05, 0x10A06), (0x10A0C, 0x10A0F), (0x10A38, 0x10A3A),
   (0x10A3F, 0x10A3F), (0x10AE5, 0x10AE6), (0x10D24, 0x10D27), (0x10D69, 0x10D6D),
   (0x10EAB, 0x10EAC), (0x10EFC, 0x10EFF), (0x10F46, 0x10F50), (0x10F82, 0x10F85),
   (0x11001, 0x11001), (0x11038, 0x11046), (0x11070, 0x11070), (0x11073, 0x11074),
   (0x1107F, 0x11081), (0x110B3, 0x110B6), (0x110B9, 0x110BA), (0x110C2, 0x110C2),
   (0x11100, 0x11102), (0x11127, 0x1112B), (0x1112D, 0x11134), (0x11173, 0x11173),
   (0x11180, 0x11181), (0x111B6, 0x111BE), (0x111C0, 0x111C0), (0x111C2, 0x111C3),
   (0x111C9, 0x111CC), (0x111CF, 0x111CF), (0x1122F, 0x11231), (0x11234, 0x11237),
   (0x1123E, 0x1123E), (0x11241, 0x11241), (0x112DF, 0x112DF), (0x112E3, 0x112EA),
   (0x11300, 0x11301), (0x1133B, 0x1133C), (0x1133E, 0x1133E), (0x11340, 0x11340),
   (0x1134D, 0x1134D), (0x11357, 0x11357), (0x11366, 0x1136C), (0x11370, 0x11374),
   (0x113B8, 0x113B8), (0x113BB, 0x113C0), (0x113C2, 0x113C2), (0x113C5, 0x113C5),
   (0x113C7, 0x113C9), (0x113CE, 0x113D2), (0x113E1, 0x113E2), (0x11438, 0x1143F),
   (0x11442, 0x11444), (0x11446, 0x11446), (0x1145E, 0x1145E), (0x114B0, 0x114B0),
   (0x114B3, 0x114B8), (0x114BA, 0x114BA), (0x114BD, 0x114BD), (0x114BF, 0x114C0),
   (0x114C2, 0x114C3), (0x115AF, 0x115AF), (0x115B2, 0x115B5), (0x115BC, 0x115BD),
   (0x115BF, 0x115C0), (0x115DC, 0x115DD), (0x11633, 0x1163A), (0x1163D, 0x1163D),
   (0x1163F, 0x11640), (0x116AB, 0x116AB), (0x116AD, 0x116AD), (0x116B0, 0x116B7),
   (0x1171D, 0x1171D), (0x1171F, 0x1171F), (0x11722, 0x11725), (0x11727, 0x1172B),
   (0x1182F, 0x11837), (0x11839, 0x1183A), (0x11930, 0x11930), (0x1193B, 0x1193F),
   (0x11941, 0x11941), (0x11943, 0x11943), (0x119D4, 0x119D7), (0x119DA, 0x119DB),
   (0x119E0, 0x119E0), (0x11A01, 0x11A0A), (0x11A33, 0x11A38), (0x11A3A, 0x11A3E),
   (0x11A47, 0x11A47), (0x11A51, 0x11A56), (0x11A59, 0x11A5B), (0x11A84, 0x11A96),
   (0x11A98, 0x11A99), (0x11C30, 0x11C36), (0x11C38, 0x11C3D), (0x11C3F, 0x11C3F),
   (0x11C92, 0x11CA7), (0x11CAA, 0x11CB0), (0x11CB2, 0x11CB3), (0x11CB5, 0x11CB6),
   (0x11D31, 0x11D36), (0x11D3A, 0x11D3A), (0x11D3C, 0x11D3D), (0x11D3F, 0x11D47),
   (0x11D90, 0x11D91), (0x11D95, 0x11D95), (0x11D97, 0x11D97), (0x11EF3, 0x11EF4),
   (0x11F00, 0x11F02), (0x11F36, 0x11F3A), (0x11F40, 0x11F42), (0x11F5A, 0x11F5A),
   (0x13440, 0x13440), (0x13447, 0x13455), (0x1611E, 0x16129), (0x1612D, 0x1612F),
   (0x16AF0, 0x16AF4), (0x16B30, 0x16B36), (0x16F4F, 0x16F4F), (0x16F8F, 0x16F92),
   (0x16FE4, 0x16FE4), (0x16FF0, 0x16FF1), (0x1BC9D, 0x1BC9E), (0x1BCA0, 0x1BCA3),
   (0x1CF00, 0x1CF2D), (0x1CF30, 0x1CF46), (0x1D165, 0x1D169), (0x1D16D, 0x1D182),
   (0x1D185, 0x1D18B), (0x1D1AA, 0x1D1AD), (0x1D242, 0x1D244), (0x1DA00, 0x1DA36),
   (0x1DA3B, 0x1DA6C), (0x1DA75, 0x1DA75), (0x1DA84, 0x1DA84), (0x1DA9B, 0x1DA9F),
   (0x1DAA1, 0x1DAAF), (0x1E000, 0x1E006), (0x1E008, 0x1E018), (0x1E01B, 0x1E021),
   (0x1E023, 0x1E024), (0x1E026, 0x1E02A), (0x1E08F, 0x1E08F), (0x1E130, 0x1E136),
   (0x1E2AE, 0x1E2AE), (0x1E2EC, 0x1E2EF), (0x1E4EC, 0x1E4EF), (0x1E5EE, 0x1E5EF),
   (0x1E8D0, 0x1E8D6), (0x1E944, 0x1E94A), (0xE0000, 0xE0FFF)]

/-- The ranges with the East Asian width W or F. -/
def wideRanges : List (Nat × Nat) :=
  [(0x1100, 0x115F), (0x231A, 0x231B), (0x2329, 0x232A), (0x23E9, 0x23EC), (0x23F0, 0x23F0),
   (0x23F3, 0x23F3), (0x25FD, 0x25FE), (0x2614, 0x2615), (0x2630, 0x2637), (0x2648, 0x2653),
   (0x267F, 0x267F), (0x268A, 0x268F), (0x2693, 0x2693), (0x26A1, 0x26A1), (0x26AA, 0x26AB),
   (0x26BD, 0x26BE), (0x26C4, 0x26C5), (0x26CE, 0x26CE), (0x26D4, 0x26D4), (0x26EA, 0x26EA),
   (0x26F2, 0x26F3), (0x26F5, 0x26F5), (0x26FA, 0x26FA), (0x26FD, 0x26FD), (0x2705, 0x2705),
   (0x270A, 0x270B), (0x2728, 0x2728), (0x274C, 0x274C), (0x274E, 0x274E), (0x2753, 0x2755),
   (0x2757, 0x2757), (0x2795, 0x2797), (0x27B0, 0x27B0), (0x27BF, 0x27BF), (0x2B1B, 0x2B1C),
   (0x2B50, 0x2B50), (0x2B55, 0x2B55), (0x2E80, 0x2E99), (0x2E9B, 0x2EF3), (0x2F00, 0x2FD5),
   (0x2FF0, 0x3029), (0x3030, 0x303E), (0x3041, 0x3096), (0x309B, 0x30FF), (0x3105, 0x312F),
   (0x3131, 0x3163), (0x3165, 0x318E), (0x3190, 0x31E5), (0x31EF, 0x321E), (0x3220, 0x3247),
   (0x3250, 0xA48C), (0xA490, 0xA4C6), (0xA960, 0xA97C), (0xAC00, 0xD7A3), (0xF900, 0xFAFF),
   (0xFE10, 0xFE19), (0xFE30, 0xFE52), (0xFE54, 0xFE66), (0xFE68, 0xFE6B), (0xFF01, 0xFF60),
   (0xFFE0, 0xFFE6), (0x16FE0, 0x16FE3), (0x17000, 0x187F7), (0x18800, 0x18CD5),
   (0x18CFF, 0x18D08), (0x1AFF0, 0x1AFF3), (0x1AFF5, 0x1AFFB), (0x1AFFD, 0x1AFFE),
   (0x1B000, 0x1B122), (0x1B132, 0x1B132), (0x1B150, 0x1B152), (0x1B155, 0x1B155),
   (0x1B164, 0x1B167), (0x1B170, 0x1B2FB), (0x1D300, 0x1D356), (0x1D360, 0x1D376),
   (0x1F004, 0x1F004), (0x1F0CF, 0x1F0CF), (0x1F18E, 0x1F18E), (0x1F191, 0x1F19A),
   (0x1F200, 0x1F202), (0x1F210, 0x1F23B), (0x1F240, 0x1F248), (0x1F250, 0x1F251),
   (0x1F260, 0x1F265), (0x1F300, 0x1F320), (0x1F32D, 0x1F335), (0x1F337, 0x1F37C),
   (0x1F37E, 0x1F393), (0x1F3A0, 0x1F3CA), (0x1F3CF, 0x1F3D3), (0x1F3E0, 0x1F3F0),
   (0x1F3F4, 0x1F3F4), (0x1F3F8, 0x1F43E), (0x1F440, 0x1F440), (0x1F442, 0x1F4FC),
   (0x1F4FF, 0x1F53D), (0x1F54B, 0x1F54E), (0x1F550, 0x1F567), (0x1F57A, 0x1F57A),
   (0x1F595, 0x1F596), (0x1F5A4, 0x1F5A4), (0x1F5FB, 0x1F64F), (0x1F680, 0x1F6C5),
   (0x1F6CC, 0x1F6CC), (0x1F6D0, 0x1F6D2), (0x1F6D5, 0x1F6D7), (0x1F6DC, 0x1F6DF),
   (0x1F6EB, 0x1F6EC), (0x1F6F4, 0x1F6FC), (0x1F7E0, 0x1F7EB), (0x1F7F0, 0x1F7F0),
   (0x1F90C, 0x1F93A), (0x1F93C, 0x1F945), (0x1F947, 0x1F9FF), (0x1FA70, 0x1FA7C),
   (0x1FA80, 0x1FA89), (0x1FA8F, 0x1FAC6), (0x1FACE, 0x1FADC), (0x1FADF, 0x1FAE9),
   (0x1FAF0, 0x1FAF8), (0x20000, 0x2FFFD), (0x30000, 0x3FFFD)]

/-- The ranges of the characters that take no column and yet end the joining of letters. -/
def separatingRanges : List (Nat × Nat) :=
  [(0x605, 0x605), (0x890, 0x891), (0x8E2, 0x8E2), (0x9BE, 0x9BE), (0x9D7, 0x9D7), (0xB3E, 0xB3E),
   (0xB57, 0xB57), (0xBBE, 0xBBE), (0xBD7, 0xBD7), (0xCC0, 0xCC0), (0xCC2, 0xCC2), (0xCC7, 0xCC8),
   (0xCCA, 0xCCB), (0xCD5, 0xCD6), (0xD3E, 0xD3E), (0xD4E, 0xD4E), (0xD57, 0xD57), (0xDCF, 0xDCF),
   (0xDDF, 0xDDF), (0x1160, 0x11FF), (0x1715, 0x1715), (0x1734, 0x1734), (0x180E, 0x180E),
   (0x1B35, 0x1B35), (0x1B3B, 0x1B3B), (0x1B3D, 0x1B3D), (0x1B43, 0x1B44), (0x1BAA, 0x1BAA),
   (0x1BF2, 0x1BF3), (0x200C, 0x200D), (0x2065, 0x2069), (0x302E, 0x302F), (0x3164, 0x3164),
   (0xA8FA, 0xA8FA), (0xA953, 0xA953), (0xA9C0, 0xA9C0), (0xD7B0, 0xD7C6), (0xD7CB, 0xD7FB),
   (0xFF9E, 0xFFA0), (0xFFF0, 0xFFF8), (0x111C0, 0x111C0), (0x111C2, 0x111C3), (0x11235, 0x11235),
   (0x1133E, 0x1133E), (0x1134D, 0x1134D), (0x11357, 0x11357), (0x113B8, 0x113B8),
   (0x113C2, 0x113C2), (0x113C5, 0x113C5), (0x113C7, 0x113C9), (0x113CF, 0x113CF),
   (0x113D1, 0x113D1), (0x114B0, 0x114B0), (0x114BD, 0x114BD), (0x115AF, 0x115AF),
   (0x116B6, 0x116B6), (0x11930, 0x11930), (0x1193D, 0x1193D), (0x1193F, 0x1193F),
   (0x11941, 0x11941), (0x11A3A, 0x11A3A), (0x11A84, 0x11A89), (0x11D46, 0x11D46),
   (0x11F02, 0x11F02), (0x11F41, 0x11F41), (0x16FF0, 0x16FF1), (0x1D165, 0x1D166),
   (0x1D16D, 0x1D172), (0xE0000, 0xE0000), (0xE0002, 0xE001F), (0xE0080, 0xE00FF),
   (0xE01F0, 0xE0FFF)]

/-- What the characters seen last, those after the current one, may still join with. -/
inductive Follower where
  | none
  /-- A modifier of skin tone. -/
  | modifier
  /-- One indicator of a region. -/
  | region
  /-- Several indicators of regions. -/
  | regions
  /-- A picture. -/
  | picture
  /-- A joiner and a picture after it. -/
  | joinedPicture
  /-- The enclosing of a key, which is joined to a picture after it. -/
  | joinedKey
  /-- One indicator of a region, which is joined to a picture after it. -/
  | joinedRegion
  /-- An even number of indicators of regions, which are joined to a picture after them. -/
  | joinedPairs
  /-- An odd number, at least three, of such indicators. -/
  | joinedPairsAndOne
  /-- The end of a tag with so many letters before it. -/
  | tagLetters (count : Nat)
  /-- The end of a tag with digits before it, and so many of them. -/
  | tagDigits (count : Nat)
  /-- The Arabic letter alef. -/
  | alef
  /-- The Hebrew letter lamed. -/
  | lamed
  /-- The Buginese letter ya. -/
  | ya
  /-- The Buginese vowel sign i, which is joined to a letter ya. -/
  | vowelAndYa
  /-- A Tifinagh consonant. -/
  | consonant
  /-- A Tifinagh joiner and the consonant after it. -/
  | joinedConsonant
  /-- The second part of a Lisu tone. -/
  | tone
  /-- The Old Turkic letter i. -/
  | orkhon
  /-- A Khmer letter that is drawn below another one. -/
  | subscript
  /-- The Kirat Rai vowel e. -/
  | vowelE
  /-- The Kirat Rai vowel ai in two parts. -/
  | vowelAi
  deriving DecidableEq, Repr

/-- The Khmer letters that are drawn below another one without taking a column there. -/
def subscriptRanges : List (Nat × Nat) :=
  [(0x1780, 0x1782), (0x1784, 0x1787), (0x1789, 0x178C), (0x178E, 0x1793), (0x1795, 0x1798),
   (0x179B, 0x179D), (0x17A0, 0x17A0), (0x17A2, 0x17A2), (0x17A7, 0x17A7), (0x17AB, 0x17AC),
   (0x17AF, 0x17AF)]

namespace Follower

/-- Whether marks that are ignored where they cannot be shown may stand before it, without
separating it from the character that it joins with. -/
def isLetter : Follower → Bool
  | lamed | ya | vowelAndYa | consonant | joinedConsonant | tone | orkhon | subscript | vowelE
  | vowelAi => true
  | _ => false

/-- Whether a selector before it is kept in mind together with it. -/
def keepsSelector (follower : Follower) : Bool := follower.isLetter || decide (follower = alef)

/-- Whether a picture before it is drawn together with it. -/
def isJoined (follower : Follower) : Bool :=
  decide (follower = joinedPicture) || decide (follower = joinedKey)

/-- Whether a joiner before it joins it with a picture. -/
def isPictorial : Follower → Bool
  | modifier | regions | picture | joinedPairs | joinedPairsAndOne => true
  | _ => false

/-- What a character by itself leaves for the ones before it. -/
def ofChar (char : Char) : Follower :=
  let code := char.toNat
  if isRegional char then region
  else if isModifier char then modifier
  else if code = 0x622 || code = 0x623 || code = 0x625 || code = 0x627 ||
      (0x671 ≤ code && code ≤ 0x673) || code = 0x675 || code = 0x773 || code = 0x774 ||
      (0x870 ≤ code && code ≤ 0x882) then alef
  else if code = 0x5DC then lamed
  else if code = 0x1A10 then ya
  else if (0x2D31 ≤ code && code ≤ 0x2D65) || code = 0x2D6F then consonant
  else if code = 0xA4FC || code = 0xA4FD then tone
  else if code = 0x10C03 then orkhon
  else if inRanges subscriptRanges char then subscript
  else if code = 0x16D67 then vowelE
  else if code = 0x16D68 then vowelAi
  else if isPicture char then picture
  else none

end Follower

/-- What is known of the characters after one. -/
structure Following where
  follower : Follower
  /-- Whether a joiner stands before the follower. -/
  joined : Bool
  /-- Whether a selector of pictures stands before the follower. -/
  pictured : Bool
  /-- Whether a selector of plain characters stands before the follower. -/
  plain : Bool
  deriving DecidableEq, Repr

namespace Following

def nothing : Following := ⟨.none, false, false, false⟩

def of (follower : Follower) : Following := { nothing with follower := follower }

/-- Puts a selector of pictures before what follows. -/
def selectPicture (following : Following) : Following :=
  if following.follower.keepsSelector || following.follower.isJoined then
    { following with pictured := true }
  else { nothing with pictured := true }

/-- Puts a selector of plain characters before what follows. -/
def selectPlain (following : Following) : Following :=
  if following.follower.keepsSelector then { following with plain := true }
  else { nothing with plain := true }

/-- Forgets a selector of pictures that selects nothing. -/
def withoutPictured (following : Following) : Following :=
  if following.follower.keepsSelector then { following with pictured := false } else nothing

end Following

def joiner : Char := '\u200D'

/-- Whether a character is a mark that is ignored where it cannot be shown, so that letters join
across it. -/
def isIgnoredMark (char : Char) : Bool :=
  inRanges [(0x34F, 0x34F), (0x17B4, 0x17B5), (0x180B, 0x180D), (0x180F, 0x180F), (0xFE00, 0xFE0F),
    (0xE0100, 0xE01EF)] char

def isTransparent (char : Char) : Bool :=
  inRanges invisibleRanges char && !inRanges separatingRanges char

/-- The columns that a character takes by itself. -/
def charWidth (char : Char) : Nat :=
  if char.toNat ≤ 0xA0 then 1
  else if inRanges invisibleRanges char then 0
  else if char.toNat = 0x17D8 then 3
  else if char.toNat = 0x17A4 || inRanges wideRanges char then 2
  else 1

/-- What a character adds to the columns and leaves for those before it, where it joins with
what follows. -/
def joinLetters? (following : Following) (char : Char) : Option (Int × Follower) :=
  let code := char.toNat
  let isConsonant := decide (Follower.ofChar char = .consonant)
  match following.follower with
  | .alef =>
    if code = 0x644 || (0x6B5 ≤ code && code ≤ 0x6B8) || code = 0x76A || code = 0x8A6 ||
        code = 0x8C7 then some (0, .none)
    else if isTransparent char then some (0, .alef)
    else none
  | .lamed => if following.joined && code = 0x5D0 then some (0, .none) else none
  | .subscript => if code = 0x17D2 then some (-1, .none) else none
  | .ya => if following.joined && code = 0x1A17 then some (0, .vowelAndYa) else none
  | .vowelAndYa => if code = 0x1A15 then some (0, .none) else none
  | .consonant =>
    if code = 0x2D7F then some (1, .joinedConsonant)
    else if following.joined && isConsonant then some (0, .none)
    else none
  | .joinedConsonant => if isConsonant then some (-1, .none) else none
  | .tone => if 0xA4F8 ≤ code && code ≤ 0xA4FB then some (0, .none) else none
  | .orkhon => if following.joined && code = 0x10C32 then some (0, .none) else none
  | .vowelE =>
    if code = 0x16D63 || code = 0x16D69 then some (0, .none)
    else if code = 0x16D67 then some (0, .vowelAi)
    else if code = 0x16D68 then some (1, .vowelE)
    else none
  | .vowelAi => if code = 0x16D63 then some (0, .none) else none
  | _ => none

def joinPictures? (follower : Follower) (char : Char) : Option (Int × Follower) :=
  let code := char.toNat
  let isTagLetter := 0xE0061 ≤ code && code ≤ 0xE007A
  let isTagDigit := 0xE0030 ≤ code && code ≤ 0xE0039
  let isFlag := code = 0x1F3F4
  if char = joiner && follower.isPictorial then some (0, .joinedPicture)
  else
    match follower with
    | .modifier => if isModifiable char then some (0, .picture) else none
    | .region | .regions => if isRegional char then some (1, .regions) else none
    | .joinedPicture =>
      if code = 0x20E3 then some (0, .joinedKey)
      else if isRegional char then some (1, .joinedRegion)
      else if isModifier char then some (0, .modifier)
      else if code = 0xE007F then some (0, .tagLetters 0)
      else if isPicture char then some (0, .picture)
      else none
    | .joinedRegion | .joinedPairsAndOne =>
      if isRegional char then some (-1, .joinedPairs) else none
    | .joinedPairs => if isRegional char then some (3, .joinedPairsAndOne) else none
    | .tagLetters count =>
      if isTagLetter && count < 6 then some (0, .tagLetters (count + 1))
      else if isTagDigit && count < 5 then some (0, .tagDigits 1)
      else if isFlag && 3 ≤ count then some (0, .picture)
      else none
    | .tagDigits count =>
      if isTagDigit && count < 3 then some (0, .tagDigits (count + 1))
      else if isFlag && count = 3 then some (0, .picture)
      else none
    | _ => none

/-- What a character adds to the columns, and what is known before it. -/
def stepWidth (char : Char) (following : Following) : Int × Following :=
  if following.pictured && isSelectable char then
    (if following.follower.isJoined then 0 else 2, .of .picture)
  else
    let known := if following.pictured then following.withoutPictured else following
    if char.toNat ≤ 0xA0 then (1, .nothing)
    else if char = '\uFE0F' then (0, known.selectPicture)
    else if char = '\uFE0E' then (0, known.selectPlain)
    else if known.plain && isPlainable char then (1, .nothing)
    else
      let bare := { known with plain := false }
      if bare.follower.isLetter && char = joiner then (0, { bare with joined := true })
      else if bare.follower.isLetter && isIgnoredMark char then (0, bare)
      else
        match joinLetters? bare char <|> joinPictures? bare.follower char with
        | some (columns, follower) => (columns, .of follower)
        | none => (charWidth char, .of (.ofChar char))

def width (text : String) : Nat :=
  let (columns, _) := text.toList.foldr
    (fun char (columns, following) =>
      let (added, known) := stepWidth char following
      (columns + added, known))
    ((0 : Int), Following.nothing)
  columns.toNat

end Headroom.Text
