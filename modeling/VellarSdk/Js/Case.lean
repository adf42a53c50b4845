import VellarSdk.Js.Unicode

/-!
# Upper Case

`String.prototype.toUpperCase`: the full, locale-independent mapping of Unicode.
It goes code point by code point, and a code point may become several. Most of
the mapping is regular: a run of small letters, with a step of one or two, goes
to a run of capitals. The tables are those of Unicode 16.

What the source relies on is that no text becomes another by gaining a line
break, which the tables show: nothing is mapped to one.

## Main definitions

* `CaseRun`, `caseRuns`, `specialCasing`: The tables.
* `upperCodePoint`, `toUpperCase`: Code points and strings in upper case.

## Theorems

* `newline_not_mem_toUpperCase`: Upper case has no line break of its own.
* `toUpperCase_ascii`: What upper case is for ASCII.
-/

namespace VellarSdk

namespace Js

/-- A run of small letters, the step between them, and the capital of the
    first. -/
structure CaseRun where
  first : Nat
  last : Nat
  step : Nat
  capital : Nat
  deriving DecidableEq, Repr

/-- The letters that have one capital. -/
def caseRuns : List CaseRun :=
  [⟨97, 122, 1, 65⟩, ⟨181, 181, 1, 0x39C⟩, ⟨224, 246, 1, 192⟩, ⟨248, 254, 1, 216⟩,
    ⟨255, 255, 1, 0x178⟩, ⟨0x101, 0x12F, 2, 0x100⟩, ⟨0x131, 0x131, 1, 73⟩, ⟨0x133, 0x137, 2, 0x132⟩,
    ⟨0x13A, 0x148, 2, 0x139⟩, ⟨0x14B, 0x177, 2, 0x14A⟩, ⟨0x17A, 0x17E, 2, 0x179⟩,
    ⟨0x17F, 0x17F, 1, 83⟩, ⟨0x180, 0x180, 1, 0x243⟩, ⟨0x183, 0x185, 2, 0x182⟩,
    ⟨0x188, 0x188, 1, 0x187⟩, ⟨0x18C, 0x18C, 1, 0x18B⟩, ⟨0x192, 0x192, 1, 0x191⟩,
    ⟨0x195, 0x195, 1, 0x1F6⟩, ⟨0x199, 0x199, 1, 0x198⟩, ⟨0x19A, 0x19A, 1, 0x23D⟩,
    ⟨0x19B, 0x19B, 1, 0xA7DC⟩, ⟨0x19E, 0x19E, 1, 0x220⟩, ⟨0x1A1, 0x1A5, 2, 0x1A0⟩,
    ⟨0x1A8, 0x1A8, 1, 0x1A7⟩, ⟨0x1AD, 0x1AD, 1, 0x1AC⟩, ⟨0x1B0, 0x1B0, 1, 0x1AF⟩,
    ⟨0x1B4, 0x1B6, 2, 0x1B3⟩, ⟨0x1B9, 0x1B9, 1, 0x1B8⟩, ⟨0x1BD, 0x1BD, 1, 0x1BC⟩,
    ⟨0x1BF, 0x1BF, 1, 0x1F7⟩, ⟨0x1C5, 0x1C5, 1, 0x1C4⟩, ⟨0x1C6, 0x1C6, 1, 0x1C4⟩,
    ⟨0x1C8, 0x1C8, 1, 0x1C7⟩, ⟨0x1C9, 0x1C9, 1, 0x1C7⟩, ⟨0x1CB, 0x1CB, 1, 0x1CA⟩,
    ⟨0x1CC, 0x1CC, 1, 0x1CA⟩, ⟨0x1CE, 0x1DC, 2, 0x1CD⟩, ⟨0x1DD, 0x1DD, 1, 0x18E⟩,
    ⟨0x1DF, 0x1EF, 2, 0x1DE⟩, ⟨0x1F2, 0x1F2, 1, 0x1F1⟩, ⟨0x1F3, 0x1F3, 1, 0x1F1⟩,
    ⟨0x1F5, 0x1F5, 1, 0x1F4⟩, ⟨0x1F9, 0x21F, 2, 0x1F8⟩, ⟨0x223, 0x233, 2, 0x222⟩,
    ⟨0x23C, 0x23C, 1, 0x23B⟩, ⟨0x23F, 0x240, 1, 0x2C7E⟩, ⟨0x242, 0x242, 1, 0x241⟩,
    ⟨0x247, 0x24F, 2, 0x246⟩, ⟨0x250, 0x250, 1, 0x2C6F⟩, ⟨0x251, 0x251, 1, 0x2C6D⟩,
    ⟨0x252, 0x252, 1, 0x2C70⟩, ⟨0x253, 0x253, 1, 0x181⟩, ⟨0x254, 0x254, 1, 0x186⟩,
    ⟨0x256, 0x257, 1, 0x189⟩, ⟨0x259, 0x259, 1, 0x18F⟩, ⟨0x25B, 0x25B, 1, 0x190⟩,
    ⟨0x25C, 0x25C, 1, 0xA7AB⟩, ⟨0x260, 0x260, 1, 0x193⟩, ⟨0x261, 0x261, 1, 0xA7AC⟩,
    ⟨0x263, 0x263, 1, 0x194⟩, ⟨0x264, 0x264, 1, 0xA7CB⟩, ⟨0x265, 0x265, 1, 0xA78D⟩,
    ⟨0x266, 0x266, 1, 0xA7AA⟩, ⟨0x268, 0x268, 1, 0x197⟩, ⟨0x269, 0x269, 1, 0x196⟩,
    ⟨0x26A, 0x26A, 1, 0xA7AE⟩, ⟨0x26B, 0x26B, 1, 0x2C62⟩, ⟨0x26C, 0x26C, 1, 0xA7AD⟩,
    ⟨0x26F, 0x26F, 1, 0x19C⟩, ⟨0x271, 0x271, 1, 0x2C6E⟩, ⟨0x272, 0x272, 1, 0x19D⟩,
    ⟨0x275, 0x275, 1, 0x19F⟩, ⟨0x27D, 0x27D, 1, 0x2C64⟩, ⟨0x280, 0x280, 1, 0x1A6⟩,
    ⟨0x282, 0x282, 1, 0xA7C5⟩, ⟨0x283, 0x283, 1, 0x1A9⟩, ⟨0x287, 0x287, 1, 0xA7B1⟩,
    ⟨0x288, 0x288, 1, 0x1AE⟩, ⟨0x289, 0x289, 1, 0x244⟩, ⟨0x28A, 0x28B, 1, 0x1B1⟩,
    ⟨0x28C, 0x28C, 1, 0x245⟩, ⟨0x292, 0x292, 1, 0x1B7⟩, ⟨0x29D, 0x29D, 1, 0xA7B2⟩,
    ⟨0x29E, 0x29E, 1, 0xA7B0⟩, ⟨0x345, 0x345, 1, 0x399⟩, ⟨0x371, 0x373, 2, 0x370⟩,
    ⟨0x377, 0x377, 1, 0x376⟩, ⟨0x37B, 0x37D, 1, 0x3FD⟩, ⟨0x3AC, 0x3AC, 1, 0x386⟩,
    ⟨0x3AD, 0x3AF, 1, 0x388⟩, ⟨0x3B1, 0x3C1, 1, 0x391⟩, ⟨0x3C2, 0x3C2, 1, 0x3A3⟩,
    ⟨0x3C3, 0x3CB, 1, 0x3A3⟩, ⟨0x3CC, 0x3CC, 1, 0x38C⟩, ⟨0x3CD, 0x3CE, 1, 0x38E⟩,
    ⟨0x3D0, 0x3D0, 1, 0x392⟩, ⟨0x3D1, 0x3D1, 1, 0x398⟩, ⟨0x3D5, 0x3D5, 1, 0x3A6⟩,
    ⟨0x3D6, 0x3D6, 1, 0x3A0⟩, ⟨0x3D7, 0x3D7, 1, 0x3CF⟩, ⟨0x3D9, 0x3EF, 2, 0x3D8⟩,
    ⟨0x3F0, 0x3F0, 1, 0x39A⟩, ⟨0x3F1, 0x3F1, 1, 0x3A1⟩, ⟨0x3F2, 0x3F2, 1, 0x3F9⟩,
    ⟨0x3F3, 0x3F3, 1, 0x37F⟩, ⟨0x3F5, 0x3F5, 1, 0x395⟩, ⟨0x3F8, 0x3F8, 1, 0x3F7⟩,
    ⟨0x3FB, 0x3FB, 1, 0x3FA⟩, ⟨0x430, 0x44F, 1, 0x410⟩, ⟨0x450, 0x45F, 1, 0x400⟩,
    ⟨0x461, 0x481, 2, 0x460⟩, ⟨0x48B, 0x4BF, 2, 0x48A⟩, ⟨0x4C2, 0x4CE, 2, 0x4C1⟩,
    ⟨0x4CF, 0x4CF, 1, 0x4C0⟩, ⟨0x4D1, 0x52F, 2, 0x4D0⟩, ⟨0x561, 0x586, 1, 0x531⟩,
    ⟨0x10D0, 0x10FA, 1, 0x1C90⟩, ⟨0x10FD, 0x10FF, 1, 0x1CBD⟩, ⟨0x13F8, 0x13FD, 1, 0x13F0⟩,
    ⟨0x1C80, 0x1C80, 1, 0x412⟩, ⟨0x1C81, 0x1C81, 1, 0x414⟩, ⟨0x1C82, 0x1C82, 1, 0x41E⟩,
    ⟨0x1C83, 0x1C84, 1, 0x421⟩, ⟨0x1C85, 0x1C85, 1, 0x422⟩, ⟨0x1C86, 0x1C86, 1, 0x42A⟩,
    ⟨0x1C87, 0x1C87, 1, 0x462⟩, ⟨0x1C88, 0x1C88, 1, 0xA64A⟩, ⟨0x1C8A, 0x1C8A, 1, 0x1C89⟩,
    ⟨0x1D79, 0x1D79, 1, 0xA77D⟩, ⟨0x1D7D, 0x1D7D, 1, 0x2C63⟩, ⟨0x1D8E, 0x1D8E, 1, 0xA7C6⟩,
    ⟨0x1E01, 0x1E95, 2, 0x1E00⟩, ⟨0x1E9B, 0x1E9B, 1, 0x1E60⟩, ⟨0x1EA1, 0x1EFF, 2, 0x1EA0⟩,
    ⟨0x1F00, 0x1F07, 1, 0x1F08⟩, ⟨0x1F10, 0x1F15, 1, 0x1F18⟩, ⟨0x1F20, 0x1F27, 1, 0x1F28⟩,
    ⟨0x1F30, 0x1F37, 1, 0x1F38⟩, ⟨0x1F40, 0x1F45, 1, 0x1F48⟩, ⟨0x1F51, 0x1F57, 2, 0x1F59⟩,
    ⟨0x1F60, 0x1F67, 1, 0x1F68⟩, ⟨0x1F70, 0x1F71, 1, 0x1FBA⟩, ⟨0x1F72, 0x1F75, 1, 0x1FC8⟩,
    ⟨0x1F76, 0x1F77, 1, 0x1FDA⟩, ⟨0x1F78, 0x1F79, 1, 0x1FF8⟩, ⟨0x1F7A, 0x1F7B, 1, 0x1FEA⟩,
    ⟨0x1F7C, 0x1F7D, 1, 0x1FFA⟩, ⟨0x1FB0, 0x1FB1, 1, 0x1FB8⟩, ⟨0x1FBE, 0x1FBE, 1, 0x399⟩,
    ⟨0x1FD0, 0x1FD1, 1, 0x1FD8⟩, ⟨0x1FE0, 0x1FE1, 1, 0x1FE8⟩, ⟨0x1FE5, 0x1FE5, 1, 0x1FEC⟩,
    ⟨0x214E, 0x214E, 1, 0x2132⟩, ⟨0x2170, 0x217F, 1, 0x2160⟩, ⟨0x2184, 0x2184, 1, 0x2183⟩,
    ⟨0x24D0, 0x24E9, 1, 0x24B6⟩, ⟨0x2C30, 0x2C5F, 1, 0x2C00⟩, ⟨0x2C61, 0x2C61, 1, 0x2C60⟩,
    ⟨0x2C65, 0x2C65, 1, 0x23A⟩, ⟨0x2C66, 0x2C66, 1, 0x23E⟩, ⟨0x2C68, 0x2C6C, 2, 0x2C67⟩,
    ⟨0x2C73, 0x2C73, 1, 0x2C72⟩, ⟨0x2C76, 0x2C76, 1, 0x2C75⟩, ⟨0x2C81, 0x2CE3, 2, 0x2C80⟩,
    ⟨0x2CEC, 0x2CEE, 2, 0x2CEB⟩, ⟨0x2CF3, 0x2CF3, 1, 0x2CF2⟩, ⟨0x2D00, 0x2D25, 1, 0x10A0⟩,
    ⟨0x2D27, 0x2D27, 1, 0x10C7⟩, ⟨0x2D2D, 0x2D2D, 1, 0x10CD⟩, ⟨0xA641, 0xA66D, 2, 0xA640⟩,
    ⟨0xA681, 0xA69B, 2, 0xA680⟩, ⟨0xA723, 0xA72F, 2, 0xA722⟩, ⟨0xA733, 0xA76F, 2, 0xA732⟩,
    ⟨0xA77A, 0xA77C, 2, 0xA779⟩, ⟨0xA77F, 0xA787, 2, 0xA77E⟩, ⟨0xA78C, 0xA78C, 1, 0xA78B⟩,
    ⟨0xA791, 0xA793, 2, 0xA790⟩, ⟨0xA794, 0xA794, 1, 0xA7C4⟩, ⟨0xA797, 0xA7A9, 2, 0xA796⟩,
    ⟨0xA7B5, 0xA7C3, 2, 0xA7B4⟩, ⟨0xA7C8, 0xA7CA, 2, 0xA7C7⟩, ⟨0xA7CD, 0xA7CD, 1, 0xA7CC⟩,
    ⟨0xA7D1, 0xA7D1, 1, 0xA7D0⟩, ⟨0xA7D7, 0xA7D9, 2, 0xA7D6⟩, ⟨0xA7DB, 0xA7DB, 1, 0xA7DA⟩,
    ⟨0xA7F6, 0xA7F6, 1, 0xA7F5⟩, ⟨0xAB53, 0xAB53, 1, 0xA7B3⟩, ⟨0xAB70, 0xABBF, 1, 0x13A0⟩,
    ⟨0xFF41, 0xFF5A, 1, 0xFF21⟩, ⟨0x10428, 0x1044F, 1, 0x10400⟩, ⟨0x104D8, 0x104FB, 1, 0x104B0⟩,
    ⟨0x10597, 0x105BB, 2, 0x10570⟩, ⟨0x10598, 0x105A0, 2, 0x10571⟩, ⟨0x105A4, 0x105B0, 2, 0x1057D⟩,
    ⟨0x105B4, 0x105B8, 2, 0x1058D⟩, ⟨0x105BC, 0x105BC, 1, 0x10595⟩, ⟨0x10CC0, 0x10CF2, 1, 0x10C80⟩,
    ⟨0x10D70, 0x10D85, 1, 0x10D50⟩, ⟨0x118C0, 0x118DF, 1, 0x118A0⟩, ⟨0x16E60, 0x16E7F, 1, 0x16E40⟩,
    ⟨0x1E922, 0x1E943, 1, 0x1E900⟩]

/-- The code points that become several. -/
def specialCasing : List (Nat × List Nat) :=
  [(223, [83, 83]), (0x149, [0x2BC, 78]), (0x1F0, [74, 0x30C]), (0x390, [0x399, 0x308, 0x301]),
    (0x3B0, [0x3A5, 0x308, 0x301]), (0x587, [0x535, 0x552]), (0x1E96, [72, 0x331]),
    (0x1E97, [84, 0x308]), (0x1E98, [87, 0x30A]), (0x1E99, [89, 0x30A]), (0x1E9A, [65, 0x2BE]),
    (0x1F50, [0x3A5, 0x313]), (0x1F52, [0x3A5, 0x313, 0x300]), (0x1F54, [0x3A5, 0x313, 0x301]),
    (0x1F56, [0x3A5, 0x313, 0x342]), (0x1F80, [0x1F08, 0x399]), (0x1F81, [0x1F09, 0x399]),
    (0x1F82, [0x1F0A, 0x399]), (0x1F83, [0x1F0B, 0x399]), (0x1F84, [0x1F0C, 0x399]),
    (0x1F85, [0x1F0D, 0x399]), (0x1F86, [0x1F0E, 0x399]), (0x1F87, [0x1F0F, 0x399]),
    (0x1F88, [0x1F08, 0x399]), (0x1F89, [0x1F09, 0x399]), (0x1F8A, [0x1F0A, 0x399]),
    (0x1F8B, [0x1F0B, 0x399]), (0x1F8C, [0x1F0C, 0x399]), (0x1F8D, [0x1F0D, 0x399]),
    (0x1F8E, [0x1F0E, 0x399]), (0x1F8F, [0x1F0F, 0x399]), (0x1F90, [0x1F28, 0x399]),
    (0x1F91, [0x1F29, 0x399]), (0x1F92, [0x1F2A, 0x399]), (0x1F93, [0x1F2B, 0x399]),
    (0x1F94, [0x1F2C, 0x399]), (0x1F95, [0x1F2D, 0x399]), (0x1F96, [0x1F2E, 0x399]),
    (0x1F97, [0x1F2F, 0x399]), (0x1F98, [0x1F28, 0x399]), (0x1F99, [0x1F29, 0x399]),
    (0x1F9A, [0x1F2A, 0x399]), (0x1F9B, [0x1F2B, 0x399]), (0x1F9C, [0x1F2C, 0x399]),
    (0x1F9D, [0x1F2D, 0x399]), (0x1F9E, [0x1F2E, 0x399]), (0x1F9F, [0x1F2F, 0x399]),
    (0x1FA0, [0x1F68, 0x399]), (0x1FA1, [0x1F69, 0x399]), (0x1FA2, [0x1F6A, 0x399]),
    (0x1FA3, [0x1F6B, 0x399]), (0x1FA4, [0x1F6C, 0x399]), (0x1FA5, [0x1F6D, 0x399]),
    (0x1FA6, [0x1F6E, 0x399]), (0x1FA7, [0x1F6F, 0x399]), (0x1FA8, [0x1F68, 0x399]),
    (0x1FA9, [0x1F69, 0x399]), (0x1FAA, [0x1F6A, 0x399]), (0x1FAB, [0x1F6B, 0x399]),
    (0x1FAC, [0x1F6C, 0x399]), (0x1FAD, [0x1F6D, 0x399]), (0x1FAE, [0x1F6E, 0x399]),
    (0x1FAF, [0x1F6F, 0x399]), (0x1FB2, [0x1FBA, 0x399]), (0x1FB3, [0x391, 0x399]),
    (0x1FB4, [0x386, 0x399]), (0x1FB6, [0x391, 0x342]), (0x1FB7, [0x391, 0x342, 0x399]),
    (0x1FBC, [0x391, 0x399]), (0x1FC2, [0x1FCA, 0x399]), (0x1FC3, [0x397, 0x399]),
    (0x1FC4, [0x389, 0x399]), (0x1FC6, [0x397, 0x342]), (0x1FC7, [0x397, 0x342, 0x399]),
    (0x1FCC, [0x397, 0x399]), (0x1FD2, [0x399, 0x308, 0x300]), (0x1FD3, [0x399, 0x308, 0x301]),
    (0x1FD6, [0x399, 0x342]), (0x1FD7, [0x399, 0x308, 0x342]), (0x1FE2, [0x3A5, 0x308, 0x300]),
    (0x1FE3, [0x3A5, 0x308, 0x301]), (0x1FE4, [0x3A1, 0x313]), (0x1FE6, [0x3A5, 0x342]),
    (0x1FE7, [0x3A5, 0x308, 0x342]), (0x1FF2, [0x1FFA, 0x399]), (0x1FF3, [0x3A9, 0x399]),
    (0x1FF4, [0x38F, 0x399]), (0x1FF6, [0x3A9, 0x342]), (0x1FF7, [0x3A9, 0x342, 0x399]),
    (0x1FFC, [0x3A9, 0x399]), (0xFB00, [70, 70]), (0xFB01, [70, 73]), (0xFB02, [70, 76]),
    (0xFB03, [70, 70, 73]), (0xFB04, [70, 70, 76]), (0xFB05, [83, 84]), (0xFB06, [83, 84]),
    (0xFB13, [0x544, 0x546]), (0xFB14, [0x544, 0x535]), (0xFB15, [0x544, 0x53B]),
    (0xFB16, [0x54E, 0x546]), (0xFB17, [0x544, 0x53D])]

def CaseRun.contains (r : CaseRun) (cp : Nat) : Bool :=
  decide (r.first ≤ cp ∧ cp ≤ r.last ∧ (cp - r.first) % r.step = 0)

theorem CaseRun.contains_iff {r : CaseRun} {cp : Nat} : r.contains cp = true ↔
    r.first ≤ cp ∧ cp ≤ r.last ∧ (cp - r.first) % r.step = 0 :=
  decide_eq_true_iff

/-- A code point in upper case. -/
def upperCodePoint (cp : Nat) : List Nat :=
  match specialCasing.lookup cp with
  | some cps => cps
  | none => match caseRuns.find? (fun r => r.contains cp) with
    | some r => [r.capital + (cp - r.first)]
    | none => [cp]

/-- `String.prototype.toUpperCase`. A lone surrogate stands for itself. -/
def toUpperCase : JsString → JsString
  | [] => []
  | [u] => (upperCodePoint u.toNat).flatMap encodeUtf16
  | u :: v :: rest =>
      if 0xD800 ≤ u ∧ u ≤ 0xDBFF ∧ 0xDC00 ≤ v ∧ v ≤ 0xDFFF then
        (upperCodePoint (0x10000 + (u.toNat - 0xD800) * 0x400 + (v.toNat - 0xDC00))).flatMap
          encodeUtf16 ++ toUpperCase rest
      else (upperCodePoint u.toNat).flatMap encodeUtf16 ++ toUpperCase (v :: rest)

/-- The runs but the first, which is that of the ASCII letters, are beyond
    ASCII. -/
theorem caseRuns_spec : caseRuns.tail.all (fun r =>
    decide (128 ≤ r.first ∧ 65 ≤ r.capital ∧ r.capital + (r.last - r.first) < 0x110000)) = true := by
  decide +kernel

theorem specialCasing_spec : specialCasing.all (fun e =>
    decide (128 ≤ e.1) && e.2.all (fun cp => decide (65 ≤ cp ∧ cp < 0x110000))) = true := by
  decide +kernel

theorem caseRuns_eq : caseRuns = ⟨97, 122, 1, 65⟩ :: caseRuns.tail :=
  rfl

/-- Upper case stays as it is or becomes code points from the capital A on. -/
theorem mem_upperCodePoint {cp c : Nat} (h : c ∈ upperCodePoint cp) :
    c = cp ∨ (65 ≤ c ∧ c < 0x110000) := by
  unfold upperCodePoint at h
  cases hspecial : specialCasing.lookup cp with
  | some cps =>
      rw [hspecial] at h
      obtain ⟨before, after, htable, -⟩ := List.lookup_eq_some_iff.mp hspecial
      have hmem : (cp, cps) ∈ specialCasing := by
        rw [htable]
        exact List.mem_append_right _ List.mem_cons_self
      -- The table says it of each of its entries, and so it holds of this one.
      have hentry := List.all_eq_true.mp specialCasing_spec _ hmem
      rw [Bool.and_eq_true] at hentry
      exact .inr (of_decide_eq_true (List.all_eq_true.mp hentry.2 c h))
  | none =>
      rw [hspecial] at h
      cases hrun : caseRuns.find? (fun r => r.contains cp) with
      | none =>
          rw [hrun] at h
          exact .inl (List.mem_singleton.mp h)
      | some r =>
          rw [hrun] at h
          have hfound := List.find?_some hrun
          have hcontains := CaseRun.contains_iff.mp hfound
          have hmem := List.mem_of_find?_eq_some hrun
          rw [caseRuns_eq, List.mem_cons] at hmem
          have hc := List.mem_singleton.mp h
          -- The small letters of ASCII are the first run.
          rcases hmem with rfl | hmem
          · simp only at hc hcontains
            exact .inr ⟨by omega, by omega⟩
          · have hr := of_decide_eq_true (List.all_eq_true.mp caseRuns_spec r hmem)
            exact .inr ⟨by omega, by omega⟩

theorem newline_mem_encodeUtf16 {cp : Nat} (hlt : cp < 0x110000) (h : 10 ∈ encodeUtf16 cp) :
    cp = 10 := by
  rcases mem_encodeUtf16 hlt h with heq | hge
  · exact heq.symm
  · exact absurd hge (by decide)

/-- Nothing but a line break becomes one. -/
theorem newline_mem_upper {cp : Nat} (hlt : cp < 0x110000)
    (h : 10 ∈ (upperCodePoint cp).flatMap encodeUtf16) : cp = 10 := by
  obtain ⟨c, hc, hunits⟩ := List.mem_flatMap.mp h
  rcases mem_upperCodePoint hc with rfl | ⟨hle, hlt'⟩
  · exact newline_mem_encodeUtf16 hlt hunits
  · have heq := newline_mem_encodeUtf16 hlt' hunits
    omega

theorem newline_not_mem_toUpperCase {s : JsString} (h : 10 ∉ s) : 10 ∉ toUpperCase s := by
  have hunit : ∀ u : CodeUnit, u.toNat = 10 → u = 10 := fun u hu => UInt16.toNat_inj.mp hu
  have hlt : ∀ u : CodeUnit, u.toNat < 0x110000 := fun u => by
    have := u.toNat_lt
    omega
  fun_induction toUpperCase s with
  | case1 => exact List.not_mem_nil
  | case2 u =>
      intro hmem
      rw [hunit u (newline_mem_upper (hlt u) hmem)] at h
      exact h List.mem_cons_self
  | case3 u v rest hpair ih =>
      rw [List.mem_cons, List.mem_cons, not_or, not_or] at h
      rw [List.mem_append, not_or]
      refine ⟨fun hmem => ?_, ih h.2.2⟩
      have hv := v.toNat_lt
      simp only [UInt16.le_iff_toNat_le, UInt16.reduceToNat] at hpair
      have heq := newline_mem_upper (by omega) hmem
      omega
  | case4 u v rest hpair ih =>
      rw [List.mem_cons, not_or] at h
      rw [List.mem_append, not_or]
      refine ⟨fun hmem => ?_, ih h.2⟩
      exact h.1 (hunit u (newline_mem_upper (hlt u) hmem)).symm

/-- A code point of ASCII is a small letter and becomes a capital, or stays. -/
theorem upperCodePoint_ascii {cp : Nat} (h : cp < 0x80) :
    upperCodePoint cp = [if 97 ≤ cp ∧ cp ≤ 122 then cp - 32 else cp] := by
  -- Neither table has anything below, but for the run of the letters.
  have hspecial : specialCasing.lookup cp = none := by
    rw [List.lookup_eq_none_iff]
    intro e he
    have hentry := List.all_eq_true.mp specialCasing_spec e he
    rw [Bool.and_eq_true] at hentry
    have hle := of_decide_eq_true hentry.1
    rw [bne_iff_ne]
    omega
  have hothers : caseRuns.tail.find? (fun r => r.contains cp) = none := by
    rw [List.find?_eq_none]
    intro r hr hcontains
    have hrun := of_decide_eq_true (List.all_eq_true.mp caseRuns_spec r hr)
    have hle := (CaseRun.contains_iff.mp hcontains).1
    omega
  rw [upperCodePoint, hspecial, caseRuns_eq]
  by_cases hletter : 97 ≤ cp ∧ cp ≤ 122
  · have hfirst : CaseRun.contains ⟨97, 122, 1, 65⟩ cp = true :=
      CaseRun.contains_iff.mpr ⟨hletter.1, hletter.2, Nat.mod_one _⟩
    rw [List.find?_cons, hfirst, if_pos hletter, List.singleton_inj]
    show 65 + (cp - 97) = cp - 32
    omega
  · have hfirst : CaseRun.contains ⟨97, 122, 1, 65⟩ cp = false := by
      rw [Bool.eq_false_iff]
      intro hcontains
      exact hletter ⟨(CaseRun.contains_iff.mp hcontains).1, (CaseRun.contains_iff.mp hcontains).2.1⟩
    rw [List.find?_cons, hfirst, hothers, if_neg hletter]

/-- A small ASCII letter as its capital. -/
def asciiUpperUnit (u : CodeUnit) : CodeUnit :=
  if 97 ≤ u ∧ u ≤ 122 then u - 32 else u

theorem toNat_asciiUpperUnit (u : CodeUnit) : (asciiUpperUnit u).toNat =
    if 97 ≤ u.toNat ∧ u.toNat ≤ 122 then u.toNat - 32 else u.toNat := by
  unfold asciiUpperUnit
  by_cases h : 97 ≤ u ∧ u ≤ 122
  · have hnat : 97 ≤ u.toNat ∧ u.toNat ≤ 122 := by
      simpa only [UInt16.le_iff_toNat_le, UInt16.reduceToNat] using h
    rw [if_pos h, if_pos hnat, UInt16.toNat_sub_of_le]
    · rfl
    · rw [UInt16.le_iff_toNat_le]
      exact le_trans (by decide) hnat.1
  · have hnat : ¬ (97 ≤ u.toNat ∧ u.toNat ≤ 122) := by
      simpa only [UInt16.le_iff_toNat_le, UInt16.reduceToNat] using h
    rw [if_neg h, if_neg hnat]

theorem toUpperCase_cons_ascii {u : CodeUnit} (h : u.toNat < 0x80) (s : JsString) :
    toUpperCase (u :: s) = asciiUpperUnit u :: toUpperCase s := by
  have hunit : (upperCodePoint u.toNat).flatMap encodeUtf16 = [asciiUpperUnit u] := by
    rw [upperCodePoint_ascii h, ← toNat_asciiUpperUnit, List.flatMap_singleton, encodeUtf16, if_pos]
    · rw [UInt16.ofNat_toNat]
    · exact (asciiUpperUnit u).toNat_lt
  cases s with
  | nil => simp only [toUpperCase, hunit]
  | cons v s =>
      have hpair : ¬ (0xD800 ≤ u ∧ u ≤ 0xDBFF ∧ 0xDC00 ≤ v ∧ v ≤ 0xDFFF) := by
        simp only [UInt16.le_iff_toNat_le, UInt16.reduceToNat]
        omega
      rw [toUpperCase, if_neg hpair, hunit, List.singleton_append]

/-- ASCII is put in upper case unit by unit. -/
theorem toUpperCase_ascii {s : JsString} (h : ∀ u ∈ s, u.toNat < 0x80) :
    toUpperCase s = s.map asciiUpperUnit := by
  induction s with
  | nil => rfl
  | cons u s ih =>
      rw [List.forall_mem_cons] at h
      rw [toUpperCase_cons_ascii h.1, ih h.2, List.map_cons]

end Js

end VellarSdk
