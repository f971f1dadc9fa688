import Mathlib.Data.Nat.Notation

/-! # The Unicode data that Python's string methods read

`str.isdigit`, `str.isspace`, `int()` of a string and `str.lower` read the Unicode character
database.  These are its tables for the characters of Unicode 12.1, the version Python 3.8 ships.
Each table is a set of disjoint runs of code points, kept as a balanced search tree so that a
lookup reads a few nodes; a character outside every run has none of the properties and lowers to
itself.  `İ`, which lowers to two characters, and `Σ`, whose lowercase depends on its neighbours,
are handled apart; the final-sigma rule reads `casedRuns` and `caseIgnorableRuns`. -/

namespace Tmtccmd.Unicode

/-- Disjoint runs `first..last` of code points, each with a value, as a search tree. -/
inductive Runs (β : Type) where
  | nil
  | node (left : Runs β) (first last : ℕ) (val : β) (right : Runs β)

/-- The run containing `n`: its first code point and its value. -/
def Runs.find? {β : Type} : Runs β → ℕ → Option (ℕ × β)
  | .nil, _ => none
  | .node l a b v r, n => if n < a then l.find? n else if b < n then r.find? n else some (a, v)

def Runs.mem {β : Type} (rs : Runs β) (n : ℕ) : Bool := (rs.find? n).isSome

/-- The decimal digits (`Numeric_Type=Decimal`), in runs of whole blocks `0` to `9`. -/
def decimalRuns : Runs Unit :=
  (.node (.node (.node (.node (.node (.node .nil 0x0030 0x0039 () .nil) 0x0660 0x0669 () (.node
  .nil 0x06F0 0x06F9 () .nil)) 0x07C0 0x07C9 () (.node (.node .nil 0x0966 0x096F () .nil) 0x09E6
  0x09EF () (.node .nil 0x0A66 0x0A6F () .nil))) 0x0AE6 0x0AEF () (.node (.node (.node .nil
  0x0B66 0x0B6F () .nil) 0x0BE6 0x0BEF () (.node .nil 0x0C66 0x0C6F () .nil)) 0x0CE6 0x0CEF ()
  (.node (.node .nil 0x0D66 0x0D6F () .nil) 0x0DE6 0x0DEF () .nil))) 0x0E50 0x0E59 () (.node
  (.node (.node (.node .nil 0x0ED0 0x0ED9 () .nil) 0x0F20 0x0F29 () (.node .nil 0x1040 0x1049 ()
  .nil)) 0x1090 0x1099 () (.node (.node .nil 0x17E0 0x17E9 () .nil) 0x1810 0x1819 () (.node .nil
  0x1946 0x194F () .nil))) 0x19D0 0x19D9 () (.node (.node (.node .nil 0x1A80 0x1A89 () .nil)
  0x1A90 0x1A99 () (.node .nil 0x1B50 0x1B59 () .nil)) 0x1BB0 0x1BB9 () (.node (.node .nil
  0x1C40 0x1C49 () .nil) 0x1C50 0x1C59 () .nil)))) 0xA620 0xA629 () (.node (.node (.node (.node
  (.node .nil 0xA8D0 0xA8D9 () .nil) 0xA900 0xA909 () (.node .nil 0xA9D0 0xA9D9 () .nil)) 0xA9F0
  0xA9F9 () (.node (.node .nil 0xAA50 0xAA59 () .nil) 0xABF0 0xABF9 () (.node .nil 0xFF10 0xFF19
  () .nil))) 0x104A0 0x104A9 () (.node (.node (.node .nil 0x10D30 0x10D39 () .nil) 0x11066
  0x1106F () (.node .nil 0x110F0 0x110F9 () .nil)) 0x11136 0x1113F () (.node (.node .nil 0x111D0
  0x111D9 () .nil) 0x112F0 0x112F9 () .nil))) 0x11450 0x11459 () (.node (.node (.node (.node
  .nil 0x114D0 0x114D9 () .nil) 0x11650 0x11659 () (.node .nil 0x116C0 0x116C9 () .nil)) 0x11730
  0x11739 () (.node (.node .nil 0x118E0 0x118E9 () .nil) 0x11C50 0x11C59 () (.node .nil 0x11D50
  0x11D59 () .nil))) 0x11DA0 0x11DA9 () (.node (.node (.node .nil 0x16A60 0x16A69 () .nil)
  0x16B50 0x16B59 () (.node .nil 0x1D7CE 0x1D7FF () .nil)) 0x1E140 0x1E149 () (.node (.node .nil
  0x1E2F0 0x1E2F9 () .nil) 0x1E950 0x1E959 () .nil)))))

/-- The other digits (`Numeric_Type=Digit`), such as `²`. -/
def otherDigitRuns : Runs Unit :=
  (.node (.node (.node (.node (.node .nil 0x00B2 0x00B3 () .nil) 0x00B9 0x00B9 () .nil) 0x1369
  0x1371 () (.node (.node .nil 0x19DA 0x19DA () .nil) 0x2070 0x2070 () .nil)) 0x2074 0x2079 ()
  (.node (.node (.node .nil 0x2080 0x2089 () .nil) 0x2460 0x2468 () .nil) 0x2474 0x247C ()
  (.node .nil 0x2488 0x2490 () .nil))) 0x24EA 0x24EA () (.node (.node (.node (.node .nil 0x24F5
  0x24FD () .nil) 0x24FF 0x24FF () .nil) 0x2776 0x277E () (.node .nil 0x2780 0x2788 () .nil))
  0x278A 0x2792 () (.node (.node (.node .nil 0x10A40 0x10A43 () .nil) 0x10E60 0x10E68 () .nil)
  0x11052 0x1105A () (.node .nil 0x1F100 0x1F10A () .nil))))

/-- The characters `str.isspace` accepts. -/
def spaceRuns : Runs Unit :=
  (.node (.node (.node (.node .nil 0x0009 0x000D () .nil) 0x001C 0x0020 () .nil) 0x0085 0x0085
  () (.node (.node .nil 0x00A0 0x00A0 () .nil) 0x1680 0x1680 () .nil)) 0x2000 0x200A () (.node
  (.node (.node .nil 0x2028 0x2029 () .nil) 0x202F 0x202F () .nil) 0x205F 0x205F () (.node .nil
  0x3000 0x3000 () .nil)))

/-- The one-to-one lowercase mappings: the run `first..last` with value `(step, target)` lowers
every `step`-th code point `n` from `first` to `target + (n - first)`. -/
def lowerRuns : Runs (ℕ × ℕ) :=
  (.node (.node (.node (.node (.node (.node (.node (.node .nil 0x0041 0x005A (1, 0x0061) .nil)
  0x00C0 0x00D6 (1, 0x00E0) .nil) 0x00D8 0x00DE (1, 0x00F8) (.node (.node .nil 0x0100 0x012E (2,
  0x0101) .nil) 0x0132 0x0136 (2, 0x0133) .nil)) 0x0139 0x0147 (2, 0x013A) (.node (.node (.node
  .nil 0x014A 0x0176 (2, 0x014B) .nil) 0x0178 0x0178 (1, 0x00FF) .nil) 0x0179 0x017D (2, 0x017A)
  (.node .nil 0x0181 0x0181 (1, 0x0253) .nil))) 0x0182 0x0184 (2, 0x0183) (.node (.node (.node
  (.node .nil 0x0186 0x0186 (1, 0x0254) .nil) 0x0187 0x0187 (1, 0x0188) .nil) 0x0189 0x018A (1,
  0x0256) (.node (.node .nil 0x018B 0x018B (1, 0x018C) .nil) 0x018E 0x018E (1, 0x01DD) .nil))
  0x018F 0x018F (1, 0x0259) (.node (.node (.node .nil 0x0190 0x0190 (1, 0x025B) .nil) 0x0191
  0x0191 (1, 0x0192) .nil) 0x0193 0x0193 (1, 0x0260) (.node .nil 0x0194 0x0194 (1, 0x0263)
  .nil)))) 0x0196 0x0196 (1, 0x0269) (.node (.node (.node (.node (.node .nil 0x0197 0x0197 (1,
  0x0268) .nil) 0x0198 0x0198 (1, 0x0199) .nil) 0x019C 0x019C (1, 0x026F) (.node (.node .nil
  0x019D 0x019D (1, 0x0272) .nil) 0x019F 0x019F (1, 0x0275) .nil)) 0x01A0 0x01A4 (2, 0x01A1)
  (.node (.node (.node .nil 0x01A6 0x01A6 (1, 0x0280) .nil) 0x01A7 0x01A7 (1, 0x01A8) .nil)
  0x01A9 0x01A9 (1, 0x0283) (.node .nil 0x01AC 0x01AC (1, 0x01AD) .nil))) 0x01AE 0x01AE (1,
  0x0288) (.node (.node (.node (.node .nil 0x01AF 0x01AF (1, 0x01B0) .nil) 0x01B1 0x01B2 (1,
  0x028A) .nil) 0x01B3 0x01B5 (2, 0x01B4) (.node (.node .nil 0x01B7 0x01B7 (1, 0x0292) .nil)
  0x01B8 0x01B8 (1, 0x01B9) .nil)) 0x01BC 0x01BC (1, 0x01BD) (.node (.node (.node .nil 0x01C4
  0x01C4 (1, 0x01C6) .nil) 0x01C5 0x01C5 (1, 0x01C6) .nil) 0x01C7 0x01C7 (1, 0x01C9) (.node .nil
  0x01C8 0x01C8 (1, 0x01C9) .nil))))) 0x01CA 0x01CA (1, 0x01CC) (.node (.node (.node (.node
  (.node (.node .nil 0x01CB 0x01DB (2, 0x01CC) .nil) 0x01DE 0x01EE (2, 0x01DF) .nil) 0x01F1
  0x01F1 (1, 0x01F3) (.node (.node .nil 0x01F2 0x01F4 (2, 0x01F3) .nil) 0x01F6 0x01F6 (1,
  0x0195) .nil)) 0x01F7 0x01F7 (1, 0x01BF) (.node (.node (.node .nil 0x01F8 0x021E (2, 0x01F9)
  .nil) 0x0220 0x0220 (1, 0x019E) .nil) 0x0222 0x0232 (2, 0x0223) (.node .nil 0x023A 0x023A (1,
  0x2C65) .nil))) 0x023B 0x023B (1, 0x023C) (.node (.node (.node (.node .nil 0x023D 0x023D (1,
  0x019A) .nil) 0x023E 0x023E (1, 0x2C66) .nil) 0x0241 0x0241 (1, 0x0242) (.node (.node .nil
  0x0243 0x0243 (1, 0x0180) .nil) 0x0244 0x0244 (1, 0x0289) .nil)) 0x0245 0x0245 (1, 0x028C)
  (.node (.node (.node .nil 0x0246 0x024E (2, 0x0247) .nil) 0x0370 0x0372 (2, 0x0371) .nil)
  0x0376 0x0376 (1, 0x0377) (.node .nil 0x037F 0x037F (1, 0x03F3) .nil)))) 0x0386 0x0386 (1,
  0x03AC) (.node (.node (.node (.node (.node .nil 0x0388 0x038A (1, 0x03AD) .nil) 0x038C 0x038C
  (1, 0x03CC) .nil) 0x038E 0x038F (1, 0x03CD) (.node (.node .nil 0x0391 0x03A1 (1, 0x03B1) .nil)
  0x03A4 0x03AB (1, 0x03C4) .nil)) 0x03CF 0x03CF (1, 0x03D7) (.node (.node (.node .nil 0x03D8
  0x03EE (2, 0x03D9) .nil) 0x03F4 0x03F4 (1, 0x03B8) .nil) 0x03F7 0x03F7 (1, 0x03F8) (.node .nil
  0x03F9 0x03F9 (1, 0x03F2) .nil))) 0x03FA 0x03FA (1, 0x03FB) (.node (.node (.node (.node .nil
  0x03FD 0x03FF (1, 0x037B) .nil) 0x0400 0x040F (1, 0x0450) .nil) 0x0410 0x042F (1, 0x0430)
  (.node (.node .nil 0x0460 0x0480 (2, 0x0461) .nil) 0x048A 0x04BE (2, 0x048B) .nil)) 0x04C0
  0x04C0 (1, 0x04CF) (.node (.node (.node .nil 0x04C1 0x04CD (2, 0x04C2) .nil) 0x04D0 0x052E (2,
  0x04D1) .nil) 0x0531 0x0556 (1, 0x0561) (.node .nil 0x10A0 0x10C5 (1, 0x2D00) .nil))))))
  0x10C7 0x10C7 (1, 0x2D27) (.node (.node (.node (.node (.node (.node (.node .nil 0x10CD 0x10CD
  (1, 0x2D2D) .nil) 0x13A0 0x13EF (1, 0xAB70) .nil) 0x13F0 0x13F5 (1, 0x13F8) (.node (.node .nil
  0x1C90 0x1CBA (1, 0x10D0) .nil) 0x1CBD 0x1CBF (1, 0x10FD) .nil)) 0x1E00 0x1E94 (2, 0x1E01)
  (.node (.node (.node .nil 0x1E9E 0x1E9E (1, 0x00DF) .nil) 0x1EA0 0x1EFE (2, 0x1EA1) .nil)
  0x1F08 0x1F0F (1, 0x1F00) (.node .nil 0x1F18 0x1F1D (1, 0x1F10) .nil))) 0x1F28 0x1F2F (1,
  0x1F20) (.node (.node (.node (.node .nil 0x1F38 0x1F3F (1, 0x1F30) .nil) 0x1F48 0x1F4D (1,
  0x1F40) .nil) 0x1F59 0x1F5F (2, 0x1F51) (.node (.node .nil 0x1F68 0x1F6F (1, 0x1F60) .nil)
  0x1F88 0x1F8F (1, 0x1F80) .nil)) 0x1F98 0x1F9F (1, 0x1F90) (.node (.node (.node .nil 0x1FA8
  0x1FAF (1, 0x1FA0) .nil) 0x1FB8 0x1FB9 (1, 0x1FB0) .nil) 0x1FBA 0x1FBB (1, 0x1F70) (.node .nil
  0x1FBC 0x1FBC (1, 0x1FB3) .nil)))) 0x1FC8 0x1FCB (1, 0x1F72) (.node (.node (.node (.node
  (.node .nil 0x1FCC 0x1FCC (1, 0x1FC3) .nil) 0x1FD8 0x1FD9 (1, 0x1FD0) .nil) 0x1FDA 0x1FDB (1,
  0x1F76) (.node (.node .nil 0x1FE8 0x1FE9 (1, 0x1FE0) .nil) 0x1FEA 0x1FEB (1, 0x1F7A) .nil))
  0x1FEC 0x1FEC (1, 0x1FE5) (.node (.node (.node .nil 0x1FF8 0x1FF9 (1, 0x1F78) .nil) 0x1FFA
  0x1FFB (1, 0x1F7C) .nil) 0x1FFC 0x1FFC (1, 0x1FF3) (.node .nil 0x2126 0x2126 (1, 0x03C9)
  .nil))) 0x212A 0x212A (1, 0x006B) (.node (.node (.node (.node .nil 0x212B 0x212B (1, 0x00E5)
  .nil) 0x2132 0x2132 (1, 0x214E) .nil) 0x2160 0x216F (1, 0x2170) (.node (.node .nil 0x2183
  0x2183 (1, 0x2184) .nil) 0x24B6 0x24CF (1, 0x24D0) .nil)) 0x2C00 0x2C2E (1, 0x2C30) (.node
  (.node (.node .nil 0x2C60 0x2C60 (1, 0x2C61) .nil) 0x2C62 0x2C62 (1, 0x026B) .nil) 0x2C63
  0x2C63 (1, 0x1D7D) (.node .nil 0x2C64 0x2C64 (1, 0x027D) .nil))))) 0x2C67 0x2C6B (2, 0x2C68)
  (.node (.node (.node (.node (.node (.node .nil 0x2C6D 0x2C6D (1, 0x0251) .nil) 0x2C6E 0x2C6E
  (1, 0x0271) .nil) 0x2C6F 0x2C6F (1, 0x0250) (.node (.node .nil 0x2C70 0x2C70 (1, 0x0252) .nil)
  0x2C72 0x2C72 (1, 0x2C73) .nil)) 0x2C75 0x2C75 (1, 0x2C76) (.node (.node (.node .nil 0x2C7E
  0x2C7F (1, 0x023F) .nil) 0x2C80 0x2CE2 (2, 0x2C81) .nil) 0x2CEB 0x2CED (2, 0x2CEC) (.node .nil
  0x2CF2 0x2CF2 (1, 0x2CF3) .nil))) 0xA640 0xA66C (2, 0xA641) (.node (.node (.node (.node .nil
  0xA680 0xA69A (2, 0xA681) .nil) 0xA722 0xA72E (2, 0xA723) .nil) 0xA732 0xA76E (2, 0xA733)
  (.node (.node .nil 0xA779 0xA77B (2, 0xA77A) .nil) 0xA77D 0xA77D (1, 0x1D79) .nil)) 0xA77E
  0xA786 (2, 0xA77F) (.node (.node (.node .nil 0xA78B 0xA78B (1, 0xA78C) .nil) 0xA78D 0xA78D (1,
  0x0265) .nil) 0xA790 0xA792 (2, 0xA791) (.node .nil 0xA796 0xA7A8 (2, 0xA797) .nil)))) 0xA7AA
  0xA7AA (1, 0x0266) (.node (.node (.node (.node (.node .nil 0xA7AB 0xA7AB (1, 0x025C) .nil)
  0xA7AC 0xA7AC (1, 0x0261) .nil) 0xA7AD 0xA7AD (1, 0x026C) (.node (.node .nil 0xA7AE 0xA7AE (1,
  0x026A) .nil) 0xA7B0 0xA7B0 (1, 0x029E) .nil)) 0xA7B1 0xA7B1 (1, 0x0287) (.node (.node (.node
  .nil 0xA7B2 0xA7B2 (1, 0x029D) .nil) 0xA7B3 0xA7B3 (1, 0xAB53) .nil) 0xA7B4 0xA7BE (2, 0xA7B5)
  (.node .nil 0xA7C2 0xA7C2 (1, 0xA7C3) .nil))) 0xA7C4 0xA7C4 (1, 0xA794) (.node (.node (.node
  (.node .nil 0xA7C5 0xA7C5 (1, 0x0282) .nil) 0xA7C6 0xA7C6 (1, 0x1D8E) .nil) 0xFF21 0xFF3A (1,
  0xFF41) (.node .nil 0x10400 0x10427 (1, 0x10428) .nil)) 0x104B0 0x104D3 (1, 0x104D8) (.node
  (.node (.node .nil 0x10C80 0x10CB2 (1, 0x10CC0) .nil) 0x118A0 0x118BF (1, 0x118C0) .nil)
  0x16E40 0x16E5F (1, 0x16E60) (.node .nil 0x1E900 0x1E921 (1, 0x1E922) .nil)))))))

/-- The `Cased` characters that are not `Case_Ignorable`. -/
def casedRuns : Runs Unit :=
  (.node (.node (.node (.node (.node (.node (.node (.node .nil 0x0041 0x005A () .nil) 0x0061
  0x007A () .nil) 0x00AA 0x00AA () (.node .nil 0x00B5 0x00B5 () .nil)) 0x00BA 0x00BA () (.node
  (.node .nil 0x00C0 0x00D6 () .nil) 0x00D8 0x00F6 () (.node .nil 0x00F8 0x01BA () .nil)))
  0x01BC 0x01BF () (.node (.node (.node (.node .nil 0x01C4 0x0293 () .nil) 0x0295 0x02AF ()
  .nil) 0x0370 0x0373 () (.node .nil 0x0376 0x0377 () .nil)) 0x037B 0x037D () (.node (.node .nil
  0x037F 0x037F () .nil) 0x0386 0x0386 () (.node .nil 0x0388 0x038A () .nil)))) 0x038C 0x038C ()
  (.node (.node (.node (.node (.node .nil 0x038E 0x03A1 () .nil) 0x03A3 0x03F5 () .nil) 0x03F7
  0x0481 () (.node .nil 0x048A 0x052F () .nil)) 0x0531 0x0556 () (.node (.node .nil 0x0560
  0x0588 () .nil) 0x10A0 0x10C5 () (.node .nil 0x10C7 0x10C7 () .nil))) 0x10CD 0x10CD () (.node
  (.node (.node .nil 0x10D0 0x10FA () .nil) 0x10FD 0x10FF () (.node .nil 0x13A0 0x13F5 () .nil))
  0x13F8 0x13FD () (.node (.node .nil 0x1C80 0x1C88 () .nil) 0x1C90 0x1CBA () (.node .nil 0x1CBD
  0x1CBF () .nil))))) 0x1D00 0x1D2B () (.node (.node (.node (.node (.node (.node .nil 0x1D6B
  0x1D77 () .nil) 0x1D79 0x1D9A () .nil) 0x1E00 0x1F15 () (.node .nil 0x1F18 0x1F1D () .nil))
  0x1F20 0x1F45 () (.node (.node .nil 0x1F48 0x1F4D () .nil) 0x1F50 0x1F57 () (.node .nil 0x1F59
  0x1F59 () .nil))) 0x1F5B 0x1F5B () (.node (.node (.node (.node .nil 0x1F5D 0x1F5D () .nil)
  0x1F5F 0x1F7D () .nil) 0x1F80 0x1FB4 () (.node .nil 0x1FB6 0x1FBC () .nil)) 0x1FBE 0x1FBE ()
  (.node (.node .nil 0x1FC2 0x1FC4 () .nil) 0x1FC6 0x1FCC () (.node .nil 0x1FD0 0x1FD3 ()
  .nil)))) 0x1FD6 0x1FDB () (.node (.node (.node (.node (.node .nil 0x1FE0 0x1FEC () .nil)
  0x1FF2 0x1FF4 () .nil) 0x1FF6 0x1FFC () (.node .nil 0x2102 0x2102 () .nil)) 0x2107 0x2107 ()
  (.node (.node .nil 0x210A 0x2113 () .nil) 0x2115 0x2115 () (.node .nil 0x2119 0x211D ()
  .nil))) 0x2124 0x2124 () (.node (.node (.node .nil 0x2126 0x2126 () .nil) 0x2128 0x2128 ()
  (.node .nil 0x212A 0x212D () .nil)) 0x212F 0x2134 () (.node (.node .nil 0x2139 0x2139 () .nil)
  0x213C 0x213F () (.node .nil 0x2145 0x2149 () .nil)))))) 0x214E 0x214E () (.node (.node (.node
  (.node (.node (.node (.node .nil 0x2160 0x217F () .nil) 0x2183 0x2184 () .nil) 0x24B6 0x24E9
  () (.node .nil 0x2C00 0x2C2E () .nil)) 0x2C30 0x2C5E () (.node (.node .nil 0x2C60 0x2C7B ()
  .nil) 0x2C7E 0x2CE4 () (.node .nil 0x2CEB 0x2CEE () .nil))) 0x2CF2 0x2CF3 () (.node (.node
  (.node (.node .nil 0x2D00 0x2D25 () .nil) 0x2D27 0x2D27 () .nil) 0x2D2D 0x2D2D () (.node .nil
  0xA640 0xA66D () .nil)) 0xA680 0xA69B () (.node (.node .nil 0xA722 0xA76F () .nil) 0xA771
  0xA787 () (.node .nil 0xA78B 0xA78E () .nil)))) 0xA790 0xA7BF () (.node (.node (.node (.node
  (.node .nil 0xA7C2 0xA7C6 () .nil) 0xA7FA 0xA7FA () .nil) 0xAB30 0xAB5A () (.node .nil 0xAB60
  0xAB67 () .nil)) 0xAB70 0xABBF () (.node (.node .nil 0xFB00 0xFB06 () .nil) 0xFB13 0xFB17 ()
  (.node .nil 0xFF21 0xFF3A () .nil))) 0xFF41 0xFF5A () (.node (.node (.node .nil 0x10400
  0x1044F () .nil) 0x104B0 0x104D3 () (.node .nil 0x104D8 0x104FB () .nil)) 0x10C80 0x10CB2 ()
  (.node (.node .nil 0x10CC0 0x10CF2 () .nil) 0x118A0 0x118DF () (.node .nil 0x16E40 0x16E7F ()
  .nil))))) 0x1D400 0x1D454 () (.node (.node (.node (.node (.node (.node .nil 0x1D456 0x1D49C ()
  .nil) 0x1D49E 0x1D49F () .nil) 0x1D4A2 0x1D4A2 () (.node .nil 0x1D4A5 0x1D4A6 () .nil))
  0x1D4A9 0x1D4AC () (.node (.node .nil 0x1D4AE 0x1D4B9 () .nil) 0x1D4BB 0x1D4BB () (.node .nil
  0x1D4BD 0x1D4C3 () .nil))) 0x1D4C5 0x1D505 () (.node (.node (.node .nil 0x1D507 0x1D50A ()
  .nil) 0x1D50D 0x1D514 () (.node .nil 0x1D516 0x1D51C () .nil)) 0x1D51E 0x1D539 () (.node
  (.node .nil 0x1D53B 0x1D53E () .nil) 0x1D540 0x1D544 () (.node .nil 0x1D546 0x1D546 ()
  .nil)))) 0x1D54A 0x1D550 () (.node (.node (.node (.node (.node .nil 0x1D552 0x1D6A5 () .nil)
  0x1D6A8 0x1D6C0 () .nil) 0x1D6C2 0x1D6DA () (.node .nil 0x1D6DC 0x1D6FA () .nil)) 0x1D6FC
  0x1D714 () (.node (.node .nil 0x1D716 0x1D734 () .nil) 0x1D736 0x1D74E () (.node .nil 0x1D750
  0x1D76E () .nil))) 0x1D770 0x1D788 () (.node (.node (.node .nil 0x1D78A 0x1D7A8 () .nil)
  0x1D7AA 0x1D7C2 () (.node .nil 0x1D7C4 0x1D7CB () .nil)) 0x1E900 0x1E943 () (.node (.node .nil
  0x1F130 0x1F149 () .nil) 0x1F150 0x1F169 () (.node .nil 0x1F170 0x1F189 () .nil)))))))

/-- The `Case_Ignorable` characters. -/
def caseIgnorableRuns : Runs Unit :=
  (.node (.node (.node (.node (.node (.node (.node (.node (.node .nil 0x0027 0x0027 () .nil)
  0x002E 0x002E () (.node .nil 0x003A 0x003A () .nil)) 0x005E 0x005E () (.node (.node .nil
  0x0060 0x0060 () .nil) 0x00A8 0x00A8 () .nil)) 0x00AD 0x00AD () (.node (.node (.node .nil
  0x00AF 0x00AF () .nil) 0x00B4 0x00B4 () .nil) 0x00B7 0x00B8 () (.node (.node .nil 0x02B0
  0x036F () .nil) 0x0374 0x0375 () .nil))) 0x037A 0x037A () (.node (.node (.node (.node .nil
  0x0384 0x0385 () .nil) 0x0387 0x0387 () (.node .nil 0x0483 0x0489 () .nil)) 0x0559 0x0559 ()
  (.node (.node .nil 0x055F 0x055F () .nil) 0x0591 0x05BD () .nil)) 0x05BF 0x05BF () (.node
  (.node (.node .nil 0x05C1 0x05C2 () .nil) 0x05C4 0x05C5 () .nil) 0x05C7 0x05C7 () (.node
  (.node .nil 0x05F4 0x05F4 () .nil) 0x0600 0x0605 () .nil)))) 0x0610 0x061A () (.node (.node
  (.node (.node (.node .nil 0x061C 0x061C () .nil) 0x0640 0x0640 () (.node .nil 0x064B 0x065F ()
  .nil)) 0x0670 0x0670 () (.node (.node .nil 0x06D6 0x06DD () .nil) 0x06DF 0x06E8 () .nil))
  0x06EA 0x06ED () (.node (.node (.node .nil 0x070F 0x070F () .nil) 0x0711 0x0711 () .nil)
  0x0730 0x074A () (.node (.node .nil 0x07A6 0x07B0 () .nil) 0x07EB 0x07F5 () .nil))) 0x07FA
  0x07FA () (.node (.node (.node (.node .nil 0x07FD 0x07FD () .nil) 0x0816 0x082D () .nil)
  0x0859 0x085B () (.node (.node .nil 0x08D3 0x0902 () .nil) 0x093A 0x093A () .nil)) 0x093C
  0x093C () (.node (.node (.node .nil 0x0941 0x0948 () .nil) 0x094D 0x094D () .nil) 0x0951
  0x0957 () (.node (.node .nil 0x0962 0x0963 () .nil) 0x0971 0x0971 () .nil))))) 0x0981 0x0981
  () (.node (.node (.node (.node (.node (.node .nil 0x09BC 0x09BC () .nil) 0x09C1 0x09C4 ()
  (.node .nil 0x09CD 0x09CD () .nil)) 0x09E2 0x09E3 () (.node (.node .nil 0x09FE 0x09FE () .nil)
  0x0A01 0x0A02 () .nil)) 0x0A3C 0x0A3C () (.node (.node (.node .nil 0x0A41 0x0A42 () .nil)
  0x0A47 0x0A48 () .nil) 0x0A4B 0x0A4D () (.node (.node .nil 0x0A51 0x0A51 () .nil) 0x0A70
  0x0A71 () .nil))) 0x0A75 0x0A75 () (.node (.node (.node (.node .nil 0x0A81 0x0A82 () .nil)
  0x0ABC 0x0ABC () .nil) 0x0AC1 0x0AC5 () (.node (.node .nil 0x0AC7 0x0AC8 () .nil) 0x0ACD
  0x0ACD () .nil)) 0x0AE2 0x0AE3 () (.node (.node (.node .nil 0x0AFA 0x0AFF () .nil) 0x0B01
  0x0B01 () .nil) 0x0B3C 0x0B3C () (.node (.node .nil 0x0B3F 0x0B3F () .nil) 0x0B41 0x0B44 ()
  .nil)))) 0x0B4D 0x0B4D () (.node (.node (.node (.node (.node .nil 0x0B56 0x0B56 () .nil)
  0x0B62 0x0B63 () (.node .nil 0x0B82 0x0B82 () .nil)) 0x0BC0 0x0BC0 () (.node (.node .nil
  0x0BCD 0x0BCD () .nil) 0x0C00 0x0C00 () .nil)) 0x0C04 0x0C04 () (.node (.node (.node .nil
  0x0C3E 0x0C40 () .nil) 0x0C46 0x0C48 () .nil) 0x0C4A 0x0C4D () (.node (.node .nil 0x0C55
  0x0C56 () .nil) 0x0C62 0x0C63 () .nil))) 0x0C81 0x0C81 () (.node (.node (.node (.node .nil
  0x0CBC 0x0CBC () .nil) 0x0CBF 0x0CBF () .nil) 0x0CC6 0x0CC6 () (.node (.node .nil 0x0CCC
  0x0CCD () .nil) 0x0CE2 0x0CE3 () .nil)) 0x0D00 0x0D01 () (.node (.node (.node .nil 0x0D3B
  0x0D3C () .nil) 0x0D41 0x0D44 () .nil) 0x0D4D 0x0D4D () (.node (.node .nil 0x0D62 0x0D63 ()
  .nil) 0x0DCA 0x0DCA () .nil)))))) 0x0DD2 0x0DD4 () (.node (.node (.node (.node (.node (.node
  (.node .nil 0x0DD6 0x0DD6 () .nil) 0x0E31 0x0E31 () (.node .nil 0x0E34 0x0E3A () .nil)) 0x0E46
  0x0E4E () (.node (.node .nil 0x0EB1 0x0EB1 () .nil) 0x0EB4 0x0EBC () .nil)) 0x0EC6 0x0EC6 ()
  (.node (.node (.node .nil 0x0EC8 0x0ECD () .nil) 0x0F18 0x0F19 () .nil) 0x0F35 0x0F35 ()
  (.node (.node .nil 0x0F37 0x0F37 () .nil) 0x0F39 0x0F39 () .nil))) 0x0F71 0x0F7E () (.node
  (.node (.node (.node .nil 0x0F80 0x0F84 () .nil) 0x0F86 0x0F87 () (.node .nil 0x0F8D 0x0F97 ()
  .nil)) 0x0F99 0x0FBC () (.node (.node .nil 0x0FC6 0x0FC6 () .nil) 0x102D 0x1030 () .nil))
  0x1032 0x1037 () (.node (.node (.node .nil 0x1039 0x103A () .nil) 0x103D 0x103E () .nil)
  0x1058 0x1059 () (.node (.node .nil 0x105E 0x1060 () .nil) 0x1071 0x1074 () .nil)))) 0x1082
  0x1082 () (.node (.node (.node (.node (.node .nil 0x1085 0x1086 () .nil) 0x108D 0x108D ()
  (.node .nil 0x109D 0x109D () .nil)) 0x10FC 0x10FC () (.node (.node .nil 0x135D 0x135F () .nil)
  0x1712 0x1714 () .nil)) 0x1732 0x1733 () (.node (.node (.node .nil 0x1752 0x1753 () .nil)
  0x1772 0x1773 () .nil) 0x17B4 0x17B5 () (.node (.node .nil 0x17B7 0x17BD () .nil) 0x17C6
  0x17C6 () .nil))) 0x17C9 0x17D3 () (.node (.node (.node (.node .nil 0x17D7 0x17D7 () .nil)
  0x17DD 0x17DD () .nil) 0x180B 0x180E () (.node (.node .nil 0x1843 0x1843 () .nil) 0x1885
  0x1886 () .nil)) 0x18A9 0x18A9 () (.node (.node (.node .nil 0x1920 0x1922 () .nil) 0x1927
  0x1928 () .nil) 0x1932 0x1932 () (.node (.node .nil 0x1939 0x193B () .nil) 0x1A17 0x1A18 ()
  .nil))))) 0x1A1B 0x1A1B () (.node (.node (.node (.node (.node (.node .nil 0x1A56 0x1A56 ()
  .nil) 0x1A58 0x1A5E () (.node .nil 0x1A60 0x1A60 () .nil)) 0x1A62 0x1A62 () (.node (.node .nil
  0x1A65 0x1A6C () .nil) 0x1A73 0x1A7C () .nil)) 0x1A7F 0x1A7F () (.node (.node (.node .nil
  0x1AA7 0x1AA7 () .nil) 0x1AB0 0x1ABE () .nil) 0x1B00 0x1B03 () (.node (.node .nil 0x1B34
  0x1B34 () .nil) 0x1B36 0x1B3A () .nil))) 0x1B3C 0x1B3C () (.node (.node (.node (.node .nil
  0x1B42 0x1B42 () .nil) 0x1B6B 0x1B73 () .nil) 0x1B80 0x1B81 () (.node (.node .nil 0x1BA2
  0x1BA5 () .nil) 0x1BA8 0x1BA9 () .nil)) 0x1BAB 0x1BAD () (.node (.node (.node .nil 0x1BE6
  0x1BE6 () .nil) 0x1BE8 0x1BE9 () .nil) 0x1BED 0x1BED () (.node (.node .nil 0x1BEF 0x1BF1 ()
  .nil) 0x1C2C 0x1C33 () .nil)))) 0x1C36 0x1C37 () (.node (.node (.node (.node (.node .nil
  0x1C78 0x1C7D () .nil) 0x1CD0 0x1CD2 () (.node .nil 0x1CD4 0x1CE0 () .nil)) 0x1CE2 0x1CE8 ()
  (.node (.node .nil 0x1CED 0x1CED () .nil) 0x1CF4 0x1CF4 () .nil)) 0x1CF8 0x1CF9 () (.node
  (.node (.node .nil 0x1D2C 0x1D6A () .nil) 0x1D78 0x1D78 () .nil) 0x1D9B 0x1DF9 () (.node
  (.node .nil 0x1DFB 0x1DFF () .nil) 0x1FBD 0x1FBD () .nil))) 0x1FBF 0x1FC1 () (.node (.node
  (.node (.node .nil 0x1FCD 0x1FCF () .nil) 0x1FDD 0x1FDF () .nil) 0x1FED 0x1FEF () (.node
  (.node .nil 0x1FFD 0x1FFE () .nil) 0x200B 0x200F () .nil)) 0x2018 0x2019 () (.node (.node
  (.node .nil 0x2024 0x2024 () .nil) 0x2027 0x2027 () .nil) 0x202A 0x202E () (.node (.node .nil
  0x2060 0x2064 () .nil) 0x2066 0x206F () .nil))))))) 0x2071 0x2071 () (.node (.node (.node
  (.node (.node (.node (.node (.node .nil 0x207F 0x207F () .nil) 0x2090 0x209C () (.node .nil
  0x20D0 0x20F0 () .nil)) 0x2C7C 0x2C7D () (.node (.node .nil 0x2CEF 0x2CF1 () .nil) 0x2D6F
  0x2D6F () .nil)) 0x2D7F 0x2D7F () (.node (.node (.node .nil 0x2DE0 0x2DFF () .nil) 0x2E2F
  0x2E2F () .nil) 0x3005 0x3005 () (.node (.node .nil 0x302A 0x302D () .nil) 0x3031 0x3035 ()
  .nil))) 0x303B 0x303B () (.node (.node (.node (.node .nil 0x3099 0x309E () .nil) 0x30FC 0x30FE
  () (.node .nil 0xA015 0xA015 () .nil)) 0xA4F8 0xA4FD () (.node (.node .nil 0xA60C 0xA60C ()
  .nil) 0xA66F 0xA672 () .nil)) 0xA674 0xA67D () (.node (.node (.node .nil 0xA67F 0xA67F ()
  .nil) 0xA69C 0xA69F () .nil) 0xA6F0 0xA6F1 () (.node (.node .nil 0xA700 0xA721 () .nil) 0xA770
  0xA770 () .nil)))) 0xA788 0xA78A () (.node (.node (.node (.node (.node .nil 0xA7F8 0xA7F9 ()
  .nil) 0xA802 0xA802 () (.node .nil 0xA806 0xA806 () .nil)) 0xA80B 0xA80B () (.node (.node .nil
  0xA825 0xA826 () .nil) 0xA8C4 0xA8C5 () .nil)) 0xA8E0 0xA8F1 () (.node (.node (.node .nil
  0xA8FF 0xA8FF () .nil) 0xA926 0xA92D () .nil) 0xA947 0xA951 () (.node (.node .nil 0xA980
  0xA982 () .nil) 0xA9B3 0xA9B3 () .nil))) 0xA9B6 0xA9B9 () (.node (.node (.node (.node .nil
  0xA9BC 0xA9BD () .nil) 0xA9CF 0xA9CF () .nil) 0xA9E5 0xA9E6 () (.node (.node .nil 0xAA29
  0xAA2E () .nil) 0xAA31 0xAA32 () .nil)) 0xAA35 0xAA36 () (.node (.node (.node .nil 0xAA43
  0xAA43 () .nil) 0xAA4C 0xAA4C () .nil) 0xAA70 0xAA70 () (.node (.node .nil 0xAA7C 0xAA7C ()
  .nil) 0xAAB0 0xAAB0 () .nil))))) 0xAAB2 0xAAB4 () (.node (.node (.node (.node (.node (.node
  .nil 0xAAB7 0xAAB8 () .nil) 0xAABE 0xAABF () (.node .nil 0xAAC1 0xAAC1 () .nil)) 0xAADD 0xAADD
  () (.node (.node .nil 0xAAEC 0xAAED () .nil) 0xAAF3 0xAAF4 () .nil)) 0xAAF6 0xAAF6 () (.node
  (.node (.node .nil 0xAB5B 0xAB5F () .nil) 0xABE5 0xABE5 () .nil) 0xABE8 0xABE8 () (.node
  (.node .nil 0xABED 0xABED () .nil) 0xFB1E 0xFB1E () .nil))) 0xFBB2 0xFBC1 () (.node (.node
  (.node (.node .nil 0xFE00 0xFE0F () .nil) 0xFE13 0xFE13 () .nil) 0xFE20 0xFE2F () (.node
  (.node .nil 0xFE52 0xFE52 () .nil) 0xFE55 0xFE55 () .nil)) 0xFEFF 0xFEFF () (.node (.node
  (.node .nil 0xFF07 0xFF07 () .nil) 0xFF0E 0xFF0E () .nil) 0xFF1A 0xFF1A () (.node (.node .nil
  0xFF3E 0xFF3E () .nil) 0xFF40 0xFF40 () .nil)))) 0xFF70 0xFF70 () (.node (.node (.node (.node
  (.node .nil 0xFF9E 0xFF9F () .nil) 0xFFE3 0xFFE3 () (.node .nil 0xFFF9 0xFFFB () .nil))
  0x101FD 0x101FD () (.node (.node .nil 0x102E0 0x102E0 () .nil) 0x10376 0x1037A () .nil))
  0x10A01 0x10A03 () (.node (.node (.node .nil 0x10A05 0x10A06 () .nil) 0x10A0C 0x10A0F () .nil)
  0x10A38 0x10A3A () (.node (.node .nil 0x10A3F 0x10A3F () .nil) 0x10AE5 0x10AE6 () .nil)))
  0x10D24 0x10D27 () (.node (.node (.node (.node .nil 0x10F46 0x10F50 () .nil) 0x11001 0x11001
  () .nil) 0x11038 0x11046 () (.node (.node .nil 0x1107F 0x11081 () .nil) 0x110B3 0x110B6 ()
  .nil)) 0x110B9 0x110BA () (.node (.node (.node .nil 0x110BD 0x110BD () .nil) 0x110CD 0x110CD
  () .nil) 0x11100 0x11102 () (.node (.node .nil 0x11127 0x1112B () .nil) 0x1112D 0x11134 ()
  .nil)))))) 0x11173 0x11173 () (.node (.node (.node (.node (.node (.node (.node .nil 0x11180
  0x11181 () .nil) 0x111B6 0x111BE () (.node .nil 0x111C9 0x111CC () .nil)) 0x1122F 0x11231 ()
  (.node (.node .nil 0x11234 0x11234 () .nil) 0x11236 0x11237 () .nil)) 0x1123E 0x1123E ()
  (.node (.node (.node .nil 0x112DF 0x112DF () .nil) 0x112E3 0x112EA () .nil) 0x11300 0x11301 ()
  (.node (.node .nil 0x1133B 0x1133C () .nil) 0x11340 0x11340 () .nil))) 0x11366 0x1136C ()
  (.node (.node (.node (.node .nil 0x11370 0x11374 () .nil) 0x11438 0x1143F () .nil) 0x11442
  0x11444 () (.node (.node .nil 0x11446 0x11446 () .nil) 0x1145E 0x1145E () .nil)) 0x114B3
  0x114B8 () (.node (.node (.node .nil 0x114BA 0x114BA () .nil) 0x114BF 0x114C0 () .nil) 0x114C2
  0x114C3 () (.node (.node .nil 0x115B2 0x115B5 () .nil) 0x115BC 0x115BD () .nil)))) 0x115BF
  0x115C0 () (.node (.node (.node (.node (.node .nil 0x115DC 0x115DD () .nil) 0x11633 0x1163A ()
  (.node .nil 0x1163D 0x1163D () .nil)) 0x1163F 0x11640 () (.node (.node .nil 0x116AB 0x116AB ()
  .nil) 0x116AD 0x116AD () .nil)) 0x116B0 0x116B5 () (.node (.node (.node .nil 0x116B7 0x116B7
  () .nil) 0x1171D 0x1171F () .nil) 0x11722 0x11725 () (.node (.node .nil 0x11727 0x1172B ()
  .nil) 0x1182F 0x11837 () .nil))) 0x11839 0x1183A () (.node (.node (.node (.node .nil 0x119D4
  0x119D7 () .nil) 0x119DA 0x119DB () .nil) 0x119E0 0x119E0 () (.node (.node .nil 0x11A01
  0x11A0A () .nil) 0x11A33 0x11A38 () .nil)) 0x11A3B 0x11A3E () (.node (.node (.node .nil
  0x11A47 0x11A47 () .nil) 0x11A51 0x11A56 () .nil) 0x11A59 0x11A5B () (.node (.node .nil
  0x11A8A 0x11A96 () .nil) 0x11A98 0x11A99 () .nil))))) 0x11C30 0x11C36 () (.node (.node (.node
  (.node (.node (.node .nil 0x11C38 0x11C3D () .nil) 0x11C3F 0x11C3F () (.node .nil 0x11C92
  0x11CA7 () .nil)) 0x11CAA 0x11CB0 () (.node (.node .nil 0x11CB2 0x11CB3 () .nil) 0x11CB5
  0x11CB6 () .nil)) 0x11D31 0x11D36 () (.node (.node (.node .nil 0x11D3A 0x11D3A () .nil)
  0x11D3C 0x11D3D () .nil) 0x11D3F 0x11D45 () (.node (.node .nil 0x11D47 0x11D47 () .nil)
  0x11D90 0x11D91 () .nil))) 0x11D95 0x11D95 () (.node (.node (.node (.node .nil 0x11D97 0x11D97
  () .nil) 0x11EF3 0x11EF4 () .nil) 0x13430 0x13438 () (.node (.node .nil 0x16AF0 0x16AF4 ()
  .nil) 0x16B30 0x16B36 () .nil)) 0x16B40 0x16B43 () (.node (.node (.node .nil 0x16F4F 0x16F4F
  () .nil) 0x16F8F 0x16F9F () .nil) 0x16FE0 0x16FE1 () (.node (.node .nil 0x16FE3 0x16FE3 ()
  .nil) 0x1BC9D 0x1BC9E () .nil)))) 0x1BCA0 0x1BCA3 () (.node (.node (.node (.node (.node .nil
  0x1D167 0x1D169 () .nil) 0x1D173 0x1D182 () (.node .nil 0x1D185 0x1D18B () .nil)) 0x1D1AA
  0x1D1AD () (.node (.node .nil 0x1D242 0x1D244 () .nil) 0x1DA00 0x1DA36 () .nil)) 0x1DA3B
  0x1DA6C () (.node (.node (.node .nil 0x1DA75 0x1DA75 () .nil) 0x1DA84 0x1DA84 () .nil) 0x1DA9B
  0x1DA9F () (.node (.node .nil 0x1DAA1 0x1DAAF () .nil) 0x1E000 0x1E006 () .nil))) 0x1E008
  0x1E018 () (.node (.node (.node (.node .nil 0x1E01B 0x1E021 () .nil) 0x1E023 0x1E024 () .nil)
  0x1E026 0x1E02A () (.node (.node .nil 0x1E130 0x1E13D () .nil) 0x1E2EC 0x1E2EF () .nil))
  0x1E8D0 0x1E8D6 () (.node (.node (.node .nil 0x1E944 0x1E94B () .nil) 0x1F3FB 0x1F3FF () .nil)
  0xE0001 0xE0001 () (.node (.node .nil 0xE0020 0xE007F () .nil) 0xE0100 0xE01EF () .nil))))))))

/-- The value of a decimal digit, `none` for any other character. -/
def decimalValue? (c : Char) : Option ℕ :=
  (decimalRuns.find? c.toNat).map fun r => (c.toNat - r.1) % 10

/-- `c.isdigit()`. -/
def isDigit (c : Char) : Bool := (decimalValue? c).isSome || otherDigitRuns.mem c.toNat

/-- `c.isspace()`. -/
def isSpace (c : Char) : Bool := spaceRuns.mem c.toNat

def isCased (c : Char) : Bool := casedRuns.mem c.toNat

def isCaseIgnorable (c : Char) : Bool := caseIgnorableRuns.mem c.toNat

/-- The lowercase mapping of a character other than `Σ`. -/
def lowerChar (c : Char) : List Char :=
  if c.toNat = 0x130 then [Char.ofNat 0x69, Char.ofNat 0x307]
  else match lowerRuns.find? c.toNat with
    | some (first, step, target) =>
      if (c.toNat - first) % step = 0 then [Char.ofNat (target + (c.toNat - first))] else [c]
    | none => [c]

/-- The final-sigma rule: `Σ` lowers to `ς` when the nearest character before it that is not
case-ignorable is cased and the nearest one after it is not; `before` lists the characters before
it, nearest first. -/
def finalSigma (before after : List Char) : Bool :=
  (match before.find? (!isCaseIgnorable ·) with
    | some c => isCased c
    | none => false) &&
  (match after.find? (!isCaseIgnorable ·) with
    | some c => !isCased c
    | none => true)

end Tmtccmd.Unicode
