/-!
# Variants of letters

Many characters are variants of others: letters with an accent, ligatures, wide and narrow forms,
letters of a certain style, and forms that a letter takes within a word.  Each stands for a plain
text, in which accents are characters of their own.  The table has the characters that may stand in
a name; the syllables of the Korean script, which follow a rule, are not in it.
-/

set_option autoImplicit false

namespace JavaScribe.Text

/-- The plain texts of consecutive characters, with spaces between them. -/
structure VariantRow where
  first : Nat
  last : Nat
  forms : String

/-- The variants, in increasing order. -/
def variantRows : List VariantRow := [
  ⟨0xAA, 0xAA, "a"⟩, ⟨0xB5, 0xB5, "μ"⟩, ⟨0xBA, 0xBA, "o"⟩,
  ⟨0xC0, 0xC5, "A\u0300 A\u0301 A\u0302 A\u0303 A\u0308 A\u030a"⟩,
  ⟨0xC7, 0xCF, "C\u0327 E\u0300 E\u0301 E\u0302 E\u0308 I\u0300 I\u0301 I\u0302 I\u0308"⟩,
  ⟨0xD1, 0xD6, "N\u0303 O\u0300 O\u0301 O\u0302 O\u0303 O\u0308"⟩,
  ⟨0xD9, 0xDD, "U\u0300 U\u0301 U\u0302 U\u0308 Y\u0301"⟩,
  ⟨0xE0, 0xE5, "a\u0300 a\u0301 a\u0302 a\u0303 a\u0308 a\u030a"⟩,
  ⟨0xE7, 0xEF, "c\u0327 e\u0300 e\u0301 e\u0302 e\u0308 i\u0300 i\u0301 i\u0302 i\u0308"⟩,
  ⟨0xF1, 0xF6, "n\u0303 o\u0300 o\u0301 o\u0302 o\u0303 o\u0308"⟩,
  ⟨0xF9, 0xFD, "u\u0300 u\u0301 u\u0302 u\u0308 y\u0301"⟩,
  ⟨0xFF, 0x107, "y\u0308 A\u0304 a\u0304 A\u0306 a\u0306 A\u0328 a\u0328 C\u0301 c\u0301"⟩,
  ⟨0x108, 0x10F, "C\u0302 c\u0302 C\u0307 c\u0307 C\u030c c\u030c D\u030c d\u030c"⟩,
  ⟨0x112, 0x11A, "E\u0304 e\u0304 E\u0306 e\u0306 E\u0307 e\u0307 E\u0328 e\u0328 E\u030c"⟩,
  ⟨0x11B, 0x123, "e\u030c G\u0302 g\u0302 G\u0306 g\u0306 G\u0307 g\u0307 G\u0327 g\u0327"⟩,
  ⟨0x124, 0x125, "H\u0302 h\u0302"⟩,
  ⟨0x128, 0x130, "I\u0303 i\u0303 I\u0304 i\u0304 I\u0306 i\u0306 I\u0328 i\u0328 I\u0307"⟩,
  ⟨0x132, 0x137, "IJ ij J\u0302 j\u0302 K\u0327 k\u0327"⟩,
  ⟨0x139, 0x140, "L\u0301 l\u0301 L\u0327 l\u0327 L\u030c l\u030c L· l·"⟩,
  ⟨0x143, 0x149, "N\u0301 n\u0301 N\u0327 n\u0327 N\u030c n\u030c ʼn"⟩,
  ⟨0x14C, 0x151, "O\u0304 o\u0304 O\u0306 o\u0306 O\u030b o\u030b"⟩,
  ⟨0x154, 0x15C, "R\u0301 r\u0301 R\u0327 r\u0327 R\u030c r\u030c S\u0301 s\u0301 S\u0302"⟩,
  ⟨0x15D, 0x165, "s\u0302 S\u0327 s\u0327 S\u030c s\u030c T\u0327 t\u0327 T\u030c t\u030c"⟩,
  ⟨0x168, 0x170, "U\u0303 u\u0303 U\u0304 u\u0304 U\u0306 u\u0306 U\u030a u\u030a U\u030b"⟩,
  ⟨0x171, 0x179, "u\u030b U\u0328 u\u0328 W\u0302 w\u0302 Y\u0302 y\u0302 Y\u0308 Z\u0301"⟩,
  ⟨0x17A, 0x17F, "z\u0301 Z\u0307 z\u0307 Z\u030c z\u030c s"⟩, ⟨0x1A0, 0x1A1, "O\u031b o\u031b"⟩,
  ⟨0x1AF, 0x1B0, "U\u031b u\u031b"⟩,
  ⟨0x1C4, 0x1D0, "DZ\u030c Dz\u030c dz\u030c LJ Lj lj NJ Nj nj A\u030c a\u030c I\u030c i\u030c"⟩,
  ⟨0x1D1, 0x1D7, "O\u030c o\u030c U\u030c u\u030c U\u0308\u0304 u\u0308\u0304 U\u0308\u0301"⟩,
  ⟨0x1D8, 0x1DC, "u\u0308\u0301 U\u0308\u030c u\u0308\u030c U\u0308\u0300 u\u0308\u0300"⟩,
  ⟨0x1DE, 0x1E3, "A\u0308\u0304 a\u0308\u0304 A\u0307\u0304 a\u0307\u0304 Æ\u0304 æ\u0304"⟩,
  ⟨0x1E6, 0x1ED, "G\u030c g\u030c K\u030c k\u030c O\u0328 o\u0328 O\u0328\u0304 o\u0328\u0304"⟩,
  ⟨0x1EE, 0x1F5, "Ʒ\u030c ʒ\u030c j\u030c DZ Dz dz G\u0301 g\u0301"⟩,
  ⟨0x1F8, 0x1FF, "N\u0300 n\u0300 A\u030a\u0301 a\u030a\u0301 Æ\u0301 æ\u0301 Ø\u0301 ø\u0301"⟩,
  ⟨0x200, 0x208, "A\u030f a\u030f A\u0311 a\u0311 E\u030f e\u030f E\u0311 e\u0311 I\u030f"⟩,
  ⟨0x209, 0x211, "i\u030f I\u0311 i\u0311 O\u030f o\u030f O\u0311 o\u0311 R\u030f r\u030f"⟩,
  ⟨0x212, 0x21A, "R\u0311 r\u0311 U\u030f u\u030f U\u0311 u\u0311 S\u0326 s\u0326 T\u0326"⟩,
  ⟨0x21B, 0x21B, "t\u0326"⟩, ⟨0x21E, 0x21F, "H\u030c h\u030c"⟩,
  ⟨0x226, 0x22C, "A\u0307 a\u0307 E\u0327 e\u0327 O\u0308\u0304 o\u0308\u0304 O\u0303\u0304"⟩,
  ⟨0x22D, 0x233, "o\u0303\u0304 O\u0307 o\u0307 O\u0307\u0304 o\u0307\u0304 Y\u0304 y\u0304"⟩,
  ⟨0x2B0, 0x2B8, "h ɦ j r ɹ ɻ ʁ w y"⟩, ⟨0x2E0, 0x2E4, "ɣ l s x ʕ"⟩, ⟨0x340, 0x341, "\u0300 \u0301"⟩,
  ⟨0x343, 0x344, "\u0313 \u0308\u0301"⟩, ⟨0x374, 0x374, "ʹ"⟩,
  ⟨0x386, 0x38A, "Α\u0301 · Ε\u0301 Η\u0301 Ι\u0301"⟩, ⟨0x38C, 0x38C, "Ο\u0301"⟩,
  ⟨0x38E, 0x390, "Υ\u0301 Ω\u0301 ι\u0308\u0301"⟩,
  ⟨0x3AA, 0x3B0, "Ι\u0308 Υ\u0308 α\u0301 ε\u0301 η\u0301 ι\u0301 υ\u0308\u0301"⟩,
  ⟨0x3CA, 0x3CE, "ι\u0308 υ\u0308 ο\u0301 υ\u0301 ω\u0301"⟩,
  ⟨0x3D0, 0x3D6, "β θ Υ Υ\u0301 Υ\u0308 φ π"⟩, ⟨0x3F0, 0x3F2, "κ ρ ς"⟩, ⟨0x3F4, 0x3F5, "Θ ε"⟩,
  ⟨0x3F9, 0x3F9, "Σ"⟩, ⟨0x400, 0x401, "Е\u0300 Е\u0308"⟩, ⟨0x403, 0x403, "Г\u0301"⟩,
  ⟨0x407, 0x407, "І\u0308"⟩, ⟨0x40C, 0x40E, "К\u0301 И\u0300 У\u0306"⟩, ⟨0x419, 0x419, "И\u0306"⟩,
  ⟨0x439, 0x439, "и\u0306"⟩, ⟨0x450, 0x451, "е\u0300 е\u0308"⟩, ⟨0x453, 0x453, "г\u0301"⟩,
  ⟨0x457, 0x457, "і\u0308"⟩, ⟨0x45C, 0x45E, "к\u0301 и\u0300 у\u0306"⟩,
  ⟨0x476, 0x477, "Ѵ\u030f ѵ\u030f"⟩, ⟨0x4C1, 0x4C2, "Ж\u0306 ж\u0306"⟩,
  ⟨0x4D0, 0x4D3, "А\u0306 а\u0306 А\u0308 а\u0308"⟩, ⟨0x4D6, 0x4D7, "Е\u0306 е\u0306"⟩,
  ⟨0x4DA, 0x4DF, "Ә\u0308 ә\u0308 Ж\u0308 ж\u0308 З\u0308 з\u0308"⟩,
  ⟨0x4E2, 0x4E7, "И\u0304 и\u0304 И\u0308 и\u0308 О\u0308 о\u0308"⟩,
  ⟨0x4EA, 0x4F2, "Ө\u0308 ө\u0308 Э\u0308 э\u0308 У\u0304 у\u0304 У\u0308 у\u0308 У\u030b"⟩,
  ⟨0x4F3, 0x4F5, "у\u030b Ч\u0308 ч\u0308"⟩, ⟨0x4F8, 0x4F9, "Ы\u0308 ы\u0308"⟩,
  ⟨0x587, 0x587, "եւ"⟩,
  ⟨0x622, 0x626, "\u0627\u0653 \u0627\u0654 \u0648\u0654 \u0627\u0655 \u064a\u0654"⟩,
  ⟨0x675, 0x678, "\u0627\u0674 \u0648\u0674 \u06c7\u0674 \u064a\u0674"⟩,
  ⟨0x6C0, 0x6C0, "\u06d5\u0654"⟩, ⟨0x6C2, 0x6C2, "\u06c1\u0654"⟩, ⟨0x6D3, 0x6D3, "\u06d2\u0654"⟩,
  ⟨0x929, 0x929, "न\u093c"⟩, ⟨0x931, 0x931, "र\u093c"⟩, ⟨0x934, 0x934, "ळ\u093c"⟩,
  ⟨0x958, 0x95F, "क\u093c ख\u093c ग\u093c ज\u093c ड\u093c ढ\u093c फ\u093c य\u093c"⟩,
  ⟨0x9CB, 0x9CC, "\u09c7\u09be \u09c7\u09d7"⟩, ⟨0x9DC, 0x9DD, "ড\u09bc ঢ\u09bc"⟩,
  ⟨0x9DF, 0x9DF, "য\u09bc"⟩, ⟨0xA33, 0xA33, "ਲ\u0a3c"⟩, ⟨0xA36, 0xA36, "ਸ\u0a3c"⟩,
  ⟨0xA59, 0xA5B, "ਖ\u0a3c ਗ\u0a3c ਜ\u0a3c"⟩, ⟨0xA5E, 0xA5E, "ਫ\u0a3c"⟩,
  ⟨0xB48, 0xB48, "\u0b47\u0b56"⟩, ⟨0xB4B, 0xB4C, "\u0b47\u0b3e \u0b47\u0b57"⟩,
  ⟨0xB5C, 0xB5D, "ଡ\u0b3c ଢ\u0b3c"⟩, ⟨0xB94, 0xB94, "ஒ\u0bd7"⟩,
  ⟨0xBCA, 0xBCC, "\u0bc6\u0bbe \u0bc7\u0bbe \u0bc6\u0bd7"⟩, ⟨0xC48, 0xC48, "\u0c46\u0c56"⟩,
  ⟨0xCC0, 0xCC0, "\u0cbf\u0cd5"⟩, ⟨0xCC7, 0xCC8, "\u0cc6\u0cd5 \u0cc6\u0cd6"⟩,
  ⟨0xCCA, 0xCCB, "\u0cc6\u0cc2 \u0cc6\u0cc2\u0cd5"⟩,
  ⟨0xD4A, 0xD4C, "\u0d46\u0d3e \u0d47\u0d3e \u0d46\u0d57"⟩, ⟨0xDDA, 0xDDA, "\u0dd9\u0dca"⟩,
  ⟨0xDDC, 0xDDE, "\u0dd9\u0dcf \u0dd9\u0dcf\u0dca \u0dd9\u0ddf"⟩, ⟨0xE33, 0xE33, "\u0e4dา"⟩,
  ⟨0xEB3, 0xEB3, "\u0ecdາ"⟩, ⟨0xEDC, 0xEDD, "ຫນ ຫມ"⟩, ⟨0xF43, 0xF43, "ག\u0fb7"⟩,
  ⟨0xF4D, 0xF4D, "ཌ\u0fb7"⟩, ⟨0xF52, 0xF52, "ད\u0fb7"⟩, ⟨0xF57, 0xF57, "བ\u0fb7"⟩,
  ⟨0xF5C, 0xF5C, "ཛ\u0fb7"⟩, ⟨0xF69, 0xF69, "ཀ\u0fb5"⟩, ⟨0xF73, 0xF73, "\u0f71\u0f72"⟩,
  ⟨0xF75, 0xF79, "\u0f71\u0f74 \u0fb2\u0f80 \u0fb2\u0f71\u0f80 \u0fb3\u0f80 \u0fb3\u0f71\u0f80"⟩,
  ⟨0xF81, 0xF81, "\u0f71\u0f80"⟩, ⟨0xF93, 0xF93, "\u0f92\u0fb7"⟩, ⟨0xF9D, 0xF9D, "\u0f9c\u0fb7"⟩,
  ⟨0xFA2, 0xFA2, "\u0fa1\u0fb7"⟩, ⟨0xFA7, 0xFA7, "\u0fa6\u0fb7"⟩, ⟨0xFAC, 0xFAC, "\u0fab\u0fb7"⟩,
  ⟨0xFB9, 0xFB9, "\u0f90\u0fb5"⟩, ⟨0x1026, 0x1026, "ဥ\u102e"⟩, ⟨0x10FC, 0x10FC, "ნ"⟩,
  ⟨0x1B06, 0x1B06, "ᬅ\u1b35"⟩, ⟨0x1B08, 0x1B08, "ᬇ\u1b35"⟩, ⟨0x1B0A, 0x1B0A, "ᬉ\u1b35"⟩,
  ⟨0x1B0C, 0x1B0C, "ᬋ\u1b35"⟩, ⟨0x1B0E, 0x1B0E, "ᬍ\u1b35"⟩, ⟨0x1B12, 0x1B12, "ᬑ\u1b35"⟩,
  ⟨0x1B3B, 0x1B3B, "\u1b3a\u1b35"⟩, ⟨0x1B3D, 0x1B3D, "\u1b3c\u1b35"⟩,
  ⟨0x1B40, 0x1B41, "\u1b3e\u1b35 \u1b3f\u1b35"⟩, ⟨0x1B43, 0x1B43, "\u1b42\u1b35"⟩,
  ⟨0x1D2C, 0x1D2E, "A Æ B"⟩, ⟨0x1D30, 0x1D3A, "D E Ǝ G H I J K L M N"⟩,
  ⟨0x1D3C, 0x1D4D, "O Ȣ P R T U W a ɐ ɑ ᴂ b d e ə ɛ ɜ g"⟩,
  ⟨0x1D4F, 0x1D6A, "k m ŋ o ɔ ᴖ ᴗ p t u ᴝ ɯ v ᴥ β γ δ φ χ i r u v β γ ρ φ χ"⟩,
  ⟨0x1D78, 0x1D78, "н"⟩,
  ⟨0x1D9B, 0x1DBF, "ɒ c ɕ ð ɜ f ɟ ɡ ɥ ɨ ɩ ɪ ᵻ ʝ ɭ ᶅ ʟ ɱ ɰ ɲ ɳ ɴ ɵ ɸ ʂ ʃ ƫ ʉ ʊ ᴜ ʋ ʌ z ʐ ʑ ʒ θ"⟩,
  ⟨0x1E00, 0x1E07, "A\u0325 a\u0325 B\u0307 b\u0307 B\u0323 b\u0323 B\u0331 b\u0331"⟩,
  ⟨0x1E08, 0x1E0F, "C\u0327\u0301 c\u0327\u0301 D\u0307 d\u0307 D\u0323 d\u0323 D\u0331 d\u0331"⟩,
  ⟨0x1E10, 0x1E16, "D\u0327 d\u0327 D\u032d d\u032d E\u0304\u0300 e\u0304\u0300 E\u0304\u0301"⟩,
  ⟨0x1E17, 0x1E1D, "e\u0304\u0301 E\u032d e\u032d E\u0330 e\u0330 E\u0327\u0306 e\u0327\u0306"⟩,
  ⟨0x1E1E, 0x1E26, "F\u0307 f\u0307 G\u0304 g\u0304 H\u0307 h\u0307 H\u0323 h\u0323 H\u0308"⟩,
  ⟨0x1E27, 0x1E2E, "h\u0308 H\u0327 h\u0327 H\u032e h\u032e I\u0330 i\u0330 I\u0308\u0301"⟩,
  ⟨0x1E2F, 0x1E36, "i\u0308\u0301 K\u0301 k\u0301 K\u0323 k\u0323 K\u0331 k\u0331 L\u0323"⟩,
  ⟨0x1E37, 0x1E3E, "l\u0323 L\u0323\u0304 l\u0323\u0304 L\u0331 l\u0331 L\u032d l\u032d M\u0301"⟩,
  ⟨0x1E3F, 0x1E47, "m\u0301 M\u0307 m\u0307 M\u0323 m\u0323 N\u0307 n\u0307 N\u0323 n\u0323"⟩,
  ⟨0x1E48, 0x1E4E, "N\u0331 n\u0331 N\u032d n\u032d O\u0303\u0301 o\u0303\u0301 O\u0303\u0308"⟩,
  ⟨0x1E4F, 0x1E53, "o\u0303\u0308 O\u0304\u0300 o\u0304\u0300 O\u0304\u0301 o\u0304\u0301"⟩,
  ⟨0x1E54, 0x1E5B, "P\u0301 p\u0301 P\u0307 p\u0307 R\u0307 r\u0307 R\u0323 r\u0323"⟩,
  ⟨0x1E5C, 0x1E63, "R\u0323\u0304 r\u0323\u0304 R\u0331 r\u0331 S\u0307 s\u0307 S\u0323 s\u0323"⟩,
  ⟨0x1E64, 0x1E68, "S\u0301\u0307 s\u0301\u0307 S\u030c\u0307 s\u030c\u0307 S\u0323\u0307"⟩,
  ⟨0x1E69, 0x1E70, "s\u0323\u0307 T\u0307 t\u0307 T\u0323 t\u0323 T\u0331 t\u0331 T\u032d"⟩,
  ⟨0x1E71, 0x1E78, "t\u032d U\u0324 u\u0324 U\u0330 u\u0330 U\u032d u\u032d U\u0303\u0301"⟩,
  ⟨0x1E79, 0x1E7F, "u\u0303\u0301 U\u0304\u0308 u\u0304\u0308 V\u0303 v\u0303 V\u0323 v\u0323"⟩,
  ⟨0x1E80, 0x1E88, "W\u0300 w\u0300 W\u0301 w\u0301 W\u0308 w\u0308 W\u0307 w\u0307 W\u0323"⟩,
  ⟨0x1E89, 0x1E91, "w\u0323 X\u0307 x\u0307 X\u0308 x\u0308 Y\u0307 y\u0307 Z\u0302 z\u0302"⟩,
  ⟨0x1E92, 0x1E9B, "Z\u0323 z\u0323 Z\u0331 z\u0331 h\u0331 t\u0308 w\u030a y\u030a aʾ s\u0307"⟩,
  ⟨0x1EA0, 0x1EA6, "A\u0323 a\u0323 A\u0309 a\u0309 A\u0302\u0301 a\u0302\u0301 A\u0302\u0300"⟩,
  ⟨0x1EA7, 0x1EAB, "a\u0302\u0300 A\u0302\u0309 a\u0302\u0309 A\u0302\u0303 a\u0302\u0303"⟩,
  ⟨0x1EAC, 0x1EB0, "A\u0323\u0302 a\u0323\u0302 A\u0306\u0301 a\u0306\u0301 A\u0306\u0300"⟩,
  ⟨0x1EB1, 0x1EB5, "a\u0306\u0300 A\u0306\u0309 a\u0306\u0309 A\u0306\u0303 a\u0306\u0303"⟩,
  ⟨0x1EB6, 0x1EBD, "A\u0323\u0306 a\u0323\u0306 E\u0323 e\u0323 E\u0309 e\u0309 E\u0303 e\u0303"⟩,
  ⟨0x1EBE, 0x1EC2, "E\u0302\u0301 e\u0302\u0301 E\u0302\u0300 e\u0302\u0300 E\u0302\u0309"⟩,
  ⟨0x1EC3, 0x1EC7, "e\u0302\u0309 E\u0302\u0303 e\u0302\u0303 E\u0323\u0302 e\u0323\u0302"⟩,
  ⟨0x1EC8, 0x1ECF, "I\u0309 i\u0309 I\u0323 i\u0323 O\u0323 o\u0323 O\u0309 o\u0309"⟩,
  ⟨0x1ED0, 0x1ED4, "O\u0302\u0301 o\u0302\u0301 O\u0302\u0300 o\u0302\u0300 O\u0302\u0309"⟩,
  ⟨0x1ED5, 0x1ED9, "o\u0302\u0309 O\u0302\u0303 o\u0302\u0303 O\u0323\u0302 o\u0323\u0302"⟩,
  ⟨0x1EDA, 0x1EDE, "O\u031b\u0301 o\u031b\u0301 O\u031b\u0300 o\u031b\u0300 O\u031b\u0309"⟩,
  ⟨0x1EDF, 0x1EE3, "o\u031b\u0309 O\u031b\u0303 o\u031b\u0303 O\u031b\u0323 o\u031b\u0323"⟩,
  ⟨0x1EE4, 0x1EEA, "U\u0323 u\u0323 U\u0309 u\u0309 U\u031b\u0301 u\u031b\u0301 U\u031b\u0300"⟩,
  ⟨0x1EEB, 0x1EEF, "u\u031b\u0300 U\u031b\u0309 u\u031b\u0309 U\u031b\u0303 u\u031b\u0303"⟩,
  ⟨0x1EF0, 0x1EF7, "U\u031b\u0323 u\u031b\u0323 Y\u0300 y\u0300 Y\u0323 y\u0323 Y\u0309 y\u0309"⟩,
  ⟨0x1EF8, 0x1EF9, "Y\u0303 y\u0303"⟩,
  ⟨0x1F00, 0x1F05, "α\u0313 α\u0314 α\u0313\u0300 α\u0314\u0300 α\u0313\u0301 α\u0314\u0301"⟩,
  ⟨0x1F06, 0x1F0B, "α\u0313\u0342 α\u0314\u0342 Α\u0313 Α\u0314 Α\u0313\u0300 Α\u0314\u0300"⟩,
  ⟨0x1F0C, 0x1F11, "Α\u0313\u0301 Α\u0314\u0301 Α\u0313\u0342 Α\u0314\u0342 ε\u0313 ε\u0314"⟩,
  ⟨0x1F12, 0x1F15, "ε\u0313\u0300 ε\u0314\u0300 ε\u0313\u0301 ε\u0314\u0301"⟩,
  ⟨0x1F18, 0x1F1D, "Ε\u0313 Ε\u0314 Ε\u0313\u0300 Ε\u0314\u0300 Ε\u0313\u0301 Ε\u0314\u0301"⟩,
  ⟨0x1F20, 0x1F25, "η\u0313 η\u0314 η\u0313\u0300 η\u0314\u0300 η\u0313\u0301 η\u0314\u0301"⟩,
  ⟨0x1F26, 0x1F2B, "η\u0313\u0342 η\u0314\u0342 Η\u0313 Η\u0314 Η\u0313\u0300 Η\u0314\u0300"⟩,
  ⟨0x1F2C, 0x1F31, "Η\u0313\u0301 Η\u0314\u0301 Η\u0313\u0342 Η\u0314\u0342 ι\u0313 ι\u0314"⟩,
  ⟨0x1F32, 0x1F36, "ι\u0313\u0300 ι\u0314\u0300 ι\u0313\u0301 ι\u0314\u0301 ι\u0313\u0342"⟩,
  ⟨0x1F37, 0x1F3C, "ι\u0314\u0342 Ι\u0313 Ι\u0314 Ι\u0313\u0300 Ι\u0314\u0300 Ι\u0313\u0301"⟩,
  ⟨0x1F3D, 0x1F42, "Ι\u0314\u0301 Ι\u0313\u0342 Ι\u0314\u0342 ο\u0313 ο\u0314 ο\u0313\u0300"⟩,
  ⟨0x1F43, 0x1F45, "ο\u0314\u0300 ο\u0313\u0301 ο\u0314\u0301"⟩,
  ⟨0x1F48, 0x1F4D, "Ο\u0313 Ο\u0314 Ο\u0313\u0300 Ο\u0314\u0300 Ο\u0313\u0301 Ο\u0314\u0301"⟩,
  ⟨0x1F50, 0x1F55, "υ\u0313 υ\u0314 υ\u0313\u0300 υ\u0314\u0300 υ\u0313\u0301 υ\u0314\u0301"⟩,
  ⟨0x1F56, 0x1F57, "υ\u0313\u0342 υ\u0314\u0342"⟩, ⟨0x1F59, 0x1F59, "Υ\u0314"⟩,
  ⟨0x1F5B, 0x1F5B, "Υ\u0314\u0300"⟩, ⟨0x1F5D, 0x1F5D, "Υ\u0314\u0301"⟩,
  ⟨0x1F5F, 0x1F64, "Υ\u0314\u0342 ω\u0313 ω\u0314 ω\u0313\u0300 ω\u0314\u0300 ω\u0313\u0301"⟩,
  ⟨0x1F65, 0x1F6A, "ω\u0314\u0301 ω\u0313\u0342 ω\u0314\u0342 Ω\u0313 Ω\u0314 Ω\u0313\u0300"⟩,
  ⟨0x1F6B, 0x1F6F, "Ω\u0314\u0300 Ω\u0313\u0301 Ω\u0314\u0301 Ω\u0313\u0342 Ω\u0314\u0342"⟩,
  ⟨0x1F70, 0x1F78, "α\u0300 α\u0301 ε\u0300 ε\u0301 η\u0300 η\u0301 ι\u0300 ι\u0301 ο\u0300"⟩,
  ⟨0x1F79, 0x1F7D, "ο\u0301 υ\u0300 υ\u0301 ω\u0300 ω\u0301"⟩,
  ⟨0x1F80, 0x1F83, "α\u0313\u0345 α\u0314\u0345 α\u0313\u0300\u0345 α\u0314\u0300\u0345"⟩,
  ⟨0x1F84, 0x1F86, "α\u0313\u0301\u0345 α\u0314\u0301\u0345 α\u0313\u0342\u0345"⟩,
  ⟨0x1F87, 0x1F8A, "α\u0314\u0342\u0345 Α\u0313\u0345 Α\u0314\u0345 Α\u0313\u0300\u0345"⟩,
  ⟨0x1F8B, 0x1F8D, "Α\u0314\u0300\u0345 Α\u0313\u0301\u0345 Α\u0314\u0301\u0345"⟩,
  ⟨0x1F8E, 0x1F91, "Α\u0313\u0342\u0345 Α\u0314\u0342\u0345 η\u0313\u0345 η\u0314\u0345"⟩,
  ⟨0x1F92, 0x1F94, "η\u0313\u0300\u0345 η\u0314\u0300\u0345 η\u0313\u0301\u0345"⟩,
  ⟨0x1F95, 0x1F98, "η\u0314\u0301\u0345 η\u0313\u0342\u0345 η\u0314\u0342\u0345 Η\u0313\u0345"⟩,
  ⟨0x1F99, 0x1F9C, "Η\u0314\u0345 Η\u0313\u0300\u0345 Η\u0314\u0300\u0345 Η\u0313\u0301\u0345"⟩,
  ⟨0x1F9D, 0x1FA0, "Η\u0314\u0301\u0345 Η\u0313\u0342\u0345 Η\u0314\u0342\u0345 ω\u0313\u0345"⟩,
  ⟨0x1FA1, 0x1FA4, "ω\u0314\u0345 ω\u0313\u0300\u0345 ω\u0314\u0300\u0345 ω\u0313\u0301\u0345"⟩,
  ⟨0x1FA5, 0x1FA8, "ω\u0314\u0301\u0345 ω\u0313\u0342\u0345 ω\u0314\u0342\u0345 Ω\u0313\u0345"⟩,
  ⟨0x1FA9, 0x1FAC, "Ω\u0314\u0345 Ω\u0313\u0300\u0345 Ω\u0314\u0300\u0345 Ω\u0313\u0301\u0345"⟩,
  ⟨0x1FAD, 0x1FB1, "Ω\u0314\u0301\u0345 Ω\u0313\u0342\u0345 Ω\u0314\u0342\u0345 α\u0306 α\u0304"⟩,
  ⟨0x1FB2, 0x1FB4, "α\u0300\u0345 α\u0345 α\u0301\u0345"⟩,
  ⟨0x1FB6, 0x1FBC, "α\u0342 α\u0342\u0345 Α\u0306 Α\u0304 Α\u0300 Α\u0301 Α\u0345"⟩,
  ⟨0x1FBE, 0x1FBE, "ι"⟩, ⟨0x1FC2, 0x1FC4, "η\u0300\u0345 η\u0345 η\u0301\u0345"⟩,
  ⟨0x1FC6, 0x1FCC, "η\u0342 η\u0342\u0345 Ε\u0300 Ε\u0301 Η\u0300 Η\u0301 Η\u0345"⟩,
  ⟨0x1FD0, 0x1FD3, "ι\u0306 ι\u0304 ι\u0308\u0300 ι\u0308\u0301"⟩,
  ⟨0x1FD6, 0x1FDB, "ι\u0342 ι\u0308\u0342 Ι\u0306 Ι\u0304 Ι\u0300 Ι\u0301"⟩,
  ⟨0x1FE0, 0x1FE6, "υ\u0306 υ\u0304 υ\u0308\u0300 υ\u0308\u0301 ρ\u0313 ρ\u0314 υ\u0342"⟩,
  ⟨0x1FE7, 0x1FEC, "υ\u0308\u0342 Υ\u0306 Υ\u0304 Υ\u0300 Υ\u0301 Ρ\u0314"⟩,
  ⟨0x1FF2, 0x1FF4, "ω\u0300\u0345 ω\u0345 ω\u0301\u0345"⟩,
  ⟨0x1FF6, 0x1FFC, "ω\u0342 ω\u0342\u0345 Ο\u0300 Ο\u0301 Ω\u0300 Ω\u0301 Ω\u0345"⟩,
  ⟨0x2071, 0x2071, "i"⟩, ⟨0x207F, 0x207F, "n"⟩, ⟨0x2090, 0x209C, "a e o x ə h k l m n p s t"⟩,
  ⟨0x2102, 0x2102, "C"⟩, ⟨0x2107, 0x2107, "Ɛ"⟩, ⟨0x210A, 0x2113, "g H H H h ħ I I L l"⟩,
  ⟨0x2115, 0x2115, "N"⟩, ⟨0x2119, 0x211D, "P Q R R R"⟩, ⟨0x2124, 0x2124, "Z"⟩,
  ⟨0x2126, 0x2126, "Ω"⟩, ⟨0x2128, 0x2128, "Z"⟩, ⟨0x212A, 0x212D, "K A\u030a B C"⟩,
  ⟨0x212F, 0x2131, "e E F"⟩, ⟨0x2133, 0x2139, "M o \u05d0 \u05d1 \u05d2 \u05d3 i"⟩,
  ⟨0x213C, 0x213F, "π γ Γ Π"⟩, ⟨0x2145, 0x2149, "D d e i j"⟩,
  ⟨0x2160, 0x2178, "I II III IV V VI VII VIII IX X XI XII L C D M i ii iii iv v vi vii viii ix"⟩,
  ⟨0x2179, 0x217F, "x xi xii l c d m"⟩, ⟨0x2C7C, 0x2C7D, "j V"⟩, ⟨0x2D6F, 0x2D6F, "ⵡ"⟩,
  ⟨0x3038, 0x303A, "十 卄 卅"⟩, ⟨0x304C, 0x304C, "か\u3099"⟩, ⟨0x304E, 0x304E, "き\u3099"⟩,
  ⟨0x3050, 0x3050, "く\u3099"⟩, ⟨0x3052, 0x3052, "け\u3099"⟩, ⟨0x3054, 0x3054, "こ\u3099"⟩,
  ⟨0x3056, 0x3056, "さ\u3099"⟩, ⟨0x3058, 0x3058, "し\u3099"⟩, ⟨0x305A, 0x305A, "す\u3099"⟩,
  ⟨0x305C, 0x305C, "せ\u3099"⟩, ⟨0x305E, 0x305E, "そ\u3099"⟩, ⟨0x3060, 0x3060, "た\u3099"⟩,
  ⟨0x3062, 0x3062, "ち\u3099"⟩, ⟨0x3065, 0x3065, "つ\u3099"⟩, ⟨0x3067, 0x3067, "て\u3099"⟩,
  ⟨0x3069, 0x3069, "と\u3099"⟩, ⟨0x3070, 0x3071, "は\u3099 は\u309a"⟩,
  ⟨0x3073, 0x3074, "ひ\u3099 ひ\u309a"⟩, ⟨0x3076, 0x3077, "ふ\u3099 ふ\u309a"⟩,
  ⟨0x3079, 0x307A, "へ\u3099 へ\u309a"⟩, ⟨0x307C, 0x307D, "ほ\u3099 ほ\u309a"⟩,
  ⟨0x3094, 0x3094, "う\u3099"⟩, ⟨0x309E, 0x309F, "ゝ\u3099 より"⟩, ⟨0x30AC, 0x30AC, "カ\u3099"⟩,
  ⟨0x30AE, 0x30AE, "キ\u3099"⟩, ⟨0x30B0, 0x30B0, "ク\u3099"⟩, ⟨0x30B2, 0x30B2, "ケ\u3099"⟩,
  ⟨0x30B4, 0x30B4, "コ\u3099"⟩, ⟨0x30B6, 0x30B6, "サ\u3099"⟩, ⟨0x30B8, 0x30B8, "シ\u3099"⟩,
  ⟨0x30BA, 0x30BA, "ス\u3099"⟩, ⟨0x30BC, 0x30BC, "セ\u3099"⟩, ⟨0x30BE, 0x30BE, "ソ\u3099"⟩,
  ⟨0x30C0, 0x30C0, "タ\u3099"⟩, ⟨0x30C2, 0x30C2, "チ\u3099"⟩, ⟨0x30C5, 0x30C5, "ツ\u3099"⟩,
  ⟨0x30C7, 0x30C7, "テ\u3099"⟩, ⟨0x30C9, 0x30C9, "ト\u3099"⟩, ⟨0x30D0, 0x30D1, "ハ\u3099 ハ\u309a"⟩,
  ⟨0x30D3, 0x30D4, "ヒ\u3099 ヒ\u309a"⟩, ⟨0x30D6, 0x30D7, "フ\u3099 フ\u309a"⟩,
  ⟨0x30D9, 0x30DA, "ヘ\u3099 ヘ\u309a"⟩, ⟨0x30DC, 0x30DD, "ホ\u3099 ホ\u309a"⟩,
  ⟨0x30F4, 0x30F4, "ウ\u3099"⟩, ⟨0x30F7, 0x30FA, "ワ\u3099 ヰ\u3099 ヱ\u3099 ヲ\u3099"⟩,
  ⟨0x30FE, 0x30FF, "ヽ\u3099 コト"⟩,
  ⟨0x3131, 0x3156, "ᄀ ᄁ ᆪ ᄂ ᆬ ᆭ ᄃ ᄄ ᄅ ᆰ ᆱ ᆲ ᆳ ᆴ ᆵ ᄚ ᄆ ᄇ ᄈ ᄡ ᄉ ᄊ ᄋ ᄌ ᄍ ᄎ ᄏ ᄐ ᄑ ᄒ ᅡ ᅢ ᅣ ᅤ ᅥ ᅦ ᅧ ᅨ"⟩,
  ⟨0x3157, 0x317C, "ᅩ ᅪ ᅫ ᅬ ᅭ ᅮ ᅯ ᅰ ᅱ ᅲ ᅳ ᅴ ᅵ ᅠ ᄔ ᄕ ᇇ ᇈ ᇌ ᇎ ᇓ ᇗ ᇙ ᄜ ᇝ ᇟ ᄝ ᄞ ᄠ ᄢ ᄣ ᄧ ᄩ ᄫ ᄬ ᄭ ᄮ ᄯ"⟩,
  ⟨0x317D, 0x318E, "ᄲ ᄶ ᅀ ᅇ ᅌ ᇱ ᇲ ᅗ ᅘ ᅙ ᆄ ᆅ ᆈ ᆑ ᆒ ᆔ ᆞ ᆡ"⟩, ⟨0xA69C, 0xA69D, "ъ ь"⟩,
  ⟨0xA770, 0xA770, "ꝯ"⟩, ⟨0xA7F2, 0xA7F4, "C F Q"⟩, ⟨0xA7F8, 0xA7F9, "Ħ œ"⟩,
  ⟨0xAB5C, 0xAB5F, "ꜧ ꬷ ɫ ꭒ"⟩, ⟨0xAB69, 0xAB69, "ʍ"⟩,
  ⟨0xF900, 0xF925, "豈 更 車 賈 滑 串 句 龜 龜 契 金 喇 奈 懶 癩 羅 蘿 螺 裸 邏 樂 洛 烙 珞 落 酪 駱 亂 卵 欄 爛 蘭 鸞 嵐 濫 藍 襤 拉"⟩,
  ⟨0xF926, 0xF94B, "臘 蠟 廊 朗 浪 狼 郎 來 冷 勞 擄 櫓 爐 盧 老 蘆 虜 路 露 魯 鷺 碌 祿 綠 菉 錄 鹿 論 壟 弄 籠 聾 牢 磊 賂 雷 壘 屢"⟩,
  ⟨0xF94C, 0xF971, "樓 淚 漏 累 縷 陋 勒 肋 凜 凌 稜 綾 菱 陵 讀 拏 樂 諾 丹 寧 怒 率 異 北 磻 便 復 不 泌 數 索 參 塞 省 葉 說 殺 辰"⟩,
  ⟨0xF972, 0xF997, "沈 拾 若 掠 略 亮 兩 凉 梁 糧 良 諒 量 勵 呂 女 廬 旅 濾 礪 閭 驪 麗 黎 力 曆 歷 轢 年 憐 戀 撚 漣 煉 璉 秊 練 聯"⟩,
  ⟨0xF998, 0xF9BD, "輦 蓮 連 鍊 列 劣 咽 烈 裂 說 廉 念 捻 殮 簾 獵 令 囹 寧 嶺 怜 玲 瑩 羚 聆 鈴 零 靈 領 例 禮 醴 隸 惡 了 僚 寮 尿"⟩,
  ⟨0xF9BE, 0xF9E3, "料 樂 燎 療 蓼 遼 龍 暈 阮 劉 杻 柳 流 溜 琉 留 硫 紐 類 六 戮 陸 倫 崙 淪 輪 律 慄 栗 率 隆 利 吏 履 易 李 梨 泥"⟩,
  ⟨0xF9E4, 0xFA09, "理 痢 罹 裏 裡 里 離 匿 溺 吝 燐 璘 藺 隣 鱗 麟 林 淋 臨 立 笠 粒 狀 炙 識 什 茶 刺 切 度 拓 糖 宅 洞 暴 輻 行 降"⟩,
  ⟨0xFA0A, 0xFA0D, "見 廓 兀 嗀"⟩, ⟨0xFA10, 0xFA10, "塚"⟩, ⟨0xFA12, 0xFA12, "晴"⟩,
  ⟨0xFA15, 0xFA1E, "凞 猪 益 礼 神 祥 福 靖 精 羽"⟩, ⟨0xFA20, 0xFA20, "蘒"⟩, ⟨0xFA22, 0xFA22, "諸"⟩,
  ⟨0xFA25, 0xFA26, "逸 都"⟩,
  ⟨0xFA2A, 0xFA4F, "飯 飼 館 鶴 郞 隷 侮 僧 免 勉 勤 卑 喝 嘆 器 塀 墨 層 屮 悔 慨 憎 懲 敏 既 暑 梅 海 渚 漢 煮 爫 琢 碑 社 祉 祈 祐"⟩,
  ⟨0xFA50, 0xFA6D, "祖 祝 禍 禎 穀 突 節 練 縉 繁 署 者 臭 艹 艹 著 褐 視 謁 謹 賓 贈 辶 逸 難 響 頻 恵 𤋮 舘"⟩,
  ⟨0xFA70, 0xFA95, "並 况 全 侀 充 冀 勇 勺 喝 啕 喙 嗢 塚 墳 奄 奔 婢 嬨 廒 廙 彩 徭 惘 慎 愈 憎 慠 懲 戴 揄 搜 摒 敖 晴 朗 望 杖 歹"⟩,
  ⟨0xFA96, 0xFABB, "殺 流 滛 滋 漢 瀞 煮 瞧 爵 犯 猪 瑱 甆 画 瘝 瘟 益 盛 直 睊 着 磌 窱 節 类 絛 練 缾 者 荒 華 蝹 襁 覆 視 調 諸 請"⟩,
  ⟨0xFABC, 0xFAD9, "謁 諾 諭 謹 變 贈 輸 遲 醙 鉶 陼 難 靖 韛 響 頋 頻 鬒 龜 𢡊 𢡄 𣏕 㮝 䀘 䀹 𥉉 𥳐 𧻓 齃 龎"⟩,
  ⟨0xFB00, 0xFB06, "ff fi fl ffi ffl st st"⟩, ⟨0xFB13, 0xFB17, "մն մե մի վն մխ"⟩,
  ⟨0xFB1D, 0xFB1D, "\u05d9\u05b4"⟩,
  ⟨0xFB1F, 0xFB28, "\u05f2\u05b7 \u05e2 \u05d0 \u05d3 \u05d4 \u05db \u05dc \u05dd \u05e8 \u05ea"⟩,
  ⟨0xFB2A, 0xFB2D, "\u05e9\u05c1 \u05e9\u05c2 \u05e9\u05bc\u05c1 \u05e9\u05bc\u05c2"⟩,
  ⟨0xFB2E, 0xFB32, "\u05d0\u05b7 \u05d0\u05b8 \u05d0\u05bc \u05d1\u05bc \u05d2\u05bc"⟩,
  ⟨0xFB33, 0xFB36, "\u05d3\u05bc \u05d4\u05bc \u05d5\u05bc \u05d6\u05bc"⟩,
  ⟨0xFB38, 0xFB3C, "\u05d8\u05bc \u05d9\u05bc \u05da\u05bc \u05db\u05bc \u05dc\u05bc"⟩,
  ⟨0xFB3E, 0xFB3E, "\u05de\u05bc"⟩, ⟨0xFB40, 0xFB41, "\u05e0\u05bc \u05e1\u05bc"⟩,
  ⟨0xFB43, 0xFB44, "\u05e3\u05bc \u05e4\u05bc"⟩,
  ⟨0xFB46, 0xFB4A, "\u05e6\u05bc \u05e7\u05bc \u05e8\u05bc \u05e9\u05bc \u05ea\u05bc"⟩,
  ⟨0xFB4B, 0xFB50, "\u05d5\u05b9 \u05d1\u05bf \u05db\u05bf \u05e4\u05bf \u05d0\u05dc \u0671"⟩,
  ⟨0xFB51, 0xFB5A, "\u0671 \u067b \u067b \u067b \u067b \u067e \u067e \u067e \u067e \u0680"⟩,
  ⟨0xFB5B, 0xFB64, "\u0680 \u0680 \u0680 \u067a \u067a \u067a \u067a \u067f \u067f \u067f"⟩,
  ⟨0xFB65, 0xFB6E, "\u067f \u0679 \u0679 \u0679 \u0679 \u06a4 \u06a4 \u06a4 \u06a4 \u06a6"⟩,
  ⟨0xFB6F, 0xFB78, "\u06a6 \u06a6 \u06a6 \u0684 \u0684 \u0684 \u0684 \u0683 \u0683 \u0683"⟩,
  ⟨0xFB79, 0xFB82, "\u0683 \u0686 \u0686 \u0686 \u0686 \u0687 \u0687 \u0687 \u0687 \u068d"⟩,
  ⟨0xFB83, 0xFB8C, "\u068d \u068c \u068c \u068e \u068e \u0688 \u0688 \u0698 \u0698 \u0691"⟩,
  ⟨0xFB8D, 0xFB96, "\u0691 \u06a9 \u06a9 \u06a9 \u06a9 \u06af \u06af \u06af \u06af \u06b3"⟩,
  ⟨0xFB97, 0xFBA0, "\u06b3 \u06b3 \u06b3 \u06b1 \u06b1 \u06b1 \u06b1 \u06ba \u06ba \u06bb"⟩,
  ⟨0xFBA1, 0xFBA9, "\u06bb \u06bb \u06bb \u06d5\u0654 \u06d5\u0654 \u06c1 \u06c1 \u06c1 \u06c1"⟩,
  ⟨0xFBAA, 0xFBB1, "\u06be \u06be \u06be \u06be \u06d2 \u06d2 \u06d2\u0654 \u06d2\u0654"⟩,
  ⟨0xFBD3, 0xFBDC, "\u06ad \u06ad \u06ad \u06ad \u06c7 \u06c7 \u06c6 \u06c6 \u06c8 \u06c8"⟩,
  ⟨0xFBDD, 0xFBE6, "\u06c7\u0674 \u06cb \u06cb \u06c5 \u06c5 \u06c9 \u06c9 \u06d0 \u06d0 \u06d0"⟩,
  ⟨0xFBE7, 0xFBEB, "\u06d0 \u0649 \u0649 \u064a\u0654\u0627 \u064a\u0654\u0627"⟩,
  ⟨0xFBEC, 0xFBEF, "\u064a\u0654\u06d5 \u064a\u0654\u06d5 \u064a\u0654\u0648 \u064a\u0654\u0648"⟩,
  ⟨0xFBF0, 0xFBF3, "\u064a\u0654\u06c7 \u064a\u0654\u06c7 \u064a\u0654\u06c6 \u064a\u0654\u06c6"⟩,
  ⟨0xFBF4, 0xFBF7, "\u064a\u0654\u06c8 \u064a\u0654\u06c8 \u064a\u0654\u06d0 \u064a\u0654\u06d0"⟩,
  ⟨0xFBF8, 0xFBFB, "\u064a\u0654\u06d0 \u064a\u0654\u0649 \u064a\u0654\u0649 \u064a\u0654\u0649"⟩,
  ⟨0xFBFC, 0xFC01, "\u06cc \u06cc \u06cc \u06cc \u064a\u0654\u062c \u064a\u0654\u062d"⟩,
  ⟨0xFC02, 0xFC05, "\u064a\u0654\u0645 \u064a\u0654\u0649 \u064a\u0654\u064a \u0628\u062c"⟩,
  ⟨0xFC06, 0xFC0A, "\u0628\u062d \u0628\u062e \u0628\u0645 \u0628\u0649 \u0628\u064a"⟩,
  ⟨0xFC0B, 0xFC0F, "\u062a\u062c \u062a\u062d \u062a\u062e \u062a\u0645 \u062a\u0649"⟩,
  ⟨0xFC10, 0xFC14, "\u062a\u064a \u062b\u062c \u062b\u0645 \u062b\u0649 \u062b\u064a"⟩,
  ⟨0xFC15, 0xFC19, "\u062c\u062d \u062c\u0645 \u062d\u062c \u062d\u0645 \u062e\u062c"⟩,
  ⟨0xFC1A, 0xFC1E, "\u062e\u062d \u062e\u0645 \u0633\u062c \u0633\u062d \u0633\u062e"⟩,
  ⟨0xFC1F, 0xFC23, "\u0633\u0645 \u0635\u062d \u0635\u0645 \u0636\u062c \u0636\u062d"⟩,
  ⟨0xFC24, 0xFC28, "\u0636\u062e \u0636\u0645 \u0637\u062d \u0637\u0645 \u0638\u0645"⟩,
  ⟨0xFC29, 0xFC2D, "\u0639\u062c \u0639\u0645 \u063a\u062c \u063a\u0645 \u0641\u062c"⟩,
  ⟨0xFC2E, 0xFC32, "\u0641\u062d \u0641\u062e \u0641\u0645 \u0641\u0649 \u0641\u064a"⟩,
  ⟨0xFC33, 0xFC37, "\u0642\u062d \u0642\u0645 \u0642\u0649 \u0642\u064a \u0643\u0627"⟩,
  ⟨0xFC38, 0xFC3C, "\u0643\u062c \u0643\u062d \u0643\u062e \u0643\u0644 \u0643\u0645"⟩,
  ⟨0xFC3D, 0xFC41, "\u0643\u0649 \u0643\u064a \u0644\u062c \u0644\u062d \u0644\u062e"⟩,
  ⟨0xFC42, 0xFC46, "\u0644\u0645 \u0644\u0649 \u0644\u064a \u0645\u062c \u0645\u062d"⟩,
  ⟨0xFC47, 0xFC4B, "\u0645\u062e \u0645\u0645 \u0645\u0649 \u0645\u064a \u0646\u062c"⟩,
  ⟨0xFC4C, 0xFC50, "\u0646\u062d \u0646\u062e \u0646\u0645 \u0646\u0649 \u0646\u064a"⟩,
  ⟨0xFC51, 0xFC55, "\u0647\u062c \u0647\u0645 \u0647\u0649 \u0647\u064a \u064a\u062c"⟩,
  ⟨0xFC56, 0xFC5A, "\u064a\u062d \u064a\u062e \u064a\u0645 \u064a\u0649 \u064a\u064a"⟩,
  ⟨0xFC5B, 0xFC5D, "\u0630\u0670 \u0631\u0670 \u0649\u0670"⟩,
  ⟨0xFC64, 0xFC67, "\u064a\u0654\u0631 \u064a\u0654\u0632 \u064a\u0654\u0645 \u064a\u0654\u0646"⟩,
  ⟨0xFC68, 0xFC6B, "\u064a\u0654\u0649 \u064a\u0654\u064a \u0628\u0631 \u0628\u0632"⟩,
  ⟨0xFC6C, 0xFC70, "\u0628\u0645 \u0628\u0646 \u0628\u0649 \u0628\u064a \u062a\u0631"⟩,
  ⟨0xFC71, 0xFC75, "\u062a\u0632 \u062a\u0645 \u062a\u0646 \u062a\u0649 \u062a\u064a"⟩,
  ⟨0xFC76, 0xFC7A, "\u062b\u0631 \u062b\u0632 \u062b\u0645 \u062b\u0646 \u062b\u0649"⟩,
  ⟨0xFC7B, 0xFC7F, "\u062b\u064a \u0641\u0649 \u0641\u064a \u0642\u0649 \u0642\u064a"⟩,
  ⟨0xFC80, 0xFC84, "\u0643\u0627 \u0643\u0644 \u0643\u0645 \u0643\u0649 \u0643\u064a"⟩,
  ⟨0xFC85, 0xFC89, "\u0644\u0645 \u0644\u0649 \u0644\u064a \u0645\u0627 \u0645\u0645"⟩,
  ⟨0xFC8A, 0xFC8E, "\u0646\u0631 \u0646\u0632 \u0646\u0645 \u0646\u0646 \u0646\u0649"⟩,
  ⟨0xFC8F, 0xFC93, "\u0646\u064a \u0649\u0670 \u064a\u0631 \u064a\u0632 \u064a\u0645"⟩,
  ⟨0xFC94, 0xFC97, "\u064a\u0646 \u064a\u0649 \u064a\u064a \u064a\u0654\u062c"⟩,
  ⟨0xFC98, 0xFC9B, "\u064a\u0654\u062d \u064a\u0654\u062e \u064a\u0654\u0645 \u064a\u0654\u0647"⟩,
  ⟨0xFC9C, 0xFCA0, "\u0628\u062c \u0628\u062d \u0628\u062e \u0628\u0645 \u0628\u0647"⟩,
  ⟨0xFCA1, 0xFCA5, "\u062a\u062c \u062a\u062d \u062a\u062e \u062a\u0645 \u062a\u0647"⟩,
  ⟨0xFCA6, 0xFCAA, "\u062b\u0645 \u062c\u062d \u062c\u0645 \u062d\u062c \u062d\u0645"⟩,
  ⟨0xFCAB, 0xFCAF, "\u062e\u062c \u062e\u0645 \u0633\u062c \u0633\u062d \u0633\u062e"⟩,
  ⟨0xFCB0, 0xFCB4, "\u0633\u0645 \u0635\u062d \u0635\u062e \u0635\u0645 \u0636\u062c"⟩,
  ⟨0xFCB5, 0xFCB9, "\u0636\u062d \u0636\u062e \u0636\u0645 \u0637\u062d \u0638\u0645"⟩,
  ⟨0xFCBA, 0xFCBE, "\u0639\u062c \u0639\u0645 \u063a\u062c \u063a\u0645 \u0641\u062c"⟩,
  ⟨0xFCBF, 0xFCC3, "\u0641\u062d \u0641\u062e \u0641\u0645 \u0642\u062d \u0642\u0645"⟩,
  ⟨0xFCC4, 0xFCC8, "\u0643\u062c \u0643\u062d \u0643\u062e \u0643\u0644 \u0643\u0645"⟩,
  ⟨0xFCC9, 0xFCCD, "\u0644\u062c \u0644\u062d \u0644\u062e \u0644\u0645 \u0644\u0647"⟩,
  ⟨0xFCCE, 0xFCD2, "\u0645\u062c \u0645\u062d \u0645\u062e \u0645\u0645 \u0646\u062c"⟩,
  ⟨0xFCD3, 0xFCD7, "\u0646\u062d \u0646\u062e \u0646\u0645 \u0646\u0647 \u0647\u062c"⟩,
  ⟨0xFCD8, 0xFCDC, "\u0647\u0645 \u0647\u0670 \u064a\u062c \u064a\u062d \u064a\u062e"⟩,
  ⟨0xFCDD, 0xFCE0, "\u064a\u0645 \u064a\u0647 \u064a\u0654\u0645 \u064a\u0654\u0647"⟩,
  ⟨0xFCE1, 0xFCE5, "\u0628\u0645 \u0628\u0647 \u062a\u0645 \u062a\u0647 \u062b\u0645"⟩,
  ⟨0xFCE6, 0xFCEA, "\u062b\u0647 \u0633\u0645 \u0633\u0647 \u0634\u0645 \u0634\u0647"⟩,
  ⟨0xFCEB, 0xFCEF, "\u0643\u0644 \u0643\u0645 \u0644\u0645 \u0646\u0645 \u0646\u0647"⟩,
  ⟨0xFCF0, 0xFCF3, "\u064a\u0645 \u064a\u0647 \u0640\u064e\u0651 \u0640\u064f\u0651"⟩,
  ⟨0xFCF4, 0xFCF8, "\u0640\u0650\u0651 \u0637\u0649 \u0637\u064a \u0639\u0649 \u0639\u064a"⟩,
  ⟨0xFCF9, 0xFCFD, "\u063a\u0649 \u063a\u064a \u0633\u0649 \u0633\u064a \u0634\u0649"⟩,
  ⟨0xFCFE, 0xFD02, "\u0634\u064a \u062d\u0649 \u062d\u064a \u062c\u0649 \u062c\u064a"⟩,
  ⟨0xFD03, 0xFD07, "\u062e\u0649 \u062e\u064a \u0635\u0649 \u0635\u064a \u0636\u0649"⟩,
  ⟨0xFD08, 0xFD0C, "\u0636\u064a \u0634\u062c \u0634\u062d \u0634\u062e \u0634\u0645"⟩,
  ⟨0xFD0D, 0xFD11, "\u0634\u0631 \u0633\u0631 \u0635\u0631 \u0636\u0631 \u0637\u0649"⟩,
  ⟨0xFD12, 0xFD16, "\u0637\u064a \u0639\u0649 \u0639\u064a \u063a\u0649 \u063a\u064a"⟩,
  ⟨0xFD17, 0xFD1B, "\u0633\u0649 \u0633\u064a \u0634\u0649 \u0634\u064a \u062d\u0649"⟩,
  ⟨0xFD1C, 0xFD20, "\u062d\u064a \u062c\u0649 \u062c\u064a \u062e\u0649 \u062e\u064a"⟩,
  ⟨0xFD21, 0xFD25, "\u0635\u0649 \u0635\u064a \u0636\u0649 \u0636\u064a \u0634\u062c"⟩,
  ⟨0xFD26, 0xFD2A, "\u0634\u062d \u0634\u062e \u0634\u0645 \u0634\u0631 \u0633\u0631"⟩,
  ⟨0xFD2B, 0xFD2F, "\u0635\u0631 \u0636\u0631 \u0634\u062c \u0634\u062d \u0634\u062e"⟩,
  ⟨0xFD30, 0xFD34, "\u0634\u0645 \u0633\u0647 \u0634\u0647 \u0637\u0645 \u0633\u062c"⟩,
  ⟨0xFD35, 0xFD39, "\u0633\u062d \u0633\u062e \u0634\u062c \u0634\u062d \u0634\u062e"⟩,
  ⟨0xFD3A, 0xFD3D, "\u0637\u0645 \u0638\u0645 \u0627\u064b \u0627\u064b"⟩,
  ⟨0xFD50, 0xFD53, "\u062a\u062c\u0645 \u062a\u062d\u062c \u062a\u062d\u062c \u062a\u062d\u0645"⟩,
  ⟨0xFD54, 0xFD57, "\u062a\u062e\u0645 \u062a\u0645\u062c \u062a\u0645\u062d \u062a\u0645\u062e"⟩,
  ⟨0xFD58, 0xFD5B, "\u062c\u0645\u062d \u062c\u0645\u062d \u062d\u0645\u064a \u062d\u0645\u0649"⟩,
  ⟨0xFD5C, 0xFD5F, "\u0633\u062d\u062c \u0633\u062c\u062d \u0633\u062c\u0649 \u0633\u0645\u062d"⟩,
  ⟨0xFD60, 0xFD63, "\u0633\u0645\u062d \u0633\u0645\u062c \u0633\u0645\u0645 \u0633\u0645\u0645"⟩,
  ⟨0xFD64, 0xFD67, "\u0635\u062d\u062d \u0635\u062d\u062d \u0635\u0645\u0645 \u0634\u062d\u0645"⟩,
  ⟨0xFD68, 0xFD6B, "\u0634\u062d\u0645 \u0634\u062c\u064a \u0634\u0645\u062e \u0634\u0645\u062e"⟩,
  ⟨0xFD6C, 0xFD6F, "\u0634\u0645\u0645 \u0634\u0645\u0645 \u0636\u062d\u0649 \u0636\u062e\u0645"⟩,
  ⟨0xFD70, 0xFD73, "\u0636\u062e\u0645 \u0637\u0645\u062d \u0637\u0645\u062d \u0637\u0645\u0645"⟩,
  ⟨0xFD74, 0xFD77, "\u0637\u0645\u064a \u0639\u062c\u0645 \u0639\u0645\u0645 \u0639\u0645\u0645"⟩,
  ⟨0xFD78, 0xFD7B, "\u0639\u0645\u0649 \u063a\u0645\u0645 \u063a\u0645\u064a \u063a\u0645\u0649"⟩,
  ⟨0xFD7C, 0xFD7F, "\u0641\u062e\u0645 \u0641\u062e\u0645 \u0642\u0645\u062d \u0642\u0645\u0645"⟩,
  ⟨0xFD80, 0xFD83, "\u0644\u062d\u0645 \u0644\u062d\u064a \u0644\u062d\u0649 \u0644\u062c\u062c"⟩,
  ⟨0xFD84, 0xFD87, "\u0644\u062c\u062c \u0644\u062e\u0645 \u0644\u062e\u0645 \u0644\u0645\u062d"⟩,
  ⟨0xFD88, 0xFD8B, "\u0644\u0645\u062d \u0645\u062d\u062c \u0645\u062d\u0645 \u0645\u062d\u064a"⟩,
  ⟨0xFD8C, 0xFD8F, "\u0645\u062c\u062d \u0645\u062c\u0645 \u0645\u062e\u062c \u0645\u062e\u0645"⟩,
  ⟨0xFD92, 0xFD95, "\u0645\u062c\u062e \u0647\u0645\u062c \u0647\u0645\u0645 \u0646\u062d\u0645"⟩,
  ⟨0xFD96, 0xFD99, "\u0646\u062d\u0649 \u0646\u062c\u0645 \u0646\u062c\u0645 \u0646\u062c\u0649"⟩,
  ⟨0xFD9A, 0xFD9D, "\u0646\u0645\u064a \u0646\u0645\u0649 \u064a\u0645\u0645 \u064a\u0645\u0645"⟩,
  ⟨0xFD9E, 0xFDA1, "\u0628\u062e\u064a \u062a\u062c\u064a \u062a\u062c\u0649 \u062a\u062e\u064a"⟩,
  ⟨0xFDA2, 0xFDA5, "\u062a\u062e\u0649 \u062a\u0645\u064a \u062a\u0645\u0649 \u062c\u0645\u064a"⟩,
  ⟨0xFDA6, 0xFDA9, "\u062c\u062d\u0649 \u062c\u0645\u0649 \u0633\u062e\u0649 \u0635\u062d\u064a"⟩,
  ⟨0xFDAA, 0xFDAD, "\u0634\u062d\u064a \u0636\u062d\u064a \u0644\u062c\u064a \u0644\u0645\u064a"⟩,
  ⟨0xFDAE, 0xFDB1, "\u064a\u062d\u064a \u064a\u062c\u064a \u064a\u0645\u064a \u0645\u0645\u064a"⟩,
  ⟨0xFDB2, 0xFDB5, "\u0642\u0645\u064a \u0646\u062d\u064a \u0642\u0645\u062d \u0644\u062d\u0645"⟩,
  ⟨0xFDB6, 0xFDB9, "\u0639\u0645\u064a \u0643\u0645\u064a \u0646\u062c\u062d \u0645\u062e\u064a"⟩,
  ⟨0xFDBA, 0xFDBD, "\u0644\u062c\u0645 \u0643\u0645\u0645 \u0644\u062c\u0645 \u0646\u062c\u062d"⟩,
  ⟨0xFDBE, 0xFDC1, "\u062c\u062d\u064a \u062d\u062c\u064a \u0645\u062c\u064a \u0641\u0645\u064a"⟩,
  ⟨0xFDC2, 0xFDC5, "\u0628\u062d\u064a \u0643\u0645\u0645 \u0639\u062c\u0645 \u0635\u0645\u0645"⟩,
  ⟨0xFDC6, 0xFDC7, "\u0633\u062e\u064a \u0646\u062c\u064a"⟩,
  ⟨0xFDF0, 0xFDF2, "\u0635\u0644\u06d2 \u0642\u0644\u06d2 \u0627\u0644\u0644\u0647"⟩,
  ⟨0xFDF3, 0xFDF5, "\u0627\u0643\u0628\u0631 \u0645\u062d\u0645\u062f \u0635\u0644\u0639\u0645"⟩,
  ⟨0xFDF6, 0xFDF8, "\u0631\u0633\u0648\u0644 \u0639\u0644\u064a\u0647 \u0648\u0633\u0644\u0645"⟩,
  ⟨0xFDF9, 0xFDF9, "\u0635\u0644\u0649"⟩, ⟨0xFE33, 0xFE34, "_ _"⟩, ⟨0xFE4D, 0xFE4F, "_ _ _"⟩,
  ⟨0xFE71, 0xFE71, "\u0640\u064b"⟩, ⟨0xFE77, 0xFE77, "\u0640\u064e"⟩,
  ⟨0xFE79, 0xFE79, "\u0640\u064f"⟩, ⟨0xFE7B, 0xFE7B, "\u0640\u0650"⟩,
  ⟨0xFE7D, 0xFE7D, "\u0640\u0651"⟩,
  ⟨0xFE7F, 0xFE84, "\u0640\u0652 \u0621 \u0627\u0653 \u0627\u0653 \u0627\u0654 \u0627\u0654"⟩,
  ⟨0xFE85, 0xFE89, "\u0648\u0654 \u0648\u0654 \u0627\u0655 \u0627\u0655 \u064a\u0654"⟩,
  ⟨0xFE8A, 0xFE91, "\u064a\u0654 \u064a\u0654 \u064a\u0654 \u0627 \u0627 \u0628 \u0628 \u0628"⟩,
  ⟨0xFE92, 0xFE9B, "\u0628 \u0629 \u0629 \u062a \u062a \u062a \u062a \u062b \u062b \u062b"⟩,
  ⟨0xFE9C, 0xFEA5, "\u062b \u062c \u062c \u062c \u062c \u062d \u062d \u062d \u062d \u062e"⟩,
  ⟨0xFEA6, 0xFEAF, "\u062e \u062e \u062e \u062f \u062f \u0630 \u0630 \u0631 \u0631 \u0632"⟩,
  ⟨0xFEB0, 0xFEB9, "\u0632 \u0633 \u0633 \u0633 \u0633 \u0634 \u0634 \u0634 \u0634 \u0635"⟩,
  ⟨0xFEBA, 0xFEC3, "\u0635 \u0635 \u0635 \u0636 \u0636 \u0636 \u0636 \u0637 \u0637 \u0637"⟩,
  ⟨0xFEC4, 0xFECD, "\u0637 \u0638 \u0638 \u0638 \u0638 \u0639 \u0639 \u0639 \u0639 \u063a"⟩,
  ⟨0xFECE, 0xFED7, "\u063a \u063a \u063a \u0641 \u0641 \u0641 \u0641 \u0642 \u0642 \u0642"⟩,
  ⟨0xFED8, 0xFEE1, "\u0642 \u0643 \u0643 \u0643 \u0643 \u0644 \u0644 \u0644 \u0644 \u0645"⟩,
  ⟨0xFEE2, 0xFEEB, "\u0645 \u0645 \u0645 \u0646 \u0646 \u0646 \u0646 \u0647 \u0647 \u0647"⟩,
  ⟨0xFEEC, 0xFEF4, "\u0647 \u0648 \u0648 \u0649 \u0649 \u064a \u064a \u064a \u064a"⟩,
  ⟨0xFEF5, 0xFEF8, "\u0644\u0627\u0653 \u0644\u0627\u0653 \u0644\u0627\u0654 \u0644\u0627\u0654"⟩,
  ⟨0xFEF9, 0xFEFC, "\u0644\u0627\u0655 \u0644\u0627\u0655 \u0644\u0627 \u0644\u0627"⟩,
  ⟨0xFF10, 0xFF19, "0 1 2 3 4 5 6 7 8 9"⟩,
  ⟨0xFF21, 0xFF3A, "A B C D E F G H I J K L M N O P Q R S T U V W X Y Z"⟩, ⟨0xFF3F, 0xFF3F, "_"⟩,
  ⟨0xFF41, 0xFF5A, "a b c d e f g h i j k l m n o p q r s t u v w x y z"⟩,
  ⟨0xFF66, 0xFF8B, "ヲ ァ ィ ゥ ェ ォ ャ ュ ョ ッ ー ア イ ウ エ オ カ キ ク ケ コ サ シ ス セ ソ タ チ ツ テ ト ナ ニ ヌ ネ ノ ハ ヒ"⟩,
  ⟨0xFF8C, 0xFFAC, "フ ヘ ホ マ ミ ム メ モ ヤ ユ ヨ ラ リ ル レ ロ ワ ン \u3099 \u309a ᅠ ᄀ ᄁ ᆪ ᄂ ᆬ ᆭ ᄃ ᄄ ᄅ ᆰ ᆱ ᆲ"⟩,
  ⟨0xFFAD, 0xFFBE, "ᆳ ᆴ ᆵ ᄚ ᄆ ᄇ ᄈ ᄡ ᄉ ᄊ ᄋ ᄌ ᄍ ᄎ ᄏ ᄐ ᄑ ᄒ"⟩, ⟨0xFFC2, 0xFFC7, "ᅡ ᅢ ᅣ ᅤ ᅥ ᅦ"⟩,
  ⟨0xFFCA, 0xFFCF, "ᅧ ᅨ ᅩ ᅪ ᅫ ᅬ"⟩, ⟨0xFFD2, 0xFFD7, "ᅭ ᅮ ᅯ ᅰ ᅱ ᅲ"⟩, ⟨0xFFDA, 0xFFDC, "ᅳ ᅴ ᅵ"⟩,
  ⟨0x10781, 0x10785, "ː ˑ æ ʙ ɓ"⟩,
  ⟨0x10787, 0x107AB, "ʣ ꭦ ʥ ʤ ɖ ɗ ᶑ ɘ ɞ ʩ ɤ ɢ ɠ ʛ ħ ʜ ɧ ʄ ʪ ʫ ɬ 𝼄 ꞎ ɮ 𝼅 ʎ 𝼆 ø ɶ ɷ q ɺ 𝼈 ɽ ɾ ʀ ʨ"⟩,
  ⟨0x107AC, 0x107B0, "ʦ ꭧ ʧ ʈ ⱱ"⟩, ⟨0x107B2, 0x107BA, "ʏ ʡ ʢ ʘ ǀ ǁ ǂ 𝼊 𝼞"⟩,
  ⟨0x1109A, 0x1109A, "𑂚"⟩, ⟨0x1109C, 0x1109C, "𑂜"⟩, ⟨0x110AB, 0x110AB, "𑂫"⟩,
  ⟨0x1112E, 0x1112F, "𑄮 𑄯"⟩, ⟨0x1134B, 0x1134C, "𑍋 𑍌"⟩, ⟨0x114BB, 0x114BC, "𑒻 𑒼"⟩,
  ⟨0x114BE, 0x114BE, "𑒾"⟩, ⟨0x115BA, 0x115BB, "𑖺 𑖻"⟩, ⟨0x11938, 0x11938, "𑤸"⟩,
  ⟨0x1D400, 0x1D424, "A B C D E F G H I J K L M N O P Q R S T U V W X Y Z a b c d e f g h i j k"⟩,
  ⟨0x1D425, 0x1D449, "l m n o p q r s t u v w x y z A B C D E F G H I J K L M N O P Q R S T U V"⟩,
  ⟨0x1D44A, 0x1D454, "W X Y Z a b c d e f g"⟩,
  ⟨0x1D456, 0x1D47A, "i j k l m n o p q r s t u v w x y z A B C D E F G H I J K L M N O P Q R S"⟩,
  ⟨0x1D47B, 0x1D49C, "T U V W X Y Z a b c d e f g h i j k l m n o p q r s t u v w x y z A"⟩,
  ⟨0x1D49E, 0x1D49F, "C D"⟩, ⟨0x1D4A2, 0x1D4A2, "G"⟩, ⟨0x1D4A5, 0x1D4A6, "J K"⟩,
  ⟨0x1D4A9, 0x1D4AC, "N O P Q"⟩, ⟨0x1D4AE, 0x1D4B9, "S T U V W X Y Z a b c d"⟩,
  ⟨0x1D4BB, 0x1D4BB, "f"⟩, ⟨0x1D4BD, 0x1D4C3, "h i j k l m n"⟩,
  ⟨0x1D4C5, 0x1D4E9, "p q r s t u v w x y z A B C D E F G H I J K L M N O P Q R S T U V W X Y Z"⟩,
  ⟨0x1D4EA, 0x1D505, "a b c d e f g h i j k l m n o p q r s t u v w x y z A B"⟩,
  ⟨0x1D507, 0x1D50A, "D E F G"⟩, ⟨0x1D50D, 0x1D514, "J K L M N O P Q"⟩,
  ⟨0x1D516, 0x1D51C, "S T U V W X Y"⟩,
  ⟨0x1D51E, 0x1D539, "a b c d e f g h i j k l m n o p q r s t u v w x y z A B"⟩,
  ⟨0x1D53B, 0x1D53E, "D E F G"⟩, ⟨0x1D540, 0x1D544, "I J K L M"⟩, ⟨0x1D546, 0x1D546, "O"⟩,
  ⟨0x1D54A, 0x1D550, "S T U V W X Y"⟩,
  ⟨0x1D552, 0x1D576, "a b c d e f g h i j k l m n o p q r s t u v w x y z A B C D E F G H I J K"⟩,
  ⟨0x1D577, 0x1D59B, "L M N O P Q R S T U V W X Y Z a b c d e f g h i j k l m n o p q r s t u v"⟩,
  ⟨0x1D59C, 0x1D5C0, "w x y z A B C D E F G H I J K L M N O P Q R S T U V W X Y Z a b c d e f g"⟩,
  ⟨0x1D5C1, 0x1D5E5, "h i j k l m n o p q r s t u v w x y z A B C D E F G H I J K L M N O P Q R"⟩,
  ⟨0x1D5E6, 0x1D60A, "S T U V W X Y Z a b c d e f g h i j k l m n o p q r s t u v w x y z A B C"⟩,
  ⟨0x1D60B, 0x1D62F, "D E F G H I J K L M N O P Q R S T U V W X Y Z a b c d e f g h i j k l m n"⟩,
  ⟨0x1D630, 0x1D654, "o p q r s t u v w x y z A B C D E F G H I J K L M N O P Q R S T U V W X Y"⟩,
  ⟨0x1D655, 0x1D679, "Z a b c d e f g h i j k l m n o p q r s t u v w x y z A B C D E F G H I J"⟩,
  ⟨0x1D67A, 0x1D69E, "K L M N O P Q R S T U V W X Y Z a b c d e f g h i j k l m n o p q r s t u"⟩,
  ⟨0x1D69F, 0x1D6A5, "v w x y z ı ȷ"⟩,
  ⟨0x1D6A8, 0x1D6C0, "Α Β Γ Δ Ε Ζ Η Θ Ι Κ Λ Μ Ν Ξ Ο Π Ρ Θ Σ Τ Υ Φ Χ Ψ Ω"⟩,
  ⟨0x1D6C2, 0x1D6DA, "α β γ δ ε ζ η θ ι κ λ μ ν ξ ο π ρ ς σ τ υ φ χ ψ ω"⟩,
  ⟨0x1D6DC, 0x1D6FA, "ε θ κ φ ρ π Α Β Γ Δ Ε Ζ Η Θ Ι Κ Λ Μ Ν Ξ Ο Π Ρ Θ Σ Τ Υ Φ Χ Ψ Ω"⟩,
  ⟨0x1D6FC, 0x1D714, "α β γ δ ε ζ η θ ι κ λ μ ν ξ ο π ρ ς σ τ υ φ χ ψ ω"⟩,
  ⟨0x1D716, 0x1D734, "ε θ κ φ ρ π Α Β Γ Δ Ε Ζ Η Θ Ι Κ Λ Μ Ν Ξ Ο Π Ρ Θ Σ Τ Υ Φ Χ Ψ Ω"⟩,
  ⟨0x1D736, 0x1D74E, "α β γ δ ε ζ η θ ι κ λ μ ν ξ ο π ρ ς σ τ υ φ χ ψ ω"⟩,
  ⟨0x1D750, 0x1D76E, "ε θ κ φ ρ π Α Β Γ Δ Ε Ζ Η Θ Ι Κ Λ Μ Ν Ξ Ο Π Ρ Θ Σ Τ Υ Φ Χ Ψ Ω"⟩,
  ⟨0x1D770, 0x1D788, "α β γ δ ε ζ η θ ι κ λ μ ν ξ ο π ρ ς σ τ υ φ χ ψ ω"⟩,
  ⟨0x1D78A, 0x1D7A8, "ε θ κ φ ρ π Α Β Γ Δ Ε Ζ Η Θ Ι Κ Λ Μ Ν Ξ Ο Π Ρ Θ Σ Τ Υ Φ Χ Ψ Ω"⟩,
  ⟨0x1D7AA, 0x1D7C2, "α β γ δ ε ζ η θ ι κ λ μ ν ξ ο π ρ ς σ τ υ φ χ ψ ω"⟩,
  ⟨0x1D7C4, 0x1D7CB, "ε θ κ φ ρ π Ϝ ϝ"⟩,
  ⟨0x1D7CE, 0x1D7F2, "0 1 2 3 4 5 6 7 8 9 0 1 2 3 4 5 6 7 8 9 0 1 2 3 4 5 6 7 8 9 0 1 2 3 4 5 6"⟩,
  ⟨0x1D7F3, 0x1D7FF, "7 8 9 0 1 2 3 4 5 6 7 8 9"⟩,
  ⟨0x1EE00, 0x1EE03, "\u0627 \u0628 \u062c \u062f"⟩,
  ⟨0x1EE05, 0x1EE0E, "\u0648 \u0632 \u062d \u0637 \u064a \u0643 \u0644 \u0645 \u0646 \u0633"⟩,
  ⟨0x1EE0F, 0x1EE18, "\u0639 \u0641 \u0635 \u0642 \u0631 \u0634 \u062a \u062b \u062e \u0630"⟩,
  ⟨0x1EE19, 0x1EE1F, "\u0636 \u0638 \u063a \u066e \u06ba \u06a1 \u066f"⟩,
  ⟨0x1EE21, 0x1EE22, "\u0628 \u062c"⟩, ⟨0x1EE24, 0x1EE24, "\u0647"⟩, ⟨0x1EE27, 0x1EE27, "\u062d"⟩,
  ⟨0x1EE29, 0x1EE32, "\u064a \u0643 \u0644 \u0645 \u0646 \u0633 \u0639 \u0641 \u0635 \u0642"⟩,
  ⟨0x1EE34, 0x1EE37, "\u0634 \u062a \u062b \u062e"⟩, ⟨0x1EE39, 0x1EE39, "\u0636"⟩,
  ⟨0x1EE3B, 0x1EE3B, "\u063a"⟩, ⟨0x1EE42, 0x1EE42, "\u062c"⟩, ⟨0x1EE47, 0x1EE47, "\u062d"⟩,
  ⟨0x1EE49, 0x1EE49, "\u064a"⟩, ⟨0x1EE4B, 0x1EE4B, "\u0644"⟩,
  ⟨0x1EE4D, 0x1EE4F, "\u0646 \u0633 \u0639"⟩, ⟨0x1EE51, 0x1EE52, "\u0635 \u0642"⟩,
  ⟨0x1EE54, 0x1EE54, "\u0634"⟩, ⟨0x1EE57, 0x1EE57, "\u062e"⟩, ⟨0x1EE59, 0x1EE59, "\u0636"⟩,
  ⟨0x1EE5B, 0x1EE5B, "\u063a"⟩, ⟨0x1EE5D, 0x1EE5D, "\u06ba"⟩, ⟨0x1EE5F, 0x1EE5F, "\u066f"⟩,
  ⟨0x1EE61, 0x1EE62, "\u0628 \u062c"⟩, ⟨0x1EE64, 0x1EE64, "\u0647"⟩,
  ⟨0x1EE67, 0x1EE6A, "\u062d \u0637 \u064a \u0643"⟩,
  ⟨0x1EE6C, 0x1EE72, "\u0645 \u0646 \u0633 \u0639 \u0641 \u0635 \u0642"⟩,
  ⟨0x1EE74, 0x1EE77, "\u0634 \u062a \u062b \u062e"⟩,
  ⟨0x1EE79, 0x1EE7C, "\u0636 \u0638 \u063a \u066e"⟩, ⟨0x1EE7E, 0x1EE7E, "\u06a1"⟩,
  ⟨0x1EE80, 0x1EE89, "\u0627 \u0628 \u062c \u062f \u0647 \u0648 \u0632 \u062d \u0637 \u064a"⟩,
  ⟨0x1EE8B, 0x1EE94, "\u0644 \u0645 \u0646 \u0633 \u0639 \u0641 \u0635 \u0642 \u0631 \u0634"⟩,
  ⟨0x1EE95, 0x1EE9B, "\u062a \u062b \u062e \u0630 \u0636 \u0638 \u063a"⟩,
  ⟨0x1EEA1, 0x1EEA3, "\u0628 \u062c \u062f"⟩,
  ⟨0x1EEA5, 0x1EEA9, "\u0648 \u0632 \u062d \u0637 \u064a"⟩,
  ⟨0x1EEAB, 0x1EEB4, "\u0644 \u0645 \u0646 \u0633 \u0639 \u0641 \u0635 \u0642 \u0631 \u0634"⟩,
  ⟨0x1EEB5, 0x1EEBB, "\u062a \u062b \u062e \u0630 \u0636 \u0638 \u063a"⟩,
  ⟨0x1FBF0, 0x1FBF9, "0 1 2 3 4 5 6 7 8 9"⟩,
  ⟨0x2F800, 0x2F824, "丽 丸 乁 𠄢 你 侮 侻 倂 偺 備 僧 像 㒞 𠘺 免 兔 兤 具 𠔜 㒹 內 再 𠕋 冗 冤 仌 冬 况 𩇟 凵 刃 㓟 刻 剆 割 剷 㔕"⟩,
  ⟨0x2F825, 0x2F849, "勇 勉 勤 勺 包 匆 北 卉 卑 博 即 卽 卿 卿 卿 𠨬 灰 及 叟 𠭣 叫 叱 吆 咞 吸 呈 周 咢 哶 唐 啓 啣 善 善 喙 喫 喳"⟩,
  ⟨0x2F84A, 0x2F86E, "嗂 圖 嘆 圗 噑 噴 切 壮 城 埴 堍 型 堲 報 墬 𡓤 売 壷 夆 多 夢 奢 𡚨 𡛪 姬 娛 娧 姘 婦 㛮 㛼 嬈 嬾 嬾 𡧈 寃 寘"⟩,
  ⟨0x2F86F, 0x2F893, "寧 寳 𡬘 寿 将 当 尢 㞁 屠 屮 峀 岍 𡷤 嵃 𡷦 嵮 嵫 嵼 巡 巢 㠯 巽 帨 帽 幩 㡢 𢆃 㡼 庰 庳 庶 廊 𪎒 廾 𢌱 𢌱 舁"⟩,
  ⟨0x2F894, 0x2F8B8, "弢 弢 㣇 𣊸 𦇚 形 彫 㣣 徚 忍 志 忹 悁 㤺 㤜 悔 𢛔 惇 慈 慌 慎 慌 慺 憎 憲 憤 憯 懞 懲 懶 成 戛 扝 抱 拔 捐 𢬌"⟩,
  ⟨0x2F8B9, 0x2F8DD, "挽 拼 捨 掃 揤 𢯱 搢 揅 掩 㨮 摩 摾 撝 摷 㩬 敏 敬 𣀊 旣 書 晉 㬙 暑 㬈 㫤 冒 冕 最 暜 肭 䏙 朗 望 朡 杞 杓 𣏃"⟩,
  ⟨0x2F8DE, 0x2F902, "㭉 柺 枅 桒 梅 𣑭 梎 栟 椔 㮝 楂 榣 槪 檨 𣚣 櫛 㰘 次 𣢧 歔 㱎 歲 殟 殺 殻 𣪍 𡴋 𣫺 汎 𣲼 沿 泍 汧 洖 派 海 流"⟩,
  ⟨0x2F903, 0x2F927, "浩 浸 涅 𣴞 洴 港 湮 㴳 滋 滇 𣻑 淹 潮 𣽞 𣾎 濆 瀹 瀞 瀛 㶖 灊 災 灷 炭 𠔥 煅 𤉣 熜 𤎫 爨 爵 牐 𤘈 犀 犕 𤜵 𤠔"⟩,
  ⟨0x2F928, 0x2F94C, "獺 王 㺬 玥 㺸 㺸 瑇 瑜 瑱 璅 瓊 㼛 甤 𤰶 甾 𤲒 異 𢆟 瘐 𤾡 𤾸 𥁄 㿼 䀈 直 𥃳 𥃲 𥄙 𥄳 眞 真 真 睊 䀹 瞋 䁆 䂖"⟩,
  ⟨0x2F94D, 0x2F971, "𥐝 硎 碌 磌 䃣 𥘦 祖 𥚚 𥛅 福 秫 䄯 穀 穊 穏 𥥼 𥪧 𥪧 竮 䈂 𥮫 篆 築 䈧 𥲀 糒 䊠 糨 糣 紀 𥾆 絣 䌁 緇 縂 繅 䌴"⟩,
  ⟨0x2F972, 0x2F996, "𦈨 𦉇 䍙 𦋙 罺 𦌾 羕 翺 者 𦓚 𦔣 聠 𦖨 聰 𣍟 䏕 育 脃 䐋 脾 媵 𦞧 𦞵 𣎓 𣎜 舁 舄 辞 䑫 芑 芋 芝 劳 花 芳 芽 苦"⟩,
  ⟨0x2F997, 0x2F9BB, "𦬼 若 茝 荣 莭 茣 莽 菧 著 荓 菊 菌 菜 𦰶 𦵫 𦳕 䔫 蓱 蓳 蔖 𧏊 蕤 𦼬 䕝 䕡 𦾱 𧃒 䕫 虐 虜 虧 虩 蚩 蚈 蜎 蛢 蝹"⟩,
  ⟨0x2F9BC, 0x2F9E0, "蜨 蝫 螆 䗗 蟡 蠁 䗹 衠 衣 𧙧 裗 裞 䘵 裺 㒻 𧢮 𧥦 䚾 䛇 誠 諭 變 豕 𧲨 貫 賁 贛 起 𧼯 𠠄 跋 趼 跰 𠣞 軔 輸 𨗒"⟩,
  ⟨0x2F9E1, 0x2FA05, "𨗭 邔 郱 鄑 𨜮 鄛 鈸 鋗 鋘 鉼 鏹 鐕 𨯺 開 䦕 閷 𨵷 䧦 雃 嶲 霣 𩅅 𩈚 䩮 䩶 韠 𩐊 䪲 𩒖 頋 頋 頩 𩖶 飢 䬳 餩 馧"⟩,
  ⟨0x2FA06, 0x2FA1D, "駂 駾 䯎 𩬰 鬒 鱀 鳽 䳎 䳭 鵧 𪃎 䳸 𪄅 𪈎 𪊑 麻 䵖 黹 黾 鼅 鼏 鼖 鼻 𪘀"⟩]

namespace VariantRow

/-- The plain text of a character of the row. -/
def form? (r : VariantRow) (n : Nat) : Option (List Char) :=
  if r.first ≤ n ∧ n ≤ r.last then (r.forms.toList.splitOn ' ')[n - r.first]? else none

end VariantRow

end JavaScribe.Text
