import SerialSuite.Text.Width

/-!
Letters of Arabic, Hebrew, Buginese, Khmer, Lisu, Old Turkic and Tifinagh that share a column with
the letters in front of them.
-/

namespace SerialSuite.Text

/-- Characters without a column that keep a lam and an alef apart. -/
def stopping : CharClass :=
  [(0x605, 0x605), (0x890, 0x891), (0x8E2, 0x8E2), (0x9BE, 0x9BE), (0x9D7, 0x9D7), (0xB3E, 0xB3E),
   (0xB57, 0xB57), (0xBBE, 0xBBE), (0xBD7, 0xBD7), (0xCC0, 0xCC0), (0xCC2, 0xCC2), (0xCC7, 0xCC8),
   (0xCCA, 0xCCB), (0xCD5, 0xCD6), (0xD3E, 0xD3E), (0xD4E, 0xD4E), (0xD57, 0xD57), (0xDCF, 0xDCF),
   (0xDDF, 0xDDF), (0x115F, 0x11FF), (0x180E, 0x180E), (0x1B35, 0x1B35), (0x1B3B, 0x1B3B),
   (0x1B3D, 0x1B3D), (0x1B43, 0x1B43), (0x200C, 0x200D), (0x2065, 0x2069), (0x302E, 0x302F),
   (0x3164, 0x3164), (0xA8FA, 0xA8FA), (0xD7B0, 0xD7C6), (0xD7CB, 0xD7FB), (0xFF9E, 0xFFA0),
   (0xFFF0, 0xFFF8), (0x111C2, 0x111C3), (0x1133E, 0x1133E), (0x11357, 0x11357),
   (0x114B0, 0x114B0), (0x114BD, 0x114BD), (0x115AF, 0x115AF), (0x11930, 0x11930),
   (0x1193F, 0x1193F), (0x11941, 0x11941), (0x11A3A, 0x11A3A), (0x11A84, 0x11A89),
   (0x11D46, 0x11D46), (0x11F02, 0x11F02), (0x1D165, 0x1D165), (0x1D16E, 0x1D172),
   (0xE0000, 0xE0000), (0xE0002, 0xE001F), (0xE0080, 0xE00FF), (0xE01F0, 0xE0FFF)]

/-- Arabic alef and the letters shaped like it. -/
def alefs : CharClass :=
  [(0x622, 0x623), (0x625, 0x625), (0x627, 0x627), (0x671, 0x673), (0x675, 0x675), (0x773, 0x774),
   (0x870, 0x882)]

/-- Arabic lam and the letters shaped like it. -/
def lams : CharClass :=
  [(0x644, 0x644), (0x6B5, 0x6B8), (0x76A, 0x76A), (0x8A6, 0x8A6), (0x8C7, 0x8C7)]

/-- Khmer letters that can stand below another one. -/
def subscripts : CharClass :=
  [(0x1780, 0x1782), (0x1784, 0x1787), (0x1789, 0x178C), (0x178E, 0x1793), (0x1795, 0x1798),
   (0x179B, 0x179D), (0x17A0, 0x17A0), (0x17A2, 0x17A2), (0x17A7, 0x17A7), (0x17AB, 0x17AC),
   (0x17AF, 0x17AF)]

def tifinaghConsonants : CharClass := [(0x2D31, 0x2D65), (0x2D6F, 0x2D6F)]

/-- Lisu tones that come first in a pair, and second. -/
def firstTones : CharClass := [(0xA4F8, 0xA4FB)]
def secondTones : CharClass := [(0xA4FC, 0xA4FD)]

/-- Marks without a shape, which do not break a ligature. -/
def shapeless : CharClass :=
  [(0x34F, 0x34F), (0x17B4, 0x17B5), (0x180B, 0x180D), (0x180F, 0x180F), (0xFE00, 0xFE0F),
   (0xE0100, 0xE01EF)]

def zeroWidthJoiner : Char := '\u200D'

/-- Old Turkic letters: ci and i. -/
def orkhonCi : Char := .ofNat 0x10C32
def orkhonI : Char := .ofNat 0x10C03

/-- The last part of a ligature; `joined` tells whether a joiner stands in front of it. -/
inductive Ligature where
  | alef
  | subscript
  | lisuTone
  | lamed (joined : Bool)
  | orkhonI (joined : Bool)
  | ya (joined : Bool)
  /-- A Buginese vowel, a joiner and a ya. -/
  | vowelYa
  | tifinagh (joined : Bool)
  /-- A Tifinagh consonant joiner and a consonant. -/
  | bound
  deriving DecidableEq, Repr

/-- The ligature that a letter may end. -/
def Ligature.endingIn? (c : Char) : Option Ligature :=
  if alefs.has c then some .alef
  else if subscripts.has c then some .subscript
  else if secondTones.has c then some .lisuTone
  else if tifinaghConsonants.has c then some (.tifinagh false)
  else if c = Text.orkhonI then some (.orkhonI false)
  else match c with
    | '\u05DC' => some (.lamed false)
    | '\u1A10' => some (.ya false)
    | _ => none

/-- The ligature with a joiner in front. -/
def Ligature.join : Ligature → Ligature
  | .lamed _ => .lamed true
  | .orkhonI _ => .orkhonI true
  | .ya _ => .ya true
  | .tifinagh _ => .tifinagh true
  | part => part

/-- What a character in front makes of a ligature. -/
inductive Ligature.Growth where
  /-- It takes a number of columns, and more may follow. -/
  | part (columns : Nat) (ligature : Ligature)
  /-- It is the first letter and takes no column. -/
  | whole
  /-- It is the first letter and gives a column back. -/
  | tight
  deriving DecidableEq, Repr

/-- What `c` in front makes of a ligature, if it belongs to it. -/
def Ligature.grow? (part : Ligature) (c : Char) : Option Growth :=
  if part = .alef then
    if lams.has c then some .whole
    else if charColumns c = 0 && !stopping.has c then some (.part 0 .alef)
    else none
  else if c = zeroWidthJoiner then some (.part 0 part.join)
  else if shapeless.has c then some (.part 0 part)
  else match part, c with
    | .lamed true, '\u05D0' => some .whole
    | .ya true, '\u1A17' => some (.part 0 .vowelYa)
    | .vowelYa, '\u1A15' => some .whole
    | .subscript, '\u17D2' => some .tight
    | .tifinagh _, '\u2D7F' => some (.part 1 .bound)
    | .tifinagh true, c => if tifinaghConsonants.has c then some .whole else none
    | .bound, c => if tifinaghConsonants.has c then some .tight else none
    | .orkhonI true, c => if c = orkhonCi then some .whole else none
    | .lisuTone, c => if firstTones.has c then some .whole else none
    | _, _ => none

end SerialSuite.Text
