import StakingGateway.Text.Mark

/-!
Letters of the scripts that are written in one stroke, and the letters that they join. Marks are
passed over.
-/

namespace StakingGateway.Text

def dualJoiningRanges : List CodeRange := CodeRange.ofBounds [
  0x620, 0x620, 0x626, 0x626, 0x628, 0x628, 0x62A, 0x62E, 0x633, 0x63F, 0x641, 0x647, 0x649, 0x64A,
  0x66E, 0x66F, 0x678, 0x687, 0x69A, 0x6BF, 0x6C1, 0x6C2, 0x6CC, 0x6CC, 0x6CE, 0x6CE, 0x6D0, 0x6D1,
  0x6FA, 0x6FC, 0x6FF, 0x6FF, 0x712, 0x714, 0x71A, 0x71D, 0x71F, 0x727, 0x729, 0x729, 0x72B, 0x72B,
  0x72D, 0x72E, 0x74E, 0x758, 0x75C, 0x76A, 0x76D, 0x770, 0x772, 0x772, 0x775, 0x777, 0x77A, 0x77F,
  0x7CA, 0x7EA, 0x841, 0x845, 0x848, 0x848, 0x84A, 0x853, 0x855, 0x855, 0x860, 0x860, 0x862, 0x865,
  0x868, 0x868, 0x886, 0x886, 0x889, 0x88D, 0x88F, 0x88F, 0x8A0, 0x8A9, 0x8AF, 0x8B0, 0x8B3, 0x8B8,
  0x8BA, 0x8C8, 0x1807, 0x1807, 0x1820, 0x1878, 0x1887, 0x18A8, 0x18AA, 0x18AA, 0xA840, 0xA871,
  0x10AC0, 0x10AC4, 0x10AD3, 0x10AD6, 0x10AD8, 0x10ADC, 0x10ADE, 0x10AE0, 0x10AEB, 0x10AEE, 0x10B80,
  0x10B80, 0x10B82, 0x10B82, 0x10B86, 0x10B88, 0x10B8A, 0x10B8B, 0x10B8D, 0x10B8D, 0x10B90, 0x10B90,
  0x10BAD, 0x10BAE, 0x10D01, 0x10D21, 0x10D23, 0x10D23, 0x10EC3, 0x10EC4, 0x10EC6, 0x10EC7, 0x10F30,
  0x10F32, 0x10F34, 0x10F44, 0x10F51, 0x10F53, 0x10F70, 0x10F73, 0x10F76, 0x10F81, 0x10FB0, 0x10FB0,
  0x10FB2, 0x10FB3, 0x10FB8, 0x10FB8, 0x10FBB, 0x10FBC, 0x10FBE, 0x10FBF, 0x10FC1, 0x10FC1, 0x10FC4,
  0x10FC4, 0x10FCA, 0x10FCA, 0x1E900, 0x1E943]

def rightJoiningRanges : List CodeRange := CodeRange.ofBounds [
  0x622, 0x625, 0x627, 0x627, 0x629, 0x629, 0x62F, 0x632, 0x648, 0x648, 0x671, 0x673, 0x675, 0x677,
  0x688, 0x699, 0x6C0, 0x6C0, 0x6C3, 0x6CB, 0x6CD, 0x6CD, 0x6CF, 0x6CF, 0x6D2, 0x6D3, 0x6D5, 0x6D5,
  0x6EE, 0x6EF, 0x710, 0x710, 0x715, 0x719, 0x71E, 0x71E, 0x728, 0x728, 0x72A, 0x72A, 0x72C, 0x72C,
  0x72F, 0x72F, 0x74D, 0x74D, 0x759, 0x75B, 0x76B, 0x76C, 0x771, 0x771, 0x773, 0x774, 0x778, 0x779,
  0x840, 0x840, 0x846, 0x847, 0x849, 0x849, 0x854, 0x854, 0x856, 0x858, 0x867, 0x867, 0x869, 0x86A,
  0x870, 0x882, 0x88E, 0x88E, 0x8AA, 0x8AC, 0x8AE, 0x8AE, 0x8B1, 0x8B2, 0x8B9, 0x8B9, 0x10AC5,
  0x10AC5, 0x10AC7, 0x10AC7, 0x10AC9, 0x10ACA, 0x10ACE, 0x10AD2, 0x10ADD, 0x10ADD, 0x10AE1, 0x10AE1,
  0x10AE4, 0x10AE4, 0x10AEF, 0x10AEF, 0x10B81, 0x10B81, 0x10B83, 0x10B85, 0x10B89, 0x10B89, 0x10B8C,
  0x10B8C, 0x10B8E, 0x10B8F, 0x10B91, 0x10B91, 0x10BA9, 0x10BAC, 0x10D22, 0x10D22, 0x10EC2, 0x10EC2,
  0x10F33, 0x10F33, 0x10F54, 0x10F54, 0x10F74, 0x10F75, 0x10FB4, 0x10FB6, 0x10FB9, 0x10FBA, 0x10FBD,
  0x10FBD, 0x10FC2, 0x10FC3, 0x10FC9, 0x10FC9]

def leftJoiningRanges : List CodeRange := CodeRange.ofBounds [
  0xA872, 0xA872, 0x10ACD, 0x10ACD, 0x10AD7, 0x10AD7, 0x10D00, 0x10D00, 0x10FCB, 0x10FCB]

def joinsNextLetter (c : Char) : Bool :=
  memRanges dualJoiningRanges c || memRanges leftJoiningRanges c

def joinsPreviousLetter (c : Char) : Bool :=
  memRanges dualJoiningRanges c || memRanges rightJoiningRanges c

/-- Nonspacing marks, and one letter that is written like a mark. -/
def isPassedOver (c : Char) : Bool :=
  isNonspacingMark c || c.toNat = 0x1E94B

/-- Does the first letter that is not passed over join in the way asked for? -/
def firstLetterJoins (joins : Char → Bool) (cs : List Char) : Bool :=
  (cs.dropWhile isPassedOver).head?.any joins

end StakingGateway.Text
