/-
  StakeRelay.Hostname.Direction — labels that are written from right to left.

  In a domain that holds a letter or number of a script written from right to left, every
  label keeps to one direction, that of its first letter: so the labels are shown in their
  order. The tables are those of Unicode 17, as far as a host may hold the characters; a
  range may run across characters that no host may hold.
-/

import StakeRelay.Hostname.Mark

namespace StakeRelay.Hostname

/-! ## §1. The tables -/

/-- Letters that are written from right to left. -/
def rightToLeftTable : String :=
  "5BE 5C0 5C3 5C6 5D0-5F4 608 60B 60D 61B-64A 66D-66F 671-6D5 6E5-6E6 6EE-6EF 6FA-710 712-72F
   74D-7A5 7B1-7EA 7F4-7F5 7FA 7FE-815 81A 824 828 830-858 85E-88F 8A0-8C9 FBB2-FBC2 FE73
   10800-1091B 10920-10A00 10A10-10A35 10A40-10AE4 10AEB-10B35 10B40-10D23 10D4A-10D4F
   10D6F-10D8F 10E80-10EA9 10EAD-10EC7 10F00-10F45 10F51-10F81 10F86-10FF6 1E800-1E8CF
   1E922-1E943 1E94B-1ED3D"

/-- Digits of numbers in Arabic texts. -/
def arabicNumberTable : String :=
  "660-669 66B-66C 10D30-10D49 10E60-10E7E"

/-- Digits of other numbers. -/
def europeanNumberTable : String :=
  "30-39 6F0-6F9 102E1-102FB"

/-- Characters that take the direction of those around them. -/
def neutralTable : String :=
  "0-2F 3A-60 7B-D7 F7 2B9-2BA 2C2-2CF 2D2-2ED 2EF-2FF 375 3F6 58A-58F 606-607 609-60A 60C
   60E-60F 66A 6DE 6E9 7F6-7F9 9F2-9F3 9FB AF1 BF3-BFA C78-C7E E3F F3A-F3D 1390-1399 1400
   169B-169C 17DB 17F0-180A 1940-1945 19DE-19FF 200C-20C1 2104-214D 218A-2335 237B-2394 2396-26AB
   26AD-27FF 2900-2BFF 2CE5-2CEA 2CF9-2CFF 2E00-3004 3008-3020 3030 3037 303D-303F 30A0 30FB
   31C0-31E5 4DC0-4DFF A490-A4C6 A60D-A60F A673 A67E-A67F A700-A721 A788 A828-A82B A838-A839
   A874-A877 AB6A-AB6B FBC3-FDFF FE45-FE46 10101 10140-1018C 10190-101A0 1091F 10B39-10B3F 10D6E
   10ED0-10ED8 11052-11065 11660-1166C 11FD5-11FF1 16FE2 1CC00-1CEF0 1D1E9-1D241 1D245
   1D300-1D356 1E2FF 1EEF0-1F12F 1F16D-1F16F 1F1AD 1F260-1FBFA"

/-- All ranges of letters that are written from right to left. -/
def rightToLeftRanges : List (Nat × Nat) := CodeTable.ranges rightToLeftTable

/-- All ranges of digits in Arabic texts. -/
def arabicNumberRanges : List (Nat × Nat) := CodeTable.ranges arabicNumberTable

/-- All ranges of other digits. -/
def europeanNumberRanges : List (Nat × Nat) := CodeTable.ranges europeanNumberTable

/-- All ranges of characters without a direction. -/
def neutralRanges : List (Nat × Nat) := CodeTable.ranges neutralTable

/-- The marks that count as letters written from left to right. -/
def leftToRightMarks : List Nat := [0xCBF, 0xCC6, 0x11A07, 0x11A08, 0x11C3F]

/-! ## §2. Directions -/

/-- What a character means for the direction of a text. -/
inductive Direction
  | leftToRight
  | rightToLeft
  | arabicNumber
  | europeanNumber
  | neutral
  /-- A mark, which goes with the character before it. -/
  | attached
  deriving Repr, DecidableEq

/-- The direction of a character. -/
def direction (c : Char) : Direction :=
  if CodeTable.holds rightToLeftRanges c then .rightToLeft
  else if CodeTable.holds arabicNumberRanges c then .arabicNumber
  else if CodeTable.holds europeanNumberRanges c then .europeanNumber
  else if CodeTable.holds neutralRanges c then .neutral
  else if isNonspacing c && !leftToRightMarks.contains c.toNat then .attached
  else .leftToRight

/-! ## §3. Labels -/

/-- Whether a character puts its domain under the rules for directions. -/
def Direction.isRightward (d : Direction) : Bool := d = .rightToLeft || d = .arabicNumber

/-- Whether what follows the first letter of a label from left to right fits it. The marks
    at the end do not count. -/
def fitsLeftToRight (rest : List Direction) : Bool :=
  match rest.reverse.dropWhile (· = .attached) with
  | [] => true
  | last :: middle =>
    (last = .leftToRight || last = .europeanNumber) && middle.all (!·.isRightward)

/-- Whether what follows the first letter of a label from right to left fits it. The marks
    at the end do not count, and the digits are all of one kind. -/
def fitsRightToLeft (rest : List Direction) : Bool :=
  match rest.reverse.dropWhile (· = .attached) with
  | [] => true
  | last :: middle =>
    (last.isRightward || last = .europeanNumber) && middle.all (· ≠ .leftToRight) &&
      !((last :: middle).contains .arabicNumber && (last :: middle).contains .europeanNumber)

/-- Whether a label keeps to one direction. -/
def isDirected (label : List Char) : Bool :=
  match label.map direction with
  | [] => true
  | .leftToRight :: rest => fitsLeftToRight rest
  | .rightToLeft :: rest => fitsRightToLeft rest
  | _ => false

/-- Whether the labels of a domain keep to the rules for directions. -/
def areDirected (labels : List (List Char)) : Bool :=
  !labels.any (·.any fun c => (direction c).isRightward) || labels.all isDirected

end StakeRelay.Hostname
