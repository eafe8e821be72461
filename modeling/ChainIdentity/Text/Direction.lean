import ChainIdentity.Text.Mark

/-!
# Directions

Letters are written from left to right or from right to left, and other characters take part in
the one or the other (`Direction`).  A label in which the two meet could be shown in more than
one way, so it has to keep to a rule (`isDirected`): it starts with a letter, and what follows
belongs to the direction of that letter up to its end.
-/

namespace ChainIdentity.Text

/-- How a character takes part in a line of text. -/
inductive Direction where
  /-- A letter written from left to right. -/
  | left
  /-- A letter written from right to left. -/
  | right
  /-- A letter of the Arabic scripts, written from right to left. -/
  | arabic
  /-- A digit that belongs to Arabic text. -/
  | arabicNumber
  /-- A digit that belongs to any text. -/
  | number
  /-- A sign in or beside numbers, a character without direction or one that is not shown. -/
  | neutral
  /-- A mark, which follows the character in front of it. -/
  | mark
deriving DecidableEq, Repr

/-- Letters written from right to left. -/
def rightLetters : CodeTable := .ofText "
  5BE-5F4 7C0-7F5 7FA-85E 10800-1091B 10920-10B35 10B40-10CFF 10D40-10D8F 10E80-10EB1
  10F00-10F27 10F70-10FF6 1E800-1E95F"

/-- Letters of the Arabic scripts. -/
def arabicLetters : CodeTable := .ofText "
  608 60B 60D 61B-64A 66D-6D5 6E5-6E6 6EE-6EF 6FA-7B1 860-8C9 FBB2-FBD2 FD90-FDCE FE73
  10D00-10D23 10EC2-10ED8 10F30-10F59 1EC71-1ED3D"

/-- Digits that belong to Arabic text. -/
def arabicNumbers : CodeTable := .ofText "660-669 66B-66C 10D30-10D39 10E60-10E7E"

/-- Digits that belong to any text. -/
def numbers : CodeTable := .ofText "30-39 6F0-6F9 102E1-102FB"

/-- Signs in and beside numbers, characters without a direction and those that are not shown. -/
def neutrals : CodeTable := .ofText "
  0-8 E-1B 21-2F 3A-60 7B-7F A1-AE B0-B1 B6-D7 F7 2B9-2BA 2C2-2CF 2D2-2ED 2EF-2FF 375 3F6
  58A-58F 606-607 609-60A 60C 60E-60F 66A 6DE 6E9 7F6-7F9 9F2-9F3 9FB AF1 BF3-BFA C78-C7E E3F
  F3A-F3D 1390-1399 1400 169B-169C 17DB 17F0-180A 1940-1945 19DE-19FF 200C-200D 2010-2027
  2030-2032 2035-205E 20A0-20C1 2104-2129 212E 213A-214D 218A-2335 237B-2394 2396-26AB 26AD-27FF
  2900-2BFF 2CE5-2CEA 2CF9-2CFF 2E00-3004 3008-3020 3030 3037 303D-303F 30A0 30FB 31C0-31E5
  4DC0-4DFF A490-A4C6 A60D-A60F A673-A67F A700-A721 A788 A828-A82B A838-A839 A874-A877 AB6A-AB6B
  FD3E-FD4F FDCF-FE46 10101 10140-1018C 10190-101A0 1091F 10B39-10B3F 11052-11065 11660-1166C
  11FD5-11FF1 16FE2 1CC00-1CEF0 1D1E9-1D245 1D300-1D356 1E2FF 1EEF0-1F12F 1F16D-1F16F 1F1AD
  1F260-1FBFA"

/-- Nonspacing marks that count as letters written from left to right. -/
def leftMarks : CodeTable := .ofText "CBF CC6 11A07-11A08 11C3F"

namespace Direction

/-- The direction of a character. -/
def ofChar (c : Char) : Direction :=
  if c.toNat = 0x1171E ∨ (isNonspacing c ∧ !leftMarks.contains c) then mark
  else if rightLetters.contains c then right
  else if arabicLetters.contains c then arabic
  else if arabicNumbers.contains c then arabicNumber
  else if numbers.contains c then number
  else if neutrals.contains c then neutral
  else left

/-- Whether a character calls for text from right to left. -/
def isRightward (c : Char) : Bool :=
  if c.toNat < 0x80 then false else [right, arabic, arabicNumber].contains (ofChar c)

end Direction

/-- Whether a label keeps to its direction. -/
def isDirected (label : List Char) : Bool :=
  let directions := label.map Direction.ofChar
  let last? := (directions.reverse.dropWhile (· == .mark)).head?
  let ends (allowed : List Direction) : Bool := last?.all allowed.contains
  match directions with
  | [] => true
  | .left :: _ =>
    directions.all [.left, .number, .neutral, .mark].contains && ends [.left, .number]
  | .right :: _ | .arabic :: _ =>
    directions.all [.right, .arabic, .arabicNumber, .number, .neutral, .mark].contains
      && ends [.right, .arabic, .number, .arabicNumber]
      && !(directions.contains .number && directions.contains .arabicNumber)
  | _ => false

end ChainIdentity.Text
