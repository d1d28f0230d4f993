import Postbox.Text.Mark

/-!
# Direction — from which side characters are written

  Letters are written from left to right or from right to left, and so are numbers, which has to be
  known where both meet. Marks follow the character before them; all other characters are neutral.
-/

namespace Postbox.Text

/-- How a character takes part in the direction of a text. -/
inductive Direction
  | left
  | right
  | europeanNumber
  | arabicNumber
  | mark
  | neutral
deriving DecidableEq, Repr

namespace Direction

/-- Reads the note of a run. -/
def ofNote : List Char → Direction
  | [':', 'r'] => right
  | [':', 'e'] => europeanNumber
  | [':', 'a'] => arabicNumber
  | [':', 'm'] => mark
  | [':', 'n'] => neutral
  | _          => left

/-- The table of directions. Marks that take no room, and letters from left to right, are not
    there. -/
def runs : Runs Direction := .ofText ofNote
  "0-2F:n 30-39:e 3A-40:n 5B-60:n 7B-7F:n A1-BF:n D7:n F7:n 2B9-2BA:n 2C2-2CF:n 2D2-2ED:n
   2EF-2FF:n 375:n 3F6:n 58A-58F:n 5BE:r 5C0:r 5C3:r 5C6:r 5D0-5F4:r 606-607:n 608:r 609-60A:n
   60B:r 60C:n 60D:r 60E-60F:n 61B-64A:r 660-669:a 66A:n 66B-66C:a 66D-66F:r 671-6D5:r 6DE:n
   6E5-6E6:r 6E9:n 6EE-6EF:r 6F0-6F9:e 6FA-710:r 712-72F:r 74D-7A5:r 7B1:r 7C0-7EA:r 7F4-7F5:r
   7F6-7F9:n 7FA:r 7FE-815:r 81A:r 824:r 828:r 830-858:r 85E-88F:r 8A0-8C9:r 9F2-9F3:n 9FB:n
   AF1:n BF3-BFA:n C78-C7E:n CBF:l CC6:l E3F:n F3A-F3D:n 1390-1399:n 1400:n 169B-169C:n 17DB:n
   17F0-180A:n 1940-1945:n 19DE-19FF:n 200C-2027:n 2030-205E:n 20A0-20C1:n 2104-2108:n
   2114-212E:n 213A-214D:n 218A-2335:n 237B-2394:n 2396-2429:n 2440-244A:n 24EB-26AB:n
   26AD-27FF:n 2900-2BFF:n 2CE5-2CEA:n 2CF9-2CFF:n 2E00-2E5D:n 2E80-2EF2:n 3001-3004:n
   3008-3020:n 3030:n 3037:n 303D-303F:n 30A0:n 30FB:n 31C0-31E5:n 4DC0-4DFF:n A490-A4C6:n
   A60D-A60F:n A673:n A67E-A67F:n A700-A721:n A788:n A828-A82B:n A838-A839:n A874-A877:n
   AB6A-AB6B:n FBB2-FBC2:r FBC3-FBD2:n FD3E-FD4F:n FD90-FD91:n FDC8-FDCF:n FDFD-FDFF:n
   FE45-FE46:n FE73:r 10101:n 10140-1018C:n 10190-101A0:n 102E1-102FB:e 10800-1089E:r
   108A7-108AF:r 108E0-1091B:r 1091F:n 10920-10959:r 10980-10A00:r 10A10-10A35:r 10A40-10A9F:r
   10AC0-10AE4:r 10AEB-10AF6:r 10B00-10B35:r 10B39-10B3F:n 10B40-10B9C:r 10BA9-10BAF:r
   10C00-10C48:r 10CC0-10D23:r 10D30-10D49:a 10D4A-10D4F:r 10D6E:n 10D6F-10D85:r 10D8E-10D8F:r
   10E60-10E7E:a 10E80-10EA9:r 10EAD-10EB1:r 10EC2-10EC7:r 10ED0-10ED8:r 10F00-10F27:r
   10F30-10F45:r 10F51-10F59:r 10F70-10F81:r 10F86-10F89:r 10FB0-10FCB:r 10FE0-10FF6:r
   11052-11065:n 11660-1166C:n 11A07-11A08:l 11C3F:l 11FD5-11FF1:n 16FE2:n 1CC00-1CCD5:n
   1CCFA-1CED0:n 1CEE0-1CEF0:n 1D1E9-1D1EA:n 1D200-1D241:n 1D245:n 1D300-1D356:n 1E2FF:n
   1E800-1E8CF:r 1E922-1E943:r 1E94B-1E95F:r 1EC71-1ECB4:r 1ED01-1ED3D:r 1EEF0-1EEF1:n
   1F000-1F093:n 1F0A0-1F0F5:n 1F10B-1F10F:n 1F12F:n 1F16D-1F16F:n 1F1AD:n 1F260-1F265:n
   1F300-1F7F0:n 1F800-1F847:n 1F850-1F887:n 1F890-1F8C1:n 1F8D0-1F8D8:n 1F900-1FA57:n
   1FA60-1FBEF:n 1FBFA:n"

end Direction

/-- The direction of a character. -/
def direction (c : Char) : Direction :=
  (Direction.runs.value? c).getD (if isNonspacing c then .mark else .left)

end Postbox.Text
