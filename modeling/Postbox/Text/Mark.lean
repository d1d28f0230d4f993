import Postbox.Text.Runs

/-!
# Marks — characters that combine with the one before them

  A mark is written over, under, through or beside the character before it. Those beside it take
  room of their own. Marks at different places do not touch, so their sequence carries no meaning:
  each has an order, by which they can be arranged. Marks of order 0 keep their place. A virama,
  which takes the vowel of a letter away, has an order of its own.
-/

namespace Postbox.Text

/-- A mark: whether it takes room of its own, and its order. -/
structure Mark where
  isSpacing : Bool
  order     : Nat
deriving DecidableEq, Repr

namespace Mark

/-- Reads the note of a run: a plus sign if the marks take room of their own, and the order, which
    is 0 unless it is given behind a colon. -/
def ofNote (note : List Char) : Mark :=
  ⟨note.head? == some '+', Nat.ofDigitChars 10 (note.filter Char.isDigit) 0⟩

/-- The table of marks. -/
def runs : Runs Mark := .ofText ofNote
  "300-314:230 315:232 316-319:220 31A:232 31B:216 31C-320:220 321-322:202 323-326:220
   327-328:202 329-333:220 334-338:1 339-33C:220 33D-346:230 347-349:220 34A-34C:230 34D-34E:220
   350-352:230 353-356:220 357:230 358:232 359-35A:220 35B:230 35C:233 35D-35E:234 35F:233
   360-361:234 362:233 363-36F:230 483-487:230 488-489 591:220 592-595:230 596:220 597-599:230
   59A:222 59B:220 59C-5A1:230 5A2-5A7:220 5A8-5A9:230 5AA:220 5AB-5AC:230 5AD:222 5AE:228
   5AF:230 5B0:10 5B1:11 5B2:12 5B3:13 5B4:14 5B5:15 5B6:16 5B7:17 5B8:18 5B9-5BA:19 5BB:20
   5BC:21 5BD:22 5BF:23 5C1:24 5C2:25 5C4:230 5C5:220 5C7:18 610-617:230 618:30 619:31 61A:32
   64B:27 64C:28 64D:29 64E:30 64F:31 650:32 651:33 652:34 653-654:230 655-656:220 657-65B:230
   65C:220 65D-65E:230 65F:220 670:35 6D6-6DC:230 6DF-6E2:230 6E3:220 6E4:230 6E7-6E8:230 6EA:220
   6EB-6EC:230 6ED:220 711:36 730:230 731:220 732-733:230 734:220 735-736:230 737-739:220 73A:230
   73B-73C:220 73D:230 73E:220 73F-741:230 742:220 743:230 744:220 745:230 746:220 747:230
   748:220 749-74A:230 7A6-7B0 7EB-7F1:230 7F2:220 7F3:230 7FD:220 816-819:230 81B-823:230
   825-827:230 829-82D:230 859-85B:220 897-898:230 899-89B:220 89C-89F:230 8CA-8CE:230
   8CF-8D3:220 8D4-8E1:230 8E3:220 8E4-8E5:230 8E6:220 8E7-8E8:230 8E9:220 8EA-8EC:230
   8ED-8EF:220 8F0:27 8F1:28 8F2:29 8F3-8F5:230 8F6:220 8F7-8F8:230 8F9-8FA:220 8FB-8FF:230
   900-902 903+ 93A 93B+ 93C:7 93E-940+ 941-948 949-94C+ 94D:9 94E-94F+ 951:230 952:220
   953-954:230 955-957 962-963 981 982-983+ 9BC:7 9BE-9C0+ 9C1-9C4 9C7-9CC+ 9CD:9 9D7+ 9E2-9E3
   9FE:230 A01-A02 A03+ A3C:7 A3E-A40+ A41-A4C A4D:9 A51 A70-A71 A75 A81-A82 A83+ ABC:7 ABE-AC0+
   AC1-AC8 AC9-ACC+ ACD:9 AE2-AE3 AFA-B01 B02-B03+ B3C:7 B3E+ B3F B40+ B41-B44 B47-B4C+ B4D:9
   B55-B56 B57+ B62-B63 B82 BBE-BBF+ BC0 BC1-BCC+ BCD:9 BD7+ C00 C01-C03+ C04 C3C:7 C3E-C40
   C41-C44+ C46-C4C C4D:9 C55:84 C56:91 C62-C63 C81 C82-C83+ CBC:7 CBE+ CBF CC0-CC4+ CC6 CC7-CCB+
   CCC CCD:9 CD5-CD6+ CE2-CE3 CF3+ D00-D01 D02-D03+ D3B-D3C:9 D3E-D40+ D41-D44 D46-D4C+ D4D:9
   D57+ D62-D63 D81 D82-D83+ DCA:9 DCF-DD1+ DD2-DD6 DD8-DDF+ DF2-DF3+ E31 E34-E37 E38-E39:103
   E3A:9 E47 E48-E4B:107 E4C-E4E EB1 EB4-EB7 EB8-EB9:118 EBA:9 EBB-EBC EC8-ECB:122 ECC-ECE
   F18-F19:220 F35:220 F37:220 F39:216 F3E-F3F+ F71:129 F72:130 F74:132 F7A-F7D:130 F7E F7F+
   F80:130 F82-F83:230 F84:9 F86-F87:230 F8D-FBC FC6:220 102B-102C+ 102D-1030 1031+ 1032-1036
   1037:7 1038+ 1039-103A:9 103B-103C+ 103D-103E 1056-1057+ 1058-1059 105E-1060 1062-1064+
   1067-106D+ 1071-1074 1082 1083-1084+ 1085-1086 1087-108C+ 108D:220 108F+ 109A-109C+ 109D
   135D-135F:230 1712-1713 1714:9 1715+:9 1732-1733 1734+:9 1752-1753 1772-1773 17B6+ 17B7-17BD
   17BE-17C5+ 17C6 17C7-17C8+ 17C9-17D1 17D2:9 17D3 17DD:230 1885-1886 18A9:228 1920-1922
   1923-1926+ 1927-1928 1929-1931+ 1932 1933-1938+ 1939:222 193A:230 193B:220 1A17:230 1A18:220
   1A19-1A1A+ 1A1B 1A55+ 1A56 1A57+ 1A58-1A5E 1A60:9 1A61+ 1A62 1A63-1A64+ 1A65-1A6C 1A6D-1A72+
   1A73-1A74 1A75-1A7C:230 1A7F:220 1AB0-1AB4:230 1AB5-1ABA:220 1ABB-1ABC:230 1ABD:220 1ABE
   1ABF-1AC0:220 1AC1-1AC2:230 1AC3-1AC4:220 1AC5-1AC9:230 1ACA:220 1ACB-1ADC:230 1ADD:220
   1AE0-1AE5:230 1AE6:220 1AE7-1AEA:230 1AEB:234 1B00-1B03 1B04+ 1B34:7 1B35+ 1B36-1B3A 1B3B+
   1B3C 1B3D-1B41+ 1B42 1B43+ 1B44+:9 1B6B:230 1B6C:220 1B6D-1B73:230 1B80-1B81 1B82+ 1BA1+
   1BA2-1BA5 1BA6-1BA7+ 1BA8-1BA9 1BAA+:9 1BAB:9 1BAC-1BAD 1BE6:7 1BE7+ 1BE8-1BE9 1BEA-1BEC+ 1BED
   1BEE+ 1BEF-1BF1 1BF2-1BF3+:9 1C24-1C2B+ 1C2C-1C33 1C34-1C35+ 1C36 1C37:7 1CD0-1CD2:230 1CD4:1
   1CD5-1CD9:220 1CDA-1CDB:230 1CDC-1CDF:220 1CE0:230 1CE1+ 1CE2-1CE8:1 1CED:220 1CF4:230 1CF7+
   1CF8-1CF9:230 1DC0-1DC1:230 1DC2:220 1DC3-1DC9:230 1DCA:220 1DCB-1DCC:230 1DCD:234 1DCE:214
   1DCF:220 1DD0:202 1DD1-1DF5:230 1DF6:232 1DF7-1DF8:228 1DF9:220 1DFA:218 1DFB:230 1DFC:233
   1DFD:220 1DFE:230 1DFF:220 20D0-20D1:230 20D2-20D3:1 20D4-20D7:230 20D8-20DA:1 20DB-20DC:230
   20DD-20E0 20E1:230 20E2-20E4 20E5-20E6:1 20E7:230 20E8:220 20E9:230 20EA-20EB:1 20EC-20EF:220
   20F0:230 2CEF-2CF1:230 2D7F:9 2DE0-2DFF:230 302A:218 302B:228 302C:232 302D:222 302E-302F+:224
   3099-309A:8 A66F:230 A670-A672 A674-A67D:230 A69E-A69F:230 A6F0-A6F1:230 A802 A806:9 A80B
   A823-A824+ A825-A826 A827+ A82C:9 A880-A881+ A8B4-A8C3+ A8C4:9 A8C5 A8E0-A8F1:230 A8FF
   A926-A92A A92B-A92D:220 A947-A951 A952+ A953+:9 A980-A982 A983+ A9B3:7 A9B4-A9B5+ A9B6-A9B9
   A9BA-A9BB+ A9BC-A9BD A9BE-A9BF+ A9C0+:9 A9E5 AA29-AA2E AA2F-AA30+ AA31-AA32 AA33-AA34+
   AA35-AA36 AA43 AA4C AA4D+ AA7B+ AA7C AA7D+ AAB0:230 AAB2-AAB3:230 AAB4:220 AAB7-AAB8:230
   AABE-AABF:230 AAC1:230 AAEB+ AAEC-AAED AAEE-AAEF+ AAF5+ AAF6:9 ABE3-ABE4+ ABE5 ABE6-ABE7+ ABE8
   ABE9-ABEA+ ABEC+ ABED:9 FB1E:26 FE20-FE26:230 FE27-FE2D:220 FE2E-FE2F:230 101FD:220 102E0:220
   10376-1037A:230 10A01-10A0C 10A0D:220 10A0E 10A0F:230 10A38:230 10A39:1 10A3A:220 10A3F:9
   10AE5:230 10AE6:220 10D24-10D27:230 10D69-10D6D:230 10EAB-10EAC:230 10EFA-10EFB:220 10EFC
   10EFD-10EFF:220 10F46-10F47:220 10F48-10F4A:230 10F4B:220 10F4C:230 10F4D-10F50:220 10F82:230
   10F83:220 10F84:230 10F85:220 11000+ 11001 11002+ 11038-11045 11046:9 11070:9 11073-11074
   1107F:9 11080-11081 11082+ 110B0-110B2+ 110B3-110B6 110B7-110B8+ 110B9:9 110BA:7 110C2
   11100-11102:230 11127-1112B 1112C+ 1112D-11132 11133-11134:9 11145-11146+ 11173:7 11180-11181
   11182+ 111B3-111B5+ 111B6-111BE 111BF+ 111C0+:9 111C9 111CA:7 111CB-111CC 111CE+ 111CF
   1122C-1122E+ 1122F-11231 11232-11233+ 11234 11235+:9 11236:7 11237 1123E 11241 112DF
   112E0-112E2+ 112E3-112E8 112E9:7 112EA:9 11300-11301 11302-11303+ 1133B-1133C:7 1133E-1133F+
   11340 11341-1134C+ 1134D+:9 11357+ 11362-11363+ 11366-11374:230 113B8-113BA+ 113BB-113C0
   113C2-113CD+ 113CE:9 113CF+:9 113D0:9 113D2 113E1-113E2:230 11435-11437+ 11438-1143F
   11440-11441+ 11442:9 11443-11444 11445+ 11446:7 1145E:230 114B0-114B2+ 114B3-114B8 114B9+
   114BA 114BB-114BE+ 114BF-114C0 114C1+ 114C2:9 114C3:7 115AF-115B1+ 115B2-115B5 115B8-115BB+
   115BC-115BD 115BE+ 115BF:9 115C0:7 115DC-115DD 11630-11632+ 11633-1163A 1163B-1163C+ 1163D
   1163E+ 1163F:9 11640 116AB 116AC+ 116AD 116AE-116AF+ 116B0-116B5 116B6+:9 116B7:7 1171D 1171E+
   1171F 11720-11721+ 11722-11725 11726+ 11727-1172A 1172B:9 1182C-1182E+ 1182F-11837 11838+
   11839:9 1183A:7 11930-11938+ 1193B-1193C 1193D+:9 1193E:9 11940+ 11942+ 11943:7 119D1-119D3+
   119D4-119DB 119DC-119DF+ 119E0:9 119E4+ 11A01-11A0A 11A33 11A34:9 11A35-11A38 11A39+
   11A3B-11A3E 11A47:9 11A51-11A56 11A57-11A58+ 11A59-11A5B 11A8A-11A96 11A97+ 11A98 11A99:9
   11B60 11B61+ 11B62-11B64 11B65+ 11B66 11B67+ 11C2F+ 11C30-11C3D 11C3E+ 11C3F:9 11C92-11CA7
   11CA9+ 11CAA-11CB0 11CB1+ 11CB2-11CB3 11CB4+ 11CB5-11CB6 11D31-11D41 11D42:7 11D43
   11D44-11D45:9 11D47 11D8A-11D8E+ 11D90-11D91 11D93-11D94+ 11D95 11D96+ 11D97:9 11EF3-11EF4
   11EF5-11EF6+ 11F00-11F01 11F03+ 11F34-11F35+ 11F36-11F3A 11F3E-11F3F+ 11F40 11F41+:9 11F42:9
   11F5A 13440 13447-13455 1611E-16129 1612A-1612C+ 1612D-1612E 1612F:9 16AF0-16AF4:1
   16B30-16B36:230 16F4F 16F51-16F87+ 16F8F-16F92 16FE4 16FF0-16FF1+:6 1BC9D 1BC9E:1 1CF00-1CF46
   1D165-1D166+:216 1D167-1D169:1 1D16D+:226 1D16E-1D172+:216 1D17B-1D182:220 1D185-1D189:230
   1D18A-1D18B:220 1D1AA-1D1AD:230 1D242-1D244:230 1DA00-1DA36 1DA3B-1DA6C 1DA75 1DA84
   1DA9B-1DAAF 1E000-1E02A:230 1E08F:230 1E130-1E136:230 1E2AE:230 1E2EC-1E2EF:230
   1E4EC-1E4ED:232 1E4EE:220 1E4EF:230 1E5EE:230 1E5EF:220 1E6E3:230 1E6E6:230 1E6EE-1E6EF:230
   1E6F5:230 1E8D0-1E8D6:220 1E944-1E949:230 1E94A:7"

end Mark

/-- The mark that a character is, if it is one. None of ASCII is. -/
def mark? (c : Char) : Option Mark := if c.toNat < 0x300 then none else Mark.runs.value? c

/-- Whether a character is a mark. -/
def isMark (c : Char) : Bool := (mark? c).isSome

/-- Whether a character is a mark that takes no room. -/
def isNonspacing (c : Char) : Bool := (mark? c).any fun m => !m.isSpacing

/-- The order of a character among marks; 0 for one that is none. -/
def markOrder (c : Char) : Nat := ((mark? c).map Mark.order).getD 0

/-- Whether a character is a virama. -/
def isVirama (c : Char) : Bool := markOrder c == 9

end Postbox.Text
