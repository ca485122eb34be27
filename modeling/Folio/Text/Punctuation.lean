import Folio.Text.CodePoints

/-!
# Punctuation

ASCII punctuation, and the Unicode punctuation and symbol categories beyond ASCII.
-/

namespace Folio.Text

/-- ASCII punctuation: every printing ASCII character that is neither a letter nor a digit. -/
def isAsciiPunctuation (c : Char) : Bool :=
  let n := c.toNat
  (0x21 ≤ n && n ≤ 0x2F) || (0x3A ≤ n && n ≤ 0x40) || (0x5B ≤ n && n ≤ 0x60) ||
    (0x7B ≤ n && n ≤ 0x7E)

/-- The code points beyond ASCII of the punctuation and symbol categories. -/
def widePunctuation : CodePoints := CodePoints.ofTable
  "A1-A9 AB-AC AE-B1 B4 B6-B8 BB BF D7 F7 2C2-2C5 2D2-2DF 2E5-2EB 2ED 2EF-2FF 375 37E 384-385 387
   3F6 482 55A-55F 589-58A 58D-58F 5BE 5C0 5C3 5C6 5F3-5F4 606-60F 61B 61D-61F 66A-66D 6D4 6DE
   6E9 6FD-6FE 700-70D 7F6-7F9 7FE-7FF 830-83E 85E 888 964-965 970 9F2-9F3 9FA-9FB 9FD A76
   AF0-AF1 B70 BF3-BFA C77 C7F C84 D4F D79 DF4 E3F E4F E5A-E5B F01-F17 F1A-F1F F34~F38 F3A-F3D
   F85 FBE-FC5 FC7-FCC FCE-FDA 104A-104F 109E-109F 10FB 1360-1368 1390-1399 1400 166D-166E
   169B-169C 16EB-16ED 1735-1736 17D4-17D6 17D8-17DB 1800-180A 1940 1944-1945 19DE-19FF 1A1E-1A1F
   1AA0-1AA6 1AA8-1AAD 1B4E-1B4F 1B5A-1B6A 1B74-1B7F 1BFC-1BFF 1C3B-1C3F 1C7E-1C7F 1CC0-1CC7 1CD3
   1FBD 1FBF-1FC1 1FCD-1FCF 1FDD-1FDF 1FED-1FEF 1FFD-1FFE 2010-2027 2030-205E 207A-207E 208A-208E
   20A0-20C0 2100-2101 2103-2106 2108-2109 2114 2116-2118 211E-2123 2125~2129 212E 213A-213B
   2140-2144 214A-214D 214F 218A-218B 2190-2429 2440-244A 249C-24E9 2500-2775 2794-2B73 2B76-2B95
   2B97-2BFF 2CE5-2CEA 2CF9-2CFC 2CFE-2CFF 2D70 2E00-2E2E 2E30-2E5D 2E80-2E99 2E9B-2EF3 2F00-2FD5
   2FF0-2FFF 3001-3004 3008-3020 3030 3036-3037 303D-303F 309B-309C 30A0 30FB 3190-3191 3196-319F
   31C0-31E5 31EF 3200-321E 322A-3247 3250 3260-327F 328A-32B0 32C0-33FF 4DC0-4DFF A490-A4C6
   A4FE-A4FF A60D-A60F A673 A67E A6F2-A6F7 A700-A716 A720-A721 A789-A78A A828-A82B A836-A839
   A874-A877 A8CE-A8CF A8F8-A8FA A8FC A92E-A92F A95F A9C1-A9CD A9DE-A9DF AA5C-AA5F AA77-AA79
   AADE-AADF AAF0-AAF1 AB5B AB6A-AB6B ABEB FB29 FBB2-FBC2 FD3E-FD4F FDCF FDFC-FDFF FE10-FE19
   FE30-FE52 FE54-FE66 FE68-FE6B FF01-FF0F FF1A-FF20 FF3B-FF40 FF5B-FF65 FFE0-FFE6 FFE8-FFEE
   FFFC-FFFD 10100-10102 10137-1013F 10179-10189 1018C-1018E 10190-1019C 101A0 101D0-101FC 1039F
   103D0 1056F 10857 10877-10878 1091F 1093F 10A50-10A58 10A7F 10AC8 10AF0-10AF6 10B39-10B3F
   10B99-10B9C 10D6E 10D8E-10D8F 10EAD 10F55-10F59 10F86-10F89 11047-1104D 110BB-110BC
   110BE-110C1 11140-11143 11174-11175 111C5-111C8 111CD 111DB 111DD-111DF 11238-1123D 112A9
   113D4-113D5 113D7-113D8 1144B-1144F 1145A-1145B 1145D 114C6 115C1-115D7 11641-11643
   11660-1166C 116B9 1173C-1173F 1183B 11944-11946 119E2 11A3F-11A46 11A9A-11A9C 11A9E-11AA2
   11B00-11B09 11BE1 11C41-11C45 11C70-11C71 11EF7-11EF8 11F43-11F4F 11FD5-11FF1 11FFF
   12470-12474 12FF1-12FF2 16A6E-16A6F 16AF5 16B37-16B3F 16B44-16B45 16D6D-16D6F 16E97-16E9A
   16FE2 1BC9C 1BC9F 1CC00-1CCEF 1CD00-1CEB3 1CF50-1CFC3 1D000-1D0F5 1D100-1D126 1D129-1D164
   1D16A-1D16C 1D183-1D184 1D18C-1D1A9 1D1AE-1D1EA 1D200-1D241 1D245 1D300-1D356 1D6C1 1D6DB
   1D6FB 1D715 1D735 1D74F 1D76F 1D789 1D7A9 1D7C3 1D800-1D9FF 1DA37-1DA3A 1DA6D-1DA74
   1DA76-1DA83 1DA85-1DA8B 1E14F 1E2FF 1E5FF 1E95E-1E95F 1ECAC 1ECB0 1ED2E 1EEF0-1EEF1
   1F000-1F02B 1F030-1F093 1F0A0-1F0AE 1F0B1-1F0BF 1F0C1-1F0CF 1F0D1-1F0F5 1F10D-1F1AD
   1F1E6-1F202 1F210-1F23B 1F240-1F248 1F250-1F251 1F260-1F265 1F300-1F6D7 1F6DC-1F6EC
   1F6F0-1F6FC 1F700-1F776 1F77B-1F7D9 1F7E0-1F7EB 1F7F0 1F800-1F80B 1F810-1F847 1F850-1F859
   1F860-1F887 1F890-1F8AD 1F8B0-1F8BB 1F8C0-1F8C1 1F900-1FA53 1FA60-1FA6D 1FA70-1FA7C
   1FA80-1FA89 1FA8F-1FAC6 1FACE-1FADC 1FADF-1FAE9 1FAF0-1FAF8 1FB00-1FB92 1FB94-1FBEF"

/-- A punctuation or symbol character. -/
def isPunctuation (c : Char) : Bool :=
  if c.toNat < 128 then isAsciiPunctuation c else widePunctuation.contains c

end Folio.Text
