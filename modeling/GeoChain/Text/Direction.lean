import GeoChain.Text.Mark

/-!
# Directions

A character is written from left to right or from right to left, or it follows its surroundings: the
two kinds of digits, marks, and signs without a direction each in a way of their own. The directions
are classes of the property Bidi_Class, with the letters of all scripts that run to the left as one
class, and with separators, terminators and other signs as one.
-/

namespace GeoChain

namespace Text

inductive Direction where
  | rightward
  | leftward
  | europeanDigit
  | arabicDigit
  | mark
  | neutral
deriving DecidableEq, Repr

namespace Direction

def ofLabel : List Char → Direction
  | ['r'] => leftward
  | ['a'] => arabicDigit
  | ['e'] => europeanDigit
  | _ => neutral

/-- What is neither written from left to right nor a mark, beyond ASCII. -/
def table : Table Direction := Table.ofText ofLabel "
80-84:o 86-a9:o ab-b1:o b2-b3:e b4:o b6-b8:o b9:e bb-bf:o d7:o f7:o 2b9-2ba:o 2c2-2cf:o 2d2-2df:o
2e5-2ed:o 2ef-2ff:o 374-375:o 37e:o 384-385:o 387:o 3f6:o 58a:o 58d-58f:o 5be:r 5c0:r 5c3:r 5c6:r
5d0-5ea:r 5ef-5f4:r 600-605:a 606-607:o 608:r 609-60a:o 60b:r 60c:o 60d:r 60e-60f:o 61b-64a:r
660-669:a 66a:o 66b-66c:a 66d-66f:r 671-6d5:r 6dd:a 6de:o 6e5-6e6:r 6e9:o 6ee-6ef:r 6f0-6f9:e
6fa-70d:r 70f-710:r 712-72f:r 74d-7a5:r 7b1:r 7c0-7ea:r 7f4-7f5:r 7f6-7f9:o 7fa:r 7fe-815:r 81a:r
824:r 828:r 830-83e:r 840-858:r 85e:r 860-86a:r 870-88f:r 890-891:a 8a0-8c9:r 8e2:a 9f2-9f3:o
9fb:o af1:o bf3-bfa:o c78-c7e:o e3f:o f3a-f3d:o 1390-1399:o 1400:o 169b-169c:o 17db:o 17f0-17f9:o
1800-180a:o 180e:o 1940:o 1944-1945:o 19de-19ff:o 1fbd:o 1fbf-1fc1:o 1fcd-1fcf:o 1fdd-1fdf:o
1fed-1fef:o 1ffd-1ffe:o 200b-200d:o 200f:r 2010-2027:o 202f-205e:o 2060-2064:o 206a-206f:o 2070:e
2074-2079:e 207a-207e:o 2080-2089:e 208a-208f:o 20a0-20c4:o 2100-2101:o 2103-2106:o 2108-2109:o
2114:o 2116-2118:o 211e-2123:o 2125:o 2127:o 2129:o 212e:o 213a-213b:o 2140-2144:o 214a-214d:o
2150-215f:o 2189-218b:o 2190-2335:o 237b-2394:o 2396-2429:o 2440-244a:o 2460-2487:o 2488-249b:e
24ea-26ab:o 26ad-27ff:o 2900-2b73:o 2b76-2bff:o 2ce5-2cea:o 2cf9-2cff:o 2e00-2e5d:o 2e60-2e63:o
2e80-2e99:o 2e9b-2ef3:o 2f00-2fd5:o 2ff0-2fff:o 3001-3004:o 3008-3020:o 3030:o 3036-3037:o
303d-303f:o 309b-309c:o 30a0:o 30fb:o 31c0-31e5:o 31ef:o 321d-321e:o 3250-325f:o 327c-327e:o
32b1-32bf:o 32cc-32cf:o 3377-337a:o 33de-33df:o 33ff:o 4dc0-4dff:o a490-a4c6:o a60d-a60f:o a673:o
a67e-a67f:o a700-a721:o a788:o a828-a82b:o a838-a839:o a874-a877:o ab6a-ab6b:o fb1d:r fb1f-fb28:r
fb29:o fb2a-fb36:r fb38-fb3c:r fb3e:r fb40-fb41:r fb43-fb44:r fb46-fbc2:r fbc3-fbd2:o fbd3-fd3d:r
fd3e-fd4f:o fd50-fd8f:r fd90-fd91:o fd92-fdc7:r fdc8-fdcf:o fdf0-fdfc:r fdfd-fdff:o fe10-fe19:o
fe30-fe52:o fe54-fe66:o fe68-fe6b:o fe70-fe74:r fe76-fefc:r feff:o ff01-ff0f:o ff10-ff19:e
ff1a-ff20:o ff3b-ff40:o ff5b-ff65:o ffe0-ffe6:o ffe8-ffee:o fff9-fffd:o 10101:o 10140-1018c:o
10190-1019c:o 101a0:o 102e1-102fb:e 10800-10805:r 10808:r 1080a-10835:r 10837-10838:r 1083c:r
1083f-10855:r 10857-1089e:r 108a7-108af:r 108e0-108f2:r 108f4-108f5:r 108fb-1091b:r 1091f:o
10920-10939:r 1093f-10959:r 10980-109b7:r 109bc-109cf:r 109d2-10a00:r 10a10-10a13:r 10a15-10a17:r
10a19-10a35:r 10a40-10a48:r 10a50-10a58:r 10a60-10a9f:r 10ac0-10ae4:r 10aeb-10af6:r 10b00-10b35:r
10b39-10b3f:o 10b40-10b55:r 10b58-10b72:r 10b78-10b91:r 10b99-10b9c:r 10ba9-10baf:r 10c00-10c48:r
10c80-10cb2:r 10cc0-10cf2:r 10cfa-10d23:r 10d30-10d39:a 10d40-10d49:a 10d4a-10d65:r 10d6e:o
10d6f-10d85:r 10d8e-10d8f:r 10e60-10e7e:a 10e80-10ea9:r 10ead:r 10eb0-10eb1:r 10ec2-10eca:r
10ed0-10ed8:o 10ed9-10eee:r 10f00-10f27:r 10f30-10f45:r 10f51-10f59:r 10f70-10f81:r 10f86-10f89:r
10fb0-10fcb:r 10fe0-10ff6:r 11052-11065:o 11660-1166c:o 11fd5-11ff1:o 16fe2:o 1bca0-1bca3:o
1cc00-1ccef:o 1ccf0-1ccf9:e 1ccfa-1ccfc:o 1cd00-1ceb3:o 1ceba-1ced0:o 1ced2-1ced4:o 1cee0-1cef0:o
1d173-1d17a:o 1d1e9-1d1ea:o 1d200-1d241:o 1d245:o 1d300-1d356:o 1d6db:o 1d715:o 1d74f:o 1d789:o
1d7c3:o 1d7ce-1d7ff:e 1db00-1db1a:o 1e2ff:o 1e800-1e8c4:r 1e8c7-1e8cf:r 1e900-1e943:r 1e94b:r
1e950-1e959:r 1e95e-1e95f:r 1ec71-1ecb4:r 1ed01-1ed3d:r 1ee00-1ee03:r 1ee05-1ee1f:r 1ee21-1ee22:r
1ee24:r 1ee27:r 1ee29-1ee32:r 1ee34-1ee37:r 1ee39:r 1ee3b:r 1ee42:r 1ee47:r 1ee49:r 1ee4b:r
1ee4d-1ee4f:r 1ee51-1ee52:r 1ee54:r 1ee57:r 1ee59:r 1ee5b:r 1ee5d:r 1ee5f:r 1ee61-1ee62:r 1ee64:r
1ee67-1ee6a:r 1ee6c-1ee72:r 1ee74-1ee77:r 1ee79-1ee7c:r 1ee7e:r 1ee80-1ee89:r 1ee8b-1ee9b:r
1eea1-1eea3:r 1eea5-1eea9:r 1eeab-1eebb:r 1eef0-1eef1:o 1f000-1f02b:o 1f030-1f093:o 1f0a0-1f0ae:o
1f0b1-1f0bf:o 1f0c1-1f0cf:o 1f0d1-1f0f5:o 1f100-1f10a:e 1f10b-1f10f:o 1f12f:o 1f16a-1f16f:o
1f1ad-1f1ae:o 1f260-1f265:o 1f300-1f6d9:o 1f6dc-1f6ec:o 1f6f0-1f6fc:o 1f700-1f7db:o 1f7e0-1f7eb:o
1f7f0-1f80b:o 1f810-1f847:o 1f850-1f859:o 1f860-1f887:o 1f890-1f8ad:o 1f8b0-1f8bb:o 1f8c0-1f8c1:o
1f8d0-1f8d8:o 1f900-1fa57:o 1fa60-1fa6d:o 1fa70-1fa7c:o 1fa80-1fac6:o 1fac8:o 1facc-1fadd:o
1fadf-1faeb:o 1faef-1fafa:o 1fb00-1fb92:o 1fb94-1fbef:o 1fbf0-1fbf9:e 1fbfa:o e0001:o
e0020-e007f:o"

/-- Marks without room that still have the direction of their script. -/
def rightwardMarks : List Nat := [0xcbf, 0xcc6, 0x11a07, 0x11a08, 0x11c3f]

def ofAscii (c : Char) : Direction :=
  if c.isAlpha then rightward else if c.isDigit then europeanDigit else neutral

def ofChar (c : Char) : Direction :=
  if c.toNat < 0x80 then ofAscii c
  else if isNonspacingMark c then
    if rightwardMarks.contains c.toNat then rightward else mark
  else (table.value? c).getD rightward

/-- Directions that stand in no text that runs from left to right all along. -/
def needsOrder : Direction → Bool
  | leftward | arabicDigit => true
  | _ => false

end Direction

end Text

end GeoChain
