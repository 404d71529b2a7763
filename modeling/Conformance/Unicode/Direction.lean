import Conformance.Unicode.Table
/-!
# Writing direction

The direction in which characters are written, and which labels of a name read the same wherever the name
stands (RFC 5893).
-/

namespace Conformance.Unicode

/-- How a character takes part in the direction of a text. -/
inductive Direction where
  | leftToRight
  | rightToLeft
  /-- a digit in a text from right to left -/
  | arabicNumber
  /-- a digit of the usual kind -/
  | europeanNumber
  /-- a mark, which goes with the character it stands on -/
  | mark
  | neutral
deriving DecidableEq, Repr

namespace Direction

/-- The directions of characters: 1 from right to left, 2 and 3 digits, 4 marks, 5 neutral ones. The
others are written from left to right. -/
def table : Table := .ofText "
0-2f:5 30-39:3 3a-60:5 7b-d7:5 f7:5 2b9-2ba:5 2c2-2cf:5 2d2-2ed:5 2ef-2ff:5 300-36f:4 375:5 3f6:5
483-489:4 58a-58f:5 591-5bd:4 5be:1 5bf:4 5c0:1 5c1-5c2:4 5c3:1 5c4-5c5:4 5c6:1 5c7:4 5d0-5f4:1 606-607:5
608:1 609-60a:5 60b:1 60c:5 60d:1 60e-60f:5 610-61a:4 61b-64a:1 64b-65f:4 660-669:2 66a:5 66b-66c:2
66d-66f:1 670:4 671-6d5:1 6d6-6dc:4 6de:5 6df-6e4:4 6e5-6e6:1 6e7-6e8:4 6e9:5 6ea-6ed:4 6ee-6ef:1
6f0-6f9:3 6fa-710:1 711:4 712-72f:1 730-74a:4 74d-7a5:1 7a6-7b0:4 7b1-7ea:1 7eb-7f3:4 7f4-7f5:1 7f6-7f9:5
7fa:1 7fd:4 7fe-815:1 816-819:4 81a:1 81b-823:4 824:1 825-827:4 828:1 829-82d:4 830-858:1 859-85b:4
85e-88f:1 897-89f:4 8a0-8c9:1 8ca-902:4 93a:4 93c:4 941-948:4 94d:4 951-957:4 962-963:4 981:4 9bc:4
9c1-9c4:4 9cd:4 9e2-9e3:4 9f2-9f3:5 9fb:5 9fe-a02:4 a3c:4 a41-a51:4 a70-a71:4 a75:4 a81-a82:4 abc:4
ac1-ac8:4 acd:4 ae2-ae3:4 af1:5 afa-b01:4 b3c:4 b3f:4 b41-b44:4 b4d-b56:4 b62-b63:4 b82:4 bc0:4 bcd:4
bf3-bfa:5 c00:4 c04:4 c3c:4 c3e-c40:4 c46-c56:4 c62-c63:4 c78-c7e:5 c81:4 cbc:4 ccc-ccd:4 ce2-ce3:4
d00-d01:4 d3b-d3c:4 d41-d44:4 d4d:4 d62-d63:4 d81:4 dca:4 dd2-dd6:4 e31:4 e34-e3a:4 e3f:5 e47-e4e:4 eb1:4
eb4-ebc:4 ec8-ece:4 f18-f19:4 f35:4 f37:4 f39:4 f3a-f3d:5 f71-f7e:4 f80-f84:4 f86-f87:4 f8d-fbc:4 fc6:4
102d-1030:4 1032-1037:4 1039-103a:4 103d-103e:4 1058-1059:4 105e-1060:4 1071-1074:4 1082:4 1085-1086:4
108d:4 109d:4 135d-135f:4 1390-1399:5 1400:5 169b-169c:5 1712-1714:4 1732-1733:4 1752-1753:4 1772-1773:4
17b7-17bd:4 17c6:4 17c9-17d3:4 17db:5 17dd:4 17f0-180a:5 1885-1886:4 18a9:4 1920-1922:4 1927-1928:4 1932:4
1939-193b:4 1940-1945:5 19de-19ff:5 1a17-1a18:4 1a1b:4 1a56:4 1a58-1a60:4 1a62:4 1a65-1a6c:4 1a73-1a7f:4
1ab0-1b03:4 1b34:4 1b36-1b3a:4 1b3c:4 1b42:4 1b6b-1b73:4 1b80-1b81:4 1ba2-1ba5:4 1ba8-1ba9:4 1bab-1bad:4
1be6:4 1be8-1be9:4 1bed:4 1bef-1bf1:4 1c2c-1c33:4 1c36-1c37:4 1cd0-1cd2:4 1cd4-1ce0:4 1ce2-1ce8:4 1ced:4
1cf4:4 1cf8-1cf9:4 1dc0-1dff:4 200c-20c1:5 20d0-20f0:4 2104-214d:5 218a-2335:5 237b-2394:5 2396-26ab:5
26ad-27ff:5 2900-2bff:5 2ce5-2cea:5 2cef-2cf1:4 2cf9-2cff:5 2d7f:4 2de0-2dff:4 2e00-3004:5 3008-3020:5
302a-302d:4 3030:5 3037:5 303d-303f:5 3099-309a:4 30a0:5 30fb:5 31c0-31e5:5 4dc0-4dff:5 a490-a4c6:5
a60d-a60f:5 a66f-a672:4 a673:5 a674-a67d:4 a67e-a67f:5 a69e-a69f:4 a6f0-a6f1:4 a700-a721:5 a788:5 a802:4
a806:4 a80b:4 a825-a826:4 a828-a82b:5 a82c:4 a838-a839:5 a874-a877:5 a8c4-a8c5:4 a8e0-a8f1:4 a8ff:4
a926-a92d:4 a947-a951:4 a980-a982:4 a9b3:4 a9b6-a9b9:4 a9bc-a9bd:4 a9e5:4 aa29-aa2e:4 aa31-aa32:4
aa35-aa36:4 aa43:4 aa4c:4 aa7c:4 aab0:4 aab2-aab4:4 aab7-aab8:4 aabe-aabf:4 aac1:4 aaec-aaed:4 aaf6:4
ab6a-ab6b:5 abe5:4 abe8:4 abed:4 fb1e:4 fbb2-fbc2:1 fbc3-fdff:5 fe20-fe2f:4 fe45-fe46:5 fe73:1 10101:5
10140-1018c:5 10190-101a0:5 101fd:4 102e0:4 102e1-102fb:3 10376-1037a:4 10800-1091b:1 1091f:5
10920-10a00:1 10a01-10a0f:4 10a10-10a35:1 10a38-10a3f:4 10a40-10ae4:1 10ae5-10ae6:4 10aeb-10b35:1
10b39-10b3f:5 10b40-10d23:1 10d24-10d27:4 10d30-10d49:2 10d4a-10d4f:1 10d69-10d6d:4 10d6e:5 10d6f-10d8f:1
10e60-10e7e:2 10e80-10ea9:1 10eab-10eac:4 10ead-10ec7:1 10ed0-10ed8:5 10efa-10eff:4 10f00-10f45:1
10f46-10f50:4 10f51-10f81:1 10f82-10f85:4 10f86-10ff6:1 11001:4 11038-11046:4 11052-11065:5 11070:4
11073-11074:4 1107f-11081:4 110b3-110b6:4 110b9-110ba:4 110c2:4 11100-11102:4 11127-1112b:4 1112d-11134:4
11173:4 11180-11181:4 111b6-111be:4 111c9-111cc:4 111cf:4 1122f-11231:4 11234:4 11236-11237:4 1123e:4
11241:4 112df:4 112e3-112ea:4 11300-11301:4 1133b-1133c:4 11340:4 11366-11374:4 113bb-113c0:4 113ce:4
113d0:4 113d2:4 113e1-113e2:4 11438-1143f:4 11442-11444:4 11446:4 1145e:4 114b3-114b8:4 114ba:4
114bf-114c0:4 114c2-114c3:4 115b2-115b5:4 115bc-115bd:4 115bf-115c0:4 115dc-115dd:4 11633-1163a:4 1163d:4
1163f-11640:4 11660-1166c:5 116ab:4 116ad:4 116b0-116b5:4 116b7:4 1171d-1171f:4 11722-11725:4
11727-1172b:4 1182f-11837:4 11839-1183a:4 1193b-1193c:4 1193e:4 11943:4 119d4-119db:4 119e0:4
11a01-11a06:4 11a09-11a0a:4 11a33-11a38:4 11a3b-11a3e:4 11a47:4 11a51-11a56:4 11a59-11a5b:4 11a8a-11a96:4
11a98-11a99:4 11b60:4 11b62-11b64:4 11b66:4 11c30-11c3d:4 11c92-11ca7:4 11caa-11cb0:4 11cb2-11cb3:4
11cb5-11cb6:4 11d31-11d45:4 11d47:4 11d90-11d91:4 11d95:4 11d97:4 11ef3-11ef4:4 11f00-11f01:4
11f36-11f3a:4 11f40:4 11f42:4 11f5a:4 11fd5-11ff1:5 13440:4 13447-13455:4 1611e-16129:4 1612d-1612f:4
16af0-16af4:4 16b30-16b36:4 16f4f:4 16f8f-16f92:4 16fe2:5 16fe4:4 1bc9d-1bc9e:4 1cc00-1cef0:5
1cf00-1cf46:4 1d167-1d169:4 1d17b-1d182:4 1d185-1d18b:4 1d1aa-1d1ad:4 1d1e9-1d241:5 1d242-1d244:4 1d245:5
1d300-1d356:5 1da00-1da36:4 1da3b-1da6c:4 1da75:4 1da84:4 1da9b-1daaf:4 1e000-1e08f:4 1e130-1e136:4
1e2ae:4 1e2ec-1e2ef:4 1e2ff:5 1e4ec-1e4ef:4 1e5ee-1e5ef:4 1e6e3:4 1e6e6:4 1e6ee-1e6ef:4 1e6f5:4
1e800-1e8cf:1 1e8d0-1e8d6:4 1e922-1e943:1 1e944-1e94a:4 1e94b-1ed3d:1 1eef0-1f12f:5 1f16d-1f16f:5 1f1ad:5
1f260-1fbfa:5"

/-- The direction of a character. -/
def ofChar (c : Char) : Direction :=
  match table.value c with
  | 1 => .rightToLeft
  | 2 => .arabicNumber
  | 3 => .europeanNumber
  | 4 => .mark
  | 5 => .neutral
  | _ => .leftToRight

/-- A character of a script from right to left. -/
def turns (c : Char) : Bool := ofChar c == .rightToLeft || ofChar c == .arabicNumber

/-- The last direction that is not that of a mark. -/
def last? (ds : List Direction) : Option Direction := ds.reverse.find? (· != .mark)

/-- A label from left to right stays so: no character turns it, and a letter or digit ends it. -/
def isLeftToRight (ds : List Direction) : Bool :=
  ds.all (fun d => d != .rightToLeft && d != .arabicNumber) &&
    (last? ds).any fun d => d == .leftToRight || d == .europeanNumber

/-- A label from right to left stays so: no character turns it, a letter or digit ends it, and its digits
are of one kind. -/
def isRightToLeft (ds : List Direction) : Bool :=
  ds.all (· != .leftToRight) &&
    (last? ds).any (fun d => d == .rightToLeft || d == .europeanNumber || d == .arabicNumber) &&
    !(ds.contains .europeanNumber && ds.contains .arabicNumber)

/-- A label that keeps its order beside others. -/
def isSteady (label : List Char) : Bool :=
  let ds := label.map ofChar
  match ds.head? with
  | none => true
  | some .leftToRight => isLeftToRight ds
  | some .rightToLeft => isRightToLeft ds
  | some _ => false

end Direction

end Conformance.Unicode
