import Conformance.Unicode.Table
/-!
# General categories

Every character has one of thirty categories. Groups of them have names of their own, and the classes of
letters, digits and blanks in patterns are made of them.
-/

namespace Conformance.Unicode.Category

/-- The categories by short and long name, in the order in which tables number them from 1. -/
def names : List (String × String) := [
  ("lu", "uppercaseletter"), ("ll", "lowercaseletter"), ("lt", "titlecaseletter"),
  ("lm", "modifierletter"), ("lo", "otherletter"), ("mn", "nonspacingmark"), ("mc", "spacingmark"),
  ("me", "enclosingmark"), ("nd", "decimalnumber"), ("nl", "letternumber"), ("no", "othernumber"),
  ("pc", "connectorpunctuation"), ("pd", "dashpunctuation"), ("ps", "openpunctuation"),
  ("pe", "closepunctuation"), ("pi", "initialpunctuation"), ("pf", "finalpunctuation"),
  ("po", "otherpunctuation"), ("sm", "mathsymbol"), ("sc", "currencysymbol"), ("sk", "modifiersymbol"),
  ("so", "othersymbol"), ("zs", "spaceseparator"), ("zl", "lineseparator"),
  ("zp", "paragraphseparator"), ("cc", "control"), ("cf", "format"), ("cs", "surrogate"),
  ("co", "privateuse")]

/-- The groups of categories by short and long name, with the first letter of what belongs to them. -/
def groups : List (String × String × Char) := [
  ("l", "letter", 'l'), ("m", "mark", 'm'), ("n", "number", 'n'), ("p", "punctuation", 'p'),
  ("s", "symbol", 's'), ("z", "separator", 'z'), ("c", "other", 'c')]

/-- The categories of characters. Characters of no entry are unassigned. -/
def table : Table := .ofText "
0-1f:1a 20:17 21-23:12 24:14 25-27:12 28:e 29:f 2a:12 2b:13 2c:12 2d:d 2e-2f:12 30-39:9 3a-3b:12 3c-3e:13
3f-40:12 41-5a:1 5b:e 5c:12 5d:f 5e:15 5f:c 60:15 61-7a:2 7b:e 7c:13 7d:f 7e:13 7f-9f:1a a0:17 a1:12
a2-a5:14 a6:16 a7:12 a8:15 a9:16 aa:5 ab:10 ac:13 ad:1b ae:16 af:15 b0:16 b1:13 b2-b3:b b4:15 b5:2
b6-b7:12 b8:15 b9:b ba:5 bb:11 bc-be:b bf:12 c0-d6:1 d7:13 d8-de:1 df-f6:2 f7:13 f8-ff:2 100/136:1
101/135:2 137-138:2 139/147:1 13a/146:2 148-149:2 14a/176:1 14b/177:2 178-179:1 17a/17c:2 17b/17d:1
17e-180:2 181-182:1 183:2 184:1 185:2 186-187:1 188:2 189-18b:1 18c-18d:2 18e-191:1 192:2 193-194:1 195:2
196-198:1 199-19b:2 19c-19d:1 19e:2 19f-1a0:1 1a1/1a5:2 1a2/1a4:1 1a6-1a7:1 1a8:2 1a9:1 1aa-1ab:2 1ac:1
1ad:2 1ae-1af:1 1b0:2 1b1-1b3:1 1b4:2 1b5:1 1b6:2 1b7-1b8:1 1b9-1ba:2 1bb:5 1bc:1 1bd-1bf:2 1c0-1c3:5
1c4:1 1c5:3 1c6:2 1c7:1 1c8:3 1c9:2 1ca:1 1cb:3 1cc/1da:2 1cd/1db:1 1dc-1dd:2 1de/1ee:1 1df/1ed:2
1ef-1f0:2 1f1:1 1f2:3 1f3:2 1f4:1 1f5:2 1f6-1f8:1 1f9/231:2 1fa/232:1 233-239:2 23a-23b:1 23c:2 23d-23e:1
23f-240:2 241:1 242:2 243-246:1 247/24d:2 248/24e:1 24f-293:2 294:5 295-2af:2 2b0-2c1:4 2c2-2c5:15
2c6-2d1:4 2d2-2df:15 2e0-2e4:4 2e5-2eb:15 2ec:4 2ed:15 2ee:4 2ef-2ff:15 300-36f:6 370/372:1 371/373:2
374:4 375:15 376:1 377:2 37a:4 37b-37d:2 37e:12 37f:1 384-385:15 386:1 387:12 388-38a:1 38c:1 38e-38f:1
390:2 391-3a1:1 3a3-3ab:1 3ac-3ce:2 3cf:1 3d0-3d1:2 3d2-3d4:1 3d5-3d7:2 3d8/3ee:1 3d9/3ed:2 3ef-3f3:2
3f4:1 3f5:2 3f6:13 3f7:1 3f8:2 3f9-3fa:1 3fb-3fc:2 3fd-42f:1 430-45f:2 460/480:1 461/481:2 482:16
483-487:6 488-489:8 48a/4be:1 48b/4bf:2 4c0-4c1:1 4c2/4cc:2 4c3/4cd:1 4ce-4cf:2 4d0/52e:1 4d1/52f:2
531-556:1 559:4 55a-55f:12 560-588:2 589:12 58a:d 58d-58e:16 58f:14 591-5bd:6 5be:d 5bf:6 5c0:12 5c1-5c2:6
5c3:12 5c4-5c5:6 5c6:12 5c7:6 5d0-5ea:5 5ef-5f2:5 5f3-5f4:12 600-605:1b 606-608:13 609-60a:12 60b:14
60c-60d:12 60e-60f:16 610-61a:6 61b:12 61c:1b 61d-61f:12 620-63f:5 640:4 641-64a:5 64b-65f:6 660-669:9
66a-66d:12 66e-66f:5 670:6 671-6d3:5 6d4:12 6d5:5 6d6-6dc:6 6dd:1b 6de:16 6df-6e4:6 6e5-6e6:4 6e7-6e8:6
6e9:16 6ea-6ed:6 6ee-6ef:5 6f0-6f9:9 6fa-6fc:5 6fd-6fe:16 6ff:5 700-70d:12 70f:1b 710:5 711:6 712-72f:5
730-74a:6 74d-7a5:5 7a6-7b0:6 7b1:5 7c0-7c9:9 7ca-7ea:5 7eb-7f3:6 7f4-7f5:4 7f6:16 7f7-7f9:12 7fa:4 7fd:6
7fe-7ff:14 800-815:5 816-819:6 81a:4 81b-823:6 824:4 825-827:6 828:4 829-82d:6 830-83e:12 840-858:5
859-85b:6 85e:12 860-86a:5 870-887:5 888:15 889-88e:5 890-891:1b 898-89f:6 8a0-8c8:5 8c9:4 8ca-8e1:6
8e2:1b 8e3-902:6 903:7 904-939:5 93a:6 93b:7 93c:6 93d:5 93e-940:7 941-948:6 949-94c:7 94d:6 94e-94f:7
950:5 951-957:6 958-961:5 962-963:6 964-965:12 966-96f:9 970:12 971:4 972-980:5 981:6 982-983:7 985-98c:5
98f-990:5 993-9a8:5 9aa-9b0:5 9b2:5 9b6-9b9:5 9bc:6 9bd:5 9be-9c0:7 9c1-9c4:6 9c7-9c8:7 9cb-9cc:7 9cd:6
9ce:5 9d7:7 9dc-9dd:5 9df-9e1:5 9e2-9e3:6 9e6-9ef:9 9f0-9f1:5 9f2-9f3:14 9f4-9f9:b 9fa:16 9fb:14 9fc:5
9fd:12 9fe:6 a01-a02:6 a03:7 a05-a0a:5 a0f-a10:5 a13-a28:5 a2a-a30:5 a32-a33:5 a35-a36:5 a38-a39:5 a3c:6
a3e-a40:7 a41-a42:6 a47-a48:6 a4b-a4d:6 a51:6 a59-a5c:5 a5e:5 a66-a6f:9 a70-a71:6 a72-a74:5 a75:6 a76:12
a81-a82:6 a83:7 a85-a8d:5 a8f-a91:5 a93-aa8:5 aaa-ab0:5 ab2-ab3:5 ab5-ab9:5 abc:6 abd:5 abe-ac0:7
ac1-ac5:6 ac7-ac8:6 ac9:7 acb-acc:7 acd:6 ad0:5 ae0-ae1:5 ae2-ae3:6 ae6-aef:9 af0:12 af1:14 af9:5
afa-aff:6 b01:6 b02-b03:7 b05-b0c:5 b0f-b10:5 b13-b28:5 b2a-b30:5 b32-b33:5 b35-b39:5 b3c:6 b3d:5 b3e:7
b3f:6 b40:7 b41-b44:6 b47-b48:7 b4b-b4c:7 b4d:6 b55-b56:6 b57:7 b5c-b5d:5 b5f-b61:5 b62-b63:6 b66-b6f:9
b70:16 b71:5 b72-b77:b b82:6 b83:5 b85-b8a:5 b8e-b90:5 b92-b95:5 b99-b9a:5 b9c:5 b9e-b9f:5 ba3-ba4:5
ba8-baa:5 bae-bb9:5 bbe-bbf:7 bc0:6 bc1-bc2:7 bc6-bc8:7 bca-bcc:7 bcd:6 bd0:5 bd7:7 be6-bef:9 bf0-bf2:b
bf3-bf8:16 bf9:14 bfa:16 c00:6 c01-c03:7 c04:6 c05-c0c:5 c0e-c10:5 c12-c28:5 c2a-c39:5 c3c:6 c3d:5
c3e-c40:6 c41-c44:7 c46-c48:6 c4a-c4d:6 c55-c56:6 c58-c5a:5 c5d:5 c60-c61:5 c62-c63:6 c66-c6f:9 c77:12
c78-c7e:b c7f:16 c80:5 c81:6 c82-c83:7 c84:12 c85-c8c:5 c8e-c90:5 c92-ca8:5 caa-cb3:5 cb5-cb9:5 cbc:6
cbd:5 cbe:7 cbf:6 cc0-cc4:7 cc6:6 cc7-cc8:7 cca-ccb:7 ccc-ccd:6 cd5-cd6:7 cdd-cde:5 ce0-ce1:5 ce2-ce3:6
ce6-cef:9 cf1-cf2:5 cf3:7 d00-d01:6 d02-d03:7 d04-d0c:5 d0e-d10:5 d12-d3a:5 d3b-d3c:6 d3d:5 d3e-d40:7
d41-d44:6 d46-d48:7 d4a-d4c:7 d4d:6 d4e:5 d4f:16 d54-d56:5 d57:7 d58-d5e:b d5f-d61:5 d62-d63:6 d66-d6f:9
d70-d78:b d79:16 d7a-d7f:5 d81:6 d82-d83:7 d85-d96:5 d9a-db1:5 db3-dbb:5 dbd:5 dc0-dc6:5 dca:6 dcf-dd1:7
dd2-dd4:6 dd6:6 dd8-ddf:7 de6-def:9 df2-df3:7 df4:12 e01-e30:5 e31:6 e32-e33:5 e34-e3a:6 e3f:14 e40-e45:5
e46:4 e47-e4e:6 e4f:12 e50-e59:9 e5a-e5b:12 e81-e82:5 e84:5 e86-e8a:5 e8c-ea3:5 ea5:5 ea7-eb0:5 eb1:6
eb2-eb3:5 eb4-ebc:6 ebd:5 ec0-ec4:5 ec6:4 ec8-ece:6 ed0-ed9:9 edc-edf:5 f00:5 f01-f03:16 f04-f12:12 f13:16
f14:12 f15-f17:16 f18-f19:6 f1a-f1f:16 f20-f29:9 f2a-f33:b f34:16 f35:6 f36:16 f37:6 f38:16 f39:6 f3a:e
f3b:f f3c:e f3d:f f3e-f3f:7 f40-f47:5 f49-f6c:5 f71-f7e:6 f7f:7 f80-f84:6 f85:12 f86-f87:6 f88-f8c:5
f8d-f97:6 f99-fbc:6 fbe-fc5:16 fc6:6 fc7-fcc:16 fce-fcf:16 fd0-fd4:12 fd5-fd8:16 fd9-fda:12 1000-102a:5
102b-102c:7 102d-1030:6 1031:7 1032-1037:6 1038:7 1039-103a:6 103b-103c:7 103d-103e:6 103f:5 1040-1049:9
104a-104f:12 1050-1055:5 1056-1057:7 1058-1059:6 105a-105d:5 105e-1060:6 1061:5 1062-1064:7 1065-1066:5
1067-106d:7 106e-1070:5 1071-1074:6 1075-1081:5 1082:6 1083-1084:7 1085-1086:6 1087-108c:7 108d:6 108e:5
108f:7 1090-1099:9 109a-109c:7 109d:6 109e-109f:16 10a0-10c5:1 10c7:1 10cd:1 10d0-10fa:2 10fb:12 10fc:4
10fd-10ff:2 1100-1248:5 124a-124d:5 1250-1256:5 1258:5 125a-125d:5 1260-1288:5 128a-128d:5 1290-12b0:5
12b2-12b5:5 12b8-12be:5 12c0:5 12c2-12c5:5 12c8-12d6:5 12d8-1310:5 1312-1315:5 1318-135a:5 135d-135f:6
1360-1368:12 1369-137c:b 1380-138f:5 1390-1399:16 13a0-13f5:1 13f8-13fd:2 1400:d 1401-166c:5 166d:16
166e:12 166f-167f:5 1680:17 1681-169a:5 169b:e 169c:f 16a0-16ea:5 16eb-16ed:12 16ee-16f0:a 16f1-16f8:5
1700-1711:5 1712-1714:6 1715:7 171f-1731:5 1732-1733:6 1734:7 1735-1736:12 1740-1751:5 1752-1753:6
1760-176c:5 176e-1770:5 1772-1773:6 1780-17b3:5 17b4-17b5:6 17b6:7 17b7-17bd:6 17be-17c5:7 17c6:6
17c7-17c8:7 17c9-17d3:6 17d4-17d6:12 17d7:4 17d8-17da:12 17db:14 17dc:5 17dd:6 17e0-17e9:9 17f0-17f9:b
1800-1805:12 1806:d 1807-180a:12 180b-180d:6 180e:1b 180f:6 1810-1819:9 1820-1842:5 1843:4 1844-1878:5
1880-1884:5 1885-1886:6 1887-18a8:5 18a9:6 18aa:5 18b0-18f5:5 1900-191e:5 1920-1922:6 1923-1926:7
1927-1928:6 1929-192b:7 1930-1931:7 1932:6 1933-1938:7 1939-193b:6 1940:16 1944-1945:12 1946-194f:9
1950-196d:5 1970-1974:5 1980-19ab:5 19b0-19c9:5 19d0-19d9:9 19da:b 19de-19ff:16 1a00-1a16:5 1a17-1a18:6
1a19-1a1a:7 1a1b:6 1a1e-1a1f:12 1a20-1a54:5 1a55:7 1a56:6 1a57:7 1a58-1a5e:6 1a60:6 1a61:7 1a62:6
1a63-1a64:7 1a65-1a6c:6 1a6d-1a72:7 1a73-1a7c:6 1a7f:6 1a80-1a89:9 1a90-1a99:9 1aa0-1aa6:12 1aa7:4
1aa8-1aad:12 1ab0-1abd:6 1abe:8 1abf-1ace:6 1b00-1b03:6 1b04:7 1b05-1b33:5 1b34:6 1b35:7 1b36-1b3a:6
1b3b:7 1b3c:6 1b3d-1b41:7 1b42:6 1b43-1b44:7 1b45-1b4c:5 1b50-1b59:9 1b5a-1b60:12 1b61-1b6a:16 1b6b-1b73:6
1b74-1b7c:16 1b7d-1b7e:12 1b80-1b81:6 1b82:7 1b83-1ba0:5 1ba1:7 1ba2-1ba5:6 1ba6-1ba7:7 1ba8-1ba9:6 1baa:7
1bab-1bad:6 1bae-1baf:5 1bb0-1bb9:9 1bba-1be5:5 1be6:6 1be7:7 1be8-1be9:6 1bea-1bec:7 1bed:6 1bee:7
1bef-1bf1:6 1bf2-1bf3:7 1bfc-1bff:12 1c00-1c23:5 1c24-1c2b:7 1c2c-1c33:6 1c34-1c35:7 1c36-1c37:6
1c3b-1c3f:12 1c40-1c49:9 1c4d-1c4f:5 1c50-1c59:9 1c5a-1c77:5 1c78-1c7d:4 1c7e-1c7f:12 1c80-1c88:2
1c90-1cba:1 1cbd-1cbf:1 1cc0-1cc7:12 1cd0-1cd2:6 1cd3:12 1cd4-1ce0:6 1ce1:7 1ce2-1ce8:6 1ce9-1cec:5 1ced:6
1cee-1cf3:5 1cf4:6 1cf5-1cf6:5 1cf7:7 1cf8-1cf9:6 1cfa:5 1d00-1d2b:2 1d2c-1d6a:4 1d6b-1d77:2 1d78:4
1d79-1d9a:2 1d9b-1dbf:4 1dc0-1dff:6 1e00/1e94:1 1e01/1e93:2 1e95-1e9d:2 1e9e/1efe:1 1e9f/1efd:2
1eff-1f07:2 1f08-1f0f:1 1f10-1f15:2 1f18-1f1d:1 1f20-1f27:2 1f28-1f2f:1 1f30-1f37:2 1f38-1f3f:1
1f40-1f45:2 1f48-1f4d:1 1f50-1f57:2 1f59:1 1f5b:1 1f5d:1 1f5f:1 1f60-1f67:2 1f68-1f6f:1 1f70-1f7d:2
1f80-1f87:2 1f88-1f8f:3 1f90-1f97:2 1f98-1f9f:3 1fa0-1fa7:2 1fa8-1faf:3 1fb0-1fb4:2 1fb6-1fb7:2
1fb8-1fbb:1 1fbc:3 1fbd:15 1fbe:2 1fbf-1fc1:15 1fc2-1fc4:2 1fc6-1fc7:2 1fc8-1fcb:1 1fcc:3 1fcd-1fcf:15
1fd0-1fd3:2 1fd6-1fd7:2 1fd8-1fdb:1 1fdd-1fdf:15 1fe0-1fe7:2 1fe8-1fec:1 1fed-1fef:15 1ff2-1ff4:2
1ff6-1ff7:2 1ff8-1ffb:1 1ffc:3 1ffd-1ffe:15 2000-200a:17 200b-200f:1b 2010-2015:d 2016-2017:12 2018:10
2019:11 201a:e 201b-201c:10 201d:11 201e:e 201f:10 2020-2027:12 2028:18 2029:19 202a-202e:1b 202f:17
2030-2038:12 2039:10 203a:11 203b-203e:12 203f-2040:c 2041-2043:12 2044:13 2045:e 2046:f 2047-2051:12
2052:13 2053:12 2054:c 2055-205e:12 205f:17 2060-2064:1b 2066-206f:1b 2070:b 2071:4 2074-2079:b
207a-207c:13 207d:e 207e:f 207f:4 2080-2089:b 208a-208c:13 208d:e 208e:f 2090-209c:4 20a0-20c0:14
20d0-20dc:6 20dd-20e0:8 20e1:6 20e2-20e4:8 20e5-20f0:6 2100-2101:16 2102:1 2103-2106:16 2107:1
2108-2109:16 210a:2 210b-210d:1 210e-210f:2 2110-2112:1 2113:2 2114:16 2115:1 2116-2117:16 2118:13
2119-211d:1 211e-2123:16 2124:1 2125:16 2126:1 2127:16 2128:1 2129:16 212a-212d:1 212e:16 212f:2
2130-2133:1 2134:2 2135-2138:5 2139:2 213a-213b:16 213c-213d:2 213e-213f:1 2140-2144:13 2145:1 2146-2149:2
214a:16 214b:13 214c-214d:16 214e:2 214f:16 2150-215f:b 2160-2182:a 2183:1 2184:2 2185-2188:a 2189:b
218a-218b:16 2190-2194:13 2195-2199:16 219a-219b:13 219c-219f:16 21a0:13 21a1-21a2:16 21a3:13 21a4-21a5:16
21a6:13 21a7-21ad:16 21ae:13 21af-21cd:16 21ce-21cf:13 21d0-21d1:16 21d2:13 21d3:16 21d4:13 21d5-21f3:16
21f4-22ff:13 2300-2307:16 2308:e 2309:f 230a:e 230b:f 230c-231f:16 2320-2321:13 2322-2328:16 2329:e 232a:f
232b-237b:16 237c:13 237d-239a:16 239b-23b3:13 23b4-23db:16 23dc-23e1:13 23e2-2426:16 2440-244a:16
2460-249b:b 249c-24e9:16 24ea-24ff:b 2500-25b6:16 25b7:13 25b8-25c0:16 25c1:13 25c2-25f7:16 25f8-25ff:13
2600-266e:16 266f:13 2670-2767:16 2768:e 2769:f 276a:e 276b:f 276c:e 276d:f 276e:e 276f:f 2770:e 2771:f
2772:e 2773:f 2774:e 2775:f 2776-2793:b 2794-27bf:16 27c0-27c4:13 27c5:e 27c6:f 27c7-27e5:13 27e6:e 27e7:f
27e8:e 27e9:f 27ea:e 27eb:f 27ec:e 27ed:f 27ee:e 27ef:f 27f0-27ff:13 2800-28ff:16 2900-2982:13 2983:e
2984:f 2985:e 2986:f 2987:e 2988:f 2989:e 298a:f 298b:e 298c:f 298d:e 298e:f 298f:e 2990:f 2991:e 2992:f
2993:e 2994:f 2995:e 2996:f 2997:e 2998:f 2999-29d7:13 29d8:e 29d9:f 29da:e 29db:f 29dc-29fb:13 29fc:e
29fd:f 29fe-2aff:13 2b00-2b2f:16 2b30-2b44:13 2b45-2b46:16 2b47-2b4c:13 2b4d-2b73:16 2b76-2b95:16
2b97-2bff:16 2c00-2c2f:1 2c30-2c5f:2 2c60:1 2c61:2 2c62-2c64:1 2c65-2c66:2 2c67/2c6b:1 2c68/2c6c:2
2c6d-2c70:1 2c71:2 2c72:1 2c73-2c74:2 2c75:1 2c76-2c7b:2 2c7c-2c7d:4 2c7e-2c80:1 2c81/2ce1:2 2c82/2ce2:1
2ce3-2ce4:2 2ce5-2cea:16 2ceb/2ced:1 2cec/2cee:2 2cef-2cf1:6 2cf2:1 2cf3:2 2cf9-2cfc:12 2cfd:b
2cfe-2cff:12 2d00-2d25:2 2d27:2 2d2d:2 2d30-2d67:5 2d6f:4 2d70:12 2d7f:6 2d80-2d96:5 2da0-2da6:5
2da8-2dae:5 2db0-2db6:5 2db8-2dbe:5 2dc0-2dc6:5 2dc8-2dce:5 2dd0-2dd6:5 2dd8-2dde:5 2de0-2dff:6
2e00-2e01:12 2e02:10 2e03:11 2e04:10 2e05:11 2e06-2e08:12 2e09:10 2e0a:11 2e0b:12 2e0c:10 2e0d:11
2e0e-2e16:12 2e17:d 2e18-2e19:12 2e1a:d 2e1b:12 2e1c:10 2e1d:11 2e1e-2e1f:12 2e20:10 2e21:11 2e22:e 2e23:f
2e24:e 2e25:f 2e26:e 2e27:f 2e28:e 2e29:f 2e2a-2e2e:12 2e2f:4 2e30-2e39:12 2e3a-2e3b:d 2e3c-2e3f:12 2e40:d
2e41:12 2e42:e 2e43-2e4f:12 2e50-2e51:16 2e52-2e54:12 2e55:e 2e56:f 2e57:e 2e58:f 2e59:e 2e5a:f 2e5b:e
2e5c:f 2e5d:d 2e80-2e99:16 2e9b-2ef3:16 2f00-2fd5:16 2ff0-2ffb:16 3000:17 3001-3003:12 3004:16 3005:4
3006:5 3007:a 3008:e 3009:f 300a:e 300b:f 300c:e 300d:f 300e:e 300f:f 3010:e 3011:f 3012-3013:16 3014:e
3015:f 3016:e 3017:f 3018:e 3019:f 301a:e 301b:f 301c:d 301d:e 301e-301f:f 3020:16 3021-3029:a 302a-302d:6
302e-302f:7 3030:d 3031-3035:4 3036-3037:16 3038-303a:a 303b:4 303c:5 303d:12 303e-303f:16 3041-3096:5
3099-309a:6 309b-309c:15 309d-309e:4 309f:5 30a0:d 30a1-30fa:5 30fb:12 30fc-30fe:4 30ff:5 3105-312f:5
3131-318e:5 3190-3191:16 3192-3195:b 3196-319f:16 31a0-31bf:5 31c0-31e3:16 31f0-31ff:5 3200-321e:16
3220-3229:b 322a-3247:16 3248-324f:b 3250:16 3251-325f:b 3260-327f:16 3280-3289:b 328a-32b0:16 32b1-32bf:b
32c0-33ff:16 3400-4dbf:5 4dc0-4dff:16 4e00-a014:5 a015:4 a016-a48c:5 a490-a4c6:16 a4d0-a4f7:5 a4f8-a4fd:4
a4fe-a4ff:12 a500-a60b:5 a60c:4 a60d-a60f:12 a610-a61f:5 a620-a629:9 a62a-a62b:5 a640/a66c:1 a641/a66d:2
a66e:5 a66f:6 a670-a672:8 a673:12 a674-a67d:6 a67e:12 a67f:4 a680/a69a:1 a681/a69b:2 a69c-a69d:4
a69e-a69f:6 a6a0-a6e5:5 a6e6-a6ef:a a6f0-a6f1:6 a6f2-a6f7:12 a700-a716:15 a717-a71f:4 a720-a721:15
a722/a72e:1 a723/a72d:2 a72f-a731:2 a732/a76e:1 a733/a76f:2 a770:4 a771-a778:2 a779/a77b:1 a77a/a77c:2
a77d-a77e:1 a77f/a787:2 a780/a786:1 a788:4 a789-a78a:15 a78b/a78d:1 a78c/a78e:2 a78f:5 a790:1 a791:2
a792:1 a793-a795:2 a796/a7a8:1 a797/a7a9:2 a7aa-a7ae:1 a7af:2 a7b0-a7b4:1 a7b5/a7c3:2 a7b6/a7c2:1
a7c4-a7c7:1 a7c8:2 a7c9:1 a7ca:2 a7d0:1 a7d1:2 a7d3:2 a7d5/a7d9:2 a7d6/a7d8:1 a7f2-a7f4:4 a7f5:1 a7f6:2
a7f7:5 a7f8-a7f9:4 a7fa:2 a7fb-a801:5 a802:6 a803-a805:5 a806:6 a807-a80a:5 a80b:6 a80c-a822:5 a823-a824:7
a825-a826:6 a827:7 a828-a82b:16 a82c:6 a830-a835:b a836-a837:16 a838:14 a839:16 a840-a873:5 a874-a877:12
a880-a881:7 a882-a8b3:5 a8b4-a8c3:7 a8c4-a8c5:6 a8ce-a8cf:12 a8d0-a8d9:9 a8e0-a8f1:6 a8f2-a8f7:5
a8f8-a8fa:12 a8fb:5 a8fc:12 a8fd-a8fe:5 a8ff:6 a900-a909:9 a90a-a925:5 a926-a92d:6 a92e-a92f:12
a930-a946:5 a947-a951:6 a952-a953:7 a95f:12 a960-a97c:5 a980-a982:6 a983:7 a984-a9b2:5 a9b3:6 a9b4-a9b5:7
a9b6-a9b9:6 a9ba-a9bb:7 a9bc-a9bd:6 a9be-a9c0:7 a9c1-a9cd:12 a9cf:4 a9d0-a9d9:9 a9de-a9df:12 a9e0-a9e4:5
a9e5:6 a9e6:4 a9e7-a9ef:5 a9f0-a9f9:9 a9fa-a9fe:5 aa00-aa28:5 aa29-aa2e:6 aa2f-aa30:7 aa31-aa32:6
aa33-aa34:7 aa35-aa36:6 aa40-aa42:5 aa43:6 aa44-aa4b:5 aa4c:6 aa4d:7 aa50-aa59:9 aa5c-aa5f:12 aa60-aa6f:5
aa70:4 aa71-aa76:5 aa77-aa79:16 aa7a:5 aa7b:7 aa7c:6 aa7d:7 aa7e-aaaf:5 aab0:6 aab1:5 aab2-aab4:6
aab5-aab6:5 aab7-aab8:6 aab9-aabd:5 aabe-aabf:6 aac0:5 aac1:6 aac2:5 aadb-aadc:5 aadd:4 aade-aadf:12
aae0-aaea:5 aaeb:7 aaec-aaed:6 aaee-aaef:7 aaf0-aaf1:12 aaf2:5 aaf3-aaf4:4 aaf5:7 aaf6:6 ab01-ab06:5
ab09-ab0e:5 ab11-ab16:5 ab20-ab26:5 ab28-ab2e:5 ab30-ab5a:2 ab5b:15 ab5c-ab5f:4 ab60-ab68:2 ab69:4
ab6a-ab6b:15 ab70-abbf:2 abc0-abe2:5 abe3-abe4:7 abe5:6 abe6-abe7:7 abe8:6 abe9-abea:7 abeb:12 abec:7
abed:6 abf0-abf9:9 ac00-d7a3:5 d7b0-d7c6:5 d7cb-d7fb:5 d800-dfff:1c e000-f8ff:1d f900-fa6d:5 fa70-fad9:5
fb00-fb06:2 fb13-fb17:2 fb1d:5 fb1e:6 fb1f-fb28:5 fb29:13 fb2a-fb36:5 fb38-fb3c:5 fb3e:5 fb40-fb41:5
fb43-fb44:5 fb46-fbb1:5 fbb2-fbc2:15 fbd3-fd3d:5 fd3e:f fd3f:e fd40-fd4f:16 fd50-fd8f:5 fd92-fdc7:5
fdcf:16 fdf0-fdfb:5 fdfc:14 fdfd-fdff:16 fe00-fe0f:6 fe10-fe16:12 fe17:e fe18:f fe19:12 fe20-fe2f:6
fe30:12 fe31-fe32:d fe33-fe34:c fe35:e fe36:f fe37:e fe38:f fe39:e fe3a:f fe3b:e fe3c:f fe3d:e fe3e:f
fe3f:e fe40:f fe41:e fe42:f fe43:e fe44:f fe45-fe46:12 fe47:e fe48:f fe49-fe4c:12 fe4d-fe4f:c fe50-fe52:12
fe54-fe57:12 fe58:d fe59:e fe5a:f fe5b:e fe5c:f fe5d:e fe5e:f fe5f-fe61:12 fe62:13 fe63:d fe64-fe66:13
fe68:12 fe69:14 fe6a-fe6b:12 fe70-fe74:5 fe76-fefc:5 feff:1b ff01-ff03:12 ff04:14 ff05-ff07:12 ff08:e
ff09:f ff0a:12 ff0b:13 ff0c:12 ff0d:d ff0e-ff0f:12 ff10-ff19:9 ff1a-ff1b:12 ff1c-ff1e:13 ff1f-ff20:12
ff21-ff3a:1 ff3b:e ff3c:12 ff3d:f ff3e:15 ff3f:c ff40:15 ff41-ff5a:2 ff5b:e ff5c:13 ff5d:f ff5e:13 ff5f:e
ff60:f ff61:12 ff62:e ff63:f ff64-ff65:12 ff66-ff6f:5 ff70:4 ff71-ff9d:5 ff9e-ff9f:4 ffa0-ffbe:5
ffc2-ffc7:5 ffca-ffcf:5 ffd2-ffd7:5 ffda-ffdc:5 ffe0-ffe1:14 ffe2:13 ffe3:15 ffe4:16 ffe5-ffe6:14 ffe8:16
ffe9-ffec:13 ffed-ffee:16 fff9-fffb:1b fffc-fffd:16 10000-1000b:5 1000d-10026:5 10028-1003a:5
1003c-1003d:5 1003f-1004d:5 10050-1005d:5 10080-100fa:5 10100-10102:12 10107-10133:b 10137-1013f:16
10140-10174:a 10175-10178:b 10179-10189:16 1018a-1018b:b 1018c-1018e:16 10190-1019c:16 101a0:16
101d0-101fc:16 101fd:6 10280-1029c:5 102a0-102d0:5 102e0:6 102e1-102fb:b 10300-1031f:5 10320-10323:b
1032d-10340:5 10341:a 10342-10349:5 1034a:a 10350-10375:5 10376-1037a:6 10380-1039d:5 1039f:12
103a0-103c3:5 103c8-103cf:5 103d0:12 103d1-103d5:a 10400-10427:1 10428-1044f:2 10450-1049d:5 104a0-104a9:9
104b0-104d3:1 104d8-104fb:2 10500-10527:5 10530-10563:5 1056f:12 10570-1057a:1 1057c-1058a:1 1058c-10592:1
10594-10595:1 10597-105a1:2 105a3-105b1:2 105b3-105b9:2 105bb-105bc:2 10600-10736:5 10740-10755:5
10760-10767:5 10780-10785:4 10787-107b0:4 107b2-107ba:4 10800-10805:5 10808:5 1080a-10835:5 10837-10838:5
1083c:5 1083f-10855:5 10857:12 10858-1085f:b 10860-10876:5 10877-10878:16 10879-1087f:b 10880-1089e:5
108a7-108af:b 108e0-108f2:5 108f4-108f5:5 108fb-108ff:b 10900-10915:5 10916-1091b:b 1091f:12 10920-10939:5
1093f:12 10980-109b7:5 109bc-109bd:b 109be-109bf:5 109c0-109cf:b 109d2-109ff:b 10a00:5 10a01-10a03:6
10a05-10a06:6 10a0c-10a0f:6 10a10-10a13:5 10a15-10a17:5 10a19-10a35:5 10a38-10a3a:6 10a3f:6 10a40-10a48:b
10a50-10a58:12 10a60-10a7c:5 10a7d-10a7e:b 10a7f:12 10a80-10a9c:5 10a9d-10a9f:b 10ac0-10ac7:5 10ac8:16
10ac9-10ae4:5 10ae5-10ae6:6 10aeb-10aef:b 10af0-10af6:12 10b00-10b35:5 10b39-10b3f:12 10b40-10b55:5
10b58-10b5f:b 10b60-10b72:5 10b78-10b7f:b 10b80-10b91:5 10b99-10b9c:12 10ba9-10baf:b 10c00-10c48:5
10c80-10cb2:1 10cc0-10cf2:2 10cfa-10cff:b 10d00-10d23:5 10d24-10d27:6 10d30-10d39:9 10e60-10e7e:b
10e80-10ea9:5 10eab-10eac:6 10ead:d 10eb0-10eb1:5 10efd-10eff:6 10f00-10f1c:5 10f1d-10f26:b 10f27:5
10f30-10f45:5 10f46-10f50:6 10f51-10f54:b 10f55-10f59:12 10f70-10f81:5 10f82-10f85:6 10f86-10f89:12
10fb0-10fc4:5 10fc5-10fcb:b 10fe0-10ff6:5 11000:7 11001:6 11002:7 11003-11037:5 11038-11046:6
11047-1104d:12 11052-11065:b 11066-1106f:9 11070:6 11071-11072:5 11073-11074:6 11075:5 1107f-11081:6
11082:7 11083-110af:5 110b0-110b2:7 110b3-110b6:6 110b7-110b8:7 110b9-110ba:6 110bb-110bc:12 110bd:1b
110be-110c1:12 110c2:6 110cd:1b 110d0-110e8:5 110f0-110f9:9 11100-11102:6 11103-11126:5 11127-1112b:6
1112c:7 1112d-11134:6 11136-1113f:9 11140-11143:12 11144:5 11145-11146:7 11147:5 11150-11172:5 11173:6
11174-11175:12 11176:5 11180-11181:6 11182:7 11183-111b2:5 111b3-111b5:7 111b6-111be:6 111bf-111c0:7
111c1-111c4:5 111c5-111c8:12 111c9-111cc:6 111cd:12 111ce:7 111cf:6 111d0-111d9:9 111da:5 111db:12 111dc:5
111dd-111df:12 111e1-111f4:b 11200-11211:5 11213-1122b:5 1122c-1122e:7 1122f-11231:6 11232-11233:7 11234:6
11235:7 11236-11237:6 11238-1123d:12 1123e:6 1123f-11240:5 11241:6 11280-11286:5 11288:5 1128a-1128d:5
1128f-1129d:5 1129f-112a8:5 112a9:12 112b0-112de:5 112df:6 112e0-112e2:7 112e3-112ea:6 112f0-112f9:9
11300-11301:6 11302-11303:7 11305-1130c:5 1130f-11310:5 11313-11328:5 1132a-11330:5 11332-11333:5
11335-11339:5 1133b-1133c:6 1133d:5 1133e-1133f:7 11340:6 11341-11344:7 11347-11348:7 1134b-1134d:7
11350:5 11357:7 1135d-11361:5 11362-11363:7 11366-1136c:6 11370-11374:6 11400-11434:5 11435-11437:7
11438-1143f:6 11440-11441:7 11442-11444:6 11445:7 11446:6 11447-1144a:5 1144b-1144f:12 11450-11459:9
1145a-1145b:12 1145d:12 1145e:6 1145f-11461:5 11480-114af:5 114b0-114b2:7 114b3-114b8:6 114b9:7 114ba:6
114bb-114be:7 114bf-114c0:6 114c1:7 114c2-114c3:6 114c4-114c5:5 114c6:12 114c7:5 114d0-114d9:9
11580-115ae:5 115af-115b1:7 115b2-115b5:6 115b8-115bb:7 115bc-115bd:6 115be:7 115bf-115c0:6 115c1-115d7:12
115d8-115db:5 115dc-115dd:6 11600-1162f:5 11630-11632:7 11633-1163a:6 1163b-1163c:7 1163d:6 1163e:7
1163f-11640:6 11641-11643:12 11644:5 11650-11659:9 11660-1166c:12 11680-116aa:5 116ab:6 116ac:7 116ad:6
116ae-116af:7 116b0-116b5:6 116b6:7 116b7:6 116b8:5 116b9:12 116c0-116c9:9 11700-1171a:5 1171d-1171f:6
11720-11721:7 11722-11725:6 11726:7 11727-1172b:6 11730-11739:9 1173a-1173b:b 1173c-1173e:12 1173f:16
11740-11746:5 11800-1182b:5 1182c-1182e:7 1182f-11837:6 11838:7 11839-1183a:6 1183b:12 118a0-118bf:1
118c0-118df:2 118e0-118e9:9 118ea-118f2:b 118ff-11906:5 11909:5 1190c-11913:5 11915-11916:5 11918-1192f:5
11930-11935:7 11937-11938:7 1193b-1193c:6 1193d:7 1193e:6 1193f:5 11940:7 11941:5 11942:7 11943:6
11944-11946:12 11950-11959:9 119a0-119a7:5 119aa-119d0:5 119d1-119d3:7 119d4-119d7:6 119da-119db:6
119dc-119df:7 119e0:6 119e1:5 119e2:12 119e3:5 119e4:7 11a00:5 11a01-11a0a:6 11a0b-11a32:5 11a33-11a38:6
11a39:7 11a3a:5 11a3b-11a3e:6 11a3f-11a46:12 11a47:6 11a50:5 11a51-11a56:6 11a57-11a58:7 11a59-11a5b:6
11a5c-11a89:5 11a8a-11a96:6 11a97:7 11a98-11a99:6 11a9a-11a9c:12 11a9d:5 11a9e-11aa2:12 11ab0-11af8:5
11b00-11b09:12 11c00-11c08:5 11c0a-11c2e:5 11c2f:7 11c30-11c36:6 11c38-11c3d:6 11c3e:7 11c3f:6 11c40:5
11c41-11c45:12 11c50-11c59:9 11c5a-11c6c:b 11c70-11c71:12 11c72-11c8f:5 11c92-11ca7:6 11ca9:7
11caa-11cb0:6 11cb1:7 11cb2-11cb3:6 11cb4:7 11cb5-11cb6:6 11d00-11d06:5 11d08-11d09:5 11d0b-11d30:5
11d31-11d36:6 11d3a:6 11d3c-11d3d:6 11d3f-11d45:6 11d46:5 11d47:6 11d50-11d59:9 11d60-11d65:5
11d67-11d68:5 11d6a-11d89:5 11d8a-11d8e:7 11d90-11d91:6 11d93-11d94:7 11d95:6 11d96:7 11d97:6 11d98:5
11da0-11da9:9 11ee0-11ef2:5 11ef3-11ef4:6 11ef5-11ef6:7 11ef7-11ef8:12 11f00-11f01:6 11f02:5 11f03:7
11f04-11f10:5 11f12-11f33:5 11f34-11f35:7 11f36-11f3a:6 11f3e-11f3f:7 11f40:6 11f41:7 11f42:6
11f43-11f4f:12 11f50-11f59:9 11fb0:5 11fc0-11fd4:b 11fd5-11fdc:16 11fdd-11fe0:14 11fe1-11ff1:16 11fff:12
12000-12399:5 12400-1246e:a 12470-12474:12 12480-12543:5 12f90-12ff0:5 12ff1-12ff2:12 13000-1342f:5
13430-1343f:1b 13440:6 13441-13446:5 13447-13455:6 14400-14646:5 16800-16a38:5 16a40-16a5e:5 16a60-16a69:9
16a6e-16a6f:12 16a70-16abe:5 16ac0-16ac9:9 16ad0-16aed:5 16af0-16af4:6 16af5:12 16b00-16b2f:5
16b30-16b36:6 16b37-16b3b:12 16b3c-16b3f:16 16b40-16b43:4 16b44:12 16b45:16 16b50-16b59:9 16b5b-16b61:b
16b63-16b77:5 16b7d-16b8f:5 16e40-16e5f:1 16e60-16e7f:2 16e80-16e96:b 16e97-16e9a:12 16f00-16f4a:5 16f4f:6
16f50:5 16f51-16f87:7 16f8f-16f92:6 16f93-16f9f:4 16fe0-16fe1:4 16fe2:12 16fe3:4 16fe4:6 16ff0-16ff1:7
17000-187f7:5 18800-18cd5:5 18d00-18d08:5 1aff0-1aff3:4 1aff5-1affb:4 1affd-1affe:4 1b000-1b122:5 1b132:5
1b150-1b152:5 1b155:5 1b164-1b167:5 1b170-1b2fb:5 1bc00-1bc6a:5 1bc70-1bc7c:5 1bc80-1bc88:5 1bc90-1bc99:5
1bc9c:16 1bc9d-1bc9e:6 1bc9f:12 1bca0-1bca3:1b 1cf00-1cf2d:6 1cf30-1cf46:6 1cf50-1cfc3:16 1d000-1d0f5:16
1d100-1d126:16 1d129-1d164:16 1d165-1d166:7 1d167-1d169:6 1d16a-1d16c:16 1d16d-1d172:7 1d173-1d17a:1b
1d17b-1d182:6 1d183-1d184:16 1d185-1d18b:6 1d18c-1d1a9:16 1d1aa-1d1ad:6 1d1ae-1d1ea:16 1d200-1d241:16
1d242-1d244:6 1d245:16 1d2c0-1d2d3:b 1d2e0-1d2f3:b 1d300-1d356:16 1d360-1d378:b 1d400-1d419:1
1d41a-1d433:2 1d434-1d44d:1 1d44e-1d454:2 1d456-1d467:2 1d468-1d481:1 1d482-1d49b:2 1d49c:1 1d49e-1d49f:1
1d4a2:1 1d4a5-1d4a6:1 1d4a9-1d4ac:1 1d4ae-1d4b5:1 1d4b6-1d4b9:2 1d4bb:2 1d4bd-1d4c3:2 1d4c5-1d4cf:2
1d4d0-1d4e9:1 1d4ea-1d503:2 1d504-1d505:1 1d507-1d50a:1 1d50d-1d514:1 1d516-1d51c:1 1d51e-1d537:2
1d538-1d539:1 1d53b-1d53e:1 1d540-1d544:1 1d546:1 1d54a-1d550:1 1d552-1d56b:2 1d56c-1d585:1 1d586-1d59f:2
1d5a0-1d5b9:1 1d5ba-1d5d3:2 1d5d4-1d5ed:1 1d5ee-1d607:2 1d608-1d621:1 1d622-1d63b:2 1d63c-1d655:1
1d656-1d66f:2 1d670-1d689:1 1d68a-1d6a5:2 1d6a8-1d6c0:1 1d6c1:13 1d6c2-1d6da:2 1d6db:13 1d6dc-1d6e1:2
1d6e2-1d6fa:1 1d6fb:13 1d6fc-1d714:2 1d715:13 1d716-1d71b:2 1d71c-1d734:1 1d735:13 1d736-1d74e:2 1d74f:13
1d750-1d755:2 1d756-1d76e:1 1d76f:13 1d770-1d788:2 1d789:13 1d78a-1d78f:2 1d790-1d7a8:1 1d7a9:13
1d7aa-1d7c2:2 1d7c3:13 1d7c4-1d7c9:2 1d7ca:1 1d7cb:2 1d7ce-1d7ff:9 1d800-1d9ff:16 1da00-1da36:6
1da37-1da3a:16 1da3b-1da6c:6 1da6d-1da74:16 1da75:6 1da76-1da83:16 1da84:6 1da85-1da86:16 1da87-1da8b:12
1da9b-1da9f:6 1daa1-1daaf:6 1df00-1df09:2 1df0a:5 1df0b-1df1e:2 1df25-1df2a:2 1e000-1e006:6 1e008-1e018:6
1e01b-1e021:6 1e023-1e024:6 1e026-1e02a:6 1e030-1e06d:4 1e08f:6 1e100-1e12c:5 1e130-1e136:6 1e137-1e13d:4
1e140-1e149:9 1e14e:5 1e14f:16 1e290-1e2ad:5 1e2ae:6 1e2c0-1e2eb:5 1e2ec-1e2ef:6 1e2f0-1e2f9:9 1e2ff:14
1e4d0-1e4ea:5 1e4eb:4 1e4ec-1e4ef:6 1e4f0-1e4f9:9 1e7e0-1e7e6:5 1e7e8-1e7eb:5 1e7ed-1e7ee:5 1e7f0-1e7fe:5
1e800-1e8c4:5 1e8c7-1e8cf:b 1e8d0-1e8d6:6 1e900-1e921:1 1e922-1e943:2 1e944-1e94a:6 1e94b:4 1e950-1e959:9
1e95e-1e95f:12 1ec71-1ecab:b 1ecac:16 1ecad-1ecaf:b 1ecb0:14 1ecb1-1ecb4:b 1ed01-1ed2d:b 1ed2e:16
1ed2f-1ed3d:b 1ee00-1ee03:5 1ee05-1ee1f:5 1ee21-1ee22:5 1ee24:5 1ee27:5 1ee29-1ee32:5 1ee34-1ee37:5
1ee39:5 1ee3b:5 1ee42:5 1ee47:5 1ee49:5 1ee4b:5 1ee4d-1ee4f:5 1ee51-1ee52:5 1ee54:5 1ee57:5 1ee59:5
1ee5b:5 1ee5d:5 1ee5f:5 1ee61-1ee62:5 1ee64:5 1ee67-1ee6a:5 1ee6c-1ee72:5 1ee74-1ee77:5 1ee79-1ee7c:5
1ee7e:5 1ee80-1ee89:5 1ee8b-1ee9b:5 1eea1-1eea3:5 1eea5-1eea9:5 1eeab-1eebb:5 1eef0-1eef1:13
1f000-1f02b:16 1f030-1f093:16 1f0a0-1f0ae:16 1f0b1-1f0bf:16 1f0c1-1f0cf:16 1f0d1-1f0f5:16 1f100-1f10c:b
1f10d-1f1ad:16 1f1e6-1f202:16 1f210-1f23b:16 1f240-1f248:16 1f250-1f251:16 1f260-1f265:16 1f300-1f3fa:16
1f3fb-1f3ff:15 1f400-1f6d7:16 1f6dc-1f6ec:16 1f6f0-1f6fc:16 1f700-1f776:16 1f77b-1f7d9:16 1f7e0-1f7eb:16
1f7f0:16 1f800-1f80b:16 1f810-1f847:16 1f850-1f859:16 1f860-1f887:16 1f890-1f8ad:16 1f8b0-1f8b1:16
1f900-1fa53:16 1fa60-1fa6d:16 1fa70-1fa7c:16 1fa80-1fa88:16 1fa90-1fabd:16 1fabf-1fac5:16 1face-1fadb:16
1fae0-1fae8:16 1faf0-1faf8:16 1fb00-1fb92:16 1fb94-1fbca:16 1fbf0-1fbf9:9 20000-2a6df:5 2a700-2b739:5
2b740-2b81d:5 2b820-2cea1:5 2ceb0-2ebe0:5 2f800-2fa1d:5 30000-3134a:5 31350-323af:5 e0001:1b
e0020-e007f:1b e0100-e01ef:6 f0000-ffffd:1d 100000-10fffd:1d"

/-- The short name of the category of a character. -/
def ofChar (c : Char) : String :=
  match table.value c with
  | 0 => "cn"
  | k => ((names[k - 1]?).map (·.1)).getD "cn"

/-- A name without case, blanks and joining marks. -/
def looseName (s : List Char) : String :=
  String.ofList ((s.filter fun c => c != ' ' && c != '_' && c != '-').map Char.toLower)

/-- The short names of the categories that a name stands for. -/
def ofName? (name : String) : Option (List String) :=
  if name = "any" then some ("cn" :: names.map (·.1))
  else if name = "assigned" then some (names.map (·.1))
  else if name = "cn" ∨ name = "unassigned" then some ["cn"]
  else if name = "lc" ∨ name = "casedletter" then some ["lu", "ll", "lt"]
  else
    match groups.find? fun g => g.1 == name || g.2.1 == name with
    | some (_, _, letter) =>
      let members := (names.map (·.1)).filter fun s => s.toList.head? == some letter
      some (if letter = 'c' then "cn" :: members else members)
    | none => (names.find? fun n => n.1 == name || n.2 == name).map fun n => [n.1]

/-- A character of one of several categories. -/
def isOf (categories : List String) (c : Char) : Bool := categories.contains (ofChar c)

end Conformance.Unicode.Category
