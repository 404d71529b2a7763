import Conformance.Unicode.Table
/-!
# Scripts

Every assigned character belongs to one script, or to the common or the inherited ones. Some characters are
used in several scripts, which a table of its own says of them.
-/

namespace Conformance.Unicode.Script

/-- The scripts by short and long name, in the order in which tables number them from 1. -/
def names : List (String × String) := [
  ("adlm", "adlam"), ("aghb", "caucasianalbanian"), ("ahom", "ahom"), ("arab", "arabic"),
  ("armi", "imperialaramaic"), ("armn", "armenian"), ("avst", "avestan"), ("bali", "balinese"),
  ("bamu", "bamum"), ("bass", "bassavah"), ("batk", "batak"), ("beng", "bengali"), ("bhks", "bhaiksuki"),
  ("bopo", "bopomofo"), ("brah", "brahmi"), ("brai", "braille"), ("bugi", "buginese"), ("buhd", "buhid"),
  ("cakm", "chakma"), ("cans", "canadianaboriginal"), ("cari", "carian"), ("cham", "cham"),
  ("cher", "cherokee"), ("chrs", "chorasmian"), ("copt", "coptic"), ("cpmn", "cyprominoan"),
  ("cprt", "cypriot"), ("cyrl", "cyrillic"), ("deva", "devanagari"), ("diak", "divesakuru"),
  ("dogr", "dogra"), ("dsrt", "deseret"), ("dupl", "duployan"), ("egyp", "egyptianhieroglyphs"),
  ("elba", "elbasan"), ("elym", "elymaic"), ("ethi", "ethiopic"), ("geor", "georgian"),
  ("glag", "glagolitic"), ("gong", "gunjalagondi"), ("gonm", "masaramgondi"), ("goth", "gothic"),
  ("gran", "grantha"), ("grek", "greek"), ("gujr", "gujarati"), ("guru", "gurmukhi"), ("hang", "hangul"),
  ("hani", "han"), ("hano", "hanunoo"), ("hatr", "hatran"), ("hebr", "hebrew"), ("hira", "hiragana"),
  ("hluw", "anatolianhieroglyphs"), ("hmng", "pahawhhmong"), ("hmnp", "nyiakengpuachuehmong"),
  ("hung", "oldhungarian"), ("ital", "olditalic"), ("java", "javanese"), ("kali", "kayahli"),
  ("kana", "katakana"), ("kawi", "kawi"), ("khar", "kharoshthi"), ("khmr", "khmer"), ("khoj", "khojki"),
  ("kits", "khitansmallscript"), ("knda", "kannada"), ("kthi", "kaithi"), ("lana", "taitham"),
  ("laoo", "lao"), ("latn", "latin"), ("lepc", "lepcha"), ("limb", "limbu"), ("lina", "lineara"),
  ("linb", "linearb"), ("lisu", "lisu"), ("lyci", "lycian"), ("lydi", "lydian"), ("mahj", "mahajani"),
  ("maka", "makasar"), ("mand", "mandaic"), ("mani", "manichaean"), ("marc", "marchen"),
  ("medf", "medefaidrin"), ("mend", "mendekikakui"), ("merc", "meroiticcursive"),
  ("mero", "meroitichieroglyphs"), ("mlym", "malayalam"), ("modi", "modi"), ("mong", "mongolian"),
  ("mroo", "mro"), ("mtei", "meeteimayek"), ("mult", "multani"), ("mymr", "myanmar"),
  ("nagm", "nagmundari"), ("nand", "nandinagari"), ("narb", "oldnortharabian"), ("nbat", "nabataean"),
  ("newa", "newa"), ("nkoo", "nko"), ("nshu", "nushu"), ("ogam", "ogham"), ("olck", "olchiki"),
  ("orkh", "oldturkic"), ("orya", "oriya"), ("osge", "osage"), ("osma", "osmanya"), ("ougr", "olduyghur"),
  ("palm", "palmyrene"), ("pauc", "paucinhau"), ("perm", "oldpermic"), ("phag", "phagspa"),
  ("phli", "inscriptionalpahlavi"), ("phlp", "psalterpahlavi"), ("phnx", "phoenician"), ("plrd", "miao"),
  ("prti", "inscriptionalparthian"), ("rjng", "rejang"), ("rohg", "hanifirohingya"), ("runr", "runic"),
  ("samr", "samaritan"), ("sarb", "oldsoutharabian"), ("saur", "saurashtra"), ("sgnw", "signwriting"),
  ("shaw", "shavian"), ("shrd", "sharada"), ("sidd", "siddham"), ("sind", "khudawadi"), ("sinh", "sinhala"),
  ("sogd", "sogdian"), ("sogo", "oldsogdian"), ("sora", "sorasompeng"), ("soyo", "soyombo"),
  ("sund", "sundanese"), ("sylo", "sylotinagri"), ("syrc", "syriac"), ("tagb", "tagbanwa"),
  ("takr", "takri"), ("tale", "taile"), ("talu", "newtailue"), ("taml", "tamil"), ("tang", "tangut"),
  ("tavt", "taiviet"), ("telu", "telugu"), ("tfng", "tifinagh"), ("tglg", "tagalog"), ("thaa", "thaana"),
  ("thai", "thai"), ("tibt", "tibetan"), ("tirh", "tirhuta"), ("tnsa", "tangsa"), ("toto", "toto"),
  ("ugar", "ugaritic"), ("vaii", "vai"), ("vith", "vithkuqi"), ("wara", "warangciti"), ("wcho", "wancho"),
  ("xpeo", "oldpersian"), ("xsux", "cuneiform"), ("yezi", "yezidi"), ("yiii", "yi"),
  ("zanb", "zanabazarsquare"), ("zinh", "inherited"), ("zyyy", "common")]

/-- The scripts of characters. Characters of no entry belong to none. -/
def table : Table := .ofText "
0-40:a3 41-5a:46 5b-60:a3 61-7a:46 7b-a9:a3 aa:46 ab-b9:a3 ba:46 bb-bf:a3 c0-d6:46 d7:a3 d8-f6:46 f7:a3
f8-2b8:46 2b9-2df:a3 2e0-2e4:46 2e5-2e9:a3 2ea-2eb:e 2ec-2ff:a3 300-36f:a2 370-373:2c 374:a3 375-377:2c
37a-37d:2c 37e:a3 37f:2c 384/388:2c 385:a3 387:a3 389-38a:2c 38c:2c 38e-3a1:2c 3a3-3e1:2c 3e2-3ef:19
3f0-3ff:2c 400-484:1c 485-486:a2 487-52f:1c 531-556:6 559-58a:6 58d-58f:6 591-5c7:33 5d0-5ea:33 5ef-5f4:33
600-604:4 605:a3 606-60b:4 60c:a3 60d-61a:4 61b:a3 61c-61e:4 61f:a3 620-63f:4 640:a3 641-64a:4 64b-655:a2
656-66f:4 670:a2 671-6dc:4 6dd:a3 6de-6ff:4 700-70d:87 70f-74a:87 74d-74f:87 750-77f:4 780-7b1:92 7c0-7fa:63
7fd-7ff:63 800-82d:78 830-83e:78 840-85b:50 85e:50 860-86a:87 870-88e:4 890-891:4 898-8e1:4 8e2:a3 8e3-8ff:4
900-950:1d 951-954:a2 955-963:1d 964-965:a3 966-97f:1d 980-983:c 985-98c:c 98f-990:c 993-9a8:c 9aa-9b0:c
9b2:c 9b6-9b9:c 9bc-9c4:c 9c7-9c8:c 9cb-9ce:c 9d7:c 9dc-9dd:c 9df-9e3:c 9e6-9fe:c a01-a03:2e a05-a0a:2e
a0f-a10:2e a13-a28:2e a2a-a30:2e a32-a33:2e a35-a36:2e a38-a39:2e a3c:2e a3e-a42:2e a47-a48:2e a4b-a4d:2e
a51:2e a59-a5c:2e a5e:2e a66-a76:2e a81-a83:2d a85-a8d:2d a8f-a91:2d a93-aa8:2d aaa-ab0:2d ab2-ab3:2d
ab5-ab9:2d abc-ac5:2d ac7-ac9:2d acb-acd:2d ad0:2d ae0-ae3:2d ae6-af1:2d af9-aff:2d b01-b03:68 b05-b0c:68
b0f-b10:68 b13-b28:68 b2a-b30:68 b32-b33:68 b35-b39:68 b3c-b44:68 b47-b48:68 b4b-b4d:68 b55-b57:68
b5c-b5d:68 b5f-b63:68 b66-b77:68 b82-b83:8c b85-b8a:8c b8e-b90:8c b92-b95:8c b99-b9a:8c b9c:8c b9e-b9f:8c
ba3-ba4:8c ba8-baa:8c bae-bb9:8c bbe-bc2:8c bc6-bc8:8c bca-bcd:8c bd0:8c bd7:8c be6-bfa:8c c00-c0c:8f
c0e-c10:8f c12-c28:8f c2a-c39:8f c3c-c44:8f c46-c48:8f c4a-c4d:8f c55-c56:8f c58-c5a:8f c5d:8f c60-c63:8f
c66-c6f:8f c77-c7f:8f c80-c8c:42 c8e-c90:42 c92-ca8:42 caa-cb3:42 cb5-cb9:42 cbc-cc4:42 cc6-cc8:42
cca-ccd:42 cd5-cd6:42 cdd-cde:42 ce0-ce3:42 ce6-cef:42 cf1-cf3:42 d00-d0c:57 d0e-d10:57 d12-d44:57
d46-d48:57 d4a-d4f:57 d54-d63:57 d66-d7f:57 d81-d83:80 d85-d96:80 d9a-db1:80 db3-dbb:80 dbd:80 dc0-dc6:80
dca:80 dcf-dd4:80 dd6:80 dd8-ddf:80 de6-def:80 df2-df4:80 e01-e3a:93 e3f:a3 e40-e5b:93 e81-e82:45 e84:45
e86-e8a:45 e8c-ea3:45 ea5:45 ea7-ebd:45 ec0-ec4:45 ec6:45 ec8-ece:45 ed0-ed9:45 edc-edf:45 f00-f47:94
f49-f6c:94 f71-f97:94 f99-fbc:94 fbe-fcc:94 fce-fd4:94 fd5-fd8:a3 fd9-fda:94 1000-109f:5d 10a0-10c5:26
10c7:26 10cd:26 10d0-10fa:26 10fb:a3 10fc-10ff:26 1100-11ff:2f 1200-1248:25 124a-124d:25 1250-1256:25
1258:25 125a-125d:25 1260-1288:25 128a-128d:25 1290-12b0:25 12b2-12b5:25 12b8-12be:25 12c0:25 12c2-12c5:25
12c8-12d6:25 12d8-1310:25 1312-1315:25 1318-135a:25 135d-137c:25 1380-1399:25 13a0-13f5:17 13f8-13fd:17
1400-167f:14 1680-169c:65 16a0-16ea:77 16eb-16ed:a3 16ee-16f8:77 1700-1715:91 171f:91 1720-1734:31
1735-1736:a3 1740-1753:12 1760-176c:88 176e-1770:88 1772-1773:88 1780-17dd:3f 17e0-17e9:3f 17f0-17f9:3f
1800-1801:59 1802-1803:a3 1804:59 1805:a3 1806-1819:59 1820-1878:59 1880-18aa:59 18b0-18f5:14 1900-191e:48
1920-192b:48 1930-193b:48 1940:48 1944-194f:48 1950-196d:8a 1970-1974:8a 1980-19ab:8b 19b0-19c9:8b
19d0-19da:8b 19de-19df:8b 19e0-19ff:3f 1a00-1a1b:11 1a1e-1a1f:11 1a20-1a5e:44 1a60-1a7c:44 1a7f-1a89:44
1a90-1a99:44 1aa0-1aad:44 1ab0-1ace:a2 1b00-1b4c:8 1b50-1b7e:8 1b80-1bbf:85 1bc0-1bf3:b 1bfc-1bff:b
1c00-1c37:47 1c3b-1c49:47 1c4d-1c4f:47 1c50-1c7f:66 1c80-1c88:1c 1c90-1cba:26 1cbd-1cbf:26 1cc0-1cc7:85
1cd0-1cd2:a2 1cd3:a3 1cd4-1ce0:a2 1ce1:a3 1ce2-1ce8:a2 1ce9-1cec:a3 1ced:a2 1cee-1cf3:a3 1cf4:a2
1cf5-1cf7:a3 1cf8-1cf9:a2 1cfa:a3 1d00-1d25:46 1d26-1d2a:2c 1d2b:1c 1d2c-1d5c:46 1d5d-1d61:2c 1d62-1d65:46
1d66-1d6a:2c 1d6b-1d77:46 1d78:1c 1d79-1dbe:46 1dbf:2c 1dc0-1dff:a2 1e00-1eff:46 1f00-1f15:2c 1f18-1f1d:2c
1f20-1f45:2c 1f48-1f4d:2c 1f50-1f57:2c 1f59/1f5f:2c 1f60-1f7d:2c 1f80-1fb4:2c 1fb6-1fc4:2c 1fc6-1fd3:2c
1fd6-1fdb:2c 1fdd-1fef:2c 1ff2-1ff4:2c 1ff6-1ffe:2c 2000-200b:a3 200c-200d:a2 200e-2064:a3 2066-2070:a3
2071:46 2074-207e:a3 207f:46 2080-208e:a3 2090-209c:46 20a0-20c0:a3 20d0-20f0:a2 2100-2125:a3 2126:2c
2127-2129:a3 212a-212b:46 212c-2131:a3 2132:46 2133-214d:a3 214e:46 214f-215f:a3 2160-2188:46 2189-218b:a3
2190-2426:a3 2440-244a:a3 2460-27ff:a3 2800-28ff:10 2900-2b73:a3 2b76-2b95:a3 2b97-2bff:a3 2c00-2c5f:27
2c60-2c7f:46 2c80-2cf3:19 2cf9-2cff:19 2d00-2d25:26 2d27:26 2d2d:26 2d30-2d67:90 2d6f-2d70:90 2d7f:90
2d80-2d96:25 2da0-2da6:25 2da8-2dae:25 2db0-2db6:25 2db8-2dbe:25 2dc0-2dc6:25 2dc8-2dce:25 2dd0-2dd6:25
2dd8-2dde:25 2de0-2dff:1c 2e00-2e5d:a3 2e80-2e99:30 2e9b-2ef3:30 2f00-2fd5:30 2ff0-2ffb:a3 3000-3004:a3
3005:30 3006:a3 3007:30 3008-3020:a3 3021-3029:30 302a-302d:a2 302e-302f:2f 3030-3037:a3 3038-303b:30
303c-303f:a3 3041-3096:34 3099-309a:a2 309b-309c:a3 309d-309f:34 30a0:a3 30a1-30fa:3c 30fb-30fc:a3
30fd-30ff:3c 3105-312f:e 3131-318e:2f 3190-319f:a3 31a0-31bf:e 31c0-31e3:a3 31f0-31ff:3c 3200-321e:2f
3220-325f:a3 3260-327e:2f 327f-32cf:a3 32d0-32fe:3c 32ff:a3 3300-3357:3c 3358-33ff:a3 3400-4dbf:30
4dc0-4dff:a3 4e00-9fff:30 a000-a48c:a0 a490-a4c6:a0 a4d0-a4ff:4b a500-a62b:99 a640-a69f:1c a6a0-a6f7:9
a700-a721:a3 a722-a787:46 a788-a78a:a3 a78b-a7ca:46 a7d0-a7d1:46 a7d3:46 a7d5-a7d9:46 a7f2-a7ff:46
a800-a82c:86 a830-a839:a3 a840-a877:6f a880-a8c5:7a a8ce-a8d9:7a a8e0-a8ff:1d a900-a92d:3b a92e:a3 a92f:3b
a930-a953:75 a95f:75 a960-a97c:2f a980-a9cd:3a a9cf:a3 a9d0-a9d9:3a a9de-a9df:3a a9e0-a9fe:5d aa00-aa36:16
aa40-aa4d:16 aa50-aa59:16 aa5c-aa5f:16 aa60-aa7f:5d aa80-aac2:8e aadb-aadf:8e aae0-aaf6:5b ab01-ab06:25
ab09-ab0e:25 ab11-ab16:25 ab20-ab26:25 ab28-ab2e:25 ab30-ab5a:46 ab5b:a3 ab5c-ab64:46 ab65:2c ab66-ab69:46
ab6a-ab6b:a3 ab70-abbf:17 abc0-abed:5b abf0-abf9:5b ac00-d7a3:2f d7b0-d7c6:2f d7cb-d7fb:2f f900-fa6d:30
fa70-fad9:30 fb00-fb06:46 fb13-fb17:6 fb1d-fb36:33 fb38-fb3c:33 fb3e:33 fb40-fb41:33 fb43-fb44:33
fb46-fb4f:33 fb50-fbc2:4 fbd3-fd3d:4 fd3e-fd3f:a3 fd40-fd8f:4 fd92-fdc7:4 fdcf:4 fdf0-fdff:4 fe00-fe0f:a2
fe10-fe19:a3 fe20-fe2d:a2 fe2e-fe2f:1c fe30-fe52:a3 fe54-fe66:a3 fe68-fe6b:a3 fe70-fe74:4 fe76-fefc:4
feff:a3 ff01-ff20:a3 ff21-ff3a:46 ff3b-ff40:a3 ff41-ff5a:46 ff5b-ff65:a3 ff66-ff6f:3c ff70:a3 ff71-ff9d:3c
ff9e-ff9f:a3 ffa0-ffbe:2f ffc2-ffc7:2f ffca-ffcf:2f ffd2-ffd7:2f ffda-ffdc:2f ffe0-ffe6:a3 ffe8-ffee:a3
fff9-fffd:a3 10000-1000b:4a 1000d-10026:4a 10028-1003a:4a 1003c-1003d:4a 1003f-1004d:4a 10050-1005d:4a
10080-100fa:4a 10100-10102:a3 10107-10133:a3 10137-1013f:a3 10140-1018e:2c 10190-1019c:a3 101a0:2c
101d0-101fc:a3 101fd:a2 10280-1029c:4c 102a0-102d0:15 102e0:a2 102e1-102fb:a3 10300-10323:39 1032d-1032f:39
10330-1034a:2a 10350-1037a:6e 10380-1039d:98 1039f:98 103a0-103c3:9d 103c8-103d5:9d 10400-1044f:20
10450-1047f:7c 10480-1049d:6a 104a0-104a9:6a 104b0-104d3:69 104d8-104fb:69 10500-10527:23 10530-10563:2
1056f:2 10570-1057a:9a 1057c-1058a:9a 1058c-10592:9a 10594-10595:9a 10597-105a1:9a 105a3-105b1:9a
105b3-105b9:9a 105bb-105bc:9a 10600-10736:49 10740-10755:49 10760-10767:49 10780-10785:46 10787-107b0:46
107b2-107ba:46 10800-10805:1b 10808:1b 1080a-10835:1b 10837-10838:1b 1083c:1b 1083f:1b 10840-10855:5
10857-1085f:5 10860-1087f:6c 10880-1089e:61 108a7-108af:61 108e0-108f2:32 108f4-108f5:32 108fb-108ff:32
10900-1091b:72 1091f:72 10920-10939:4d 1093f:4d 10980-1099f:56 109a0-109b7:55 109bc-109cf:55 109d2-109ff:55
10a00-10a03:3e 10a05-10a06:3e 10a0c-10a13:3e 10a15-10a17:3e 10a19-10a35:3e 10a38-10a3a:3e 10a3f-10a48:3e
10a50-10a58:3e 10a60-10a7f:79 10a80-10a9f:60 10ac0-10ae6:51 10aeb-10af6:51 10b00-10b35:7 10b39-10b3f:7
10b40-10b55:74 10b58-10b5f:74 10b60-10b72:70 10b78-10b7f:70 10b80-10b91:71 10b99-10b9c:71 10ba9-10baf:71
10c00-10c48:67 10c80-10cb2:38 10cc0-10cf2:38 10cfa-10cff:38 10d00-10d27:76 10d30-10d39:76 10e60-10e7e:4
10e80-10ea9:9f 10eab-10ead:9f 10eb0-10eb1:9f 10efd-10eff:4 10f00-10f27:82 10f30-10f59:81 10f70-10f89:6b
10fb0-10fcb:18 10fe0-10ff6:24 11000-1104d:f 11052-11075:f 1107f:f 11080-110c2:43 110cd:43 110d0-110e8:83
110f0-110f9:83 11100-11134:13 11136-11147:13 11150-11176:4e 11180-111df:7d 111e1-111f4:80 11200-11211:40
11213-11241:40 11280-11286:5c 11288:5c 1128a-1128d:5c 1128f-1129d:5c 1129f-112a9:5c 112b0-112ea:7f
112f0-112f9:7f 11300-11303:2b 11305-1130c:2b 1130f-11310:2b 11313-11328:2b 1132a-11330:2b 11332-11333:2b
11335-11339:2b 1133b:a2 1133c-11344:2b 11347-11348:2b 1134b-1134d:2b 11350:2b 11357:2b 1135d-11363:2b
11366-1136c:2b 11370-11374:2b 11400-1145b:62 1145d-11461:62 11480-114c7:95 114d0-114d9:95 11580-115b5:7e
115b8-115dd:7e 11600-11644:58 11650-11659:58 11660-1166c:59 11680-116b9:89 116c0-116c9:89 11700-1171a:3
1171d-1172b:3 11730-11746:3 11800-1183b:1f 118a0-118f2:9b 118ff:9b 11900-11906:1e 11909:1e 1190c-11913:1e
11915-11916:1e 11918-11935:1e 11937-11938:1e 1193b-11946:1e 11950-11959:1e 119a0-119a7:5f 119aa-119d7:5f
119da-119e4:5f 11a00-11a47:a1 11a50-11aa2:84 11ab0-11abf:14 11ac0-11af8:6d 11b00-11b09:1d 11c00-11c08:d
11c0a-11c36:d 11c38-11c45:d 11c50-11c6c:d 11c70-11c8f:52 11c92-11ca7:52 11ca9-11cb6:52 11d00-11d06:29
11d08-11d09:29 11d0b-11d36:29 11d3a:29 11d3c-11d3d:29 11d3f-11d47:29 11d50-11d59:29 11d60-11d65:28
11d67-11d68:28 11d6a-11d8e:28 11d90-11d91:28 11d93-11d98:28 11da0-11da9:28 11ee0-11ef8:4f 11f00-11f10:3d
11f12-11f3a:3d 11f3e-11f59:3d 11fb0:4b 11fc0-11ff1:8c 11fff:8c 12000-12399:9e 12400-1246e:9e 12470-12474:9e
12480-12543:9e 12f90-12ff2:1a 13000-13455:22 14400-14646:35 16800-16a38:9 16a40-16a5e:5a 16a60-16a69:5a
16a6e-16a6f:5a 16a70-16abe:96 16ac0-16ac9:96 16ad0-16aed:a 16af0-16af5:a 16b00-16b45:36 16b50-16b59:36
16b5b-16b61:36 16b63-16b77:36 16b7d-16b8f:36 16e40-16e9a:53 16f00-16f4a:73 16f4f-16f87:73 16f8f-16f9f:73
16fe0:8d 16fe1:64 16fe2-16fe3:30 16fe4:41 16ff0-16ff1:30 17000-187f7:8d 18800-18aff:8d 18b00-18cd5:41
18d00-18d08:8d 1aff0-1aff3:3c 1aff5-1affb:3c 1affd-1affe:3c 1b000:3c 1b001-1b11f:34 1b120-1b122:3c 1b132:34
1b150-1b152:34 1b155:3c 1b164-1b167:3c 1b170-1b2fb:64 1bc00-1bc6a:21 1bc70-1bc7c:21 1bc80-1bc88:21
1bc90-1bc99:21 1bc9c-1bc9f:21 1bca0-1bca3:a3 1cf00-1cf2d:a2 1cf30-1cf46:a2 1cf50-1cfc3:a3 1d000-1d0f5:a3
1d100-1d126:a3 1d129-1d166:a3 1d167-1d169:a2 1d16a-1d17a:a3 1d17b-1d182:a2 1d183-1d184:a3 1d185-1d18b:a2
1d18c-1d1a9:a3 1d1aa-1d1ad:a2 1d1ae-1d1ea:a3 1d200-1d245:2c 1d2c0-1d2d3:a3 1d2e0-1d2f3:a3 1d300-1d356:a3
1d360-1d378:a3 1d400-1d454:a3 1d456-1d49c:a3 1d49e-1d49f:a3 1d4a2:a3 1d4a5-1d4a6:a3 1d4a9-1d4ac:a3
1d4ae-1d4b9:a3 1d4bb:a3 1d4bd-1d4c3:a3 1d4c5-1d505:a3 1d507-1d50a:a3 1d50d-1d514:a3 1d516-1d51c:a3
1d51e-1d539:a3 1d53b-1d53e:a3 1d540-1d544:a3 1d546:a3 1d54a-1d550:a3 1d552-1d6a5:a3 1d6a8-1d7cb:a3
1d7ce-1d7ff:a3 1d800-1da8b:7b 1da9b-1da9f:7b 1daa1-1daaf:7b 1df00-1df1e:46 1df25-1df2a:46 1e000-1e006:27
1e008-1e018:27 1e01b-1e021:27 1e023-1e024:27 1e026-1e02a:27 1e030-1e06d:1c 1e08f:1c 1e100-1e12c:37
1e130-1e13d:37 1e140-1e149:37 1e14e-1e14f:37 1e290-1e2ae:97 1e2c0-1e2f9:9c 1e2ff:9c 1e4d0-1e4f9:5e
1e7e0-1e7e6:25 1e7e8-1e7eb:25 1e7ed-1e7ee:25 1e7f0-1e7fe:25 1e800-1e8c4:54 1e8c7-1e8d6:54 1e900-1e94b:1
1e950-1e959:1 1e95e-1e95f:1 1ec71-1ecb4:a3 1ed01-1ed3d:a3 1ee00-1ee03:4 1ee05-1ee1f:4 1ee21-1ee22:4 1ee24:4
1ee27:4 1ee29-1ee32:4 1ee34-1ee37:4 1ee39:4 1ee3b:4 1ee42:4 1ee47/1ee4d:4 1ee4e-1ee4f:4 1ee51-1ee52:4
1ee54:4 1ee57/1ee61:4 1ee62:4 1ee64:4 1ee67-1ee6a:4 1ee6c-1ee72:4 1ee74-1ee77:4 1ee79-1ee7c:4 1ee7e:4
1ee80-1ee89:4 1ee8b-1ee9b:4 1eea1-1eea3:4 1eea5-1eea9:4 1eeab-1eebb:4 1eef0-1eef1:4 1f000-1f02b:a3
1f030-1f093:a3 1f0a0-1f0ae:a3 1f0b1-1f0bf:a3 1f0c1-1f0cf:a3 1f0d1-1f0f5:a3 1f100-1f1ad:a3 1f1e6-1f1ff:a3
1f200:34 1f201-1f202:a3 1f210-1f23b:a3 1f240-1f248:a3 1f250-1f251:a3 1f260-1f265:a3 1f300-1f6d7:a3
1f6dc-1f6ec:a3 1f6f0-1f6fc:a3 1f700-1f776:a3 1f77b-1f7d9:a3 1f7e0-1f7eb:a3 1f7f0:a3 1f800-1f80b:a3
1f810-1f847:a3 1f850-1f859:a3 1f860-1f887:a3 1f890-1f8ad:a3 1f8b0-1f8b1:a3 1f900-1fa53:a3 1fa60-1fa6d:a3
1fa70-1fa7c:a3 1fa80-1fa88:a3 1fa90-1fabd:a3 1fabf-1fac5:a3 1face-1fadb:a3 1fae0-1fae8:a3 1faf0-1faf8:a3
1fb00-1fb92:a3 1fb94-1fbca:a3 1fbf0-1fbf9:a3 20000-2a6df:30 2a700-2b739:30 2b740-2b81d:30 2b820-2cea1:30
2ceb0-2ebe0:30 2f800-2fa1d:30 30000-3134a:30 31350-323af:30 e0001:a3 e0020-e007f:a3 e0100-e01ef:a2"

/-- The scripts that characters are used in, where these are not just their own. -/
def uses : Table := .ofText "
342:2c 345:2c 363-36f:46 483:1c+6e 484:1c+27 485-486:1c+46 487:1c+27 60c:4+63+76+87+92+9f
61b:4+63+76+87+92+9f 61c:4+87+92 61f:1+4+63+76+87+92+9f 640:1+4+50+51+6b+71+76+81+87 64b-655:4+87
660-669:4+92+9f 670:4+87 6d4:4+76 951:c+1d+2b+2d+2e+42+46+57+68+7d+8c+8f+95
952:c+1d+2b+2d+2e+42+46+57+68+8c+8f+95 964:c+1d+1f+28+29+2b+2d+2e+42+4e+57+5f+68+7f+80+86+89+8c+8f+95
965:c+1d+1f+28+29+2b+2d+2e+42+48+4e+57+5f+68+7f+80+86+89+8c+8f+95 966-96f:1d+1f+43+4e 9e6-9ef:c+13+86
a66-a6f:2e+5c ae6-aef:2d+40 be6-bf3:2b+8c ce6-cef:42+5f 1040-1049:13+5d+8a 10fb:26+46 1735-1736:12+31+88+91
1802-1803:59+6f 1805:59+6f 1cd0:c+1d+2b+42 1cd1:1d 1cd2:c+1d+2b+42 1cd3:1d+2b 1cd4:1d 1cd5-1cd6:c+1d
1cd7:1d+7d 1cd8:c+1d 1cd9:1d+7d 1cda:1d+42+57+68+8c+8f 1cdb:1d 1cdc-1cdd:1d+7d 1cde-1cdf:1d 1ce0:1d+7d
1ce1:c+1d 1ce2-1ce8:1d 1ce9:1d+5f 1cea:c+1d 1ceb-1cec:1d 1ced:c+1d 1cee-1cf1:1d 1cf2:c+1d+2b+42+5f+68+8f+95
1cf3:1d+2b 1cf4:1d+2b+42 1cf5-1cf6:c+1d 1cf7:c 1cf8-1cf9:1d+2b 1cfa:5f 1dc0-1dc1:2c 1df8:1c+87 1dfa:87
202f:46+59 20f0:1d+2b+46 2e43:1c+27 3001-3002:e+2f+30+34+3c+a0 3003:e+2f+30+34+3c 3006:30
3008-3011:e+2f+30+34+3c+a0 3013:e+2f+30+34+3c 3014-301b:e+2f+30+34+3c+a0 301c-301f:e+2f+30+34+3c
302a-302d:e+30 3030:e+2f+30+34+3c 3031-3035:34+3c 3037:e+2f+30+34+3c 303c-303d:30+34+3c 303e-303f:30
3099-309c:34+3c 30a0:34+3c 30fb:e+2f+30+34+3c+a0 30fc:34+3c 3190-319f:30 31c0-31e3:30 3220-3247:30
3280-32b0:30 32c0-32cb:30 32ff:30 3358-3370:30 337b-337f:30 33e0-33fe:30 a66f:1c+27 a700-a707:30+46
a830-a832:1d+1f+2d+2e+40+42+43+4e+57+58+5f+7f+89+95 a833-a835:1d+1f+2d+2e+40+42+43+4e+58+5f+7f+89+95
a836-a839:1d+1f+2d+2e+40+43+4e+58+7f+89+95 a8f1:c+1d a8f3:1d+8c a92e:3b+46+5d a9cf:11+3a fd3e-fd3f:4+63
fdf2:4+92 fdfd:4+92 fe45-fe46:e+2f+30+34+3c ff61-ff65:e+2f+30+34+3c+a0 ff70:34+3c ff9e-ff9f:34+3c
10100-10101:1a+1b+4a 10102:1b+4a 10107-10133:1b+49+4a 10137-1013f:1b+4a 102e0-102fb:4+19 10af2:51+6b
11301:2b+8c 11303:2b+8c 1133b-1133c:2b+8c 11fd0-11fd1:2b+8c 11fd3:2b+8c 1bca0-1bca3:21 1d360-1d371:30
1f250-1f251:30"

/-- The number of the script of a name. -/
def ofName? (name : String) : Option Nat :=
  (names.findIdx? fun n => n.1 == name || n.2 == name).map (· + 1)

/-- A character belongs to a script. -/
def isOf (script : Nat) (c : Char) : Bool := table.value c == script

/-- A character is used in a script. -/
def isIn (script : Nat) (c : Char) : Bool :=
  match uses.entry? c with
  | some e => e.values.contains script
  | none => isOf script c

end Conformance.Unicode.Script
