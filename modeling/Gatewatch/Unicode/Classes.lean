/-
The character classes that patterns, names and quoted text depend on. Each predicate
answers for the ASCII characters by itself and consults a table of the Unicode Character
Database for the others, so what it says about an ASCII character can be read off its
definition.
-/
import Gatewatch.Unicode.Ranges

namespace Gatewatch.Unicode

-- ============================================================ tables

/-- The characters with the property White_Space. -/
def blankTable : Ranges := Ranges.ofText
  "9-d 20 85 a0 1680 2000-200a 2028-2029 202f 205f 3000"

/-- The characters of general category Nd. -/
def digitTable : Ranges := Ranges.ofText
  "30-39 660-669 6f0-6f9 7c0-7c9 966-96f 9e6-9ef a66-a6f ae6-aef b66-b6f be6-bef c66-c6f
   ce6-cef d66-d6f de6-def e50-e59 ed0-ed9 f20-f29 1040-1049 1090-1099 17e0-17e9 1810-1819
   1946-194f 19d0-19d9 1a80-1a89 1a90-1a99 1b50-1b59 1bb0-1bb9 1c40-1c49 1c50-1c59 a620-a629
   a8d0-a8d9 a900-a909 a9d0-a9d9 a9f0-a9f9 aa50-aa59 abf0-abf9 ff10-ff19 104a0-104a9
   10d30-10d39 10d40-10d49 11066-1106f 110f0-110f9 11136-1113f 111d0-111d9 112f0-112f9
   11450-11459 114d0-114d9 11650-11659 116c0-116c9 116d0-116e3 11730-11739 118e0-118e9
   11950-11959 11bf0-11bf9 11c50-11c59 11d50-11d59 11da0-11da9 11de0-11de9 11f50-11f59
   16130-16139 16a60-16a69 16ac0-16ac9 16b50-16b59 16d70-16d79 1ccf0-1ccf9 1d7ce-1d7ff
   1e140-1e149 1e2f0-1e2f9 1e4f0-1e4f9 1e5f1-1e5fa 1e950-1e959 1fbf0-1fbf9"

/-- The characters with Alphabetic or Join_Control, and those of the categories M, Nd and Pc. -/
def wordTable : Ranges := Ranges.ofText
  "30-39 41-5a 5f 61-7a aa b5 ba c0-d6 d8-f6 f8-2c1 2c6-2d1 2e0-2e4 2ec 2ee 300-374 376-377
   37a-37d 37f 386 388-38a 38c 38e-3a1 3a3-3f5 3f7-481 483-52f 531-556 559 560-588 591-5bd 5bf
   5c1-5c2 5c4-5c5 5c7 5d0-5ea 5ef-5f2 610-61a 620-669 66e-6d3 6d5-6dc 6df-6e8 6ea-6fc 6ff
   710-74a 74d-7b1 7c0-7f5 7fa 7fd 800-82d 840-85b 860-86a 870-887 889-88f 897-8e1 8e3-963
   966-96f 971-983 985-98c 98f-990 993-9a8 9aa-9b0 9b2 9b6-9b9 9bc-9c4 9c7-9c8 9cb-9ce 9d7
   9dc-9dd 9df-9e3 9e6-9f1 9fc 9fe a01-a03 a05-a0a a0f-a10 a13-a28 a2a-a30 a32-a33 a35-a36
   a38-a39 a3c a3e-a42 a47-a48 a4b-a4d a51 a59-a5c a5e a66-a75 a81-a83 a85-a8d a8f-a91 a93-aa8
   aaa-ab0 ab2-ab3 ab5-ab9 abc-ac5 ac7-ac9 acb-acd ad0 ae0-ae3 ae6-aef af9-aff b01-b03 b05-b0c
   b0f-b10 b13-b28 b2a-b30 b32-b33 b35-b39 b3c-b44 b47-b48 b4b-b4d b55-b57 b5c-b5d b5f-b63
   b66-b6f b71 b82-b83 b85-b8a b8e-b90 b92-b95 b99-b9a b9c b9e-b9f ba3-ba4 ba8-baa bae-bb9
   bbe-bc2 bc6-bc8 bca-bcd bd0 bd7 be6-bef c00-c0c c0e-c10 c12-c28 c2a-c39 c3c-c44 c46-c48
   c4a-c4d c55-c56 c58-c5a c5c-c5d c60-c63 c66-c6f c80-c83 c85-c8c c8e-c90 c92-ca8 caa-cb3
   cb5-cb9 cbc-cc4 cc6-cc8 cca-ccd cd5-cd6 cdc-cde ce0-ce3 ce6-cef cf1-cf3 d00-d0c d0e-d10
   d12-d44 d46-d48 d4a-d4e d54-d57 d5f-d63 d66-d6f d7a-d7f d81-d83 d85-d96 d9a-db1 db3-dbb dbd
   dc0-dc6 dca dcf-dd4 dd6 dd8-ddf de6-def df2-df3 e01-e3a e40-e4e e50-e59 e81-e82 e84 e86-e8a
   e8c-ea3 ea5 ea7-ebd ec0-ec4 ec6 ec8-ece ed0-ed9 edc-edf f00 f18-f19 f20-f29 f35 f37 f39
   f3e-f47 f49-f6c f71-f84 f86-f97 f99-fbc fc6 1000-1049 1050-109d 10a0-10c5 10c7 10cd
   10d0-10fa 10fc-1248 124a-124d 1250-1256 1258 125a-125d 1260-1288 128a-128d 1290-12b0
   12b2-12b5 12b8-12be 12c0 12c2-12c5 12c8-12d6 12d8-1310 1312-1315 1318-135a 135d-135f
   1380-138f 13a0-13f5 13f8-13fd 1401-166c 166f-167f 1681-169a 16a0-16ea 16ee-16f8 1700-1715
   171f-1734 1740-1753 1760-176c 176e-1770 1772-1773 1780-17d3 17d7 17dc-17dd 17e0-17e9
   180b-180d 180f-1819 1820-1878 1880-18aa 18b0-18f5 1900-191e 1920-192b 1930-193b 1946-196d
   1970-1974 1980-19ab 19b0-19c9 19d0-19d9 1a00-1a1b 1a20-1a5e 1a60-1a7c 1a7f-1a89 1a90-1a99
   1aa7 1ab0-1add 1ae0-1aeb 1b00-1b4c 1b50-1b59 1b6b-1b73 1b80-1bf3 1c00-1c37 1c40-1c49
   1c4d-1c7d 1c80-1c8a 1c90-1cba 1cbd-1cbf 1cd0-1cd2 1cd4-1cfa 1d00-1f15 1f18-1f1d 1f20-1f45
   1f48-1f4d 1f50-1f57 1f59 1f5b 1f5d 1f5f-1f7d 1f80-1fb4 1fb6-1fbc 1fbe 1fc2-1fc4 1fc6-1fcc
   1fd0-1fd3 1fd6-1fdb 1fe0-1fec 1ff2-1ff4 1ff6-1ffc 200c-200d 203f-2040 2054 2071 207f
   2090-209c 20d0-20f0 2102 2107 210a-2113 2115 2119-211d 2124 2126 2128 212a-212d 212f-2139
   213c-213f 2145-2149 214e 2160-2188 24b6-24e9 2c00-2ce4 2ceb-2cf3 2d00-2d25 2d27 2d2d
   2d30-2d67 2d6f 2d7f-2d96 2da0-2da6 2da8-2dae 2db0-2db6 2db8-2dbe 2dc0-2dc6 2dc8-2dce
   2dd0-2dd6 2dd8-2dde 2de0-2dff 2e2f 3005-3007 3021-302f 3031-3035 3038-303c 3041-3096
   3099-309a 309d-309f 30a1-30fa 30fc-30ff 3105-312f 3131-318e 31a0-31bf 31f0-31ff 3400-4dbf
   4e00-a48c a4d0-a4fd a500-a60c a610-a62b a640-a672 a674-a67d a67f-a6f1 a717-a71f a722-a788
   a78b-a7dc a7f1-a827 a82c a840-a873 a880-a8c5 a8d0-a8d9 a8e0-a8f7 a8fb a8fd-a92d a930-a953
   a960-a97c a980-a9c0 a9cf-a9d9 a9e0-a9fe aa00-aa36 aa40-aa4d aa50-aa59 aa60-aa76 aa7a-aac2
   aadb-aadd aae0-aaef aaf2-aaf6 ab01-ab06 ab09-ab0e ab11-ab16 ab20-ab26 ab28-ab2e ab30-ab5a
   ab5c-ab69 ab70-abea abec-abed abf0-abf9 ac00-d7a3 d7b0-d7c6 d7cb-d7fb f900-fa6d fa70-fad9
   fb00-fb06 fb13-fb17 fb1d-fb28 fb2a-fb36 fb38-fb3c fb3e fb40-fb41 fb43-fb44 fb46-fbb1
   fbd3-fd3d fd50-fd8f fd92-fdc7 fdf0-fdfb fe00-fe0f fe20-fe2f fe33-fe34 fe4d-fe4f fe70-fe74
   fe76-fefc ff10-ff19 ff21-ff3a ff3f ff41-ff5a ff66-ffbe ffc2-ffc7 ffca-ffcf ffd2-ffd7
   ffda-ffdc 10000-1000b 1000d-10026 10028-1003a 1003c-1003d 1003f-1004d 10050-1005d
   10080-100fa 10140-10174 101fd 10280-1029c 102a0-102d0 102e0 10300-1031f 1032d-1034a
   10350-1037a 10380-1039d 103a0-103c3 103c8-103cf 103d1-103d5 10400-1049d 104a0-104a9
   104b0-104d3 104d8-104fb 10500-10527 10530-10563 10570-1057a 1057c-1058a 1058c-10592
   10594-10595 10597-105a1 105a3-105b1 105b3-105b9 105bb-105bc 105c0-105f3 10600-10736
   10740-10755 10760-10767 10780-10785 10787-107b0 107b2-107ba 10800-10805 10808 1080a-10835
   10837-10838 1083c 1083f-10855 10860-10876 10880-1089e 108e0-108f2 108f4-108f5 10900-10915
   10920-10939 10940-10959 10980-109b7 109be-109bf 10a00-10a03 10a05-10a06 10a0c-10a13
   10a15-10a17 10a19-10a35 10a38-10a3a 10a3f 10a60-10a7c 10a80-10a9c 10ac0-10ac7 10ac9-10ae6
   10b00-10b35 10b40-10b55 10b60-10b72 10b80-10b91 10c00-10c48 10c80-10cb2 10cc0-10cf2
   10d00-10d27 10d30-10d39 10d40-10d65 10d69-10d6d 10d6f-10d85 10e80-10ea9 10eab-10eac
   10eb0-10eb1 10ec2-10ec7 10efa-10f1c 10f27 10f30-10f50 10f70-10f85 10fb0-10fc4 10fe0-10ff6
   11000-11046 11066-11075 1107f-110ba 110c2 110d0-110e8 110f0-110f9 11100-11134 11136-1113f
   11144-11147 11150-11173 11176 11180-111c4 111c9-111cc 111ce-111da 111dc 11200-11211
   11213-11237 1123e-11241 11280-11286 11288 1128a-1128d 1128f-1129d 1129f-112a8 112b0-112ea
   112f0-112f9 11300-11303 11305-1130c 1130f-11310 11313-11328 1132a-11330 11332-11333
   11335-11339 1133b-11344 11347-11348 1134b-1134d 11350 11357 1135d-11363 11366-1136c
   11370-11374 11380-11389 1138b 1138e 11390-113b5 113b7-113c0 113c2 113c5 113c7-113ca
   113cc-113d3 113e1-113e2 11400-1144a 11450-11459 1145e-11461 11480-114c5 114c7 114d0-114d9
   11580-115b5 115b8-115c0 115d8-115dd 11600-11640 11644 11650-11659 11680-116b8 116c0-116c9
   116d0-116e3 11700-1171a 1171d-1172b 11730-11739 11740-11746 11800-1183a 118a0-118e9
   118ff-11906 11909 1190c-11913 11915-11916 11918-11935 11937-11938 1193b-11943 11950-11959
   119a0-119a7 119aa-119d7 119da-119e1 119e3-119e4 11a00-11a3e 11a47 11a50-11a99 11a9d
   11ab0-11af8 11b60-11b67 11bc0-11be0 11bf0-11bf9 11c00-11c08 11c0a-11c36 11c38-11c40
   11c50-11c59 11c72-11c8f 11c92-11ca7 11ca9-11cb6 11d00-11d06 11d08-11d09 11d0b-11d36 11d3a
   11d3c-11d3d 11d3f-11d47 11d50-11d59 11d60-11d65 11d67-11d68 11d6a-11d8e 11d90-11d91
   11d93-11d98 11da0-11da9 11db0-11ddb 11de0-11de9 11ee0-11ef6 11f00-11f10 11f12-11f3a
   11f3e-11f42 11f50-11f5a 11fb0 12000-12399 12400-1246e 12480-12543 12f90-12ff0 13000-1342f
   13440-13455 13460-143fa 14400-14646 16100-16139 16800-16a38 16a40-16a5e 16a60-16a69
   16a70-16abe 16ac0-16ac9 16ad0-16aed 16af0-16af4 16b00-16b36 16b40-16b43 16b50-16b59
   16b63-16b77 16b7d-16b8f 16d40-16d6c 16d70-16d79 16e40-16e7f 16ea0-16eb8 16ebb-16ed3
   16f00-16f4a 16f4f-16f87 16f8f-16f9f 16fe0-16fe1 16fe3-16fe4 16ff0-16ff6 17000-18cd5
   18cff-18d1e 18d80-18df2 1aff0-1aff3 1aff5-1affb 1affd-1affe 1b000-1b122 1b132 1b150-1b152
   1b155 1b164-1b167 1b170-1b2fb 1bc00-1bc6a 1bc70-1bc7c 1bc80-1bc88 1bc90-1bc99 1bc9d-1bc9e
   1ccf0-1ccf9 1cf00-1cf2d 1cf30-1cf46 1d165-1d169 1d16d-1d172 1d17b-1d182 1d185-1d18b
   1d1aa-1d1ad 1d242-1d244 1d400-1d454 1d456-1d49c 1d49e-1d49f 1d4a2 1d4a5-1d4a6 1d4a9-1d4ac
   1d4ae-1d4b9 1d4bb 1d4bd-1d4c3 1d4c5-1d505 1d507-1d50a 1d50d-1d514 1d516-1d51c 1d51e-1d539
   1d53b-1d53e 1d540-1d544 1d546 1d54a-1d550 1d552-1d6a5 1d6a8-1d6c0 1d6c2-1d6da 1d6dc-1d6fa
   1d6fc-1d714 1d716-1d734 1d736-1d74e 1d750-1d76e 1d770-1d788 1d78a-1d7a8 1d7aa-1d7c2
   1d7c4-1d7cb 1d7ce-1d7ff 1da00-1da36 1da3b-1da6c 1da75 1da84 1da9b-1da9f 1daa1-1daaf
   1df00-1df1e 1df25-1df2a 1e000-1e006 1e008-1e018 1e01b-1e021 1e023-1e024 1e026-1e02a
   1e030-1e06d 1e08f 1e100-1e12c 1e130-1e13d 1e140-1e149 1e14e 1e290-1e2ae 1e2c0-1e2f9
   1e4d0-1e4f9 1e5d0-1e5fa 1e6c0-1e6de 1e6e0-1e6f5 1e6fe-1e6ff 1e7e0-1e7e6 1e7e8-1e7eb
   1e7ed-1e7ee 1e7f0-1e7fe 1e800-1e8c4 1e8d0-1e8d6 1e900-1e94b 1e950-1e959 1ee00-1ee03
   1ee05-1ee1f 1ee21-1ee22 1ee24 1ee27 1ee29-1ee32 1ee34-1ee37 1ee39 1ee3b 1ee42 1ee47 1ee49
   1ee4b 1ee4d-1ee4f 1ee51-1ee52 1ee54 1ee57 1ee59 1ee5b 1ee5d 1ee5f 1ee61-1ee62 1ee64
   1ee67-1ee6a 1ee6c-1ee72 1ee74-1ee77 1ee79-1ee7c 1ee7e 1ee80-1ee89 1ee8b-1ee9b 1eea1-1eea3
   1eea5-1eea9 1eeab-1eebb 1f130-1f149 1f150-1f169 1f170-1f189 1fbf0-1fbf9 20000-2a6df
   2a700-2b81d 2b820-2cead 2ceb0-2ebe0 2ebf0-2ee5d 2f800-2fa1d 30000-3134a 31350-33479
   e0100-e01ef"

/-- The characters with the property Alphabetic. -/
def alphabeticTable : Ranges := Ranges.ofText
  "41-5a 61-7a aa b5 ba c0-d6 d8-f6 f8-2c1 2c6-2d1 2e0-2e4 2ec 2ee 345 363-374 376-377 37a-37d
   37f 386 388-38a 38c 38e-3a1 3a3-3f5 3f7-481 48a-52f 531-556 559 560-588 5b0-5bd 5bf 5c1-5c2
   5c4-5c5 5c7 5d0-5ea 5ef-5f2 610-61a 620-657 659-65f 66e-6d3 6d5-6dc 6e1-6e8 6ed-6ef 6fa-6fc
   6ff 710-73f 74d-7b1 7ca-7ea 7f4-7f5 7fa 800-817 81a-82c 840-858 860-86a 870-887 889-88f 897
   8a0-8c9 8d4-8df 8e3-8e9 8f0-93b 93d-94c 94e-950 955-963 971-983 985-98c 98f-990 993-9a8
   9aa-9b0 9b2 9b6-9b9 9bd-9c4 9c7-9c8 9cb-9cc 9ce 9d7 9dc-9dd 9df-9e3 9f0-9f1 9fc a01-a03
   a05-a0a a0f-a10 a13-a28 a2a-a30 a32-a33 a35-a36 a38-a39 a3e-a42 a47-a48 a4b-a4c a51 a59-a5c
   a5e a70-a75 a81-a83 a85-a8d a8f-a91 a93-aa8 aaa-ab0 ab2-ab3 ab5-ab9 abd-ac5 ac7-ac9 acb-acc
   ad0 ae0-ae3 af9-afc b01-b03 b05-b0c b0f-b10 b13-b28 b2a-b30 b32-b33 b35-b39 b3d-b44 b47-b48
   b4b-b4c b56-b57 b5c-b5d b5f-b63 b71 b82-b83 b85-b8a b8e-b90 b92-b95 b99-b9a b9c b9e-b9f
   ba3-ba4 ba8-baa bae-bb9 bbe-bc2 bc6-bc8 bca-bcc bd0 bd7 c00-c0c c0e-c10 c12-c28 c2a-c39
   c3d-c44 c46-c48 c4a-c4c c55-c56 c58-c5a c5c-c5d c60-c63 c80-c83 c85-c8c c8e-c90 c92-ca8
   caa-cb3 cb5-cb9 cbd-cc4 cc6-cc8 cca-ccc cd5-cd6 cdc-cde ce0-ce3 cf1-cf3 d00-d0c d0e-d10
   d12-d3a d3d-d44 d46-d48 d4a-d4c d4e d54-d57 d5f-d63 d7a-d7f d81-d83 d85-d96 d9a-db1 db3-dbb
   dbd dc0-dc6 dcf-dd4 dd6 dd8-ddf df2-df3 e01-e3a e40-e46 e4d e81-e82 e84 e86-e8a e8c-ea3 ea5
   ea7-eb9 ebb-ebd ec0-ec4 ec6 ecd edc-edf f00 f40-f47 f49-f6c f71-f83 f88-f97 f99-fbc
   1000-1036 1038 103b-103f 1050-108f 109a-109d 10a0-10c5 10c7 10cd 10d0-10fa 10fc-1248
   124a-124d 1250-1256 1258 125a-125d 1260-1288 128a-128d 1290-12b0 12b2-12b5 12b8-12be 12c0
   12c2-12c5 12c8-12d6 12d8-1310 1312-1315 1318-135a 1380-138f 13a0-13f5 13f8-13fd 1401-166c
   166f-167f 1681-169a 16a0-16ea 16ee-16f8 1700-1713 171f-1733 1740-1753 1760-176c 176e-1770
   1772-1773 1780-17b3 17b6-17c8 17d7 17dc 1820-1878 1880-18aa 18b0-18f5 1900-191e 1920-192b
   1930-1938 1950-196d 1970-1974 1980-19ab 19b0-19c9 1a00-1a1b 1a20-1a5e 1a61-1a74 1aa7
   1abf-1ac0 1acc-1ace 1b00-1b33 1b35-1b43 1b45-1b4c 1b80-1ba9 1bac-1baf 1bba-1be5 1be7-1bf1
   1c00-1c36 1c4d-1c4f 1c5a-1c7d 1c80-1c8a 1c90-1cba 1cbd-1cbf 1ce9-1cec 1cee-1cf3 1cf5-1cf6
   1cfa 1d00-1dbf 1dd3-1df4 1e00-1f15 1f18-1f1d 1f20-1f45 1f48-1f4d 1f50-1f57 1f59 1f5b 1f5d
   1f5f-1f7d 1f80-1fb4 1fb6-1fbc 1fbe 1fc2-1fc4 1fc6-1fcc 1fd0-1fd3 1fd6-1fdb 1fe0-1fec
   1ff2-1ff4 1ff6-1ffc 2071 207f 2090-209c 2102 2107 210a-2113 2115 2119-211d 2124 2126 2128
   212a-212d 212f-2139 213c-213f 2145-2149 214e 2160-2188 24b6-24e9 2c00-2ce4 2ceb-2cee
   2cf2-2cf3 2d00-2d25 2d27 2d2d 2d30-2d67 2d6f 2d80-2d96 2da0-2da6 2da8-2dae 2db0-2db6
   2db8-2dbe 2dc0-2dc6 2dc8-2dce 2dd0-2dd6 2dd8-2dde 2de0-2dff 2e2f 3005-3007 3021-3029
   3031-3035 3038-303c 3041-3096 309d-309f 30a1-30fa 30fc-30ff 3105-312f 3131-318e 31a0-31bf
   31f0-31ff 3400-4dbf 4e00-a48c a4d0-a4fd a500-a60c a610-a61f a62a-a62b a640-a66e a674-a67b
   a67f-a6ef a717-a71f a722-a788 a78b-a7dc a7f1-a805 a807-a827 a840-a873 a880-a8c3 a8c5
   a8f2-a8f7 a8fb a8fd-a8ff a90a-a92a a930-a952 a960-a97c a980-a9b2 a9b4-a9bf a9cf a9e0-a9ef
   a9fa-a9fe aa00-aa36 aa40-aa4d aa60-aa76 aa7a-aabe aac0 aac2 aadb-aadd aae0-aaef aaf2-aaf5
   ab01-ab06 ab09-ab0e ab11-ab16 ab20-ab26 ab28-ab2e ab30-ab5a ab5c-ab69 ab70-abea ac00-d7a3
   d7b0-d7c6 d7cb-d7fb f900-fa6d fa70-fad9 fb00-fb06 fb13-fb17 fb1d-fb28 fb2a-fb36 fb38-fb3c
   fb3e fb40-fb41 fb43-fb44 fb46-fbb1 fbd3-fd3d fd50-fd8f fd92-fdc7 fdf0-fdfb fe70-fe74
   fe76-fefc ff21-ff3a ff41-ff5a ff66-ffbe ffc2-ffc7 ffca-ffcf ffd2-ffd7 ffda-ffdc 10000-1000b
   1000d-10026 10028-1003a 1003c-1003d 1003f-1004d 10050-1005d 10080-100fa 10140-10174
   10280-1029c 102a0-102d0 10300-1031f 1032d-1034a 10350-1037a 10380-1039d 103a0-103c3
   103c8-103cf 103d1-103d5 10400-1049d 104b0-104d3 104d8-104fb 10500-10527 10530-10563
   10570-1057a 1057c-1058a 1058c-10592 10594-10595 10597-105a1 105a3-105b1 105b3-105b9
   105bb-105bc 105c0-105f3 10600-10736 10740-10755 10760-10767 10780-10785 10787-107b0
   107b2-107ba 10800-10805 10808 1080a-10835 10837-10838 1083c 1083f-10855 10860-10876
   10880-1089e 108e0-108f2 108f4-108f5 10900-10915 10920-10939 10940-10959 10980-109b7
   109be-109bf 10a00-10a03 10a05-10a06 10a0c-10a13 10a15-10a17 10a19-10a35 10a60-10a7c
   10a80-10a9c 10ac0-10ac7 10ac9-10ae4 10b00-10b35 10b40-10b55 10b60-10b72 10b80-10b91
   10c00-10c48 10c80-10cb2 10cc0-10cf2 10d00-10d27 10d4a-10d65 10d69 10d6f-10d85 10e80-10ea9
   10eab-10eac 10eb0-10eb1 10ec2-10ec7 10efa-10efc 10f00-10f1c 10f27 10f30-10f45 10f70-10f81
   10fb0-10fc4 10fe0-10ff6 11000-11045 11071-11075 11080-110b8 110c2 110d0-110e8 11100-11132
   11144-11147 11150-11172 11176 11180-111bf 111c1-111c4 111ce-111cf 111da 111dc 11200-11211
   11213-11234 11237 1123e-11241 11280-11286 11288 1128a-1128d 1128f-1129d 1129f-112a8
   112b0-112e8 11300-11303 11305-1130c 1130f-11310 11313-11328 1132a-11330 11332-11333
   11335-11339 1133d-11344 11347-11348 1134b-1134c 11350 11357 1135d-11363 11380-11389 1138b
   1138e 11390-113b5 113b7-113c0 113c2 113c5 113c7-113ca 113cc-113cd 113d1 113d3 11400-11441
   11443-11445 11447-1144a 1145f-11461 11480-114c1 114c4-114c5 114c7 11580-115b5 115b8-115be
   115d8-115dd 11600-1163e 11640 11644 11680-116b5 116b8 11700-1171a 1171d-1172a 11740-11746
   11800-11838 118a0-118df 118ff-11906 11909 1190c-11913 11915-11916 11918-11935 11937-11938
   1193b-1193c 1193f-11942 119a0-119a7 119aa-119d7 119da-119df 119e1 119e3-119e4 11a00-11a32
   11a35-11a3e 11a50-11a97 11a9d 11ab0-11af8 11b60-11b67 11bc0-11be0 11c00-11c08 11c0a-11c36
   11c38-11c3e 11c40 11c72-11c8f 11c92-11ca7 11ca9-11cb6 11d00-11d06 11d08-11d09 11d0b-11d36
   11d3a 11d3c-11d3d 11d3f-11d41 11d43 11d46-11d47 11d60-11d65 11d67-11d68 11d6a-11d8e
   11d90-11d91 11d93-11d96 11d98 11db0-11ddb 11ee0-11ef6 11f00-11f10 11f12-11f3a 11f3e-11f40
   11fb0 12000-12399 12400-1246e 12480-12543 12f90-12ff0 13000-1342f 13441-13446 13460-143fa
   14400-14646 16100-1612e 16800-16a38 16a40-16a5e 16a70-16abe 16ad0-16aed 16b00-16b2f
   16b40-16b43 16b63-16b77 16b7d-16b8f 16d40-16d6c 16e40-16e7f 16ea0-16eb8 16ebb-16ed3
   16f00-16f4a 16f4f-16f87 16f8f-16f9f 16fe0-16fe1 16fe3 16ff0-16ff6 17000-18cd5 18cff-18d1e
   18d80-18df2 1aff0-1aff3 1aff5-1affb 1affd-1affe 1b000-1b122 1b132 1b150-1b152 1b155
   1b164-1b167 1b170-1b2fb 1bc00-1bc6a 1bc70-1bc7c 1bc80-1bc88 1bc90-1bc99 1bc9e 1d400-1d454
   1d456-1d49c 1d49e-1d49f 1d4a2 1d4a5-1d4a6 1d4a9-1d4ac 1d4ae-1d4b9 1d4bb 1d4bd-1d4c3
   1d4c5-1d505 1d507-1d50a 1d50d-1d514 1d516-1d51c 1d51e-1d539 1d53b-1d53e 1d540-1d544 1d546
   1d54a-1d550 1d552-1d6a5 1d6a8-1d6c0 1d6c2-1d6da 1d6dc-1d6fa 1d6fc-1d714 1d716-1d734
   1d736-1d74e 1d750-1d76e 1d770-1d788 1d78a-1d7a8 1d7aa-1d7c2 1d7c4-1d7cb 1df00-1df1e
   1df25-1df2a 1e000-1e006 1e008-1e018 1e01b-1e021 1e023-1e024 1e026-1e02a 1e030-1e06d 1e08f
   1e100-1e12c 1e137-1e13d 1e14e 1e290-1e2ad 1e2c0-1e2eb 1e4d0-1e4eb 1e5d0-1e5ed 1e5f0
   1e6c0-1e6de 1e6e0-1e6f5 1e6fe-1e6ff 1e7e0-1e7e6 1e7e8-1e7eb 1e7ed-1e7ee 1e7f0-1e7fe
   1e800-1e8c4 1e900-1e943 1e947 1e94b 1ee00-1ee03 1ee05-1ee1f 1ee21-1ee22 1ee24 1ee27
   1ee29-1ee32 1ee34-1ee37 1ee39 1ee3b 1ee42 1ee47 1ee49 1ee4b 1ee4d-1ee4f 1ee51-1ee52 1ee54
   1ee57 1ee59 1ee5b 1ee5d 1ee5f 1ee61-1ee62 1ee64 1ee67-1ee6a 1ee6c-1ee72 1ee74-1ee77
   1ee79-1ee7c 1ee7e 1ee80-1ee89 1ee8b-1ee9b 1eea1-1eea3 1eea5-1eea9 1eeab-1eebb 1f130-1f149
   1f150-1f169 1f170-1f189 20000-2a6df 2a700-2b81d 2b820-2cead 2ceb0-2ebe0 2ebf0-2ee5d
   2f800-2fa1d 30000-3134a 31350-33479"

/-- The characters of the general categories Nd, Nl and No. -/
def numericTable : Ranges := Ranges.ofText
  "30-39 b2-b3 b9 bc-be 660-669 6f0-6f9 7c0-7c9 966-96f 9e6-9ef 9f4-9f9 a66-a6f ae6-aef
   b66-b6f b72-b77 be6-bf2 c66-c6f c78-c7e ce6-cef d58-d5e d66-d78 de6-def e50-e59 ed0-ed9
   f20-f33 1040-1049 1090-1099 1369-137c 16ee-16f0 17e0-17e9 17f0-17f9 1810-1819 1946-194f
   19d0-19da 1a80-1a89 1a90-1a99 1b50-1b59 1bb0-1bb9 1c40-1c49 1c50-1c59 2070 2074-2079
   2080-2089 2150-2182 2185-2189 2460-249b 24ea-24ff 2776-2793 2cfd 3007 3021-3029 3038-303a
   3192-3195 3220-3229 3248-324f 3251-325f 3280-3289 32b1-32bf a620-a629 a6e6-a6ef a830-a835
   a8d0-a8d9 a900-a909 a9d0-a9d9 a9f0-a9f9 aa50-aa59 abf0-abf9 ff10-ff19 10107-10133
   10140-10178 1018a-1018b 102e1-102fb 10320-10323 10341 1034a 103d1-103d5 104a0-104a9
   10858-1085f 10879-1087f 108a7-108af 108fb-108ff 10916-1091b 109bc-109bd 109c0-109cf
   109d2-109ff 10a40-10a48 10a7d-10a7e 10a9d-10a9f 10aeb-10aef 10b58-10b5f 10b78-10b7f
   10ba9-10baf 10cfa-10cff 10d30-10d39 10d40-10d49 10e60-10e7e 10f1d-10f26 10f51-10f54
   10fc5-10fcb 11052-1106f 110f0-110f9 11136-1113f 111d0-111d9 111e1-111f4 112f0-112f9
   11450-11459 114d0-114d9 11650-11659 116c0-116c9 116d0-116e3 11730-1173b 118e0-118f2
   11950-11959 11bf0-11bf9 11c50-11c6c 11d50-11d59 11da0-11da9 11de0-11de9 11f50-11f59
   11fc0-11fd4 12400-1246e 16130-16139 16a60-16a69 16ac0-16ac9 16b50-16b59 16b5b-16b61
   16d70-16d79 16e80-16e96 16ff4-16ff6 1ccf0-1ccf9 1d2c0-1d2d3 1d2e0-1d2f3 1d360-1d378
   1d7ce-1d7ff 1e140-1e149 1e2f0-1e2f9 1e4f0-1e4f9 1e5f1-1e5fa 1e8c7-1e8cf 1e950-1e959
   1ec71-1ecab 1ecad-1ecaf 1ecb1-1ecb4 1ed01-1ed2d 1ed2f-1ed3d 1f100-1f10c 1fbf0-1fbf9"

/-- The characters with the property Grapheme_Extend. -/
def extendTable : Ranges := Ranges.ofText
  "300-36f 483-489 591-5bd 5bf 5c1-5c2 5c4-5c5 5c7 610-61a 64b-65f 670 6d6-6dc 6df-6e4 6e7-6e8
   6ea-6ed 711 730-74a 7a6-7b0 7eb-7f3 7fd 816-819 81b-823 825-827 829-82d 859-85b 897-89f
   8ca-8e1 8e3-902 93a 93c 941-948 94d 951-957 962-963 981 9bc 9be 9c1-9c4 9cd 9d7 9e2-9e3 9fe
   a01-a02 a3c a41-a42 a47-a48 a4b-a4d a51 a70-a71 a75 a81-a82 abc ac1-ac5 ac7-ac8 acd ae2-ae3
   afa-aff b01 b3c b3e-b3f b41-b44 b4d b55-b57 b62-b63 b82 bbe bc0 bcd bd7 c00 c04 c3c c3e-c40
   c46-c48 c4a-c4d c55-c56 c62-c63 c81 cbc cbf-cc0 cc2 cc6-cc8 cca-ccd cd5-cd6 ce2-ce3 d00-d01
   d3b-d3c d3e d41-d44 d4d d57 d62-d63 d81 dca dcf dd2-dd4 dd6 ddf e31 e34-e3a e47-e4e eb1
   eb4-ebc ec8-ece f18-f19 f35 f37 f39 f71-f7e f80-f84 f86-f87 f8d-f97 f99-fbc fc6 102d-1030
   1032-1037 1039-103a 103d-103e 1058-1059 105e-1060 1071-1074 1082 1085-1086 108d 109d
   135d-135f 1712-1715 1732-1734 1752-1753 1772-1773 17b4-17b5 17b7-17bd 17c6 17c9-17d3 17dd
   180b-180d 180f 1885-1886 18a9 1920-1922 1927-1928 1932 1939-193b 1a17-1a18 1a1b 1a56
   1a58-1a5e 1a60 1a62 1a65-1a6c 1a73-1a7c 1a7f 1ab0-1add 1ae0-1aeb 1b00-1b03 1b34-1b3d
   1b42-1b44 1b6b-1b73 1b80-1b81 1ba2-1ba5 1ba8-1bad 1be6 1be8-1be9 1bed 1bef-1bf3 1c2c-1c33
   1c36-1c37 1cd0-1cd2 1cd4-1ce0 1ce2-1ce8 1ced 1cf4 1cf8-1cf9 1dc0-1dff 200c 20d0-20f0
   2cef-2cf1 2d7f 2de0-2dff 302a-302f 3099-309a a66f-a672 a674-a67d a69e-a69f a6f0-a6f1 a802
   a806 a80b a825-a826 a82c a8c4-a8c5 a8e0-a8f1 a8ff a926-a92d a947-a951 a953 a980-a982 a9b3
   a9b6-a9b9 a9bc-a9bd a9c0 a9e5 aa29-aa2e aa31-aa32 aa35-aa36 aa43 aa4c aa7c aab0 aab2-aab4
   aab7-aab8 aabe-aabf aac1 aaec-aaed aaf6 abe5 abe8 abed fb1e fe00-fe0f fe20-fe2f ff9e-ff9f
   101fd 102e0 10376-1037a 10a01-10a03 10a05-10a06 10a0c-10a0f 10a38-10a3a 10a3f 10ae5-10ae6
   10d24-10d27 10d69-10d6d 10eab-10eac 10efa-10eff 10f46-10f50 10f82-10f85 11001 11038-11046
   11070 11073-11074 1107f-11081 110b3-110b6 110b9-110ba 110c2 11100-11102 11127-1112b
   1112d-11134 11173 11180-11181 111b6-111be 111c0 111c9-111cc 111cf 1122f-11231 11234-11237
   1123e 11241 112df 112e3-112ea 11300-11301 1133b-1133c 1133e 11340 1134d 11357 11366-1136c
   11370-11374 113b8 113bb-113c0 113c2 113c5 113c7-113c9 113ce-113d0 113d2 113e1-113e2
   11438-1143f 11442-11444 11446 1145e 114b0 114b3-114b8 114ba 114bd 114bf-114c0 114c2-114c3
   115af 115b2-115b5 115bc-115bd 115bf-115c0 115dc-115dd 11633-1163a 1163d 1163f-11640 116ab
   116ad 116b0-116b7 1171d 1171f 11722-11725 11727-1172b 1182f-11837 11839-1183a 11930
   1193b-1193e 11943 119d4-119d7 119da-119db 119e0 11a01-11a0a 11a33-11a38 11a3b-11a3e 11a47
   11a51-11a56 11a59-11a5b 11a8a-11a96 11a98-11a99 11b60 11b62-11b64 11b66 11c30-11c36
   11c38-11c3d 11c3f 11c92-11ca7 11caa-11cb0 11cb2-11cb3 11cb5-11cb6 11d31-11d36 11d3a
   11d3c-11d3d 11d3f-11d45 11d47 11d90-11d91 11d95 11d97 11ef3-11ef4 11f00-11f01 11f36-11f3a
   11f40-11f42 11f5a 13440 13447-13455 1611e-16129 1612d-1612f 16af0-16af4 16b30-16b36 16f4f
   16f8f-16f92 16fe4 16ff0-16ff1 1bc9d-1bc9e 1cf00-1cf2d 1cf30-1cf46 1d165-1d169 1d16d-1d172
   1d17b-1d182 1d185-1d18b 1d1aa-1d1ad 1d242-1d244 1da00-1da36 1da3b-1da6c 1da75 1da84
   1da9b-1da9f 1daa1-1daaf 1e000-1e006 1e008-1e018 1e01b-1e021 1e023-1e024 1e026-1e02a 1e08f
   1e130-1e136 1e2ae 1e2ec-1e2ef 1e4ec-1e4ef 1e5ee-1e5ef 1e6e3 1e6e6 1e6ee-1e6ef 1e6f5
   1e8d0-1e8d6 1e944-1e94a e0020-e007f e0100-e01ef"

/-- The characters that are no control, format, private or unassigned ones and no separators, the plain space excepted. -/
def printableTable : Ranges := Ranges.ofText
  "20-7e a1-ac ae-377 37a-37f 384-38a 38c 38e-3a1 3a3-52f 531-556 559-58a 58d-58f 591-5c7
   5d0-5ea 5ef-5f4 606-61b 61d-6dc 6de-70d 710-74a 74d-7b1 7c0-7fa 7fd-82d 830-83e 840-85b 85e
   860-86a 870-88f 897-8e1 8e3-983 985-98c 98f-990 993-9a8 9aa-9b0 9b2 9b6-9b9 9bc-9c4 9c7-9c8
   9cb-9ce 9d7 9dc-9dd 9df-9e3 9e6-9fe a01-a03 a05-a0a a0f-a10 a13-a28 a2a-a30 a32-a33 a35-a36
   a38-a39 a3c a3e-a42 a47-a48 a4b-a4d a51 a59-a5c a5e a66-a76 a81-a83 a85-a8d a8f-a91 a93-aa8
   aaa-ab0 ab2-ab3 ab5-ab9 abc-ac5 ac7-ac9 acb-acd ad0 ae0-ae3 ae6-af1 af9-aff b01-b03 b05-b0c
   b0f-b10 b13-b28 b2a-b30 b32-b33 b35-b39 b3c-b44 b47-b48 b4b-b4d b55-b57 b5c-b5d b5f-b63
   b66-b77 b82-b83 b85-b8a b8e-b90 b92-b95 b99-b9a b9c b9e-b9f ba3-ba4 ba8-baa bae-bb9 bbe-bc2
   bc6-bc8 bca-bcd bd0 bd7 be6-bfa c00-c0c c0e-c10 c12-c28 c2a-c39 c3c-c44 c46-c48 c4a-c4d
   c55-c56 c58-c5a c5c-c5d c60-c63 c66-c6f c77-c8c c8e-c90 c92-ca8 caa-cb3 cb5-cb9 cbc-cc4
   cc6-cc8 cca-ccd cd5-cd6 cdc-cde ce0-ce3 ce6-cef cf1-cf3 d00-d0c d0e-d10 d12-d44 d46-d48
   d4a-d4f d54-d63 d66-d7f d81-d83 d85-d96 d9a-db1 db3-dbb dbd dc0-dc6 dca dcf-dd4 dd6 dd8-ddf
   de6-def df2-df4 e01-e3a e3f-e5b e81-e82 e84 e86-e8a e8c-ea3 ea5 ea7-ebd ec0-ec4 ec6 ec8-ece
   ed0-ed9 edc-edf f00-f47 f49-f6c f71-f97 f99-fbc fbe-fcc fce-fda 1000-10c5 10c7 10cd
   10d0-1248 124a-124d 1250-1256 1258 125a-125d 1260-1288 128a-128d 1290-12b0 12b2-12b5
   12b8-12be 12c0 12c2-12c5 12c8-12d6 12d8-1310 1312-1315 1318-135a 135d-137c 1380-1399
   13a0-13f5 13f8-13fd 1400-167f 1681-169c 16a0-16f8 1700-1715 171f-1736 1740-1753 1760-176c
   176e-1770 1772-1773 1780-17dd 17e0-17e9 17f0-17f9 1800-180d 180f-1819 1820-1878 1880-18aa
   18b0-18f5 1900-191e 1920-192b 1930-193b 1940 1944-196d 1970-1974 1980-19ab 19b0-19c9
   19d0-19da 19de-1a1b 1a1e-1a5e 1a60-1a7c 1a7f-1a89 1a90-1a99 1aa0-1aad 1ab0-1add 1ae0-1aeb
   1b00-1b4c 1b4e-1bf3 1bfc-1c37 1c3b-1c49 1c4d-1c8a 1c90-1cba 1cbd-1cc7 1cd0-1cfa 1d00-1f15
   1f18-1f1d 1f20-1f45 1f48-1f4d 1f50-1f57 1f59 1f5b 1f5d 1f5f-1f7d 1f80-1fb4 1fb6-1fc4
   1fc6-1fd3 1fd6-1fdb 1fdd-1fef 1ff2-1ff4 1ff6-1ffe 2010-2027 2030-205e 2070-2071 2074-208e
   2090-209c 20a0-20c1 20d0-20f0 2100-218b 2190-2429 2440-244a 2460-2b73 2b76-2cf3 2cf9-2d25
   2d27 2d2d 2d30-2d67 2d6f-2d70 2d7f-2d96 2da0-2da6 2da8-2dae 2db0-2db6 2db8-2dbe 2dc0-2dc6
   2dc8-2dce 2dd0-2dd6 2dd8-2dde 2de0-2e5d 2e80-2e99 2e9b-2ef3 2f00-2fd5 2ff0-2fff 3001-303f
   3041-3096 3099-30ff 3105-312f 3131-318e 3190-31e5 31ef-321e 3220-a48c a490-a4c6 a4d0-a62b
   a640-a6f7 a700-a7dc a7f1-a82c a830-a839 a840-a877 a880-a8c5 a8ce-a8d9 a8e0-a953 a95f-a97c
   a980-a9cd a9cf-a9d9 a9de-a9fe aa00-aa36 aa40-aa4d aa50-aa59 aa5c-aac2 aadb-aaf6 ab01-ab06
   ab09-ab0e ab11-ab16 ab20-ab26 ab28-ab2e ab30-ab6b ab70-abed abf0-abf9 ac00-d7a3 d7b0-d7c6
   d7cb-d7fb f900-fa6d fa70-fad9 fb00-fb06 fb13-fb17 fb1d-fb36 fb38-fb3c fb3e fb40-fb41
   fb43-fb44 fb46-fdcf fdf0-fe19 fe20-fe52 fe54-fe66 fe68-fe6b fe70-fe74 fe76-fefc ff01-ffbe
   ffc2-ffc7 ffca-ffcf ffd2-ffd7 ffda-ffdc ffe0-ffe6 ffe8-ffee fffc-fffd 10000-1000b
   1000d-10026 10028-1003a 1003c-1003d 1003f-1004d 10050-1005d 10080-100fa 10100-10102
   10107-10133 10137-1018e 10190-1019c 101a0 101d0-101fd 10280-1029c 102a0-102d0 102e0-102fb
   10300-10323 1032d-1034a 10350-1037a 10380-1039d 1039f-103c3 103c8-103d5 10400-1049d
   104a0-104a9 104b0-104d3 104d8-104fb 10500-10527 10530-10563 1056f-1057a 1057c-1058a
   1058c-10592 10594-10595 10597-105a1 105a3-105b1 105b3-105b9 105bb-105bc 105c0-105f3
   10600-10736 10740-10755 10760-10767 10780-10785 10787-107b0 107b2-107ba 10800-10805 10808
   1080a-10835 10837-10838 1083c 1083f-10855 10857-1089e 108a7-108af 108e0-108f2 108f4-108f5
   108fb-1091b 1091f-10939 1093f-10959 10980-109b7 109bc-109cf 109d2-10a03 10a05-10a06
   10a0c-10a13 10a15-10a17 10a19-10a35 10a38-10a3a 10a3f-10a48 10a50-10a58 10a60-10a9f
   10ac0-10ae6 10aeb-10af6 10b00-10b35 10b39-10b55 10b58-10b72 10b78-10b91 10b99-10b9c
   10ba9-10baf 10c00-10c48 10c80-10cb2 10cc0-10cf2 10cfa-10d27 10d30-10d39 10d40-10d65
   10d69-10d85 10d8e-10d8f 10e60-10e7e 10e80-10ea9 10eab-10ead 10eb0-10eb1 10ec2-10ec7
   10ed0-10ed8 10efa-10f27 10f30-10f59 10f70-10f89 10fb0-10fcb 10fe0-10ff6 11000-1104d
   11052-11075 1107f-110bc 110be-110c2 110d0-110e8 110f0-110f9 11100-11134 11136-11147
   11150-11176 11180-111df 111e1-111f4 11200-11211 11213-11241 11280-11286 11288 1128a-1128d
   1128f-1129d 1129f-112a9 112b0-112ea 112f0-112f9 11300-11303 11305-1130c 1130f-11310
   11313-11328 1132a-11330 11332-11333 11335-11339 1133b-11344 11347-11348 1134b-1134d 11350
   11357 1135d-11363 11366-1136c 11370-11374 11380-11389 1138b 1138e 11390-113b5 113b7-113c0
   113c2 113c5 113c7-113ca 113cc-113d5 113d7-113d8 113e1-113e2 11400-1145b 1145d-11461
   11480-114c7 114d0-114d9 11580-115b5 115b8-115dd 11600-11644 11650-11659 11660-1166c
   11680-116b9 116c0-116c9 116d0-116e3 11700-1171a 1171d-1172b 11730-11746 11800-1183b
   118a0-118f2 118ff-11906 11909 1190c-11913 11915-11916 11918-11935 11937-11938 1193b-11946
   11950-11959 119a0-119a7 119aa-119d7 119da-119e4 11a00-11a47 11a50-11aa2 11ab0-11af8
   11b00-11b09 11b60-11b67 11bc0-11be1 11bf0-11bf9 11c00-11c08 11c0a-11c36 11c38-11c45
   11c50-11c6c 11c70-11c8f 11c92-11ca7 11ca9-11cb6 11d00-11d06 11d08-11d09 11d0b-11d36 11d3a
   11d3c-11d3d 11d3f-11d47 11d50-11d59 11d60-11d65 11d67-11d68 11d6a-11d8e 11d90-11d91
   11d93-11d98 11da0-11da9 11db0-11ddb 11de0-11de9 11ee0-11ef8 11f00-11f10 11f12-11f3a
   11f3e-11f5a 11fb0 11fc0-11ff1 11fff-12399 12400-1246e 12470-12474 12480-12543 12f90-12ff2
   13000-1342f 13440-13455 13460-143fa 14400-14646 16100-16139 16800-16a38 16a40-16a5e
   16a60-16a69 16a6e-16abe 16ac0-16ac9 16ad0-16aed 16af0-16af5 16b00-16b45 16b50-16b59
   16b5b-16b61 16b63-16b77 16b7d-16b8f 16d40-16d79 16e40-16e9a 16ea0-16eb8 16ebb-16ed3
   16f00-16f4a 16f4f-16f87 16f8f-16f9f 16fe0-16fe4 16ff0-16ff6 17000-18cd5 18cff-18d1e
   18d80-18df2 1aff0-1aff3 1aff5-1affb 1affd-1affe 1b000-1b122 1b132 1b150-1b152 1b155
   1b164-1b167 1b170-1b2fb 1bc00-1bc6a 1bc70-1bc7c 1bc80-1bc88 1bc90-1bc99 1bc9c-1bc9f
   1cc00-1ccfc 1cd00-1ceb3 1ceba-1ced0 1cee0-1cef0 1cf00-1cf2d 1cf30-1cf46 1cf50-1cfc3
   1d000-1d0f5 1d100-1d126 1d129-1d172 1d17b-1d1ea 1d200-1d245 1d2c0-1d2d3 1d2e0-1d2f3
   1d300-1d356 1d360-1d378 1d400-1d454 1d456-1d49c 1d49e-1d49f 1d4a2 1d4a5-1d4a6 1d4a9-1d4ac
   1d4ae-1d4b9 1d4bb 1d4bd-1d4c3 1d4c5-1d505 1d507-1d50a 1d50d-1d514 1d516-1d51c 1d51e-1d539
   1d53b-1d53e 1d540-1d544 1d546 1d54a-1d550 1d552-1d6a5 1d6a8-1d7cb 1d7ce-1da8b 1da9b-1da9f
   1daa1-1daaf 1df00-1df1e 1df25-1df2a 1e000-1e006 1e008-1e018 1e01b-1e021 1e023-1e024
   1e026-1e02a 1e030-1e06d 1e08f 1e100-1e12c 1e130-1e13d 1e140-1e149 1e14e-1e14f 1e290-1e2ae
   1e2c0-1e2f9 1e2ff 1e4d0-1e4f9 1e5d0-1e5fa 1e5ff 1e6c0-1e6de 1e6e0-1e6f5 1e6fe-1e6ff
   1e7e0-1e7e6 1e7e8-1e7eb 1e7ed-1e7ee 1e7f0-1e7fe 1e800-1e8c4 1e8c7-1e8d6 1e900-1e94b
   1e950-1e959 1e95e-1e95f 1ec71-1ecb4 1ed01-1ed3d 1ee00-1ee03 1ee05-1ee1f 1ee21-1ee22 1ee24
   1ee27 1ee29-1ee32 1ee34-1ee37 1ee39 1ee3b 1ee42 1ee47 1ee49 1ee4b 1ee4d-1ee4f 1ee51-1ee52
   1ee54 1ee57 1ee59 1ee5b 1ee5d 1ee5f 1ee61-1ee62 1ee64 1ee67-1ee6a 1ee6c-1ee72 1ee74-1ee77
   1ee79-1ee7c 1ee7e 1ee80-1ee89 1ee8b-1ee9b 1eea1-1eea3 1eea5-1eea9 1eeab-1eebb 1eef0-1eef1
   1f000-1f02b 1f030-1f093 1f0a0-1f0ae 1f0b1-1f0bf 1f0c1-1f0cf 1f0d1-1f0f5 1f100-1f1ad
   1f1e6-1f202 1f210-1f23b 1f240-1f248 1f250-1f251 1f260-1f265 1f300-1f6d8 1f6dc-1f6ec
   1f6f0-1f6fc 1f700-1f7d9 1f7e0-1f7eb 1f7f0 1f800-1f80b 1f810-1f847 1f850-1f859 1f860-1f887
   1f890-1f8ad 1f8b0-1f8bb 1f8c0-1f8c1 1f8d0-1f8d8 1f900-1fa57 1fa60-1fa6d 1fa70-1fa7c
   1fa80-1fa8a 1fa8e-1fac6 1fac8 1facd-1fadc 1fadf-1faea 1faef-1faf8 1fb00-1fb92 1fb94-1fbfa
   20000-2a6df 2a700-2b81d 2b820-2cead 2ceb0-2ebe0 2ebf0-2ee5d 2f800-2fa1d 30000-3134a
   31350-33479 e0100-e01ef"

/-- The characters with the property Cased. -/
def casedTable : Ranges := Ranges.ofText
  "41-5a 61-7a aa b5 ba c0-d6 d8-f6 f8-1ba 1bc-1bf 1c4-293 296-2b8 2c0-2c1 2e0-2e4 345 370-373
   376-377 37a-37d 37f 386 388-38a 38c 38e-3a1 3a3-3f5 3f7-481 48a-52f 531-556 560-588
   10a0-10c5 10c7 10cd 10d0-10fa 10fc-10ff 13a0-13f5 13f8-13fd 1c80-1c8a 1c90-1cba 1cbd-1cbf
   1d00-1dbf 1e00-1f15 1f18-1f1d 1f20-1f45 1f48-1f4d 1f50-1f57 1f59 1f5b 1f5d 1f5f-1f7d
   1f80-1fb4 1fb6-1fbc 1fbe 1fc2-1fc4 1fc6-1fcc 1fd0-1fd3 1fd6-1fdb 1fe0-1fec 1ff2-1ff4
   1ff6-1ffc 2071 207f 2090-209c 2102 2107 210a-2113 2115 2119-211d 2124 2126 2128 212a-212d
   212f-2134 2139 213c-213f 2145-2149 214e 2160-217f 2183-2184 24b6-24e9 2c00-2ce4 2ceb-2cee
   2cf2-2cf3 2d00-2d25 2d27 2d2d a640-a66d a680-a69d a722-a787 a78b-a78e a790-a7dc a7f1-a7f6
   a7f8-a7fa ab30-ab5a ab5c-ab69 ab70-abbf fb00-fb06 fb13-fb17 ff21-ff3a ff41-ff5a 10400-1044f
   104b0-104d3 104d8-104fb 10570-1057a 1057c-1058a 1058c-10592 10594-10595 10597-105a1
   105a3-105b1 105b3-105b9 105bb-105bc 10780 10783-10785 10787-107b0 107b2-107ba 10c80-10cb2
   10cc0-10cf2 10d50-10d65 10d70-10d85 118a0-118df 16e40-16e7f 16ea0-16eb8 16ebb-16ed3
   1d400-1d454 1d456-1d49c 1d49e-1d49f 1d4a2 1d4a5-1d4a6 1d4a9-1d4ac 1d4ae-1d4b9 1d4bb
   1d4bd-1d4c3 1d4c5-1d505 1d507-1d50a 1d50d-1d514 1d516-1d51c 1d51e-1d539 1d53b-1d53e
   1d540-1d544 1d546 1d54a-1d550 1d552-1d6a5 1d6a8-1d6c0 1d6c2-1d6da 1d6dc-1d6fa 1d6fc-1d714
   1d716-1d734 1d736-1d74e 1d750-1d76e 1d770-1d788 1d78a-1d7a8 1d7aa-1d7c2 1d7c4-1d7cb
   1df00-1df09 1df0b-1df1e 1df25-1df2a 1e030-1e06d 1e900-1e943 1f130-1f149 1f150-1f169
   1f170-1f189"

/-- The characters with the property Case_Ignorable. -/
def caseIgnorableTable : Ranges := Ranges.ofText
  "27 2e 3a 5e 60 a8 ad af b4 b7-b8 2b0-36f 374-375 37a 384-385 387 483-489 559 55f 591-5bd
   5bf 5c1-5c2 5c4-5c5 5c7 5f4 600-605 610-61a 61c 640 64b-65f 670 6d6-6dd 6df-6e8 6ea-6ed 70f
   711 730-74a 7a6-7b0 7eb-7f5 7fa 7fd 816-82d 859-85b 888 890-891 897-89f 8c9-902 93a 93c
   941-948 94d 951-957 962-963 971 981 9bc 9c1-9c4 9cd 9e2-9e3 9fe a01-a02 a3c a41-a42 a47-a48
   a4b-a4d a51 a70-a71 a75 a81-a82 abc ac1-ac5 ac7-ac8 acd ae2-ae3 afa-aff b01 b3c b3f b41-b44
   b4d b55-b56 b62-b63 b82 bc0 bcd c00 c04 c3c c3e-c40 c46-c48 c4a-c4d c55-c56 c62-c63 c81 cbc
   cbf cc6 ccc-ccd ce2-ce3 d00-d01 d3b-d3c d41-d44 d4d d62-d63 d81 dca dd2-dd4 dd6 e31 e34-e3a
   e46-e4e eb1 eb4-ebc ec6 ec8-ece f18-f19 f35 f37 f39 f71-f7e f80-f84 f86-f87 f8d-f97 f99-fbc
   fc6 102d-1030 1032-1037 1039-103a 103d-103e 1058-1059 105e-1060 1071-1074 1082 1085-1086
   108d 109d 10fc 135d-135f 1712-1714 1732-1733 1752-1753 1772-1773 17b4-17b5 17b7-17bd 17c6
   17c9-17d3 17d7 17dd 180b-180f 1843 1885-1886 18a9 1920-1922 1927-1928 1932 1939-193b
   1a17-1a18 1a1b 1a56 1a58-1a5e 1a60 1a62 1a65-1a6c 1a73-1a7c 1a7f 1aa7 1ab0-1add 1ae0-1aeb
   1b00-1b03 1b34 1b36-1b3a 1b3c 1b42 1b6b-1b73 1b80-1b81 1ba2-1ba5 1ba8-1ba9 1bab-1bad 1be6
   1be8-1be9 1bed 1bef-1bf1 1c2c-1c33 1c36-1c37 1c78-1c7d 1cd0-1cd2 1cd4-1ce0 1ce2-1ce8 1ced
   1cf4 1cf8-1cf9 1d2c-1d6a 1d78 1d9b-1dff 1fbd 1fbf-1fc1 1fcd-1fcf 1fdd-1fdf 1fed-1fef
   1ffd-1ffe 200b-200f 2018-2019 2024 2027 202a-202e 2060-2064 2066-206f 2071 207f 2090-209c
   20d0-20f0 2c7c-2c7d 2cef-2cf1 2d6f 2d7f 2de0-2dff 2e2f 3005 302a-302d 3031-3035 303b
   3099-309e 30fc-30fe a015 a4f8-a4fd a60c a66f-a672 a674-a67d a67f a69c-a69f a6f0-a6f1
   a700-a721 a770 a788-a78a a7f1-a7f4 a7f8-a7f9 a802 a806 a80b a825-a826 a82c a8c4-a8c5
   a8e0-a8f1 a8ff a926-a92d a947-a951 a980-a982 a9b3 a9b6-a9b9 a9bc-a9bd a9cf a9e5-a9e6
   aa29-aa2e aa31-aa32 aa35-aa36 aa43 aa4c aa70 aa7c aab0 aab2-aab4 aab7-aab8 aabe-aabf aac1
   aadd aaec-aaed aaf3-aaf4 aaf6 ab5b-ab5f ab69-ab6b abe5 abe8 abed fb1e fbb2-fbc2 fe00-fe0f
   fe13 fe20-fe2f fe52 fe55 feff ff07 ff0e ff1a ff3e ff40 ff70 ff9e-ff9f ffe3 fff9-fffb 101fd
   102e0 10376-1037a 10780-10785 10787-107b0 107b2-107ba 10a01-10a03 10a05-10a06 10a0c-10a0f
   10a38-10a3a 10a3f 10ae5-10ae6 10d24-10d27 10d4e 10d69-10d6d 10d6f 10eab-10eac 10ec5
   10efa-10eff 10f46-10f50 10f82-10f85 11001 11038-11046 11070 11073-11074 1107f-11081
   110b3-110b6 110b9-110ba 110bd 110c2 110cd 11100-11102 11127-1112b 1112d-11134 11173
   11180-11181 111b6-111be 111c9-111cc 111cf 1122f-11231 11234 11236-11237 1123e 11241 112df
   112e3-112ea 11300-11301 1133b-1133c 11340 11366-1136c 11370-11374 113bb-113c0 113ce 113d0
   113d2 113e1-113e2 11438-1143f 11442-11444 11446 1145e 114b3-114b8 114ba 114bf-114c0
   114c2-114c3 115b2-115b5 115bc-115bd 115bf-115c0 115dc-115dd 11633-1163a 1163d 1163f-11640
   116ab 116ad 116b0-116b5 116b7 1171d 1171f 11722-11725 11727-1172b 1182f-11837 11839-1183a
   1193b-1193c 1193e 11943 119d4-119d7 119da-119db 119e0 11a01-11a0a 11a33-11a38 11a3b-11a3e
   11a47 11a51-11a56 11a59-11a5b 11a8a-11a96 11a98-11a99 11b60 11b62-11b64 11b66 11c30-11c36
   11c38-11c3d 11c3f 11c92-11ca7 11caa-11cb0 11cb2-11cb3 11cb5-11cb6 11d31-11d36 11d3a
   11d3c-11d3d 11d3f-11d45 11d47 11d90-11d91 11d95 11d97 11dd9 11ef3-11ef4 11f00-11f01
   11f36-11f3a 11f40 11f42 11f5a 13430-13440 13447-13455 1611e-16129 1612d-1612f 16af0-16af4
   16b30-16b36 16b40-16b43 16d40-16d42 16d6b-16d6c 16f4f 16f8f-16f9f 16fe0-16fe1 16fe3-16fe4
   16ff2-16ff3 1aff0-1aff3 1aff5-1affb 1affd-1affe 1bc9d-1bc9e 1bca0-1bca3 1cf00-1cf2d
   1cf30-1cf46 1d167-1d169 1d173-1d182 1d185-1d18b 1d1aa-1d1ad 1d242-1d244 1da00-1da36
   1da3b-1da6c 1da75 1da84 1da9b-1da9f 1daa1-1daaf 1e000-1e006 1e008-1e018 1e01b-1e021
   1e023-1e024 1e026-1e02a 1e030-1e06d 1e08f 1e130-1e13d 1e2ae 1e2ec-1e2ef 1e4eb-1e4ef
   1e5ee-1e5ef 1e6e3 1e6e6 1e6ee-1e6ef 1e6f5 1e6ff 1e8d0-1e8d6 1e944-1e94b 1f3fb-1f3ff e0001
   e0020-e007f e0100-e01ef"

-- ======================================================== predicates

/-- A blank: the characters that trimming removes and `\s` matches. -/
def isBlank (c : Char) : Bool :=
  if c.toNat < 128 then c == ' ' || (9 ≤ c.toNat && c.toNat ≤ 13)
  else blankTable.contains c.toNat

/-- A decimal digit of any script: what `\d` matches. -/
def isDigit (c : Char) : Bool :=
  if c.toNat < 128 then c.isDigit else digitTable.contains c.toNat

/-- A character of a word: what `\w` matches. -/
def isWord (c : Char) : Bool :=
  if c.toNat < 128 then c.isAlphanum || c == '_' else wordTable.contains c.toNat

/-- A letter in the wide sense of the property Alphabetic. -/
def isAlphabetic (c : Char) : Bool :=
  if c.toNat < 128 then c.isAlpha else alphabeticTable.contains c.toNat

/-- A letter or a number of any script. -/
def isAlphanumeric (c : Char) : Bool :=
  isAlphabetic c || (if c.toNat < 128 then c.isDigit else numericTable.contains c.toNat)

/-- A mark that extends the character before it. -/
def isExtend (c : Char) : Bool :=
  if c.toNat < 128 then false else extendTable.contains c.toNat

/-- A character that can be shown as it is. -/
def isPrintable (c : Char) : Bool :=
  if c.toNat < 128 then 32 ≤ c.toNat && c.toNat < 127 else printableTable.contains c.toNat

/-- A letter that takes part in case distinctions. -/
def isCased (c : Char) : Bool :=
  if c.toNat < 128 then c.isAlpha else casedTable.contains c.toNat

/-- A character that does not interrupt a cased word. -/
def isCaseIgnorable (c : Char) : Bool := caseIgnorableTable.contains c.toNat

end Gatewatch.Unicode
