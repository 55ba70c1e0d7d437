import WebhookRelay.Text.Chart

/-!
# Composed characters: tables

Which two characters make one, and in which order marks stand that a character carries, as the
Unicode Character Database gives them. Hangul is left out, whose syllables are reckoned.
-/

namespace WebhookRelay.Text.Compose

private def pairsA : List String := [
  "C0-C5:41.300,41.301,41.302,41.303,41.308,41.30A C7-CB:43.327,45.300,45.301,45.302,45.308",
  "CC-CF:49.300,49.301,49.302,49.308 D1-D6:4E.303,4F.300,4F.301,4F.302,4F.303,4F.308",
  "D9-DD:55.300,55.301,55.302,55.308,59.301 E0-E5:61.300,61.301,61.302,61.303,61.308,61.30A",
  "E7-EF:63.327,65.300,65.301,65.302,65.308,69.300,69.301,69.302,69.308",
  "F1-F6:6E.303,6F.300,6F.301,6F.302,6F.303,6F.308 F9-FD:75.300,75.301,75.302,75.308,79.301",
  "FF-10A:79.308,41.304,61.304,41.306,61.306,41.328,61.328,43.301,63.301,43.302,63.302,43.307",
  "10B-10F:63.307,43.30C,63.30C,44.30C,64.30C 112-117:45.304,65.304,45.306,65.306,45.307,65.307",
  "118-123:45.328,65.328,45.30C,65.30C,47.302,67.302,47.306,67.306,47.307,67.307,47.327,67.327",
  "124-125:48.302,68.302 128-130:49.303,69.303,49.304,69.304,49.306,69.306,49.328,69.328,49.307",
  "134-137:4A.302,6A.302,4B.327,6B.327 139-13E:4C.301,6C.301,4C.327,6C.327,4C.30C,6C.30C",
  "143-148:4E.301,6E.301,4E.327,6E.327,4E.30C,6E.30C 14C-150:4F.304,6F.304,4F.306,6F.306,4F.30B",
  "151:6F.30B 154-15D:52.301,72.301,52.327,72.327,52.30C,72.30C,53.301,73.301,53.302,73.302",
  "15E-165:53.327,73.327,53.30C,73.30C,54.327,74.327,54.30C,74.30C 168-16A:55.303,75.303,55.304",
  "16B-176:75.304,55.306,75.306,55.30A,75.30A,55.30B,75.30B,55.328,75.328,57.302,77.302,59.302",
  "177-17E:79.302,59.308,5A.301,7A.301,5A.307,7A.307,5A.30C,7A.30C 1A0-1A1:4F.31B,6F.31B",
  "1AF-1B0:55.31B,75.31B 1CD-1D5:41.30C,61.30C,49.30C,69.30C,4F.30C,6F.30C,55.30C,75.30C,DC.304",
  "1D6-1DC:FC.304,DC.301,FC.301,DC.30C,FC.30C,DC.300,FC.300 1DE-1E1:C4.304,E4.304,226.304,227.304",
  "1E2-1E3:C6.304,E6.304 1E6-1ED:47.30C,67.30C,4B.30C,6B.30C,4F.328,6F.328,1EA.304,1EB.304",
  "1EE-1F0:1B7.30C,292.30C,6A.30C 1F4-1F5:47.301,67.301 1F8-1FB:4E.300,6E.300,C5.301,E5.301",
  "1FC-207:C6.301,E6.301,D8.301,F8.301,41.30F,61.30F,41.311,61.311,45.30F,65.30F,45.311,65.311",
  "208-213:49.30F,69.30F,49.311,69.311,4F.30F,6F.30F,4F.311,6F.311,52.30F,72.30F,52.311,72.311",
  "214-21B:55.30F,75.30F,55.311,75.311,53.326,73.326,54.326,74.326 21E-21F:48.30C,68.30C",
  "226-231:41.307,61.307,45.327,65.327,D6.304,F6.304,D5.304,F5.304,4F.307,6F.307,22E.304,22F.304",
  "232-233:59.304,79.304 385-386:A8.301,391.301 388-38A:395.301,397.301,399.301 38C:39F.301",
  "38E-390:3A5.301,3A9.301,3CA.301 3AA-3AF:399.308,3A5.308,3B1.301,3B5.301,3B7.301,3B9.301",
  "3B0:3CB.301 3CA-3CE:3B9.308,3C5.308,3BF.301,3C5.301,3C9.301 3D3-3D4:3D2.301,3D2.308",
  "400-401:415.300,415.308 403:413.301 407:406.308 40C-40E:41A.301,418.300,423.306 419:418.306",
  "439:438.306 450-451:435.300,435.308 453:433.301 457:456.308 45C-45E:43A.301,438.300,443.306",
  "476-477:474.30F,475.30F 4C1-4C2:416.306,436.306 4D0-4D3:410.306,430.306,410.308,430.308",
  "4D6-4D7:415.306,435.306 4DA-4DF:4D8.308,4D9.308,416.308,436.308,417.308,437.308",
  "4E2-4E7:418.304,438.304,418.308,438.308,41E.308,43E.308 4EA-4EC:4E8.308,4E9.308,42D.308",
  "4ED-4F5:44D.308,423.304,443.304,423.308,443.308,423.30B,443.30B,427.308,447.308 4F8:42B.308",
  "4F9:44B.308 622-626:627.653,627.654,648.654,627.655,64A.654 6C0:6D5.654 6C2:6C1.654",
  "6D3:6D2.654 929:928.93C 931:930.93C 934:933.93C 9CB-9CC:9C7.9BE,9C7.9D7 B48:B47.B56",
  "B4B-B4C:B47.B3E,B47.B57 B94:B92.BD7 BCA-BCC:BC6.BBE,BC7.BBE,BC6.BD7 C48:C46.C56 CC0:CBF.CD5",
  "CC7-CC8:CC6.CD5,CC6.CD6 CCA-CCB:CC6.CC2,CCA.CD5 D4A-D4C:D46.D3E,D47.D3E,D46.D57 DDA:DD9.DCA",
  "DDC-DDE:DD9.DCF,DDC.DCA,DD9.DDF 1026:1025.102E 1B06:1B05.1B35 1B08:1B07.1B35 1B0A:1B09.1B35",
  "1B0C:1B0B.1B35 1B0E:1B0D.1B35 1B12:1B11.1B35 1B3B:1B3A.1B35 1B3D:1B3C.1B35 1B40:1B3E.1B35",
  "1B41:1B3F.1B35 1B43:1B42.1B35 1E00-1E06:41.325,61.325,42.307,62.307,42.323,62.323,42.331",
  "1E07-1E12:62.331,C7.301,E7.301,44.307,64.307,44.323,64.323,44.331,64.331,44.327,64.327,44.32D",
  "1E13-1E1D:64.32D,112.300,113.300,112.301,113.301,45.32D,65.32D,45.330,65.330,228.306,229.306",
  "1E1E-1E29:46.307,66.307,47.304,67.304,48.307,68.307,48.323,68.323,48.308,68.308,48.327,68.327",
  "1E2A-1E35:48.32E,68.32E,49.330,69.330,CF.301,EF.301,4B.301,6B.301,4B.323,6B.323,4B.331,6B.331",
  "1E36-1E40:4C.323,6C.323,1E36.304,1E37.304,4C.331,6C.331,4C.32D,6C.32D,4D.301,6D.301,4D.307",
  "1E41-1E4C:6D.307,4D.323,6D.323,4E.307,6E.307,4E.323,6E.323,4E.331,6E.331,4E.32D,6E.32D,D5.301",
  "1E4D-1E57:F5.301,D5.308,F5.308,14C.300,14D.300,14C.301,14D.301,50.301,70.301,50.307,70.307",
  "1E58-1E62:52.307,72.307,52.323,72.323,1E5A.304,1E5B.304,52.331,72.331,53.307,73.307,53.323",
  "1E63-1E6D:73.323,15A.307,15B.307,160.307,161.307,1E62.307,1E63.307,54.307,74.307,54.323,74.323",
  "1E6E-1E78:54.331,74.331,54.32D,74.32D,55.324,75.324,55.330,75.330,55.32D,75.32D,168.301",
  "1E79-1E83:169.301,16A.308,16B.308,56.303,76.303,56.323,76.323,57.300,77.300,57.301,77.301",
  "1E84-1E8F:57.308,77.308,57.307,77.307,57.323,77.323,58.307,78.307,58.308,78.308,59.307,79.307",
  "1E90-1E99:5A.302,7A.302,5A.323,7A.323,5A.331,7A.331,68.331,74.308,77.30A,79.30A 1E9B:17F.307",
  "1EA0-1EAB:41.323,61.323,41.309,61.309,C2.301,E2.301,C2.300,E2.300,C2.309,E2.309,C2.303,E2.303",
  "1EAC-1EB5:1EA0.302,1EA1.302,102.301,103.301,102.300,103.300,102.309,103.309,102.303,103.303",
  "1EB6-1EC0:1EA0.306,1EA1.306,45.323,65.323,45.309,65.309,45.303,65.303,CA.301,EA.301,CA.300"]

private def pairsB : List String := [
  "1EC1-1ECB:EA.300,CA.309,EA.309,CA.303,EA.303,1EB8.302,1EB9.302,49.309,69.309,49.323,69.323",
  "1ECC-1ED7:4F.323,6F.323,4F.309,6F.309,D4.301,F4.301,D4.300,F4.300,D4.309,F4.309,D4.303,F4.303",
  "1ED8-1EE1:1ECC.302,1ECD.302,1A0.301,1A1.301,1A0.300,1A1.300,1A0.309,1A1.309,1A0.303,1A1.303",
  "1EE2-1EEC:1A0.323,1A1.323,55.323,75.323,55.309,75.309,1AF.301,1B0.301,1AF.300,1B0.300,1AF.309",
  "1EED-1EF7:1B0.309,1AF.303,1B0.303,1AF.323,1B0.323,59.300,79.300,59.323,79.323,59.309,79.309",
  "1EF8-1EF9:59.303,79.303 1F00-1F06:3B1.313,3B1.314,1F00.300,1F01.300,1F00.301,1F01.301,1F00.342",
  "1F07-1F0F:1F01.342,391.313,391.314,1F08.300,1F09.300,1F08.301,1F09.301,1F08.342,1F09.342",
  "1F10-1F15:3B5.313,3B5.314,1F10.300,1F11.300,1F10.301,1F11.301 1F18-1F19:395.313,395.314",
  "1F1A-1F1D:1F18.300,1F19.300,1F18.301,1F19.301 1F20-1F23:3B7.313,3B7.314,1F20.300,1F21.300",
  "1F24-1F2C:1F20.301,1F21.301,1F20.342,1F21.342,397.313,397.314,1F28.300,1F29.300,1F28.301",
  "1F2D-1F35:1F29.301,1F28.342,1F29.342,3B9.313,3B9.314,1F30.300,1F31.300,1F30.301,1F31.301",
  "1F36-1F3E:1F30.342,1F31.342,399.313,399.314,1F38.300,1F39.300,1F38.301,1F39.301,1F38.342",
  "1F3F-1F45:1F39.342,3BF.313,3BF.314,1F40.300,1F41.300,1F40.301,1F41.301",
  "1F48-1F4D:39F.313,39F.314,1F48.300,1F49.300,1F48.301,1F49.301 1F50-1F51:3C5.313,3C5.314",
  "1F52-1F57:1F50.300,1F51.300,1F50.301,1F51.301,1F50.342,1F51.342 1F59:3A5.314 1F5B:1F59.300",
  "1F5D:1F59.301 1F5F-1F66:1F59.342,3C9.313,3C9.314,1F60.300,1F61.300,1F60.301,1F61.301,1F60.342",
  "1F67-1F6F:1F61.342,3A9.313,3A9.314,1F68.300,1F69.300,1F68.301,1F69.301,1F68.342,1F69.342",
  "1F70:3B1.300 1F72:3B5.300 1F74:3B7.300 1F76:3B9.300 1F78:3BF.300 1F7A:3C5.300 1F7C:3C9.300",
  "1F80-1F88:1F00.345,1F01.345,1F02.345,1F03.345,1F04.345,1F05.345,1F06.345,1F07.345,1F08.345",
  "1F89-1F91:1F09.345,1F0A.345,1F0B.345,1F0C.345,1F0D.345,1F0E.345,1F0F.345,1F20.345,1F21.345",
  "1F92-1F9A:1F22.345,1F23.345,1F24.345,1F25.345,1F26.345,1F27.345,1F28.345,1F29.345,1F2A.345",
  "1F9B-1FA3:1F2B.345,1F2C.345,1F2D.345,1F2E.345,1F2F.345,1F60.345,1F61.345,1F62.345,1F63.345",
  "1FA4-1FAC:1F64.345,1F65.345,1F66.345,1F67.345,1F68.345,1F69.345,1F6A.345,1F6B.345,1F6C.345",
  "1FAD-1FB4:1F6D.345,1F6E.345,1F6F.345,3B1.306,3B1.304,1F70.345,3B1.345,3AC.345",
  "1FB6-1FBA:3B1.342,1FB6.345,391.306,391.304,391.300 1FBC:391.345 1FC1-1FC2:A8.342,1F74.345",
  "1FC3-1FC4:3B7.345,3AE.345 1FC6-1FC8:3B7.342,1FC6.345,395.300 1FCA:397.300",
  "1FCC-1FD2:397.345,1FBF.300,1FBF.301,1FBF.342,3B9.306,3B9.304,3CA.300",
  "1FD6-1FDA:3B9.342,3CA.342,399.306,399.304,399.300 1FDD-1FE0:1FFE.300,1FFE.301,1FFE.342,3C5.306",
  "1FE1-1FE2:3C5.304,3CB.300 1FE4-1FEA:3C1.313,3C1.314,3C5.342,3CB.342,3A5.306,3A5.304,3A5.300",
  "1FEC-1FED:3A1.314,A8.300 1FF2-1FF4:1F7C.345,3C9.345,3CE.345 1FF6-1FF8:3C9.342,1FF6.345,39F.300",
  "1FFA:3A9.300 1FFC:3A9.345 219A-219B:2190.338,2192.338 21AE:2194.338 21CD:21D0.338",
  "21CE-21CF:21D4.338,21D2.338 2204:2203.338 2209:2208.338 220C:220B.338 2224:2223.338",
  "2226:2225.338 2241:223C.338 2244:2243.338 2247:2245.338 2249:2248.338 2260:3D.338",
  "2262:2261.338 226D-2271:224D.338,3C.338,3E.338,2264.338,2265.338 2274-2275:2272.338,2273.338",
  "2278-2279:2276.338,2277.338 2280-2281:227A.338,227B.338 2284-2285:2282.338,2283.338",
  "2288-2289:2286.338,2287.338 22AC-22AF:22A2.338,22A8.338,22A9.338,22AB.338",
  "22E0-22E3:227C.338,227D.338,2291.338,2292.338 22EA-22ED:22B2.338,22B3.338,22B4.338,22B5.338",
  "304C:304B.3099 304E:304D.3099 3050:304F.3099 3052:3051.3099 3054:3053.3099 3056:3055.3099",
  "3058:3057.3099 305A:3059.3099 305C:305B.3099 305E:305D.3099 3060:305F.3099 3062:3061.3099",
  "3065:3064.3099 3067:3066.3099 3069:3068.3099 3070-3071:306F.3099,306F.309A 3073:3072.3099",
  "3074:3072.309A 3076-3077:3075.3099,3075.309A 3079-307A:3078.3099,3078.309A 307C:307B.3099",
  "307D:307B.309A 3094:3046.3099 309E:309D.3099 30AC:30AB.3099 30AE:30AD.3099 30B0:30AF.3099",
  "30B2:30B1.3099 30B4:30B3.3099 30B6:30B5.3099 30B8:30B7.3099 30BA:30B9.3099 30BC:30BB.3099",
  "30BE:30BD.3099 30C0:30BF.3099 30C2:30C1.3099 30C5:30C4.3099 30C7:30C6.3099 30C9:30C8.3099",
  "30D0-30D1:30CF.3099,30CF.309A 30D3-30D4:30D2.3099,30D2.309A 30D6-30D7:30D5.3099,30D5.309A",
  "30D9-30DA:30D8.3099,30D8.309A 30DC-30DD:30DB.3099,30DB.309A 30F4:30A6.3099",
  "30F7-30FA:30EF.3099,30F0.3099,30F1.3099,30F2.3099 30FE:30FD.3099 105C9:105D2.307",
  "105E4:105DA.307 1109A:11099.110BA 1109C:1109B.110BA 110AB:110A5.110BA 1112E:11131.11127",
  "1112F:11132.11127 1134B-1134C:11347.1133E,11347.11357 11383:11382.113C9 11385:11384.113BB",
  "1138E:1138B.113C2 11391:11390.113C9 113C5:113C2.113C2 113C7-113C8:113C2.113B8,113C2.113C9",
  "114BB-114BC:114B9.114BA,114B9.114B0 114BE:114B9.114BD 115BA-115BB:115B8.115AF,115B9.115AF",
  "11938:11935.11930 16121-16125:1611E.1611E,1611E.16129,1611E.1611F,16129.1611F,1611E.16120",
  "16126-16128:16121.1611F,16122.1611F,16121.16120 16D68-16D69:16D67.16D67,16D63.16D67",
  "16D6A:16D69.16D67"]

/-- Composed characters and the two that make each of them, for each character of a stretch. -/
def pairs : Chart (List (List Char)) :=
  .ofLines charLists (pairsA ++ pairsB)

/-- The classes of marks. Marks of a lesser class stand before those of a greater one; characters
that are not listed are of class zero, and nothing passes them. -/
def classes : Chart Nat := .ofLines codePoint [
  "300-314:E6 315:E8 316-319:DC 31A:E8 31B:D8 31C-320:DC 321-322:CA 323-326:DC 327-328:CA",
  "329-333:DC 334-338:1 339-33C:DC 33D-344:E6 345:F0 346:E6 347-349:DC 34A-34C:E6 34D-34E:DC",
  "350-352:E6 353-356:DC 357:E6 358:E8 359-35A:DC 35B:E6 35C:E9 35D-35E:EA 35F:E9 360-361:EA",
  "362:E9 363-36F:E6 483-487:E6 591:DC 592-595:E6 596:DC 597-599:E6 59A:DE 59B:DC 59C-5A1:E6",
  "5A2-5A7:DC 5A8-5A9:E6 5AA:DC 5AB-5AC:E6 5AD:DE 5AE:E4 5AF:E6 5B0:A 5B1:B 5B2:C 5B3:D 5B4:E",
  "5B5:F 5B6:10 5B7:11 5B8:12 5B9-5BA:13 5BB:14 5BC:15 5BD:16 5BF:17 5C1:18 5C2:19 5C4:E6 5C5:DC",
  "5C7:12 610-617:E6 618:1E 619:1F 61A:20 64B:1B 64C:1C 64D:1D 64E:1E 64F:1F 650:20 651:21 652:22",
  "653-654:E6 655-656:DC 657-65B:E6 65C:DC 65D-65E:E6 65F:DC 670:23 6D6-6DC:E6 6DF-6E2:E6 6E3:DC",
  "6E4:E6 6E7-6E8:E6 6EA:DC 6EB-6EC:E6 6ED:DC 711:24 730:E6 731:DC 732-733:E6 734:DC 735-736:E6",
  "737-739:DC 73A:E6 73B-73C:DC 73D:E6 73E:DC 73F-741:E6 742:DC 743:E6 744:DC 745:E6 746:DC",
  "747:E6 748:DC 749-74A:E6 7EB-7F1:E6 7F2:DC 7F3:E6 7FD:DC 816-819:E6 81B-823:E6 825-827:E6",
  "829-82D:E6 859-85B:DC 897-898:E6 899-89B:DC 89C-89F:E6 8CA-8CE:E6 8CF-8D3:DC 8D4-8E1:E6 8E3:DC",
  "8E4-8E5:E6 8E6:DC 8E7-8E8:E6 8E9:DC 8EA-8EC:E6 8ED-8EF:DC 8F0:1B 8F1:1C 8F2:1D 8F3-8F5:E6",
  "8F6:DC 8F7-8F8:E6 8F9-8FA:DC 8FB-8FF:E6 93C:7 94D:9 951:E6 952:DC 953-954:E6 9BC:7 9CD:9",
  "9FE:E6 A3C:7 A4D:9 ABC:7 ACD:9 B3C:7 B4D:9 BCD:9 C3C:7 C4D:9 C55:54 C56:5B CBC:7 CCD:9",
  "D3B-D3C:9 D4D:9 DCA:9 E38-E39:67 E3A:9 E48-E4B:6B EB8-EB9:76 EBA:9 EC8-ECB:7A F18-F19:DC",
  "F35:DC F37:DC F39:D8 F71:81 F72:82 F74:84 F7A-F7D:82 F80:82 F82-F83:E6 F84:9 F86-F87:E6 FC6:DC",
  "1037:7 1039-103A:9 108D:DC 135D-135F:E6 1714-1715:9 1734:9 17D2:9 17DD:E6 18A9:E4 1939:DE",
  "193A:E6 193B:DC 1A17:E6 1A18:DC 1A60:9 1A75-1A7C:E6 1A7F:DC 1AB0-1AB4:E6 1AB5-1ABA:DC",
  "1ABB-1ABC:E6 1ABD:DC 1ABF-1AC0:DC 1AC1-1AC2:E6 1AC3-1AC4:DC 1AC5-1AC9:E6 1ACA:DC 1ACB-1ADC:E6",
  "1ADD:DC 1AE0-1AE5:E6 1AE6:DC 1AE7-1AEA:E6 1AEB:EA 1B34:7 1B44:9 1B6B:E6 1B6C:DC 1B6D-1B73:E6",
  "1BAA-1BAB:9 1BE6:7 1BF2-1BF3:9 1C37:7 1CD0-1CD2:E6 1CD4:1 1CD5-1CD9:DC 1CDA-1CDB:E6",
  "1CDC-1CDF:DC 1CE0:E6 1CE2-1CE8:1 1CED:DC 1CF4:E6 1CF8-1CF9:E6 1DC0-1DC1:E6 1DC2:DC",
  "1DC3-1DC9:E6 1DCA:DC 1DCB-1DCC:E6 1DCD:EA 1DCE:D6 1DCF:DC 1DD0:CA 1DD1-1DF5:E6 1DF6:E8",
  "1DF7-1DF8:E4 1DF9:DC 1DFA:DA 1DFB:E6 1DFC:E9 1DFD:DC 1DFE:E6 1DFF:DC 20D0-20D1:E6 20D2-20D3:1",
  "20D4-20D7:E6 20D8-20DA:1 20DB-20DC:E6 20E1:E6 20E5-20E6:1 20E7:E6 20E8:DC 20E9:E6 20EA-20EB:1",
  "20EC-20EF:DC 20F0:E6 2CEF-2CF1:E6 2D7F:9 2DE0-2DFF:E6 302A:DA 302B:E4 302C:E8 302D:DE",
  "302E-302F:E0 3099-309A:8 A66F:E6 A674-A67D:E6 A69E-A69F:E6 A6F0-A6F1:E6 A806:9 A82C:9 A8C4:9",
  "A8E0-A8F1:E6 A92B-A92D:DC A953:9 A9B3:7 A9C0:9 AAB0:E6 AAB2-AAB3:E6 AAB4:DC AAB7-AAB8:E6",
  "AABE-AABF:E6 AAC1:E6 AAF6:9 ABED:9 FB1E:1A FE20-FE26:E6 FE27-FE2D:DC FE2E-FE2F:E6 101FD:DC",
  "102E0:DC 10376-1037A:E6 10A0D:DC 10A0F:E6 10A38:E6 10A39:1 10A3A:DC 10A3F:9 10AE5:E6 10AE6:DC",
  "10D24-10D27:E6 10D69-10D6D:E6 10EAB-10EAC:E6 10EFA-10EFB:DC 10EFD-10EFF:DC 10F46-10F47:DC",
  "10F48-10F4A:E6 10F4B:DC 10F4C:E6 10F4D-10F50:DC 10F82:E6 10F83:DC 10F84:E6 10F85:DC 11046:9",
  "11070:9 1107F:9 110B9:9 110BA:7 11100-11102:E6 11133-11134:9 11173:7 111C0:9 111CA:7 11235:9",
  "11236:7 112E9:7 112EA:9 1133B-1133C:7 1134D:9 11366-1136C:E6 11370-11374:E6 113CE-113D0:9",
  "11442:9 11446:7 1145E:E6 114C2:9 114C3:7 115BF:9 115C0:7 1163F:9 116B6:9 116B7:7 1172B:9",
  "11839:9 1183A:7 1193D-1193E:9 11943:7 119E0:9 11A34:9 11A47:9 11A99:9 11C3F:9 11D42:7",
  "11D44-11D45:9 11D97:9 11F41-11F42:9 1612F:9 16AF0-16AF4:1 16B30-16B36:E6 16FF0-16FF1:6 1BC9E:1",
  "1D165-1D166:D8 1D167-1D169:1 1D16D:E2 1D16E-1D172:D8 1D17B-1D182:DC 1D185-1D189:E6",
  "1D18A-1D18B:DC 1D1AA-1D1AD:E6 1D242-1D244:E6 1E000-1E006:E6 1E008-1E018:E6 1E01B-1E021:E6",
  "1E023-1E024:E6 1E026-1E02A:E6 1E08F:E6 1E130-1E136:E6 1E2AE:E6 1E2EC-1E2EF:E6 1E4EC-1E4ED:E8",
  "1E4EE:DC 1E4EF:E6 1E5EE:E6 1E5EF:DC 1E6E3:E6 1E6E6:E6 1E6EE-1E6EF:E6 1E6F5:E6 1E8D0-1E8D6:DC",
  "1E944-1E949:E6 1E94A:7"]

end WebhookRelay.Text.Compose
