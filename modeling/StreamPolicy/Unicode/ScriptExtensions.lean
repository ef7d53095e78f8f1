/-!
# Script extensions

The code points of each value of `Script_Extensions` that differs from the script of the same
name, as gaps and lengths.
-/

namespace StreamPolicy.Unicode

/-- Each script whose extended set differs: its names in loose form, and its code points. -/
def scriptExtensions : List (List String × String) :=
  [(["adlam", "adlm"],
    "61f 0 20 0 1a0e 0 df1 0 1babe 4b 4 9 4 1"),
   (["arabic", "arab"],
    "600 4 1 d6 1 21 50 2f f0 1e 1 1 5 4a 1 1c 174f 0 df1 0 cd0e 72 10 1bc 2 35 7 0 20 f 70 4 1 " ++
    "86 3e3 1b b64 1e 43 2 37 3 df00 3 1 1a 1 1 1 0 2 0 1 9 1 3 1 0 1 0 6 0 4 0 1 0 1 0 1 2 1 1 " ++
    "1 0 2 0 1 0 1 0 1 0 1 0 1 1 1 0 2 3 1 6 1 3 1 3 1 0 1 9 1 10 5 2 1 4 1 10 34 1"),
   (["armenian", "armn"],
    "308 0 228 25 2 31 2 2 f583 4"),
   (["avestan", "avst"],
    "b7 0 2d78 1 dcce 35 3 6"),
   (["bengali", "beng"],
    "2bc 0 694 1 11 1 1a 3 1 7 2 1 2 15 1 6 1 0 3 3 2 8 2 1 2 3 8 0 4 1 1 4 2 18 12d1 0 1 0 2 1 " ++
    "1 0 8 0 8 0 2 0 4 0 2 2 8bf9 0"),
   (["bopomofo", "bopo"],
    "2c7 0 1 2 d 0 10 1 2d15 2 4 9 1 c a 3 2 0 6 0 c3 0 9 2a 70 1f cc85 1 11a 4"),
   (["buginese", "bugi"],
    "1a00 1b 2 1 8faf 0"),
   (["buhid", "buhd"],
    "1735 1 9 13"),
   (["carian", "cari"],
    "b7 0 1fa2 0 2 0 dd3 0 d46e 30"),
   (["caucasianalbanian", "aghb"],
    "304 0 2c 0 2c 0 101d1 33 b 0"),
   (["chakma", "cakm"],
    "9e6 9 650 9 100b6 34 1 11"),
   (["cherokee", "cher"],
    "300 2 1 0 6 1 16 1 b 1 106e 55 2 5 9772 4f"),
   (["common", "zyyy"],
    "0 40 1a 5 1a 2e 1 b 1 1 1 4 17 0 1f 0 1c1 2 1 9 1 0 3 0 1 8 1 0 1 5 5 4 2 13 7e 0 6 0 1 0 " ++
    "27d 0 d7 0 204 0 55c 0 195 3 1027 b 2 20 1 1e 1 9 1 1 1 6 1 a 3 a 1 e 11 20 3f 25 1 2 2 5 1 " ++
    "1a 1 10 29 2 4 299 16 a 15 39f 100 273 2 1f 1 68 200 16 1 17 2 9 1 3 1 0 1 19 1a2 0 3 0 d 0 " ++
    "d 0 15 0 211 17 1f 0 31 e c 3 a1 9 5 5f 1f 0 19c0 3f 5908 19 66 2 3d0 0 e 1 52a4 9 16 14 2 " ++
    "b 1 12 1 3 93 0 1 1f 1a 5 1a 5 7f 6 1 6 a 4 192 c 33 2c ca03 f9 6 1b3 9c 73 3c f5 a 26 2 3d " ++
    "3 10 8 1 7 1d 4 3c d5 13 c 13 c 56 1b 6 87 54 1 46 1 1 2 0 2 1 2 3 1 b 1 0 1 6 1 40 1 3 2 7 " ++
    "1 6 1 1b 1 3 1 4 1 0 3 6 1 153 2 123 2 31 1471 43 4c 3c 2c2 2b 4 63 c e 2 e 1 e 1 24 a ad " ++
    "38 19 1 1 d 2b 4 8 17 5 9a 3d7 4 10 3 c 3 76 4 5e 6 b 4 0 f b 4 37 8 9 6 27 8 1d 2 b 4 1 3e " ++
    "153 c d 2 c 3 9 5 37 7 e 2 a 6 8 7 92 1 65 c0407 0 1e 5f"),
   (["coptic", "copt", "qaac"],
    "b7 0 248 0 3 1 1 0 6c 1 6c d 2890 73 5 6 117 0 d4c8 1b"),
   (["cypriot", "cprt"],
    "10100 2 4 2c 3 8 6c0 5 2 0 1 2b 1 1 3 0 2 0"),
   (["cyprominoan", "cpmn"],
    "10100 1 2e8e 62"),
   (["cyrillic", "cyrl"],
    "2bc 0 43 2 1 0 1 0 1 0 2 0 5 0 ee 12f 1750 a a0 0 4c 0 7f 0 fe7 1f 43 0 77fc 5f 578e 1 e200 " ++
    "3d 21 0"),
   (["devanagari", "deva"],
    "2bc 0 643 52 2 2a 1350 26 1 1 3f6 0 873f 9 a6 1f 7200 9"),
   (["dogra", "dogr"],
    "964 b 9ec0 9 6fc6 3b"),
   (["duployan", "dupl"],
    "b7 0 24f 1 1 0 18 1 2b17 0 18dc3 6a 5 c 3 8 7 9 2 7"),
   (["elbasan", "elba"],
    "b7 0 24d 0 101fa 27"),
   (["ethiopic", "ethi"],
    "30e 0 ef1 48 1 3 2 6 1 0 1 3 2 28 1 3 2 20 1 3 2 6 1 0 1 3 2 e 1 38 1 3 2 42 2 1f 3 19 19e6 " ++
    "16 9 6 1 6 1 6 1 6 1 6 1 6 1 6 1 6 7d22 5 2 5 2 5 9 6 1 6 13cb1 6 1 3 1 1 1 e"),
   (["garay", "gara"],
    "60c 0 e 0 3 0 10720 25 3 1c 8 1"),
   (["georgian", "geor"],
    "b7 0 4d1 0 b16 25 1 0 5 0 2 2f b90 2a 2 2 39a 0 ca5 25 1 0 5 0 103 0"),
   (["glagolitic", "glag"],
    "b7 0 24b 0 1 0 17e 0 2 0 101 0 b71 0 f5e 0 ba5 5f 1e3 0 782b 0 13990 6 1 10 2 6 1 1 1 4"),
   (["gothic", "goth"],
    "b7 0 24c 1 2 0 28 0 fffe 1a"),
   (["grantha", "gran"],
    "951 1 11 1 280 d 10dc 0 1 1 1e 2 3 1 3f6 0 f20f 3 1 7 2 1 2 15 1 6 1 1 1 4 1 9 2 1 2 2 2 0 " ++
    "6 0 5 6 2 6 3 4 c5b 1 1 0"),
   (["greek", "grek"],
    "b7 0 248 1 2 0 1 0 1 0 a 0 2e 0 2 0 2a 7 2 3 1 0 4 0 1 0 1 2 1 0 1 13 1 3e e f 1926 4 32 4 " ++
    "4 4 54 2 13e 15 2 5 2 25 2 5 2 7 1 0 1 0 1 0 1 1e 2 34 1 e 1 d 2 5 1 12 2 2 1 8 5e 0 c8 0 " ++
    "8a3e 0 55da 4e 11 0 d05f 45"),
   (["gujarati", "gujr"],
    "951 1 11 1 11b 2 1 8 1 2 1 15 1 6 1 1 1 4 2 9 1 2 1 2 2 0 f 3 2 b 7 6 9d30 9"),
   (["gunjalagondi", "gong"],
    "b7 0 8ac 1 113fa 5 1 1 1 24 1 1 1 5 7 9"),
   (["gurmukhi", "guru"],
    "951 1 11 1 9b 2 1 5 4 1 2 15 1 6 1 1 1 1 1 1 2 0 1 4 4 1 2 2 3 0 7 3 1 0 7 10 9db9 9"),
   (["gurungkhema", "gukh"],
    "965 0 1579a 39"),
   (["han", "hani"],
    "b7 0 2dc8 19 1 58 c d5 1a f 1 2 1 c 1 c 1 c 2 0 6 8 bb 0 94 f 20 25 9 0 30 27 38 30 f b 33 " ++
    "0 58 18 a 4 60 1e 1 19bf 40 51ff 700 7 51f8 16d 2 69 36b 1 11a 4 707c 1 c 1 636e 11 1ede 1 " ++
    "dae a6df 20 1039 6 dd 2 1681 e 1d30 f 26d 9a2 21d 5e2 134a 5 105f"),
   (["hangul", "hang"],
    "1100 ff 1e01 2 4 9 1 c e 2 6 0 c3 0 35 5d 71 1e 41 1e 76e1 1c 283 2ba3 c 16 4 30 2649 1 11a " ++
    "4 3a 1e 3 5 2 5 2 5 2 2"),
   (["hanifirohingya", "rohg"],
    "60c 0 e 0 3 0 20 0 93 0 1062b 27 8 9"),
   (["hanunoo", "hano"],
    "1720 16"),
   (["hebrew", "hebr"],
    "307 1 288 36 8 1a 4 5 f528 19 1 4 1 0 1 1 1 1 1 9"),
   (["hiragana", "hira"],
    "3001 2 4 9 1 c 10 5 1 0 4 1 3 55 2 7 5a 1 cd48 1 11a 4 a 0 2d 1 b061 11e 12 0 1d 2 40ad 0"),
   (["inherited", "zinh", "qaai"],
    "30f 0 2 0 1 b 1 1 3 6 2 0 2 f 1 1 1 11 1 4 1 3 5f0 1 115b 1e 2f3 35 1 0 1 4 20c 1 c2 1f " ++
    "dd10 f 10 d 3cf 0 cd02 2d 2 16 220 2 11 7 2 6 1e 3 c2f52 ef"),
   (["javanese", "java"],
    "a980 4d 1 a 4 1"),
   (["kaithi", "kthi"],
    "966 9 24c1 0 79fe 9 6846 42 a 0"),
   (["kannada", "knda"],
    "951 1 11 1 31a c 1 2 1 16 1 9 1 4 2 8 1 2 1 3 7 1 6 1 1 3 2 9 1 2 fdc 0 1 1 6 0 17 0 1 0 " ++
    "8b3b 5"),
   (["katakana", "kana"],
    "305 0 1d 0 2cdd 2 4 9 1 c 10 5 1 0 4 1 5b 3 3 5f f0 f d0 2e 1 57 caed 1 11a 3e b050 3 1 6 1 " ++
    "1 1 0 11f 2 32 0 e 3"),
   (["kayahli", "kali"],
    "a900 2f"),
   (["khojki", "khoj"],
    "ae6 9 9d40 9 69c6 11 1 2e"),
   (["khudawadi", "sind"],
    "964 1 9eca 9 6a76 3a 5 9"),
   (["latin", "latn"],
    "41 19 6 19 2f 0 c 0 2 0 5 16 1 1e 1 1c0 3 0 a 0 1 2 1 0 9 0 1 0 6 4 1b e 1 1 1 0 c 0 2 2 7 " ++
    "1 1 1 26 0 5 0 4 c 115 1 4ca 1 7a8 0 c04 25 6 30 5 3 5 c 1 45 39 0 7 ff 12f 0 41 0 d 0 10 c " ++
    "53 0 39 1 6 0 1b 0 11 28 ad7 1f 197 0 78e8 7 1a 65 3 42 2 1 1 0 1 7 15 d 12e 0 201 2a 1 8 1 " ++
    "3 4f96 6 41a 19 6 19 825 5 1 29 1 8 d745 1e 6 5"),
   (["limbu", "limb"],
    "965 0 f9a 1e 1 b 4 b 4 0 3 b"),
   (["lineara", "lina"],
    "10107 2c 4cc 136 9 15 a 7"),
   (["linearb", "linb"],
    "10000 b 1 19 1 12 1 1 1 e 2 d 22 7a 5 2 4 2c 3 8"),
   (["lisu"],
    "2bc 0 10 0 2d3c 1 74c4 2f 7ab0 0"),
   (["lycian", "lyci"],
    "205a 0 e225 1c"),
   (["lydian", "lydi"],
    "b7 0 2d79 0 daee 19 5 0"),
   (["mahajani", "mahj"],
    "b7 0 8ac b 9ec0 9 6916 26"),
   (["malayalam", "mlym"],
    "951 1 11 1 39a c 1 2 1 32 1 2 1 5 4 f 2 19 f5a 0 17 0 8b3d 2"),
   (["mandaic", "mand"],
    "640 0 1ff 1b 2 0"),
   (["manichaean", "mani"],
    "640 0 1047f 26 4 b"),
   (["masaramgondi", "gonm"],
    "964 1 1139a 6 1 1 1 2b 3 0 1 1 1 8 8 9"),
   (["meroitichieroglyphs", "mero"],
    "205d 0 e922 1f"),
   (["modi"],
    "a830 9 6dc6 44 b 9"),
   (["mongolian", "mong"],
    "1800 19 6 58 7 2a 784 0 fd1 1 5 3 e654 c"),
   (["multani", "mult"],
    "a66 9 10810 6 1 0 1 3 1 e 1 a"),
   (["myanmar", "mymr"],
    "1000 9f 988e 0 b1 1e 61 1f 6c50 13"),
   (["nandinagari", "nand"],
    "964 1 380 9 ff9 0 8 0 7 0 8b35 5 716a 7 2 2d 2 a"),
   (["nko", "nkoo"],
    "60c 0 e 0 3 0 1a0 3a 2 2 f53e 1"),
   (["olonal", "onao"],
    "964 1 1dc6a 2a 4 0"),
   (["oldhungarian", "hung"],
    "205a 0 2 0 dd3 0 f 0 de3e 32 d 32 7 5"),
   (["oldpermic", "perm"],
    "b7 0 248 0 5 2 a 0 16f 0 fecc 2a"),
   (["oldturkic", "orkh"],
    "205a 0 dd5 0 ddcf 48"),
   (["olduyghur", "ougr"],
    "640 0 104b1 0 47d 19"),
   (["oriya", "orya"],
    "951 1 11 1 19b 2 1 7 2 1 2 15 1 6 1 1 1 4 2 8 2 1 2 2 7 2 4 1 1 4 2 11 1162 0 17 0"),
   (["osage", "osge"],
    "301 0 2 0 6 0 4c 0 10157 23 4 23"),
   (["phagspa", "phag"],
    "1802 1 1 0 829 0 fd2 0 783d 37"),
   (["psalterpahlavi", "phlp"],
    "640 0 1053f 11 7 3 c 6"),
   (["runic", "runr"],
    "16a0 58"),
   (["samaritan", "samr"],
    "800 2d 2 e 25f2 0"),
   (["sharada", "shrd"],
    "951 0 1385 0 1 0 2 1 2 0 8b4f 5 2 0 6947 5f"),
   (["shavian", "shaw"],
    "b7 0 10398 2f"),
   (["sinhala", "sinh"],
    "964 1 41b 2 1 11 3 17 1 8 1 0 2 6 3 0 4 5 1 0 1 7 6 9 2 2 efd 0 f4ee 13"),
   (["sogdian", "sogd"],
    "640 0 108ef 29"),
   (["sunuwar", "sunu"],
    "300 1 1 0 9 0 2 0 1c 0 3 0 1188e 21 e 9"),
   (["sylotinagri", "sylo"],
    "964 1 80 9 9e10 2c"),
   (["syriac", "syrc"],
    "303 1 2 1 1 0 15 0 2 2 7 1 1 0 2db 0 e 1 2 0 20 0 a a 1a 0 8f d 1 3b 2 2 110 a 158d 0 1 0"),
   (["tagalog", "tglg"],
    "1700 15 9 0 15 1"),
   (["tagbanwa", "tagb"],
    "1735 1 29 c 1 2 1 1"),
   (["taile", "tale"],
    "300 1 5 1 3 0 d33 9 906 1d 2 4"),
   (["takri", "takr"],
    "964 1 9eca 9 6e46 39 6 9"),
   (["tamil", "taml"],
    "951 1 11 1 21c 1 1 5 3 2 1 3 3 1 1 0 1 1 3 1 3 2 3 b 4 4 3 2 1 3 2 0 6 0 e 14 10df 0 8c18 0 " ++
    "6a0d 0 1 0 37 1 c83 31 d 0"),
   (["tangut", "tang"],
    "2ff0 f 1ef 0 13df0 0 1f 17f7 8 2ff 200 8"),
   (["telugu", "telu"],
    "951 1 11 1 29a c 1 2 1 16 1 f 2 8 1 2 1 3 7 1 1 2 2 0 2 3 2 9 7 8 105a 0 17 0"),
   (["thaana", "thaa"],
    "60c 0 e 1 2 0 40 9 116 31 f640 0 a 0"),
   (["thai"],
    "2bc 0 1a 0 2b 0 2d 0 acf 39 5 1b"),
   (["tibetan", "tibt"],
    "f00 47 1 23 4 26 1 23 1 e 1 6 4 1 202d 3"),
   (["tifinagh", "tfng"],
    "302 0 1 0 2 0 1 0 2a26 37 7 1 e 0"),
   (["tirhuta", "tirh"],
    "951 1 11 1 138c 0 8b3d 9 6c46 47 8 9"),
   (["todhri", "todr"],
    "301 0 2 0 2 0 9 0 1 0 4a 0 10261 33"),
   (["toto"],
    "2bc 0 1dfd3 1e"),
   (["tulutigalari", "tutg"],
    "ce6 9 1002 0 1 0 8b3b 5 bb 0 6a8e 9 1 0 2 0 1 25 1 9 1 0 2 0 1 3 1 9 1 1 8 1"),
   (["yezidi", "yezi"],
    "60c 0 e 0 3 0 40 9 10816 29 1 2 2 1"),
   (["yi", "yiii"],
    "3001 1 5 9 2 7 df 0 6f04 48c 3 36 5a9a 4")]

end StreamPolicy.Unicode
