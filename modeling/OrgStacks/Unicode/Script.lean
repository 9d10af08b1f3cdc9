import OrgStacks.CharSet

/-!
# Scripts of the Unicode Standard

Each row holds the loose names of a script, the characters that belong to it, and the further
characters that are used with it (the difference of its extended set), as run lengths. An extended
set that lacks a character of the plain one lists the missing ones in a third text.
-/

set_option autoImplicit false

namespace OrgStacks.Unicode.Script

structure Row where
  names : List String
  own : List String
  also : List String
  without : List String

def table : List Row := [
  { names := ["adlm", "adlam"]
    own := ["1e900 4c 4 a 4 2"]
    also := ["61f 1 20 1"]
    without := [""] },
  { names := ["aghb", "caucasianalbanian"]
    own := ["10530 34 b 1"]
    also := [""]
    without := [""] },
  { names := ["ahom"]
    own := ["11700 1b 2 f 4 17"]
    also := [""]
    without := [""] },
  { names := ["arab", "arabic"]
    own := ["600 5 1 6 1 e 1 3 1 20 1 a b 1a 1 6c 1 22 50 30 f0 1f 1 2 6 4a 1 1d f250 73 10 16b 2",
     "50",
     "2 36 7 1 20 10 70 5 1 87 f63 1f 7e 3 df00 4 1 1b 1 2 1 1 2 1 1 a 1 4 1 1 1 1 6 1 4 1 1 1",
     "1 1 1 3 1 2 1 1 2 1 1 1 1 1 1 1 1 1 1 2 1 1 2 4 1 7 1 4 1 4 1 1 1 a 1 11 5 3 1 5 1 11 34",
     "2"]
    also := ["60c 1 e 1 3 1 20 1 a b 1a 1 f6cd 2 5a0 1c"]
    without := [""] },
  { names := ["armi", "imperialaramaic"]
    own := ["10840 16 1 9"]
    also := [""]
    without := [""] },
  { names := ["armn", "armenian"]
    own := ["531 26 2 32 2 3 f583 5"]
    also := [""]
    without := [""] },
  { names := ["avst", "avestan"]
    own := ["10b00 36 3 7"]
    also := [""]
    without := [""] },
  { names := ["bali", "balinese"]
    own := ["1b00 4d 3 2f"]
    also := [""]
    without := [""] },
  { names := ["bamu", "bamum"]
    own := ["a6a0 58 c108 239"]
    also := [""]
    without := [""] },
  { names := ["bass", "bassavah"]
    own := ["16ad0 1e 2 6"]
    also := [""]
    without := [""] },
  { names := ["batk", "batak"]
    own := ["1bc0 34 8 4"]
    also := [""]
    without := [""] },
  { names := ["beng", "bengali"]
    own := ["980 4 1 8 2 2 2 16 1 7 1 1 3 4 2 9 2 2 2 4 8 1 4 2 1 5 2 19"]
    also := ["951 2 11 2 136a 1 1 1 2 2 1 1 8 1 8 1 2 1 4 1 2 3 8bf9 1"]
    without := [""] },
  { names := ["bhks", "bhaiksuki"]
    own := ["11c00 9 1 2d 1 e a 1d"]
    also := [""]
    without := [""] },
  { names := ["bopo", "bopomofo"]
    own := ["2ea 2 2e19 2b 70 20"]
    also := ["3001 3 4 a 1 d a 4 2 1 6 1 c3 1 cd49 2 11a 5"]
    without := [""] },
  { names := ["brah", "brahmi"]
    own := ["11000 4e 4 24 9 1"]
    also := [""]
    without := [""] },
  { names := ["brai", "braille"]
    own := ["2800 100"]
    also := [""]
    without := [""] },
  { names := ["bugi", "buginese"]
    own := ["1a00 1c 2 2"]
    also := ["a9cf 1"]
    without := [""] },
  { names := ["buhd", "buhid"]
    own := ["1740 14"]
    also := ["1735 2"]
    without := [""] },
  { names := ["cakm", "chakma"]
    own := ["11100 35 1 12"]
    also := ["9e6 a 650 a"]
    without := [""] },
  { names := ["cans", "canadianaboriginal"]
    own := ["1400 280 230 46 101ba 10"]
    also := [""]
    without := [""] },
  { names := ["cari", "carian"]
    own := ["102a0 31"]
    also := [""]
    without := [""] },
  { names := ["cham"]
    own := ["aa00 37 9 e 2 a 2 4"]
    also := [""]
    without := [""] },
  { names := ["cher", "cherokee"]
    own := ["13a0 56 2 6 9772 50"]
    also := [""]
    without := [""] },
  { names := ["chrs", "chorasmian"]
    own := ["10fb0 1c"]
    also := [""]
    without := [""] },
  { names := ["copt", "coptic", "qaac"]
    own := ["3e2 e 2890 74 5 7"]
    also := ["102e0 1c"]
    without := [""] },
  { names := ["cpmn", "cyprominoan"]
    own := ["12f90 63"]
    also := ["10100 2"]
    without := [""] },
  { names := ["cprt", "cypriot"]
    own := ["10800 6 2 1 1 2c 1 2 3 1 2 1"]
    also := ["10100 3 4 2d 3 9"]
    without := [""] },
  { names := ["cyrl", "cyrillic"]
    own := ["400 85 2 a9 1750 9 a2 1 4c 1 1067 20 7840 60 578e 2 e200 3e 21 1"]
    also := ["485 2 1971 1 104a 1"]
    without := [""] },
  { names := ["deva", "devanagari"]
    own := ["900 51 4 f 2 1a 9f60 20 7200 a"]
    also := ["951 2 11 2 136a 27 1 2 3f6 1 873f a"]
    without := [""] },
  { names := ["diak", "divesakuru"]
    own := ["11900 7 2 1 2 8 1 2 1 1e 1 2 2 c 9 a"]
    also := [""]
    without := [""] },
  { names := ["dogr", "dogra"]
    own := ["11800 3c"]
    also := ["964 c 9ec0 a"]
    without := [""] },
  { names := ["dsrt", "deseret"]
    own := ["10400 50"]
    also := [""]
    without := [""] },
  { names := ["dupl", "duployan"]
    own := ["1bc00 6b 5 d 3 9 7 a 2 4"]
    also := ["1bca0 4"]
    without := [""] },
  { names := ["egyp", "egyptianhieroglyphs"]
    own := ["13000 456"]
    also := [""]
    without := [""] },
  { names := ["elba", "elbasan"]
    own := ["10500 28"]
    also := [""]
    without := [""] },
  { names := ["elym", "elymaic"]
    own := ["10fe0 17"]
    also := [""]
    without := [""] },
  { names := ["ethi", "ethiopic"]
    own := ["1200 49 1 4 2 7 1 1 1 4 2 29 1 4 2 21 1 4 2 7 1 1 1 4 2 f 1 39 1 4 2 43 2 20 3 1a",
     "19e6",
     "17 9 7 1 7 1 7 1 7 1 7 1 7 1 7 1 7 7d22 6 2 6 2 6 9 7 1 7 13cb1 7 1 4 1 2 1 f"]
    also := [""]
    without := [""] },
  { names := ["geor", "georgian"]
    own := ["10a0 26 1 1 5 1 2 2b 1 4 b90 2b 2 3 1040 26 1 1 5 1"]
    also := ["10fb 1"]
    without := [""] },
  { names := ["glag", "glagolitic"]
    own := ["2c00 60 1b3a0 7 1 11 2 7 1 2 1 5"]
    also := ["484 1 2 1 29bb 1 782b 1"]
    without := [""] },
  { names := ["gong", "gunjalagondi"]
    own := ["11d60 6 1 2 1 25 1 2 1 6 7 a"]
    also := ["964 2"]
    without := [""] },
  { names := ["gonm", "masaramgondi"]
    own := ["11d00 7 1 2 1 2c 3 1 1 2 1 9 8 a"]
    also := ["964 2"]
    without := [""] },
  { names := ["goth", "gothic"]
    own := ["10330 1b"]
    also := [""]
    without := [""] },
  { names := ["gran", "grantha"]
    own := ["11300 4 1 8 2 2 2 16 1 7 1 2 1 5 2 9 2 2 2 3 2 1 6 1 5 7 2 7 3 5"]
    also := ["951 2 11 2 280 e 10dc 1 1 2 1e 3 3 2 3f6 1 f24a 1 c94 2 1 1"]
    without := [""] },
  { names := ["grek", "greek"]
    own := ["370 4 1 3 2 4 1 1 4 1 1 1 1 3 1 1 1 14 1 3f e 10 1926 5 32 5 4 5 54 1 140 16 2 6 2",
     "26 2",
     "6 2 8 1 1 1 1 1 1 1 1f 2 35 1 f 1 e 2 6 1 13 2 3 1 9 127 1 8a3e 1 55da 4f 11 1 d05f 46"]
    also := ["342 1 2 1 1a7a 2"]
    without := [""] },
  { names := ["gujr", "gujarati"]
    own := ["a81 3 1 9 1 3 1 16 1 7 1 2 1 5 2 a 1 3 1 3 2 1 f 4 2 c 7 7"]
    also := ["951 2 11 2 9eca a"]
    without := [""] },
  { names := ["guru", "gurmukhi"]
    own := ["a01 3 1 6 4 2 2 16 1 7 1 2 1 2 1 2 2 1 1 5 4 2 2 3 3 1 7 4 1 1 7 11"]
    also := ["951 2 11 2 9eca a"]
    without := [""] },
  { names := ["hang", "hangul"]
    own := ["1100 100 1e2e 2 101 5e 71 1f 41 1f 76e1 1d 283 2ba4 c 17 4 31 27a4 1f 3 6 2 6 2 6 2 3"]
    also := ["3001 3 4 a 1 d 10 1 6 1 c3 1 cd49 2 11a 5"]
    without := [""] },
  { names := ["hani", "han"]
    own := ["2e80 1a 1 59 c d6 2f 1 1 1 19 9 e 4 3c4 19c0 40 5200 5900 16e 2 6a 7508 2 c 2 900e",
     "a6e0",
     "20 103a 6 de 2 1682 e 1d31 c1f 21e 5e2 134b 5 1060"]
    also := ["3001 3 2 1 1 a 1 d a 4 2 1 6 1 4 4 bb 1 94 10 20 24 3c 28 38 31 f c 33 1 58 19 a 5",
     "60 1f",
     "7301 8 573d 2 11a 5 d3fa 12 1ede 2"]
    without := [""] },
  { names := ["hano", "hanunoo"]
    own := ["1720 15"]
    also := ["1735 2"]
    without := [""] },
  { names := ["hatr", "hatran"]
    own := ["108e0 13 1 2 5 5"]
    also := [""]
    without := [""] },
  { names := ["hebr", "hebrew"]
    own := ["591 37 8 1b 4 6 f528 1a 1 5 1 1 1 2 1 2 1 a"]
    also := [""]
    without := [""] },
  { names := ["hira", "hiragana"]
    own := ["3041 56 6 3 17f61 11f 12 1 1d 3 40ad 1"]
    also := ["3001 3 4 a 1 d 10 6 1 1 4 2 5b 4 3 1 5a 2 cd48 2 11a 5 a 1 2d 2"]
    without := [""] },
  { names := ["hluw", "anatolianhieroglyphs"]
    own := ["14400 247"]
    also := [""]
    without := [""] },
  { names := ["hmng", "pahawhhmong"]
    own := ["16b00 46 a a 1 7 1 15 5 13"]
    also := [""]
    without := [""] },
  { names := ["hmnp", "nyiakengpuachuehmong"]
    own := ["1e100 2d 3 e 2 a 4 2"]
    also := [""]
    without := [""] },
  { names := [""]
    own := [""]
    also := [""]
    without := [""] },
  { names := ["hung", "oldhungarian"]
    own := ["10c80 33 d 33 7 6"]
    also := [""]
    without := [""] },
  { names := ["ital", "olditalic"]
    own := ["10300 24 9 3"]
    also := [""]
    without := [""] },
  { names := ["java", "javanese"]
    own := ["a980 4e 2 a 4 2"]
    also := ["a9cf 1"]
    without := [""] },
  { names := ["kali", "kayahli"]
    own := ["a900 2e 1 1"]
    also := ["a92e 1"]
    without := [""] },
  { names := ["kana", "katakana"]
    own := ["30a1 5a 2 3 f0 10 d0 2f 1 58 cc0e a 1 2d b052 4 1 7 1 2 1 1 11f 3 32 1 e 4"]
    also := ["3001 3 4 a 1 d 10 6 1 1 4 2 5b 4 3 1 5a 2 cd48 2 11a 5 a 1 2d 2"]
    without := [""] },
  { names := ["kawi"]
    own := ["11f00 11 1 29 3 1c"]
    also := [""]
    without := [""] },
  { names := ["khar", "kharoshthi"]
    own := ["10a00 4 1 2 5 8 1 3 1 1d 2 3 4 a 7 9"]
    also := [""]
    without := [""] },
  { names := ["khmr", "khmer"]
    own := ["1780 5e 2 a 6 a 1e6 20"]
    also := [""]
    without := [""] },
  { names := ["khoj", "khojki"]
    own := ["11200 12 1 2f"]
    also := ["ae6 a 9d40 a"]
    without := [""] },
  { names := ["kits", "khitansmallscript"]
    own := ["16fe4 1 1b1b 1d6"]
    also := [""]
    without := [""] },
  { names := ["knda", "kannada"]
    own := ["c80 d 1 3 1 17 1 a 1 5 2 9 1 3 1 4 7 2 6 2 1 4 2 a 1 3"]
    also := ["951 2 11 2 136a 1 1 1 7 1 17 1 1 1 8b3b 6"]
    without := [""] },
  { names := ["kthi", "kaithi"]
    own := ["11080 43 a 1"]
    also := ["966 a 9ec0 a"]
    without := [""] },
  { names := ["lana", "taitham"]
    own := ["1a20 3f 1 1d 2 b 6 a 6 e"]
    also := [""]
    without := [""] },
  { names := ["laoo", "lao"]
    own := ["e81 2 1 1 1 5 1 18 1 1 1 17 2 5 1 1 1 7 1 a 2 4"]
    also := [""]
    without := [""] },
  { names := ["latn", "latin"]
    own := ["41 1a 6 1a 2f 1 f 1 5 17 1 1f 1 1c1 27 5 1a1b 26 6 31 5 4 5 d 1 46 41 100 171 1 d 1",
     "10 d",
     "8d 2 6 1 1b 1 11 29 ad7 20 7aa2 66 3 40 5 2 1 1 1 5 18 e 330 2b 1 9 1 4 4f96 7 41a 1a 6",
     "1a 825 6 1 2a 1 9 d745 1f 6 6"]
    also := ["363 d 115 2 4ca 2 7a8 1 f33 1 c0 1 860f 8 226 1"]
    without := [""] },
  { names := ["lepc", "lepcha"]
    own := ["1c00 38 3 f 3 3"]
    also := [""]
    without := [""] },
  { names := ["limb", "limbu"]
    own := ["1900 1f 1 c 4 c 4 1 3 c"]
    also := ["965 1"]
    without := [""] },
  { names := ["lina", "lineara"]
    own := ["10600 137 9 16 a 8"]
    also := ["10107 2d"]
    without := [""] },
  { names := ["linb", "linearb"]
    own := ["10000 c 1 1a 1 13 1 2 1 f 2 e 22 7b"]
    also := ["10100 3 4 2d 3 9"]
    without := [""] },
  { names := ["lisu"]
    own := ["a4d0 30 7ab0 1"]
    also := [""]
    without := [""] },
  { names := ["lyci", "lycian"]
    own := ["10280 1d"]
    also := [""]
    without := [""] },
  { names := ["lydi", "lydian"]
    own := ["10920 1a 5 1"]
    also := [""]
    without := [""] },
  { names := ["mahj", "mahajani"]
    own := ["11150 27"]
    also := ["964 c 9ec0 a"]
    without := [""] },
  { names := ["maka", "makasar"]
    own := ["11ee0 19"]
    also := [""]
    without := [""] },
  { names := ["mand", "mandaic"]
    own := ["840 1c 2 1"]
    also := ["640 1"]
    without := [""] },
  { names := ["mani", "manichaean"]
    own := ["10ac0 27 4 c"]
    also := ["640 1"]
    without := [""] },
  { names := ["marc", "marchen"]
    own := ["11c70 20 2 16 1 e"]
    also := [""]
    without := [""] },
  { names := ["medf", "medefaidrin"]
    own := ["16e40 5b"]
    also := [""]
    without := [""] },
  { names := ["mend", "mendekikakui"]
    own := ["1e800 c5 2 10"]
    also := [""]
    without := [""] },
  { names := ["merc", "meroiticcursive"]
    own := ["109a0 18 4 14 2 2e"]
    also := [""]
    without := [""] },
  { names := ["mero", "meroitichieroglyphs"]
    own := ["10980 20"]
    also := [""]
    without := [""] },
  { names := ["mlym", "malayalam"]
    own := ["d00 d 1 3 1 33 1 3 1 6 4 10 2 1a"]
    also := ["951 2 11 2 1374 1 8b55 3"]
    without := [""] },
  { names := ["modi"]
    own := ["11600 45 b a"]
    also := ["a830 a"]
    without := [""] },
  { names := ["mong", "mongolian"]
    own := ["1800 2 2 1 1 14 6 59 7 2b fdb5 d"]
    also := ["1802 2 1 1 829 1"]
    without := [""] },
  { names := ["mroo", "mro"]
    own := ["16a40 1f 1 a 4 2"]
    also := [""]
    without := [""] },
  { names := ["mtei", "meeteimayek"]
    own := ["aae0 17 c9 2e 2 a"]
    also := [""]
    without := [""] },
  { names := ["mult", "multani"]
    own := ["11280 7 1 1 1 4 1 f 1 b"]
    also := ["a66 a"]
    without := [""] },
  { names := ["mymr", "myanmar"]
    own := ["1000 a0 9940 1f 61 20"]
    also := ["a92e 1"]
    without := [""] },
  { names := ["nagm", "nagmundari"]
    own := ["1e4d0 2a"]
    also := [""]
    without := [""] },
  { names := ["nand", "nandinagari"]
    own := ["119a0 8 2 2e 2 b"]
    also := ["964 2 380 a ff9 1 8 1 7 1 8b35 6"]
    without := [""] },
  { names := ["narb", "oldnortharabian"]
    own := ["10a80 20"]
    also := [""]
    without := [""] },
  { names := ["nbat", "nabataean"]
    own := ["10880 1f 8 9"]
    also := [""]
    without := [""] },
  { names := ["newa"]
    own := ["11400 5c 1 5"]
    also := [""]
    without := [""] },
  { names := ["nkoo", "nko"]
    own := ["7c0 3b 2 3"]
    also := ["60c 1 e 1 3 1 f71e 2"]
    without := [""] },
  { names := ["nshu", "nushu"]
    own := ["16fe1 1 418e 18c"]
    also := [""]
    without := [""] },
  { names := ["ogam", "ogham"]
    own := ["1680 1d"]
    also := [""]
    without := [""] },
  { names := ["olck", "olchiki"]
    own := ["1c50 30"]
    also := [""]
    without := [""] },
  { names := ["orkh", "oldturkic"]
    own := ["10c00 49"]
    also := [""]
    without := [""] },
  { names := ["orya", "oriya"]
    own := ["b01 3 1 8 2 2 2 16 1 7 1 2 1 5 2 9 2 2 2 3 7 3 4 2 1 5 2 12"]
    also := ["951 2 11 2 1374 1 17 1"]
    without := [""] },
  { names := ["osge", "osage"]
    own := ["104b0 24 4 24"]
    also := [""]
    without := [""] },
  { names := ["osma", "osmanya"]
    own := ["10480 1e 2 a"]
    also := [""]
    without := [""] },
  { names := ["ougr", "olduyghur"]
    own := ["10f70 1a"]
    also := ["640 1 104b1 1"]
    without := [""] },
  { names := ["palm", "palmyrene"]
    own := ["10860 20"]
    also := [""]
    without := [""] },
  { names := ["pauc", "paucinhau"]
    own := ["11ac0 39"]
    also := [""]
    without := [""] },
  { names := ["perm", "oldpermic"]
    own := ["10350 2b"]
    also := ["483 1"]
    without := [""] },
  { names := ["phag", "phagspa"]
    own := ["a840 38"]
    also := ["1802 2 1 1"]
    without := [""] },
  { names := ["phli", "inscriptionalpahlavi"]
    own := ["10b60 13 5 8"]
    also := [""]
    without := [""] },
  { names := ["phlp", "psalterpahlavi"]
    own := ["10b80 12 7 4 c 7"]
    also := ["640 1"]
    without := [""] },
  { names := ["phnx", "phoenician"]
    own := ["10900 1c 3 1"]
    also := [""]
    without := [""] },
  { names := ["plrd", "miao"]
    own := ["16f00 4b 4 39 7 11"]
    also := [""]
    without := [""] },
  { names := ["prti", "inscriptionalparthian"]
    own := ["10b40 16 2 8"]
    also := [""]
    without := [""] },
  { names := ["rjng", "rejang"]
    own := ["a930 24 b 1"]
    also := [""]
    without := [""] },
  { names := ["rohg", "hanifirohingya"]
    own := ["10d00 28 8 a"]
    also := ["60c 1 e 1 3 1 20 1 93 1"]
    without := [""] },
  { names := ["runr", "runic"]
    own := ["16a0 4b 3 b"]
    also := [""]
    without := [""] },
  { names := ["samr", "samaritan"]
    own := ["800 2e 2 f"]
    also := [""]
    without := [""] },
  { names := ["sarb", "oldsoutharabian"]
    own := ["10a60 20"]
    also := [""]
    without := [""] },
  { names := ["saur", "saurashtra"]
    own := ["a880 46 8 c"]
    also := [""]
    without := [""] },
  { names := ["sgnw", "signwriting"]
    own := ["1d800 28c f 5 1 f"]
    also := [""]
    without := [""] },
  { names := ["shaw", "shavian"]
    own := ["10450 30"]
    also := [""]
    without := [""] },
  { names := ["shrd", "sharada"]
    own := ["11180 60"]
    also := ["951 1 1385 1 1 1 2 2 2 1"]
    without := [""] },
  { names := ["sidd", "siddham"]
    own := ["11580 36 2 26"]
    also := [""]
    without := [""] },
  { names := ["sind", "khudawadi"]
    own := ["112b0 3b 5 a"]
    also := ["964 2 9eca a"]
    without := [""] },
  { names := ["sinh", "sinhala"]
    own := ["d81 3 1 12 3 18 1 9 1 1 2 7 3 1 4 6 1 1 1 8 6 a 2 3 103ec 14"]
    also := ["964 2"]
    without := [""] },
  { names := ["sogd", "sogdian"]
    own := ["10f30 2a"]
    also := ["640 1"]
    without := [""] },
  { names := ["sogo", "oldsogdian"]
    own := ["10f00 28"]
    also := [""]
    without := [""] },
  { names := ["sora", "sorasompeng"]
    own := ["110d0 19 7 a"]
    also := [""]
    without := [""] },
  { names := ["soyo", "soyombo"]
    own := ["11a50 53"]
    also := [""]
    without := [""] },
  { names := ["sund", "sundanese"]
    own := ["1b80 40 100 8"]
    also := [""]
    without := [""] },
  { names := ["sylo", "sylotinagri"]
    own := ["a800 2d"]
    also := ["964 2 80 a"]
    without := [""] },
  { names := ["syrc", "syriac"]
    own := ["700 e 1 3c 2 3 110 b"]
    also := ["60c 1 e 2 2 1 20 1 a b 1a 1 1787 1 1 1"]
    without := [""] },
  { names := ["tagb", "tagbanwa"]
    own := ["1760 d 1 3 1 2"]
    also := ["1735 2"]
    without := [""] },
  { names := ["takr", "takri"]
    own := ["11680 3a 6 a"]
    also := ["964 2 9eca a"]
    without := [""] },
  { names := ["tale", "taile"]
    own := ["1950 1e 2 5"]
    also := ["1040 a"]
    without := [""] },
  { names := ["talu", "newtailue"]
    own := ["1980 2c 4 1a 6 b 3 2"]
    also := [""]
    without := [""] },
  { names := ["taml", "tamil"]
    own := ["b82 2 1 6 3 3 1 4 3 2 1 1 1 2 3 2 3 3 3 c 4 5 3 3 1 4 2 1 6 1 e 15 113c5 32 d 1"]
    also := ["951 2 11 2 1374 1 8c18 1 6a0d 1 1 1 37 2"]
    without := [""] },
  { names := ["tang", "tangut"]
    own := ["16fe0 1 1f 17f8 8 300 200 9"]
    also := [""]
    without := [""] },
  { names := ["tavt", "taiviet"]
    own := ["aa80 43 18 5"]
    also := [""]
    without := [""] },
  { names := ["telu", "telugu"]
    own := ["c00 d 1 3 1 17 1 10 2 9 1 3 1 4 7 2 1 3 2 1 2 4 2 a 7 9"]
    also := ["951 2 11 2 1374 1 17 1"]
    without := [""] },
  { names := ["tfng", "tifinagh"]
    own := ["2d30 38 7 2 e 1"]
    also := [""]
    without := [""] },
  { names := ["tglg", "tagalog"]
    own := ["1700 16 9 1"]
    also := ["1735 2"]
    without := [""] },
  { names := ["thaa", "thaana"]
    own := ["780 32"]
    also := ["60c 1 e 2 2 1 40 a f788 1 a 1"]
    without := [""] },
  { names := ["thai"]
    own := ["e01 3a 5 1c"]
    also := [""]
    without := [""] },
  { names := ["tibt", "tibetan"]
    own := ["f00 48 1 24 4 27 1 24 1 f 1 7 4 2"]
    also := [""]
    without := [""] },
  { names := ["tirh", "tirhuta"]
    own := ["11480 48 8 a"]
    also := ["951 2 11 2 138c 1 8b3d a"]
    without := [""] },
  { names := ["tnsa", "tangsa"]
    own := ["16a70 4f 1 a"]
    also := [""]
    without := [""] },
  { names := ["toto"]
    own := ["1e290 1f"]
    also := [""]
    without := [""] },
  { names := ["ugar", "ugaritic"]
    own := ["10380 1e 1 1"]
    also := [""]
    without := [""] },
  { names := ["vaii", "vai"]
    own := ["a500 12c"]
    also := [""]
    without := [""] },
  { names := ["vith", "vithkuqi"]
    own := ["10570 b 1 f 1 7 1 2 1 b 1 f 1 7 1 2"]
    also := [""]
    without := [""] },
  { names := ["wara", "warangciti"]
    own := ["118a0 53 c 1"]
    also := [""]
    without := [""] },
  { names := ["wcho", "wancho"]
    own := ["1e2c0 3a 5 1"]
    also := [""]
    without := [""] },
  { names := ["xpeo", "oldpersian"]
    own := ["103a0 24 4 e"]
    also := [""]
    without := [""] },
  { names := ["xsux", "cuneiform"]
    own := ["12000 39a 66 6f 1 5 b c4"]
    also := [""]
    without := [""] },
  { names := ["yezi", "yezidi"]
    own := ["10e80 2a 1 3 2 2"]
    also := ["60c 1 e 1 3 1 40 a"]
    without := [""] },
  { names := ["yiii", "yi"]
    own := ["a000 48d 3 37"]
    also := ["3001 2 5 a 2 8 df 1 ce65 5"]
    without := [""] },
  { names := ["zanb", "zanabazarsquare"]
    own := ["11a00 48"]
    also := [""]
    without := [""] },
  { names := ["zinh", "inherited", "qaai"]
    own := ["300 70 115 2 1c4 b 1a 1 2e0 4 115b 1f 201 3 1 d 1 7 4 1 6 1 3 2 c6 40 20c 2 c2 21",
     "f39 4",
     "6b 2 cd65 10 10 e 3cf 1 e2 1 105a 1 bbc4 2e 2 17 220 3 11 8 2 7 1e 4 c2f52 f0"]
    also := [""]
    without := ["342 1 2 1 1d d 115 2 1c4 b 1a 1 2e0 2 137d 3 1 d 1 7 4 1 6 1 3 2 c6 2 36 1 1 1",
     "2f5 1 f39",
     "4 6b 2 d245 1 105a 1"] },
  { names := ["zyyy", "common"]
    own := ["0 41 1a 6 1a 2f 1 f 1 5 17 1 1f 1 1c1 27 5 5 2 14 74 1 9 1 6 1 1 1 27d 1 6 1 e 1 3 1",
     "20",
     "1 9c 1 204 1 81 2 4d9 1 195 4 122 1 5ef 3 47 2 cb 2 1 1 4cd 1 d 1 7 4 1 6 1 3 2 1 305 c",
     "2 57 1 b 3 b 1 f 11 21 3f 26 1 3 2 6 1 1b 1 11 29 3 4 297 19 b 15 3a0 100 274 2 20 1 69",
     "200 5e 192 c 4 5 1 1 1 19 f 8 4 4 5b 2 3 1 5a 2 93 10 20 24 3c 40 1f 51 2f 1 58 a8 19c0",
     "40 5900 22 66 3 a5 a f4 1 a0 1 18b 1 e 2 51d2 2 d0 a 16 23 1 13 1 4 93 1 1 20 1a 6 1a b",
     "a 1 2d 2 40 7 1 7 a 5 102 3 4 2d 3 9 50 d 33 2d e4 1b b9a4 4 12ac 74 3c f6 a 27 2 3e 3",
     "11 8 2 7 1e 4 3d d5 14 c 14 c 57 9 19 87 55 1 47 1 2 2 1 2 2 2 4 1 c 1 1 1 7 1 41 1 4 2",
     "8 1 7 1 1c 1 4 1 5 1 1 3 7 1 154 2 124 2 32 1471 44 4c 3d 2c2 2c 4 64 c f 2 f 1 f 1 25 a",
     "ae 38 1a 1 2 d 2c 4 9 7 2 e 6 9a 3d8 4 11 3 d 3 77 4 5f 6 c 4 1 f c 4 38 8 a 6 28 8 1e 2",
     "2 4e 154 c e 2 d 3 9 7 2e 1 7 8 e 4 9 7 9 7 93 1 37 25 a c0407 1 1e 60"]
    also := [""]
    without := ["60c 1 e 1 3 1 20 1 323 2 795 1 639 2 cb 2 1 1 4cd 1 d 1 7 4 1 6 1 3 2 1 334 1",
     "e13 1 1bd",
     "3 2 1 1 a 1 d 10 6 1 1 4 4 5b 2 3 1 5a 2 93 10 20 24 3c 28 38 31 f c 33 1 58 19 a 5 60",
     "1f 7301 8 128 a f4 1 a0 1 536e 2 105 2 11a 5 a 1 2d 2 160 3 4 2d 3 9 1a1 1b b9a4 4 16bc",
     "12 1ede 2"] }]

def find? (name : String) : Option CharSet :=
  if name = "zzzz" ∨ name = "unknown" then
    some (CharSet.all.diff (.ofRanges (table.flatMap fun row => (CharSet.ofRuns row.own).ranges)))
  else (table.find? fun row => row.names.contains name).map fun row => .ofRuns row.own

/-- The characters that are used with the script with a loose name. -/
def findExtended? (name : String) : Option CharSet :=
  if name = "zzzz" ∨ name = "unknown" then find? name
  else (table.find? fun row => row.names.contains name).map fun row =>
    ((CharSet.ofRuns row.own).union (.ofRuns row.also)).diff (.ofRuns row.without)

end OrgStacks.Unicode.Script
