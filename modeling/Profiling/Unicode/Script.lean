import Profiling.Unicode.Runs

/-!
# Scripts
-/

namespace Profiling.Unicode

def scriptTable : String :=
  String.join
    ["65Zyyy26Latn6Zyyy26Latn47Zyyy1Latn15Zyyy1Latn5Zyyy23Latn1Zyyy31Latn1Zyyy449Latn39Zyyy5Latn5Z",
     "yyy2Bopo20Zyyy112Zinh4Grek1Zyyy3Grek2Zzzz4Grek1Zyyy1Grek4Zzzz1Grek1Zyyy1Grek1Zyyy3Grek1Zzzz1",
     "Grek1Zzzz20Grek1Zzzz63Grek14Copt16Grek133Cyrl2Zinh169Cyrl1Zzzz38Armn2Zzzz50Armn2Zzzz3Armn1Zz",
     "zz55Hebr8Zzzz27Hebr4Zzzz6Hebr11Zzzz5Arab1Zyyy6Arab1Zyyy14Arab1Zyyy3Arab1Zyyy32Arab1Zyyy10Ara",
     "b11Zinh26Arab1Zinh108Arab1Zyyy34Arab14Syrc1Zzzz60Syrc2Zzzz3Syrc48Arab50Thaa14Zzzz59Nkoo2Zzzz",
     "3Nkoo46Samr2Zzzz15Samr1Zzzz28Mand2Zzzz1Mand1Zzzz11Syrc5Zzzz31Arab1Zzzz2Arab6Zzzz74Arab1Zyyy2",
     "9Arab81Deva4Zinh15Deva2Zyyy26Deva4Beng1Zzzz8Beng2Zzzz2Beng2Zzzz22Beng1Zzzz7Beng1Zzzz1Beng3Zz",
     "zz4Beng2Zzzz9Beng2Zzzz2Beng2Zzzz4Beng8Zzzz1Beng4Zzzz2Beng1Zzzz5Beng2Zzzz25Beng2Zzzz3Guru1Zzz",
     "z6Guru4Zzzz2Guru2Zzzz22Guru1Zzzz7Guru1Zzzz2Guru1Zzzz2Guru1Zzzz2Guru2Zzzz1Guru1Zzzz5Guru4Zzzz",
     "2Guru2Zzzz3Guru3Zzzz1Guru7Zzzz4Guru1Zzzz1Guru7Zzzz17Guru10Zzzz3Gujr1Zzzz9Gujr1Zzzz3Gujr1Zzzz",
     "22Gujr1Zzzz7Gujr1Zzzz2Gujr1Zzzz5Gujr2Zzzz10Gujr1Zzzz3Gujr1Zzzz3Gujr2Zzzz1Gujr15Zzzz4Gujr2Zzz",
     "z12Gujr7Zzzz7Gujr1Zzzz3Orya1Zzzz8Orya2Zzzz2Orya2Zzzz22Orya1Zzzz7Orya1Zzzz2Orya1Zzzz5Orya2Zzz",
     "z9Orya2Zzzz2Orya2Zzzz3Orya7Zzzz3Orya4Zzzz2Orya1Zzzz5Orya2Zzzz18Orya10Zzzz2Taml1Zzzz6Taml3Zzz",
     "z3Taml1Zzzz4Taml3Zzzz2Taml1Zzzz1Taml1Zzzz2Taml3Zzzz2Taml3Zzzz3Taml3Zzzz12Taml4Zzzz5Taml3Zzzz",
     "3Taml1Zzzz4Taml2Zzzz1Taml6Zzzz1Taml14Zzzz21Taml5Zzzz13Telu1Zzzz3Telu1Zzzz23Telu1Zzzz16Telu2Z",
     "zzz9Telu1Zzzz3Telu1Zzzz4Telu7Zzzz2Telu1Zzzz3Telu2Zzzz1Telu2Zzzz4Telu2Zzzz10Telu7Zzzz9Telu13K",
     "nda1Zzzz3Knda1Zzzz23Knda1Zzzz10Knda1Zzzz5Knda2Zzzz9Knda1Zzzz3Knda1Zzzz4Knda7Zzzz2Knda6Zzzz2K",
     "nda1Zzzz4Knda2Zzzz10Knda1Zzzz3Knda12Zzzz13Mlym1Zzzz3Mlym1Zzzz51Mlym1Zzzz3Mlym1Zzzz6Mlym4Zzzz",
     "16Mlym2Zzzz26Mlym1Zzzz3Sinh1Zzzz18Sinh3Zzzz24Sinh1Zzzz9Sinh1Zzzz1Sinh2Zzzz7Sinh3Zzzz1Sinh4Zz",
     "zz6Sinh1Zzzz1Sinh1Zzzz8Sinh6Zzzz10Sinh2Zzzz3Sinh12Zzzz58Thai4Zzzz1Zyyy28Thai37Zzzz2Laoo1Zzzz",
     "1Laoo1Zzzz5Laoo1Zzzz24Laoo1Zzzz1Laoo1Zzzz23Laoo2Zzzz5Laoo1Zzzz1Laoo1Zzzz7Laoo1Zzzz10Laoo2Zzz",
     "z4Laoo32Zzzz72Tibt1Zzzz36Tibt4Zzzz39Tibt1Zzzz36Tibt1Zzzz15Tibt1Zzzz7Tibt4Zyyy2Tibt37Zzzz160M",
     "ymr38Geor1Zzzz1Geor5Zzzz1Geor2Zzzz43Geor1Zyyy4Geor256Hang73Ethi1Zzzz4Ethi2Zzzz7Ethi1Zzzz1Eth",
     "i1Zzzz4Ethi2Zzzz41Ethi1Zzzz4Ethi2Zzzz33Ethi1Zzzz4Ethi2Zzzz7Ethi1Zzzz1Ethi1Zzzz4Ethi2Zzzz15Et",
     "hi1Zzzz57Ethi1Zzzz4Ethi2Zzzz67Ethi2Zzzz32Ethi3Zzzz26Ethi6Zzzz86Cher2Zzzz6Cher2Zzzz640Cans29O",
     "gam3Zzzz75Runr3Zyyy11Runr7Zzzz22Tglg9Zzzz1Tglg21Hano2Zyyy9Zzzz20Buhd12Zzzz13Tagb1Zzzz3Tagb1Z",
     "zzz2Tagb12Zzzz94Khmr2Zzzz10Khmr6Zzzz10Khmr6Zzzz2Mong2Zyyy1Mong1Zyyy20Mong6Zzzz89Mong7Zzzz43M",
     "ong5Zzzz70Cans10Zzzz31Limb1Zzzz12Limb4Zzzz12Limb4Zzzz1Limb3Zzzz12Limb30Tale2Zzzz5Tale11Zzzz4",
     "4Talu4Zzzz26Talu6Zzzz11Talu3Zzzz2Talu32Khmr28Bugi2Zzzz2Bugi63Lana1Zzzz29Lana2Zzzz11Lana6Zzzz",
     "10Lana6Zzzz14Lana2Zzzz31Zinh49Zzzz77Bali3Zzzz47Bali1Zzzz64Sund52Batk8Zzzz4Batk56Lepc3Zzzz15L",
     "epc3Zzzz3Lepc48Olck9Cyrl7Zzzz43Geor2Zzzz3Geor8Sund8Zzzz3Zinh1Zyyy13Zinh1Zyyy7Zinh4Zyyy1Zinh6",
     "Zyyy1Zinh3Zyyy2Zinh1Zyyy5Zzzz38Latn5Grek1Cyrl49Latn5Grek4Latn5Grek13Latn1Cyrl70Latn1Grek64Zi",
     "nh256Latn22Grek2Zzzz6Grek2Zzzz38Grek2Zzzz6Grek2Zzzz8Grek1Zzzz1Grek1Zzzz1Grek1Zzzz1Grek1Zzzz3",
     "1Grek2Zzzz53Grek1Zzzz15Grek1Zzzz14Grek2Zzzz6Grek1Zzzz19Grek2Zzzz3Grek1Zzzz9Grek1Zzzz12Zyyy2Z",
     "inh87Zyyy1Zzzz11Zyyy1Latn2Zzzz11Zyyy1Latn15Zyyy1Zzzz13Latn3Zzzz33Zyyy15Zzzz33Zinh15Zzzz38Zyy",
     "y1Grek3Zyyy2Latn6Zyyy1Latn27Zyyy1Latn17Zyyy41Latn3Zyyy4Zzzz663Zyyy25Zzzz11Zyyy21Zzzz928Zyyy2",
     "56Brai628Zyyy2Zzzz32Zyyy1Zzzz105Zyyy96Glag32Latn116Copt5Zzzz7Copt38Geor1Zzzz1Geor5Zzzz1Geor2",
     "Zzzz56Tfng7Zzzz2Tfng14Zzzz1Tfng23Ethi9Zzzz7Ethi1Zzzz7Ethi1Zzzz7Ethi1Zzzz7Ethi1Zzzz7Ethi1Zzzz",
     "7Ethi1Zzzz7Ethi1Zzzz7Ethi1Zzzz32Cyrl94Zyyy34Zzzz26Hani1Zzzz89Hani12Zzzz214Hani26Zzzz12Zyyy4Z",
     "zzz5Zyyy1Hani1Zyyy1Hani25Zyyy9Hani4Zinh2Hang8Zyyy4Hani4Zyyy1Zzzz86Hira2Zzzz2Zinh2Zyyy3Hira1Z",
     "yyy90Kana2Zyyy3Kana5Zzzz43Bopo1Zzzz94Hang1Zzzz16Zyyy32Bopo36Zyyy12Zzzz16Kana31Hang1Zzzz64Zyy",
     "y31Hang81Zyyy47Kana1Zyyy88Kana168Zyyy6592Hani64Zyyy20992Hani1165Yiii3Zzzz55Yiii9Zzzz48Lisu30",
     "0Vaii20Zzzz96Cyrl88Bamu8Zzzz34Zyyy102Latn3Zyyy64Latn5Zzzz2Latn1Zzzz1Latn1Zzzz5Latn24Zzzz14La",
     "tn45Sylo3Zzzz10Zyyy6Zzzz56Phag8Zzzz70Saur8Zzzz12Saur6Zzzz32Deva46Kali1Zyyy1Kali36Rjng11Zzzz1",
     "Rjng29Hang3Zzzz78Java1Zzzz1Zyyy10Java4Zzzz2Java31Mymr1Zzzz55Cham9Zzzz14Cham2Zzzz10Cham2Zzzz4",
     "Cham32Mymr67Tavt24Zzzz5Tavt23Mtei10Zzzz6Ethi2Zzzz6Ethi2Zzzz6Ethi9Zzzz7Ethi1Zzzz7Ethi1Zzzz43L",
     "atn1Zyyy9Latn1Grek4Latn2Zyyy4Zzzz80Cher46Mtei2Zzzz10Mtei6Zzzz11172Hang12Zzzz23Hang4Zzzz49Han",
     "g8452Zzzz366Hani2Zzzz106Hani38Zzzz7Latn12Zzzz5Armn5Zzzz26Hebr1Zzzz5Hebr1Zzzz1Hebr1Zzzz2Hebr1",
     "Zzzz2Hebr1Zzzz10Hebr115Arab16Zzzz363Arab2Zyyy80Arab2Zzzz54Arab7Zzzz1Arab32Zzzz16Arab16Zinh10",
     "Zyyy6Zzzz14Zinh2Cyrl35Zyyy1Zzzz19Zyyy1Zzzz4Zyyy4Zzzz5Arab1Zzzz135Arab2Zzzz1Zyyy1Zzzz32Zyyy26",
     "Latn6Zyyy26Latn11Zyyy10Kana1Zyyy45Kana2Zyyy31Hang3Zzzz6Hang2Zzzz6Hang2Zzzz6Hang2Zzzz3Hang3Zz",
     "zz7Zyyy1Zzzz7Zyyy10Zzzz5Zyyy2Zzzz12Linb1Zzzz26Linb1Zzzz19Linb1Zzzz2Linb1Zzzz15Linb2Zzzz14Lin",
     "b34Zzzz123Linb5Zzzz3Zyyy4Zzzz45Zyyy3Zzzz9Zyyy79Grek1Zzzz13Zyyy3Zzzz1Grek47Zzzz45Zyyy1Zinh130",
     "Zzzz29Lyci3Zzzz49Cari15Zzzz1Zinh27Zyyy4Zzzz36Ital9Zzzz3Ital27Goth5Zzzz43Perm5Zzzz30Ugar1Zzzz",
     "1Ugar36Xpeo4Zzzz14Xpeo42Zzzz80Dsrt48Shaw30Osma2Zzzz10Osma6Zzzz36Osge4Zzzz36Osge4Zzzz40Elba8Z",
     "zzz52Aghb11Zzzz1Aghb11Vith1Zzzz15Vith1Zzzz7Vith1Zzzz2Vith1Zzzz11Vith1Zzzz15Vith1Zzzz7Vith1Zz",
     "zz2Vith67Zzzz311Lina9Zzzz22Lina10Zzzz8Lina24Zzzz6Latn1Zzzz42Latn1Zzzz9Latn69Zzzz6Cprt2Zzzz1C",
     "prt1Zzzz44Cprt1Zzzz2Cprt3Zzzz1Cprt2Zzzz1Cprt22Armi1Zzzz9Armi32Palm31Nbat8Zzzz9Nbat48Zzzz19Ha",
     "tr1Zzzz2Hatr5Zzzz5Hatr28Phnx3Zzzz1Phnx26Lydi5Zzzz1Lydi64Zzzz32Mero24Merc4Zzzz20Merc2Zzzz46Me",
     "rc4Khar1Zzzz2Khar5Zzzz8Khar1Zzzz3Khar1Zzzz29Khar2Zzzz3Khar4Zzzz10Khar7Zzzz9Khar7Zzzz32Sarb32",
     "Narb32Zzzz39Mani4Zzzz12Mani9Zzzz54Avst3Zzzz7Avst22Prti2Zzzz8Prti19Phli5Zzzz8Phli18Phlp7Zzzz4",
     "Phlp12Zzzz7Phlp80Zzzz73Orkh55Zzzz51Hung13Zzzz51Hung7Zzzz6Hung40Rohg8Zzzz10Rohg294Zzzz31Arab1",
     "Zzzz42Yezi1Zzzz3Yezi2Zzzz2Yezi75Zzzz3Arab40Sogo8Zzzz42Sogd22Zzzz26Ougr38Zzzz28Chrs20Zzzz23El",
     "ym9Zzzz78Brah4Zzzz36Brah9Zzzz1Brah67Kthi10Zzzz1Kthi2Zzzz25Sora7Zzzz10Sora6Zzzz53Cakm1Zzzz18C",
     "akm8Zzzz39Mahj9Zzzz96Shrd1Zzzz20Sinh11Zzzz18Khoj1Zzzz47Khoj62Zzzz7Mult1Zzzz1Mult1Zzzz4Mult1Z",
     "zzz15Mult1Zzzz11Mult6Zzzz59Sind5Zzzz10Sind6Zzzz4Gran1Zzzz8Gran2Zzzz2Gran2Zzzz22Gran1Zzzz7Gra",
     "n1Zzzz2Gran1Zzzz5Gran1Zzzz1Zinh9Gran2Zzzz2Gran2Zzzz3Gran2Zzzz1Gran6Zzzz1Gran5Zzzz7Gran2Zzzz7",
     "Gran3Zzzz5Gran139Zzzz92Newa1Zzzz5Newa30Zzzz72Tirh8Zzzz10Tirh166Zzzz54Sidd2Zzzz38Sidd34Zzzz69",
     "Modi11Zzzz10Modi6Zzzz13Mong19Zzzz58Takr6Zzzz10Takr54Zzzz27Ahom2Zzzz15Ahom4Zzzz23Ahom185Zzzz6",
     "0Dogr100Zzzz83Wara12Zzzz1Wara7Diak2Zzzz1Diak2Zzzz8Diak1Zzzz2Diak1Zzzz30Diak1Zzzz2Diak2Zzzz12",
     "Diak9Zzzz10Diak70Zzzz8Nand2Zzzz46Nand2Zzzz11Nand27Zzzz72Zanb8Zzzz83Soyo13Zzzz16Cans57Pauc7Zz",
     "zz10Deva246Zzzz9Bhks1Zzzz45Bhks1Zzzz14Bhks10Zzzz29Bhks3Zzzz32Marc2Zzzz22Marc1Zzzz14Marc73Zzz",
     "z7Gonm1Zzzz2Gonm1Zzzz44Gonm3Zzzz1Gonm1Zzzz2Gonm1Zzzz9Gonm8Zzzz10Gonm6Zzzz6Gong1Zzzz2Gong1Zzz",
     "z37Gong1Zzzz2Gong1Zzzz6Gong7Zzzz10Gong310Zzzz25Maka7Zzzz17Kawi1Zzzz41Kawi3Zzzz28Kawi86Zzzz1L",
     "isu15Zzzz50Taml13Zzzz1Taml922Xsux102Zzzz111Xsux1Zzzz5Xsux11Zzzz196Xsux2636Zzzz99Cpmn13Zzzz11",
     "10Egyp4010Zzzz583Hluw8633Zzzz569Bamu7Zzzz31Mroo1Zzzz10Mroo4Zzzz2Mroo79Tnsa1Zzzz10Tnsa6Zzzz30",
     "Bass2Zzzz6Bass10Zzzz70Hmng10Zzzz10Hmng1Zzzz7Hmng1Zzzz21Hmng5Zzzz19Hmng688Zzzz91Medf101Zzzz75",
     "Plrd4Zzzz57Plrd7Zzzz17Plrd64Zzzz1Tang1Nshu2Hani1Kits11Zzzz2Hani14Zzzz6136Tang8Zzzz768Tang470",
     "Kits42Zzzz9Tang8935Zzzz4Kana1Zzzz7Kana1Zzzz2Kana1Zzzz1Kana287Hira3Kana15Zzzz1Hira29Zzzz3Hira",
     "2Zzzz1Kana14Zzzz4Kana8Zzzz396Nshu2308Zzzz107Dupl5Zzzz13Dupl3Zzzz9Dupl7Zzzz10Dupl2Zzzz4Dupl4Z",
     "yyy4700Zzzz46Zinh2Zzzz23Zinh9Zzzz116Zyyy60Zzzz246Zyyy10Zzzz39Zyyy2Zzzz62Zyyy3Zinh17Zyyy8Zinh",
     "2Zyyy7Zinh30Zyyy4Zinh61Zyyy21Zzzz70Grek122Zzzz20Zyyy12Zzzz20Zyyy12Zzzz87Zyyy9Zzzz25Zyyy135Zz",
     "zz85Zyyy1Zzzz71Zyyy1Zzzz2Zyyy2Zzzz1Zyyy2Zzzz2Zyyy2Zzzz4Zyyy1Zzzz12Zyyy1Zzzz1Zyyy1Zzzz7Zyyy1Z",
     "zzz65Zyyy1Zzzz4Zyyy2Zzzz8Zyyy1Zzzz7Zyyy1Zzzz28Zyyy1Zzzz4Zyyy1Zzzz5Zyyy1Zzzz1Zyyy3Zzzz7Zyyy1Z",
     "zzz340Zyyy2Zzzz292Zyyy2Zzzz50Zyyy652Sgnw15Zzzz5Sgnw1Zzzz15Sgnw1104Zzzz31Latn6Zzzz6Latn213Zzz",
     "z7Glag1Zzzz17Glag2Zzzz7Glag1Zzzz2Glag1Zzzz5Glag5Zzzz62Cyrl33Zzzz1Cyrl112Zzzz45Hmnp3Zzzz14Hmn",
     "p2Zzzz10Hmnp4Zzzz2Hmnp320Zzzz31Toto17Zzzz58Wcho5Zzzz1Wcho464Zzzz42Nagm742Zzzz7Ethi1Zzzz4Ethi",
     "1Zzzz2Ethi1Zzzz15Ethi1Zzzz197Mend2Zzzz16Mend41Zzzz76Adlm4Zzzz10Adlm4Zzzz2Adlm785Zzzz68Zyyy76",
     "Zzzz61Zyyy194Zzzz4Arab1Zzzz27Arab1Zzzz2Arab1Zzzz1Arab2Zzzz1Arab1Zzzz10Arab1Zzzz4Arab1Zzzz1Ar",
     "ab1Zzzz1Arab6Zzzz1Arab4Zzzz1Arab1Zzzz1Arab1Zzzz1Arab1Zzzz3Arab1Zzzz2Arab1Zzzz1Arab2Zzzz1Arab",
     "1Zzzz1Arab1Zzzz1Arab1Zzzz1Arab1Zzzz1Arab1Zzzz2Arab1Zzzz1Arab2Zzzz4Arab1Zzzz7Arab1Zzzz4Arab1Z",
     "zzz4Arab1Zzzz1Arab1Zzzz10Arab1Zzzz17Arab5Zzzz3Arab1Zzzz5Arab1Zzzz17Arab52Zzzz2Arab270Zzzz44Z",
     "yyy4Zzzz100Zyyy12Zzzz15Zyyy2Zzzz15Zyyy1Zzzz15Zyyy1Zzzz37Zyyy10Zzzz174Zyyy56Zzzz26Zyyy1Hira2Z",
     "yyy13Zzzz44Zyyy4Zzzz9Zyyy7Zzzz2Zyyy14Zzzz6Zyyy154Zzzz984Zyyy4Zzzz17Zyyy3Zzzz13Zyyy3Zzzz119Zy",
     "yy4Zzzz95Zyyy6Zzzz12Zyyy4Zzzz1Zyyy15Zzzz12Zyyy4Zzzz56Zyyy8Zzzz10Zyyy6Zzzz40Zyyy8Zzzz30Zyyy2Z",
     "zzz2Zyyy78Zzzz340Zyyy12Zzzz14Zyyy2Zzzz13Zyyy3Zzzz9Zyyy7Zzzz46Zyyy1Zzzz7Zyyy8Zzzz14Zyyy4Zzzz9",
     "Zyyy7Zzzz9Zyyy7Zzzz147Zyyy1Zzzz55Zyyy37Zzzz10Zyyy1030Zzzz42720Hani32Zzzz4154Hani6Zzzz222Hani",
     "2Zzzz5762Hani14Zzzz7473Hani3103Zzzz542Hani1506Zzzz4939Hani5Zzzz4192Hani711761Zzzz1Zyyy30Zzzz",
     "96Zyyy128Zzzz240Zinh196112Zzzz"]

def scriptRuns : List (Nat × String) := readRuns 0 [] scriptTable.toList

def script (c : Char) : String := (valueAt c.toNat scriptRuns).getD "Zzzz"

/-- The names of each script, without case and word marks. -/
def scriptNames : List (String × List String) :=
  [("Adlm", ["adlam", "adlm"]),
   ("Ahom", ["ahom"]),
   ("Hluw", ["anatolianhieroglyphs", "hluw"]),
   ("Arab", ["arab", "arabic"]),
   ("Armn", ["armenian", "armn"]),
   ("Avst", ["avestan", "avst"]),
   ("Bali", ["bali", "balinese"]),
   ("Bamu", ["bamu", "bamum"]),
   ("Bass", ["bass", "bassavah"]),
   ("Batk", ["batak", "batk"]),
   ("Beng", ["beng", "bengali"]),
   ("Bhks", ["bhaiksuki", "bhks"]),
   ("Bopo", ["bopo", "bopomofo"]),
   ("Brah", ["brah", "brahmi"]),
   ("Brai", ["brai", "braille"]),
   ("Bugi", ["bugi", "buginese"]),
   ("Buhd", ["buhd", "buhid"]),
   ("Cans", ["canadianaboriginal", "cans"]),
   ("Cari", ["cari", "carian"]),
   ("Aghb", ["aghb", "caucasianalbanian"]),
   ("Cakm", ["cakm", "chakma"]),
   ("Cham", ["cham"]),
   ("Cher", ["cher", "cherokee"]),
   ("Chrs", ["chorasmian", "chrs"]),
   ("Zyyy", ["common", "zyyy"]),
   ("Copt", ["copt", "coptic", "qaac"]),
   ("Xsux", ["cuneiform", "xsux"]),
   ("Cprt", ["cprt", "cypriot"]),
   ("Cpmn", ["cpmn", "cyprominoan"]),
   ("Cyrl", ["cyrillic", "cyrl"]),
   ("Dsrt", ["deseret", "dsrt"]),
   ("Deva", ["deva", "devanagari"]),
   ("Diak", ["diak", "divesakuru"]),
   ("Dogr", ["dogr", "dogra"]),
   ("Dupl", ["dupl", "duployan"]),
   ("Egyp", ["egyp", "egyptianhieroglyphs"]),
   ("Elba", ["elba", "elbasan"]),
   ("Elym", ["elym", "elymaic"]),
   ("Ethi", ["ethi", "ethiopic"]),
   ("Geor", ["geor", "georgian"]),
   ("Glag", ["glag", "glagolitic"]),
   ("Goth", ["goth", "gothic"]),
   ("Gran", ["gran", "grantha"]),
   ("Grek", ["greek", "grek"]),
   ("Gujr", ["gujarati", "gujr"]),
   ("Gong", ["gong", "gunjalagondi"]),
   ("Guru", ["gurmukhi", "guru"]),
   ("Hani", ["han", "hani"]),
   ("Hang", ["hang", "hangul"]),
   ("Rohg", ["hanifirohingya", "rohg"]),
   ("Hano", ["hano", "hanunoo"]),
   ("Hatr", ["hatr", "hatran"]),
   ("Hebr", ["hebr", "hebrew"]),
   ("Hira", ["hira", "hiragana"]),
   ("Armi", ["armi", "imperialaramaic"]),
   ("Zinh", ["inherited", "qaai", "zinh"]),
   ("Phli", ["inscriptionalpahlavi", "phli"]),
   ("Prti", ["inscriptionalparthian", "prti"]),
   ("Java", ["java", "javanese"]),
   ("Kthi", ["kaithi", "kthi"]),
   ("Knda", ["kannada", "knda"]),
   ("Kana", ["kana", "katakana"]),
   ("Kawi", ["kawi"]),
   ("Kali", ["kali", "kayahli"]),
   ("Khar", ["khar", "kharoshthi"]),
   ("Kits", ["khitansmallscript", "kits"]),
   ("Khmr", ["khmer", "khmr"]),
   ("Khoj", ["khoj", "khojki"]),
   ("Sind", ["khudawadi", "sind"]),
   ("Laoo", ["lao", "laoo"]),
   ("Latn", ["latin", "latn"]),
   ("Lepc", ["lepc", "lepcha"]),
   ("Limb", ["limb", "limbu"]),
   ("Lina", ["lina", "lineara"]),
   ("Linb", ["linb", "linearb"]),
   ("Lisu", ["lisu"]),
   ("Lyci", ["lyci", "lycian"]),
   ("Lydi", ["lydi", "lydian"]),
   ("Mahj", ["mahajani", "mahj"]),
   ("Maka", ["maka", "makasar"]),
   ("Mlym", ["malayalam", "mlym"]),
   ("Mand", ["mand", "mandaic"]),
   ("Mani", ["mani", "manichaean"]),
   ("Marc", ["marc", "marchen"]),
   ("Gonm", ["gonm", "masaramgondi"]),
   ("Medf", ["medefaidrin", "medf"]),
   ("Mtei", ["meeteimayek", "mtei"]),
   ("Mend", ["mend", "mendekikakui"]),
   ("Merc", ["merc", "meroiticcursive"]),
   ("Mero", ["mero", "meroitichieroglyphs"]),
   ("Plrd", ["miao", "plrd"]),
   ("Modi", ["modi"]),
   ("Mong", ["mong", "mongolian"]),
   ("Mroo", ["mro", "mroo"]),
   ("Mult", ["mult", "multani"]),
   ("Mymr", ["myanmar", "mymr"]),
   ("Nbat", ["nabataean", "nbat"]),
   ("Nagm", ["nagm", "nagmundari"]),
   ("Nand", ["nand", "nandinagari"]),
   ("Talu", ["newtailue", "talu"]),
   ("Newa", ["newa"]),
   ("Nkoo", ["nko", "nkoo"]),
   ("Nshu", ["nshu", "nushu"]),
   ("Hmnp", ["hmnp", "nyiakengpuachuehmong"]),
   ("Ogam", ["ogam", "ogham"]),
   ("Olck", ["olchiki", "olck"]),
   ("Hung", ["hung", "oldhungarian"]),
   ("Ital", ["ital", "olditalic"]),
   ("Narb", ["narb", "oldnortharabian"]),
   ("Perm", ["oldpermic", "perm"]),
   ("Xpeo", ["oldpersian", "xpeo"]),
   ("Sogo", ["oldsogdian", "sogo"]),
   ("Sarb", ["oldsoutharabian", "sarb"]),
   ("Orkh", ["oldturkic", "orkh"]),
   ("Ougr", ["olduyghur", "ougr"]),
   ("Orya", ["oriya", "orya"]),
   ("Osge", ["osage", "osge"]),
   ("Osma", ["osma", "osmanya"]),
   ("Hmng", ["hmng", "pahawhhmong"]),
   ("Palm", ["palm", "palmyrene"]),
   ("Pauc", ["pauc", "paucinhau"]),
   ("Phag", ["phag", "phagspa"]),
   ("Phnx", ["phnx", "phoenician"]),
   ("Phlp", ["phlp", "psalterpahlavi"]),
   ("Rjng", ["rejang", "rjng"]),
   ("Runr", ["runic", "runr"]),
   ("Samr", ["samaritan", "samr"]),
   ("Saur", ["saur", "saurashtra"]),
   ("Shrd", ["sharada", "shrd"]),
   ("Shaw", ["shavian", "shaw"]),
   ("Sidd", ["sidd", "siddham"]),
   ("Sgnw", ["sgnw", "signwriting"]),
   ("Sinh", ["sinh", "sinhala"]),
   ("Sogd", ["sogd", "sogdian"]),
   ("Sora", ["sora", "sorasompeng"]),
   ("Soyo", ["soyo", "soyombo"]),
   ("Sund", ["sund", "sundanese"]),
   ("Sylo", ["sylo", "sylotinagri"]),
   ("Syrc", ["syrc", "syriac"]),
   ("Tglg", ["tagalog", "tglg"]),
   ("Tagb", ["tagb", "tagbanwa"]),
   ("Tale", ["taile", "tale"]),
   ("Lana", ["lana", "taitham"]),
   ("Tavt", ["taiviet", "tavt"]),
   ("Takr", ["takr", "takri"]),
   ("Taml", ["tamil", "taml"]),
   ("Tnsa", ["tangsa", "tnsa"]),
   ("Tang", ["tang", "tangut"]),
   ("Telu", ["telu", "telugu"]),
   ("Thaa", ["thaa", "thaana"]),
   ("Thai", ["thai"]),
   ("Tibt", ["tibetan", "tibt"]),
   ("Tfng", ["tfng", "tifinagh"]),
   ("Tirh", ["tirh", "tirhuta"]),
   ("Toto", ["toto"]),
   ("Ugar", ["ugar", "ugaritic"]),
   ("Zzzz", ["unknown", "zzzz"]),
   ("Vaii", ["vai", "vaii"]),
   ("Vith", ["vith", "vithkuqi"]),
   ("Wcho", ["wancho", "wcho"]),
   ("Wara", ["wara", "warangciti"]),
   ("Yezi", ["yezi", "yezidi"]),
   ("Yiii", ["yi", "yiii"]),
   ("Zanb", ["zanabazarsquare", "zanb"])]

def scriptNamed (name : String) : Option String :=
  (scriptNames.find? (·.2.contains name)).map (·.1)

end Profiling.Unicode
