import DocumentMigration.Text.Blank
import DocumentMigration.Text.Runs

/-!
The script of every character, by its four-letter code, and the other scripts that use it.
-/
namespace DocumentMigration.Text.Script

/-- The names of the scripts, the code of each coming first. Names are in lower case, without the
marks between their words. -/
def names : List (List String) :=
  [["adlm", "adlam"], ["aghb", "caucasianalbanian"], ["ahom"], ["arab", "arabic"],
   ["armi", "imperialaramaic"], ["armn", "armenian"], ["avst", "avestan"], ["bali", "balinese"],
   ["bamu", "bamum"], ["bass", "bassavah"], ["batk", "batak"], ["beng", "bengali"],
   ["bhks", "bhaiksuki"], ["bopo", "bopomofo"], ["brah", "brahmi"], ["brai", "braille"],
   ["bugi", "buginese"], ["buhd", "buhid"], ["cakm", "chakma"], ["cans", "canadianaboriginal"],
   ["cari", "carian"], ["cham"], ["cher", "cherokee"], ["chrs", "chorasmian"],
   ["copt", "coptic", "qaac"], ["cpmn", "cyprominoan"], ["cprt", "cypriot"], ["cyrl", "cyrillic"],
   ["deva", "devanagari"], ["diak", "divesakuru"], ["dogr", "dogra"], ["dsrt", "deseret"],
   ["dupl", "duployan"], ["egyp", "egyptianhieroglyphs"], ["elba", "elbasan"],
   ["elym", "elymaic"], ["ethi", "ethiopic"], ["geor", "georgian"], ["glag", "glagolitic"],
   ["gong", "gunjalagondi"], ["gonm", "masaramgondi"], ["goth", "gothic"], ["gran", "grantha"],
   ["grek", "greek"], ["gujr", "gujarati"], ["guru", "gurmukhi"], ["hang", "hangul"],
   ["hani", "han"], ["hano", "hanunoo"], ["hatr", "hatran"], ["hebr", "hebrew"],
   ["hira", "hiragana"], ["hluw", "anatolianhieroglyphs"], ["hmng", "pahawhhmong"],
   ["hmnp", "nyiakengpuachuehmong"], ["hung", "oldhungarian"], ["ital", "olditalic"],
   ["java", "javanese"], ["kali", "kayahli"], ["kana", "katakana"], ["kawi"],
   ["khar", "kharoshthi"], ["khmr", "khmer"], ["khoj", "khojki"], ["kits", "khitansmallscript"],
   ["knda", "kannada"], ["kthi", "kaithi"], ["lana", "taitham"], ["laoo", "lao"],
   ["latn", "latin"], ["lepc", "lepcha"], ["limb", "limbu"], ["lina", "lineara"],
   ["linb", "linearb"], ["lisu"], ["lyci", "lycian"], ["lydi", "lydian"], ["mahj", "mahajani"],
   ["maka", "makasar"], ["mand", "mandaic"], ["mani", "manichaean"], ["marc", "marchen"],
   ["medf", "medefaidrin"], ["mend", "mendekikakui"], ["merc", "meroiticcursive"],
   ["mero", "meroitichieroglyphs"], ["mlym", "malayalam"], ["modi"], ["mong", "mongolian"],
   ["mroo", "mro"], ["mtei", "meeteimayek"], ["mult", "multani"], ["mymr", "myanmar"],
   ["nagm", "nagmundari"], ["nand", "nandinagari"], ["narb", "oldnortharabian"],
   ["nbat", "nabataean"], ["newa"], ["nkoo", "nko"], ["nshu", "nushu"], ["ogam", "ogham"],
   ["olck", "olchiki"], ["orkh", "oldturkic"], ["orya", "oriya"], ["osge", "osage"],
   ["osma", "osmanya"], ["ougr", "olduyghur"], ["palm", "palmyrene"], ["pauc", "paucinhau"],
   ["perm", "oldpermic"], ["phag", "phagspa"], ["phli", "inscriptionalpahlavi"],
   ["phlp", "psalterpahlavi"], ["phnx", "phoenician"], ["plrd", "miao"],
   ["prti", "inscriptionalparthian"], ["rjng", "rejang"], ["rohg", "hanifirohingya"],
   ["runr", "runic"], ["samr", "samaritan"], ["sarb", "oldsoutharabian"], ["saur", "saurashtra"],
   ["sgnw", "signwriting"], ["shaw", "shavian"], ["shrd", "sharada"], ["sidd", "siddham"],
   ["sind", "khudawadi"], ["sinh", "sinhala"], ["sogd", "sogdian"], ["sogo", "oldsogdian"],
   ["sora", "sorasompeng"], ["soyo", "soyombo"], ["sund", "sundanese"], ["sylo", "sylotinagri"],
   ["syrc", "syriac"], ["tagb", "tagbanwa"], ["takr", "takri"], ["tale", "taile"],
   ["talu", "newtailue"], ["taml", "tamil"], ["tang", "tangut"], ["tavt", "taiviet"],
   ["telu", "telugu"], ["tfng", "tifinagh"], ["tglg", "tagalog"], ["thaa", "thaana"], ["thai"],
   ["tibt", "tibetan"], ["tirh", "tirhuta"], ["tnsa", "tangsa"], ["toto"], ["ugar", "ugaritic"],
   ["vaii", "vai"], ["vith", "vithkuqi"], ["wara", "warangciti"], ["wcho", "wancho"],
   ["xpeo", "oldpersian"], ["xsux", "cuneiform"], ["yezi", "yezidi"], ["yiii", "yi"],
   ["zanb", "zanabazarsquare"], ["zinh", "inherited", "qaai"], ["zyyy", "common"]]

def ofName? (name : String) : Option String :=
  (names.find? (·.contains name)).bind (·.head?)

/-- The scripts by code point. -/
def table : Runs String := Runs.read (fun tag => some (lowerAscii tag))
  ["65Zyyy26Latn6Zyyy26Latn47Zyyy1Latn15Zyyy1Latn5Zyyy23Latn1Zyyy31Latn1Zyyy449Latn39Zyyy5Latn",
    "5Zyyy2Bopo20Zyyy112Zinh4Grek1Zyyy3Grek2Zzzz4Grek1Zyyy1Grek4Zzzz1Grek1Zyyy1Grek1Zyyy3Grek",
    "1Zzzz1Grek1Zzzz20Grek1Zzzz63Grek14Copt16Grek133Cyrl2Zinh169Cyrl1Zzzz38Armn2Zzzz50Armn2Zzzz",
    "3Armn1Zzzz55Hebr8Zzzz27Hebr4Zzzz6Hebr11Zzzz5Arab1Zyyy6Arab1Zyyy14Arab1Zyyy3Arab1Zyyy32Arab",
    "1Zyyy10Arab11Zinh26Arab1Zinh108Arab1Zyyy34Arab14Syrc1Zzzz60Syrc2Zzzz3Syrc48Arab50Thaa",
    "14Zzzz59Nkoo2Zzzz3Nkoo46Samr2Zzzz15Samr1Zzzz28Mand2Zzzz1Mand1Zzzz11Syrc5Zzzz31Arab1Zzzz",
    "2Arab6Zzzz74Arab1Zyyy29Arab81Deva4Zinh15Deva2Zyyy26Deva4Beng1Zzzz8Beng2Zzzz2Beng2Zzzz",
    "22Beng1Zzzz7Beng1Zzzz1Beng3Zzzz4Beng2Zzzz9Beng2Zzzz2Beng2Zzzz4Beng8Zzzz1Beng4Zzzz2Beng",
    "1Zzzz5Beng2Zzzz25Beng2Zzzz3Guru1Zzzz6Guru4Zzzz2Guru2Zzzz22Guru1Zzzz7Guru1Zzzz2Guru1Zzzz",
    "2Guru1Zzzz2Guru2Zzzz1Guru1Zzzz5Guru4Zzzz2Guru2Zzzz3Guru3Zzzz1Guru7Zzzz4Guru1Zzzz1Guru7Zzzz",
    "17Guru10Zzzz3Gujr1Zzzz9Gujr1Zzzz3Gujr1Zzzz22Gujr1Zzzz7Gujr1Zzzz2Gujr1Zzzz5Gujr2Zzzz10Gujr",
    "1Zzzz3Gujr1Zzzz3Gujr2Zzzz1Gujr15Zzzz4Gujr2Zzzz12Gujr7Zzzz7Gujr1Zzzz3Orya1Zzzz8Orya2Zzzz",
    "2Orya2Zzzz22Orya1Zzzz7Orya1Zzzz2Orya1Zzzz5Orya2Zzzz9Orya2Zzzz2Orya2Zzzz3Orya7Zzzz3Orya",
    "4Zzzz2Orya1Zzzz5Orya2Zzzz18Orya10Zzzz2Taml1Zzzz6Taml3Zzzz3Taml1Zzzz4Taml3Zzzz2Taml1Zzzz",
    "1Taml1Zzzz2Taml3Zzzz2Taml3Zzzz3Taml3Zzzz12Taml4Zzzz5Taml3Zzzz3Taml1Zzzz4Taml2Zzzz1Taml",
    "6Zzzz1Taml14Zzzz21Taml5Zzzz13Telu1Zzzz3Telu1Zzzz23Telu1Zzzz16Telu2Zzzz9Telu1Zzzz3Telu1Zzzz",
    "4Telu7Zzzz2Telu1Zzzz3Telu2Zzzz1Telu2Zzzz4Telu2Zzzz10Telu7Zzzz9Telu13Knda1Zzzz3Knda1Zzzz",
    "23Knda1Zzzz10Knda1Zzzz5Knda2Zzzz9Knda1Zzzz3Knda1Zzzz4Knda7Zzzz2Knda6Zzzz2Knda1Zzzz4Knda",
    "2Zzzz10Knda1Zzzz3Knda12Zzzz13Mlym1Zzzz3Mlym1Zzzz51Mlym1Zzzz3Mlym1Zzzz6Mlym4Zzzz16Mlym2Zzzz",
    "26Mlym1Zzzz3Sinh1Zzzz18Sinh3Zzzz24Sinh1Zzzz9Sinh1Zzzz1Sinh2Zzzz7Sinh3Zzzz1Sinh4Zzzz6Sinh",
    "1Zzzz1Sinh1Zzzz8Sinh6Zzzz10Sinh2Zzzz3Sinh12Zzzz58Thai4Zzzz1Zyyy28Thai37Zzzz2Laoo1Zzzz1Laoo",
    "1Zzzz5Laoo1Zzzz24Laoo1Zzzz1Laoo1Zzzz23Laoo2Zzzz5Laoo1Zzzz1Laoo1Zzzz7Laoo1Zzzz10Laoo2Zzzz",
    "4Laoo32Zzzz72Tibt1Zzzz36Tibt4Zzzz39Tibt1Zzzz36Tibt1Zzzz15Tibt1Zzzz7Tibt4Zyyy2Tibt37Zzzz",
    "160Mymr38Geor1Zzzz1Geor5Zzzz1Geor2Zzzz43Geor1Zyyy4Geor256Hang73Ethi1Zzzz4Ethi2Zzzz7Ethi",
    "1Zzzz1Ethi1Zzzz4Ethi2Zzzz41Ethi1Zzzz4Ethi2Zzzz33Ethi1Zzzz4Ethi2Zzzz7Ethi1Zzzz1Ethi1Zzzz",
    "4Ethi2Zzzz15Ethi1Zzzz57Ethi1Zzzz4Ethi2Zzzz67Ethi2Zzzz32Ethi3Zzzz26Ethi6Zzzz86Cher2Zzzz",
    "6Cher2Zzzz640Cans29Ogam3Zzzz75Runr3Zyyy11Runr7Zzzz22Tglg9Zzzz1Tglg21Hano2Zyyy9Zzzz20Buhd",
    "12Zzzz13Tagb1Zzzz3Tagb1Zzzz2Tagb12Zzzz94Khmr2Zzzz10Khmr6Zzzz10Khmr6Zzzz2Mong2Zyyy1Mong",
    "1Zyyy20Mong6Zzzz89Mong7Zzzz43Mong5Zzzz70Cans10Zzzz31Limb1Zzzz12Limb4Zzzz12Limb4Zzzz1Limb",
    "3Zzzz12Limb30Tale2Zzzz5Tale11Zzzz44Talu4Zzzz26Talu6Zzzz11Talu3Zzzz2Talu32Khmr28Bugi2Zzzz",
    "2Bugi63Lana1Zzzz29Lana2Zzzz11Lana6Zzzz10Lana6Zzzz14Lana2Zzzz31Zinh49Zzzz77Bali3Zzzz47Bali",
    "1Zzzz64Sund52Batk8Zzzz4Batk56Lepc3Zzzz15Lepc3Zzzz3Lepc48Olck9Cyrl7Zzzz43Geor2Zzzz3Geor",
    "8Sund8Zzzz3Zinh1Zyyy13Zinh1Zyyy7Zinh4Zyyy1Zinh6Zyyy1Zinh3Zyyy2Zinh1Zyyy5Zzzz38Latn5Grek",
    "1Cyrl49Latn5Grek4Latn5Grek13Latn1Cyrl70Latn1Grek64Zinh256Latn22Grek2Zzzz6Grek2Zzzz38Grek",
    "2Zzzz6Grek2Zzzz8Grek1Zzzz1Grek1Zzzz1Grek1Zzzz1Grek1Zzzz31Grek2Zzzz53Grek1Zzzz15Grek1Zzzz",
    "14Grek2Zzzz6Grek1Zzzz19Grek2Zzzz3Grek1Zzzz9Grek1Zzzz12Zyyy2Zinh87Zyyy1Zzzz11Zyyy1Latn2Zzzz",
    "11Zyyy1Latn15Zyyy1Zzzz13Latn3Zzzz33Zyyy15Zzzz33Zinh15Zzzz38Zyyy1Grek3Zyyy2Latn6Zyyy1Latn",
    "27Zyyy1Latn17Zyyy41Latn3Zyyy4Zzzz663Zyyy25Zzzz11Zyyy21Zzzz928Zyyy256Brai628Zyyy2Zzzz32Zyyy",
    "1Zzzz105Zyyy96Glag32Latn116Copt5Zzzz7Copt38Geor1Zzzz1Geor5Zzzz1Geor2Zzzz56Tfng7Zzzz2Tfng",
    "14Zzzz1Tfng23Ethi9Zzzz7Ethi1Zzzz7Ethi1Zzzz7Ethi1Zzzz7Ethi1Zzzz7Ethi1Zzzz7Ethi1Zzzz7Ethi",
    "1Zzzz7Ethi1Zzzz32Cyrl94Zyyy34Zzzz26Hani1Zzzz89Hani12Zzzz214Hani26Zzzz12Zyyy4Zzzz5Zyyy1Hani",
    "1Zyyy1Hani25Zyyy9Hani4Zinh2Hang8Zyyy4Hani4Zyyy1Zzzz86Hira2Zzzz2Zinh2Zyyy3Hira1Zyyy90Kana",
    "2Zyyy3Kana5Zzzz43Bopo1Zzzz94Hang1Zzzz16Zyyy32Bopo36Zyyy12Zzzz16Kana31Hang1Zzzz64Zyyy31Hang",
    "81Zyyy47Kana1Zyyy88Kana168Zyyy6592Hani64Zyyy20992Hani1165Yiii3Zzzz55Yiii9Zzzz48Lisu300Vaii",
    "20Zzzz96Cyrl88Bamu8Zzzz34Zyyy102Latn3Zyyy64Latn5Zzzz2Latn1Zzzz1Latn1Zzzz5Latn24Zzzz14Latn",
    "45Sylo3Zzzz10Zyyy6Zzzz56Phag8Zzzz70Saur8Zzzz12Saur6Zzzz32Deva46Kali1Zyyy1Kali36Rjng11Zzzz",
    "1Rjng29Hang3Zzzz78Java1Zzzz1Zyyy10Java4Zzzz2Java31Mymr1Zzzz55Cham9Zzzz14Cham2Zzzz10Cham",
    "2Zzzz4Cham32Mymr67Tavt24Zzzz5Tavt23Mtei10Zzzz6Ethi2Zzzz6Ethi2Zzzz6Ethi9Zzzz7Ethi1Zzzz7Ethi",
    "1Zzzz43Latn1Zyyy9Latn1Grek4Latn2Zyyy4Zzzz80Cher46Mtei2Zzzz10Mtei6Zzzz11172Hang12Zzzz23Hang",
    "4Zzzz49Hang8452Zzzz366Hani2Zzzz106Hani38Zzzz7Latn12Zzzz5Armn5Zzzz26Hebr1Zzzz5Hebr1Zzzz",
    "1Hebr1Zzzz2Hebr1Zzzz2Hebr1Zzzz10Hebr115Arab16Zzzz363Arab2Zyyy80Arab2Zzzz54Arab7Zzzz1Arab",
    "32Zzzz16Arab16Zinh10Zyyy6Zzzz14Zinh2Cyrl35Zyyy1Zzzz19Zyyy1Zzzz4Zyyy4Zzzz5Arab1Zzzz135Arab",
    "2Zzzz1Zyyy1Zzzz32Zyyy26Latn6Zyyy26Latn11Zyyy10Kana1Zyyy45Kana2Zyyy31Hang3Zzzz6Hang2Zzzz",
    "6Hang2Zzzz6Hang2Zzzz3Hang3Zzzz7Zyyy1Zzzz7Zyyy10Zzzz5Zyyy2Zzzz12Linb1Zzzz26Linb1Zzzz19Linb",
    "1Zzzz2Linb1Zzzz15Linb2Zzzz14Linb34Zzzz123Linb5Zzzz3Zyyy4Zzzz45Zyyy3Zzzz9Zyyy79Grek1Zzzz",
    "13Zyyy3Zzzz1Grek47Zzzz45Zyyy1Zinh130Zzzz29Lyci3Zzzz49Cari15Zzzz1Zinh27Zyyy4Zzzz36Ital9Zzzz",
    "3Ital27Goth5Zzzz43Perm5Zzzz30Ugar1Zzzz1Ugar36Xpeo4Zzzz14Xpeo42Zzzz80Dsrt48Shaw30Osma2Zzzz",
    "10Osma6Zzzz36Osge4Zzzz36Osge4Zzzz40Elba8Zzzz52Aghb11Zzzz1Aghb11Vith1Zzzz15Vith1Zzzz7Vith",
    "1Zzzz2Vith1Zzzz11Vith1Zzzz15Vith1Zzzz7Vith1Zzzz2Vith67Zzzz311Lina9Zzzz22Lina10Zzzz8Lina",
    "24Zzzz6Latn1Zzzz42Latn1Zzzz9Latn69Zzzz6Cprt2Zzzz1Cprt1Zzzz44Cprt1Zzzz2Cprt3Zzzz1Cprt2Zzzz",
    "1Cprt22Armi1Zzzz9Armi32Palm31Nbat8Zzzz9Nbat48Zzzz19Hatr1Zzzz2Hatr5Zzzz5Hatr28Phnx3Zzzz",
    "1Phnx26Lydi5Zzzz1Lydi64Zzzz32Mero24Merc4Zzzz20Merc2Zzzz46Merc4Khar1Zzzz2Khar5Zzzz8Khar",
    "1Zzzz3Khar1Zzzz29Khar2Zzzz3Khar4Zzzz10Khar7Zzzz9Khar7Zzzz32Sarb32Narb32Zzzz39Mani4Zzzz",
    "12Mani9Zzzz54Avst3Zzzz7Avst22Prti2Zzzz8Prti19Phli5Zzzz8Phli18Phlp7Zzzz4Phlp12Zzzz7Phlp",
    "80Zzzz73Orkh55Zzzz51Hung13Zzzz51Hung7Zzzz6Hung40Rohg8Zzzz10Rohg294Zzzz31Arab1Zzzz42Yezi",
    "1Zzzz3Yezi2Zzzz2Yezi75Zzzz3Arab40Sogo8Zzzz42Sogd22Zzzz26Ougr38Zzzz28Chrs20Zzzz23Elym9Zzzz",
    "78Brah4Zzzz36Brah9Zzzz1Brah67Kthi10Zzzz1Kthi2Zzzz25Sora7Zzzz10Sora6Zzzz53Cakm1Zzzz18Cakm",
    "8Zzzz39Mahj9Zzzz96Shrd1Zzzz20Sinh11Zzzz18Khoj1Zzzz47Khoj62Zzzz7Mult1Zzzz1Mult1Zzzz4Mult",
    "1Zzzz15Mult1Zzzz11Mult6Zzzz59Sind5Zzzz10Sind6Zzzz4Gran1Zzzz8Gran2Zzzz2Gran2Zzzz22Gran1Zzzz",
    "7Gran1Zzzz2Gran1Zzzz5Gran1Zzzz1Zinh9Gran2Zzzz2Gran2Zzzz3Gran2Zzzz1Gran6Zzzz1Gran5Zzzz7Gran",
    "2Zzzz7Gran3Zzzz5Gran139Zzzz92Newa1Zzzz5Newa30Zzzz72Tirh8Zzzz10Tirh166Zzzz54Sidd2Zzzz38Sidd",
    "34Zzzz69Modi11Zzzz10Modi6Zzzz13Mong19Zzzz58Takr6Zzzz10Takr54Zzzz27Ahom2Zzzz15Ahom4Zzzz",
    "23Ahom185Zzzz60Dogr100Zzzz83Wara12Zzzz1Wara7Diak2Zzzz1Diak2Zzzz8Diak1Zzzz2Diak1Zzzz30Diak",
    "1Zzzz2Diak2Zzzz12Diak9Zzzz10Diak70Zzzz8Nand2Zzzz46Nand2Zzzz11Nand27Zzzz72Zanb8Zzzz83Soyo",
    "13Zzzz16Cans57Pauc7Zzzz10Deva246Zzzz9Bhks1Zzzz45Bhks1Zzzz14Bhks10Zzzz29Bhks3Zzzz32Marc",
    "2Zzzz22Marc1Zzzz14Marc73Zzzz7Gonm1Zzzz2Gonm1Zzzz44Gonm3Zzzz1Gonm1Zzzz2Gonm1Zzzz9Gonm8Zzzz",
    "10Gonm6Zzzz6Gong1Zzzz2Gong1Zzzz37Gong1Zzzz2Gong1Zzzz6Gong7Zzzz10Gong310Zzzz25Maka7Zzzz",
    "17Kawi1Zzzz41Kawi3Zzzz28Kawi86Zzzz1Lisu15Zzzz50Taml13Zzzz1Taml922Xsux102Zzzz111Xsux1Zzzz",
    "5Xsux11Zzzz196Xsux2636Zzzz99Cpmn13Zzzz1110Egyp4010Zzzz583Hluw8633Zzzz569Bamu7Zzzz31Mroo",
    "1Zzzz10Mroo4Zzzz2Mroo79Tnsa1Zzzz10Tnsa6Zzzz30Bass2Zzzz6Bass10Zzzz70Hmng10Zzzz10Hmng1Zzzz",
    "7Hmng1Zzzz21Hmng5Zzzz19Hmng688Zzzz91Medf101Zzzz75Plrd4Zzzz57Plrd7Zzzz17Plrd64Zzzz1Tang",
    "1Nshu2Hani1Kits11Zzzz2Hani14Zzzz6136Tang8Zzzz768Tang470Kits42Zzzz9Tang8935Zzzz4Kana1Zzzz",
    "7Kana1Zzzz2Kana1Zzzz1Kana287Hira3Kana15Zzzz1Hira29Zzzz3Hira2Zzzz1Kana14Zzzz4Kana8Zzzz",
    "396Nshu2308Zzzz107Dupl5Zzzz13Dupl3Zzzz9Dupl7Zzzz10Dupl2Zzzz4Dupl4Zyyy4700Zzzz46Zinh2Zzzz",
    "23Zinh9Zzzz116Zyyy60Zzzz246Zyyy10Zzzz39Zyyy2Zzzz62Zyyy3Zinh17Zyyy8Zinh2Zyyy7Zinh30Zyyy",
    "4Zinh61Zyyy21Zzzz70Grek122Zzzz20Zyyy12Zzzz20Zyyy12Zzzz87Zyyy9Zzzz25Zyyy135Zzzz85Zyyy1Zzzz",
    "71Zyyy1Zzzz2Zyyy2Zzzz1Zyyy2Zzzz2Zyyy2Zzzz4Zyyy1Zzzz12Zyyy1Zzzz1Zyyy1Zzzz7Zyyy1Zzzz65Zyyy",
    "1Zzzz4Zyyy2Zzzz8Zyyy1Zzzz7Zyyy1Zzzz28Zyyy1Zzzz4Zyyy1Zzzz5Zyyy1Zzzz1Zyyy3Zzzz7Zyyy1Zzzz",
    "340Zyyy2Zzzz292Zyyy2Zzzz50Zyyy652Sgnw15Zzzz5Sgnw1Zzzz15Sgnw1104Zzzz31Latn6Zzzz6Latn213Zzzz",
    "7Glag1Zzzz17Glag2Zzzz7Glag1Zzzz2Glag1Zzzz5Glag5Zzzz62Cyrl33Zzzz1Cyrl112Zzzz45Hmnp3Zzzz",
    "14Hmnp2Zzzz10Hmnp4Zzzz2Hmnp320Zzzz31Toto17Zzzz58Wcho5Zzzz1Wcho464Zzzz42Nagm742Zzzz7Ethi",
    "1Zzzz4Ethi1Zzzz2Ethi1Zzzz15Ethi1Zzzz197Mend2Zzzz16Mend41Zzzz76Adlm4Zzzz10Adlm4Zzzz2Adlm",
    "785Zzzz68Zyyy76Zzzz61Zyyy194Zzzz4Arab1Zzzz27Arab1Zzzz2Arab1Zzzz1Arab2Zzzz1Arab1Zzzz10Arab",
    "1Zzzz4Arab1Zzzz1Arab1Zzzz1Arab6Zzzz1Arab4Zzzz1Arab1Zzzz1Arab1Zzzz1Arab1Zzzz3Arab1Zzzz2Arab",
    "1Zzzz1Arab2Zzzz1Arab1Zzzz1Arab1Zzzz1Arab1Zzzz1Arab1Zzzz1Arab1Zzzz2Arab1Zzzz1Arab2Zzzz4Arab",
    "1Zzzz7Arab1Zzzz4Arab1Zzzz4Arab1Zzzz1Arab1Zzzz10Arab1Zzzz17Arab5Zzzz3Arab1Zzzz5Arab1Zzzz",
    "17Arab52Zzzz2Arab270Zzzz44Zyyy4Zzzz100Zyyy12Zzzz15Zyyy2Zzzz15Zyyy1Zzzz15Zyyy1Zzzz37Zyyy",
    "10Zzzz174Zyyy56Zzzz26Zyyy1Hira2Zyyy13Zzzz44Zyyy4Zzzz9Zyyy7Zzzz2Zyyy14Zzzz6Zyyy154Zzzz",
    "984Zyyy4Zzzz17Zyyy3Zzzz13Zyyy3Zzzz119Zyyy4Zzzz95Zyyy6Zzzz12Zyyy4Zzzz1Zyyy15Zzzz12Zyyy4Zzzz",
    "56Zyyy8Zzzz10Zyyy6Zzzz40Zyyy8Zzzz30Zyyy2Zzzz2Zyyy78Zzzz340Zyyy12Zzzz14Zyyy2Zzzz13Zyyy3Zzzz",
    "9Zyyy7Zzzz46Zyyy1Zzzz7Zyyy8Zzzz14Zyyy4Zzzz9Zyyy7Zzzz9Zyyy7Zzzz147Zyyy1Zzzz55Zyyy37Zzzz",
    "10Zyyy1030Zzzz42720Hani32Zzzz4154Hani6Zzzz222Hani2Zzzz5762Hani14Zzzz7473Hani3103Zzzz",
    "542Hani1506Zzzz4939Hani5Zzzz4192Hani711761Zzzz1Zyyy30Zzzz96Zyyy128Zzzz240Zinh"]

/-- Characters of several scripts, with the codes of all of them. -/
def sharedTable : Runs String := Runs.read (fun tag => some (lowerAscii tag))
  ["834-1Grek2-1Grek29-13Latn275-1CyrlPerm1CyrlGlag2CyrlLatn1CyrlGlag388-",
    "1ArabNkooRohgSyrcThaaYezi14-1ArabNkooRohgSyrcThaaYezi1ArabSyrcThaa2-",
    "1AdlmArabNkooRohgSyrcThaaYezi32-1AdlmArabMandManiOugrPhlpRohgSogdSyrc10-11ArabSyrc10-",
    "10ArabThaaYezi6-1ArabSyrc99-1ArabRohg636-",
    "1BengDevaGranGujrGuruKndaLatnMlymOryaShrdTamlTeluTirh",
    "1BengDevaGranGujrGuruKndaLatnMlymOryaTamlTeluTirh17-",
    "1BengDevaDogrGongGonmGranGujrGuruKndaMahjMlymNandOryaSindSinhSyloTakrTamlTeluTirh",
    "1BengDevaDogrGongGonmGranGujrGuruKndaLimbMahjMlymNandOryaSindSinhSyloTakrTamlTeluTirh",
    "10DevaDogrKthiMahj118-10BengCakmSylo118-10GuruMult118-10GujrKhoj246-14GranTaml242-",
    "10KndaNand848-10CakmMymrTale177-1GeorLatn1593-2BuhdHanoTagbTglg203-2MongPhag1-1MongPhag",
    "1226-1BengDevaGranKnda1Deva1BengDevaGranKnda1DevaGran1Deva2BengDeva1DevaShrd1BengDeva",
    "1DevaShrd1DevaKndaMlymOryaTamlTelu1Deva2DevaShrd2Deva1DevaShrd1BengDeva7Deva1DevaNand",
    "1BengDeva2Deva1BengDeva4Deva1BengDevaGranKndaNandOryaTeluTirh1DevaGran1DevaGranKnda",
    "2BengDeva1Beng2DevaGran1Nand197-2Grek54-1CyrlSyrc1-1Syrc564-1LatnMong192-1DevaGranLatn",
    "3410-1CyrlGlag445-2BopoHangHaniHiraKanaYiii1BopoHangHaniHiraKana2-1Hani1-",
    "10BopoHangHaniHiraKanaYiii1-1BopoHangHaniHiraKana8BopoHangHaniHiraKanaYiii",
    "4BopoHangHaniHiraKana10-4BopoHani2-1BopoHangHaniHiraKana5HiraKana1-1BopoHangHaniHiraKana4-",
    "2HaniHiraKana2Hani89-4HiraKana3-1HiraKana90-1BopoHangHaniHiraKanaYiii1HiraKana147-16Hani",
    "32-36Hani60-40Hani56-49Hani15-12Hani51-1Hani88-25Hani10-5Hani96-31Hani29296-1CyrlGlag144-",
    "8HaniLatn296-3DevaDogrGujrGuruKhojKndaKthiMahjMlymModiNandSindTakrTirh",
    "3DevaDogrGujrGuruKhojKndaKthiMahjModiNandSindTakrTirh",
    "4DevaDogrGujrGuruKhojKthiMahjModiSindTakrTirh183-1BengDeva1-1DevaTaml58-1KaliLatnMymr160-",
    "1BugiJava21358-2ArabNkoo178-1ArabThaa10-1ArabThaa71-2BopoHangHaniHiraKana282-",
    "5BopoHangHaniHiraKanaYiii10-1HiraKana45-2HiraKana352-2CpmnCprtLinb1CprtLinb4-",
    "45CprtLinaLinb3-9CprtLinb416-28ArabCopt2038-1ManiOugr2062-1GranTaml1-1GranTaml55-2GranTaml",
    "3219-2GranTaml1-1GranTaml40140-4Dupl5820-18Hani7902-2Hani"]

def of? (c : Char) : Option String := table.tag? c.toNat

def codes : Nat → List Char → List String
  | 0, _ => []
  | _, [] => []
  | fuel + 1, cs => String.ofList (cs.take 4) :: codes fuel (cs.drop 4)

/-- All scripts that a character is written in. -/
def uses (c : Char) : List String :=
  match sharedTable.tag? c.toNat with
  | some tag => if tag = "-" then (of? c).toList else codes tag.length tag.toList
  | none => (of? c).toList

end DocumentMigration.Text.Script
