import Fieldwise.Unicode.RunTable

/-!
# Scripts

A script is named by its four-letter code. Every code point belongs to one
script; a code point in use with several has them as its script extensions.
-/

namespace Fieldwise.Unicode

/-- The codes of the scripts, each with its other names. -/
def scriptNames : List (String × List String) :=
  [("Adlm", ["Adlam"]), ("Aghb", ["Caucasian_Albanian"]), ("Ahom", []), ("Arab", ["Arabic"]),
    ("Armi", ["Imperial_Aramaic"]), ("Armn", ["Armenian"]), ("Avst", ["Avestan"]),
    ("Bali", ["Balinese"]), ("Bamu", ["Bamum"]), ("Bass", ["Bassa_Vah"]), ("Batk", ["Batak"]),
    ("Beng", ["Bengali"]), ("Bhks", ["Bhaiksuki"]), ("Bopo", ["Bopomofo"]), ("Brah", ["Brahmi"]),
    ("Brai", ["Braille"]), ("Bugi", ["Buginese"]), ("Buhd", ["Buhid"]), ("Cakm", ["Chakma"]),
    ("Cans", ["Canadian_Aboriginal"]), ("Cari", ["Carian"]), ("Cham", []), ("Cher", ["Cherokee"]),
    ("Chrs", ["Chorasmian"]), ("Copt", ["Coptic", "Qaac"]), ("Cpmn", ["Cypro_Minoan"]),
    ("Cprt", ["Cypriot"]), ("Cyrl", ["Cyrillic"]), ("Deva", ["Devanagari"]),
    ("Diak", ["Dives_Akuru"]), ("Dogr", ["Dogra"]), ("Dsrt", ["Deseret"]), ("Dupl", ["Duployan"]),
    ("Egyp", ["Egyptian_Hieroglyphs"]), ("Elba", ["Elbasan"]), ("Elym", ["Elymaic"]),
    ("Ethi", ["Ethiopic"]), ("Gara", ["Garay"]), ("Geor", ["Georgian"]), ("Glag", ["Glagolitic"]),
    ("Gong", ["Gunjala_Gondi"]), ("Gonm", ["Masaram_Gondi"]), ("Goth", ["Gothic"]),
    ("Gran", ["Grantha"]), ("Grek", ["Greek"]), ("Gujr", ["Gujarati"]), ("Gukh", ["Gurung_Khema"]),
    ("Guru", ["Gurmukhi"]), ("Hang", ["Hangul"]), ("Hani", ["Han"]), ("Hano", ["Hanunoo"]),
    ("Hatr", ["Hatran"]), ("Hebr", ["Hebrew"]), ("Hira", ["Hiragana"]),
    ("Hluw", ["Anatolian_Hieroglyphs"]), ("Hmng", ["Pahawh_Hmong"]),
    ("Hmnp", ["Nyiakeng_Puachue_Hmong"]), ("Hung", ["Old_Hungarian"]), ("Ital", ["Old_Italic"]),
    ("Java", ["Javanese"]), ("Kali", ["Kayah_Li"]), ("Kana", ["Katakana"]), ("Kawi", []),
    ("Khar", ["Kharoshthi"]), ("Khmr", ["Khmer"]), ("Khoj", ["Khojki"]),
    ("Kits", ["Khitan_Small_Script"]), ("Knda", ["Kannada"]), ("Krai", ["Kirat_Rai"]),
    ("Kthi", ["Kaithi"]), ("Lana", ["Tai_Tham"]), ("Laoo", ["Lao"]), ("Latn", ["Latin"]),
    ("Lepc", ["Lepcha"]), ("Limb", ["Limbu"]), ("Lina", ["Linear_A"]), ("Linb", ["Linear_B"]),
    ("Lisu", []), ("Lyci", ["Lycian"]), ("Lydi", ["Lydian"]), ("Mahj", ["Mahajani"]),
    ("Maka", ["Makasar"]), ("Mand", ["Mandaic"]), ("Mani", ["Manichaean"]), ("Marc", ["Marchen"]),
    ("Medf", ["Medefaidrin"]), ("Mend", ["Mende_Kikakui"]), ("Merc", ["Meroitic_Cursive"]),
    ("Mero", ["Meroitic_Hieroglyphs"]), ("Mlym", ["Malayalam"]), ("Modi", []),
    ("Mong", ["Mongolian"]), ("Mroo", ["Mro"]), ("Mtei", ["Meetei_Mayek"]), ("Mult", ["Multani"]),
    ("Mymr", ["Myanmar"]), ("Nagm", ["Nag_Mundari"]), ("Nand", ["Nandinagari"]),
    ("Narb", ["Old_North_Arabian"]), ("Nbat", ["Nabataean"]), ("Newa", []), ("Nkoo", ["Nko"]),
    ("Nshu", ["Nushu"]), ("Ogam", ["Ogham"]), ("Olck", ["Ol_Chiki"]), ("Onao", ["Ol_Onal"]),
    ("Orkh", ["Old_Turkic"]), ("Orya", ["Oriya"]), ("Osge", ["Osage"]), ("Osma", ["Osmanya"]),
    ("Ougr", ["Old_Uyghur"]), ("Palm", ["Palmyrene"]), ("Pauc", ["Pau_Cin_Hau"]),
    ("Perm", ["Old_Permic"]), ("Phag", ["Phags_Pa"]), ("Phli", ["Inscriptional_Pahlavi"]),
    ("Phlp", ["Psalter_Pahlavi"]), ("Phnx", ["Phoenician"]), ("Plrd", ["Miao"]),
    ("Prti", ["Inscriptional_Parthian"]), ("Rjng", ["Rejang"]), ("Rohg", ["Hanifi_Rohingya"]),
    ("Runr", ["Runic"]), ("Samr", ["Samaritan"]), ("Sarb", ["Old_South_Arabian"]),
    ("Saur", ["Saurashtra"]), ("Sgnw", ["SignWriting"]), ("Shaw", ["Shavian"]),
    ("Shrd", ["Sharada"]), ("Sidd", ["Siddham"]), ("Sind", ["Khudawadi"]), ("Sinh", ["Sinhala"]),
    ("Sogd", ["Sogdian"]), ("Sogo", ["Old_Sogdian"]), ("Sora", ["Sora_Sompeng"]),
    ("Soyo", ["Soyombo"]), ("Sund", ["Sundanese"]), ("Sunu", ["Sunuwar"]),
    ("Sylo", ["Syloti_Nagri"]), ("Syrc", ["Syriac"]), ("Tagb", ["Tagbanwa"]), ("Takr", ["Takri"]),
    ("Tale", ["Tai_Le"]), ("Talu", ["New_Tai_Lue"]), ("Taml", ["Tamil"]), ("Tang", ["Tangut"]),
    ("Tavt", ["Tai_Viet"]), ("Telu", ["Telugu"]), ("Tfng", ["Tifinagh"]), ("Tglg", ["Tagalog"]),
    ("Thaa", ["Thaana"]), ("Thai", []), ("Tibt", ["Tibetan"]), ("Tirh", ["Tirhuta"]),
    ("Tnsa", ["Tangsa"]), ("Todr", ["Todhri"]), ("Toto", []), ("Tutg", ["Tulu_Tigalari"]),
    ("Ugar", ["Ugaritic"]), ("Vaii", ["Vai"]), ("Vith", ["Vithkuqi"]), ("Wara", ["Warang_Citi"]),
    ("Wcho", ["Wancho"]), ("Xpeo", ["Old_Persian"]), ("Xsux", ["Cuneiform"]), ("Yezi", ["Yezidi"]),
    ("Yiii", ["Yi"]), ("Zanb", ["Zanabazar_Square"]), ("Zinh", ["Inherited", "Qaai"]),
    ("Zyyy", ["Common"]), ("Zzzz", ["Unknown"])]

def scriptRuns : String :=
  "
    65Zyyy26Latn6Zyyy26Latn47Zyyy1Latn15Zyyy1Latn5Zyyy23Latn1Zyyy31Latn1Zyyy449Latn39Zyyy5Latn5Zyyy
    2Bopo20Zyyy112Zinh4Grek1Zyyy3Grek2Zzzz4Grek1Zyyy1Grek4Zzzz1Grek1Zyyy1Grek1Zyyy3Grek1Zzzz1Grek
    1Zzzz20Grek1Zzzz63Grek14Copt16Grek133Cyrl2Zinh169Cyrl1Zzzz38Armn2Zzzz50Armn2Zzzz3Armn1Zzzz55Hebr
    8Zzzz27Hebr4Zzzz6Hebr11Zzzz5Arab1Zyyy6Arab1Zyyy14Arab1Zyyy3Arab1Zyyy32Arab1Zyyy10Arab11Zinh
    26Arab1Zinh108Arab1Zyyy34Arab14Syrc1Zzzz60Syrc2Zzzz3Syrc48Arab50Thaa14Zzzz59Nkoo2Zzzz3Nkoo46Samr
    2Zzzz15Samr1Zzzz28Mand2Zzzz1Mand1Zzzz11Syrc5Zzzz31Arab1Zzzz2Arab5Zzzz75Arab1Zyyy29Arab81Deva
    4Zinh15Deva2Zyyy26Deva4Beng1Zzzz8Beng2Zzzz2Beng2Zzzz22Beng1Zzzz7Beng1Zzzz1Beng3Zzzz4Beng2Zzzz
    9Beng2Zzzz2Beng2Zzzz4Beng8Zzzz1Beng4Zzzz2Beng1Zzzz5Beng2Zzzz25Beng2Zzzz3Guru1Zzzz6Guru4Zzzz2Guru
    2Zzzz22Guru1Zzzz7Guru1Zzzz2Guru1Zzzz2Guru1Zzzz2Guru2Zzzz1Guru1Zzzz5Guru4Zzzz2Guru2Zzzz3Guru3Zzzz
    1Guru7Zzzz4Guru1Zzzz1Guru7Zzzz17Guru10Zzzz3Gujr1Zzzz9Gujr1Zzzz3Gujr1Zzzz22Gujr1Zzzz7Gujr1Zzzz
    2Gujr1Zzzz5Gujr2Zzzz10Gujr1Zzzz3Gujr1Zzzz3Gujr2Zzzz1Gujr15Zzzz4Gujr2Zzzz12Gujr7Zzzz7Gujr1Zzzz
    3Orya1Zzzz8Orya2Zzzz2Orya2Zzzz22Orya1Zzzz7Orya1Zzzz2Orya1Zzzz5Orya2Zzzz9Orya2Zzzz2Orya2Zzzz3Orya
    7Zzzz3Orya4Zzzz2Orya1Zzzz5Orya2Zzzz18Orya10Zzzz2Taml1Zzzz6Taml3Zzzz3Taml1Zzzz4Taml3Zzzz2Taml
    1Zzzz1Taml1Zzzz2Taml3Zzzz2Taml3Zzzz3Taml3Zzzz12Taml4Zzzz5Taml3Zzzz3Taml1Zzzz4Taml2Zzzz1Taml6Zzzz
    1Taml14Zzzz21Taml5Zzzz13Telu1Zzzz3Telu1Zzzz23Telu1Zzzz16Telu2Zzzz9Telu1Zzzz3Telu1Zzzz4Telu7Zzzz
    2Telu1Zzzz3Telu2Zzzz1Telu2Zzzz4Telu2Zzzz10Telu7Zzzz9Telu13Knda1Zzzz3Knda1Zzzz23Knda1Zzzz10Knda
    1Zzzz5Knda2Zzzz9Knda1Zzzz3Knda1Zzzz4Knda7Zzzz2Knda6Zzzz2Knda1Zzzz4Knda2Zzzz10Knda1Zzzz3Knda
    12Zzzz13Mlym1Zzzz3Mlym1Zzzz51Mlym1Zzzz3Mlym1Zzzz6Mlym4Zzzz16Mlym2Zzzz26Mlym1Zzzz3Sinh1Zzzz18Sinh
    3Zzzz24Sinh1Zzzz9Sinh1Zzzz1Sinh2Zzzz7Sinh3Zzzz1Sinh4Zzzz6Sinh1Zzzz1Sinh1Zzzz8Sinh6Zzzz10Sinh
    2Zzzz3Sinh12Zzzz58Thai4Zzzz1Zyyy28Thai37Zzzz2Laoo1Zzzz1Laoo1Zzzz5Laoo1Zzzz24Laoo1Zzzz1Laoo1Zzzz
    23Laoo2Zzzz5Laoo1Zzzz1Laoo1Zzzz7Laoo1Zzzz10Laoo2Zzzz4Laoo32Zzzz72Tibt1Zzzz36Tibt4Zzzz39Tibt1Zzzz
    36Tibt1Zzzz15Tibt1Zzzz7Tibt4Zyyy2Tibt37Zzzz160Mymr38Geor1Zzzz1Geor5Zzzz1Geor2Zzzz43Geor1Zyyy
    4Geor256Hang73Ethi1Zzzz4Ethi2Zzzz7Ethi1Zzzz1Ethi1Zzzz4Ethi2Zzzz41Ethi1Zzzz4Ethi2Zzzz33Ethi1Zzzz
    4Ethi2Zzzz7Ethi1Zzzz1Ethi1Zzzz4Ethi2Zzzz15Ethi1Zzzz57Ethi1Zzzz4Ethi2Zzzz67Ethi2Zzzz32Ethi3Zzzz
    26Ethi6Zzzz86Cher2Zzzz6Cher2Zzzz640Cans29Ogam3Zzzz75Runr3Zyyy11Runr7Zzzz22Tglg9Zzzz1Tglg21Hano
    2Zyyy9Zzzz20Buhd12Zzzz13Tagb1Zzzz3Tagb1Zzzz2Tagb12Zzzz94Khmr2Zzzz10Khmr6Zzzz10Khmr6Zzzz2Mong
    2Zyyy1Mong1Zyyy20Mong6Zzzz89Mong7Zzzz43Mong5Zzzz70Cans10Zzzz31Limb1Zzzz12Limb4Zzzz12Limb4Zzzz
    1Limb3Zzzz12Limb30Tale2Zzzz5Tale11Zzzz44Talu4Zzzz26Talu6Zzzz11Talu3Zzzz2Talu32Khmr28Bugi2Zzzz
    2Bugi63Lana1Zzzz29Lana2Zzzz11Lana6Zzzz10Lana6Zzzz14Lana2Zzzz31Zinh49Zzzz77Bali1Zzzz50Bali64Sund
    52Batk8Zzzz4Batk56Lepc3Zzzz15Lepc3Zzzz3Lepc48Olck11Cyrl5Zzzz43Geor2Zzzz3Geor8Sund8Zzzz3Zinh1Zyyy
    13Zinh1Zyyy7Zinh4Zyyy1Zinh6Zyyy1Zinh3Zyyy2Zinh1Zyyy5Zzzz38Latn5Grek1Cyrl49Latn5Grek4Latn5Grek
    13Latn1Cyrl70Latn1Grek64Zinh256Latn22Grek2Zzzz6Grek2Zzzz38Grek2Zzzz6Grek2Zzzz8Grek1Zzzz1Grek
    1Zzzz1Grek1Zzzz1Grek1Zzzz31Grek2Zzzz53Grek1Zzzz15Grek1Zzzz14Grek2Zzzz6Grek1Zzzz19Grek2Zzzz3Grek
    1Zzzz9Grek1Zzzz12Zyyy2Zinh87Zyyy1Zzzz11Zyyy1Latn2Zzzz11Zyyy1Latn15Zyyy1Zzzz13Latn3Zzzz33Zyyy
    15Zzzz33Zinh15Zzzz38Zyyy1Grek3Zyyy2Latn6Zyyy1Latn27Zyyy1Latn17Zyyy41Latn3Zyyy4Zzzz666Zyyy22Zzzz
    11Zyyy21Zzzz928Zyyy256Brai628Zyyy2Zzzz32Zyyy1Zzzz105Zyyy96Glag32Latn116Copt5Zzzz7Copt38Geor1Zzzz
    1Geor5Zzzz1Geor2Zzzz56Tfng7Zzzz2Tfng14Zzzz1Tfng23Ethi9Zzzz7Ethi1Zzzz7Ethi1Zzzz7Ethi1Zzzz7Ethi
    1Zzzz7Ethi1Zzzz7Ethi1Zzzz7Ethi1Zzzz7Ethi1Zzzz32Cyrl94Zyyy34Zzzz26Hani1Zzzz89Hani12Zzzz214Hani
    26Zzzz21Zyyy1Hani1Zyyy1Hani25Zyyy9Hani4Zinh2Hang8Zyyy4Hani4Zyyy1Zzzz86Hira2Zzzz2Zinh2Zyyy3Hira
    1Zyyy90Kana2Zyyy3Kana5Zzzz43Bopo1Zzzz94Hang1Zzzz16Zyyy32Bopo38Zyyy9Zzzz1Zyyy16Kana31Hang1Zzzz
    64Zyyy31Hang81Zyyy47Kana1Zyyy88Kana168Zyyy6592Hani64Zyyy20992Hani1165Yiii3Zzzz55Yiii9Zzzz48Lisu
    300Vaii20Zzzz96Cyrl88Bamu8Zzzz34Zyyy102Latn3Zyyy67Latn2Zzzz2Latn1Zzzz1Latn1Zzzz8Latn21Zzzz14Latn
    45Sylo3Zzzz10Zyyy6Zzzz56Phag8Zzzz70Saur8Zzzz12Saur6Zzzz32Deva46Kali1Zyyy1Kali36Rjng11Zzzz1Rjng
    29Hang3Zzzz78Java1Zzzz1Zyyy10Java4Zzzz2Java31Mymr1Zzzz55Cham9Zzzz14Cham2Zzzz10Cham2Zzzz4Cham
    32Mymr67Tavt24Zzzz5Tavt23Mtei10Zzzz6Ethi2Zzzz6Ethi2Zzzz6Ethi9Zzzz7Ethi1Zzzz7Ethi1Zzzz43Latn1Zyyy
    9Latn1Grek4Latn2Zyyy4Zzzz80Cher46Mtei2Zzzz10Mtei6Zzzz11172Hang12Zzzz23Hang4Zzzz49Hang8452Zzzz
    366Hani2Zzzz106Hani38Zzzz7Latn12Zzzz5Armn5Zzzz26Hebr1Zzzz5Hebr1Zzzz1Hebr1Zzzz2Hebr1Zzzz2Hebr
    1Zzzz10Hebr115Arab16Zzzz363Arab2Zyyy80Arab2Zzzz54Arab7Zzzz1Arab32Zzzz16Arab16Zinh10Zyyy6Zzzz
    14Zinh2Cyrl35Zyyy1Zzzz19Zyyy1Zzzz4Zyyy4Zzzz5Arab1Zzzz135Arab2Zzzz1Zyyy1Zzzz32Zyyy26Latn6Zyyy
    26Latn11Zyyy10Kana1Zyyy45Kana2Zyyy31Hang3Zzzz6Hang2Zzzz6Hang2Zzzz6Hang2Zzzz3Hang3Zzzz7Zyyy1Zzzz
    7Zyyy10Zzzz5Zyyy2Zzzz12Linb1Zzzz26Linb1Zzzz19Linb1Zzzz2Linb1Zzzz15Linb2Zzzz14Linb34Zzzz123Linb
    5Zzzz3Zyyy4Zzzz45Zyyy3Zzzz9Zyyy79Grek1Zzzz13Zyyy3Zzzz1Grek47Zzzz45Zyyy1Zinh130Zzzz29Lyci3Zzzz
    49Cari15Zzzz1Zinh27Zyyy4Zzzz36Ital9Zzzz3Ital27Goth5Zzzz43Perm5Zzzz30Ugar1Zzzz1Ugar36Xpeo4Zzzz
    14Xpeo42Zzzz80Dsrt48Shaw30Osma2Zzzz10Osma6Zzzz36Osge4Zzzz36Osge4Zzzz40Elba8Zzzz52Aghb11Zzzz1Aghb
    11Vith1Zzzz15Vith1Zzzz7Vith1Zzzz2Vith1Zzzz11Vith1Zzzz15Vith1Zzzz7Vith1Zzzz2Vith3Zzzz52Todr12Zzzz
    311Lina9Zzzz22Lina10Zzzz8Lina24Zzzz6Latn1Zzzz42Latn1Zzzz9Latn69Zzzz6Cprt2Zzzz1Cprt1Zzzz44Cprt
    1Zzzz2Cprt3Zzzz1Cprt2Zzzz1Cprt22Armi1Zzzz9Armi32Palm31Nbat8Zzzz9Nbat48Zzzz19Hatr1Zzzz2Hatr5Zzzz
    5Hatr28Phnx3Zzzz1Phnx26Lydi5Zzzz1Lydi64Zzzz32Mero24Merc4Zzzz20Merc2Zzzz46Merc4Khar1Zzzz2Khar
    5Zzzz8Khar1Zzzz3Khar1Zzzz29Khar2Zzzz3Khar4Zzzz10Khar7Zzzz9Khar7Zzzz32Sarb32Narb32Zzzz39Mani4Zzzz
    12Mani9Zzzz54Avst3Zzzz7Avst22Prti2Zzzz8Prti19Phli5Zzzz8Phli18Phlp7Zzzz4Phlp12Zzzz7Phlp80Zzzz
    73Orkh55Zzzz51Hung13Zzzz51Hung7Zzzz6Hung40Rohg8Zzzz10Rohg6Zzzz38Gara3Zzzz29Gara8Zzzz2Gara208Zzzz
    31Arab1Zzzz42Yezi1Zzzz3Yezi2Zzzz2Yezi16Zzzz3Arab55Zzzz4Arab40Sogo8Zzzz42Sogd22Zzzz26Ougr38Zzzz
    28Chrs20Zzzz23Elym9Zzzz78Brah4Zzzz36Brah9Zzzz1Brah67Kthi10Zzzz1Kthi2Zzzz25Sora7Zzzz10Sora6Zzzz
    53Cakm1Zzzz18Cakm8Zzzz39Mahj9Zzzz96Shrd1Zzzz20Sinh11Zzzz18Khoj1Zzzz47Khoj62Zzzz7Mult1Zzzz1Mult
    1Zzzz4Mult1Zzzz15Mult1Zzzz11Mult6Zzzz59Sind5Zzzz10Sind6Zzzz4Gran1Zzzz8Gran2Zzzz2Gran2Zzzz22Gran
    1Zzzz7Gran1Zzzz2Gran1Zzzz5Gran1Zzzz1Zinh9Gran2Zzzz2Gran2Zzzz3Gran2Zzzz1Gran6Zzzz1Gran5Zzzz7Gran
    2Zzzz7Gran3Zzzz5Gran11Zzzz10Tutg1Zzzz1Tutg2Zzzz1Tutg1Zzzz38Tutg1Zzzz10Tutg1Zzzz1Tutg2Zzzz1Tutg
    1Zzzz4Tutg1Zzzz10Tutg1Zzzz2Tutg8Zzzz2Tutg29Zzzz92Newa1Zzzz5Newa30Zzzz72Tirh8Zzzz10Tirh166Zzzz
    54Sidd2Zzzz38Sidd34Zzzz69Modi11Zzzz10Modi6Zzzz13Mong19Zzzz58Takr6Zzzz10Takr6Zzzz20Mymr28Zzzz
    27Ahom2Zzzz15Ahom4Zzzz23Ahom185Zzzz60Dogr100Zzzz83Wara12Zzzz1Wara7Diak2Zzzz1Diak2Zzzz8Diak1Zzzz
    2Diak1Zzzz30Diak1Zzzz2Diak2Zzzz12Diak9Zzzz10Diak70Zzzz8Nand2Zzzz46Nand2Zzzz11Nand27Zzzz72Zanb
    8Zzzz83Soyo13Zzzz16Cans57Pauc7Zzzz10Deva182Zzzz34Sunu14Zzzz10Sunu6Zzzz9Bhks1Zzzz45Bhks1Zzzz
    14Bhks10Zzzz29Bhks3Zzzz32Marc2Zzzz22Marc1Zzzz14Marc73Zzzz7Gonm1Zzzz2Gonm1Zzzz44Gonm3Zzzz1Gonm
    1Zzzz2Gonm1Zzzz9Gonm8Zzzz10Gonm6Zzzz6Gong1Zzzz2Gong1Zzzz37Gong1Zzzz2Gong1Zzzz6Gong7Zzzz10Gong
    310Zzzz25Maka7Zzzz17Kawi1Zzzz41Kawi3Zzzz29Kawi85Zzzz1Lisu15Zzzz50Taml13Zzzz1Taml922Xsux102Zzzz
    111Xsux1Zzzz5Xsux11Zzzz196Xsux2636Zzzz99Cpmn13Zzzz1110Egyp10Zzzz3995Egyp5Zzzz583Hluw6841Zzzz
    58Gukh1734Zzzz569Bamu7Zzzz31Mroo1Zzzz10Mroo4Zzzz2Mroo79Tnsa1Zzzz10Tnsa6Zzzz30Bass2Zzzz6Bass
    10Zzzz70Hmng10Zzzz10Hmng1Zzzz7Hmng1Zzzz21Hmng5Zzzz19Hmng432Zzzz58Krai198Zzzz91Medf101Zzzz75Plrd
    4Zzzz57Plrd7Zzzz17Plrd64Zzzz1Tang1Nshu2Hani1Kits11Zzzz2Hani14Zzzz6136Tang8Zzzz768Tang470Kits
    41Zzzz1Kits9Tang8935Zzzz4Kana1Zzzz7Kana1Zzzz2Kana1Zzzz1Kana287Hira3Kana15Zzzz1Hira29Zzzz3Hira
    2Zzzz1Kana14Zzzz4Kana8Zzzz396Nshu2308Zzzz107Dupl5Zzzz13Dupl3Zzzz9Dupl7Zzzz10Dupl2Zzzz4Dupl4Zyyy
    3932Zzzz250Zyyy6Zzzz436Zyyy76Zzzz46Zinh2Zzzz23Zinh9Zzzz116Zyyy60Zzzz246Zyyy10Zzzz39Zyyy2Zzzz
    62Zyyy3Zinh17Zyyy8Zinh2Zyyy7Zinh30Zyyy4Zinh61Zyyy21Zzzz70Grek122Zzzz20Zyyy12Zzzz20Zyyy12Zzzz
    87Zyyy9Zzzz25Zyyy135Zzzz85Zyyy1Zzzz71Zyyy1Zzzz2Zyyy2Zzzz1Zyyy2Zzzz2Zyyy2Zzzz4Zyyy1Zzzz12Zyyy
    1Zzzz1Zyyy1Zzzz7Zyyy1Zzzz65Zyyy1Zzzz4Zyyy2Zzzz8Zyyy1Zzzz7Zyyy1Zzzz28Zyyy1Zzzz4Zyyy1Zzzz5Zyyy
    1Zzzz1Zyyy3Zzzz7Zyyy1Zzzz340Zyyy2Zzzz292Zyyy2Zzzz50Zyyy652Sgnw15Zzzz5Sgnw1Zzzz15Sgnw1104Zzzz
    31Latn6Zzzz6Latn213Zzzz7Glag1Zzzz17Glag2Zzzz7Glag1Zzzz2Glag1Zzzz5Glag5Zzzz62Cyrl33Zzzz1Cyrl
    112Zzzz45Hmnp3Zzzz14Hmnp2Zzzz10Hmnp4Zzzz2Hmnp320Zzzz31Toto17Zzzz58Wcho5Zzzz1Wcho464Zzzz42Nagm
    214Zzzz43Onao4Zzzz1Onao480Zzzz7Ethi1Zzzz4Ethi1Zzzz2Ethi1Zzzz15Ethi1Zzzz197Mend2Zzzz16Mend41Zzzz
    76Adlm4Zzzz10Adlm4Zzzz2Adlm785Zzzz68Zyyy76Zzzz61Zyyy194Zzzz4Arab1Zzzz27Arab1Zzzz2Arab1Zzzz1Arab
    2Zzzz1Arab1Zzzz10Arab1Zzzz4Arab1Zzzz1Arab1Zzzz1Arab6Zzzz1Arab4Zzzz1Arab1Zzzz1Arab1Zzzz1Arab1Zzzz
    3Arab1Zzzz2Arab1Zzzz1Arab2Zzzz1Arab1Zzzz1Arab1Zzzz1Arab1Zzzz1Arab1Zzzz1Arab1Zzzz2Arab1Zzzz1Arab
    2Zzzz4Arab1Zzzz7Arab1Zzzz4Arab1Zzzz4Arab1Zzzz1Arab1Zzzz10Arab1Zzzz17Arab5Zzzz3Arab1Zzzz5Arab
    1Zzzz17Arab52Zzzz2Arab270Zzzz44Zyyy4Zzzz100Zyyy12Zzzz15Zyyy2Zzzz15Zyyy1Zzzz15Zyyy1Zzzz37Zyyy
    10Zzzz174Zyyy56Zzzz26Zyyy1Hira2Zyyy13Zzzz44Zyyy4Zzzz9Zyyy7Zzzz2Zyyy14Zzzz6Zyyy154Zzzz984Zyyy
    4Zzzz17Zyyy3Zzzz13Zyyy3Zzzz119Zyyy4Zzzz95Zyyy6Zzzz12Zyyy4Zzzz1Zyyy15Zzzz12Zyyy4Zzzz56Zyyy8Zzzz
    10Zyyy6Zzzz40Zyyy8Zzzz30Zyyy2Zzzz12Zyyy4Zzzz2Zyyy62Zzzz340Zyyy12Zzzz14Zyyy2Zzzz13Zyyy3Zzzz10Zyyy
    5Zzzz56Zyyy7Zzzz15Zyyy2Zzzz11Zyyy6Zzzz9Zyyy7Zzzz147Zyyy1Zzzz102Zyyy1030Zzzz42720Hani32Zzzz
    4154Hani6Zzzz222Hani2Zzzz5762Hani14Zzzz7473Hani15Zzzz622Hani2466Zzzz542Hani1506Zzzz4939Hani5Zzzz
    4192Hani711761Zzzz1Zyyy30Zzzz96Zyyy128Zzzz240Zinh196112Zzzz"

def scriptTable : RunTable String := .ofRuns id scriptRuns

def script (c : Char) : String := scriptTable.get "Zzzz" c

/-- The runs of the script extensions: the codes, joined by underscores, or `x`
where the extension is the script itself. -/
def scriptExtensionRuns : String :=
  "
    183x1Avst_Cari_Copt_Dupl_Elba_Geor_Glag_Gong_Goth_Grek_Hani_Latn_Lydi_Mahj_Perm_Shaw516x
    1Beng_Cyrl_Deva_Latn_Lisu_Thai_Toto10x1Bopo_Latn1x3Bopo_Latn1x1Latn_Lisu9x1Latn_Thai1x1Bopo_Latn
    38x1Cher_Copt_Cyrl_Grek_Latn_Perm_Sunu_Tale1Cher_Cyrl_Grek_Latn_Osge_Sunu_Tale_Todr
    1Cher_Cyrl_Latn_Tfng1Glag_Latn_Sunu_Syrc_Thai
    1Aghb_Cher_Copt_Cyrl_Goth_Grek_Latn_Osge_Syrc_Tfng_Todr1Copt_Elba_Glag_Goth_Kana_Latn
    1Cyrl_Grek_Latn_Perm1Copt_Dupl_Hebr_Latn_Perm_Syrc_Tale_Tfng_Todr
    1Armn_Cyrl_Dupl_Goth_Grek_Hebr_Latn_Perm_Syrc_Tale1Latn_Tfng1Dupl_Latn_Syrc1Cher_Cyrl_Latn_Osge
    1Cher_Latn_Tale1Latn_Sunu1Ethi_Latn1x1Latn_Sunu1Cyrl_Latn_Todr1x1Grek_Latn_Perm_Todr12x
    1Latn_Syrc2x1Cher_Dupl_Kana_Latn_Syrc1Cher_Dupl_Latn_Syrc1Latn_Syrc7x1Latn_Sunu_Syrc1Latn_Syrc1x
    1Cher_Latn_Syrc1Aghb_Cher_Goth_Latn_Sunu_Thai16x1Grek2x1Grek18x1Latn_Osge5x1Aghb_Latn_Todr4x
    13Latn4x2Copt_Grek269x1Cyrl_Perm1Cyrl_Glag2Cyrl_Latn1Cyrl_Glag257x1Armn_Geor_Glag130x
    1Arab_Gara_Nkoo_Rohg_Syrc_Thaa_Yezi14x1Arab_Gara_Nkoo_Rohg_Syrc_Thaa_Yezi1Arab_Syrc_Thaa2x
    1Adlm_Arab_Gara_Nkoo_Rohg_Syrc_Thaa_Yezi32x1Adlm_Arab_Mand_Mani_Ougr_Phlp_Rohg_Sogd_Syrc10x
    11Arab_Syrc10x10Arab_Thaa_Yezi6x1Arab_Syrc99x1Arab_Rohg636x
    1Beng_Deva_Gran_Gujr_Guru_Knda_Latn_Mlym_Orya_Shrd_Taml_Telu_Tirh
    1Beng_Deva_Gran_Gujr_Guru_Knda_Latn_Mlym_Orya_Taml_Telu_Tirh17x
    1Beng_Deva_Dogr_Gong_Gonm_Gran_Gujr_Guru_Knda_Mahj_Mlym_Nand_Onao_Orya_Sind_Sinh_Sylo_Takr_Taml_
    Telu_Tirh
    1Beng_Deva_Dogr_Gong_Gonm_Gran_Gujr_Gukh_Guru_Knda_Limb_Mahj_Mlym_Nand_Onao_Orya_Sind_Sinh_Sylo_
    Takr_Taml_Telu_Tirh10Deva_Dogr_Kthi_Mahj118x10Beng_Cakm_Sylo118x10Guru_Mult118x10Gujr_Khoj246x
    14Gran_Taml242x10Knda_Nand_Tutg848x10Cakm_Mymr_Tale177x1Geor_Glag_Latn1519x3Runr71x
    2Buhd_Hano_Tagb_Tglg203x2Mong_Phag1x1Mong_Phag1226x1Beng_Deva_Gran_Knda1Deva1Beng_Deva_Gran_Knda
    1Deva_Gran_Knda1Deva2Beng_Deva1Deva_Shrd1Beng_Deva1Deva_Shrd1Deva_Knda_Mlym_Orya_Taml_Telu1Deva
    2Deva_Shrd2Deva1Deva_Shrd1Beng_Deva7Deva1Deva_Nand1Beng_Deva2Deva1Beng_Deva4Deva
    1Beng_Deva_Gran_Knda_Mlym_Nand_Orya_Sinh_Telu_Tirh_Tutg1Deva_Gran1Deva_Gran_Knda_Tutg2Beng_Deva
    1Beng2Deva_Gran1Nand197x2Grek54x1Cyrl_Latn_Syrc1x1Syrc564x1Latn_Mong_Phag31x1Adlm_Arab10x
    1Cari_Geor_Glag_Hung_Lyci_Orkh2x1Cari_Grek_Hung_Mero146x1Deva_Gran_Latn3366x1Copt_Latn24x
    1Avst_Orkh1Avst_Cari_Geor_Hung_Kthi_Lydi_Samr10x1Dupl4x1Adlm_Arab_Hung1x1Cyrl_Glag428x
    16Hani_Tang1x1Bopo_Hang_Hani_Hira_Kana_Mong_Yiii1Bopo_Hang_Hani_Hira_Kana_Mong_Phag_Yiii
    1Bopo_Hang_Hani_Hira_Kana2x1Hani1x2Bopo_Hang_Hani_Hira_Kana_Mong_Tibt_Yiii
    2Bopo_Hang_Hani_Hira_Kana_Lisu_Mong_Tibt_Yiii6Bopo_Hang_Hani_Hira_Kana_Yiii1x
    1Bopo_Hang_Hani_Hira_Kana8Bopo_Hang_Hani_Hira_Kana_Yiii4Bopo_Hang_Hani_Hira_Kana10x4Bopo_Hani2x
    1Bopo_Hang_Hani_Hira_Kana5Hira_Kana1x1Bopo_Hang_Hani_Hira_Kana4x2Hani_Hira_Kana2Hani89x
    4Hira_Kana3x1Hira_Kana90x1Bopo_Hang_Hani_Hira_Kana_Yiii1Hira_Kana147x16Hani32x38Hani9x1Hani_Tang
    48x40Hani56x49Hani15x12Hani51x1Hani88x25Hani10x5Hani96x31Hani29296x1Cyrl_Glag144x8Hani_Latn296x
    3Deva_Dogr_Gujr_Guru_Khoj_Knda_Kthi_Mahj_Mlym_Modi_Nand_Shrd_Sind_Takr_Tirh_Tutg
    3Deva_Dogr_Gujr_Guru_Khoj_Knda_Kthi_Mahj_Modi_Nand_Shrd_Sind_Takr_Tirh_Tutg
    2Deva_Dogr_Gujr_Guru_Khoj_Kthi_Mahj_Modi_Sind_Takr_Tirh
    1Deva_Dogr_Gujr_Guru_Khoj_Kthi_Mahj_Modi_Shrd_Sind_Takr_Tirh
    1Deva_Dogr_Gujr_Guru_Khoj_Kthi_Mahj_Modi_Sind_Takr_Tirh183x1Beng_Deva_Tutg1x1Deva_Taml58x
    1Kali_Latn_Mymr160x1Bugi_Java21358x2Arab_Nkoo178x1Arab_Thaa10x1Arab_Thaa71x
    2Bopo_Hang_Hani_Hira_Kana282x5Bopo_Hang_Hani_Hira_Kana_Yiii10x1Hira_Kana45x2Hira_Kana352x
    2Cpmn_Cprt_Linb1Cprt_Linb4x45Cprt_Lina_Linb3x9Cprt_Linb416x28Arab_Copt2038x1Mani_Ougr2062x
    1Gran_Taml1x1Gran_Taml55x2Gran_Taml3219x2Gran_Taml1x1Gran_Taml40140x4Dupl5820x18Hani7902x2Hani
    986542x"

def scriptExtensionTable : RunTable (List String) :=
  .ofRuns (fun codes => if codes = "x" then [] else codes.splitOn "_") scriptExtensionRuns

def hasScript (code : String) (c : Char) : Bool :=
  match scriptExtensionTable.get [] c with
  | [] => script c == code
  | codes => codes.contains code

end Fieldwise.Unicode
