import FeatureFlags.Unicode.CodeSet

/-! # General categories of characters -/

namespace FeatureFlags.Unicode.Category

/-- The names of each category, in the order of the class numbers of `table`. No character has
the category of surrogates, so that one has no name. -/
def names : List (List String) :=
  [["Cn", "Unassigned"], ["Ll", "Lowercase_Letter"], ["Lu", "Uppercase_Letter"],
   ["Lo", "Other_Letter"], ["Mn", "Nonspacing_Mark"], ["Po", "Other_Punctuation"],
   ["Mc", "Spacing_Mark"], ["So", "Other_Symbol"], ["Ps", "Open_Punctuation"],
   ["Pe", "Close_Punctuation"], ["Lm", "Modifier_Letter"], ["No", "Other_Number"],
   ["Nd", "Decimal_Number", "Digit"], ["Sm", "Math_Symbol"], ["Sk", "Modifier_Symbol"],
   ["Sc", "Currency_Symbol"], ["Cf", "Format"], ["Pd", "Dash_Punctuation"],
   ["Nl", "Letter_Number"], ["Pi", "Initial_Punctuation"], ["Pf", "Final_Punctuation"],
   ["Lt", "Titlecase_Letter"], ["Zs", "Space_Separator"], ["Pc", "Connector_Punctuation"],
   ["Me", "Enclosing_Mark"], ["Co", "Private_Use"], ["Cc", "Control", "Cntrl"],
   ["Zl", "Line_Separator"], ["Zp", "Paragraph_Separator"], []]

def groups : List (List String × List String) :=
  [(["L", "Letter"], ["Lu", "Ll", "Lt", "Lm", "Lo"]),
   (["LC", "Cased_Letter"], ["Lu", "Ll", "Lt"]),
   (["M", "Mark", "Combining_Mark"], ["Mn", "Mc", "Me"]),
   (["N", "Number"], ["Nd", "Nl", "No"]),
   (["P", "Punctuation", "Punct"], ["Pc", "Pd", "Ps", "Pe", "Pi", "Pf", "Po"]),
   (["S", "Symbol"], ["Sm", "Sc", "Sk", "So"]),
   (["Z", "Separator"], ["Zs", "Zl", "Zp"]),
   (["C", "Other"], ["Cc", "Cf", "Co", "Cn"])]

def table : List String :=
  ["BgBabwdfbpdfbibjbfbnbfbrcfkmcfdncfBacbibfbjbobxboBabbibnbjbnBhBabwbfepbhbfbobhbdbtbnbqbhbobh",
   "bnclbobbcfboblbdbudlbfxcbnhcybbnibbcbbbcbbbcbbbcbbbcbbbcbbbcbbbcbbbcbbbcbbbcbbbcbbbcbbbcbbbc",
   "bbbcbbbcbbbcbbbcbbbcbbbcbbbcbbbcbbbcbbbcbbbcbbbcbbbccbbcbbbcbbbcbbbcbbbcbbbcbbbcbbbccbbcbbbc",
   "bbbcbbbcbbbcbbbcbbbcbbbcbbbcbbbcbbbcbbbcbbbcbbbcbbbcbbbcbbbcbbbcbbbcbbbcbbbcbbbcbbbcbbccbbbc",
   "bbbcdbccbbbcbbccbbdccbecbbccbbdcdbccbbccbbbcbbbcbbccbbbccbbcbbccbbdcbbbcbbcccbbdbcdbedbcbvbb",
   "bcbvbbbcbvbbbcbbbcbbbcbbbcbbbcbbbcbbbcbbbccbbcbbbcbbbcbbbcbbbcbbbcbbbcbbbcbbbccbbcbvbbbcbbdc",
   "bbbcbbbcbbbcbbbcbbbcbbbcbbbcbbbcbbbcbbbcbbbcbbbcbbbcbbbcbbbcbbbcbbbcbbbcbbbcbbbcbbbcbbbcbbbc",
   "bbbcbbbcbbbcbbbcbbbcbbbchbccbbcccbbcbbecbbbcbbbcbbbcbbbcCrbbdBbbskeomkoofkhobkbobkroEiebcbbb",
   "cbbbkbobcbbcabkdbbfbceacobcbfdcbabcbaccbbrcbajcBjbbccbdcdbbcbbbcbbbcbbbcbbbcbbbcbbbcbbbcbbbc",
   "bbbcbbbcbbbcfbbcbbbnbcbbcccbBzcBwbbcbbbcbbbcbbbcbbbcbbbcbbbcbbbcbbbcbbbcbbbcbbbcbbbcbbbcbbbc",
   "bbbcbbbcbbbhfecybcbbbcbbbcbbbcbbbcbbbcbbbcbbbcbbbcbbbcbbbcbbbcbbbcbbbcbbbcbbbcbbbcbbbcbbbcbb",
   "bcbbbcbbbcbbbcbbbcbbbcbbbcbbbcbbccbbbcbbbcbbbcbbbcbbbcbbbccbbcbbbcbbbcbbbcbbbcbbbcbbbcbbbcbb",
   "bcbbbcbbbcbbbcbbbcbbbcbbbcbbbcbbbcbbbcbbbcbbbcbbbcbbbcbbbcbbbcbbbcbbbcbbbcbbbcbbbcbbbcbbbcbb",
   "bcbbbcbbbcbbbcbbbcbbbcbbbcbbbcbbbcbbbcbbbcbbbcbbbcbbbcbbbcbbbcbbbcbbbaBmccabkgfBpbbfbrcachbp",
   "baBtebrbebfcebfcebfbeiaBbdeaedcflagqdncfbpcfchlebfbqdfBgdbkkdvekmefcdbeDvdbfbdhebqbhgeckcebh",
   "eecdkmddchbdofbabqbdbeBedBbecaDldlebdoakmBhdjeckbhdfbkcabecpwdeebkjebkdebkfecapfbazddecabfba",
   "ldfaydbogdbacqfajeBpdbkyebqBgebgCcdbebgbebddgieegbecgbdhekdcecfkmbfbkpdbecgbaidcacdcawdbahdb",
   "abddaedcabebddgeecacgcacgbebdiabgeacdbaddcecakmcdcpglbhbpbdbfbecacebgbagdeacdcawdbahdbacdbac",
   "dbacdcabebadgceeacecadedabehaedbabdhakmceddbebfkacebgbajdbaddbawdbahdbacdbafdcabebddgfebaceb",
   "gbacgbecabdpacdcecakmbfbphabdgebabecgbaidcacdcawdbahdbacdbafdcabebdbgbebgeecacgcacgbehacebge",
   "acdbaddcecakmbhbdglkabebdbagddaddbaeddacdbabdbacddacddadddamdeacgbecgdadgbadgbecabdgabgoakmd",
   "lghbpbhfabedgbeidbaddbaxdbaqdcabebddeegbadebaeehacebaddcabdcacdcecakmhabfhlbhbdbecgbfidbaddb",
   "axdbakdbafdcabebdbgbefgbabecgbacgcehacggacdbacdcecakmbacdbgmacecgjdbaddbaBpdcebddgeebadgbadg",
   "bebdbheaddbghlddcecakmjlbhgdbabecgbasddaydbajdbabdcahddabeeadgdebabebaiggakmcacgbfmaBwdbecdh",
   "eeabpgdbkiebfkmcfBlacdbabdbafdbaydbabdbakdbecdjebdcafdbabkbahebakmcaedBgabddhpfbhbfdhceghkmk",
   "lbhbebhbebhbebibjbibjcgidbaBkdeaoebgfebfcefdlebaBkebaihbeghbachffehcfBlaBrdcgeebggebgcecgceb",
   "dkmgfgdcgceeddebddgcdhgddeendbecgceggbebdbgkmdgbechBmcbabcfabccaBrbbfbkdbMrdbaedcahdbabdbaed",
   "caBpdbaedcaBhdbaedcahdbabdbaedcapdbaCfdbaedcaCpdcadejfuldaqdkhgaDiccagbcabrXwdbhbfrdbwBadbib",
   "jdaCxddfdsidhasddebgjatdcebgcfjasdcemandbaddbacemaCadcebgheigbecgledfbkdfbpbdbecakmgaklgagfb",
   "refdebqbekmgaBjdbkCbdhafdceBidbebdfaCsdkaBfdbadeegcedgeacgbeggdeeabhdacfkmBedcafdlaBsdeaBadg",
   "akmbldaBihxdcecgbecacfCbdbgbebghebabebgbecgieggkecabekmgakmgahfbkgfcaoebyqeBxaeebgBvdbebgfeb",
   "gbefgbecgidbacfkmhfkhjejhdfcebgBedbgeecgcebgdecdkmBsdbebgcedgbebgdecgiaefBkdigiecgcedaffkmda",
   "ddkmBedgkcfjbbcbbfaBrccadcifiadebfnebgheedbegdbecdbgcebdfaBsbClknbbkBibBlkCmebcbbbcbbbcbbbcb",
   "bbcbbbcbbbcbbbcbbbcbbbcbbbcbbbcbbbcbbbcbbbcbbbcbbbcbbbcbbbcbbbcbbbcbbbcbbbcbbbcbbbcbbbcbbbcb",
   "bbcbbbcbbbcbbbcbbbcbbbcbbbcbbbcbbbcbbbcbbbcbbbcbbbcbbbcbbbcbbbcbbbcbbbcbbbcbbbcbbbcbbbcbbbcb",
   "bbcbbbcbbbcbbbcbbbcbbbcbbbcbbbcbbbcbbbcbbbcbbbcbbbcbbbcbbbcbbbcbbbcbbbcbbbcbbbcbbbcbbbcbbbcb",
   "bbcbbbcjbbcbbbcbbbcbbbcbbbcbbbcbbbcbbbcbbbcbbbcbbbcbbbcbbbcbbbcbbbcbbbcbbbcbbbcbbbcbbbcbbbcb",
   "bbcbbbcbbbcbbbcbbbcbbbcbbbcbbbcbbbcbbbcbbbcbbbcbbbcbbbcbbbcbbbcbbbcbbbcbbbcbbbcbbbcbbbcbbbcb",
   "bbcbbbcbbbcbbbcbbbcjbicgbcagccaibicibicgbcagccaibbabcbabcbabcbabcibicobcaibivibivibivfbbacbe",
   "cbvbobbdodbbacbecbvdoebcacbecbadoibfcdocadbbacbecbvcobalwfqgrcfbtbubictbubibtifbBbbBcfqbwjfb",
   "tbuefcxdfbnbibjlfbnbfbxkfbwfqbakqblbkcagldnbibjbkkldnbibjbankdaBhppaneeybedymepachbcehbcchbb",
   "dccbdcbbbhbcchbnfcghbcbhbcbhbcbhecbhbbecbbedbbchcbccfnbcebbhbnchbbbhqlBjsbcbbesblcheafnfhcne",
   "hbnchbnchbnhhbnBfhcnchbnbhbnBfhKinihbibjbibjuhcnhhbibjDdhbnBehznBohgnCuhwalhvaCilDahwlHbhbnj",
   "hbnCchinEhhbnJohbibjbibjbibjbibjbibjbibjbibjBelBshfnbibjBfnbibjbibjbibjbibjbibjqnJwhFbnbibjb",
   "ibjbibjbibjbibjbibjbibjbibjbibjbibjbibjClnbibjbibjBgnbibjJynBwhvnchgnBnhcaBghbaEbhBwcBwbbcbb",
   "dccbbcbbbcbbbcbbecbbbccbbcgbckdcbbbcbbbcbbbcbbbcbbbcbbbcbbbcbbbcbbbcbbbcbbbcbbbcbbbcbbbcbbbc",
   "bbbcbbbcbbbcbbbcbbbcbbbcbbbcbbbcbbbcbbbcbbbcbbbcbbbcbbbcbbbcbbbcbbbcbbbcbbbcbbbcbbbcbbbcbbbc",
   "bbbcbbbcbbbcbbbcbbbcbbbcbbbcbbbcbbbcbbbcbbbccbghbcbbbcbbdebcbbfaefblcfBmbbabbfabbcaCedhabkbf",
   "oabexdjahdbahdbahdbahdbahdbahdbahdbahdbaBgecfbtbubtbudfbtbubfbtbujfbrcfbrbfbtbucfbtbubibjbib",
   "jbibjbibjffbkkfcrefbrbfbinfchdfbibjbibjbibjbibjbrBiaBahbaDlhmaIghBaaqhbwdfbhbkbdbsbibjbibjbi",
   "bjbibjbibjchbibjbibjbibjbibjbrbicjbhjseecgbrfkchdsbkbdbfchbaDidcacecockbdbrDmdbfdkbdfaBrdba",
   "DqdbachelkhBgdBmhjabhqdBfhbaklBehilbhplBghklBnhplMihJTodCmhBFCfdbkBRzddaCdhjaBodgkcfKidbkdfq",
   "dkmcduabcbbbcbbbcbbbcbbbcbbbcbbbcbbbcbbbcbbbcbbbcbbbcbbbcbbbcbbbcbbbcbbbcbbbcbbbcbbbcbbbcbbb",
   "cbbbcbbbdbedybfkebfbkbcbbbcbbbcbbbcbbbcbbbcbbbcbbbcbbbcbbbcbbbcbbbcbbbcbbbcbbckceCsdkscegfia",
   "xojkcobcbbbcbbbcbbbcbbbcbbbcbbbcdbbcbbbcbbbcbbbcbbbcbbbcbbbcbbbcbbbcbbbcbbbcbbbcbbbcbbbcbbbc",
   "bbbcbbbcbbbcbbbcbbbcbbbcbbbcbbbcbbbcbbbcbbbcbbbcbbbcbbbcbbbcbbbcbbbkibbcbbbcbbccbbbcbbbcbbbc",
   "bbbcbbbkcobcbbbcbbbdbcbbbcdbbcbbbcbbbcbbbcbbbcbbbcbbbcbbbcbbbcbbbcbbfcbbfcbbbcbbbcbbbcbbbcbb",
   "bcbbbcbbbcbbecbbbcbbccbbcabcbbbabbbabbbcbbbcbbbcbbbcvadkbcbbbdckbbhdbeddbeedbexdcgcebgehbeda",
   "glchbpbhgaCadefiacgBydqgceiacfkmgasegddfbdbfcdbekmBcdiecfxdlecglabfBdddadebgBvdbecgeecgcedgn",
   "fbabkkmeacffdbebkjdkmfdbaBpdgecgcecgcejaddbeidbebgcakmcaefqdbkgddhbdbgbebgBydbebddecdcefdceb",
   "dbebdyacdbkcfldbgcecgcfbdckbgbekagdcagdcagdjahdbahdbaBrbboekjbbkcoeaDcbBjdcgbecgbecgbfbgbeca",
   "kmgaQNsdmaxdeaBxdeaDAuBdJMezOcdcaEcdBmahbmafbfabdbekdbnndbafdbabdbacdbacdbaEedroqaNzdbjbiqh",
   "CmdcaCcdhabhBgamdbpdhqehfbibjbfgaqebfcrcxbibjbibjbibjbibjbibjbibjbibjbibjcfbibjefdxdfbaefbrb",
   "ibjbibjbibjdfbnbrdnbabfbpcfeafdbaFfdcabqbadfbpdfbibjbfbnbfbrcfkmcfdncfBacbibfbjbobxboBabbibn",
   "bjbnbibjbfbibjcfkdbkBtdckBfddagdcagdcagdcadddacpbnbobhcpbabhenchkadqchcamdbaBadbatdbacdbapdc",
   "aodBiaEtdfadfeaBtldajhCbselrhcldhbanhdabhBvaBthbeFaaBdddaBxdpabeBbleaBgdeljaudbsidbsfaBmdfef",
   "aBedbabfBkdeaidbffsBqaBocBobDadcakmgaBkceaBkbeaBodiaCadlabflcbapcbahcbaccbalbbapbbahbbacbda",
   "CadmaLzdjawdkaidyagkbaBqkbajkCragdcabdbaBsdbacddabdcaxdbabfilxdchhlBfdiajlBwatdbacdfaflwdgld",
   "abfBadfabfCmaCedeaclcdqlcaBulbddebacefaeeedbaddbaBddcadeeabejlhajfhaBddclbfBdddlBgaidbhBcdce",
   "eaflhfjaCcddahfwdcailtdfailsdhaefmahlDcaCvdCdaBzcnaBzbhaglBkdeeiakmgakmedbkbdwcdafebrbkwbiac",
   "nIaaBflbaBqdbacebrcacdqaddCdaeeBddklbdiawdleelffwasdeeefBmavdhluaxdjabgbebgCbdpehfeaulkmbecd",
   "cebdjadebgBtddgeecgcecfbqefbekabqcazdhakmgadeBkdfebgiebakmefbdcgbdiaBjdbecfbdjacebgBwddgjecg",
   "edefeebfbgbekmbdbfbddfbaullasdbazddgdecgbebgcegfbecdbeCkahdbabdbaedbapdbakdbfgaBvdbedgiefakm",
   "gacecgbaidcacdcawdbahdbacdbafdbacebdcgbeegcacgcadgcabdgabgfafdcgcahedafelakdbabdcabdbaBmdbab",
   "ddggebabgcabgbaegbacgbebgbebdbebdcfbacfiaceBdaCbddgiecgdebgbeedffkmcfbabfbeddBeaBwddggebgbee",
   "gcebgcecdbfbdiakmGkaBvddgeecaegcebgcexfedceBiaBwddgiecgbebgcedfbdlakmganftaBrdbebgbecggebgbe",
   "bdbfgakmgaumBcaBbdcabebgbecgeebgfeeakmcldfbhhdHdaBsddgjebgcebfDwaBgcBgbkmjlmaidcabdcaidbacdb",
   "aydggbacgcacebgbebdbgbdbgbedfjakmCsaidcaBnddgeecaceegbebdbfbdbgBbabdkeBodgebgbdeeifbeiabdgec",
   "gdeBudnebgcedfbdffnaCvdhakfHaaBhdbfoakmgajdbaBldbghebagebgbebdffkakmtldacfBedcawebabghebgceb",
   "gceCvahdbacdbaBmdgedabebacebahebdbeiakmgagdbacdbaBgdfgbacebacgbebgbebdhakmLyatdcecgcfhacebdb",
   "gndbaBidcgfedacgbebgbenfkmbeDhabdpavliheprhnabfBJmdDyaEhsbafflaHodDXkaDtdcfnaBPgdqqbegdpeka",
   "FXrdfaWldKDdaBedmedgdekmCOsaVxdhaBfdbakmeacfDbdbakmgaBedcafebfkaBwdheffehekbfbhkakmbahlbavdf",
   "atdQqadkBodckdfkmHqaBgcBgbxlefDxaCxdeabebdCdghaeenkCmackbfbkbelacgoaJCadiaBVqdBpakdNFraekbah",
   "kbackbaLfdpabdBdaddcabdoaediaPgdDKuaEddfanddajdhakdcabhcebfeqFVgaJghkmgaQuhCyaBuecaxejaEmhCi",
   "aJmhkaBnhcaCihcgdedhggiqiechheBeheeCjhvaCohdebhEsaulmaulmaDjhjazlFfaBacBabBachbbasbBacBabbcb",
   "acccabccacccaecbaicebbabbbahbbalbBacBabccbaeccaicbahcbaBabccbaecbafcbabcdahcbaBabBacBabBacBa",
   "bBacBabBacBabBacBabBacBcbcazcbnzbbngbzcbnzbbngbzcbnzbbngbzcbnzbbngbzcbnzbbngbbcbbcaBymTshCde",
   "ehByeihbeohbechffpafebapeBQmakbbdubgagbIfahebarecahebacebafefaCkkBhabeEiaBtddahehkcakmeabdbh",
   "MiaBedberaBsdeekmfabpRwaBbdbkeekmIgaBedcebdkmeabfSmahdbaedbacdbapdbaHpdcajlheBpaBicBibhebkea",
   "kmeacfBEfaChlbhdlbpelCyaBtlbhplHmaedbaBbdbacdbabdcabdbakdbaedbabdbabdgabdeabdbabdbabdbaddbac",
   "dbabdcabdbabdbabdbabdbabdbacdbabdcaedbahdbaedbaedbabdbakdbardfaddbafdbardCaacnKkaBsheaDwhmap",
   "hcaphbaphbaBlhkanlGfhCeaBdhnaBsheajhhachoaghFyaJrhfoBCahearhdanhdaEpheaDrhgamheabhpamheaCehi",
   "akhgaBohiaBehcamheachCkaNchmaohcanhdakhfaCehhaphcalhgajhhaFrhbaDohkmBNqaCLFcdBgaGDudgaIodca",
   "INqdoaLBldpaXydDQwaUwdCFyaHHzdfaGFgdBOMXlabqBeaDsqEyaJgeDSFoaDSYozcaDSYozca"]

def partition : List (Nat × Nat × Nat) := partitionOf table

def ofShortNames (shortNames : List String) : CodeSet :=
  inClasses partition (shortNames.filterMap (position? names))

/-- The characters that a category, a group of categories or one of the words `any`, `assigned` and
`ascii` names. -/
def ofName? (name : String) : Option CodeSet :=
  if looseName name == "any" then some .all
  else if looseName name == "assigned" then some (ofShortNames ["Cn"]).complement
  else if looseName name == "ascii" then some (.range 0 0x7f)
  else
    match position? names name with
    | some kind => some (inClasses partition [kind])
    | none =>
      (groups.find? fun (group, _) => group.any fun n => looseName n == looseName name).map
        fun (_, members) => ofShortNames members

end FeatureFlags.Unicode.Category
