import FeatureFlags.Unicode.CodeSet

/-! # Classes of characters for text boundaries -/

namespace FeatureFlags.Unicode.Boundary

/-- The names of the classes for boundaries of grapheme clusters, in the order of their
numbers. The first class holds all other characters and has no name. -/
def graphemeNames : List (List String) :=
  [[], ["LV"], ["LVT"], ["EX", "Extend"], ["SM", "SpacingMark"], ["CN", "Control"],
   ["PP", "Prepend"], ["V"], ["L"], ["T"], ["LF"], ["CR"], ["ZWJ"],
   ["RI", "Regional_Indicator"]]

def graphemeTable : List String :=
  ["kfbkcfblsfDraBhfnabfWwaEidKpahdKdaBtdbabdbacdbacdbabdCeaggkaldbabfBuavdqabdDxahdbgbagdcacdba",
   "edBhabgbabdBeaBbdDnaldCgajdjabdyaedbajdbaddbafdBraddCaacgfajdBqaydbgBgdbeCcabdbebdbadeideebd",
   "cebahdkacdBdabdceCeabdbabdceedcacecacebdjabdkacdBaabdcacdbeCeabdbadecdeacdcadddabdBeacddabdl",
   "acdbeCeabdbadefdbacdbebacebduacdwagdbabdceCeabdbacdbeedcacecacebdhaddkacdBeabdChabdbebdcedad",
   "ebadebdjabdBoabddebdCdabdbaddeebaddbaedhacdlacdBdabdceCeabdbabecdbebdcebaddbaedhacdlacdpabem",
   "acdceCdacdbabdceedbadebadebdbgiabdkacdBdabdceCsabdeabdceddbabdbahebdsaceCjabdbabehdmaidDuabd",
   "babejdlahdCvacdBbabdbabdbabdeaceBxaodbefdbacdfaldbaBkdjabdDyaedbegdbacdcecdxacecdeaddqaednab",
   "dbabecdgabdpabdDuaDsiCuhDkjNladdBKkaedBcaddBdacdBeacdCmacdbehdiebdceldjabdBtaddbfbdEnacdBiab",
   "dEoaddeecddeeacebdgeddIlacdcebdCfabebdbehdbabdbabdcaidgekdcabdBwaBfdBxaedbeBvakdeeddBmajdmac",
   "dbeBeabeedcegdCeabdbecddebdbefdBwaieidcecdFwaddbandbehdeabdgabdcabecdHqaCmdUdabfbdbmcfyahfBx",
   "aqfDsaBhdEOcaddFlabdDsaBgdViagdEbacdBSQeaedbakdBgacdDcacdKmabddabdeabdxacecdbeeabdDfaceByaqe",
   "cdBaasdnabdBmaidzaldbebdmaBdidaddbeBvabdceedcecdcebdBkabdCpagdcecdcecdmabdiabdbeBuabdBzabdba",
   "ddcacdfacdbabdBpabecdcefabebdJcacebdcebdcebabebdsabbBbcbbBbcbbBbcbbBbcbbBbcbbBbcbbBbcbbBbcbb",
   "BbcbbBbcbbBbcbbBbcbbBbcbbBbcbbBbcbbBbcbbBbcbbBbcbbBbcbbBbcbbBbcbbBbcbbBbcbbBbcbbBbcbbBbcbbBb",
   "cbbBbcbbBbcbbBbcbbBbcbbBbcbbBbcbbBbcbbBbcbbBbcbbBbcbbBbcbbBbcbbBbcbbBbcbbBbcbbBbcbbBbcbbBbcb",
   "bBbcbbBbcbbBbcbbBbcbbBbcbbBbcbbBbcbbBbcbbBbcbbBbcbbBbcbbBbcbbBbcbbBbcbbBbcbbBbcbbBbcbbBbcbb",
   "BbcbbBbcbbBbcbbBbcbbBbcbbBbcbbBbcbbBbcbbBbcbbBbcbbBbcbbBbcbbBbcbbBbcbbBbcbbBbcbbBbcbbBbcbbBb",
   "cbbBbcbbBbcbbBbcbbBbcbbBbcbbBbcbbBbcbbBbcbbBbcbbBbcbbBbcbbBbcbbBbcbbBbcbbBbcbbBbcbbBbcbbBbcb",
   "bBbcbbBbcbbBbcbbBbcbbBbcbbBbcbbBbcbbBbcbbBbcbbBbcbbBbcbbBbcbbBbcbbBbcbbBbcbbBbcbbBbcbbBbcbb",
   "BbcbbBbcbbBbcbbBbcbbBbcbbBbcbbBbcbbBbcbbBbcbbBbcbbBbcbbBbcbbBbcbbBbcbbBbcbbBbcbbBbcbbBbcbbBb",
   "cbbBbcbbBbcbbBbcbbBbcbbBbcbbBbcbbBbcbbBbcbbBbcbbBbcbbBbcbbBbcbbBbcbbBbcbbBbcbbBbcbbBbcbbBbcb",
   "bBbcbbBbcbbBbcbbBbcbbBbcbbBbcbbBbcbbBbcbbBbcbbBbcbbBbcbbBbcbbBbcbbBbcbbBbcbbBbcbbBbcbbBbcbb",
   "BbcbbBbcbbBbcbbBbcbbBbcbbBbcbbBbcbbBbcbbBbcbbBbcbbBbcbbBbcbbBbcbbBbcbbBbcbbBbcbbBbcbbBbcbbBb",
   "cbbBbcbbBbcbbBbcbbBbcbbBbcbbBbcbbBbcbbBbcbbBbcbbBbcbbBbcbbBbcbbBbcbbBbcbbBbcbbBbcbbBbcbbBbcb",
   "bBbcbbBbcbbBbcbbBbcbbBbcbbBbcbbBbcbbBbcbbBbcbbBbcbbBbcbbBbcbbBbcbbBbcbbBbcbbBbcbbBbcbbBbcbb",
   "BbcbbBbcbbBbcbbBbcbbBbcbbBbcbbBbcbbBbcbbBbcbbBbcbbBbcbbBbcbbBbcbbBbcbbBbcbbBbcbbBbcbbBbcbbBb",
   "cbbBbcbbBbcbbBbcbbBbcbbBbcbbBbcbbBbcbbBbcbbBbcbbBbcbbBbcbbBbcbbBbcbbBbcbbBbcbbBbcbbBbcbbBbcb",
   "bBbcbbBbcbbBbcbbBbcbbBbcbbBbcbbBbcbbBbcbbBbcbbBbcbbBbcbbBbcbbBbcbbBbcbbBbcbbBbcbbBbcbbBbcbb",
   "BbcbbBbcbbBbcbbBbcbbBbcbbBbcbbBbcbbBbcbbBbcbbBbcbbBbcbbBbcbbBbcbbBbcbbBbcbbBbcbbBbcbbBbcbbBb",
   "cbbBbcbbBbcbbBbcbbBbcbbBbcbbBbcbbBbcbbBbcbbBbcbbBbcbbBbcbbBbcbbBbcbbBbcbbBbcbbBbcbbBbcbbBbcb",
   "bBbcbbBbcbbBbcbbBbcbbBbcbbBbcbbBbcbbBbcbbBbcbbBbcbbBbcbbBbcbbBbcbbBbcbbBbcbbBbcbbBbcbbBbcbb",
   "BbcbbBbcbbBbcbbBbcbbBbcbbBbcbbBbcbbBbcbbBbcbbBbcbbBbcbbBbcbbBbcbbBbcbbBbcbbBbcbbBbcbbBbcbbBb",
   "cbbBbcbbBbcbbBbcbbBbcbbBbcbbBbcbbBbcbbBbcbbBbcbbBbcbbBbcbbBbcbbBbcbbBbcbbBbcbbBbcbbBbcbbBbcb",
   "bBbcbbBbcbbBbcbbBbcbbBbcbbBbcbbBbcbbBbcbbBbcbbBbcbbBbcbbBbcbbBbcbbBbcbbBbcbbBbcbbBbcbbBbcbb",
   "BbcbbBbcbbBbcbbBbcbbBbcbbBbcmaxheaBxjNHyabdBCjaqdqaqdHzabfGcacdDcamfTtabdIsabdFtafdCMgaddbac",
   "dfaedBoaddeabdGjacdWbaedCnafdMfacdDbaedCsaldBxaedEsabebdbeCbapdBpabdcacdkaddbeBtadeedcecdcab",
   "geabdkabgByaddBkafdbeidqaceBsabdmacdbeBwadejdbebdbacgfaedbabebdDoadeddceedgabdcabdGbabddeidv",
   "acdceCdacdbabdbebdeecacecacebdjabdkacecahddafdCpabdcegdbabdcabdbaddbebaceddbgbdoacdDeadeidce",
   "ddbebdxabdDdabdcegdbebdcebdbecdbecdJbabdceedcaeecdbecdBbacdDeadeidcebdbecdEcabdbebdceidDxabd",
   "bebdcaedbefdJwadejdbecdJlabdfebacecaedbgbebgbebdFladeedcacdeebddabeBcakdBoagdbebgediabdjagdc",
   "eddBoaggndbecdPpabehdbagdbebdDeawdbabehdbecdbecdEsagddabdbacdbahdbgbdCoafebacdbacebdbebdNjac",
   "dcejacdbgbeBwacefddaceddxabdHXdaqfbdgapdQYyamddeddDSaafdChahdVkabhdaehSqabdbaCdehaedDdabdlac",
   "dBDAxacdbaefGYuaBudcaxdUwafddagdifidcahdBeaedFsaddCYdaCddeaBydiabdoabdwafdbapdCAiahdbardcahd",
   "bacdbafdDwabdGeahdOlabdCjaedToaedJuacdBCiahdEfahdDGtaBanTnafdBSXXoaBgfDsdEyfJgdFImfKYUia"]

def grapheme? (name : String) : Option CodeSet :=
  (position? graphemeNames name).map fun kind => inClasses (partitionOf graphemeTable) [kind]

def wordNames : List (List String) :=
  [[], ["LE", "ALetter"], ["Extend"], ["NU", "Numeric"], ["KA", "Katakana"], ["FO", "Format"],
   ["MN", "MidNum"], ["HL", "Hebrew_Letter"], ["ML", "MidLetter"], ["EX", "ExtendNumLet"],
   ["WSegSpace"], ["MB", "MidNumLet"], ["NL", "Newline"], ["LF"], ["CR"],
   ["DQ", "Double_Quote"], ["SQ", "Single_Quote"], ["ZWJ"], ["RI", "Regional_Indicator"]]

def wordTable : List String :=
  ["kabncmbosabkbabpeabqeabgbablbakdbibgfaBabeabjbaBabkabmBkabbcabfhabbbabicabbfaxbbaBfbbaSmbga",
   "BibEicfbbacbcaebbgbbgabbbidbbabbbaubbaDfbbaFjbbahcGkbbaBmbcaebbabbbiBpbbgbbgaBtcbabcbaccbacc",
   "babciaBbheaehbbbilagdgacgcalcbabfdaBrbvckdbabdbgbacbbcDvbbabbhcbdbagccbccbaeccbkddbcabbpacbb",
   "cBebBbccaDlblcbboakdBhbjccbcabgbabbcabccawbecbbjcbbdcbbfcsazbdcealbfaybbagbbacdfajcBqbycbdBh",
   "cCcbdcbbscbbhckbcccakdbaqbdcbaibcacbcawbbahbbabbdaebcabcbbhccacccadcbbiabceacbbadbcccakdcbka",
   "bbbabccadcbagbeacbcawbbahbbacbbacbbacbcabcbafceacccadcdabchaebbabbhakdccdbbcladcbajbbadbbawb",
   "bahbbacbbafbcabcbbicbadcbadccabbpacbcccakdjabbgcbadcbaibcacbcawbbahbbacbbafbcabcbbhccacccadc",
   "hadceacbbadbcccakdbabbqabcbbbagbdadbbaebdacbbabbbacbdacbdadbdambeafcdadcbaeccabbgabcoakdqafc",
   "ibbadbbaxbbaqbcabcbbhcbadcbaechaccbadbcabbcacbcccakdqabbdcbaibbadbbaxbbakbbafbcabcbbhcbadcba",
   "echaccgacbbacbcccakdbacbbcmaecjbbadbbaBpbccbbhcbadcbaecbbfadbbchadbcccakdkagbbadcbasbdaybbaj",
   "bbabbcahbdabceagcbabcbaicgakdcaccCjabccahcmaicbakdDjabccajclahcbakdBmabbxaccgakdlabcbabcbabc",
   "eaccibbaBkbeaucbaccfblcbaBkcjabcDwaucbakdmaeceadcbadccahcdaecnamcbabckdeccaBmbbabbfabbcaBrbb",
   "aMvbbaebcahbbabbbaebcaBpbbaebcaBhbbaebcahbbabbbaebcapbbaCfbbaebcaCpbcadcBgaqbqaDibcagbdaXwbc",
   "arbbkBabfaCxbdalbhasbecjatbdclasbccmanbbadbbaccCmaBgcjabccakdBhadcbfbckdgaDlbhafbccBibbcbbfa",
   "CsbkaBfbbamceamckakdEyaldBlaxbfcCfakcbaBdccabckdgakdwaBfcBxafcBvbrcibdakdrajcmadcBebnccbkdBs",
   "bocmaBkbuciakddadbkdBkbcalbfaBrbcadbqadcbavcebbcgbbccbdcbbfaHkbCmcKsbcagbcaBmbcagbcaibbabbba",
   "bbbabbbaBfbcaCbbbahbbabbdadbbahbdaebcagbeanbfadbbahbdahkbadkbabcbrcfiaclkablcabicmffbjpacjda",
   "bgpabjkabkffbakfbabbnabbqanbBzaBhcrabbeabbcakbbabbdafbgabbbabbbabbbaebbalbcaebfafbeabbraBpb",
   "BFhaCabCRuaIvbgaebdccbmaBmbbabbfabbcaCebhabbpabcxbjahbbahbbahbbahbbahbbahbbahbbahbbaBgcBvabb",
   "RwabkeabbBkagcbafefacbDoacccedaDnebaeefaBrbbaDqbraBgbBwaqeIaaBvebaDkeBPDwaBSvbCpaBubcaKjbdaq",
   "bkdcbuaBvbecbakcbaBfbccDcbccwaHqbcacbbabbbaibvaqbbcdbbcebbcxbfceabctaCabmaccBybsckakdgascgbd",
   "abbbacbbckdBcbiccaxbncmaBdbdaecBvbocoabbkdlabckakdgaBpbocjadbbcibcccakdBhadcByabcbadccaccfac",
   "cbabcBealbfccadbcckagbcagbcagbjahbbahbbaCgbgaElbicbacccakdgaQNsbmaxbeaBxbNGuahbmafbfabhbckhb",
   "anhbafhbabhbachbachbakhDubBhaNzbsaCmbcaCcbBoambeaqcdabimaqcdacjyadjbgbablbabgbiBaafbbaFfbcab",
   "fhableabgbablbakdbibgfaBabeabjbaBablaCeeccBfbdagbcagbcagbcadbBcadfeambbaBabbatbbacbbapbcaob",
   "BiaEtbCraCbbFgabcFaaBdbdaBxbpabcBfaBgbnaBebfaBmbfcfaBebcaBkbeaibbafbBqaGcbcakdgaBkbeaBkbeaBo",
   "biaCabmalbbapbbahbbacbbalbbapbbahbbacbdaCabmaLzbjawbkaibyagbbaBqbbajbCragbcabbbaBsbbacbdabbc",
   "axbkaxbjaBfbCnatbbacbkawbkaBabCsaCebgacbCmabbdcbaccfaecebbadbbaBdbcadceabcBgaBdbdaBdbBjaibba",
   "BcbcczaCcbkawbkatbnasbEgaCvbCdaBzbnaBzbnaBkbeciakdgakdBcbdafcbaxbJqaBqbbaccdacbqadbCdaecBdbk",
   "abbiawblcBfasbecBqavbBbaxbjadcCbbpcBfakdbccbccbbjaecBtblccabdeabckabdcazbhakdgadcBkbocbakdea",
   "bbccbbiaBjbbccabbjadcBwbocebeaecbacckdbbbabbBjasbbazbmcgabccbbcCkahbbabbbaebbapbbakbhaBvbmcf",
   "akdgaecbaibcacbcawbbahbbacbbafbbaccbbhccacccadccabbgabcfafbcccahcdafclakbbabbcabbbaBmbbabbjc",
   "babccabcbaecbafcbbbcbbnaccBdaCbbscebfakdeabcdbBeaBwbuccbbabbiakdGkaBvbhccajcxaebccBiaBwbrcda",
   "bblakdBmaBrbncbbhakdgaudCfapceakdHqaBsbpcDxaCmbkdvaibcabbcaibbacbbaybgcbacccaecbbbcbbccmakd",
   "CsaibcaBnbhccahcbbbabbbcBbabbkcBobhcbbeciabciabblcBubqcdabbsaCvbHraBhbpakdgajbbaBlbicbaicbbp",
   "akdyaBebcawcbaocCvahbbacbbaBmbgcdabcbaccbahcbbbciakdgagbbacbbaBgbfcbaccbafcbbhakdLyatbecjacc",
   "bbbcnbbaBibhcdafcnakdbcDhabbDbaBJmbDyaEhbraHobDXkaDtbpaBPgbqfbcgbpckaFXrbfaWlbKDdaBebsckdCOs",
   "aVxbhaBfbbakdgaDbbbakdgaBebcafclaBwbhcjaebmakdjavbfatbQqaBtbdakdHqaCmbEyaCxbeabcbbCdchaecnb",
   "CmacbbabbbclaccYGcaeebahebacebabeLbadeByabeoaeeEAiaEdbfanbdajbhakbdaccbaefGEmakdTyaBuccaxcUw",
   "afcdagcificcahcBeaecFsadcRbaDhbbaCtbbacbcabbcacbcaebbambbabbbahbbaCnbbaebcaibbahbbaBcbbaebba",
   "fbbabbdahbbaNcbcazbbazbbaBfbbazbbaBfbbazbbaBfbbazbbaBfbbazbbaibcaBydTsaCdceaByciabcoabcwafcb",
   "apcBQmaBfbgagbIfahcbarccahcbaccbafcfaCkbBhabcEiaBtbdahchbcakdeabbMjaBebbcraBsbeckdScaBcbeckd",
   "IgaBebccbbkdSrahbbaebbacbbapbbaHpblahcBpaCqbhcbbeakdBTuaebbaBbbbacbbabbcabbbakbbaebbabbbabbg",
   "abbeabbbabbbabbbadbbacbbabbcabbbabbbabbbabbbabbbacbbabbcaebbahbbaebbaebbabbbakbbarbfadbbafbb",
   "arbYeaBabgaBabgaBabDoaBasTnafcDAeakdBSUXbabfBeaDscEyaJgcLECua"]

def word? (name : String) : Option CodeSet :=
  (position? wordNames name).map fun kind => inClasses (partitionOf wordTable) [kind]

def sentenceNames : List (List String) :=
  [[], ["LO", "Lower"], ["UP", "Upper"], ["LE", "OLetter"], ["EX", "Extend"], ["ST", "STerm"],
   ["NU", "Numeric"], ["CL", "Close"], ["SC", "SContinue"], ["FO", "Format"], ["SP", "Sp"],
   ["AT", "ATerm"], ["SE", "Sep"], ["LF"], ["CR"]]

def sentenceTable : List String :=
  ["jabkbnckbosabkbfbheadhcaciblbakgcidabfbaBacbhbabhdaBabbhbabhhabmBaabkjabbbhbabjhabbeabbbheax",
   "cbahcybbaibbcbbbcbbbcbbbcbbbcbbbcbbbcbbbcbbbcbbbcbbbcbbbcbbbcbbbcbbbcbbbcbbbcbbbcbbbcbbbcbbb",
   "cbbbcbbbcbbbcbbbcbbbcbbbcbbbccbbcbbbcbbbcbbbcbbbcbbbcbbbcbbbccbbcbbbcbbbcbbbcbbbcbbbcbbbcbbb",
   "cbbbcbbbcbbbcbbbcbbbcbbbcbbbcbbbcbbbcbbbcbbbcbbbcbbbcbbbcbbbcbbccbbbcbbbcdbccbbbcbbccbbdccbe",
   "cbbccbbdcdbccbbccbbbcbbbcbbccbbbccbbcbbccbbdcbbbcbbcccbbdbcdbedccbbccbbccbbbcbbbcbbbcbbbcbbb",
   "cbbbcbbbcbbbccbbcbbbcbbbcbbbcbbbcbbbcbbbcbbbcbbbccbccbbbcbbdcbbbcbbbcbbbcbbbcbbbcbbbcbbbcbbb",
   "cbbbcbbbcbbbcbbbcbbbcbbbcbbbcbbbcbbbcbbbcbbbcbbbcbbbcbbbcbbbcbbbcbbbcbbbcbbbcbbbcbbbchbccbbc",
   "ccbbcbbecbbbcbbbcbbbcbbbcCrbbdBkbhdcbeamdoafbhabdbabdraEiebcbbbcbbbdbabcbbcaebbibcgabcbadcba",
   "bcbaccbbrcbajcBjbbccbdcdbbcbbbcbbbcbbbcbbbcbbbcbbbcbbbcbbbcbbbcbbbcbbbcfbbcbbbabcbbcccbBzcBw",
   "bbcbbbcbbbcbbbcbbbcbbbcbbbcbbbcbbbcbbbcbbbcbbbcbbbcbbbcbbbcbbbcbbbcbbbahebcbbbcbbbcbbbcbbbcb",
   "bbcbbbcbbbcbbbcbbbcbbbcbbbcbbbcbbbcbbbcbbbcbbbcbbbcbbbcbbbcbbbcbbbcbbbcbbbcbbbcbbbcbbbcbbccb",
   "bbcbbbcbbbcbbbcbbbcbbbccbbcbbbcbbbcbbbcbbbcbbbcbbbcbbbcbbbcbbbcbbbcbbbcbbbcbbbcbbbcbbbcbbbcb",
   "bbcbbbcbbbcbbbcbbbcbbbcbbbcbbbcbbbcbbbcbbbcbbbcbbbcbbbcbbbcbbbcbbbcbbbcbbbcbbbcbbbcbbbcbbbcb",
   "bbcbbbcbbbcbbbcbbbcbbbcbbbcbbbcbbbaBmccabddabicaBpbbfhaBtebabebacebacebabeiaBbdeafdmagggacic",
   "alebabjdfBrdvekgbacgbacdbeDvdbfbdhebgbagecdcebaeecdkgddcabddfmabjbdbeBedBbecaDldlebdoakgBhdj",
   "ecdcabibfbdcabecawdeebdjebddebdfejabfbabfdacfbazddeealdfaydbagdbacgfajeBqdyebgBheCcddebdsebd",
   "hekdcecfkgbaqddebaidcacdcawdbahdbabddaedcabebdhecacecadebdiabeeacdbaddcecakgcdkabdbabecadeba",
   "gdeacdcawdbahdbacdbacdbacdcabebafeeacecadedabehaedbabdhakgceddbeladebajdbaddbawdbahdbacdbafd",
   "cabebdiebadebadecabdpacdcecakgjabdgebadebaidcacdcawdbahdbacdbafdcabebdhecacecadehadeeacdbadd",
   "cecakgbabdqabebdbagddaddbaeddacdbabdbacddacddadddamdeafedadebaeecabdgabeoakgqafeidbaddbaxdba",
   "qdcabebdhebadebaeehacebaddcabdcacdcecakgqabddebaidbaddbaxdbakdbafdcabebdhebadebaeehacegacdba",
   "cdcecakgbacdbemaeejdbaddbaBpdcebdhebadebaeebdfaddbehaddcecakgkagdbadebasddaydbajdbabdcahddab",
   "eeagebabebaiegakgcacenaBwdbecdhefahdiebakgBnacdbabdbafdbaydbabdbakdbecdjebdcafdbabdbahebakgc",
   "aedBgabdxacegakglabebabebabeehceidbaBkdeauebacefdlebaBkejabeCfaBrduebdkgcfeagdeeeddebddecdhe",
   "ddeendmebdbekgeecaBmcbabcfabccaBrdbabbMudbaedcahdbabdbaedcaBpdbaedcaBhdbaedcahdbabdbaedcapdb",
   "aCfdbaedcaCpdcadecabfeacfxaqdqaDiccagbdaXwdbabfrdbkBadchdaCxddaldhasdeejatddecfjasdcemandbad",
   "dbacemaCadBgecfbabdeabdbecakgyabibfeabibfbadebjbekggaDldhafdceBidbebdfaCsdkaBfdbameeameiacfk",
   "gBedcafdlaBsdeaBadgalgBlaxdfeeaCbdkebaBdecabekggakgnabdefeaBfeBxafeBvdreidbacfkgcfcacflajeja",
   "dfdeBednecdkgBsdoemaBkduedacfdakgdaddkgBkdcfjbbcbbfaBrdcaddqadebaveedbegdbecddebdfaHkbCmebcb",
   "bbcbbbcbbbcbbbcbbbcbbbcbbbcbbbcbbbcbbbcbbbcbbbcbbbcbbbcbbbcbbbcbbbcbbbcbbbcbbbcbbbcbbbcbbbcb",
   "bbcbbbcbbbcbbbcbbbcbbbcbbbcbbbcbbbcbbbcbbbcbbbcbbbcbbbcbbbcbbbcbbbcbbbcbbbcbbbcbbbcbbbcbbbcb",
   "bbcbbbcbbbcbbbcbbbcbbbcbbbcbbbcbbbcbbbcbbbcbbbcbbbcbbbcbbbcbbbcbbbcbbbcbbbcbbbcbbbcbbbcbbbcb",
   "bbcbbbcbbbcbbbcbbbcjbbcbbbcbbbcbbbcbbbcbbbcbbbcbbbcbbbcbbbcbbbcbbbcbbbcbbbcbbbcbbbcbbbcbbbcb",
   "bbcbbbcbbbcbbbcbbbcbbbcbbbcbbbcbbbcbbbcbbbcbbbcbbbcbbbcbbbcbbbcbbbcbbbcbbbcbbbcbbbcbbbcbbbcb",
   "bbcbbbcbbbcbbbcbbbcbbbcbbbcbbbcjbicgbcagccaibicibicgbcagccaibbabcbabcbabcbabcibicobcaibicibi",
   "cibicfbbacbfcbabbdadbbacbfcdaebcacbeceaibfcfadbbacbfcdalkbjcecjdacidaiheabldacmfjbkjachbacfh",
   "achdfvabkfjbakjbabblachbbnachbanbBzaBherabceabccabbdccbdcbbbabcdafcgabcbabcbabcbaecbabbecbbe",
   "dbbcacbccfabcebeabbraqcqbddbcbbedOtaehBdachPfaBacBabYbaghhaohDbachBfakhPnawhClaehBgachTuaBwc",
   "Bwbbcbbdccbbcbbbcbbbcbbecbbbccbbcibdcbbbcbbbcbbbcbbbcbbbcbbbcbbbcbbbcbbbcbbbcbbbcbbbcbbbcbbb",
   "cbbbcbbbcbbbcbbbcbbbcbbbcbbbcbbbcbbbcbbbcbbbcbbbcbbbcbbbcbbbcbbbcbbbcbbbcbbbcbbbcbbbcbbbcbbb",
   "cbbbcbbbcbbbcbbbcbbbcbbbcbbbcbbbcbbbcbbbcbbbcbbbccbgabcbbbcbbdebcbbfadfeaBmbbabbfabbcaCedhab",
   "dpabexdjahdbahdbahdbahdbahdbahdbahdbahdbaBgeohoachcakheabfbdmabffabhqacfihQdabkbibfcaddkhcai",
   "hbadhbajdgebafdcafdeaDidcacecaddbaDmdbaedfaBrdbaDqdraBgdBwaqdTsaJTodCmaBGUfdCpaBudbabfKjdbac",
   "fqdkgcduabcbbbcbbbcbbbcbbbcbbbcbbbcbbbcbbbcbbbcbbbcbbbcbbbcbbbcbbbcbbbcbbbcbbbcbbbcbbbcbbbcb",
   "bbcbbbcbbbdeebakebabdbcbbbcbbbcbbbcbbbcbbbcbbbcbbbcbbbcbbbcbbbcbbbcbbbcbbbcdbceDcdcebabfdabf",
   "Bfajdcabcbbbcbbbcbbbcbbbcbbbcbbbcdbbcbbbcbbbcbbbcbbbcbbbcbbbcbbbcbbbcbbbcbbbcbbbcbbbcbbbcbbb",
   "cbbbcbbbcbbbcbbbcbbbcbbbcbbbcbbbcbbbcbbbcbbbcbbbcbbbcbbbcbbbcbbbckbbcbbbcbbccbbbcbbbcbbbcbbb",
   "cbbbdcabcbbbcbbbdbcbbbcdbbcbbbcbbbcbbbcbbbcbbbcbbbcbbbcbbbcbbbcbbfcbbfcbbbcbbbcbbbcbbbcbbbcb",
   "bbcbbbcbbecbbbcbbccbbcabcbbbabbbabbbcbbbcbbbcbbbcvadbbcbbbddbhdbeddbeedbexdfeeabetaCadcacfia",
   "ceBydseiacfkggasegddabdbacdbekgBcdiebabfxdnemaBdddaeeBvdoehacffabdkggafdbekdkgfdbaBpdoejaddb",
   "eidcecakgdadfxddabddeBydbebddecdcefdcebdbebdyaddcaldfecfddcekagdcagdcagdjahdbahdbaBrbbaobga",
   "DcbBjdiebfcecakggaQNsdmaxdeaBxdMNcaOcdcaEcdBmahbmafbfabdbekdbandbafdbabdbacdbacdbaEedBhaNzdc",
   "hqaCmdcaCcdBoamdeaqecibfcicfchhaqebacicaqhcachhaciblbacicfbigheabimafdbaFfdcabjbabfgachcacib",
   "lbakgcidabfbaBacbhbabhdaBabbhbabhbachbfchbibaCedceBfddagdcagdcagdcaddBcadjeamdbaBadbatdbacdb",
   "apdcaodBiaEtdCraCbdFgabeFaaBdddaBxdpabeBfaBgdnaBedfaBmdfefaBedcaBkdeaidbafdBqaBocBobDadcakgg",
   "aBkceaBkbeaBodiaCadmalcbapcbahcbaccbalbbapbbahbbacbdaCadmaLzdjawdkaidyabbcddbbaBqbbajbCragdc",
   "abdbaBsdbacddabdcaxdkaxdjaBfdCnatdbacdkawdkaBadCsaCedgacdCmabddebacefaeeedbaddbaBddcadeeabew",
   "acfiaBdddaBddBjaidbaBcdcezaCcdkawdkatdnasdEgaCvdCdaBzcnaBzbnaBkdeeiakggakggdwcdafebabdwbJqa",
   "BqdbacedacdqaddCdaeeBddkabdiawdleeaffwasdeeefBmavdBbaxdjadeCbdpecfBdakgbecdcebdjaeeBtdlecabg",
   "efbekabgcazdhakggadeBkdoebakgbadfbdcebdiaBjdbecabdjadeBwdoeedcfcaeebfcekgbdbabdbacfBgasdbazd",
   "mecfbacfbabecdbeCkahdbabdbaedbapdbakdbfgaBvdmefakggaeebaidcacdcawdbahdbacdbafdbacebdhecaceca",
   "decabdgabefafdcecahedafelakdbabdcabdbaBmdbabdjebabecabebaeebafebdbebdcflaceBdaCbdseedcfdakge",
   "abeddBeaBwduecdbabdiakgGkaBvdhecajebacffapfedceBiaBwdrecfbabdlakgBmaBrdnebdhakggaugBcaBbdcap",
   "eeakgcadfbahdHdaBsdpeDxaBgcBgbkgvaidcabdcaidbacdbaydgebacecaeebdbebdcebfbabfjakgCsaidcaBndhe",
   "cahebdbabdbeBbabdkeBodhebdeedacfdabeiabdleBudqebacfbdsaCvdHraBhdpakggajdbaBldiebaiebdcfnakgy",
   "aBedcawebaoeCvahdbacdbaBmdgedabebacebahebdbeiakggagdbacdbaBgdfebacebafebdhakgLyatdeecfhacebd",
   "bendbaBidhedafecflakgbeDhabdDbaBJmdDyaEhdraHodDXkaDtdpaBPgdqjbegdpekaFXrdfaWldKDdaBedsekgCOs",
   "aVxdhaBfdbakgeacfDbdbakggaBedcafebfkaBwdhecfhaedbflakgjavdfatdQqaBtdbacfkgHqaBgcBgbyabfDzaCx",
   "deabebdCdehaeendCmacdbabdbelaceoaJCadiaBVqdBpakdNFraedbahdbacdbaLfdpabdBdaddcabdoaediaPgdDKu",
   "aEddfanddajdhakddacebfejGEmakgTyaBuecaxeUwafedageijiecaheBeaeeFsadeRbaBacBabBachbbasbBacBabb",
   "cbacccabccacccaecbaicebbabbbahbbalbBacBabccbaeccaicbahcbaBabccbaecbafcbabcdahcbaBabBacBabBac",
   "BabBacBabBacBabBacBabBacBcbcazcbazbbagbzcbazbbagbzcbazbbagbzcbazbbagbzcbazbbagbbcbbcaBygTsa",
   "CdeeaByeiabeoabedabfsafebapeBQmakbbdubgagbIfahebarecahebacebafefaCkbBhabeEiaBtddahehdcakgeab",
   "dMjaBedberaBsdeekgScaBcdeekgIgaBedcebdkgSrahdbaedbacdbapdbaHpdlaheBpaBicBibhebdeakgBTuaedba",
   "Bbdbacdbabdcabdbakdbaedbabdbabdgabdeabdbabdbabdbaddbacdbabdcabdbabdbabdbabdbabdbacdbabdcaedb",
   "ahdbaedbaedbabdbakdbardfaddbafdbardYeaBacgaBacgaBacBWmadhCBvakgBNqaCLFcdBgaGDudgaIodcaINqdoa",
   "LBldpaXydDQwaUwdCFyaHHzdfaGFgdBOMXlabjBeaDseEyaJgeLECua"]

def sentence? (name : String) : Option CodeSet :=
  (position? sentenceNames name).map fun kind => inClasses (partitionOf sentenceTable) [kind]

end FeatureFlags.Unicode.Boundary
