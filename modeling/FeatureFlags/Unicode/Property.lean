import FeatureFlags.Unicode.CodeSet

/-! # Properties that a character has or has not, and simple case folding

Two characters are equal up to case if folding sends them to the same character. -/

namespace FeatureFlags.Unicode.Property

def asciiHexDigit : List String :=
  ["BwkhgBag"]

def alphabetic : List String :=
  ["CnBagBaBvbkbebfxbBfbRqemofhbbbDibBdsbccebbgbbdbbbubDfbFjiGkbBmcbgBpBnobbbcbcbbiBbeeBdlfCebho",
   "DybieiedkdcbqBwnDxyBhjcebfycttzhlfybgibiBqkmdhgCybqbdepntbicccwbhbbdediccccbbibecbfmckbedbge",
   "ccwbhbcbcbcefecccebhebbrgldbjbdbwbhbcbfdjbdbcdbpeveedbicccwbhbcbfdiccccjcecbfnbqcbgddbedcbbb",
   "cdcdddmefddbddbgbBonbdbxbqdibdbdicbdcbceBcebibdbxbkbfdibdbdicgcbendmnbdbBpcibdbdbbfehfwgbdbs",
   "dybjbbchigbbbiscnCgfhgbBzcbbbfbybbbtbdcfbbgboeBgbClibBketeqbBkCpCdbbcfqCmkecBmbbfbcBrbMvbech",
   "bbbecBpbecBhbechbbbecpbCfbecCpBlqqDicgdXwcrbBafCxdlhulvmumnbdbcmCactobebCpDlhBrfCskBfbmejxBe",
   "cflBseBaCcBceClcuBybxcldBxCabpbiBzBqcekBsbloCdwdkBkclfBrcdBpebgbcdbfHktBilKscgcBmcgcibbbbbbb",
   "BfcCbbhbbddbhdecgenfdbhEmbnbqnDxbebckbbdfgbbbbbbeblceffebrBpBFhCaCRuIvgedcmBmbbfbcCehbqxjhbh",
   "bhbhbhbhbhbhbBgBvbSbdzjhfcfeDigdbDmbefBrbDqrBgBwqTsJToCmBGUfCpBucKjdqkcuBvfidEjBnjcDzcCpccbb",
   "bivubBhyCamCqbbBsgdbbdkBhfBjnBddBzbmpbqqkfbCdjosxdCrbbbbydcqcelgcgcgjhbhbBrbogEtvQNsmxeBxMNc",
   "OccEcBmhmffmbnbfbbbcbcbEeBhNzsCmcCcBomEmfbFfBkBagBalDldgcgcgcdBjmbBabtbcbpcoBiEtCrCbKhBddBx",
   "BvBgnBefBrfBecBkeibfBqGcsBkeBkeBoiCamlbpbhbcblbpbhbcdCamLzjwkiygbBqbjCrgcbbBsbcdbcxkxjBfCntb",
   "ckwkBaCsCegcCmebcfibdbBdBqBddBdBjibBcBbCckwktnsEgCvCdBznBznBoBiBcdbfxJqBqbcdcqdCdbdBdkbiwBqs",
   "BuvBbxjCsBrfkCfjbnzxBzreiBjdbjCmbejckbbbBjsbBicbgeCkhbbbebpbkhCfxebicccwbhbcbfdiccccdbgbfhBc",
   "kbbcbbBmbkbbcbbebcdbbbBsCobdbeudBeCoccbbHcCcchzgBiClbbdbChCccbCtBbcovhHdCfDzCmBficbcibcbBebc",
   "ccceDpicBucgbbbcBbBzckrCufbsCvHrBhBfjbBtbhbbBxBecwboCvhbcbBsdbbcbdbbccygbcbBlbcbebbMpxjrbBpd",
   "dEhbDbBJmDyEhrHoDXkDtpBPgrgzFXrfWlKDdBvCPdVxhBfrDbrBesBwqeBfvftQqBtIdCmEyCxeCfhrCmcbbmcoJCai",
   "BVqBpkNFrebhbcbLfpbBddcboeiPgDKuEdfndjhkebIWfDhbCtbccbcccebmbbbhbCnbecibhbBcbebfbbdhbNcczbzb",
   "BfbzbBfbzbBfbzbBfbzbiCSyBfggIfhbrchbcbffCkBhbEiBtkhqbMjBesBsSqBcIuBecbTbhbebcbpbHpChCqdbdb",
   "BUiebBbbcbbcbbkbebbbbgbebbbbbbdbcbbcbbbbbbbbbbcbbcebhbebebbbkbrfdbfbrYeBagBagBaFMkCLFcBgGDug",
   "IocINqoLBlpXyDQwUwCFyHHzfGFg"]

def bidiControl : List String :=
  ["CIebJVlcBafCde"]

def bidiMirrored : List String :=
  ["BocsbbbBcbbbBdbbbBtbpbFMseCUncDQqckcCccocGvbHkedgdbdcdebebbbbejfbbsfejcbbbibBgcefbjcctfcjfcc",
   "eycqieuchcBPtoCwbcebcbdfefddoPnwcgboibhgdbefbccfebbdcckgccmtbecbbbcbbefcgdyclceebccceBrcibBo",
   "fbbbdffdebdfbbJwbTvedcbcocckBriQlkciDACrgfcGgcsbbbBcbbbBdbbbbcbcDDPnbCfbCfbCfbCfb"]

def caseIgnorable : List String :=
  ["BnbgblbBjbbbCtbebbbebccTjHkecebjcbbJrhHzbfbBxBtbbbcbcbbBsblgklbbBjbkvqbDxibkbeBhbbbBeBbDnlCg",
   "lebcbyyBrdBsbhcfjBpCgCdbbbeiebdhkcnbpbCgbeeibucBabccCfbececcddbBecdblcCfbefbcebucwgbbCgbcbbe",
   "ibhclcBebCjbmbBybdbCdbbdfdbehclcBdbCgbcbgbfcucBccCfceeibucBdbCubhdbbDmbchljDubcjjbbhCvcBbbbb",
   "bbCdobfbcflbBkjbDyebgbccczcedqenbccgbpbDqbXkdBKkdBdcBecBecCmcbhibcldbfbBtfBzbCncBibEodecjbgd",
   "IlccbCgbbhbbbbcigkcbBnbiBfBxeBwbbfbbfbBojmcBgeccbdCebbcdbbdCgiccCmgDedbnbhebgbdcByClnbBiDxRd",
   "bbdldndndncmfickbcbcfBxfbkbbnbqnBzBhEJrcEjdEvbpbDsBgBvbSbbBkedffbDpgDpdBQBubBWcgKkbDuebkbbBc",
   "eDccoBiDabxdDzddcibdbebzcfbFvcBasnbBmizlBudBwbceccrbvcCogccccmbibBjblbBzbbdccfcbbBbbocfcbbDw",
   "fjdErbcbebBDZsbFrrWbqdbmqBibcbGnbhbgblbBjbbbBvbBtcCpbvdTtbIsbFtfBNpgbBqbjWkdbcfeBodebGjcWbe",
   "BmbBafbbMdcDbeCslBxeEtbCcpBpbcckdBxecccbebkbBydBkfbiCkbmcCajkecbDrdcbbcgbcbGbbdivcCfcdbBlhdf",
   "CsgnbbbbbocDhicdbbxbDggbbecbcJeegcbcBbcDhicbbcEcbbbcgbbDxbbbcebfJzjbcJwcbbebFoeccebBgkBogcei",
   "bjgcdBunbcPqhbgbbDewchbcbcEsgdbbcbhbbCucdbbbNjclcCaffbbbxbHXdrgpQYymddDSafChhjeTodBocSobClr",
   "CmcbcYGpebhbcEUgcbeGYuBucxUydjqchBeeFsdCYdCdeByibobwfbpCAihbrchbcbffCkBhbGeoOebCjeTnfJucBCih",
   "EfiEBffBSXXpbBeDsEyJg"]

def cased : List String :=
  ["CnBagBaBvbkbebfxbBfbHnbeeIabBkhcBefDsbBqecccebbgbbdbbbubDfbFjiGkbBmjBpEFfBmbbfbcBrbeZwDicg",
   "DFulfBrcdCmHkCmKscgcBmcgcibbbbbbbBfcCbbhbbddbhdecgenfdbhEmbnbqnDxbebckbbdfgbbbbbbebgebceffeb",
   "rBgdcBFlCaCRuIvgedcmBmbbfbBTWcBusBeFcDydebCkccbbbivfbdBFpBrbogDcBEAihmfBNtBagBaBTtDcDsBkeBk",
   "EmlbpbhbcblbpbhbcRjbcdbBqbjBUzBznBzDpwkwEFiCmBGIqCmBMLkDhbCtbccbcccebmbbbhbCnbecibhbBcbebfbb",
   "dhbNcczbzbBfbzbBfbzbBfbzbBfbzbiCSykbuggKbCkDGkCqDAaBagBagBa"]

def changesWhenCasefolded : List String :=
  ["CnBaDmbkxbiBgbbbbbbbbbbbbbbbbbbbbbbbbbbbbbbbbbbbbbbbbbbbbbbbbbbbbbbbcbbbbbbbbbbbbbbbbcbbbbbb",
   "bbbbbbbbbbbbbbbbbbbbbbbbbbbbbbbbbbbbbbbcbbbbbbbcbbbcbdcebcbddcbcbbbbbcbbcbbcbdbbbcdbhcbcbcbb",
   "bbbbbbbbbbbbbbcbbbbbbbbbbbbbbbbbccbbbdbbbbbbbbbbbbbbbbbbbbbbbbbbbbbbbbbbbbbbbbbbbbbbbbbbbbbb",
   "bbbbhcbccbbebbbbbbbbJmbBqbbbdbibgbbdbbbcbrbjwbmddcbbbbbbbbbbbbbbbbbbbbbbbbbcccbbbccBzBwbbbbb",
   "bbbbbbbbbbbbbbbbbbbbbbbbbbbbjbbbbbbbbbbbbbbbbbbbbbbbbbbbbbbbbbbbbbbbbbbbbbbbbbbbbbbcbbbbbbbb",
   "bbbbcbbbbbbbbbbbbbbbbbbbbbbbbbbbbbbbbbbbbbbbbbbbbbbbbbbbbbbbbbbbbbbbbbbbbbbbbbbbbbbbbbbbbbbb",
   "bbbbbbbbcBmBwbEFgBmbbfbBFegDFukgBrcdMibbbbbbbbbbbbbbbbbbbbbbbbbbbbbbbbbbbbbbbbbbbbbbbbbbbbbb",
   "bbbbbbbbbbbbbbbbbbbbbbbbbbbbbbbbbbbbbbbbbbbbbbbbbbbbbbbbbbbbbbbbbbbbbbbbbbbbbbbbbbbbbbbbbbbb",
   "bbbfccbbbbbbbbbbbbbbbbbbbbbbbbbbbbbbbbbbbbbbbbbbbbbbbbbbbbbbbbbbbbbbbbbbbbbbbbbbbbbbbbbbbbbb",
   "bbbbbbbbbbbjiigkiiiiglbbbbbbbiiqBwcdcgfdcglemffdcgLlbdcgbBtqtbBFmBaCSuBwBwbbdcbbbbbbebbcbidb",
   "bbbbbbbbbbbbbbbbbbbbbbbbbbbbbbbbbbbbbbbbbbbbbbbbbbbbbbbbbbbbbbbbbbbbbbbbbbbbbbbbbbbbbbbbbbbb",
   "bbbbbibbbebBTYjbbbbbbbbbbbbbbbbbbbbbbbbbbbbbbbbbbbbbbbbbbbbbtbbbbbbbbbbbbbbbbbbbbbbbbbbbFfbb",
   "bbbbbbbbbbbdbbbbbbbbbbbbbbbbbbbbbbbbbbbbbbbbbbbbbbbbbbbbbbbbbbbbbbbbbbbbbkbbbbcbbbbbbbbebbbc",
   "bbbdbbbbbbbbbbbbbbbbbbbbfbfbbbbbbbbbbbbbbbebbbcdbfbbbbbbbybBIgDcBEAihmfBNtBaBUzBoFgBkGalbpbh",
   "bcCQcBzGbwEGoBgBGJwBgBULkBi"]

def changesWhenCasemapped : List String :=
  ["CnBagBaCgbkxbBfbCmbDgbBccoccbbeDpbsgBbbcbbbcdcbebfcbbccbhbcbbcdgfbkcGkbBqeccddbbgbbdbbbubBvd",
   "BhbfbFdiGkbBmkBnEFgBmbbfbcBrcdZwDicgDFulfBrcdHdbdbqbEjGacbbEocgcBmcgcibbbbbbbBfcCbbhbbddbhde",
   "cgenfdbhLlbdcgbBbbrBgdcBFlCaCRuEjbcbchDyhedcmBmbbfbBTWcBusBcFeocCkjpddcfbzbBeccehycBHcbBcDc",
   "BEAihmfBNtBagBaBTtDcDsBkeBkEmlbpbhbcblbpbhbcCOpBznBzDpwkwEFiCmBGIqCmBUKeCq"]

def changesWhenLowercased : List String :=
  ["CnBaDxxbhBhbbbbbbbbbbbbbbbbbbbbbbbbbbbbbbbbbbbbbbbbbbbbbbbbbbbbbbbcbbbbbbbbbbbbbbbcbbbbbbbbb",
   "bbbbbbbbbbbbbbbbbbbbbbbbbbbbbbbbbbbbbcbbbbdcbbbcbdcebcbddcbcbbbbbcbbcbbcbdbbbcdbhcbcbcbbbbbb",
   "bbbbbbbbbbcbbbbbbbbbbbbbbbbbccbbbdbbbbbbbbbbbbbbbbbbbbbbbbbbbbbbbbbbbbbbbbbbbbbbbbbbbbbbbbbb",
   "hcbccbbebbbbbbbbLdbbbdbibgbbdbbbcbrbjBjbibbbbbbbbbbbbbbbbbbbbbbbfbcbbccBzBwbbbbbbbbbbbbbbbbb",
   "bbbbbbbbbbbbbbbbjbbbbbbbbbbbbbbbbbbbbbbbbbbbbbbbbbbbbbbbbbbbbbbbbbbbbbbcbbbbbbbbbbbbcbbbbbbb",
   "bbbbbbbbbbbbbbbbbbbbbbbbbbbbbbbbbbbbbbbbbbbbbbbbbbbbbbbbbbbbbbbbbbbbbbbbbbbbbbbbbbbbbbbbcBm",
   "EHdBmbbfbBBuDiDGlbgBrcdMibbbbbbbbbbbbbbbbbbbbbbbbbbbbbbbbbbbbbbbbbbbbbbbbbbbbbbbbbbbbbbbbbbb",
   "bbbbbbbbbbbbbbbbbbbbbbbbbbbbbbbbbbbbbbbbbbbbbbbbbbbbbbbbbbbbbbbbbbbbbbbbbbbbbbbbbbjbbbbbbbbb",
   "bbbbbbbbbbbbbbbbbbbbbbbbbbbbbbbbbbbbbbbbbbbbbbbbbbbbbbbbbbbbbbbbbbbbbbbbbbbbbbbbbbbbbbbbjiig",
   "kiiiiglbbbbbbbiiyiiiiiiflflemflfLlbdcgbBtqtbBFmBaCSuBwBwbbdcbbbbbbebbcbidbbbbbbbbbbbbbbbbbbb",
   "bbbbbbbbbbbbbbbbbbbbbbbbbbbbbbbbbbbbbbbbbbbbbbbbbbbbbbbbbbbbbbbbbbbbbbbbbbbbbbbibbbebBTYjbbb",
   "bbbbbbbbbbbbbbbbbbbbbbbbbbbbbbbbbbbbbbbbbbtbbbbbbbbbbbbbbbbbbbbbbbbbbbFfbbbbbbbbbbbbbdbbbbbb",
   "bbbbbbbbbbbbbbbbbbbbbbbbbbbbbbbbbbbbbbbbbbbbbbbbbbbbbbbkbbbbcbbbbbbbbebbbcbbbdbbbbbbbbbbbbbb",
   "bbbbbbfbfbbbbbbbbbbbbbbbebbbcdbfbbbbbbbybBHAhBaBUzBoFgBkGalbpbhbcCQcBzGbwEGoBgBGJwBgBULkBi"]

def changesWhenTitlecased : List String :=
  ["DtBaCgbBpybibbbbbbbbbbbbbbbbbbbbbbbbbbbbbbbbbbbbbbbbbbbbbbbbbbbbbbbbcbbbbbbbbbbbbbbcbbbbbbbb",
   "bbbbbbbbbbbbbbbbbbbbbbbbbbbbbbbbbbbbbbcbbbbdcbbbcbdbfbcbddcbcbbbbbcbebcbdbbbcbdbbbebbcbcbbbb",
   "bbbbbbbbbbbbbcbbbbbbbbbbbbbbbbbdbbbbdbbbbbbbbbbbbbbbbbbbbbbbbbbbbbbbbbbbbbbbdbbbbbbbbbbbbbbb",
   "bbibccbbebbbbbbbbgbcbbbcdcbebfcbbccbhbcbbcdgfbkcGkbBrbbbdbddsbBbBjbcddbbbbbbbbbbbbbbbbbbbbbb",
   "bfbbcbcbCaBwbbbbbbbbbbbbbbbbbbbbbbbbbbbbbbbbbbjbbbbbbbbbbbbbbbbbbbbbbbbbbbbbbbbbbbbbbbbbbbbb",
   "bbbbbbbbcbbbbbbbbbbbbcbbbbbbbbbbbbbbbbbbbbbbbbbbbbbbbbbbbbbbbbbbbbbbbbbbbbbbbbbbbbbbbbbbbbbb",
   "bbbbbbbbbbbbbbbbbbbbbbbbbbBxBnFMegDFujbbJebdbqbEkbbbbbbbbbbbbbbbbbbbbbbbbbbbbbbbbbbbbbbbbbbb",
   "bbbbbbbbbbbbbbbbbbbbbbbbbbbbbbbbbbbbbbbbbbbbbbbbbbbbbbbbbbbbbbbbbbbbbbbbbbbbbbbbbbbbbbbbbbbb",
   "bbbbbbbbbbbbbhfbbbbbbbbbbbbbbbbbbbbbbbbbbbbbbbbbbbbbbbbbbbbbbbbbbbbbbbbbbbbbbbbbbbbbbbbbbbbb",
   "bbbbbbbbbbbbbbbbbjigkiiiigkiiiiociiiiiifbcgbddbciecciikdbcNebBhqebBGlBaCTqBwbbdcbbbbbbgbcbkb",
   "bbbbbbbbbbbbbbbbbbbbbbbbbbbbbbbbbbbbbbbbbbbbbbbbbbbbbbbbbbbbbbbbbbbbbbbbbbbbbbbbbbbbbbbbbbbb",
   "bbbbbbibbbebmBmbbfbBTWdbbbbbbbbbbbbbbbbbbbbbbbbbbbbbbbbbbbbbbbbbbbbbtbbbbbbbbbbbbbbbbbbbbbbb",
   "bbbbFfbbbbbbbbbbbbbdbbbbbbbbbbbbbbbbbbbbbbbbbbbbbbbbbbbbbbbbbbbbbbbbbbbbbbbbbbbbbkbbbcbbbbbb",
   "bbbebebbccbbbbbbbbbbbbbbbbbbblbbbbbbbbbbbbbbbebbbcbdbfbbbbbBabBHcbBcDcBEAihmfBOzBaBVhBoFgBk",
   "FzlbpbhbcCRbBzEvwEGoBgBGJwBgBULmBi"]

def changesWhenUppercased : List String :=
  ["DtBaCgbBpybibbbbbbbbbbbbbbbbbbbbbbbbbbbbbbbbbbbbbbbbbbbbbbbbbbbbbbbbcbbbbbbbbbbbbbbcbbbbbbbb",
   "bbbbbbbbbbbbbbbbbbbbbbbbbbbbbbbbbbbbbbcbbbbdcbbbcbdbfbcbddcbcbbbbbcbebcbdbbbcbdbbbfcbcbcbbbb",
   "bbbbbbbbbbbcbbbbbbbbbbbbbbbbbcbcbbdbbbbbbbbbbbbbbbbbbbbbbbbbbbbbbbbbbbbbbbdbbbbbbbbbbbbbbbbb",
   "ibccbbebbbbbbbbgbcbbbcdcbebfcbbccbhbcbbcdgfbkcGkbBrbbbdbddsbBbBjbcddbbbbbbbbbbbbbbbbbbbbbbbf",
   "bbcbcbCaBwbbbbbbbbbbbbbbbbbbbbbbbbbbbbbbbbbbjbbbbbbbbbbbbbbbbbbbbbbbbbbbbbbbbbbbbbbbbbbbbbbb",
   "bbbbbbcbbbbbbbbbbbbcbbbbbbbbbbbbbbbbbbbbbbbbbbbbbbbbbbbbbbbbbbbbbbbbbbbbbbbbbbbbbbbbbbbbbbbb",
   "bbbbbbbbbbbbbbbbbbbbbbbbBxBnEHcBrcdBDggDFujbbJebdbqbEkbbbbbbbbbbbbbbbbbbbbbbbbbbbbbbbbbbbbbb",
   "bbbbbbbbbbbbbbbbbbbbbbbbbbbbbbbbbbbbbbbbbbbbbbbbbbbbbbbbbbbbbbbbbbbbbbbbbbbbbbbbbbbbbbbbbbbb",
   "bbbbbbbbbbbbbbbbbbhfbbbbbbbbbbbbbbbbbbbbbbbbbbbbbbbbbbbbbbbbbbbbbbbbbbbbbbbbbbbbbbbbbbbbbbbb",
   "bbbbbbbbbbbbbbbbbbbbbbjigkiiiigkiiiiocCbbcebbbddbcebdecciikdbcebMzbBhqebBGlBaCTqBwbbdcbbbbbb",
   "gbcbkbbbbbbbbbbbbbbbbbbbbbbbbbbbbbbbbbbbbbbbbbbbbbbbbbbbbbbbbbbbbbbbbbbbbbbbbbbbbbbbbbbbbbbb",
   "bbbbbbbbbbbbibbbebmBmbbfbBTWdbbbbbbbbbbbbbbbbbbbbbbbbbbbbbbbbbbbbbbbbbbbbbtbbbbbbbbbbbbbbbbb",
   "bbbbbbbbbbFfbbbbbbbbbbbbbdbbbbbbbbbbbbbbbbbbbbbbbbbbbbbbbbbbbbbbbbbbbbbbbbbbbbbbbbbbbbbkbbbc",
   "bbbbbbbbbebebbccbbbbbbbbbbbbbbbbbbblbbbbbbbbbbbbbbbebbbcbdbfbbbbbBabBHcbBcDcBEAihmfBOzBaBVh",
   "BoFgBkFzlbpbhbcCRbBzEvwEGoBgBGJwBgBULmBi"]

def dash : List String :=
  ["BtbCAubBzbFKjbBNpbDBdgCjbBnbpbPabEOibcbBfcebBcbRebtbEhbCZWacBlbkbGnbFLobMgb"]

def defaultIgnorableCodePoint : List String :=
  ["GrbZxbBBobEGwcCKhcDhfDApfBafBxqGKybCZMpqJfbGebDbjCTLneHWxiBTKZlGBo"]

def deprecated : List String :=
  ["MrbBYvbDKtbbbDCjcDIjgBAvcBZRYkb"]

def diacritic : List String :=
  ["DqbbbCtbgbebccTjGdbifgrcebjcJtfIbbCdrbBbbbbcbbFeiecFececddCpBbDnlCglBicEwiBpkqBcCjbqbdeBcbCw",
   "bqbEgbqbEgbqbBvdCibqbhbEpbEgbqbEgbqbEfcqbEubEhbmgbbEdbnfCxcBbbbbbbecCodbcCkbEibbcBocefzhbbkc",
   "BBddBKmcBebFsljbNjdLgbuicbBwpclEabpbBmjCccCgblcCocCmgDezebgbcdByClDlmBllRdbbdldndndncEXkdMfb",
   "TmgEbeDrbBSMkbmcbbBccDecoBiDydEfcmbBlbFvbBbsCfeBkbDrbmbBkbFtdCneBzbDwfjdEycBDZsbBDpqKkbbbBvb",
   "BtcCpbBDkbBTngbBqbjYndebGjcVzgBmbBafPjdCslBxeHkbBpbCucEqcCkbCybjdEacGwcDccqbyhdfDldbcncDrbdb",
   "EtcJrcEwbEocElbKjcJycebGabDfbsbDdbQfbJybbcDdbQjcxbHYapQZpbDSafChhVscVarDccYGcebhbcLThBucxUyd",
   "dgiichBeeFMwCkHmhOlbCjeBDmcBCihEfdbd"]

def emoji : List String :=
  ["BjbgbfkEhbebLYrbmbIibwbDmgpcOdcmbGkbzledHrbIxckbjbCgebfjbcbcccbebcbbccbdbdcidfbbbfmlccbbcbbs",
   "bccsgbbbcdcfbcceclcfccbfcbbbcucfgbecbebcbcgbbcbbbbbgbdbgbkcpbcbebbbedbblcBwdjbobobOicRvdtcBz",
   "bebBVubmbXdbbbGMRqbHubGecmcobckCxBabcxbubcjvcGsBicEiccbdcDfcdbKdbCllgbyhccimbcecbecnccbicjbf",
   "dmdidcbbbebgbdbgDiBwCsficdekdbbcdbckItmebKxBvbkbHdEindkfCehpclgj"]

def emojiComponent : List String :=
  ["BjbgbfkMBjbIfbDFTrbDOIwBaTnfCEaeBSVUqDs"]

def emojiModifier : List String :=
  ["HHIxf"]

def emojiModifierBase : List String :=
  ["OLhbIlbqeGSJvbCidcbcdEncclvtdbedbdhbbbybHtcebvbecGsddfDfbqdjblbWdbcbiigbjkcdCebCjcbcbbrdbnIv",
   "dBqj"]

def emojiPresentation : List String :=
  ["NHqcHxedbcbUbcvcBymBrbtbnbicrcfcibfbvbhcbbebcbhbecBcbBjbbbedbbCjdybobBHbcBzbebGPLebHubHibck",
   "CxBabbybubcfbdvcGsBhmjbCsbwmBrefmrdbdCtbbbHfcClnebysbBacnbDiDhBwCsgbddcdeelchjItmebKxBvbkbHd",
   "EindkfCehpclgj"]

def extendedPictographic : List String :=
  ["GnbebLYrbmbIibwbDmgpcOdcmbDrbCsbzledHrbIxckbjbCgebgbmbEkkEoclbbbbgbdbgbkcpbcbebbbedbblfBtdjb",
   "obobOicRvdtcBzbebBVubmbXdbbbGMRmJwndBfbCigmcobcksCfBbpkbubcjbejQsfMgiKgBwEyEmmDhBrmeCeikgBoi",
   "BeDemBvbkbQzJwBNi"]

def extender : List String :=
  ["HbbUqcBHubQzbYgbFhbDlbBCybExbDNfbCebXnbPibCqbHKjbBrfDzcDpdBQBubCGsbBLabwbFhbEebvcBFZvbDBkc",
   "CFbbBbbebBVbbLhbEmcTedBVjbBEOfcBTkcbbBQYacBUfbBGud"]

def graphemeBase : List String :=
  ["BgDrBhnbWwEiicgehbbbubIqhGkbBmcBycdBubbbcbcbjBbegrklbbBuvqbDxibgccbeBgcbbBeBdDllboBrjhdyebjb",
   "dbhpbzfbblfBfrBqCfCdbbbeiebdhkcBdbcbicccwbhbbdedbbcgcccbbncbdeyfbbgeccwbhbcbcbcedyebbhkcdbbm",
   "bbjbdbwbhbcbfdeibbcdbpcemhbicbicccwbhbcbfdbcbgcccpcbdeslbbgddbedcbbbcdcdddmfbbcddbddbvvgdbib",
   "dbxbqdbdetdcbccekhkblbdbxbkbfdccbbcycbcekbdolbdbBpcbbcfdbdbcedbkeBaccbsdybjbbchjcghhkcdmBwbc",
   "liinBlcbbbfbybbbkbcjbcfbbjkceBgycBbbbbbbobBksbfbcfBxibgbnBlBtebgbccczcedqenbccgbpbBobbfbcOnb",
   "echbbbecBpbecBhbechbbbecpbCfbecCpfBddBagDicgcZtdDlhsntdcjsonbdpCacbhibcljdkgkglfkgDlhfcBibbf",
   "CskBfeecdecbghbdBqcflBseBagldCfccdCebbjbbcignkgkgoDiBwkedibBdjmcBgecgCebbcdbbnBwicfpdCkfBrcl",
   "lbnbhebgbdcbfHkCmKscgcBmcgcibbbbbbbBfcCbbpbocgbtcdbjblfyhBxqccBbbndBhClFkeZqwlvCRscBgbNgdcf",
   "BtbbfbcCehcpxjhbhbhbhbhbhbhbhBhDqBiBabDlmIgBaCggqbDieDxfBrbDqbDijBwbBRIrdCdjNkuBvebkBgcDccgi",
   "HyccbbbivqbdbebzcfekgCeiCqkmynbBmizlbmBegBwbcecccbnblehbzbBpgcccldbibbckcBgbBzbbdccfcbbbyrci",
   "lgcgcgjhbhbCieEnbcbedkgQNsmxeBxMNcOccEcBmhmffbbybfbbbcbcbEvqRdcCchbBgqqkwBjbtbeefbFfeGbcBfdg",
   "cgcgcddhbhnccmbBabtbcbpcoBiEtfdeBtdDkbndbBvBtFbBddBxqBbeBkjBefBmkBebBleoBqGcckgBkeBkeBoiCalm",
   "bpbhbcblbpbhbcdCamLzjwkiygbBqbjCrgcbbBsbcdbcxbCuijBwtbcfBhdBbfbCmCeeucBvpebdbBdkjhjhCmBgBlgm",
   "jCcdBdcBbfBahemhDcCvCdBznBzhBqmkgBmiyicIaBfbBqdbccqdChBoiwljwseeBmBcuxjbbCcpheBebccbmBxecccb",
   "eozhkjBkfbjsiBjbdlCajbbiecbqbulsbBcdcegbcClhbbbebpblgBvbdnkicbicccwbhbcbfdbbbbeccccdbmhBckbb",
   "cbbBmbbbcpbbcdbbdbcBnCeicdbbvbbbdBeBwbcgbbcbbcbceikGkBvbcgecbcBbBkBzicbbcelkgntBrbbbcicgkgu",
   "BcBbdbbcebjxHdBvjbcbDwDfmicbcibcbybfbcgebdjkCsicBqiebeBbbkBogceijbgcdBunbcjnCvhkHaBiokgjbBmo",
   "bbgkBddBgzbhbcbCxhbcbBmvbjkggbcbBlecbbbbhkLytcejpbBkicdxDibpBynBJnDyEhbflHoDXkDvnBPgrgzFXrf",
   "WlKDdBemddkCOsVxhBfbkeDdbkgBehbkBwhpkkbhbvftQqCgHqDnDxCxfCelnCmeBcJCaiBVqBpkNFrebhbcbLfpbBdd",
   "cboeiPgDKuEdfndjhkcbcbFVkJqgQuGaEmCiJmkBncCifdwchBeeCjvCodbEsumumDjjzFfDhbCtbccbcccebmbbbhb",
   "CnbecibhbBcbebfbbdhbNccLgcVqCdeByibobhBRwBfggKbCkFqBtkhckecMiBesBsekfbRwBcekIgBeclebSmhbebcb",
   "pbHpcjBwCqhbekecBEfCqCyCjHmebBbbcbbcbbkbebbbbgbebbbbbbdbcbbcbbbbbbbbbbcbbcebhbebebbbkbrfdbfb",
   "rCacKkBseDwmpcpbpbBlkGsCeBdnBsejhcogFyBLwerdndEpeDrgmebpmeCeikgBoiBecmecCkNcmocndkfCehpclgjh",
   "FrbDyBNqCLFcBgGDugIocINqoLBlpXyDQwUwCFyHHzfGFg"]

def graphemeExtend : List String :=
  ["BDoEiKphKdBtbbbcbcbbCulBwvqbDxhcgccbeBjbBeBbDnlCgjjbyebjbdbfBrdChjBqybBgCdbbbeiebdhkcBdbCgbb",
   "bceibjbkcBabccCfbececcddbBecdblcCfbefbcebucwgbbCgbbcbeibhdkcBebChbbbmbjbBobdbCdbbdfdbehclcBd",
   "bCgbccbbddbehclcBccCfcbbceibjbkcBdbCubebcdbbibDdbchmiDubcjlhCvcBbbbbbbCdobfbcflbBkjbDyebgbcc",
   "czcedqenbccgbpbBBbdBKkeBcdBdcBecCmcbhibcljbBtdbbEncBibEodecjbgdIlccbCgbbhbbbbcigkcbBwBfBxeBw",
   "kedBmjmcBgecgCebbcdbbfCeiccFwdbnbhebgbdcHqCmUebHnBhEOcdFlbDsBgVigEbcBSQeebkBgcDccKmbdbebzcfb",
   "FvcBasnbBmizlbbBsdBwbcecccbBkbCpgccccmbibBvbBzbbdccfcbbBqcibJebcbebBDZsbBCjqqqOccXhbIsbFtf",
   "CMgdbcfeBodebGjcWbeCnfMfcDbeCslBxeEtbCcpBpbcckdBxecchbCjdBkfbiCkbmcCajbbiecbDrdcegbcbGbbdivc",
   "CfcbbbbmbjbohdfCpbcgbbcbbdedbbocDhicdbbxbDdbcgbbcbbcbcJbbcegcbcBbcDhicbbcEcbbbciDxbbbcebfJzj",
   "bcJlbkeebFoeccebBgkBogceibjgcdBunbcPqhbgbbDewchbcbcEsgdbbcbhbbCucdbbbNjclcCaffdxbHXtbgpQYymd",
   "dDSafChhBOibCleDdblcBDAxcGYzBucxUwfdgiichBeeFsdCYdCdeByibobwfbpCAihbrchbcbfDwbGehOlbCjeToeJu",
   "cBCihEfhBTCAfDsEyJg"]

def graphemeLink : List String :=
  ["DNpbExbExbExbExbExbExbExbEfcqbEubEhbExbHtbGycCPlcBebGbbZdbItbDxcCscGQtbBUKkbBlbFvbFmbEebLxb",
   "JmbBJSrbCHibBpbobCfbErcFjbEmbGybDubEydEjbExbJsbExbEobEmbKjbJzcGfbDfbsbDdbQfbKacDdbQjcYZcb"]

def hexDigit : List String :=
  ["BwkhgBagDSLlkhgBag"]

def hyphen : List String :=
  ["BtbExbBVwbGZzbDBdcFIbbBClbCZUlbGnbDjb"]

def idsBinaryOperator : List String :=
  ["SEacckTdb"]

def idsTrinaryOperator : List String :=
  ["SEcc"]

def idsUnaryOperator : List String :=
  ["SEoc"]

def idCompatMathContinue : List String :=
  ["GwcfbMAgbdlbpOhbebwbGJJebzbBfbzbBfbzbBfbzbBfbzb"]

def idCompatMathStart : List String :=
  ["MWwbebwbGJJebzbBfbzbBfbzbBfbzbBfbzb"]

def idContinue : List String :=
  ["BwkhBaebbBaBvbkbbbcbfxbBfbRqemofhbbbrEnbccebbgfbbbubDfbFjbfcGkbBmcbgBpiBtbbbcbcbbiBbeeBdlfCw",
   "eDybickbtcbqChcDxoCcebcbcBusBcelfybgiCxbEzckbtbicccwbhbbdecjccceibecbfcmkbbbcdbgeccwbhbcbcbc",
   "cbbfeccddbhebbhqldbjbdbwbhbcbfckbdbdcbpeckjhbdbicccwbhbcbfcjcccdhdecbfckbbqcbgddbedcbbbcdcdd",
   "dmefddbecbgbokqnbdbxbqcjbdbehcbdcbceckqebibdbxbkbfcjbdbehcgcbeckbdmnbdbBzbdbffehfckkgbdbsdyb",
   "jbbchdbegbbbigkccnCgfpbkBncbbbfbybbbxcfbbbhbkceBgbxcgklbbbbbekbBkeubsbBkjbCfCwgDacBmbbfbcBrb",
   "MvbechbbbecBpbecBhbechbbbecpbCfbecCpcdjjoqqDicgdXwcrbBafCxdlhwjwlumnbdbcmDgdbecckBhdblgDlhBr",
   "fCskBfbmemkBocflBseBaglBlBceClbBdclgknbiobqBxCzdkrjmEmmCeikdBxclfBrcdqdbBnfUocgcBmcgcibbbbbb",
   "bBfcCbbhbbddbhdecgenfdbhpcBxctbBcbnbqnBznebdmrbebckbbcggbbbbbbqceffebrBpDZbIvgjmBmbbfbcCehbp",
   "yjhbhbhbhbhbhbhbhbBgTxdzpbfcfeDichbDrfBrbDqrBgBwqTsJToCmBGUfCpBucKjdBcuBwekbElBljcDzcCpccbbb",
   "ivCcebtCamCskkgydbbBxcBkmBddCnolgBfbCdjockgxdCvydcqcfkgcgcgjhbhbBrbogEtbcckgQNsmxeBxMNcOccEc",
   "BmhmffmbnbfbbbcbcbEeBhNzsCmcCcBomeqqqdcydBgfbFftkhBaebbBakDmdgcgcgcdBjmbBabtbcbpcoBiEtCrCbFg",
   "bFaBddBxpbBfBgnBefBrfBecBkeibfBqGcckgBkeBkeBoiCamlbpbhbcblbpbhbcdCamLzjwkiygbBqbjCrgcbbBsbcd",
   "bcxkxjBfCntbckwkBaCsCegcCmebcfibdbBdcdebBgBddBdBjibBezCckwktnsEgCvCdBznBznBoikgBmdfbxJqBqbcd",
   "cqdCdBhkbiBhBfwBqvBbxjCtBfqjCihbnzhkgCbbkeeiBkcbjCreebnbbBjsbBlgeCkhbbbebpbkhChfkgebicccwbhb",
   "cbfbkcccdcbgbfhchdflkbbcbbBmbkbbcbbebincBdCxfkeeBeCsbbikGkCccjxgBiCndblkBmCfhkguBcBbcpekghHd",
   "ChDxCwvicbcibcbBebccjmkCsicBucibcBbClibiCwdbsCvHrBhpkgjbBtbjpkyBecwboCvhbcbBsdbbcbjikggbcbBl",
   "bcbghkLyxjrbBpdfnlDhbDbBJmDyEhrHoDXkDtpBPgqwkFXrfWlKDdCgCOsVxhBfbkgDbbkgBecflCdjemkjvftQqBtd",
   "kHqCmEyCxeCfhrCmcbclcoJCaiBVqBpkNFrebhbcbLfpbBddcboeiPgDKuEdfndjhkdcGErkTyBucxUwfdgiichBeeFs",
   "dRbDhbCtbccbcccebmbbbhbCnbecibhbBcbebfbbdhbNcczbzbBfbzbBfbzbBfbzbBfbzbicByTsCdeByibobwfbpBQm",
   "BfggIfhbrchbcbffCkBhbEiBtdockebMjBfrCgScBqIgBrSrhbebcbpbHplhBpCyekBTuebBbbcbbcbbkbebbbbgbebb",
   "bbbbdbcbbcbbbbbbbbbbcbbcebhbebebbbkbrfdbfbrFAakBNqCLFcBgGDugIocINqoLBlpXyDQwUwCFyHHzfGFg",
   "BONHgJg"]

def idStart : List String :=
  ["CnBagBaBvbkbebfxbBfbRqemofhbbbEzfbccebbgbbdbbbubDfbFjiGkbBmcbgBpCtBbeeBtBrBjcbDvbbpchckdcbqb",
   "bBeBdDllbyBhjcebfwebjbdbxzhlfybgrBqCgCcdbsbhkpqeicccwbhbbdedbqbncbdockbigeccwbhbcbcbcBfebbtd",
   "qjbdbwbhbcbfdbsbpcxblicccwbhbcbfdbBecbdpbrbbgddbedcbbbcdcdddmwbCaibdbxbqdbBadcbccBebeibdbxbk",
   "bfdbBfcbcpcrjbdbBpcbqbfdidygfsdybjbbchCgBwbcmhCgcbbbfbybbbkbcjbcfbbveBgbClibBkBbfElBrubqgeed",
   "bdchdenmbrBmbbfbcBrbMvbechbbbecBpbecBhbechbbbecpbCfbecCpBlqqDicgdXwcrbBafCxdlhsntosonbdpCaBj",
   "bebCpDlhBpbbfCskBfBxBecflBseBaCcxjCbDebDpBvriCcBenckBsBaBkBpdkBkclfBrcdBpebgbcdbfHkCmKscgcBm",
   "cgcibbbbbbbBfcCbbhbbddbhdecgenfdbhEmbnbqnDxbebckbbcggbbbbbbqceffebrBpDZbIvgedcmBmbbfbcCehbqx",
   "jhbhbhbhbhbhbhbhVedzjhfcfeDiefbDmbefBrbDqrBgBwqTsJToCmBGUfCpBucKjdqkcuBvqBfcDcBnjcDzcCpccbbb",
   "ivqbdbebxBdCaoByCkgdbbclBckxzBdhBvBcbqfbkkfbBpxdbiuxdbdBybbdccfcbbbydclhdmgcgcgjhbhbBrbogEl",
   "BdQNsmxeBxMNcOccEcBmhmffbbkbnbfbbbcbcbEeBhNzsCmcCcBomEmfbFfBkBagBalDldgcgcgcdBjmbBabtbcbpco",
   "BiEtCrCbKhBddBxBvBgnBefBmkBecBkeibfBqGcsBkeBkeBoiCamlbpbhbcblbpbhbcdCamLzjwkiygbBqbjCrgcbbBs",
   "bcdbcxkxjBfCntbckwkBaCsCegcCmbpebdbBdBqBddBdBjibBcBbCckwktnsEgCvCdBznBznBkBmBcjxJqBqgcqdChBd",
   "kbiwBqsBuvBbxmCbCfccbnBtBgzBaBkBdbcbiBjdbmBwoevbbbBjsbztcClhbbbebpbkhBvBmicccwbhbcbfdbsbmfBe",
   "kbbcbbBmbbzbbbBsCbseudBeBwucbbHcBvBpeBkBwubChBrnbCtBbBlhHdBsEmCmBficbcibcbypbbbDqicBnqbbbBcb",
   "kBohbvblButbsCvHrBhBfjbBlrbBxBeEihbcbBmvbzgbcbBgobMptpbbnbBiEubDbBJmDyEhrHoDXkDtpBPgrgzFXrf",
   "WlKDdBeCPuVxhBfrDbrBesBwqeBfvftQqBtIdCmEyCxfbConCmcbbBcJCaiBVqBpkNFrebhbcbLfpbBddcboeiPgDKu",
   "EdfndjhkIWkDhbCtbccbcccebmbbbhbCnbecibhbBcbebfbbdhbNcczbzbBfbzbBfbzbBfbzbBfbzbiCSyBfggKbCkFq",
   "BtkhqbMjBesBsSqBcIuBecbTbhbebcbpbHpChCqhbBUiebBbbcbbcbbkbebbbbgbebbbbbbdbcbbcbbbbbbbbbbcbbce",
   "bhbebebbbkbrfdbfbrGOaCLFcBgGDugIocINqoLBlpXyDQwUwCFyHHzfGFg"]

def ideographic : List String :=
  ["SEwczjodBLdJToCmBFBkBHSiOccEcBSIkbBbJCaiBVqBpkNUlPgBDEiCLFcBgGDugIocINqoLBlpXyDQwUwCFyHHzf",
   "GFg"]

def joinControl : List String :=
  ["MDoc"]

def logicalOrderException : List String :=
  ["FKifEtfEDsdcbCCXmccbbc"]

def lowercase : List String :=
  ["DtBaBvbkbebBkybibbbbbbbbbbbbbbbbbbbbbbbbbbbbbbbbbbbbbbbbbbbbbbbbbbbbbbbcbbbbbbbbbbbbbbbcbbbb",
   "bbbbbbbbbbbbbbbbbbbbbbbbbbbbbbbbbbbbbbbbbbcbbbbdcbbbcbdcebcbddcbcbbbbbcbbcbbcbdbbbcccdgbcbcb",
   "bbbbbbbbbbbbbbbcbbbbbbbbbbbbbbbbbccbbbdbbbbbbbbbbbbbbbbbbbbbbbbbbbbbbbbbbbbbbbbbbbbbbbbbbbbb",
   "bbbbbhcbccbbebbbbbbbbCrbBkhcBefDsbBrbbbdbcesbBbBjbcddbbbbbbbbbbbbbbbbbbbbbbbfbbcbccBzBwbbbbb",
   "bbbbbbbbbbbbbbbbbbbbbbbbbbbbbjbbbbbbbbbbbbbbbbbbbbbbbbbbbbbbbbbbbbbbbbbbbbbbbbbbbbbcbbbbbbbb",
   "bbbbcbbbbbbbbbbbbbbbbbbbbbbbbbbbbbbbbbbbbbbbbbbbbbbbbbbbbbbbbbbbbbbbbbbbbbbbbbbbbbbbbbbbbbbb",
   "bbbbbbbbbBwBpEHbBrbeBDggDFujbbEnHkCnbbbbbbbbbbbbbbbbbbbbbbbbbbbbbbbbbbbbbbbbbbbbbbbbbbbbbbbb",
   "bbbbbbbbbbbbbbbbbbbbbbbbbbbbbbbbbbbbbbbbbbbbbbbbbbbbbbbbbbbbbbbbbbbbbbbbbbbbbbbbbbbbbbbbbbbb",
   "jbbbbbbbbbbbbbbbbbbbbbbbbbbbbbbbbbbbbbbbbbbbbbbbbbbbbbbbbbbbbbbbbbbbbbbbbbbbbbbbbbbbbbbbbbbb",
   "bbbbbbjigkiiiigkiiiiociiiiiifbcgbddbciecciikdbcErbnbqnEfbdcdbBbbebebccieebBhqebBGlBaCTqBwbbd",
   "cbbbbbbebbcbidbbbbbbbbbbbbbbbbbbbbbbbbbbbbbbbbbbbbbbbbbbbbbbbbbbbbbbbbbbbbbbbbbbbbbbbbbbbbbb",
   "bbbbbbbbbbbbbbbbbbbbchbbbebmBmbbfbBTWdbbbbbbbbbbbbbbbbbbbbbbbbbbbbbbbbbbbbbbbbbbbbbtbbbbbbbb",
   "bbbbbbbbbbbbbbbbbbdFdbbbbbbbbbbbbdbbbbbbbbbbbbbbbbbbbbbbbbbbbbbbbbbbbbbbbbbbbbbbbbbbbbbbbbbb",
   "bbbkbbbbcbbbbbbbbbebbbcbbdbbbbbbbbbbbbbbbbbbbbfbfbbbbbbbbbbbbbbbebbbcbdbbbbbbbbbbbwdbbbdBFp",
   "BrbogDcBEAihmfBOzBaBVhBoFgBkFzlbpbhbcRjbcdbBqbjBXlBzEvwEGoBgBGJwBgBMMkBaBahbsBaBaBaebbbhblBa",
   "BaBaBaBaBaBaBaBaBaBaBaBaBaBaBaBaBcBczbgBazbgBazbgBazbgBazbgbbCSykbuggKbCkDHsBi"]

def math : List String :=
  ["BrbqdBfbBdbbbBtbebBlbBfbBCadcbBaccdUhdJWnbBbdlbdbnboevflfCnnebdcefsbebckbbcggbdcccbdbgdobbCq",
   "ybgbceceBgbbgcoKiieucDmbBeBbbbyblhRdcmkegecccdfobbbcglifcCfbbbBdejdMyCmJwTsBwvcgDASqbBFrgbb",
   "GgbqdBdbbbBdbbbFbbgeFEfcCXDwDhbCtbccbcccebmbbbhbCnbecibhbBcbebfbbdhbNccLgcByIIqebBbbcbbcbbkb",
   "ebbbbgbebbbbbbdbcbbcbbbbbbbbbbcbbcebhbebebbbkbrfdbfbrCac"]

def modifierCombiningMark : List String :=
  ["CKiccbFbbgbdcSncbddbBfb"]

def noncharacterCodePoint : List String :=
  ["DSDcBgUgcDSYocDSYocDSYocDSYocDSYocDSYocDSYocDSYocDSYocDSYocDSYocDSYocDSYocDSYocDSYocDSYoc"]

def otherAlphabetic : List String :=
  ["BGfbBdnWeobbbcbcbbCulBwnbhqbDxheeccebBjbBeqDylDxcdjbdbeEcbCimdhguCcccpbcfdkcBddCghcccckbkcBd",
   "dCgfecccebBecdbldCgibdbcvcwdedCghccccjckcBebChfddbdkbBofCfhbdbdiclcBddCghbdbdiclcpbmeCghbdbd",
   "kbkcBddCxgbbbiscCjbchsbDvbcgbcqbGhtjlbBkEgmbbcexeedbdchdenmbbkeCLocBecBecBecCotHgcBibEomejIo",
   "fCfkcuCwcldBxfBwpCidBejccCflBytPwBiCOnCaDKgBgBTQaiBicNqbibxfDkcByqbbCfbBmfBcmBteBwmBlbCpombi",
   "cBtdBybbdccfbBsffbJdiBDZvbDEdfCMgdbcfeBEieCnbMjcDbbJzdCboBtcldBtjjbCjdBkmscCfdBwnocDojcbgbcb",
   "GbkxeCghcccckbkcDgjbbcbbebcDznbdEcsJdhchBdcDepbbEclDzoJxnJngbcccdbbbFmhcgebBckBqfbeslBuoPrib",
   "hDfwboEsgdbbcbdbbdbCofbcbeNkejcbbBwhddYYnrFJcbbCdheDpcBDAybNKjhbrchbcbfDwbDHvbCZwBagBagBa"]

def otherDefaultIgnorableCodePoint : List String :=
  ["BGpbFIlcCKhcDHnbGLibDACpbDbjBWMIhbbBeDsEyJgFIm"]

def otherGraphemeExtend : List String :=
  ["DRybybNubybDybybIybbbecbcjcDzbybEpbpbDMrbBebBNkbfbbbfcDxbCtcBOibGCvcBTWtbEebBGNlcGWmbEmbKebo",
   "bjbDsbjbcbbdfbIqbmbJhbKcbYjbmbCHfbBEOkcBKXncggBTLAzDs"]

def otherIdContinue : List String :=
  ["HbbBBrbGAjjCLcbCIzcGKrbDAEjb"]

def otherIdStart : List String :=
  ["JHlcDGjbvbFVwc"]

def otherLowercase : List String :=
  ["GobpbThjhcBefDsbCabFCzbEPzClnbBiBlBAnbnbqnIdqBGqBaCWocBUGkcIcbEzddcBHiejbBIWsbcdbBqbjDDZhCk"]

def otherMath : List String :=
  ["DqbBHxdcbBacccKQybBbdlbBgeycocCnnebdcefsbebckbbdfgbdcccbdbgdeffCxfcebcbcbbbfccecesccbbbhbbgc",
   "LeeGmcbbybrbRdcmjfffcccdfobbbcgycCfbbbBdejcNecBfkPnwCleBgcDCLfbbbebIdbbbDCOvDhbCtbccbcccebmb",
   "bbhbCnbecibhbBcbebfbbdhbNcczbzbBfbzbBfbzbBfbzbBfbzbicByIIqebBbbcbbcbbkbebbbbgbebbbbbbdbcbbcb",
   "bbbbbbbbbcbbcebhbebebbbkbrfdbfbr"]

def otherUppercase : List String :=
  ["MQqqBGgBaGSIyBagBagBa"]

def patternSyntax : List String :=
  ["BhpkhBaebbBaeBihbbbcbbbcebebdbxbBfbLUeyipctbkLtBBsGeYgBeBRoTsEyOvdezpbCZQzcKbc"]

def patternWhiteSpace : List String :=
  ["jfsbDwbLYmcyc"]

def prependedConcatenationMark : List String :=
  ["CHcgIhbBxbOucDcbDVXybpb"]

def quotationMark : List String :=
  ["BibebFbbpbLWuizcFIdbRpendDABpeHhbebDmc"]

def radical : List String :=
  ["RPwBabDlmIg"]

def regionalIndicator : List String :=
  ["HGOkBa"]

def sentenceTerminal : List String :=
  ["BhbmbqbCAbbFrdGybBrdJmbCjbbbdcLhcCPwcBEkbecBDtbHqcGbcBtbfbMccNqeGgckcccBddHfcCncBJwbxcjdEUxd",
   "LubnbwcQnbBSHwbKkcItbdbOscDicDrbFwcFrdFocJpbBFCwbccChbdcGnbmbqbCnbEDwcBXdfBseHhcEneExdEzcgbq",
   "cDkcbcEebLmcEncOjcfpEbcJpdTxbbbJrcDjcQecBAqcCwcBCMbcFdbCnclbVhcLkbBDOgbLImb"]

def softDotted : List String :=
  ["EbcHobKvbBebCabubMibDubbbJMnbBzbnbdbFcbGbbQfbIgcEGgbGELhcBycBycBycBycBycBycBycBycBycBycBycBy",
   "cDFybLtcBab"]

def terminalPunctuation : List String :=
  ["BhbkbbblcdbBFybibTtbCfbCubobbdGybBrlbbJbcCcgbiBfbKbcBWucGqbegLzcBEjiBDtbEudCtcGbddbBneccMcc",
   "NqeGgckcbdBddHffCkcBJwbxcjdEUxdLubnbebkbbcdcQmcBSHvcKjdItfOscDicDrbFvdFrdExbqcJpbBFCwbccCfdb",
   "eGnbkbbblcdbCnbcbBPqbBwbBSobHrbLycFwgCqgDleBKqfBseHhhEieExdEzcgbqcDkfEebLmcEndmcNuedpEbcJpd",
   "TxbbbJrcDjcecPydBtbYvcCwcBYxfBAMzcFdbCndkbVhcLjcBDOgbLIle"]

def unifiedIdeograph : List String :=
  ["TSaJToCmBFBkBICscbbbckbbbbccdDVEcCLFcBgGDugIocINqoLBlpXyGRqHHzfGFg"]

def uppercase : List String :=
  ["CnBaDxxbhBhbbbbbbbbbbbbbbbbbbbbbbbbbbbbbbbbbbbbbbbbbbbbbbbbbbbbbbbcbbbbbbbbbbbbbbbcbbbbbbbbb",
   "bbbbbbbbbbbbbbbbbbbbbbbbbbbbbbbbbbbbbcbbbbdcbbbcbdcebcbddcbcbbbbbcbbcbbcbdbbbcdbhbcbcbcbbbbb",
   "bbbbbbbbbbcbbbbbbbbbbbbbbbbbcbcbbdbbbbbbbbbbbbbbbbbbbbbbbbbbbbbbbbbbbbbbbbbbbbbbbbbbbbbbbbbb",
   "hcbccbbebbbbbbbbLdbbbdbibgbbdbbbcbrbjBjbcddbbbbbbbbbbbbbbbbbbbbbbbfbcbbccBzBwbbbbbbbbbbbbbbb",
   "bbbbbbbbbbbbbbbbbbjbbbbbbbbbbbbbbbbbbbbbbbbbbbbbbbbbbbbbbbbbbbbbbbbbbbbbbcbbbbbbbbbbbbcbbbbb",
   "bbbbbbbbbbbbbbbbbbbbbbbbbbbbbbbbbbbbbbbbbbbbbbbbbbbbbbbbbbbbbbbbbbbbbbbbbbbbbbbbbbbbbbbbbbc",
   "BmEHdBmbbfbBBuDiDGlbgBrcdMibbbbbbbbbbbbbbbbbbbbbbbbbbbbbbbbbbbbbbbbbbbbbbbbbbbbbbbbbbbbbbbbb",
   "bbbbbbbbbbbbbbbbbbbbbbbbbbbbbbbbbbbbbbbbbbbbbbbbbbbbbbbbbbbbbbbbbbbbbbbbbbbbbbbbbbbbjbbbbbbb",
   "bbbbbbbbbbbbbbbbbbbbbbbbbbbbbbbbbbbbbbbbbbbbbbbbbbbbbbbbbbbbbbbbbbbbbbbbbbbbbbbbbbbbbbbbbbji",
   "igkiiiiglbbbbbbbiiCuemememfleKcbebddcdcbdfgbbbbbbecekcfbBaqtbBFmBaCSuBwBwbbdcbbbbbbebbcbidbb",
   "bbbbbbbbbbbbbbbbbbbbbbbbbbbbbbbbbbbbbbbbbbbbbbbbbbbbbbbbbbbbbbbbbbbbbbbbbbbbbbbbbbbbbbbbbbbb",
   "bbbbibbbebBTYjbbbbbbbbbbbbbbbbbbbbbbbbbbbbbbbbbbbbbbbbbbbbbtbbbbbbbbbbbbbbbbbbbbbbbbbbbFfbbb",
   "bbbbbbbbbbdbbbbbbbbbbbbbbbbbbbbbbbbbbbbbbbbbbbbbbbbbbbbbbbbbbbbbbbbbbbbbkbbbbcbbbbbbbbebbbcb",
   "bbdbbbbbbbbbbbbbbbbbbbbfbfbbbbbbbbbbbbbbbebbbcdbfbbbbbbbybBHAhBaBUzBoFgBkGalbpbhbcCQcBzGbw",
   "EGoBgBGJwBgBMMqBaBaBaBaBaBabbccbcccebiBaBaBacbecibhBbcbebfbbdhBbBaBaBaBaBaBaBaBaBaBaBaBezBhz",
   "BhzBhzBhzBhbGNlBiDBiBagBagBa"]

def variationSelector : List String :=
  ["JCtdbbDJCaqBWNKyJg"]

def whiteSpace : List String :=
  ["jfsbDwbBabIHjbDPnlBdcfbBvbFXwb"]

def xidContinue : List String :=
  ["BwkhBaebbBaBvbkbbbcbfxbBfbRqemofhbbbrEnbcddbbgfbbbubDfbFjbfcGkbBmcbgBpiBtbbbcbcbbiBbeeBdlfCw",
   "eDybickbtcbqChcDxoCcebcbcBusBcelfybgiCxbEzckbtbicccwbhbbdecjccceibecbfcmkbbbcdbgeccwbhbcbcbc",
   "cbbfeccddbhebbhqldbjbdbwbhbcbfckbdbdcbpeckjhbdbicccwbhbcbfcjcccdhdecbfckbbqcbgddbedcbbbcdcdd",
   "dmefddbecbgbokqnbdbxbqcjbdbehcbdcbceckqebibdbxbkbfcjbdbehcgcbeckbdmnbdbBzbdbffehfckkgbdbsdyb",
   "jbbchdbegbbbigkccnCgfpbkBncbbbfbybbbxcfbbbhbkceBgbxcgklbbbbbekbBkeubsbBkjbCfCwgDacBmbbfbcBrb",
   "MvbechbbbecBpbecBhbechbbbecpbCfbecCpcdjjoqqDicgdXwcrbBafCxdlhwjwlumnbdbcmDgdbecckBhdblgDlhBr",
   "fCskBfbmemkBocflBseBaglBlBceClbBdclgknbiobqBxCzdkrjmEmmCeikdBxclfBrcdqdbBnfUocgcBmcgcibbbbbb",
   "bBfcCbbhbbddbhdecgenfdbhpcBxctbBcbnbqnBznebdmrbebckbbcggbbbbbbqceffebrBpDZbIvgjmBmbbfbcCehbp",
   "yjhbhbhbhbhbhbhbhbBgTxdzpbfcfeDicccdbDrfBrbDqrBgBwqTsJToCmBGUfCpBucKjdBcuBwekbElBljcDzcCpccb",
   "bbivCcebtCamCskkgydbbBxcBkmBddCnolgBfbCdjockgxdCvydcqcfkgcgcgjhbhbBrbogEtbcckgQNsmxeBxMNcOcc",
   "EcBmhmffmbnbfbbbcbcbEeBhFjgIksCmcCcBokgqqqdcydBhbbbdbbbbbbbbEwtkhBaebbBakDmdgcgcgcdBjmbBabtb",
   "cbpcoBiEtCrCbFgbFaBddBxpbBfBgnBefBrfBecBkeibfBqGcckgBkeBkeBoiCamlbpbhbcblbpbhbcdCamLzjwkiygb",
   "BqbjCrgcbbBsbcdbcxkxjBfCntbckwkBaCsCegcCmebcfibdbBdcdebBgBddBdBjibBezCckwktnsEgCvCdBznBznBoi",
   "kgBmdfbxJqBqbcdcqdCdBhkbiBhBfwBqvBbxjCtBfqjCihbnzhkgCbbkeeiBkcbjCreebnbbBjsbBlgeCkhbbbebpbkh",
   "ChfkgebicccwbhbcbfbkcccdcbgbfhchdflkbbcbbBmbkbbcbbebincBdCxfkeeBeCsbbikGkCccjxgBiCndblkBmCfh",
   "kguBcBbcpekghHdChDxCwvicbcibcbBebccjmkCsicBucibcBbClibiCwdbsCvHrBhpkgjbBtbjpkyBecwboCvhbcbBs",
   "dbbcbjikggbcbBlbcbghkLyxjrbBpdfnlDhbDbBJmDyEhrHoDXkDtpBPgqwkFXrfWlKDdCgCOsVxhBfbkgDbbkgBecfl",
   "CdjemkjvftQqBtdkHqCmEyCxeCfhrCmcbclcoJCaiBVqBpkNFrebhbcbLfpbBddcboeiPgDKuEdfndjhkdcGErkTyBuc",
   "xUwfdgiichBeeFsdRbDhbCtbccbcccebmbbbhbCnbecibhbBcbebfbbdhbNcczbzbBfbzbBfbzbBfbzbBfbzbicByTs",
   "CdeByibobwfbpBQmBfggIfhbrchbcbffCkBhbEiBtdockebMjBfrCgScBqIgBrSrhbebcbpbHplhBpCyekBTuebBbbcb",
   "bcbbkbebbbbgbebbbbbbdbcbbcbbbbbbbbbbcbbcebhbebebbbkbrfdbfbrFAakBNqCLFcBgGDugIocINqoLBlpXyDQw",
   "UwCFyHHzfGFgBONHgJg"]

def xidStart : List String :=
  ["CnBagBaBvbkbebfxbBfbRqemofhbbbEzfbcddbbgbbdbbbubDfbFjiGkbBmcbgBpCtBbeeBtBrBjcbDvbbpchckdcbqb",
   "bBeBdDllbyBhjcebfwebjbdbxzhlfybgrBqCgCcdbsbhkpqeicccwbhbbdedbqbncbdockbigeccwbhbcbcbcBfebbtd",
   "qjbdbwbhbcbfdbsbpcxblicccwbhbcbfdbBecbdpbrbbgddbedcbbbcdcdddmwbCaibdbxbqdbBadcbccBebeibdbxbk",
   "bfdbBfcbcpcrjbdbBpcbqbfdidygfsdybjbbchCgBwbbnhCgcbbbfbybbbkbbkbcfbbveBgbClibBkBbfElBrubqgeed",
   "bdchdenmbrBmbbfbcBrbMvbechbbbecBpbecBhbechbbbecpbCfbecCpBlqqDicgdXwcrbBafCxdlhsntosonbdpCaBj",
   "bebCpDlhBpbbfCskBfBxBecflBseBaCcxjCbDebDpBvriCcBenckBsBaBkBpdkBkclfBrcdBpebgbcdbfHkCmKscgcBm",
   "cgcibbbbbbbBfcCbbhbbddbhdecgenfdbhEmbnbqnDxbebckbbcggbbbbbbqceffebrBpDZbIvgedcmBmbbfbcCehbqx",
   "jhbhbhbhbhbhbhbhVedzjhfcfeDigdbDmbefBrbDqrBgBwqTsJToCmBGUfCpBucKjdqkcuBvqBfcDcBnjcDzcCpccbbb",
   "ivqbdbebxBdCaoByCkgdbbclBckxzBdhBvBcbqfbkkfbBpxdbiuxdbdBybbdccfcbbbydclhdmgcgcgjhbhbBrbogEl",
   "BdQNsmxeBxMNcOccEcBmhmffbbkbnbfbbbcbcbEeBhFjgIksCmcCcBokEpbbbdbbbbbbbbEwBkBagBalCecBfdgcgcgc",
   "dBjmbBabtbcbpcoBiEtCrCbKhBddBxBvBgnBefBmkBecBkeibfBqGcsBkeBkeBoiCamlbpbhbcblbpbhbcdCamLzjwki",
   "ygbBqbjCrgcbbBsbcdbcxkxjBfCntbckwkBaCsCegcCmbpebdbBdBqBddBdBjibBcBbCckwktnsEgCvCdBznBznBkBm",
   "BcjxJqBqgcqdChBdkbiwBqsBuvBbxmCbCfccbnBtBgzBaBkBdbcbiBjdbmBwoevbbbBjsbztcClhbbbebpbkhBvBmicc",
   "cwbhbcbfdbsbmfBekbbcbbBmbbzbbbBsCbseudBeBwucbbHcBvBpeBkBwubChBrnbCtBbBlhHdBsEmCmBficbcibcbyp",
   "bbbDqicBnqbbbBcbkBohbvblButbsCvHrBhBfjbBlrbBxBeEihbcbBmvbzgbcbBgobMptpbbnbBiEubDbBJmDyEhrHo",
   "DXkDtpBPgrgzFXrfWlKDdBeCPuVxhBfrDbrBesBwqeBfvftQqBtIdCmEyCxfbConCmcbbBcJCaiBVqBpkNFrebhbcbLf",
   "pbBddcboeiPgDKuEdfndjhkIWkDhbCtbccbcccebmbbbhbCnbecibhbBcbebfbbdhbNcczbzbBfbzbBfbzbBfbzbBfbz",
   "biCSyBfggKbCkFqBtkhqbMjBesBsSqBcIuBecbTbhbebcbpbHpChCqhbBUiebBbbcbbcbbkbebbbbgbebbbbbbdbcbbc",
   "bbbbbbbbbbcbbcebhbebebbbkbrfdbfbrGOaCLFcBgGDugIocINqoLBlpXyDQwUwCFyHHzfGFg"]

def entries : List (List String × List String) :=
  [(["AHex", "ASCII_Hex_Digit"], asciiHexDigit),
   (["Alpha", "Alphabetic"], alphabetic),
   (["Bidi_C", "Bidi_Control"], bidiControl),
   (["Bidi_M", "Bidi_Mirrored"], bidiMirrored),
   (["CI", "Case_Ignorable"], caseIgnorable),
   (["Cased"], cased),
   (["CWCF", "Changes_When_Casefolded"], changesWhenCasefolded),
   (["CWCM", "Changes_When_Casemapped"], changesWhenCasemapped),
   (["CWL", "Changes_When_Lowercased"], changesWhenLowercased),
   (["CWT", "Changes_When_Titlecased"], changesWhenTitlecased),
   (["CWU", "Changes_When_Uppercased"], changesWhenUppercased),
   (["Dash"], dash),
   (["DI", "Default_Ignorable_Code_Point"], defaultIgnorableCodePoint),
   (["Dep", "Deprecated"], deprecated),
   (["Dia", "Diacritic"], diacritic),
   (["Emoji"], emoji),
   (["EComp", "Emoji_Component"], emojiComponent),
   (["EMod", "Emoji_Modifier"], emojiModifier),
   (["EBase", "Emoji_Modifier_Base"], emojiModifierBase),
   (["EPres", "Emoji_Presentation"], emojiPresentation),
   (["ExtPict", "Extended_Pictographic"], extendedPictographic),
   (["Ext", "Extender"], extender),
   (["Gr_Base", "Grapheme_Base"], graphemeBase),
   (["Gr_Ext", "Grapheme_Extend"], graphemeExtend),
   (["Gr_Link", "Grapheme_Link"], graphemeLink),
   (["Hex", "Hex_Digit"], hexDigit),
   (["Hyphen"], hyphen),
   (["IDSB", "IDS_Binary_Operator"], idsBinaryOperator),
   (["IDST", "IDS_Trinary_Operator"], idsTrinaryOperator),
   (["IDSU", "IDS_Unary_Operator"], idsUnaryOperator),
   (["ID_Compat_Math_Continue"], idCompatMathContinue),
   (["ID_Compat_Math_Start"], idCompatMathStart),
   (["IDC", "ID_Continue"], idContinue),
   (["IDS", "ID_Start"], idStart),
   (["Ideo", "Ideographic"], ideographic),
   (["Join_C", "Join_Control"], joinControl),
   (["LOE", "Logical_Order_Exception"], logicalOrderException),
   (["Lower", "Lowercase"], lowercase),
   (["Math"], math),
   (["MCM", "Modifier_Combining_Mark"], modifierCombiningMark),
   (["NChar", "Noncharacter_Code_Point"], noncharacterCodePoint),
   (["OAlpha", "Other_Alphabetic"], otherAlphabetic),
   (["ODI", "Other_Default_Ignorable_Code_Point"], otherDefaultIgnorableCodePoint),
   (["OGr_Ext", "Other_Grapheme_Extend"], otherGraphemeExtend),
   (["OIDC", "Other_ID_Continue"], otherIdContinue),
   (["OIDS", "Other_ID_Start"], otherIdStart),
   (["OLower", "Other_Lowercase"], otherLowercase),
   (["OMath", "Other_Math"], otherMath),
   (["OUpper", "Other_Uppercase"], otherUppercase),
   (["Pat_Syn", "Pattern_Syntax"], patternSyntax),
   (["Pat_WS", "Pattern_White_Space"], patternWhiteSpace),
   (["PCM", "Prepended_Concatenation_Mark"], prependedConcatenationMark),
   (["QMark", "Quotation_Mark"], quotationMark),
   (["Radical"], radical),
   (["RI", "Regional_Indicator"], regionalIndicator),
   (["STerm", "Sentence_Terminal"], sentenceTerminal),
   (["SD", "Soft_Dotted"], softDotted),
   (["Term", "Terminal_Punctuation"], terminalPunctuation),
   (["UIdeo", "Unified_Ideograph"], unifiedIdeograph),
   (["Upper", "Uppercase"], uppercase),
   (["VS", "Variation_Selector"], variationSelector),
   (["WSpace", "White_Space", "Space"], whiteSpace),
   (["XIDC", "XID_Continue"], xidContinue),
   (["XIDS", "XID_Start"], xidStart)]

def ofName? (name : String) : Option CodeSet :=
  (entries.find? fun (names, _) => names.any fun n => looseName n == looseName name).map
    fun (_, table) => setOf table

end FeatureFlags.Unicode.Property

namespace FeatureFlags.Unicode.Folding

/-- Runs of characters that folding moves: the distance from the first source of the run before, the
length, the distance from one source to the next, and the first target. -/
def table : List String :=
  ["CnBabDtEmbbBKulxbIqyhbJoBoycJxBydcLvhicMcrxcMtBubbJvbdcOogbbElcbbWxbccOxebbWybbbPcccbXacbbPg",
   "dbbSjbbbXdbbbXfbbbPmcbbXkbbbXncbbXtbbbXsbbbPtebbXzbbbYccbbYfbdcQbgbbYqbbbQicbbYtdbbQncbbYybb",
   "bQqccbZacccQuebbZibbbQzebbRdibbRmbbbRmcbbRpbbbRpcbbRsbjcRstjcSltbbTfbccTfebbPpbbbRfbucTlBobb",
   "PycjcVbybbQVdbbbWacbbPubbbQVedbbWgcbbOubbbYzbbbZcbfcWlJvbbBKrBrccBHxgbbBIdjbbBMxhbbBKecdbBKf",
   "ebbBLkccbBLldrbBKjsjbBLbBfbbBLbnbbBLvbbbBKkbbbBKqebbBLebbbBKycmcBLxybbBKsbbbBKzdbbBKqbbbBKnc",
   "bbBNccbbBMwbbbBNfddbBIhdqbBQmqBgbBPgDcrcBRdBqBbcBStCcbbBVjbhcBUwpBwcBVlDtBmbCAzEIpBmbRBcBnbb",
   "RCpgbbRCvBFfgbHOiDGabbBPibbbBPkbbbBPubcbBPxcbbBPybbbBQgbbbBRfbbbCKZjbbbKVahBrbGJoBtdbGLhMlCx",
   "cLJlFzbbLNddbbIpcBwcLPpEaibLTgqgbLTwqibLUmqibLVcqgbLVsrecLWjpibLWyBgibLYeqibLYuqibLZkqcbMAac",
   "cbLXocbbMAdcbbBKrkebLXqebbMAthbbBJcfcbMBgccbLXujbbBKifcbMBwccbLXycbbMCbmcbLXwccbLYacbbMCpLmb",
   "bBLhebbEdbbbIvhbbMPyBuqbMRgBjbbMSaBFnBabNYmCTuBwbQTcDsbbQUzcbbXvbbbLEjbbbYnddcQVggbbWvbbbYbb",
   "bbWubbbWwcbbQVrdbbQVujcbWdcBycQWfEdccRAihbbRApBTYkxcCKYzCmocCLBlGghcCLHrqBfcCLIhCtccCLLaebb",
   "LEfbfcCLLfnbbCLLscbbXpdccCLLxgkcCLMdubbXqbbbXgbbbXlbbbXwbbbXucbbZubbbYxbbbZtbbbCMWxbicCLNhqb",
   "bCLMabbbYsbbbLFabccCLOaebbXobbbCLOfebbCLOjgdcCLOpgbbPvzbbCLPuBIhDcbHLgBEDpbbDRBqBOmBabDSRh",
   "BVzBobDUNoGuBkbDUUiHklbDVBrmpbDVCdqhbDVCticbDVDbCQeBzbDXUeIawbDYAyEHkBgbECIiBGLcBgbFITkBUMq",
   "BibHDGc"]

def pairsFrom (previous : Nat) : List Nat → List (Nat × Nat)
  | gap :: run :: stride :: target :: rest =>
    (List.range run).map (fun i => (previous + gap + i * stride, target + i * stride)) ++
      pairsFrom (previous + gap) rest
  | _ => []

def pairs : List (Nat × Nat) := pairsFrom 0 (numbers (String.join table))

def points (codes : List Nat) : CodeSet := .ofRanges (codes.map fun code => (code, code))

/-- The characters of a set with every character equal to one of them up to case: first the
foldings are added, then all that fold to a member. -/
def close (s : CodeSet) : CodeSet :=
  let holds (t : CodeSet) (code : Nat) := t.holdsBetween code 0 t.ranges.size
  let folded := s.union (points (pairs.filterMap fun (source, target) =>
    if holds s source then some target else none))
  folded.union (points (pairs.filterMap fun (source, target) =>
    if holds folded target then some source else none))

def moves (c : Char) : Bool :=
  pairs.any fun (source, target) => source == c.toNat || target == c.toNat

end FeatureFlags.Unicode.Folding
