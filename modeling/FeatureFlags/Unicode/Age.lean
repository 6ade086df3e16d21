import FeatureFlags.Unicode.CodeSet

/-! # The version in which a character was assigned

The tables hold version 16, by which patterns are read. Quoted texts and the names of groups already
know the characters that version 17 adds, which are listed here by what matters to them. For the
characters of version 16 nothing changes in this respect. -/

namespace FeatureFlags.Unicode.Age

/-- The names of the versions, oldest first. Their class numbers in `table` begin with one, since
class zero holds the code points that are not assigned. -/
def names : List (List String) :=
  [["1.1", "V1_1"], ["2.0", "V2_0"], ["2.1", "V2_1"], ["3.0", "V3_0"], ["3.1", "V3_1"],
   ["3.2", "V3_2"], ["4.0", "V4_0"], ["4.1", "V4_1"], ["5.0", "V5_0"], ["5.1", "V5_1"],
   ["5.2", "V5_2"], ["6.0", "V6_0"], ["6.1", "V6_1"], ["6.2", "V6_2"], ["6.3", "V6_3"],
   ["7.0", "V7_0"], ["8.0", "V8_0"], ["9.0", "V9_0"], ["10.0", "V10_0"], ["11.0", "V11_0"],
   ["12.0", "V12_0"], ["12.1", "V12_1"], ["13.0", "V13_0"], ["14.0", "V14_0"],
   ["15.0", "V15_0"], ["15.1", "V15_1"], ["16.0", "V16_0"]]

def table : List String :=
  ["TibeeBebiebgbhsedhliojDlbfechBvbbekbferhCsbjebgihfidhcbbengekcbckcabbdjbbbqeahbbabbbaubbaBsb",
   "bkhbbecgbbbebbbebbbebbbesbcfbgfheibembbeCobbembbeBpbbkcecgeeCbbcgcbcgcbcgbjBcbceibcicbgjqgej",
   "qkclcmiqbaBmbcahbbuBnbbubbbecacqbnbarcbinckbbjjbbcdiiaBbbeabufblaehbnbqfkbibbjhfkbbbpbybibbb",
   "mBabfktbdedhgibmobcgCubcefbbepbbeBebchkbfebhoebaBeedhBbecadhBeiskBxebgoaChjcaduBulcaplbaBcmc",
   "abmbaltfaBfybacyfabBbiybnbqlngqcrbyiskxlybupsbrBbnbqbldbbhCbbcmsbblbmfbblcmzbckfmbqclcjbicjb",
   "qdbbaibcacbcawbbahbbabbdaebcabbbhhbcacbcadbbiiabbeacbbafbcavbblctbucabhbbbhbagbeacbcawbbahbb",
   "acbbacbbacbcabbbafbeacbcadbdabkhaebbabbhapbbkbukadbbahbbhbbbadbbawbbahbbacbbafbcakbbadbbadbc",
   "abbpabbdhcakbbnbhhabrgtbadbbaibcacbcawbbahbbacbbabhebcaibbkcacbcadbhabxcbeacbbadbckcalbbhgmk",
   "acbbagbdadbbaebdacbbabbbacbdacbdadbdaibbidbeafbdadbbaebcabkgabboabimbihfabqdbbuibbadbbaxbbak",
   "bbqfbcabybkhbbadbbaebhacbbackbrcabycacbckcakbhabvikbsbqcbbuibbadbbaxbbakbbafbcachhbbadbbaebh",
   "acbgabybbbacbcjcakbbacjbzmabtbqcbbxibbadbbaxbbmqbbmctbkgbbkbadbbaebbmbseadsbbhsbrcbckcakbgkd",
   "shkbabxcebasedayebajebabecahedabeeagebabebaiegakqcademaCgbeaBdbBlacbbabbbabvcbbvbbbabvbbgveb",
   "bvhbbvdbbabbbabbcvcbbvnbbvdbcafbbabbbagbbzbakbcacbcnBgaCucbaBhcbeckeaBbcemgcbebcbavcdehcbebc",
   "debapebabkbecidkelcmBlaBiebkfebkcebkhedkeegkBaeCmkelckBmbbabnfabncaBnbcgcibbbidnDmbflCqbflDe",
   "bglhebiClebibebaeecahebabebaeecaBnebibebaeecaBfebibebaeecahebabebaeecahebihebaxebiBfebibebae",
   "ecahebiBnebitecacmciBcedaBaigaDhebrcagrcablYgejlBdedaDdeiqhangbyhgbyjabyxgjaugmangbadgbacgma",
   "DpebhcakegakhgapebykegaDkebuhaBqebkfaCslkaBdhcqbamheamheabhdaBqhcafhlaBqicleaBaigakibldaciBg",
   "hBcicaciCllbaBdlcallgaklgaolcapqcxoyBxaCyjbybacBbBtjcybBbBrkdnmkgnCamiaemCekdapkdaBzkjscBbfa",
   "BrucaduiniaBjlenbtcqbvfaEehDkihjBckpqetbybsbmblcjFzbbcekDmbgkwbcagbcaBmbcagbcaibbabbbabbbabb",
   "baBfbcaCbbbapbbaobcagbbatbcadbbajbbaBvbbexbbggefgchcibghifgbkbaephbbgcaBbbbafiimdalbbcbddecg",
   "eidlbmbodqbrbtbypasbcehgbiejbkpaCfbcebhbipgbicjbkdlBwbbebjekblcreaDnbjemgJibogbbbeErbbebgBee",
   "CagchlimjbllmhqesbtBlbcedBbwalbvaFjbugbhFubkgDcbieigubchcgbibeDibcemgcikgihlibkclchqibjkkdle",
   "kklbmtlbmblemylbqebbmebcmBcbbmBjbbmbbbmebdmbbblhbcmhbogBfbdmybbmobbmhiejbnbkbncmBcgekqgJweTs",
   "gohgihjfkejBpkdqfkflBaqcaBgqbabxBiqdumqbviqbtzuerpubvBvibyBvibynjdkbldkejgkclEdihlcnfaBtibab",
   "nfabncaCcicnhabibmoabmxijahibahibahibahibahibahibahibahibaBgkyiekcitkblknhqcsftfubvdxlyBiaBa",
   "ebaDlemaIgeBaameeBaCebdedgbebbbaDgbcgcagbcgDqbbgfaBobbkbtbubaDqbbaqbyedmfxqiukcBbjabBaqgBdbc",
   "hbaBkbmlbhpgBcbchbiBybpgmbehBvbbwEpbehDvbchBfbbhJTeekxCmhBEXybwiikilbnjrvtfunxdyBSvedasecgqe",
   "bgmebgdebgbejaBwlLokuaBgkcmskinBckgqbrbnDkliaxiejfkcjEdkcmbrcmcnmqkmbndqbsbucqgrcugvcyfvexd",
   "BbcacybabybafydBbvadycxbqcnbmfkBsibxdaklgaCejiaCrkbsiamkgaBclcrcuDgklabkBdldaDalballeaclBfqb",
   "aCdkjaokcakkcaekBcleqCplyaflxnkagmcagmcagmjahmbahmbaBwqercqcvexeaDcrBulcaklgaQNscmaxleaBxl",
   "DAyaJXubcnChgdlcaEciBmahbmafbfabezbbafbbabbbacbbacbbaEebqmbyqaObbqyCmbcaCcbhabyBgfmbbgbhcyqg",
   "kigaebdkhqcrvbcgchkbbatbbaebeadbbgbbbaFfbcabbbaDqbcgDqbdagbcagbcagbcadbdahbbahbkadebddbmhba",
   "BahbathbachbaphcaohBiaEthfadheaBthdajhCxicqcsbamkbxdabqBvaBukFaaBdkdaBxkpaBcqeaBffbqefjadtBb",
   "ffaBrqfaBehbabhBkieaoiBqaBmfchBmfDchcakhgaBkseaBkseaBoqiaCaqlabqlybapybahybacybalybapybahyba",
   "cydaCaBbmaLzqjawqkaiqyagybaBqybajyCraghcabhbaBshbachdabhcabhwlbajlClqiajqBwatrbacrfafrBajcld",
   "abjBakfabkCmaCeneacrcnqrcaBureibacifaiibadibaBbicucadieajibuhajihaBglBgqBgaBnqeamqjaCcldaBdl",
   "caBblfailsqhaeqmahqDcaCvlCdaBzrnaBzrhagrBouiakugaBmBbdaBdBbiacBbIaaBflbaBqxbadxcacxqadBbCdab",
   "BbdzBouiaBquwaBayBmaBcxuaxvjaDameaBemgyjabqColbykabucaznhakngaCbnbaondubxiaBnqjaCvnerbqcxknb",
   "qfrbauqlasqbaBrqbsdzCkahrbabrbaerbaprbalrgaChqfakqgabrdqbaiqcacqcawqbahqbacqbafqbabujqcacqca",
   "dqcabrgabqfahqcahqdafqlakBbbabBbcabBbbaBmBbbakBbbabBbcabBbbaeBbbakBbbacBbiacBbBdaDmsbxbsbabs",
   "bubvcxBeaCuqiakqGkaCcqcasqurBiaCrqlakqganstaCenbvbygakngauBbBcaBarbucapreaqrhyHdaCiuDwaDfqma",
   "bqhxcabxcaixbacxbaBexbacxcamxjakxCsaivcaBuvcalvBbaCutiaCatcvxtbuftnaqyCfqhakzHaaBiBboakBbgaj",
   "sbaBtsbaoskaBdsdaBgscawsbaosCvahtbactbaBstdabtbactbajtiaktgagubacubaBlubacubaguhakuLyazuharz",
   "baBpzdaBczbBbDhabxpaByvnabvBHvjBqqbrDyaDvjmqbaejbqlaHorDXkaDvynaBPflbzjvBdzkaFXrBbfaWlrKDda",
   "CgBbCOsaVxmhaBfqbakqeacqDbybakygaBeqcagqkaCsqkakqbahqbavqfatqQqaCgBbHqaDnuDxaCrngveabvBvnjvh",
   "arnCmabsbtcvbxlacxoaJBpsfugviaBDbsSpxBpabBbjxNFraeybahybacybacmKzteypabzBdadvcabzoaeviaPgt",
   "DKuaEdqfanqdajqhakqcaiqFVgaJqBbgaQuBbCyaBuycaxyjaEmyCiaJmfkaBnfcabkGyflrcyvaCsiEsauzmauumaDj",
   "hjasjhuFfaDhfbaCtfbacfcabfcacfcaefbamfbabfbaefbhcfbaCnfbaefcaifbahfbaBcfbaefbaffbabfdahfbaNa",
   "fcicaLefcjcaByfZcrpafrbaprBQmaBfygagzIfahsbarscahsbacsbafsfaCkzBhabzEiaBtvdaovcakveacvMiaBfy",
   "raCgvfabvRwaBqzIgaBrBbeabBbSmahybaeybacybapybaHpqcaqqBpaCxsbveakseacsBEfaCquCyaCjvHmaenbaBbn",
   "bacnbabncabnbaknbaenbabnbabngabneabnbabnbabnbadnbacnbabncabnbabnbabnbabnbabnbacnbabncaenbahn",
   "baenbaenbabnbaknbarnfadnbafnbarnCaacnKkaBskeaDwkmapmcaombqbapmbapmwqkallcqdxBflbubmbllmblbmb",
   "lcmbldmbldmflimblhmblkmcnbvdxjmblbmclcmblkmelcmblkmssbxCeaBamblcmnaBiljmbseajlhacmoagtFyaBhm",
   "mqdrgmbqCsmbqcrummqBlmbqfmeqfrmqrmhqirClmbqbmbqHambqemcqbrCkmcqenhqfrymsqbsBpqbsDiqfmbnqmbnd",
   "mbnbmbnbmbnbmbndmbngmcnembnbmcnembnmmcqcrlmBwqCsmkqbrcsctbvcxeabzdynqdaeqdsctbubvcxdaEmmdzea",
   "fzDhqeubzgamveabypamqeaCeqiakqgaBoqiaBeqcacxkBbeacBbCkamtbxdvjrgsbtisitbsctmsbvmsbtdupsntfub",
   "vbxeucxbybubveufrnsgtlucxgvdxcvkugvbrcuivbxbydvxtzuDgvmaoucaevbxdzdvcydadvexczbBbfabBbgvtxey",
   "dzhxeydzbBbbzdxdybBbhaczhxdyczbBbcabBbiybzbBbgahyczhaFrxbaCdxBlBbkxBNoaccCLEtfhxcyBgaGDpleyb",
   "zgaIomcaINqroaLBltpaXyBaDQwaUwfCFwaccHHzxfaGFgzDFLeaccDSYoaccDSYoaccDSYoaccDSYoaccDSYoacc",
   "DSYoaccDSYoaccDSYoaccDSYoaccDSYoaccbabfBeaDsfEyaJghDSFmaHLXic"]

/-- The characters assigned in the named version or an earlier one. -/
def ofName? (name : String) : Option CodeSet :=
  (position? names name).map fun i =>
    inClasses (partitionOf table) ((List.range (i + 1)).map (· + 1))

end FeatureFlags.Unicode.Age

namespace FeatureFlags.Unicode.Addition

def alphabetic : CodeSet :=
  .ofRanges
   [(0x88f, 0x88f), (0xc5c, 0xc5c), (0xcdc, 0xcdc), (0xa7ce, 0xa7cf), (0xa7d2, 0xa7d2),
    (0xa7d4, 0xa7d4), (0xa7f1, 0xa7f1), (0x10940, 0x10959), (0x10ec5, 0x10ec7),
    (0x10efa, 0x10efb), (0x11b60, 0x11b67), (0x11db0, 0x11ddb), (0x16ea0, 0x16eb8),
    (0x16ebb, 0x16ed3), (0x16ff2, 0x16ff6), (0x187f8, 0x187ff), (0x18d09, 0x18d1e),
    (0x18d80, 0x18df2), (0x1e6c0, 0x1e6de), (0x1e6e0, 0x1e6f5), (0x1e6fe, 0x1e6ff),
    (0x2b73a, 0x2b73f), (0x2cea2, 0x2cead), (0x323b0, 0x33479)]

def numeric : CodeSet :=
  .ofRanges [(0x11de0, 0x11de9), (0x16ff4, 0x16ff6)]

def graphemeExtend : CodeSet :=
  .ofRanges
   [(0x1acf, 0x1add), (0x1ae0, 0x1aeb), (0x10efa, 0x10efb), (0x11b60, 0x11b60),
    (0x11b62, 0x11b64), (0x11b66, 0x11b66), (0x1e6e3, 0x1e6e3), (0x1e6e6, 0x1e6e6),
    (0x1e6ee, 0x1e6ef), (0x1e6f5, 0x1e6f5)]

def others : CodeSet :=
  .ofRanges
   [(0x20c1, 0x20c1), (0x2b96, 0x2b96), (0xfbc3, 0xfbd2), (0xfd90, 0xfd91), (0xfdc8, 0xfdce),
    (0x10ed0, 0x10ed8), (0x1ccfa, 0x1ccfc), (0x1ceba, 0x1ced0), (0x1cee0, 0x1cef0),
    (0x1f6d8, 0x1f6d8), (0x1f777, 0x1f77a), (0x1f8d0, 0x1f8d8), (0x1fa54, 0x1fa57),
    (0x1fa8a, 0x1fa8a), (0x1fa8e, 0x1fa8e), (0x1fac8, 0x1fac8), (0x1facd, 0x1facd),
    (0x1faea, 0x1faea), (0x1faef, 0x1faef), (0x1fbfa, 0x1fbfa)]

def assigned : CodeSet :=
  ((alphabetic.union numeric).union graphemeExtend).union others

end FeatureFlags.Unicode.Addition
