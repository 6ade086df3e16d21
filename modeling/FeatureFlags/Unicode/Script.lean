import FeatureFlags.Unicode.CodeSet

/-! # Scripts of characters -/

namespace FeatureFlags.Unicode.Script

/-- The names of each script, in the order of the class numbers of `table`. The first class holds
the characters of no script and has no name. -/
def names : List (List String) :=
  [[], ["Zyyy", "Common"], ["Arab", "Arabic"], ["Latn", "Latin"], ["Grek", "Greek"],
   ["Ethi", "Ethiopic"], ["Zinh", "Inherited", "Qaai"], ["Hani", "Han"], ["Taml", "Tamil"],
   ["Guru", "Gurmukhi"], ["Gran", "Grantha"], ["Beng", "Bengali"], ["Gujr", "Gujarati"],
   ["Orya", "Oriya"], ["Hang", "Hangul"], ["Kana", "Katakana"], ["Telu", "Telugu"],
   ["Knda", "Kannada"], ["Sinh", "Sinhala"], ["Laoo", "Lao"], ["Tutg", "Tulu_Tigalari"],
   ["Cyrl", "Cyrillic"], ["Geor", "Georgian"], ["Hebr", "Hebrew"], ["Vith", "Vithkuqi"],
   ["Khar", "Kharoshthi"], ["Diak", "Dives_Akuru"], ["Mlym", "Malayalam"], ["Tibt", "Tibetan"],
   ["Linb", "Linear_B"], ["Gonm", "Masaram_Gondi"], ["Mong", "Mongolian"],
   ["Glag", "Glagolitic"], ["Hira", "Hiragana"], ["Cprt", "Cypriot"], ["Gong", "Gunjala_Gondi"],
   ["Deva", "Devanagari"], ["Limb", "Limbu"], ["Lana", "Tai_Tham"], ["Mult", "Multani"],
   ["Hmng", "Pahawh_Hmong"], ["Dupl", "Duployan"], ["Armn", "Armenian"], ["Syrc", "Syriac"],
   ["Mymr", "Myanmar"], ["Khmr", "Khmer"], ["Talu", "New_Tai_Lue"], ["Cham", "Cham"],
   ["Bhks", "Bhaiksuki"], ["Xsux", "Cuneiform"], ["Tang", "Tangut"],
   ["Hmnp", "Nyiakeng_Puachue_Hmong"], ["Bopo", "Bopomofo"], ["Copt", "Coptic", "Qaac"],
   ["Cher", "Cherokee"], ["Cans", "Canadian_Aboriginal"], ["Tagb", "Tagbanwa"],
   ["Lepc", "Lepcha"], ["Tfng", "Tifinagh"], ["Java", "Javanese"], ["Mtei", "Meetei_Mayek"],
   ["Lina", "Linear_A"], ["Hatr", "Hatran"], ["Merc", "Meroitic_Cursive"],
   ["Phlp", "Psalter_Pahlavi"], ["Hung", "Old_Hungarian"], ["Gara", "Garay"],
   ["Yezi", "Yezidi"], ["Brah", "Brahmi"], ["Ahom", "Ahom"], ["Nand", "Nandinagari"],
   ["Marc", "Marchen"], ["Kawi", "Kawi"], ["Mroo", "Mro"], ["Plrd", "Miao"],
   ["Kits", "Khitan_Small_Script"], ["Sgnw", "SignWriting"], ["Adlm", "Adlam"], ["Nkoo", "Nko"],
   ["Samr", "Samaritan"], ["Mand", "Mandaic"], ["Thai", "Thai"], ["Runr", "Runic"],
   ["Tglg", "Tagalog"], ["Tale", "Tai_Le"], ["Bugi", "Buginese"], ["Bali", "Balinese"],
   ["Sund", "Sundanese"], ["Batk", "Batak"], ["Yiii", "Yi"], ["Lisu", "Lisu"],
   ["Bamu", "Bamum"], ["Saur", "Saurashtra"], ["Kali", "Kayah_Li"], ["Rjng", "Rejang"],
   ["Tavt", "Tai_Viet"], ["Ital", "Old_Italic"], ["Ugar", "Ugaritic"], ["Xpeo", "Old_Persian"],
   ["Osma", "Osmanya"], ["Osge", "Osage"], ["Aghb", "Caucasian_Albanian"],
   ["Armi", "Imperial_Aramaic"], ["Nbat", "Nabataean"], ["Phnx", "Phoenician"],
   ["Lydi", "Lydian"], ["Mani", "Manichaean"], ["Avst", "Avestan"],
   ["Prti", "Inscriptional_Parthian"], ["Phli", "Inscriptional_Pahlavi"],
   ["Rohg", "Hanifi_Rohingya"], ["Kthi", "Kaithi"], ["Sora", "Sora_Sompeng"],
   ["Cakm", "Chakma"], ["Khoj", "Khojki"], ["Sind", "Khudawadi"], ["Newa", "Newa"],
   ["Tirh", "Tirhuta"], ["Sidd", "Siddham"], ["Modi", "Modi"], ["Takr", "Takri"],
   ["Wara", "Warang_Citi"], ["Sunu", "Sunuwar"], ["Egyp", "Egyptian_Hieroglyphs"],
   ["Tnsa", "Tangsa"], ["Bass", "Bassa_Vah"], ["Nshu", "Nushu"], ["Wcho", "Wancho"],
   ["Onao", "Ol_Onal"], ["Mend", "Mende_Kikakui"], ["Thaa", "Thaana"], ["Ogam", "Ogham"],
   ["Hano", "Hanunoo"], ["Buhd", "Buhid"], ["Olck", "Ol_Chiki"], ["Brai", "Braille"],
   ["Vaii", "Vai"], ["Sylo", "Syloti_Nagri"], ["Phag", "Phags_Pa"], ["Lyci", "Lycian"],
   ["Cari", "Carian"], ["Goth", "Gothic"], ["Perm", "Old_Permic"], ["Dsrt", "Deseret"],
   ["Shaw", "Shavian"], ["Elba", "Elbasan"], ["Todr", "Todhri"], ["Palm", "Palmyrene"],
   ["Mero", "Meroitic_Hieroglyphs"], ["Sarb", "Old_South_Arabian"],
   ["Narb", "Old_North_Arabian"], ["Orkh", "Old_Turkic"], ["Sogo", "Old_Sogdian"],
   ["Sogd", "Sogdian"], ["Ougr", "Old_Uyghur"], ["Chrs", "Chorasmian"], ["Elym", "Elymaic"],
   ["Mahj", "Mahajani"], ["Shrd", "Sharada"], ["Dogr", "Dogra"], ["Zanb", "Zanabazar_Square"],
   ["Soyo", "Soyombo"], ["Pauc", "Pau_Cin_Hau"], ["Maka", "Makasar"], ["Cpmn", "Cypro_Minoan"],
   ["Hluw", "Anatolian_Hieroglyphs"], ["Gukh", "Gurung_Khema"], ["Krai", "Kirat_Rai"],
   ["Medf", "Medefaidrin"], ["Toto", "Toto"], ["Nagm", "Nag_Mundari"]]

def table : List String :=
  ["CnbBadgbBadBvbbdpbbdfbxdbbBfdbbRhdBnbfdfbcCaubEigeebbdecaeebbbeeabebbbebbdebabebauebaCleoCbq",
   "eFdvcgGnvbaBmBqcaByBqcadBqbaCdxiaBbxeagxlafcbbgcbbocbbdcbbBgcbbkclgBacbgEecbbBicoBrbaCiBrcad",
   "BrBwcByFaoaChDacadDaBuDbcapDbbaBcDccabDcbalBrfaBfcbaccfaCxcbbBdcDdBkegpBkcbBaBkelbailcaclcaw",
   "lbahlbabldaelcajlcaclcaeliableaclbaflcazlcadjbagjeacjcawjbahjbacjbacjbacjcabjbafjeacjcadjdab",
   "jhaejbabjharjkadmbajmbadmbawmbahmbacmbafmcakmbadmbadmcabmpaemcammhahmbadnbaincacncawnbahnbac",
   "nbafncajncacncadnhadneacnbafncasnkacibagidadibaeidacibabibacidacidadidamieafidadibaeicabigab",
   "ioavifanqbadqbaxqbaqqcajqbadqbaeqhacqbadqcabqcaeqcakqhajqnrbadrbaxrbakrbafrcajrbadrbaerhacrg",
   "acrbaercakrbadrmanBbbadBbbaBzBbbadBbbagBbeaqBbcaBaBbbadsbassdaysbajsbabscahsdabseagsbabsbais",
   "gakscadsmaCgDdeabbBcDdBlactbabtbaftbaytbabtbaxtcaftbabtbahtbaktcaetBgaCuBcbaBkBceaBnBcbaBkBc",
   "bapBcbahBcebcBcBlaGeBsBmwbabwfabwcaBrwbbewJwoCvfbaefcahfbabfbaefcaBpfbaefcaBhfbaefcahfbabfba",
   "efcapfbaCffbaefcaCpfcaBgfdaBafgaDiCccagCccaYqCdBdFbdaCxDedblDehawDfjabDfvFccbjauFdmanCebadCe",
   "bacCemaDqBtcakBtgakBtgacBfcbbBfbbuBfgaDlBfhaBrBffaCsCdkaBfBlbamBleamBleabBldamBlBeDgcafDgla",
   "BsBueaBaBugalBudacBuBgBtBcDhcacDhClBmbaBdBmcalBmgakBmgaoBmcaBfgBxaCzDibaByDiCmDjCaDkiaeDkCe",
   "CfdapCfdadCfBwFelvfaBrwcadwiDjiadgbbngbbhgebbggbbgdbcgbbfaBmdfebvBxdfeedfendbvCsdbeCmgJwdwec",
   "agecaBmecagecaiebabebabebabebaBfecaCbebapebaoecagebatecadebajebambcgDjbbalbbdcalbbdpbbandda",
   "BhbpaBhgpaBmbbedbcdgbbdBbbbdrbBpddbeaZqbwalbvaBJsbJwFfYebcaBgbbaEbbDsBgBgdEmCbfahCbBmwbabwfa",
   "bwcaCeCghacCgoabCgxfjahfbahfbahfbahfbahfbahfbahfbahfbaBgvDqbBiaBahbaDlhmaIghBaavbbhbbbhzbjhe",
   "gcoibehebbaDiBhcacgcbdBhbbDmpcbdpfaBrCabaDqobaqbBgCaBmbjabbqpBfobaCmbBfoDdbBvpbbDkpGmbJTohCm",
   "bBFBkhBSvDldaCdDljaBwDmLoFguaDsvDkDniaBibDyddbCpdcacdbabdbaidvaodBtFhdakbgaCeFiiaCsDoiamDoga",
   "BgBkBuDpbbbDpBkDqlabDqBdodaDaChbabbkCheacChBfBsbaCdBvjaoBvcakBvcaeBvBgBsCpDryafDrxCikagfcagf",
   "cagfjahfbahfbaBrdbbjdbeedcbeaDcCcBuCicakCigaQNsomaxoeaBxoMNcaOchcaEchBmahdmafBqfaBaxbafxbabx",
   "bacxbacxbakxElcqaNzccbDcccaCcchabcBgaqcqgkbgaogcvBjbbatbbaebeafcbaFfccabbbaBgbBadgbBadlbkpbb",
   "BtpcbBfodagocagocagocadodahbbahbkafbcamBdbaBaBdbatBdbacBdbapBdcaoBdBiaEtBdfadbeaBtbdajbDbeba",
   "nbdabeBvaBtbbgFaaBdFjdaBxFkpabgBbbeaBkDsjadDsBbFlfaBrFmfaBeDtbabDtBkDueaoDuBqaDcFnBwFoBeDvca",
   "kDvgaBkDweaBkDweaBoFpiaCaDxlabDxlybapybahybacybalybapybahybacydaCaFqmaLzCjjawCjkaiCjyagdbaBq",
   "dbajdCragBicabBibaBsBibacBidabBicabBiwDybajDyBgFrBfDziajDzBwatCkbacCkfafCkBcEadabEaBaEbfabEb",
   "CmaBgFsyCleauClcaBuClezbaczfaizbadzbaBdzcadzeakzhajzhaBgFtBgFuBgaBnEceamEcjaCcEddahEdwEecai",
   "EetEffaiEfsCmhaeCmmahCmDcaCvFvCdaBzCnnaBzCnhagCnBoEgiakEggaBmCodaBdCoiacCoIaaBfcbaBqCpbadCpc",
   "acCpqadcCdaecBoFwiaBqFxwaBaFyBmaBcFzuaxGajaDaCqeaBkCqjabCqCpEhkabEhcazEihakEigaCbEjbasEjiaBn",
   "GbjaDsGcbauslasEkbaBvEkCkahBnbabBnbaeBnbapBnbalBngaChElfakElgaekbaikcackcawkbahkbackbafkbabg",
   "jkcackcadkcabkgabkfahkcahkdafklakubabucabubaBmubakubabucabubaeubakubacuiacuBdaDoEmbafEmBeaCu",
   "EniakEnGkaCcEocaBmEoBiaCrEplakEpganBftaCgEqgakEqgauBsBcaBbCrcapCreaxCrHdaCiGdDwaDfErmabErhBa",
   "cabBacaiBabacBabaBeBabacBacamBajakBaCsaiCscaBuCscalCsBbaCuGeiaDfGfnaqCdCfGghakBkHaaBiEsoakEs",
   "gajBwbaBtBwbaoBwkaBdBwdaBgCtcawCtbaoCtCvahBebacBebaBsBedabBebacBebajBeiakBegagBjbacBjbaBlBjb",
   "acBjbagBjhakBjLyazGhharCubaBpCudaBdCuDhabDmpaByinabiBJmBxDyaEhBxbafBxlaHoBxDXkaDvGinaBQsEtka",
   "FXrEtfaWlGjKDdaCgGkCOsaVxDnhaBfCvbakCveacCvDbEubakEugaBeEvcagEvkaCsBokakBobahBobavBofatBoQqa",
   "CgGlHqaDnGmDxaCxCweaCfCwharCwCmabBybEwchbCxlachoaJCaByiaBDoByScCxBpabCxjByNFraepbahpbacpbabp",
   "LbBhdppabBhBdadBhcabpoaepiaPgEwDKuaEdBpfanBpdajBphakBpcaeBpebFVgaJqbgaQubCyaBugcaxgjaEmbCia",
   "JmbkaBnbcaCkbdgrbigcbhgBebegCjbvaCseEsaubmaubmaDjbjazbFfaDhbbaCtbbacbcabbcacbcaebbambbabbbah",
   "bbaCnbbaebcaibbahbbaBcbbaebbafbbabbdahbbaNcbcaLgbcaBybZcCypafCybapCyBQmaBfdgagdIfahBgbarBgca",
   "hBgbacBgbafBgfaCkvBhabvEiaBtBzdaoBzcakBzeacBzMiaBfGnraCgExfabExRwaBqGoIgaBrEyeabEySmahfbaefb",
   "acfbapfbaHpEzcaqEzBpaCyCzeakCzeacCzBEfaCqbCyaCjbHmaecbaBbcbaccbabccabcbakcbaecbabcbabcgabcea",
   "bcbabcbabcbadcbaccbabccabcbabcbabcbabcbabcbaccbabccaecbahcbaecbaecbabcbakcbarcfadcbafcbarcCa",
   "accKkaBsbeaDwbmapbcapbbapbbaBlbkaGsbCeaBabbBhcbnaBsbeajbhacboagbFyaBLwbearbdanbdaEpbeaDrbgam",
   "beabbpambeaCebiakbgaBobiaBebcambeacbCkaNcbmaobcanbdakbfaCebhapbcalbgajbhaFrbbaDybBNqaCLFchBg",
   "aGDuhgaIohcaINqhoaLBlhpaXyhDQwaUwhCFyaHHzhfaGFghBOMXlabbBeaDsbEyaJggLECua"]

def partition : List (Nat × Nat × Nat) := partitionOf table

def ofName? (name : String) : Option CodeSet :=
  (position? names name).map fun kind => inClasses partition [kind]

/-- The characters used in several scripts: how many code points are left out, how many follow, the
number of their scripts and those scripts. -/
def sharedTable : List String :=
  ["HbbqEdFkCbBpFpwBgFleBjhdEbGbFmFoTwbhlvBkdDmDdGnkbcCadbdcCadbbcdDmjbcdDdbbcCadBmbiCcCbvedFmEs",
   "DgabiCcvedDwEsDgFqabeCcvdCgabfBgdEsBrDdablDxCcCbvFledDwBrCgFqabgCbFpBgFlpdabevedFmabjCbBpxd",
   "FmBrDgCgFqabkBqvBpFlexdFmBrDgabcdCgabdBpdBrabeCcvdDwabdCcdDgabcdEsabcfdbbcdEsabdvdFqbbeedFm",
   "FqmbcdBrcbfCcBppdBrabeCcBpdBrabcdBrhbddEsBrabcdBrbbdCcdBrabgDxCcFldEsDdqbbecbbesbcdDwfbdDxd",
   "FqenbdeccCbeKjbcvFmabcvBgaccvdabcvBgJxbdBqwBgFabhcCoEgDaBrFaCpobhcCoEgDaBrFaCpabdcBrFacbiCzc",
   "CoEgDaBrFaCpBgbjCzcEgDcEcFyCmFxBrklccBrkkdcFaCpgbccBrDvbccEgYmbnlBkkmjrdBbnGciqEnabmlBkkmjrd",
   "BbniqEnrbvlBkGdkmBjjrElGbBbBeCsEynsFhEqiqEnabxlBkGdkmBjjGkrElBlGbBbBeCsEynsFhEqiqEnakeBkGdEh",
   "GbEokdlEjFhEokcjBnEokcmEkJmockiJikdrCsuBGqkdEjBsDgGvbdwBgdCGldbDeCtceFdFcDfCeHvccBfFibbcBfFi",
   "BVebelBkkrabbBkabelBkkrabdBkkrabbBkacclBkabcBkGcabclBkabcBkGcabgBkrBbniqabbBkaccBkGcacbBkabc",
   "BkGcabclBkahbBkabcBkCsabclBkacbBkabclBkaebBkabllBkkrBbCsnsqEnuabcBkkabeBkkruacclBkabblaccBkk",
   "abbCsHpcbeCcbdvdBrbbbBrVsbddBfFiBfbcCzckbgFkwBgFjCnFvcbeFkeFsCnFqbdBkkdEZmbcCbdybcEdFvabhEd",
   "FkwEhEbCnDbkbbBpebdCzcCnbbcvBgQmqchBybbhCahoBhpBfDlabiCahoBhpBfFiDlabfCahoBhpcbbhbciCahoBhp",
   "BfBcDlacjCahoBhpDmBfBcDlaggCahoBhpDlbbfCahoBhpaigCahoBhpDlaefCahoBhpkecCahcbfCahoBhpafcBhpbb",
   "fCahoBhpecdhBhpacbhDlecBhpdbcBhpDmbgCahoBhpDlabcBhpFrqbhBgBmbhjbchByBwBobhCeBxbhpmbhBzbbhDkz",
   "bhkfbhDsBfbhBRIubcvBgFoichdLkdqBkGdmjEhrEkElGbBbEpCsGcEqEnuadpBkGdmjEhrEkElGbEpCsGcEqEnuacl",
   "BkGdmjEhEkElGbEpEqEnabmBkGdmjEhEkElGbEpGcEqEnablBkGdmjEhEkElGbEpEqEnHbbdlBkubbcBkiCgbdDpdBs",
   "GebcDhChBFPmcccDaGwbccFakbccFaCtcfCahoBhpKwfgCahoBhpDlkbcBhpBtccBhpNocdBiGiBdabcBiBdeBtdBiCj",
   "BddjcBiBdQaBcccCbDAkbcEcFyDBibckibbckiCdcckiETvcckibbckiCHJwebBpIPwsbhLRycbh"]

def sharedFrom (fuel next : Nat) (numbers : List Nat) : List (Nat × Nat × List Nat) :=
  match fuel, numbers with
  | fuel + 1, gap :: run :: count :: rest =>
    (next + gap, next + gap + run - 1, rest.take count) ::
      sharedFrom fuel (next + gap + run) (rest.drop count)
  | _, _ => []

def shared : List (Nat × Nat × List Nat) :=
  let written := numbers (String.join sharedTable)
  sharedFrom written.length 0 written

def extensionsOfName? (name : String) : Option CodeSet :=
  (position? names name).map fun kind =>
    let several : CodeSet := .ofRanges (shared.map fun (low, high, _) => (low, high))
    let used : CodeSet := .ofRanges (shared.filterMap fun (low, high, kinds) =>
      if kinds.contains kind then some (low, high) else none)
    ((inClasses partition [kind]).diff several).union used

end FeatureFlags.Unicode.Script
