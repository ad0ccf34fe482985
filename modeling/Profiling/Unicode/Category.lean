import Profiling.Unicode.Runs

/-!
# General categories

Every code point has one of thirty categories. Categories are grouped, and both
have a short and a long name.
-/

namespace Profiling.Unicode

def categoryTable : String :=
  String.join
    ["32Cc1Zs3Po1Sc3Po1Ps1Pe1Po1Sm1Po1Pd2Po10Nd2Po3Sm2Po26Lu1Ps1Po1Pe1Sk1Pc1Sk26Ll1Ps1Sm1Pe1Sm33Cc",
     "1Zs1Po4Sc1So1Po1Sk1So1Lo1Pi1Sm1Cf1So1Sk1So1Sm2No1Sk1Ll2Po1Sk1No1Lo1Pf3No1Po23Lu1Sm7Lu24Ll1Sm",
     "8Ll1Lu1Ll1Lu1Ll1Lu1Ll1Lu1Ll1Lu1Ll1Lu1Ll1Lu1Ll1Lu1Ll1Lu1Ll1Lu1Ll1Lu1Ll1Lu1Ll1Lu1Ll1Lu1Ll1Lu1L",
     "l1Lu1Ll1Lu1Ll1Lu1Ll1Lu1Ll1Lu1Ll1Lu1Ll1Lu1Ll1Lu1Ll1Lu1Ll1Lu1Ll1Lu1Ll1Lu1Ll1Lu2Ll1Lu1Ll1Lu1Ll1",
     "Lu1Ll1Lu1Ll1Lu1Ll1Lu1Ll1Lu1Ll1Lu2Ll1Lu1Ll1Lu1Ll1Lu1Ll1Lu1Ll1Lu1Ll1Lu1Ll1Lu1Ll1Lu1Ll1Lu1Ll1Lu",
     "1Ll1Lu1Ll1Lu1Ll1Lu1Ll1Lu1Ll1Lu1Ll1Lu1Ll1Lu1Ll1Lu1Ll1Lu1Ll1Lu1Ll1Lu1Ll1Lu1Ll1Lu1Ll2Lu1Ll1Lu1L",
     "l1Lu3Ll2Lu1Ll1Lu1Ll2Lu1Ll3Lu2Ll4Lu1Ll2Lu1Ll3Lu3Ll2Lu1Ll2Lu1Ll1Lu1Ll1Lu1Ll2Lu1Ll1Lu2Ll1Lu1Ll2",
     "Lu1Ll3Lu1Ll1Lu1Ll2Lu2Ll1Lo1Lu3Ll4Lo1Lu1Lt1Ll1Lu1Lt1Ll1Lu1Lt1Ll1Lu1Ll1Lu1Ll1Lu1Ll1Lu1Ll1Lu1Ll",
     "1Lu1Ll1Lu1Ll1Lu2Ll1Lu1Ll1Lu1Ll1Lu1Ll1Lu1Ll1Lu1Ll1Lu1Ll1Lu1Ll1Lu1Ll1Lu2Ll1Lu1Lt1Ll1Lu1Ll3Lu1L",
     "l1Lu1Ll1Lu1Ll1Lu1Ll1Lu1Ll1Lu1Ll1Lu1Ll1Lu1Ll1Lu1Ll1Lu1Ll1Lu1Ll1Lu1Ll1Lu1Ll1Lu1Ll1Lu1Ll1Lu1Ll1",
     "Lu1Ll1Lu1Ll1Lu1Ll1Lu1Ll1Lu1Ll1Lu1Ll1Lu1Ll1Lu1Ll1Lu1Ll1Lu1Ll1Lu1Ll1Lu1Ll1Lu1Ll1Lu7Ll2Lu1Ll2Lu",
     "2Ll1Lu1Ll4Lu1Ll1Lu1Ll1Lu1Ll1Lu1Ll1Lu69Ll1Lo27Ll18Lm4Sk12Lm14Sk5Lm7Sk1Lm1Sk1Lm17Sk112Mn1Lu1Ll",
     "1Lu1Ll1Lm1Sk1Lu1Ll2Cn1Lm3Ll1Po1Lu4Cn2Sk1Lu1Po3Lu1Cn1Lu1Cn2Lu1Ll17Lu1Cn9Lu35Ll1Lu2Ll3Lu3Ll1Lu",
     "1Ll1Lu1Ll1Lu1Ll1Lu1Ll1Lu1Ll1Lu1Ll1Lu1Ll1Lu1Ll1Lu1Ll1Lu1Ll1Lu1Ll1Lu5Ll1Lu1Ll1Sm1Lu1Ll2Lu2Ll51",
     "Lu48Ll1Lu1Ll1Lu1Ll1Lu1Ll1Lu1Ll1Lu1Ll1Lu1Ll1Lu1Ll1Lu1Ll1Lu1Ll1Lu1Ll1Lu1Ll1Lu1Ll1Lu1Ll1Lu1Ll1L",
     "u1Ll1Lu1Ll1Lu1Ll1So5Mn2Me1Lu1Ll1Lu1Ll1Lu1Ll1Lu1Ll1Lu1Ll1Lu1Ll1Lu1Ll1Lu1Ll1Lu1Ll1Lu1Ll1Lu1Ll1",
     "Lu1Ll1Lu1Ll1Lu1Ll1Lu1Ll1Lu1Ll1Lu1Ll1Lu1Ll1Lu1Ll1Lu1Ll1Lu1Ll1Lu1Ll1Lu1Ll1Lu1Ll1Lu1Ll1Lu1Ll1Lu",
     "1Ll2Lu1Ll1Lu1Ll1Lu1Ll1Lu1Ll1Lu1Ll1Lu1Ll1Lu2Ll1Lu1Ll1Lu1Ll1Lu1Ll1Lu1Ll1Lu1Ll1Lu1Ll1Lu1Ll1Lu1L",
     "l1Lu1Ll1Lu1Ll1Lu1Ll1Lu1Ll1Lu1Ll1Lu1Ll1Lu1Ll1Lu1Ll1Lu1Ll1Lu1Ll1Lu1Ll1Lu1Ll1Lu1Ll1Lu1Ll1Lu1Ll1",
     "Lu1Ll1Lu1Ll1Lu1Ll1Lu1Ll1Lu1Ll1Lu1Ll1Lu1Ll1Lu1Ll1Lu1Ll1Lu1Ll1Lu1Ll1Lu1Ll1Lu1Ll1Lu1Ll1Lu1Ll1Lu",
     "1Ll1Lu1Ll1Lu1Ll1Lu1Ll1Lu1Ll1Lu1Ll1Lu1Ll1Lu1Ll1Lu1Ll1Lu1Ll1Cn38Lu2Cn1Lm6Po41Ll1Po1Pd2Cn2So1Sc",
     "1Cn45Mn1Pd1Mn1Po2Mn1Po2Mn1Po1Mn8Cn27Lo4Cn4Lo2Po11Cn6Cf3Sm2Po1Sc2Po2So11Mn1Po1Cf3Po32Lo1Lm10L",
     "o21Mn10Nd4Po2Lo1Mn99Lo1Po1Lo7Mn1Cf1So6Mn2Lm2Mn1So4Mn2Lo10Nd3Lo2So1Lo14Po1Cn1Cf1Lo1Mn30Lo27Mn",
     "2Cn89Lo11Mn1Lo14Cn10Nd33Lo9Mn2Lm1So3Po1Lm2Cn1Mn2Sc22Lo4Mn1Lm9Mn1Lm3Mn1Lm5Mn2Cn15Po1Cn25Lo3Mn",
     "2Cn1Po1Cn11Lo5Cn24Lo1Sk6Lo1Cn2Cf6Cn8Mn41Lo1Lm24Mn1Cf32Mn1Mc54Lo1Mn1Mc1Mn1Lo3Mc8Mn4Mc1Mn2Mc1L",
     "o7Mn10Lo2Mn2Po10Nd1Po1Lm15Lo1Mn2Mc1Cn8Lo2Cn2Lo2Cn22Lo1Cn7Lo1Cn1Lo3Cn4Lo2Cn1Mn1Lo3Mc4Mn2Cn2Mc",
     "2Cn2Mc1Mn1Lo8Cn1Mc4Cn2Lo1Cn3Lo2Mn2Cn10Nd2Lo2Sc6No1So1Sc1Lo1Po1Mn2Cn2Mn1Mc1Cn6Lo4Cn2Lo2Cn22Lo",
     "1Cn7Lo1Cn2Lo1Cn2Lo1Cn2Lo2Cn1Mn1Cn3Mc2Mn4Cn2Mn2Cn3Mn3Cn1Mn7Cn4Lo1Cn1Lo7Cn10Nd2Mn3Lo1Mn1Po10Cn",
     "2Mn1Mc1Cn9Lo1Cn3Lo1Cn22Lo1Cn7Lo1Cn2Lo1Cn5Lo2Cn1Mn1Lo3Mc5Mn1Cn2Mn1Mc1Cn2Mc1Mn2Cn1Lo15Cn2Lo2Mn",
     "2Cn10Nd1Po1Sc7Cn1Lo6Mn1Cn1Mn2Mc1Cn8Lo2Cn2Lo2Cn22Lo1Cn7Lo1Cn2Lo1Cn5Lo2Cn1Mn1Lo1Mc1Mn1Mc4Mn2Cn",
     "2Mc2Cn2Mc1Mn7Cn2Mn1Mc4Cn2Lo1Cn3Lo2Mn2Cn10Nd1So1Lo6No10Cn1Mn1Lo1Cn6Lo3Cn3Lo1Cn4Lo3Cn2Lo1Cn1Lo",
     "1Cn2Lo3Cn2Lo3Cn3Lo3Cn12Lo4Cn2Mc1Mn2Mc3Cn3Mc1Cn3Mc1Mn2Cn1Lo6Cn1Mc14Cn10Nd3No6So1Sc1So5Cn1Mn3M",
     "c1Mn8Lo1Cn3Lo1Cn23Lo1Cn16Lo2Cn1Mn1Lo3Mn4Mc1Cn3Mn1Cn4Mn7Cn2Mn1Cn3Lo2Cn1Lo2Cn2Lo2Mn2Cn10Nd7Cn1",
     "Po7No1So1Lo1Mn2Mc1Po8Lo1Cn3Lo1Cn23Lo1Cn10Lo1Cn5Lo2Cn1Mn1Lo1Mc1Mn5Mc1Cn1Mn2Mc1Cn2Mc2Mn7Cn2Mc6",
     "Cn2Lo1Cn2Lo2Mn2Cn10Nd1Cn2Lo1Mc12Cn2Mn2Mc9Lo1Cn3Lo1Cn41Lo2Mn1Lo3Mc4Mn1Cn3Mc1Cn3Mc1Mn1Lo1So4Cn",
     "3Lo1Mc7No3Lo2Mn2Cn10Nd9No1So6Lo1Cn1Mn2Mc1Cn18Lo3Cn24Lo1Cn9Lo1Cn1Lo2Cn7Lo3Cn1Mn4Cn3Mc3Mn1Cn1M",
     "n1Cn8Mc6Cn10Nd2Cn2Mc1Po12Cn48Lo1Mn2Lo7Mn4Cn1Sc6Lo1Lm8Mn1Po10Nd2Po37Cn2Lo1Cn1Lo1Cn5Lo1Cn24Lo1",
     "Cn1Lo1Cn10Lo1Mn2Lo9Mn1Lo2Cn5Lo1Cn1Lm1Cn7Mn1Cn10Nd2Cn4Lo32Cn1Lo3So15Po1So1Po3So2Mn6So10Nd10No",
     "1So1Mn1So1Mn1So1Mn1Ps1Pe1Ps1Pe2Mc8Lo1Cn36Lo4Cn14Mn1Mc5Mn1Po2Mn5Lo11Mn1Cn36Mn1Cn8So1Mn6So1Cn2",
     "So5Po4So2Po37Cn43Lo2Mc4Mn1Mc6Mn1Mc2Mn2Mc2Mn1Lo10Nd6Po6Lo2Mc2Mn4Lo3Mn1Lo3Mc2Lo7Mc3Lo4Mn13Lo1M",
     "n2Mc2Mn6Mc1Mn1Lo1Mc10Nd3Mc1Mn2So38Lu1Cn1Lu5Cn1Lu2Cn43Ll1Po1Lm3Ll329Lo1Cn4Lo2Cn7Lo1Cn1Lo1Cn4L",
     "o2Cn41Lo1Cn4Lo2Cn33Lo1Cn4Lo2Cn7Lo1Cn1Lo1Cn4Lo2Cn15Lo1Cn57Lo1Cn4Lo2Cn67Lo2Cn3Mn9Po20No3Cn16Lo",
     "10So6Cn86Lu2Cn6Ll2Cn1Pd620Lo1So1Po17Lo1Zs26Lo1Ps1Pe3Cn75Lo3Po3Nl8Lo7Cn18Lo3Mn1Mc9Cn19Lo2Mn1M",
     "c2Po9Cn18Lo2Mn12Cn13Lo1Cn3Lo1Cn2Mn12Cn52Lo2Mn1Mc7Mn8Mc1Mn2Mc11Mn3Po1Lm3Po1Sc1Lo1Mn2Cn10Nd6Cn",
     "10No6Cn6Po1Pd4Po3Mn1Cf1Mn10Nd6Cn35Lo1Lm53Lo7Cn5Lo2Mn34Lo1Mn1Lo5Cn70Lo10Cn31Lo1Cn3Mn4Mc2Mn3Mc",
     "4Cn2Mc1Mn6Mc3Mn4Cn1So3Cn2Po10Nd30Lo2Cn5Lo11Cn44Lo4Cn26Lo6Cn10Nd1No3Cn34So23Lo2Mn2Mc1Mn2Cn2Po",
     "53Lo1Mc1Mn1Mc7Mn1Cn1Mn1Mc1Mn2Mc8Mn6Mc10Mn2Cn1Mn10Nd6Cn10Nd6Cn7Po1Lm6Po2Cn14Mn1Me16Mn49Cn4Mn1",
     "Mc47Lo1Mn1Mc5Mn1Mc1Mn5Mc1Mn2Mc8Lo3Cn10Nd7Po10So9Mn9So2Po1Cn2Mn1Mc30Lo1Mc4Mn2Mc2Mn1Mc3Mn2Lo10",
     "Nd44Lo1Mn1Mc2Mn3Mc1Mn1Mc3Mn2Mc8Cn4Po36Lo8Mc8Mn2Mc2Mn3Cn5Po10Nd3Cn3Lo10Nd30Lo6Lm2Po9Ll7Cn43Lu",
     "2Cn3Lu8Po8Cn3Mn1Po13Mn1Mc7Mn4Lo1Mn6Lo1Mn2Lo1Mc2Mn1Lo5Cn44Ll63Lm13Ll1Lm34Ll37Lm64Mn1Lu1Ll1Lu1",
     "Ll1Lu1Ll1Lu1Ll1Lu1Ll1Lu1Ll1Lu1Ll1Lu1Ll1Lu1Ll1Lu1Ll1Lu1Ll1Lu1Ll1Lu1Ll1Lu1Ll1Lu1Ll1Lu1Ll1Lu1Ll",
     "1Lu1Ll1Lu1Ll1Lu1Ll1Lu1Ll1Lu1Ll1Lu1Ll1Lu1Ll1Lu1Ll1Lu1Ll1Lu1Ll1Lu1Ll1Lu1Ll1Lu1Ll1Lu1Ll1Lu1Ll1L",
     "u1Ll1Lu1Ll1Lu1Ll1Lu1Ll1Lu1Ll1Lu1Ll1Lu1Ll1Lu1Ll1Lu1Ll1Lu1Ll1Lu1Ll1Lu1Ll1Lu1Ll1Lu1Ll1Lu1Ll1Lu1",
     "Ll1Lu1Ll1Lu1Ll1Lu1Ll1Lu1Ll1Lu1Ll1Lu1Ll1Lu1Ll1Lu1Ll1Lu1Ll1Lu1Ll1Lu1Ll1Lu1Ll1Lu1Ll1Lu1Ll1Lu1Ll",
     "1Lu1Ll1Lu1Ll1Lu1Ll1Lu1Ll1Lu1Ll1Lu1Ll1Lu1Ll1Lu1Ll1Lu1Ll1Lu1Ll1Lu1Ll1Lu9Ll1Lu1Ll1Lu1Ll1Lu1Ll1L",
     "u1Ll1Lu1Ll1Lu1Ll1Lu1Ll1Lu1Ll1Lu1Ll1Lu1Ll1Lu1Ll1Lu1Ll1Lu1Ll1Lu1Ll1Lu1Ll1Lu1Ll1Lu1Ll1Lu1Ll1Lu1",
     "Ll1Lu1Ll1Lu1Ll1Lu1Ll1Lu1Ll1Lu1Ll1Lu1Ll1Lu1Ll1Lu1Ll1Lu1Ll1Lu1Ll1Lu1Ll1Lu1Ll1Lu1Ll1Lu1Ll1Lu1Ll",
     "1Lu1Ll1Lu1Ll1Lu1Ll1Lu1Ll1Lu1Ll1Lu1Ll1Lu1Ll1Lu1Ll1Lu1Ll1Lu1Ll1Lu1Ll1Lu1Ll1Lu1Ll1Lu1Ll1Lu9Ll8L",
     "u6Ll2Cn6Lu2Cn8Ll8Lu8Ll8Lu6Ll2Cn6Lu2Cn8Ll1Cn1Lu1Cn1Lu1Cn1Lu1Cn1Lu8Ll8Lu14Ll2Cn8Ll8Lt8Ll8Lt8Ll",
     "8Lt5Ll1Cn2Ll4Lu1Lt1Sk1Ll3Sk3Ll1Cn2Ll4Lu1Lt3Sk4Ll2Cn2Ll4Lu1Cn3Sk8Ll5Lu3Sk2Cn3Ll1Cn2Ll4Lu1Lt2S",
     "k1Cn11Zs5Cf6Pd2Po1Pi1Pf1Ps2Pi1Pf1Ps1Pi8Po1Zl1Zp5Cf1Zs9Po1Pi1Pf4Po2Pc3Po1Sm1Ps1Pe11Po1Sm1Po1P",
     "c10Po1Zs5Cf1Cn10Cf1No1Lm2Cn6No3Sm1Ps1Pe1Lm10No3Sm1Ps1Pe1Cn13Lm3Cn33Sc15Cn13Mn4Me1Mn3Me12Mn15",
     "Cn2So1Lu4So1Lu2So1Ll3Lu2Ll3Lu1Ll1So1Lu2So1Sm5Lu6So1Lu1So1Lu1So1Lu1So4Lu1So1Ll4Lu1Ll4Lo1Ll2So",
     "2Ll2Lu5Sm1Lu4Ll1So1Sm2So1Ll1So16No35Nl1Lu1Ll4Nl1No2So4Cn5Sm5So2Sm4So1Sm2So1Sm2So1Sm7So1Sm31S",
     "o2Sm2So1Sm1So1Sm31So268Sm8So1Ps1Pe1Ps1Pe20So2Sm7So1Ps1Pe81So1Sm30So25Sm40So6Sm69So25Cn11So21",
     "Cn60No78So22No183So1Sm9So1Sm54So8Sm111So1Sm248So1Ps1Pe1Ps1Pe1Ps1Pe1Ps1Pe1Ps1Pe1Ps1Pe1Ps1Pe30",
     "No44So5Sm1Ps1Pe31Sm1Ps1Pe1Ps1Pe1Ps1Pe1Ps1Pe1Ps1Pe16Sm256So131Sm1Ps1Pe1Ps1Pe1Ps1Pe1Ps1Pe1Ps1P",
     "e1Ps1Pe1Ps1Pe1Ps1Pe1Ps1Pe1Ps1Pe1Ps1Pe63Sm1Ps1Pe1Ps1Pe32Sm1Ps1Pe258Sm48So21Sm2So6Sm39So2Cn32S",
     "o1Cn105So48Lu48Ll1Lu1Ll3Lu2Ll1Lu1Ll1Lu1Ll1Lu1Ll4Lu1Ll1Lu2Ll1Lu6Ll2Lm3Lu1Ll1Lu1Ll1Lu1Ll1Lu1Ll",
     "1Lu1Ll1Lu1Ll1Lu1Ll1Lu1Ll1Lu1Ll1Lu1Ll1Lu1Ll1Lu1Ll1Lu1Ll1Lu1Ll1Lu1Ll1Lu1Ll1Lu1Ll1Lu1Ll1Lu1Ll1L",
     "u1Ll1Lu1Ll1Lu1Ll1Lu1Ll1Lu1Ll1Lu1Ll1Lu1Ll1Lu1Ll1Lu1Ll1Lu1Ll1Lu1Ll1Lu1Ll1Lu1Ll1Lu1Ll1Lu1Ll1Lu1",
     "Ll1Lu1Ll1Lu1Ll1Lu1Ll1Lu1Ll1Lu1Ll1Lu1Ll1Lu1Ll1Lu1Ll1Lu1Ll1Lu1Ll1Lu1Ll1Lu1Ll1Lu1Ll1Lu1Ll1Lu2Ll",
     "6So1Lu1Ll1Lu1Ll3Mn1Lu1Ll5Cn4Po1No2Po38Ll1Cn1Ll5Cn1Ll2Cn56Lo7Cn1Lm1Po14Cn1Mn23Lo9Cn7Lo1Cn7Lo1",
     "Cn7Lo1Cn7Lo1Cn7Lo1Cn7Lo1Cn7Lo1Cn7Lo1Cn32Mn2Po1Pi1Pf1Pi1Pf3Po1Pi1Pf1Po1Pi1Pf9Po1Pd2Po1Pd1Po1P",
     "i1Pf2Po1Pi1Pf1Ps1Pe1Ps1Pe1Ps1Pe1Ps1Pe5Po1Lm10Po2Pd4Po1Pd1Po1Ps13Po2So3Po1Ps1Pe1Ps1Pe1Ps1Pe1P",
     "s1Pe1Pd34Cn26So1Cn89So12Cn214So26Cn12So4Cn1Zs3Po1So1Lm1Lo1Nl1Ps1Pe1Ps1Pe1Ps1Pe1Ps1Pe1Ps1Pe2S",
     "o1Ps1Pe1Ps1Pe1Ps1Pe1Ps1Pe1Pd1Ps2Pe1So9Nl4Mn2Mc1Pd5Lm2So3Nl1Lm1Lo1Po2So1Cn86Lo2Cn2Mn2Sk2Lm1Lo",
     "1Pd90Lo1Po3Lm1Lo5Cn43Lo1Cn94Lo1Cn2So4No10So32Lo36So12Cn16Lo31So1Cn10No30So8No1So15No32So10No",
     "39So15No320So6592Lo64So21013Lo1Lm1143Lo3Cn55So9Cn40Lo6Lm2Po268Lo1Lm3Po16Lo10Nd2Lo20Cn1Lu1Ll1",
     "Lu1Ll1Lu1Ll1Lu1Ll1Lu1Ll1Lu1Ll1Lu1Ll1Lu1Ll1Lu1Ll1Lu1Ll1Lu1Ll1Lu1Ll1Lu1Ll1Lu1Ll1Lu1Ll1Lu1Ll1Lu",
     "1Ll1Lu1Ll1Lu1Ll1Lu1Ll1Lu1Ll1Lu1Ll1Lu1Ll1Lo1Mn3Me1Po10Mn1Po1Lm1Lu1Ll1Lu1Ll1Lu1Ll1Lu1Ll1Lu1Ll1",
     "Lu1Ll1Lu1Ll1Lu1Ll1Lu1Ll1Lu1Ll1Lu1Ll1Lu1Ll1Lu1Ll1Lu1Ll2Lm2Mn70Lo10Nl2Mn6Po8Cn23Sk9Lm2Sk1Lu1Ll",
     "1Lu1Ll1Lu1Ll1Lu1Ll1Lu1Ll1Lu1Ll1Lu3Ll1Lu1Ll1Lu1Ll1Lu1Ll1Lu1Ll1Lu1Ll1Lu1Ll1Lu1Ll1Lu1Ll1Lu1Ll1L",
     "u1Ll1Lu1Ll1Lu1Ll1Lu1Ll1Lu1Ll1Lu1Ll1Lu1Ll1Lu1Ll1Lu1Ll1Lu1Ll1Lu1Ll1Lu1Ll1Lu1Ll1Lu1Ll1Lu1Ll1Lu1",
     "Ll1Lu1Ll1Lu1Ll1Lu1Ll1Lu1Ll1Lu1Ll1Lu1Ll1Lm8Ll1Lu1Ll1Lu1Ll2Lu1Ll1Lu1Ll1Lu1Ll1Lu1Ll1Lu1Ll1Lm2Sk",
     "1Lu1Ll1Lu1Ll1Lo1Lu1Ll1Lu3Ll1Lu1Ll1Lu1Ll1Lu1Ll1Lu1Ll1Lu1Ll1Lu1Ll1Lu1Ll1Lu1Ll1Lu1Ll1Lu1Ll5Lu1L",
     "l5Lu1Ll1Lu1Ll1Lu1Ll1Lu1Ll1Lu1Ll1Lu1Ll1Lu1Ll1Lu1Ll4Lu1Ll1Lu1Ll5Cn1Lu1Ll1Cn1Ll1Cn1Ll1Lu1Ll1Lu1",
     "Ll24Cn3Lm1Lu1Ll1Lo2Lm1Ll7Lo1Mn3Lo1Mn4Lo1Mn23Lo2Mc2Mn1Mc4So1Mn3Cn6No2So1Sc1So6Cn52Lo4Po8Cn2Mc",
     "50Lo16Mc2Mn8Cn2Po10Nd6Cn18Mn6Lo3Po1Lo1Po2Lo1Mn10Nd28Lo8Mn2Po23Lo11Mn2Mc11Cn1Po29Lo3Cn3Mn1Mc4",
     "7Lo1Mn2Mc4Mn2Mc2Mn3Mc13Po1Cn1Lm10Nd4Cn2Po5Lo1Mn1Lm9Lo10Nd5Lo1Cn41Lo6Mn2Mc2Mn2Mc2Mn9Cn3Lo1Mn8",
     "Lo1Mn1Mc2Cn10Nd2Cn4Po16Lo1Lm6Lo3So1Lo1Mc1Mn1Mc50Lo1Mn1Lo3Mn2Lo2Mn5Lo2Mn1Lo1Mn1Lo24Cn2Lo1Lm2P",
     "o11Lo1Mc2Mn2Mc2Po1Lo2Lm1Mc1Mn10Cn6Lo2Cn6Lo2Cn6Lo9Cn7Lo1Cn7Lo1Cn43Ll1Sk4Lm9Ll1Lm2Sk4Cn80Ll35L",
     "o2Mc1Mn2Mc1Mn2Mc1Po1Mc1Mn2Cn10Nd6Cn11172Lo12Cn23Lo4Cn49Lo4Cn2048Cs6400Co366Lo2Cn106Lo38Cn7Ll",
     "12Cn5Ll5Cn1Lo1Mn10Lo1Sm13Lo1Cn5Lo1Cn1Lo1Cn2Lo1Cn2Lo1Cn108Lo17Sk16Cn363Lo1Pe1Ps16So64Lo2Cn54L",
     "o7Cn1So32Cn12Lo1Sc3So16Mn7Po1Ps1Pe1Po6Cn16Mn1Po2Pd2Pc1Ps1Pe1Ps1Pe1Ps1Pe1Ps1Pe1Ps1Pe1Ps1Pe1Ps",
     "1Pe1Ps1Pe2Po1Ps1Pe4Po3Pc3Po1Cn4Po1Pd1Ps1Pe1Ps1Pe1Ps1Pe3Po1Sm1Pd3Sm1Cn1Po1Sc2Po4Cn5Lo1Cn135Lo",
     "2Cn1Cf1Cn3Po1Sc3Po1Ps1Pe1Po1Sm1Po1Pd2Po10Nd2Po3Sm2Po26Lu1Ps1Po1Pe1Sk1Pc1Sk26Ll1Ps1Sm1Pe1Sm1P",
     "s1Pe1Po1Ps1Pe2Po10Lo1Lm45Lo2Lm31Lo3Cn6Lo2Cn6Lo2Cn6Lo2Cn3Lo3Cn2Sc1Sm1Sk1So2Sc1Cn1So4Sm2So10Cn",
     "3Cf2So2Cn12Lo1Cn26Lo1Cn19Lo1Cn2Lo1Cn15Lo2Cn14Lo34Cn123Lo5Cn3Po4Cn45No3Cn9So53Nl4No17So2No3So",
     "1Cn13So3Cn1So47Cn45So1Mn130Cn29Lo3Cn49Lo15Cn1Mn27No4Cn32Lo4No9Cn20Lo1Nl8Lo1Nl5Cn38Lo5Mn5Cn30",
     "Lo1Cn1Po36Lo4Cn8Lo1Po5Nl42Cn40Lu40Ll78Lo2Cn10Nd6Cn36Lu4Cn36Ll4Cn40Lo8Cn52Lo11Cn1Po11Lu1Cn15L",
     "u1Cn7Lu1Cn2Lu1Cn11Ll1Cn15Ll1Cn7Ll1Cn2Ll67Cn311Lo9Cn22Lo10Cn8Lo24Cn6Lm1Cn42Lm1Cn9Lm69Cn6Lo2Cn",
     "1Lo1Cn44Lo1Cn2Lo3Cn1Lo2Cn23Lo1Cn1Po8No23Lo2So7No31Lo8Cn9No48Cn19Lo1Cn2Lo5Cn5No22Lo6No3Cn1Po2",
     "6Lo5Cn1Po64Cn56Lo4Cn2No2Lo16No2Cn46No1Lo3Mn1Cn2Mn5Cn4Mn4Lo1Cn3Lo1Cn29Lo2Cn3Mn4Cn1Mn9No7Cn9Po",
     "7Cn29Lo2No1Po29Lo3No32Cn8Lo1So28Lo2Mn4Cn5No7Po9Cn54Lo3Cn7Po22Lo2Cn8No19Lo5Cn8No18Lo7Cn4Po12C",
     "n7No80Cn73Lo55Cn51Lu13Cn51Ll7Cn6No36Lo4Mn8Cn10Nd294Cn31No1Cn42Lo1Cn2Mn1Pd2Cn2Lo75Cn3Mn29Lo10",
     "No1Lo8Cn22Lo11Mn4No5Po22Cn18Lo4Mn4Po38Cn21Lo7No20Cn23Lo9Cn1Mc1Mn1Mc53Lo15Mn7Po4Cn20No10Nd1Mn",
     "2Lo2Mn1Lo9Cn3Mn1Mc45Lo3Mc4Mn2Mc2Mn2Po1Cf4Po1Mn10Cn1Cf2Cn25Lo7Cn10Nd6Cn3Mn36Lo5Mn1Mc8Mn1Cn10N",
     "d4Po1Lo2Mc1Lo8Cn35Lo1Mn2Po1Lo9Cn2Mn1Mc48Lo3Mc9Mn2Mc4Lo4Po4Mn1Po1Mc1Mn10Nd1Lo1Po1Lo3Po1Cn20No",
     "11Cn18Lo1Cn25Lo3Mc3Mn2Mc1Mn1Mc2Mn6Po1Mn2Lo1Mn62Cn7Lo1Cn1Lo1Cn4Lo1Cn15Lo1Cn10Lo1Po6Cn47Lo1Mn3",
     "Mc8Mn5Cn10Nd6Cn2Mn2Mc1Cn8Lo2Cn2Lo2Cn22Lo1Cn7Lo1Cn2Lo1Cn5Lo1Cn2Mn1Lo2Mc1Mn4Mc2Cn2Mc2Cn3Mc2Cn1",
     "Lo6Cn1Mc5Cn5Lo2Mc2Cn7Mn3Cn5Mn139Cn53Lo3Mc8Mn2Mc3Mn1Mc1Mn4Lo5Po10Nd2Po1Cn1Po1Mn3Lo30Cn48Lo3Mc",
     "6Mn1Mc1Mn4Mc2Mn1Mc2Mn2Lo1Po1Lo8Cn10Nd166Cn47Lo3Mc4Mn2Cn4Mc2Mn1Mc2Mn23Po4Lo2Mn34Cn48Lo3Mc8Mn2",
     "Mc1Mn1Mc2Mn3Po1Lo11Cn10Nd6Cn13Po19Cn43Lo1Mn1Mc1Mn2Mc6Mn1Mc1Mn1Lo1Po6Cn10Nd54Cn27Lo2Cn3Mn2Mc4",
     "Mn1Mc5Mn4Cn10Nd2No3Po1So7Lo185Cn44Lo3Mc9Mn1Mc2Mn1Po100Cn32Lu32Ll10Nd9No12Cn8Lo2Cn1Lo2Cn8Lo1C",
     "n2Lo1Cn24Lo6Mc1Cn2Mc2Cn2Mn1Mc1Mn1Lo1Mc1Lo1Mc1Mn3Po9Cn10Nd70Cn8Lo2Cn39Lo3Mc4Mn2Cn2Mn4Mc1Mn1Lo",
     "1Po1Lo1Mc27Cn1Lo10Mn40Lo6Mn1Mc1Lo4Mn8Po1Mn8Cn1Lo6Mn2Mc3Mn46Lo13Mn1Mc2Mn3Po1Lo5Po13Cn73Lo7Cn1",
     "0Po246Cn9Lo1Cn37Lo1Mc7Mn1Cn6Mn1Mc1Mn1Lo5Po10Cn10Nd19No3Cn2Po30Lo2Cn22Mn1Cn1Mc7Mn1Mc2Mn1Mc2Mn",
     "73Cn7Lo1Cn2Lo1Cn38Lo6Mn3Cn1Mn1Cn2Mn1Cn7Mn1Lo1Mn8Cn10Nd6Cn6Lo1Cn2Lo1Cn32Lo5Mc1Cn2Mn1Cn2Mc1Mn1",
     "Mc1Mn1Lo7Cn10Nd310Cn19Lo2Mn2Mc2Po7Cn2Mn1Lo1Mc13Lo1Cn34Lo2Mc5Mn3Cn2Mc1Mn1Mc1Mn13Po10Nd86Cn1Lo",
     "15Cn21No8So4Sc17So13Cn1Po922Lo102Cn111Nl1Cn5Po11Cn196Lo2636Cn97Lo2Po13Cn1072Lo16Cf1Mn6Lo15Mn",
     "4010Cn583Lo8633Cn569Lo7Cn31Lo1Cn10Nd4Cn2Po79Lo1Cn10Nd6Cn30Lo2Cn5Mn1Po10Cn48Lo7Mn5Po4So4Lm1Po",
     "1So10Cn10Nd1Cn7No1Cn21Lo5Cn19Lo688Cn32Lu32Ll23No4Po101Cn75Lo4Cn1Mn1Lo55Mc7Cn4Mn13Lm64Cn2Lm1P",
     "o1Lm1Mn11Cn2Mc14Cn6136Lo8Cn1238Lo42Cn9Lo8935Cn4Lm1Cn7Lm1Cn2Lm1Cn291Lo15Cn1Lo29Cn3Lo2Cn1Lo14C",
     "n4Lo8Cn396Lo2308Cn107Lo5Cn13Lo3Cn9Lo7Cn10Lo2Cn1So2Mn1Po4Cf4700Cn46Mn2Cn23Mn9Cn116So60Cn246So",
     "10Cn39So2Cn60So2Mc3Mn3So6Mc8Cf8Mn2So7Mn30So4Mn61So21Cn66So3Mn1So122Cn20No12Cn20No12Cn87So9Cn",
     "25No135Cn26Lu26Ll26Lu7Ll1Cn18Ll26Lu26Ll1Lu1Cn2Lu2Cn1Lu2Cn2Lu2Cn4Lu1Cn8Lu4Ll1Cn1Ll1Cn7Ll1Cn11",
     "Ll26Lu26Ll2Lu1Cn4Lu2Cn8Lu1Cn7Lu1Cn26Ll2Lu1Cn4Lu1Cn5Lu1Cn1Lu3Cn7Lu1Cn26Ll26Lu26Ll26Lu26Ll26Lu",
     "26Ll26Lu26Ll26Lu26Ll26Lu28Ll2Cn25Lu1Sm25Ll1Sm6Ll25Lu1Sm25Ll1Sm6Ll25Lu1Sm25Ll1Sm6Ll25Lu1Sm25L",
     "l1Sm6Ll25Lu1Sm25Ll1Sm6Ll1Lu1Ll2Cn50Nd512So55Mn4So50Mn8So1Mn14So1Mn2So5Po15Cn5Mn1Cn15Mn1104Cn",
     "10Ll1Lo20Ll6Cn6Ll213Cn7Mn1Cn17Mn2Cn7Mn1Cn2Mn1Cn5Mn5Cn62Lm33Cn1Mn112Cn45Lo3Cn7Mn7Lm2Cn10Nd4Cn",
     "1Lo1So320Cn30Lo1Mn17Cn44Lo4Mn10Nd5Cn1Sc464Cn27Lo1Lm4Mn10Nd742Cn7Lo1Cn4Lo1Cn2Lo1Cn15Lo1Cn197L",
     "o2Cn9No7Mn41Cn34Lu34Ll7Mn1Lm4Cn10Nd4Cn2Po785Cn59No1So3No1Sc4No76Cn45No1So15No194Cn4Lo1Cn27Lo",
     "1Cn2Lo1Cn1Lo2Cn1Lo1Cn10Lo1Cn4Lo1Cn1Lo1Cn1Lo6Cn1Lo4Cn1Lo1Cn1Lo1Cn1Lo1Cn3Lo1Cn2Lo1Cn1Lo2Cn1Lo1",
     "Cn1Lo1Cn1Lo1Cn1Lo1Cn1Lo1Cn2Lo1Cn1Lo2Cn4Lo1Cn7Lo1Cn4Lo1Cn4Lo1Cn1Lo1Cn10Lo1Cn17Lo5Cn3Lo1Cn5Lo1",
     "Cn17Lo52Cn2Sm270Cn44So4Cn100So12Cn15So2Cn15So1Cn15So1Cn37So10Cn13No161So56Cn29So13Cn44So4Cn9",
     "So7Cn2So14Cn6So154Cn251So5Sk728So4Cn17So3Cn13So3Cn119So4Cn95So6Cn12So4Cn1So15Cn12So4Cn56So8C",
     "n10So6Cn40So8Cn30So2Cn2So78Cn340So12Cn14So2Cn13So3Cn9So7Cn46So1Cn7So8Cn14So4Cn9So7Cn9So7Cn14",
     "7So1Cn55So37Cn10Nd1030Cn42720Lo32Cn4154Lo6Cn222Lo2Cn5762Lo14Cn7473Lo3103Cn542Lo1506Cn4939Lo5",
     "Cn4192Lo711761Cn1Cf30Cn96Cf128Cn240Mn65040Cn65534Co2Cn65534Co2Cn0Cn"]

def categoryRuns : List (Nat × String) := readRuns 0 [] categoryTable.toList

def category (c : Char) : String := (valueAt c.toNat categoryRuns).getD "Cn"

/-- The names of each category, without case and word marks. -/
def categoryNames : List (String × List String) :=
  [("Lu", ["lu", "uppercaseletter"]),
   ("Ll", ["ll", "lowercaseletter"]),
   ("Lt", ["lt", "titlecaseletter"]),
   ("Lm", ["lm", "modifierletter"]),
   ("Lo", ["lo", "otherletter"]),
   ("Mn", ["mn", "nonspacingmark"]),
   ("Mc", ["mc", "spacingmark"]),
   ("Me", ["me", "enclosingmark"]),
   ("Nd", ["nd", "decimalnumber", "digit"]),
   ("Nl", ["nl", "letternumber"]),
   ("No", ["no", "othernumber"]),
   ("Pc", ["pc", "connectorpunctuation"]),
   ("Pd", ["pd", "dashpunctuation"]),
   ("Ps", ["ps", "openpunctuation"]),
   ("Pe", ["pe", "closepunctuation"]),
   ("Pi", ["pi", "initialpunctuation"]),
   ("Pf", ["pf", "finalpunctuation"]),
   ("Po", ["po", "otherpunctuation"]),
   ("Sm", ["sm", "mathsymbol"]),
   ("Sc", ["sc", "currencysymbol"]),
   ("Sk", ["sk", "modifiersymbol"]),
   ("So", ["so", "othersymbol"]),
   ("Zs", ["zs", "spaceseparator"]),
   ("Zl", ["zl", "lineseparator"]),
   ("Zp", ["zp", "paragraphseparator"]),
   ("Cc", ["cc", "control", "cntrl"]),
   ("Cf", ["cf", "format"]),
   ("Cs", ["cs", "surrogate"]),
   ("Co", ["co", "privateuse"]),
   ("Cn", ["cn", "unassigned"])]

/-- The names of each group, with its categories. -/
def groupNames : List (List String × List String) :=
  [(["l", "letter"], ["Lu", "Ll", "Lt", "Lm", "Lo"]),
   (["lc", "casedletter"], ["Lu", "Ll", "Lt"]),
   (["m", "mark", "combiningmark"], ["Mn", "Mc", "Me"]),
   (["n", "number"], ["Nd", "Nl", "No"]),
   (["p", "punctuation", "punct"], ["Pc", "Pd", "Ps", "Pe", "Pi", "Pf", "Po"]),
   (["s", "symbol"], ["Sm", "Sc", "Sk", "So"]),
   (["z", "separator"], ["Zs", "Zl", "Zp"]),
   (["c", "other"], ["Cc", "Cf", "Cs", "Co", "Cn"])]

/-- The categories that a name stands for. -/
def categoriesNamed (name : String) : Option (List String) :=
  match groupNames.find? (·.1.contains name) with
  | some (_, categories) => some categories
  | none => (categoryNames.find? (·.2.contains name)).map fun (category, _) => [category]

end Profiling.Unicode
