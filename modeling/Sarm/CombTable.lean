import Sarm.P256Multiples

/-!
The table of `p256_comb_table`: each entry is shown to follow from others by an addition on the curve, and so the comb that
runs over it multiplies the base point.
-/
namespace Sarm.P256
open Sarm.Words Sarm.Limbs Sarm.Jacobian WeierstrassCurve

/-! ### The table

The quads of eight blocks each, eight quads an entry: the first coordinate and the second, the lowest limb first. -/

def combBlocks0 : List (List Nat) :=
  [[0xf4a13945d898c296,0x77037d812deb33a0,0xf8bce6e563a440f2,0x6b17d1f2e12c4247,
    0xcbb6406837bf51f5,0x2bce33576b315ece,0x8ee7eb4a7c0f9e16,0x4fe342e2fe1a7f9b,
    0xa60b48fc47669978,0xc08969e277f21b35,0x8a52380304b51ac3,0x7cf27b188d034f7e,
    0x9e04b79d227873d1,0xba7dade63ce98229,0x293d9ac69f7430db,0x07775510db8ed040,
    0xfb41661bc6e7fd6c,0xe6c6b721efada985,0xc8f7ef951d4bf165,0x5ecbe4d1a6330a44,
    0x9a79b127a27d5032,0xd82ab036384fb83d,0x374b06ce1a64a2ec,0x8734640c4998ff7e,
    0x509302446b030852,0x031fe2db785596ef,0xa02dde659ee62bd0,0xe2534a3532d08fbb,
    0x5c42c23f184ed8c6,0x4efc96c3f30ee005,0x19dfee5fda862d76,0xe0f1575a4c633cc7,
    0x21554a0dc3d033ed,0xef8c82fd1f5be524,0xd784c85608668fdf,0x51590b7a515140d2,
    0xd1d0bb44fda16da4,0x0d012f00d4d80888,0x8ae1bf36bf8a7926,0xe0c17da8904a727d,
    0xc6b0aae93c2291a9,0x024c740debb215b4,0x92d3242cb897dde3,0xb01a172a76a4602c,
    0xfd7c48538fc77fe2,0x1c00f7701c7e16bd,0x6fec0e2dfba70379,0xe85c10743237dad5,
    0x300628703187b2a3,0x7ef9f8b8a80fef5b,0x25bb30667c01fb60,0x8e533b6fa0bf7b46,
    0xc55e1a86c1f400b4,0x53c73633cb041b21,0x6d069f83a6f59000,0x73eb1dbde0331836,
    0xb4dd9dc1db6fb393,0xc1d238980fce97db,0x4042742d3ab54cad,0x62d9779dbee9b053,
    0xda540a6a0f09957e,0xa2ed51f6bbe76a78,0x4ff15d771167cee0,0xad5accbd91e9d824,
    0xd79e8a4b90949ee0,0x9e0acb8c2c6df8b3,0x878938d51d71f872,0xea68d7b6fedf0b71,
    0xe85a224a4dd048fa,0x4d714feaa4de823f,0x87014a964a8ea0c8,0x2a2744c972c9fce7,
    0x4c36069404c5723f,0x45ca6c471c48306e,0x591214d1ea223fb5,0xcef66d6b2a3a993e,
    0xca34bbaa44af0773,0x590ded29fe751eee,0x6e123cdd9d3b4c10,0x878662a229aaae90,
    0x433391d374bc21d1,0x16742ed0255048bf,0x0638379db0c21cda,0x3ed113b7883b4c59,
    0xe2f8eefce82a3740,0x090d04da5e9889da,0x24c843afa4f4c68a,0x9099209accc4c8a2,
    0xd500c5ee8624e3c4,0x79983028b2f82c99,0x4626537320e5d551,0x741dd5bda817d95e,
    0x1995ff22cd4481d3,0x8eeb912c35ba5ca7,0x567383554887b154,0x0770b46a9c385fdc,
    0x98e15d9d46072c01,0x792e284b65ead58a,0x61805df2d85ee2fc,0x177c837ae0ac495a,
    0x9c43bbe2efc7bfd8,0x26ee14c3a1fb4df3,0xa24091adb40f4e72,0x63bb58cd4ebea558,
    0x5709277324d2920b,0xf126acbe7a069c5e,0x7a76647f4336df3c,0x54e77a001c3862b9,
    0x1ba7c82f60d0b375,0x7171ea7773509008,0x42121f8c05a2e7c3,0xf599f1bb29f43175,
    0x63668c63e59b9d5f,0xae03af92de3a0ef1,0xadfb378999888265,0xf0454dc6971abae7,
    0x47e59cde0d034f36,0x2a3b21ce75b5fa3f,0x4e6594e51f9643e6,0xb5b93ee3592e2d1f],
   [0xa5eb4787e1277c6e,0xcd28392eff6ca038,0x8b821c629836315f,0x76a94d138a6b4185,
    0x0e9ddd724b8c5110,0x8599a0040fc78baa,0x6cb0a1b5e11e8720,0xa985fe61341f260e,
    0xd1475bd52a7ed0e1,0xaa557fd5b68371d9,0x6c45074e8ea5beef,0x2377c7d690a242ca,
    0xe7c067b1ddb8d2b2,0x6658a6cdecf46716,0x3f8d90e9bf901b7e,0x47a13fb98413a439,
    0xabfb9dc69e4536ca,0x1c2e92960a201a61,0x8cce745be070cda1,0x9482fb0e492539ec,
    0x1fad863bf58cc1c8,0xf63d5e295707bfbb,0x1a5d638ca7534e63,0x351d9ca745f157f9,
    0xaa4110a6b90ee785,0x25b35edc7338d816,0xf67a6a5eb1bf8e91,0x0a0643fb8fcc14de,
    0xbac0d100861f9cc2,0x0da10d00e7012ed7,0xc520dacda2920e70,0x553438324a9e7955,
    0x49b1dae295ecff13,0x63764a1cdbd0633c,0x5b835a5153081eeb,0xb2e1b7c17ae93119,
    0xa3ba4989b2187d44,0x87da1a9817dea2e6,0xf233a1a2aad758c3,0xe6c0441313a3ebcc,
    0xad24cb7afc635a50,0xe512fcb2acbac2f4,0xd24451d361c37440,0x492003a35c8c3794,
    0xc9166b28b8188b9a,0x3c1bc670e0b2e049,0x4d832ff96bdc79a2,0x1f1569cfb333b4de,
    0x38bbb334eef87286,0x0703e87dfc2309e4,0xcb34177dcbc6ee34,0xb433462e7f1b6bc2,
    0x7ac047f6841496d9,0x9dce20806a2cea4b,0x383f4e72c1692e6f,0xa0da54526ed2b5fe,
    0x6a9e6235a674c4f6,0xc556dea678f85962,0xd7ce2f8eede4b762,0xae3f7dba0bde8b6a,
    0x1ee0553e711f4b53,0x7940500d085f8a5c,0x24b8c213249db9a9,0x1c0549fc0a69995a,
    0x1b986b5b19794381,0x189158875eb0c760,0xc186e905b5567b19,0xa47420ce4d3da24c,
    0x696ce3a7e2769c52,0xf3a5c08db9f6ac78,0xe73df93619967aff,0x2ebbffdf7be1bfe0,
    0x551a403f2288ebe0,0x916eb1d24497c893,0x291ff705bf720876,0xd677ae721a5d60c9,
    0x031dac28500c4395,0x21882ae6ca10aa9d,0x72a8ceb0ded3dddf,0x509497a204ad2506,
    0xec74466489a5185a,0x5b870ac89f5e6f2b,0x5fecd4012b0da319,0x05ba7a19b9d09148,
    0x1543c88e01de3a4e,0x7606220bc905ae00,0xe467823e24e3d48e,0x30e0d2b5e82c1896,
    0xa3b73fb2efdba936,0xb9c7de5adefd7c62,0x71f2a56eaa14f436,0x366018516f5a5a22,
    0x8f3ae9d3626adcb1,0x4cf24008d15af99d,0x195d35b2e9a028ca,0x91ec1aacf53ceb78,
    0x5aa398b5f99b85fe,0x9c0efe9aae3a5dfd,0x69798d918083e0b7,0xb29f74c9d0dfe2fd,
    0xdba642976da604dc,0x2def63d30bf59e80,0xd5d0712e96d7c6d9,0xa3ce5bc3a6c29785,
    0xadfa3814eb04054d,0xa7dca6c6280cfa08,0xeb36dd90b05f92e7,0x78c6be72b982cc60,
    0xa729e7a30b0dfa2d,0x0b6764277e0f8951,0x4b4d0c3c5cec2330,0x491ce81cbbaef847,
    0x2767456e87e030ef,0x576b2b057cd50e96,0x076cbf03f2482b08,0x99299baa8b91bcf5,
    0x4d8e6b7dd8d9aa9a,0x57c12c499f400844,0xbf338101a6ceaa79,0x5cc2e3d3333f8e18],
   [0x2db2e35f12d0441b,0x190d0b710d6a564c,0x87ffd1528603ed61,0x34a2d4a3b0091659,
    0xb424e7845e93b146,0xe7d766b9deddd81d,0x2bca71046e777fc0,0xbeaaed6a53a1e3c2,
    0x3469cea39f3f98de,0xa416b9ae0b3c5dfc,0xe8897bbd818d459a,0x04c490528be759e4,
    0xebd949434e8d6e96,0x471d9d7b4a4605ee,0xade84c66242a8107,0x30e50b46405cc74f,
    0xdce4ae33bda08424,0x3abfb7ab74f644a9,0x1b58c5ffa95d23ed,0xa98b0a07adc359aa,
    0x361287a0e831800c,0x752be80ba0df582d,0xe5319e8c8e1d1320,0x4754c64722499b66,
    0x80e76bb98e61ca07,0xcdc5849ae1d527e2,0x897299b9eb6fe80c,0x16949b7287d4f481,
    0xa09c2be7a0420427,0x4d2d6ac6fedf983a,0xbdf997b75b601209,0xe7a4146d770edede,
    0xb52d7e5e883c2d6a,0xd22f918d81bd29b3,0xd21b6b78c85a696d,0xa034f009c88daac5,
    0xf4336ef2c2c30e72,0xbe06035f16267e7c,0xb0cdb8545ceceb06,0xfe1b0036ca899c1f,
    0x6d61fdb48f6752cd,0xb71bdd3c3f3f923b,0xa8420fe520b265cb,0x3fb660a7f0e14da3,
    0x2f12e8c064c6017e,0x8bc013bd1100a0c1,0x4c2869c4d9577d59,0x6545851d4224637c,
    0x716a51dd28be8c78,0x4a096cf82b793e4d,0xa076e2b40962e9a1,0xb52226ff319d4401,
    0x203367ca51686903,0x819f7fc8e5b58ff3,0xca1b36697e92851a,0x701ee0c9f539f540,
    0xe1404a861abe45c0,0x281b195ff46f925a,0x886a8f4749b86176,0xb01a67f716475f72,
    0xc72f0dbe0090106c,0x72fc676341b62c7f,0xacd56b13164ef994,0x7c521bbf5a3956e2,
    0x7040fe40a058b5a4,0xde4464f87931979b,0xd968ceccfccc4713,0xa3e38861868e05b3,
    0x8f306d90e7113aef,0x3cee845bb771a294,0x3848e6b3ae97e68f,0xcfd457887df0d12c,
    0x17c2d788ebbe0146,0x637136eedbdbd882,0xb872c1d0e0ec1188,0x03acf89aa3770e03,
    0x243d71c1d38a0d8a,0xcaba4be850a0ae08,0xf06762038c11cc48,0x1ccedf94c3c6bd27,
    0xa05f5ec904a08314,0x82fe36db2dc7dff7,0x333ccab9a221197a,0x2099544a131fa539,
    0xe7f8c9c5e7573ccc,0xd406e5a736fcfe96,0x90fba8e5cb9048df,0xa5cf3dfd2aa33b18,
    0x8136da613fa8dc8f,0xfc7405cc6e1372f8,0xb7438645c660cb24,0x8ac1f41fb4e187e6,
    0x1d95f312d9509804,0x1db6fb884fbadd73,0xc1506fac6daf3cdf,0x2122b32472d8fce1,
    0x502ff94ae9078c18,0x99e0c3caeeede929,0x308f6e72aadfd39b,0x751d6513acc0ec70,
    0x998d6e95cece0d67,0xf00948c1cbe05ac7,0x85354baf6a2a2a4e,0xba9c3ffdca4a4158,
    0x1fe1767ff462ea0e,0x02e6b44d10140294,0x46d90525e450a1a7,0x7854e90d1144129e,
    0x3bf725275902544c,0xb7742ea17ef95b20,0x4a3004bbf427c03e,0xd6728e8d1f9513ff,
    0x92cfcd5c9e86d900,0x405ee09d17a3db44,0x17b48308a03a3b36,0x5be0f5225c478011,
    0xc4cdd69bf58a5755,0xf921725241b34f5a,0xd347e3a4e7b5423d,0x83d1d9e6dff2c422],
   [0xf077e8daa245573f,0x508676f2f4fd0a64,0x997789672e6d6bd2,0xe716aed2cf069e4d,
    0x505fc26b469218d1,0xd13d0df2fa07c9b3,0x5912b06687b9a851,0x353663e694fc72ab,
    0xb5113c2b357174b3,0x6b2e5d2fcec451f4,0x2f4541cf25b5e81b,0x5a57c3e3548207ef,
    0x88cf5959383437e3,0x28886700134bb928,0x01b1165729f34433,0x077c7b303e692246,
    0x7f987930657008ac,0x19ce1ecee329edfb,0x64e5558a4c1da22d,0xd2bf898d6f507ce8,
    0x8111534a727beb55,0x679ce10ab5ff0798,0x3f8195db3fa90c56,0x69c0b1cb5a6b77aa,
    0x8937f00facb006ff,0x1a87a974797e4fc5,0xd10920adecfb86ad,0x5ce96505eef7208c,
    0x818dcda107152613,0x669d20bebd955c2b,0xec56d1f22fde7bc3,0xd16b6ebd381f5ad5,
    0xfd0d7ca9782f1580,0xb0e4ddee24203eb7,0x87fa57391f3064f8,0x4d88304ee583ce60,
    0x0c0fb16d5616edd7,0xaafca3bd68eb1e11,0xe8d6800898fd6518,0x28a94e709ab0636c,
    0xa0c1c454c543d986,0x76754b6ebb642a20,0xb28aaa0aa37d9e16,0x541c97a5c80be642,
    0x7b0b8f98424b2ea7,0x7fb3ddc8c61678bd,0x54d48455eb64b144,0x054d35662cd2b632,
    0x5f84c3dae0c38e11,0x7156421bea6e26ba,0x3267399202e5af9e,0x17c72727c8fc0eeb,
    0xcd8366bbae90decd,0x7e539945a60cdae3,0x40602fcce901802e,0x95c5a4f4fe664b3c,
    0x15261b05d0b79fbc,0x63a5b8311d31a919,0x4b2a3a4635b10433,0x71a5bd27c625ca1b,
    0xc2e37ccc8f277f6b,0xc76b6051ebaa32d0,0xb39452ca1a02f2ef,0xc5bf524d066741ff,
    0xd955fd8ae32f36ea,0xcd4f46a7293541c3,0x8463b1cfc84cb8b3,0x7e03fdaac47450a8,
    0x8acc23fc8a68b8af,0x419e979a4c5009d6,0x668e6b170184af99,0xdcf6d5f1201228da,
    0x0c5e14bfa3d9aeea,0x6c04351af9985153,0xf2017de615706416,0xed42091a6c5ea880,
    0x1a456364c16e9ae7,0x954ebdd1e2105392,0xe0d3092b508982c4,0x340932a238f9d141,
    0xd43e52a6d953baa9,0x2615ae8649e18de8,0x61637ac1dca0b214,0x8ce6da684b1bcf07,
    0x78e75c28f52689e5,0x07f3986bb6a9341d,0xe69b3bc90061b568,0x3d9f4fb8fa93120b,
    0x2bf3909a3f490661,0x7835611ce53cad64,0x087e87c9ceb75878,0x1f4179b924a320c8,
    0x2e477122b437b2e2,0xb971141104890217,0xd9485f70af853ca0,0x82ac86b413a8baa0,
    0x4ab8d853af22a96a,0x08b1ba9d9c6ab8f9,0x20a5354975bae2b0,0xb570e73040dc054a,
    0xcb33f661c85d1b00,0xa7c9bb7a5855cc9c,0x028c3769b5c0cfbd,0xdcd8a2638f71e77f,
    0x495ba2d5e264bd27,0xa5a1b3ba7ef715a6,0x94567b56a196e517,0xf8a34ad3387c6344,
    0xa7f3956ff71ac586,0x0e528e13dbcf1fb0,0x7f6375adfe7d67a5,0x69ec806150467434,
    0x9e40eb94589a7509,0xe1270b9641fa8054,0x04a11a3e75c7f20d,0x44d94323cbab943b,
    0xe20a2b9b60437234,0x6f93e1fdf14dd126,0x03423bcd277b9358,0xb2c5b38008401f0a],
   [0x03e8465c6eade3c4,0x714ab749c9052a05,0x8e5c643340e586b4,0xa018366f4e91e90d,
    0xf45c42026b26e8d0,0xd5f7284e44614f37,0x7c6ce578349d8369,0xe2bbec1714110b16,
    0xfebccee647a9112d,0xeb7d5adffe1ce3ee,0x9ea25487ea254c45,0xcd7ce65d707da2a6,
    0xffbabe0d3a92b3af,0xa190aa498bee60a5,0x89b9016aa5ee6708,0x85e04a4b4c966f97,
    0x6e1cdeac59e0af06,0x92f398a562ed958d,0x50bd3b5a6d45055c,0x9cdf1f00b88d8964,
    0x8d7a32db6216ade7,0x828522dc197ca546,0x4d958bbcdc8d94b0,0x916d25fed3f2ad66,
    0x6c88ad96c3212f1a,0xe8af0bc36c998bef,0x8e67d4c73705ae59,0x0f5f0aea09963471,
    0x755d7b1e7712b09a,0x4f5ed40dde29af7c,0x5886aadd4ba16b78,0xf8a8b2b7c8593c95,
    0x81372b939305097e,0x38d6170e843ba519,0xab6b1b2d05404483,0x45bfd9d5d1a663ed,
    0x54ba058e908ddc04,0x683b9d33bfd2c159,0xbad88305470ce908,0x09d1dc12855afd2b,
    0x000349acd95bcc47,0xb0e2d44b1a7f80ef,0x3407fae48fa79a96,0x7784f06cf9bfb400,
    0x02fbde0180fbb3b4,0xf464b5cdd4f6ffb6,0x3f8de493b2fee6ce,0xcca2733ec3edc43a,
    0xcd31f1a0b63bd6df,0xd1fc23c2dd66aec3,0x671e9f9c02895e6f,0xb599ad156476693b,
    0x8ea1cea38efa09ac,0x6a40c4f691134b45,0x4637360b8b23c416,0x6979d1dec4fab332,
    0x2435158cfc4471bb,0x91428bf4e1e6e917,0xf15f0d870ae25c90,0x471ad0a8d57f5939,
    0x454318fa49693a0c,0xb0d7e9ff7f23982c,0x2a367ab48094d138,0x2234ca62778e8e39,
    0xaf8613f327142d62,0x1d9a6a35f83bc26d,0x92662b1227e854c1,0xf4dca1f16732ac0e,
    0xac9eccc07a618fc9,0xbb979acefdcd3d7f,0xd49f381b91abc659,0x551167e5b4b4cd46,
    0xa92c68146c180378,0xb3040ebdf3523741,0x49d201427daf6500,0x45dc683e625bae73,
    0x42a66ea68e817a27,0xd04ced33a08df786,0xc89beaac3e588137,0xbd0197242631880f,
    0x1ecb1ff4615fae61,0x7f15c7dc4f395f82,0xd9c4e240e716bb5a,0xf07278a0e6e09b66,
    0xf7d0cb74896376f9,0x2c270715b837eabc,0xf7d7a0821898f7d4,0x1a681b2b14a71ea5,
    0x2e06dae905566022,0xa2d3e61463d4dfff,0x7405e146be83337f,0x93e498f09e88d0d6,
    0xb1cb31eec7c53f91,0x3b27a24bc689e611,0x9096e0f3540088f4,0x7d974929d221120d,
    0x0c4e04152466591f,0xbe172ea8ffc68d6a,0xf143ab533ba858cc,0x1fc52457af0a0db0,
    0x44efef57396f8cdb,0x29f8cac232ec7822,0xe9ec76fe5b434e16,0x489c1838089ebc11,
    0x5ea48f58173b4df8,0x1df4170c442d4d0a,0xcc34630510b36f5d,0xed9ea11f2d7b0206,
    0xcf5afd9ce069ce7b,0x52acbb37e2ce6a55,0x3d0e3d4c3f02b537,0x175d2f8031d02978,
    0x125d0b8c322a8ebc,0xa291cdb718f96715,0xfd7f0b5b30ca56d5,0xfa2501b31a48c5f4,
    0x80d927b5aa8a775b,0xea58e08e6cbc8331,0x33851e661a6fa8cb,0x71c932b14f858962],
   [0x8f7dcecb7d96dff1,0x30e431c1aad5fcfe,0xfef6a0b570cd98d5,0x0ec73885141fe54f,
    0x9ec841ac7c7b552c,0x1d5264ce87ed78aa,0x91acc4ef58065251,0xd6224f4e87ae875d,
    0xb183b5399660b7c9,0x9ba12b3112fb6dcf,0x059a0e2532c8f0c6,0x477778364e6e1cde,
    0x5c205fa39918c3df,0x5e0604c1f142ebcf,0x7373efb6a7c89e8a,0x2dd89d00b8389e31,
    0x51c324ab088d58e9,0xe94a5c1c64e31838,0xe992a46a7c42a7b6,0x96dac3fdc7064a86,
    0x80349312aebebc5e,0x685be89b9487e6e3,0x856cc4949382c439,0xcb1faff3ad46c1ad,
    0x0fd8013b26d69d8e,0x2ec38faf35f45d26,0xc73d989017e14dd2,0x353d458d3491b5a8,
    0x842b9d0020f32b82,0x825dfc12fb71a9a8,0x3130fde40c040a8a,0x9c7d37bf4f5bde24,
    0x8952ad132db29f92,0x1d21d271b947b2c5,0xa105dc378aeb8f81,0xe297b23ceb14f312,
    0x60f294c8a5e58ddb,0x1223cebb85ed4141,0xb480dbabb8cd9149,0xe1372520f8cb70b4,
    0x3f4dacc55b5e6a6c,0x86679fdea1d8de80,0x3171bdb6d33f07e5,0xa737bb3da35a3b5e,
    0xb730c7d69054745d,0x0d4e7d487692ed0a,0x2b1e765d8e905f15,0xc68f53e01f98ffd2,
    0xfd943b7b8ad88c33,0xd91ae394d9746bca,0x6b06bc920d24da97,0x1cd22338fb2b94b6,
    0x628ea784248fb1b2,0x13fe51315eca1e49,0x96c8640ab136bc27,0xfc3acdf838ab48b0,
    0xaf0d4e79e330c098,0x28e6bf035dc617cc,0xd57180ff0b1ba76e,0xddad6bf0172e2240,
    0x3e5a994d63b67b58,0xfa333bad2db9d140,0x7530a4736125adda,0x0b1371e6935a2189,
    0xf53ac89c3b26aa73,0xcdf7e11b0c63a0e0,0xcb1cad30dffb1ee0,0xf462d7adb9e9fbbf,
    0x245eac1778479e73,0x49e8e0a300502cca,0x0d53ba4a68733c7a,0x406a0d1a78345314,
    0xf58bebae5b2e97cc,0x89ef670c852039cd,0x1d6f05da10f6cd68,0x22ad3fee717113b9,
    0xc2d34ede848b42a0,0xe03640043cb4cd37,0xd0a598db6a4dcc1d,0xbce4ec07b05351a2,
    0x3ee1e02abcd015e3,0xaf90e9597e650227,0x75bdbeb3ca895168,0xe0f68925d3f70caf,
    0xdaa24d42d2157cce,0x55b8b5391e2936bb,0x5362696c7274c77c,0x08531e310e483aa9,
    0x2082b63685ce7562,0x7c8ded40b882a851,0x5364f7c14bcc66e2,0xf6c5ef5db04ed3ab,
    0x0747f96b177eddb3,0x51ed33cad490a6f0,0xc5a533360dba5118,0x4149117a17145d88,
    0x1e6c43114bb76b12,0xea8e76773e192769,0xc1d82b312af75a00,0x28e4adc1552bf57f,
    0x57e453a7ec4747bd,0x03a0a60f171628ff,0xf4e4b65b6b9ea3f7,0x14d74c4efd9a01b3,
    0xafae5fba343040c6,0x20d07018ea77661e,0xc78446b476dd149e,0xdf30ef720fcfe8d0,
    0x2f3560036ca02b72,0x43cb0cf4429c03bc,0x09278a77d903449d,0x18e1aebf6d6dbb45,
    0x8bf5801fe76ff697,0x369b688652076462,0xd271edabb3a097c6,0x85a0ba2794ba805e,
    0x309ed4da52142721,0x1de97ffa790a58b9,0x554790d3dcedaa55,0xadf32e61eac3e24a],
   [0x3725c5dce392d805,0xa87a8069875405d4,0xa4a54daafaa3449a,0xf8f5dccf4c6a93d7,
    0x026619516cda02fa,0x51f3da64a52143ba,0x389d3e3364613273,0xe58176cf66d63054,
    0xaca7f0b2ac51d8a6,0xfd42d88478182a90,0x9b317fe248af581f,0xa118b0f24bc45d9c,
    0x8621b55d5c87b030,0x81922408e376967d,0xdf7b25ae09464d6a,0x698b53fd0f7e1798,
    0x19d4b3167fa046f7,0x17110f390207309d,0x4e084ac8946e2d45,0xe12c8e4a865883a9,
    0x53a55a28a12646ad,0xdd0c04e113311934,0x433b3ed5393126f6,0x7cec04610fd9a2f3,
    0xfa42e8729cf5250e,0x7bd24be788828675,0xde9ec29566d715ea,0xfcc8ca2e4e502d2e,
    0x602e0fbf730fd4a2,0x9046bc05c03b2120,0xf6b9880a8b34da5c,0x30b57bcceef8bd04,
    0xb9b127e8c2853c43,0x48166c57ae22e466,0x3d08e2efe3d13236,0x394bd47417969209,
    0xb17828cca064469d,0xd52f6712d90fcf0c,0x207e3fc2f1d60767,0x2b4d6d52151dc6b9,
    0x18da08ba74cb5cbf,0x1f177e3abc30f120,0x26a78cadbc7ed64e,0x81341ae328b19095,
    0x461726673e856d6f,0x80babdc773bc3358,0x0dd25cfe06cf0349,0xf2a47728b2deb5f4,
    0xec2dd739fc722e94,0x4ed810396d058961,0x445c6656c5940433,0xca8538df38de82e9,
    0x3a0a62df1049a527,0xf20953a8a48b26a4,0x11e73126a1fb9f12,0x3b27fc42eb9e05c3,
    0x2318aa0489a95e03,0xf349f675d2af3c3d,0xee9a4b43cf2e4e3a,0x24bbe05bfa35ddc0,
    0x87df45ed8d793c4d,0xd40aa52e375aa149,0x17182d4dd2760faa,0xd49405ee090a22cf,
    0x87174629dcad6309,0xd31a1fc2f239ff48,0xa1bb74624ca67b3d,0x663e1a59f2357b75,
    0x53286ba389981f28,0xb907d44402eb52bd,0xc102c183cb1cf918,0x292fb73b8066a8c3,
    0x70d45a4ded4d335f,0xf2accb5f8a3edd13,0xaaf94227eac9c482,0x46e22fdc70432f68,
    0xab8aa54c61bdb9a8,0x9cb893a34c6225ea,0xd59f4b2940a2aeb3,0x1e1f378d8436fbb7,
    0x9275b24522c23d03,0x3ba1b04d8fc7ff24,0x96c36c23707beeab,0xa2d9efe730636670,
    0x102e4c04f085db74,0xea09a7e95839df45,0x15530436c7101b92,0x1cc85228cc841b8f,
    0xfa22eb9ba08eaf08,0x6df610b42ae2c020,0xeb76c8e73d40e0df,0x86f0d61c0c8a0982,
    0xdd71fbaa13a0c1a2,0x14a0c650cc021492,0x3104df1399953635,0x03059e9c7572fb0f,
    0x1755f96707d4c6d1,0xf662cd519ad9fffb,0xe0b910b5273f35d0,0x5657e12b48b1a9ef,
    0x88303f298106bdec,0xbff9a35a1452c141,0xacfb390f33ae6a0a,0x72b5bef4b8dd49f9,
    0xbfc50fbbf32d296e,0x59d03d9ae280de5c,0x1a257a892c9ec527,0x5e378784112a2a52,
    0x491eff584e42294d,0x4c9118ef208fde89,0x4fcdeb66d5b8ad3e,0xa559d906505d0e67,
    0xf8654dd55933564a,0x7a68b4faede3af44,0x0864edc6676d8d2b,0x5b686215d40ae001,
    0x3b5f04588204ef63,0x392aee228878869f,0x52d30c54d19d95de,0x76b5ea69cf3a2645],
   [0x984a23176f922dbd,0x1ca631161f99218f,0x3f85eaad8e4d71b9,0x6d28b6bffd4daf31,
    0x44abff02a0ef3cff,0x4c24e9f0b84da299,0x40fbe1a61ccb4a1c,0xaf39d905141dd2fa,
    0x9789404fc4fb240a,0x50ea585cafb75250,0xe613947f2d302f2f,0xd131e661dd93d815,
    0x22f60e1402501a57,0x7423d4ebcdeacdf4,0xe79b4c37f48f4fd4,0x34342c8461a95da2,
    0xb590dff99b168b64,0xa153d02ac586c840,0xd3df0905fc14467e,0x7cd3157a7fbfe3dd,
    0x856c0d2b5abbb16b,0x13ac4d9b72e02e35,0x20568e78bcdbfafb,0x9ca08d2117292c62,
    0x67e5fdd7b8087dde,0xd0434584477fe2e8,0x712e02810be246a2,0xafff5af92c807615,
    0x178346acd44eb3a2,0xaacf175292ddabe7,0x099a747ee10a2a22,0x659f6ea22cd060c2,
    0xb2b1c6fa06ef29e8,0x64dc554b09d9aee3,0x56b243199d453562,0xed860bdb5f2df8c4,
    0x501a1c49b9b90f8f,0xe7630f5c2d8daa33,0x7c6bf6b340417bb1,0xb837e74375d5a7fd,
    0x3d8ef9236dbf52e9,0xc01974d056f6f88f,0x6a65739b8b079177,0x3e65fb3b08594f3a,
    0x3a52541ec710d348,0x600d56d126aebb43,0x10bea6890cf95987,0xe79bb6600ef807c0,
    0x9df918b3f636e617,0x47dcd03bc1f1cf59,0x735e1c2e7e272c9d,0x6868cc8fd1d21243,
    0x1c8ddcf3fcbb3d27,0x60fe30c8a4384cd7,0xb3c5903879313f0a,0xeed008a5b91bf9e6,
    0x99fb69a100371f53,0xe89dfdb368bc6669,0x05b8000a73853a82,0x8437a7cab8f3e67c,
    0x248872d7879cbbab,0x10e124fedbfbe259,0x735483f43819bb8e,0x968fd75882812a40,
    0xc79da2a6113e2a34,0x291d2e65ce3a11e2,0x2c5cb49f10afd318,0xec03b360eac8fe20,
    0xa42243eeb84566d6,0x8aa8156e65a136b7,0x7befde2101212272,0x86020ffb60a05843,
    0x20409a178519526b,0x133a579d37d4dd4f,0x4c7b1de8989eb9e6,0x15f2cf68579ca9d4,
    0x355e35bb66d83fc1,0x2669bcf4f324b2ad,0xe46819ddc47d4d7e,0x21a51e5bd1986a77,
    0x5eae0ce5c87c1b18,0x101e2cb5484991a2,0xe6a3035a591056fa,0xa79464a39e78b90d,
    0xbeb585097b94809a,0x0d98de9c71562821,0x249a57879e9a89f6,0x1361f4e3f72858cc,
    0xb510cae477159a25,0x1f456b063da3e65b,0xf5f7b88e7e1bda6e,0x0701a78dd6546551,
    0x0a843a51fbfcdba3,0x55fe9158099dce97,0x19eda0a206beaa8e,0x8bd65e64e6b94200,
    0x594e28c6ded10d26,0x5a9abef829e595f6,0x90e91fb694f30ccc,0x544ef280aa8fbcc7,
    0x2fc24f7276dafcc2,0x683d6f976e2c06ae,0x9d6b1dfe8d8d70d3,0x95b91c9dc45ac2ce,
    0x812686c1afc59084,0xc4c4acca4b1f3c5a,0x778469ac0cdc7f64,0x8c259414e492ea1c,
    0xc8236db59f30f7c3,0xeb03a88b88f09232,0x916b4f0997ecad5c,0x6e162f4d40b152e6,
    0x249479f8b7ad18e6,0x57ad3e798d3cad5e,0x4de53c846b4aff9b,0xe2c26c885f34c621,
    0xadafe51aa554cfad,0x3bc515ca71981de4,0x51ce266ea117ba11,0xb2121b284f488188]]

def combBlocks8 : List (List Nat) :=
  [[0x3a5a9e22185a5943,0x1ab919365c65dfb6,0x21656b32262c71da,0x7fe36b40af22af89,
    0xd50d152c699ca101,0x74b3d5867b8af212,0x9f09f40407dca6f1,0xe697d45825b63624,
    0x336dd1e7c68278c2,0xa1dd10b8a60e47c0,0x6554caa343adfa5a,0x6177947147864343,
    0x9d03ecb2efabd2cf,0x327969992317a1a6,0x03bff005c8986473,0x4ecee7d5a568791f,
    0x76a78091df0922a8,0x8e90e9d2545cf8d9,0x80924e56022f8b80,0x4b656a405b4e2d73,
    0x4dadcac5999a80bb,0xd473b9e2b9850f69,0x20d04cc255d8c4d6,0xee1ea31d12e77839,
    0xaeab93965a7d9344,0xf7221aba0101b56b,0x193d8758abf96019,0x521cf0cd89729d1a,
    0x4529f28196b7064a,0x7a1341ca5a95fba1,0xc583fe0ed386371b,0xd60220dacbf9e9ba,
    0xb504f88869d07e9e,0xa09e7ca1f6a60c36,0x93db2be0fb3d8e5e,0x9d78956ebd65e13d,
    0xf4dd615ac3d8c8ee,0x7460a2da3b94c7b2,0x6542a89c1d3210ce,0xd5149e6ef48ea8cd,
    0xbb430cf33b281418,0x7ce5019bb0000e35,0x4d56c2613639e706,0x7c86b3ad8863a8dd,
    0x79dd3eed3117e0ec,0x82ea7c317bc0861b,0x4c62b97768daa72f,0xd958bacceebefe95,
    0x667750867dc4950f,0x5741b2adbd394207,0x57236846e4db6316,0x4acb1272e1353fa9,
    0x66c6e44463d8b4df,0xdf9e4280b5866ac5,0x8cf298f6cc71e29f,0x726cd20fb743cdad,
    0x0b3184a32b3fce8c,0xbd4bbdec1543d1a7,0x562fc9efce42700b,0x176c11c1328ed07b,
    0x6ea68436a3c9f19f,0x5c5d842a5bb51ab1,0x89592180b7de3b7e,0xd17f8dae934b8a35,
    0xf40c7a7bed7e8cbd,0x2a667f8af007d816,0x234453550c81464a,0x640c5ebf1a6b17b4,
    0x06e2903cbec5a5db,0xba069fb18cff9b02,0x2ae9c6eb701eab9e,0xd6ae88fd829cfd2f,
    0x63ae2b005e57d10d,0xaf42e93b573fe788,0x09d378b7cf26b9d2,0x493471abc939487b,
    0x83259603c6056dbe,0xbdadd5ec623364ed,0xe96c54f99a845acc,0x60d9691165077eff,
    0xf70a04b07e86bddc,0xf1d26b97975ce3d5,0x451562c90ddb6b9b,0x8bba04b1b4284b32,
    0x5223c5a1e9e349c4,0xc6acfde4f4196e5f,0x659bf9216699437a,0xc34099c09c208ebf,
    0x5dd2c18196a081e1,0x482c9028d974a0ef,0xfc1c48cf4a13975e,0x7085b59c1c09e312,
    0x914adea64659f1ec,0x4e9f136375066381,0x3cc6b741515810a6,0x55a062a24931eecb,
    0xd170e7804257f582,0x1f9909eadec3a258,0x10a6943f7c5a5fe4,0x8b0a5744fecd37e2,
    0x4817fedf37372d4b,0x56db46ba7b160766,0x662a15a137e37d46,0x9e57a44ec0d6c739,
    0xd1d41eca113fb3bb,0xc52fbe5033f758e6,0xd8ec684abbea778f,0x526fd9e3e7b79dd1,
    0x8b72d1cf470b5e0e,0x2622644c6800f600,0xa0fce55430c0a98f,0xcb3d9fdbe104383a,
    0x3f1449f9985e797e,0xf06e224f2e3c3168,0x1f856f493d9678a6,0x0a13ff97c2647897,
    0x8327ab9f539d666f,0xf27f6f0a7580c392,0x917d818e8fa1dc3f,0xeb1a964b225c83d5],
   [0x7aff4fe1fdde3445,0x76bba9dda2aea781,0x85371fe7ff26519e,0x6965b6384d7061e6,
    0x7cc4389e18855113,0xf47ce6051a5f99d9,0x325e496638732dbe,0xd1bcdae39c482511,
    0x0375c0c6edee30ee,0x48526336679189f1,0x9ba834fcb1840971,0x9ba1e12f974ac9f3,
    0x8a96b83b67b43c5e,0x62067ebb8c7d4f38,0x277c3eea86a877be,0x03d2f132311bea6c,
    0xf5e40f96888acfc5,0xb1ef589b36689789,0x027e7ddbd4091a71,0xe1cbc51dde75c7da,
    0x3bc5fed5a249a225,0xe7d3292beebfba52,0xb312764ffdb9e23c,0xec678397cde7daed,
    0x8afbc67f51c57125,0x5a1658f6d17c5b10,0x485b544d9567e863,0xc90ea1fbe9020055,
    0xc669a504defb8d94,0xb6a3d07d6de19a69,0x19667af636e660b1,0x05aca66c710ede6b,
    0x758ea53fe107ccc6,0x1d3897e1543c8228,0x731e9d2845a90048,0x9c3f267971138aa1,
    0x840794cd3dea9152,0x51a8fd4e95f9b186,0x8be375f4bf3e6eca,0xdaee0c1b64b51d9c,
    0x61067df977fc555d,0xd1df6426ed18d433,0xaa47106437dc1824,0x67a51d096d01cb39,
    0x5d9ac5946c12c1d7,0x4363755443132b3e,0xe175487a3fa794f2,0xc1095aea14bf7be0,
    0x21c5eb4395a449e7,0x2fa2a034e53c2be4,0x796fac17b140922b,0x5c30d9577c6b2d72,
    0x770ea481ae2677d0,0xb75e4053c3ce790e,0x164b65f799c592d0,0x8025e3b5b08e1b92,
    0xc1bf1f2dab3cd7fe,0x9cf25089f822df8f,0x3d3a1bb4a48c105b,0x0a88b8f77c896230,
    0x6a3bd234f1661fd1,0x0c491c0994d7154c,0x1d4d29d246caa990,0x15b63b6905525ac2,
    0xfa558c028b8ceb07,0x5379252bffee271c,0xafe4e2b07ea8d995,0xaa3bbf230c8e9682,
    0x99a8462e9fd83984,0x3b71b2bc7ab3f9eb,0x44dcb0fe4c9162ec,0xe6320cb09c1ec268,
    0xc35c99281f9d5429,0x7d4a5cc6a003762f,0xbafaf9cb5d606ff2,0x34233278994634fd,
    0xdfda0ad8402e2826,0x68094c6b36d9d8f0,0xd34b5dc46e068d45,0xa3258285f3856a65,
    0xe40ea55583bfd1f1,0x3a36dc3515d65732,0x79e60fc991400194,0xab4a325113334181,
    0x21139610c8e1c233,0xa57d9324279e98cf,0xb4eb3bd0412fe057,0xea6c64bb036c8668,
    0x9277d1148a50a1e1,0x164b7ea9c4a0cd28,0x6cac5fae0ffae1b1,0xbd58add042642ec7,
    0xfdf7accb06773780,0xc5c046287663ec57,0xc6f41fba2b27ab6b,0x8ad1183e2ea2fbc1,
    0x08406d780b1d6d3f,0x5f37668a4eeebb89,0xf7337f5cd8a5a810,0xdba9b259dded5d77,
    0xc42e928289cd8133,0x48bd9bc4512bd93c,0x5aca994f4feb8714,0xb3862d3f57535b7b,
    0x2c12b388701f3de8,0x0cd3c187faac904d,0xe53a635b6cbcd930,0xed3588338031f0a4,
    0x5f4e485f7266ebe3,0x98eee3ec1ac407d8,0x3fb6cbbf1554b67d,0x87fe94dc7deeab86,
    0x679a038031fa2a6a,0x34fc1d585b0e4b25,0x07add742b1a3cdfe,0x1998f4c42e982745,
    0x607edb4bc6415142,0x4c6c02387b7258b5,0x9700f8008b78a1e9,0x2ebb416d190afa10],
   [0x258fca6c4d9aefbd,0x1efe47b273b95775,0x32ca9f0d41bc43dc,0x0fbc341c8c669d76,
    0xed3b6ea9d3e71ca0,0x950b069e200a9ff1,0xe4014b1d4957d3d3,0xbd8022632f360e3f,
    0xf3a6db8a73e44b54,0x54dbeefa7c1e27f7,0x2dcb6c352620546c,0x829019319d8f776a,
    0x6803f5e4fe5fe6ac,0x9f47a0a101135484,0x65888d6eac1dd9a0,0xe6a26e713ea8fa1d,
    0x8796dffee9434837,0xadb3140b8620c1bb,0xb1341c6ffb4fb06d,0xd76d18abc4a87aed,
    0x4faa04f9bb215b4c,0x90a458e775b7ccc2,0xde0e4214f7ab9332,0xf6bc4da32ed96644,
    0xa5e743ceea394a20,0xb41ca518e198a281,0x444cd57db517ac92,0xc48dbfa12299cf2a,
    0x4a0580dbea77a75b,0x9440b125991bb5e2,0x64ff2e411bdbd6cd,0xbc83cba00e1380ba,
    0x02e89f219c07f222,0xc5e21c63ac60fe7d,0x4f481d1a1f1753d1,0xd5c0c6506167ff60,
    0xe2ef691e0c6ffd57,0xbaf3f51a78813a86,0x0cde0c77f49f75b9,0x15a30b860817b885,
    0x5bb8cbe596a178d4,0x2233bc4ff408a8ef,0x4439015b8bce969c,0x1b71b816fcb52791,
    0x4a2d7ebbb5507f51,0xe0e5b6c1f6cc1171,0xde6ef1c28d738fc0,0x7e659d1da48a8e2c,
    0x4a4716a24e93bfa6,0xd39d295a09a1362a,0xe549cba66b4c9fe0,0x734c364e4a46f62c,
    0xfc6fa79998d10774,0xeca13620890297c4,0x9de981e3520c5f48,0x09951503aaa79d04,
    0xcd013f88b049e7cd,0xe8f9257ae57fdc00,0x3be71969fc3a9301,0x987f256d58cff937,
    0xb7254bbc6efa35d6,0x47b4605207aaffdb,0xe860ebd60007e39e,0x8e92695694ec505c,
    0xf0eb517f5fa194ae,0x0640291d9a054aec,0x01175d9d2a9eb149,0x79a3d9da07b66a89,
    0x4fc65e9c9fcf634b,0x6bd425f32f79bc4d,0x4b3671b858af03d8,0x84e1dbca7254b1b3,
    0xd66ec4e5390ccfa9,0xc41860a21b4b3b74,0x2f50838a4e371875,0xa72cb8e993ec35de,
    0x22fbe345af0fd4a3,0xf1a4c6edbdd2bb28,0x7b5b7066fc5d44b9,0x91a660e391681a4c,
    0x6ac9060021e8b7fe,0x5dd0e2e17785b26a,0x8a3e4caadcfc98e0,0x3393fd094d5b0582,
    0x0c142442023c6821,0x8e56b30a8a9b94b7,0x2eafeaed9c5a668d,0x130437bec867beb8,
    0x0a5db33fc75f4ddf,0xe955273186ec58f7,0x8507a52f4805eb98,0x41db43d818f963fb,
    0x285c41fbb53425b3,0xd53db5d79f7f2e31,0xdd2ec30777538b8f,0x4210da1ad0865781,
    0xa09579d561528cf6,0xe6a0250af650694e,0x5e1b4586ee5b0a52,0xa16b2886134627e1,
    0x80b920f9fce93f3b,0x3493fbc813cc8013,0x913ced79d81150f4,0xf40598ae8537ad99,
    0xb81dbe564d20d1b2,0x2e47dd806702f9f8,0x7f9e7be17e483448,0xaf7e078e17f3e1d4,
    0x7230ae89764cc6b3,0xe6600a25c7a08da4,0xa62ddbae81b2497e,0xd8bd0f435b22b2bf,
    0x3510a66b8c8db2e0,0x473cbdc15f0d7358,0xbf6c89aba95a74f6,0xd317ce2018e3474c,
    0xa5b34a2b274bc9a9,0xcaa274d022b860f3,0x99c2c3e8e3979136,0xd61a210a9093844b],
   [0xc6e3197aa3fe67b2,0x34a8bfe70a2e3338,0xbc666b9ba97323b2,0x6608c243773c85dc,
    0x1923fe5ce5b47a28,0xc22b159f40c54308,0x846f640da746e03f,0xa1a916bec521c168,
    0x5fc1209b0378bc7f,0x58bc6e018be06286,0x9979bc856e976e53,0x70c1fd6918000aa9,
    0x6d68171ca6aeb856,0xf5a9f32f61e1cb0d,0xaaedf6f122428543,0xf7daabc20d5bc522,
    0x13e6eaad2bc73e02,0x8496614eeb65312c,0x206a98117d578631,0xf0956ae2a6c5dc23,
    0x2d2cf6998611219d,0x672d048dbbae9457,0x76e2058af2839356,0x433fe6601144e03c,
    0xbc63b9f4e77e03c2,0xfe32c900bfb0192c,0xc0733fdeacec50aa,0x30ac8e52250d76b2,
    0xa11914fed1dc3f83,0x6704ba32cd8786dc,0x69aa6584002e77a0,0xd694b530c099785e,
    0x7de22de51c5fe45c,0x88b281a8387c0f59,0xa52f249d7cf72834,0xdb98ebea3ca2a60c,
    0x44a701c43ef45a22,0xe983204faa480e1c,0xde15129dd8912c8c,0xe0c0f30b75bd85a2,
    0xcba43acb80c6c0bc,0x4d9f8d7283df687f,0x785a855ff7c71008,0x0b92902a077e8e4c,
    0xd088e9d8baf5dd22,0x04785ee3d92ed23c,0x0d6e697a2d161e20,0xddbbd3cdad5f6a8c,
    0xaf59e60de2128eac,0x0c4758d5ccaf1ccb,0x21ba6b3b7d6a5169,0x0a73c0160adda5f4,
    0x3859291d64f1180d,0x793759f17755d9ca,0xa55cb6dd94f50a7c,0x443fda56044e838c,
    0x2d86a63c3e689186,0x36bba6c05ecdb6af,0xef5a97ae73396212,0x5bb99589230a0df5,
    0xedfb310d1be3a018,0x92643ed05bc1dcc4,0x5724d461a33c413e,0x189e83e977ed3159,
    0xc65a933163ccbc30,0x9edfe5d21d349618,0x70ed37667a099724,0x378720c347cb4f23,
    0x6a20327f1315729e,0x16bcf955d1348f84,0x93118ac0aaa79b6d,0x8f1bddb9cf72538c,
    0x33d38005e9583501,0x9086801c76b5d18d,0xc9dba87327404c39,0xa65a3767559b10fe,
    0xad2fa9df73f552df,0xa8c24997dcf28874,0xe564913cd393e2e0,0xb71ca7025cbd7194,
    0xa64a8de543bb1b6b,0x575fef32f47c2bfa,0x9d98118c1055a621,0xfe8fd21db78b1a61,
    0x97b5d9ba30eaaf93,0x0f14ddcff0abf889,0x69e28e95f5ad13c0,0x791e22aec3256e37,
    0x1ddaa1df0c177775,0xabdf0902d2c5b43e,0xc8c2557c4dd03e4d,0xafcf5a6575201206,
    0xcc45b4d397bd04da,0xfae009a7293517d5,0xd3d10b5cc45df251,0xc19f249e540e3f43,
    0xe805599cb44b7cea,0x47446940916cf87d,0xe820402278b3dcca,0x2c331fd579fb7e2e,
    0x7fc2b46ad5d1c9c2,0x6192511ff1309407,0xfcf3f3d8c3bdd650,0x20567b1cce061e76,
    0xb00dd4e0d6789065,0xa8dafdb00b195f64,0x6d5c45d51f6ba24c,0xc22f67bd7cc643a2,
    0xda5beff2814712d3,0x9da87b73db5cec2f,0xefe4e67cbee5af85,0xc8fb0a3bd1d6e392,
    0x8f929b378112278c,0xdd01649d0a8d9a15,0xa348b4c87f844b66,0x509bc06c4651a320,
    0xec875c988e178f66,0x0f65fe86e735f945,0x1760f4f17b8f6457,0xb4b168c2b72246ec],
   [0xc2ebaf8017e55104,0xf73a835fbb8e9c71,0x63de93c34d8b561c,0xd8de765227b78737,
    0x2a02ef80e52e08cd,0xc2f73fce1940db1b,0x5c4c628ad1dcf924,0x2fd29465be13f2d1,
    0x06eb9409f722a81b,0xe9227bab9467b68f,0x6020f71756a0a320,0xd03eb26a9a38b79b,
    0x95e25f86d8a85767,0x9dff1a286df208f5,0x6ce057045262d412,0x50c5fcb02c21a3e7,
    0x6939c2c7e987bfd3,0x87c5472ff4c4284c,0x551dfbeafaddd191,0xe3a5786fbd518e33,
    0x7ed31b6c8cc23e7d,0xa3dcf2ecd928e081,0x8477b9ff4ad8210c,0xf74bad09535840e6,
    0xe834110d03f61c13,0xff6986d6f1790dd7,0x2d3ad94e07c7976f,0xfe4091010eb8cda7,
    0xc3d3cecdbda0b3ae,0xf986fbdb99e1d973,0x39486faf093b0b79,0x081759c1da404032,
    0xb67951d222d5056e,0x0edcb5a7e247a07c,0x11525ffce96e5e48,0x42a97041eca520d4,
    0x48414dc8b0f7db11,0xb64e483d6e9fd1fd,0x6ec36dd26b563b26,0xf2fc7f66cf008706,
    0x7bca829e0a94a6b1,0xca300c28d0d9e4b6,0x28a7cebe93fc4323,0x5873b9f32aa7b78d,
    0x52bf9f98de524c9d,0x1f5054889ffb3df0,0xf4e0379cc39bb95a,0x17a7dbf4ed5e2eb5,
    0xc6745f91d3dafd3b,0x6fb899f02dcb3956,0xfe232c2ed65379d6,0x0d6ca71b1c27964c,
    0xd6adf1421a6fe6e8,0xa02248abee88771a,0x9fe494a02707de58,0xa85130b38fde293d,
    0x13d00c248fa8ee41,0xcb4e6644c7743648,0x1e80957063154403,0xc90e300839dd5895,
    0x47a63667c3d7c1ae,0x5045534717accd6e,0x9c0710c653840362,0x62f504176d19e73c,
    0xf6bf9c7ff1131f8b,0x69646960cfa20d4d,0x7d4c22df9c431fb4,0x05edca7ad865a3d9,
    0x0ecf0b19ba6f779f,0x33525005f0e89d49,0x01c9d71b5f0271be,0x9e58881e48e886bc,
    0xb379f9608dc703cc,0xaea569b7160376b3,0xac9356eb5857c526,0x73cfdacbef8c6a4c,
    0xa65e18594e1e5c55,0x78ef3b9a43e85885,0x394dfcdf253517ed,0x4f80f3584201e6d2,
    0x9c8f9f41eb597e4d,0x4974f325e77d1a31,0x121b45a33b771c11,0x5a13c0560bc7a0a4,
    0xaf7e4869e41856e0,0x7bde87ab59136664,0x51fd18a0f22d73ce,0xc9e73c13890f97ff,
    0xf790b4efa70216ca,0x57e23b198e1539ba,0xb21c60ae448fb2ea,0xb6ee9f71ab3f761c,
    0x24865ba1c5759234,0x76eed96a290f9f0b,0xc820b826a8e9f4bb,0x5594644173e90b46,
    0xdaa789614260faf0,0xa2bbd34597e95935,0x43144e1a680f272e,0x96b25656017b6e75,
    0xc0e42520e366d412,0x890bbf98707d4f5a,0x00ad8e5733bf99e1,0xdcf8a6a001b37cac,
    0x8d9140f3d7f07578,0x59b20724d6db1a81,0x455322bb63570df1,0x8f51c431527fd5de,
    0x500400f045e9298b,0x044cd7048083be29,0x912a4f8d105dade4,0xfb97b65f1e044468,
    0xa49a1be4aad13276,0xca6350eae9c043c7,0x26f12b2b387771a3,0x0b971910c41cde24,
    0xb338f3420a84dadb,0x593d79298270fae3,0xd4e2e45b3bf6811f,0xac28486ef006eefb],
   [0xeea6bc92071e5c83,0x8bd27f198542a0be,0x20a845b72a58e5b1,0x54ccc9415026d73f,
    0xcfd08ef7140916a1,0x929e0bcc5d8ee496,0x3a8f8715dad2bf22,0x1c433f45b4514532,
    0x831bb80c01287c25,0x83fd5b1e946f64b2,0x9d841014dcfbe833,0x29e34b1bed8aa814,
    0x1d23ad1d75a7e46e,0xcf3a198b6e15a439,0xc1417cdfccd96b25,0xea4397df95eeb3a3,
    0x4c5e3622af76167c,0x2f2f422cc4746739,0x39c22c692dccd9f2,0x87582edcb73eff95,
    0x6c6fbb616f4d7ff6,0x88028f0677197be8,0xfde102c3c37236a8,0x075b94350ad64a7b,
    0xf3d5be3a53a3a383,0x876f31533ab62409,0xea5b5f1d3c001919,0xd2a076367c5ba19e,
    0x65f2abb22e7e0640,0x5981aeff3f598bce,0x6643a0f5bb9dce30,0x79aa09b893b7fcc0,
    0x46723ee874de6611,0x33f657394b821fb0,0x1c25b7363566f11e,0x4a107aca1f2736db,
    0x0358ebee58a805fe,0x075d547a5c2132ac,0x34ce64e8f700052e,0x809b26510063ef39,
    0xe7381d983bd73a10,0xa25280129dec7b0c,0x13309d38e8962018,0x206084c4fe23394c,
    0x4912d18dd8d2f229,0xf5c315c424ecc003,0x0c08a9672ceb8393,0x6133a0f86da01697,
    0xfcba4ed06dcfecb0,0xe983fd1d30a8d846,0x654a0e0d49bf49f6,0xfd402eb372aadfc9,
    0x10593f3deda08de8,0x1a4b4c24bde65e79,0xe9a626389baba86b,0xd6b34030dda63a22,
    0x7748532d4fa43529,0xd505671ae1abb34a,0x66dceb631977d5ba,0xc56dd686b0fd846a,
    0x59ededacf9a521f6,0x619e467816fb7eee,0x555d2c60a76b8c11,0xf2acaa85f3f1b263,
    0x5b4dd60f554659ed,0x7fae3d22195d966e,0x5dfb8e07fec9d0a0,0x467bb34646187515,
    0x9b207d0b2800cf83,0x701bc10dcd013e00,0xa1f2cd586db82cd3,0xd01effd05aa978e8,
    0x21478fe34e0592fc,0xa251b7f48713fd20,0xd32e184d6f066d54,0xa217ac1f2a3f0f18,
    0xc080635e0efb307b,0xe860753a3e69abf3,0x9e644eb36c550d68,0x237ff4ee54584a0f,
    0xee64984adc97e515,0x6914d6c339885a5f,0x6c879b630e9ec7e5,0xcf66b98f8cddc0e4,
    0x958214ea806c8a51,0x33f07458d990033a,0x1c25b41034ec6a7b,0x0a70717b90446121,
    0x0a86af7404e21b27,0x57cf59e4820a93da,0x52aa94eeb7ea8e3d,0xb1c35b7e83dc78c2,
    0xf410a29f634ac059,0x924bb475b7c4b4f5,0xfcd952a9563ffdb4,0xa622031ff4e87d1b,
    0x3ba52a10186154e5,0x86402a669aafa0dd,0x751c8953ad486770,0x3d9252c60fbfaa34,
    0x77fc93f69603a8a2,0xaea1fb7d7c7dd707,0xc4493342896b4cf3,0x3d0d01dcd2fa9d7f,
    0xe8280185114a280d,0x629cc4d8054c9997,0x7d05dacf9afe3fa3,0xa07cc3af9dc3571c,
    0xdd0fad4b744a44a6,0x901015f9d7dbf4fe,0x36dc228dc77dd726,0x00c714b8a61a49c6,
    0xd3b63b62aa4a8daa,0xe510600ef28a5ca3,0x760eb5b48f4a968c,0x2bbe38b26889769c,
    0x7e08774e9236e49b,0x9902b3a4e3eb6e7d,0x5e2cfef91f960850,0xf85707f600d3b36f],
   [0xc30fb77122d32936,0xe40cd02e32847f01,0x9f6cc7d1513d7f38,0xc5440c597814a47d,
    0x9a42fa3747cabfd4,0xd8a6d28631e41e5d,0x2edc1e1d23ecf4ac,0xd27ee9ba383e1fa7,
    0xcbe1a18d2c2e32b9,0xf165803dfbd492c0,0xff3e42d52f5bab12,0xd07e95892daa15af,
    0x5e78ad6a2c1a4f5c,0x23ed98f15228e81e,0x731f0769f893ef4e,0x774e4d6506724528,
    0x7d8501ec7989a8e1,0x7c1d96f374ee4bdd,0x7500e0479b9cfe0a,0x3e4d03c45cdfa79b,
    0x98791388441c240a,0xffaf18d5f3bd6740,0xaac117cad7caa719,0x12f744d0815a6475,
    0x7601aeeef79f7b91,0x4275a149e19d957c,0x3a06ae0295829d32,0x437f6e07b86fd8fc,
    0x64b6ace375270033,0x589a771191396833,0xbf38b8289b15d63c,0x5fe8d37ca889f13a,
    0x6939a8d0d9bb7902,0xd8c26c7286b7c73f,0x9a9a249e94485e9f,0x01b68449b3d61035,
    0xcd7f44b1e03ee653,0xfceb260471836682,0x0bf198e5c36d1581,0xe59063a1e9379c3e,
    0x360cdeed45046203,0x5533528adc6cfcbd,0x534665997d06e463,0xd2ea9fb217fd7e77,
    0x8599f27a3e8ea623,0x15dff2d56a34c3f5,0x5b06420824500d44,0x16ad23b09f909a70,
    0xc29b56d4c371d9fe,0xf04b356c1999d6bb,0x335955a7c3ab3a4c,0x952c3cb1accc9ca2,
    0xd76ce6d24189a13f,0x664464f11808c75e,0xa7df9136f6ece5d0,0x59b98546f7d62f06,
    0xa969ecfec51cd9c7,0xb80a7c8a3447db8f,0x79ca1e2a6483ee28,0xcecdff7a5cab844f,
    0xeb76eac729389632,0x0d09d06b645e5a3f,0x92af68819c7d0f6b,0x9323e54d22868008,
    0x847ffc768bc2c885,0x1551ee775264e57c,0x858980450b97cde5,0xdfcb4ee15b166eac,
    0x75d4a6431345d92e,0x1c7738947babe975,0x53c4fc26c82c0f41,0x536a2395550613a1,
    0x0b2a89eda94f574e,0x803e0089bac61d1e,0x5b409eb88958224e,0x5885cff254b12348,
    0xae6cf88e4efeafef,0x884a4c6bb7fa01c9,0xb5a3b70f2ee0cade,0x83216e65a72bf298,
    0x738b852bf510208e,0xdb8cce2d84d79438,0x8a87af3a047c97bb,0x157966c09be6500c,
    0xd60eee250d207357,0x008fc64432da43df,0xabdff7b7bb8cbe07,0x40446d5ab712264e,
    0x381b3c5d60776090,0x6d23b7438180af23,0x417d17453e33bc47,0x01a002f610f90a08,
    0xf82c98a82445e13a,0x93d90b768a2bef87,0x963f415207a9b3e8,0x30922da21fee7aa1,
    0x1c9fccbe8b96fe13,0xe4924ad3b4852ea8,0xd6e1a8ff813f6e23,0xc6b21e3c4b1e990a,
    0xa006b96af7bb1417,0xff65509179e6d2d6,0xe54b781e34eb28a2,0x335bcdd8c3334d48,
    0x35790805fa8c8fa4,0x46bd73bc9820a03e,0x95076388b655fbc2,0x8d01c86339dec705,
    0x10d61edcc6dbde83,0x789eb1a45eb7eed0,0xb0b494b461a8dbd6,0x9fd55dddfa2fdca0,
    0xc365819ac3936565,0x97a7b36d977fa4c7,0x0b4bca9d539522d9,0xa231e4c478c7296f,
    0x8ae56a0635ec5f19,0x2ba56e0096f15426,0xc0d94ec68803cf94,0x80e0c98bec7fbe91],
   [0xbf9f4172b066fd48,0x1c37101cb8971583,0x06c79b97a6badca6,0x241c567a4227f1c5,
    0x7f7d2c6792857b08,0x8ea87138aea36605,0x9363817c043203a4,0x40a62d93d4302d4b,
    0x42ae5b50783dfb7c,0xa518b52ea2004466,0x609077a9243b173c,0x4ea220c78bed1c8d,
    0xe5d9e6e88415e13e,0x28c2a2b452324480,0x27417d9d954c8298,0xc644dd2f1ec88d3a,
    0x861f7db90df9591d,0xdcec3ac242b4c82a,0xcba0d3c4ab327218,0xde2fd23b826978e9,
    0xb4e1973d0457ad84,0xda9a8a1f88c036a4,0x05ecb7ec84b92ebb,0x400d71133b6243f3,
    0x0f02e89487d70d2e,0x558dd9397551ce0d,0xeb27e145f21c1935,0x9c8651ced75ae94e,
    0x9cd3da9320f35d28,0xf3ed01a82d75cf12,0x3bb36e293a2454c8,0x9532e363ad04e53e,
    0x2ea8254af562282c,0xf02f3af938fbc377,0x993948b024e11340,0x8df889b0304ccbdd,
    0x7256abd961d195cd,0x247f7044cef9bb15,0x6c741e63188af35e,0x74525b673205ceed,
    0x9ae50a7e3da4a543,0xb2b21c2e5edd208c,0x439d86dca7a03fbb,0x211a671daacf935d,
    0x532117bb36b69c0b,0x37810c54418a6cf7,0x436d68dca868838a,0xf46d47a89bfef4a0,
    0xf9d528950dddb2dd,0x078864cdcc2c0da6,0x001fb80cf152f245,0xa0fd758cd98b80f8,
    0x7fd94ff873ede6b2,0x1c8ce96f89409a7c,0xf8691fd313b08f31,0x53e5d835c13368d5,
    0x17a4f678c5d62af3,0xe93e7ca26bc0ec36,0xa708fbc0a52e5a71,0x298a401a6ee92414,
    0x94763ef0af0a3d96,0x4866e6b9604ed6ef,0xe40985ffc80c90df,0x18f9a3aa04fe0466,
    0xe08cbaa04f542e36,0x4e22ffafa13415c2,0x7de59267946335d8,0x3170c58472d1a0f6,
    0xc6c475aef63288b5,0x006f75695999be1b,0x37515093feb9773d,0xb2083612fc3a7fe2,
    0xe94c733ab6025d6b,0xc002060fa12bad98,0x32b2db74238391dc,0x5b099db0c70b101c,
    0x22502ca7f82fc98d,0xb5d4ecd04852eeb4,0xade148d1f5f01656,0x9f529e2e79a81012,
    0x799b23a5dc7548e9,0xd8dda8070892d54c,0x9db481694f063fe5,0x92fab0a90a2d3e02,
    0x8c712cd04917758f,0xc8a0dc68ef2d0848,0xf431714e0c2679ff,0x55e7b4680cb246bc,
    0xdcb5d5b2e7795486,0x33d2e0ad04572cd6,0x643976f1021e0380,0x60ea8cdd9a9cd83d,
    0x07d5cc267caf96a1,0x475534ed19cd7093,0xead5790fd0685f4b,0x262967e6f092d4b0,
    0xe0d8050b9498f7f8,0xc4df67d326411622,0x9d0be11b192c8712,0x91b065be18035517,
    0x3c740d9e3f23195b,0xdf2c7b425789639e,0xff9ff3490017e264,0x035b6f77fb671620,
    0x24f9181974eed127,0xddd013e967492859,0xf408b832247dc145,0x1228c7e6bc4d4a41,
    0x6a01cc351a1da910,0x90f8cdcb12f0f703,0x492b6cb25f9a6b04,0x61044d3dde684ebe,
    0x51dcbee24060e322,0x3ecdc737a9c4d14b,0x9c390697489ab992,0x8e4a1f4ccac9cb3a,
    0x4e2183cd904619d7,0xfb00a98d954fbfe0,0x2fb05ed2406e7bc4,0x4936b75eb328d775]]

def combBlocks16 : List (List Nat) :=
  [[0x90e75cb48e14db63,0x29493baaad651f7e,0x8492592e326e25de,0x0fa822bc2811aaa5,
    0xe41124545f462ee7,0x34b1a65050fe82f5,0x6f4ad4bcb3df188b,0xbff44ae8f5dba80d,
    0x794a16baa05f57b5,0x53fe448a57324591,0xe4c13d0306960801,0x031a8747df8dc746,
    0x1827ee579c0343fd,0x1431c18c42b8def2,0x60e8aa6c1e387a32,0x883a2c64fda8d586,
    0x752c453f7db3cdec,0xdbef3a12b228ebf5,0xe596645e7bea4bc8,0x85b2c064ff912f5c,
    0x8f4d08204a03f81f,0xdc980b34e64cf8e0,0x63c7fa2d2fcc6d00,0xf64b278f39d11536,
    0x015e2e65580b2322,0x4eccac6096513cca,0xf9571975c0d5934a,0xa7163c2b9b973c17,
    0x3933b2232197ffe9,0xb841a4f4e09952d7,0x63389991545a6b7a,0x308a9a797af31fa5,
    0x288a5ae48607b030,0x24daff63e584d673,0x7851fbacec16f29c,0x110b0376c4021467,
    0xf43aa112b3617c3a,0x87be1556fb298749,0x4c6eb89f8461c70c,0x84432b85318ee673,
    0x9afbd3916a334020,0xa18159998ef9afb9,0xe22a0772517690ac,0x3c714524875d4eed,
    0x6102a85cba701655,0x152fcaafe7938c2c,0x4889e729ff7f3d8c,0x7f090565771aaf5c,
    0x54edd81c75a76f08,0x3295f2538bbbed4e,0x14f6e1242b1caaf8,0x18784e449f6471d7,
    0x0b39605d6b824993,0xfc9d74a7a60a2532,0x1777a8fdac71e671,0x8d76ed7f4a1e1ae7,
    0x6cb04a6a5c42a280,0x02a50c382db2670c,0x811b3923ef4b991f,0x1bffab8c03ab8279,
    0xc9c742364ddb9261,0x982a369aa9d24fb6,0x332ac758529f1aaa,0x2982b620ceb1d098,
    0xce8e33c9fa6fad81,0x9c3365748c0cb03e,0xaef56dd7703a037d,0x58a2f9e07d05e6b9,
    0x5400615e3b109594,0x798bb2d32d300b82,0xc1b682f8717fa6bd,0x06ab64c5ac5560e0,
    0xf0ebcb0ed3444c74,0x9e5cb1d7b595f7ff,0xfb88219241f2d6c5,0xd9a822ba07b6bc2a,
    0x5f9ed1afc2338891,0x2d6abbd72aef8a78,0x0e7b8740ff7b504f,0x48e4749ecb370ecb,
    0xfb22f11f9eb52583,0xea8a99cec10cc13a,0x40ee6dbb278f676f,0x1ef020dcce7ebba2,
    0x55b278197a3f17ae,0x6ac300f97012d4cb,0x097f6c0f4b969530,0x594476b25a7a14b0,
    0xe788e04ab021a9be,0x18b0c59b8ac074b7,0x9d76b8258b28b28c,0x66aa4fd12add747a,
    0x88b5a3ac03a15a99,0x9d64422d106aa108,0xca94f6c567e1dc3f,0x10c65e609047474c,
    0xb5c23ec1f0a1958f,0x4f39b5246fb56643,0x95dd144cfabfa32c,0x4e4a8163c1d6a213,
    0xa43b3f5148636f8a,0x4004085fb2c43d66,0x033f4a3ee29c6fa8,0x2574a45b79e8c8d1,
    0xef0f43b30a7338bf,0xd10a694ea5ff8400,0x7c2b1a4ebb312cc8,0xe31d414bc13ea842,
    0xd23c40b0f878f170,0x35cee4f5d7185bc0,0xa87559754bf051fc,0xf8ab200a672a9e53,
    0xe8275a8464935db5,0x281798261c6bdb0e,0xe3327e0ed594519e,0xf6966a16add61104,
    0x3a34836c1d166838,0x2d7453a34401bf01,0xc1a5ee572c3c755e,0xba0de307a9031db2],
   [0x68f41305b76a6987,0x2b481ab443da43ff,0x7ddc6988d7ee1b3f,0x54bc18d7a9989954,
    0xfe457cd05b9aae49,0x52eb8ed4bb73b119,0x7391b851ba73e2fd,0x4b2c8c1211e6eaf3,
    0xb2a64c6196260250,0xba770f18355cca4c,0xf33d8173a6fb4d96,0x1f380071781dff16,
    0xb1519b2e6b011955,0x1b8567660590d693,0xa33705176ca2cf62,0xb1521ec4ba6c681d,
    0x38bf47f5fd1fd820,0x7887854648767500,0xa863502262b1271b,0xbafbbcf680c1c52a,
    0xeaedad521bf074f0,0xe81c34a1231fcad6,0x2ce7bf5ac89bc0fd,0x1487997c9db4dd81,
    0xea6d95d177ae84da,0x58e6ea55222034f3,0x41e0be2b789273a0,0x99eba192aadb019f,
    0x8da39dbe02155cac,0xb630d866d7108d10,0xf4f806644530184d,0xfc4dc4cde1efbfd9,
    0xe917081294299b7e,0x24e79f2d0986e0d0,0x2a3c3bfc75c220ec,0x9b1938f7103389fe,
    0xc57b2857447b84de,0x0acde851f86b8232,0x3140e98e1caa3ec9,0xfb12aa6ef1710283,
    0xca3a26ba0409ca06,0xb46c5f5f8fa42e6e,0xe81ef0ea907bf3d8,0x19b738fc965208dc,
    0x023530a35741156d,0x7cb418df147531e7,0xe02610b7e55a7acf,0x6faad12c8f69664b,
    0xfd410740d10cc4c4,0xb71d35a2c4a53da0,0x7c381fdc06761b2c,0xa6771985cc017590,
    0xc20f3b237c976570,0xbc745773a6ff3094,0xf29bd6601e5d9c3d,0x85506185f750dd98,
    0x896bf7c7f7f96003,0x9d4e993b7604a5fa,0xfc5945ce21621e08,0x6d50856433968435,
    0x0271ccaaac7e969c,0xd6c0d6dc8263a0d9,0xc6bc5d8aa2c7eef9,0xccf57357e968c6e7,
    0x5410802d54242a28,0x455bcb21253ca771,0x09e8af784b774eca,0x88b7ed536b0eafc1,
    0xfb9681ec794ed8ce,0x4e366a1c8f83e347,0x47fbf9dd3587bd93,0x22b053206245345e,
    0x80c3376ae718be8d,0x81903d7ce982ea1a,0xe4432457540e80d9,0x3c7716e62ccc6873,
    0x49ba01cc4164d021,0xa59e60c87a45fecb,0xdb110b6c00dbcaeb,0x5a32ea941fcad1bf,
    0x016144ec9bc1a94c,0x51671d2b3e71daf8,0x052d72b0225e8757,0x037114012a86b3d2,
    0x8c0c0b6cefc2073c,0xc8518c362ac42483,0xef8c21a54ad05335,0x4d1d693d51dd7390,
    0x37876c952cb163ff,0x13d2b7e10192292f,0x1c57c7ccdf9d70e0,0xdae897c18d42e1a1,
    0x1c8bea7d89379690,0x8f0d25be5f08faef,0x6322b3cf21d9789b,0x5f4c0f44a1b406a4,
    0xefbd1e09877f88ba,0x50980779ee9bed36,0x34b5a32e84ea2cc3,0xcc98214c8984293e,
    0x0a462efc87885278,0xeff60e7eef354c4e,0x114c4a64677d63ab,0x04ebb4e8e525afa9,
    0x7048622fdf2da37c,0xf4c671631a8e1e03,0x63089fea4ff8ef3e,0xf8a801d390b66981,
    0x2a4c6789b77a8615,0x1898c6f78d44e052,0x7abc626c8f5a7bfa,0x0ad9434c776bc636,
    0x1573194dfd70187c,0x751ac8629b640c7f,0x9814e5e0290f5bf8,0x0ad3ae029a42a10f,
    0x7dffcf4b3fc775a7,0xd034fb081662a0f6,0x785c55f05fabb33d,0x2af040d4758846e3],
   [0x60aafad170aae231,0x5194b85279f96b7c,0x85f248239267756f,0x1d35c9699761e3f2,
    0x5867063accd6ac71,0xedf58aa4729a66f1,0x1d660ab622ebf810,0xc7226cb62df60823,
    0x501a327426432d92,0xd9c9823c2b473903,0x9910e1c2a6397ab4,0x6f2b065a7800cdd8,
    0x6d2d1c4963e17c9f,0x093bf02de33dbecb,0xeb1472cf700826c5,0x0acfeb77e5e7a2e4,
    0xce0d3fe18cfa3fac,0x23ad869fc32b8193,0xe2cebb45d60d8030,0xdf3d4047a6d2234c,
    0xf4626d938fc7d419,0xafd63ce496882975,0x24aa21f29c0f9dbf,0x48fa6f5229fd40db,
    0xe3065e088a6edbf5,0x2f3352569662876b,0x68991da7fdadd0af,0x870ac12ba3dd7774,
    0x1906d2dcf02f8ce3,0xd03c64022e5f297e,0x8de7efd769d05a67,0x7543728b999a7699,
    0xaed925ae1f1322d4,0xcb0a69404accdcbb,0xea1e6c4ca311f822,0xdbb2af6ab1f96144,
    0xaa492b4f4a8c5311,0x9a9fc9787b7e3a5f,0xa1b60d1ed6433f9d,0xebae75b92f13561a,
    0xe8a58ada373a6b7a,0xf3adf06c6252d45b,0x09b667aa14226d09,0x17b29fd1b5222134,
    0x0c1482074844ebac,0x39d03897d388cbae,0xe9924e663efefbd2,0x15fb4490352f3d4e,
    0xf069a33ca1138f7b,0xc4c1c93e2df2e8f2,0xcafa8a267f9b5f0b,0x1dba7b597f261fd4,
    0xdc82d8c7a39bf268,0x8136e6b7998232c0,0x3ae19006bb8007f5,0x6aaf7d3e5de7efc6,
    0x7aa6e46350c06af3,0x6a9e8c749fdbf0f0,0xa0bf5fef8034db34,0xdbec13e6da0d5592,
    0x7caf0f7cb6d243ed,0x42243a3264edb664,0xc0e57348b745e4d4,0xf859978fd619e5f8,
    0x8da87770179a70af,0xec9d429a9b64df28,0x31bbe82d5f5305c6,0x348a2e442626919d,
    0xca84861487b66e82,0xb2a7c2c5b7e13e5a,0x8c747bce00230105,0xa1b9fa79f55a3e80,
    0x59476eb82cf4b3eb,0x8f8e3c46c59e4946,0x88d9640515697bfb,0x2820910fb5e0ff12,
    0xbda69d20c1d6df4c,0xc0f9bd31a62b982a,0xa8dec339ec825a12,0x94d9c37635a1a28d,
    0xc7476d76c4d3a201,0x36e926a4fd9b9eef,0xa86a4fbf931adf5f,0x3a4ec851999c9e1c,
    0xdd8596f768635f89,0x27d31e5af73cd55b,0x69e03c11a4774a8b,0xc99a2ef82f6262de,
    0xfbcbd75eec3bacf9,0x0254295c49227f9f,0xba6d73897768feda,0x148cf7fd16f0a1ad,
    0xaddd8aed8d143036,0x2abf4481c576dd9b,0x78aa8117e505b36c,0xfff2799def47dcc3,
    0x1efae72fdc978567,0xe15da68840dc1f98,0x84e935d62ff1f60b,0xb1ba52d88334d457,
    0x77fa482a362dc291,0xd9a46cb0bafcd40a,0x7c5f7cf713dbb78f,0xa46baec7a86943a7,
    0xdf392c1f5c5d5653,0xda88b77c165c55b9,0xa7650860a2d365c5,0xf2c392ba6ec31de1,
    0x93152947af189f45,0x5cd94a9f671b8640,0xb3010946e5903d65,0x5b7396ae40589537,
    0xd228eea512350da1,0x19414c77c175f043,0x2718b7b969612c2f,0x0ae6eb3d8ef2aafd,
    0xc73e09f370a14bc3,0x66d468f0ed43da4b,0x2dd034f7fc4189b5,0x99cdee9fb6006cae],
   [0x5572aea8750e4f5f,0xcbf5ca9aa567e0e6,0x388ff0f7aa02f29a,0x55d9a959844b5aef,
    0xc858eb76bca97db0,0x4c9810c633ad1b15,0x766d574fbcc8ec52,0x69cb7f9aa5dad203,
    0x0758cb4d57c6f8fb,0xf517323e3f09b5d3,0x38f9434c2f72e662,0x8c76689ba78a1661,
    0x7dc5b39a9bcf2306,0xf0b11fc3136bc05f,0x288489b0c63d6dcd,0xcd3172990a409d3a,
    0xc06a9887feb142e9,0xc176eb064607fcfb,0x794d86838faed480,0x4b0043ebe46f3e11,
    0x04b2c52d62c68552,0x0f23290f3a125888,0xdb17884636222d87,0x173ccf23a30dac1a,
    0x1ee45f92ed69f1d5,0x46543768ce5e1244,0xf0c6a4169281bf87,0x3fb5909a93dfe46a,
    0x13d4fefe99a56cc5,0x25d35688fd0562b0,0x704a4e3a3bdf7754,0x549991ac0be8809f,
    0xf6dd4ae717f1aa96,0x13d7a5f734ff6481,0x32728dcbb73463c5,0x79ead27992ad6fc2,
    0x80ba71ce4b0a3fb7,0xde84d71111b3955a,0x1a6e439356256542,0xa95de9cffbaadabf,
    0x66c3eb2f1637a274,0x45210457612d5806,0x4da377c3236dc074,0xf01dee116a3e4a41,
    0x743fd470839d3465,0xe6923f6ecf94c497,0x42615f231e1d01ca,0x24cfadbc9af48bf3,
    0xc805ca72f93a9ae6,0x8ee0aa059c77f8ad,0xb5279e3631ad743f,0x318e0050f24da1ce,
    0x184b5694dc447d79,0x94536fdbaed3a8ee,0xf4d17ca51e504bd0,0x2792ee1119ce9299,
    0x506f1270bde7bc7f,0x7feabb0cbeed3e03,0x8ae227e16feaf253,0xc34ace1ce5dd9040,
    0xaeb63980697806c4,0xd6554299bd55a442,0xe623b8be80166f12,0xe1ef3b3a009857e2,
    0x137945b4dd30585a,0x95ff8a1aa3501495,0xb88032f490c0a4b4,0x6bbc5471d2f1e43b,
    0x6af97eef348b05f3,0x09f0428102f9ead9,0x4a9ee2b15f2226be,0x467b189b0c1529f0,
    0x75e8371f56afd841,0x6bf9f5c2298a21ba,0xf00fbbdb9e100b79,0x09b4645c389dbfe9,
    0xa99c9a5edca8547a,0xe158b7ec83fb5a87,0x0d51d52781161d80,0xc0d370e6fb9944a3,
    0x2624f808c0136275,0xa647c00173877535,0x89b51a90f7760d78,0x940148c610c1fd11,
    0x5d63a1115997aa47,0x5d4b3ae5604e1a42,0x7aa24c4ab505d669,0x6967f95f1367a4f7,
    0x4d8a0e970f154768,0xd6446f4c54960456,0xc3b5ad54cd3b6d7f,0x11c6b94ff7180c69,
    0x0a98238928f3c0e4,0x62085b9673d6cb8e,0xd71027bdff700360,0xa84afe0696a2d9eb,
    0xc3a13dd39f0fe850,0x864d230be511a7bd,0x91b56c928da5f98e,0xc41833926039b49c,
    0x1358f446bd38666d,0x065a7ec9e01a0af0,0xeb8095d426afd558,0x3537fec9c8d40f7a,
    0x4fea097ba99de8df,0xcedbebc89ae27b3f,0xa9b0ef3b1b65592a,0x4bc2cd77649dd764,
    0x03d0c1f3cca78f3a,0xec450902d2e16337,0xbe112b9429eaaf87,0x00bb1fc03a547a1f,
    0xcfe4413774937fbe,0xc0b04dddf051ba6e,0xe0c14001af96f546,0x2baba3f627c67d70,
    0x9390e557573a1df4,0xec2dc4b190ac8110,0xd783b0cd924eabc9,0x77e5c765b2208b88],
   [0xd4d3d2de4351964c,0x346924376f5412c1,0xae5abca185755c08,0x6e29f959be28c47f,
    0x118824bd563fd88f,0xef640c527a0bfb63,0x5052ec6cc184246d,0x34565d9f500f32f6,
    0x61e0f0efe5e84da4,0x3b09f0776ed90cad,0x10cfa381496e6894,0x8efa0f79b5909a0b,
    0xfde19f42596969d3,0x79957c4897816035,0x9fa46f1c5daafd14,0x242418e7934cd613,
    0x3f9501038c0e49cc,0x41232da85bc5400d,0xdd8288decbb740ed,0xd691d4a978970f6e,
    0xdd0bb4c1d00f4152,0xac5be1d02ad043f2,0xf7fbbdb5763e0c52,0x7a79e7874b78f397,
    0x4acaf2c0023ac4ce,0x1f8973e31eb3f397,0xb9d6d6d0f360db2f,0xd0d4af73cb8fdb30,
    0xe3df0360a47dd6b9,0x61850b1c863aae77,0xbbe9ccee3e529530,0xed90f8c8f15d7ddc,
    0x3d876b9f2b9b930a,0xdeb1352a4530f58f,0xdee5b7df7a7bbc49,0x2a5d6846a2e0d7c5,
    0x86ff345f3b2caeca,0xea5b73435e271685,0xe5ccf03903c4ab58,0xdc3d7c096876476d,
    0x0bc6e130b886719a,0x165cb495470922f0,0xfd851c4d332b75e3,0x8b277f8ce445915b,
    0x078b30fe6ed37c38,0x55213780cea31a3d,0x6e4b52ee69ec9139,0xcf44d77b164543bc,
    0xfa7dcbd2816959ef,0x7679d056741db59a,0x2f0431412e275df8,0x8764496a389bb526,
    0x660311cbe0cd5010,0x2856ad4172f9e3f1,0x9e0b412796ed961f,0x599b69d61d002ffd,
    0xe399da6192397d42,0x38d1d60251256eac,0xa6d6f71b65b85f90,0x829b8dd0ed5452e8,
    0x91b71631e3df5612,0x5c5adc4263ad1a5d,0x99e73c8a896241af,0xd300ec543fccf46d,
    0x639409ce3aef0f84,0xb0bb506a871c75b9,0x33de3fac17adb8ca,0x94d393bc812471b1,
    0x85ae61b9378ba7c1,0xdd3f402650acf12a,0x1e1cbc386b239a07,0x5a826ab4eb4b63f2,
    0xeadecf09028cdcb4,0x72a1b40690a1cf86,0x2ea231dcce55180f,0xe925a006c6f2a348,
    0xbb9619760589af3a,0x8ead37dd62073759,0x4dd045436194510d,0xe402787fad456996,
    0xed455784effed1b7,0xe2dbd126564aa3b4,0xd17509702d34bd2e,0x4a72b5a0889e4e2d,
    0xb5f29fd89601dc5f,0x85e64b8ec74d9845,0xc8c33fc047c8ea96,0x3531e6ea4a1d20e2,
    0x368f5340ea0046bf,0xcfcf8a096442a045,0xec01db905a3615f7,0x88ef3688969b1509,
    0xebe6ad23bfa86f2e,0x8ae2d212f193196c,0xdf93deea7a4b46fc,0xe4204ddf22f356b9,
    0x02043f25d0467317,0x9141dc41d8d9186a,0xa78666f2fade7900,0xd7f01cfc5a371e15,
    0x5cb957d5cf7d014e,0x28a01743697fbd89,0xec7361406c15ef57,0x888dbbd987726c26,
    0x33be1811b6799f9a,0x85d6390acdf4c550,0x072db42a73b408f2,0xdbfe86d71283894f,
    0x50de611dc79dc6e9,0x7faef77d234e71f8,0xa558a73fbf3e51fc,0x445b3c7d17c68718,
    0x3bd7590a7dea02c1,0xe4fbb9b7c774087c,0xbe80bf9d91e31206,0x7e50a0b9f77c371b,
    0x33c946dfed45c201,0x7423934f158e1b28,0x616c6f1ddb8b9517,0xc3405d3c4e0fe29c],
   [0x28a7d4110cb71280,0xc141c259a8456311,0xc00f2ef0796f458e,0xff046a9eb2bfeed9,
    0x7ec3271f5ec33919,0x012b6e6ebd28487a,0x0a01eddbdd4cfcc9,0x432f55acc0953a17,
    0xb2bd41c7b0b3da07,0x011745f856de35ac,0x8fabbccc41287df4,0x5890c0f334ddc2b0,
    0x623d0ae88d3813e0,0x55a279ce3e2a8166,0x5e4604fa4f792726,0xcc9eac788b1d9c04,
    0x5f2782aa33ca3ce3,0xef2b1865ab6a77e2,0x1a95bc1f5312231f,0xf717c45d14d3dcd3,
    0x6894ccdb50ed88e9,0xaf53e2bddc176df0,0xca9b54ed0aadee55,0x422c40768c99512d,
    0xfdc73e83bf780c2c,0xffdc67942d666817,0xc14b66dd02436893,0x6eec95670d54650c,
    0x089ec1a1edbfcd32,0x79ab66153a07ff89,0xfc281de065ea0105,0x14bb5350997732c2,
    0xc368430d5b28cd88,0x738e097502a9bd9a,0xc2feb5627f91b32c,0x60e269b4f3370b20,
    0xe29ba8a42be2066c,0x02456138c6c846b0,0x609211889728df76,0xfe00175a6579f0a9,
    0x0de04e8ff43fae7a,0x06d74f465c3813b8,0x01e037acd13e8aca,0x2209938b8c24ad56,
    0x866f6aa1c7e52306,0x53b8e6af17afd946,0x28002f3a42008c8c,0x9bf8e087b32b55a5,
    0x153b1932861cc594,0x964bdd1704d0536b,0x0aa5ba05fcb46855,0x799297a1e6739949,
    0x9e9110920f8d309e,0x27da86ae0bac6e90,0xe1069118789fe501,0x132ff18cd523c9b0,
    0x53d6d6e9019fc555,0x08f69591eeb51bd8,0xb79470f6ad3da829,0xa0e2410cd09c01a1,
    0xcf340818c1ac6d8d,0x8bbaf19f6b667930,0x2ac3b57ba5b2fe89,0x1e29648c71bfded4,
    0xdc8c47a2572d0aba,0xd8d190adc77e1b16,0x79ee0eeb5501241d,0x2d9be94efe428070,
    0xf8f731fb31fa0876,0xbad1c67988b710e6,0x295ef934b619d91b,0xa9708db5e9e898a2,
    0x54bd04ac01a9645c,0x01e8d05eeb9c3d74,0xccc8b4d00c53d2da,0xc7ff399f359f33ad,
    0x119c0cdd46b6edf0,0x2a82a5219723665a,0x672efcbb7da1ea09,0x4dddeb8f46852216,
    0xe0c07b48355e8732,0xcfa62ede506d1e31,0x60cbc6531492c243,0x2127039ec8824216,
    0xd59235f460cacc07,0xd693f3f3bad7bd68,0x0194b9dbbb7f0a5c,0x85219c6f23ae35aa,
    0x6f15b01492205e77,0xe6bcb55c30a0adbc,0x7e1b44c540379e31,0xd659b87f2a2ad401,
    0xe15820b5b448991d,0x76a0b2eb631cd452,0xfde13c935acb7287,0x845d83f4f6e49e35,
    0x6091340cf2083347,0x9e1ae3e6771a5322,0x97ad0f5aba02b42b,0xfab5b54b2bd8e0eb,
    0x9ccc9cd83d38fd2f,0xc05e37a616a69afa,0x3c87aaf2260a3eaf,0x5758d116186d4150,
    0xb4e7eb431114cc35,0xa49cd1b2e4b1fb8f,0x1f067857de8521d0,0x91fa0534bf36fd47,
    0x5638b951bc92cb28,0x12688ceeccbfa684,0x20dd5a3ce0f981dc,0x358d02069a62fe26,
    0x3f672614ff572554,0xf3842e4718f4dab7,0x579096770b7ea56f,0x685d275727971fca,
    0xb71af6d0a0979e03,0xc58aaa2ac0f4cca4,0x06e39c8041e0377c,0xa82f89c220ab45fc],
   [0xc7d0b24cc5852e50,0x8b2c7e63cf570cc5,0xc1f9aa2349ee7eff,0xe486c7dffeabb058,
    0x66ba3cadaecf107d,0x694463d63392ebd8,0x9ee88a5c9f51e05a,0x51fd75ed5606a12e,
    0x74502ca378692e20,0x63ad9e86c339d0ea,0x21ff1441906276e9,0x69a16e245a5fcb88,
    0x996e69a9b3116c8f,0x113d28620f7da894,0x06f01e9a4cddba10,0xa7c968cd891afc01,
    0xc66aa6455c881907,0x142c86735b00b1da,0x964105cc66ae0415,0x4acf44bb8e2ffb7c,
    0x2926b456f63cdafc,0x99352b2f7cd84b25,0x3544285ad10a5457,0xad99a8fe0ffd587b,
    0x47bde79706bc8d71,0x7a39f95bc79b0d17,0x21190e12fa0e745a,0xdcad8b2a7eefb2c7,
    0x470cfe2ea297fcf2,0x2726c4077b717b56,0x2211993ce07c0fa3,0x8bf1287ab91faf9b,
    0x82bae0697439383f,0x34ffa562b601a2aa,0xdd7aa292c8234eec,0x4ddf22834188a649,
    0x632fa81823d52337,0x3dd5d045131f8269,0x74abae97d38c0c6b,0xe71c627b0d91883d,
    0x1f6b16a30ef15db0,0xef4c1ad601c829f8,0xf3f78331882eba59,0x89be840a1731eb21,
    0x791d68c71d0b8200,0x53b9df77ca29a81f,0xf4c5644675e9016c,0x70ec8c193cb32816,
    0x26dc88155822b4f4,0xa5353afcf865df8f,0x1334e9e0797bf39b,0x58b065791379879e,
    0x6607a8210c60fbca,0x1ca4a076fc4e5259,0x027ca55f0262836c,0x55a98aa4145a2c37,
    0xd7273629aa99ad56,0x13fea55aad0e2f87,0x4dca9848228c57c4,0xd9f8b3771d318bc5,
    0xd4e919385f5c61b9,0x995de59a31f63cb4,0xc6551557fb70a4a3,0x07aad641f0d22377,
    0x4b2bd10c34fe39b0,0x8a3173cd74b4ded1,0x763a441c23381f35,0xa345e058a64b3529,
    0x3709480babaf79dc,0xce8c6a75ab369df5,0x91f0855b28f9d949,0x7c6dd5a6d5caa70f,
    0x9dde20720523a7e8,0x5199c8df557e0d70,0x513a7190e5207a86,0x4e218f3b641dec95,
    0xedaa0ed47090db7b,0xab9fa70fcc821c50,0x445a159d2bc658f9,0x65120ac1efdafa5d,
    0x3fbe07b9926695fb,0xafd0bb9fe43adee1,0x201acb8746d6ccb6,0x3a10bf830190a2c8,
    0x755c72b2a4eb7e47,0xf28fea6c43d45288,0x76203848688a65c5,0xb5d585b3ec1a2715,
    0xd3df8e1b4354f993,0x5cd8982354afe75b,0xfed9b396fbba71cf,0xadbba24f50e000a2,
    0x25b83ac1a2af4773,0x5c756a550b61eb26,0xd3628f1206ac8f2d,0x7c112ba338a4d9af,
    0x241a8e967d2c8614,0xa7b0960a60584596,0xca5cf5ac30912876,0x12fbddfac9010433,
    0xf077bc1d58b0b174,0x4d4258239c19f495,0x33fd91428cd2cfb5,0xa5ff20d290278068,
    0xd48a96f55c19970d,0xd77460ea61c45079,0x1f455e000cdb9fe0,0x7c8039bee6f3994c,
    0xc25775979ac55427,0x3afbe1730e033715,0x99fa1ce5569edebb,0xbea167d2487ed355,
    0x53f764302d9aeeaf,0x05d0794ca05afc86,0x7b8ae3a1faf99a30,0x8bece859a2b97877,
    0x55a0da3c85f9eb5e,0xbb22038f6f8980f7,0xfbb8910b0effc368,0x35f933c4c50651fc],
   [0x84b6b8ec2b519178,0xb63b9998a43d1fc5,0xcfe08cf8b5e2ee0a,0xf41d7f4bb5e50430,
    0xa7a1665dca6a3551,0xab49acc36919e1f9,0xf1046de3faa82347,0xe6a669bebd9af8d6,
    0x2a937e108f089b4b,0x0d80e91bd6616f3d,0xf85bc3da3881ec45,0x3b2369ff19ddd591,
    0xf065556f67f00f4f,0x3970e7b02723e7c1,0x2d22213dd27d7876,0x5df102ecb29a762c,
    0x1a71313e1e3501d9,0x1be82ce1bb61fc8b,0x3332d691d62d3e61,0xd65f827ed62d4e7f,
    0xab9446c6eb55759e,0x61c13aad5d730be1,0x537b7ca5166b87fc,0xf24b60fcf09a90fe,
    0xbb180bc7b8352aa1,0x997cd06e999c1020,0xc7661093249bff8f,0xeca3eef00455b406,
    0x85f3ad39ecc12ea3,0xa8359b399b78ed23,0xf6b863f37ca79007,0x9e6bc281e78c25b8,
    0xcb62fe240f2ed84e,0xe7994df35fe2ea12,0x5ee6c8b5782cc0ad,0x55a9b5b6deb05c38,
    0x579dc550546495a3,0xe8ffb4d712a0d8f0,0x29174d190ed7f43a,0xc4f22196ac9f19ab,
    0xd6d4d26b5e4c47d4,0xc20e8839a7615c7e,0x41bb5a14a5e51ca1,0xf91386ebe69ef8cf,
    0x37d18a490e9cdd72,0x5b8e120559b73b3f,0x606f08dd4849f9c4,0xf43574316fed3b26,
    0x9bd2cf87075495a2,0x9fde1eb648bc00b2,0x1f7ed60a62548bc4,0x79de576dc7db71da,
    0x802c8c6aaaec6fb8,0x8314f5096493a746,0x785e6dae47dc79c6,0x3b2d3d0e6b186a02,
    0xfd94a8b61a93d03f,0x468f41ce1b0dad7b,0xcba214b7fb45ea98,0x5c97699d44b7daff,
    0x67499ca90e6f2ba7,0x20680f3274536159,0x238ff9a6ca28f2ec,0x4737a353a4cb0fb1,
    0xeee92acc82d1e7bb,0x24c3ff903511964c,0xe264b3695957e555,0x8fe04e32162404b6,
    0xda759ad0da62e84f,0x5b9164646f046a8c,0xe5d6cea57a8db34e,0x3987db5022f6358f,
    0x53009ee20ca9e67a,0x7a08f60a51a9ad2c,0xcd6783471bd61bfc,0xd5b806ea4c696e07,
    0x784a6f319b05f005,0xaac0b16b6e428e6f,0x32f37c90d9e4c348,0xd4d0be409375e771,
    0x101a4aec69f7c360,0x4efcd577e48085c2,0x50a94a6368d224e2,0x3af4990957edf8f1,
    0xd39dc2aa687d7a7b,0x48554dd62760895c,0x531f86482e733c33,0xd1706030d3b1d91d,
    0x1c72aa59df7f547f,0x1515a21178ff09f3,0xccb1033c5c15b297,0x12d805c8ae7f1af3,
    0x1a31bd8ed1e68394,0x8657a4c14ff1c6d0,0x38036615a3b8898b,0xa431415979654ed1,
    0x39a523ae770373be,0x213d06221263d3b5,0xc1a582f3fe227c4e,0x31a7e05c623c8076,
    0x8ed78790e90950a8,0x8ce82b9951a25430,0x021b0aae3423db1e,0xc23d2ef3f8d1de67,
    0x9ea22681c57e51d5,0xc82bc56a88cbc44b,0x2f8f451d94774ee2,0xd0c2ab52f8cf7ae0,
    0x188896aec0b1efa0,0x03891da1c8fd0909,0x806cff053c532724,0x9ea4f0cd1f306929,
    0xb42610edcb923b45,0xa33a9fbff13e24bd,0xd15513462dd98458,0x740a66481356d23e,
    0xa8c13e3851ecaa5f,0xa897993907c8480b,0x2f4e4788a75606cf,0x7f6d048c25cd523f]]

def combBlocks24 : List (List Nat) :=
  [[0xa84aa9397512218e,0xe9a521b074ca0141,0x57880b3a18a2e902,0x4a5b506612a677a6,
    0x0beada7a4c4f3840,0x626db15419e26d9d,0xc42604fbe1627d40,0xeb13461ceac089f1,
    0x1b68edccbf8d5842,0xda74be4d8455b67c,0x521473143eb337c5,0xcc8fe9ecccdaf543,
    0x567e1ac9487100c7,0x5df1592d458677c8,0x75cec6140b91fb77,0xc2a5d01cd9f2fc3f,
    0x52ef40e2518473fd,0xbbb9026bc6973391,0x85292ab99728a9e3,0x1064063233318ba0,
    0xafa6162e785cf805,0xcfbe190d0c21d039,0xc8e7829e6585883c,0x9c6832823b8ba2d8,
    0x23f389be0c37da54,0x71b0b96cbc1184de,0x8006b50f37e86261,0x11c881390823d8ce,
    0x567c651408ee3df5,0xb3e32b21384d2adf,0xa42aaf13caf61ae4,0x82f5ca516726bda3,
    0x3567eec8653f30f3,0x2b423ed2eda238dd,0x5eda410d54083f21,0x38c8ad8ff05f27bf,
    0xa060e749ebe9217b,0x6583fa982959df37,0xf3909654ddbd641f,0x83c2617876dcb116,
    0x62b66e34fd7046cc,0x280398b6e32d8d77,0x23a5d12e930f5e51,0x3f789c12505a876c,
    0x1487856590683e4d,0x6320de848e0b3fd6,0x64c974dd964e47a2,0xd0d9f1b3a291a6e5,
    0x543e6911b6ef1584,0x77a9a2a38f920cbf,0x5858fbe3fd351842,0x6fcb8cbce860bb09,
    0xc3c9f7c21d3110f2,0x5992f6d6928a4325,0xd54c0823ac30459d,0xa8f1a83d8b721d76,
    0x355c95a1fd698f73,0xcb4cb3a72a5c98ea,0x676e37e7fc8b8d71,0x9c7a4efa52a32680,
    0x122443bd120cf142,0x94b07cd5ea879e7c,0x16c424c1d0ade69b,0xa2c4a71ab2150c7b,
    0xe8f51340462255ef,0x50d71d346764078c,0x73515c90de45b0ee,0x7811d0b93f76e2bd,
    0xa58bef9b1be3252e,0xf51ed0513ad43768,0x54c02e9401b85132,0x99bb76370bb5ac7a,
    0x1bf6578b3517b889,0xb998a3f0afb9323a,0x3798d6c6e4cb1ecf,0xbaf532bfbec94d7d,
    0xfa19fe6749fdca6c,0xfef1d3823e27338f,0xf1b51983b721939d,0xe7bcc2a44e4a22d0,
    0x93e110f1353d2ea7,0x9eed0823a3fa8650,0x0c7b729d5f816f2a,0xc3583d944a8b50ce,
    0x2b183e9e0b667bbd,0xd6c925a6515f1c43,0x5964627ef89fcccd,0x53967ac09391e90f,
    0xfdf0b36a7a032c75,0xa4f6c1826b9d71d5,0x346e877e467a90e1,0x0280a27d97ef8d60,
    0x6c3043cb76c0f2b1,0xdc7171891f30fd67,0x41351993ed79a6ad,0x8ca3591d1507693c,
    0x8eddf0e0502e3099,0x53f213a662840165,0xf3a0f018bb7ad00d,0xd591cf283cdee501,
    0x33bc2765455ac5af,0x5cf2eff88b116fd6,0x4e51330d350bc582,0x87ebe5cfc478e6e4,
    0xc03562bd884a85e9,0xdc75980f62e2fba9,0x829800f8315da4d5,0x86192922e83c5bc0,
    0x34b026a6cf94138b,0x72eb2277193e431f,0x9f84e2c1fa2cbd68,0x9a468a0e4b1b52df,
    0x2b26564632a940a5,0x4a435eb5a414e6b1,0xc01241e1a4f9e871,0xa0aa0d612f3235c4,
    0x93f882a68b950422,0x6c691cdda7d1bf93,0x19b34cf9a0181f3e,0x22340eba76f76428],
   [0x6628d837008e2df0,0x32c3b2574328e5f7,0x012c29df8bbe0f50,0x2eb3910bde2ab995,
    0x0910cc4ed274eaae,0x9540d120ecf65f49,0x77d37d348da4999f,0x3f29c02337474b3a,
    0xfe39d9aca1dc428e,0x10ec719690525db1,0xfba2f5bdf8f04826,0xd32e851a25c965c2,
    0xb551d5b501cfe158,0x31f58d904694f768,0x45cc6d22a98a8340,0x6bec05a1fcc5d64e,
    0xbf02b84b682867f0,0xa21426e21b190a39,0x2aabd16a780900f0,0xf6e9db88e64c7ce2,
    0x475b3af10f1861ea,0x27041ba5f970b623,0x81d93b76e8c0d5b1,0x53ca790b7ad2ab74,
    0x71fc28e6e42f662d,0xc681312779800dbf,0xf54d0746449c0331,0xe644041c2ed2cff4,
    0x6711c11d66e6d591,0x52e1678f917fd7c0,0x4ba0050d00c7b4d0,0xbc79ffb9de665acf,
    0x9add0438f20d6102,0xf06d5378a3453940,0x785c15b9b6199a5e,0xfd1ddb38760e449d,
    0xda0a6491ae003b7c,0x163e191211513983,0xedaa1f1f7883b700,0xcb54b8739050638a,
    0x60621d9f7e801ae2,0x77b825cffa6774c6,0x974719da5058f18d,0xbb14b0b942c15ac6,
    0x8b0de51e5c1dc5f1,0x795e4fbb66856143,0x87483ce636bac7de,0x96ae967f4513a674,
    0xf3f7341dc2c77cb7,0xef6d940902dc15b6,0x9fe4a73e65ee698f,0x61a273c22599901d,
    0x854611f81ddb25ed,0xc5c5ad9a70ae1f74,0xf4ea219f5eeb0cc9,0x5bbacd334d3ad3d3,
    0xdd030872b7314c65,0x4c287dfb6f6e6aad,0xb59f52272ca6064b,0xa626c3f311cb5315,
    0xb6607db5a63f1919,0xee365bd68035523a,0xd949b781e9efc624,0xbb882a6b990ec04c,
    0xb998d56e377d8976,0x5e173a38e30f292d,0x4cb02c98229d04b5,0xcd2e8e65ef7601b6,
    0x11696f41c867bc22,0xf60ede0f35428c05,0xfc31ce8f2d46ff68,0xf58ead362342a31f,
    0xece636d0b24e5799,0xaf13ce53415b8d3e,0x16d066739a778615,0x45af3cdde409657d,
    0x924a679bf98c446f,0x1e0867d2e800dd10,0x3b941c0c7496f37c,0xa4988caf8a60d7a7,
    0x609b306c2c67c998,0x9a9b07eaa3cf1b86,0x40225ea8a4304c25,0x9bd61f9c38223efb,
    0xc340af9c28199514,0x927d9c1e90424b18,0x5c8f2096969450fa,0x77b20409916c6f5c,
    0x1e56f33244c73526,0x886df7cdd3beb534,0x2673a399356dfaab,0x50c2845be4dc506f,
    0xa744f4de53d49ab9,0xd87e018a680d49e2,0xa6a8d73b5fd47d25,0xad81723489b95f70,
    0x6a45e17beaafa568,0xb4cd7a97701e2276,0x12ae27a41117a016,0x7afaeb4f79707775,
    0x3ed53a2f81c1f2df,0x972e694329d39023,0x895d14135041365a,0xc6efe61933fbd27d,
    0x5cd9a87b3cc16c2f,0x3d0c0108d3434b8d,0x59606dc354dfb1fe,0x0c402240c35341fe,
    0xc4694cfc55d78e18,0x4e33958f7033b3c9,0x5df2a69a71d1d760,0x61684deb17df1610,
    0xb7e703e50e59ddeb,0x483e629cad1e98a8,0x061d94c1496b0c3b,0xd9a002227e2412f9,
    0x5f393ff80f0af5a4,0x8562a8bcab5f18ce,0x43c60f8a43670581,0x975eb2f93b7a022c],
   [0xc739a5ea3ecca7e0,0xa7d2c98f6743333e,0x0fef6335224d9428,0x7ef2ee3c5c792a0c,
    0x302b22dd552ac094,0x81b21450dfbd3d20,0xa4f67f51d5e609db,0xafb6862730acc011,
    0x6db02c92ab896d0f,0x5e880be50c09223c,0x93539def6986c76b,0x0646472486e68db1,
    0x90d74508a4f528ea,0xdb1b895dc63b4f90,0xf2b3f5cef9047cfe,0xf1f4ee22fe7063bb,
    0x72f3583da33f0ffa,0xcae4cac611807a41,0x7624a576c9d9c641,0x3704572716887acd,
    0x5fed3fc660fa35ac,0x57ba3eb7aa8bf2fc,0x841bb4bb8895ff4c,0x5c6408c61a71e74f,
    0x699c584da8d5825e,0x7beb467e384d570b,0x2ea713544ff03fd1,0x0d42e1f15292fc71,
    0xed1808977a8946b3,0x0c4cb2ec4b4340cb,0x2c1f17a55a85ca7e,0xadda2b0a21f69acb,
    0x3c6f986532603513,0xf6c64dc6814a0095,0x2d1eaa42c08bb697,0xc2a979e54298db72,
    0x95755b2c3c3505b9,0x8cc666df48151449,0x54278081935bce7e,0xef9dd74a1e6eb5c8,
    0xdfb7dbf315fc7295,0x4307ad9549cf786f,0x3fb48be1f115d687,0xae67ecd7d603693a,
    0x04ff9c5efa4f5b62,0xfc3019722c2aee34,0x072b94b84a82d9c1,0xd23cd2aea5faa6d2,
    0xe646ffb1d9fdee3e,0x681f97716c302e01,0x172bb15cdb17afb9,0xc9f4186ab1fc59e1,
    0x51e66cc5cced22e7,0x44e1531c7b58df4f,0x0df73142b8832143,0x09420a7f3cb3a341,
    0xf9c18a469ad780b2,0x8c3b0da6f68440e7,0x0e19d0c28f9ae751,0x44dc4d9e945c7db2,
    0x91437413ab93b11e,0xb47775e1c2cec39d,0xf8fd19dc683f5f95,0xdbeb918745c2f9c9,
    0xf0cb3e674814f217,0xa9da3f7b8756cffa,0xb08a0024f83bb6a4,0x27dcf55b80480256,
    0x14c94b588cf2ed4c,0x0a4e8fab191fc3bf,0x0bc8bab094a02a38,0xbe18f54f548d5dee,
    0x362527575748e77f,0x64e639f9657dd5e0,0xac8c9bd589d5cf2e,0x88a467996ff7321b,
    0xb7cbb84fbe6da255,0x5f7287ff80c02ec5,0x0b2703ce8ea583a7,0x13bb751380982f1d,
    0x75a2a4fd5b9e310c,0x313ce5b9b84cfd4a,0x9c8d24ac33959187,0x3b8b0203b256ea4b,
    0x99416605ad19fc9b,0xa8ff804b82b30583,0xd6176e377c4117a6,0x91117c4eb033615b,
    0xbc65da82a6bc3ae1,0x14bf635521c7ad1c,0xc6e95c0a52d798d1,0x89cb789f517f1ff2,
    0x97c3234e607ff499,0xb6fd080bbfb07dd0,0xdf6d7ebf5b94658c,0xa3a9f5d8efc0f55f,
    0x8f1e1e2ba7615b36,0x2a4ff1e8c7f3c15f,0x105c2406f914c337,0xa5e7398c5bcc103a,
    0x4d982e3949136d80,0x47ffc19370b613c0,0x46438def2a15f8c5,0x1f3ff58dc974e4ce,
    0x40423ade3c0ff1c1,0x7b4f1b46873cc23d,0xfe08d7bcb9e9cff5,0x869cc5794942b544,
    0xba20e3931d28539b,0xe8ae4078a44f6597,0xab2317c57747f0c6,0xc4c2ef2e96bdb88f,
    0xbb7b0432ed3e10db,0x47732e1ac8b87159,0xdee0443ff4eb61fa,0xaad218355ac9532b,
    0x63535abd6fa05fb3,0x72032772b31cba27,0x3a7dde28fd5f8b4a,0x793b1eeebaf82e3b],
   [0x6701f090ec49e853,0xa9cb53529975e04a,0x57802554eb5fa77a,0x0e51416421640aeb,
    0x336e3d1376405cb2,0xf568394190c9ee36,0x278eb4a53a91030d,0xcf331cea65905469,
    0xbf7fbadb5ab7aa65,0x43e17e0a2710f1a2,0x83d8640f8db563d5,0x8525d0b3ef763142,
    0xf9be830fdde8648c,0xd0dfccc1923f092a,0x06cc431c1e676976,0x0e63a7e111f91fd6,
    0xc4a23f1c1dc6afad,0x1bd3d92295f80f46,0xde8ed25f64c0c677,0x977ba06765cacf25,
    0x4d62cdc51d7faa09,0x2f75a1241dda1a15,0x8833faa0d081d999,0x1bc3bc43aedb8fa2,
    0x29dd16ed044c1b21,0xd8432893c3d8180f,0xb39e7d7665bc22d4,0x1b3e00b320971112,
    0x8de24014b7f594c7,0x4fff41a9f0b6a9e9,0xf11325d9c0df7684,0x9b442543faf3e2d2,
    0x65f745d7dd81983b,0x10220fd02f8eab78,0x4c3cb60771fffacc,0x3bc328612a123abe,
    0xbd99f28511a637b6,0x4334885a8fbb848d,0x250b305caaf00a7f,0xa6b5826ded0c8a20,
    0x4f30b43ae18cbd32,0xe5e453919505c729,0x8171864fbfa379a1,0x02a3759b87c0c622,
    0xc327f4e1a6cf9ec4,0x6419a83a7c8df6d0,0x1ea5d75b001e1e1e,0xa88356cc1f9f211f,
    0x75f76c1ff7c8537b,0xca8cacb7441f8061,0x51baefe1caf96c21,0x67cba4e8e9ec04ac,
    0x1ceb5057385726da,0x7bdf043ed0403f6e,0xa1e1c61f2fb1cc04,0x5b65ededea1c8984,
    0xc828bbee5ab90065,0x26ddc475bbfa75b7,0x899db93959f2e876,0x778468f5252b48e4,
    0xc8f76aa2f2d79ff1,0x27bbcaef00acdaaf,0x6f65136a7f01e2e9,0x43341ab10eb39ca0,
    0x368228ce4b6a1226,0x2af9e9c8ab546539,0x1a073d686468f392,0xc5958ea6d5749993,
    0x1c100688c66961d4,0x96876dbeba2108b9,0xecbe19719d45bd82,0xa031a882f70f7dd7,
    0x6a9c32597e189f07,0x0848c9c516ed80d2,0xdf310940fa30d604,0xdec3480f5d68a92e,
    0x1be2ef80b18ca938,0xed5f41f8cf2193e8,0x436ed448431a7960,0x7332d2e4f241e886,
    0xe4de3f85b3713a52,0x25c75b8c683c5417,0xc1fcc0c3c74a5fa0,0x83f07bf82e425ca7,
    0xa111273f9fb0ffb6,0xcab5b760e1fb45d2,0x049794c912c7d3cf,0xf2ec4f10a25b8bb9,
    0x627cf469e42f35fd,0x27a76bcfb6baee4c,0x99fa24688e7aeb37,0x439f864eb2f08528,
    0x3865a5b530c62d57,0xefa584fc6ea72915,0x7f3af4671cb58401,0xf56850929086dccc,
    0x9ad9a09121ba21b0,0xd855d8d200c26553,0xe6f680686eae0076,0x938dba4f9b5a42d4,
    0x374d995e4d5b4325,0xcbf1bbee3f2b697c,0x6e9aadbdd136b90b,0x48afc0a89af75656,
    0xe792984f403482fe,0xa7bf278fafd65aa7,0xe70b585390c06d34,0x613483aed9ed08b7,
    0x55dc8a6d37d1055d,0x2bc644b0cabb61a5,0x3e6f5f2b4585ad86,0xedd7bb3007929c3b,
    0xb53e49a63f2b24f1,0xcfaec64f5fe76bcf,0x3a81daacf3b49779,0x7efa89b76ca031e7,
    0xd65dc5d4af8e4b83,0x1dbadf3ac554a455,0x78ced222fc16ab21,0xa99ff3ec61f4aeff],
   [0xf0699bf9e2f2b734,0x79c3bb5b5501d267,0x0634a786f1164457,0x224a02299eecc99a,
    0x840f585491ec7fdf,0x07b704b673c7afd0,0x149a08ad871d7fff,0xfa41a8d29b6d22b4,
    0xa8df3dae1991e607,0xe310d10e196e11de,0x760f78b8af6b2261,0xafd35b35bea5bda1,
    0x5e0b73bc4308126f,0xbab7d9872155af41,0x96d8ee266b81ec93,0x03555f48e204e994,
    0xc9e92f475d254033,0x78368280c2a4707a,0xfcdadfa688b6f240,0xe63502ee153cec59,
    0x7e8aa88968f05e3f,0x2c915a0c4bfcf360,0xad74e80f0709ce48,0xa7c5837b1f621e11,
    0x7e16cc51f0b9a00a,0x05174da42f93e68f,0xa0c7cc97b56175d5,0xe5ceac4035eb4955,
    0x157ff80e67984a57,0x8ceddb7586fe794f,0x854a459c3396d1e4,0x660cb9301fcd56b9,
    0x2b9609afe1e08f33,0xb1fd631dcb982cca,0x12ab45c533f000e2,0x5648dec272eb9687,
    0x26eed9ac4269f1c9,0x3e72bbf2e0117951,0xf478f5c64d77a269,0x95fddc70708f7043,
    0x8daa3455e8a5c546,0x1f0ea68ba3187b91,0x3e774b6d5268d693,0xa643c538afc5667b,
    0xeb1e337cd3fff857,0x4893db480dc64a7b,0x460033011cfd3519,0xa8d602ea4377db0e,
    0xe3b8200bfab98c43,0xc5ba57757e3e8aa4,0x95152f8ecbec8f03,0x1941c19f3380ed26,
    0x8fa210da22abe217,0xd8f62d3db8df5639,0xe2b6db2a48fb8c53,0x8e66b834595db2b6,
    0x4f556db22343750b,0x944995a27d329c76,0x8ec64fd2a2b75f9c,0x0e415c462be67902,
    0xa6097c15becd56cc,0x6ef691a45ff7ec06,0x27bca21077f8cddc,0xc3056e7177f984e2,
    0xe6670d1042d8c2f4,0xd73321b9f79c0189,0x7fa73bde364d8a0b,0xfc586431d10b4bd6,
    0x0118c88ffcfd274a,0x29e2cb05ebc338b4,0x4a33c279e6bdb4ab,0x99fade52ce8ad956,
    0x830ce044e750b852,0xa172f111c50c5f41,0x3a3b61f117d48acd,0x956d85ac3fca3e4f,
    0x5f09724600eb56d7,0x2dcb5b21adc5c746,0x8911e9cd3b8293a7,0x371a37ccf6deedf9,
    0x12b077f1d1ff0f18,0x07e0bce70549a42d,0xa9bfbacf9af2d6c2,0xee993ba6b0c4f1de,
    0x8013876ca50782ad,0xb435c80df70f2cb1,0x1f6c5d58ce85bcfe,0xd87fd4d94578db2c,
    0xd77107b51f2ca098,0xe4066263414b9d7a,0x6148a999fe559bf5,0xd9bdb44b1b3520a3,
    0x7406bbd75abca6b7,0x0de0c9740ee3ab32,0xe5e5518457563f01,0x552624fda1dd30cd,
    0xe47a7f754fdde3fc,0xe5a8889e05628cc9,0x8da0dc41a52f31fb,0xba49517aae9fe242,
    0xa3efd232efcb7d01,0xdfde1c81e3292caa,0x0b4ee4376013359a,0xa88fb6e1ca945595,
    0xdc9d02357a6fe7cc,0xc365429884f435b7,0x78a0d632207686b5,0x6d354193d97a95b8,
    0xc41afb5feebdbcde,0x5249918f8b53468c,0x3f44255459cdb568,0x6f5d4e0da0883528,
    0x78892a2f7d14da68,0x4a64c1f84dd20173,0x4de2cf82737612b5,0xd3398f17422af1ba,
    0x3f07631b55a90e3d,0xafc7a7922d41453a,0xeb7252d1e8a2b020,0xa34ad4d4d1fd3d60],
   [0xea6065ad7789b84d,0x167d5ee4d1041ce2,0xcdb5d111b56493fe,0x4a89a61457374b4c,
    0xef9b7d7f018e3ea8,0xa72e280634711999,0x08c2ea979fe677e6,0x45b04e87ed480d5c,
    0x20049d0364e11f7e,0x3bdbbc488e7cdb08,0x8aa4bba0ae54ddc7,0x55b66e6dc586296f,
    0x04bddc671c77d076,0xccfe610621b594f9,0xc386cc04cca223eb,0x9043a91f1dd1419b,
    0x6e76b23742e14c34,0x834c5ebe07327593,0xa2a9b30e781377c9,0xcc9f9648a870ef92,
    0x8892157a94be556b,0x299917f1828c7e05,0x43116633dbe689db,0x829bff2cb5f8c96f,
    0x2046400ecc4bb506,0x06614d6a97448f01,0xab1d0013a1821a0b,0xdb3ebc91cdcb79a8,
    0xcbdd181f49b3e60a,0xb21826f5e8f7d202,0xaf1a685e85539258,0xa95a64538a676683,
    0x87de6c8595de4837,0x8d4286c82de5e74e,0xf4f58c1d0ad98a75,0x5c618da1faad041a,
    0xc0b8583b634a7dee,0xecd36649642278ca,0x88b80e3849fd9671,0x4c719117bcf3a19d,
    0xb6ca448b40dc67c0,0xf08dd2bb64e18d8c,0x67de7cee87eec09a,0x22bdcb12aae2c57f,
    0x8a9a5c843b0e7ddb,0x75fcbf3b3b89c774,0xb9987a8f0d909c47,0x53ef0c95ab3e7dd1,
    0x2589342656635396,0xf2cae15a368a6c0c,0xe585e2dde671c11e,0xab8a886a915a06a2,
    0x7e38fa6a3fc92c23,0xb9360583f7d2d6ad,0x5668ff8248bcd5ab,0xe773cf7c7da84319,
    0x4f5c2279ade5d1b1,0xddfa9e91c66ab702,0xb92174e3aa64a3bf,0xded37dd152738517,
    0x81cc777712c778bb,0xf43b076d59128448,0x2b3caab3824544b8,0xb14e3c5a84e78c40,
    0xac243e5881df49c3,0xa9e890866d069a35,0xdec664b8b695604a,0x62b7c8514241838c,
    0x9be3680ff6341c21,0x8fb53b61387cb550,0x594896ae8d4922db,0xa71ed62152ae0335,
    0x14aed835cb801e98,0x4107e653812f738a,0x93db846167f0e960,0x66cba1d92cd4a26d,
    0x5250d590dedaa27d,0xd6ade86959a30e4a,0x66d9066ac3917211,0xfd5ef5e6e6fbf966,
    0x3af146e2e44f47d0,0x1b59f5de949f002f,0xf9751f0869dfc979,0x4897bdbfa45c89c5,
    0x81e501aace1320bf,0x526da001a8f01195,0x34e8eca9417b093f,0xe77dc20f7afc138c,
    0xfa41e92588e11179,0xcebb8dff96c18e27,0xb9e33fe845fa5f29,0x520dcd49abd6d7a3,
    0x38f2b5ed1f6a40db,0x4175a50fda6be47a,0xa20562961f6a5779,0x360604d1b132f797,
    0xe61bce9b71581bd3,0xcbfa318df6190786,0xc451e07bda722f2e,0xeb1cfcb556486576,
    0x5bce8d985cd98a09,0xb39cf319c5bd1a64,0x5044005ebe4d6e3c,0xfd47ce7571f94d20,
    0x2781cec811281711,0x322c52732fa98ed7,0xd5d0927a529d94a4,0x6b087369f3feef1c,
    0x04bcd9b5108ec5d1,0x1327be68971fa79d,0xfcc732c222b78cdf,0xca9dd09cc5bf86d6,
    0x90122bdb673a3111,0x18b82e417b4c818f,0xc0d54ac2e72576a0,0xa1fd8bbbe48e1e09,
    0xb887e650b8c704ef,0xc7ec4945bfd51169,0x9bd77e07bc0916c0,0xad215d8a34a30856],
   [0x3438c84a72bd05a0,0xba82337d0b1fc80d,0xedc2f995f36d1f90,0xe5e892363a31885c,
    0xc936de2be1a69f5d,0xca73995b9cd099ae,0x1301eb01e79b5c3e,0x77439de4da1b87d2,
    0x0c665cf973b4df41,0xfe6784fa0f696a51,0x44d95fecd3177c78,0xc827ed763ffec8d1,
    0x2e5b6a2380f91f4a,0xbfe9a6106c0047b3,0x60e17d7b66ef3cd3,0x1e4c4475f2da5ed5,
    0x4f09528101467d6b,0x357d712952a24b51,0xd1018611642cf1d8,0x5d2393df9435ccf5,
    0x07c673c6b1bc5458,0x72a707a7510473a8,0x7acbd85b2d5af46d,0xe66e63f263fd0f7d,
    0x405904b346340d60,0x8998961b956e7dc2,0x25ed93eeb3c1587d,0xb511001491b74657,
    0x68cd6178653ecaa6,0x8fb582b118594791,0x72ab899ef769f978,0x9c3981f431fe4c46,
    0xf0b1e93c9d159f7a,0xecf93a9cf242e590,0x3adcfb2bd2ff873f,0x453657a53aab893f,
    0x99c22b708a02fb78,0x6f949bd4e81dda5d,0xda2ef0913a01c728,0xbfb5aeff88023dc5,
    0x973276c64cfb1a94,0xa32f06e363cdcde9,0xffc3dda2e480e645,0x27a0c221b72432f0,
    0xab98f8c2d4098584,0x91e3b03d78674297,0xf2f2ef8dc1821e9d,0xc3f6ab3eb3a0a792,
    0x31ededf3d46cb42a,0xbc052853a7239093,0x4d14adeaa13d73e7,0x435b54cb07b04c46,
    0xb7e24deddaf72dd0,0x5edc4c79433949a6,0x49f4a54cc1e0585d,0xd726c031e4718a1a,
    0xc193d479678e27d3,0xc12883ed0e4c688f,0x1cb2f03148e4774e,0x60aacaeec40e8409,
    0xff7c610228c4d2de,0x46d400783a680f4b,0xda54f7c803de04ee,0x9677dffcc5def66d,
    0xa97d941b1d2fc263,0x89cf813e5b65d57b,0x19fbc47c4e13da0e,0x1805b819e14edd7e,
    0x266470b4f0870ec7,0x9c8c1af8e551ecaf,0x5858daa86bcb3148,0x101f642809438171,
    0xcc326b493d9eb773,0x6319c47b85cae6cf,0x612c78017b1c51e3,0x79481a2aab0f1180,
    0x37d96c11c1162620,0x8cbd8693297f950b,0xc6d9625e70f28a4b,0xdc61463f8555e09d,
    0x9a2b1b70c076d1df,0xf41e2081427fa1b3,0x40617a8a2a775f45,0xc73aaf4366d3194f,
    0xd279d516e5ad6605,0xf75b57a51d893720,0xf9ce01be3bbcdcfe,0x9201ec69eccf916e,
    0xaf71acdeb0028fe6,0x3fb37fc78e50f376,0x5a861535e82bcc35,0xe6ac0ad271bae59b,
    0x6a51064068570fb1,0xc5ef07bc43191afe,0x8b6999aeefed3475,0x53fbe5579ea7cf60,
    0xd3683f7985a745c7,0xbc8a2738c17eac07,0x77189b6af61d52c1,0xe3ddee8f7d5c36d2,
    0xa39f0940778efcc2,0x7c28c2f17bd027b1,0x1be51b86aa7bd8f4,0x487199d391932b87,
    0x526f51dbd2943e92,0x69bab975255a517b,0xc0aeda8052ac58b0,0x2fa496cc907cae20,
    0xd5264339738a13b6,0xb1507f3e1d1bf694,0x3f6c08acb28b6433,0xe7be908162a44887,
    0xf4c733e84d4170b3,0x40144156fc3a3587,0xaf68aa1186c0a1d5,0x45c78ddc2035f1e5,
    0x16efa3ed511faa1d,0x2cb046606420cc73,0xb0e1a9d144fb3a51,0x11af9946238d5c0c],
   [0x21579992fab5c2cf,0x5312f0c21fb084de,0x71e7474104fa90a4,0xe4107e431e221f50,
    0xd028403f2b955c2b,0x3c7892dcff7b2410,0x3948c668741c2b32,0x1e5f11e6cf701c9a,
    0x510f99b4549e7a36,0xa0654d2666872435,0xa757f11164d63319,0x2d5295db41e6f839,
    0xddb68195ce32eb67,0xea7b44f99730ba3b,0x3af16cac763b38c6,0xf98acf2806807232,
    0x5bb5b63c09b67b7e,0x766b7b2b911c3d48,0xaacf9701debc1142,0x85df9a65ee179f7d,
    0x88b3869e830a36e3,0x86fa949d1fbc6ea5,0xbb6b7d5eff0e2973,0xa6b4b7aa39af6308,
    0xcfed817743a29747,0x32242bc07eb98697,0xff26ec4601bffcda,0x3877152e0bbff37e,
    0xba573e25f24d4637,0x9fbd1f6ecffee641,0xbe16116cb99d3730,0xcc70a7f9014bc61a,
    0x127cfde60b3510d3,0x85d3166704a1d6e4,0xa8d8a1865c2d2928,0x23c493fe7f9fcd08,
    0x13462ec43ae89a47,0xf799e35e26b9dbd7,0x0c275d9e4effe6d8,0xadf456a9e4341423,
    0x006a447c3b80ab86,0xc86b3488933e6f3c,0x08d114540d125257,0xb8dc9073c673523c,
    0x2f61194f048b4d6a,0xca4d4599db3ce9e0,0x4b5dc67e84141863,0xec7787216fd41e68,
    0xacc691808b49a71f,0xac36eb6c64227c39,0xde5993ebaaf235dd,0x94406d0b314dd0ed,
    0x471c1944d0b249a9,0xd0e27261ca63cf94,0xcd207c90906fe897,0x61aae77e864df179,
    0x59469a0606bba654,0x5e3bffbd135ea79f,0xa67834270a8e1649,0x437a6a6e40d04569,
    0x3755406037a7c0f3,0x14a7c3761938d410,0xab24825ff34dc5a0,0xc2911e15587f2492,
    0xe5cde33c60e50c32,0x77f10972e8c6873f,0x337136df5bee8d38,0x3c2ebf43de886c14,
    0x9e2f8917ca93c124,0xbe2d08c39ae8c998,0x6525b93d202e28e7,0xa703d9a6c5e8399c,
    0x05bc04662647394e,0x9ce5a7a96e9e45c8,0x5ac96720bce3bc61,0xa6cd740bab120fa0,
    0xc66b62b3f119695a,0xb59355675ccf55f0,0x4ff66a2d4a663c77,0xb9fc0fe7c1b0fb9f,
    0x7083d9dec3a2355a,0x99651bf35c604990,0xf391e5b89ec55f12,0x987536d727940eb9,
    0xf0c75c4c1bd05276,0xb85f6c7c683adccd,0x43e0b1c149e57b48,0x12f19ad674f11172,
    0x91f23fe06eb8394c,0xddd80153cdc93b32,0xcb94cd05cfed4c53,0xc2e65b9dc8bbc43c,
    0x6cad3e4383f6c688,0x3fedf8318dbd4924,0x23948c9d2f469724,0x36cb9b541bdf3dc2,
    0xb0f0547c52f3ec22,0xd1f86dcf71a8f8a6,0xf19d38b17ef2dddd,0xd515ac409a4c4468,
    0xca1462eb25a2863b,0x4cd57df0031b806e,0x1ea5e4840052bd46,0x51c0481422449b2e,
    0x3fd1e77f6e5942d2,0xaea9ff28380169ff,0x5e63491acca09e20,0xcc99e1f3854d3214,
    0xb3e040022a099464,0x357b613529cf9112,0xd976c9d49e0031b5,0x31e28f89d9a5a4f4,
    0xa59a1e9a5971c857,0xdec99e6dabe6093f,0xe2453cc38b61cf3d,0x070b9d4985e5b0ba,
    0xff9cb63dcac8dfc1,0x33a83da1ec5461aa,0x86b810ae46373cfb,0xed80461bff4b6250]]

def combBlocks32 : List (List Nat) :=
  [[0x57c84fc9d789bd85,0xfc35ff7dc297eac3,0xfb982fd588c6766e,0x447d739beedb5e67,
    0x0c7e33c972e25b32,0x3d349b95a7fae500,0xe12e9d953a4aaff7,0x2d4825ab834131ee,
    0xeb0421211a6b665e,0x802f779ea7f6803a,0x47501f2a3c0804c3,0xa263919b4945a1d4,
    0x9ee4040030bcdcfb,0xac3f83df4c00efe2,0x2e9d3c9de60d60c5,0x873200bd2aed20fc,
    0x73e1998edea6db68,0xddfad856082632c2,0x58b14df965def4f6,0xf8b6533e03ca017f,
    0x69bd25b0ae760da9,0x6bbd70dd9c5ca0ed,0x2f046dda50aa3ec6,0xc30f4ef5ec445486,
    0xf6f1d3ac4d771f0c,0xacad16e63be0aea8,0x18e63add579547f0,0x2890d721e57e1961,
    0x0a5728ecb5890d78,0x7dc0e7f77ef54069,0xaf77e1d1416752ec,0x69b5b8159ddc032a,
    0x66d5d4ebf924e753,0x5f0173072cf8727c,0x548ef18729edfb75,0xf35289d35582847c,
    0xaa45b5c2eb13a20c,0xc562fc57292d0f04,0x93df08a1b50e1bd8,0x75c1781ec5ec13fb,
    0xf8b6930d2670213a,0x946d1bf2af7a9da4,0x5430c3c0595033cb,0x929f5cfaec5be480,
    0xa53059c5cd486f14,0x1b383964f7f20170,0xc5ac64bb51e39045,0x29cd3692293320c6,
    0x2395cb673018017e,0xaf141fffd6df23d7,0x4834185fb6734e01,0xcfd06b74da441716,
    0xa0ae7be4ce0dff50,0x003030786b779777,0x8103b39587da7950,0xb647b7a9b72ba913,
    0x4f5822efac7e9e44,0xd4e3ff5e71da1781,0x81690628033de305,0x7b8b8867dd4d9c6f,
    0x0767022aa8cd12c3,0x64057e6dbbd72365,0x2246073c7dd5adb5,0x8bc6273e511680b4,
    0x04c81905792db860,0x81089288329a247b,0x1512d6d08f15dbe9,0x0755e74c4ad5dcd1,
    0x7d6600dba0d09849,0xb2937464cfc2777a,0xd249b2d823815bc2,0xfe16afa753ad9e4d,
    0xc6327e20cc2f3082,0x585e6c58dd17aeb9,0x7bbf9038d79bff6b,0x823c8de5a5e97dbe,
    0xac1b42a9958bd76c,0xcdf006775a45964c,0x17edce97abbfe885,0x61fba612a1e936cd,
    0xa9ef6955ea26ba6b,0xdd2ca2a496da12c3,0x68a10c0d7eb0bbde,0x88fba84cc372c969,
    0x80414781e44972f8,0x484a9e28e00cfdce,0xd266da45b514788d,0x512aef649d39be0f,
    0xeee143c1f0f870d2,0xcf8a00249e4d1558,0x02faea8e759acd21,0x05f0c3cabe40ede9,
    0x5f537c956e60e8cc,0xc2f725737aeb5f8a,0xbce7a5998ab1ac23,0x34b55d934f6d2c56,
    0x39c48a4294720cab,0x1a1ea5d41739b17e,0x8e50f6e7555c6f2c,0xe1a0accbec055beb,
    0xa6d453f574b185c9,0x084a2a71d080254e,0x1836f83077eebcbf,0xe07968fb7e98c854,
    0x3a5357fbc1f6b0ba,0x8101deba1f12354d,0x1fd65b91abef8070,0x9211ea4a827801d8,
    0xd91415f9a2b8e349,0x4ee478b7af28bbb2,0xc74ba7e95899cd44,0xe7e91892e2152ab3,
    0x2a828fdfec26c42a,0x249bfb7e46b11bb6,0x50db358931e7e6a0,0x0ae93b86e6a73c7e,
    0x91063343b9f808ca,0x278a39eef5aadb64,0xa942e3edc1e20b37,0x7028f6dd14787e13],
   [0x1ebd8bac137de736,0xa2f8d5618688ce24,0x8937542b8cdec18e,0x9022e314949ccf3e,
    0xf4ef5c0844c42ecc,0x7f49366c44ea7657,0x66d0bb045226ce08,0x2fae5e4f2904a394,
    0x872e52cf757a603c,0xe130a96964396297,0xc2731f7801b1133e,0xa77663f5fcdf189c,
    0xd91745804ca8e468,0x8ab86c568cbace48,0xdae982fa5476a35a,0x4e139cbdaddafc58,
    0x91706cb8d09b01f5,0xf73f35183273c051,0xfb0f2d3f1af7857a,0x6e5872e3076fe945,
    0xc30758d9abcd5fde,0xc13179d4e09a85a7,0x80cc1d4af3bef0eb,0x4213c02ec8d77171,
    0xe83e2130461dffe4,0xa93d696bf79b5582,0x12911d2965f2870e,0x1a7098d2db889a11,
    0xf3ba5eed161315da,0x68682783de26b553,0xe5a42c936f76f327,0x39d474f5ee8b69fa,
    0xb539b747efe45b1f,0x7bd155fb2e6168c2,0x4afd1e344c17df82,0x292220b1a5da3f50,
    0x5fe40b8b534bb026,0xf7c344304cdd4104,0xe37c795ffae98d7f,0xe316a0532bf175ae,
    0x0493d0686db76ed9,0x63b807e9a1021509,0xcd6cb74ab4e765c5,0x7da5f99d3d6c3e86,
    0x80f1cf939752c9f4,0x191cbb6b8c720131,0xe529dd1342c75643,0xda269ac028102f19,
    0x3e850662a3abd540,0x0e8040654b166de4,0xc3224f8721093a34,0x3644e14807a44f0a,
    0xe1c6fe1cd55da631,0x00177ceda66fa14d,0x11c285309fa1e293,0xec5a9150dbc27976,
    0x84100f6f2472c9ae,0x1a078f4b263234f2,0xac43ff1f15417fe9,0xffd92260ea330bb7,
    0xa0cec1d866d03ae4,0x263d2e9c868b8a34,0x5999633225711e5f,0xcf4b93b0ba211147,
    0x1a2fd21e89142ccb,0x4c920a5ac687ede3,0xe55b38f4993bb482,0xedfe7dae17fcd838,
    0xbb951d31ac593d75,0x1da442b69d51142e,0x61855d2b4f55beb8,0xc88692122e0daf21,
    0xcd2c725d04dfb784,0xa8239331db50a97f,0x237d162a581b7c63,0x34a8fa8c48884176,
    0x213b4be5247d5003,0x2e73fc51a1eebd57,0xcf3ec31a3fe1e53c,0x51d8381001dfdf52,
    0xf3da71c64a41b208,0xe7f7475cdee27000,0x98714026bcea0de8,0x5311968b4059a695,
    0x691e1f9e048e4b69,0x3b3c1dc02436877f,0xa6c6581e33b3da11,0xb78d732b3dc22978,
    0xb544b022450cc54e,0xdf180f578c520280,0x968dbd4d1d0d26fa,0xa826e880bc8555ba,
    0xa463b4d6ccf176da,0x5cb680fac4c8ded7,0xd8c52f2ee5ec51a2,0xaaf394288cbfa120,
    0xb3d01b5c495daae7,0xaf46e6ec7c7033bc,0xf7a22bf6f560e1d5,0xf65dd1f22ffba594,
    0x8d4e5a99c2556738,0xeb06180f9eacd9b2,0x20e6fe637cfc4cd0,0x9d71b820ce1b66e8,
    0x70862c0c4bf4b3ea,0x7126e7f99f8781c2,0x31a9a309315a28fd,0x08dc1f3f37aa789d,
    0xc2c42a8650c5e9b8,0x920564232cae4286,0x164c269569d32f93,0xb1e8b4ae7aff7442,
    0xabefc15e3afcf1ee,0x0afaa80472069a11,0xb41bf480aaa807c6,0xa6670e7edccae248,
    0x378870abe0c67fc8,0x1ef39891c93cf38a,0xa395f72f4957ac13,0xa7fd14c93a51c2f3],
   [0x741145c144cd3397,0xdc34c10619515eb5,0x89386cf2b5156ded,0x73baff0419eda723,
    0x41ef2a139adcb8e4,0x779ef92cf8261349,0x6a00d1e8c18f825e,0x1e97de634977ac5f,
    0xacc1fd7cdfd83618,0x140b55dc318d93bc,0x36ca35ada0f4871e,0x6fb5456391ba4305,
    0x3f39f5cb02430626,0x2f1e6499aae5d33e,0xed3b68c52109daba,0xf663d87766c6b8a3,
    0x7eb0f952161fb913,0x3e10246156d31297,0x344388de44bed04e,0x45f8330c33e60a18,
    0x70d4817c0c15c3bc,0xf06d0879f6fc3373,0xf80e8076d8ba7760,0xc212cf6dbfd6906e,
    0x357bdb041cbd9a71,0x42d91e70b46ef479,0xa145c7ebdf98e4b9,0xd554ded0b2862113,
    0xa43a4a8b3c8cc32e,0x5f29fea9a7a61c99,0xff0f7ad45ac39314,0x74b8f94b6c36708e,
    0x5aef9691ee393654,0x965d4be1f3edd7c7,0x65f5a01c8bcd5991,0x5544dc49acd7bdab,
    0x23610bbf8f53206f,0x241efe9703d58e73,0xc04c05b5b8935192,0xed3e85895087fd4a,
    0xe8b93f55bab5593a,0x44ce7343e662a7a0,0x54e17c99d42eb14f,0x44130b2ce9e10135,
    0xe3a5763dbf5b8e89,0x776d1bdecdce2e3f,0x31ca51215b0580a1,0x49197fc77907224f,
    0x13f3599428a15dfd,0x741dbac025fa9e55,0x4b3d2ed55ae2f695,0x2757b790619ee773,
    0xfc8e840cf042c341,0x1768978a3ca7156d,0x5cc975213cd5500d,0xdf46d2d554c2b12e,
    0xde82817f3be28c8a,0x9f61776622130485,0x63c4e45429625171,0xb889d78bcf05f1c7,
    0x3037fe51eafdf89e,0xdff631e5782fb8c3,0x182be4a975c700ea,0xbabb0b07fa511b9b,
    0xefedf426bf840a5b,0x148cada5d3ad4984,0xd98421ccc1143ccd,0xe872437de50e2bc8,
    0xb84e58551377e86a,0xac3a346cf9396464,0x593bc91f66248bf5,0xf984bc8912729616,
    0xc95cdd857968488b,0x9bf259ae601fad6d,0xe090d2df5125fd3d,0xd8117a991a354ec2,
    0x45b6eed915801a3b,0x1401533aae5c02d2,0xb0d19e6a01b6eff5,0x00e4ebb986182aea,
    0x4956a9b8b36afd6a,0x9261fc50a1781e3d,0x392ef6d5e6f3334a,0xc56cdcaba4d775c0,
    0xe6086beef3f87c26,0x66f483b2568cc723,0xcd2edeb17f594ef5,0xd16056e2f386b070,
    0x44b05f8625e92803,0xb14f6191e97c17af,0x6ca2519f3a756b62,0x94054f36a1b6bc14,
    0x0e1e9a9b3786f08d,0x9e6e5d1fe37f86aa,0x4b0d80d7ddae8fc9,0xb848d8f95e4c4c07,
    0x1dad980d2cfd2cd0,0x23941334419c0c13,0x9cfd28583e48abb1,0xd3d6e6738f3ff286,
    0x4c579c77794ae2dc,0x001fa568c2f6f8f1,0x536da8ff737de59b,0xff448f5fcd159b68,
    0xcd7aeec0bacba6e6,0x77dd55ea7721089d,0xb84db41839070193,0xf99a41f785fee4d8,
    0xde6e6d673d26512a,0xec328c8928e4b570,0xa37757c917f8be49,0xfb3296aef4c8145b,
    0x09588855dab7a64c,0x56508d6a3a09ab7a,0xb03132d72237d406,0x88f9778856e45c07,
    0xa05e98e11575f103,0x36c30092216d2673,0x34531af257969e58,0x4a745cdd46b55c74],
   [0x0e2e5fb31fa4e33c,0x2683bec78b098cb3,0xc974446c2976fb98,0x9cf646b91a4c25bb,
    0x19c45e060e0d4563,0x9e205827ebc16032,0x1e408e258b821f31,0x37b0624dc1f65a89,
    0x8c496939c224ef48,0x6cae5469245e15f5,0x35917f8d5547844f,0xfe251903a4523298,
    0xae6960a05136dfa7,0x455aaaa1c321e408,0xd836b9405a1b36a0,0x4fac9cac97ca9be0,
    0xe98b618cc6bf1e67,0x4c566749fe5caf63,0x9d7a653827764e0f,0x83cb43de151b6499,
    0xa27ee8b3099acc97,0x2874422cbdd1169e,0xefb1806e624418f8,0xbce28ca24b98f6f8,
    0xbccf5cb64d405a74,0xcec29f6bbdd3e7a5,0xe2c3b6c3f6131016,0xcc411e541368f9f2,
    0x645be6b618d1bddb,0xbe4fc2009f16fb0d,0x571527fc350186d0,0xfecb812fac774584,
    0x230ad748dc0f057e,0x84e8628701d53dd8,0x03340fc15e250224,0x3ff3b3e560ceb08c,
    0x2d41f7daa817965e,0xa010236ec4701762,0x6f7fd17057867843,0x7f17ad6f3bb6578f,
    0x74d4780e769ebf5d,0xd64fed987e38c62b,0x80dc73f390d4654f,0x84d6e7f91e9d174f,
    0xbb0586f1662cc379,0xb14a9f3aa8a268f2,0xe4f7033de50ad159,0x0555f4e86e407c4d,
    0x15114b40325e69f1,0x6367a8f2d422bcb5,0xdda19de173d6af99,0x6e9edb2dd8ffd83f,
    0x720e17e3402b7e9b,0x1c727454799f281b,0xab3556ab65f3bff6,0xc0822216ceff954e,
    0x96282910aee1337b,0x0898022a45c4a1b1,0xca356ef3efc35de1,0x8c6c923cf1a4351c,
    0xcb451d5cd9c84abe,0x845362c1c6ddfa2a,0x5efbb2319eaa8e84,0xa1256fc84d40ff6a,
    0xbf252f66a288f038,0xf0876894eb5ff820,0xefabc19de6ec2d32,0x5ee280e804c41c4b,
    0x1c5aab86b6f1ee6e,0x11d7833a98e6c6f4,0x84c0586fecc9eec0,0xbcd969f94677e392,
    0x39d6c50353e90f60,0x99a2d8e1e5c4a7a1,0x4521668b55dde953,0x6a2ae3e9c7cd7eb0,
    0x4e349b189a948322,0xf3d4d34082a6f7e6,0x6faf20a6219efe23,0x4bf6b287c0264e85,
    0xa0bf3256c0c708c8,0x2c34304f2f70a86a,0x6dfe365d91fe288c,0xe1f0166e05c20573,
    0xe718d73b3896ed38,0xfb655f22efb5a00a,0x0444632be8a33016,0xe647653e916c3b52,
    0x18c8936f8c320512,0x8c3e4465e863c513,0xb0e4f5640b722588,0x4ab0c75e4cc5f45b,
    0x33743af64f0a792a,0x51c3714292fda61a,0xe8948891d80d8c09,0xb04daa0234ae0af7,
    0x7e0f09ca476edefb,0xdd58bd80100e7d5d,0x7f121ab42979c7ba,0x28089687abf6345c,
    0x2ef457229d1b0ae0,0x4dd31b07be039212,0xa67e19ebd90541c4,0x5d071cf33d3b3191,
    0xb923dc396304c13f,0xed79ea8130092a10,0x22824b73d2e6d3e9,0x1f637ef68fa60728,
    0xa69ec6ed13b60200,0x7d98288cbbbb3438,0xdfdbdf045d762e0a,0x8fe2c91f76bdae23,
    0xd12d99bcf344897a,0x7b9ed3075a4c269d,0x70585e852425edab,0xeb15b0de281904cb,
    0xad9de83ce5bfe7ee,0x814698b2f97d0b82,0x0898aaf8cd732f85,0x096cdd169c266071],
   [0x826fadc0523b716d,0x0d238966f74e1a6b,0xe8a5c7938d18df9e,0xf81f5be38b8ca534,
    0x464002f512632401,0x660758503a878330,0x1d56d29d380e0328,0xdc7f49329c1f06df,
    0x46e0c52790789539,0x0e4e1a713bd05725,0x158ea76280d63182,0x7459e772c29c4c3f,
    0x3cdf5a471439d97f,0x383af5e04f7db391,0xec7e8e858a2ec1a9,0x892bc7f5183444ea,
    0x84c5685039d19d8a,0x3b41278951a55215,0x5af6ec35c16d490a,0xa6008450fb128638,
    0xfd95dbb3590d2c4f,0xf0fe008fa726573d,0xc8f6d45e7be9ca84,0x7b4b79c067a37c72,
    0xf4727e8c8ef2dfe7,0x345e4fd95b8881c4,0xc604c9f87d2efd3f,0x2e1c7c383d7f8492,
    0x3f85cca2c55e5f2a,0xc2d747d667b0c5bd,0x6d9f4529ff7ea8f1,0xc629dc2b09f0be26,
    0x26987b39496cac9f,0x59e38cea5c44de72,0xc64c09798feb0e1c,0xde5382b1967df354,
    0x7ce082fdafa473d3,0xc2e3e29473d84115,0x62c3b00991cf9f2b,0x9c47b678b69c9185,
    0x3b4c7c0831bf35a9,0xe2ed30366d621c90,0x40cb0798638b5965,0x74dfabecc5345e53,
    0x3615b07b36a268e1,0x3f5fa126c564848d,0x69281e79c517ce99,0x48341b4c8956a770,
    0x7cb2963786807a23,0x400020516a25ff3e,0x5344b99d51194ec8,0xa7227b0807f2a908,
    0x1c471983d4115894,0xe7bf8157b728cdc9,0x45da847920a075ab,0xf5507525d45d39e8,
    0xacebe833f2f21873,0x022fc19d8429b019,0xe63138a90228dc28,0x8c86799b36e7d519,
    0x8905b7d7e5159140,0x5dbf4306e861f0ec,0x61ce9fe475a272d1,0x5c0c2c12a5a3e85d,
    0x5a797fc2044d14c0,0x005cab5fa1a8f35e,0x465abe73a3661d39,0xcd2b2e8d42344596,
    0xa560acf222496315,0xfddb6f0cb9accece,0x4d505eeddac0f671,0xf13012df9b0870a2,
    0xa94a60e30f18a7ab,0xeaafc3e392c6cdc9,0x12de04490cd9ba82,0x183950fddd7be0a1,
    0x6ae5ddf8560b4b74,0xcc6e77e9d46108bd,0x81cda4cb3f77a930,0xaa8cbec079204cc3,
    0x66f4eb12399a1566,0xf25c655aff228f69,0x4cefbc9b83df9dd8,0x11b2e84c8f0df7eb,
    0x59a4b3c05c56bb73,0x824b55840cd80968,0xd042d698797405cc,0x6103769dbca23175,
    0x5fd577fab0f2928c,0xf6bc238850e7187f,0xa088cf12640a72f1,0x675107e17bc4604d,
    0x8740be4015174f14,0xb26711d18b114573,0x5d664043d781f304,0x6034e0018ea3f8d3,
    0x7d09eb28dba6f34a,0x31286a0fe245c6f8,0x759da0a3ef991485,0xfb6d19295f2ba070,
    0x9b5f3c822bcf0452,0xecfcfa2dc9685b1f,0x9e388fd4c4a791b9,0xf29b2d29d7bf46dd,
    0x48fcc264147c34d0,0x26dc449c991c9eb3,0xddb77e96f0b512ac,0xe42b60f34a9e51b9,
    0x6de84bd897a87eb0,0xbdf8bf104fc3c2f0,0xbe07cb0c7eb81c57,0xff0cc44f2cd6f0dd,
    0x74ca2d2a0a435427,0xa690109827e4db50,0x0aaf67650d906651,0xff429fcc103c13c1,
    0x8e50450d39853824,0x205bee534a3a0da2,0x94d409c856186876,0x2addf9668a4ecdb0],
   [0x8ed9c7e787354b7a,0x022eca56c3915c97,0x2397f463e53cde1d,0x85685474d77e0848,
    0x8954402bd16e04c6,0x06a891dc1fd6fdbd,0xeebc913b2a6f7287,0x20b50eb50bf587b6,
    0x186c5ae0464345e7,0x45faf0843c5344c1,0x691ec77b5af1694c,0x80ecab9f02b4cc6c,
    0x97a3de52e042e3ef,0x32e500ca5bccdbb4,0xfb5fc8f83e19fc84,0xf424148aca6d55c6,
    0xaf6cc7fa7b26165d,0xa713a215f677137e,0x49e9d2092fcc92de,0x617344c752b23e65,
    0xc49bfdcb86b2a286,0x9899ac16e37171a4,0x49b7d10bd18220b2,0xe9901617a437835a,
    0x2540306574362bd4,0x5d139a212f6bc03d,0x33f1c0b1843eff4f,0xe15d0f2321cecf44,
    0xbe6accdaafb46fb8,0x23ed4bf8a4468269,0xc1bfe039308be326,0x9a84cbe2707ec22e,
    0x021bf76650442770,0x9018f7a6e101bad1,0xda04c1da9e40fc2e,0xf8ac03ee55fb6a22,
    0x3a2864f11b00c82d,0xa97602bf95041d02,0xa436c751b34e6d17,0x5a358e65599d1e8e,
    0xc363877731efffe4,0xaa43dbffe2aaf9dc,0x5baa9060c6a031ab,0x0c1e3e83f22961a1,
    0x5ccb48da896a7824,0x92f7db6b5625b653,0xe869f22aaf60d216,0x59190df64dd74b5d,
    0xfbe06d86f65460de,0x0c73f8d0aabf77b8,0x6c6cbcbe30cc8ea6,0x8a731fb525bc95c6,
    0xe9859a1dff8dc207,0x35867e3c52508ee3,0x8f52954bffb04dc4,0x585855c5e2ab6319,
    0xd376b93b369f9c65,0x5b4273b92840cc66,0x58f94187dc6d34dc,0xe7a38889ddb5553d,
    0x3b1be4e0aca7ee5c,0x58a22b94187d1ab7,0x08e37b26192145bd,0x5437b5bab1219172,
    0x642abadfb51634a5,0x3cf90a7835ed524e,0xbf0a6ba02cd7967f,0xa20b606132a8f224,
    0x26c13795f226afad,0xc674757e3cd45edf,0xad3d5fe8373b315b,0x9c43ce9f697db99d,
    0x2b5994fa8d201492,0x44a87d89f414dc7e,0x768e49cb4db97033,0x551b5b794a2170c6,
    0x18b42675f7985f33,0x035435f704d353e0,0x9ddf271ea3b6eef5,0x20f3f82a01775b75,
    0x70432244b3ba54a8,0xb58b2635603aa970,0x91438ec34fc5cc0a,0x016f1f93f1256709,
    0xed7c61fa664f2889,0xd93af27546a3b4e6,0x6f29b11be49ce658,0x08bcd34115895157,
    0x7ae08ae3f41f840a,0x2f63f5b9a8e3abb3,0x41d3e1d802596f51,0x987f1f01103eb892,
    0x0c5c8e8768861028,0x537d27be14f7e057,0x8f39b5e4f13ab094,0x0ec349554991f2bc,
    0xdeee493ce7c16d94,0xe2581d0aa02845fd,0x8c08fd67cccec31f,0xe61586670bd03478,
    0xfb4ed19ab14810ab,0x4e65cd1e47a443bb,0x8c5b2b93f4b6f0ee,0x65ca03ae9e7124be,
    0xda2481e77083cb30,0x899ecd810d6783e9,0x71c56935cd7f05c2,0x4343dbbf1a2c2be4,
    0xcc757ffddeeb4ada,0x0fd47df55831c8ec,0x54e1aac1696809be,0xc0152534a2591445,
    0xcd6dca6653ce728d,0xf4cd907e2871cd0b,0x555a08a216c85347,0xdcd37f0b38d56a26,
    0x8d7d136997cacbcb,0xcaacd346d29dabeb,0x72c37b62b3c6d6f3,0x6574dbd77cda4c18],
   [0xddc6dc1b12378c16,0x9e3607554615622a,0xb319e52d6bf9597d,0x1136b759c12b3b11,
    0x79f59bd0b3488127,0x9614aa28e751cce3,0x09f0abc60fe9ecb2,0x7dec0fcf45168fdd,
    0xd0e6dafff34d3977,0xd95c410a18d0145f,0x086f8c11b6445072,0x11f1f5738159984d,
    0x14bc90ea00154b71,0x937e953f3dc68206,0xcb829f87d3a748c7,0xab98c1b579c0b985,
    0x970e6d827b299740,0xf40f467d713db134,0xcc4ad13793faad48,0x53893eb71cdd4336,
    0x51ea6f1b3fff7509,0xd8a132ef21fde8cd,0x3841ce28ea75dc8d,0x27728a7e9485fbd8,
    0xbe840ca84d6a6a96,0x953b9a779a2e613f,0x9b8018b75e7d2586,0x934c89b9aa1cdc48,
    0xebef148533d838ed,0x107d2df0e2e4ca9f,0x4516d6d6b31b2e9d,0x856af4ffbccaf40a,
    0x30b3c956738000fc,0x4e1e27707bf03bc1,0x57e376baf1fae560,0xdd64e9dd754cda27,
    0xbfaa1c50ddf4ac12,0xbe45d022b91e48f8,0x6df89e3e19ca79ff,0x432193eb0c2932c9,
    0xfce56020573aa9b8,0xdf7150b8829ed224,0x5aa3227fb295f467,0xd1bd257b592c6943,
    0xc16568492b51d81b,0x75ce33d784cf7342,0xd0b4922e396a0e41,0x177cc0cc4bc60526,
    0xef82151733878c4a,0xd883d03c8551c055,0xf2c69c60e4a91b21,0xff9845a87effd516,
    0x6ba6847d7488df68,0xf1f33746b65cfebc,0x8fd8a48edff5e8dd,0x835b9af4a4e2428f,
    0xfebf5ea4acc506c8,0xa8030f018d3a3511,0x8f5832665cda09c3,0x4d00885c9a9df215,
    0xd4fa660e1835aa2c,0x45d17acaa56ce133,0x14c0474409fe88a1,0x3f853c3a9671c7f2,
    0x8ca9b88140f51524,0x5faeb6a15baf86fc,0xe8767a30845293de,0x954e13e8bb91609c,
    0xe9fdb3d945e30a69,0xa9eea431141e7cbd,0xd93c6243479ecbcf,0xecc8363ff92a4041,
    0x340229009cbdf013,0x3e0c430de7ed9b79,0x5bbfcb81caf29994,0x2d428c6f64278eaf,
    0x76c7ce8de6ac77ff,0x193ba01db2d89244,0x573a0646beec01e3,0x9c1ade723716641b,
    0x1f798d53c4f77287,0x412953c36930d9e3,0xdfcd50c5c1d80497,0xb2217ef6fa41fb93,
    0x97a04a7724e7b5da,0xd709dc739c5e93cb,0xb5dfbcf88d38c843,0xfb5153e0ce7cf3a2,
    0x4f7b2324cfa9ab07,0xb3f11bdef5fdc633,0xd12c12e9f5efb870,0x7af6ddec6d18ab02,
    0x55ed240b4999f264,0x32f5b43e1c99acc9,0xddc63eecddd915eb,0x304e6e352e694813,
    0x8af5396c85c723e9,0x1f973baa9aa78171,0x122c6eae915d5c35,0x3c3950b17b79bdad,
    0x5e38775f76834763,0xb01dacb57c4906ae,0xb494bb7ea186a8b0,0xb99b7362209110db,
    0xacaee11dba958f2b,0x252c3490039dd8ba,0x096868e27350eb3d,0x1ef57b1ffb961331,
    0x43b9e0339d9c13f0,0x8598f8bdfaede849,0x0eee47f99ecabd30,0xd45b7980d1a9e441,
    0x3717d6e23c18abeb,0xd59dcd190725d62a,0xd1ded2f844baa944,0x803c7a2ccf961cda,
    0x6a439bf0e29bfa78,0xed7c443c2a6721cd,0x6b1acf169c4b4409,0x83fb5040a796e928],
   [0x9c762ef1943e832a,0x07e50ab01786df70,0x90f573a82589f18e,0x0d2bf28ba7c2a51a,
    0x48263af15b20d37c,0x27ec9db960551446,0x7087a10a94b4e7ed,0x0cac3f4313bd00ac,
    0xfe43bd70a38305bd,0x0b63f06c8f9b6856,0xfbe9218bf89db761,0x84feedc3620ebad8,
    0xfff41ff86073bba9,0x2568e12ddb32c53b,0x4a3f5b5c17da3948,0xf199bbd5a9c7c165,
    0x61eac4bc112c9666,0x1cf8c6c365ffcdf3,0xfd9bcc35b7d9531b,0x34e5e85eb967f82c,
    0xb5a1853c992a3666,0x0f47ed63c1e3a526,0x82846575ccbc4633,0xc0ce68313221a36b,
    0x582554a2a1faaf83,0x3c399f34f03e03f0,0x21501871dfd7fdeb,0x5d890886cb475bd4,
    0x498413ff2ce31fba,0x755b7179214633d2,0x46b14def6cb0616d,0x970938bd84a2f69a,
    0xc1652be351209502,0x5941720025d92665,0xa6c493ef0919e154,0x727362cc59f4d863,
    0xc677d1d3d7042b0d,0xa18d37f9bb2760bb,0x9f100b8c2ce91d20,0x17b0f4229babab58,
    0xc5fa15ba3f891521,0x2065a28c35a2d166,0x2ef73d190a70593b,0xb5afd1574fd7a904,
    0xaace31c0f0d1acf2,0xbdd4f9934e541d61,0x71c573a608e6388f,0x7955a0ac880179cb,
    0x455e7928a447f959,0xf947daba8271d368,0x973a14c4bb49eee9,0xa0c3f260054a6cec,
    0xb039d248968b671f,0xb1b5540258d272c9,0x382f8c10cb628208,0x508c73090e4b2c4f,
    0x0604c5b8bdff8874,0x1bc3cafc1640d35e,0xf5d74845410e1629,0xa6e1c5814699e69c,
    0x1885d8ef93076daf,0xb789999f3812b214,0x24b1e0a9ef5a2efd,0x0c25ae34dfa827e6,
    0x021f9f025b37e1d3,0x10761be13ce4de23,0x40cb433be415fd04,0x7e81b231f795ca7a,
    0x3f5fca264155681a,0x4ec84bf2b1c2e0e0,0x125e896cee6c7c4e,0xf3855a1b0e9bed13,
    0x44ed88dfeaf0a062,0x6002de365f76d2a9,0x923729be3dac09e2,0x67e3d9a5c6f539c6,
    0x392cb84a785188cf,0xd54a03d5ca72746e,0xc604bcefb6abe481,0xad17fe9d1670dd21,
    0xc497715f56c051a0,0xdcdf29246f5b3e6d,0x4a36d8e6db0f2abd,0x8035e21c7d8026d8,
    0x601ebb2fb2d0dd12,0xb3e7dc63098b6235,0x375dbe6837bdd318,0x0b8810a44b7a2bef,
    0xb60914e6301ef90b,0xf11fee4341da301b,0x3935ab93e753a748,0x9fbf99b277da3d93,
    0x03f839472c9df49f,0x4973193c0a90c384,0xb259a27cc432519e,0x806a00260128ca94,
    0xce00c309ff12c69e,0xafe5aef589651963,0x06baf0010204fcec,0x196908dfd618a533,
    0x8d3319041d114831,0xb6b2e3371ffb886b,0x0bee1deadd21054e,0x3f65bf6b2f916e04,
    0xd6d940287ca2eb91,0xd0260c1d29be35e3,0xf19d2afe08b90c48,0x18845229180712b0,
    0x6a917d4a0f091533,0x0fdf00a69598d38c,0xb122be6c54ed1a9f,0xd535a17d0f51d9ca,
    0xe498e01fcb89c5ed,0x77b530cf797a78c7,0x46e6e1d210ad0f35,0xdb77fceb8961a2af,
    0x59ff1c7eed25b46e,0x1f16c7ab68899afa,0xecf339be4c99ad41,0x7fd1dc3871cee5ce]]

def combBlocks40 : List (List Nat) :=
  [[0xaee9c75df7f82f2a,0x9e4c35874afdf43a,0xf5622df437371326,0x8a535f566ec73617,
    0xc5f9a0ac223094b7,0xcde533864c8c7669,0x37e02819085a92bf,0x0455c08468b08bd7,
    0xe8b043c401cd7f36,0x5799c8f19419149b,0xd36e2c6048bdfa17,0x4eafa17a88814d84,
    0xc778c64a0b2d1c43,0x5036a58cad4543d2,0xee45531527efc47b,0xa47974d851ec201f,
    0xfb14f217ab348fa0,0xe0fe2459051541dd,0xc2a223236c24b4bc,0x86eac93dddeb882d,
    0x4ee380954da51cee,0x6c26d96351cfee8a,0x5a436f9e8d6f4671,0x948f3853cbbc4d8d,
    0xcc319d54b96214fb,0x71dc987a8febc765,0xcda9e496cdf1c589,0xc6122fc44fbfdb25,
    0x3702bd8fb7adfff7,0x08a6e48c1e271f8a,0x9031c9868877f91f,0xea205bec8343ac41,
    0x7af41ffc99222c03,0x948ce77e87e5e103,0x3f5e7d784859f407,0x8bf09ebaf9fb3aae,
    0xa145f742ea72bb54,0x9c9ec0e1de20e1d4,0x3b48b1dbe7e5ba30,0x509cbaafe2e27a73,
    0x1686977a8d215bfd,0x8be074267f1462b7,0x85b6220ea2d65d24,0x8b4fcebe1f52629e,
    0x06eaf00a475ec26b,0xf9d502d09d21add6,0xf96fb1cada9254ff,0x1f3307a9a822157e,
    0xb453a2c1d1ae9300,0x5e1c470475c48280,0x19130bada2f3735b,0xe85e2dcbb7e70fc6,
    0x72a0dfdd1546e25e,0xdeb7e185df8c31bb,0xc7ba7b5b823c2707,0x451aafa6d51ce0bf,
    0xe97be9ed0e9d6b84,0x6f4fffddee86b987,0x24b4042c13019fda,0xb6d94022c1812137,
    0xe1bcaa0fbca7cb21,0xc23273eaec4f382a,0x8634478884d77ad3,0x93ff3f4162928723,
    0x2525d55605260cb8,0x836f4a80ceb2152f,0xa3f027da1ba7dbf6,0x3f5fb0f228c92f82,
    0x72fb4b441852c964,0xfa3e8751fc5ec332,0x0e38de15366783f2,0xc55834dada499987,
    0xec11fc70323ba10e,0xe0d54ada7c4c386a,0xd92ffc6aad7e567e,0xc453bfc7281cf5c4,
    0xf2c263a396ee110a,0x67adb73ebb9e9ba2,0x2df5245c3fe776ca,0xe6fa24418b36635d,
    0x4aa44442da1cd60f,0x9f9698a9cc3092ea,0x57aed074b4da002b,0x33685622b18d9996,
    0x4bf737650fd57d67,0x5fef5a4cbc50b8b2,0xba858c00dea7af17,0xd42f509ef1247cd9,
    0x6b96e60ec43e4011,0x657fe995ddbb2e9d,0x8622f79df3c7d730,0x4c302e77f4602e9d,
    0x991210b65c5d5b0b,0x8349cd4299a3fe76,0xc335017a576b9579,0x776bc24768d62940,
    0xf053b6ebb7576342,0x5b2c88833999222a,0xf7d0f9d8960979d9,0x4813eb5c08f00080,
    0x64c155eb97376316,0xca2dc67d506a904f,0xf66016848e33524a,0x00043fd4233a4240,
    0x7b65e413a304e88c,0x3173b811bb7f88c6,0x3754cc46fe2bb908,0x871257a6d8fcb31c,
    0x31b8b859f97623c5,0xcee324d7b43c076c,0x2856cdf59cb86527,0x10c8e34819baff2a,
    0x9f67171dff69b2be,0xba41f74edc1111c0,0xf1322dbbae386e56,0x80c3f1f9a5ae997a,
    0x8904b97c4102d2f5,0xf14b74b35cb7a8bf,0x2980e2765b1d5a9b,0x0a932140a009de85],
   [0x9c837f4fe476c81d,0xb7a3030e99e53d5e,0x9af7cd273da8a366,0xad6090dfdcb41a01,
    0x818abc84ee6705dd,0x393fdc364f3048df,0xaccd75c2cc5bd8a8,0x77b5d1dd48f4c91e,
    0xad180dc0caed764b,0x227f1d7586bd4cb5,0x2626f6ca66f6a11f,0x7e4573da81bc84dc,
    0x9c83115f17c2f2f7,0x2fedf3c7d11e7fb4,0xf1bb9fc93651b20b,0x8cbbeffd96069f25,
    0x0a24737ce2725490,0x4ac3240623cb5990,0xa2adaa533b09863c,0xd90b45bb71ad697c,
    0xb0f84f84afeb1299,0x0cdc07bff3c466cc,0x09d8b5687378cbd8,0x3326928ec1bb350f,
    0xb5252b56c3f0e03e,0x1a9c655f50187a3d,0x7977aac8fc30c25f,0xaf13583cbf65021f,
    0xbb2f5bfc575ccb22,0xca20edffa3e1dc84,0xdbf60be46d83d6f8,0xf8fe31f81a9b57b3,
    0xa76b3a657e933668,0xfb02d84cf86babf0,0xac05393afa1f06be,0xac25921731213fc7,
    0x16e77f6732776fb5,0x6f864189c69e1e7a,0x850ec13eebd8ed7c,0x6c79a03870dba8ba,
    0x560b276cb62ca483,0xc3677bfd6dc6cee6,0x9cd9c99c12311daf,0xd32a0d2c402577af,
    0x4959a5ddfa435b18,0x6d4c582b760d3d17,0x73a262470597d0d9,0x0d17d4ad78a74b30,
    0x9a617c12128de7e3,0x86842ac3abea996d,0x87320fbda7b431bf,0x7bc3374ae979f3a8,
    0x67a0b32eae6e5e29,0x55f2db39b4c0ccf0,0xe00c77ae6e4bacbd,0xb431f02460854e5d,
    0x142fbc118fc3fcb9,0xb2a3a6939881b969,0x28e91651abe7add0,0xda2535f6cda744d6,
    0x78086193902a869f,0xed8df5246a0960d9,0x24454c68510dcdd3,0xe756083c27486df2,
    0x4acb2323835e057d,0x29cf10daf6d89a5b,0x68bc872fc3411193,0xbf9c149453ae02b2,
    0x6f564b282da20fea,0x440b9e181c5c479b,0xf385313f05c7a542,0x92acb89f25f23be0,
    0xf427a5acd29d4728,0x64f93343e10c9845,0x231f27aa78a00b5a,0xaf9b693139850548,
    0x8f765c8f40f23d2c,0x31c02fa3f0ffc37d,0x62da43171b28c662,0x6ba7497f4ef28276,
    0xd2acd7c2021d6584,0xf2705d6443b3d9e5,0x96e97da35adf014e,0x55bf0839b5784f8a,
    0x0d564f428ed744ea,0x089e14202ae5a5a8,0x27acbf6ba8bc7dcf,0x3d980733e4b61ccf,
    0x389f54f13282e42e,0x2adf34fb31fa1ab6,0x6691f0403b650381,0x4e99a32a4e4acee8,
    0x229b297ff15da3fc,0xdd899a3675916797,0x8d3f09f2eb7485d1,0x430039527356c74e,
    0xdd69df6e41068c5e,0x2a45ee6e4be573d0,0x9f2ae14e7815d487,0xfcf24e1653378d51,
    0x761f453f27c19d75,0xe9176a4b2814855b,0x5c675e21b592e7ae,0x186bb0e5336fffe3,
    0xff3082d81974671f,0xb54988a09e08b511,0x9ded0d075b4488f3,0x0dca86cf66d2c78e,
    0x73c17c649aec3a03,0xa4980aabf46b6d4b,0x0be305243be34a80,0x56750dc1225020e0,
    0x8b7d95f0620da860,0x843451aa4849d100,0xa1fdb65343d91f2f,0x7bc280d02f5167ec,
    0xbe29104107aac76d,0xf2e19a2fdcc1632e,0xe2626bfa705ee6e0,0xb33f6d77bbbd31e5],
   [0xa52f2c3693c4a205,0xde1adf89f510a848,0xe466557075b929fc,0xb6e06c516305bbc4,
    0x537f4d865db36d05,0x63f99419a82a9f87,0xc5e1f126e79ed73b,0xbdb4277c21b323f5,
    0x29f315f9fcdcfc44,0xaf3674c6d797eb13,0xe55703a07bee1e8d,0xa61727a4f5f8ddbf,
    0x93b82a7f0ef3d60e,0xc1b9010462f080f3,0xde692d5a2bbae158,0x03fd9e4f9b02696a,
    0x92f821f6f9e27907,0x771ad4b388d9e4d6,0x6b395d5d6fdfbd68,0x0ed9e43f84241c4e,
    0xf13f4f506e78c4fb,0xe9151cfeb8ba1905,0xf5bc0fd8eb120e0c,0xb5af874aff6b2347,
    0x93fa154a553faea4,0x324a7181c96b10c8,0x8c89f34b7cbf6a9e,0x27708f23e8bdb74f,
    0xb21ade75d0802d2f,0xfc6d68b3d1965bd1,0x300225d66cc2c973,0x575f186149caa4a4,
    0x36d0572535b38f54,0x2e2a860e5caf07ce,0xc55268db48fee1f9,0x57a7e410076d8f7d,
    0x5fa781e6245f2809,0xdfd76e39a907eba7,0x194c8a23bc82dd21,0xfd7f0f03c8ecad24,
    0xa8c081b7a0f69001,0xcfc99d57b30c8656,0x57dd0cd934b55a4f,0x2ed8369aae243bf7,
    0x616ca32a2dba519e,0x9e3959c55a9244f9,0xf38a5dbab4fdd7de,0x8d916d516a90f28a,
    0x46febbf9a7a79593,0x347a7249d25c4979,0xf52d9b258cca5cf3,0x24799ae2f3ef5dbe,
    0xd6388d75d0920d55,0x9994361f9beb1398,0x32c3d1a9d363e300,0x9436b5262ec87b7b,
    0x7fb5bf4597445fb2,0xb0844aecb2da6510,0x09bfe97cab77ae6c,0x7cee417faa66dc61,
    0x4fffcd61a8223a26,0xa667e8569ed0e31f,0x96d871e7f9cf0bb3,0x3040efebe1e5b9f5,
    0x60216eb50bf5abdc,0x456cd3afbd0b6506,0xed3111cb080d5d60,0xf15017c6884c7026,
    0xb75de2b8adef85b7,0xcbdc675c27b85584,0xecd8341e3fc5e232,0xdea7ef1c2c5f02a8,
    0x37e96dc1176701f6,0x5f9ab4e94444bcb1,0x1da49d4efdc21668,0x9c85a7df8eb3edd8,
    0x4d817802f1bb52d2,0xaf7a7b000bc3f2ec,0xb00356dfecdfc66a,0xe2625f6813bb92b4,
    0x69f252b1fe78e9b1,0x8978e6dc4ec141e8,0x6e0f831f7512dfcc,0xe196e20f89b4beaa,
    0x4417561fca77eed7,0x908d0112beed35f4,0x2a6408be76b2ed9a,0xa5d66d85f81a85a6,
    0x2f2ff3673c5e24db,0x1c66e06d8f71f05c,0x05dfd1ed91c998fa,0x9be2a2f68fad9f22,
    0xa9fc9c9155e4795e,0x55960afcd16762b6,0x5a6cff1c32895908,0x01362fa0b6e4f8c1,
    0x76ee33e57b1cb64b,0xd609e525618ac3d5,0xf397fcd71539ed14,0x7779f5de6c1b0302,
    0xd8e18d1cbaba3aab,0xe2a829423caa9533,0xadfab134a7a2e3fa,0x09a8423f474c3ebe,
    0x63cac4af02e34dd9,0x7f78e95026917ba0,0x3e1397278149a0c5,0x338fdda9d0f38cc8,
    0x51f7c7ea954d31ac,0x1054cde1654a9d27,0x03385e79e65ecd33,0x8f8fa4f59f5972c2,
    0x3ed8587691d1b492,0xdfa0618c2019a6f5,0x1e5f6d9aaeb28ce8,0x8605b94be423a2f1,
    0x571d77bf78ac6598,0xee23526d481e925c,0xf3ef6e0c2143d1a8,0xa8e561287de75758],
   [0x3cd5f4e4a9aa52df,0x18c452b1b42a627f,0x6dbc4189d991ece6,0x45a511c97f608bf7,
    0x7b52bd12125ec16c,0x5a919b27d22955ce,0x3fe3337fcb625ad2,0x73be0ec773ea9b6d,
    0x13cc521bf003e44a,0x020688b6b3a0e5f2,0x2bf7ca0444ab1b75,0x4cd2a0bab6ace28a,
    0x4993eca97b19c38d,0xbde2e7d1c97ea5d6,0x6d1310756218d126,0x6adf08c371d22405,
    0x656753efae75bc7f,0x95c7170db6f7fb1f,0x8ef40f1217cd4c7b,0x0b57ac4fe72b9343,
    0x04f172dd0972e9a9,0xb1f96c0e4049fc62,0xf28c34cfa57e94fa,0xceedbf8277a9f3b5,
    0x7ad039a2f521ba40,0xedc4e459a0829db2,0x323357a021c84544,0x7451fe377b24776b,
    0xd0a61cd3e518dcf9,0x36b09eb9985d5439,0xd69002198464eade,0x16396435fcc70940,
    0x137433cf833125ff,0x354557b05a5a8142,0xcf4682d9ca1cae99,0x1178b3fb6e4bd148,
    0xe80f9709d8486abd,0x0dc8adcd08e54d1b,0x382de637ea310ed1,0xdfd697ea9babd95b,
    0x82155e1da2152bdf,0x008cb862fae80192,0x1589068f2acf1870,0xc31f323d127261f9,
    0xedc121b6ccd2022d,0xbfc9c1be1030637d,0x9ec96dfd936414f1,0x2689dd48abbe7580,
    0x3b3695ccf662d955,0x8444d685b48ce44f,0xf8a83b7e8d275693,0x8ac7a0826f94e907,
    0xbc6a2dbe646b3dae,0xe3f481c5bd6c138d,0xc9d7e5234cb59ad9,0xc80f40920f33231c,
    0x6c47a8cbab3f4576,0xe9d08bab256a1904,0x24a33a3bb84ef35e,0x058fdc0dfe5dcaa3,
    0x3a45e3e1a0110e9e,0x1e80139260757759,0xc3df9b4606b8871e,0x90ee3b9e9ea9e0e7,
    0x7cd879ade88803e5,0xcc1ab7ce0d3465cb,0x1ab7fa8700569e02,0xc0f48b2859ddf211,
    0xa6932202876619ee,0x932e4e070b828edb,0x9c9a64727e60d7d3,0x3d4326b6f883ca36,
    0xa2e1d75449e23fe9,0x6101a11756076ed3,0x881e580ce503ba50,0x8d03e705c0bc475a,
    0x9d3c68a567b4d038,0x6601f1086eb5b633,0xdb7c876cfb9453c5,0x6fa65113c3ff4a09,
    0xa96d67099e1f515c,0xe2b48a32216539af,0xa019c8e10ff7b8c0,0x2ce8700f0351766d,
    0x95193649852eed6e,0xa7a9dcd3e2c3d52c,0xbacb2f42f7ef5d2c,0x73879f4f3b5ec4a7,
    0x043d95a53eaa99aa,0xf5ef01ba2fc2e5f0,0xa152c3a612fecd63,0x0a9c1e53ec28889b,
    0xaa396b087e003bde,0x7ea6d315a2b8c8f7,0xf161d8990a6b8fd1,0xd731b36622fd601a,
    0x45aa3775e4dcf274,0x807200682cacea24,0x145e1bb0fd7cca1d,0xfac44261dcb7c109,
    0x63698600f12f0472,0x732027c6274594b1,0x7cc723d5d4ee97bd,0x9713fdc61566a8a8,
    0x2410978c33dbfec6,0x4435de4e901f72dd,0x187025ddf8e690a8,0x9fb68ebe1b8a3c0b,
    0x3a92902ec95d4948,0xc715ac677de20383,0x1feca8ef55d4709a,0xcdc87fcbb7891dc9,
    0x2b5e4b6abdc39d21,0x68373ebd409adc68,0x46591e43a1992813,0xf891e6165b403e00,
    0xd5908e17c5ca579f,0x73a97ec4f5460254,0x18aeb8a8e2dbc43b,0x129f53b12bbdfced],
   [0x28cf1ab99076f57b,0x030b86e3cecac607,0xb927e3501cf2a53f,0x20e118564880c79c,
    0x8583bedbada7afe6,0x9fe0dc9b40e1b71e,0x31bdc3e3fb6de997,0xff67b352ac437ef7,
    0x9e849544d4c20855,0x62df6c0f0ba0405b,0x3fefe10d9289d72b,0x4eed0b4dfbb5c307,
    0x4c087a3f8bdffd1f,0x1136ccd32d34fe3f,0x1941d3287fc115c8,0xace0fb288a56693a,
    0x849e3aed4b661da4,0x940a51ac64a84a5c,0x8f7c7fd903061a21,0xffca2a5bb86606ce,
    0x8984835eaf9b8a5a,0x478f87ade5687f6f,0xa53cc9a148f46c8c,0xce1cb0e32b71cdc8,
    0x83d637e60524722b,0xfeb99f12e6a12de7,0x0a45b1168ed12d20,0x42e0437c7aca84f7,
    0x766939c81fea76c6,0xdbea2a6daf54265a,0xbafd84ccc9b4ea3e,0x2de1da0901d920ee,
    0x3cac1e139c8cfd22,0x4e2b0671b636be58,0x636535150dad354a,0xff209cedffc116ab,
    0x2389b14e93bc5535,0x0d4f4b92c9684b94,0x207d41d24ccff1c8,0xad79f397469d0f7e,
    0xc4ad7478ecdc9426,0x0e411d07935382a4,0x9025f8240670dfde,0xb30ddefbc268d865,
    0xf33e104b29c7275e,0x5b93309caec0238f,0x4ab3871bc983d48b,0x7dbf4fd5c014c153,
    0xe807e5858f4e983e,0x6d9e6ec87017f77c,0x58604080d33b4b15,0x33d5f02d0b079ba9,
    0x6d70db8791ea37a9,0x7a71aa9259630c95,0x73c3d61655bba1eb,0x01eb5a76d39c4784,
    0xc6f24fc37bcec904,0x49a7cbf2445cc228,0xc499ea8fc2ef48c9,0x070d96ccc51afb00,
    0xf62f4db2a3ab316f,0x53bdec7b34681bac,0xfc61582d55f0e977,0x9b915ef5ff0abc21,
    0xb695a79f61e52a73,0xd0e3116c9705a1bc,0xa9e974d9adbb5e65,0x8f1bd23da6261690,
    0x57da1451ebea8f2e,0x590502e64b1850a8,0xb8769e430743eade,0x4c7a8f6393ada8b8,
    0xb99a48999b3ac988,0x422a103d58fb12ca,0x90f30cff81cf63f0,0x7a8222ef9e8bb711,
    0x3030280dc665b755,0x881ff21f1a211557,0x0e7bff3acdbd84f2,0xd24a183e19ea8e1a,
    0x5842fec2fd2bc078,0xc4a0760529f3ef5a,0xee6298b7dad880ae,0x963bc9fef7b637f3,
    0x7ddb231f5afb8657,0xc5ec0428f443a3c2,0x80a3e5092980a4f1,0x7ed3383fcd1e7622,
    0xfa281f3fa8a4d326,0xd1ae0c830c4719f5,0x8b8bcd87e4a8d86c,0xe9a4d09a8dc935ec,
    0xe6a8c7887d9ddab1,0x618eff0672aac13f,0x5edd81c41e336f77,0x89b4e59ec839f9c0,
    0x6871e76eafb608ad,0x74805654d88fd93a,0xe631addcb7c8bc49,0x89fe6dad861da844,
    0x601406e7864d4dad,0xaea9d513e0f0a87b,0x87b57dffb725df39,0x2898278231f4e8fc,
    0xe4f5f21825b6e7fa,0x3c72e26a6e9500fc,0x5ecdab57b08bdb17,0xeb150e2e8d4e7c3e,
    0xf7135ca79c00dd1f,0xd2013cd9c6155901,0xf2006d1494c959d6,0xef367c87de05b875,
    0x0718981b19ae4a29,0xdf2fda6ea2232a0b,0x510d7ac4e1166984,0xc348047f3bd79759,
    0x34959ac4ceb09235,0x8422e99f0549aebf,0x13da8dd20e0dae9a,0x584781f2056a1c56],
   [0xdd1452e899273a8f,0x3fdd478e694fd54a,0x0318ec7fdfd7dac9,0x5c9cc4f8723a027b,
    0xaddaca695ce80d6e,0x4f003675a11acab5,0xa827589d3708af96,0x84efe07a1dfed259,
    0x0f2e4327bcfc91de,0x8bd467275c0f80d4,0xa824a072e4c20a4b,0x0e3ea757deb82767,
    0x145e8c5df582f54c,0xbfaf0850149c5383,0x23f2abf6056aaab3,0x13f2bf92ffae2156,
    0x8c8c98544883e382,0xd0604fcef55536f3,0x5be2403952007431,0x5ac8e192bbdfd85c,
    0x51373d9bddfeaadc,0xde76eca13d4d9d2e,0x39c8fff2f0963976,0xfcb7e5004c7a8c80,
    0xc5f483aaa556ed7a,0xf6bada2932f50e57,0x154a04034f63c34a,0x9a6cabe1f8c78b4f,
    0x2521483ea054a72e,0xfeb87eafd1220716,0x1de544fb7d555740,0xed9f5029fad50045,
    0xbca43077ef01a3e8,0xc6eb65432e48094e,0x2d515d44e0d67362,0x99dc0698b7912118,
    0x528645fe40f61114,0xb7a67034d7f8f294,0x697ac71171d80044,0x67c69cdd23b982bc,
    0xe73b8ec1fc74d145,0xb9c96bd28139b2bc,0xa5ddb4e150cb2609,0x9cd44dc242811d04,
    0x5c6c406240d456f7,0x3339b8fbfe816e5d,0x045ad0badd8443a3,0x86adcadafc464e33,
    0x383f7b004cd535ab,0x7724d883e8764dc3,0x44024357cfcfb9f3,0xabe2f3618e040616,
    0x90711b34517b9c1a,0x7fde7a18c3ac8dd9,0xde0dbf2b202df795,0x4f02d64cb755b293,
    0xbcc2887a735a8087,0xf318de811d6a8871,0xd880f08099a2e4dc,0xed19a56a1b59cf5c,
    0xe56ca0873a9fe557,0xa98cfd5aae96da46,0x30254512ab54afe1,0xcfbe683e6c3b56b6,
    0xdb4b66b36909970c,0x4518dba599e6e4e0,0x37c6fb1f77e6099e,0x227cd0d78c39e721,
    0x285a4ae31f809727,0xa210ec3f7eb99ec4,0x87d6c8741cff5def,0x2225e771c819391d,
    0xbc64dbab7e6325f2,0xa68a7f0cdf05d32a,0xaa73845640c50eaf,0x7318f2cc7ac20e1a,
    0x726271efb0013899,0x2ff956ece9fd3f10,0x0d2b1bd53182a770,0x65746b8246e7281c,
    0xcd9adfc989e65b59,0x7a41022f7d44ff77,0x827ee930a8cd053b,0x363146820aedc5b6,
    0xc80a164269b4c2cf,0xc143c903b5c5b6e9,0x8e8278f920227fc1,0x1d87db6217897292,
    0xbbcd5a4df85fa6cc,0x83befeeffa594c92,0xa8b9841059328be6,0x4a247bce25c45963,
    0x53337b0f8e2bc2d7,0x2cd38dc8ef4d6467,0x0c92b3080f221cdd,0x8b4487f1d473b4f3,
    0x017b158bcd4c2506,0x5b6c5dc7f19e9faf,0xe74a68ce189d1fec,0xf65ed6b6686b18a3,
    0xcc52dc253913dfac,0x4128efc34cd6542b,0x5255dc2fd376e7bd,0xd6d0bc68328baae8,
    0x59544a87aece4a11,0xeada9af5476a97e1,0x7de4bd6144abc201,0x87d600fd202009c1,
    0xd019658f9a4d4876,0x5cabb39652a3bc0d,0x8dd72d4431473f9e,0xf2d9fac94931e5e5,
    0x81e4f9753b47a80b,0xff97c5a664249757,0x29dd9c276fabdba8,0x66a0defa11f61357,
    0x0f7195f8ff795e8b,0xc230a428526edd20,0xcad8df2561aef474,0x3e24aa6de37aca41],
   [0xe7dd9ab328523eb3,0x351a3a75556c6c4a,0x46ac18444f3dcde3,0xbaffd4ebf8a8b5ab,
    0x1978300cd5acf387,0x24511ccfbf48b6ee,0x003a8eb3795ac09c,0x0fa93dc5dbc95e83,
    0xae03ad0f9d2157ff,0xe9817b137d07f1ee,0x751a418ae4eb8eee,0xcafb6c8657874a09,
    0x16cec08173ce8988,0x9c6ab445913b9e0e,0x01a1cbb99ab4e2e0,0x2adafb1ed5c5c67a,
    0xd0099b4ef4737641,0x1afac0c166c2e13a,0x7778b51236563fb7,0x91b44522441c89ed,
    0xf2512b29e101bbe0,0xc9d7dc666e077d03,0x2c13235ab02fb428,0x3f4463bd37fda976,
    0x4700eb8ce51b2cf9,0x37d28a48a4bf795c,0x9a879a27cf8ea9a3,0x894890b2fad37ccb,
    0x0d187ac835979d3b,0x498e7116a3bc2ecb,0x88a0abfdfd48e438,0xd46800ff7c5b3011,
    0xc6a2bab826dd01df,0x743eff76538fefb9,0xa37ea6c7c8689165,0x296d135de82db07a,
    0x4950d320aa3a0dc8,0xdffaf618e5e66f60,0x2b87129776c777ca,0x14054edd92e145e4,
    0x427abb1ccfe63974,0xd15f33ed2466a2df,0xb7c5e38255f2bdc5,0x9b46d393ab8e7935,
    0xabedd0a2fcfb2502,0xbf7eed5ff5415950,0x0554f01e26b9c5d6,0xf3ccefe1918b71a2,
    0xc67e6f06d650f5dd,0x54ffe1242191b2c8,0x8f13c2f1f19e4a96,0x4b0942f391367a31,
    0xc2ea5bcc7aeddc6d,0x023c6782e4e73a62,0xe055c1015613c25f,0x7432aaa6366cabc0,
    0xbcff60267e460d62,0xa26e2a1e94139936,0xa1697678f8b8c55b,0x463d8e29e481aacd,
    0x226650888c11217f,0x8f9eac14da469b0a,0xf1fd6c6724f85296,0x400f734b7ae2a66e,
    0x7a375e8f04e4a96f,0x188862b435655b14,0x833edb8fc4d2e4af,0x036377a62fecc11a,
    0x8bafb7e051e08cdb,0x84098c2143091326,0x8d930c5578546263,0xa1de191d354fdf83,
    0x289d10a1d758ddca,0x7b75ff75817d1ee6,0x1dc6ac386974adfb,0x65ed3e3318fca1ff,
    0x55c81f702574bbab,0xad540a47e7503800,0x53e5b3e2c50170db,0xa0af48f26663b83e,
    0x141fd3e1679b5a59,0xc621e89eb269e62a,0xbcbbed5709d83251,0xa1041af730f5e162,
    0xd8d2b4022c5514a3,0xfb30690e1eac66d9,0x422650d873bc2afb,0xad42176aa8f58b19,
    0x85f694280f703588,0xab6187b010f996c8,0x8366893255833b9e,0xdbbd8f0c432db2ac,
    0x66dc602dae9e6efc,0x9fb66f2b251d8a28,0xb5faf53dcfe82b72,0x1dfa800172bdf452,
    0xeae8db06cddd597b,0xd8893170cc85758d,0x03371ad0f9e92007,0xda2167ad0b1e5647,
    0x2681727e3de7fa04,0xcdde2a52144f9f46,0x1ff6700ea798ebf6,0xa21992b62546ed36,
    0x67a40ad1d98b4cd9,0x90cfce38b355f320,0xcefd61b7ed7b5c63,0xbbc1dfe363857973,
    0x30f0ab4a081c5f2a,0x4d091e6872f5b002,0x97e6ebc2a186bc8d,0x2fbe210034c2e5c8,
    0x9934a222b3f7dbb0,0xf4ee23dc26bf29c0,0xbc863b872164f29d,0x1c3fdbc237f6c678,
    0xd64cbdc972e16d32,0x1f0646380020f8ad,0xf0aea5394a4b18d4,0x39260f1037929813],
   [0x835208d8ba111101,0x479f0b1a76db3c5f,0xed22a34d257e4c96,0x06ad2a098fced766,
    0xc1a7ba9d5fb37ef4,0xde429d82b70e89ae,0x59a4c01bb9eb62a0,0x2d5b8b1c58f85e35,
    0x2b1f0bd0f65bb830,0x08fe3cda3b36a5dc,0xeb9acb6ebfe5941a,0xf657e9015f9855a5,
    0xc3b9a74d87b193fb,0xc2abba9cf2c8e35a,0x6dc83cd25da0e7ff,0x8077a8bb3bcaac49,
    0x76fc3847702bef6f,0xbbae4f184531ee43,0x04f78bd66bd8d475,0xf1a2ca556c3bcd72,
    0x11b2d1fd8f6c1ca3,0xb0b47ea81fd52b40,0xdf455417dc020168,0xb39b59af0488313e,
    0xdb47ffceeb3fa150,0x855719520ec5a6e7,0xf0ef002c94979625,0xe46eabc9f8e2f20c,
    0xb934894c4a0b139f,0x50f68cc24c227e4b,0xadb002810c09fc3a,0x2532cfc894c18963,
    0x806028fca0455367,0xe6c4f2c824d613e0,0xee1901658ebf1851,0xe924ad49fe3b8030,
    0x5fd18cf828257e92,0x52da31aa4fa6752b,0x752085393d6fbb6f,0xfcc97d979a143ed5,
    0xe0f0bcea876ab854,0xa0acb88e2294af94,0xdfcb04e096395097,0x38136959c7525f69,
    0xf615b5aadfef276b,0x5aa59636de810fe6,0x39e0257cfac06a9e,0x20136ac6a0b18411,
    0xe91f093942f8f1e7,0x8dd4aa5d4dd1f9e2,0xa00b935105fb22f6,0xf49d9c7dc5f7026f,
    0x92228ab1914d9972,0x01b0013c4e4d7a83,0x6ae5d3b3b994f679,0xf5585d4203e3acae,
    0x7724967e5833c4be,0xe06a970759acdc14,0x14bb5af4516750f0,0x107a4485aa07fe2e,
    0x6566ec48c87c80dc,0x4d3a4fc91d760c4a,0x813794ec48e68007,0x6ea22142b8e4d7cd,
    0x7b3a9677fb219a79,0x5c4cd4417e9827a7,0xb0e3c355755189e6,0x28b04d03e46a9d48,
    0xf8bf7cd9102dbe24,0x86166ccf86004be5,0x59cfe572183e206b,0xf658da9e5a14cf14,
    0x59e7401ea3b1c126,0x85fe50c9767fd95c,0xfb9a11d7d914d222,0x8618e592d6036fe6,
    0x789204cb07684433,0x1b3c5b73377e9aec,0xc3318ec138256e9b,0x3211a2188797809e,
    0xb2822d9c57774af9,0x4c16ba6511460ad8,0xd6850392886aefb5,0x3f4766be7cc1fe93,
    0xf7cd7f64dd4de990,0x1ca94cfdf9b7326f,0x3ab178906e6e5f51,0xcc810dd6a7331cba,
    0xe9d749fa0c2c179f,0xa178aeddef98026e,0x935ee6a977b1486e,0x9b9692b014d724fc,
    0x60a1c2357614fcb3,0xb246c044118849d2,0xbf262ae1e166e909,0x4c935caf2fa8d161,
    0x78419f1e48e57705,0x21ceb7fac84d598e,0x1f2adab41d6f3617,0xe3249e02c0f8ee79,
    0x094b19e838caec0c,0x501945d716738422,0xdcb778c1f2486b5a,0xa666658701369507,
    0xd4dc6cd7adbd5d6a,0xa6067cf27df32bdd,0xc7c45723d596a802,0xc9dcdeb8f6b27a1a,
    0xe53282ab633f2165,0x3e54815436800fb5,0xc1335f1607345b22,0xc6a1767dd5f26757,
    0xc78bceafb25b93ac,0x17e202510587f8d2,0xbdf9e7693dfbb4e9,0xa689580bdfb7961c,
    0xea3d1c4d6f589aab,0xfcf1f817d9c4fd3a,0xaa7f2f015f059ff2,0x4657ca94b4f0783e]]

def combBlocks48 : List (List Nat) :=
  [[0x6cf20ffb313728be,0x96439591a3c6b94a,0x2736ff8344315fc5,0xa6d39677a7849276,
    0xf2bab833c357f5f4,0x824a920c2284059b,0x66b8babd2d27ecdf,0x674f84749b0b8816,
    0x1583948c5974bb08,0x75f3b0caaeeadd25,0x4a661caa2d2a1086,0x3f06dcd2ce62e80d,
    0x89655da995083c99,0x831606905e88f53e,0x985807be931d9b2e,0x08bc2550ce1922db,
    0xc054b569cf15d864,0x2406fdc6a1cc8d3c,0xafc8ece7be26cf35,0x07ef66d7c5dedb0d,
    0x54625427740907fe,0x9f470e3b1cce4a8b,0x06d40c5221fd505e,0x2db3325db89de6a5,
    0x1c101b8fd5c7c27c,0xeb3228b94bdc794c,0xe0c05b31527e97b7,0xec61ff29918a1d05,
    0xadf01167d9ddfe51,0xfe3c46c47690233d,0xd0960f82c7759298,0x02fa1d3dc1b257a1,
    0xc695143c17c7c05e,0xb283cb952ce5416a,0x14f3a72f75f28c0b,0x82df4e5fc06dc460,
    0xb9613d02d8fff26b,0xcf15d946842db300,0x275216211217cbd1,0xe4e188c98c96420a,
    0xc23e42e21d7dd05c,0xc54f84d4c1b00e1a,0x69a3fb20e7d116d1,0x5bb18bcdff791761,
    0x56c549f2cb96a309,0x95187587a4d2a416,0xf81b6dd5d7f58215,0x42ad92172dea4874,
    0x80ae1d41540368b0,0x1324c22f8fee949d,0x7d9e5b8d38e47a62,0x261efc9bc12b0c6a,
    0x13ad2559bdeb011f,0x7e340be1e39b5d30,0xfdc8852cd64fff79,0x8a9d2adbe386fce9,
    0xc409332de46e2050,0xf5ac2a3900f5abf0,0x4d6c6698316797e2,0x9a79bfbfe71e347f,
    0x7a3f4781926250d2,0xca94faccb6dfde31,0xb6f671f3b224efa9,0xe98b4de6d316e200,
    0xf1033e9515eb8034,0xf30b335f56e8ca4a,0x49aa7e59d9e7692d,0x6d48dfd77a2c2791,
    0xe873087a5ab0ce30,0x080210ea2a3e8961,0x3d5e79649e054763,0x3cb47245165dd12f,
    0x856ef847d4598089,0x0e867737aa8d3616,0x552f2572bdf5a5ba,0x1f3fa7c10b9878cf,
    0xed4b37c59825d989,0x1de1b2e886e5a500,0xc7cae5b3f6cd1d1e,0x7c27c1d9db7b9e55,
    0xb5143dfc540535c8,0x65f0a5630c8db13e,0xa49123fb4fc54e6f,0x93a5c01e7bb98923,
    0xc49574083d59b844,0x66a16204935bedff,0xc16a84358e15a5c1,0x2d440e904980c2f4,
    0x50ae677014bfc0d8,0x71e2c88697a4800e,0xd2a4b4298373d400,0xfb9198671b7ebb21,
    0x775250f36a805701,0x07e90760d5c244b5,0x041e4e90fe1e9d28,0x17fc6939a5ff362b,
    0xa261a5669e2047ba,0xe54704996bb0f652,0xb35da0e017d67031,0x3fb0b929161272bb,
    0x57fecd4eddb24158,0x6c420ae7717009d3,0xca72621c99666dc8,0x9d467ae68217df94,
    0xa9b77255b15d3ac8,0x871e4ed9d99444ee,0x5686db122ec8ad7f,0xc8817e631bfdb29c,
    0xbf2c496232b9a312,0xf5107bfe96dd8358,0xc293c342158697c4,0xd157cc02d749cfd4,
    0x00bdbdbae2df71c1,0x1c3186beafbb723a,0xd0763ba9de33e438,0xdab09439e08e83d5,
    0xb873484124c3a1e3,0x6e96330ca4b44e3b,0x385ae86f20d20b3d,0x763cbc1e544e1cef],
   [0x6eef62ff4514c6fd,0xfd683b4d0dab013e,0x33d4db5710ff5936,0xac25da80089cf4e0,
    0x60b5397705830541,0x810983e8243bf37a,0x883da9312a1b338c,0xebc69d985cb44c7b,
    0xb456511069962f3c,0xc1e6b5ea71a0d289,0x4aec42b5296bc037,0xb467cd65660c13b8,
    0xf75584cb22877596,0x3cb212df6cbda472,0xbb3f5d2a011664ac,0xdc91b9bc4d36ffea,
    0x81941c7e32fd0e3d,0xe631e4dc5427ad60,0xb4d748671e165547,0xeea7e66c49ba3c8b,
    0x10411f68d91d5868,0x5acbada23019e3cc,0x28843f27be9b7d98,0x83fed45b9f889261,
    0x919b1597b43c7e8d,0x08533abeef2160f4,0x979280de26da6cde,0x92f9a6f93fa37761,
    0x7746055552bf1285,0x7309284ecea31289,0xed41d3a6f5e542df,0xbf618d715147afe8,
    0x119f14f26ccb63b3,0x7ddffe6c44408e5d,0xbad194b35403c67b,0x9a3de2d3e93e21bd,
    0x01c532977df93fcf,0x49c01d9fef582260,0x809f2736ee813c4c,0x2f809b90611112c8,
    0xb5cd34f827d3c9ff,0x7db4ba1f065935fb,0x65fbb469f6e48d44,0x3cc4767a06772486,
    0x3016c53cc5aa7383,0x772241168378473a,0x94f22765e37b7edf,0x557c538d8cd381ad,
    0xe4eca34dd63f1117,0x34896f70ba7f6d8b,0x05100d30123fadaf,0xa7c382f4b53b92db,
    0xc1220c5e1934cb9a,0xae4eb76ed3c4a68c,0x0459f777705dcfb5,0x1b91e5116761bf88,
    0xd79a7081afaefc6a,0xfd7516a5b209d887,0xa1623065bce83b11,0x5ce4fd836044baf3,
    0x38606dfbbf9db9a6,0x4abfbd4ab9e4acce,0x1e31bc1ea832c714,0x61042108aa50f368,
    0x50bc81c5a6774a96,0xe8231fd91838e3e8,0x87143bfc83a6f497,0x555aa998cd861213,
    0x9d40972d86db0e34,0x9a0d5d4bc8e26fa6,0x99d441e71350bbb8,0xb0532868d207bc69,
    0x9bbd7fa90e22477d,0xbbc69e0d4ff63d75,0x3057718fb12db4ee,0xd3e5fc623ebde538,
    0x8191f5c6da5f613d,0xe62d7eccd5fd57d7,0xeee497a64cd139a3,0x7b9cf2b9ddf57fce,
    0x32f7eef3af7dac7d,0x16572b9211241212,0xb58cd78f8d77c369,0x01a42f5b348a7ad7,
    0x27894a318195e46e,0x172af29328cea96b,0x3497f954b8bf9216,0x957a9c3855207781,
    0xb3868678b914b225,0x71cd9ede1d889c4e,0xdbacec2a8cf6eca6,0x84b8cbaf6945c266,
    0xa0a42d0d04b5ea85,0xce62a2bebc8f14ac,0x34d5ac01c492104d,0x40a6eee647c236ff,
    0xe02ba1d4202afc36,0x134deed5143071d3,0x3a5b09ef1b45d3a3,0x4b47f537eb05ce3d,
    0x4e89f76a6f8133ff,0x345acbe9b25fbda3,0x2dcb06fa0e8df573,0xf2fc450399c85f0c,
    0x4bb15c4a67551756,0x4f37060f7513ef50,0xc1a61ba35d6178b6,0x53cafae5df3d6bb0,
    0x52377138a941e0fe,0x1446972c93ffad4b,0xd3718a7b00221a28,0x1b39e92ffe9f693a,
    0xaabf2e3c77d17f68,0x7915a1dfcb8bad86,0xd56516f536ae418f,0x6b3dec9cc524e8ce,
    0xcfae7a20c9232402,0x47f2a96aa6dccb68,0x050981b416cd5d47,0xb8653937fdefd9ef],
   [0x55d4e37a2fd20bae,0x26035672d5b4a811,0x027bba12176d343a,0x285250edc3bcfcd9,
    0xf9de455a54e0ab97,0x6e9b1a2cf1eff323,0x3f7284ad1046c171,0x7866c086f4ad7ea8,
    0xf0f2efdb220ca9a7,0x3840e563817c6662,0xb651d0cc325161c0,0xdbc091d89944b44e,
    0x4d20588316c8e76b,0x6367309fe96192c8,0x2d57926d1e4aa5fc,0x092d80eaae856795,
    0xcc8876aba636a50b,0x5d2ef616abb75196,0x5836fa12fc78baf6,0xf1e3c56545d5a75c,
    0xdf77914eab3128b6,0x6b7fa576d22d7a6e,0x6c736a67f6a5f313,0x12b8847a6e1efce7,
    0xd6be4fd07ef7d72d,0xad3a6dd5f518e8d7,0xb322489c6ee06d88,0x9018baa11e938f23,
    0x1267044fc036ce68,0x4eb56d8002736aeb,0xe8c147f743bf00b7,0xc9c382d871f9c6c9,
    0x517f13214e583340,0xf45c1b6b5d34f3b2,0x6d87cdabfa9b228c,0x584d729c81e134a7,
    0x72f6e5e974fb24b9,0x8f1770a66494c070,0xcd307c593030affa,0x2fdd80a4560d80ab,
    0x08e24680b5182e0f,0x86c0e6eeb2ad008b,0x28a8842dde8ad36c,0xa77f7298d5478dde,
    0xa2b37f28c4b82d57,0x3368ac6e2475b42c,0x0f1e64bbca515f6a,0xfa48a69c911b4fcb,
    0x92c83ede0235809b,0x3c572df0b5eb8173,0x1e2e028dc2383c45,0xbaaeae00c837df7d,
    0xcd61d8a5c154fd62,0x835c3c42a1d2e7e5,0xb4a2307bcb49f299,0x325788833f324b80,
    0x07596c1f536ba602,0xdd2f1e9bff60a8a6,0x63336038135004a3,0xedd513bbfef3fb24,
    0x3b8086f945dbf993,0x61854d442da5dcac,0x7c592ca290f0188b,0x257b598c3bb3f7a9,
    0xf60042c40d612268,0x06cf59df0a5ed016,0x65139efa4394b8b9,0x06c7e46360c2131a,
    0xbcb4b601260166a0,0x238d8a5a782e7098,0x747fc75ce2f453ca,0xcb6ad55df72dd8cd,
    0x8c38d2fa8a4b89b6,0xec2227152243bda3,0x8a5950d20f3e933a,0x7efd4f7497f886cb,
    0x6f90f9762499522c,0x2004f637c692e8df,0x4e0990488b16813b,0x1874de017416a66f,
    0xbd43a35b812fbdc8,0xb89e20caa2c0e2a3,0x5bc2ecc7b711a36d,0x064131deabd6643e,
    0x5d3ff309a9f99380,0x603ae268b1fb020a,0xf2b380d934957598,0x882c7fac32d67028,
    0xf4b795195e411ddf,0x32480a1ad7b6db4b,0xd7b0d40606b76f34,0xc0043b2547ab787d,
    0xafd7cd7e02d2d212,0x4eb9fdace24c28f2,0xa435ffcdd3f79d61,0x0bb75a0a9297157d,
    0x75eb00064bac9f32,0x443821cc59689b06,0x8a16416fe19b6400,0x366bb7acc275c237,
    0x42f0e5cfbc85d47d,0x1fdce50c07f0268a,0x4f0783ab8d61cfc0,0x7d107b708785af06,
    0x1426640292892c6d,0xb2a424b9ff5f946f,0x169d47d406c94c46,0xbfee7cb9ea3b7bed,
    0xbd8ff6b896f7daad,0x805488897f61a685,0x26de1d1626ee1537,0x403eaa5228613cac,
    0x03cb525286dd27eb,0xb98c55c37b3b5623,0x6b27d0e39bbe32ec,0xb767db257cc73c00,
    0x15521a47cf65dac4,0x64b700b448600ed4,0x5ceacb816b99d85b,0xdc1308c3261229cb],
   [0x171f3a2a3e07e4f1,0x1fc5147dd0dc267c,0x818debc07ef8890e,0xc472c1062ed0366f,
    0x571c683d86b0daa9,0x85f3b7b1e22b5d8a,0x6432ab5a84d667d8,0x41820e01945f70e9,
    0xc0512999fa863437,0xf8c49096987f88ef,0x42cddf6fba29971e,0x454e27cbfa01cbe5,
    0x179b00e551a6bbe6,0x6b8d88d5c651b986,0x9e7e5f8f2f81017c,0x134a4b214cf01e9e,
    0x4369534aa2f8acb1,0xb39d6554613f053f,0x85e1b7a4b8ecc31e,0x86f88f399545e3d6,
    0x14b042d105098a19,0x4eea62bee9165271,0xb37c978fb591b121,0x2ccfdd69a68238d6,
    0x3828179c8084a599,0xb94130623c2c0317,0x06226d5629c51fff,0x0ecfef25fbc3698c,
    0x3dcb4c13d520e922,0xee9d57df992f62b2,0xb2471c839f9a7982,0x8132b98bf295f2c0,
    0xd88377b6fcadab66,0xe1c6a33c3dd35602,0x7df7669660d9f9a0,0xa2a3be1fc9948e74,
    0xef4a12484c1aeb12,0xfb2de8a53480ad25,0x06507ed74d235ee1,0xa93bd8e6b524be67,
    0x5cb709dee63e9e1d,0x896dec1320eb0a98,0xcc8936952b904bbf,0x4366cd148fd0c312,
    0x6a57ed87db364bf4,0xfbe7cc19e0df4045,0xe86995697bb39803,0x2ba2ad81e31075c1,
    0xb89d2213207c25bf,0x82fbc777be2d8097,0x367e124677c080be,0x354e7ced56e78db9,
    0x5123a3995a864211,0x5fd756cb05a0aa21,0xe6ebd824a5cfe558,0x629d62e9bb994070,
    0x644630ba41330c21,0x075969944b3b7edb,0x9ec2c0fecc2f9b18,0xf11f5d1ddcbbe346,
    0x54e06c7749ee7ae0,0x0caf2cbd57927715,0xb3e3750f78871661,0xd20045d6570278c2,
    0x4a7d82e075e1dad8,0x8b80a78586c4bd2e,0x79b5cf720c099f49,0xc751c9aaf5de805b,
    0xd136b3612e4afc8b,0xe6f8970a3a0a8c02,0xbeb4c1fd6dc9a4ff,0xcb986437fc799de2,
    0x96f264d366f70126,0xfad4302c3e7bc9e1,0x4b887223fe0b3fd9,0x22fb2ecf815e2681,
    0x803f991f610b811c,0xe2a4413c312b6e56,0x01d3e2d7fda5dc66,0x05c41f0179851334,
    0xd3121b21099d9ba2,0x0cf657d697aaa757,0x78ab5286b50f9ca8,0xaee9cc41b9d1d021,
    0x78d60483bed2ad58,0x312e68e26a17490e,0x7be97bfb00c6b1f5,0xb72cf302db52a36f,
    0xe38d54e8feda2a97,0xadc53adf247962eb,0xe13ee8c1c102a021,0xe6c92b5a52d770df,
    0x403f3e7fc8f8a8df,0x0e74911c82171670,0x2752676cc984e02a,0xe280e93cd7241796,
    0x63ff0824894d208d,0xfb0da8ff0ff391a4,0x6bff60af2b1ff0ce,0x0d0d3f46a7912ec5,
    0xd62f53f79d45d1b1,0xb213c0d1a71ddabf,0xb0474da65f909ff0,0xdc371b80ae1f7169,
    0xcd3240ac19c24451,0x2ad9381ab187cdd2,0x3d483896be3ffbe5,0x6c21a0c6d8702797,
    0xfa43dfe9236f3116,0xa04be5eaaaecceec,0x343a31d7ef641eec,0x15e1e64e69b11a88,
    0xc6e822c819cfd890,0xcb36c3737c071145,0xf47cd8387e5441e1,0x778d146b44137535,
    0xc9a87fa7d6f057f2,0x96ca45488ed20aca,0x2a52718d9786cd37,0x3c85ba133b011af7],
   [0x320f09c3839bb85f,0x0101fb06a050e62c,0x557582c99ad53458,0x55d5398d1666432b,
    0xf7f631184fed936f,0xd90d6a7f1833d9e1,0x059c6a9e8ebaa72a,0x576e229049ff8e2d,
    0xf642e95b4f491155,0x28b1eb93fff3c118,0xfd23639585d56f8d,0x419a4f03ae7617cc,
    0x4b91ba6ad489bbc7,0xc7ab4a22074c6889,0x2e334b1484804545,0x237c2d343a6e835b,
    0xc07e2b9212ea285a,0x9f01c1e6f7b910d1,0x7858058dddc0a7a3,0x1bb46408814f888b,
    0xdc0c8a79907dc702,0x1e52a34b992fa94e,0xa40fd9b892b4a4fc,0x8a3016bfafae1125,
    0xc0841ba9e49e8f34,0xc3e61dae0b35d0fc,0x372304ad31abf75e,0xa2157eb3dadf2828,
    0x1a8e983289eebef3,0x064bbba35b187f4e,0x0fb42577ccfbe5a2,0x0817697da70df31d,
    0x45012900d539785a,0x8c88d076b8297f01,0xe0973e2678627a54,0x04bc4e70e02fa14e,
    0x53990475ca62e3bb,0x877017727a3275c3,0xa5f5a1cf3f3dfb4f,0x5729f224b8cb4cc3,
    0x4e9c6714b80f772a,0x4c3758a2b96ee4b2,0x7e54f059669a910e,0xb76f40233e918ce5,
    0x2b481d7c72eeff74,0x56ba24196b16ae25,0x9618f274ceb09998,0x05197211a7aed93c,
    0x112d4bb1e114cfb5,0xd136189aa3d5a6a3,0x587739e1b7df0876,0xd3e492fdc1f88173,
    0xbceb9aa5697f7045,0x9c88f06e46754eef,0x1fee2676bf15fea3,0x3604a70a73f8c48b,
    0xd4eb281c2d5c502e,0x27fce62d1df14515,0xfb28652a88c376d2,0xdc386db7f409d9e0,
    0x23b47a257bfc1e4f,0x372c3db3cc760b7b,0xe7e69c459d7ad72b,0x526c6376cf20188a,
    0x1a2674bbac55ddff,0x1dad1b3f64d4b787,0x8a4e52310fcdc179,0xbebfc25586284253,
    0x6d4db0ca3ea2f303,0x3cca822d650baa70,0x8a3a11c4b776576c,0x850de265c09604ce,
    0xe49e72f50e08ef14,0x81ec6eedb69003fd,0x0a8da901c55d8f91,0xef938fba5e02418a,
    0x84d5ffb0cac193c7,0x6f667f2a4fcd01b8,0x0dab07948e47b80e,0x824400400839f5da,
    0x91af41e4c99ead51,0x5da3543a21d9224e,0x2fb2931d16078471,0x36e984dc73d20d60,
    0xc6fb9d426e0e5e3e,0x3babbec1704280af,0x4bfbdfc9ace32b20,0x1437714721bf485f,
    0x68119a550bdeb2cb,0x2c0cb5078f86a05b,0x4c9af29039895a09,0x2ee47b1e63b15d11,
    0x53ed9c7e453ad96d,0x23b9d3b2811f1749,0x4efd69719dd7c79b,0x6ed220b6c3014a34,
    0x7a8b77bb23093df0,0x785e24816776464d,0xf315147954d793af,0x91b6750043f604ae,
    0x5cde8c37d2cc9f14,0x933685f8f9caf67f,0x477c7ada96e21c5d,0x07fedb1e5824a00d,
    0x1688a672861140a8,0x0a071eb5c5296ea6,0x8f231ca3c63afeb7,0x2530f0d5fd4f42a5,
    0x71ea3723a918d4bc,0x40cb6d19bef1b4d5,0xbb07d89392cff663,0xadcbe6a85cb4c684,
    0xa2367b86fb7b8dc4,0x5b3493028a9b3848,0x7c497e1a03602fac,0xc5d9c3c7a1c4883e,
    0xed64978d1b2df0ea,0xd0d8f72fd1fd4936,0x5808c38605c50af3,0x3e59b9e25cfdb79e],
   [0xc62dbc9c32513926,0xcc268940efec85ec,0x94febab24bfc3383,0x884286463ca08726,
    0x0ee4282aafb8a54d,0xce0eb122ebdbc15a,0x69660db365d81207,0xf778429c01c2dd5a,
    0x005791ea7c2ae635,0x0f3d27b94cd4417f,0xb48c9ad4808a2e9f,0x789bbeb0199b2c38,
    0xb781dfecbfe96db6,0x7fef5a9c2ca1550f,0x8680b79f62f1217a,0x14357e6199189bc6,
    0xed2bac196520f1f1,0xd7f1b49e647f7da4,0xd5a5fd168ccf6f4a,0x3bad9d36f76f0819,
    0x6a1970725698df4d,0x499981a24eb67258,0xbcd9fa7d9dec0e80,0x49f99de33e24e659,
    0xb1f11f16f529b1cc,0x5156b3fd89b84639,0x2cbc4a513a0a9bbd,0x87c1d99c5ead72de,
    0xcf26978dd5a94d6c,0xbb0d0eb2c5b275e3,0xb8617a6ca55ef683,0x7e1654c6985d0bcd,
    0x0b1e44a8b185ae66,0xa6ec16dbefa783df,0x67a7df53d124118b,0xa6b3a4b1adb0c46d,
    0x7beb553f8bfbf21b,0xbcbf0a5df5b248dd,0x1361a91cd969e8d8,0x0cb6e8d763889623,
    0x201391bc2fa4e24f,0x5dc7fc279d6f25a3,0x550651821d38468f,0x1ec07b834f2a5ee0,
    0x318910fd4d270725,0xeccd3c9377755dfc,0xf73485cf787edc58,0x83fc544920187511,
    0xa9684ce4ec630e3a,0xf61060c17ff3f1c2,0xe227e3a7d87f10c1,0x1f848f5a6c9114a4,
    0xaeed9ff686ca610a,0x4ba3926bfe359724,0x8629c83d1a9da426,0xa028552ccd06f963,
    0xf0f679f10b79847d,0x3719a8b66bb19be6,0x2ddb6c3ddc7f43d5,0x2800043ada0982e2,
    0xfe5b0083908d9eda,0xa87058dbb8513ae9,0xb6c0796584a4dc3b,0x0f99174667e82909,
    0x4dfef3cdc41bcd10,0x11b9557645b44e15,0x8b1a2677c6ca2eb2,0xcfd1e54be949c358,
    0xac015eb9aa62e732,0xacd9915d08553965,0x9c5751bd5b052faf,0xf4e31f5f600958bb,
    0x16c8dcddf4af9b61,0x8e079636bf00e320,0xcf9be92a49ec4b56,0xe3ab7e11a14ff415,
    0xdbc29b8d92e40c9f,0xd03db05cf3efc38f,0x91fd72e6c5750431,0x5d946bfa1e316edd,
    0x4fa61d92228da5fb,0x90e4bf5e2a870e72,0x12c795e3e771291b,0x4b3e730c046c9e55,
    0xbff0a638bc169e48,0x65a3a11c9c23472b,0xe80cba07b8e0b48c,0x8c40964da23660e9,
    0x3bbeb943d64c5c17,0x736ed099f5f128c9,0x754324eab9dfd896,0x496ca72c0a9f844c,
    0xd9672e3ccb0e98a6,0x2578f2a97237ff73,0x11129ac79f4e5e56,0xb619b92668fece3d,
    0xb8e91a589f894780,0x37e9cca3589aec5d,0x1d54b8a54b42d8f7,0xafe915df74438fe7,
    0x2f969553d511d444,0x909e8be73ac0af45,0xa94b4342333f2e36,0x3caec3408d204686,
    0x9298988ac2cae99d,0x410beaacf463fca1,0xe160bcf6d078be95,0xf064d13b5447a158,
    0xc66e8f8ed4682815,0x2228c721f2335bf7,0x7b090c25bd2ddc8d,0x91295b62fafb0e0c,
    0xf5a31fcbd182fa6e,0xc0a632dd6981c8af,0x5866a3a36d35c9e7,0x0c05482810ffac85,
    0x6ebcfeab661cd145,0xf5e664584b76d01f,0xd1aa8b89465d602b,0x2f9cd2cad0f1f533],
   [0x3e0b5d5ad4441fbb,0x9eaa8520a5ed115e,0x7fb60c55edb92555,0xb4958c4e21de21d4,
    0x4c7e3c9f4add7118,0x2db9f6132d463841,0xe5c041fbc38cb7e1,0xfcd6e7bf996640ef,
    0xfc4da1176bd00b59,0x2cdd704dbc1a71c7,0xe77ceb19f84df258,0xa41e9e9ed5876481,
    0xe8dd28cdcf2e6f15,0x5cd253563dd4359f,0xda4e1ed1efc739b8,0x50dc31723b30f2b6,
    0x5aed684c371f07f1,0x878cedb730d70c4a,0x232ea0b64606684b,0xb3a43f5e7b20444d,
    0x53cd22f4e01dfda5,0xec7877a0cdcb0ecc,0x4183227369975ee7,0x34c64f5b248fd6b8,
    0xab0c96ef401403f9,0x32a6d94ebf58e793,0x2c5f09a87d6886df,0xc02a0f2e94cc35ac,
    0x21f59639a7ed80b0,0xabb913066000adb5,0x0f716d457c5cd473,0x8ebaa8a18e491aae,
    0xff7c97a46b559d49,0x48e1b4690ddc9b44,0xc2662ffd84c008b1,0x452e9869a46be14a,
    0x747c6046da0d6ba7,0x5982856c3b1ee425,0xf5c0057b6761ee52,0x8c5e8a8f195f80d0,
    0xfee1fa912975566a,0x6af2b72d39c2b06f,0x276c8d6312b7d65f,0x9f170a79d27219b8,
    0x5a576c88ecf3e6d8,0xa0a6a793f5db695f,0xc799b0077d4e8578,0x54a6aa2de8864a0c,
    0x537a67eb53ce94da,0x8bb24f4256829e60,0x51cde0dc3ac474ee,0x19a7f5d48c6d62bb,
    0x730447163025e7bb,0xfb625306ae25eb03,0x2f6a51d44200a2e8,0xa2504ba7a93075c3,
    0xa69173875f7a8d33,0x9a6c22e3eca47658,0x1a765de14913e26b,0xb8d550a10d926557,
    0x1777b77bfec3abee,0x541c3aaf586f670d,0x7d1790c97073e188,0xded908e0ed161c30,
    0xb9696cc6d47dc697,0x17ee18afb5e15b9b,0x011eb0b2b5fc6fa4,0xbdaf5b020a4f34dc,
    0xb911cbe786a479e2,0x55122e7885b7a477,0x8cf575e47b57aa08,0x3cec0c6cbdfa836c,
    0x0f0f0ded60106d8d,0x9ac1b330802aa4d8,0x70090e18f245626b,0x39fee9fd2d627675,
    0xba2715cc8fac1771,0xc5f7e608422bbc8f,0x414f1238a7434b81,0xa4ed4a25730ad5b3,
    0x2a00b91b6ce05e10,0x8aef7c9f43e10620,0xab84b7fe84ce70db,0x265dbae95f39d15d,
    0xff7f018b171324f4,0x0663f3933d64c67f,0xf3b3ce8b56cb5dcb,0x58df63d09a3037ad,
    0xe7efd2361161bab2,0x3a45062dae0e6f28,0x38809b87c78cf13a,0x14be9987b11d1480,
    0x6bae9a3e4700a3f1,0x060c9ff44e4bb74b,0x4af646e95e96cd34,0xb1009f268e95f845,
    0xed15bc55b3fe5938,0x9ec8303db636d7cd,0x89f749d53a566866,0xc43e083f17e66396,
    0x7679756ed83732f3,0xab62307162440747,0x35090303abc4402e,0x54c6029239fbcc58,
    0xb05a78ab6a03780b,0x91a6a55184a5c130,0x59cad484d81501d9,0xdb85215d2e0e93cd,
    0xeaf21f928e7c4786,0xdf8f56684dd531bf,0xf9bdb3a11d663c6d,0x2511cd6b26fd9a07,
    0xc31c70f79dd52975,0x2bcf0fd306b44180,0x65ac50da77b266ba,0x7868f1700a3f8486,
    0x3016ed503c626fac,0x68f6f9eca6969044,0x113fa1c6db11276c,0xe89097cf31217ee1],
   [0xac24e6436e12e1df,0xd8a7fd0b7d761d04,0x4134bf13b346027c,0xd0e0919688e932b6,
    0x6a6544db9fd28fbe,0x544cc4bd9846b8df,0xb4eb60b691dbf867,0x069c9a59fe7d1452,
    0xe27b29cc18dac2d8,0x8f7137ddf287be11,0x66d8c6be3c064abe,0x49c696ad84a3a2cc,
    0xba5cf21de3a6aee8,0x4d0fec2acfc3e019,0x578962c7088dde4b,0xfb7cbedae854b6df,
    0xbb0d8510084aa098,0x09c10140a96e3e02,0x398a7dacbfc1fa85,0xb517a454a13308eb,
    0x6004b59f4540efbf,0xa4d48b54692447fd,0x60ea3e2fb0f26fa3,0x0a3d877d0c1f879a,
    0x8eb8b6730050f080,0x95f5bbf94bf15388,0x1c42027371d3ac47,0xe7fe1a77506aebc7,
    0x48c989da99e9e32b,0xf8edfb37676496a8,0x1de51e7893cb5838,0x6a87c46d10e65daf,
    0x6d95acaa4744bfa1,0xcc26d27ce093643d,0x7bc22712d8f3e387,0xf8ec14384b5166f6,
    0xc6924e6332b65f6d,0x0a637ac5c3900060,0x32368fb269d60f61,0x761134b2113fb9a6,
    0xc11746e5260aaff5,0xb71b993348271ef1,0x9b684beed1b4bc5e,0xa019b49ab61c6802,
    0x95c6dd62d5027088,0xc2226b31f87a0193,0xad17385454f78688,0x5cf47cc5d82a6289,
    0xf62c3be93227a4bb,0x4be6b1f00f8d99f2,0x94e74ead21d4f2e6,0x320cff78db7bfae7,
    0x581cc906b0f3d2d4,0x6047237409e2f970,0xab7796a254ff6299,0xaf9fe8d4072a8692,
    0x05ec3921fa72672f,0x5a47fd7bfa47b095,0x069f16f419b12308,0x9e02fb86b5061741,
    0xb24f5d49f4b7502d,0x11741a026ed5c3de,0x265ab8ce550b0c1e,0xd622305feea9f183,
    0x3b5b5a5e5c2ca683,0x206cf35e0a95a737,0x17edddccb543426a,0x0c08de7c6a7aed85,
    0x92406db57db5f259,0xc3c8d7b7e0ea68c6,0xb7c8299cdfce0e79,0xddb76d855ea16e19,
    0xb8cdb44097bbedd0,0xf9a1355d00bc321f,0xa2cd693b4230f6cb,0x2a32684a8423a6db,
    0x73aec28625cddf15,0xbe4a953740265c9d,0x80007dc929d2b089,0x28bf4a6ae88b1279,
    0x1c67acf8252ae5cd,0x95b652faf4fdd786,0x18e6f7a44ce43909,0xd1f8c76ad0c47c3d,
    0x7eb97bc3fe6d2dda,0x39bae8156989f4fc,0xac7997b01f612032,0x74d45dc66120e802,
    0x0b8b20b43b7950fc,0xf1e91751624d3c8e,0xec85ea796fdb9b69,0x4e2e5a2a0e8219dd,
    0x2608fd2a727056d2,0x3da949dbd9403f58,0xc621ed2d3e97d04b,0xf8575fca385c8a95,
    0xb790066aabdc603f,0xc96d65cd67dffe5a,0x93e33ec6267620d8,0xa6cb83693f3890c0,
    0xcace03e0c96befcc,0xfb1ec16a4c661735,0x8f2d9bda4c510b72,0xd823c8e461f3cafc,
    0x09e7e0b414a892d0,0x4a57d6b825de9f42,0x16cb34dced59c1be,0xf6e4088bf8cda642,
    0x5f6a08ec6a60300a,0xf4cdc6f676026777,0x1b4d764d9952dd7e,0x08a6df7d6de27770,
    0x29e3a612e2c374b0,0xbf5b3598b570db4a,0x36bec97152424ef0,0x8a6c9c91ea6c3321,
    0x3bf7cf8db78c08bd,0x461534f4340f4d58,0x79a7885dc90132a0,0xe4bc7f4f65cdffaf]]

def combBlocks56 : List (List Nat) :=
  [[0x6a703f10e895df07,0xfd75f3fa01876bd8,0xeb5b06e70ce08ffe,0x68f6b8542783dfee,
    0x90c76f8a78712655,0xcf5293d2f310bf7f,0xfbc8044dfda45028,0xcbe1feba92e40ce6,
    0x9d10531d80c15fc7,0x666623f172e99258,0xf3cf09cd0e55e541,0xe1b40c548c1c0d5f,
    0x17ca84682a318024,0x00924520de9bb624,0xf47d811207f4708f,0x1ea8aaac3f384ff9,
    0xe418fa233aa89692,0x713b08d6f94c2308,0xe996e6412418a776,0x3bdfca7181668f4d,
    0x93dbdb431a510308,0xc7dc0c6345e2ef13,0x49426151aeda5333,0x0a721f68565167b8,
    0xa25b597e831eba7e,0xf1e49c2570989e56,0x4201bba7bc72a37e,0x963e315dba2a02df,
    0x3dfa4b328e7c79c0,0x869d0ae5c0d5f13c,0xa2a3cb7c52167e11,0x5c02ba13c84a3935,
    0x079b2342c37ea1d7,0xb2393658f89aae4d,0x35328552518d9e4f,0xaca8ac95b7521056,
    0xddefb1049ba973a2,0xe1edbfdc413935e9,0x94304c4b92872189,0x7f12c567dd75cc20,
    0x02d58a93ed8d3763,0x163c1b41b3d25d44,0x8c0821207c82521e,0x79cc32165d5941a2,
    0x36aab0f0bc5f6bfc,0xadabc17581d3626b,0x27cc1d59942ffc3e,0x9cf893e8073053d0,
    0x5db2781cd3245b7f,0xa37d669690597fbf,0x206c21af98d85311,0xfa904704db667c0e,
    0xef833df14ddf6bef,0xcb9eecd2624f1d47,0x2d6fa3ed40f1c189,0x1a1c8c3674a836a4,
    0x6c38ba21348560a9,0xb3e960fd626f217c,0x7be369478640da20,0x6fa2d99005994393,
    0xb9609377bae52757,0xfe39cdabc551c5ee,0x3754a352a6985c3a,0x9eba0cc3915ac7e8,
    0xb61f78fd77f0953a,0x18491483ff15439a,0xd672b8e1d2fa92a8,0x1d431aab91f57d8c,
    0x17c59d769d68f260,0xf48e29a908707e7c,0xbc530c83ce15fae0,0x08d667c3bf19121e,
    0x590da9836039279a,0xe6e4c087b13db4a8,0x8275247200d57597,0xb7bdfaa7fc579c88,
    0xdbbd0aab42152ae1,0xa7e6e36988bafc31,0x4bd23c461e4585f6,0x1d2fa9f7c76fd5d1,
    0x5a31171365227c70,0xf32beab333a3ea70,0xdda4b35b2e31c60f,0x6deeea0d5a3e1137,
    0xad6da3810369b9b7,0x287aec1e569083db,0x0014cbafef6acc84,0xcbb93f0fc7443e40,
    0x69b6093ae31413a4,0x07e015ce6891e8cd,0x8bd75f71b68ba4b7,0x9504e87a52e6a510,
    0x5a297af9df51c38a,0x261f8470d70dd9c3,0x66bc455d63c7f186,0xb6071d8fe3047cbf,
    0xfb5fd5e88421b54d,0x579b2b83a5564a4f,0xd4ac9d2bb1fa9dca,0x28135c10635578d8,
    0xadccf09b8ee5d868,0xef0494cc91e310d8,0x06fa9d74107f8c15,0x9ed84abe3851be15,
    0x5f4b8c276064184e,0x73a39f9f9b819758,0x4a29a5793ec07948,0xcb7b973aa8bf19f0,
    0xa21a6aa9735bf117,0x1599ec23c2586640,0xd5fa500fda87860a,0x349aef9136dd9245,
    0x917e5591e8e4ac10,0x7996a812ace24a9a,0xd6c3cc5a09ffb568,0x339a057620b1077b,
    0xf76da8644d1312a0,0x5039e788f41cc66e,0x43854df78acf553e,0xca985fbedd6a947f],
   [0xd34dab1767ea1f34,0x646bd35404739e0d,0xc3b41d1793b353d6,0x7f9460a23d474b66,
    0x58bec2cacd9063ec,0xc6ff815124e34ffc,0x69f1f2bf8f076661,0xd0d516778fb06187,
    0x2e45a0052b8c5bdb,0x800d59722771bc76,0x9f796a57e0321efc,0x02292b0887db3c97,
    0x4bcfe7b5207256f2,0x34c8f01116662d89,0x70cf0501cf4185f6,0x10b668847507e382,
    0xdc5b74c9bdfc0a9d,0xde44235b14f77aa0,0x2a60e3646ae0a2a2,0xdb43e7f84c329e02,
    0xf0b1093a9e9ad713,0x8839047356d2f054,0xb8a56c814cef9fa4,0xb0168da2be36b591,
    0x7bcffb0d1840a484,0xeaf7deb95dae05a0,0xe01efce48208425e,0xf6a16b6054bf7ac1,
    0x87dc4e6e638f9111,0xacdc817c6fe7ae35,0x59cf3e324c399409,0x716c92116b36d291,
    0x30bcb1774283808d,0x0f8f07ce35643a89,0xb8515e9121fa7898,0xe9af3081ee0d21ae,
    0x966c2f8e39b39d33,0x976b925115136d19,0x85af26550fef4971,0xa976c8489c471260,
    0x1495c285ffcd7198,0xa45d77fd9b76f496,0x995b8a7f7abce4bb,0x3affa9b5cb5e8730,
    0x029f302430eb6635,0x10a58f03876b2f02,0x75c98089bf7859cd,0x2d4d554f8eac633d,
    0x2692f42cad8426df,0x0f41395a4e6f8a0a,0x703ac9383bf88359,0x6eb733632c806980,
    0x3ff759ee200b4267,0x9252e97c83fe1b83,0x030e4b2cecc08e8d,0x96c56ec117307a9a,
    0x1617acdcdbc10ba4,0xbc7c0ed17ff78b36,0x6a3efdd5ad2652c1,0x948f395d3e845445,
    0x1a6b40ca6da2be0f,0x5a63d297ffd0987c,0x72a41300a1b5a9ef,0x98ba0006d11ae9b5,
    0xf7d16d7c1a16453d,0x8b7e87be761033db,0xe1741b91f8b4d0e6,0xd3979d5e079d5f45,
    0xf3cbb83167b6d737,0x17ddf6628a6961a4,0xa4d0925753724569,0xc55f9335d799adb9,
    0x7c533b16225a4e3d,0x3c9b5fd6837e27b1,0x406d776727e41697,0x5c11fba94fb7606a,
    0xc52df5ef6569163d,0x14b271f8c9958360,0x19eb94d54cab3ccb,0x26a6c35de3216a9c,
    0xcea199a5ed326504,0xf65a9b4627b5202c,0x2c383b88c1aefc12,0x54c3929ce5b8c234,
    0x8bf011fa7ec9e107,0x47a53d9e608a6726,0xc489aa284914ab44,0x4696302560ea16d0,
    0x293be10f4bebf743,0x99b84da4ff66ebc4,0xfdb8f62b67116cbf,0xeb9c78a6cf98b900,
    0xf768a159f142e6e7,0x85a7af8e430fde3b,0x75fb6e9d80f3bbd3,0x42e03d6cc97964a0,
    0x3044f576bb5ecce7,0x7328158b0c0d2135,0xb84e8e83c19659c8,0x3744e9b28666d6c5,
    0x201321416a247721,0x28e8b5f052a6f839,0x0e0e6956eb29ec3c,0x9546e0f8d99047aa,
    0x209343292da66409,0x0ce5984677788ef9,0x0d29f157b4c41597,0x371da99fc1142416,
    0x43fc5230d298657f,0x3bf17374e766df81,0x65dbb44552523bf8,0xe697cc8d4bbc1435,
    0x50c928de45fef996,0x14068f6394425351,0x324cd0a41ef3f2de,0x11343e17e3656d53,
    0x40150ae75792aded,0xd0ce4d65a086f18e,0xb04ddf9306273765,0x4a9e8480deba8eee],
   [0xcec9b4d78e6d8483,0x82f2d7a846967f0d,0x2958f49f1b6ee945,0x9c39cb60a33d563d,
    0x94b3356f6b2c50fb,0xbbade52f3dbe4368,0x03d196b7bca16546,0xf097bf1ee493e510,
    0x1363784b6c7f27bf,0x41067a6336fe96a7,0x33e8a4eb3b323ed1,0xcbc809ae94d7802f,
    0xecc69d63caa30fa6,0x07ad4dd8903daa9a,0xd7aaceb5dfdcdb05,0xbd9cbb0e18115c85,
    0xf55c31f847a14dda,0x606d0429674b4df3,0x443768f724013083,0x18f37acc90eadad7,
    0xe22fcdc325ac8364,0x77d8f7c78a8536cb,0xd7bbffecee1bcd0b,0x2f944bbaaa092c26,
    0xbe5cc18760a81cad,0x822c3c1cb43b223b,0x37151ef349506cf4,0x8bfbee24c6e52618,
    0x6986b9515ff0013e,0x8d9fc8ecacfd2376,0x0cfd289fe71be151,0xd75127caa3409b59,
    0x5674e8e8cc7d59be,0x98ea18588e0932fb,0x4ec5ffee4772736b,0x5413358c281e79da,
    0x2d7ea1f6e4f80590,0x53e25b15c900b367,0xe7c48fd20164515a,0x680fd4de969cb024,
    0xc22849804f58b08e,0xdc769ced171b57dd,0xfeb5c7e72fd64cac,0x0b1c1b0327ffec73,
    0x0f1c83acf5023ab2,0x0d8beb6cf7b955aa,0x95a16812870a6a7c,0x6e8fb87a8d354127,
    0x8eb80c9f876051a8,0xbed773963a457ea5,0x5dcfc1a3c1b85280,0x4e2fd12691b194f0,
    0x6afec74fe9cc9005,0xebb8baa592c4fe2e,0x371b35a1508a31bc,0x122abbdbf5f4fbb2,
    0xc21115782fb33b93,0x76b07b2bd63afc5c,0xc07879421041e8f1,0xb8181bc6badbe124,
    0x911a5e167a54ead6,0xf9acc5b14bf627dc,0xdeef104be967dd75,0xbb012f5118cce7ca,
    0x367ca8fa56a80e09,0xa275f0f76625f5fe,0x2004f56813c08fa0,0x2de758d4beff1b59,
    0x9d62edf5436a1cd3,0x7a1adc6695dad6c9,0xd7c032b0265e64a0,0xdd9acf3177d8ee67,
    0xf24498daa2720307,0xef1e169eb30aa255,0x0ed9922d448a6990,0x7838321620db08b9,
    0x82a85bd18db7cfd7,0xf3f68f9e7f9acdad,0xb51f0760f456ede9,0xa2821b13a3192358,
    0xc25035b2fa3628ac,0x568bba2cdf5b564e,0x28c5a173c6ee12a4,0xf597a0acdc1d4a57,
    0x7ea0310d6cd3550f,0x772ecf91d412106e,0x7bb1bb7289622cc0,0x0db9168e332bd455,
    0x8efdb312b83b6500,0x4f1e86b7e98fac90,0x41901dda1c9671cb,0x69c0a197952bd5d9,
    0xefdfc2c9d3846b42,0xe0afea3ab84c8cc8,0x66c43d425cc76f2f,0x024f0d0df9fe8c11,
    0x78d683d4ab75d6c3,0xc42a5457d53a2856,0x08a1071821be40f3,0xaa222a86d6f44fb9,
    0x13265a4e644cb028,0x6071fc94b5a8c8f6,0xce448a25aee2df42,0x56378793001a8e76,
    0xf130159794ce1a37,0x9dda5bc91ea695d5,0x5c7073426c00051a,0x6f27aa1bfebab967,
    0x72f75ea0d1f12afb,0x97321e5b3092268c,0xef2fafb59f0a0fc8,0x90dbb8e8337893c0,
    0x7fa85739235790c9,0x9e01b91773f3c503,0x56f0c64392f35e2e,0x8568b26bcd9715b7,
    0xdd3f553826b1f5ac,0x0145e5f8fb85479f,0xe9078e0ae4363ce8,0xd3f2261a584dd2ad],
   [0x7dda97c55c38d4e4,0xe2fd65f1b1b17374,0x97566e7430181e25,0x3d92852611229938,
    0x6faaef00c0ccf0d3,0xcc0ab138197abc7f,0x3ff057035c2869ea,0xd32ca0a5d468eab5,
    0xd9de4a8bd4904297,0x0d23b7fe32845dc2,0xe3fedcfbd314c30f,0x5551c1b53b0878ea,
    0xddbdec1a85153809,0xf2be7383db6967a6,0x2dc6f85e00e65a5c,0x2faaf850def03ffa,
    0xd07232580dd7718a,0x91c81b6519be4e4e,0xf7c159a25e76dff8,0x3b180e372b902fc3,
    0x726626299afd82db,0x58491156702d14d0,0xfaa4bc9d2905211e,0xf2b6b117f36b58aa,
    0xb1488fe58e2058c2,0x274b136a6beb56c9,0x6bf7491e6ef96a09,0x6a9cb41f4e7d95cd,
    0xea95ab2bc86b1495,0x050886aa9aa7f367,0x02b907a608a21208,0xedd93d45ec97a966,
    0xfa81a51193d3653d,0x134ec4b274e467d5,0x45ef4f4098a83eb2,0xf352ff0391d69c9f,
    0x79e6678c8a44f28e,0x5c1995f972c582d0,0x020bd73dfda6d505,0x4472626ccb6c5ebd,
    0x78d15204d94b75a2,0x911cde8a1d8392df,0x8eabd472366f4340,0xe46ae49aac77cfbb,
    0x4799fd908a81c0d6,0x816766c987d4a6f4,0x845017effe90f85b,0x9aa6ebebe5f5335e,
    0xd661df1aed4478da,0xf15cf6c2240e0154,0x0afb45cdbf793ca1,0x670ee471034d8c23,
    0x628ffe4ff4f563f0,0x1cc3b8160ff24770,0x2546605b138750e8,0x5ca0c7425ba022ca,
    0x245cdfd17a53cbf5,0x378c76b944d45159,0xb6ac29ed3f203add,0xdab5fc7fe5706d90,
    0xbf8c1d4b3052fb1a,0x87b15173c166c997,0x5039598fd8b49197,0x97f6cc216d0557b4,
    0xac4e290443dbd581,0x3cfeb38828d6b35b,0xefbbfa30acec6fa9,0x96f2e354349d9bdb,
    0x4d9a4ffee8f59952,0x35a18f1d504f5d45,0x4fe5d8e3960dbaf4,0x09fcd80885d526cf,
    0x41275b1ac38b82c2,0x3860883eee9cd107,0x176180985e55afb7,0xd981830a1604c171,
    0xaffd9ddbef8cc058,0xe0271f012581e9fa,0x1978d1d254bf33c0,0x2422711875e196b1,
    0x1eb34324a4e9c2fc,0xe72cf0cf2fbd706a,0x8041820b14609a35,0xc4946e517e8399ac,
    0x3434763766398ce8,0xe48bf38ed1462312,0xe99a0f68f47b8237,0x74890120b1858a4c,
    0x28cd6584ce8a0471,0xa33c738b2daf49ce,0x47f7cad9cbc69708,0x002b1c7861cb06bb,
    0xbd2d39266390366f,0x39be7c26e7c2a835,0xc0e8304c48234416,0xed035874ebf5b517,
    0x5cb9173e84960b03,0xb6ac3ab0c8808e8f,0xfa48c8c578094d8f,0x1653b64da9be33db,
    0xf806a54eb0f73c69,0x8b38e0e4a1b564e7,0x9f4b2bd83e95a894,0xa583708169e5d560,
    0xb9713128037aed26,0x5d1e99d5eb79ec9a,0x90a76efd37a5d13a,0xa069c9743a7cf65c,
    0x49757a5afd297cdc,0x502ffe99db84fb9e,0xd8190f9e0e972deb,0xbfa8bd1f061877d8,
    0xc5577e31bb63640e,0x979bb7f290c72df2,0x500c679ca685cbf4,0x51076dd7ed2f153f,
    0x1f69728782e4476c,0xc8bea4e9e720ef02,0xaebe650172e0fda6,0xb397274a2d6ddf76],
   [0x606304b1a44e8de3,0x5c08966a2ecc1e07,0x3a5a7dcf08bd1791,0xf50b99b7468810b7,
    0x4a3f3ba6db7f3588,0xe975f18d21721e85,0x8789973a2dedcebb,0xe2b5061e55f18f0c,
    0xa9103a2d60dc749c,0xd83321fba27ad800,0xb09c743020a46e97,0x2a148954227198c9,
    0xf2e1f28ff0fa3cf2,0xbef92dcdc39b6f01,0xea3c2440a37608c4,0xaa215a188974e422,
    0xdddc6b6b82accf8b,0x81d2999182816fa7,0x645f30e251394304,0x598d7f61a5505770,
    0x1b84673c0f6cb808,0xd2289a8f353540b9,0x546c5162b273ebca,0x9f3121f74f8f2609,
    0x1e0cc372dd962abc,0x1ebb7d208e87bdcc,0xcc7a3ec58a642c87,0x0a5a4878f4cc4453,
    0xe85daabc9e2cc3fa,0x5832a64c8e50a9fa,0x4d72b14df2903017,0xf7148b2288b0dc57,
    0x9fb39a5464aa7b3e,0x13c4ef1b056c9cea,0x64fd2091541c5810,0x715a2012f49f4c4d,
    0xd9a33944bc7d081d,0x421bc588a88b47d0,0x1f79288f8a913b62,0x5922b3b1aa606c0a,
    0x85c3fa7018ae2298,0xcb07adef81b3e0d6,0xaa74356789578652,0xf8093ca11ac87d03,
    0x06c36192d35c93b0,0xe4509a0f6db6006f,0xb16129ec307e9cf3,0x32074f216ef49c10,
    0xd1bdb697620db220,0xc71ccb101687ace4,0xc409ce897fb87876,0x49ec8c5e6aa9b125,
    0x99b8aca0677338c2,0x842c3073e53b9cce,0x3da9cc34865f5429,0x99a97d4fe5ea629b,
    0x93925b40128aa5cd,0xceceaf38ed9768e7,0x20feb9fbdd6c93fc,0xf5e3efcb5a92f1b3,
    0xab2799c7ceaa0fb4,0x84e0a6f4b110cec9,0x4e51e2dfeb07bd2b,0x76cfa2899bf3de05,
    0x51ebca315e771268,0x2f4f14a7d90a6568,0x3e6f190e05e07b7a,0x1f8fb70d4850b448,
    0x1afd3010c909c8dd,0x4e1d3c311c92b3ab,0x12c2ed74726192a1,0xf53e7adb461ba2bf,
    0xa2c15b625a3ba4ee,0x800f385ade168ff2,0xb1c320078c03d084,0xdf8b2be9c62045ac,
    0x40ead285431a9955,0xd0a8a06c08d307e7,0xd1955020049f17eb,0xd8835d9003cfd523,
    0x55ec0f2b28d9819e,0xd606792f742dab1a,0xdd5d142ba678732c,0xb8d5c71a6497f61f,
    0xdc78be8ea9138ac4,0xe2f49f1361d45c3c,0x3b6ee4359b63dc79,0x1cd14ef132137f82,
    0x1ae9a5558c3b3d61,0x53b60aa6bd66c3e9,0x6595ffc144469d82,0x30128814f6ac0487,
    0x772b5e6c8f2dbb38,0xac30f673875adc53,0x12c4c890b81f7e14,0x5d57c66104d3c4ec,
    0x6a93dbe660bca3f3,0xecb3435145600490,0xdd63eb61c880d8c4,0x2265b5ac65baae3d,
    0x25829c6c517409ff,0x3c80a612d2393d5a,0x61a313a3b1096498,0x97a198bf5cacfe0f,
    0xe79c12b6916e8a30,0xfc7af0c38c1cb896,0x24af7e03f4371ba5,0x64d0c4f5a46437fa,
    0xd81d912650bfeb69,0x7cfcf2050f1fdce5,0x6d03198de496a8c5,0x86654d5973b6abe3,
    0x372d23ff45bac36e,0x599899459975dcd0,0x21fd8a9f5fc9abcb,0xaf381cd103584925,
    0xff3d887ab1b119a9,0x589b82f1ef4d4a90,0xc9457f22951a2648,0x681a087fb7df0fbd],
   [0x9e1994056037cfb4,0x7400f246c3cdaa85,0x0d77f4880da0b0e0,0x042531823ff5ed0b,
    0x00b7325ed8775d23,0xeea3e4f534ec5dd4,0x628ca4d0c8661fac,0xc90e8bccfae00f7e,
    0xfd6e1483e66b5a8b,0x37385a1378241662,0xdbaa6c128d47df66,0xb0d7a6dbed426d40,
    0xf6c4fb12cc550ae3,0x239b77371572068b,0xfd1c0d687ef4a316,0xf652634815abf316,
    0x784f673546c34577,0xe6409ec8e6a52af7,0xb1f5e308e8c0e4bd,0x27557aa0e30bca48,
    0xadfeb9b80416193c,0x18a2ca7374c4380b,0x77c8d75a49fd34f3,0x8399c75846105b3b,
    0x9c1a74b282375988,0x68723275964aa5eb,0x4542cb5c539a534c,0x040bf36bdea2de0a,
    0x80d2a3d4793301cb,0x977abe33ae04f7f0,0x37d16867767ee3c5,0xe8b5b2b681dad753,
    0xee58fdb6a401f4d3,0xcf6c2e50ea95b301,0x8e50783bf561d7de,0x8e687817d2587364,
    0x90281e944294d86b,0x900b96f12ea19128,0x62f809a0506d3cae,0x989cab886e2c9bfa,
    0xed413aa6d4d4ee9c,0x496df469a485672b,0xa2f5127ccee442f3,0xae3648928593bc5d,
    0xcd0acccef9a54fff,0xed5bcc4a2d7f35e7,0xb736b39d4b8d57b7,0xba85f10c8713f5ad,
    0xc5963de26d2aa8e6,0x205359fc40effe2d,0xd1036803ca67dbee,0x98a41746253e5cf6,
    0x69740bed606cf75b,0xe30217faab7ed219,0xb11542f5a2f5cec9,0x579ac6947e3463d6,
    0x0e789e3ff0cdb59d,0x8be44e3392eb68e1,0x3d70139bfcd5ce69,0x3754e99f0786e2e1,
    0x4239c0ffeb6a8499,0x61019b6f632734f0,0x012f3c27206480db,0x24c2f87496addcbe,
    0x7ca2cc8f752c2d31,0x1800abb08c61eecd,0x92216e443e21a946,0xe1685442230540fd,
    0x1cb8836824a50fec,0x3e76192bf8998394,0x2fb2e642d02bc934,0x0700855c928e7214,
    0x49e9c05cf9e01d27,0x672e0841205789fb,0x3e6f9f583214cef0,0x675b60bcb5e1e7c4,
    0xa02ed91c5c80bca3,0xb563ddde73f08822,0xe011b62a9cb6c72c,0x77108626b5227b4d,
    0x4a33bae373a7cdad,0x3cad83d2e50bcfaf,0x1ca2a2e5338951a5,0xbfa6314b09d513ea,
    0xc5f88930295cb953,0x261190f8c84047a1,0x2a5f85bbb1eed1a7,0xb452e8194c802c78,
    0xc1d5c120b853417b,0xcc82e7626d76ad40,0x314124ebc2bc75e2,0xc93c33ccf68ce434,
    0x29e94d9b0f7f0362,0xcfe2f63a9d1e1c7d,0x20f2c2e2f575ddf3,0x6f042c8b50622bd7,
    0xedbcc8500ade0fb7,0x0c6dc74dea6518d8,0xecf0975e6dd98e20,0xe687082d0a961cd3,
    0x9179e0f31d4d6ece,0x17c1e85ef88c2259,0x5e5f0e5321d1a721,0x2135a448684c9555,
    0x95526ee5adeb22dc,0xf7bdf0d378b5c674,0x04261e46af00a271,0x13025fad6c16b0bb,
    0xb54046ce8388aa81,0xa60aa874a2ae76d2,0x5ca9df2d3ec4a2be,0x6eeb1b119c216b63,
    0xc83cb5f0ce432daf,0xf3beda08aa827ac9,0x4bfc28d795074975,0x7ab16ef862a9a9e9,
    0x3117588aa71bdc48,0xc7e9ce3ae74fdb01,0xa359183e28dba7c5,0x584e0e0a97c328b1],
   [0xc0747129885fbd44,0x89c2caa39f26267a,0xe05471ce16d5222c,0x9bbf06dad9ab5905,
    0xa3447dfa7a1d3e88,0xc0d4bddc15036ed2,0x6755daf30a6f47e8,0x1bcc7fa84de120a3,
    0x3ce59840d8490005,0x90599d29a4c5181f,0x4adaab192fbfb78c,0xf8ef49b4bbedf416,
    0x1a462e83bd62afde,0x58f2128837deee67,0x02bbd77665a4b73a,0x979e67a7ee972164,
    0x8b7ae792b4a7b506,0x22758bbae7860be0,0x429cfb2ae7500ee9,0x646ff7f65b3b5bd3,
    0xc979c1252b36f946,0x492dfc4fc08e6995,0x5a61e331804a8fe8,0xbc112a9d064a18a5,
    0xeddeea19f87b338b,0xfe44d4fc2e04eba7,0x1b3a9b22d66d9101,0xbe63ab41d2c743f0,
    0x9d212f2591b00a85,0x7053cb7e45930daf,0x8d3021bbb90b353b,0x1f125f145e22f475,
    0x154b71c9c103b553,0xbe60ea2783385a80,0x9d0c1000b27e507e,0x7cc0547aa617d39a,
    0x5799cba3cd45a526,0x00185a0aac228b7d,0xbdd728cb39fc94c4,0x7b329ebd2328045a,
    0x9890459558583600,0x6beb2ffe723b5310,0xe62280c7ebc5fd4a,0x1516534b9efe26de,
    0x08428e0cc3a0131b,0x2bab43c9e74e0c09,0xb0e74299ecaa5c59,0x60e343b6a7ce88ea,
    0xac2ef45419e717a4,0x68da2bdaacf01b81,0x0563ed536daee154,0x946851990bc1db4e,
    0xa75f0fd1b526dea3,0x57999590f70acd9c,0xb3b8d0e6b2667dc0,0xca5c78420dc591a8,
    0x44342466113bd81e,0x578042f6caebe721,0xaeda82df286eb6e2,0xfc1d6f42b05d00e6,
    0x41e3d4415d7ee1ea,0x3976b531546dc8dc,0x93d74bd97fd76ce6,0x6d2cdf43ac02382a,
    0xdf82c36f08362735,0xdff8b37ef12b327b,0xb1258f8ea452d1f5,0xe1b98f1be7e0e8fa,
    0xf96138c9cecb11b7,0x7e19ee33df74090a,0x7e05b49a83bb2ba2,0xca83e9ad9a976a0b,
    0xd620a694fd0c3b70,0xb711c812896e4022,0xbecab66324c6e71c,0x0c65b97ea03f9316,
    0x89c1245dde69e081,0xc78b02d429450be0,0x753842a68d37b860,0x010d89e893681fc2,
    0x3b40bbd839046346,0x56a58de730144008,0x6d08a06bd967962d,0x3536f25c8fd607ef,
    0x9401062bcc14fea6,0x9e6c3d1ea2d9b3e2,0x73ba16a1a529e1c3,0x1e271fe17de3509e,
    0x343779a00efea3f0,0x1b200bdfe2961065,0xe27388b02d1ed1a4,0xcd518f0c66805279,
    0xd1f27741670e9cc9,0x6c63a31962831ebc,0x4d1103e38c05df53,0x0764705d02013d1e,
    0x0fff83ed6847f6f8,0x1029b51fbd40ef53,0x690151f34b7f8c3c,0x0df50246be23d4de,
    0xb4cca8a6bb1633a6,0x4c6e166689df3449,0x2b232c4fbc2174ab,0x2107047f29daf1ca,
    0xe4c445c10d3be344,0x6d45b8604229f9ef,0xcdc6e0c09f4fbd12,0x609907f31ab90dba,
    0xf28b06ac098459f0,0xd8f618e7c36cc0e5,0x3c3ce2c80a98a2dc,0x273a561a693cdf6b,
    0x185ceaedfd4f1b81,0xad69a7a48cf4bb15,0xf69de3b336529330,0xca9dd5d44cf53398,
    0x8cc62cae42b7c8bd,0x66c9760bfaada10f,0x402471fb44467b3e,0x6e4b988651be2c56],
   [0x1ead3233444c0448,0x96357686c10319e3,0x4943fccb3b7893e7,0xb12fadf52943dfa5,
    0x96575e76b369de57,0x1d05e70332fc4df2,0xe96f8f6677b2a6a7,0x02e2459599b0f4ac,
    0x58627e5e8b47e27b,0x3bf2d82d8d98b368,0xbe2df29f6cea3b79,0x6054b2225e75b6a4,
    0x001829e764ae4b62,0x1d789cf5afad1987,0xb0760cd1f574e0f8,0x6e7106f3b190d8ed,
    0xf536c45464e9151f,0x67ea3399c80d8418,0x43255dda91d8fb3e,0x48388e34f1c50568,
    0x1bee49edcd7a9434,0x99b1411153de8310,0x6a25339315482bcc,0xb0ec63abf4e44e9e,
    0x8d93ca698eb99805,0xad086d4ce99a11e3,0xb0c2bf930bf33a68,0x01ee7fc202708cfe,
    0x09fd5f4e10eeccaf,0x811836ea35be799b,0x124be02ef3455711,0x9655cef01b024882,
    0xd7dfb4a58e5b833d,0x593a0073ca0b2419,0x5e65df81050109c9,0xde8e6447ae1453da,
    0xf0fcc19aa14c5cc7,0x987e03132901c6c9,0xe332288cbd6de265,0x05e1463c150913d8,
    0x754205712bf6f44e,0x4a403a59c9330e24,0xced279a2fdd4b0e9,0x016cf2eee40a0ee4,
    0x53225c3f611603a8,0xafcf53e490868b9b,0xb52e38390dce53bd,0xb8e9cf624ea7d5a8,
    0x3e2593eac1f7df48,0xb267473eb871317b,0x8e555b4e4e58f385,0xb18b12d0a4ec7e9e,
    0x91b3d590e846b546,0x3c83f7e483d1e559,0x5cec426bc5acc33b,0xff531922a359fb44,
    0xb52dec8f375f2b54,0x4efe3560e3e92350,0x5066e911891524bc,0x77b20a912e6b2313,
    0xcaa801fcd6cc67ff,0xdf623da1e850e0f1,0xf7b10bfcdd038a72,0xa3dc291825cea3f7,
    0xf253adc699c9fd24,0x02cdd89845211e0d,0xc7c1caa4c7286944,0x5f51ad71c8dc9433,
    0x9c3bae886d2ffd3a,0x8721f6244624a996,0x0cd305fbcc2e4d03,0x2bbbef11df7e714a,
    0xea6a3d9c467b9766,0x9f02f864cb7c7cd3,0x9f79cfa01eb3a0f6,0xc1e164748d9c4ecb,
    0x0ffd437efd6e8f30,0x6254dcb278d2fb65,0x46a9a2e228ca25c4,0x104e006a2e19ba8b,
    0xe3c4063fd7cec42e,0x6f3dc933eee3bdb7,0xfa5822ee4346d855,0xfdf340d937301ebb,
    0x38f634b7cdb6908b,0x456e6abf50de30c8,0xd70c1fe738cad2c4,0xa3e59a63968cc6e1,
    0xe51cdf4fed6741cb,0xd1d983ea87c3ea8f,0x0cd84489c68f7b4b,0x510869f66298a7cf,
    0x57252b046fc4ac9d,0x30380a05e0a5c278,0xba412433bba63ce9,0xcee1ab93a5b40cc2,
    0xfc189454e1dc4fe8,0xf9e8a13a96072415,0xec6452917b7dc983,0xe3caebc8b9ea5d79,
    0x16b60b721307b403,0x51300365a14f86a1,0xd22035cb8b01f976,0x97f093d27bf05928,
    0x5c0c0e3df00d264c,0x1455ea638f8ff5da,0x00e419e6f78dcae1,0x6e83c3a6b43fdcd3,
    0x8e70f5a400603714,0x5bc0dbf6915fe849,0xb257110a49af6412,0xcd3da4cf0228e56c,
    0x6414d65d3c119eff,0x39902e0c0a9f9b84,0x9af41a5ce58fa003,0x03312db942a865b8,
    0xfe95a3a9f8b1b950,0x0aec59db5f515585,0x104eea317809e86f,0x6e3eda646b3724df]]

/-- `p256_comb_table`. -/
def combBlocks : List (List Nat) :=
  combBlocks0 ++ combBlocks8 ++ combBlocks16 ++ combBlocks24 ++ combBlocks32 ++ combBlocks40 ++ combBlocks48 ++ combBlocks56

/-- Entry `[i][j]`. -/
def p256_comb_table (i j : Nat) : AffinePoint :=
  let entry := (combBlocks.getD i []).drop (8 * (j - 1))
  ⟨(entry.take 4).map (BitVec.ofNat 64),((entry.drop 4).take 4).map (BitVec.ofNat 64)⟩

/-! ### Entries from entries -/

def AffinePoint.triple (a : AffinePoint) : Triple := ⟨value a.x,value a.y,1⟩

/-- The coordinates are canonical, and those of the point. -/
structure Shows (t : Triple) (a : AffinePoint) : Prop where
  finite : t.Z % prime ≠ 0
  x : a.x.length = 4 ∧ value a.x < prime
  y : a.y.length = 4 ∧ value a.y < prime
  first : t.X % prime = value a.x * t.Z^2 % prime
  second : t.Y % prime = value a.y * t.Z^3 % prime

instance (t : Triple) (a : AffinePoint) : Decidable (Shows t a) :=
  decidable_of_iff ((t.Z % prime ≠ 0 ∧ (a.x.length = 4 ∧ value a.x < prime) ∧ a.y.length = 4 ∧ value a.y < prime) ∧
    t.X % prime = value a.x * t.Z^2 % prime ∧ t.Y % prime = value a.y * t.Z^3 % prime)
    ⟨fun ⟨⟨finite,x,y⟩,first,second⟩ => ⟨finite,x,y,first,second⟩,
      fun shows' => ⟨⟨shows'.finite,shows'.x,shows'.y⟩,shows'.first,shows'.second⟩⟩

theorem Shows.located {t : Triple} {a : AffinePoint} {P : CurvePoint} (shows' : Shows t a) (stands : t.Stands P) :
    Located a P ∧ a.triple.Stands P := by
  have finite := mt (cast_eq_zero _).mp shows'.finite
  have first := (ZMod.natCast_eq_natCast_iff' _ _ _).mpr shows'.first
  have second := (ZMod.natCast_eq_natCast_iff' _ _ _).mpr shows'.second
  rw [Nat.cast_mul,Nat.cast_pow] at first second
  cases P with
  | zero => exact absurd stands finite
  | some x y on =>
    obtain ⟨_,left,right⟩ := stands
    have level : (value a.x : ZMod prime) = x := mul_right_cancel₀ (pow_ne_zero 2 finite) (first.symm.trans left)
    have level' : (value a.y : ZMod prime) = y := mul_right_cancel₀ (pow_ne_zero 3 finite) (second.symm.trans right)
    refine ⟨⟨⟨⟨shows'.x.1,shows'.x.2⟩,level⟩,⟨⟨shows'.y.1,shows'.y.2⟩,level'⟩⟩,?_⟩
    exact ⟨by simp [AffinePoint.triple],by simp [AffinePoint.triple,level],by simp [AffinePoint.triple,level']⟩

/-- What follows from the entries before it: twice the last but seven for the first entry of a block, twice the first for the
    second, and for the others a sum with the first. -/
structure Linked (comb : Nat → Nat → AffinePoint) : Prop where
  base : Shows baseTriple (comb 0 1)
  next : ∀ i < 63, Shows (comb i 8).triple.double (comb (i + 1) 1)
  double : ∀ i < 64, Shows (comb i 1).triple.double (comb i 2)
  add : ∀ i < 64, ∀ j < 13, ((comb i (j + 2)).triple.add (comb i 1).triple).any (Shows · (comb i (j + 3)))

section
variable {comb : Nat → Nat → AffinePoint}

theorem Linked.block (linked : Linked comb) {i : Nat} (inside : i < 64) {P : CurvePoint} (first : Located (comb i 1) P)
    (stands : (comb i 1).triple.Stands P) (j : Nat) (last : j < 15) :
    Located (comb i (j + 1)) ((j + 1) • P) ∧ (comb i (j + 1)).triple.Stands ((j + 1) • P) := by
  induction j with
  | zero =>
    rw [zero_add,one_nsmul]
    exact ⟨first,stands⟩
  | succ j ih =>
    obtain ⟨_,before⟩ := ih (Nat.lt_of_succ_lt last)
    cases j with
    | zero =>
      rw [zero_add,one_nsmul] at before
      rw [two_nsmul]
      exact (linked.double i inside).located before.double
    | succ j =>
      obtain ⟨t,sum,shows'⟩ := (Option.any_eq_true _ _).mp (linked.add i inside j (by omega))
      rw [succ_nsmul]
      exact (of_decide_eq_true shows').located (before.add stands sum)

theorem Linked.table (linked : Linked comb) : CombTable comb := by
  have first : ∀ i < 64, Located (comb i 1) (16^i • P256.base) ∧ (comb i 1).triple.Stands (16^i • P256.base) := by
    intro i
    induction i with
    | zero =>
      intro _
      rw [pow_zero,one_nsmul]
      exact linked.base.located base_stands
    | succ i ih =>
      intro inside
      obtain ⟨located,stands⟩ := ih (Nat.lt_of_succ_lt inside)
      have eighth := (linked.block (Nat.lt_of_succ_lt inside) located stands 7 (by decide)).2.double
      have weight : (7 + 1) • 16^i • P256.base + (7 + 1) • 16^i • P256.base = 16^(i+1) • P256.base := by
        rw [← mul_nsmul',← add_nsmul]
        congr 1
        ring
      rw [weight] at eighth
      exact (linked.next i (Nat.lt_of_succ_lt_succ inside)).located eighth
  intro i inside j low high
  obtain ⟨located,stands⟩ := first i inside
  obtain ⟨k,rfl⟩ : ∃ k, j = k + 1 := ⟨j - 1,by omega⟩
  rw [mul_nsmul']
  exact (linked.block inside located stands k (by omega)).1

end

theorem p256_comb_table_linked : Linked p256_comb_table where
  base := by decide +kernel
  next := by decide +kernel
  double := by decide +kernel
  add := by decide +kernel

/-- The table is that of the multiples, and the comb over it multiplies the base point, for every number of 256 bits. -/
theorem p256_comb_table_multiplies : CombTable p256_comb_table ∧
    ∀ k : List Limb, k.length = 4 → Located (p256_point_mul_base p256_comb_table k) (value k • base) :=
  ⟨p256_comb_table_linked.table,fun _ length => point_mul_base_located p256_comb_table_linked.table length⟩

end Sarm.P256
