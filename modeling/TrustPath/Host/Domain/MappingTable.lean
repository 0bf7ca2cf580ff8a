import TrustPath.Text.CodePoints

/-!
# Data for the characters of domains

Which characters may occur in the name of a domain, and what the variants of letters and digits
become there: the mapping table of the compatibility processing of internationalized names.
Capitals become lowercase and are only listed where that is not enough.
-/

namespace TrustPath.Domain

open Text

/-- The characters that may occur, many of them only in place of others. -/
def allowed : CodePoints :=
  [
   (0x0, 0x7f), (0xa0, 0x377), (0x37a, 0x37f), (0x384, 0x38a), (0x38c, 0x38c), (0x38e, 0x3a1),
   (0x3a3, 0x52f), (0x531, 0x556), (0x559, 0x58a), (0x58d, 0x58f), (0x591, 0x5c7), (0x5d0, 0x5ea),
   (0x5ef, 0x5f4), (0x606, 0x61b), (0x61d, 0x6dc), (0x6de, 0x70d), (0x710, 0x74a), (0x74d, 0x7b1),
   (0x7c0, 0x7fa), (0x7fd, 0x82d), (0x830, 0x83e), (0x840, 0x85b), (0x85e, 0x85e), (0x860, 0x86a),
   (0x870, 0x88e), (0x898, 0x8e1), (0x8e3, 0x983), (0x985, 0x98c), (0x98f, 0x990), (0x993, 0x9a8),
   (0x9aa, 0x9b0), (0x9b2, 0x9b2), (0x9b6, 0x9b9), (0x9bc, 0x9c4), (0x9c7, 0x9c8), (0x9cb, 0x9ce),
   (0x9d7, 0x9d7), (0x9dc, 0x9dd), (0x9df, 0x9e3), (0x9e6, 0x9fe), (0xa01, 0xa03), (0xa05, 0xa0a),
   (0xa0f, 0xa10), (0xa13, 0xa28), (0xa2a, 0xa30), (0xa32, 0xa33), (0xa35, 0xa36), (0xa38, 0xa39),
   (0xa3c, 0xa3c), (0xa3e, 0xa42), (0xa47, 0xa48), (0xa4b, 0xa4d), (0xa51, 0xa51), (0xa59, 0xa5c),
   (0xa5e, 0xa5e), (0xa66, 0xa76), (0xa81, 0xa83), (0xa85, 0xa8d), (0xa8f, 0xa91), (0xa93, 0xaa8),
   (0xaaa, 0xab0), (0xab2, 0xab3), (0xab5, 0xab9), (0xabc, 0xac5), (0xac7, 0xac9), (0xacb, 0xacd),
   (0xad0, 0xad0), (0xae0, 0xae3), (0xae6, 0xaf1), (0xaf9, 0xaff), (0xb01, 0xb03), (0xb05, 0xb0c),
   (0xb0f, 0xb10), (0xb13, 0xb28), (0xb2a, 0xb30), (0xb32, 0xb33), (0xb35, 0xb39), (0xb3c, 0xb44),
   (0xb47, 0xb48), (0xb4b, 0xb4d), (0xb55, 0xb57), (0xb5c, 0xb5d), (0xb5f, 0xb63), (0xb66, 0xb77),
   (0xb82, 0xb83), (0xb85, 0xb8a), (0xb8e, 0xb90), (0xb92, 0xb95), (0xb99, 0xb9a), (0xb9c, 0xb9c),
   (0xb9e, 0xb9f), (0xba3, 0xba4), (0xba8, 0xbaa), (0xbae, 0xbb9), (0xbbe, 0xbc2), (0xbc6, 0xbc8),
   (0xbca, 0xbcd), (0xbd0, 0xbd0), (0xbd7, 0xbd7), (0xbe6, 0xbfa), (0xc00, 0xc0c), (0xc0e, 0xc10),
   (0xc12, 0xc28), (0xc2a, 0xc39), (0xc3c, 0xc44), (0xc46, 0xc48), (0xc4a, 0xc4d), (0xc55, 0xc56),
   (0xc58, 0xc5a), (0xc5d, 0xc5d), (0xc60, 0xc63), (0xc66, 0xc6f), (0xc77, 0xc8c), (0xc8e, 0xc90),
   (0xc92, 0xca8), (0xcaa, 0xcb3), (0xcb5, 0xcb9), (0xcbc, 0xcc4), (0xcc6, 0xcc8), (0xcca, 0xccd),
   (0xcd5, 0xcd6), (0xcdd, 0xcde), (0xce0, 0xce3), (0xce6, 0xcef), (0xcf1, 0xcf3), (0xd00, 0xd0c),
   (0xd0e, 0xd10), (0xd12, 0xd44), (0xd46, 0xd48), (0xd4a, 0xd4f), (0xd54, 0xd63), (0xd66, 0xd7f),
   (0xd81, 0xd83), (0xd85, 0xd96), (0xd9a, 0xdb1), (0xdb3, 0xdbb), (0xdbd, 0xdbd), (0xdc0, 0xdc6),
   (0xdca, 0xdca), (0xdcf, 0xdd4), (0xdd6, 0xdd6), (0xdd8, 0xddf), (0xde6, 0xdef), (0xdf2, 0xdf4),
   (0xe01, 0xe3a), (0xe3f, 0xe5b), (0xe81, 0xe82), (0xe84, 0xe84), (0xe86, 0xe8a), (0xe8c, 0xea3),
   (0xea5, 0xea5), (0xea7, 0xebd), (0xec0, 0xec4), (0xec6, 0xec6), (0xec8, 0xece), (0xed0, 0xed9),
   (0xedc, 0xedf), (0xf00, 0xf47), (0xf49, 0xf6c), (0xf71, 0xf97), (0xf99, 0xfbc), (0xfbe, 0xfcc),
   (0xfce, 0xfda), (0x1000, 0x10c5), (0x10c7, 0x10c7), (0x10cd, 0x10cd), (0x10d0, 0x1248),
   (0x124a, 0x124d), (0x1250, 0x1256), (0x1258, 0x1258), (0x125a, 0x125d), (0x1260, 0x1288),
   (0x128a, 0x128d), (0x1290, 0x12b0), (0x12b2, 0x12b5), (0x12b8, 0x12be), (0x12c0, 0x12c0),
   (0x12c2, 0x12c5), (0x12c8, 0x12d6), (0x12d8, 0x1310), (0x1312, 0x1315), (0x1318, 0x135a),
   (0x135d, 0x137c), (0x1380, 0x1399), (0x13a0, 0x13f5), (0x13f8, 0x13fd), (0x1400, 0x167f),
   (0x1681, 0x169c), (0x16a0, 0x16f8), (0x1700, 0x1715), (0x171f, 0x1736), (0x1740, 0x1753),
   (0x1760, 0x176c), (0x176e, 0x1770), (0x1772, 0x1773), (0x1780, 0x17dd), (0x17e0, 0x17e9),
   (0x17f0, 0x17f9), (0x1800, 0x1819), (0x1820, 0x1878), (0x1880, 0x18aa), (0x18b0, 0x18f5),
   (0x1900, 0x191e), (0x1920, 0x192b), (0x1930, 0x193b), (0x1940, 0x1940), (0x1944, 0x196d),
   (0x1970, 0x1974), (0x1980, 0x19ab), (0x19b0, 0x19c9), (0x19d0, 0x19da), (0x19de, 0x1a1b),
   (0x1a1e, 0x1a5e), (0x1a60, 0x1a7c), (0x1a7f, 0x1a89), (0x1a90, 0x1a99), (0x1aa0, 0x1aad),
   (0x1ab0, 0x1ace), (0x1b00, 0x1b4c), (0x1b50, 0x1b7e), (0x1b80, 0x1bf3), (0x1bfc, 0x1c37),
   (0x1c3b, 0x1c49), (0x1c4d, 0x1c88), (0x1c90, 0x1cba), (0x1cbd, 0x1cc7), (0x1cd0, 0x1cfa),
   (0x1d00, 0x1f15), (0x1f18, 0x1f1d), (0x1f20, 0x1f45), (0x1f48, 0x1f4d), (0x1f50, 0x1f57),
   (0x1f59, 0x1f59), (0x1f5b, 0x1f5b), (0x1f5d, 0x1f5d), (0x1f5f, 0x1f7d), (0x1f80, 0x1fb4),
   (0x1fb6, 0x1fc4), (0x1fc6, 0x1fd3), (0x1fd6, 0x1fdb), (0x1fdd, 0x1fef), (0x1ff2, 0x1ff4),
   (0x1ff6, 0x1ffe), (0x2000, 0x200d), (0x2010, 0x2023), (0x2027, 0x2027), (0x202f, 0x2064),
   (0x206a, 0x2071), (0x2074, 0x208e), (0x2090, 0x209c), (0x20a0, 0x20c0), (0x20d0, 0x20f0),
   (0x2100, 0x218b), (0x2190, 0x2426), (0x2440, 0x244a), (0x2460, 0x2487), (0x249c, 0x2b73),
   (0x2b76, 0x2b95), (0x2b97, 0x2cf3), (0x2cf9, 0x2d25), (0x2d27, 0x2d27), (0x2d2d, 0x2d2d),
   (0x2d30, 0x2d67), (0x2d6f, 0x2d70), (0x2d7f, 0x2d96), (0x2da0, 0x2da6), (0x2da8, 0x2dae),
   (0x2db0, 0x2db6), (0x2db8, 0x2dbe), (0x2dc0, 0x2dc6), (0x2dc8, 0x2dce), (0x2dd0, 0x2dd6),
   (0x2dd8, 0x2dde), (0x2de0, 0x2e5d), (0x2e80, 0x2e99), (0x2e9b, 0x2ef3), (0x2f00, 0x2fd5),
   (0x3000, 0x303f), (0x3041, 0x3096), (0x3099, 0x30ff), (0x3105, 0x312f), (0x3131, 0x318e),
   (0x3190, 0x31e3), (0x31f0, 0x321e), (0x3220, 0x33c1), (0x33c3, 0x33c6), (0x33c8, 0x33d7),
   (0x33d9, 0xa48c), (0xa490, 0xa4c6), (0xa4d0, 0xa62b), (0xa640, 0xa6f7), (0xa700, 0xa7ca),
   (0xa7d0, 0xa7d1), (0xa7d3, 0xa7d3), (0xa7d5, 0xa7d9), (0xa7f2, 0xa82c), (0xa830, 0xa839),
   (0xa840, 0xa877), (0xa880, 0xa8c5), (0xa8ce, 0xa8d9), (0xa8e0, 0xa953), (0xa95f, 0xa97c),
   (0xa980, 0xa9cd), (0xa9cf, 0xa9d9), (0xa9de, 0xa9fe), (0xaa00, 0xaa36), (0xaa40, 0xaa4d),
   (0xaa50, 0xaa59), (0xaa5c, 0xaac2), (0xaadb, 0xaaf6), (0xab01, 0xab06), (0xab09, 0xab0e),
   (0xab11, 0xab16), (0xab20, 0xab26), (0xab28, 0xab2e), (0xab30, 0xab6b), (0xab70, 0xabed),
   (0xabf0, 0xabf9), (0xac00, 0xd7a3), (0xd7b0, 0xd7c6), (0xd7cb, 0xd7fb), (0xf900, 0xfa6d),
   (0xfa70, 0xfad9), (0xfb00, 0xfb06), (0xfb13, 0xfb17), (0xfb1d, 0xfb36), (0xfb38, 0xfb3c),
   (0xfb3e, 0xfb3e), (0xfb40, 0xfb41), (0xfb43, 0xfb44), (0xfb46, 0xfbc2), (0xfbd3, 0xfd8f),
   (0xfd92, 0xfdc7), (0xfdcf, 0xfdcf), (0xfdf0, 0xfe11), (0xfe13, 0xfe18), (0xfe20, 0xfe2f),
   (0xfe31, 0xfe51), (0xfe54, 0xfe66), (0xfe68, 0xfe6b), (0xfe70, 0xfe74), (0xfe76, 0xfefc),
   (0xfeff, 0xfeff), (0xff01, 0xffbe), (0xffc2, 0xffc7), (0xffca, 0xffcf), (0xffd2, 0xffd7),
   (0xffda, 0xffdc), (0xffe0, 0xffe6), (0xffe8, 0xffee), (0x10000, 0x1000b), (0x1000d, 0x10026),
   (0x10028, 0x1003a), (0x1003c, 0x1003d), (0x1003f, 0x1004d), (0x10050, 0x1005d),
   (0x10080, 0x100fa), (0x10100, 0x10102), (0x10107, 0x10133), (0x10137, 0x1018e),
   (0x10190, 0x1019c), (0x101a0, 0x101a0), (0x101d0, 0x101fd), (0x10280, 0x1029c),
   (0x102a0, 0x102d0), (0x102e0, 0x102fb), (0x10300, 0x10323), (0x1032d, 0x1034a),
   (0x10350, 0x1037a), (0x10380, 0x1039d), (0x1039f, 0x103c3), (0x103c8, 0x103d5),
   (0x10400, 0x1049d), (0x104a0, 0x104a9), (0x104b0, 0x104d3), (0x104d8, 0x104fb),
   (0x10500, 0x10527), (0x10530, 0x10563), (0x1056f, 0x1057a), (0x1057c, 0x1058a),
   (0x1058c, 0x10592), (0x10594, 0x10595), (0x10597, 0x105a1), (0x105a3, 0x105b1),
   (0x105b3, 0x105b9), (0x105bb, 0x105bc), (0x10600, 0x10736), (0x10740, 0x10755),
   (0x10760, 0x10767), (0x10780, 0x10785), (0x10787, 0x107b0), (0x107b2, 0x107ba),
   (0x10800, 0x10805), (0x10808, 0x10808), (0x1080a, 0x10835), (0x10837, 0x10838),
   (0x1083c, 0x1083c), (0x1083f, 0x10855), (0x10857, 0x1089e), (0x108a7, 0x108af),
   (0x108e0, 0x108f2), (0x108f4, 0x108f5), (0x108fb, 0x1091b), (0x1091f, 0x10939),
   (0x1093f, 0x1093f), (0x10980, 0x109b7), (0x109bc, 0x109cf), (0x109d2, 0x10a03),
   (0x10a05, 0x10a06), (0x10a0c, 0x10a13), (0x10a15, 0x10a17), (0x10a19, 0x10a35),
   (0x10a38, 0x10a3a), (0x10a3f, 0x10a48), (0x10a50, 0x10a58), (0x10a60, 0x10a9f),
   (0x10ac0, 0x10ae6), (0x10aeb, 0x10af6), (0x10b00, 0x10b35), (0x10b39, 0x10b55),
   (0x10b58, 0x10b72), (0x10b78, 0x10b91), (0x10b99, 0x10b9c), (0x10ba9, 0x10baf),
   (0x10c00, 0x10c48), (0x10c80, 0x10cb2), (0x10cc0, 0x10cf2), (0x10cfa, 0x10d27),
   (0x10d30, 0x10d39), (0x10e60, 0x10e7e), (0x10e80, 0x10ea9), (0x10eab, 0x10ead),
   (0x10eb0, 0x10eb1), (0x10efd, 0x10f27), (0x10f30, 0x10f59), (0x10f70, 0x10f89),
   (0x10fb0, 0x10fcb), (0x10fe0, 0x10ff6), (0x11000, 0x1104d), (0x11052, 0x11075),
   (0x1107f, 0x110bc), (0x110be, 0x110c2), (0x110d0, 0x110e8), (0x110f0, 0x110f9),
   (0x11100, 0x11134), (0x11136, 0x11147), (0x11150, 0x11176), (0x11180, 0x111df),
   (0x111e1, 0x111f4), (0x11200, 0x11211), (0x11213, 0x11241), (0x11280, 0x11286),
   (0x11288, 0x11288), (0x1128a, 0x1128d), (0x1128f, 0x1129d), (0x1129f, 0x112a9),
   (0x112b0, 0x112ea), (0x112f0, 0x112f9), (0x11300, 0x11303), (0x11305, 0x1130c),
   (0x1130f, 0x11310), (0x11313, 0x11328), (0x1132a, 0x11330), (0x11332, 0x11333),
   (0x11335, 0x11339), (0x1133b, 0x11344), (0x11347, 0x11348), (0x1134b, 0x1134d),
   (0x11350, 0x11350), (0x11357, 0x11357), (0x1135d, 0x11363), (0x11366, 0x1136c),
   (0x11370, 0x11374), (0x11400, 0x1145b), (0x1145d, 0x11461), (0x11480, 0x114c7),
   (0x114d0, 0x114d9), (0x11580, 0x115b5), (0x115b8, 0x115dd), (0x11600, 0x11644),
   (0x11650, 0x11659), (0x11660, 0x1166c), (0x11680, 0x116b9), (0x116c0, 0x116c9),
   (0x11700, 0x1171a), (0x1171d, 0x1172b), (0x11730, 0x11746), (0x11800, 0x1183b),
   (0x118a0, 0x118f2), (0x118ff, 0x11906), (0x11909, 0x11909), (0x1190c, 0x11913),
   (0x11915, 0x11916), (0x11918, 0x11935), (0x11937, 0x11938), (0x1193b, 0x11946),
   (0x11950, 0x11959), (0x119a0, 0x119a7), (0x119aa, 0x119d7), (0x119da, 0x119e4),
   (0x11a00, 0x11a47), (0x11a50, 0x11aa2), (0x11ab0, 0x11af8), (0x11b00, 0x11b09),
   (0x11c00, 0x11c08), (0x11c0a, 0x11c36), (0x11c38, 0x11c45), (0x11c50, 0x11c6c),
   (0x11c70, 0x11c8f), (0x11c92, 0x11ca7), (0x11ca9, 0x11cb6), (0x11d00, 0x11d06),
   (0x11d08, 0x11d09), (0x11d0b, 0x11d36), (0x11d3a, 0x11d3a), (0x11d3c, 0x11d3d),
   (0x11d3f, 0x11d47), (0x11d50, 0x11d59), (0x11d60, 0x11d65), (0x11d67, 0x11d68),
   (0x11d6a, 0x11d8e), (0x11d90, 0x11d91), (0x11d93, 0x11d98), (0x11da0, 0x11da9),
   (0x11ee0, 0x11ef8), (0x11f00, 0x11f10), (0x11f12, 0x11f3a), (0x11f3e, 0x11f59),
   (0x11fb0, 0x11fb0), (0x11fc0, 0x11ff1), (0x11fff, 0x12399), (0x12400, 0x1246e),
   (0x12470, 0x12474), (0x12480, 0x12543), (0x12f90, 0x12ff2), (0x13000, 0x1342f),
   (0x13440, 0x13455), (0x14400, 0x14646), (0x16800, 0x16a38), (0x16a40, 0x16a5e),
   (0x16a60, 0x16a69), (0x16a6e, 0x16abe), (0x16ac0, 0x16ac9), (0x16ad0, 0x16aed),
   (0x16af0, 0x16af5), (0x16b00, 0x16b45), (0x16b50, 0x16b59), (0x16b5b, 0x16b61),
   (0x16b63, 0x16b77), (0x16b7d, 0x16b8f), (0x16e40, 0x16e9a), (0x16f00, 0x16f4a),
   (0x16f4f, 0x16f87), (0x16f8f, 0x16f9f), (0x16fe0, 0x16fe4), (0x16ff0, 0x16ff1),
   (0x17000, 0x187f7), (0x18800, 0x18cd5), (0x18d00, 0x18d08), (0x1aff0, 0x1aff3),
   (0x1aff5, 0x1affb), (0x1affd, 0x1affe), (0x1b000, 0x1b122), (0x1b132, 0x1b132),
   (0x1b150, 0x1b152), (0x1b155, 0x1b155), (0x1b164, 0x1b167), (0x1b170, 0x1b2fb),
   (0x1bc00, 0x1bc6a), (0x1bc70, 0x1bc7c), (0x1bc80, 0x1bc88), (0x1bc90, 0x1bc99),
   (0x1bc9c, 0x1bca3), (0x1cf00, 0x1cf2d), (0x1cf30, 0x1cf46), (0x1cf50, 0x1cfc3),
   (0x1d000, 0x1d0f5), (0x1d100, 0x1d126), (0x1d129, 0x1d1ea), (0x1d200, 0x1d245),
   (0x1d2c0, 0x1d2d3), (0x1d2e0, 0x1d2f3), (0x1d300, 0x1d356), (0x1d360, 0x1d378),
   (0x1d400, 0x1d454), (0x1d456, 0x1d49c), (0x1d49e, 0x1d49f), (0x1d4a2, 0x1d4a2),
   (0x1d4a5, 0x1d4a6), (0x1d4a9, 0x1d4ac), (0x1d4ae, 0x1d4b9), (0x1d4bb, 0x1d4bb),
   (0x1d4bd, 0x1d4c3), (0x1d4c5, 0x1d505), (0x1d507, 0x1d50a), (0x1d50d, 0x1d514),
   (0x1d516, 0x1d51c), (0x1d51e, 0x1d539), (0x1d53b, 0x1d53e), (0x1d540, 0x1d544),
   (0x1d546, 0x1d546), (0x1d54a, 0x1d550), (0x1d552, 0x1d6a5), (0x1d6a8, 0x1d7cb),
   (0x1d7ce, 0x1da8b), (0x1da9b, 0x1da9f), (0x1daa1, 0x1daaf), (0x1df00, 0x1df1e),
   (0x1df25, 0x1df2a), (0x1e000, 0x1e006), (0x1e008, 0x1e018), (0x1e01b, 0x1e021),
   (0x1e023, 0x1e024), (0x1e026, 0x1e02a), (0x1e030, 0x1e06d), (0x1e08f, 0x1e08f),
   (0x1e100, 0x1e12c), (0x1e130, 0x1e13d), (0x1e140, 0x1e149), (0x1e14e, 0x1e14f),
   (0x1e290, 0x1e2ae), (0x1e2c0, 0x1e2f9), (0x1e2ff, 0x1e2ff), (0x1e4d0, 0x1e4f9),
   (0x1e7e0, 0x1e7e6), (0x1e7e8, 0x1e7eb), (0x1e7ed, 0x1e7ee), (0x1e7f0, 0x1e7fe),
   (0x1e800, 0x1e8c4), (0x1e8c7, 0x1e8d6), (0x1e900, 0x1e94b), (0x1e950, 0x1e959),
   (0x1e95e, 0x1e95f), (0x1ec71, 0x1ecb4), (0x1ed01, 0x1ed3d), (0x1ee00, 0x1ee03),
   (0x1ee05, 0x1ee1f), (0x1ee21, 0x1ee22), (0x1ee24, 0x1ee24), (0x1ee27, 0x1ee27),
   (0x1ee29, 0x1ee32), (0x1ee34, 0x1ee37), (0x1ee39, 0x1ee39), (0x1ee3b, 0x1ee3b),
   (0x1ee42, 0x1ee42), (0x1ee47, 0x1ee47), (0x1ee49, 0x1ee49), (0x1ee4b, 0x1ee4b),
   (0x1ee4d, 0x1ee4f), (0x1ee51, 0x1ee52), (0x1ee54, 0x1ee54), (0x1ee57, 0x1ee57),
   (0x1ee59, 0x1ee59), (0x1ee5b, 0x1ee5b), (0x1ee5d, 0x1ee5d), (0x1ee5f, 0x1ee5f),
   (0x1ee61, 0x1ee62), (0x1ee64, 0x1ee64), (0x1ee67, 0x1ee6a), (0x1ee6c, 0x1ee72),
   (0x1ee74, 0x1ee77), (0x1ee79, 0x1ee7c), (0x1ee7e, 0x1ee7e), (0x1ee80, 0x1ee89),
   (0x1ee8b, 0x1ee9b), (0x1eea1, 0x1eea3), (0x1eea5, 0x1eea9), (0x1eeab, 0x1eebb),
   (0x1eef0, 0x1eef1), (0x1f000, 0x1f02b), (0x1f030, 0x1f093), (0x1f0a0, 0x1f0ae),
   (0x1f0b1, 0x1f0bf), (0x1f0c1, 0x1f0cf), (0x1f0d1, 0x1f0f5), (0x1f101, 0x1f1ad),
   (0x1f1e6, 0x1f202), (0x1f210, 0x1f23b), (0x1f240, 0x1f248), (0x1f250, 0x1f251),
   (0x1f260, 0x1f265), (0x1f300, 0x1f6d7), (0x1f6dc, 0x1f6ec), (0x1f6f0, 0x1f6fc),
   (0x1f700, 0x1f776), (0x1f77b, 0x1f7d9), (0x1f7e0, 0x1f7eb), (0x1f7f0, 0x1f7f0),
   (0x1f800, 0x1f80b), (0x1f810, 0x1f847), (0x1f850, 0x1f859), (0x1f860, 0x1f887),
   (0x1f890, 0x1f8ad), (0x1f8b0, 0x1f8b1), (0x1f900, 0x1fa53), (0x1fa60, 0x1fa6d),
   (0x1fa70, 0x1fa7c), (0x1fa80, 0x1fa88), (0x1fa90, 0x1fabd), (0x1fabf, 0x1fac5),
   (0x1face, 0x1fadb), (0x1fae0, 0x1fae8), (0x1faf0, 0x1faf8), (0x1fb00, 0x1fb92),
   (0x1fb94, 0x1fbca), (0x1fbf0, 0x1fbf9), (0x20000, 0x2a6df), (0x2a700, 0x2b739),
   (0x2b740, 0x2b81d), (0x2b820, 0x2cea1), (0x2ceb0, 0x2ebe0), (0x2f800, 0x2fa1d),
   (0x30000, 0x3134a), (0x31350, 0x323af), (0xe0100, 0xe01ef)]

/-- The characters that are left out. -/
def ignored : CodePoints :=
  [
   (0xad, 0xad), (0x34f, 0x34f), (0x115f, 0x1160), (0x17b4, 0x17b5), (0x180b, 0x180f),
   (0x200b, 0x200b), (0x2060, 0x2064), (0x206a, 0x206f), (0x3164, 0x3164), (0xfe00, 0xfe0f),
   (0xfeff, 0xfeff), (0xffa0, 0xffa0), (0x1bca0, 0x1bca3), (0x1d173, 0x1d17a), (0xe0100, 0xe01ef)]

/-- The capitals that stay as they are: those of Cherokee, whose lowercase forms came later. -/
def keptCapitals : CodePoints := [(0x13a0, 0x13f5)]

/-- The characters that move to another one over the same distance as their neighbours. -/
def moved : List CodePointRun :=
  [
   ⟨0x13f8, 0x13fd, 1, -8⟩, ⟨0x1d31, 0x1d39, 2, -7372⟩, ⟨0x1d34, 0x1d3a, 2, -7372⟩,
   ⟨0x1d5d, 0x1d5f, 1, -6571⟩, ⟨0x1da4, 0x1da6, 1, -6972⟩, ⟨0x1dae, 0x1db1, 1, -6972⟩,
   ⟨0x1dbc, 0x1dbe, 1, -6956⟩, ⟨0x2074, 0x2079, 1, -8256⟩, ⟨0x2080, 0x2089, 1, -8272⟩,
   ⟨0x2096, 0x2099, 1, -8235⟩, ⟨0x2119, 0x211b, 1, -8361⟩, ⟨0x2135, 0x2138, 1, -7013⟩,
   ⟨0x2460, 0x2468, 1, -9263⟩, ⟨0x24b6, 0x24cf, 1, -9301⟩, ⟨0x24d0, 0x24e9, 1, -9327⟩,
   ⟨0x3137, 0x3139, 1, -8244⟩, ⟨0x313a, 0x313f, 1, -8074⟩, ⟨0x3141, 0x3143, 1, -8251⟩,
   ⟨0x3145, 0x314e, 1, -8252⟩, ⟨0x314f, 0x3163, 1, -8174⟩, ⟨0x3178, 0x317c, 1, -8269⟩,
   ⟨0x3184, 0x3186, 1, -8237⟩, ⟨0x3263, 0x3265, 1, -8542⟩, ⟨0x3269, 0x326d, 1, -8539⟩,
   ⟨0x32e4, 0x32e9, 1, -538⟩, ⟨0x32ee, 0x32f2, 1, -528⟩, ⟨0x32f5, 0x32fa, 1, -525⟩,
   ⟨0x32fb, 0x32fe, 1, -524⟩, ⟨0xab70, 0xabbf, 1, -38864⟩, ⟨0xfb24, 0xfb26, 1, -62793⟩,
   ⟨0xfe41, 0xfe44, 1, -52789⟩, ⟨0xff01, 0xff20, 1, -65248⟩, ⟨0xff21, 0xff3a, 1, -65216⟩,
   ⟨0xff3b, 0xff5e, 1, -65248⟩, ⟨0xff85, 0xff8a, 1, -52923⟩, ⟨0xff8f, 0xff93, 1, -52913⟩,
   ⟨0xff96, 0xff9b, 1, -52910⟩, ⟨0xffa7, 0xffa9, 1, -61092⟩, ⟨0xffaa, 0xffaf, 1, -60922⟩,
   ⟨0xffb1, 0xffb3, 1, -61099⟩, ⟨0xffb5, 0xffbe, 1, -61100⟩, ⟨0xffc2, 0xffc7, 1, -61025⟩,
   ⟨0xffca, 0xffcf, 1, -61027⟩, ⟨0xffd2, 0xffd7, 1, -61029⟩, ⟨0xffda, 0xffdc, 1, -61031⟩,
   ⟨0xffe9, 0xffec, 1, -56921⟩, ⟨0x107b6, 0x107b8, 1, -67062⟩, ⟨0x1d400, 0x1d419, 1, -119711⟩,
   ⟨0x1d41a, 0x1d433, 1, -119737⟩, ⟨0x1d434, 0x1d44d, 1, -119763⟩, ⟨0x1d44e, 0x1d466, 2, -119789⟩,
   ⟨0x1d44f, 0x1d453, 2, -119789⟩, ⟨0x1d457, 0x1d467, 2, -119789⟩, ⟨0x1d468, 0x1d481, 1, -119815⟩,
   ⟨0x1d482, 0x1d49b, 1, -119841⟩, ⟨0x1d4a9, 0x1d4ac, 1, -119867⟩, ⟨0x1d4ae, 0x1d4b5, 1, -119867⟩,
   ⟨0x1d4b6, 0x1d4b9, 1, -119893⟩, ⟨0x1d4bb, 0x1d4cf, 2, -119893⟩, ⟨0x1d4be, 0x1d4c2, 2, -119893⟩,
   ⟨0x1d4c6, 0x1d4ce, 2, -119893⟩, ⟨0x1d4d0, 0x1d4e9, 1, -119919⟩, ⟨0x1d4ea, 0x1d503, 1, -119945⟩,
   ⟨0x1d505, 0x1d509, 2, -119971⟩, ⟨0x1d50d, 0x1d514, 1, -119971⟩, ⟨0x1d516, 0x1d51c, 1, -119971⟩,
   ⟨0x1d51e, 0x1d537, 1, -119997⟩, ⟨0x1d539, 0x1d53d, 2, -120023⟩, ⟨0x1d53c, 0x1d546, 2, -120023⟩,
   ⟨0x1d54a, 0x1d550, 1, -120023⟩, ⟨0x1d552, 0x1d56b, 1, -120049⟩, ⟨0x1d56c, 0x1d585, 1, -120075⟩,
   ⟨0x1d586, 0x1d59f, 1, -120101⟩, ⟨0x1d5a0, 0x1d5b9, 1, -120127⟩, ⟨0x1d5ba, 0x1d5d3, 1, -120153⟩,
   ⟨0x1d5d4, 0x1d5ed, 1, -120179⟩, ⟨0x1d5ee, 0x1d607, 1, -120205⟩, ⟨0x1d608, 0x1d621, 1, -120231⟩,
   ⟨0x1d622, 0x1d63b, 1, -120257⟩, ⟨0x1d63c, 0x1d655, 1, -120283⟩, ⟨0x1d656, 0x1d66f, 1, -120309⟩,
   ⟨0x1d670, 0x1d689, 1, -120335⟩, ⟨0x1d68a, 0x1d6a3, 1, -120361⟩, ⟨0x1d6a8, 0x1d6b8, 1, -119543⟩,
   ⟨0x1d6ba, 0x1d6c0, 1, -119543⟩, ⟨0x1d6c2, 0x1d6d2, 1, -119569⟩, ⟨0x1d6d5, 0x1d6da, 1, -119569⟩,
   ⟨0x1d6e2, 0x1d6f2, 1, -119601⟩, ⟨0x1d6f4, 0x1d6fa, 1, -119601⟩, ⟨0x1d6fc, 0x1d70c, 1, -119627⟩,
   ⟨0x1d70f, 0x1d714, 1, -119627⟩, ⟨0x1d71c, 0x1d72c, 1, -119659⟩, ⟨0x1d72e, 0x1d734, 1, -119659⟩,
   ⟨0x1d736, 0x1d746, 1, -119685⟩, ⟨0x1d749, 0x1d74e, 1, -119685⟩, ⟨0x1d756, 0x1d766, 1, -119717⟩,
   ⟨0x1d768, 0x1d76e, 1, -119717⟩, ⟨0x1d770, 0x1d780, 1, -119743⟩, ⟨0x1d783, 0x1d788, 1, -119743⟩,
   ⟨0x1d790, 0x1d7a0, 1, -119775⟩, ⟨0x1d7a2, 0x1d7a8, 1, -119775⟩, ⟨0x1d7aa, 0x1d7ba, 1, -119801⟩,
   ⟨0x1d7bd, 0x1d7c2, 1, -119801⟩, ⟨0x1d7ce, 0x1d7d7, 1, -120734⟩, ⟨0x1d7d8, 0x1d7e1, 1, -120744⟩,
   ⟨0x1d7e2, 0x1d7eb, 1, -120754⟩, ⟨0x1d7ec, 0x1d7f5, 1, -120764⟩, ⟨0x1d7f6, 0x1d7ff, 1, -120774⟩,
   ⟨0x1e030, 0x1e038, 1, -121856⟩, ⟨0x1e039, 0x1e03b, 1, -121855⟩, ⟨0x1e03c, 0x1e046, 1, -121854⟩,
   ⟨0x1e051, 0x1e059, 1, -121889⟩, ⟨0x1e05f, 0x1e064, 1, -121884⟩, ⟨0x1ee0a, 0x1ee0d, 1, -124871⟩,
   ⟨0x1ee2a, 0x1ee2d, 1, -124903⟩, ⟨0x1ee8b, 0x1ee8d, 1, -124999⟩, ⟨0x1eeab, 0x1eead, 1, -125031⟩,
   ⟨0x1f130, 0x1f149, 1, -127183⟩, ⟨0x1fbf0, 0x1fbf9, 1, -129984⟩]

/-- The other characters that become something else, with what each of them becomes. -/
def spelled : CodePointMap String :=
  [
   (0xa0, [" "]), (0xa8, [" \u0308"]), (0xaa, ["a"]), (0xaf, [" \u0304"]),
   (0xb2, ["2", "3", " \u0301", "\u03bc"]), (0xb8, [" \u0327", "1", "o"]),
   (0xbc, ["1\u20444", "1\u20442", "3\u20444"]), (0x130, ["i\u0307"]), (0x132, ["ij", "ij"]),
   (0x13f, ["l\u00b7", "l\u00b7"]), (0x149, ["\u02bcn"]), (0x17f, ["s"]),
   (0x1c4, ["d\u017e", "d\u017e", "d\u017e", "lj", "lj", "lj", "nj", "nj", "nj"]),
   (0x1f1, ["dz", "dz", "dz"]),
   (0x2b0, ["h", "\u0266", "j", "r", "\u0279", "\u027b", "\u0281", "w", "y"]),
   (0x2d8, [" \u0306", " \u0307", " \u030a", " \u0328", " \u0303", " \u030b"]),
   (0x2e0, ["\u0263", "l", "s", "x", "\u0295"]), (0x345, ["\u03b9"]), (0x37a, [" \u03b9"]),
   (0x384, [" \u0301", " \u0308\u0301"]),
   (0x3d0, ["\u03b2", "\u03b8", "\u03c5", "\u03cd", "\u03cb", "\u03c6", "\u03c0"]),
   (0x3f0, ["\u03ba", "\u03c1", "\u03c3"]), (0x3f5, ["\u03b5"]), (0x3f9, ["\u03c3"]),
   (0x587, ["\u0565\u0582"]),
   (0x675, ["\u0627\u0674", "\u0648\u0674", "\u06c7\u0674", "\u064a\u0674"]),
   (0xe33, ["\u0e4d\u0e32"]), (0xeb3, ["\u0ecd\u0eb2"]),
   (0xedc, ["\u0eab\u0e99", "\u0eab\u0ea1"]), (0xf0c, ["\u0f0b"]),
   (0xf77, ["\u0fb2\u0f71\u0f80"]), (0xf79, ["\u0fb3\u0f71\u0f80"]), (0x10fc, ["\u10dc"]),
   (0x1c80,
     ["\u0432", "\u0434", "\u043e", "\u0441", "\u0442", "\u0442", "\u044a", "\u0463", "\ua64b"]),
   (0x1d2c, ["a", "\u00e6", "b"]), (0x1d30, ["d"]), (0x1d32, ["\u01dd"]),
   (0x1d3c,
     ["o", "\u0223", "p", "r", "t", "u", "w", "a", "\u0250", "\u0251", "\u1d02", "b", "d", "e",
     "\u0259", "\u025b", "\u025c", "g"]),
   (0x1d4f,
     ["k", "m", "\u014b", "o", "\u0254", "\u1d16", "\u1d17", "p", "t", "u", "\u1d1d", "\u026f",
     "v", "\u1d25"]),
   (0x1d60,
     ["\u03c6", "\u03c7", "i", "r", "u", "v", "\u03b2", "\u03b3", "\u03c1", "\u03c6", "\u03c7"]),
   (0x1d78, ["\u043d"]),
   (0x1d9b, ["\u0252", "c", "\u0255", "\u00f0", "\u025c", "f", "\u025f", "\u0261", "\u0265"]),
   (0x1da7, ["\u1d7b", "\u029d", "\u026d", "\u1d85", "\u029f", "\u0271", "\u0270"]),
   (0x1db2,
     ["\u0278", "\u0282", "\u0283", "\u01ab", "\u0289", "\u028a", "\u1d1c", "\u028b", "\u028c",
     "z"]),
   (0x1dbf, ["\u03b8"]), (0x1e9a, ["a\u02be", "\u1e61"]),
   (0x1f80,
     ["\u1f00\u03b9", "\u1f01\u03b9", "\u1f02\u03b9", "\u1f03\u03b9", "\u1f04\u03b9",
     "\u1f05\u03b9", "\u1f06\u03b9", "\u1f07\u03b9", "\u1f00\u03b9", "\u1f01\u03b9",
     "\u1f02\u03b9", "\u1f03\u03b9", "\u1f04\u03b9", "\u1f05\u03b9", "\u1f06\u03b9",
     "\u1f07\u03b9", "\u1f20\u03b9", "\u1f21\u03b9", "\u1f22\u03b9", "\u1f23\u03b9",
     "\u1f24\u03b9", "\u1f25\u03b9", "\u1f26\u03b9", "\u1f27\u03b9", "\u1f20\u03b9",
     "\u1f21\u03b9", "\u1f22\u03b9", "\u1f23\u03b9", "\u1f24\u03b9", "\u1f25\u03b9",
     "\u1f26\u03b9", "\u1f27\u03b9", "\u1f60\u03b9", "\u1f61\u03b9", "\u1f62\u03b9",
     "\u1f63\u03b9", "\u1f64\u03b9", "\u1f65\u03b9", "\u1f66\u03b9", "\u1f67\u03b9",
     "\u1f60\u03b9", "\u1f61\u03b9", "\u1f62\u03b9", "\u1f63\u03b9", "\u1f64\u03b9",
     "\u1f65\u03b9", "\u1f66\u03b9", "\u1f67\u03b9"]),
   (0x1fb2, ["\u1f70\u03b9", "\u03b1\u03b9", "\u03ac\u03b9"]), (0x1fb7, ["\u1fb6\u03b9"]),
   (0x1fbb, ["\u03ac", "\u03b1\u03b9", " \u0313"]),
   (0x1fbf,
     [" \u0313", " \u0342", " \u0308\u0342", "\u1f74\u03b9", "\u03b7\u03b9", "\u03ae\u03b9"]),
   (0x1fc7, ["\u1fc6\u03b9"]), (0x1fc9, ["\u03ad"]),
   (0x1fcb, ["\u03ae", "\u03b7\u03b9", " \u0313\u0300", " \u0313\u0301", " \u0313\u0342"]),
   (0x1fdb, ["\u03af"]), (0x1fdd, [" \u0314\u0300", " \u0314\u0301", " \u0314\u0342"]),
   (0x1feb, ["\u03cd"]), (0x1fed, [" \u0308\u0300", " \u0308\u0301"]),
   (0x1ff2, ["\u1f7c\u03b9", "\u03c9\u03b9", "\u03ce\u03b9"]), (0x1ff7, ["\u1ff6\u03b9"]),
   (0x1ff9, ["\u03cc"]), (0x1ffb, ["\u03ce", "\u03c9\u03b9", " \u0301", " \u0314"]),
   (0x2000, [" ", " ", " ", " ", " ", " ", " ", " ", " ", " ", " "]), (0x2011, ["\u2010"]),
   (0x2017, [" \u0333"]), (0x202f, [" "]), (0x2033, ["\u2032\u2032", "\u2032\u2032\u2032"]),
   (0x2036, ["\u2035\u2035", "\u2035\u2035\u2035"]), (0x203c, ["!!"]), (0x203e, [" \u0305"]),
   (0x2047, ["??", "?!", "!?"]), (0x2057, ["\u2032\u2032\u2032\u2032"]), (0x205f, [" "]),
   (0x2070, ["0", "i"]), (0x207a, ["+", "\u2212", "=", "(", ")", "n"]),
   (0x208a, ["+", "\u2212", "=", "(", ")"]), (0x2090, ["a", "e", "o", "x", "\u0259", "h"]),
   (0x209a, ["p", "s", "t"]), (0x20a8, ["rs"]), (0x2100, ["a/c", "a/s", "c", "\u00b0c"]),
   (0x2105, ["c/o", "c/u", "\u025b"]),
   (0x2109, ["\u00b0f", "g", "h", "h", "h", "h", "\u0127", "i", "i", "l", "l"]),
   (0x2115, ["n", "no"]), (0x211c, ["r", "r"]), (0x2120, ["sm", "tel", "tm"]), (0x2124, ["z"]),
   (0x2128, ["z"]), (0x212c, ["b", "c"]), (0x212f, ["e", "e", "f"]), (0x2133, ["m", "o"]),
   (0x2139, ["i"]), (0x213b, ["fax", "\u03c0", "\u03b3", "\u03b3", "\u03c0", "\u2211"]),
   (0x2145, ["d", "d", "e", "i", "j"]),
   (0x2150,
     ["1\u20447", "1\u20449", "1\u204410", "1\u20443", "2\u20443", "1\u20445", "2\u20445",
     "3\u20445", "4\u20445", "1\u20446", "5\u20446", "1\u20448", "3\u20448", "5\u20448",
     "7\u20448", "1\u2044", "i", "ii", "iii", "iv", "v", "vi", "vii", "viii", "ix", "x", "xi",
     "xii", "l", "c", "d", "m", "i", "ii", "iii", "iv", "v", "vi", "vii", "viii", "ix", "x",
     "xi", "xii", "l", "c", "d", "m"]),
   (0x2189, ["0\u20443"]), (0x222c, ["\u222b\u222b", "\u222b\u222b\u222b"]),
   (0x222f, ["\u222e\u222e", "\u222e\u222e\u222e"]),
   (0x2469,
     ["10", "11", "12", "13", "14", "15", "16", "17", "18", "19", "20", "(1)", "(2)", "(3)",
     "(4)", "(5)", "(6)", "(7)", "(8)", "(9)", "(10)", "(11)", "(12)", "(13)", "(14)", "(15)",
     "(16)", "(17)", "(18)", "(19)", "(20)"]),
   (0x249c,
     ["(a)", "(b)", "(c)", "(d)", "(e)", "(f)", "(g)", "(h)", "(i)", "(j)", "(k)", "(l)", "(m)",
     "(n)", "(o)", "(p)", "(q)", "(r)", "(s)", "(t)", "(u)", "(v)", "(w)", "(x)", "(y)", "(z)"]),
   (0x24ea, ["0"]), (0x2a0c, ["\u222b\u222b\u222b\u222b"]), (0x2a74, ["::=", "==", "==="]),
   (0x2c7c, ["j", "v"]), (0x2d6f, ["\u2d61"]), (0x2e9f, ["\u6bcd"]), (0x2ef3, ["\u9f9f"]),
   (0x2f00,
     ["\u4e00", "\u4e28", "\u4e36", "\u4e3f", "\u4e59", "\u4e85", "\u4e8c", "\u4ea0", "\u4eba",
     "\u513f", "\u5165", "\u516b", "\u5182", "\u5196", "\u51ab", "\u51e0", "\u51f5", "\u5200",
     "\u529b", "\u52f9", "\u5315", "\u531a", "\u5338", "\u5341", "\u535c", "\u5369", "\u5382",
     "\u53b6", "\u53c8", "\u53e3", "\u56d7", "\u571f", "\u58eb", "\u5902", "\u590a", "\u5915",
     "\u5927", "\u5973", "\u5b50", "\u5b80", "\u5bf8", "\u5c0f", "\u5c22", "\u5c38", "\u5c6e",
     "\u5c71", "\u5ddb", "\u5de5", "\u5df1", "\u5dfe", "\u5e72", "\u5e7a", "\u5e7f", "\u5ef4",
     "\u5efe", "\u5f0b", "\u5f13", "\u5f50", "\u5f61", "\u5f73", "\u5fc3", "\u6208", "\u6236",
     "\u624b", "\u652f", "\u6534", "\u6587", "\u6597", "\u65a4", "\u65b9", "\u65e0", "\u65e5",
     "\u66f0", "\u6708", "\u6728", "\u6b20", "\u6b62", "\u6b79", "\u6bb3", "\u6bcb", "\u6bd4",
     "\u6bdb", "\u6c0f", "\u6c14", "\u6c34", "\u706b", "\u722a", "\u7236", "\u723b", "\u723f",
     "\u7247", "\u7259", "\u725b", "\u72ac", "\u7384", "\u7389", "\u74dc", "\u74e6", "\u7518",
     "\u751f", "\u7528", "\u7530", "\u758b", "\u7592", "\u7676", "\u767d", "\u76ae", "\u76bf",
     "\u76ee", "\u77db", "\u77e2", "\u77f3", "\u793a", "\u79b8", "\u79be", "\u7a74", "\u7acb",
     "\u7af9", "\u7c73", "\u7cf8", "\u7f36", "\u7f51", "\u7f8a", "\u7fbd", "\u8001", "\u800c",
     "\u8012", "\u8033", "\u807f", "\u8089", "\u81e3", "\u81ea", "\u81f3", "\u81fc", "\u820c",
     "\u821b", "\u821f", "\u826e", "\u8272", "\u8278", "\u864d", "\u866b", "\u8840", "\u884c",
     "\u8863", "\u897e", "\u898b", "\u89d2", "\u8a00", "\u8c37", "\u8c46", "\u8c55", "\u8c78",
     "\u8c9d", "\u8d64", "\u8d70", "\u8db3", "\u8eab", "\u8eca", "\u8f9b", "\u8fb0", "\u8fb5",
     "\u9091", "\u9149", "\u91c6", "\u91cc", "\u91d1", "\u9577", "\u9580", "\u961c", "\u96b6",
     "\u96b9", "\u96e8", "\u9751", "\u975e", "\u9762", "\u9769", "\u97cb", "\u97ed", "\u97f3",
     "\u9801", "\u98a8", "\u98db", "\u98df", "\u9996", "\u9999", "\u99ac", "\u9aa8", "\u9ad8",
     "\u9adf", "\u9b25", "\u9b2f", "\u9b32", "\u9b3c", "\u9b5a", "\u9ce5", "\u9e75", "\u9e7f",
     "\u9ea5", "\u9ebb", "\u9ec3", "\u9ecd", "\u9ed1", "\u9ef9", "\u9efd", "\u9f0e", "\u9f13",
     "\u9f20", "\u9f3b", "\u9f4a", "\u9f52", "\u9f8d", "\u9f9c", "\u9fa0"]),
   (0x3000, [" "]), (0x3002, ["."]), (0x3036, ["\u3012"]),
   (0x3038, ["\u5341", "\u5344", "\u5345"]), (0x309b, [" \u3099", " \u309a"]),
   (0x309f, ["\u3088\u308a"]), (0x30ff, ["\u30b3\u30c8"]),
   (0x3131, ["\u1100", "\u1101", "\u11aa", "\u1102", "\u11ac", "\u11ad"]), (0x3140, ["\u111a"]),
   (0x3144, ["\u1121"]),
   (0x3165,
     ["\u1114", "\u1115", "\u11c7", "\u11c8", "\u11cc", "\u11ce", "\u11d3", "\u11d7", "\u11d9",
     "\u111c", "\u11dd", "\u11df", "\u111d", "\u111e", "\u1120", "\u1122", "\u1123", "\u1127",
     "\u1129"]),
   (0x317d, ["\u1132", "\u1136", "\u1140", "\u1147", "\u114c", "\u11f1", "\u11f2"]),
   (0x3187, ["\u1184", "\u1185", "\u1188", "\u1191", "\u1192", "\u1194", "\u119e", "\u11a1"]),
   (0x3192,
     ["\u4e00", "\u4e8c", "\u4e09", "\u56db", "\u4e0a", "\u4e2d", "\u4e0b", "\u7532", "\u4e59",
     "\u4e19", "\u4e01", "\u5929", "\u5730", "\u4eba"]),
   (0x3200,
     ["(\u1100)", "(\u1102)", "(\u1103)", "(\u1105)", "(\u1106)", "(\u1107)", "(\u1109)",
     "(\u110b)", "(\u110c)", "(\u110e)", "(\u110f)", "(\u1110)", "(\u1111)", "(\u1112)",
     "(\uac00)", "(\ub098)", "(\ub2e4)", "(\ub77c)", "(\ub9c8)", "(\ubc14)", "(\uc0ac)",
     "(\uc544)", "(\uc790)", "(\ucc28)", "(\uce74)", "(\ud0c0)", "(\ud30c)", "(\ud558)",
     "(\uc8fc)", "(\uc624\uc804)", "(\uc624\ud6c4)"]),
   (0x3220,
     ["(\u4e00)", "(\u4e8c)", "(\u4e09)", "(\u56db)", "(\u4e94)", "(\u516d)", "(\u4e03)",
     "(\u516b)", "(\u4e5d)", "(\u5341)", "(\u6708)", "(\u706b)", "(\u6c34)", "(\u6728)",
     "(\u91d1)", "(\u571f)", "(\u65e5)", "(\u682a)", "(\u6709)", "(\u793e)", "(\u540d)",
     "(\u7279)", "(\u8ca1)", "(\u795d)", "(\u52b4)", "(\u4ee3)", "(\u547c)", "(\u5b66)",
     "(\u76e3)", "(\u4f01)", "(\u8cc7)", "(\u5354)", "(\u796d)", "(\u4f11)", "(\u81ea)",
     "(\u81f3)", "\u554f", "\u5e7c", "\u6587", "\u7b8f"]),
   (0x3250,
     ["pte", "21", "22", "23", "24", "25", "26", "27", "28", "29", "30", "31", "32", "33", "34",
     "35", "\u1100", "\u1102", "\u1103"]),
   (0x3266, ["\u1109", "\u110b", "\u110c"]),
   (0x326e,
     ["\uac00", "\ub098", "\ub2e4", "\ub77c", "\ub9c8", "\ubc14", "\uc0ac", "\uc544", "\uc790",
     "\ucc28", "\uce74", "\ud0c0", "\ud30c", "\ud558", "\ucc38\uace0", "\uc8fc\uc758", "\uc6b0"]),
   (0x3280,
     ["\u4e00", "\u4e8c", "\u4e09", "\u56db", "\u4e94", "\u516d", "\u4e03", "\u516b", "\u4e5d",
     "\u5341", "\u6708", "\u706b", "\u6c34", "\u6728", "\u91d1", "\u571f", "\u65e5", "\u682a",
     "\u6709", "\u793e", "\u540d", "\u7279", "\u8ca1", "\u795d", "\u52b4", "\u79d8", "\u7537",
     "\u5973", "\u9069", "\u512a", "\u5370", "\u6ce8", "\u9805", "\u4f11", "\u5199", "\u6b63",
     "\u4e0a", "\u4e2d", "\u4e0b", "\u5de6", "\u53f3", "\u533b", "\u5b97", "\u5b66", "\u76e3",
     "\u4f01", "\u8cc7", "\u5354", "\u591c", "36", "37", "38", "39", "40", "41", "42", "43",
     "44", "45", "46", "47", "48", "49", "50", "1\u6708", "2\u6708", "3\u6708", "4\u6708",
     "5\u6708", "6\u6708", "7\u6708", "8\u6708", "9\u6708", "10\u6708", "11\u6708", "12\u6708",
     "hg", "erg", "ev", "ltd", "\u30a2", "\u30a4", "\u30a6", "\u30a8", "\u30aa", "\u30ab",
     "\u30ad", "\u30af", "\u30b1", "\u30b3", "\u30b5", "\u30b7", "\u30b9", "\u30bb", "\u30bd",
     "\u30bf", "\u30c1", "\u30c4", "\u30c6", "\u30c8"]),
   (0x32ea, ["\u30d2", "\u30d5", "\u30d8", "\u30db"]), (0x32f3, ["\u30e4", "\u30e6"]),
   (0x32ff,
     ["\u4ee4\u548c", "\u30a2\u30d1\u30fc\u30c8", "\u30a2\u30eb\u30d5\u30a1",
     "\u30a2\u30f3\u30da\u30a2", "\u30a2\u30fc\u30eb", "\u30a4\u30cb\u30f3\u30b0",
     "\u30a4\u30f3\u30c1", "\u30a6\u30a9\u30f3", "\u30a8\u30b9\u30af\u30fc\u30c9",
     "\u30a8\u30fc\u30ab\u30fc", "\u30aa\u30f3\u30b9", "\u30aa\u30fc\u30e0",
     "\u30ab\u30a4\u30ea", "\u30ab\u30e9\u30c3\u30c8", "\u30ab\u30ed\u30ea\u30fc",
     "\u30ac\u30ed\u30f3", "\u30ac\u30f3\u30de", "\u30ae\u30ac", "\u30ae\u30cb\u30fc",
     "\u30ad\u30e5\u30ea\u30fc", "\u30ae\u30eb\u30c0\u30fc", "\u30ad\u30ed",
     "\u30ad\u30ed\u30b0\u30e9\u30e0", "\u30ad\u30ed\u30e1\u30fc\u30c8\u30eb",
     "\u30ad\u30ed\u30ef\u30c3\u30c8", "\u30b0\u30e9\u30e0", "\u30b0\u30e9\u30e0\u30c8\u30f3",
     "\u30af\u30eb\u30bc\u30a4\u30ed", "\u30af\u30ed\u30fc\u30cd", "\u30b1\u30fc\u30b9",
     "\u30b3\u30eb\u30ca", "\u30b3\u30fc\u30dd", "\u30b5\u30a4\u30af\u30eb",
     "\u30b5\u30f3\u30c1\u30fc\u30e0", "\u30b7\u30ea\u30f3\u30b0", "\u30bb\u30f3\u30c1",
     "\u30bb\u30f3\u30c8", "\u30c0\u30fc\u30b9", "\u30c7\u30b7", "\u30c9\u30eb", "\u30c8\u30f3",
     "\u30ca\u30ce", "\u30ce\u30c3\u30c8", "\u30cf\u30a4\u30c4",
     "\u30d1\u30fc\u30bb\u30f3\u30c8", "\u30d1\u30fc\u30c4", "\u30d0\u30fc\u30ec\u30eb",
     "\u30d4\u30a2\u30b9\u30c8\u30eb", "\u30d4\u30af\u30eb", "\u30d4\u30b3", "\u30d3\u30eb",
     "\u30d5\u30a1\u30e9\u30c3\u30c9", "\u30d5\u30a3\u30fc\u30c8",
     "\u30d6\u30c3\u30b7\u30a7\u30eb", "\u30d5\u30e9\u30f3", "\u30d8\u30af\u30bf\u30fc\u30eb",
     "\u30da\u30bd", "\u30da\u30cb\u30d2", "\u30d8\u30eb\u30c4", "\u30da\u30f3\u30b9",
     "\u30da\u30fc\u30b8", "\u30d9\u30fc\u30bf", "\u30dd\u30a4\u30f3\u30c8",
     "\u30dc\u30eb\u30c8", "\u30db\u30f3", "\u30dd\u30f3\u30c9", "\u30db\u30fc\u30eb",
     "\u30db\u30fc\u30f3", "\u30de\u30a4\u30af\u30ed", "\u30de\u30a4\u30eb",
     "\u30de\u30c3\u30cf", "\u30de\u30eb\u30af", "\u30de\u30f3\u30b7\u30e7\u30f3",
     "\u30df\u30af\u30ed\u30f3", "\u30df\u30ea", "\u30df\u30ea\u30d0\u30fc\u30eb",
     "\u30e1\u30ac", "\u30e1\u30ac\u30c8\u30f3", "\u30e1\u30fc\u30c8\u30eb",
     "\u30e4\u30fc\u30c9", "\u30e4\u30fc\u30eb", "\u30e6\u30a2\u30f3",
     "\u30ea\u30c3\u30c8\u30eb", "\u30ea\u30e9", "\u30eb\u30d4\u30fc",
     "\u30eb\u30fc\u30d6\u30eb", "\u30ec\u30e0", "\u30ec\u30f3\u30c8\u30b2\u30f3",
     "\u30ef\u30c3\u30c8", "0\u70b9", "1\u70b9", "2\u70b9", "3\u70b9", "4\u70b9", "5\u70b9",
     "6\u70b9", "7\u70b9", "8\u70b9", "9\u70b9", "10\u70b9", "11\u70b9", "12\u70b9", "13\u70b9",
     "14\u70b9", "15\u70b9", "16\u70b9", "17\u70b9", "18\u70b9", "19\u70b9", "20\u70b9",
     "21\u70b9", "22\u70b9", "23\u70b9", "24\u70b9", "hpa", "da", "au", "bar", "ov", "pc", "dm",
     "dm2", "dm3", "iu", "\u5e73\u6210", "\u662d\u548c", "\u5927\u6b63", "\u660e\u6cbb",
     "\u682a\u5f0f\u4f1a\u793e", "pa", "na", "\u03bca", "ma", "ka", "kb", "mb", "gb", "cal",
     "kcal", "pf", "nf", "\u03bcf", "\u03bcg", "mg", "kg", "hz", "khz", "mhz", "ghz", "thz",
     "\u03bcl", "ml", "dl", "kl", "fm", "nm", "\u03bcm", "mm", "cm", "km", "mm2", "cm2", "m2",
     "km2", "mm3", "cm3", "m3", "km3", "m\u2215s", "m\u2215s2", "pa", "kpa", "mpa", "gpa", "rad",
     "rad\u2215s", "rad\u2215s2", "ps", "ns", "\u03bcs", "ms", "pv", "nv", "\u03bcv", "mv", "kv",
     "mv", "pw", "nw", "\u03bcw", "mw", "kw", "mw", "k\u03c9", "m\u03c9"]),
   (0x33c3, ["bq", "cc", "cd", "c\u2215kg"]),
   (0x33c8,
     ["db", "gy", "ha", "hp", "in", "kk", "km", "kt", "lm", "ln", "log", "lx", "mb", "mil",
     "mol", "ph"]),
   (0x33d9,
     ["ppm", "pr", "sr", "sv", "wb", "v\u2215m", "a\u2215m", "1\u65e5", "2\u65e5", "3\u65e5",
     "4\u65e5", "5\u65e5", "6\u65e5", "7\u65e5", "8\u65e5", "9\u65e5", "10\u65e5", "11\u65e5",
     "12\u65e5", "13\u65e5", "14\u65e5", "15\u65e5", "16\u65e5", "17\u65e5", "18\u65e5",
     "19\u65e5", "20\u65e5", "21\u65e5", "22\u65e5", "23\u65e5", "24\u65e5", "25\u65e5",
     "26\u65e5", "27\u65e5", "28\u65e5", "29\u65e5", "30\u65e5", "31\u65e5", "gal"]),
   (0xa69c, ["\u044a", "\u044c"]), (0xa770, ["\ua76f"]), (0xa7f2, ["c", "f", "q"]),
   (0xa7f8, ["\u0127", "\u0153"]), (0xab5c, ["\ua727", "\uab37", "\u026b", "\uab52"]),
   (0xab69, ["\u028d"]), (0xfb00, ["ff", "fi", "fl", "ffi", "ffl", "st", "st"]),
   (0xfb13, ["\u0574\u0576", "\u0574\u0565", "\u0574\u056b", "\u057e\u0576", "\u0574\u056d"]),
   (0xfb20, ["\u05e2", "\u05d0", "\u05d3", "\u05d4"]), (0xfb27, ["\u05e8", "\u05ea", "+"]),
   (0xfb4f,
     ["\u05d0\u05dc", "\u0671", "\u0671", "\u067b", "\u067b", "\u067b", "\u067b", "\u067e",
     "\u067e", "\u067e", "\u067e", "\u0680", "\u0680", "\u0680", "\u0680", "\u067a", "\u067a",
     "\u067a", "\u067a", "\u067f", "\u067f", "\u067f", "\u067f", "\u0679", "\u0679", "\u0679",
     "\u0679", "\u06a4", "\u06a4", "\u06a4", "\u06a4", "\u06a6", "\u06a6", "\u06a6", "\u06a6",
     "\u0684", "\u0684", "\u0684", "\u0684", "\u0683", "\u0683", "\u0683", "\u0683", "\u0686",
     "\u0686", "\u0686", "\u0686", "\u0687", "\u0687", "\u0687", "\u0687", "\u068d", "\u068d",
     "\u068c", "\u068c", "\u068e", "\u068e", "\u0688", "\u0688", "\u0698", "\u0698", "\u0691",
     "\u0691", "\u06a9", "\u06a9", "\u06a9", "\u06a9", "\u06af", "\u06af", "\u06af", "\u06af",
     "\u06b3", "\u06b3", "\u06b3", "\u06b3", "\u06b1", "\u06b1", "\u06b1", "\u06b1", "\u06ba",
     "\u06ba", "\u06bb", "\u06bb", "\u06bb", "\u06bb", "\u06c0", "\u06c0", "\u06c1", "\u06c1",
     "\u06c1", "\u06c1", "\u06be", "\u06be", "\u06be", "\u06be", "\u06d2", "\u06d2", "\u06d3",
     "\u06d3"]),
   (0xfbd3,
     ["\u06ad", "\u06ad", "\u06ad", "\u06ad", "\u06c7", "\u06c7", "\u06c6", "\u06c6", "\u06c8",
     "\u06c8", "\u06c7\u0674", "\u06cb", "\u06cb", "\u06c5", "\u06c5", "\u06c9", "\u06c9",
     "\u06d0", "\u06d0", "\u06d0", "\u06d0", "\u0649", "\u0649", "\u0626\u0627", "\u0626\u0627",
     "\u0626\u06d5", "\u0626\u06d5", "\u0626\u0648", "\u0626\u0648", "\u0626\u06c7",
     "\u0626\u06c7", "\u0626\u06c6", "\u0626\u06c6", "\u0626\u06c8", "\u0626\u06c8",
     "\u0626\u06d0", "\u0626\u06d0", "\u0626\u06d0", "\u0626\u0649", "\u0626\u0649",
     "\u0626\u0649", "\u06cc", "\u06cc", "\u06cc", "\u06cc", "\u0626\u062c", "\u0626\u062d",
     "\u0626\u0645", "\u0626\u0649", "\u0626\u064a", "\u0628\u062c", "\u0628\u062d",
     "\u0628\u062e", "\u0628\u0645", "\u0628\u0649", "\u0628\u064a", "\u062a\u062c",
     "\u062a\u062d", "\u062a\u062e", "\u062a\u0645", "\u062a\u0649", "\u062a\u064a",
     "\u062b\u062c", "\u062b\u0645", "\u062b\u0649", "\u062b\u064a", "\u062c\u062d",
     "\u062c\u0645", "\u062d\u062c", "\u062d\u0645", "\u062e\u062c", "\u062e\u062d",
     "\u062e\u0645", "\u0633\u062c", "\u0633\u062d", "\u0633\u062e", "\u0633\u0645",
     "\u0635\u062d", "\u0635\u0645", "\u0636\u062c", "\u0636\u062d", "\u0636\u062e",
     "\u0636\u0645", "\u0637\u062d", "\u0637\u0645", "\u0638\u0645", "\u0639\u062c",
     "\u0639\u0645", "\u063a\u062c", "\u063a\u0645", "\u0641\u062c", "\u0641\u062d",
     "\u0641\u062e", "\u0641\u0645", "\u0641\u0649", "\u0641\u064a", "\u0642\u062d",
     "\u0642\u0645", "\u0642\u0649", "\u0642\u064a", "\u0643\u0627", "\u0643\u062c",
     "\u0643\u062d", "\u0643\u062e", "\u0643\u0644", "\u0643\u0645", "\u0643\u0649",
     "\u0643\u064a", "\u0644\u062c", "\u0644\u062d", "\u0644\u062e", "\u0644\u0645",
     "\u0644\u0649", "\u0644\u064a", "\u0645\u062c", "\u0645\u062d", "\u0645\u062e",
     "\u0645\u0645", "\u0645\u0649", "\u0645\u064a", "\u0646\u062c", "\u0646\u062d",
     "\u0646\u062e", "\u0646\u0645", "\u0646\u0649", "\u0646\u064a", "\u0647\u062c",
     "\u0647\u0645", "\u0647\u0649", "\u0647\u064a", "\u064a\u062c", "\u064a\u062d",
     "\u064a\u062e", "\u064a\u0645", "\u064a\u0649", "\u064a\u064a", "\u0630\u0670",
     "\u0631\u0670", "\u0649\u0670", " \u064c\u0651", " \u064d\u0651", " \u064e\u0651",
     " \u064f\u0651", " \u0650\u0651", " \u0651\u0670", "\u0626\u0631", "\u0626\u0632",
     "\u0626\u0645", "\u0626\u0646", "\u0626\u0649", "\u0626\u064a", "\u0628\u0631",
     "\u0628\u0632", "\u0628\u0645", "\u0628\u0646", "\u0628\u0649", "\u0628\u064a",
     "\u062a\u0631", "\u062a\u0632", "\u062a\u0645", "\u062a\u0646", "\u062a\u0649",
     "\u062a\u064a", "\u062b\u0631", "\u062b\u0632", "\u062b\u0645", "\u062b\u0646",
     "\u062b\u0649", "\u062b\u064a", "\u0641\u0649", "\u0641\u064a", "\u0642\u0649",
     "\u0642\u064a", "\u0643\u0627", "\u0643\u0644", "\u0643\u0645", "\u0643\u0649",
     "\u0643\u064a", "\u0644\u0645", "\u0644\u0649", "\u0644\u064a", "\u0645\u0627",
     "\u0645\u0645", "\u0646\u0631", "\u0646\u0632", "\u0646\u0645", "\u0646\u0646",
     "\u0646\u0649", "\u0646\u064a", "\u0649\u0670", "\u064a\u0631", "\u064a\u0632",
     "\u064a\u0645", "\u064a\u0646", "\u064a\u0649", "\u064a\u064a", "\u0626\u062c",
     "\u0626\u062d", "\u0626\u062e", "\u0626\u0645", "\u0626\u0647", "\u0628\u062c",
     "\u0628\u062d", "\u0628\u062e", "\u0628\u0645", "\u0628\u0647", "\u062a\u062c",
     "\u062a\u062d", "\u062a\u062e", "\u062a\u0645", "\u062a\u0647", "\u062b\u0645",
     "\u062c\u062d", "\u062c\u0645", "\u062d\u062c", "\u062d\u0645", "\u062e\u062c",
     "\u062e\u0645", "\u0633\u062c", "\u0633\u062d", "\u0633\u062e", "\u0633\u0645",
     "\u0635\u062d", "\u0635\u062e", "\u0635\u0645", "\u0636\u062c", "\u0636\u062d",
     "\u0636\u062e", "\u0636\u0645", "\u0637\u062d", "\u0638\u0645", "\u0639\u062c",
     "\u0639\u0645", "\u063a\u062c", "\u063a\u0645", "\u0641\u062c", "\u0641\u062d",
     "\u0641\u062e", "\u0641\u0645", "\u0642\u062d", "\u0642\u0645", "\u0643\u062c",
     "\u0643\u062d", "\u0643\u062e", "\u0643\u0644", "\u0643\u0645", "\u0644\u062c",
     "\u0644\u062d", "\u0644\u062e", "\u0644\u0645", "\u0644\u0647", "\u0645\u062c",
     "\u0645\u062d", "\u0645\u062e", "\u0645\u0645", "\u0646\u062c"]),
   (0xfcd3,
     ["\u0646\u062d", "\u0646\u062e", "\u0646\u0645", "\u0646\u0647", "\u0647\u062c",
     "\u0647\u0645", "\u0647\u0670", "\u064a\u062c", "\u064a\u062d", "\u064a\u062e",
     "\u064a\u0645", "\u064a\u0647", "\u0626\u0645", "\u0626\u0647", "\u0628\u0645",
     "\u0628\u0647", "\u062a\u0645", "\u062a\u0647", "\u062b\u0645", "\u062b\u0647",
     "\u0633\u0645", "\u0633\u0647", "\u0634\u0645", "\u0634\u0647", "\u0643\u0644",
     "\u0643\u0645", "\u0644\u0645", "\u0646\u0645", "\u0646\u0647", "\u064a\u0645",
     "\u064a\u0647", "\u0640\u064e\u0651", "\u0640\u064f\u0651", "\u0640\u0650\u0651",
     "\u0637\u0649", "\u0637\u064a", "\u0639\u0649", "\u0639\u064a", "\u063a\u0649",
     "\u063a\u064a", "\u0633\u0649", "\u0633\u064a", "\u0634\u0649", "\u0634\u064a",
     "\u062d\u0649", "\u062d\u064a", "\u062c\u0649", "\u062c\u064a", "\u062e\u0649",
     "\u062e\u064a", "\u0635\u0649", "\u0635\u064a", "\u0636\u0649", "\u0636\u064a",
     "\u0634\u062c", "\u0634\u062d", "\u0634\u062e", "\u0634\u0645", "\u0634\u0631",
     "\u0633\u0631", "\u0635\u0631", "\u0636\u0631", "\u0637\u0649", "\u0637\u064a",
     "\u0639\u0649", "\u0639\u064a", "\u063a\u0649", "\u063a\u064a", "\u0633\u0649",
     "\u0633\u064a", "\u0634\u0649", "\u0634\u064a", "\u062d\u0649", "\u062d\u064a",
     "\u062c\u0649", "\u062c\u064a", "\u062e\u0649", "\u062e\u064a", "\u0635\u0649",
     "\u0635\u064a", "\u0636\u0649", "\u0636\u064a", "\u0634\u062c", "\u0634\u062d",
     "\u0634\u062e", "\u0634\u0645", "\u0634\u0631", "\u0633\u0631", "\u0635\u0631",
     "\u0636\u0631", "\u0634\u062c", "\u0634\u062d", "\u0634\u062e", "\u0634\u0645",
     "\u0633\u0647", "\u0634\u0647", "\u0637\u0645", "\u0633\u062c", "\u0633\u062d",
     "\u0633\u062e", "\u0634\u062c", "\u0634\u062d", "\u0634\u062e", "\u0637\u0645",
     "\u0638\u0645", "\u0627\u064b", "\u0627\u064b"]),
   (0xfd50,
     ["\u062a\u062c\u0645", "\u062a\u062d\u062c", "\u062a\u062d\u062c", "\u062a\u062d\u0645",
     "\u062a\u062e\u0645", "\u062a\u0645\u062c", "\u062a\u0645\u062d", "\u062a\u0645\u062e",
     "\u062c\u0645\u062d", "\u062c\u0645\u062d", "\u062d\u0645\u064a", "\u062d\u0645\u0649",
     "\u0633\u062d\u062c", "\u0633\u062c\u062d", "\u0633\u062c\u0649", "\u0633\u0645\u062d",
     "\u0633\u0645\u062d", "\u0633\u0645\u062c", "\u0633\u0645\u0645", "\u0633\u0645\u0645",
     "\u0635\u062d\u062d", "\u0635\u062d\u062d", "\u0635\u0645\u0645", "\u0634\u062d\u0645",
     "\u0634\u062d\u0645", "\u0634\u062c\u064a", "\u0634\u0645\u062e", "\u0634\u0645\u062e",
     "\u0634\u0645\u0645", "\u0634\u0645\u0645", "\u0636\u062d\u0649", "\u0636\u062e\u0645",
     "\u0636\u062e\u0645", "\u0637\u0645\u062d", "\u0637\u0645\u062d", "\u0637\u0645\u0645",
     "\u0637\u0645\u064a", "\u0639\u062c\u0645", "\u0639\u0645\u0645", "\u0639\u0645\u0645",
     "\u0639\u0645\u0649", "\u063a\u0645\u0645", "\u063a\u0645\u064a", "\u063a\u0645\u0649",
     "\u0641\u062e\u0645", "\u0641\u062e\u0645", "\u0642\u0645\u062d", "\u0642\u0645\u0645",
     "\u0644\u062d\u0645", "\u0644\u062d\u064a", "\u0644\u062d\u0649", "\u0644\u062c\u062c",
     "\u0644\u062c\u062c", "\u0644\u062e\u0645", "\u0644\u062e\u0645", "\u0644\u0645\u062d",
     "\u0644\u0645\u062d", "\u0645\u062d\u062c", "\u0645\u062d\u0645", "\u0645\u062d\u064a",
     "\u0645\u062c\u062d", "\u0645\u062c\u0645", "\u0645\u062e\u062c", "\u0645\u062e\u0645"]),
   (0xfd92,
     ["\u0645\u062c\u062e", "\u0647\u0645\u062c", "\u0647\u0645\u0645", "\u0646\u062d\u0645",
     "\u0646\u062d\u0649", "\u0646\u062c\u0645", "\u0646\u062c\u0645", "\u0646\u062c\u0649",
     "\u0646\u0645\u064a", "\u0646\u0645\u0649", "\u064a\u0645\u0645", "\u064a\u0645\u0645",
     "\u0628\u062e\u064a", "\u062a\u062c\u064a", "\u062a\u062c\u0649", "\u062a\u062e\u064a",
     "\u062a\u062e\u0649", "\u062a\u0645\u064a", "\u062a\u0645\u0649", "\u062c\u0645\u064a",
     "\u062c\u062d\u0649", "\u062c\u0645\u0649", "\u0633\u062e\u0649", "\u0635\u062d\u064a",
     "\u0634\u062d\u064a", "\u0636\u062d\u064a", "\u0644\u062c\u064a", "\u0644\u0645\u064a",
     "\u064a\u062d\u064a", "\u064a\u062c\u064a", "\u064a\u0645\u064a", "\u0645\u0645\u064a",
     "\u0642\u0645\u064a", "\u0646\u062d\u064a", "\u0642\u0645\u062d", "\u0644\u062d\u0645",
     "\u0639\u0645\u064a", "\u0643\u0645\u064a", "\u0646\u062c\u062d", "\u0645\u062e\u064a",
     "\u0644\u062c\u0645", "\u0643\u0645\u0645", "\u0644\u062c\u0645", "\u0646\u062c\u062d",
     "\u062c\u062d\u064a", "\u062d\u062c\u064a", "\u0645\u062c\u064a", "\u0641\u0645\u064a",
     "\u0628\u062d\u064a", "\u0643\u0645\u0645", "\u0639\u062c\u0645", "\u0635\u0645\u0645",
     "\u0633\u062e\u064a", "\u0646\u062c\u064a"]),
   (0xfdf0,
     ["\u0635\u0644\u06d2", "\u0642\u0644\u06d2", "\u0627\u0644\u0644\u0647",
     "\u0627\u0643\u0628\u0631", "\u0645\u062d\u0645\u062f", "\u0635\u0644\u0639\u0645",
     "\u0631\u0633\u0648\u0644", "\u0639\u0644\u064a\u0647", "\u0648\u0633\u0644\u0645",
     "\u0635\u0644\u0649",
     "\u0635\u0644\u0649 \u0627\u0644\u0644\u0647 \u0639\u0644\u064a\u0647 \u0648\u0633\u0644\u0645",
     "\u062c\u0644 \u062c\u0644\u0627\u0644\u0647", "\u0631\u06cc\u0627\u0644"]),
   (0xfe10, [",", "\u3001"]), (0xfe13, [":", ";", "!", "?", "\u3016", "\u3017"]),
   (0xfe31,
     ["\u2014", "\u2013", "_", "_", "(", ")", "\x7b", "\x7d", "\u3014", "\u3015", "\u3010",
     "\u3011", "\u300a", "\u300b", "\u3008", "\u3009"]),

   (0xfe47, ["[", "]", " \u0305", " \u0305", " \u0305", " \u0305", "_", "_", "_", ",", "\u3001"]),
   (0xfe54,
     [";", ":", "?", "!", "\u2014", "(", ")", "\x7b", "\x7d", "\u3014", "\u3015", "#", "&", "*",
     "+", "-", "<", ">", "="]),
   (0xfe68, ["\\", "$", "%", "@"]), (0xfe70, [" \u064b", "\u0640\u064b", " \u064c"]),
   (0xfe74, [" \u064d"]),
   (0xfe76,
     [" \u064e", "\u0640\u064e", " \u064f", "\u0640\u064f", " \u0650", "\u0640\u0650", " \u0651",
     "\u0640\u0651", " \u0652", "\u0640\u0652", "\u0621", "\u0622", "\u0622", "\u0623", "\u0623",
     "\u0624", "\u0624", "\u0625", "\u0625", "\u0626", "\u0626", "\u0626", "\u0626", "\u0627",
     "\u0627", "\u0628", "\u0628", "\u0628", "\u0628", "\u0629", "\u0629", "\u062a", "\u062a",
     "\u062a", "\u062a", "\u062b", "\u062b", "\u062b", "\u062b", "\u062c", "\u062c", "\u062c",
     "\u062c", "\u062d", "\u062d", "\u062d", "\u062d", "\u062e", "\u062e", "\u062e", "\u062e",
     "\u062f", "\u062f", "\u0630", "\u0630", "\u0631", "\u0631", "\u0632", "\u0632", "\u0633",
     "\u0633", "\u0633", "\u0633", "\u0634", "\u0634", "\u0634", "\u0634", "\u0635", "\u0635",
     "\u0635", "\u0635", "\u0636", "\u0636", "\u0636", "\u0636", "\u0637", "\u0637", "\u0637",
     "\u0637", "\u0638", "\u0638", "\u0638", "\u0638", "\u0639", "\u0639", "\u0639", "\u0639",
     "\u063a", "\u063a", "\u063a", "\u063a", "\u0641", "\u0641", "\u0641", "\u0641", "\u0642",
     "\u0642", "\u0642", "\u0642", "\u0643", "\u0643", "\u0643", "\u0643", "\u0644", "\u0644",
     "\u0644", "\u0644", "\u0645", "\u0645", "\u0645", "\u0645", "\u0646", "\u0646", "\u0646",
     "\u0646", "\u0647", "\u0647", "\u0647", "\u0647", "\u0648", "\u0648", "\u0649", "\u0649",
     "\u064a", "\u064a", "\u064a", "\u064a", "\u0644\u0622", "\u0644\u0622", "\u0644\u0623",
     "\u0644\u0623", "\u0644\u0625", "\u0644\u0625", "\u0644\u0627", "\u0644\u0627"]),
   (0xff5f,
     ["\u2985", "\u2986", ".", "\u300c", "\u300d", "\u3001", "\u30fb", "\u30f2", "\u30a1",
     "\u30a3", "\u30a5", "\u30a7", "\u30a9", "\u30e3", "\u30e5", "\u30e7", "\u30c3", "\u30fc",
     "\u30a2", "\u30a4", "\u30a6", "\u30a8", "\u30aa", "\u30ab", "\u30ad", "\u30af", "\u30b1",
     "\u30b3", "\u30b5", "\u30b7", "\u30b9", "\u30bb", "\u30bd", "\u30bf", "\u30c1", "\u30c4",
     "\u30c6", "\u30c8"]),
   (0xff8b, ["\u30d2", "\u30d5", "\u30d8", "\u30db"]), (0xff94, ["\u30e4", "\u30e6"]),
   (0xff9c, ["\u30ef", "\u30f3", "\u3099", "\u309a"]),
   (0xffa1, ["\u1100", "\u1101", "\u11aa", "\u1102", "\u11ac", "\u11ad"]), (0xffb0, ["\u111a"]),
   (0xffb4, ["\u1121"]),
   (0xffe0, ["\u00a2", "\u00a3", "\u00ac", " \u0304", "\u00a6", "\u00a5", "\u20a9"]),
   (0xffe8, ["\u2502"]), (0xffed, ["\u25a0", "\u25cb"]),
   (0x10781, ["\u02d0", "\u02d1", "\u00e6", "\u0299", "\u0253"]),
   (0x10787,
     ["\u02a3", "\uab66", "\u02a5", "\u02a4", "\u0256", "\u0257", "\u1d91", "\u0258", "\u025e",
     "\u02a9", "\u0264", "\u0262", "\u0260", "\u029b", "\u0127", "\u029c", "\u0267", "\u0284",
     "\u02aa", "\u02ab", "\u026c", "𝼄", "\ua78e", "\u026e", "𝼅", "\u028e", "𝼆", "\u00f8",
     "\u0276", "\u0277", "q", "\u027a", "𝼈", "\u027d", "\u027e", "\u0280", "\u02a8", "\u02a6",
     "\uab67", "\u02a7", "\u0288", "\u2c71"]),
   (0x107b2, ["\u028f", "\u02a1", "\u02a2", "\u0298"]), (0x107b9, ["𝼊", "𝼞"]), (0x1d49c, ["a"]),
   (0x1d49e, ["c", "d"]), (0x1d4a2, ["g"]), (0x1d4a5, ["j", "k"]), (0x1d504, ["a"]),
   (0x1d508, ["e"]), (0x1d50a, ["g"]), (0x1d538, ["a"]), (0x1d541, ["j"]), (0x1d543, ["l"]),
   (0x1d6a4, ["\u0131", "\u0237"]), (0x1d6b9, ["\u03b8"]), (0x1d6c1, ["\u2207"]),
   (0x1d6d3, ["\u03c3", "\u03c3"]),
   (0x1d6db, ["\u2202", "\u03b5", "\u03b8", "\u03ba", "\u03c6", "\u03c1", "\u03c0"]),
   (0x1d6f3, ["\u03b8"]), (0x1d6fb, ["\u2207"]), (0x1d70d, ["\u03c3", "\u03c3"]),
   (0x1d715, ["\u2202", "\u03b5", "\u03b8", "\u03ba", "\u03c6", "\u03c1", "\u03c0"]),
   (0x1d72d, ["\u03b8"]), (0x1d735, ["\u2207"]), (0x1d747, ["\u03c3", "\u03c3"]),
   (0x1d74f, ["\u2202", "\u03b5", "\u03b8", "\u03ba", "\u03c6", "\u03c1", "\u03c0"]),
   (0x1d767, ["\u03b8"]), (0x1d76f, ["\u2207"]), (0x1d781, ["\u03c3", "\u03c3"]),
   (0x1d789, ["\u2202", "\u03b5", "\u03b8", "\u03ba", "\u03c6", "\u03c1", "\u03c0"]),
   (0x1d7a1, ["\u03b8"]), (0x1d7a9, ["\u2207"]), (0x1d7bb, ["\u03c3", "\u03c3"]),
   (0x1d7c3,
     ["\u2202", "\u03b5", "\u03b8", "\u03ba", "\u03c6", "\u03c1", "\u03c0", "\u03dd", "\u03dd"]),
   (0x1e047,
     ["\u044b", "\u044d", "\u044e", "\ua689", "\u04d9", "\u0456", "\u0458", "\u04e9", "\u04af",
     "\u04cf"]),
   (0x1e05a, ["\u043a", "\u043b", "\u043e", "\u043f", "\u0441"]),
   (0x1e065,
     ["\u044a", "\u044b", "\u0491", "\u0456", "\u0455", "\u045f", "\u04ab", "\ua651", "\u04b1"]),
   (0x1ee00, ["\u0627", "\u0628", "\u062c", "\u062f"]),
   (0x1ee05, ["\u0648", "\u0632", "\u062d", "\u0637", "\u064a"]),
   (0x1ee0e,
     ["\u0633", "\u0639", "\u0641", "\u0635", "\u0642", "\u0631", "\u0634", "\u062a", "\u062b",
     "\u062e", "\u0630", "\u0636", "\u0638", "\u063a", "\u066e", "\u06ba", "\u06a1", "\u066f"]),
   (0x1ee21, ["\u0628", "\u062c"]), (0x1ee24, ["\u0647"]), (0x1ee27, ["\u062d"]),
   (0x1ee29, ["\u064a"]), (0x1ee2e, ["\u0633", "\u0639", "\u0641", "\u0635", "\u0642"]),
   (0x1ee34, ["\u0634", "\u062a", "\u062b", "\u062e"]), (0x1ee39, ["\u0636"]),
   (0x1ee3b, ["\u063a"]), (0x1ee42, ["\u062c"]), (0x1ee47, ["\u062d"]), (0x1ee49, ["\u064a"]),
   (0x1ee4b, ["\u0644"]), (0x1ee4d, ["\u0646", "\u0633", "\u0639"]),
   (0x1ee51, ["\u0635", "\u0642"]), (0x1ee54, ["\u0634"]), (0x1ee57, ["\u062e"]),
   (0x1ee59, ["\u0636"]), (0x1ee5b, ["\u063a"]), (0x1ee5d, ["\u06ba"]), (0x1ee5f, ["\u066f"]),
   (0x1ee61, ["\u0628", "\u062c"]), (0x1ee64, ["\u0647"]),
   (0x1ee67, ["\u062d", "\u0637", "\u064a", "\u0643"]),
   (0x1ee6c, ["\u0645", "\u0646", "\u0633", "\u0639", "\u0641", "\u0635", "\u0642"]),
   (0x1ee74, ["\u0634", "\u062a", "\u062b", "\u062e"]),
   (0x1ee79, ["\u0636", "\u0638", "\u063a", "\u066e"]), (0x1ee7e, ["\u06a1"]),
   (0x1ee80,
     ["\u0627", "\u0628", "\u062c", "\u062f", "\u0647", "\u0648", "\u0632", "\u062d", "\u0637",
     "\u064a"]),
   (0x1ee8e,
     ["\u0633", "\u0639", "\u0641", "\u0635", "\u0642", "\u0631", "\u0634", "\u062a", "\u062b",
     "\u062e", "\u0630", "\u0636", "\u0638", "\u063a"]),
   (0x1eea1, ["\u0628", "\u062c", "\u062f"]),
   (0x1eea5, ["\u0648", "\u0632", "\u062d", "\u0637", "\u064a"]),
   (0x1eeae,
     ["\u0633", "\u0639", "\u0641", "\u0635", "\u0642", "\u0631", "\u0634", "\u062a", "\u062b",
     "\u062e", "\u0630", "\u0636", "\u0638", "\u063a"]),
   (0x1f101, ["0,", "1,", "2,", "3,", "4,", "5,", "6,", "7,", "8,", "9,"]),
   (0x1f110,
     ["(a)", "(b)", "(c)", "(d)", "(e)", "(f)", "(g)", "(h)", "(i)", "(j)", "(k)", "(l)", "(m)",
     "(n)", "(o)", "(p)", "(q)", "(r)", "(s)", "(t)", "(u)", "(v)", "(w)", "(x)", "(y)", "(z)",
     "\u3014s\u3015", "c", "r", "cd", "wz"]),
   (0x1f14a, ["hv", "mv", "sd", "ss", "ppv", "wc"]), (0x1f16a, ["mc", "md", "mr"]),
   (0x1f190, ["dj"]), (0x1f200, ["\u307b\u304b", "\u30b3\u30b3", "\u30b5"]),
   (0x1f210,
     ["\u624b", "\u5b57", "\u53cc", "\u30c7", "\u4e8c", "\u591a", "\u89e3", "\u5929", "\u4ea4",
     "\u6620", "\u7121", "\u6599", "\u524d", "\u5f8c", "\u518d", "\u65b0", "\u521d", "\u7d42",
     "\u751f", "\u8ca9", "\u58f0", "\u5439", "\u6f14", "\u6295", "\u6355", "\u4e00", "\u4e09",
     "\u904a", "\u5de6", "\u4e2d", "\u53f3", "\u6307", "\u8d70", "\u6253", "\u7981", "\u7a7a",
     "\u5408", "\u6e80", "\u6709", "\u6708", "\u7533", "\u5272", "\u55b6", "\u914d"]),
   (0x1f240,
     ["\u3014\u672c\u3015", "\u3014\u4e09\u3015", "\u3014\u4e8c\u3015", "\u3014\u5b89\u3015",
     "\u3014\u70b9\u3015", "\u3014\u6253\u3015", "\u3014\u76d7\u3015", "\u3014\u52dd\u3015",
     "\u3014\u6557\u3015"]),
   (0x1f250, ["\u5f97", "\u53ef"])]

end TrustPath.Domain
