/-
  The characters that complete simplified Chinese to all of Unicode.

  They come in spans of codes that follow one another, as their characters do.
-/
import ApiTypes.Charset.CodeTable

namespace ApiTypes.Charset

/-- Spans of characters of two bytes. -/
def simplifiedPairSpans : Array Span :=
  #[⟨0xa140, 0xe4c6, 63⟩, ⟨0xa180, 0xe505, 33⟩, ⟨0xa240, 0xe526, 63⟩, ⟨0xa280, 0xe565, 33⟩,
    ⟨0xa2ab, 0xe766, 6⟩, ⟨0xa2e3, 0x20ac, 1⟩, ⟨0xa2e4, 0xe76d, 1⟩, ⟨0xa2ef, 0xe76e, 2⟩,
    ⟨0xa2fd, 0xe770, 2⟩, ⟨0xa340, 0xe586, 63⟩, ⟨0xa380, 0xe5c5, 33⟩, ⟨0xa440, 0xe5e6, 63⟩,
    ⟨0xa480, 0xe625, 33⟩, ⟨0xa4f4, 0xe772, 11⟩, ⟨0xa540, 0xe646, 63⟩, ⟨0xa580, 0xe685, 33⟩,
    ⟨0xa5f7, 0xe77d, 8⟩, ⟨0xa640, 0xe6a6, 63⟩, ⟨0xa680, 0xe6e5, 33⟩, ⟨0xa6b9, 0xe785, 8⟩,
    ⟨0xa6d9, 0xe78d, 7⟩, ⟨0xa6ec, 0xe794, 2⟩, ⟨0xa6f3, 0xe796, 1⟩, ⟨0xa6f6, 0xe797, 9⟩,
    ⟨0xa740, 0xe706, 63⟩, ⟨0xa780, 0xe745, 33⟩, ⟨0xa7c2, 0xe7a0, 15⟩, ⟨0xa7f2, 0xe7af, 13⟩,
    ⟨0xa896, 0xe7bc, 11⟩, ⟨0xa8bc, 0xe7c7, 1⟩, ⟨0xa8bf, 0x1f9, 1⟩, ⟨0xa8c1, 0xe7c9, 4⟩,
    ⟨0xa8ea, 0xe7cd, 21⟩, ⟨0xa958, 0xe7e2, 1⟩, ⟨0xa95b, 0xe7e3, 1⟩, ⟨0xa95d, 0xe7e4, 3⟩,
    ⟨0xa989, 0x303e, 1⟩, ⟨0xa98a, 0x2ff0, 12⟩, ⟨0xa997, 0xe7f4, 13⟩, ⟨0xa9f0, 0xe801, 15⟩,
    ⟨0xaaa1, 0xe000, 94⟩, ⟨0xaba1, 0xe05e, 94⟩, ⟨0xaca1, 0xe0bc, 94⟩, ⟨0xada1, 0xe11a, 94⟩,
    ⟨0xaea1, 0xe178, 94⟩, ⟨0xafa1, 0xe1d6, 94⟩, ⟨0xd7fa, 0xe810, 5⟩, ⟨0xf8a1, 0xe234, 94⟩,
    ⟨0xf9a1, 0xe292, 94⟩, ⟨0xfaa1, 0xe2f0, 94⟩, ⟨0xfba1, 0xe34e, 94⟩, ⟨0xfca1, 0xe3ac, 94⟩,
    ⟨0xfda1, 0xe40a, 94⟩, ⟨0xfe50, 0x2e81, 1⟩, ⟨0xfe51, 0xe816, 3⟩, ⟨0xfe54, 0x2e84, 1⟩,
    ⟨0xfe55, 0x3473, 1⟩, ⟨0xfe56, 0x3447, 1⟩, ⟨0xfe57, 0x2e88, 1⟩, ⟨0xfe58, 0x2e8b, 1⟩,
    ⟨0xfe59, 0xe81e, 1⟩, ⟨0xfe5a, 0x359e, 1⟩, ⟨0xfe5b, 0x361a, 1⟩, ⟨0xfe5c, 0x360e, 1⟩,
    ⟨0xfe5d, 0x2e8c, 1⟩, ⟨0xfe5e, 0x2e97, 1⟩, ⟨0xfe5f, 0x396e, 1⟩, ⟨0xfe60, 0x3918, 1⟩,
    ⟨0xfe61, 0xe826, 1⟩, ⟨0xfe62, 0x39cf, 1⟩, ⟨0xfe63, 0x39df, 1⟩, ⟨0xfe64, 0x3a73, 1⟩,
    ⟨0xfe65, 0x39d0, 1⟩, ⟨0xfe66, 0xe82b, 2⟩, ⟨0xfe68, 0x3b4e, 1⟩, ⟨0xfe69, 0x3c6e, 1⟩,
    ⟨0xfe6a, 0x3ce0, 1⟩, ⟨0xfe6b, 0x2ea7, 1⟩, ⟨0xfe6c, 0xe831, 2⟩, ⟨0xfe6e, 0x2eaa, 1⟩,
    ⟨0xfe6f, 0x4056, 1⟩, ⟨0xfe70, 0x415f, 1⟩, ⟨0xfe71, 0x2eae, 1⟩, ⟨0xfe72, 0x4337, 1⟩,
    ⟨0xfe73, 0x2eb3, 1⟩, ⟨0xfe74, 0x2eb6, 2⟩, ⟨0xfe76, 0xe83b, 1⟩, ⟨0xfe77, 0x43b1, 1⟩,
    ⟨0xfe78, 0x43ac, 1⟩, ⟨0xfe79, 0x2ebb, 1⟩, ⟨0xfe7a, 0x43dd, 1⟩, ⟨0xfe7b, 0x44d6, 1⟩,
    ⟨0xfe7c, 0x4661, 1⟩, ⟨0xfe7d, 0x464c, 1⟩, ⟨0xfe7e, 0xe843, 1⟩, ⟨0xfe80, 0x4723, 1⟩,
    ⟨0xfe81, 0x4729, 1⟩, ⟨0xfe82, 0x477c, 1⟩, ⟨0xfe83, 0x478d, 1⟩, ⟨0xfe84, 0x2eca, 1⟩,
    ⟨0xfe85, 0x4947, 1⟩, ⟨0xfe86, 0x497a, 1⟩, ⟨0xfe87, 0x497d, 1⟩, ⟨0xfe88, 0x4982, 2⟩,
    ⟨0xfe8a, 0x4985, 2⟩, ⟨0xfe8c, 0x499f, 1⟩, ⟨0xfe8d, 0x499b, 1⟩, ⟨0xfe8e, 0x49b7, 1⟩,
    ⟨0xfe8f, 0x49b6, 1⟩, ⟨0xfe90, 0xe854, 2⟩, ⟨0xfe92, 0x4ca3, 1⟩, ⟨0xfe93, 0x4c9f, 3⟩,
    ⟨0xfe96, 0x4c77, 1⟩, ⟨0xfe97, 0x4ca2, 1⟩, ⟨0xfe98, 0x4d13, 7⟩, ⟨0xfe9f, 0x4dae, 1⟩,
    ⟨0xfea0, 0xe864, 1⟩, ⟨0xfea1, 0xe468, 94⟩]

/-- Spans of characters of four bytes, counted from the first such code. -/
def simplifiedFourSpans : Array Span :=
  #[⟨0x0, 0x80, 36⟩, ⟨0x24, 0xa5, 2⟩, ⟨0x26, 0xa9, 7⟩, ⟨0x2d, 0xb2, 5⟩, ⟨0x32, 0xb8, 31⟩,
    ⟨0x51, 0xd8, 8⟩, ⟨0x59, 0xe2, 6⟩, ⟨0x5f, 0xeb, 1⟩, ⟨0x60, 0xee, 4⟩, ⟨0x64, 0xf4, 3⟩,
    ⟨0x67, 0xf8, 1⟩, ⟨0x68, 0xfb, 1⟩, ⟨0x69, 0xfd, 4⟩, ⟨0x6d, 0x102, 17⟩, ⟨0x7e, 0x114, 7⟩,
    ⟨0x85, 0x11c, 15⟩, ⟨0x94, 0x12c, 24⟩, ⟨0xac, 0x145, 3⟩, ⟨0xaf, 0x149, 4⟩, ⟨0xb3, 0x14e, 29⟩,
    ⟨0xd0, 0x16c, 98⟩, ⟨0x132, 0x1cf, 1⟩, ⟨0x133, 0x1d1, 1⟩, ⟨0x134, 0x1d3, 1⟩, ⟨0x135, 0x1d5, 1⟩,
    ⟨0x136, 0x1d7, 1⟩, ⟨0x137, 0x1d9, 1⟩, ⟨0x138, 0x1db, 1⟩, ⟨0x139, 0x1dd, 28⟩,
    ⟨0x155, 0x1fa, 87⟩, ⟨0x1ac, 0x252, 15⟩, ⟨0x1bb, 0x262, 101⟩, ⟨0x220, 0x2c8, 1⟩,
    ⟨0x221, 0x2cc, 13⟩, ⟨0x22e, 0x2da, 183⟩, ⟨0x2e5, 0x3a2, 1⟩, ⟨0x2e6, 0x3aa, 7⟩,
    ⟨0x2ed, 0x3c2, 1⟩, ⟨0x2ee, 0x3ca, 55⟩, ⟨0x325, 0x402, 14⟩, ⟨0x333, 0x450, 1⟩,
    ⟨0x334, 0x452, 7102⟩, ⟨0x1ef2, 0x2011, 2⟩, ⟨0x1ef4, 0x2017, 1⟩, ⟨0x1ef5, 0x201a, 2⟩,
    ⟨0x1ef7, 0x201e, 7⟩, ⟨0x1efe, 0x2027, 9⟩, ⟨0x1f07, 0x2031, 1⟩, ⟨0x1f08, 0x2034, 1⟩,
    ⟨0x1f09, 0x2036, 5⟩, ⟨0x1f0e, 0x203c, 112⟩, ⟨0x1f7e, 0x20ad, 86⟩, ⟨0x1fd4, 0x2104, 1⟩,
    ⟨0x1fd5, 0x2106, 3⟩, ⟨0x1fd8, 0x210a, 12⟩, ⟨0x1fe4, 0x2117, 10⟩, ⟨0x1fee, 0x2122, 62⟩,
    ⟨0x202c, 0x216c, 4⟩, ⟨0x2030, 0x217a, 22⟩, ⟨0x2046, 0x2194, 2⟩, ⟨0x2048, 0x219a, 110⟩,
    ⟨0x20b6, 0x2209, 6⟩, ⟨0x20bc, 0x2210, 1⟩, ⟨0x20bd, 0x2212, 3⟩, ⟨0x20c0, 0x2216, 4⟩,
    ⟨0x20c4, 0x221b, 2⟩, ⟨0x20c6, 0x2221, 2⟩, ⟨0x20c8, 0x2224, 1⟩, ⟨0x20c9, 0x2226, 1⟩,
    ⟨0x20ca, 0x222c, 2⟩, ⟨0x20cc, 0x222f, 5⟩, ⟨0x20d1, 0x2238, 5⟩, ⟨0x20d6, 0x223e, 10⟩,
    ⟨0x20e0, 0x2249, 3⟩, ⟨0x20e3, 0x224d, 5⟩, ⟨0x20e8, 0x2253, 13⟩, ⟨0x20f5, 0x2262, 2⟩,
    ⟨0x20f7, 0x2268, 6⟩, ⟨0x20fd, 0x2270, 37⟩, ⟨0x2122, 0x2296, 3⟩, ⟨0x2125, 0x229a, 11⟩,
    ⟨0x2130, 0x22a6, 25⟩, ⟨0x2149, 0x22c0, 82⟩, ⟨0x219b, 0x2313, 333⟩, ⟨0x22e8, 0x246a, 10⟩,
    ⟨0x22f2, 0x249c, 100⟩, ⟨0x2356, 0x254c, 4⟩, ⟨0x235a, 0x2574, 13⟩, ⟨0x2367, 0x2590, 3⟩,
    ⟨0x236a, 0x2596, 10⟩, ⟨0x2374, 0x25a2, 16⟩, ⟨0x2384, 0x25b4, 8⟩, ⟨0x238c, 0x25be, 8⟩,
    ⟨0x2394, 0x25c8, 3⟩, ⟨0x2397, 0x25cc, 2⟩, ⟨0x2399, 0x25d0, 18⟩, ⟨0x23ab, 0x25e6, 31⟩,
    ⟨0x23ca, 0x2607, 2⟩, ⟨0x23cc, 0x260a, 54⟩, ⟨0x2402, 0x2641, 1⟩, ⟨0x2403, 0x2643, 2110⟩,
    ⟨0x2c41, 0x2e82, 2⟩, ⟨0x2c43, 0x2e85, 3⟩, ⟨0x2c46, 0x2e89, 2⟩, ⟨0x2c48, 0x2e8d, 10⟩,
    ⟨0x2c52, 0x2e98, 15⟩, ⟨0x2c61, 0x2ea8, 2⟩, ⟨0x2c63, 0x2eab, 3⟩, ⟨0x2c66, 0x2eaf, 4⟩,
    ⟨0x2c6a, 0x2eb4, 2⟩, ⟨0x2c6c, 0x2eb8, 3⟩, ⟨0x2c6f, 0x2ebc, 14⟩, ⟨0x2c7d, 0x2ecb, 293⟩,
    ⟨0x2da2, 0x2ffc, 4⟩, ⟨0x2da6, 0x3004, 1⟩, ⟨0x2da7, 0x3018, 5⟩, ⟨0x2dac, 0x301f, 2⟩,
    ⟨0x2dae, 0x302a, 20⟩, ⟨0x2dc2, 0x303f, 2⟩, ⟨0x2dc4, 0x3094, 7⟩, ⟨0x2dcb, 0x309f, 2⟩,
    ⟨0x2dcd, 0x30f7, 5⟩, ⟨0x2dd2, 0x30ff, 6⟩, ⟨0x2dd8, 0x312a, 246⟩, ⟨0x2ece, 0x322a, 7⟩,
    ⟨0x2ed5, 0x3232, 113⟩, ⟨0x2f46, 0x32a4, 234⟩, ⟨0x3030, 0x3390, 12⟩, ⟨0x303c, 0x339f, 2⟩,
    ⟨0x303e, 0x33a2, 34⟩, ⟨0x3060, 0x33c5, 9⟩, ⟨0x3069, 0x33cf, 2⟩, ⟨0x306b, 0x33d3, 2⟩,
    ⟨0x306d, 0x33d6, 113⟩, ⟨0x30de, 0x3448, 43⟩, ⟨0x3109, 0x3474, 298⟩, ⟨0x3233, 0x359f, 111⟩,
    ⟨0x32a2, 0x360f, 11⟩, ⟨0x32ad, 0x361b, 765⟩, ⟨0x35aa, 0x3919, 85⟩, ⟨0x35ff, 0x396f, 96⟩,
    ⟨0x365f, 0x39d1, 14⟩, ⟨0x366d, 0x39e0, 147⟩, ⟨0x3700, 0x3a74, 218⟩, ⟨0x37da, 0x3b4f, 287⟩,
    ⟨0x38f9, 0x3c6f, 113⟩, ⟨0x396a, 0x3ce1, 885⟩, ⟨0x3cdf, 0x4057, 264⟩, ⟨0x3de7, 0x4160, 471⟩,
    ⟨0x3fbe, 0x4338, 116⟩, ⟨0x4032, 0x43ad, 4⟩, ⟨0x4036, 0x43b2, 43⟩, ⟨0x4061, 0x43de, 248⟩,
    ⟨0x4159, 0x44d7, 373⟩, ⟨0x42ce, 0x464d, 20⟩, ⟨0x42e2, 0x4662, 193⟩, ⟨0x43a3, 0x4724, 5⟩,
    ⟨0x43a8, 0x472a, 82⟩, ⟨0x43fa, 0x477d, 16⟩, ⟨0x440a, 0x478e, 441⟩, ⟨0x45c3, 0x4948, 50⟩,
    ⟨0x45f5, 0x497b, 2⟩, ⟨0x45f7, 0x497e, 4⟩, ⟨0x45fb, 0x4984, 1⟩, ⟨0x45fc, 0x4987, 20⟩,
    ⟨0x4610, 0x499c, 3⟩, ⟨0x4613, 0x49a0, 22⟩, ⟨0x4629, 0x49b8, 703⟩, ⟨0x48e8, 0x4c78, 39⟩,
    ⟨0x490f, 0x4ca4, 111⟩, ⟨0x497e, 0x4d1a, 148⟩, ⟨0x4a12, 0x4daf, 81⟩, ⟨0x4a63, 0x9fa6, 14426⟩,
    ⟨0x82bd, 0xe76c, 1⟩, ⟨0x82be, 0xe7c8, 1⟩, ⟨0x82bf, 0xe7e7, 13⟩, ⟨0x82cc, 0xe815, 1⟩,
    ⟨0x82cd, 0xe819, 5⟩, ⟨0x82d2, 0xe81f, 7⟩, ⟨0x82d9, 0xe827, 4⟩, ⟨0x82dd, 0xe82d, 4⟩,
    ⟨0x82e1, 0xe833, 8⟩, ⟨0x82e9, 0xe83c, 7⟩, ⟨0x82f0, 0xe844, 16⟩, ⟨0x8300, 0xe856, 14⟩,
    ⟨0x830e, 0xe865, 4295⟩, ⟨0x93d5, 0xf92d, 76⟩, ⟨0x9421, 0xf97a, 27⟩, ⟨0x943c, 0xf996, 81⟩,
    ⟨0x948d, 0xf9e8, 9⟩, ⟨0x9496, 0xf9f2, 26⟩, ⟨0x94b0, 0xfa10, 1⟩, ⟨0x94b1, 0xfa12, 1⟩,
    ⟨0x94b2, 0xfa15, 3⟩, ⟨0x94b5, 0xfa19, 6⟩, ⟨0x94bb, 0xfa22, 1⟩, ⟨0x94bc, 0xfa25, 2⟩,
    ⟨0x94be, 0xfa2a, 1030⟩, ⟨0x98c4, 0xfe32, 1⟩, ⟨0x98c5, 0xfe45, 4⟩, ⟨0x98c9, 0xfe53, 1⟩,
    ⟨0x98ca, 0xfe58, 1⟩, ⟨0x98cb, 0xfe67, 1⟩, ⟨0x98cc, 0xfe6c, 149⟩, ⟨0x9961, 0xff5f, 129⟩,
    ⟨0x99e2, 0xffe6, 26⟩]

end ApiTypes.Charset
