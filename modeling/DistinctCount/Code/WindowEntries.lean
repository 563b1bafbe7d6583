/-! Code words for the bytes of a window, one table for each phase of the ratio of
coupons to rows. An entry is the length of the word times 4096 plus the word, whose
first bit is the least significant one. Phases 0 to 15 belong to a window that
moves, phases 16 to 21 to a window that has not moved yet. -/
namespace DistinctCount.WindowCode

def entries0 : List Nat := [
  0x9017, 0x5009, 0x7033, 0x3002, 0x9117, 0x5019, 0x7073, 0x2000,
  0xa177, 0x601d, 0x803b, 0x4001, 0xa377, 0x5005, 0x80bb, 0x3006,
  0xb0cf, 0x700b, 0xa0f7, 0x5015, 0xb4cf, 0x704b, 0x9097, 0x500d,
  0xc4af, 0x807b, 0xa2f7, 0x603d, 0xccaf, 0x80fb, 0xa1f7, 0x6003,
  0xc2af, 0x8007, 0xb2cf, 0x6023, 0xcaaf, 0x8087, 0xa3f7, 0x6013,
  0xc6af, 0x9197, 0xceaf, 0x702b, 0xc1af, 0x9057, 0xb6cf, 0x706b,
  0xc9af, 0xa00f, 0xc5af, 0x8047, 0xcdaf, 0xa20f, 0xc3af, 0x80c7,
  0xcbaf, 0xb1cf, 0xc7af, 0x9157, 0xcfaf, 0xb5cf, 0xc06f, 0x90d7,
  0xc86f, 0x91d7, 0xc46f, 0x701b, 0xcc6f, 0x9037, 0xb3cf, 0x705b,
  0xc26f, 0xa10f, 0xca6f, 0x8027, 0xc66f, 0xa30f, 0xce6f, 0x80a7,
  0xc16f, 0xb7cf, 0xc96f, 0x9137, 0xc56f, 0xb02f, 0xcd6f, 0x90b7,
  0xc36f, 0xcb6f, 0xc76f, 0xa08f, 0xcf6f, 0xc0ef, 0xc8ef, 0xa28f,
  0xc4ef, 0xccef, 0xc2ef, 0xa18f, 0xcaef, 0xc6ef, 0xceef, 0xa38f,
  0xc1ef, 0xc9ef, 0xc5ef, 0xb42f, 0xcdef, 0xc3ef, 0xcbef, 0xb22f,
  0xc7ef, 0xcfef, 0xc01f, 0xc81f, 0xc41f, 0xcc1f, 0xc21f, 0xca1f,
  0xc61f, 0xce1f, 0xc11f, 0xc91f, 0xc51f, 0xcd1f, 0xc31f, 0xcb1f,
  0xc71f, 0xa04f, 0xcf1f, 0x8067, 0xc09f, 0xa24f, 0xc89f, 0x80e7,
  0xc49f, 0xb62f, 0xcc9f, 0x91b7, 0xc29f, 0xb12f, 0xca9f, 0x9077,
  0xc69f, 0xce9f, 0xc19f, 0xa14f, 0xc99f, 0xc59f, 0xcd9f, 0xa34f,
  0xc39f, 0xcb9f, 0xc79f, 0xb52f, 0xcf9f, 0xc05f, 0xc85f, 0xb32f,
  0xc45f, 0xcc5f, 0xc25f, 0xb72f, 0xca5f, 0xc65f, 0xce5f, 0xb0af,
  0xc15f, 0xc95f, 0xc55f, 0xcd5f, 0xc35f, 0xcb5f, 0xc75f, 0xcf5f,
  0xc0df, 0xc8df, 0xc4df, 0xccdf, 0xc2df, 0xcadf, 0xc6df, 0xcedf,
  0xc1df, 0xc9df, 0xc5df, 0xcddf, 0xc3df, 0xcbdf, 0xc7df, 0xcfdf,
  0xc03f, 0xc83f, 0xc43f, 0xcc3f, 0xc23f, 0xca3f, 0xc63f, 0xce3f,
  0xc13f, 0xc93f, 0xc53f, 0xcd3f, 0xc33f, 0xcb3f, 0xc73f, 0xcf3f,
  0xc0bf, 0xc8bf, 0xc4bf, 0xccbf, 0xc2bf, 0xcabf, 0xc6bf, 0xcebf,
  0xc1bf, 0xc9bf, 0xc5bf, 0xcdbf, 0xc3bf, 0xcbbf, 0xc7bf, 0xcfbf,
  0xc07f, 0xc87f, 0xc47f, 0xcc7f, 0xc27f, 0xca7f, 0xc67f, 0xce7f,
  0xc17f, 0xc97f, 0xc57f, 0xcd7f, 0xc37f, 0xcb7f, 0xc77f, 0xcf7f,
  0xc0ff, 0xc8ff, 0xc4ff, 0xccff, 0xc2ff, 0xcaff, 0xc6ff, 0xceff,
  0xc1ff, 0xc9ff, 0xc5ff, 0xcdff, 0xc3ff, 0xcbff, 0xc7ff, 0xcfff]

def entries1 : List Nat := [
  0xa177, 0x5009, 0x803b, 0x3002, 0x9017, 0x5019, 0x700b, 0x2000,
  0xb34f, 0x601d, 0x9117, 0x4001, 0xa377, 0x603d, 0x80bb, 0x3006,
  0xc4af, 0x704b, 0xa0f7, 0x5005, 0xb74f, 0x702b, 0x9097, 0x5015,
  0xccaf, 0x807b, 0xb0cf, 0x6003, 0xc2af, 0x80fb, 0xa2f7, 0x500d,
  0xcaaf, 0x8007, 0xb4cf, 0x6023, 0xc6af, 0x8087, 0xa1f7, 0x6013,
  0xceaf, 0x9197, 0xc1af, 0x706b, 0xc9af, 0x9057, 0xb2cf, 0x6033,
  0xc5af, 0xa3f7, 0xcdaf, 0x8047, 0xc3af, 0xa00f, 0xcbaf, 0x80c7,
  0xc7af, 0xb6cf, 0xcfaf, 0x9157, 0xc06f, 0xb1cf, 0xc86f, 0x90d7,
  0xc46f, 0x91d7, 0xcc6f, 0x701b, 0xc26f, 0x9037, 0xb5cf, 0x705b,
  0xca6f, 0xa20f, 0xc66f, 0x8027, 0xce6f, 0xa10f, 0xc16f, 0x80a7,
  0xc96f, 0xb3cf, 0xc56f, 0x9137, 0xcd6f, 0xb7cf, 0xc36f, 0x90b7,
  0xcb6f, 0xc76f, 0xcf6f, 0xa30f, 0xc0ef, 0xc8ef, 0xc4ef, 0xa08f,
  0xccef, 0xc2ef, 0xcaef, 0xa28f, 0xc6ef, 0xceef, 0xc1ef, 0xa18f,
  0xc9ef, 0xc5ef, 0xcdef, 0xb02f, 0xc3ef, 0xcbef, 0xc7ef, 0xb42f,
  0xcfef, 0xc01f, 0xc81f, 0xc41f, 0xcc1f, 0xc21f, 0xca1f, 0xc61f,
  0xce1f, 0xc11f, 0xc91f, 0xc51f, 0xcd1f, 0xc31f, 0xcb1f, 0xc71f,
  0xcf1f, 0xa38f, 0xc09f, 0x8067, 0xc89f, 0xa04f, 0xc49f, 0x80e7,
  0xcc9f, 0xb22f, 0xc29f, 0x91b7, 0xca9f, 0xb62f, 0xc69f, 0x9077,
  0xce9f, 0xc19f, 0xc99f, 0xa24f, 0xc59f, 0xcd9f, 0xc39f, 0xa14f,
  0xcb9f, 0xc79f, 0xcf9f, 0xb12f, 0xc05f, 0xc85f, 0xc45f, 0xb52f,
  0xcc5f, 0xc25f, 0xca5f, 0xb32f, 0xc65f, 0xce5f, 0xc15f, 0xb72f,
  0xc95f, 0xc55f, 0xcd5f, 0xc35f, 0xcb5f, 0xc75f, 0xcf5f, 0xb0af,
  0xc0df, 0xc8df, 0xc4df, 0xccdf, 0xc2df, 0xcadf, 0xc6df, 0xcedf,
  0xc1df, 0xc9df, 0xc5df, 0xcddf, 0xc3df, 0xcbdf, 0xc7df, 0xcfdf,
  0xc03f, 0xc83f, 0xc43f, 0xcc3f, 0xc23f, 0xca3f, 0xc63f, 0xce3f,
  0xc13f, 0xc93f, 0xc53f, 0xcd3f, 0xc33f, 0xcb3f, 0xc73f, 0xcf3f,
  0xc0bf, 0xc8bf, 0xc4bf, 0xccbf, 0xc2bf, 0xcabf, 0xc6bf, 0xcebf,
  0xc1bf, 0xc9bf, 0xc5bf, 0xcdbf, 0xc3bf, 0xcbbf, 0xc7bf, 0xcfbf,
  0xc07f, 0xc87f, 0xc47f, 0xcc7f, 0xc27f, 0xca7f, 0xc67f, 0xce7f,
  0xc17f, 0xc97f, 0xc57f, 0xcd7f, 0xc37f, 0xcb7f, 0xc77f, 0xcf7f,
  0xc0ff, 0xc8ff, 0xc4ff, 0xccff, 0xc2ff, 0xcaff, 0xc6ff, 0xceff,
  0xc1ff, 0xc9ff, 0xc5ff, 0xcdff, 0xc3ff, 0xcbff, 0xc7ff, 0xcfff]

def entries2 : List Nat := [
  0xa177, 0x5009, 0x803b, 0x3002, 0xa377, 0x5019, 0x80bb, 0x2000,
  0xb34f, 0x601d, 0x9057, 0x4001, 0xb74f, 0x603d, 0x807b, 0x3006,
  0xc72f, 0x700b, 0xa0f7, 0x5005, 0xcf2f, 0x704b, 0xa2f7, 0x5015,
  0xc0af, 0x80fb, 0xb0cf, 0x6003, 0xc8af, 0x8007, 0xa1f7, 0x500d,
  0xc4af, 0x8087, 0xb4cf, 0x6023, 0xccaf, 0x8047, 0xb2cf, 0x6013,
  0xc2af, 0x9157, 0xcaaf, 0x702b, 0xc6af, 0x90d7, 0xceaf, 0x6033,
  0xc1af, 0xa3f7, 0xc9af, 0x80c7, 0xc5af, 0xa00f, 0xcdaf, 0x8027,
  0xc3af, 0xb6cf, 0xcbaf, 0x91d7, 0xc7af, 0xb1cf, 0xcfaf, 0x80a7,
  0xc06f, 0x9037, 0xc86f, 0x706b, 0xc46f, 0x9137, 0xcc6f, 0x701b,
  0xc26f, 0xa20f, 0xca6f, 0x8067, 0xc66f, 0xa10f, 0xce6f, 0x705b,
  0xc16f, 0xb5cf, 0xc96f, 0x90b7, 0xc56f, 0xb3cf, 0xcd6f, 0x91b7,
  0xc36f, 0xcb6f, 0xc76f, 0xa30f, 0xcf6f, 0xc0ef, 0xc8ef, 0xa08f,
  0xc4ef, 0xccef, 0xc2ef, 0xa28f, 0xcaef, 0xc6ef, 0xceef, 0xa18f,
  0xc1ef, 0xc9ef, 0xc5ef, 0xb7cf, 0xcdef, 0xc3ef, 0xcbef, 0xb02f,
  0xc7ef, 0xcfef, 0xc01f, 0xc81f, 0xc41f, 0xcc1f, 0xc21f, 0xca1f,
  0xc61f, 0xce1f, 0xc11f, 0xc91f, 0xc51f, 0xcd1f, 0xc31f, 0xcb1f,
  0xc71f, 0xa38f, 0xcf1f, 0x80e7, 0xc09f, 0xa04f, 0xc89f, 0x8017,
  0xc49f, 0xb42f, 0xcc9f, 0x9077, 0xc29f, 0xb22f, 0xca9f, 0x8097,
  0xc69f, 0xce9f, 0xc19f, 0xa24f, 0xc99f, 0xc59f, 0xcd9f, 0xa14f,
  0xc39f, 0xcb9f, 0xc79f, 0xb62f, 0xcf9f, 0xc05f, 0xc85f, 0xb12f,
  0xc45f, 0xcc5f, 0xc25f, 0xb52f, 0xca5f, 0xc65f, 0xce5f, 0xb32f,
  0xc15f, 0xc95f, 0xc55f, 0xcd5f, 0xc35f, 0xcb5f, 0xc75f, 0xcf5f,
  0xc0df, 0xc8df, 0xc4df, 0xccdf, 0xc2df, 0xcadf, 0xc6df, 0xcedf,
  0xc1df, 0xc9df, 0xc5df, 0xcddf, 0xc3df, 0xcbdf, 0xc7df, 0xcfdf,
  0xc03f, 0xc83f, 0xc43f, 0xcc3f, 0xc23f, 0xca3f, 0xc63f, 0xce3f,
  0xc13f, 0xc93f, 0xc53f, 0xcd3f, 0xc33f, 0xcb3f, 0xc73f, 0xcf3f,
  0xc0bf, 0xc8bf, 0xc4bf, 0xccbf, 0xc2bf, 0xcabf, 0xc6bf, 0xcebf,
  0xc1bf, 0xc9bf, 0xc5bf, 0xcdbf, 0xc3bf, 0xcbbf, 0xc7bf, 0xcfbf,
  0xc07f, 0xc87f, 0xc47f, 0xcc7f, 0xc27f, 0xca7f, 0xc67f, 0xce7f,
  0xc17f, 0xc97f, 0xc57f, 0xcd7f, 0xc37f, 0xcb7f, 0xc77f, 0xcf7f,
  0xc0ff, 0xc8ff, 0xc4ff, 0xccff, 0xc2ff, 0xcaff, 0xc6ff, 0xceff,
  0xc1ff, 0xc9ff, 0xc5ff, 0xcdff, 0xc3ff, 0xcbff, 0xc7ff, 0xcfff]

def entries3 : List Nat := [
  0xb24f, 0x601d, 0x9097, 0x3002, 0xa1f7, 0x5005, 0x807b, 0x2000,
  0xc52f, 0x603d, 0x9197, 0x4001, 0xb64f, 0x6003, 0x9057, 0x3006,
  0xcd2f, 0x80fb, 0xb14f, 0x5015, 0xc32f, 0x702b, 0xa3f7, 0x4009,
  0xcb2f, 0x8007, 0xb54f, 0x6023, 0xc72f, 0x8087, 0xb34f, 0x500d,
  0xcf2f, 0x9157, 0xc0af, 0x6013, 0xc8af, 0x8047, 0xb74f, 0x6033,
  0xc4af, 0x90d7, 0xccaf, 0x706b, 0xc2af, 0x91d7, 0xcaaf, 0x600b,
  0xc6af, 0xb0cf, 0xceaf, 0x80c7, 0xc1af, 0xa00f, 0xc9af, 0x8027,
  0xc5af, 0xb4cf, 0xcdaf, 0x9037, 0xc3af, 0xb2cf, 0xcbaf, 0x80a7,
  0xc7af, 0xa20f, 0xcfaf, 0x701b, 0xc06f, 0x9137, 0xc86f, 0x705b,
  0xc46f, 0xb6cf, 0xcc6f, 0x8067, 0xc26f, 0xa10f, 0xca6f, 0x703b,
  0xc66f, 0xce6f, 0xc16f, 0x90b7, 0xc96f, 0xb1cf, 0xc56f, 0x91b7,
  0xcd6f, 0xc36f, 0xcb6f, 0xa30f, 0xc76f, 0xcf6f, 0xc0ef, 0x9077,
  0xc8ef, 0xc4ef, 0xccef, 0xa08f, 0xc2ef, 0xcaef, 0xc6ef, 0xa28f,
  0xceef, 0xc1ef, 0xc9ef, 0xb5cf, 0xc5ef, 0xcdef, 0xc3ef, 0xb3cf,
  0xcbef, 0xc7ef, 0xcfef, 0xc01f, 0xc81f, 0xc41f, 0xcc1f, 0xc21f,
  0xca1f, 0xc61f, 0xce1f, 0xc11f, 0xc91f, 0xc51f, 0xcd1f, 0xc31f,
  0xcb1f, 0xb7cf, 0xc71f, 0x80e7, 0xcf1f, 0xa18f, 0xc09f, 0x8017,
  0xc89f, 0xc49f, 0xcc9f, 0x9177, 0xc29f, 0xb02f, 0xca9f, 0x90f7,
  0xc69f, 0xce9f, 0xc19f, 0xa38f, 0xc99f, 0xc59f, 0xcd9f, 0xa04f,
  0xc39f, 0xcb9f, 0xc79f, 0xb42f, 0xcf9f, 0xc05f, 0xc85f, 0xb22f,
  0xc45f, 0xcc5f, 0xc25f, 0xb62f, 0xca5f, 0xc65f, 0xce5f, 0xb12f,
  0xc15f, 0xc95f, 0xc55f, 0xcd5f, 0xc35f, 0xcb5f, 0xc75f, 0xcf5f,
  0xc0df, 0xc8df, 0xc4df, 0xccdf, 0xc2df, 0xcadf, 0xc6df, 0xcedf,
  0xc1df, 0xc9df, 0xc5df, 0xcddf, 0xc3df, 0xcbdf, 0xc7df, 0xcfdf,
  0xc03f, 0xc83f, 0xc43f, 0xcc3f, 0xc23f, 0xca3f, 0xc63f, 0xce3f,
  0xc13f, 0xc93f, 0xc53f, 0xcd3f, 0xc33f, 0xcb3f, 0xc73f, 0xcf3f,
  0xc0bf, 0xc8bf, 0xc4bf, 0xccbf, 0xc2bf, 0xcabf, 0xc6bf, 0xcebf,
  0xc1bf, 0xc9bf, 0xc5bf, 0xcdbf, 0xc3bf, 0xcbbf, 0xc7bf, 0xcfbf,
  0xc07f, 0xc87f, 0xc47f, 0xcc7f, 0xc27f, 0xca7f, 0xc67f, 0xce7f,
  0xc17f, 0xc97f, 0xc57f, 0xcd7f, 0xc37f, 0xcb7f, 0xc77f, 0xcf7f,
  0xc0ff, 0xc8ff, 0xc4ff, 0xccff, 0xc2ff, 0xcaff, 0xc6ff, 0xceff,
  0xc1ff, 0xc9ff, 0xc5ff, 0xcdff, 0xc3ff, 0xcbff, 0xc7ff, 0xcfff]

def entries4 : List Nat := [
  0xb24f, 0x601d, 0x9057, 0x3002, 0xb64f, 0x5005, 0x807b, 0x2000,
  0xc32f, 0x700b, 0xa0f7, 0x4001, 0xb14f, 0x603d, 0x9157, 0x3006,
  0xcb2f, 0x80fb, 0xb54f, 0x5015, 0xc72f, 0x704b, 0xa2f7, 0x4009,
  0xcf2f, 0x8007, 0xb34f, 0x6003, 0xc0af, 0x8087, 0xb74f, 0x500d,
  0xc8af, 0x90d7, 0xc4af, 0x6023, 0xccaf, 0x8047, 0xb0cf, 0x6013,
  0xc2af, 0xa1f7, 0xcaaf, 0x702b, 0xc6af, 0x91d7, 0xceaf, 0x6033,
  0xc1af, 0xb4cf, 0xc9af, 0x80c7, 0xc5af, 0xa3f7, 0xcdaf, 0x706b,
  0xc3af, 0xb2cf, 0xcbaf, 0x9037, 0xc7af, 0xb6cf, 0xcfaf, 0x8027,
  0xc06f, 0xa00f, 0xc86f, 0x701b, 0xc46f, 0x9137, 0xcc6f, 0x705b,
  0xc26f, 0xb1cf, 0xca6f, 0x80a7, 0xc66f, 0xa20f, 0xce6f, 0x703b,
  0xc16f, 0xc96f, 0xc56f, 0x90b7, 0xcd6f, 0xb5cf, 0xc36f, 0x8067,
  0xcb6f, 0xc76f, 0xcf6f, 0xa10f, 0xc0ef, 0xc8ef, 0xc4ef, 0x91b7,
  0xccef, 0xc2ef, 0xcaef, 0xa30f, 0xc6ef, 0xceef, 0xc1ef, 0xa08f,
  0xc9ef, 0xc5ef, 0xcdef, 0xb3cf, 0xc3ef, 0xcbef, 0xc7ef, 0xa28f,
  0xcfef, 0xc01f, 0xc81f, 0xc41f, 0xcc1f, 0xc21f, 0xca1f, 0xb7cf,
  0xc61f, 0xce1f, 0xc11f, 0xc91f, 0xc51f, 0xcd1f, 0xc31f, 0xcb1f,
  0xc71f, 0xb02f, 0xcf1f, 0x80e7, 0xc09f, 0xa18f, 0xc89f, 0x8017,
  0xc49f, 0xcc9f, 0xc29f, 0x9077, 0xca9f, 0xb42f, 0xc69f, 0x8097,
  0xce9f, 0xc19f, 0xc99f, 0xa38f, 0xc59f, 0xcd9f, 0xc39f, 0x9177,
  0xcb9f, 0xc79f, 0xcf9f, 0xb22f, 0xc05f, 0xc85f, 0xc45f, 0xa04f,
  0xcc5f, 0xc25f, 0xca5f, 0xb62f, 0xc65f, 0xce5f, 0xc15f, 0xb12f,
  0xc95f, 0xc55f, 0xcd5f, 0xc35f, 0xcb5f, 0xc75f, 0xcf5f, 0xb52f,
  0xc0df, 0xc8df, 0xc4df, 0xccdf, 0xc2df, 0xcadf, 0xc6df, 0xcedf,
  0xc1df, 0xc9df, 0xc5df, 0xcddf, 0xc3df, 0xcbdf, 0xc7df, 0xcfdf,
  0xc03f, 0xc83f, 0xc43f, 0xcc3f, 0xc23f, 0xca3f, 0xc63f, 0xce3f,
  0xc13f, 0xc93f, 0xc53f, 0xcd3f, 0xc33f, 0xcb3f, 0xc73f, 0xcf3f,
  0xc0bf, 0xc8bf, 0xc4bf, 0xccbf, 0xc2bf, 0xcabf, 0xc6bf, 0xcebf,
  0xc1bf, 0xc9bf, 0xc5bf, 0xcdbf, 0xc3bf, 0xcbbf, 0xc7bf, 0xcfbf,
  0xc07f, 0xc87f, 0xc47f, 0xcc7f, 0xc27f, 0xca7f, 0xc67f, 0xce7f,
  0xc17f, 0xc97f, 0xc57f, 0xcd7f, 0xc37f, 0xcb7f, 0xc77f, 0xcf7f,
  0xc0ff, 0xc8ff, 0xc4ff, 0xccff, 0xc2ff, 0xcaff, 0xc6ff, 0xceff,
  0xc1ff, 0xc9ff, 0xc5ff, 0xcdff, 0xc3ff, 0xcbff, 0xc7ff, 0xcfff]

def entries5 : List Nat := [
  0xc12f, 0x601d, 0x9057, 0x3002, 0xb14f, 0x5005, 0x807b, 0x2000,
  0xc92f, 0x700b, 0xa1f7, 0x4001, 0xc52f, 0x603d, 0x9157, 0x3006,
  0xcd2f, 0x80fb, 0xb54f, 0x5015, 0xc32f, 0x704b, 0xa3f7, 0x4009,
  0xcb2f, 0x8007, 0xc72f, 0x6003, 0xcf2f, 0x8087, 0xb34f, 0x500d,
  0xc0af, 0x90d7, 0xc8af, 0x6023, 0xc4af, 0x8047, 0xb74f, 0x6013,
  0xccaf, 0xa00f, 0xc2af, 0x702b, 0xcaaf, 0x91d7, 0xc6af, 0x6033,
  0xceaf, 0xb0cf, 0xc1af, 0x80c7, 0xc9af, 0xa20f, 0xc5af, 0x706b,
  0xcdaf, 0xc3af, 0xcbaf, 0x9037, 0xc7af, 0xb4cf, 0xcfaf, 0x8027,
  0xc06f, 0xa10f, 0xc86f, 0x701b, 0xc46f, 0x9137, 0xcc6f, 0x705b,
  0xc26f, 0xb2cf, 0xca6f, 0x80a7, 0xc66f, 0xa30f, 0xce6f, 0x703b,
  0xc16f, 0xc96f, 0xc56f, 0x90b7, 0xcd6f, 0xb6cf, 0xc36f, 0x8067,
  0xcb6f, 0xc76f, 0xcf6f, 0xa08f, 0xc0ef, 0xc8ef, 0xc4ef, 0x91b7,
  0xccef, 0xc2ef, 0xcaef, 0xa28f, 0xc6ef, 0xceef, 0xc1ef, 0x9077,
  0xc9ef, 0xc5ef, 0xcdef, 0xb1cf, 0xc3ef, 0xcbef, 0xc7ef, 0xa18f,
  0xcfef, 0xc01f, 0xc81f, 0xc41f, 0xcc1f, 0xc21f, 0xca1f, 0xb5cf,
  0xc61f, 0xce1f, 0xc11f, 0xc91f, 0xc51f, 0xcd1f, 0xc31f, 0xcb1f,
  0xc71f, 0xb3cf, 0xcf1f, 0x80e7, 0xc09f, 0xa38f, 0xc89f, 0x8017,
  0xc49f, 0xcc9f, 0xc29f, 0x9177, 0xca9f, 0xb7cf, 0xc69f, 0x8097,
  0xce9f, 0xc19f, 0xc99f, 0xa04f, 0xc59f, 0xcd9f, 0xc39f, 0x90f7,
  0xcb9f, 0xc79f, 0xcf9f, 0xb02f, 0xc05f, 0xc85f, 0xc45f, 0xa24f,
  0xcc5f, 0xc25f, 0xca5f, 0xb42f, 0xc65f, 0xce5f, 0xc15f, 0xb22f,
  0xc95f, 0xc55f, 0xcd5f, 0xc35f, 0xcb5f, 0xc75f, 0xcf5f, 0xb62f,
  0xc0df, 0xc8df, 0xc4df, 0xccdf, 0xc2df, 0xcadf, 0xc6df, 0xcedf,
  0xc1df, 0xc9df, 0xc5df, 0xcddf, 0xc3df, 0xcbdf, 0xc7df, 0xcfdf,
  0xc03f, 0xc83f, 0xc43f, 0xcc3f, 0xc23f, 0xca3f, 0xc63f, 0xce3f,
  0xc13f, 0xc93f, 0xc53f, 0xcd3f, 0xc33f, 0xcb3f, 0xc73f, 0xcf3f,
  0xc0bf, 0xc8bf, 0xc4bf, 0xccbf, 0xc2bf, 0xcabf, 0xc6bf, 0xcebf,
  0xc1bf, 0xc9bf, 0xc5bf, 0xcdbf, 0xc3bf, 0xcbbf, 0xc7bf, 0xcfbf,
  0xc07f, 0xc87f, 0xc47f, 0xcc7f, 0xc27f, 0xca7f, 0xc67f, 0xce7f,
  0xc17f, 0xc97f, 0xc57f, 0xcd7f, 0xc37f, 0xcb7f, 0xc77f, 0xcf7f,
  0xc0ff, 0xc8ff, 0xc4ff, 0xccff, 0xc2ff, 0xcaff, 0xc6ff, 0xceff,
  0xc1ff, 0xc9ff, 0xc5ff, 0xcdff, 0xc3ff, 0xcbff, 0xc7ff, 0xcfff]

def entries6 : List Nat := [
  0x601d, 0x3002, 0x603d, 0x2000, 0x700b, 0x4001, 0x6003, 0x3006,
  0x807b, 0x5005, 0x704b, 0x4009, 0x9097, 0x6023, 0x80fb, 0x5015,
  0x9197, 0x6013, 0x8007, 0x500d, 0xa0f7, 0x702b, 0x9057, 0x6033,
  0xb14f, 0x8087, 0xa2f7, 0x706b, 0xb54f, 0x9157, 0xa1f7, 0x8047,
  0xa3f7, 0x701b, 0x90d7, 0x705b, 0xb34f, 0x80c7, 0xa00f, 0x703b,
  0xc32f, 0x91d7, 0xb74f, 0x8027, 0xcb2f, 0xa20f, 0xb0cf, 0x9037,
  0xc72f, 0xa10f, 0xcf2f, 0x9137, 0xc0af, 0xb4cf, 0xc8af, 0xa30f,
  0xc4af, 0xccaf, 0xc2af, 0xb2cf, 0xcaaf, 0xc6af, 0xceaf, 0xb6cf,
  0xb1cf, 0x80a7, 0xa08f, 0x8067, 0xc1af, 0x90b7, 0xb5cf, 0x80e7,
  0xc9af, 0xa28f, 0xc5af, 0x91b7, 0xcdaf, 0xb3cf, 0xc3af, 0xa18f,
  0xcbaf, 0xb7cf, 0xc7af, 0xa38f, 0xcfaf, 0xc06f, 0xc86f, 0xb02f,
  0xc46f, 0xcc6f, 0xc26f, 0xca6f, 0xc66f, 0xce6f, 0xc16f, 0xc96f,
  0xc56f, 0xcd6f, 0xc36f, 0xb42f, 0xcb6f, 0xc76f, 0xcf6f, 0xc0ef,
  0xc8ef, 0xc4ef, 0xccef, 0xc2ef, 0xcaef, 0xc6ef, 0xceef, 0xc1ef,
  0xc9ef, 0xc5ef, 0xcdef, 0xc3ef, 0xcbef, 0xc7ef, 0xcfef, 0xc01f,
  0xc81f, 0xc41f, 0xcc1f, 0xc21f, 0xca1f, 0xc61f, 0xce1f, 0xc11f,
  0xc91f, 0x9077, 0xb22f, 0x8017, 0xc51f, 0xa04f, 0xcd1f, 0x9177,
  0xc31f, 0xb62f, 0xcb1f, 0xa24f, 0xc71f, 0xcf1f, 0xc09f, 0xb12f,
  0xc89f, 0xc49f, 0xcc9f, 0xb52f, 0xc29f, 0xca9f, 0xc69f, 0xce9f,
  0xc19f, 0xc99f, 0xc59f, 0xcd9f, 0xc39f, 0xcb9f, 0xc79f, 0xcf9f,
  0xc05f, 0xc85f, 0xc45f, 0xcc5f, 0xc25f, 0xca5f, 0xc65f, 0xce5f,
  0xc15f, 0xc95f, 0xc55f, 0xcd5f, 0xc35f, 0xcb5f, 0xc75f, 0xcf5f,
  0xc0df, 0xc8df, 0xc4df, 0xccdf, 0xc2df, 0xcadf, 0xc6df, 0xcedf,
  0xc1df, 0xc9df, 0xc5df, 0xcddf, 0xc3df, 0xcbdf, 0xc7df, 0xcfdf,
  0xc03f, 0xc83f, 0xc43f, 0xcc3f, 0xc23f, 0xca3f, 0xc63f, 0xce3f,
  0xc13f, 0xc93f, 0xc53f, 0xcd3f, 0xc33f, 0xcb3f, 0xc73f, 0xcf3f,
  0xc0bf, 0xc8bf, 0xc4bf, 0xccbf, 0xc2bf, 0xcabf, 0xc6bf, 0xcebf,
  0xc1bf, 0xc9bf, 0xc5bf, 0xcdbf, 0xc3bf, 0xcbbf, 0xc7bf, 0xcfbf,
  0xc07f, 0xc87f, 0xc47f, 0xcc7f, 0xc27f, 0xca7f, 0xc67f, 0xce7f,
  0xc17f, 0xc97f, 0xc57f, 0xcd7f, 0xc37f, 0xcb7f, 0xc77f, 0xcf7f,
  0xc0ff, 0xc8ff, 0xc4ff, 0xccff, 0xc2ff, 0xcaff, 0xc6ff, 0xceff,
  0xc1ff, 0xc9ff, 0xc5ff, 0xcdff, 0xc3ff, 0xcbff, 0xc7ff, 0xcfff]

def entries7 : List Nat := [
  0x700b, 0x3002, 0x601d, 0x2000, 0x704b, 0x4001, 0x603d, 0x3006,
  0x8007, 0x5005, 0x702b, 0x4009, 0x9097, 0x6003, 0x8087, 0x5015,
  0x9197, 0x6023, 0x8047, 0x500d, 0xa0f7, 0x706b, 0x9057, 0x6013,
  0xb14f, 0x80c7, 0xa2f7, 0x701b, 0xc52f, 0x9157, 0xb54f, 0x8027,
  0xa1f7, 0x705b, 0x90d7, 0x6033, 0xb34f, 0x80a7, 0xa3f7, 0x703b,
  0xcd2f, 0x91d7, 0xb74f, 0x8067, 0xc32f, 0xa00f, 0xcb2f, 0x9037,
  0xc72f, 0xa20f, 0xcf2f, 0x9137, 0xc0af, 0xb0cf, 0xc8af, 0xa10f,
  0xc4af, 0xccaf, 0xc2af, 0xb4cf, 0xcaaf, 0xc6af, 0xceaf, 0xb2cf,
  0xb6cf, 0x80e7, 0xa30f, 0x707b, 0xc1af, 0x90b7, 0xb1cf, 0x8017,
  0xc9af, 0xa08f, 0xc5af, 0x91b7, 0xcdaf, 0xb5cf, 0xc3af, 0xa28f,
  0xcbaf, 0xb3cf, 0xc7af, 0xa18f, 0xcfaf, 0xc06f, 0xc86f, 0xb7cf,
  0xc46f, 0xcc6f, 0xc26f, 0xca6f, 0xc66f, 0xce6f, 0xc16f, 0xc96f,
  0xc56f, 0xcd6f, 0xc36f, 0xb02f, 0xcb6f, 0xc76f, 0xcf6f, 0xc0ef,
  0xc8ef, 0xc4ef, 0xccef, 0xc2ef, 0xcaef, 0xc6ef, 0xceef, 0xc1ef,
  0xc9ef, 0xc5ef, 0xcdef, 0xc3ef, 0xcbef, 0xc7ef, 0xcfef, 0xc01f,
  0xc81f, 0xc41f, 0xcc1f, 0xc21f, 0xca1f, 0xc61f, 0xce1f, 0xc11f,
  0xc91f, 0xa38f, 0xb42f, 0x9077, 0xc51f, 0xa04f, 0xcd1f, 0x9177,
  0xc31f, 0xb22f, 0xcb1f, 0xa24f, 0xc71f, 0xcf1f, 0xc09f, 0xb62f,
  0xc89f, 0xc49f, 0xcc9f, 0xb12f, 0xc29f, 0xca9f, 0xc69f, 0xce9f,
  0xc19f, 0xc99f, 0xc59f, 0xcd9f, 0xc39f, 0xcb9f, 0xc79f, 0xcf9f,
  0xc05f, 0xc85f, 0xc45f, 0xcc5f, 0xc25f, 0xca5f, 0xc65f, 0xce5f,
  0xc15f, 0xc95f, 0xc55f, 0xcd5f, 0xc35f, 0xcb5f, 0xc75f, 0xcf5f,
  0xc0df, 0xc8df, 0xc4df, 0xccdf, 0xc2df, 0xcadf, 0xc6df, 0xcedf,
  0xc1df, 0xc9df, 0xc5df, 0xcddf, 0xc3df, 0xcbdf, 0xc7df, 0xcfdf,
  0xc03f, 0xc83f, 0xc43f, 0xcc3f, 0xc23f, 0xca3f, 0xc63f, 0xce3f,
  0xc13f, 0xc93f, 0xc53f, 0xcd3f, 0xc33f, 0xcb3f, 0xc73f, 0xcf3f,
  0xc0bf, 0xc8bf, 0xc4bf, 0xccbf, 0xc2bf, 0xcabf, 0xc6bf, 0xcebf,
  0xc1bf, 0xc9bf, 0xc5bf, 0xcdbf, 0xc3bf, 0xcbbf, 0xc7bf, 0xcfbf,
  0xc07f, 0xc87f, 0xc47f, 0xcc7f, 0xc27f, 0xca7f, 0xc67f, 0xce7f,
  0xc17f, 0xc97f, 0xc57f, 0xcd7f, 0xc37f, 0xcb7f, 0xc77f, 0xcf7f,
  0xc0ff, 0xc8ff, 0xc4ff, 0xccff, 0xc2ff, 0xcaff, 0xc6ff, 0xceff,
  0xc1ff, 0xc9ff, 0xc5ff, 0xcdff, 0xc3ff, 0xcbff, 0xc7ff, 0xcfff]

def entries8 : List Nat := [
  0x7033, 0x4006, 0x601d, 0x2000, 0x7073, 0x400e, 0x603d, 0x3002,
  0x807b, 0x5005, 0x700b, 0x4001, 0x9097, 0x5015, 0x80fb, 0x4009,
  0xa0f7, 0x6003, 0x8007, 0x500d, 0xa2f7, 0x704b, 0x9197, 0x6023,
  0xb34f, 0x8087, 0xa1f7, 0x702b, 0xb74f, 0x8047, 0xa3f7, 0x706b,
  0xb0cf, 0x701b, 0x9057, 0x6013, 0xb4cf, 0x80c7, 0xa00f, 0x705b,
  0xc72f, 0x9157, 0xb2cf, 0x8027, 0xcf2f, 0x90d7, 0xb6cf, 0x80a7,
  0xc0af, 0xa20f, 0xc8af, 0x91d7, 0xc4af, 0xa10f, 0xccaf, 0x9037,
  0xc2af, 0xcaaf, 0xc6af, 0xb1cf, 0xceaf, 0xc1af, 0xc9af, 0xb5cf,
  0xc5af, 0x8067, 0xa30f, 0x703b, 0xcdaf, 0x9137, 0xb3cf, 0x80e7,
  0xc3af, 0xa08f, 0xcbaf, 0x90b7, 0xc7af, 0xa28f, 0xcfaf, 0x91b7,
  0xc06f, 0xb7cf, 0xc86f, 0xa18f, 0xc46f, 0xb02f, 0xcc6f, 0xa38f,
  0xc26f, 0xca6f, 0xc66f, 0xce6f, 0xc16f, 0xc96f, 0xc56f, 0xcd6f,
  0xc36f, 0xcb6f, 0xc76f, 0xb42f, 0xcf6f, 0xc0ef, 0xc8ef, 0xb22f,
  0xc4ef, 0xccef, 0xc2ef, 0xcaef, 0xc6ef, 0xceef, 0xc1ef, 0xc9ef,
  0xc5ef, 0xcdef, 0xc3ef, 0xcbef, 0xc7ef, 0xcfef, 0xc01f, 0xc81f,
  0xc41f, 0xcc1f, 0xc21f, 0xca1f, 0xc61f, 0xce1f, 0xc11f, 0xc91f,
  0xc51f, 0x9077, 0xcd1f, 0x8017, 0xc31f, 0xa04f, 0xcb1f, 0x9177,
  0xc71f, 0xb62f, 0xcf1f, 0xa24f, 0xc09f, 0xb12f, 0xc89f, 0xa14f,
  0xc49f, 0xcc9f, 0xc29f, 0xb52f, 0xca9f, 0xc69f, 0xce9f, 0xb32f,
  0xc19f, 0xc99f, 0xc59f, 0xcd9f, 0xc39f, 0xcb9f, 0xc79f, 0xcf9f,
  0xc05f, 0xc85f, 0xc45f, 0xcc5f, 0xc25f, 0xca5f, 0xc65f, 0xce5f,
  0xc15f, 0xc95f, 0xc55f, 0xcd5f, 0xc35f, 0xcb5f, 0xc75f, 0xcf5f,
  0xc0df, 0xc8df, 0xc4df, 0xccdf, 0xc2df, 0xcadf, 0xc6df, 0xcedf,
  0xc1df, 0xc9df, 0xc5df, 0xcddf, 0xc3df, 0xcbdf, 0xc7df, 0xcfdf,
  0xc03f, 0xc83f, 0xc43f, 0xcc3f, 0xc23f, 0xca3f, 0xc63f, 0xce3f,
  0xc13f, 0xc93f, 0xc53f, 0xcd3f, 0xc33f, 0xcb3f, 0xc73f, 0xcf3f,
  0xc0bf, 0xc8bf, 0xc4bf, 0xccbf, 0xc2bf, 0xcabf, 0xc6bf, 0xcebf,
  0xc1bf, 0xc9bf, 0xc5bf, 0xcdbf, 0xc3bf, 0xcbbf, 0xc7bf, 0xcfbf,
  0xc07f, 0xc87f, 0xc47f, 0xcc7f, 0xc27f, 0xca7f, 0xc67f, 0xce7f,
  0xc17f, 0xc97f, 0xc57f, 0xcd7f, 0xc37f, 0xcb7f, 0xc77f, 0xcf7f,
  0xc0ff, 0xc8ff, 0xc4ff, 0xccff, 0xc2ff, 0xcaff, 0xc6ff, 0xceff,
  0xc1ff, 0xc9ff, 0xc5ff, 0xcdff, 0xc3ff, 0xcbff, 0xc7ff, 0xcfff]

def entries9 : List Nat := [
  0x7033, 0x4006, 0x601d, 0x2000, 0x7073, 0x400e, 0x603d, 0x3002,
  0x9097, 0x5005, 0x700b, 0x4001, 0x9197, 0x6003, 0x807b, 0x4009,
  0xa0f7, 0x6023, 0x80fb, 0x5015, 0xa2f7, 0x704b, 0x9057, 0x500d,
  0xb34f, 0x8007, 0xa1f7, 0x702b, 0xc72f, 0x8087, 0xa3f7, 0x706b,
  0xb74f, 0x701b, 0x9157, 0x6013, 0xb0cf, 0x8047, 0xa00f, 0x705b,
  0xcf2f, 0x90d7, 0xb4cf, 0x80c7, 0xc0af, 0x91d7, 0xb2cf, 0x8027,
  0xc8af, 0xa20f, 0xc4af, 0x9037, 0xccaf, 0xa10f, 0xc2af, 0x9137,
  0xcaaf, 0xc6af, 0xceaf, 0xa30f, 0xc1af, 0xc9af, 0xc5af, 0xb6cf,
  0xcdaf, 0x80a7, 0xb1cf, 0x703b, 0xc3af, 0x90b7, 0xb5cf, 0x8067,
  0xcbaf, 0xa08f, 0xc7af, 0x91b7, 0xcfaf, 0xa28f, 0xc06f, 0x9077,
  0xc86f, 0xb3cf, 0xc46f, 0xa18f, 0xcc6f, 0xb7cf, 0xc26f, 0xa38f,
  0xca6f, 0xc66f, 0xce6f, 0xb02f, 0xc16f, 0xc96f, 0xc56f, 0xcd6f,
  0xc36f, 0xcb6f, 0xc76f, 0xb42f, 0xcf6f, 0xc0ef, 0xc8ef, 0xb22f,
  0xc4ef, 0xccef, 0xc2ef, 0xcaef, 0xc6ef, 0xceef, 0xc1ef, 0xc9ef,
  0xc5ef, 0xcdef, 0xc3ef, 0xcbef, 0xc7ef, 0xcfef, 0xc01f, 0xc81f,
  0xc41f, 0xcc1f, 0xc21f, 0xca1f, 0xc61f, 0xce1f, 0xc11f, 0xc91f,
  0xc51f, 0x9177, 0xcd1f, 0x80e7, 0xc31f, 0xa04f, 0xcb1f, 0x8017,
  0xc71f, 0xb62f, 0xcf1f, 0xa24f, 0xc09f, 0xb12f, 0xc89f, 0xa14f,
  0xc49f, 0xcc9f, 0xc29f, 0xb52f, 0xca9f, 0xc69f, 0xce9f, 0xb32f,
  0xc19f, 0xc99f, 0xc59f, 0xcd9f, 0xc39f, 0xcb9f, 0xc79f, 0xcf9f,
  0xc05f, 0xc85f, 0xc45f, 0xcc5f, 0xc25f, 0xca5f, 0xc65f, 0xce5f,
  0xc15f, 0xc95f, 0xc55f, 0xcd5f, 0xc35f, 0xcb5f, 0xc75f, 0xcf5f,
  0xc0df, 0xc8df, 0xc4df, 0xccdf, 0xc2df, 0xcadf, 0xc6df, 0xcedf,
  0xc1df, 0xc9df, 0xc5df, 0xcddf, 0xc3df, 0xcbdf, 0xc7df, 0xcfdf,
  0xc03f, 0xc83f, 0xc43f, 0xcc3f, 0xc23f, 0xca3f, 0xc63f, 0xce3f,
  0xc13f, 0xc93f, 0xc53f, 0xcd3f, 0xc33f, 0xcb3f, 0xc73f, 0xcf3f,
  0xc0bf, 0xc8bf, 0xc4bf, 0xccbf, 0xc2bf, 0xcabf, 0xc6bf, 0xcebf,
  0xc1bf, 0xc9bf, 0xc5bf, 0xcdbf, 0xc3bf, 0xcbbf, 0xc7bf, 0xcfbf,
  0xc07f, 0xc87f, 0xc47f, 0xcc7f, 0xc27f, 0xca7f, 0xc67f, 0xce7f,
  0xc17f, 0xc97f, 0xc57f, 0xcd7f, 0xc37f, 0xcb7f, 0xc77f, 0xcf7f,
  0xc0ff, 0xc8ff, 0xc4ff, 0xccff, 0xc2ff, 0xcaff, 0xc6ff, 0xceff,
  0xc1ff, 0xc9ff, 0xc5ff, 0xcdff, 0xc3ff, 0xcbff, 0xc7ff, 0xcfff]

def entries10 : List Nat := [
  0x700b, 0x4006, 0x601d, 0x2000, 0x807b, 0x400e, 0x603d, 0x3002,
  0x9017, 0x5005, 0x704b, 0x4001, 0x9117, 0x6003, 0x80fb, 0x4009,
  0xa177, 0x6023, 0x9097, 0x5015, 0xa377, 0x702b, 0x9197, 0x500d,
  0xb34f, 0x8007, 0xa0f7, 0x706b, 0xc0af, 0x8087, 0xa2f7, 0x701b,
  0xb74f, 0x8047, 0xa1f7, 0x6013, 0xb0cf, 0x80c7, 0xa3f7, 0x6033,
  0xc8af, 0x9057, 0xb4cf, 0x8027, 0xc4af, 0x9157, 0xb2cf, 0x80a7,
  0xccaf, 0xa00f, 0xc2af, 0x90d7, 0xcaaf, 0xa20f, 0xc6af, 0x91d7,
  0xceaf, 0xb6cf, 0xc1af, 0xa10f, 0xc9af, 0xc5af, 0xcdaf, 0xa30f,
  0xc3af, 0x9037, 0xb1cf, 0x705b, 0xcbaf, 0x9137, 0xb5cf, 0x703b,
  0xc7af, 0xa08f, 0xcfaf, 0x90b7, 0xc06f, 0xa28f, 0xc86f, 0x91b7,
  0xc46f, 0xb3cf, 0xcc6f, 0xa18f, 0xc26f, 0xb7cf, 0xca6f, 0xa38f,
  0xc66f, 0xce6f, 0xc16f, 0xb02f, 0xc96f, 0xc56f, 0xcd6f, 0xb42f,
  0xc36f, 0xcb6f, 0xc76f, 0xb22f, 0xcf6f, 0xc0ef, 0xc8ef, 0xb62f,
  0xc4ef, 0xccef, 0xc2ef, 0xcaef, 0xc6ef, 0xceef, 0xc1ef, 0xc9ef,
  0xc5ef, 0xcdef, 0xc3ef, 0xcbef, 0xc7ef, 0xcfef, 0xc01f, 0xc81f,
  0xc41f, 0xcc1f, 0xc21f, 0xca1f, 0xc61f, 0xce1f, 0xc11f, 0xc91f,
  0xc51f, 0x9077, 0xcd1f, 0x8067, 0xc31f, 0xa04f, 0xcb1f, 0x80e7,
  0xc71f, 0xb12f, 0xcf1f, 0xa24f, 0xc09f, 0xb52f, 0xc89f, 0xa14f,
  0xc49f, 0xcc9f, 0xc29f, 0xb32f, 0xca9f, 0xc69f, 0xce9f, 0xb72f,
  0xc19f, 0xc99f, 0xc59f, 0xcd9f, 0xc39f, 0xcb9f, 0xc79f, 0xcf9f,
  0xc05f, 0xc85f, 0xc45f, 0xcc5f, 0xc25f, 0xca5f, 0xc65f, 0xce5f,
  0xc15f, 0xc95f, 0xc55f, 0xcd5f, 0xc35f, 0xcb5f, 0xc75f, 0xcf5f,
  0xc0df, 0xc8df, 0xc4df, 0xccdf, 0xc2df, 0xcadf, 0xc6df, 0xcedf,
  0xc1df, 0xc9df, 0xc5df, 0xcddf, 0xc3df, 0xcbdf, 0xc7df, 0xcfdf,
  0xc03f, 0xc83f, 0xc43f, 0xcc3f, 0xc23f, 0xca3f, 0xc63f, 0xce3f,
  0xc13f, 0xc93f, 0xc53f, 0xcd3f, 0xc33f, 0xcb3f, 0xc73f, 0xcf3f,
  0xc0bf, 0xc8bf, 0xc4bf, 0xccbf, 0xc2bf, 0xcabf, 0xc6bf, 0xcebf,
  0xc1bf, 0xc9bf, 0xc5bf, 0xcdbf, 0xc3bf, 0xcbbf, 0xc7bf, 0xcfbf,
  0xc07f, 0xc87f, 0xc47f, 0xcc7f, 0xc27f, 0xca7f, 0xc67f, 0xce7f,
  0xc17f, 0xc97f, 0xc57f, 0xcd7f, 0xc37f, 0xcb7f, 0xc77f, 0xcf7f,
  0xc0ff, 0xc8ff, 0xc4ff, 0xccff, 0xc2ff, 0xcaff, 0xc6ff, 0xceff,
  0xc1ff, 0xc9ff, 0xc5ff, 0xcdff, 0xc3ff, 0xcbff, 0xc7ff, 0xcfff]

def entries11 : List Nat := [
  0x803b, 0x4006, 0x601d, 0x2000, 0x80bb, 0x400e, 0x603d, 0x3002,
  0x9017, 0x5005, 0x807b, 0x4001, 0x9117, 0x6003, 0x80fb, 0x4009,
  0xa177, 0x6023, 0x9097, 0x5015, 0xa377, 0x702b, 0x9197, 0x500d,
  0xb34f, 0x8007, 0xa0f7, 0x6013, 0xc0af, 0x8087, 0xa2f7, 0x706b,
  0xb74f, 0x8047, 0xa1f7, 0x6033, 0xb0cf, 0x80c7, 0xa3f7, 0x600b,
  0xc8af, 0x9057, 0xb4cf, 0x8027, 0xc4af, 0x9157, 0xb2cf, 0x80a7,
  0xccaf, 0xa00f, 0xc2af, 0x90d7, 0xcaaf, 0xa20f, 0xc6af, 0x91d7,
  0xceaf, 0xb6cf, 0xc1af, 0xa10f, 0xc9af, 0xc5af, 0xcdaf, 0xa30f,
  0xc3af, 0x9037, 0xb1cf, 0x701b, 0xcbaf, 0x9137, 0xb5cf, 0x705b,
  0xc7af, 0xa08f, 0xcfaf, 0x90b7, 0xc06f, 0xa28f, 0xc86f, 0x91b7,
  0xc46f, 0xb3cf, 0xcc6f, 0xa18f, 0xc26f, 0xb7cf, 0xca6f, 0xa38f,
  0xc66f, 0xce6f, 0xc16f, 0xb02f, 0xc96f, 0xc56f, 0xcd6f, 0xb42f,
  0xc36f, 0xcb6f, 0xc76f, 0xb22f, 0xcf6f, 0xc0ef, 0xc8ef, 0xb62f,
  0xc4ef, 0xccef, 0xc2ef, 0xcaef, 0xc6ef, 0xceef, 0xc1ef, 0xc9ef,
  0xc5ef, 0xcdef, 0xc3ef, 0xcbef, 0xc7ef, 0xcfef, 0xc01f, 0xc81f,
  0xc41f, 0xcc1f, 0xc21f, 0xca1f, 0xc61f, 0xce1f, 0xc11f, 0xc91f,
  0xc51f, 0xa04f, 0xcd1f, 0x8067, 0xc31f, 0xa24f, 0xcb1f, 0x80e7,
  0xc71f, 0xb12f, 0xcf1f, 0x9077, 0xc09f, 0xb52f, 0xc89f, 0xa14f,
  0xc49f, 0xcc9f, 0xc29f, 0xb32f, 0xca9f, 0xc69f, 0xce9f, 0xb72f,
  0xc19f, 0xc99f, 0xc59f, 0xcd9f, 0xc39f, 0xcb9f, 0xc79f, 0xcf9f,
  0xc05f, 0xc85f, 0xc45f, 0xcc5f, 0xc25f, 0xca5f, 0xc65f, 0xce5f,
  0xc15f, 0xc95f, 0xc55f, 0xcd5f, 0xc35f, 0xcb5f, 0xc75f, 0xcf5f,
  0xc0df, 0xc8df, 0xc4df, 0xccdf, 0xc2df, 0xcadf, 0xc6df, 0xcedf,
  0xc1df, 0xc9df, 0xc5df, 0xcddf, 0xc3df, 0xcbdf, 0xc7df, 0xcfdf,
  0xc03f, 0xc83f, 0xc43f, 0xcc3f, 0xc23f, 0xca3f, 0xc63f, 0xce3f,
  0xc13f, 0xc93f, 0xc53f, 0xcd3f, 0xc33f, 0xcb3f, 0xc73f, 0xcf3f,
  0xc0bf, 0xc8bf, 0xc4bf, 0xccbf, 0xc2bf, 0xcabf, 0xc6bf, 0xcebf,
  0xc1bf, 0xc9bf, 0xc5bf, 0xcdbf, 0xc3bf, 0xcbbf, 0xc7bf, 0xcfbf,
  0xc07f, 0xc87f, 0xc47f, 0xcc7f, 0xc27f, 0xca7f, 0xc67f, 0xce7f,
  0xc17f, 0xc97f, 0xc57f, 0xcd7f, 0xc37f, 0xcb7f, 0xc77f, 0xcf7f,
  0xc0ff, 0xc8ff, 0xc4ff, 0xccff, 0xc2ff, 0xcaff, 0xc6ff, 0xceff,
  0xc1ff, 0xc9ff, 0xc5ff, 0xcdff, 0xc3ff, 0xcbff, 0xc7ff, 0xcfff]

def entries12 : List Nat := [
  0x807b, 0x4006, 0x601d, 0x2000, 0x80fb, 0x400e, 0x700b, 0x3002,
  0x9097, 0x5005, 0x8007, 0x4001, 0x9197, 0x603d, 0x8087, 0x4009,
  0xa177, 0x704b, 0x9057, 0x5015, 0xb34f, 0x702b, 0x9157, 0x500d,
  0xc72f, 0x8047, 0xa377, 0x6003, 0xcf2f, 0x80c7, 0xa0f7, 0x6023,
  0xc0af, 0x8027, 0xa2f7, 0x6013, 0xc8af, 0x80a7, 0xa1f7, 0x6033,
  0xc4af, 0x90d7, 0xb74f, 0x706b, 0xccaf, 0x91d7, 0xb0cf, 0x701b,
  0xc2af, 0xa3f7, 0xcaaf, 0x9037, 0xc6af, 0xa00f, 0xceaf, 0x9137,
  0xc1af, 0xb4cf, 0xc9af, 0xa20f, 0xc5af, 0xb2cf, 0xcdaf, 0xa10f,
  0xc3af, 0x90b7, 0xb6cf, 0x705b, 0xcbaf, 0x91b7, 0xb1cf, 0x703b,
  0xc7af, 0xa30f, 0xcfaf, 0x8067, 0xc06f, 0xa08f, 0xc86f, 0x9077,
  0xc46f, 0xb5cf, 0xcc6f, 0xa28f, 0xc26f, 0xb3cf, 0xca6f, 0xa18f,
  0xc66f, 0xce6f, 0xc16f, 0xb7cf, 0xc96f, 0xc56f, 0xcd6f, 0xb02f,
  0xc36f, 0xcb6f, 0xc76f, 0xb42f, 0xcf6f, 0xc0ef, 0xc8ef, 0xb22f,
  0xc4ef, 0xccef, 0xc2ef, 0xcaef, 0xc6ef, 0xceef, 0xc1ef, 0xc9ef,
  0xc5ef, 0xcdef, 0xc3ef, 0xcbef, 0xc7ef, 0xcfef, 0xc01f, 0xc81f,
  0xc41f, 0xcc1f, 0xc21f, 0xca1f, 0xc61f, 0xce1f, 0xc11f, 0xc91f,
  0xc51f, 0xa38f, 0xcd1f, 0x80e7, 0xc31f, 0xa04f, 0xcb1f, 0x8017,
  0xc71f, 0xb62f, 0xcf1f, 0xa24f, 0xc09f, 0xb12f, 0xc89f, 0xa14f,
  0xc49f, 0xcc9f, 0xc29f, 0xb52f, 0xca9f, 0xc69f, 0xce9f, 0xb32f,
  0xc19f, 0xc99f, 0xc59f, 0xcd9f, 0xc39f, 0xcb9f, 0xc79f, 0xcf9f,
  0xc05f, 0xc85f, 0xc45f, 0xcc5f, 0xc25f, 0xca5f, 0xc65f, 0xce5f,
  0xc15f, 0xc95f, 0xc55f, 0xcd5f, 0xc35f, 0xcb5f, 0xc75f, 0xcf5f,
  0xc0df, 0xc8df, 0xc4df, 0xccdf, 0xc2df, 0xcadf, 0xc6df, 0xcedf,
  0xc1df, 0xc9df, 0xc5df, 0xcddf, 0xc3df, 0xcbdf, 0xc7df, 0xcfdf,
  0xc03f, 0xc83f, 0xc43f, 0xcc3f, 0xc23f, 0xca3f, 0xc63f, 0xce3f,
  0xc13f, 0xc93f, 0xc53f, 0xcd3f, 0xc33f, 0xcb3f, 0xc73f, 0xcf3f,
  0xc0bf, 0xc8bf, 0xc4bf, 0xccbf, 0xc2bf, 0xcabf, 0xc6bf, 0xcebf,
  0xc1bf, 0xc9bf, 0xc5bf, 0xcdbf, 0xc3bf, 0xcbbf, 0xc7bf, 0xcfbf,
  0xc07f, 0xc87f, 0xc47f, 0xcc7f, 0xc27f, 0xca7f, 0xc67f, 0xce7f,
  0xc17f, 0xc97f, 0xc57f, 0xcd7f, 0xc37f, 0xcb7f, 0xc77f, 0xcf7f,
  0xc0ff, 0xc8ff, 0xc4ff, 0xccff, 0xc2ff, 0xcaff, 0xc6ff, 0xceff,
  0xc1ff, 0xc9ff, 0xc5ff, 0xcdff, 0xc3ff, 0xcbff, 0xc7ff, 0xcfff]

def entries13 : List Nat := [
  0x803b, 0x4006, 0x7033, 0x3002, 0x80bb, 0x400e, 0x7073, 0x2000,
  0xa0f7, 0x601d, 0x807b, 0x4001, 0xa2f7, 0x5005, 0x80fb, 0x4009,
  0xb34f, 0x700b, 0x9057, 0x5015, 0xb74f, 0x704b, 0x9157, 0x500d,
  0xc72f, 0x8007, 0xa1f7, 0x603d, 0xcf2f, 0x8087, 0xa3f7, 0x6003,
  0xc0af, 0x8047, 0xa00f, 0x6023, 0xc8af, 0x80c7, 0xa20f, 0x6013,
  0xc4af, 0x90d7, 0xb0cf, 0x702b, 0xccaf, 0x91d7, 0xb4cf, 0x706b,
  0xc2af, 0xa10f, 0xcaaf, 0x8027, 0xc6af, 0xa30f, 0xceaf, 0x80a7,
  0xc1af, 0xb2cf, 0xc9af, 0xa08f, 0xc5af, 0xb6cf, 0xcdaf, 0xa28f,
  0xc3af, 0x9037, 0xb1cf, 0x701b, 0xcbaf, 0x9137, 0xb5cf, 0x705b,
  0xc7af, 0xa18f, 0xcfaf, 0x8067, 0xc06f, 0xa38f, 0xc86f, 0x80e7,
  0xc46f, 0xb3cf, 0xcc6f, 0x90b7, 0xc26f, 0xb7cf, 0xca6f, 0x91b7,
  0xc66f, 0xce6f, 0xc16f, 0xb02f, 0xc96f, 0xc56f, 0xcd6f, 0xb42f,
  0xc36f, 0xcb6f, 0xc76f, 0xb22f, 0xcf6f, 0xc0ef, 0xc8ef, 0xb62f,
  0xc4ef, 0xccef, 0xc2ef, 0xcaef, 0xc6ef, 0xceef, 0xc1ef, 0xc9ef,
  0xc5ef, 0xcdef, 0xc3ef, 0xcbef, 0xc7ef, 0xcfef, 0xc01f, 0xc81f,
  0xc41f, 0xcc1f, 0xc21f, 0xca1f, 0xc61f, 0xce1f, 0xc11f, 0xc91f,
  0xc51f, 0xa04f, 0xcd1f, 0x8017, 0xc31f, 0xa24f, 0xcb1f, 0x8097,
  0xc71f, 0xb12f, 0xcf1f, 0x9077, 0xc09f, 0xb52f, 0xc89f, 0x9177,
  0xc49f, 0xcc9f, 0xc29f, 0xb32f, 0xca9f, 0xc69f, 0xce9f, 0xa14f,
  0xc19f, 0xc99f, 0xc59f, 0xcd9f, 0xc39f, 0xcb9f, 0xc79f, 0xcf9f,
  0xc05f, 0xc85f, 0xc45f, 0xcc5f, 0xc25f, 0xca5f, 0xc65f, 0xce5f,
  0xc15f, 0xc95f, 0xc55f, 0xcd5f, 0xc35f, 0xcb5f, 0xc75f, 0xcf5f,
  0xc0df, 0xc8df, 0xc4df, 0xccdf, 0xc2df, 0xcadf, 0xc6df, 0xcedf,
  0xc1df, 0xc9df, 0xc5df, 0xcddf, 0xc3df, 0xcbdf, 0xc7df, 0xcfdf,
  0xc03f, 0xc83f, 0xc43f, 0xcc3f, 0xc23f, 0xca3f, 0xc63f, 0xce3f,
  0xc13f, 0xc93f, 0xc53f, 0xcd3f, 0xc33f, 0xcb3f, 0xc73f, 0xcf3f,
  0xc0bf, 0xc8bf, 0xc4bf, 0xccbf, 0xc2bf, 0xcabf, 0xc6bf, 0xcebf,
  0xc1bf, 0xc9bf, 0xc5bf, 0xcdbf, 0xc3bf, 0xcbbf, 0xc7bf, 0xcfbf,
  0xc07f, 0xc87f, 0xc47f, 0xcc7f, 0xc27f, 0xca7f, 0xc67f, 0xce7f,
  0xc17f, 0xc97f, 0xc57f, 0xcd7f, 0xc37f, 0xcb7f, 0xc77f, 0xcf7f,
  0xc0ff, 0xc8ff, 0xc4ff, 0xccff, 0xc2ff, 0xcaff, 0xc6ff, 0xceff,
  0xc1ff, 0xc9ff, 0xc5ff, 0xcdff, 0xc3ff, 0xcbff, 0xc7ff, 0xcfff]

def entries14 : List Nat := [
  0x9017, 0x4006, 0x7033, 0x3002, 0x9117, 0x400e, 0x7073, 0x2000,
  0xa177, 0x601d, 0x803b, 0x4001, 0xa377, 0x5005, 0x80bb, 0x4009,
  0xb0cf, 0x700b, 0x9097, 0x5015, 0xb4cf, 0x704b, 0x9197, 0x500d,
  0xc4af, 0x807b, 0xa0f7, 0x603d, 0xccaf, 0x80fb, 0xa2f7, 0x6003,
  0xc2af, 0x8007, 0xa1f7, 0x6023, 0xcaaf, 0x8087, 0xa3f7, 0x6013,
  0xc6af, 0x9057, 0xb2cf, 0x702b, 0xceaf, 0x9157, 0xb6cf, 0x706b,
  0xc1af, 0xa00f, 0xc9af, 0x8047, 0xc5af, 0xa20f, 0xcdaf, 0x80c7,
  0xc3af, 0xb1cf, 0xcbaf, 0xa10f, 0xc7af, 0xb5cf, 0xcfaf, 0x90d7,
  0xc06f, 0x91d7, 0xb3cf, 0x701b, 0xc86f, 0x9037, 0xb7cf, 0x705b,
  0xc46f, 0xa30f, 0xcc6f, 0x8027, 0xc26f, 0xa08f, 0xca6f, 0x80a7,
  0xc66f, 0xb02f, 0xce6f, 0x9137, 0xc16f, 0xb42f, 0xc96f, 0x90b7,
  0xc56f, 0xcd6f, 0xc36f, 0xb22f, 0xcb6f, 0xc76f, 0xcf6f, 0xa28f,
  0xc0ef, 0xc8ef, 0xc4ef, 0xa18f, 0xccef, 0xc2ef, 0xcaef, 0xa38f,
  0xc6ef, 0xceef, 0xc1ef, 0xc9ef, 0xc5ef, 0xcdef, 0xc3ef, 0xb62f,
  0xcbef, 0xc7ef, 0xcfef, 0xc01f, 0xc81f, 0xc41f, 0xcc1f, 0xc21f,
  0xca1f, 0xc61f, 0xce1f, 0xc11f, 0xc91f, 0xc51f, 0xcd1f, 0xc31f,
  0xcb1f, 0xa04f, 0xc71f, 0x8067, 0xcf1f, 0xa24f, 0xc09f, 0x80e7,
  0xc89f, 0xb12f, 0xc49f, 0x91b7, 0xcc9f, 0xb52f, 0xc29f, 0x9077,
  0xca9f, 0xc69f, 0xce9f, 0xa14f, 0xc19f, 0xc99f, 0xc59f, 0xa34f,
  0xcd9f, 0xc39f, 0xcb9f, 0xc79f, 0xcf9f, 0xc05f, 0xc85f, 0xb32f,
  0xc45f, 0xcc5f, 0xc25f, 0xb72f, 0xca5f, 0xc65f, 0xce5f, 0xb0af,
  0xc15f, 0xc95f, 0xc55f, 0xcd5f, 0xc35f, 0xcb5f, 0xc75f, 0xcf5f,
  0xc0df, 0xc8df, 0xc4df, 0xccdf, 0xc2df, 0xcadf, 0xc6df, 0xcedf,
  0xc1df, 0xc9df, 0xc5df, 0xcddf, 0xc3df, 0xcbdf, 0xc7df, 0xcfdf,
  0xc03f, 0xc83f, 0xc43f, 0xcc3f, 0xc23f, 0xca3f, 0xc63f, 0xce3f,
  0xc13f, 0xc93f, 0xc53f, 0xcd3f, 0xc33f, 0xcb3f, 0xc73f, 0xcf3f,
  0xc0bf, 0xc8bf, 0xc4bf, 0xccbf, 0xc2bf, 0xcabf, 0xc6bf, 0xcebf,
  0xc1bf, 0xc9bf, 0xc5bf, 0xcdbf, 0xc3bf, 0xcbbf, 0xc7bf, 0xcfbf,
  0xc07f, 0xc87f, 0xc47f, 0xcc7f, 0xc27f, 0xca7f, 0xc67f, 0xce7f,
  0xc17f, 0xc97f, 0xc57f, 0xcd7f, 0xc37f, 0xcb7f, 0xc77f, 0xcf7f,
  0xc0ff, 0xc8ff, 0xc4ff, 0xccff, 0xc2ff, 0xcaff, 0xc6ff, 0xceff,
  0xc1ff, 0xc9ff, 0xc5ff, 0xcdff, 0xc3ff, 0xcbff, 0xc7ff, 0xcfff]

def entries15 : List Nat := [
  0x9017, 0x4006, 0x7033, 0x3002, 0x9117, 0x400e, 0x7073, 0x2000,
  0xa0f7, 0x601d, 0x803b, 0x4001, 0xa2f7, 0x5005, 0x80bb, 0x4009,
  0xb0cf, 0x700b, 0x9097, 0x5015, 0xb4cf, 0x704b, 0x9197, 0x500d,
  0xc0af, 0x807b, 0xb2cf, 0x603d, 0xc8af, 0x80fb, 0xa1f7, 0x6003,
  0xc4af, 0x8007, 0xb6cf, 0x6023, 0xccaf, 0x8087, 0xa3f7, 0x6013,
  0xc2af, 0x9057, 0xcaaf, 0x702b, 0xc6af, 0x9157, 0xb1cf, 0x706b,
  0xceaf, 0xa00f, 0xc1af, 0x8047, 0xc9af, 0xa20f, 0xc5af, 0x80c7,
  0xcdaf, 0xb5cf, 0xc3af, 0x90d7, 0xcbaf, 0xb3cf, 0xc7af, 0x91d7,
  0xcfaf, 0x9037, 0xc06f, 0x701b, 0xc86f, 0x9137, 0xb7cf, 0x705b,
  0xc46f, 0xa10f, 0xcc6f, 0x8027, 0xc26f, 0xa30f, 0xca6f, 0x80a7,
  0xc66f, 0xb02f, 0xce6f, 0x90b7, 0xc16f, 0xb42f, 0xc96f, 0x91b7,
  0xc56f, 0xcd6f, 0xc36f, 0xa08f, 0xcb6f, 0xc76f, 0xcf6f, 0xa28f,
  0xc0ef, 0xc8ef, 0xc4ef, 0xa18f, 0xccef, 0xc2ef, 0xcaef, 0xa38f,
  0xc6ef, 0xceef, 0xc1ef, 0xc9ef, 0xc5ef, 0xcdef, 0xc3ef, 0xb22f,
  0xcbef, 0xc7ef, 0xcfef, 0xc01f, 0xc81f, 0xc41f, 0xcc1f, 0xc21f,
  0xca1f, 0xc61f, 0xce1f, 0xc11f, 0xc91f, 0xc51f, 0xcd1f, 0xc31f,
  0xcb1f, 0xa04f, 0xc71f, 0x8067, 0xcf1f, 0xa24f, 0xc09f, 0x80e7,
  0xc89f, 0xb62f, 0xc49f, 0x9077, 0xcc9f, 0xb12f, 0xc29f, 0x9177,
  0xca9f, 0xc69f, 0xce9f, 0xa14f, 0xc19f, 0xc99f, 0xc59f, 0xa34f,
  0xcd9f, 0xc39f, 0xcb9f, 0xc79f, 0xcf9f, 0xc05f, 0xc85f, 0xb52f,
  0xc45f, 0xcc5f, 0xc25f, 0xb32f, 0xca5f, 0xc65f, 0xce5f, 0xb72f,
  0xc15f, 0xc95f, 0xc55f, 0xcd5f, 0xc35f, 0xcb5f, 0xc75f, 0xcf5f,
  0xc0df, 0xc8df, 0xc4df, 0xccdf, 0xc2df, 0xcadf, 0xc6df, 0xcedf,
  0xc1df, 0xc9df, 0xc5df, 0xcddf, 0xc3df, 0xcbdf, 0xc7df, 0xcfdf,
  0xc03f, 0xc83f, 0xc43f, 0xcc3f, 0xc23f, 0xca3f, 0xc63f, 0xce3f,
  0xc13f, 0xc93f, 0xc53f, 0xcd3f, 0xc33f, 0xcb3f, 0xc73f, 0xcf3f,
  0xc0bf, 0xc8bf, 0xc4bf, 0xccbf, 0xc2bf, 0xcabf, 0xc6bf, 0xcebf,
  0xc1bf, 0xc9bf, 0xc5bf, 0xcdbf, 0xc3bf, 0xcbbf, 0xc7bf, 0xcfbf,
  0xc07f, 0xc87f, 0xc47f, 0xcc7f, 0xc27f, 0xca7f, 0xc67f, 0xce7f,
  0xc17f, 0xc97f, 0xc57f, 0xcd7f, 0xc37f, 0xcb7f, 0xc77f, 0xcf7f,
  0xc0ff, 0xc8ff, 0xc4ff, 0xccff, 0xc2ff, 0xcaff, 0xc6ff, 0xceff,
  0xc1ff, 0xc9ff, 0xc5ff, 0xcdff, 0xc3ff, 0xcbff, 0xc7ff, 0xcfff]

def entries16 : List Nat := [
  0x1000, 0x2001, 0x4003, 0x500b, 0x501b, 0x6007, 0x8057, 0x9077,
  0x6027, 0x80d7, 0x9177, 0xa1f7, 0xa3f7, 0xb08f, 0xc58f, 0xcd8f,
  0x7017, 0x8037, 0xa00f, 0xb48f, 0xb28f, 0xc38f, 0xcb8f, 0xc78f,
  0xcf8f, 0xc04f, 0xc84f, 0xc44f, 0xcc4f, 0xc24f, 0xca4f, 0xc64f,
  0x80b7, 0xa20f, 0xb68f, 0xce4f, 0xc14f, 0xc94f, 0xc54f, 0xcd4f,
  0xc34f, 0xcb4f, 0xc74f, 0xcf4f, 0xc0cf, 0xc8cf, 0xc4cf, 0xcccf,
  0xc2cf, 0xcacf, 0xc6cf, 0xcecf, 0xc1cf, 0xc9cf, 0xc5cf, 0xcdcf,
  0xc3cf, 0xcbcf, 0xc7cf, 0xcfcf, 0xc02f, 0xc82f, 0xc42f, 0xcc2f,
  0x90f7, 0xa10f, 0xc22f, 0xca2f, 0xc62f, 0xce2f, 0xc12f, 0xc92f,
  0xc52f, 0xcd2f, 0xc32f, 0xcb2f, 0xc72f, 0xcf2f, 0xc0af, 0xc8af,
  0xc4af, 0xccaf, 0xc2af, 0xcaaf, 0xc6af, 0xceaf, 0xc1af, 0xc9af,
  0xc5af, 0xcdaf, 0xc3af, 0xcbaf, 0xc7af, 0xcfaf, 0xc06f, 0xc86f,
  0xc46f, 0xcc6f, 0xc26f, 0xca6f, 0xc66f, 0xce6f, 0xc16f, 0xc96f,
  0xc56f, 0xcd6f, 0xc36f, 0xcb6f, 0xc76f, 0xcf6f, 0xc0ef, 0xc8ef,
  0xc4ef, 0xccef, 0xc2ef, 0xcaef, 0xc6ef, 0xceef, 0xc1ef, 0xc9ef,
  0xc5ef, 0xcdef, 0xc3ef, 0xcbef, 0xc7ef, 0xcfef, 0xc01f, 0xc81f,
  0xa30f, 0xb18f, 0xc41f, 0xcc1f, 0xc21f, 0xca1f, 0xc61f, 0xce1f,
  0xc11f, 0xc91f, 0xc51f, 0xcd1f, 0xc31f, 0xcb1f, 0xc71f, 0xcf1f,
  0xc09f, 0xc89f, 0xc49f, 0xcc9f, 0xc29f, 0xca9f, 0xc69f, 0xce9f,
  0xc19f, 0xc99f, 0xc59f, 0xcd9f, 0xc39f, 0xcb9f, 0xc79f, 0xcf9f,
  0xc05f, 0xc85f, 0xc45f, 0xcc5f, 0xc25f, 0xca5f, 0xc65f, 0xce5f,
  0xc15f, 0xc95f, 0xc55f, 0xcd5f, 0xc35f, 0xcb5f, 0xc75f, 0xcf5f,
  0xc0df, 0xc8df, 0xc4df, 0xccdf, 0xc2df, 0xcadf, 0xc6df, 0xcedf,
  0xc1df, 0xc9df, 0xc5df, 0xcddf, 0xc3df, 0xcbdf, 0xc7df, 0xcfdf,
  0xc03f, 0xc83f, 0xc43f, 0xcc3f, 0xc23f, 0xca3f, 0xc63f, 0xce3f,
  0xc13f, 0xc93f, 0xc53f, 0xcd3f, 0xc33f, 0xcb3f, 0xc73f, 0xcf3f,
  0xc0bf, 0xc8bf, 0xc4bf, 0xccbf, 0xc2bf, 0xcabf, 0xc6bf, 0xcebf,
  0xc1bf, 0xc9bf, 0xc5bf, 0xcdbf, 0xc3bf, 0xcbbf, 0xc7bf, 0xcfbf,
  0xc07f, 0xc87f, 0xc47f, 0xcc7f, 0xc27f, 0xca7f, 0xc67f, 0xce7f,
  0xc17f, 0xc97f, 0xc57f, 0xcd7f, 0xc37f, 0xcb7f, 0xc77f, 0xcf7f,
  0xc0ff, 0xc8ff, 0xc4ff, 0xccff, 0xc2ff, 0xcaff, 0xc6ff, 0xceff,
  0xc1ff, 0xc9ff, 0xc5ff, 0xcdff, 0xc3ff, 0xcbff, 0xc7ff, 0xcfff]

def entries17 : List Nat := [
  0x2000, 0x2002, 0x3001, 0x4005, 0x400d, 0x5003, 0x600b, 0x602b,
  0x5013, 0x601b, 0x7007, 0x7047, 0x8017, 0x90b7, 0xa1f7, 0xa3f7,
  0x603b, 0x7027, 0x8097, 0x8057, 0x91b7, 0xa00f, 0xb18f, 0xb58f,
  0xa20f, 0xb38f, 0xc54f, 0xcd4f, 0xc34f, 0xcb4f, 0xc74f, 0xcf4f,
  0x7067, 0x80d7, 0x9077, 0xa10f, 0xa30f, 0xb78f, 0xc0cf, 0xc8cf,
  0xb04f, 0xc4cf, 0xcccf, 0xc2cf, 0xcacf, 0xc6cf, 0xcecf, 0xc1cf,
  0xc9cf, 0xc5cf, 0xcdcf, 0xc3cf, 0xcbcf, 0xc7cf, 0xcfcf, 0xc02f,
  0xc82f, 0xc42f, 0xcc2f, 0xc22f, 0xca2f, 0xc62f, 0xce2f, 0xc12f,
  0x8037, 0x9177, 0xa08f, 0xb44f, 0xb24f, 0xc92f, 0xc52f, 0xcd2f,
  0xc32f, 0xcb2f, 0xc72f, 0xcf2f, 0xc0af, 0xc8af, 0xc4af, 0xccaf,
  0xc2af, 0xcaaf, 0xc6af, 0xceaf, 0xc1af, 0xc9af, 0xc5af, 0xcdaf,
  0xc3af, 0xcbaf, 0xc7af, 0xcfaf, 0xc06f, 0xc86f, 0xc46f, 0xcc6f,
  0xc26f, 0xca6f, 0xc66f, 0xce6f, 0xc16f, 0xc96f, 0xc56f, 0xcd6f,
  0xc36f, 0xcb6f, 0xc76f, 0xcf6f, 0xc0ef, 0xc8ef, 0xc4ef, 0xccef,
  0xc2ef, 0xcaef, 0xc6ef, 0xceef, 0xc1ef, 0xc9ef, 0xc5ef, 0xcdef,
  0xc3ef, 0xcbef, 0xc7ef, 0xcfef, 0xc01f, 0xc81f, 0xc41f, 0xcc1f,
  0x90f7, 0xa28f, 0xb64f, 0xb14f, 0xc21f, 0xca1f, 0xc61f, 0xce1f,
  0xc11f, 0xc91f, 0xc51f, 0xcd1f, 0xc31f, 0xcb1f, 0xc71f, 0xcf1f,
  0xc09f, 0xc89f, 0xc49f, 0xcc9f, 0xc29f, 0xca9f, 0xc69f, 0xce9f,
  0xc19f, 0xc99f, 0xc59f, 0xcd9f, 0xc39f, 0xcb9f, 0xc79f, 0xcf9f,
  0xc05f, 0xc85f, 0xc45f, 0xcc5f, 0xc25f, 0xca5f, 0xc65f, 0xce5f,
  0xc15f, 0xc95f, 0xc55f, 0xcd5f, 0xc35f, 0xcb5f, 0xc75f, 0xcf5f,
  0xc0df, 0xc8df, 0xc4df, 0xccdf, 0xc2df, 0xcadf, 0xc6df, 0xcedf,
  0xc1df, 0xc9df, 0xc5df, 0xcddf, 0xc3df, 0xcbdf, 0xc7df, 0xcfdf,
  0xc03f, 0xc83f, 0xc43f, 0xcc3f, 0xc23f, 0xca3f, 0xc63f, 0xce3f,
  0xc13f, 0xc93f, 0xc53f, 0xcd3f, 0xc33f, 0xcb3f, 0xc73f, 0xcf3f,
  0xc0bf, 0xc8bf, 0xc4bf, 0xccbf, 0xc2bf, 0xcabf, 0xc6bf, 0xcebf,
  0xc1bf, 0xc9bf, 0xc5bf, 0xcdbf, 0xc3bf, 0xcbbf, 0xc7bf, 0xcfbf,
  0xc07f, 0xc87f, 0xc47f, 0xcc7f, 0xc27f, 0xca7f, 0xc67f, 0xce7f,
  0xc17f, 0xc97f, 0xc57f, 0xcd7f, 0xc37f, 0xcb7f, 0xc77f, 0xcf7f,
  0xc0ff, 0xc8ff, 0xc4ff, 0xccff, 0xc2ff, 0xcaff, 0xc6ff, 0xceff,
  0xc1ff, 0xc9ff, 0xc5ff, 0xcdff, 0xc3ff, 0xcbff, 0xc7ff, 0xcfff]

def entries18 : List Nat := [
  0x2000, 0x2002, 0x4005, 0x3001, 0x5003, 0x400d, 0x600b, 0x602b,
  0x601b, 0x5013, 0x703b, 0x707b, 0x8067, 0x80e7, 0x90d7, 0x91d7,
  0x7007, 0x7047, 0x8017, 0x8097, 0x9037, 0x9137, 0xa1f7, 0xa3f7,
  0xa00f, 0xa20f, 0xb38f, 0xb78f, 0xc0cf, 0xc8cf, 0xc4cf, 0xcccf,
  0x8057, 0x7027, 0x90b7, 0x91b7, 0xa10f, 0xa30f, 0xb04f, 0xb44f,
  0xb24f, 0xb64f, 0xc2cf, 0xcacf, 0xc6cf, 0xcecf, 0xc1cf, 0xc9cf,
  0xc5cf, 0xcdcf, 0xc3cf, 0xcbcf, 0xc7cf, 0xcfcf, 0xc02f, 0xc82f,
  0xc42f, 0xcc2f, 0xc22f, 0xca2f, 0xc62f, 0xce2f, 0xc12f, 0xc92f,
  0x9077, 0x9177, 0xa08f, 0xa28f, 0xb14f, 0xb54f, 0xc52f, 0xcd2f,
  0xc32f, 0xcb2f, 0xc72f, 0xcf2f, 0xc0af, 0xc8af, 0xc4af, 0xccaf,
  0xc2af, 0xcaaf, 0xc6af, 0xceaf, 0xc1af, 0xc9af, 0xc5af, 0xcdaf,
  0xc3af, 0xcbaf, 0xc7af, 0xcfaf, 0xc06f, 0xc86f, 0xc46f, 0xcc6f,
  0xc26f, 0xca6f, 0xc66f, 0xce6f, 0xc16f, 0xc96f, 0xc56f, 0xcd6f,
  0xc36f, 0xcb6f, 0xc76f, 0xcf6f, 0xc0ef, 0xc8ef, 0xc4ef, 0xccef,
  0xc2ef, 0xcaef, 0xc6ef, 0xceef, 0xc1ef, 0xc9ef, 0xc5ef, 0xcdef,
  0xc3ef, 0xcbef, 0xc7ef, 0xcfef, 0xc01f, 0xc81f, 0xc41f, 0xcc1f,
  0xa18f, 0x90f7, 0xb34f, 0xb74f, 0xc21f, 0xca1f, 0xc61f, 0xce1f,
  0xc11f, 0xc91f, 0xc51f, 0xcd1f, 0xc31f, 0xcb1f, 0xc71f, 0xcf1f,
  0xc09f, 0xc89f, 0xc49f, 0xcc9f, 0xc29f, 0xca9f, 0xc69f, 0xce9f,
  0xc19f, 0xc99f, 0xc59f, 0xcd9f, 0xc39f, 0xcb9f, 0xc79f, 0xcf9f,
  0xc05f, 0xc85f, 0xc45f, 0xcc5f, 0xc25f, 0xca5f, 0xc65f, 0xce5f,
  0xc15f, 0xc95f, 0xc55f, 0xcd5f, 0xc35f, 0xcb5f, 0xc75f, 0xcf5f,
  0xc0df, 0xc8df, 0xc4df, 0xccdf, 0xc2df, 0xcadf, 0xc6df, 0xcedf,
  0xc1df, 0xc9df, 0xc5df, 0xcddf, 0xc3df, 0xcbdf, 0xc7df, 0xcfdf,
  0xc03f, 0xc83f, 0xc43f, 0xcc3f, 0xc23f, 0xca3f, 0xc63f, 0xce3f,
  0xc13f, 0xc93f, 0xc53f, 0xcd3f, 0xc33f, 0xcb3f, 0xc73f, 0xcf3f,
  0xc0bf, 0xc8bf, 0xc4bf, 0xccbf, 0xc2bf, 0xcabf, 0xc6bf, 0xcebf,
  0xc1bf, 0xc9bf, 0xc5bf, 0xcdbf, 0xc3bf, 0xcbbf, 0xc7bf, 0xcfbf,
  0xc07f, 0xc87f, 0xc47f, 0xcc7f, 0xc27f, 0xca7f, 0xc67f, 0xce7f,
  0xc17f, 0xc97f, 0xc57f, 0xcd7f, 0xc37f, 0xcb7f, 0xc77f, 0xcf7f,
  0xc0ff, 0xc8ff, 0xc4ff, 0xccff, 0xc2ff, 0xcaff, 0xc6ff, 0xceff,
  0xc1ff, 0xc9ff, 0xc5ff, 0xcdff, 0xc3ff, 0xcbff, 0xc7ff, 0xcfff]

def entries19 : List Nat := [
  0x3002, 0x2000, 0x4001, 0x3006, 0x500d, 0x4009, 0x501d, 0x4005,
  0x6013, 0x5003, 0x6033, 0x600b, 0x8027, 0x701b, 0x80a7, 0x705b,
  0x703b, 0x602b, 0x707b, 0x7007, 0x90d7, 0x8067, 0x91d7, 0x80e7,
  0xa1f7, 0x9037, 0xa3f7, 0xa00f, 0xc5cf, 0xb04f, 0xcdcf, 0xb44f,
  0x8017, 0x7047, 0x9137, 0x8097, 0xa20f, 0x90b7, 0xa10f, 0x91b7,
  0xb24f, 0xa30f, 0xb64f, 0xb14f, 0xc3cf, 0xcbcf, 0xc7cf, 0xcfcf,
  0xc02f, 0xb54f, 0xc82f, 0xc42f, 0xcc2f, 0xc22f, 0xca2f, 0xc62f,
  0xce2f, 0xc12f, 0xc92f, 0xc52f, 0xcd2f, 0xc32f, 0xcb2f, 0xc72f,
  0x9077, 0x8057, 0xa08f, 0x9177, 0xb34f, 0xa28f, 0xb74f, 0xb0cf,
  0xcf2f, 0xb4cf, 0xc0af, 0xc8af, 0xc4af, 0xccaf, 0xc2af, 0xcaaf,
  0xc6af, 0xceaf, 0xc1af, 0xc9af, 0xc5af, 0xcdaf, 0xc3af, 0xcbaf,
  0xc7af, 0xcfaf, 0xc06f, 0xc86f, 0xc46f, 0xcc6f, 0xc26f, 0xca6f,
  0xc66f, 0xce6f, 0xc16f, 0xc96f, 0xc56f, 0xcd6f, 0xc36f, 0xcb6f,
  0xc76f, 0xcf6f, 0xc0ef, 0xc8ef, 0xc4ef, 0xccef, 0xc2ef, 0xcaef,
  0xc6ef, 0xceef, 0xc1ef, 0xc9ef, 0xc5ef, 0xcdef, 0xc3ef, 0xcbef,
  0xc7ef, 0xcfef, 0xc01f, 0xc81f, 0xc41f, 0xcc1f, 0xc21f, 0xca1f,
  0xa18f, 0x90f7, 0xb2cf, 0xa38f, 0xc61f, 0xb6cf, 0xce1f, 0xb1cf,
  0xc11f, 0xc91f, 0xc51f, 0xcd1f, 0xc31f, 0xcb1f, 0xc71f, 0xcf1f,
  0xc09f, 0xc89f, 0xc49f, 0xcc9f, 0xc29f, 0xca9f, 0xc69f, 0xce9f,
  0xc19f, 0xc99f, 0xc59f, 0xcd9f, 0xc39f, 0xcb9f, 0xc79f, 0xcf9f,
  0xc05f, 0xc85f, 0xc45f, 0xcc5f, 0xc25f, 0xca5f, 0xc65f, 0xce5f,
  0xc15f, 0xc95f, 0xc55f, 0xcd5f, 0xc35f, 0xcb5f, 0xc75f, 0xcf5f,
  0xc0df, 0xc8df, 0xc4df, 0xccdf, 0xc2df, 0xcadf, 0xc6df, 0xcedf,
  0xc1df, 0xc9df, 0xc5df, 0xcddf, 0xc3df, 0xcbdf, 0xc7df, 0xcfdf,
  0xc03f, 0xc83f, 0xc43f, 0xcc3f, 0xc23f, 0xca3f, 0xc63f, 0xce3f,
  0xc13f, 0xc93f, 0xc53f, 0xcd3f, 0xc33f, 0xcb3f, 0xc73f, 0xcf3f,
  0xc0bf, 0xc8bf, 0xc4bf, 0xccbf, 0xc2bf, 0xcabf, 0xc6bf, 0xcebf,
  0xc1bf, 0xc9bf, 0xc5bf, 0xcdbf, 0xc3bf, 0xcbbf, 0xc7bf, 0xcfbf,
  0xc07f, 0xc87f, 0xc47f, 0xcc7f, 0xc27f, 0xca7f, 0xc67f, 0xce7f,
  0xc17f, 0xc97f, 0xc57f, 0xcd7f, 0xc37f, 0xcb7f, 0xc77f, 0xcf7f,
  0xc0ff, 0xc8ff, 0xc4ff, 0xccff, 0xc2ff, 0xcaff, 0xc6ff, 0xceff,
  0xc1ff, 0xc9ff, 0xc5ff, 0xcdff, 0xc3ff, 0xcbff, 0xc7ff, 0xcfff]

def entries20 : List Nat := [
  0x4006, 0x2000, 0x400e, 0x3002, 0x5005, 0x4001, 0x5015, 0x4009,
  0x6003, 0x500d, 0x6023, 0x501d, 0x8047, 0x6013, 0x80c7, 0x6033,
  0x701b, 0x600b, 0x8027, 0x602b, 0x90d7, 0x705b, 0x91d7, 0x703b,
  0xa1f7, 0x80a7, 0xa3f7, 0x8067, 0xb24f, 0xa00f, 0xb64f, 0xa20f,
  0x9037, 0x707b, 0x9137, 0x7007, 0xa10f, 0x80e7, 0xa30f, 0x8017,
  0xb14f, 0x90b7, 0xb54f, 0xa08f, 0xc02f, 0xb34f, 0xc82f, 0xb74f,
  0xc42f, 0xb0cf, 0xcc2f, 0xb4cf, 0xc22f, 0xca2f, 0xc62f, 0xce2f,
  0xc12f, 0xc92f, 0xc52f, 0xcd2f, 0xc32f, 0xcb2f, 0xc72f, 0xcf2f,
  0xa28f, 0x8097, 0xa18f, 0x8057, 0xb2cf, 0x91b7, 0xb6cf, 0x9077,
  0xc0af, 0xb1cf, 0xc8af, 0xb5cf, 0xc4af, 0xccaf, 0xc2af, 0xcaaf,
  0xc6af, 0xceaf, 0xc1af, 0xc9af, 0xc5af, 0xcdaf, 0xc3af, 0xcbaf,
  0xc7af, 0xcfaf, 0xc06f, 0xc86f, 0xc46f, 0xcc6f, 0xc26f, 0xca6f,
  0xc66f, 0xce6f, 0xc16f, 0xc96f, 0xc56f, 0xcd6f, 0xc36f, 0xcb6f,
  0xc76f, 0xcf6f, 0xc0ef, 0xc8ef, 0xc4ef, 0xccef, 0xc2ef, 0xcaef,
  0xc6ef, 0xceef, 0xc1ef, 0xc9ef, 0xc5ef, 0xcdef, 0xc3ef, 0xcbef,
  0xc7ef, 0xcfef, 0xc01f, 0xc81f, 0xc41f, 0xcc1f, 0xc21f, 0xca1f,
  0xb3cf, 0x9177, 0xb7cf, 0x90f7, 0xc61f, 0xa38f, 0xce1f, 0xa04f,
  0xc11f, 0xc91f, 0xc51f, 0xcd1f, 0xc31f, 0xcb1f, 0xc71f, 0xcf1f,
  0xc09f, 0xc89f, 0xc49f, 0xcc9f, 0xc29f, 0xca9f, 0xc69f, 0xce9f,
  0xc19f, 0xc99f, 0xc59f, 0xcd9f, 0xc39f, 0xcb9f, 0xc79f, 0xcf9f,
  0xc05f, 0xc85f, 0xc45f, 0xcc5f, 0xc25f, 0xca5f, 0xc65f, 0xce5f,
  0xc15f, 0xc95f, 0xc55f, 0xcd5f, 0xc35f, 0xcb5f, 0xc75f, 0xcf5f,
  0xc0df, 0xc8df, 0xc4df, 0xccdf, 0xc2df, 0xcadf, 0xc6df, 0xcedf,
  0xc1df, 0xc9df, 0xc5df, 0xcddf, 0xc3df, 0xcbdf, 0xc7df, 0xcfdf,
  0xc03f, 0xc83f, 0xc43f, 0xcc3f, 0xc23f, 0xca3f, 0xc63f, 0xce3f,
  0xc13f, 0xc93f, 0xc53f, 0xcd3f, 0xc33f, 0xcb3f, 0xc73f, 0xcf3f,
  0xc0bf, 0xc8bf, 0xc4bf, 0xccbf, 0xc2bf, 0xcabf, 0xc6bf, 0xcebf,
  0xc1bf, 0xc9bf, 0xc5bf, 0xcdbf, 0xc3bf, 0xcbbf, 0xc7bf, 0xcfbf,
  0xc07f, 0xc87f, 0xc47f, 0xcc7f, 0xc27f, 0xca7f, 0xc67f, 0xce7f,
  0xc17f, 0xc97f, 0xc57f, 0xcd7f, 0xc37f, 0xcb7f, 0xc77f, 0xcf7f,
  0xc0ff, 0xc8ff, 0xc4ff, 0xccff, 0xc2ff, 0xcaff, 0xc6ff, 0xceff,
  0xc1ff, 0xc9ff, 0xc5ff, 0xcdff, 0xc3ff, 0xcbff, 0xc7ff, 0xcfff]

def entries21 : List Nat := [
  0x5009, 0x3002, 0x5019, 0x2000, 0x6003, 0x4001, 0x5005, 0x3006,
  0x702b, 0x5015, 0x706b, 0x500d, 0x8007, 0x6023, 0x8087, 0x501d,
  0x8047, 0x6013, 0x80c7, 0x6033, 0x9097, 0x701b, 0x9197, 0x600b,
  0xa0f7, 0x8027, 0xa2f7, 0x80a7, 0xb14f, 0x9057, 0xb54f, 0x9157,
  0x90d7, 0x705b, 0x91d7, 0x703b, 0xa1f7, 0x8067, 0xa3f7, 0x707b,
  0xb34f, 0x9037, 0xb74f, 0x9137, 0xc12f, 0xa00f, 0xc92f, 0xa20f,
  0xc52f, 0xa10f, 0xcd2f, 0xa30f, 0xc32f, 0xb0cf, 0xcb2f, 0xb4cf,
  0xc72f, 0xcf2f, 0xc0af, 0xc8af, 0xc4af, 0xccaf, 0xc2af, 0xcaaf,
  0xa08f, 0x80e7, 0xa28f, 0x8017, 0xb2cf, 0x90b7, 0xb6cf, 0x91b7,
  0xc6af, 0xa18f, 0xceaf, 0xa38f, 0xc1af, 0xb1cf, 0xc9af, 0xb5cf,
  0xc5af, 0xb3cf, 0xcdaf, 0xb7cf, 0xc3af, 0xcbaf, 0xc7af, 0xcfaf,
  0xc06f, 0xc86f, 0xc46f, 0xcc6f, 0xc26f, 0xca6f, 0xc66f, 0xce6f,
  0xc16f, 0xc96f, 0xc56f, 0xcd6f, 0xc36f, 0xcb6f, 0xc76f, 0xcf6f,
  0xc0ef, 0xc8ef, 0xc4ef, 0xccef, 0xc2ef, 0xcaef, 0xc6ef, 0xceef,
  0xc1ef, 0xc9ef, 0xc5ef, 0xcdef, 0xc3ef, 0xcbef, 0xc7ef, 0xcfef,
  0xc01f, 0xc81f, 0xc41f, 0xcc1f, 0xc21f, 0xca1f, 0xc61f, 0xce1f,
  0xb02f, 0x9077, 0xb42f, 0x9177, 0xc11f, 0xa04f, 0xc91f, 0xa24f,
  0xc51f, 0xb22f, 0xcd1f, 0xb62f, 0xc31f, 0xcb1f, 0xc71f, 0xcf1f,
  0xc09f, 0xc89f, 0xc49f, 0xcc9f, 0xc29f, 0xca9f, 0xc69f, 0xce9f,
  0xc19f, 0xc99f, 0xc59f, 0xcd9f, 0xc39f, 0xcb9f, 0xc79f, 0xcf9f,
  0xc05f, 0xc85f, 0xc45f, 0xcc5f, 0xc25f, 0xca5f, 0xc65f, 0xce5f,
  0xc15f, 0xc95f, 0xc55f, 0xcd5f, 0xc35f, 0xcb5f, 0xc75f, 0xcf5f,
  0xc0df, 0xc8df, 0xc4df, 0xccdf, 0xc2df, 0xcadf, 0xc6df, 0xcedf,
  0xc1df, 0xc9df, 0xc5df, 0xcddf, 0xc3df, 0xcbdf, 0xc7df, 0xcfdf,
  0xc03f, 0xc83f, 0xc43f, 0xcc3f, 0xc23f, 0xca3f, 0xc63f, 0xce3f,
  0xc13f, 0xc93f, 0xc53f, 0xcd3f, 0xc33f, 0xcb3f, 0xc73f, 0xcf3f,
  0xc0bf, 0xc8bf, 0xc4bf, 0xccbf, 0xc2bf, 0xcabf, 0xc6bf, 0xcebf,
  0xc1bf, 0xc9bf, 0xc5bf, 0xcdbf, 0xc3bf, 0xcbbf, 0xc7bf, 0xcfbf,
  0xc07f, 0xc87f, 0xc47f, 0xcc7f, 0xc27f, 0xca7f, 0xc67f, 0xce7f,
  0xc17f, 0xc97f, 0xc57f, 0xcd7f, 0xc37f, 0xcb7f, 0xc77f, 0xcf7f,
  0xc0ff, 0xc8ff, 0xc4ff, 0xccff, 0xc2ff, 0xcaff, 0xc6ff, 0xceff,
  0xc1ff, 0xc9ff, 0xc5ff, 0xcdff, 0xc3ff, 0xcbff, 0xc7ff, 0xcfff]

/-- The entries of all phases. -/
def entries : List (List Nat) := [
  entries0, entries1, entries2, entries3, entries4, entries5,
  entries6, entries7, entries8, entries9, entries10, entries11,
  entries12, entries13, entries14, entries15, entries16, entries17,
  entries18, entries19, entries20, entries21]

end DistinctCount.WindowCode
