/-
Character encodings by label, and the decoding of bytes. In all encodings that a log may
have, bytes below 128 are ASCII characters; the single-byte ones give each other byte a
character or none, which counts as malformed. All others are read by decoders that come from
outside.
-/
import Gatewatch.Text.Utf8
import Gatewatch.Text.Trim
import Gatewatch.Unicode.Ranges

namespace Gatewatch.Text

/-- How the bytes of an encoding become characters. -/
inductive Decoding where
  | utf8
  /-- Each byte from 128 on has a character; zero stands for none. -/
  | table (high : Array Nat)
  /-- The bytes from 128 on are characters of the private use area. -/
  | privateUse
  /-- Several bytes may make a character. -/
  | multi
  /-- Bytes below 128 need not be ASCII characters. -/
  | wide

/-- What one byte stands for, where every byte stands by itself. -/
def Decoding.byte (d : Decoding) (b : UInt8) : Option Char :=
  if b < 128 then some (Char.ofNat b.toNat)
  else match d with
    | .table high =>
      match high[b.toNat - 128]? with
      | some 0 | none => none
      | some n => some (Char.ofNat n)
    | .privateUse => some (Char.ofNat (0xF700 + b.toNat))
    | _ => none

/-- An encoding. -/
structure Charset where
  name : String
  decoding : Decoding

/-- What reads the encodings that are neither UTF-8 nor single-byte ones, by their names: what
bytes stand for, and nothing where they are malformed. -/
abbrev Decoders := String → List UInt8 → List (Option Char)

/-- Decoders that know the characters of ASCII only. -/
def asciiOnly : Decoders := fun _ bytes =>
  bytes.map fun b => if b < 128 then some (Char.ofNat b.toNat) else none

namespace Charset

/-- The upper half of a single-byte encoding, from the code points in hexadecimal. -/
def highHalf (text : String) : Array Nat :=
  ((Unicode.Ranges.words text).map Unicode.Ranges.hexNumber).toArray

/-- The upper half of the two Hebrew encodings. -/
def hebrewTable : Array Nat := highHalf
  "80 81 82 83 84 85 86 87 88 89 8a 8b 8c 8d 8e 8f 90 91 92 93 94 95 96 97 98 99 9a 9b 9c
   9d 9e 9f a0 0 a2 a3 a4 a5 a6 a7 a8 a9 d7 ab ac ad ae af b0 b1 b2 b3 b4 b5 b6 b7 b8 b9
   f7 bb bc bd be 0 0 0 0 0 0 0 0 0 0 0 0 0 0 0 0 0 0 0 0 0 0 0 0 0 0 0 0 0 0 0 0 2017 5d0
   5d1 5d2 5d3 5d4 5d5 5d6 5d7 5d8 5d9 5da 5db 5dc 5dd 5de 5df 5e0 5e1 5e2 5e3 5e4 5e5 5e6
   5e7 5e8 5e9 5ea 0 0 200e 200f 0"

/-- The encodings: name, labels and decoding. -/
def known : List (String × String × Decoding) := [
  ("UTF-8",
   "unicode-1-1-utf-8 unicode11utf8 unicode20utf8 utf-8 utf8 x-unicode20utf8",
   .utf8),
  ("IBM866",
   "866 cp866 csibm866 ibm866",
   .table (highHalf
    "410 411 412 413 414 415 416 417 418 419 41a 41b 41c 41d 41e 41f 420 421 422 423 424 425
     426 427 428 429 42a 42b 42c 42d 42e 42f 430 431 432 433 434 435 436 437 438 439 43a 43b
     43c 43d 43e 43f 2591 2592 2593 2502 2524 2561 2562 2556 2555 2563 2551 2557 255d 255c
     255b 2510 2514 2534 252c 251c 2500 253c 255e 255f 255a 2554 2569 2566 2560 2550 256c
     2567 2568 2564 2565 2559 2558 2552 2553 256b 256a 2518 250c 2588 2584 258c 2590 2580
     440 441 442 443 444 445 446 447 448 449 44a 44b 44c 44d 44e 44f 401 451 404 454 407 457
     40e 45e b0 2219 b7 221a 2116 a4 25a0 a0")),
  ("ISO-8859-2",
   "csisolatin2 iso-8859-2 iso-ir-101 iso8859-2 iso88592 iso_8859-2 iso_8859-2:1987 l2
    latin2",
   .table (highHalf
    "80 81 82 83 84 85 86 87 88 89 8a 8b 8c 8d 8e 8f 90 91 92 93 94 95 96 97 98 99 9a 9b 9c
     9d 9e 9f a0 104 2d8 141 a4 13d 15a a7 a8 160 15e 164 179 ad 17d 17b b0 105 2db 142 b4
     13e 15b 2c7 b8 161 15f 165 17a 2dd 17e 17c 154 c1 c2 102 c4 139 106 c7 10c c9 118 cb
     11a cd ce 10e 110 143 147 d3 d4 150 d6 d7 158 16e da 170 dc dd 162 df 155 e1 e2 103 e4
     13a 107 e7 10d e9 119 eb 11b ed ee 10f 111 144 148 f3 f4 151 f6 f7 159 16f fa 171 fc fd
     163 2d9")),
  ("ISO-8859-3",
   "csisolatin3 iso-8859-3 iso-ir-109 iso8859-3 iso88593 iso_8859-3 iso_8859-3:1988 l3
    latin3",
   .table (highHalf
    "80 81 82 83 84 85 86 87 88 89 8a 8b 8c 8d 8e 8f 90 91 92 93 94 95 96 97 98 99 9a 9b 9c
     9d 9e 9f a0 126 2d8 a3 a4 0 124 a7 a8 130 15e 11e 134 ad 0 17b b0 127 b2 b3 b4 b5 125
     b7 b8 131 15f 11f 135 bd 0 17c c0 c1 c2 0 c4 10a 108 c7 c8 c9 ca cb cc cd ce cf 0 d1 d2
     d3 d4 120 d6 d7 11c d9 da db dc 16c 15c df e0 e1 e2 0 e4 10b 109 e7 e8 e9 ea eb ec ed
     ee ef 0 f1 f2 f3 f4 121 f6 f7 11d f9 fa fb fc 16d 15d 2d9")),
  ("ISO-8859-4",
   "csisolatin4 iso-8859-4 iso-ir-110 iso8859-4 iso88594 iso_8859-4 iso_8859-4:1988 l4
    latin4",
   .table (highHalf
    "80 81 82 83 84 85 86 87 88 89 8a 8b 8c 8d 8e 8f 90 91 92 93 94 95 96 97 98 99 9a 9b 9c
     9d 9e 9f a0 104 138 156 a4 128 13b a7 a8 160 112 122 166 ad 17d af b0 105 2db 157 b4
     129 13c 2c7 b8 161 113 123 167 14a 17e 14b 100 c1 c2 c3 c4 c5 c6 12e 10c c9 118 cb 116
     cd ce 12a 110 145 14c 136 d4 d5 d6 d7 d8 172 da db dc 168 16a df 101 e1 e2 e3 e4 e5 e6
     12f 10d e9 119 eb 117 ed ee 12b 111 146 14d 137 f4 f5 f6 f7 f8 173 fa fb fc 169 16b 2d9")),
  ("ISO-8859-5",
   "csisolatincyrillic cyrillic iso-8859-5 iso-ir-144 iso8859-5 iso88595 iso_8859-5
    iso_8859-5:1988",
   .table (highHalf
    "80 81 82 83 84 85 86 87 88 89 8a 8b 8c 8d 8e 8f 90 91 92 93 94 95 96 97 98 99 9a 9b 9c
     9d 9e 9f a0 401 402 403 404 405 406 407 408 409 40a 40b 40c ad 40e 40f 410 411 412 413
     414 415 416 417 418 419 41a 41b 41c 41d 41e 41f 420 421 422 423 424 425 426 427 428 429
     42a 42b 42c 42d 42e 42f 430 431 432 433 434 435 436 437 438 439 43a 43b 43c 43d 43e 43f
     440 441 442 443 444 445 446 447 448 449 44a 44b 44c 44d 44e 44f 2116 451 452 453 454
     455 456 457 458 459 45a 45b 45c a7 45e 45f")),
  ("ISO-8859-6",
   "arabic asmo-708 csiso88596e csiso88596i csisolatinarabic ecma-114 iso-8859-6
    iso-8859-6-e iso-8859-6-i iso-ir-127 iso8859-6 iso88596 iso_8859-6 iso_8859-6:1987",
   .table (highHalf
    "80 81 82 83 84 85 86 87 88 89 8a 8b 8c 8d 8e 8f 90 91 92 93 94 95 96 97 98 99 9a 9b 9c
     9d 9e 9f a0 0 0 0 a4 0 0 0 0 0 0 0 60c ad 0 0 0 0 0 0 0 0 0 0 0 0 0 61b 0 0 0 61f 0 621
     622 623 624 625 626 627 628 629 62a 62b 62c 62d 62e 62f 630 631 632 633 634 635 636 637
     638 639 63a 0 0 0 0 0 640 641 642 643 644 645 646 647 648 649 64a 64b 64c 64d 64e 64f
     650 651 652 0 0 0 0 0 0 0 0 0 0 0 0 0")),
  ("ISO-8859-7",
   "csisolatingreek ecma-118 elot_928 greek greek8 iso-8859-7 iso-ir-126 iso8859-7 iso88597
    iso_8859-7 iso_8859-7:1987 sun_eu_greek",
   .table (highHalf
    "80 81 82 83 84 85 86 87 88 89 8a 8b 8c 8d 8e 8f 90 91 92 93 94 95 96 97 98 99 9a 9b 9c
     9d 9e 9f a0 2018 2019 a3 20ac 20af a6 a7 a8 a9 37a ab ac ad 0 2015 b0 b1 b2 b3 384 385
     386 b7 388 389 38a bb 38c bd 38e 38f 390 391 392 393 394 395 396 397 398 399 39a 39b
     39c 39d 39e 39f 3a0 3a1 0 3a3 3a4 3a5 3a6 3a7 3a8 3a9 3aa 3ab 3ac 3ad 3ae 3af 3b0 3b1
     3b2 3b3 3b4 3b5 3b6 3b7 3b8 3b9 3ba 3bb 3bc 3bd 3be 3bf 3c0 3c1 3c2 3c3 3c4 3c5 3c6 3c7
     3c8 3c9 3ca 3cb 3cc 3cd 3ce 0")),
  ("ISO-8859-8",
   "csiso88598e csisolatinhebrew hebrew iso-8859-8 iso-8859-8-e iso-ir-138 iso8859-8
    iso88598 iso_8859-8 iso_8859-8:1988 visual",
   .table hebrewTable),
  ("ISO-8859-8-I",
   "csiso88598i iso-8859-8-i logical",
   .table hebrewTable),
  ("ISO-8859-10",
   "csisolatin6 iso-8859-10 iso-ir-157 iso8859-10 iso885910 l6 latin6",
   .table (highHalf
    "80 81 82 83 84 85 86 87 88 89 8a 8b 8c 8d 8e 8f 90 91 92 93 94 95 96 97 98 99 9a 9b 9c
     9d 9e 9f a0 104 112 122 12a 128 136 a7 13b 110 160 166 17d ad 16a 14a b0 105 113 123
     12b 129 137 b7 13c 111 161 167 17e 2015 16b 14b 100 c1 c2 c3 c4 c5 c6 12e 10c c9 118 cb
     116 cd ce cf d0 145 14c d3 d4 d5 d6 168 d8 172 da db dc dd de df 101 e1 e2 e3 e4 e5 e6
     12f 10d e9 119 eb 117 ed ee ef f0 146 14d f3 f4 f5 f6 169 f8 173 fa fb fc fd fe 138")),
  ("ISO-8859-13",
   "iso-8859-13 iso8859-13 iso885913",
   .table (highHalf
    "80 81 82 83 84 85 86 87 88 89 8a 8b 8c 8d 8e 8f 90 91 92 93 94 95 96 97 98 99 9a 9b 9c
     9d 9e 9f a0 201d a2 a3 a4 201e a6 a7 d8 a9 156 ab ac ad ae c6 b0 b1 b2 b3 201c b5 b6 b7
     f8 b9 157 bb bc bd be e6 104 12e 100 106 c4 c5 118 112 10c c9 179 116 122 136 12a 13b
     160 143 145 d3 14c d5 d6 d7 172 141 15a 16a dc 17b 17d df 105 12f 101 107 e4 e5 119 113
     10d e9 17a 117 123 137 12b 13c 161 144 146 f3 14d f5 f6 f7 173 142 15b 16b fc 17c 17e
     2019")),
  ("ISO-8859-14",
   "iso-8859-14 iso8859-14 iso885914",
   .table (highHalf
    "80 81 82 83 84 85 86 87 88 89 8a 8b 8c 8d 8e 8f 90 91 92 93 94 95 96 97 98 99 9a 9b 9c
     9d 9e 9f a0 1e02 1e03 a3 10a 10b 1e0a a7 1e80 a9 1e82 1e0b 1ef2 ad ae 178 1e1e 1e1f 120
     121 1e40 1e41 b6 1e56 1e81 1e57 1e83 1e60 1ef3 1e84 1e85 1e61 c0 c1 c2 c3 c4 c5 c6 c7
     c8 c9 ca cb cc cd ce cf 174 d1 d2 d3 d4 d5 d6 1e6a d8 d9 da db dc dd 176 df e0 e1 e2 e3
     e4 e5 e6 e7 e8 e9 ea eb ec ed ee ef 175 f1 f2 f3 f4 f5 f6 1e6b f8 f9 fa fb fc fd 177 ff")),
  ("ISO-8859-15",
   "csisolatin9 iso-8859-15 iso8859-15 iso885915 iso_8859-15 l9",
   .table (highHalf
    "80 81 82 83 84 85 86 87 88 89 8a 8b 8c 8d 8e 8f 90 91 92 93 94 95 96 97 98 99 9a 9b 9c
     9d 9e 9f a0 a1 a2 a3 20ac a5 160 a7 161 a9 aa ab ac ad ae af b0 b1 b2 b3 17d b5 b6 b7
     17e b9 ba bb 152 153 178 bf c0 c1 c2 c3 c4 c5 c6 c7 c8 c9 ca cb cc cd ce cf d0 d1 d2 d3
     d4 d5 d6 d7 d8 d9 da db dc dd de df e0 e1 e2 e3 e4 e5 e6 e7 e8 e9 ea eb ec ed ee ef f0
     f1 f2 f3 f4 f5 f6 f7 f8 f9 fa fb fc fd fe ff")),
  ("ISO-8859-16",
   "iso-8859-16",
   .table (highHalf
    "80 81 82 83 84 85 86 87 88 89 8a 8b 8c 8d 8e 8f 90 91 92 93 94 95 96 97 98 99 9a 9b 9c
     9d 9e 9f a0 104 105 141 20ac 201e 160 a7 161 a9 218 ab 179 ad 17a 17b b0 b1 10c 142 17d
     201d b6 b7 17e 10d 219 bb 152 153 178 17c c0 c1 c2 102 c4 106 c6 c7 c8 c9 ca cb cc cd
     ce cf 110 143 d2 d3 d4 150 d6 15a 170 d9 da db dc 118 21a df e0 e1 e2 103 e4 107 e6 e7
     e8 e9 ea eb ec ed ee ef 111 144 f2 f3 f4 151 f6 15b 171 f9 fa fb fc 119 21b ff")),
  ("KOI8-R",
   "cskoi8r koi koi8 koi8-r koi8_r",
   .table (highHalf
    "2500 2502 250c 2510 2514 2518 251c 2524 252c 2534 253c 2580 2584 2588 258c 2590 2591
     2592 2593 2320 25a0 2219 221a 2248 2264 2265 a0 2321 b0 b2 b7 f7 2550 2551 2552 451
     2553 2554 2555 2556 2557 2558 2559 255a 255b 255c 255d 255e 255f 2560 2561 401 2562
     2563 2564 2565 2566 2567 2568 2569 256a 256b 256c a9 44e 430 431 446 434 435 444 433
     445 438 439 43a 43b 43c 43d 43e 43f 44f 440 441 442 443 436 432 44c 44b 437 448 44d 449
     447 44a 42e 410 411 426 414 415 424 413 425 418 419 41a 41b 41c 41d 41e 41f 42f 420 421
     422 423 416 412 42c 42b 417 428 42d 429 427 42a")),
  ("KOI8-U",
   "koi8-ru koi8-u",
   .table (highHalf
    "2500 2502 250c 2510 2514 2518 251c 2524 252c 2534 253c 2580 2584 2588 258c 2590 2591
     2592 2593 2320 25a0 2219 221a 2248 2264 2265 a0 2321 b0 b2 b7 f7 2550 2551 2552 451 454
     2554 456 457 2557 2558 2559 255a 255b 491 45e 255e 255f 2560 2561 401 404 2563 406 407
     2566 2567 2568 2569 256a 490 40e a9 44e 430 431 446 434 435 444 433 445 438 439 43a 43b
     43c 43d 43e 43f 44f 440 441 442 443 436 432 44c 44b 437 448 44d 449 447 44a 42e 410 411
     426 414 415 424 413 425 418 419 41a 41b 41c 41d 41e 41f 42f 420 421 422 423 416 412 42c
     42b 417 428 42d 429 427 42a")),
  ("macintosh",
   "csmacintosh mac macintosh x-mac-roman",
   .table (highHalf
    "c4 c5 c7 c9 d1 d6 dc e1 e0 e2 e4 e3 e5 e7 e9 e8 ea eb ed ec ee ef f1 f3 f2 f4 f6 f5 fa
     f9 fb fc 2020 b0 a2 a3 a7 2022 b6 df ae a9 2122 b4 a8 2260 c6 d8 221e b1 2264 2265 a5
     b5 2202 2211 220f 3c0 222b aa ba 3a9 e6 f8 bf a1 ac 221a 192 2248 2206 ab bb 2026 a0 c0
     c3 d5 152 153 2013 2014 201c 201d 2018 2019 f7 25ca ff 178 2044 20ac 2039 203a fb01
     fb02 2021 b7 201a 201e 2030 c2 ca c1 cb c8 cd ce cf cc d3 d4 f8ff d2 da db d9 131 2c6
     2dc af 2d8 2d9 2da b8 2dd 2db 2c7")),
  ("windows-874",
   "dos-874 iso-8859-11 iso8859-11 iso885911 tis-620 windows-874",
   .table (highHalf
    "20ac 81 82 83 84 2026 86 87 88 89 8a 8b 8c 8d 8e 8f 90 2018 2019 201c 201d 2022 2013
     2014 98 99 9a 9b 9c 9d 9e 9f a0 e01 e02 e03 e04 e05 e06 e07 e08 e09 e0a e0b e0c e0d e0e
     e0f e10 e11 e12 e13 e14 e15 e16 e17 e18 e19 e1a e1b e1c e1d e1e e1f e20 e21 e22 e23 e24
     e25 e26 e27 e28 e29 e2a e2b e2c e2d e2e e2f e30 e31 e32 e33 e34 e35 e36 e37 e38 e39 e3a
     0 0 0 0 e3f e40 e41 e42 e43 e44 e45 e46 e47 e48 e49 e4a e4b e4c e4d e4e e4f e50 e51 e52
     e53 e54 e55 e56 e57 e58 e59 e5a e5b 0 0 0 0")),
  ("windows-1250",
   "cp1250 windows-1250 x-cp1250",
   .table (highHalf
    "20ac 81 201a 83 201e 2026 2020 2021 88 2030 160 2039 15a 164 17d 179 90 2018 2019 201c
     201d 2022 2013 2014 98 2122 161 203a 15b 165 17e 17a a0 2c7 2d8 141 a4 104 a6 a7 a8 a9
     15e ab ac ad ae 17b b0 b1 2db 142 b4 b5 b6 b7 b8 105 15f bb 13d 2dd 13e 17c 154 c1 c2
     102 c4 139 106 c7 10c c9 118 cb 11a cd ce 10e 110 143 147 d3 d4 150 d6 d7 158 16e da
     170 dc dd 162 df 155 e1 e2 103 e4 13a 107 e7 10d e9 119 eb 11b ed ee 10f 111 144 148 f3
     f4 151 f6 f7 159 16f fa 171 fc fd 163 2d9")),
  ("windows-1251",
   "cp1251 windows-1251 x-cp1251",
   .table (highHalf
    "402 403 201a 453 201e 2026 2020 2021 20ac 2030 409 2039 40a 40c 40b 40f 452 2018 2019
     201c 201d 2022 2013 2014 98 2122 459 203a 45a 45c 45b 45f a0 40e 45e 408 a4 490 a6 a7
     401 a9 404 ab ac ad ae 407 b0 b1 406 456 491 b5 b6 b7 451 2116 454 bb 458 405 455 457
     410 411 412 413 414 415 416 417 418 419 41a 41b 41c 41d 41e 41f 420 421 422 423 424 425
     426 427 428 429 42a 42b 42c 42d 42e 42f 430 431 432 433 434 435 436 437 438 439 43a 43b
     43c 43d 43e 43f 440 441 442 443 444 445 446 447 448 449 44a 44b 44c 44d 44e 44f")),
  ("windows-1252",
   "ansi_x3.4-1968 ascii cp1252 cp819 csisolatin1 ibm819 iso-8859-1 iso-ir-100 iso8859-1
    iso88591 iso_8859-1 iso_8859-1:1987 l1 latin1 us-ascii windows-1252 x-cp1252",
   .table (highHalf
    "20ac 81 201a 192 201e 2026 2020 2021 2c6 2030 160 2039 152 8d 17d 8f 90 2018 2019 201c
     201d 2022 2013 2014 2dc 2122 161 203a 153 9d 17e 178 a0 a1 a2 a3 a4 a5 a6 a7 a8 a9 aa
     ab ac ad ae af b0 b1 b2 b3 b4 b5 b6 b7 b8 b9 ba bb bc bd be bf c0 c1 c2 c3 c4 c5 c6 c7
     c8 c9 ca cb cc cd ce cf d0 d1 d2 d3 d4 d5 d6 d7 d8 d9 da db dc dd de df e0 e1 e2 e3 e4
     e5 e6 e7 e8 e9 ea eb ec ed ee ef f0 f1 f2 f3 f4 f5 f6 f7 f8 f9 fa fb fc fd fe ff")),
  ("windows-1253",
   "cp1253 windows-1253 x-cp1253",
   .table (highHalf
    "20ac 81 201a 192 201e 2026 2020 2021 88 2030 8a 2039 8c 8d 8e 8f 90 2018 2019 201c 201d
     2022 2013 2014 98 2122 9a 203a 9c 9d 9e 9f a0 385 386 a3 a4 a5 a6 a7 a8 a9 0 ab ac ad
     ae 2015 b0 b1 b2 b3 384 b5 b6 b7 388 389 38a bb 38c bd 38e 38f 390 391 392 393 394 395
     396 397 398 399 39a 39b 39c 39d 39e 39f 3a0 3a1 0 3a3 3a4 3a5 3a6 3a7 3a8 3a9 3aa 3ab
     3ac 3ad 3ae 3af 3b0 3b1 3b2 3b3 3b4 3b5 3b6 3b7 3b8 3b9 3ba 3bb 3bc 3bd 3be 3bf 3c0 3c1
     3c2 3c3 3c4 3c5 3c6 3c7 3c8 3c9 3ca 3cb 3cc 3cd 3ce 0")),
  ("windows-1254",
   "cp1254 csisolatin5 iso-8859-9 iso-ir-148 iso8859-9 iso88599 iso_8859-9 iso_8859-9:1989
    l5 latin5 windows-1254 x-cp1254",
   .table (highHalf
    "20ac 81 201a 192 201e 2026 2020 2021 2c6 2030 160 2039 152 8d 8e 8f 90 2018 2019 201c
     201d 2022 2013 2014 2dc 2122 161 203a 153 9d 9e 178 a0 a1 a2 a3 a4 a5 a6 a7 a8 a9 aa ab
     ac ad ae af b0 b1 b2 b3 b4 b5 b6 b7 b8 b9 ba bb bc bd be bf c0 c1 c2 c3 c4 c5 c6 c7 c8
     c9 ca cb cc cd ce cf 11e d1 d2 d3 d4 d5 d6 d7 d8 d9 da db dc 130 15e df e0 e1 e2 e3 e4
     e5 e6 e7 e8 e9 ea eb ec ed ee ef 11f f1 f2 f3 f4 f5 f6 f7 f8 f9 fa fb fc 131 15f ff")),
  ("windows-1255",
   "cp1255 windows-1255 x-cp1255",
   .table (highHalf
    "20ac 81 201a 192 201e 2026 2020 2021 2c6 2030 8a 2039 8c 8d 8e 8f 90 2018 2019 201c
     201d 2022 2013 2014 2dc 2122 9a 203a 9c 9d 9e 9f a0 a1 a2 a3 20aa a5 a6 a7 a8 a9 d7 ab
     ac ad ae af b0 b1 b2 b3 b4 b5 b6 b7 b8 b9 f7 bb bc bd be bf 5b0 5b1 5b2 5b3 5b4 5b5 5b6
     5b7 5b8 5b9 5ba 5bb 5bc 5bd 5be 5bf 5c0 5c1 5c2 5c3 5f0 5f1 5f2 5f3 5f4 0 0 0 0 0 0 0
     5d0 5d1 5d2 5d3 5d4 5d5 5d6 5d7 5d8 5d9 5da 5db 5dc 5dd 5de 5df 5e0 5e1 5e2 5e3 5e4 5e5
     5e6 5e7 5e8 5e9 5ea 0 0 200e 200f 0")),
  ("windows-1256",
   "cp1256 windows-1256 x-cp1256",
   .table (highHalf
    "20ac 67e 201a 192 201e 2026 2020 2021 2c6 2030 679 2039 152 686 698 688 6af 2018 2019
     201c 201d 2022 2013 2014 6a9 2122 691 203a 153 200c 200d 6ba a0 60c a2 a3 a4 a5 a6 a7
     a8 a9 6be ab ac ad ae af b0 b1 b2 b3 b4 b5 b6 b7 b8 b9 61b bb bc bd be 61f 6c1 621 622
     623 624 625 626 627 628 629 62a 62b 62c 62d 62e 62f 630 631 632 633 634 635 636 d7 637
     638 639 63a 640 641 642 643 e0 644 e2 645 646 647 648 e7 e8 e9 ea eb 649 64a ee ef 64b
     64c 64d 64e f4 64f 650 f7 651 f9 652 fb fc 200e 200f 6d2")),
  ("windows-1257",
   "cp1257 windows-1257 x-cp1257",
   .table (highHalf
    "20ac 81 201a 83 201e 2026 2020 2021 88 2030 8a 2039 8c a8 2c7 b8 90 2018 2019 201c 201d
     2022 2013 2014 98 2122 9a 203a 9c af 2db 9f a0 0 a2 a3 a4 0 a6 a7 d8 a9 156 ab ac ad ae
     c6 b0 b1 b2 b3 b4 b5 b6 b7 f8 b9 157 bb bc bd be e6 104 12e 100 106 c4 c5 118 112 10c
     c9 179 116 122 136 12a 13b 160 143 145 d3 14c d5 d6 d7 172 141 15a 16a dc 17b 17d df
     105 12f 101 107 e4 e5 119 113 10d e9 17a 117 123 137 12b 13c 161 144 146 f3 14d f5 f6
     f7 173 142 15b 16b fc 17c 17e 2d9")),
  ("windows-1258",
   "cp1258 windows-1258 x-cp1258",
   .table (highHalf
    "20ac 81 201a 192 201e 2026 2020 2021 2c6 2030 8a 2039 152 8d 8e 8f 90 2018 2019 201c
     201d 2022 2013 2014 2dc 2122 9a 203a 153 9d 9e 178 a0 a1 a2 a3 a4 a5 a6 a7 a8 a9 aa ab
     ac ad ae af b0 b1 b2 b3 b4 b5 b6 b7 b8 b9 ba bb bc bd be bf c0 c1 c2 102 c4 c5 c6 c7 c8
     c9 ca cb 300 cd ce cf 110 d1 309 d3 d4 1a0 d6 d7 d8 d9 da db dc 1af 303 df e0 e1 e2 103
     e4 e5 e6 e7 e8 e9 ea eb 301 ed ee ef 111 f1 323 f3 f4 1a1 f6 f7 f8 f9 fa fb fc 1b0 20ab
     ff")),
  ("x-mac-cyrillic",
   "x-mac-cyrillic x-mac-ukrainian",
   .table (highHalf
    "410 411 412 413 414 415 416 417 418 419 41a 41b 41c 41d 41e 41f 420 421 422 423 424 425
     426 427 428 429 42a 42b 42c 42d 42e 42f 2020 b0 490 a3 a7 2022 b6 406 ae a9 2122 402
     452 2260 403 453 221e b1 2264 2265 456 b5 491 408 404 454 407 457 409 459 40a 45a 458
     405 ac 221a 192 2248 2206 ab bb 2026 a0 40b 45b 40c 45c 455 2013 2014 201c 201d 2018
     2019 f7 201e 40e 45e 40f 45f 2116 401 451 44f 430 431 432 433 434 435 436 437 438 439
     43a 43b 43c 43d 43e 43f 440 441 442 443 444 445 446 447 448 449 44a 44b 44c 44d 44e
     20ac")),
  ("GBK",
   "chinese csgb2312 csiso58gb231280 gb2312 gb_2312 gb_2312-80 gbk iso-ir-58 x-gbk",
   .multi),
  ("gb18030",
   "gb18030",
   .multi),
  ("Big5",
   "big5 big5-hkscs cn-big5 csbig5 x-x-big5",
   .multi),
  ("EUC-JP",
   "cseucpkdfmtjapanese euc-jp x-euc-jp",
   .multi),
  ("ISO-2022-JP",
   "csiso2022jp iso-2022-jp",
   .wide),
  ("Shift_JIS",
   "csshiftjis ms932 ms_kanji shift-jis shift_jis sjis windows-31j x-sjis",
   .multi),
  ("EUC-KR",
   "cseuckr csksc56011987 euc-kr iso-ir-149 korean ks_c_5601-1987 ks_c_5601-1989 ksc5601
    ksc_5601 windows-949",
   .multi),
  ("replacement",
   "csiso2022kr hz-gb-2312 iso-2022-cn iso-2022-cn-ext iso-2022-kr replacement",
   .wide),
  ("UTF-16BE",
   "unicodefffe utf-16be",
   .wide),
  ("UTF-16LE",
   "csunicode iso-10646-ucs-2 ucs-2 unicode unicodefeff utf-16 utf-16le",
   .wide),
  ("x-user-defined",
   "x-user-defined",
   .privateUse)]

/-- The encoding that a label names. Letter case and ASCII blanks around it do not count. -/
def ofLabel? (label : String) : Option Charset :=
  let blank (c : Char) : Bool := c == ' ' || c == '\t' || c == '\n' || c == '\x0c' || c == '\r'
  let front := label.toList.dropWhile blank
  let word := (front.reverse.dropWhile blank).reverse.map Char.toLower
  (known.find? fun row => (Unicode.Ranges.words row.2.1).contains word).map
    fun row => ⟨row.1, row.2.2⟩

/-- The encoding of plain UTF-8. -/
def utf8 : Charset := ⟨"UTF-8", .utf8⟩

/-- Whether bytes below 128 are ASCII characters. -/
def isAsciiCompatible (c : Charset) : Bool :=
  match c.decoding with
  | .wide => false
  | _ => true

/-- What bytes stand for; nothing where they are malformed. -/
def decodeEach (c : Charset) (bytes : List UInt8) (decoders : Decoders := asciiOnly) :
    List (Option Char) :=
  match c.decoding with
  | .utf8 => Utf8.decode bytes
  | .multi | .wide => decoders c.name bytes
  | d => bytes.map d.byte

/-- The text of bytes, malformed ones replaced. -/
def decode (c : Charset) (bytes : List UInt8) (decoders : Decoders := asciiOnly) : String :=
  String.ofList ((c.decodeEach bytes decoders).map (·.getD Utf8.replacement))

/-- Whether some bytes are malformed. -/
def malformed (c : Charset) (bytes : List UInt8) (decoders : Decoders := asciiOnly) : Bool :=
  (c.decodeEach bytes decoders).any Option.isNone

end Charset

end Gatewatch.Text
