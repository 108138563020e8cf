import Friendship.Text.Ranges

/-!
# How characters are spelled

Many characters have another spelling: a letter of another shape, several letters, or a letter and
a mark behind it. A label that stands for characters must have them in one spelling: none that are
written as others, and no letter in front of a mark with which it makes one character.
-/

namespace Friendship.Url.Domain.Spelling

open Text (Ranges)

/-- Characters that are written as others, besides capitals and the forms of ASCII characters. -/
def variants : Ranges :=
  [(0xA0, 0xA0), (0xB5, 0xB5), (0xBC, 0xBE), (0x130, 0x130), (0x132, 0x133), (0x13F, 0x140),
    (0x149, 0x149), (0x1C4, 0x1CC), (0x1F1, 0x1F3), (0x2B1, 0x2B1), (0x2B4, 0x2B6),
    (0x2E0, 0x2E0), (0x2E4, 0x2E4), (0x340, 0x341), (0x343, 0x345), (0x374, 0x374),
    (0x387, 0x387), (0x3D0, 0x3D6), (0x3F0, 0x3F2), (0x3F5, 0x3F5), (0x3F9, 0x3F9),
    (0x587, 0x587), (0x675, 0x678), (0x958, 0x95F), (0x9DC, 0x9DF), (0xA33, 0xA33),
    (0xA36, 0xA36), (0xA59, 0xA5B), (0xA5E, 0xA5E), (0xB5C, 0xB5D), (0xE33, 0xE33),
    (0xEB3, 0xEB3), (0xEDC, 0xEDD), (0xF0C, 0xF0C), (0xF43, 0xF43), (0xF4D, 0xF4D),
    (0xF52, 0xF52), (0xF57, 0xF57), (0xF5C, 0xF5C), (0xF69, 0xF69), (0xF73, 0xF73),
    (0xF75, 0xF79), (0xF81, 0xF81), (0xF93, 0xF93), (0xF9D, 0xF9D), (0xFA2, 0xFA2),
    (0xFA7, 0xFA7), (0xFAC, 0xFAC), (0xFB9, 0xFB9), (0x10FC, 0x10FC), (0x13F8, 0x13FD),
    (0x1C80, 0x1C88), (0x1D2D, 0x1D2D), (0x1D32, 0x1D32), (0x1D3D, 0x1D3D), (0x1D44, 0x1D46),
    (0x1D4A, 0x1D4C), (0x1D51, 0x1D51), (0x1D53, 0x1D55), (0x1D59, 0x1D5A), (0x1D5C, 0x1D61),
    (0x1D66, 0x1D6A), (0x1D78, 0x1D78), (0x1D9B, 0x1D9B), (0x1D9D, 0x1D9F), (0x1DA1, 0x1DBA),
    (0x1DBC, 0x1DBF), (0x1E9A, 0x1E9B), (0x1F71, 0x1F71), (0x1F73, 0x1F73), (0x1F75, 0x1F75),
    (0x1F77, 0x1F77), (0x1F79, 0x1F79), (0x1F7B, 0x1F7B), (0x1F7D, 0x1FAF), (0x1FB2, 0x1FB4),
    (0x1FB7, 0x1FB7), (0x1FBB, 0x1FC4), (0x1FC7, 0x1FC7), (0x1FC9, 0x1FC9), (0x1FCB, 0x1FCC),
    (0x1FD3, 0x1FD3), (0x1FDB, 0x1FDB), (0x1FE3, 0x1FE3), (0x1FEB, 0x1FEB), (0x1FF2, 0x1FF4),
    (0x1FF7, 0x1FF7), (0x1FF9, 0x1FF9), (0x1FFB, 0x200A), (0x2011, 0x2011), (0x202F, 0x202F),
    (0x2033, 0x2034), (0x2036, 0x2037), (0x203C, 0x203C), (0x2057, 0x2057), (0x205F, 0x205F),
    (0x207B, 0x207B), (0x208B, 0x208B), (0x2094, 0x2094), (0x20A8, 0x20A8), (0x2103, 0x2103),
    (0x2107, 0x2107), (0x2109, 0x2109), (0x210F, 0x210F), (0x2116, 0x2116), (0x2120, 0x2122),
    (0x2135, 0x2138), (0x213B, 0x2140), (0x2150, 0x215F), (0x2161, 0x2163), (0x2165, 0x2168),
    (0x216A, 0x216B), (0x2171, 0x2173), (0x2175, 0x2178), (0x217A, 0x217B), (0x2189, 0x2189),
    (0x222C, 0x222D), (0x222F, 0x2230), (0x2329, 0x232A), (0x2474, 0x24B5), (0x2A0C, 0x2A0C),
    (0x2A75, 0x2A76), (0x2ADC, 0x2ADC), (0x2D6F, 0x2D6F), (0x2E9F, 0x2E9F), (0x2EF3, 0x3000),
    (0x3036, 0x3036), (0x3038, 0x303A), (0x309F, 0x309F), (0x30FF, 0x30FF), (0x3131, 0x3163),
    (0x3165, 0x318E), (0x3192, 0x319F), (0x3200, 0x3247), (0x3250, 0x3250), (0x3260, 0x327E),
    (0x3280, 0x32B0), (0x32C0, 0x33FF), (0xA69C, 0xA69D), (0xA770, 0xA770), (0xA7F8, 0xA7F9),
    (0xAB5C, 0xAB5F), (0xAB69, 0xAB69), (0xAB70, 0xABBF), (0xF900, 0xFA0D), (0xFA10, 0xFA10),
    (0xFA12, 0xFA12), (0xFA15, 0xFA1E), (0xFA20, 0xFA20), (0xFA22, 0xFA22), (0xFA25, 0xFA26),
    (0xFA2A, 0xFB1D), (0xFB1F, 0xFB28), (0xFB2A, 0xFBB1), (0xFBD3, 0xFD3D), (0xFD50, 0xFD8F),
    (0xFD92, 0xFDC7), (0xFDF0, 0xFDFC), (0xFE11, 0xFE11), (0xFE17, 0xFE18), (0xFE31, 0xFE32),
    (0xFE39, 0xFE44), (0xFE51, 0xFE51), (0xFE58, 0xFE58), (0xFE5D, 0xFE5E), (0xFE71, 0xFE71),
    (0xFE77, 0xFEFC), (0xFF5F, 0xFF60), (0xFF62, 0xFF9F), (0xFFA1, 0xFFEE), (0x10781, 0x107A4),
    (0x107A6, 0x107BA), (0x1D15E, 0x1D164), (0x1D1BB, 0x1D1C0), (0x1D6A4, 0x1D7CB),
    (0x1E030, 0x1E06D), (0x1EE00, 0x1EEBB), (0x1F101, 0x1F10A), (0x1F110, 0x1F12A),
    (0x1F12D, 0x1F12E), (0x1F14A, 0x1F14F), (0x1F16A, 0x1F16C), (0x1F190, 0x1F190),
    (0x1F200, 0x1F251), (0x2F800, 0x2FA1D)]

/-- Marks, and letters that make one character with each. -/
def compositions : List (Char × String) :=
  [('\u0300', "aeinouwyâêôüăēōơưαεηιουωϊϋеиἀἁ"), ('\u0300', "ἐἑἠἡἰἱὀὁὐὑὠὡ"),
    ('\u0301', "acegiklmnoprsuwyzâåæçêïôõøüăēō"), ('\u0301', "ũơưαεηιουωϊϋгкἀἁἐἑἠἡἰἱὀὁὐὑὠὡ"),
    ('\u0302', "aceghijosuwyzạẹọ"), ('\u0303', "aeinouvyâêôăơư"),
    ('\u0304', "aegiouyäæõöüǫȧȯαιυиуḷṛ"), ('\u0306', "aegiouȩαιυаежиуạ"),
    ('\u0307', "abcdefghmnoprstwxyzśšſṣ"), ('\u0308', "aehiotuwxyõūιυаежзиоучыэіәө"),
    ('\u0309', "aeiouyâêôăơư"), ('\u030a', "auwy"), ('\u030b', "ouу"),
    ('\u030c', "acdeghijklnorstuzüʒ"), ('\u030f', "aeioruѵ"), ('\u0311', "aeioru"),
    ('\u0313', "αεηιορυω"), ('\u0314', "αεηιορυω"), ('\u031b', "ou"),
    ('\u0323', "abdehiklmnorstuvwyzơư"), ('\u0324', "u"), ('\u0325', "a"), ('\u0326', "st"),
    ('\u0327', "cdeghklnrst"), ('\u0328', "aeiou"), ('\u032d', "delntu"), ('\u032e', "h"),
    ('\u0330', "eiu"), ('\u0331', "bdhklnrtz"), ('\u0338', "←→↔⇐⇒⇔∃∈∋∣∥∼≃≅≈≍≡≤≥≲≳≶≷≺≻≼≽⊂⊃⊆"),
    ('\u0338', "⊇⊑⊒⊢⊨⊩⊫⊲⊳⊴⊵"), ('\u0342', "αηιυωϊϋἀἁἠἡἰἱὐὑὠὡ"), ('\u0653', "ا"),
    ('\u0654', "اويہےە"), ('\u0655', "ا"), ('\u093c', "नरळ"), ('\u09be', "ে"), ('\u09d7', "ে"),
    ('\u0b3e', "େ"), ('\u0b56', "େ"), ('\u0b57', "େ"), ('\u0bbe', "ெே"), ('\u0bd7', "ஒெ"),
    ('\u0c56', "ె"), ('\u0cc2', "ೆ"), ('\u0cd5', "ಿೆೊ"), ('\u0cd6', "ೆ"), ('\u0d3e', "െേ"),
    ('\u0d57', "െ"), ('\u0dca', "ෙො"), ('\u0dcf', "ෙ"), ('\u0ddf', "ෙ"), ('\u102e', "ဥ"),
    ('\u1b35', "ᬅᬇᬉᬋᬍᬑᬺᬼᬾᬿᭂ"), ('\u3099', "うかきくけこさしすせそたちつてとはひふへほゝウカキクケコサシ"),
    ('\u3099', "スセソタチツテトハヒフヘホワヰヱヲヽ"), ('\u309a', "はひふへほハヒフヘホ"), (Char.ofNat 0x110BA, "𑂙𑂛𑂥"),
    (Char.ofNat 0x11127, "𑄱𑄲"), (Char.ofNat 0x1133E, "𑍇"), (Char.ofNat 0x11357, "𑍇"),
    (Char.ofNat 0x114B0, "𑒹"), (Char.ofNat 0x114BA, "𑒹"), (Char.ofNat 0x114BD, "𑒹"),
    (Char.ofNat 0x115AF, "𑖸𑖹"), (Char.ofNat 0x11930, "𑤵")]

/-- Whether a character is one of a number of them from a first one on. -/
def isAmong (first count : Nat) (c : Char) : Bool :=
  first ≤ c.toNat && c.toNat < first + count

/-- Whether two parts make one syllable: a leading consonant and a vowel, or an open syllable and a
closing consonant. -/
def makeSyllable (c d : Char) : Bool :=
  (isAmong 0x1100 19 c && isAmong 0x1161 21 d) ||
    (isAmong 0xAC00 11172 c && (c.toNat - 0xAC00) % 28 == 0 && isAmong 0x11A8 27 d)

/-- Whether two characters make one. -/
def makeOne (c d : Char) : Bool :=
  makeSyllable c d || compositions.any fun (mark, letters) => mark == d && letters.contains c

/-- Whether no two neighbours make one character. -/
def areApart : List Char → Bool
  | c :: d :: rest => !makeOne c d && areApart (d :: rest)
  | _ => true

/-- Whether characters are in the one spelling. -/
def isSettled (cs : List Char) : Bool := !cs.any variants.contains && areApart cs

end Friendship.Url.Domain.Spelling
