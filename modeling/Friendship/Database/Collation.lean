/-!
# Character sets and collations

A character set has collations by which texts are ordered; the name of a collation begins with that
of its character set.
-/

namespace Friendship.Database

/-- The ways to order the characters of the sets for all languages. -/
def universalOrders : List String :=
  ["bin", "croatian_ci", "czech_ci", "danish_ci", "esperanto_ci", "estonian_ci", "general_ci",
    "german2_ci", "hungarian_ci", "icelandic_ci", "latvian_ci", "lithuanian_ci", "persian_ci",
    "polish_ci", "romanian_ci", "roman_ci", "sinhala_ci", "slovak_ci", "slovenian_ci",
    "spanish2_ci", "spanish_ci", "swedish_ci", "turkish_ci", "unicode_520_ci", "unicode_ci",
    "vietnamese_ci"]

/-- The character sets that a connection may use, and what follows their names in those of their
collations. -/
def orders : List (String × List String) :=
  let general := ["bin", "general_ci"]
  [("armscii8", general), ("ascii", general), ("big5", ["bin", "chinese_ci"]), ("binary", []),
    ("cp1250", ["bin", "croatian_ci", "czech_cs", "general_ci", "polish_ci"]),
    ("cp1251", ["bin", "bulgarian_ci", "general_ci", "general_cs", "ukrainian_ci"]),
    ("cp1256", general), ("cp1257", ["bin", "general_ci", "lithuanian_ci"]), ("cp850", general),
    ("cp852", general), ("cp866", general), ("cp932", ["bin", "japanese_ci"]),
    ("dec8", ["bin", "swedish_ci"]), ("eucjpms", ["bin", "japanese_ci"]),
    ("euckr", ["bin", "korean_ci"]), ("gb18030", ["bin", "chinese_ci", "unicode_520_ci"]),
    ("gb2312", ["bin", "chinese_ci"]), ("gbk", ["bin", "chinese_ci"]), ("geostd8", general),
    ("greek", general), ("hebrew", general), ("hp8", ["bin", "english_ci"]),
    ("keybcs2", general), ("koi8r", general), ("koi8u", general),
    ("latin1", ["bin", "danish_ci", "general_ci", "general_cs", "german1_ci", "german2_ci",
      "spanish_ci", "swedish_ci"]),
    ("latin2", ["bin", "croatian_ci", "czech_cs", "general_ci", "hungarian_ci"]),
    ("latin5", ["bin", "turkish_ci"]),
    ("latin7", ["bin", "estonian_cs", "general_ci", "general_cs"]), ("macce", general),
    ("macroman", general), ("sjis", ["bin", "japanese_ci"]), ("swe7", ["bin", "swedish_ci"]),
    ("tis620", ["bin", "thai_ci"]), ("ucs2", universalOrders ++ ["general_mysql500_ci"]),
    ("ujis", ["bin", "japanese_ci"]), ("utf16", universalOrders), ("utf16le", general),
    ("utf32", universalOrders),
    ("utf8", universalOrders ++ ["general_mysql500_ci", "tolower_ci"]),
    ("utf8mb4", universalOrders ++ ["0900_ai_ci"])]

/-- The names of character sets. -/
def charsets : List String := orders.map (·.1)

/-- The names of collations; the one of bytes is named as their set. -/
def collations : List String :=
  "binary" :: orders.flatMap fun (charset, orders) => orders.map (charset ++ "_" ++ ·)

end Friendship.Database
