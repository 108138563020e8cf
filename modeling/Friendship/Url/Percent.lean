import Friendship.Text.Hex

/-!
# Percent signs

A percent sign and two hexadecimal digits stand for a byte; any other percent sign stands for
itself.
-/

namespace Friendship.Url.Percent

/-- The bytes of a text. -/
def decoded : List Char → List UInt8
  | [] => []
  | '%' :: high :: low :: rest =>
    match Text.Hex.byte? high low with
    | some b => b :: decoded rest
    | none => 37 :: decoded (high :: low :: rest)
  | c :: rest => (String.singleton c).toUTF8.data.toList ++ decoded rest
termination_by cs => cs.length

end Friendship.Url.Percent
