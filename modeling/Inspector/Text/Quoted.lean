import Inspector.Text.Unprintable

/-!
# Quoted text

Error messages show a text that could not be read between double quotes. Six characters have a
short escape, unprintable ones are written by their number, and all others stand for themselves.
-/

namespace Inspector.Text

/-- The form of one character inside quoted text. -/
def escapeChar (c : Char) : String :=
  match c with
  | '\x00' => "\\0"
  | '\t' => "\\t"
  | '\r' => "\\r"
  | '\n' => "\\n"
  | '"' => "\\\""
  | '\\' => "\\\\"
  | _ =>
    if isUnprintable c then
      "\\u\x7b" ++ String.ofList (Nat.toDigits 16 c.toNat) ++ "\x7d"
    else c.toString

/-- The text between double quotes, with every character in its quoted form. -/
def quote (text : String) : String :=
  "\"" ++ String.join (text.toList.map escapeChar) ++ "\""

end Inspector.Text
