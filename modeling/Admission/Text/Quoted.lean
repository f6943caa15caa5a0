import Admission.Text.Glyphless

/-!
# Quoted text

Texts inside structured output stand in double quotes. Line breaks, tabs, the null character,
quotes and backslashes have two-character escapes, every other character without a glyph of its
own is written by its code point in braces, and all else stands for itself. A single quote needs
no escape.
-/

namespace Admission.Text

/-- The digits of a code point in base sixteen, lower case and without padding. -/
def codePointDigits (character : Char) : List Char :=
  Nat.toDigits 16 character.toNat

/-- The characters that stand for one character inside a quoted text. -/
def escape (character : Char) : List Char :=
  match character with
  | '\x00' => ['\\', '0']
  | '\t' => ['\\', 't']
  | '\r' => ['\\', 'r']
  | '\n' => ['\\', 'n']
  | '"' => ['\\', '"']
  | '\\' => ['\\', '\\']
  | _ =>
      if isGlyphless character then
        ['\\', 'u', '\x7b'] ++ codePointDigits character ++ ['\x7d']
      else
        [character]

/-- A text in double quotes, with every character escaped that cannot stand for itself. -/
def quoted (text : String) : String :=
  String.ofList ('"' :: text.toList.flatMap escape ++ ['"'])

end Admission.Text
