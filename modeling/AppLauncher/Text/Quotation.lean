import AppLauncher.Text.Hidden

/-!
# Quotation of text in messages

A text inside a message stands between quotation marks, so that one sees where
it ends.  Quotation marks, backslashes and common controls get a backslash;
other hidden characters are given by number.
-/

namespace AppLauncher.Text

def byNumber (character : Char) : List Char :=
  '\\' :: 'u' :: '\x7b' :: (Nat.toDigits 16 character.toNat ++ ['\x7d'])

def quoteChar (character : Char) : List Char :=
  match character with
  | '\x00' => ['\\', '0']
  | '\t' => ['\\', 't']
  | '\n' => ['\\', 'n']
  | '\r' => ['\\', 'r']
  | '"' => ['\\', '"']
  | '\\' => ['\\', '\\']
  | c => if isHidden c then byNumber c else [c]

def quotation (text : String) : String :=
  String.ofList ('"' :: (text.toList.flatMap quoteChar ++ ['"']))

end AppLauncher.Text
