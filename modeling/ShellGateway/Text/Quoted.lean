import ShellGateway.Text.Bytes
import ShellGateway.Text.Unprintable

/-!
# Quoted text

Error messages and descriptions show texts that came from outside in quotes, so
that blanks, controls and line ends cannot pass for part of the message.
`quoted` wraps a text in double quotes, writes the quote, the backslash, line
feed, carriage return, tab and NUL with a letter after a backslash, and every
other unprintable character by its code point.
-/

namespace ShellGateway.Text

/-- The written form of one character inside quotes. -/
def quotedChar (c : Char) : List Char :=
  match c with
  | '"' => ['\\', '"']
  | '\\' => ['\\', '\\']
  | '\n' => ['\\', 'n']
  | '\r' => ['\\', 'r']
  | '\t' => ['\\', 't']
  | '\x00' => ['\\', '0']
  | c =>
    if isUnprintable c then
      ['\\', 'u', '{'] ++ Digit.write 16 c.toNat ++ ['}']
    else [c]

/-- A text in double quotes with everything invisible escaped. -/
def quoted (s : String) : String :=
  String.ofList (['"'] ++ s.toList.flatMap quotedChar ++ ['"'])

end ShellGateway.Text
