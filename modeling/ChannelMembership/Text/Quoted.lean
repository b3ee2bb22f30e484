import ChannelMembership.Text.Hex
import ChannelMembership.Text.Invisible

/-!
# Quoted text

Text between double quotes.  Quotes, backslashes and the common controls have short escapes, other
characters without a shape of their own are named by their code point, and everything else stands
for itself.
-/

namespace ChannelMembership
namespace Quoted

/-- One character as it stands between quotes. -/
def escaped (c : Char) : List Char :=
  match c with
  | '\x00' => ['\\', '0']
  | '\t' => ['\\', 't']
  | '\r' => ['\\', 'r']
  | '\n' => ['\\', 'n']
  | '"' => ['\\', '"']
  | '\\' => ['\\', '\\']
  | c =>
    if Invisible.isInvisible c then ['\\', 'u', '\x7b'] ++ Hex.shortest c.toNat ++ ['\x7d']
    else [c]

/-- A text between quotes. -/
def quote (text : String) : String :=
  String.ofList ('"' :: text.toList.flatMap escaped ++ ['"'])

end Quoted
end ChannelMembership
