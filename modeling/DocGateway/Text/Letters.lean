/-!
Letter case for comparison with words of ASCII letters.

Outside ASCII only the Kelvin sign has a single ASCII letter as its small form, and only the
dotless i and the long s have one as their capital form; any other letter is left as it is, since
no ASCII word can equal its other form.
-/

namespace DocGateway.Text

def lowerChar (c : Char) : Char :=
  if c.toNat = 0x212a then 'k' else c.toLower

def upperChar (c : Char) : Char :=
  if c.toNat = 0x131 then 'I' else if c.toNat = 0x17f then 'S' else c.toUpper

def lower (cs : List Char) : List Char := cs.map lowerChar

def upper (cs : List Char) : List Char := cs.map upperChar

end DocGateway.Text
