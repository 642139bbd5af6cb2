import Ftp.Address
import Ftp.Text.Utf8

/-!
# Replies

What the server says on a control connection: a code of three digits with one line of text, or with
a block of lines that ends at the line that repeats the code.
-/

namespace Ftp

inductive Reply where
  /-- One line. -/
  | line (code : Nat) (text : Text)
  /-- One line that quotes a path. -/
  | quoted (code : Nat) (path : Text)
  /-- A header, indented body lines and a footer. -/
  | block (code : Nat) (header : Text) (body : List Text) (footer : Text)
  deriving DecidableEq, Repr

namespace Reply

def code : Reply → Nat
  | .line code _ => code
  | .quoted code _ => code
  | .block code _ _ _ => code

/-- The end of a line on the wire. -/
def lineEnd : Text := ['\r', '\n']

def codeText (code : Nat) : Text :=
  Decimal.zeroPadded 3 code

/-- The reply as it is sent. -/
def text : Reply → Text
  | .line code text => codeText code ++ ' ' :: text ++ lineEnd
  | .quoted code path => codeText code ++ " \"".toList ++ path ++ '"' :: lineEnd
  | .block code header body footer =>
    codeText code ++ '-' :: header ++ lineEnd ++
      body.flatMap (fun line => ' ' :: line ++ lineEnd) ++ codeText code ++ ' ' :: footer ++ lineEnd

def bytes (reply : Reply) : List UInt8 :=
  Utf8.encode reply.text

/-- Tells the client to open its data connection to the endpoint: four numbers for the address, two
for the port. -/
def passiveAddress (endpoint : Endpoint) : Text :=
  let port := endpoint.port.toNat
  let numbers := endpoint.ip.octets.map UInt8.toNat ++ [port / 256, port % 256]
  "Entering Passive Mode (".toList ++ Text.join ',' (numbers.map Decimal.digits) ++ [')']

end Reply

end Ftp
