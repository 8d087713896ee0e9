import Overseer.Text.Extending
import Overseer.Text.Unprintable

set_option autoImplicit false

namespace Overseer.Text

def hex (n : Nat) : List Char := Nat.toDigits 16 n

def codeEscape (c : Char) : List Char := ['\\', 'u', '\x7b'] ++ hex c.toNat ++ ['\x7d']

structure Quotation where
  apostrophe : Bool

def Quotation.escape (q : Quotation) (c : Char) : List Char :=
  if c = '\x00' then ['\\', '0']
  else if c = '\t' then ['\\', 't']
  else if c = '\r' then ['\\', 'r']
  else if c = '\n' then ['\\', 'n']
  else if c = '\\' || c = '"' then ['\\', c]
  else if c = '\'' && q.apostrophe then ['\\', c]
  else if isExtending c || isUnprintable c then codeEscape c
  else [c]

def Quotation.quote (q : Quotation) (s : String) : String :=
  String.ofList ('"' :: s.toList.flatMap q.escape ++ ['"'])

def quoted (s : String) : String := Quotation.quote ⟨false⟩ s

def quotedPath (s : String) : String := Quotation.quote ⟨true⟩ s

end Overseer.Text
