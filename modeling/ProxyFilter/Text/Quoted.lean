import ProxyFilter.Unicode.Recent

/-!
# Quoted texts

Summaries show a text between double quotes (`Quoted.text`), on one line and free of anything that
does not show: a quote, a backslash, a tab, a line end or a NUL becomes a backslash and a letter,
and a mark that would join what stands before it, or a character without a shape, becomes its code
point in hexadecimal.
-/

namespace ProxyFilter.Quoted

/-- The letter of a character that is written as a backslash and a letter. -/
def letter? (c : Char) : Option Char :=
  if c = '\x00' then some '0'
  else if c = '\t' then some 't'
  else if c = '\r' then some 'r'
  else if c = '\n' then some 'n'
  else if c = '"' ∨ c = '\\' then some c
  else none

/-- The character shows, and stands by itself. -/
def isShown (c : Char) : Bool :=
  Unicode.printable.contains c.toNat && ! Unicode.recentGraphemeExtend.contains c.toNat

/-- A character between quotes. -/
def charText (c : Char) : List Char :=
  match letter? c with
  | some l => ['\\', l]
  | none =>
    if isShown c then [c]
    else ['\\', 'u', '\x7b'] ++ Nat.toDigits 16 c.toNat ++ ['\x7d']

/-- A text with its quotes. -/
def text (s : String) : String := String.ofList ('"' :: s.toList.flatMap charText ++ ['"'])

end ProxyFilter.Quoted
