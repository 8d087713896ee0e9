set_option autoImplicit false

namespace Overseer.Text

def blankCodes : List Nat :=
  [0x09, 0x0A, 0x0B, 0x0C, 0x0D, 0x20, 0x85, 0xA0, 0x1680, 0x2000, 0x2001, 0x2002, 0x2003, 0x2004,
   0x2005, 0x2006, 0x2007, 0x2008, 0x2009, 0x200A, 0x2028, 0x2029, 0x202F, 0x205F, 0x3000]

def isBlank (c : Char) : Bool := blankCodes.contains c.toNat

def trimLeft (cs : List Char) : List Char := cs.dropWhile isBlank

def trimRight (cs : List Char) : List Char := (cs.reverse.dropWhile isBlank).reverse

def trimChars (cs : List Char) : List Char := trimRight (trimLeft cs)

def trim (s : String) : String := String.ofList (trimChars s.toList)

theorem trimRight_append_blank (cs bs : List Char) (blank : ∀ b ∈ bs, isBlank b = true) :
    trimRight (cs ++ bs) = trimRight cs := by
  have front : ∀ l : List Char, (∀ b ∈ l, isBlank b = true) →
      (l ++ cs.reverse).dropWhile isBlank = cs.reverse.dropWhile isBlank := by
    intro l
    induction l with
    | nil => simp
    | cons b l ih => intro h; simp_all
  have all : ∀ b ∈ bs.reverse, isBlank b = true := by simpa using blank
  simp [trimRight, front _ all]

theorem trimLeft_blank_append (bs cs : List Char) (blank : ∀ b ∈ bs, isBlank b = true) :
    trimLeft (bs ++ cs) = trimLeft cs := by
  induction bs with
  | nil => rfl
  | cons b bs ih => simp_all [trimLeft]

end Overseer.Text
