import CustomProps.Unicode.Property
/-!
Code points that version 17.0 of the character database assigned. The other tables hold version
16.0, by which patterns match; names inside patterns, and texts shown in diagnostics, follow 17.0.
-/
namespace CustomProps.Unicode.Latest

/-- Where the runs of newly assigned code points of one category begin. -/
def table : RunTable Category := .ofText Category.ofCode
  "0Cn 88fLo 890Cn c5cLo c5dCn cdcLo cddCn 1acfMn 1adeCn 1ae0Mn 1aecCn 20c1Sc 20c2Cn 2b96So
  2b97Cn a7ceLu a7cfLl a7d0Cn a7d2Lu a7d3Cn a7d4Lu a7d5Cn a7f1Lm a7f2Cn fbc3So fbd3Cn fd90So
  fd92Cn fdc8So fdcfCn 10940Lo 1095aCn 10ec5Lm 10ec6Lo 10ec8Cn 10ed0Po 10ed1So 10ed9Cn 10efaMn
  10efcCn 11b60Mn 11b61Mc 11b62Mn 11b65Mc 11b66Mn 11b67Mc 11b68Cn 11db0Lo 11dd9Lm 11ddaLo
  11ddcCn 11de0Nd 11deaCn 16ea0Lu 16eb9Cn 16ebbLl 16ed4Cn 16ff2Lm 16ff4Nl 16ff7Cn 187f8Lo
  18800Cn 18d09Lo 18d1fCn 18d80Lo 18df3Cn 1ccfaSo 1ccfdCn 1cebaSo 1ced1Cn 1cee0So 1cef0Sm
  1cef1Cn 1e6c0Lo 1e6dfCn 1e6e0Lo 1e6e3Mn 1e6e4Lo 1e6e6Mn 1e6e7Lo 1e6eeMn 1e6f0Lo 1e6f5Mn
  1e6f6Cn 1e6feLo 1e6ffLm 1e700Cn 1f6d8So 1f6d9Cn 1f777So 1f77bCn 1f8d0Sm 1f8d9Cn 1fa54So
  1fa58Cn 1fa8aSo 1fa8bCn 1fa8eSo 1fa8fCn 1fac8So 1fac9Cn 1facdSo 1faceCn 1faeaSo 1faebCn
  1faefSo 1faf0Cn 1fbfaSo 1fbfbCn 2b73aLo 2b740Cn 2cea2Lo 2ceaeCn 323b0Lo 3347aCn"

/-- The general category of a code point, newly assigned ones included. -/
def category (c : Nat) : Category :=
  if Category.of c == .unassigned then (table.get? c).getD .unassigned else Category.of c

/-- Newly assigned marks that are alphabetic. -/
def alphabeticMark : CodeSet := .ofText
  "10efa-10efb 11b60-11b67 1e6e3 1e6e6 1e6ee-1e6ef 1e6f5"

def isAlphabetic (c : Nat) : Bool :=
  Property.alphabetic.contains c || (category c).isLetter || category c == .letterNumber ||
    alphabeticMark.contains c

def isAlphanumeric (c : Nat) : Bool := isAlphabetic c || (category c).isNumber

/-- Marks that extend the sign before them. Letters that extend it too are not among them. -/
def isExtendingMark (c : Nat) : Bool :=
  category c == .nonspacingMark || ((category c).isMark && Property.graphemeExtend.contains c)

end CustomProps.Unicode.Latest
