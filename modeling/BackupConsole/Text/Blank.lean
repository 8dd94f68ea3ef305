import BackupConsole.Text.Ranges

set_option autoImplicit false

namespace BackupConsole.Text

def spaceRanges : List (Nat × Nat) := [
  (0x9, 0xd), (0x20, 0x20), (0x85, 0x85), (0xa0, 0xa0), (0x1680, 0x1680), (0x2000, 0x200a),
  (0x2028, 0x2029), (0x202f, 0x202f), (0x205f, 0x205f), (0x3000, 0x3000)]

def isSpace (c : Char) : Bool := inRanges spaceRanges c

def isBlank (c : Char) : Bool := isSpace c || inRanges [(0x1c, 0x1f)] c

def trimBy (blank : Char → Bool) (cs : List Char) : List Char :=
  ((cs.dropWhile blank).reverse.dropWhile blank).reverse

end BackupConsole.Text
