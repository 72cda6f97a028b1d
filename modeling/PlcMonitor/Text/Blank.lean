/-! White space as the Unicode property White_Space, twenty-five characters, trimming, and lengths in
bytes. -/
namespace PlcMonitor.Text

def byteLength : List Char → Nat
  | [] => 0
  | c :: rest => c.utf8Size + byteLength rest

def blankRanges : List (Nat × Nat) :=
  [(0x09, 0x0D), (0x20, 0x20), (0x85, 0x85), (0xA0, 0xA0), (0x1680, 0x1680), (0x2000, 0x200A),
   (0x2028, 0x2029), (0x202F, 0x202F), (0x205F, 0x205F), (0x3000, 0x3000)]

def isBlank (c : Char) : Bool :=
  blankRanges.any fun range => range.1 ≤ c.toNat && c.toNat ≤ range.2

def skipBlanks (cs : List Char) : List Char := cs.dropWhile isBlank

def trimmed (cs : List Char) : List Char := (skipBlanks (skipBlanks cs).reverse).reverse

def trim (s : String) : String := String.ofList (trimmed s.toList)

def allBlank (s : String) : Bool := s.toList.all isBlank

theorem skipBlanks_of_head {c : Char} {cs : List Char} (h : isBlank c = false) :
    skipBlanks (c :: cs) = c :: cs := by
  simp [skipBlanks, h]

@[simp] theorem toList_trim (s : String) : (trim s).toList = trimmed s.toList := by
  simp [trim]

end PlcMonitor.Text
