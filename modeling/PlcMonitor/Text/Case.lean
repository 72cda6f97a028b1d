/-! Letter case of the twenty-six ASCII letters; every other character is left alone. -/
namespace PlcMonitor.Text

def upper (s : String) : String := String.ofList (s.toList.map Char.toUpper)

def lower (s : String) : String := String.ofList (s.toList.map Char.toLower)

@[simp] theorem toList_upper (s : String) : (upper s).toList = s.toList.map Char.toUpper := by
  simp [upper]

@[simp] theorem toList_lower (s : String) : (lower s).toList = s.toList.map Char.toLower := by
  simp [lower]

end PlcMonitor.Text
