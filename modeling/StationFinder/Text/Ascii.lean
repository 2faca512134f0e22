/-!
# ASCII case

Station names and a few codes are compared by ASCII letter case only: `A` and `a` are alike, `É` and `é` are
not. Everything outside ASCII is left alone.
-/

namespace StationFinder.Text

/-- The text with its ASCII capitals made small. -/
def asciiLower (s : String) : String := String.ofList (s.toList.map Char.toLower)

/-- The text with its small ASCII letters made capital. -/
def asciiUpper (s : String) : String := String.ofList (s.toList.map Char.toUpper)

/-- Do two texts differ at most in the case of ASCII letters? -/
def sameAscii (a b : String) : Bool :=
  a.toList.map Char.toLower == b.toList.map Char.toLower

theorem sameAscii_iff {a b : String} : sameAscii a b = true ↔ asciiLower a = asciiLower b := by
  simp [sameAscii, asciiLower, String.ofList_inj]

@[simp] theorem sameAscii_self (a : String) : sameAscii a a = true := by simp [sameAscii]

end StationFinder.Text
