/-! Folding of ASCII case. Only the letters `A` to `Z` have a folded form of
their own. -/

namespace DfsClient.Text

def fold (text : String) : String := String.ofList (text.toList.map Char.toLower)

theorem toList_fold (text : String) : (fold text).toList = text.toList.map Char.toLower := by
  simp [fold]

def sameFolded (first second : String) : Bool := fold first == fold second

end DfsClient.Text
