/-
The texts that can be used as patterns: those that spell one which is not
too deep and can be matched.
-/
import CellSync.Text.Pattern.Depth
import CellSync.Text.Pattern.Matching
import CellSync.Text.Pattern.Reader

namespace CellSync.Text

/-- Whether a text can be used as a pattern. -/
def isPattern (text : String) : Bool :=
  (Pattern.ofString? text).any fun p => p.depth ≤ Pattern.maxDepth && p.isMatched

end CellSync.Text
