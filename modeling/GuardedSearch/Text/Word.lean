import GuardedSearch.Text.Alphanumeric
import GuardedSearch.Text.Case
import GuardedSearch.Text.Search

/-!
# Words

The words of a text are its longest blocks of letters and numbers, in lower case. Free text is
matched word by word.
-/

namespace GuardedSearch.Text

/-- The words of a text, in order and with repetitions. -/
def words (s : String) : List String :=
  (blocks isWordChar s.toList).map fun block => lower (String.ofList block)

end GuardedSearch.Text
