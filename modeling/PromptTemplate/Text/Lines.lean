import PromptTemplate.Text.Basic

/-!
# Line ends

A text file may end its lines with a line feed, a carriage return or both.
-/

namespace PromptTemplate.Text

/-- The text with every line end as a line feed. -/
def withLineFeeds : Text → Text
  | [] => []
  | .char '\r' :: .char '\n' :: t => .char '\n' :: withLineFeeds t
  | .char '\r' :: t => .char '\n' :: withLineFeeds t
  | c :: t => c :: withLineFeeds t

end PromptTemplate.Text
