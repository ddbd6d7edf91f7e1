import PromptTemplate.Number.Binary64
import PromptTemplate.Text.Case

/-!
# Similar keys

How alike two keys look, on a scale from zero to one: equal without regard to case, one contained in
the other, or else by the characters they share, in whatever order. `Ratio` keeps the score exact;
`Ratio.toBinary64` is the number that is compared with a threshold and shown.
-/

namespace PromptTemplate

/-- A quotient of natural numbers. -/
structure Ratio where
  num : Nat
  den : Nat
deriving DecidableEq

namespace Ratio

/-- Order of the quotients. -/
def le (a b : Ratio) : Bool := a.num * b.den ≤ b.num * a.den

def toBinary64 (r : Ratio) : Binary64 := Binary64.ofRatio false r.num r.den

end Ratio

namespace Similarity

/-- The code points of a text, each once. -/
def letters (t : Text) : List CodePoint := t.eraseDups

/-- The score of two texts in lower case. -/
def scoreLower (a b : Text) : Ratio :=
  if a = b then ⟨1, 1⟩
  else if a.isEmpty || b.isEmpty then ⟨0, 1⟩
  else if a.has b || b.has a then ⟨4, 5⟩
  else
    let shared := (letters a).filter (letters b).contains
    ⟨2 * shared.length, (letters a).length + (letters b).length⟩

/-- The score of two texts. -/
def score (a b : Text) : Ratio := scoreLower a.lower b.lower

/-- The score below which a key is not suggested. -/
def defaultThreshold : Binary64 := Binary64.ofDecimal false 3 (-1)

/-- The greatest number of suggestions. -/
def defaultLimit : Int := 3

/-- The first `limit` items, or all but the last `-limit` where the limit is negative. -/
def takeSigned {α : Type} (limit : Int) (items : List α) : List α :=
  match limit with
  | .ofNat n => items.take n
  | .negSucc n => items.take (items.length - (n + 1))

/-- The distinct candidates other than the target that score above the threshold, the best first;
equal scores keep the order of the candidates. -/
def ranked (threshold : Binary64) (target : Text) (candidates : List Text) : List Text :=
  let scored := (candidates.filter (· ≠ target)).eraseDups.map fun c => (c, score target c)
  let close := scored.filter fun p => threshold.lt p.2.toBinary64
  (close.mergeSort fun p q => q.2.le p.2).map Prod.fst

/-- The candidates closest to a target. -/
def findSimilar (target : Text) (candidates : List Text) (limit : Int) (threshold : Binary64) :
    List Text :=
  takeSigned limit (ranked threshold target candidates)

/-- The candidates to suggest in place of a target. -/
def suggest (target : Text) (candidates : List Text) : List Text :=
  findSimilar target candidates defaultLimit defaultThreshold

end Similarity

end PromptTemplate
