import PromptTemplate.Text.Basic

/-!
# Tables

A table lists values by key, in the order the keys were first seen. `alter` is the one way to
change an entry: it keeps the place of a known key and puts a new key at the end.
-/

namespace PromptTemplate

abbrev Table (α : Type) := List (Text × α)

namespace Table

variable {α : Type}

def keys (t : Table α) : List Text := t.map Prod.fst

def get? (t : Table α) (key : Text) : Option α := (t.find? fun e => e.1 = key).map Prod.snd

/-- Set the entry of a key to a function of what is there. -/
def alter (key : Text) (f : Option α → α) : Table α → Table α
  | [] => [(key, f none)]
  | (k, a) :: t => if k = key then (k, f (some a)) :: t else (k, a) :: alter key f t

/-- The last value of a key wins. -/
def set (t : Table α) (key : Text) (a : α) : Table α := t.alter key fun _ => a

/-- The first value of a key wins. -/
def setNew (t : Table α) (key : Text) (a : α) : Table α := t.alter key fun old => old.getD a

/-- One entry per key, the first. -/
def firstByKey (key : α → Text) (items : List α) : Table α :=
  items.foldl (fun t a => setNew t (key a) a) []

/-- The items under their keys, in their order. -/
def groupByKey (key : α → Text) (items : List α) : Table (List α) :=
  items.foldl (fun t a => alter (key a) (fun old => old.getD [] ++ [a]) t) []

@[simp] theorem get?_alter (t : Table α) (key k : Text) (f : Option α → α) :
    get? (alter key f t) k = if k = key then some (f (t.get? key)) else t.get? k := by
  induction t with
  | nil => by_cases h : k = key <;> simp [alter, get?, h, Ne.symm, eq_comm]
  | cons e t ih =>
    obtain ⟨k', a⟩ := e
    unfold alter
    by_cases h : k' = key
    · subst h
      by_cases hk : k = k'
      · simp [get?, hk]
      · simp [get?, hk, Ne.symm hk]
    · by_cases hk : k = key
      · subst hk
        simp only [get?] at ih ⊢
        simp [h, ih]
      · by_cases hkk : k = k'
        · subst hkk; simp [get?, h]
        · simp only [get?] at ih ⊢
          simp [h, hk, Ne.symm hkk, ih]

theorem get?_firstByKey (key : α → Text) (items : List α) (k : Text) :
    get? (firstByKey key items) k = items.find? fun a => key a = k := by
  suffices ∀ t : Table α, get? (items.foldl (fun t a => setNew t (key a) a) t) k =
      (t.get? k).or (items.find? fun a => key a = k) from (this []).trans (by simp [get?])
  induction items with
  | nil => simp
  | cons a items ih =>
    intro t
    rw [List.foldl_cons, ih, setNew, get?_alter]
    by_cases h : k = key a
    · subst h
      cases t.get? (key a) <;> simp
    · simp [h, Ne.symm h]

theorem get?_groupByKey (key : α → Text) (items : List α) (k : Text) :
    (get? (groupByKey key items) k).getD [] = items.filter fun a => key a = k := by
  suffices ∀ t : Table (List α),
      (get? (items.foldl (fun t a => alter (key a) (fun old => old.getD [] ++ [a]) t) t) k).getD [] =
        (t.get? k).getD [] ++ items.filter fun a => key a = k from (this []).trans (by simp [get?])
  induction items with
  | nil => simp
  | cons a items ih =>
    intro t
    rw [List.foldl_cons, ih, get?_alter]
    by_cases h : k = key a
    · subst h
      simp
    · simp [h, Ne.symm h]

end Table

end PromptTemplate
