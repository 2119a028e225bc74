/-!
# Dictionaries

Pairs of a key and a value in the order in which the keys first came. Reading takes the first
pair with the key; `set` replaces that pair in its place or adds one at the end.
-/

namespace StateHolders.Dictionary

variable {κ : Type} {α : Type} [DecidableEq κ]

/-- The value of a key. -/
def get? (k : κ) : List (κ × α) → Option α
  | [] => none
  | (k', v) :: rest => if k' = k then some v else get? k rest

/-- The pairs with the value of a key replaced, or a new pair at the end. -/
def set (k : κ) (v : α) : List (κ × α) → List (κ × α)
  | [] => [(k, v)]
  | (k', v') :: rest => if k' = k then (k, v) :: rest else (k', v') :: set k v rest

/-- The pairs without those of a key. -/
def erase (k : κ) (pairs : List (κ × α)) : List (κ × α) :=
  pairs.filter fun pair => pair.1 ≠ k

@[simp] theorem get?_nil (k : κ) : get? k ([] : List (κ × α)) = none := rfl

theorem get?_cons (k k' : κ) (v : α) (rest : List (κ × α)) :
    get? k ((k', v) :: rest) = if k' = k then some v else get? k rest := rfl

@[simp] theorem get?_set_self (k : κ) (v : α) (pairs : List (κ × α)) :
    get? k (set k v pairs) = some v := by
  induction pairs with
  | nil => simp [set, get?]
  | cons pair rest ih =>
    obtain ⟨k', v'⟩ := pair
    by_cases h : k' = k <;> simp [set, get?, h, ih]

theorem get?_set_of_ne {k k' : κ} (h : k' ≠ k) (v : α) (pairs : List (κ × α)) :
    get? k (set k' v pairs) = get? k pairs := by
  induction pairs with
  | nil => simp [set, get?, h]
  | cons pair rest ih =>
    obtain ⟨k₁, v₁⟩ := pair
    by_cases h₁ : k₁ = k'
    · subst h₁
      simp [set, get?, h]
    · simp only [set, h₁, if_false, get?, ih]

end StateHolders.Dictionary
