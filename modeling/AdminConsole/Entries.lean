/-!
# Entries — ordered mappings as lists of pairs

A mapping keeps its entries in order of first insertion. Writing to a key that is there changes the
value in place; writing to a new key appends.
-/

namespace AdminConsole

/-- An ordered mapping. -/
abbrev Entries (κ α : Type) := List (κ × α)

namespace Entries

variable {κ α β : Type} [DecidableEq κ]

/-- The value of the first entry under `k`. -/
def get? (k : κ) : List (κ × α) → Option α
  | [] => none
  | (l, v) :: rest => if l = k then some v else get? k rest

/-- Whether some entry has the key `k`. -/
def has (k : κ) (es : List (κ × α)) : Bool := (get? k es).isSome

/-- The keys, in order. -/
def keys (es : List (κ × α)) : List κ := es.map Prod.fst

/-- Binds `k` to `v`: in place where `k` is a key, else at the end. -/
def put (k : κ) (v : α) : List (κ × α) → List (κ × α)
  | [] => [(k, v)]
  | (l, w) :: rest => if l = k then (k, v) :: rest else (l, w) :: put k v rest

/-- The mapping without the key `k`. -/
def erase (k : κ) (es : List (κ × α)) : List (κ × α) := es.filter fun e => decide (e.1 ≠ k)

/-- The mapping made from pairs, a later pair overwriting an earlier one in place. -/
def ofPairs (ps : List (κ × α)) : List (κ × α) := ps.foldl (fun es (k, v) => put k v es) []

@[simp] theorem get?_nil (k : κ) : get? k ([] : List (κ × α)) = none := rfl

theorem get?_cons (k l : κ) (v : α) (es : List (κ × α)) :
    get? k ((l, v) :: es) = if l = k then some v else get? k es := rfl

/-- **Reading after writing.** -/
@[simp] theorem get?_put_self (k : κ) (v : α) : ∀ es : List (κ × α), get? k (put k v es) = some v
  | [] => by simp [put, get?]
  | (l, w) :: rest => by
      by_cases h : l = k
      · simp [put, h, get?]
      · simp [put, h, get?, get?_put_self k v rest]

/-- What was written is there. -/
theorem mem_put_self (k : κ) (v : α) : ∀ es : List (κ × α), (k, v) ∈ put k v es
  | [] => by simp [put]
  | (l, w) :: rest => by
      by_cases h : l = k
      · simp [put, h]
      · simp [put, h, mem_put_self k v rest]

/-- **Writing to one key leaves the others.** -/
theorem get?_put_of_ne {k l : κ} (h : l ≠ k) (v : α) :
    ∀ es : List (κ × α), get? l (put k v es) = get? l es
  | [] => by simp [put, get?, Ne.symm h]
  | (m, w) :: rest => by
      by_cases hm : m = k
      · subst hm; simp [put, get?, Ne.symm h]
      · by_cases hl : m = l
        · subst hl; simp [put, hm, get?]
        · simp [put, hm, get?, hl, get?_put_of_ne h v rest]

@[simp] theorem get?_erase_self (k : κ) : ∀ es : List (κ × α), get? k (erase k es) = none
  | [] => rfl
  | (l, w) :: rest => by
      have ih := get?_erase_self k rest
      by_cases h : l = k <;> simp_all [erase, get?]

theorem get?_erase_of_ne {k l : κ} (h : l ≠ k) :
    ∀ es : List (κ × α), get? l (erase k es) = get? l es
  | [] => rfl
  | (m, w) :: rest => by
      have ih := get?_erase_of_ne h rest
      by_cases hm : m = k
      · subst hm; simp_all [erase, get?, Ne.symm h]
      · by_cases hl : m = l <;> simp_all [erase, get?]

end Entries

end AdminConsole
