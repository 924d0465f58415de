set_option autoImplicit false

/-!
Tables: association lists in order of first insertion. Putting a value under a key that is present
leaves the key in its place.
-/

namespace DotPath.Table

variable {κ α : Type} [BEq κ]

def get? : List (κ × α) → κ → Option α
  | [], _ => none
  | (k', v) :: t, k => if k' == k then some v else get? t k

def contains (t : List (κ × α)) (k : κ) : Bool := (get? t k).isSome

def put : List (κ × α) → κ → α → List (κ × α)
  | [], k, v => [(k, v)]
  | (k', w) :: t, k, v => if k' == k then (k', v) :: t else (k', w) :: put t k v

def erase : List (κ × α) → κ → List (κ × α)
  | [], _ => []
  | (k', w) :: t, k => if k' == k then t else (k', w) :: erase t k

/-- The entries put one after the other into a table. -/
def putAll (t entries : List (κ × α)) : List (κ × α) := entries.foldl (fun t e => put t e.1 e.2) t

def ofEntries (entries : List (κ × α)) : List (κ × α) := putAll [] entries

def keys (t : List (κ × α)) : List κ := t.map (·.1)

/-- Does every key stand once? -/
def Distinct (t : List (κ × α)) : Prop := t.Pairwise fun a b => (a.1 == b.1) = false

@[simp] theorem get?_nil (k : κ) : get? ([] : List (κ × α)) k = none := rfl

omit [BEq κ] in
@[simp] theorem keys_nil : keys ([] : List (κ × α)) = [] := rfl

theorem get?_put_self [ReflBEq κ] (t : List (κ × α)) (k : κ) (v : α) :
    get? (put t k v) k = some v := by
  induction t with
  | nil => simp [put, get?]
  | cons e t ih =>
    obtain ⟨k', w⟩ := e
    by_cases h : k' == k <;> simp [put, get?, h, ih]

theorem keys_put_of_contains (t : List (κ × α)) (k : κ) (v : α) (h : contains t k) :
    keys (put t k v) = keys t := by
  induction t with
  | nil => simp [contains, get?] at h
  | cons e t ih =>
    obtain ⟨k', w⟩ := e
    by_cases hk : k' == k
    · simp [put, hk, keys]
    · have ht : contains t k := by simpa [contains, get?, hk] using h
      simpa [put, hk, keys] using ih ht

theorem put_of_not_contains (t : List (κ × α)) (k : κ) (v : α) (h : contains t k = false) :
    put t k v = t ++ [(k, v)] := by
  induction t with
  | nil => rfl
  | cons e t ih =>
    obtain ⟨k', w⟩ := e
    by_cases hk : k' == k
    · simp [contains, get?, hk] at h
    · have ht : contains t k = false := by simpa [contains, get?, hk] using h
      simp [put, hk, ih ht]

end DotPath.Table
