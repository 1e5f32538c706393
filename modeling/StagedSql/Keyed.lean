/-!
# Keyed entries in the order of insertion

A finite map as the list of its entries. Putting a key again keeps its place, removing it and
putting it back moves it to the end.
-/

namespace StagedSql

abbrev Keyed (α : Type) := List (String × α)

namespace Keyed

variable {α : Type}

def lookup? (key : String) : Keyed α → Option α
  | [] => none
  | (k, a) :: rest => if k = key then some a else lookup? key rest

/-- Sets the value under `key`, in place if the key is there and at the end if it is new. -/
def put (key : String) (a : α) : Keyed α → Keyed α
  | [] => [(key, a)]
  | (k, b) :: rest => if k = key then (key, a) :: rest else (k, b) :: put key a rest

def remove (key : String) (entries : Keyed α) : Keyed α := entries.filter fun e => e.1 ≠ key

def keys (entries : Keyed α) : List String := entries.map (·.1)

def values (entries : Keyed α) : List α := entries.map (·.2)

/-- The map that a list of pairs describes: the last value of a key at the place of its first. -/
def ofPairs (pairs : List (String × α)) : Keyed α :=
  pairs.foldl (fun entries p => entries.put p.1 p.2) []

/-! ### Looking up after a change -/

@[simp] theorem lookup?_nil (key : String) : lookup? key ([] : Keyed α) = none := rfl

theorem lookup?_put_self (key : String) (a : α) (entries : Keyed α) :
    (entries.put key a).lookup? key = some a := by
  induction entries with
  | nil => simp [put, lookup?]
  | cons e rest ih =>
    by_cases h : e.1 = key
    · simp [put, lookup?, h]
    · simp only [put, h, if_false, lookup?]
      exact ih

theorem lookup?_put_of_ne {key other : String} (h : other ≠ key) (a : α) (entries : Keyed α) :
    (entries.put key a).lookup? other = entries.lookup? other := by
  induction entries with
  | nil =>
    have hk : ¬ key = other := fun he => h he.symm
    simp [put, lookup?, hk]
  | cons e rest ih =>
    by_cases he : e.1 = key
    · have hk : ¬ key = other := fun hk => h hk.symm
      have hek : ¬ e.1 = other := fun ho => h (ho.symm.trans he)
      simp [put, lookup?, he, hk]
    · simp only [put, he, if_false, lookup?]
      rw [ih]

theorem keys_put (key : String) (a : α) (entries : Keyed α) :
    (entries.put key a).keys =
      if key ∈ entries.keys then entries.keys else entries.keys ++ [key] := by
  induction entries with
  | nil => simp [put, keys]
  | cons e rest ih =>
    by_cases h : e.1 = key
    · simp [put, keys, h]
    · have hk : ¬ key = e.1 := fun he => h he.symm
      simp only [put, h, if_false]
      simp only [keys, List.map_cons, List.mem_cons, hk, false_or] at ih ⊢
      rw [ih]
      by_cases hm : key ∈ rest.map (·.1)
      · simp [hm]
      · simp [hm]

theorem mem_keys_iff (key : String) (entries : Keyed α) :
    key ∈ entries.keys ↔ ∃ a, entries.lookup? key = some a := by
  induction entries with
  | nil => simp [keys]
  | cons e rest ih =>
    by_cases h : e.1 = key
    · simp [keys, lookup?, h]
    · have hk : ¬ key = e.1 := fun he => h he.symm
      simp only [keys, List.map_cons, List.mem_cons, hk, false_or, lookup?, h, if_false] at ih ⊢
      exact ih

end Keyed

end StagedSql
