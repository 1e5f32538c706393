import Mathlib.Data.List.Nodup
import StagedSql.Keyed

/-!
# Maps without repeated keys

Keyed entries describe a map when no key occurs twice. Looking up is then membership, and each
operation says what it does to the entries as a set.
-/

namespace StagedSql.Keyed

variable {α β : Type} {key : String} {a : α} {entries : Keyed α}

/-! ### Membership -/

@[simp] theorem keys_nil : keys ([] : Keyed α) = [] := rfl

@[simp] theorem keys_cons (e : String × α) (rest : Keyed α) :
    keys (e :: rest) = e.1 :: keys rest := rfl

theorem mem_keys_of_mem {e : String × α} (h : e ∈ entries) : e.1 ∈ entries.keys :=
  List.mem_map_of_mem h

theorem mem_values_iff : a ∈ entries.values ↔ ∃ key, (key, a) ∈ entries := by
  simp [values]

theorem mem_of_lookup? (h : entries.lookup? key = some a) : (key, a) ∈ entries := by
  induction entries with
  | nil => simp at h
  | cons e rest ih =>
    by_cases he : e.1 = key
    · have hv : e.2 = a := by simpa [lookup?, he] using h
      have : e = (key, a) := Prod.ext he hv
      simp [this]
    · have hr : lookup? key rest = some a := by simpa [lookup?, he] using h
      exact List.mem_cons_of_mem _ (ih hr)

theorem lookup?_of_mem (hn : entries.keys.Nodup) (h : (key, a) ∈ entries) :
    entries.lookup? key = some a := by
  induction entries with
  | nil => simp at h
  | cons e rest ih =>
    rw [keys_cons, List.nodup_cons] at hn
    rcases List.mem_cons.mp h with h | h
    · simp [← h, lookup?]
    · have he : e.1 ≠ key := by
        intro he
        exact hn.1 (he ▸ mem_keys_of_mem h)
      simpa [lookup?, he] using ih hn.2 h

theorem lookup?_eq_some_iff (hn : entries.keys.Nodup) :
    entries.lookup? key = some a ↔ (key, a) ∈ entries :=
  ⟨mem_of_lookup?, lookup?_of_mem hn⟩

/-! ### Setting a value -/

theorem nodup_keys_put (hn : entries.keys.Nodup) : (entries.put key a).keys.Nodup := by
  rw [keys_put]
  by_cases h : key ∈ entries.keys
  · simpa [h] using hn
  · have hd : ∀ k ∈ entries.keys, k ≠ key := fun k hk he => h (he ▸ hk)
    simpa [h, List.nodup_append, hn] using hd

theorem mem_keys_put {other : String} :
    other ∈ (entries.put key a).keys ↔ other = key ∨ other ∈ entries.keys := by
  rw [keys_put]
  by_cases h : key ∈ entries.keys
  · simp only [h, if_true]
    constructor
    · exact Or.inr
    · rintro (rfl | ho)
      · exact h
      · exact ho
  · simp [h, or_comm]

theorem mem_put_iff (hn : entries.keys.Nodup) {e : String × α} :
    e ∈ entries.put key a ↔ e = (key, a) ∨ e ∈ entries ∧ e.1 ≠ key := by
  have hmem : (entries.put key a).lookup? e.1 = some e.2 ↔ e ∈ entries.put key a :=
    lookup?_eq_some_iff (nodup_keys_put hn)
  rw [← hmem]
  by_cases he : e.1 = key
  · have hself : (entries.put key a).lookup? e.1 = some a := by rw [he, lookup?_put_self]
    constructor
    · intro h
      exact .inl (Prod.ext he (Option.some.inj (h.symm.trans hself)))
    · rintro (h | h)
      · rw [hself, h]
      · exact absurd he h.2
  · rw [lookup?_put_of_ne he, lookup?_eq_some_iff hn]
    constructor
    · exact fun h => .inr ⟨h, he⟩
    · rintro (rfl | h)
      · exact absurd rfl he
      · exact h.1

theorem mem_of_mem_put {e : String × α} (h : e ∈ entries.put key a) :
    e = (key, a) ∨ e ∈ entries := by
  induction entries with
  | nil => exact .inl (by simpa [put] using h)
  | cons x rest ih =>
    by_cases hx : x.1 = key
    · have hm : e = (key, a) ∨ e ∈ rest := by simpa [put, hx] using h
      exact hm.imp_right (List.mem_cons_of_mem _)
    · have hm : e = x ∨ e ∈ put key a rest := by simpa [put, hx] using h
      rcases hm with rfl | hm
      · exact .inr (List.mem_cons_self ..)
      · exact (ih hm).imp_right (List.mem_cons_of_mem _)

theorem put_of_not_mem (h : key ∉ entries.keys) : entries.put key a = entries ++ [(key, a)] := by
  induction entries with
  | nil => rfl
  | cons e rest ih =>
    rw [keys_cons, List.mem_cons, not_or] at h
    rw [put, if_neg (Ne.symm h.1), ih h.2, List.cons_append]

theorem keys_prefix_put : entries.keys <+: (entries.put key a).keys := by
  rw [keys_put]
  split
  · exact List.prefix_refl _
  · exact List.prefix_append _ _

theorem map_put {f : α → β} {old : α} (hold : entries.lookup? key = some old) (hf : f old = f a) :
    (entries.put key a).map (fun e => (e.1, f e.2)) = entries.map fun e => (e.1, f e.2) := by
  induction entries with
  | nil => cases hold
  | cons e rest ih =>
    by_cases he : e.1 = key
    · have hvalue : e.2 = old := by simpa [lookup?, he] using hold
      rw [put, if_pos he, List.map_cons, List.map_cons, hvalue, he, hf]
    · have hrest : lookup? key rest = some old := by simpa [lookup?, he] using hold
      rw [put, if_neg he, List.map_cons, List.map_cons, ih hrest]

theorem nodup_map_values_put {f : α → β} (hk : entries.keys.Nodup)
    (hn : (entries.values.map f).Nodup) (hf : ∀ e ∈ entries, e.1 ≠ key → f e.2 ≠ f a) :
    ((entries.put key a).values.map f).Nodup := by
  induction entries with
  | nil => simp [put, values]
  | cons e rest ih =>
    have hk' : e.1 ∉ keys rest ∧ (keys rest).Nodup := List.nodup_cons.mp hk
    have hn' : f e.2 ∉ (values rest).map f ∧ ((values rest).map f).Nodup := List.nodup_cons.mp hn
    have hr : ∀ x ∈ rest, x.1 ≠ key → f x.2 ≠ f a :=
      fun x hx => hf x (List.mem_cons_of_mem _ hx)
    by_cases he : e.1 = key
    · have hput : put key a (e :: rest) = (key, a) :: rest := by simp [put, he]
      rw [hput]
      refine List.nodup_cons.mpr ⟨?_, hn'.2⟩
      intro hm
      obtain ⟨b, hb, hfb⟩ := List.mem_map.mp hm
      obtain ⟨k, hb⟩ := mem_values_iff.mp hb
      have hkey : k ≠ key := by
        intro h
        rw [h, ← he] at hb
        exact hk'.1 (mem_keys_of_mem (e := (e.1, b)) hb)
      exact hr (k, b) hb hkey hfb
    · have hput : put key a (e :: rest) = e :: put key a rest := by simp [put, he]
      rw [hput]
      refine List.nodup_cons.mpr ⟨?_, ih hk'.2 hn'.2 hr⟩
      intro hm
      obtain ⟨b, hb, hfb⟩ := List.mem_map.mp hm
      obtain ⟨k, hb⟩ := mem_values_iff.mp hb
      rcases (mem_put_iff hk'.2).mp hb with hb | hb
      · have hab : b = a := congrArg Prod.snd hb
        rw [hab] at hfb
        exact hf e (List.mem_cons_self ..) he hfb.symm
      · exact hn'.1 (List.mem_map.mpr ⟨b, mem_values_iff.mpr ⟨k, hb.1⟩, hfb⟩)

/-! ### Taking entries out -/

theorem nodup_keys_filter (p : String × α → Bool) (hn : entries.keys.Nodup) :
    Keyed.keys (entries.filter p) |>.Nodup :=
  hn.sublist (List.filter_sublist.map _)

theorem mem_keys_remove {other : String} :
    other ∈ (entries.remove key).keys ↔ other ≠ key ∧ other ∈ entries.keys := by
  simp only [keys, remove, List.mem_map, List.mem_filter, ne_eq, decide_eq_true_eq]
  constructor
  · rintro ⟨e, ⟨he, hne⟩, rfl⟩
    exact ⟨hne, e, he, rfl⟩
  · rintro ⟨hne, e, he, rfl⟩
    exact ⟨e, ⟨he, hne⟩, rfl⟩

end StagedSql.Keyed
