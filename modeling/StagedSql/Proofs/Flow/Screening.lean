import StagedSql.Flow.Candidate
import StagedSql.Proofs.MintedId

/-!
# Ids of screened stages

A screened stage has the id that its candidate gives, or an id that was minted while screening.
-/

namespace StagedSql

theorem Record.Checked.seq_eq_good {α β : Type} {f : Checked (α → β)} {x : Checked α} {b : β}
    (h : (f <*> x) = .good b) : ∃ g a, f = .good g ∧ x = .good a ∧ b = g a := by
  have happly : apply f x = .good b := h
  cases f with
  | bad ps => cases x <;> cases happly
  | good g =>
    cases x with
    | bad ps => cases happly
    | good a => exact ⟨g, a, rfl, rfl, (Checked.good.inj happly).symm⟩

theorem Stage.read_id {id : Value} {rest : Fields} {stage : Stage}
    (h : Stage.read (("id", id) :: rest) = .good stage) : id = .text stage.id := by
  obtain ⟨withDescription, data, h, -, hstage⟩ := Record.Checked.seq_eq_good h
  obtain ⟨withKind, description, h, -, hdescription⟩ := Record.Checked.seq_eq_good h
  obtain ⟨withId, kind, h, -, hkind⟩ := Record.Checked.seq_eq_good h
  have hrequired : Stage.mk <$> Record.required Record.text "id" (("id", id) :: rest) =
      Stage.mk <$> (Record.text id).under (.name "id") := rfl
  rw [hrequired] at h
  cases id with
  | text given =>
    have hid := Record.Checked.good.inj h
    rw [hstage, hdescription, hkind, ← hid]
  | _ => cases h

namespace Flow

/-! ### Ids that are given -/

/-- The id that a candidate gives, if it is a text with content. -/
def givenId? : Value → Option String
  | .object fields => (Value.field fields "id").givenText?
  | _ => none

def keptIds (keepIds : Bool) (candidates : List Value) : List String :=
  if keepIds then candidates.filterMap givenId? else []

theorem keptIds_cons {keepIds : Bool} {c : Value} {rest : List Value} {p : String → Prop} :
    (∀ id ∈ keptIds keepIds (c :: rest), p id) ↔
      (keepIds = true → ∀ id, givenId? c = some id → p id) ∧ ∀ id ∈ keptIds keepIds rest, p id := by
  cases keepIds with
  | false => simp [keptIds]
  | true => cases hc : givenId? c <;> simp [keptIds, hc]

theorem mem_ids_of_mem_keptIds {stages : List Stage} {id : String} {record : Stage → Value}
    (hrecord : ∀ stage, givenId? (record stage) = (Value.text stage.id).givenText?)
    (h : id ∈ keptIds true (stages.map record)) : id ∈ stages.map (·.id) := by
  rw [keptIds, if_pos rfl, List.filterMap_map] at h
  obtain ⟨stage, hstage, hid⟩ := List.mem_filterMap.mp h
  rw [Function.comp_apply, hrecord] at hid
  simp only [Value.givenText?] at hid
  split at hid
  · cases hid
  · rw [← Option.some.inj hid]
    exact List.mem_map_of_mem hstage

/-! ### Screening -/

/-- What screening has made of ids: those of accepted stages are `kept` ones or were minted. -/
structure Screening.Traced (kept : List String) (start : Nat) (s : Screening) : Prop where
  le : start ≤ s.minted
  ids : ∀ stage ∈ s.accepted, stage.id ∈ kept ∨
    ∃ n, start < n ∧ n ≤ s.minted ∧ stage.id = Stage.mintedId n

theorem stageOfCandidate_minted (keepId : Bool) (minted : Nat) (candidate : Value) :
    minted ≤ (stageOfCandidate keepId minted candidate).2 := by
  cases candidate with
  | object fields =>
    simp only [stageOfCandidate]
    generalize (if (Value.field fields "data").isGiven then _ else _) = data
    generalize (if keepId then Value.field fields "id" else .null) = given
    split
    · exact Nat.le_refl _
    · split
      · exact Nat.le_refl _
      · dsimp only
        split <;> omega
  | _ => exact Nat.le_refl _

theorem stageOfCandidate_id {keepId : Bool} {minted m : Nat} {candidate : Value} {stage : Stage}
    (h : stageOfCandidate keepId minted candidate = (.ok stage, m)) :
    keepId = true ∧ givenId? candidate = some stage.id ∨
      stage.id = Stage.mintedId (minted + 1) ∧ m = minted + 1 := by
  cases candidate with
  | object fields =>
    simp only [stageOfCandidate] at h
    generalize (if (Value.field fields "data").isGiven then _ else _) = data at h
    generalize hgiven : (if keepId then Value.field fields "id" else .null) = given at h
    split at h
    · cases h
    · split at h
      · cases h
      · obtain ⟨hread, hminted⟩ := Prod.mk.inj h
        generalize hr : Stage.read _ = r at hread
        cases r with
        | bad ps => cases hread
        | good st =>
          obtain rfl : st = stage := Except.ok.inj hread
          have hid := Stage.read_id hr
          by_cases hg : given.isGiven
          · rw [if_pos hg] at hid
            cases keepId with
            | false =>
              obtain rfl : Value.null = given := hgiven
              cases hg
            | true =>
              have hfield : Value.field fields "id" = .text st.id := hgiven.trans hid
              have hne : st.id ≠ "" := by simpa [hid, Value.isGiven] using hg
              exact .inl ⟨rfl, by simp only [givenId?, hfield, Value.givenText?, if_neg hne]⟩
          · rw [if_neg hg] at hid hminted
            exact .inr ⟨(Value.text.inj hid).symm, hminted.symm⟩
  | _ => cases h

namespace Screening

section

variable {kept : List String} {start : Nat} {s : Screening} (h : s.Traced kept start)
include h

theorem Traced.mono {minted : Nat} (hle : s.minted ≤ minted) :
    { s with minted }.Traced kept start where
  le := Nat.le_trans h.le hle
  ids := by
    intro stage hstage
    refine (h.ids stage hstage).imp_right ?_
    rintro ⟨n, hlt, hn, hid⟩
    exact ⟨n, hlt, Nat.le_trans hn hle, hid⟩

theorem Traced.settle {t : Screening} (haccepted : t.accepted = s.accepted)
    (hle : s.minted ≤ t.minted) {stage : Stage} (reason : Dropped)
    (hid : stage.id ∈ kept ∨ ∃ n, start < n ∧ n ≤ t.minted ∧ stage.id = Stage.mintedId n) :
    (if stage.isComplete then { t with accepted := t.accepted ++ [stage] }
      else { t with dropped := t.dropped ++ [reason] }).Traced kept start := by
  have hnext := h.mono hle
  have hids : ∀ st ∈ t.accepted, st.id ∈ kept ∨
      ∃ n, start < n ∧ n ≤ t.minted ∧ st.id = Stage.mintedId n := by
    rw [haccepted]
    exact hnext.ids
  split
  · refine ⟨hnext.le, fun st hst => ?_⟩
    rcases List.mem_append.mp hst with hst | hst
    · exact hids st hst
    · rw [List.mem_singleton.mp hst]
      exact hid
  · exact ⟨hnext.le, hids⟩

theorem Traced.enrol (index : Int) (candidate : Value) {stage : Stage}
    (hid : stage.id ∈ kept ∨ ∃ n, start < n ∧ n ≤ s.minted ∧ stage.id = Stage.mintedId n) :
    (s.enrol index candidate stage).Traced kept start := by
  unfold Screening.enrol
  by_cases hclash : stage.id ∈ s.seen
  · simp only [if_pos hclash]
    refine h.settle (t := { s with minted := s.minted + 1, seen := _ }) rfl (Nat.le_succ _) _
      (.inr ?_)
    exact ⟨s.minted + 1, Nat.lt_succ_of_le h.le, Nat.le_refl _, rfl⟩
  · simp only [if_neg hclash]
    exact h.settle (t := { s with seen := s.seen ++ [stage.id] }) rfl (Nat.le_refl _) _ hid

theorem Traced.take {keepIds : Bool} {candidate : Value}
    (hkept : keepIds = true → ∀ id, givenId? candidate = some id → id ∈ kept) (index : Int) :
    (s.take keepIds index candidate).Traced kept start := by
  have hle := stageOfCandidate_minted keepIds s.minted candidate
  unfold Screening.take
  cases hc : stageOfCandidate keepIds s.minted candidate with
  | mk outcome minted =>
    rw [hc] at hle
    have hnext := h.mono hle
    cases outcome with
    | error reason => exact ⟨hnext.le, hnext.ids⟩
    | ok stage =>
      refine hnext.enrol index candidate ?_
      rcases stageOfCandidate_id hc with ⟨hkeep, hgiven⟩ | ⟨hid, hminted⟩
      · exact .inl (hkept hkeep _ hgiven)
      · refine .inr ⟨s.minted + 1, Nat.lt_succ_of_le h.le, ?_, hid⟩
        exact Nat.le_of_eq hminted.symm

end

theorem Traced.takeAll {keepIds : Bool} {candidates : List Value} {kept : List String}
    (hkept : ∀ id ∈ keptIds keepIds candidates, id ∈ kept) {start : Nat} {s : Screening}
    (h : s.Traced kept start) (index : Int) :
    (s.takeAll keepIds index candidates).Traced kept start := by
  induction candidates generalizing s index with
  | nil => exact h
  | cons c rest ih =>
    obtain ⟨hfirst, hrest⟩ := keptIds_cons.mp hkept
    exact ih hrest (h.take hfirst index) (index + 1)

end Screening

structure Screening.Distinct (s : Screening) : Prop where
  nodup : (s.accepted.map (·.id)).Nodup
  mem_seen : ∀ stage ∈ s.accepted, stage.id ∈ s.seen

namespace Screening

theorem Traced.mintedId_not_mem {kept : List String} {start : Nat} {s : Screening}
    (h : s.Traced kept start) (hkept : ∀ n, start < n → Stage.mintedId n ∉ kept) {n : Nat}
    (hn : s.minted < n) : Stage.mintedId n ∉ s.accepted.map (·.id) := by
  intro hmem
  obtain ⟨stage, hstage, hid⟩ := List.mem_map.mp hmem
  rcases h.ids stage hstage with hold | ⟨m, -, hm, hminted⟩
  · exact hkept n (Nat.lt_of_le_of_lt h.le hn) (hid ▸ hold)
  · have := Stage.mintedId_injective (hid.symm.trans hminted)
    omega

section

variable {s : Screening} (h : s.Distinct)
include h

theorem Distinct.settle {t : Screening} {stage : Stage} (haccepted : t.accepted = s.accepted)
    (hseen : t.seen = s.seen ++ [stage.id]) (reason : Dropped)
    (hid : stage.id ∉ s.accepted.map (·.id)) :
    (if stage.isComplete then { t with accepted := t.accepted ++ [stage] }
      else { t with dropped := t.dropped ++ [reason] }).Distinct := by
  have hold : ∀ st ∈ s.accepted, st.id ∈ t.seen := by
    intro st hst
    rw [hseen]
    exact List.mem_append_left _ (h.mem_seen st hst)
  split
  · refine ⟨?_, fun st hst => ?_⟩
    · dsimp only
      rw [haccepted, List.map_append, List.map_singleton]
      have hother : ∀ id ∈ s.accepted.map (·.id), id ≠ stage.id := fun id hmem heq =>
        hid (heq ▸ hmem)
      simpa [List.nodup_append, h.nodup] using hother
    · dsimp only at hst ⊢
      rw [haccepted] at hst
      rcases List.mem_append.mp hst with hst | hst
      · exact hold st hst
      · rw [List.mem_singleton.mp hst, hseen]
        exact List.mem_append_right _ (List.mem_singleton_self _)
  · refine ⟨?_, fun st hst => ?_⟩
    · dsimp only
      rw [haccepted]
      exact h.nodup
    · exact hold st (haccepted ▸ hst)

theorem Distinct.enrol (index : Int) (candidate : Value) (stage : Stage)
    (hnext : Stage.mintedId (s.minted + 1) ∉ s.accepted.map (·.id)) :
    (s.enrol index candidate stage).Distinct := by
  unfold Screening.enrol
  by_cases hclash : stage.id ∈ s.seen
  · simp only [if_pos hclash]
    exact h.settle (t := { s with minted := s.minted + 1, seen := _ }) rfl rfl _ hnext
  · simp only [if_neg hclash]
    refine h.settle (t := { s with seen := s.seen ++ [stage.id] }) rfl rfl _ fun hmem => ?_
    obtain ⟨st, hst, hid⟩ := List.mem_map.mp hmem
    exact hclash (hid ▸ h.mem_seen st hst)

theorem Distinct.take {kept : List String} {start : Nat} (htraced : s.Traced kept start)
    (hkept : ∀ n, start < n → Stage.mintedId n ∉ kept) (keepIds : Bool) (index : Int)
    (candidate : Value) : (s.take keepIds index candidate).Distinct := by
  have hle := stageOfCandidate_minted keepIds s.minted candidate
  unfold Screening.take
  cases hc : stageOfCandidate keepIds s.minted candidate with
  | mk outcome minted =>
    rw [hc] at hle
    have hnext : Distinct { s with minted } := ⟨h.nodup, h.mem_seen⟩
    cases outcome with
    | error reason => exact ⟨hnext.nodup, hnext.mem_seen⟩
    | ok stage =>
      exact hnext.enrol index candidate stage
        ((htraced.mono hle).mintedId_not_mem hkept (Nat.lt_succ_self minted))

end

theorem Distinct.takeAll {keepIds : Bool} {candidates : List Value} {kept : List String}
    (hmem : ∀ id ∈ keptIds keepIds candidates, id ∈ kept) {start : Nat}
    (hkept : ∀ n, start < n → Stage.mintedId n ∉ kept) {s : Screening} (h : s.Distinct)
    (htraced : s.Traced kept start) (index : Int) :
    (s.takeAll keepIds index candidates).Distinct := by
  induction candidates generalizing s index with
  | nil => exact h
  | cons c rest ih =>
    obtain ⟨hfirst, hrest⟩ := keptIds_cons.mp hmem
    exact ih hrest (h.take htraced hkept keepIds index c) (htraced.take hfirst index) (index + 1)

end Screening

/-- A screened stage has an id that its candidates keep, or one that was minted since. -/
theorem screen_traced (keepIds : Bool) (index : Int) (minted : Nat) (candidates : List Value) :
    (screen keepIds index minted candidates).Traced (keptIds keepIds candidates) minted := by
  have hstart : (Screening.mk [] [] [] minted).Traced (keptIds keepIds candidates) minted := by
    refine ⟨Nat.le_refl _, fun stage hstage => ?_⟩
    cases hstage
  exact hstart.takeAll (fun _ hid => hid) index

theorem mintedId_ne_of_screened {keepIds : Bool} {index : Int} {minted n : Nat}
    {candidates : List Value} {stage : Stage}
    (hkept : ∀ m, minted < m → Stage.mintedId m ∉ keptIds keepIds candidates)
    (hstage : stage ∈ (screen keepIds index minted candidates).accepted)
    (hn : (screen keepIds index minted candidates).minted < n) : Stage.mintedId n ≠ stage.id := by
  have htraced := screen_traced keepIds index minted candidates
  intro heq
  exact htraced.mintedId_not_mem hkept hn (heq ▸ List.mem_map_of_mem hstage)

theorem nodup_ids_screened {keepIds : Bool} {index : Int} {minted : Nat} {candidates : List Value}
    (hkept : ∀ n, minted < n → Stage.mintedId n ∉ keptIds keepIds candidates) :
    ((screen keepIds index minted candidates).accepted.map (·.id)).Nodup := by
  have hstart : (Screening.mk [] [] [] minted).Distinct :=
    ⟨List.nodup_nil, fun _ hst => absurd hst List.not_mem_nil⟩
  exact (hstart.takeAll (fun _ hid => hid) hkept
    ⟨Nat.le_refl _, fun _ hst => absurd hst List.not_mem_nil⟩ index).nodup

end Flow

end StagedSql
