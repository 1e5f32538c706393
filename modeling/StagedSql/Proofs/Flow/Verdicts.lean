import StagedSql.Proofs.Flow.Interchange

/-!
# What becomes of each candidate

Screening loses no candidate. Each one is accepted as the stage that it describes, or it is dropped with
its position and itself. A candidate keeps the id that it gives unless an earlier candidate has it.
-/

namespace StagedSql

open Record

/-! ### Reading a record of a stage -/

theorem Record.Checked.under_eq_good_iff {α : Type} {x : Checked α} {step : Step} {a : α} :
    x.under step = .good a ↔ x = .good a := by
  cases x <;> simp [Checked.under]

theorem Record.text_eq_good_iff {v : Value} {s : String} :
    Record.text v = .good s ↔ v = .text s := by
  cases v <;> simp [Record.text, Checked.problem]

theorem Record.object_eq_good_iff {v : Value} {fields : Fields} :
    Record.object v = .good fields ↔ v = .object fields := by
  cases v <;> simp [Record.object, Checked.problem]

theorem StageKind.ofLooseName?_eq_some_iff {s : String} {k : StageKind} :
    ofLooseName? s = some k ↔ k.name = Text.upper (Text.stripped s) := by
  constructor
  · exact name_of_ofName?
  · intro h
    rw [ofLooseName?, ← h, ofName?_name]

namespace Stage

theorem readKind_eq_good_iff {v : Value} {k : StageKind} :
    readKind v = .good k ↔ v = .text k.name := by
  constructor
  · intro h
    unfold readKind at h
    split at h
    · next s =>
      split at h
      · next other hk =>
        cases h
        rw [StageKind.name_of_ofName? hk]
      · cases h
    · cases h
  · rintro rfl
    simp only [readKind, StageKind.ofName?_name]

theorem read_eq_good_iff {id type description data : Value} {stage : Stage} :
    read [("id", id), ("type", type), ("description", description), ("data", data)] = .good stage ↔
      id = .text stage.id ∧ type = .text stage.kind.name ∧
        description = .text stage.description ∧ data = .object stage.data := by
  constructor
  · intro h
    refine ⟨read_id h, ?_⟩
    obtain ⟨hid, htype, hdescription, hdata⟩ := Flow.lookup?_record id type description data
    simp only [read, required, defaulted, hid, htype, hdescription, hdata] at h
    obtain ⟨withDescription, fields, h, hfields, hstage⟩ := Checked.seq_eq_good h
    obtain ⟨withKind, text, h, htext, hdescribed⟩ := Checked.seq_eq_good h
    obtain ⟨withId, kind, h, hkind, hnamed⟩ := Checked.seq_eq_good h
    rw [Checked.under_eq_good_iff] at hfields htext hkind
    have hmk : ∃ a, withId = Stage.mk a := by
      cases hr : (Record.text id).under (.name "id") with
      | bad ps =>
        rw [hr] at h
        cases h
      | good a =>
        rw [hr] at h
        exact ⟨a, (Checked.good.inj h).symm⟩
    obtain ⟨a, ha⟩ := hmk
    rw [hdescribed, hnamed, ha] at hstage
    rw [hstage]
    exact ⟨readKind_eq_good_iff.mp hkind, text_eq_good_iff.mp htext, object_eq_good_iff.mp hfields⟩
  · rintro ⟨rfl, rfl, rfl, rfl⟩
    exact Flow.read_record stage

end Stage

def Value.givenOr (v other : Value) : Value := if v.isGiven then v else other

theorem Value.givenOr_of_givenText? {v : Value} {text : String} (h : v.givenText? = some text)
    (other : Value) : v.givenOr other = .text text := by
  cases v with
  | text s =>
    simp only [givenText?] at h
    split at h
    · cases h
    · next hne =>
      obtain rfl := Option.some.inj h
      simp [givenOr, isGiven, hne]
  | _ => cases h

namespace Flow

/-! ### Candidates as stages -/

/-- The stage has the kind that the candidate names in letters of either case, and the candidate's
description and payload. They are empty if the candidate gives none. -/
inductive Describes : Value → Stage → Prop
  | intro {fields : Fields} {stage : Stage}
      (kind : stage.kind.name = Text.upper (Text.stripped (Value.field fields "type").display))
      (description : (Value.field fields "description").givenOr (.text "") = .text stage.description)
      (data : (Value.field fields "data").givenOr (.object []) = .object stage.data) :
      Describes (.object fields) stage

theorem Describes.withId {c : Value} {stage : Stage} (h : Describes c stage) (id : String) :
    Describes c { stage with id } := by
  cases h with
  | intro kind description data => exact .intro kind description data

/-- The id that a candidate brings along, of whatever kind; null if ids are not kept. -/
def keptId (keepIds : Bool) : Value → Value
  | .object fields => if keepIds then Value.field fields "id" else .null
  | _ => .null

theorem givenText?_keptId (c : Value) : (keptId true c).givenText? = givenId? c := by
  cases c <;> rfl

/-- The candidate can be read as the stage: it describes it, and an id that it brings along is a text,
the id of the stage. -/
structure Converts (keepIds : Bool) (c : Value) (stage : Stage) : Prop where
  describes : Describes c stage
  id_eq : (keptId keepIds c).isGiven = true → keptId keepIds c = .text stage.id

/-- A candidate becomes the stage that it describes, under the id that it keeps or under one that is
minted. -/
theorem stageOfCandidate_eq_ok_iff {keepIds : Bool} {minted m : Nat} {c : Value} {stage : Stage} :
    stageOfCandidate keepIds minted c = (.ok stage, m) ↔ Describes c stage ∧
      (keptId keepIds c).givenOr (.text (Stage.mintedId (minted + 1))) = .text stage.id ∧
      m = if (keptId keepIds c).isGiven then minted else minted + 1 := by
  cases c with
  | object fields =>
    have hkept : keptId keepIds (.object fields) =
        if keepIds then Value.field fields "id" else .null := rfl
    have hgiven : ∀ v other : Value, (if v.isGiven then v else other) = v.givenOr other :=
      fun _ _ => rfl
    simp only [stageOfCandidate, ← hkept, hgiven]
    generalize keptId keepIds (.object fields) = kept
    constructor
    · intro h
      split at h
      · cases h
      next k hk =>
      split at h
      · cases h
      obtain ⟨hstage, hm⟩ := Prod.mk.inj h
      generalize hr : Stage.read _ = r at hstage
      cases r with
      | bad ps => cases hstage
      | good read =>
        obtain rfl : read = stage := Except.ok.inj hstage
        obtain ⟨hid, hkind, hdescription, hdata⟩ := Stage.read_eq_good_iff.mp hr
        exact ⟨.intro (Value.text.inj hkind ▸ StageKind.ofLooseName?_eq_some_iff.mp hk) hdescription
          hdata, hid, hm.symm⟩
    · rintro ⟨⟨hkind, hdescription, hdata⟩, hid, rfl⟩
      have hread := Stage.read_eq_good_iff.mpr ⟨hid, rfl, hdescription, hdata⟩
      have hobject : (Value.object stage.data).object?.isNone = false := rfl
      rw [StageKind.ofLooseName?_eq_some_iff.mpr hkind]
      dsimp only
      rw [hread, hdata, hobject]
      rfl
  | _ =>
    constructor
    · intro h
      cases h
    · rintro ⟨⟨⟩, -⟩

theorem Converts.of_stageOfCandidate {keepIds : Bool} {minted m : Nat} {c : Value} {stage : Stage}
    (h : stageOfCandidate keepIds minted c = (.ok stage, m)) : Converts keepIds c stage := by
  obtain ⟨hdescribes, hid, -⟩ := stageOfCandidate_eq_ok_iff.mp h
  exact ⟨hdescribes, fun hgiven => by rwa [Value.givenOr, if_pos hgiven] at hid⟩

theorem exists_stageOfCandidate_iff {keepIds : Bool} {minted : Nat} {c : Value} :
    (∃ stage m, stageOfCandidate keepIds minted c = (.ok stage, m)) ↔
      ∃ stage, Converts keepIds c stage := by
  constructor
  · rintro ⟨stage, m, h⟩
    exact ⟨stage, .of_stageOfCandidate h⟩
  · rintro ⟨stage, hdescribes, hid⟩
    by_cases hgiven : (keptId keepIds c).isGiven = true
    · refine ⟨stage, _, stageOfCandidate_eq_ok_iff.mpr ⟨hdescribes, ?_, rfl⟩⟩
      rw [Value.givenOr, if_pos hgiven, hid hgiven]
    · refine ⟨_, _, stageOfCandidate_eq_ok_iff.mpr
        ⟨hdescribes.withId (Stage.mintedId (minted + 1)), ?_, rfl⟩⟩
      rw [Value.givenOr, if_neg hgiven]

/-! ### Verdicts -/

inductive Verdict where
  | accepted (stage : Stage)
  | dropped (entry : Dropped)

namespace Verdict

def accepted? : Verdict → Option Stage
  | accepted stage => some stage
  | dropped _ => none

def dropped? : Verdict → Option Dropped
  | accepted _ => none
  | dropped entry => some entry

end Verdict

/-- A candidate as an object: one that is none becomes the value of an object. -/
def asObject : Value → Value
  | .object fields => .object fields
  | v => .object [("value", v)]

/-- A candidate at `index` is judged after the `earlier` ones. -/
inductive Judged (keepIds : Bool) (earlier : List Value) (index : Int) (c : Value) : Verdict → Prop
  /-- The stage is complete and is what the candidate describes. The candidate keeps the id that it
  gives if and only if none of the earlier candidates that became stages gives it. -/
  | accepted (stage : Stage) (complete : stage.isComplete) (describes : Describes c stage)
      (keeps : keepIds = true → ∀ id, givenId? c = some id →
        (stage.id = id ↔ ∀ e ∈ earlier, (∃ st, Converts keepIds e st) → givenId? e ≠ some id)) :
      Judged keepIds earlier index c (.accepted stage)
  /-- The candidate is no stage, or a stage that lacks a required field. -/
  | dropped (entry : Dropped)
      (record : entry.toValue = .object [("index", .int index),
        ("reason", .text entry.reason.message), ("candidate", asObject c)])
      (cause : (∀ stage, ¬ Converts keepIds c stage) ∨ ∃ stage, Converts keepIds c stage ∧
        stage.isComplete = false ∧ entry.reason = .incomplete stage.kind stage.missingFields) :
      Judged keepIds earlier index c (.dropped entry)

/-! ### One candidate -/

def Verdict.ofStage (index : Int) (c : Value) (stage : Stage) : Verdict :=
  if stage.isComplete then .accepted stage
  else .dropped ⟨index, .incomplete stage.kind stage.missingFields, c⟩

namespace Screening

def renamed (s : Screening) (stage : Stage) : Stage :=
  if stage.id ∈ s.seen then { stage with id := Stage.mintedId (s.minted + 1) } else stage

theorem enrol_eq (s : Screening) (index : Int) (c : Value) (stage : Stage) :
    s.enrol index c stage =
      { accepted := s.accepted ++ (Verdict.ofStage index c (s.renamed stage)).accepted?.toList
        dropped := s.dropped ++ (Verdict.ofStage index c (s.renamed stage)).dropped?.toList
        seen := s.seen ++ [(s.renamed stage).id]
        minted := if stage.id ∈ s.seen then s.minted + 1 else s.minted } := by
  unfold enrol
  show (if (s.renamed stage).isComplete then
    Screening.mk (s.accepted ++ [s.renamed stage]) s.dropped (s.seen ++ [(s.renamed stage).id]) _
    else Screening.mk s.accepted (s.dropped ++ [⟨index, .incomplete (s.renamed stage).kind
      (s.renamed stage).missingFields, c⟩]) (s.seen ++ [(s.renamed stage).id]) _) = _
  generalize s.renamed stage = taken
  cases hcomplete : taken.isComplete <;>
    simp [Verdict.ofStage, Verdict.accepted?, Verdict.dropped?, hcomplete]

/-- A stage is renamed to an id that is yet to be minted, or not at all. -/
theorem renamed_cases (s : Screening) (stage : Stage) :
    stage.id ∈ s.seen ∧ s.renamed stage = { stage with id := Stage.mintedId (s.minted + 1) } ∨
      stage.id ∉ s.seen ∧ s.renamed stage = stage := by
  by_cases hseen : stage.id ∈ s.seen
  · exact .inl ⟨hseen, if_pos hseen⟩
  · exact .inr ⟨hseen, if_neg hseen⟩

/-- Of the ids that are never minted after `start`, exactly those have been seen that one of the
candidates so far gives and keeps as a stage. -/
structure Remembers (keepIds : Bool) (start : Nat) (earlier : List Value) (s : Screening) : Prop where
  le : start ≤ s.minted
  mem_seen_iff : ∀ id, (∀ n, start < n → Stage.mintedId n ≠ id) →
    (id ∈ s.seen ↔ keepIds = true ∧
      ∃ e ∈ earlier, (∃ st, Converts keepIds e st) ∧ givenId? e = some id)

section

variable {keepIds : Bool} {start : Nat} {earlier : List Value} {s : Screening}
  (h : s.Remembers keepIds start earlier)
include h

theorem Remembers.not_mem_seen_iff (hkeep : keepIds = true) {id : String}
    (hnew : ∀ n, start < n → Stage.mintedId n ≠ id) :
    id ∉ s.seen ↔ ∀ e ∈ earlier, (∃ st, Converts keepIds e st) → givenId? e ≠ some id := by
  rw [h.mem_seen_iff id hnew]
  simp only [hkeep, true_and, not_exists, not_and, ne_eq]

theorem Remembers.pass {c : Value} (hnone : ∀ stage, ¬ Converts keepIds c stage) {t : Screening}
    (hseen : t.seen = s.seen) (hle : s.minted ≤ t.minted) :
    t.Remembers keepIds start (earlier ++ [c]) where
  le := Nat.le_trans h.le hle
  mem_seen_iff := by
    intro id hid
    have hsame : (∃ st, Converts keepIds c st) ↔ False := by simpa using hnone
    rw [hseen, h.mem_seen_iff id hid]
    simp only [List.mem_append, List.mem_singleton, or_and_right, exists_or, exists_eq_left, hsame,
      false_and, or_false]

/-- A stage has an id that is never minted after `start` only if its candidate gives that id. -/
theorem Remembers.id_eq_iff {c : Value} {stage : Stage} {m : Nat}
    (hc : stageOfCandidate keepIds s.minted c = (.ok stage, m)) {id : String}
    (hid : ∀ n, start < n → Stage.mintedId n ≠ id) :
    stage.id = id ↔ keepIds = true ∧ givenId? c = some id := by
  constructor
  · rintro rfl
    rcases stageOfCandidate_id hc with hkept | ⟨hminted, -⟩
    · exact hkept
    · exact absurd hminted.symm (hid _ (Nat.lt_succ_of_le h.le))
  · rintro ⟨rfl, hgiven⟩
    obtain ⟨-, hstage, -⟩ := stageOfCandidate_eq_ok_iff.mp hc
    rw [Value.givenOr_of_givenText? ((givenText?_keptId c).trans hgiven)] at hstage
    exact (Value.text.inj hstage).symm

theorem Remembers.keep {c : Value} {stage : Stage} {m : Nat}
    (hc : stageOfCandidate keepIds s.minted c = (.ok stage, m)) (hle : s.minted ≤ m) {t : Screening}
    (hseen : t.seen = s.seen ++ [({ s with minted := m }.renamed stage).id]) (hmore : m ≤ t.minted) :
    t.Remembers keepIds start (earlier ++ [c]) where
  le := Nat.le_trans h.le (Nat.le_trans hle hmore)
  mem_seen_iff := by
    intro id hid
    have hconverts : (∃ st, Converts keepIds c st) ↔ True :=
      iff_true_intro (exists_stageOfCandidate_iff.mp ⟨stage, m, hc⟩)
    have htaken : id ∈ t.seen ↔ id ∈ s.seen ∨ stage.id = id := by
      rw [hseen, List.mem_append, List.mem_singleton]
      rcases renamed_cases { s with minted := m } stage with ⟨hclash, hrenamed⟩ | ⟨hfree, hrenamed⟩
      · have hother : Stage.mintedId (m + 1) ≠ id :=
          hid _ (Nat.lt_succ_of_le (Nat.le_trans h.le hle))
        rw [hrenamed]
        constructor
        · rintro (hold | rfl)
          · exact .inl hold
          · exact absurd rfl hother
        · rintro (hold | rfl)
          · exact .inl hold
          · exact .inl hclash
      · rw [hrenamed, eq_comm]
    rw [htaken, h.id_eq_iff hc hid, h.mem_seen_iff id hid]
    simp only [List.mem_append, List.mem_singleton, or_and_right, exists_or, exists_eq_left, hconverts,
      true_and, and_or_left]

theorem Remembers.judged {c : Value} {stage : Stage} {m : Nat}
    (hnew : keepIds = true → ∀ id, givenId? c = some id → ∀ n, start < n → Stage.mintedId n ≠ id)
    (hc : stageOfCandidate keepIds s.minted c = (.ok stage, m)) (index : Int) :
    Judged keepIds earlier index c (.ofStage index c ({ s with minted := m }.renamed stage)) := by
  have hconverts := Converts.of_stageOfCandidate hc
  have hrenamed := renamed_cases { s with minted := m } stage
  generalize renamed _ stage = taken at hrenamed
  have hcontent : taken = { stage with id := taken.id } := by
    rcases hrenamed with ⟨-, rfl⟩ | ⟨-, rfl⟩ <;> rfl
  cases hcomplete : taken.isComplete with
  | true =>
    rw [Verdict.ofStage, if_pos hcomplete]
    refine .accepted taken hcomplete (hcontent ▸ hconverts.describes.withId taken.id) ?_
    intro hkeep id hgiven
    have hid := hnew hkeep id hgiven
    obtain rfl := (h.id_eq_iff hc hid).mpr ⟨hkeep, hgiven⟩
    rw [← h.not_mem_seen_iff hkeep hid]
    rcases hrenamed with ⟨hclash, rfl⟩ | ⟨hfree, rfl⟩
    · have hlt : start < m + 1 := Nat.lt_succ_of_le
        (Nat.le_trans h.le (by simpa only [hc] using stageOfCandidate_minted keepIds s.minted c))
      exact ⟨fun heq => absurd heq (hid _ hlt), fun hfree => absurd hclash hfree⟩
    · exact ⟨fun _ => hfree, fun _ => rfl⟩
  | false =>
    rw [Verdict.ofStage, if_neg (by simp [hcomplete])]
    refine .dropped _ ?_ (.inr ⟨stage, hconverts, ?_, ?_⟩)
    · cases c <;> rfl
    · rw [hcontent] at hcomplete
      exact hcomplete
    · rw [hcontent]
      rfl

/-- A candidate is judged, and what is remembered then includes it. -/
theorem Remembers.take {c : Value}
    (hnew : keepIds = true → ∀ id, givenId? c = some id → ∀ n, start < n → Stage.mintedId n ≠ id)
    (index : Int) :
    ∃ v, Judged keepIds earlier index c v ∧
      (s.take keepIds index c).accepted = s.accepted ++ v.accepted?.toList ∧
      (s.take keepIds index c).dropped = s.dropped ++ v.dropped?.toList ∧
      (s.take keepIds index c).Remembers keepIds start (earlier ++ [c]) := by
  have hle := stageOfCandidate_minted keepIds s.minted c
  have hconverts : (∃ stage m, stageOfCandidate keepIds s.minted c = (.ok stage, m)) ↔ _ :=
    exists_stageOfCandidate_iff
  unfold Screening.take
  cases hc : stageOfCandidate keepIds s.minted c with
  | mk outcome minted =>
  rw [hc] at hle
  cases outcome with
  | error reason =>
    have hnone : ∀ stage, ¬ Converts keepIds c stage := by
      intro stage hstage
      obtain ⟨st, m, hst⟩ := hconverts.mpr ⟨stage, hstage⟩
      rw [hc] at hst
      cases hst
    refine ⟨.dropped ⟨index, reason, c⟩, .dropped _ ?_ (.inl hnone), by simp [drop, Verdict.accepted?],
      rfl, h.pass hnone rfl hle⟩
    cases c <;> rfl
  | ok stage =>
    dsimp only
    rw [enrol_eq]
    exact ⟨_, h.judged hnew hc index, rfl, rfl, h.keep hc hle rfl (by dsimp only; split <;> omega)⟩

end

theorem Remembers.takeAll {keepIds : Bool} {start : Nat} {candidates earlier : List Value}
    {s : Screening} (h : s.Remembers keepIds start earlier)
    (hnew : ∀ id ∈ keptIds keepIds candidates, ∀ n, start < n → Stage.mintedId n ≠ id)
    (index : Int) :
    ∃ verdicts : List Verdict, verdicts.length = candidates.length ∧
      (s.takeAll keepIds index candidates).accepted =
        s.accepted ++ verdicts.filterMap Verdict.accepted? ∧
      (s.takeAll keepIds index candidates).dropped = s.dropped ++ verdicts.filterMap Verdict.dropped? ∧
      ∀ i c v, candidates[i]? = some c → verdicts[i]? = some v →
        Judged keepIds (earlier ++ candidates.take i) (index + i) c v := by
  induction candidates generalizing s earlier index with
  | nil => exact ⟨[], rfl, by simp [Screening.takeAll], by simp [Screening.takeAll], by simp⟩
  | cons c rest ih =>
    obtain ⟨hfirst, hrest⟩ := keptIds_cons.mp hnew
    obtain ⟨v, hjudged, haccepted, hdropped, hnext⟩ := h.take hfirst index
    obtain ⟨verdicts, hlength, haccepteds, hdroppeds, hall⟩ := ih hnext hrest (index + 1)
    refine ⟨v :: verdicts, by simp [hlength], ?_, ?_, ?_⟩
    · rw [Screening.takeAll, haccepteds, haccepted, List.append_assoc, List.filterMap_cons]
      cases v.accepted? <;> rfl
    · rw [Screening.takeAll, hdroppeds, hdropped, List.append_assoc, List.filterMap_cons]
      cases v.dropped? <;> rfl
    · intro i d w hd hw
      cases i with
      | zero =>
        obtain rfl := Option.some.inj hd
        obtain rfl := Option.some.inj hw
        simpa using hjudged
      | succ i =>
        have hindex : index + ((i + 1 : Nat) : Int) = index + 1 + i := by omega
        rw [hindex, List.take_succ_cons, List.append_cons]
        exact hall i d w hd hw

end Screening

/-! ### Positions -/

namespace Screening

def shifted (s : Screening) (offset : Int) : Screening :=
  { s with dropped := s.dropped.map fun d => { d with index := d.index + offset } }

theorem take_shifted (keepIds : Bool) (s : Screening) (offset index : Int) (c : Value) :
    (s.shifted offset).take keepIds (index + offset) c = (s.take keepIds index c).shifted offset := by
  have hseen : (s.shifted offset).minted = s.minted := rfl
  unfold Screening.take
  rw [hseen]
  cases stageOfCandidate keepIds s.minted c with
  | mk outcome minted =>
    cases outcome with
    | error reason => simp [drop, shifted]
    | ok stage =>
      unfold enrol
      dsimp only
      split <;> split <;> simp_all [shifted, drop]

theorem takeAll_shifted (keepIds : Bool) (s : Screening) (offset index : Int)
    (candidates : List Value) :
    (s.shifted offset).takeAll keepIds (index + offset) candidates =
      (s.takeAll keepIds index candidates).shifted offset := by
  induction candidates generalizing s index with
  | nil => rfl
  | cons c rest ih =>
    have hindex : index + offset + 1 = index + 1 + offset := by omega
    rw [takeAll, takeAll, take_shifted, hindex, ih]

end Screening

theorem screen_shifted (keepIds : Bool) (start : Int) (minted : Nat) (candidates : List Value) :
    screen keepIds start minted candidates = (screen keepIds 0 minted candidates).shifted start := by
  have h := Screening.takeAll_shifted keepIds ⟨[], [], [], minted⟩ start 0 candidates
  rw [Int.zero_add] at h
  exact h

theorem screenFrom_int (keepIds : Bool) (start : Int) (candidates : List Value) :
    screenFrom keepIds (.int start) candidates = .ok (screen keepIds start 0 candidates) := by
  unfold screenFrom
  dsimp only
  split
  · next hnone => rw [screen_shifted keepIds start, Screening.shifted, hnone, List.map_nil, ← hnone]
  · rfl

/-- Screening never fails, and every candidate gets one verdict, in order: the accepted stages and the
dropped entries are those of the verdicts. Accepted stages have ids of their own. -/
theorem screen_splits {keepIds : Bool} {start : Int} {minted : Nat} {candidates : List Value}
    (hnew : ∀ n, minted < n → Stage.mintedId n ∉ keptIds keepIds candidates) :
    screenFrom keepIds (.int start) candidates = .ok (screen keepIds start 0 candidates) ∧
      ((screen keepIds start minted candidates).accepted.map (·.id)).Nodup ∧
      ∃ verdicts : List Verdict, verdicts.length = candidates.length ∧
        (screen keepIds start minted candidates).accepted = verdicts.filterMap Verdict.accepted? ∧
        (screen keepIds start minted candidates).dropped = verdicts.filterMap Verdict.dropped? ∧
        ∀ i c v, candidates[i]? = some c → verdicts[i]? = some v →
          Judged keepIds (candidates.take i) (start + i) c v := by
  refine ⟨screenFrom_int keepIds start candidates, nodup_ids_screened hnew, ?_⟩
  have hstart : (Screening.mk [] [] [] minted).Remembers keepIds minted [] :=
    ⟨Nat.le_refl _, fun id _ => by simp⟩
  exact hstart.takeAll (fun id hid n hn heq => hnew n hn (heq ▸ hid)) start

def assorted : List Value :=
  [.object [("id", .text "a"), ("type", .text " custom "), ("data", .object [("sql", .text "SELECT 1")])],
    .int 5,
    .object [("id", .text "a"), ("type", .text "LOAD"), ("description", .bool false)],
    .object [("id", .text "b"), ("type", .text "CUSTOM"), ("data", .null)]]

theorem assorted_splits :
    (∀ n, 0 < n → Stage.mintedId n ∉ keptIds true assorted) ∧
      (screen true (-1) 0 assorted).accepted.map (·.id) = ["a", Stage.mintedId 1] ∧
      (screen true (-1) 0 assorted).dropped.map (·.index) = [0, 2] ∧
      screenFrom true (.int (-1)) assorted = .ok (screen true (-1) 0 assorted) ∧
      ((screen true (-1) 0 assorted).accepted.map (·.id)).Nodup ∧
      ∃ verdicts : List Verdict, verdicts.length = assorted.length ∧
        (screen true (-1) 0 assorted).accepted = verdicts.filterMap Verdict.accepted? ∧
        (screen true (-1) 0 assorted).dropped = verdicts.filterMap Verdict.dropped? ∧
        ∀ i c v, assorted[i]? = some c → verdicts[i]? = some v →
          Judged true (assorted.take i) (-1 + i) c v := by
  have hnew : ∀ n, 0 < n → Stage.mintedId n ∉ keptIds true assorted := by
    have hids : keptIds true assorted = ["a", "a", "b"] := by decide +kernel
    exact fun n _ => hids ▸ Stage.mintedId_not_mem_of_short (by decide) n
  exact ⟨hnew, by decide +kernel, by decide +kernel, screen_splits hnew⟩

end Flow

end StagedSql
