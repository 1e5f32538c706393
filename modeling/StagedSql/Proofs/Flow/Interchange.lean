import StagedSql.Flow.Export
import StagedSql.Proofs.Flow.Screening
import StagedSql.Proofs.TableName

/-!
# Stages through the interchange form

A stage that is written as a record and screened comes back, if its id is not empty and no other stage
has that id. The interchange form changes a payload only where it holds a number that is not finite.
An exported flow brings back all of a stage but its id.
-/

namespace StagedSql

namespace Value

mutual

theorem interchange_interchange (v : Value) : v.interchange.interchange = v.interchange := by
  cases v with
  | float x =>
    by_cases hx : x.isFinite
    · simp [interchange, hx]
    · simp [interchange, hx]
  | list items => simp only [interchange, interchangeItems_interchangeItems items]
  | object fields => simp only [interchange, interchangeFields_interchangeFields fields]
  | null | bool b | int i | text s => rfl

theorem interchangeItems_interchangeItems (items : List Value) :
    interchangeItems (interchangeItems items) = interchangeItems items := by
  cases items with
  | nil => rfl
  | cons v rest =>
    simp only [interchangeItems, interchange_interchange v, interchangeItems_interchangeItems rest]

theorem interchangeFields_interchangeFields (fields : List (String × Value)) :
    interchangeFields (interchangeFields fields) = interchangeFields fields := by
  cases fields with
  | nil => rfl
  | cons f rest =>
    simp only [interchangeFields, interchange_interchange f.2,
      interchangeFields_interchangeFields rest]

end

theorem interchange_eq_text_iff {v : Value} {s : String} : v.interchange = .text s ↔ v = .text s := by
  cases v with
  | float x =>
    by_cases hx : x.isFinite
    · simp [interchange, hx]
    · simp [interchange, hx]
  | null | bool b | int i | text t | list items | object fields => simp [interchange]

theorem field_interchangeFields (fields : Fields) (key : String) :
    field (interchangeFields fields) key = (field fields key).interchange := by
  induction fields with
  | nil => rfl
  | cons f rest ih =>
    by_cases hk : f.1 = key
    · simp [field, interchangeFields, Keyed.lookup?, hk]
    · simpa [field, interchangeFields, Keyed.lookup?, hk] using ih

end Value

namespace Stage

def interchanged (s : Stage) : Stage := { s with data := Value.interchangeFields s.data }

@[simp] theorem interchanged_id (s : Stage) : s.interchanged.id = s.id := rfl

@[simp] theorem interchanged_kind (s : Stage) : s.interchanged.kind = s.kind := rfl

theorem interchanged_interchanged (s : Stage) : s.interchanged.interchanged = s.interchanged := by
  simp only [interchanged, Value.interchangeFields_interchangeFields]

theorem toValue_interchange (s : Stage) : s.toValue.interchange = s.interchanged.toValue := by
  simp only [toValue, interchanged, Value.interchange, Value.interchangeFields]

theorem entry_interchanged (s : Stage) (key : String) :
    s.interchanged.entry key = (s.entry key).interchange :=
  Value.field_interchangeFields s.data key

def content (s : Stage) : StageKind × String × Fields := (s.kind, s.description, s.data)

end Stage

namespace Flow

/-! ### Records of stages as candidates -/

theorem ofLooseName?_name (kind : StageKind) : StageKind.ofLooseName? kind.name = some kind := by
  cases kind <;> decide +kernel

theorem lookup?_record (id type description data : Value) :
    let fields : Fields := [("id", id), ("type", type), ("description", description), ("data", data)]
    fields.lookup? "id" = some id ∧ fields.lookup? "type" = some type ∧
      fields.lookup? "description" = some description ∧ fields.lookup? "data" = some data := by
  simp [Keyed.lookup?]

theorem read_record (s : Stage) :
    Stage.read [("id", .text s.id), ("type", .text s.kind.name),
      ("description", .text s.description), ("data", .object s.data)] = .good s := by
  obtain ⟨hid, htype, hdescription, hdata⟩ := lookup?_record (.text s.id) (.text s.kind.name)
    (.text s.description) (.object s.data)
  have hkind : Stage.readKind (.text s.kind.name) = .good s.kind := by
    simp only [Stage.readKind, StageKind.ofName?_name]
  simp only [Stage.read, Record.required, Record.defaulted, hid, htype, hdescription, hdata, hkind]
  rfl

theorem stageOfCandidate_toValue (keepId : Bool) (minted : Nat) {stage : Stage}
    (hne : stage.id ≠ "") :
    stageOfCandidate keepId minted stage.toValue =
      if keepId then (.ok stage, minted)
      else (.ok { stage with id := Stage.mintedId (minted + 1) }, minted + 1) := by
  obtain ⟨hid, htype, hdescription, hdata⟩ := lookup?_record (.text stage.id)
    (.text stage.kind.name) (.text stage.description) (.object stage.data)
  have hgiven : (Value.text stage.id).isGiven = true := decide_eq_true hne
  have hnull : Value.null.isGiven = false := rfl
  have hkind : StageKind.ofLooseName? (Value.text stage.kind.name).display = some stage.kind := by
    rw [Value.display_text, ofLooseName?_name]
  have hobject : (if (Value.object stage.data).isGiven then Value.object stage.data else .object []) =
      .object stage.data := by
    cases stage.data <;> rfl
  have htext : (if (Value.text stage.description).isGiven then Value.text stage.description
      else .text "") = .text stage.description := by
    by_cases h : stage.description = ""
    · simp [h]
    · simp [Value.isGiven, h]
  have hminted := read_record { stage with id := Stage.mintedId (minted + 1) }
  simp only [Stage.toValue, stageOfCandidate, Value.field, hid, htype, hdescription, hdata,
    Option.getD_some, hkind, hobject, htext]
  cases keepId with
  | true =>
    simp only [hgiven, if_true, read_record]
    rfl
  | false =>
    simp only [hnull, Bool.false_eq_true, if_false, hminted]
    rfl

namespace Screening

theorem enrol_of_new {s : Screening} (index : Int) (candidate : Value) {stage : Stage}
    (hnew : stage.id ∉ s.seen) :
    s.enrol index candidate stage =
      { accepted := s.accepted ++ [stage].filter Stage.isComplete
        dropped := if stage.isComplete then s.dropped
          else s.dropped ++ [⟨index, .incomplete stage.kind stage.missingFields, candidate⟩]
        seen := s.seen ++ [stage.id]
        minted := s.minted } := by
  cases hc : stage.isComplete <;> simp [Screening.enrol, hnew, hc, Screening.drop]

theorem takeAll_records {stages : List Stage} (hids : ∀ stage ∈ stages, stage.id ≠ "")
    (hnodup : (stages.map (·.id)).Nodup) {s : Screening}
    (hnew : ∀ stage ∈ stages, stage.id ∉ s.seen) (index : Int) :
    (s.takeAll true index (stages.map Stage.toValue)).accepted =
        s.accepted ++ stages.filter Stage.isComplete ∧
      (s.takeAll true index (stages.map Stage.toValue)).minted = s.minted ∧
      ((∀ stage ∈ stages, stage.isComplete) →
        (s.takeAll true index (stages.map Stage.toValue)).dropped = s.dropped) := by
  induction stages generalizing s index with
  | nil => simp [takeAll]
  | cons stage rest ih =>
    have hfirst := stageOfCandidate_toValue true s.minted (hids stage (List.mem_cons_self ..))
    have htake : s.take true index stage.toValue = s.enrol index stage.toValue stage := by
      simp only [Screening.take, hfirst, if_true]
    have henrol := enrol_of_new index stage.toValue (hnew stage (List.mem_cons_self ..))
    obtain ⟨hother, hrest⟩ := List.nodup_cons.mp (List.map_cons .. ▸ hnodup)
    rw [List.map_cons, takeAll, htake, henrol]
    obtain ⟨haccepted, hminted, hdropped⟩ := ih
      (fun st hst => hids st (List.mem_cons_of_mem _ hst)) hrest
      (s := { accepted := s.accepted ++ [stage].filter Stage.isComplete
              dropped := if stage.isComplete then s.dropped
                else s.dropped ++
                  [⟨index, .incomplete stage.kind stage.missingFields, stage.toValue⟩]
              seen := s.seen ++ [stage.id]
              minted := s.minted }) (by
        intro st hst hseen
        rcases List.mem_append.mp hseen with hseen | hseen
        · exact hnew st (List.mem_cons_of_mem _ hst) hseen
        · exact hother (List.mem_singleton.mp hseen ▸ List.mem_map_of_mem hst)) (index + 1)
    refine ⟨?_, hminted, fun hcomplete => ?_⟩
    · rw [haccepted, List.append_assoc, ← List.filter_append, List.singleton_append]
    · rw [hdropped fun st hst => hcomplete st (List.mem_cons_of_mem _ hst),
        if_pos (hcomplete stage (List.mem_cons_self ..))]

end Screening

def interchanged (stages : List Stage) : List Stage :=
  (stages.map Stage.interchanged).filter Stage.isComplete

theorem nodup_ids_interchanged {stages : List Stage} (hnodup : (stages.map (·.id)).Nodup) :
    ((interchanged stages).map (·.id)).Nodup := by
  have hids : ((stages.map Stage.interchanged).map (·.id)).Nodup := by
    simpa only [List.map_map, Function.comp_def, Stage.interchanged_id] using hnodup
  exact hids.sublist (List.filter_sublist.map _)

theorem screen_records {stages : List Stage} (hids : ∀ stage ∈ stages, stage.id ≠ "")
    (hnodup : (stages.map (·.id)).Nodup) (index : Int) (minted : Nat) :
    (screen true index minted (stages.map fun stage => stage.toValue.interchange)).accepted =
        interchanged stages ∧
      (screen true index minted (stages.map fun stage => stage.toValue.interchange)).minted =
        minted ∧
      ((∀ stage ∈ stages, stage.interchanged.isComplete) →
        (screen true index minted (stages.map fun stage => stage.toValue.interchange)).dropped =
          []) := by
  have hrecords : (stages.map fun stage => stage.toValue.interchange) =
      (stages.map Stage.interchanged).map Stage.toValue := by
    simp only [List.map_map, Function.comp_def, Stage.toValue_interchange]
  have hids' : ∀ stage ∈ stages.map Stage.interchanged, stage.id ≠ "" := by
    intro stage hstage
    obtain ⟨st, hst, rfl⟩ := List.mem_map.mp hstage
    exact hids st hst
  have hnodup' : ((stages.map Stage.interchanged).map (·.id)).Nodup := by
    simpa only [List.map_map, Function.comp_def, Stage.interchanged_id] using hnodup
  obtain ⟨haccepted, hminted, hdropped⟩ := Screening.takeAll_records hids' hnodup'
    (s := ⟨[], [], [], minted⟩) (fun _ _ => List.not_mem_nil) index
  rw [screen, hrecords]
  refine ⟨haccepted, hminted, fun hcomplete => hdropped fun stage hstage => ?_⟩
  obtain ⟨st, hst, rfl⟩ := List.mem_map.mp hstage
  exact hcomplete st hst

/-- All stages come back as they were if and only if their payloads are in the interchange form. -/
theorem interchanged_eq_self_iff {stages : List Stage}
    (hcomplete : ∀ stage ∈ stages, stage.isComplete) :
    interchanged stages = stages ↔ ∀ stage ∈ stages, stage.interchanged = stage := by
  constructor
  · intro h
    have hall : (stages.map Stage.interchanged).filter Stage.isComplete =
        stages.map Stage.interchanged := by
      apply List.filter_sublist.eq_of_length_le
      rw [List.length_map]
      exact Nat.le_of_eq (congrArg List.length h).symm
    have hmap : stages.map Stage.interchanged = stages := hall.symm.trans h
    exact List.map_inj_left.mp (hmap.trans (List.map_id stages).symm)
  · intro h
    have hmap : stages.map Stage.interchanged = stages :=
      (List.map_congr_left h).trans (List.map_id stages)
    rw [interchanged, hmap, List.filter_eq_self]
    exact hcomplete

theorem interchanged_interchanged (stages : List Stage) :
    interchanged (interchanged stages) = interchanged stages := by
  refine (interchanged_eq_self_iff fun stage hstage => (List.mem_filter.mp hstage).2).mpr ?_
  intro stage hstage
  obtain ⟨st, -, rfl⟩ := List.mem_map.mp (List.mem_filter.mp hstage).1
  exact st.interchanged_interchanged

/-! ### Exported flows -/

namespace Screening

theorem enrol_content {s : Screening} (index : Int) (candidate : Value) {stage : Stage}
    (hcomplete : stage.isComplete) :
    (s.enrol index candidate stage).accepted.map Stage.content =
        s.accepted.map Stage.content ++ [stage.content] ∧
      (s.enrol index candidate stage).dropped = s.dropped := by
  have hminted : { stage with id := Stage.mintedId (s.minted + 1) }.isComplete := hcomplete
  unfold Screening.enrol
  by_cases hclash : stage.id ∈ s.seen
  · simp only [if_pos hclash, hminted, if_true, List.map_append]
    exact ⟨rfl, trivial⟩
  · simp only [if_neg hclash, hcomplete, if_true, List.map_append]
    exact ⟨rfl, trivial⟩

theorem take_content {s : Screening} (keepIds : Bool) (index : Int) {stage : Stage}
    (hne : stage.id ≠ "") (hcomplete : stage.isComplete) :
    (s.take keepIds index stage.toValue).accepted.map Stage.content =
        s.accepted.map Stage.content ++ [stage.content] ∧
      (s.take keepIds index stage.toValue).dropped = s.dropped := by
  unfold Screening.take
  rw [stageOfCandidate_toValue keepIds s.minted hne]
  cases keepIds with
  | true => exact enrol_content index stage.toValue hcomplete
  | false =>
    have hminted : { stage with id := Stage.mintedId (s.minted + 1) }.isComplete := hcomplete
    exact enrol_content (s := { s with minted := s.minted + 1 }) index stage.toValue hminted

/-- The records of complete stages are all accepted, in order and with their contents. -/
theorem takeAll_contents {stages : List Stage} (hids : ∀ stage ∈ stages, stage.id ≠ "")
    (hcomplete : ∀ stage ∈ stages, stage.isComplete) (keepIds : Bool) (s : Screening)
    (index : Int) :
    (s.takeAll keepIds index (stages.map Stage.toValue)).accepted.map Stage.content =
        s.accepted.map Stage.content ++ stages.map Stage.content ∧
      (s.takeAll keepIds index (stages.map Stage.toValue)).dropped = s.dropped := by
  induction stages generalizing s index with
  | nil => simp [takeAll]
  | cons stage rest ih =>
    obtain ⟨haccepted, hdropped⟩ := take_content (s := s) keepIds index
      (hids stage (List.mem_cons_self ..)) (hcomplete stage (List.mem_cons_self ..))
    obtain ⟨hrest, hnone⟩ := ih (fun st hst => hids st (List.mem_cons_of_mem _ hst))
      (fun st hst => hcomplete st (List.mem_cons_of_mem _ hst)) (s.take keepIds index stage.toValue)
      (index + 1)
    rw [List.map_cons, takeAll]
    refine ⟨?_, hnone.trans hdropped⟩
    rw [hrest, haccepted, List.append_assoc, List.map_cons, List.singleton_append]

end Screening

def numbered (stages : List Stage) : List Stage :=
  stages.zipIdx.map fun s => { s.1 with id := "stage_" ++ toString (s.2 + 1) }

theorem exportStages_eq (stages : List Stage) :
    exportStages stages = (numbered stages).map Stage.toValue := by
  rw [exportStages, numbered, List.map_map]
  rfl

theorem content_numbered (stages : List Stage) :
    (numbered stages).map Stage.content = stages.map Stage.content := by
  rw [numbered, List.map_map]
  have hcomp : (Stage.content ∘ fun s : Stage × Nat =>
      { s.1 with id := "stage_" ++ toString (s.2 + 1) }) = Stage.content ∘ Prod.fst := rfl
  rw [hcomp, ← List.map_map, List.zipIdx_map_fst]

/-- The number in an exported id ends the id; that of a minted id is followed by another one. -/
theorem mintedId_ne_numbered {stages : List Stage} {stage : Stage} (h : stage ∈ numbered stages)
    (n : Nat) : Stage.mintedId n ≠ stage.id := by
  obtain ⟨e, -, rfl⟩ := List.mem_map.mp h
  intro hid
  have hlist := congrArg String.toList hid
  have hunder : "_".toList = ['_'] := by decide
  simp only [Stage.mintedId, String.toList_append, List.append_assoc, hunder,
    List.singleton_append] at hlist
  refine TableName.underscore_not_mem_number (e.2 + 1) ?_
  rw [← List.append_cancel_left hlist]
  exact List.mem_append_right _ (List.mem_cons_self ..)

theorem id_numbered_ne_empty {stages : List Stage} {stage : Stage} (h : stage ∈ numbered stages) :
    stage.id ≠ "" := by
  obtain ⟨e, -, rfl⟩ := List.mem_map.mp h
  intro hid
  have hlist := congrArg (fun id : String => id.toList.length) hid
  simp at hlist

theorem exportStages_congr {stages others : List Stage}
    (h : stages.map Stage.content = others.map Stage.content) :
    exportStages stages = exportStages others := by
  have hexport : ∀ list : List Stage, exportStages list =
      ((list.map Stage.content).zipIdx.map fun c =>
        Stage.toValue ⟨"stage_" ++ toString (c.2 + 1), c.1.1, c.1.2.1, c.1.2.2⟩) := by
    intro list
    rw [List.zipIdx_map, List.map_map]
    rfl
  rw [hexport, hexport, h]

theorem screen_exportStages {stages : List Stage} (hcomplete : ∀ stage ∈ stages, stage.isComplete)
    (keepIds : Bool) (index : Int) (minted : Nat) :
    (screen keepIds index minted (exportStages stages)).accepted.map Stage.content =
        stages.map Stage.content ∧
      (screen keepIds index minted (exportStages stages)).dropped = [] := by
  have hcomplete' : ∀ stage ∈ numbered stages, stage.isComplete := by
    intro stage hstage
    obtain ⟨e, he, rfl⟩ := List.mem_map.mp hstage
    exact hcomplete e.1 (List.fst_mem_of_mem_zipIdx he)
  obtain ⟨haccepted, hdropped⟩ := Screening.takeAll_contents
    (fun stage hstage => id_numbered_ne_empty hstage) hcomplete' keepIds ⟨[], [], [], minted⟩ index
  rw [screen, exportStages_eq]
  exact ⟨haccepted.trans (content_numbered stages), hdropped⟩

theorem mintedId_not_mem_keptIds_export (keepIds : Bool) (stages : List Stage) (n : Nat) :
    Stage.mintedId n ∉ keptIds keepIds (exportStages stages) := by
  cases keepIds with
  | false => exact List.not_mem_nil
  | true =>
    intro hmem
    rw [exportStages_eq] at hmem
    obtain ⟨stage, hstage, hid⟩ := List.mem_map.mp (mem_ids_of_mem_keptIds (fun _ => rfl) hmem)
    exact mintedId_ne_numbered hstage n hid.symm

end Flow

end StagedSql
