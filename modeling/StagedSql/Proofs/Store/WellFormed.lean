import StagedSql.Proofs.Keyed
import StagedSql.Store.Command

/-!
# Well-formed stores

The facts that tie the catalogue, the stages, the map from stages to outputs and the active table
together. Every change of the store keeps them, so they hold after every run of commands.
-/

namespace StagedSql

namespace Store

def stageIds (s : Store) : List String := s.stages.map (·.id)

def catalogue (s : Store) : List (String × String) := s.tables.map fun e => (e.1, e.2.name)

structure WellFormed (s : Store) : Prop where
  tables_nodup : s.tables.keys.Nodup
  outputs_nodup : s.outputs.keys.Nodup
  /-- A table stands under its own id. -/
  id_eq : ∀ e ∈ s.tables, e.1 = e.2.id
  /-- No two tables have the same name. -/
  names_nodup : (s.tables.values.map (·.name)).Nodup
  /-- An output is in the catalogue. -/
  output_mem : ∀ e ∈ s.outputs, e.2 ∈ s.tables.keys
  /-- Only stages of the list have outputs. -/
  owner_mem : ∀ e ∈ s.outputs, e.1 ∈ s.stageIds
  /-- No two stages have the same id. -/
  stages_nodup : s.stageIds.Nodup
  /-- The active table, if there is one, is in the catalogue. -/
  active_mem : ∀ id, s.active = some id → id ∈ s.tables.keys

theorem wellFormed_empty : empty.WellFormed := by
  constructor <;> simp [empty, stageIds, Keyed.values]

/-! ### Looking up in a well-formed store -/

section

variable {s : Store} (h : s.WellFormed)
include h

theorem WellFormed.id_of_lookup? {id : String} {t : Table} (ht : s.tables.lookup? id = some t) :
    t.id = id :=
  (h.id_eq _ (Keyed.mem_of_lookup? ht)).symm

theorem WellFormed.eq_of_key_eq {e f : String × Table} (he : e ∈ s.tables) (hf : f ∈ s.tables)
    (hk : e.1 = f.1) : e = f :=
  List.inj_on_of_nodup_map h.tables_nodup he hf hk

theorem WellFormed.eq_of_name_eq {e f : String × Table} (he : e ∈ s.tables) (hf : f ∈ s.tables)
    (hn : e.2.name = f.2.name) : e = f := by
  have hmap : (s.tables.map fun e => e.2.name).Nodup := by
    simpa [Keyed.values, Function.comp_def] using h.names_nodup
  exact List.inj_on_of_nodup_map hmap he hf hn

theorem WellFormed.output_eq {stageId a b : String} (ha : (stageId, a) ∈ s.outputs)
    (hb : (stageId, b) ∈ s.outputs) : a = b :=
  congrArg Prod.snd (List.inj_on_of_nodup_map h.outputs_nodup ha hb rfl)

theorem WellFormed.exists_table {stageId id : String} (hout : (stageId, id) ∈ s.outputs) :
    ∃ t, (id, t) ∈ s.tables := by
  obtain ⟨e, he, rfl⟩ := List.mem_map.mp (h.output_mem _ hout)
  exact ⟨e.2, he⟩

theorem WellFormed.tableNamed?_eq_some_iff {name : String} {t : Table} :
    s.tableNamed? name = some t ↔ (t.id, t) ∈ s.tables ∧ t.name = name := by
  constructor
  · intro ht
    obtain ⟨key, hk⟩ := Keyed.mem_values_iff.mp (List.mem_of_find?_eq_some ht)
    have hid : key = t.id := h.id_eq _ hk
    exact ⟨hid ▸ hk, by simpa using List.find?_some ht⟩
  · rintro ⟨hm, rfl⟩
    cases hf : s.tableNamed? t.name with
    | none =>
      have hall := List.find?_eq_none.mp hf t (Keyed.mem_values_iff.mpr ⟨_, hm⟩)
      simp at hall
    | some u =>
      obtain ⟨key, hk⟩ := Keyed.mem_values_iff.mp (List.mem_of_find?_eq_some hf)
      have hn : u.name = t.name := by simpa using List.find?_some hf
      have heq := h.eq_of_name_eq hk hm hn
      exact congrArg some (congrArg Prod.snd heq)

end

theorem stageIndex?_eq_none_iff {s : Store} {id : String} :
    s.stageIndex? id = none ↔ id ∉ s.stageIds := by
  simp [stageIndex?, stageIds]

theorem WellFormed.stageIndex?_eq_some_iff {s : Store} (h : s.WellFormed) {id : String} {i : Nat} :
    s.stageIndex? id = some i ↔ ∃ stage, s.stages[i]? = some stage ∧ stage.id = id := by
  constructor
  · intro hi
    obtain ⟨hlt, hid, -⟩ := List.findIdx?_eq_some_iff_getElem.mp hi
    exact ⟨s.stages[i], List.getElem?_eq_getElem hlt, of_decide_eq_true hid⟩
  · rintro ⟨stage, hi, rfl⟩
    obtain ⟨hlt, hget⟩ := List.getElem?_eq_some_iff.mp hi
    refine List.findIdx?_eq_some_iff_getElem.mpr ⟨hlt, decide_eq_true (congrArg Stage.id hget), ?_⟩
    intro j hj hsame
    have hj' : j < s.stages.length := Nat.lt_trans hj hlt
    have hids : s.stages[j] = s.stages[i] := List.inj_on_of_nodup_map h.stages_nodup
      (List.getElem_mem hj') (List.getElem_mem hlt)
      ((of_decide_eq_true hsame).trans (congrArg Stage.id hget.symm))
    have hij := (List.Nodup.getElem_inj_iff h.stages_nodup.of_map).mp hids
    omega

theorem mem_of_getStage {s : Store} {id : String} {stage : Stage} (h : s.getStage id = .ok stage) :
    stage ∈ s.stages ∧ stage.id = id := by
  unfold getStage at h
  cases hf : s.stages.find? (fun t => t.id = id) with
  | none =>
    rw [hf] at h
    cases h
  | some t =>
    rw [hf] at h
    obtain rfl := Except.ok.inj h
    exact ⟨List.mem_of_find?_eq_some hf, by simpa using List.find?_some hf⟩

theorem WellFormed.eq_of_getStage {s : Store} (h : s.WellFormed) {id : String} {stage st : Stage}
    (hstage : s.getStage id = .ok stage) (hst : st ∈ s.stages) (hid : st.id = id) : st = stage := by
  obtain ⟨hmem, rfl⟩ := mem_of_getStage hstage
  exact List.inj_on_of_nodup_map h.stages_nodup hst hmem hid

/-! ### Evicting -/

theorem foldl_evict (ids : List String) (s : Store) :
    ids.foldl evict s =
      { s with
        tables := s.tables.filter fun e => e.1 ∉ ids
        outputs := s.outputs.filter fun e => e.2 ∉ ids
        active := s.active.filter fun id => id ∉ ids } := by
  induction ids generalizing s with
  | nil => cases s with | mk tables outputs stages active version => cases active <;> simp [Option.filter_some]
  | cons id rest ih =>
    rw [List.foldl_cons, ih]
    have hactive : (s.evict id).active = s.active.filter fun a => a ≠ id := by
      cases ha : s.active with
      | none => simp [evict, ha]
      | some a => by_cases h : a = id <;> simp [evict, ha, h, Option.filter_some]
    rw [hactive]
    simp only [evict, Keyed.remove, List.filter_filter, Option.filter_filter, List.mem_cons]
    congr 1 <;> grind

/-! ### Placing a stage -/

theorem sliceBound_le {length : Nat} {bound : Int} (h : bound < Int.ofNat length) :
    Text.sliceBound length bound ≤ length := by
  unfold Text.sliceBound
  split
  · simp only [Int.ofNat_eq_natCast] at h ⊢
    omega
  · simp only [Int.ofNat_eq_natCast] at h ⊢
    omega

theorem ids_placed_of_mem {stages : List Stage} {stage : Stage} (position : Int)
    (h : stage.id ∈ stages.map (·.id)) :
    (placed stages stage position).map (·.id) = stages.map (·.id) := by
  cases hi : stages.findIdx? fun t => t.id = stage.id with
  | none =>
    have hno : ∀ t ∈ stages, t.id ≠ stage.id := by simpa using hi
    obtain ⟨t, ht, hid⟩ := List.mem_map.mp h
    exact absurd hid (hno t ht)
  | some i =>
    obtain ⟨hlt, hid, -⟩ := List.findIdx?_eq_some_iff_getElem.mp hi
    have hlt : i < (stages.map (·.id)).length := by simpa using hlt
    have hget : (stages.map (·.id))[i] = stage.id := by simpa using hid
    simp only [placed, hi, List.map_set]
    rw [← hget, List.set_getElem_self]

theorem placed_perm {stages : List Stage} {stage : Stage} (position : Int)
    (h : stage.id ∉ stages.map (·.id)) : (placed stages stage position).Perm (stage :: stages) := by
  have hi : (stages.findIdx? fun t => t.id = stage.id) = none := by
    simpa [List.findIdx?_eq_none_iff] using h
  simp only [placed, hi]
  split
  · exact List.perm_append_singleton stage stages
  · exact List.perm_insertIdx stage stages (sliceBound_le (by omega))

theorem placed_of_new {stages : List Stage} {stage : Stage} (h : stage.id ∉ stages.map (·.id)) :
    placed stages stage stages.length = stages ++ [stage] := by
  have hi : (stages.findIdx? fun t => t.id = stage.id) = none := by
    simpa [List.findIdx?_eq_none_iff] using h
  simp only [placed, hi]
  exact if_pos (Int.le_refl _)

theorem mem_placed_self (stages : List Stage) (stage : Stage) (position : Int) :
    stage ∈ placed stages stage position := by
  cases hi : stages.findIdx? fun t => t.id = stage.id with
  | none =>
    have hnew : stage.id ∉ stages.map (·.id) := by simpa using hi
    exact (placed_perm position hnew).mem_iff.mpr (List.mem_cons_self ..)
  | some i =>
    obtain ⟨hlt, -, -⟩ := List.findIdx?_eq_some_iff_getElem.mp hi
    simp only [placed, hi]
    exact List.mem_set hlt stage

theorem mem_of_mem_placed {stages : List Stage} {stage st : Stage} {position : Int}
    (h : st ∈ placed stages stage position) (hne : st ≠ stage) : st ∈ stages := by
  cases hi : stages.findIdx? fun t => t.id = stage.id with
  | none =>
    have hnew : stage.id ∉ stages.map (·.id) := by simpa using hi
    have hm := (placed_perm position hnew).mem_iff.mp h
    exact (List.mem_cons.mp hm).resolve_left hne
  | some i =>
    simp only [placed, hi] at h
    exact (List.mem_or_eq_of_mem_set h).resolve_right hne

theorem mem_ids_placed {stages : List Stage} {stage : Stage} {position : Int} {id : String} :
    id ∈ (placed stages stage position).map (·.id) ↔ id = stage.id ∨ id ∈ stages.map (·.id) := by
  by_cases h : stage.id ∈ stages.map (·.id)
  · rw [ids_placed_of_mem position h]
    constructor
    · exact Or.inr
    · rintro (rfl | hid)
      · exact h
      · exact hid
  · rw [((placed_perm position h).map (·.id)).mem_iff, List.map_cons, List.mem_cons]

theorem nodup_ids_placed {stages : List Stage} {stage : Stage} (position : Int)
    (hn : (stages.map (·.id)).Nodup) : ((placed stages stage position).map (·.id)).Nodup := by
  by_cases h : stage.id ∈ stages.map (·.id)
  · rwa [ids_placed_of_mem position h]
  · rw [((placed_perm position h).map (·.id)).nodup_iff, List.map_cons, List.nodup_cons]
    exact ⟨h, hn⟩

/-! ### What the changes do when they succeed -/

theorem register_name (s : Store) (table : Table) (makeActive : Bool) :
    (s.register table makeActive).1.name = table.name := by
  simp only [Store.register]
  split <;> rfl

theorem register_stageId (s : Store) (table : Table) (makeActive : Bool) :
    (s.register table makeActive).1.stageId = table.stageId := by
  simp only [Store.register]
  split <;> rfl

theorem register_source (s : Store) (table : Table) (makeActive : Bool) :
    (s.register table makeActive).1.source = table.source := by
  simp only [Store.register]
  split <;> rfl

theorem register_snd (s : Store) (table : Table) (makeActive : Bool) :
    (s.register table makeActive).2 =
      let t := (s.register table makeActive).1
      { s with
        tables := s.tables.put t.id t
        active := if makeActive || s.active.isNone then some t.id else s.active
        version := s.version + 1 } := rfl

theorem setActive_eq_ok_iff {s s' : Store} {id : String} {t : Table} :
    s.setActive id = .ok (t, s') ↔
      s.tables.lookup? id = some t ∧
        s' = { s with active := some t.id, version := s.version + 1 } := by
  unfold setActive getTable
  cases s.tables.lookup? id with
  | none => simp [Except.map]
  | some u =>
    simp only [Except.map, Except.ok.injEq, Prod.mk.injEq, Option.some.injEq]
    constructor
    · rintro ⟨rfl, rfl⟩
      exact ⟨rfl, rfl⟩
    · rintro ⟨rfl, rfl⟩
      exact ⟨rfl, rfl⟩

theorem removeStage_eq_ok_iff {s s' : Store} {id : String} {t : Stage} :
    s.removeStage id = .ok (t, s') ↔
      ∃ i, s.stageIndex? id = some i ∧ s.getStage id = .ok t ∧
        s' = { s with
          stages := s.stages.eraseIdx i
          outputs := s.outputs.remove id
          version := s.version + 1 } := by
  unfold removeStage
  cases s.stageIndex? id with
  | none => simp
  | some i =>
    cases s.getStage id with
    | error e => simp
    | ok u =>
      simp only [Except.ok.injEq, Prod.mk.injEq, Option.some.injEq, exists_eq_left']
      exact and_congr_right fun _ => eq_comm

theorem removeTable_eq_ok_iff {s s' : Store} {id : String} {t : Table} :
    s.removeTable id = .ok (t, s') ↔
      s.tables.lookup? id = some t ∧ s.stagesWithOutput id = [] ∧
        s' = { s with
          tables := s.tables.remove id
          active := if s.active = some id then (s.tables.remove id).keys.head? else s.active
          version := s.version + 1 } := by
  unfold removeTable getTable
  cases s.tables.lookup? id with
  | none => simp
  | some u =>
    by_cases hu : s.stagesWithOutput id = []
    · simp only [hu, ne_eq, not_true_eq_false, if_false, Except.ok.injEq, Prod.mk.injEq,
        Option.some.injEq, true_and]
      exact and_congr_right fun _ => eq_comm
    · simp [hu]

/-! ### Every change keeps a store well formed -/

section

variable {s : Store} (h : s.WellFormed)
include h

theorem WellFormed.mem_rivals_iff {t : Table} {id : String} :
    id ∈ s.rivals t ↔ ∃ e ∈ s.tables, e.1 = id ∧ e.2.name = t.name ∧ id ≠ t.id := by
  simp only [rivals, List.mem_map, List.mem_filter, decide_eq_true_eq, Keyed.mem_values_iff]
  constructor
  · rintro ⟨u, ⟨⟨key, hk⟩, hn, hid⟩, rfl⟩
    exact ⟨_, hk, h.id_eq _ hk, hn, hid⟩
  · rintro ⟨e, he, rfl, hn, hid⟩
    have := h.id_eq e he
    exact ⟨e.2, ⟨⟨e.1, he⟩, hn, this ▸ hid⟩, this.symm⟩

theorem WellFormed.commit (stage : Stage) (table : Table) (position : Int) :
    (s.commit stage table position).2.WellFormed := by
  simp only [Store.commit, foldl_evict]
  have htables := Keyed.nodup_keys_filter (fun e => e.1 ∉ s.rivals table) h.tables_nodup
  have houtputs := Keyed.nodup_keys_filter (fun e => e.2 ∉ s.rivals table) h.outputs_nodup
  constructor
  · exact Keyed.nodup_keys_put htables
  · exact Keyed.nodup_keys_put houtputs
  · intro e he
    rcases (Keyed.mem_put_iff htables).mp he with rfl | ⟨he, -⟩
    · rfl
    · exact h.id_eq e (List.mem_of_mem_filter he)
  · refine Keyed.nodup_map_values_put htables ?_ ?_
    · exact h.names_nodup.sublist ((List.filter_sublist.map _).map _)
    · intro e he hne hname
      obtain ⟨he, hr⟩ := List.mem_filter.mp he
      have : e.1 ∈ s.rivals table := h.mem_rivals_iff.mpr ⟨e, he, rfl, hname, hne⟩
      simp [this] at hr
  · intro e he
    rw [Keyed.mem_keys_put]
    rcases (Keyed.mem_put_iff houtputs).mp he with rfl | ⟨he, -⟩
    · exact .inl rfl
    · obtain ⟨he, hr⟩ := List.mem_filter.mp he
      obtain ⟨x, hx, hk⟩ := List.mem_map.mp (h.output_mem e he)
      exact .inr (List.mem_map.mpr ⟨x, List.mem_filter.mpr ⟨hx, by simpa [hk] using hr⟩, hk⟩)
  · intro e he
    rw [stageIds, mem_ids_placed]
    rcases (Keyed.mem_put_iff houtputs).mp he with rfl | ⟨he, -⟩
    · exact .inl rfl
    · exact .inr (h.owner_mem e (List.mem_of_mem_filter he))
  · exact nodup_ids_placed position h.stages_nodup
  · intro id hid
    rw [Keyed.mem_keys_put]
    exact .inl (Option.some.inj hid).symm

/-! ### Entries after a change -/

/-- A commit puts one entry and takes out those of its id and of its name. -/
theorem WellFormed.mem_tables_commit {stage : Stage} {table : Table} {position : Int}
    {e : String × Table} :
    e ∈ (s.commit stage table position).2.tables ↔
      e = (table.id, table) ∨ e ∈ s.tables ∧ e.1 ≠ table.id ∧ e.2.name ≠ table.name := by
  simp only [Store.commit, foldl_evict]
  rw [Keyed.mem_put_iff (Keyed.nodup_keys_filter _ h.tables_nodup), List.mem_filter,
    decide_eq_true_eq, and_assoc]
  refine or_congr_right (and_congr_right fun he => ?_)
  rw [h.mem_rivals_iff]
  constructor
  · rintro ⟨hr, hne⟩
    exact ⟨hne, fun hname => hr ⟨e, he, rfl, hname, hne⟩⟩
  · rintro ⟨hne, hname⟩
    refine ⟨?_, hne⟩
    rintro ⟨f, hf, hkey, hfname, -⟩
    exact hname (h.eq_of_key_eq hf he hkey ▸ hfname)

/-- A commit maps its stage to the table and takes out the entries that lead to another table of its
name. -/
theorem WellFormed.mem_outputs_commit_iff {stage : Stage} {table : Table} {position : Int}
    {e : String × String} :
    e ∈ (s.commit stage table position).2.outputs ↔
      e = (stage.id, table.id) ∨ e ∈ s.outputs ∧ e.1 ≠ stage.id ∧
        ∀ t, (e.2, t) ∈ s.tables → t.name = table.name → e.2 = table.id := by
  simp only [Store.commit, foldl_evict]
  rw [Keyed.mem_put_iff (Keyed.nodup_keys_filter _ h.outputs_nodup), List.mem_filter,
    decide_eq_true_eq, and_assoc, h.mem_rivals_iff]
  refine or_congr_right (and_congr_right fun _ => ?_)
  rw [and_comm]
  refine and_congr_right fun _ => ⟨fun hkept t ht hname => ?_, ?_⟩
  · by_contra hne
    exact hkept ⟨_, ht, rfl, hname, hne⟩
  · rintro hkept ⟨f, hf, hkey, hname, hne⟩
    exact hne (hkept f.2 (hkey ▸ hf) hname)

theorem WellFormed.mem_outputs_commit {stage : Stage} {table : Table} {position : Int}
    {e : String × String} (he : e ∈ (s.commit stage table position).2.outputs) :
    e = (stage.id, table.id) ∨ e ∈ s.outputs ∧ e.1 ≠ stage.id :=
  (h.mem_outputs_commit_iff.mp he).imp_right fun hkept => ⟨hkept.1, hkept.2.1⟩

theorem WellFormed.mem_stages_commit {stage st : Stage} {table : Table} {position : Int}
    (hst : st ∈ (s.commit stage table position).2.stages) :
    st = stage ∨ st ∈ s.stages ∧ st.id ≠ stage.id := by
  simp only [Store.commit, foldl_evict] at hst
  have hnodup : ((placed s.stages stage position).map (·.id)).Nodup :=
    nodup_ids_placed position h.stages_nodup
  by_cases hne : st = stage
  · exact .inl hne
  refine .inr ⟨mem_of_mem_placed hst hne, fun hid => hne ?_⟩
  exact List.inj_on_of_nodup_map hnodup hst (mem_placed_self ..) hid

theorem WellFormed.stages_commit {stage st : Stage} {i : Nat} (hi : s.stages[i]? = some st)
    (hid : st.id = stage.id) (table : Table) (position : Int) :
    (s.commit stage table position).2.stages = s.stages.set i stage := by
  have hindex : (s.stages.findIdx? fun t => t.id = stage.id) = some i :=
    h.stageIndex?_eq_some_iff.mpr ⟨st, hi, hid⟩
  simp only [Store.commit, foldl_evict, placed, hindex]

omit h in
theorem stages_commit_of_new {stage : Stage} (hnew : stage.id ∉ s.stageIds) (table : Table) :
    (s.commit stage table s.stages.length).2.stages = s.stages ++ [stage] := by
  simp only [Store.commit, foldl_evict]
  exact placed_of_new hnew

theorem WellFormed.mem_tables_commit_of_mem {stage : Stage} {table : Table} {position : Int}
    (ht : (table.id, table) ∈ s.tables) {e : String × Table} :
    e ∈ (s.commit stage table position).2.tables ↔ e ∈ s.tables := by
  rw [h.mem_tables_commit]
  constructor
  · rintro (rfl | ⟨he, -⟩)
    · exact ht
    · exact he
  · intro he
    by_cases hname : e.2.name = table.name
    · exact .inl (h.eq_of_name_eq he ht hname)
    · refine .inr ⟨he, fun hid => hname ?_, hname⟩
      rw [h.eq_of_key_eq he ht hid]

/-- After a commit, a stage has the committed table if it is the committed stage, else the output that it
had, which the committed table may have replaced under its id. -/
theorem WellFormed.output_commit {stage st : Stage} {table t : Table} {position : Int} {id : String}
    (hst : st ∈ (s.commit stage table position).2.stages)
    (hout : (st.id, id) ∈ (s.commit stage table position).2.outputs)
    (ht : (id, t) ∈ (s.commit stage table position).2.tables) :
    st = stage ∧ t = table ∨
      st ∈ s.stages ∧ st.id ≠ stage.id ∧ (st.id, id) ∈ s.outputs ∧
        (id = table.id ∧ t = table ∨ (id, t) ∈ s.tables) := by
  have htable : id = table.id ∧ t = table ∨ id ≠ table.id ∧ (id, t) ∈ s.tables := by
    rcases h.mem_tables_commit.mp ht with heq | ⟨ht, hne, -⟩
    · exact .inl (Prod.mk.inj heq)
    · exact .inr ⟨hne, ht⟩
  rcases h.mem_outputs_commit hout with heq | ⟨hout, hid⟩
  · obtain ⟨hid, hkey⟩ := Prod.mk.inj heq
    rcases h.mem_stages_commit hst with hstage | ⟨-, hne⟩
    · exact .inl ⟨hstage, (htable.resolve_right fun hc => hc.1 hkey).2⟩
    · exact absurd hid hne
  · rcases h.mem_stages_commit hst with rfl | ⟨hst, -⟩
    · exact absurd rfl hid
    · exact .inr ⟨hst, hid, hout, htable.imp_right fun hc => hc.2⟩

theorem WellFormed.catalogue_commit {stage : Stage} {table old : Table} {position : Int}
    (hold : (table.id, old) ∈ s.tables) (hname : old.name = table.name) :
    (s.commit stage table position).2.catalogue = s.catalogue := by
  have hall : (s.tables.filter fun e => e.1 ∉ s.rivals table) = s.tables := by
    refine List.filter_eq_self.mpr fun e _ => decide_eq_true fun hrival => ?_
    obtain ⟨f, hf, hkey, hsame, hne⟩ := h.mem_rivals_iff.mp hrival
    have heq := h.eq_of_name_eq hf hold (hsame.trans hname.symm)
    exact hne (hkey.symm.trans (congrArg Prod.fst heq))
  simp only [catalogue, Store.commit, foldl_evict, hall]
  exact Keyed.map_put (Keyed.lookup?_of_mem h.tables_nodup hold) hname

section

variable {stage : Stage} {table t : Table} {position : Int} {id : String}
  (ht : (id, t) ∈ s.tables) (hkept : (id, t) ∈ (s.commit stage table position).2.tables)
include ht hkept

theorem WellFormed.not_mem_rivals_of_kept : id ∉ s.rivals table := by
  intro hrival
  obtain ⟨f, hf, hkey, hname, hne⟩ := h.mem_rivals_iff.mp hrival
  rcases h.mem_tables_commit.mp hkept with heq | ⟨-, -, hother⟩
  · exact hne (congrArg Prod.fst heq)
  · obtain rfl := h.eq_of_key_eq hf ht hkey
    exact hother hname

theorem WellFormed.mem_outputs_commit_of_kept {stageId : String} (hout : (stageId, id) ∈ s.outputs)
    (hne : stageId ≠ stage.id) : (stageId, id) ∈ (s.commit stage table position).2.outputs := by
  simp only [Store.commit, foldl_evict]
  refine (Keyed.mem_put_iff (Keyed.nodup_keys_filter _ h.outputs_nodup)).mpr (.inr ⟨?_, hne⟩)
  exact List.mem_filter.mpr ⟨hout, decide_eq_true (h.not_mem_rivals_of_kept ht hkept)⟩

end

theorem WellFormed.outputs_commit {stage : Stage} {table : Table} {position : Int}
    (hnew : stage.id ∉ s.stageIds)
    (hkept : ∀ e ∈ s.outputs, ∀ t, (e.2, t) ∈ s.tables →
      (e.2, t) ∈ (s.commit stage table position).2.tables) :
    (s.commit stage table position).2.outputs = s.outputs ++ [(stage.id, table.id)] := by
  have hall : (s.outputs.filter fun e => e.2 ∉ s.rivals table) = s.outputs := by
    refine List.filter_eq_self.mpr fun e he => decide_eq_true ?_
    obtain ⟨t, ht⟩ := h.exists_table he
    exact h.not_mem_rivals_of_kept ht (hkept e he t ht)
  have hkey : stage.id ∉ s.outputs.keys := by
    intro hmem
    obtain ⟨e, he, hid⟩ := List.mem_map.mp hmem
    exact hnew (hid ▸ h.owner_mem e he)
  simp only [Store.commit, foldl_evict, hall]
  exact Keyed.put_of_not_mem hkey

theorem WellFormed.mem_tables_register {table : Table} {makeActive : Bool} {e : String × Table} :
    e ∈ (s.register table makeActive).2.tables ↔
      e = ((s.register table makeActive).1.id, (s.register table makeActive).1) ∨
        e ∈ s.tables ∧ e.1 ≠ (s.register table makeActive).1.id := by
  rw [register_snd]
  exact Keyed.mem_put_iff h.tables_nodup

theorem WellFormed.register_id {table : Table} (makeActive : Bool) {e : String × Table}
    (he : e ∈ s.tables) (hn : e.2.name = table.name) :
    e.1 = (s.register table makeActive).1.id := by
  have hm : (e.2.id, e.2) ∈ s.tables := h.id_eq e he ▸ he
  have hfind : s.tableNamed? table.name = some e.2 := h.tableNamed?_eq_some_iff.mpr ⟨hm, hn⟩
  simp only [Store.register, hfind]
  exact h.id_eq e he

theorem WellFormed.register (table : Table) (makeActive : Bool) :
    (s.register table makeActive).2.WellFormed := by
  have hkey : ∀ e ∈ s.tables, e.2.name = table.name → e.1 = (s.register table makeActive).1.id :=
    fun e he hn => h.register_id makeActive he hn
  have hname := register_name s table makeActive
  rw [register_snd]
  generalize (s.register table makeActive).1 = t at hkey hname
  constructor
  · exact Keyed.nodup_keys_put h.tables_nodup
  · exact h.outputs_nodup
  · intro e he
    rcases (Keyed.mem_put_iff h.tables_nodup).mp he with rfl | ⟨he, -⟩
    · rfl
    · exact h.id_eq e he
  · refine Keyed.nodup_map_values_put h.tables_nodup h.names_nodup ?_
    intro e he hne hn
    exact hne (hkey e he (hn.trans hname))
  · exact fun e he => Keyed.mem_keys_put.mpr (.inr (h.output_mem e he))
  · exact h.owner_mem
  · exact h.stages_nodup
  · intro id hid
    rw [Keyed.mem_keys_put]
    by_cases hc : (makeActive || s.active.isNone) = true
    · have : some t.id = some id := by simpa [hc] using hid
      exact .inl (Option.some.inj this).symm
    · have : s.active = some id := by simpa [hc] using hid
      exact .inr (h.active_mem id this)

theorem WellFormed.setActive {id : String} {t : Table} {s' : Store}
    (hs : s.setActive id = .ok (t, s')) : s'.WellFormed := by
  obtain ⟨hl, rfl⟩ := setActive_eq_ok_iff.mp hs
  refine { h with active_mem := ?_ }
  intro a ha
  obtain rfl : t.id = a := Option.some.inj ha
  have hid := h.id_of_lookup? hl
  exact (Keyed.mem_keys_iff _ _).mpr ⟨t, hid ▸ hl⟩

theorem WellFormed.removeStage {id : String} {t : Stage} {s' : Store}
    (hs : s.removeStage id = .ok (t, s')) : s'.WellFormed := by
  obtain ⟨i, hi, -, rfl⟩ := removeStage_eq_ok_iff.mp hs
  have hsub : (s.stages.eraseIdx i).Sublist s.stages := List.eraseIdx_sublist ..
  refine { h with outputs_nodup := ?_, output_mem := ?_, owner_mem := ?_, stages_nodup := ?_ }
  · exact Keyed.nodup_keys_filter _ h.outputs_nodup
  · exact fun e he => h.output_mem e (List.mem_of_mem_filter he)
  · intro e he
    obtain ⟨he, hne⟩ := List.mem_filter.mp he
    obtain ⟨u, hu, hid⟩ := List.mem_map.mp (h.owner_mem e he)
    refine List.mem_map.mpr ⟨u, ?_, hid⟩
    have hne : e.1 ≠ id := by simpa using hne
    obtain ⟨hlt, hget, -⟩ := List.findIdx?_eq_some_iff_getElem.mp hi
    rw [List.mem_eraseIdx_iff_getElem]
    obtain ⟨j, hj, rfl⟩ := List.mem_iff_getElem.mp hu
    refine ⟨j, hj, ?_, rfl⟩
    rintro rfl
    have : s.stages[j].id = id := by simpa using hget
    exact hne (hid.symm.trans this)
  · exact h.stages_nodup.sublist (hsub.map _)

theorem WellFormed.removeTable {id : String} {t : Table} {s' : Store}
    (hs : s.removeTable id = .ok (t, s')) : s'.WellFormed := by
  obtain ⟨-, hfree, rfl⟩ := removeTable_eq_ok_iff.mp hs
  have hsub : (s.tables.remove id).Sublist s.tables := List.filter_sublist
  refine { h with tables_nodup := ?_, id_eq := ?_, names_nodup := ?_, output_mem := ?_,
                  active_mem := ?_ }
  · exact Keyed.nodup_keys_filter _ h.tables_nodup
  · exact fun e he => h.id_eq e (List.mem_of_mem_filter he)
  · exact h.names_nodup.sublist ((hsub.map _).map _)
  · intro e he
    have hne : e.2 ≠ id := by
      intro hid
      have : e.1 ∈ s.stagesWithOutput id :=
        List.mem_map.mpr ⟨e, List.mem_filter.mpr ⟨he, by simpa using hid⟩, rfl⟩
      simp [hfree] at this
    exact Keyed.mem_keys_remove.mpr ⟨hne, h.output_mem e he⟩
  · intro a ha
    by_cases hc : s.active = some id
    · have : (s.tables.remove id).keys.head? = some a := by simpa [hc] using ha
      exact List.mem_of_mem_head? this
    · have : s.active = some a := by simpa [hc] using ha
      have hne : a ≠ id := fun he => hc (he ▸ this)
      exact Keyed.mem_keys_remove.mpr ⟨hne, h.active_mem a this⟩

theorem WellFormed.resetStages : s.resetStages.2.WellFormed := by
  refine { h with outputs_nodup := ?_, output_mem := ?_, owner_mem := ?_, stages_nodup := ?_ } <;>
    simp [Store.resetStages, stageIds]

/-- Both the catalogue of now and the stages of before have to be well formed. -/
theorem WellFormed.restoreStages {earlier : Store} (he : earlier.WellFormed) :
    (s.restoreStages earlier).WellFormed := by
  refine { h with outputs_nodup := ?_, output_mem := ?_, owner_mem := ?_, stages_nodup := ?_,
                  active_mem := ?_ }
  · exact Keyed.nodup_keys_filter _ he.outputs_nodup
  · intro e hm
    show e.2 ∈ s.tables.keys
    simpa using (List.mem_filter.mp hm).2
  · exact fun e hm => he.owner_mem e (List.mem_of_mem_filter hm)
  · exact he.stages_nodup
  · intro id hid
    simp only [Store.restoreStages] at hid ⊢
    split at hid
    · next a _ =>
      split at hid
      · next hmem => exact Option.some.inj hid ▸ hmem
      · exact h.active_mem id hid
    · exact h.active_mem id hid

end

/-! ### Runs of commands -/

namespace Archive

def runAll (a : Archive) (commands : List Command) : Archive :=
  commands.foldl (fun a c => (a.run c).2) a

/-- The present store and all saved ones are well formed. -/
structure WellFormed (a : Archive) : Prop where
  store : a.store.WellFormed
  saved : ∀ e ∈ a.saved, e.2.WellFormed

theorem wellFormed_changed {a : Archive} (h : a.WellFormed) {α : Type} (f : α → Answer)
    {outcome : Except PipelineError (α × Store)}
    (ho : ∀ x store, outcome = .ok (x, store) → store.WellFormed) :
    (a.changed f outcome).2.WellFormed := by
  cases outcome with
  | error e => exact h
  | ok r => exact ⟨ho r.1 r.2 rfl, h.saved⟩

theorem wellFormed_answered {a : Archive} (h : a.WellFormed) {α : Type} (f : α → Answer)
    (outcome : Except PipelineError α) : (a.answered f outcome).2.WellFormed := by
  cases outcome <;> exact h

theorem WellFormed.saved_of_lookup? {a : Archive} (h : a.WellFormed) {name : String}
    {earlier : Store} (hl : a.saved.lookup? name = some earlier) : earlier.WellFormed :=
  h.saved _ (Keyed.mem_of_lookup? hl)

/-- One command keeps the present store and all saved ones well formed. -/
theorem WellFormed.run {a : Archive} (h : a.WellFormed) (c : Command) :
    (a.run c).2.WellFormed := by
  cases c with
  | commit stage table position =>
    refine wellFormed_changed h _ fun x store hx => ?_
    cases hx
    exact h.store.commit stage table position
  | register table makeActive =>
    refine wellFormed_changed h _ fun x store hx => ?_
    cases hx
    exact h.store.register table makeActive
  | setActive id => exact wellFormed_changed h _ fun _ _ hx => h.store.setActive hx
  | removeStage id => exact wellFormed_changed h _ fun _ _ hx => h.store.removeStage hx
  | removeTable id => exact wellFormed_changed h _ fun _ _ hx => h.store.removeTable hx
  | resetStages =>
    refine wellFormed_changed h _ fun x store hx => ?_
    cases hx
    exact h.store.resetStages
  | snapshot name =>
    refine ⟨h.store, fun e he => ?_⟩
    rcases Keyed.mem_of_mem_put he with rfl | he
    · exact h.store
    · exact h.saved e he
  | restore name =>
    simp only [Archive.run]
    cases hl : a.saved.lookup? name with
    | none => exact h
    | some earlier => exact ⟨h.store.restoreStages (h.saved_of_lookup? hl), h.saved⟩
  | getTable id => exact wellFormed_answered h _ _
  | getStage id => exact wellFormed_answered h _ _
  | _ => exact h

theorem WellFormed.runAll {a : Archive} (h : a.WellFormed) (commands : List Command) :
    (a.runAll commands).WellFormed := by
  induction commands generalizing a with
  | nil => exact h
  | cons c rest ih => exact ih (h.run c)

/-- After any run of commands from the empty store, with states saved and restored at any point, the
store is well formed. -/
theorem wellFormed_store_runAll (commands : List Command) :
    (Archive.empty.runAll commands).store.WellFormed :=
  have hempty : Archive.empty.WellFormed := ⟨wellFormed_empty, by simp [Archive.empty]⟩
  (hempty.runAll commands).store

end Archive

end Store

end StagedSql
