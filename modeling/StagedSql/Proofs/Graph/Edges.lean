import StagedSql.Proofs.Graph.Producers

/-!
# Edges into a stage

A stage that reads one table has one edge at most: from the last producer of the table that it names
or, if it names none that is produced, from the stage right before it.
-/

namespace StagedSql

theorem StageKind.ne_load_of_readsDefault {kind : StageKind} (h : kind.readsDefault) :
    kind ≠ .load := by
  rintro rfl
  cases h

namespace Stage

/-- The table of a stage that the graph looks for. An aggregate's is passed over. -/
def soughtTable? (s : Stage) : Option String :=
  if s.kind = .aggregate then none else s.referencedTable?

variable {s : Stage}

theorem soughtTable?_of_aggregate (h : s.kind = .aggregate) : s.soughtTable? = none := if_pos h

theorem soughtTable?_of_ne_aggregate (h : s.kind ≠ .aggregate) :
    s.soughtTable? = s.referencedTable? := if_neg h

theorem soughtTable?_of_silent (h : s.referencedTable? = none) : s.soughtTable? = none := by
  unfold soughtTable?
  split
  · rfl
  · exact h

theorem referencedTables_of_readsDefault (h : s.kind.readsDefault) :
    s.referencedTables = .ok s.soughtTable?.toList := by
  unfold referencedTables soughtTable?
  cases hk : s.kind <;> first | rfl | (rw [hk] at h; cases h)

end Stage

namespace Graph

/-- The stage right before position `i`, where `previous` stands before the first one. -/
def stageBefore? (previous : Option Stage) (stages : List Stage) : Nat → Option Stage
  | 0 => previous
  | i + 1 => stages[i]?

theorem stageBefore?_length (stages : List Stage) :
    stageBefore? none stages stages.length = stages.getLast? := by
  rw [List.getLast?_eq_getElem?]
  cases stages <;> rfl

theorem stageBefore?_append {stages : List Stage} (previous : Option Stage) (rest : List Stage)
    {i : Nat} (hi : i ≤ stages.length) :
    stageBefore? previous (stages ++ rest) i = stageBefore? previous stages i := by
  cases i with
  | zero => rfl
  | succ i => exact List.getElem?_append_left hi

theorem stageBefore?_cons (previous : Option Stage) (stage : Stage) (rest : List Stage) (i : Nat) :
    stageBefore? previous (stage :: rest) (i + 1) = stageBefore? (some stage) rest i := by
  cases i <;> rfl

section

variable {nodes : Keyed Node} {stages : List Stage} {stage : Stage} {edge : Edge} {i : Nat}

theorem target_of_mem_edgesInto {previous : Option Stage}
    (h : edge ∈ edgesInto nodes previous stage) : edge.target = stage.id := by
  unfold edgesInto at h
  split at h
  · cases h
  · split at h
    · cases h
    · split at h
      · obtain ⟨input, -, rfl⟩ := List.mem_map.mp h
        rfl
      · split at h
        · split at h
          · cases h
          · rw [List.mem_singleton.mp h]
        · cases h

theorem mem_edgesAfter {previous : Option Stage} :
    edge ∈ edgesAfter nodes previous stages ↔ ∃ (i : Nat) (stage : Stage),
      stages[i]? = some stage ∧ edge ∈ edgesInto nodes (stageBefore? previous stages i) stage := by
  induction stages generalizing previous with
  | nil => simp [edgesAfter]
  | cons first rest ih =>
    rw [edgesAfter, List.mem_append, ih]
    constructor
    · rintro (hfirst | ⟨i, stage, hi, hedge⟩)
      · exact ⟨0, first, rfl, hfirst⟩
      · exact ⟨i + 1, stage, hi, by rwa [stageBefore?_cons]⟩
    · rintro ⟨i, stage, hi, hedge⟩
      cases i with
      | zero =>
        obtain rfl : first = stage := Option.some.inj hi
        exact .inl hedge
      | succ i =>
        rw [stageBefore?_cons] at hedge
        exact .inr ⟨i, stage, hi, hedge⟩

theorem mem_edges_into_iff (hids : (stages.map (·.id)).Nodup) (hi : stages[i]? = some stage) :
    edge ∈ edges stages nodes ∧ edge.target = stage.id ↔
      edge ∈ edgesInto nodes (stageBefore? none stages i) stage := by
  rw [edges, mem_edgesAfter]
  constructor
  · rintro ⟨⟨j, other, hj, hedge⟩, htarget⟩
    have hid : other.id = stage.id := (target_of_mem_edgesInto hedge).symm.trans htarget
    obtain rfl : other = stage := List.inj_on_of_nodup_map hids (List.mem_of_getElem? hj)
      (List.mem_of_getElem? hi) hid
    have hlt := (List.getElem?_eq_some_iff.mp hi).1
    obtain rfl : i = j := (List.getElem?_inj hlt hids.of_map).mp (hi.trans hj.symm)
    exact hedge
  · intro hedge
    exact ⟨⟨i, stage, hi, hedge⟩, target_of_mem_edgesInto hedge⟩

end

/-! ### Stages that read one table -/

section

variable {nodes : Keyed Node} {node : Node} {earlier : List Stage} {stage : Stage}
  {previous : Option Stage} (hnode : nodes.lookup? stage.id = some node)
  (hresolves : Resolves earlier stage node) (hreads : stage.kind.readsDefault)
include hresolves hreads

theorem Resolves.inputs_of_readsDefault :
    node.inputs = (stage.soughtTable?.bind (producerId? earlier)).toList := by
  obtain ⟨names, hnames, hinputs⟩ := hresolves.inputs_eq
  rw [Stage.referencedTables_of_readsDefault hreads] at hnames
  rw [hinputs, ← Except.ok.inj hnames, inputsBy_toList]

theorem Resolves.inputs_eq_singleton_iff {stages : List Stage} {i k : Nat} {source : Stage}
    {name : String} (hearlier : earlier = stages.take k) (hids : (stages.map (·.id)).Nodup)
    (hname : stage.soughtTable? = some name) (hi : stages[i]? = some source) :
    node.inputs = [source.id] ↔ lastProducer? (stages.take k) name = some (source, i) := by
  rw [hresolves.inputs_of_readsDefault hreads, hname, Option.bind_some, hearlier, producerId?]
  cases hp : lastProducer? (stages.take k) name with
  | none => simp
  | some p =>
    obtain ⟨-, hj, -, -⟩ := lastProducer?_take_eq_some_iff.mp hp
    simp only [Option.map_some, Option.toList_some, List.cons.injEq, and_true, Option.some.injEq]
    constructor
    · intro hid
      have hsame : p.1 = source := List.inj_on_of_nodup_map hids (List.mem_of_getElem? hj)
        (List.mem_of_getElem? hi) hid
      have hlt := (List.getElem?_eq_some_iff.mp hj).1
      have hplace : p.2 = i := (List.getElem?_inj hlt hids.of_map).mp (by rw [hj, hi, hsame])
      rw [← hsame, ← hplace]
    · intro heq
      rw [heq]

include hnode

/-- A table that is produced earlier comes from its last producer, and from nowhere else. -/
theorem edgesInto_of_produced {name : String} {producer : Stage} {i : Nat}
    (hname : stage.soughtTable? = some name)
    (hproducer : lastProducer? earlier name = some (producer, i)) :
    edgesInto nodes previous stage = [⟨producer.id, stage.id, false⟩] := by
  have hinputs := hresolves.inputs_of_readsDefault hreads
  rw [hname, Option.bind_some, producerId?, hproducer, Option.map_some, Option.toList_some]
    at hinputs
  have hkind := StageKind.ne_load_of_readsDefault hreads
  simp only [edgesInto, if_neg hkind, hnode, hinputs]
  rfl

theorem mem_edgesInto_of_not_produced {edge : Edge}
    (hnone : ∀ name, stage.soughtTable? = some name → lastProducer? earlier name = none) :
    edge ∈ edgesInto nodes previous stage ↔
      ∃ p, previous = some p ∧ p.kind ≠ .load ∧ edge = ⟨p.id, stage.id, true⟩ := by
  have hinputs := hresolves.inputs_of_readsDefault hreads
  have hbind : stage.soughtTable?.bind (producerId? earlier) = none := by
    refine Option.bind_eq_none_iff.mpr fun name hname => ?_
    rw [producerId?, hnone name hname, Option.map_none]
  rw [hbind, Option.toList_none] at hinputs
  have hkind := StageKind.ne_load_of_readsDefault hreads
  simp only [edgesInto, if_neg hkind, hnode, hinputs, ne_eq, not_true, if_false]
  cases previous with
  | none => simp
  | some p =>
    by_cases hp : p.kind = .load
    · simp [hp]
    · simp [hp]

theorem mem_edgesInto_of_unsought {edge : Edge} (hname : stage.soughtTable? = none) :
    edge ∈ edgesInto nodes previous stage ↔
      ∃ p, previous = some p ∧ p.kind ≠ .load ∧ edge = ⟨p.id, stage.id, true⟩ := by
  refine mem_edgesInto_of_not_produced hnode hresolves hreads fun name hsome => ?_
  rw [hname] at hsome
  cases hsome

end

end Graph

end StagedSql
