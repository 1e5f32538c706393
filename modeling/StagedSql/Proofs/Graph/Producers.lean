import Mathlib.Data.List.Induction
import StagedSql.Graph
import StagedSql.Proofs.Keyed
import StagedSql.Proofs.TableName

/-!
# Producers and inputs

The pass over the stages keeps the last producer of every name, so the node of a stage has the last
producers among the earlier stages as its inputs.
-/

namespace StagedSql

theorem getElem?_concat_eq_some {α : Type} {items : List α} {last a : α} {i : Nat}
    (h : (items ++ [last])[i]? = some a) : items[i]? = some a ∨ i = items.length ∧ a = last := by
  rcases Nat.lt_trichotomy i items.length with hlt | rfl | hgt
  · rw [List.getElem?_append_left hlt] at h
    exact .inl h
  · rw [List.getElem?_concat_length] at h
    exact .inr ⟨rfl, (Option.some.inj h).symm⟩
  · have hle : (items ++ [last]).length ≤ i := by
      rw [List.length_append, List.length_singleton]
      omega
    rw [List.getElem?_eq_none hle] at h
    cases h

/-! ### Names of outputs -/

namespace Stage

/-- The name that the output of a stage has at position `i`. -/
def outputName? (s : Stage) (i : Nat) : Option String :=
  match s.kind with
  | .load => (s.entry "tableName").givenText?
  | kind => some (TableName.result i kind)

/-- The stage is a join that is also found under a name made of the names of its tables. -/
def JoinsAs (s : Stage) (name : String) : Prop :=
  s.kind = .join ∧ (s.entry "leftTable").isGiven ∧ (s.entry "rightTable").isGiven ∧
    name = TableName.joined (s.entry "leftTable").display (s.entry "rightTable").display

variable {s : Stage} {i j : Nat} {name : String}

theorem outputName?_of_load (h : s.kind = .load) :
    s.outputName? i = (s.entry "tableName").givenText? := by
  simp only [outputName?, h]

theorem outputName?_of_ne_load (h : s.kind ≠ .load) :
    s.outputName? i = some (TableName.result i s.kind) := by
  unfold outputName?
  split
  · next hload => exact absurd hload h
  · rfl

/-- A stage produces the name of its output and, if it is a join, the name made of its tables. -/
theorem mem_producedTables_iff :
    name ∈ s.producedTables i ↔ s.outputName? i = some name ∨ s.JoinsAs name := by
  unfold producedTables outputName? JoinsAs
  cases s.kind with
  | load => simp
  | join =>
    cases hl : (s.entry "leftTable").isGiven <;> cases hr : (s.entry "rightTable").isGiven <;>
      simp [hl, hr, eq_comm (a := name)]
  | _ => simp [eq_comm (a := name)]

theorem JoinsAs.ne_result (h : s.JoinsAs name) (kind : StageKind) : name ≠ TableName.result i kind := by
  rw [h.2.2.2]
  exact TableName.joined_ne_result _ _ i kind

theorem eq_of_outputName? {t : Stage} (hs : s.kind ≠ .load) (ht : t.kind ≠ .load)
    (h : s.outputName? i = some name) (h' : t.outputName? j = some name) : i = j := by
  rw [outputName?_of_ne_load hs] at h
  rw [outputName?_of_ne_load ht] at h'
  exact TableName.result_injective ((Option.some.inj h).trans (Option.some.inj h').symm)

end Stage

namespace Graph

/-! ### The last producer of a name -/

/-- The stage that is the last one to produce a name, with its position. -/
def lastProducer? (stages : List Stage) (name : String) : Option (Stage × Nat) :=
  stages.zipIdx.reverse.find? fun s => name ∈ s.1.producedTables s.2

section

variable {stages : List Stage} {name : String} {stage : Stage} {i : Nat}

theorem lastProducer?_concat (stages : List Stage) (stage : Stage) (name : String) :
    lastProducer? (stages ++ [stage]) name =
      if name ∈ stage.producedTables stages.length then some (stage, stages.length)
      else lastProducer? stages name := by
  simp only [lastProducer?, List.zipIdx_append, List.zipIdx_singleton, List.reverse_append,
    List.reverse_singleton, List.singleton_append, List.find?_cons, Nat.zero_add]
  by_cases h : name ∈ stage.producedTables stages.length <;> simp [h]

theorem lastProducer?_eq_none_iff :
    lastProducer? stages name = none ↔
      ∀ (i : Nat) (s : Stage), stages[i]? = some s → name ∉ s.producedTables i := by
  simp only [lastProducer?, List.find?_eq_none, List.mem_reverse, decide_eq_true_eq, Prod.forall,
    List.mem_zipIdx_iff_getElem?]
  exact ⟨fun h i s hi => h s i hi, fun h s i hi => h i s hi⟩

theorem produces_of_lastProducer? (h : lastProducer? stages name = some (stage, i)) :
    stages[i]? = some stage ∧ name ∈ stage.producedTables i := by
  have hmem := List.mem_reverse.mp (List.mem_of_find?_eq_some h)
  exact ⟨List.mem_zipIdx_iff_getElem?.mp hmem, by simpa using List.find?_some h⟩

theorem not_produced_after (h : lastProducer? stages name = some (stage, i)) {j : Nat} (hij : i < j)
    {later : Stage} (hj : stages[j]? = some later) : name ∉ later.producedTables j := by
  induction stages using List.reverseRecOn with
  | nil => cases h
  | append_singleton rest last ih =>
    rw [lastProducer?_concat] at h
    split at h
    · obtain ⟨-, rfl⟩ := Prod.mk.inj (Option.some.inj h)
      have hlt := (List.getElem?_eq_some_iff.mp hj).1
      rw [List.length_append, List.length_singleton] at hlt
      omega
    · next hlast =>
      rcases getElem?_concat_eq_some hj with hj | ⟨rfl, rfl⟩
      · exact ih h hj
      · exact hlast

theorem lastProducer?_eq_some_iff :
    lastProducer? stages name = some (stage, i) ↔
      stages[i]? = some stage ∧ name ∈ stage.producedTables i ∧
        ∀ (j : Nat) (later : Stage), i < j → stages[j]? = some later →
          name ∉ later.producedTables j := by
  constructor
  · intro h
    obtain ⟨hi, hname⟩ := produces_of_lastProducer? h
    exact ⟨hi, hname, fun j later hij hj => not_produced_after h hij hj⟩
  · intro ⟨hi, hname, hlast⟩
    cases hp : lastProducer? stages name with
    | none => exact absurd hname (lastProducer?_eq_none_iff.mp hp i stage hi)
    | some p =>
      obtain ⟨hj, hname'⟩ := produces_of_lastProducer? hp
      rcases Nat.lt_trichotomy i p.2 with hlt | heq | hgt
      · exact absurd hname' (hlast _ _ hlt hj)
      · rw [← heq, hi] at hj
        rw [Option.some.inj hj, heq]
      · exact absurd hname (not_produced_after hp hgt hi)

/-- Only a LOAD stage hides a stage that has built an output. -/
theorem lastProducer?_of_outputName? (hi : stages[i]? = some stage) (hload : stage.kind ≠ .load)
    (hname : stage.outputName? i = some name) :
    ∃ last j, lastProducer? stages name = some (last, j) ∧
      (i = j ∧ last = stage ∨ i < j ∧ last.kind = .load ∧ last.outputName? j = some name) := by
  have hproduced : name ∈ stage.producedTables i := Stage.mem_producedTables_iff.mpr (.inl hname)
  cases hp : lastProducer? stages name with
  | none => exact absurd hproduced (lastProducer?_eq_none_iff.mp hp i stage hi)
  | some p =>
    obtain ⟨last, j⟩ := p
    obtain ⟨hj, hlast⟩ := produces_of_lastProducer? hp
    refine ⟨last, j, rfl, ?_⟩
    rcases Nat.lt_trichotomy i j with hlt | rfl | hgt
    · rcases Stage.mem_producedTables_iff.mp hlast with hsame | hjoins
      · by_cases hkind : last.kind = .load
        · exact .inr ⟨hlt, hkind, hsame⟩
        · exact absurd (Stage.eq_of_outputName? hload hkind hname hsame) (Nat.ne_of_lt hlt)
      · rw [Stage.outputName?_of_ne_load hload] at hname
        exact absurd (Option.some.inj hname).symm (hjoins.ne_result _)
    · rw [hi] at hj
      exact .inl ⟨rfl, (Option.some.inj hj).symm⟩
    · exact absurd hproduced (not_produced_after hp hgt hi)

theorem lastProducer?_take_eq_some_iff {k : Nat} :
    lastProducer? (stages.take k) name = some (stage, i) ↔
      i < k ∧ stages[i]? = some stage ∧ name ∈ stage.producedTables i ∧
        ∀ (j : Nat) (other : Stage), i < j → j < k → stages[j]? = some other →
          name ∉ other.producedTables j := by
  have htake : ∀ (j : Nat) (other : Stage),
      (stages.take k)[j]? = some other ↔ j < k ∧ stages[j]? = some other := by
    intro j other
    rw [List.getElem?_take]
    split
    · next hj => exact ⟨fun h => ⟨hj, h⟩, fun h => h.2⟩
    · next hj => exact ⟨nofun, fun h => absurd h.1 hj⟩
  rw [lastProducer?_eq_some_iff, htake, and_assoc]
  refine and_congr_right fun hik => and_congr_right fun hi => and_congr_right fun _ => ?_
  constructor
  · exact fun hlast j other hij hjk hj => hlast j other hij ((htake j other).mpr ⟨hjk, hj⟩)
  · intro hlast j other hij hj
    obtain ⟨hjk, hj⟩ := (htake j other).mp hj
    exact hlast j other hij hjk hj

end

/-! ### Inputs -/

/-- The ids that `producer?` gives for names, each once, in the order of first mention. -/
def inputsBy (producer? : String → Option String) (names : List String) : List String :=
  names.foldl (fun inputs name =>
    match producer? name with
    | some p => if p ∈ inputs then inputs else inputs ++ [p]
    | none => inputs) []

theorem inputsOf_eq (producers : Keyed String) (names : List String) :
    inputsOf producers names = inputsBy producers.lookup? names := rfl

@[simp] theorem inputsBy_toList (producer? : String → Option String) (name : Option String) :
    inputsBy producer? name.toList = (name.bind producer?).toList := by
  cases name with
  | none => rfl
  | some n =>
    simp only [inputsBy, Option.toList_some, List.foldl_cons, List.foldl_nil, Option.bind_some]
    cases producer? n <;> simp

def producerId? (stages : List Stage) (name : String) : Option String :=
  (lastProducer? stages name).map (·.1.id)

/-- A node has the last producers of the names that the stage refers to as its inputs. -/
structure Resolves (earlier : List Stage) (stage : Stage) (node : Node) : Prop where
  stage_eq : node.stage = stage
  inputs_eq : ∃ names, stage.referencedTables = .ok names ∧
    node.inputs = inputsBy (producerId? earlier) names

/-! ### The pass -/

structure Passed (done : List Stage) (g : Progress) : Prop where
  producers : ∀ name, g.producers.lookup? name = producerId? done name
  nodes : ∀ (i : Nat) (stage : Stage), done[i]? = some stage →
    ∃ node, g.nodes.lookup? stage.id = some node ∧ Resolves (done.take i) stage node

theorem lookup?_registered (names : List String) (id : String) (known : Keyed String)
    (name : String) :
    (names.foldl (fun known name => known.put name id) known).lookup? name =
      if name ∈ names then some id else known.lookup? name := by
  induction names generalizing known with
  | nil => simp
  | cons first rest ih =>
    rw [List.foldl_cons, ih]
    by_cases hrest : name ∈ rest
    · simp [hrest]
    · by_cases hfirst : name = first
      · simp [hfirst, Keyed.lookup?_put_self]
      · simp [hrest, hfirst, Keyed.lookup?_put_of_ne]

variable {done rest : List Stage} {g : Progress}

theorem Passed.pass (h : Passed done g) {stage : Stage} {names : List String}
    (hnames : stage.referencedTables = .ok names) (hid : stage.id ∉ done.map (·.id)) :
    ∃ next, g.pass done.length stage = .ok next ∧ Passed (done ++ [stage]) next := by
  have hproducers : g.producers.lookup? = producerId? done := funext h.producers
  unfold Progress.pass
  rw [hnames]
  refine ⟨_, rfl, ?_, ?_⟩
  · intro name
    dsimp only
    rw [lookup?_registered, producerId?, lastProducer?_concat, h.producers]
    split <;> rfl
  · intro i st hi
    rcases getElem?_concat_eq_some hi with hi | ⟨rfl, rfl⟩
    · obtain ⟨node, hnode, hresolves⟩ := h.nodes i st hi
      have hne : st.id ≠ stage.id := fun heq =>
        hid (heq ▸ List.mem_map_of_mem (List.mem_of_getElem? hi))
      have hle := Nat.le_of_lt (List.getElem?_eq_some_iff.mp hi).1
      refine ⟨node, ?_, ?_⟩
      · rw [Keyed.lookup?_put_of_ne hne, Keyed.lookup?_put_of_ne hne, hnode]
      · rwa [List.take_append_of_le_length hle]
    · refine ⟨_, Keyed.lookup?_put_self .., rfl, names, hnames, ?_⟩
      dsimp only
      rw [List.take_left, inputsOf_eq, hproducers]

theorem Passed.passAll (h : Passed done g)
    (hnames : ∀ stage ∈ rest, ∃ names, stage.referencedTables = .ok names)
    (hids : ((done ++ rest).map (·.id)).Nodup) :
    ∃ next, g.passAll done.length rest = .ok next ∧ Passed (done ++ rest) next := by
  induction rest generalizing done g with
  | nil => exact ⟨g, rfl, by rwa [List.append_nil]⟩
  | cons stage rest ih =>
    obtain ⟨names, hfirst⟩ := hnames stage (List.mem_cons_self ..)
    have hid : stage.id ∉ done.map (·.id) := by
      rw [List.map_append, List.nodup_append] at hids
      exact fun hmem => hids.2.2 _ hmem _ (List.mem_cons_self ..) rfl
    obtain ⟨g', hpass, hg'⟩ := h.pass hfirst hid
    rw [List.append_cons] at hids ⊢
    obtain ⟨next, hnext, hpassed⟩ := ih hg'
      (fun st hst => hnames st (List.mem_cons_of_mem _ hst)) hids
    refine ⟨next, ?_, hpassed⟩
    rw [Progress.passAll, hpass, ← hnext, List.length_append, List.length_singleton]
    rfl

/-- If the references of all stages can be told, every stage has a node with its last producers. -/
theorem build_resolves {stages : List Stage}
    (hnames : ∀ stage ∈ stages, ∃ names, stage.referencedTables = .ok names)
    (hids : (stages.map (·.id)).Nodup) :
    ∃ nodes, build stages = .ok nodes ∧ ∀ (i : Nat) (stage : Stage), stages[i]? = some stage →
      ∃ node, nodes.lookup? stage.id = some node ∧ Resolves (stages.take i) stage node := by
  have hstart : Passed [] ⟨[], []⟩ := ⟨fun _ => rfl, fun i stage hi => by cases hi⟩
  obtain ⟨g, hpass, hpassed⟩ := hstart.passAll hnames hids
  refine ⟨g.nodes, ?_, hpassed.nodes⟩
  have hpass : (Progress.mk [] []).passAll 0 stages = .ok g := hpass
  rw [build, hpass]
  rfl

end Graph

end StagedSql
