import StagedSql.Proofs.Outcome
import StagedSql.Session.Suggest

/-!
# Runs of operations

What callers ask of a session, one operation after the other. An operation that fails keeps what it
has done so far, and the run goes on. What its single steps keep is kept by every operation.
-/

namespace StagedSql

open Outcome

inductive Operation where
  | loadCsv (file content : String)
  | createTable (definition : Value)
  | deleteTable (id : String)
  | setActive (id : String)
  | addStage (stage : Stage) (active : Option String)
  | updateStage (id : String) (data : Value) (kind : Option StageKind)
      (description active : Option String)
  | rerunStage (id : String) (active : Option String)
  | execute (stage : Stage) (active : Option String)
  | deleteStage (id : String)
  | previewStage (stage : Stage) (active : Option String)
  | importFlow (mode : Value) (keepIds : Bool) (flow : Value)
  | runAll
  | suggest (call : List Chat.Message → Except Fault Value) (goal : Value) (apply : Bool)

namespace Operation

def run : Operation → Action Unit
  | loadCsv file content => do let _ ← Action.loadCsv file content
  | createTable definition => do let _ ← Action.createTable definition
  | deleteTable id => do let _ ← Action.deleteTable id
  | setActive id => do let _ ← Action.setActive id
  | addStage stage active => do let _ ← Action.addStage stage active
  | updateStage id data kind description active => do
    let _ ← Action.updateStageAs id data kind description active
  | rerunStage id active => do let _ ← Action.rerunStage id active
  | execute stage active => do let _ ← Action.execute stage active
  | deleteStage id => do let _ ← Action.deleteStage id
  | previewStage stage active => do let _ ← Action.previewStage stage active
  | importFlow mode keepIds flow => do let _ ← Action.importAs mode keepIds flow
  | runAll => do let _ ← Action.runAll
  | suggest call goal apply => do let _ ← Action.suggestFor call goal apply

/-- The session after the operation, whether it returns or fails. -/
def after (op : Operation) (s : Session) : Session := final op.run s

def Returns (op : Operation) (s : Session) : Prop := fault? op.run s = none

/-- The definitions of tables that an operation may bring. -/
inductive Defines : Operation → Value → Prop
  | created (definition : Value) : Defines (createTable definition) definition
  | suggested {call : List Chat.Message → Except Fault Value} {prompt : List Chat.Message}
      {goal reply : Value} {apply : Bool} {suggestion : Suggestion} {fields : Fields}
      (called : call prompt = .ok reply) (read : Suggestion.ofReply reply = .ok suggestion)
      (mem : fields ∈ suggestion.tables) : Defines (suggest call goal apply) (.object fields)

end Operation

namespace Session

/-- The session after operations, the first one first. -/
def afterAll (s : Session) (ops : List Operation) : Session := ops.foldl (fun s op => op.after s) s

/-- The sessions that some run of operations leads to. -/
def Reachable (s : Session) : Prop :=
  ∃ responder previewRows chatEnabled ops,
    s = (opened responder previewRows chatEnabled).afterAll ops

theorem Reachable.afterAll {s : Session} (h : s.Reachable) (ops : List Operation) :
    (s.afterAll ops).Reachable := by
  obtain ⟨responder, previewRows, chatEnabled, before, rfl⟩ := h
  exact ⟨responder, previewRows, chatEnabled, before ++ ops, (List.foldl_append ..).symm⟩

theorem Reachable.after {s : Session} (h : s.Reachable) (op : Operation) : (op.after s).Reachable :=
  h.afterAll [op]

theorem afterAll_rule {I : Session → Prop} {ops : List Operation}
    (hstep : ∀ op ∈ ops, ∀ s, I s → I (op.after s)) {s : Session} (hs : I s) :
    I (s.afterAll ops) := by
  induction ops generalizing s with
  | nil => exact hs
  | cons op rest ih =>
    exact ih (fun o ho => hstep o (List.mem_cons_of_mem _ ho))
      (hstep op (List.mem_cons_self ..) s hs)

/-- The sessions that operations lead to, each of them allowed in the session it is asked of. -/
inductive ReachableBy (allowed : Session → Operation → Prop) : Session → Prop
  | opened (responder : Engine.Responder) (previewRows : Int) (chatEnabled : Bool) :
      ReachableBy allowed (opened responder previewRows chatEnabled)
  | after {s : Session} {op : Operation} (h : ReachableBy allowed s) (hop : allowed s op) :
      ReachableBy allowed (op.after s)

theorem ReachableBy.reachable {allowed : Session → Operation → Prop} {s : Session}
    (h : s.ReachableBy allowed) : s.Reachable := by
  induction h with
  | opened responder previewRows chatEnabled => exact ⟨_, _, _, [], rfl⟩
  | after h hop ih => exact ih.after _

inductive LeadsTo (allowed : Session → Operation → Prop) (s : Session) : Session → Prop
  | refl : LeadsTo allowed s s
  | after {t : Session} {op : Operation} (h : LeadsTo allowed s t) (hop : allowed t op) :
      LeadsTo allowed s (op.after t)

theorem ReachableBy.leadsTo {allowed : Session → Operation → Prop} {s t : Session}
    (h : s.ReachableBy allowed) (ht : s.LeadsTo allowed t) : t.ReachableBy allowed := by
  induction ht with
  | refl => exact h
  | after ht hop ih => exact .after ih hop

/-! ### Sessions to begin with -/

/-- A session with an engine that takes every statement and has nothing to show for it. -/
def silent (chatEnabled : Bool) : Session := opened (fun _ _ => .ok .none) 100 chatEnabled

theorem reachable_silent (chatEnabled : Bool) : (silent chatEnabled).Reachable :=
  ⟨_, _, _, [], rfl⟩

/-- A session with one stage. -/
def single : Session :=
  (Operation.addStage ⟨"a", .custom, "", [("sql", .text "SELECT 1")]⟩ none).after (silent false)

theorem reachable_single : single.Reachable := (reachable_silent false).after _

/-- The definition of a table with one column. -/
def singleColumn (name : String) : Value :=
  .object [("name", .text name), ("columns", .list [.text "id"])]

end Session

theorem Suggestion.replyOf_eq_ok {answer : Except Fault Value} {reply : Value}
    (h : Suggestion.replyOf answer = .ok reply) : answer = .ok reply := by
  cases answer with
  | ok v => exact h
  | error fault =>
    simp only [Suggestion.replyOf] at h
    split at h <;> cases h

def Session.suggestion (s : Session) (call : List Chat.Message → Except Fault Value) (goal : String) :
    Except Fault Suggestion :=
  if !s.chatEnabled then .error (.pipeline .suggestionUnavailable)
  else if Text.stripped goal = "" then .error (.pipeline (.suggestion .emptyPrompt))
  else Suggestion.replyOf (call (s.store.suggestionPrompt goal)) >>= Suggestion.ofReply

theorem Session.exists_reply_of_suggestion {s : Session}
    {call : List Chat.Message → Except Fault Value} {goal : String} {suggestion : Suggestion}
    (h : s.suggestion call goal = .ok suggestion) :
    ∃ reply, call (s.store.suggestionPrompt goal) = .ok reply ∧
      Suggestion.ofReply reply = .ok suggestion := by
  unfold Session.suggestion at h
  split at h
  · cases h
  · split at h
    · cases h
    · obtain ⟨reply, hreply, hread⟩ := exists_of_bind_ok h
      exact ⟨reply, Suggestion.replyOf_eq_ok hreply, hread⟩

namespace Action

/-! ### Adding a stage -/

theorem addStage_of_new {s : Session} {stage : Stage} (active : Option String)
    (h : (s.store.stageIndex? stage.id).isSome = false) :
    addStage stage active s = execute stage active s := by
  unfold addStage
  rw [bind_of_ok (store_apply _), if_neg (by simp [h])]

theorem addStage_of_taken {s : Session} {stage : Stage} (active : Option String)
    (h : (s.store.stageIndex? stage.id).isSome = true) :
    addStage stage active s =
      execute { stage with id := Stage.mintedId (s.stagesMinted + 1) } active
        { s with stagesMinted := s.stagesMinted + 1 } := by
  have hmint : mintStageId s = .ok (Stage.mintedId (s.stagesMinted + 1))
    { s with stagesMinted := s.stagesMinted + 1 } := rfl
  unfold addStage
  rw [bind_of_ok (store_apply _), if_pos h, bind_of_ok hmint]

theorem addStage_rule {I : Session → Prop}
    (hminted : ∀ s n, I s → I { s with stagesMinted := n })
    (hexecute : ∀ stage active s, I s → I (final (execute stage active) s))
    (stage : Stage) (active : Option String) {s : Session} (hs : I s) :
    I (final (addStage stage active) s) := by
  unfold final
  cases hi : (s.store.stageIndex? stage.id).isSome with
  | false =>
    rw [addStage_of_new active hi]
    exact hexecute stage active s hs
  | true =>
    rw [addStage_of_taken active hi]
    exact hexecute _ active _ (hminted s _ hs)

/-! ### Editing and running again -/

/-- An update is refused at once, or it executes the edited stage. -/
theorem updateStageAs_cases (id : String) (data : Value) (kind : Option StageKind)
    (description active : Option String) (s : Session) :
    (∃ fault, updateStageAs id data kind description active s = .error fault s) ∨
      ∃ stage fields, s.store.getStage id = .ok stage ∧
        updateStageAs id data kind description active s =
          execute (edited stage fields kind description) active s := by
  have hupdate : ∀ fields, (∃ fault, updateStage id fields kind description active s =
        .error fault s) ∨ ∃ stage, s.store.getStage id = .ok stage ∧
      updateStage id fields kind description active s =
        execute (edited stage fields kind description) active s := by
    intro fields
    unfold updateStage
    rw [bind_of_ok (store_apply _)]
    cases hg : s.store.getStage id with
    | error e => exact .inl ⟨_, rfl⟩
    | ok stage => exact .inr ⟨stage, rfl, rfl⟩
  unfold updateStageAs
  split
  · next fields => exact (hupdate fields).imp_right fun ⟨stage, h⟩ => ⟨stage, fields, h⟩
  · exact (hupdate []).imp_right fun ⟨stage, h⟩ => ⟨stage, [], h⟩
  · exact (hupdate []).imp_right fun ⟨stage, h⟩ => ⟨stage, [], h⟩
  · rw [bind_of_ok (store_apply _)]
    cases hg : s.store.getStage id with
    | error e => exact .inl ⟨_, rfl⟩
    | ok stage => exact .inl ⟨_, rfl⟩

theorem rerunStage_cases (id : String) (active : Option String) (s : Session) :
    (∃ fault, rerunStage id active s = .error fault s) ∨
      ∃ stage, s.store.getStage id = .ok stage ∧
        rerunStage id active s = execute stage active s := by
  unfold rerunStage
  rw [bind_of_ok (store_apply _)]
  cases hg : s.store.getStage id with
  | error e => exact .inl ⟨_, rfl⟩
  | ok stage => exact .inr ⟨stage, rfl, rfl⟩

theorem previewStage_final (stage : Stage) (active : Option String) (s : Session) :
    final (previewStage stage active) s = s := by
  unfold previewStage
  rw [final_bind_of_ok (store_apply _)]
  cases Materialization.preview s.store stage active <;> rfl

theorem final_changeIf {α : Type} (f : Store → Except PipelineError (α × Store)) (s : Session) :
    final (changeIf f) s = s ∨ ∃ a store, f s.store = .ok (a, store) ∧
      final (changeIf f) s = { s with store } := by
  unfold final changeIf
  cases hf : f s.store with
  | error e => exact .inl rfl
  | ok r => exact .inr ⟨r.1, r.2, rfl, rfl⟩

/-! ### Taking charge of errors -/

theorem orPipelineError_of_ok {α : Type} {m : Action α} {a : α} {s t : Session}
    (h : m s = .ok a t) : orPipelineError m s = .ok (.ok a) t := by
  have hmap : (Except.ok <$> m : Action (Except PipelineError α)) s = .ok (.ok a) t := by
    show EStateM.map _ m s = _
    simp only [EStateM.map, h]
  exact tryCatch_of_ok hmap

theorem orPipelineError_of_error {α : Type} {m : Action α} {fault : Fault} {s t : Session}
    (h : m s = .error fault t) :
    orPipelineError m s = match fault with
      | .pipeline e => .ok (.error e) t
      | fault => .error fault t := by
  have hmap : (Except.ok <$> m : Action (Except PipelineError α)) s = .error fault t := by
    show EStateM.map _ m s = _
    simp only [EStateM.map, h]
  unfold orPipelineError
  rw [tryCatch_of_error hmap]
  cases fault <;> rfl

/-! ### Importing -/

/-- An import given as a value is refused at once, or it is an import of candidates. -/
theorem importAs_cases (mode : Value) (keepIds : Bool) (flow : Value) :
    (∃ fault, importAs mode keepIds flow = throw fault) ∨
      ∃ m candidates, flow.elements? = some candidates ∧
        importAs mode keepIds flow = importFlow m keepIds candidates := by
  unfold importAs
  cases ImportMode.ofValue? mode with
  | none => exact .inl ⟨_, rfl⟩
  | some m =>
    cases flow.elements? with
    | none => exact .inl ⟨_, rfl⟩
    | some candidates => exact .inr ⟨m, candidates, rfl, rfl⟩

theorem runAll_apply (s : Session) :
    runAll s = importFlow .replace true
      (s.store.stages.map fun stage => stage.toValue.interchange) s := by
  unfold runAll
  rw [bind_of_ok (store_apply _)]

/-! ### Suggestions -/

theorem createTables_cons (fields : Fields) (rest : List Fields) (s : Session) :
    createTables (fields :: rest) s = match createTable (.object fields) s with
      | .ok table t => (createTables rest >>= fun tables => pure (table :: tables)) t
      | .error (.pipeline _) t => createTables rest t
      | .error fault t => .error fault t := by
  rw [createTables]
  cases hr : createTable (.object fields) s with
  | ok table t => rw [bind_of_ok (orPipelineError_of_ok hr)]
  | error fault t =>
    have hcaught := orPipelineError_of_error hr
    cases fault with
    | pipeline e => rw [bind_of_ok hcaught]
    | _ => rw [bind_of_error hcaught]

theorem createTables_rule {I : Session → Prop} {definitions : List Fields}
    (hcreate : ∀ fields ∈ definitions, ∀ s, I s → I (final (createTable (.object fields)) s))
    {s : Session} (hs : I s) : I (final (createTables definitions) s) := by
  induction definitions generalizing s with
  | nil => exact hs
  | cons fields rest ih =>
    have hrest : ∀ t, I t → I (final (createTables rest) t) := fun t ht =>
      ih (fun f hf => hcreate f (List.mem_cons_of_mem _ hf)) ht
    have hfirst := hcreate fields (List.mem_cons_self ..) s hs
    have hcons := createTables_cons fields rest s
    cases hc : createTable (.object fields) s with
    | ok table t =>
      rw [final_of_ok hc] at hfirst
      rw [hc] at hcons
      dsimp only at hcons
      rw [final_congr hcons, final_bind_pure]
      exact hrest t hfirst
    | error fault t =>
      rw [final_of_error hc] at hfirst
      rw [hc] at hcons
      cases fault with
      | pipeline e =>
        dsimp only at hcons
        rw [final_congr hcons]
        exact hrest t hfirst
      | _ =>
        rw [final_of_error hcons]
        exact hfirst

/-- Creates the tables of a suggestion and screens its stages, to run them if they are wanted. -/
def takeIn (suggestion : Suggestion) (apply : Bool) : Action SuggestionReport := do
  let created ← createTables suggestion.tables
  let screening ← screened false suggestion.stages
  let report : SuggestionReport :=
    ⟨suggestion, screening.accepted, screening.dropped, created, none⟩
  if apply ∧ screening.accepted ≠ [] then
    let items := screening.accepted.map fun s => s.toValue.interchange
    return { report with applied := some (← importFlow .append true items) }
  else return report

/-- Nothing happens before there is a suggestion. -/
theorem suggest_apply (call : List Chat.Message → Except Fault Value) (goal : String) (apply : Bool)
    (s : Session) :
    suggest call goal apply s = match s.suggestion call goal with
      | .ok suggestion => takeIn suggestion apply s
      | .error fault => .error fault s := by
  have hget : (get : Action Session) s = .ok s s := rfl
  unfold suggest Session.suggestion
  rw [bind_of_ok hget]
  by_cases henabled : (!s.chatEnabled) = true
  · simp only [if_pos henabled]
    rfl
  by_cases hgoal : Text.stripped goal = ""
  · simp only [if_neg henabled, if_pos hgoal]
    rfl
  simp only [if_neg henabled, if_neg hgoal]
  rw [bind_of_ok (store_apply s)]
  cases Suggestion.replyOf (call (s.store.suggestionPrompt goal)) with
  | error fault => rfl
  | ok reply =>
    have hreply : ofExcept (.ok reply : Except Fault Value) s = .ok reply s := rfl
    have hbind : (Except.ok reply >>= Suggestion.ofReply : Except Fault Suggestion) =
      Suggestion.ofReply reply := rfl
    rw [bind_of_ok hreply, hbind]
    cases Suggestion.ofReply reply with
    | error fault => rfl
    | ok suggestion => rfl

theorem suggestFor_cases (call : List Chat.Message → Except Fault Value) (goal : Value) (apply : Bool)
    (s : Session) :
    (∃ fault, suggestFor call goal apply s = .error fault s) ∨
      ∃ text, suggestFor call goal apply s = suggest call text apply s := by
  have hget : (get : Action Session) s = .ok s s := rfl
  unfold suggestFor
  split
  · exact .inr ⟨_, rfl⟩
  · rw [bind_of_ok hget]
    split
    · exact .inl ⟨_, rfl⟩
    · exact .inr ⟨_, rfl⟩

theorem screened_apply (keepIds : Bool) (candidates : List Value) (s : Session) :
    screened keepIds candidates s = .ok (Flow.screen keepIds 0 s.stagesMinted candidates)
      { s with stagesMinted := (Flow.screen keepIds 0 s.stagesMinted candidates).minted } := rfl

/-- What creating the suggested tables, screening and importing keep. -/
theorem takeIn_rule {I : Session → Prop} {suggestion : Suggestion} {apply : Bool}
    (hcreate : ∀ fields ∈ suggestion.tables, ∀ s, I s →
      I (final (createTable (.object fields)) s))
    (hscreened : ∀ s n, I s → I { s with stagesMinted := n })
    (himport : ∀ items s, I s → I (final (importFlow .append true items) s))
    {s : Session} (hs : I s) : I (final (takeIn suggestion apply) s) := by
  have hcreated := createTables_rule hcreate hs
  unfold takeIn
  cases hc : createTables suggestion.tables s with
  | error fault t =>
    rw [final_of_error hc] at hcreated
    rw [final_bind_of_error hc]
    exact hcreated
  | ok created t =>
    rw [final_of_ok hc] at hcreated
    rw [final_bind_of_ok hc, final_bind_of_ok (screened_apply ..)]
    dsimp only
    split
    · rw [final_bind_pure]
      exact himport _ _ (hscreened t _ hcreated)
    · exact hscreened t _ hcreated

theorem suggestFor_rule {I : Session → Prop} {call : List Chat.Message → Except Fault Value}
    {goal : Value} {apply : Bool}
    (hcreate : ∀ definition, (Operation.suggest call goal apply).Defines definition →
      ∀ s, I s → I (final (createTable definition) s))
    (hscreened : ∀ s n, I s → I { s with stagesMinted := n })
    (himport : ∀ items s, I s → I (final (importFlow .append true items) s))
    {s : Session} (hs : I s) : I (final (suggestFor call goal apply) s) := by
  rcases suggestFor_cases call goal apply s with ⟨fault, heq⟩ | ⟨text, heq⟩
  · rw [final_of_error heq]
    exact hs
  rw [final_congr heq]
  have happly := suggest_apply call text apply s
  cases hsuggestion : s.suggestion call text with
  | error fault =>
    rw [hsuggestion] at happly
    rw [final_of_error happly]
    exact hs
  | ok suggestion =>
    rw [hsuggestion] at happly
    dsimp only at happly
    obtain ⟨reply, hcalled, hread⟩ := Session.exists_reply_of_suggestion hsuggestion
    rw [final_congr happly]
    exact takeIn_rule (fun fields hfields => hcreate _ (.suggested hcalled hread hfields)) hscreened
      himport hs

end Action

/-- What the single steps of operations keep is kept by every operation. -/
theorem Operation.after_rule {I : Session → Prop} {op : Operation}
    (hminted : ∀ s n, I s → I { s with stagesMinted := n })
    (hloadCsv : ∀ file content s, I s → I (final (Action.loadCsv file content) s))
    (hcreateTable : ∀ definition, op.Defines definition → ∀ s, I s →
      I (final (Action.createTable definition) s))
    (hdeleteTable : ∀ id s, I s → I (final (Action.deleteTable id) s))
    (hsetActive : ∀ id s t store, s.store.setActive id = .ok (t, store) → I s →
      I { s with store })
    (hremoveStage : ∀ id s t store, s.store.removeStage id = .ok (t, store) → I s →
      I { s with store })
    (hexecute : ∀ stage active s, I s → I (final (Action.execute stage active) s))
    (himportFlow : ∀ mode keepIds candidates s, I s →
      I (final (Action.importFlow mode keepIds candidates) s))
    {s : Session} (hs : I s) : I (op.after s) := by
  cases op <;> rw [Operation.after, Operation.run, final_bind_pure]
  case loadCsv file content => exact hloadCsv file content s hs
  case createTable definition => exact hcreateTable definition (.created _) s hs
  case deleteTable id => exact hdeleteTable id s hs
  case setActive id =>
    rcases Action.final_changeIf (fun st => st.setActive id) s with heq | ⟨t, store, hr, heq⟩
    · rw [Action.setActive, heq]
      exact hs
    · rw [Action.setActive, heq]
      exact hsetActive id s t store hr hs
  case addStage stage active => exact Action.addStage_rule hminted hexecute stage active hs
  case updateStage id data kind description active =>
    rcases Action.updateStageAs_cases id data kind description active s with
      ⟨fault, heq⟩ | ⟨stage, fields, -, heq⟩
    · rw [final_of_error heq]
      exact hs
    · rw [final, heq]
      exact hexecute _ active s hs
  case rerunStage id active =>
    rcases Action.rerunStage_cases id active s with ⟨fault, heq⟩ | ⟨stage, -, heq⟩
    · rw [final_of_error heq]
      exact hs
    · rw [final, heq]
      exact hexecute _ active s hs
  case execute stage active => exact hexecute stage active s hs
  case deleteStage id =>
    rcases Action.final_changeIf (fun st => st.removeStage id) s with heq | ⟨t, store, hr, heq⟩
    · rw [Action.deleteStage, heq]
      exact hs
    · rw [Action.deleteStage, heq]
      exact hremoveStage id s t store hr hs
  case previewStage stage active =>
    rw [Action.previewStage_final]
    exact hs
  case importFlow mode keepIds flow =>
    rcases Action.importAs_cases mode keepIds flow with ⟨fault, heq⟩ | ⟨m, candidates, -, heq⟩
    · rw [heq]
      exact hs
    · rw [heq]
      exact himportFlow m keepIds candidates s hs
  case runAll =>
    rw [final, Action.runAll_apply]
    exact himportFlow .replace true _ s hs
  case suggest call goal apply =>
    exact Action.suggestFor_rule hcreateTable hminted
      (fun items t ht => himportFlow .append true items t ht) hs

end StagedSql
