import StagedSql.Proofs.Chat.Client
import StagedSql.Proofs.Session.Completeness
import StagedSql.Proofs.Session.Suggesting

/-!
# How asking for a suggestion fails

A suggestion that cannot be had is reported as such, and then nothing has happened. A few faults are not
taken charge of: a call, a reply or a definition of an unexpected kind breaks the suggestion off, with
the tables created so far left behind.
-/

namespace StagedSql

open Engine Engine.Work Outcome

def PipelineError.IsSuggestionFailure (e : PipelineError) : Prop :=
  e = .suggestionUnavailable ∨ ∃ p, e = .suggestion p

/-! ### Definitions of tables -/

namespace TableDefinition

def IsRefusal (fault : Fault) : Prop := ∃ p, fault = .pipeline (.definition p)

/-- The field is given, but its value cannot be walked through. -/
def Unlisted (fields : Fields) (key : String) : Prop :=
  (Value.field fields key).isGiven = true ∧ (Value.field fields key).elements? = none

/-- The columns of a named definition cannot be walked through, or its rows, if it has columns. -/
def Breaks (fields : Fields) : Prop :=
  (∃ name, readName fields = .ok name) ∧
    (Unlisted fields "columns" ∨
      (∃ columns, readColumns fields = .ok columns) ∧ Unlisted fields "rows")

theorem isRefusal_readName (fields : Fields) : FailsWith IsRefusal (readName fields) := by
  unfold readName
  split
  · split
    · exact .ok _
    · exact .error ⟨_, rfl⟩
  · exact .error ⟨_, rfl⟩

theorem isRefusal_readColumn (v : Value) : FailsWith IsRefusal (readColumn v) := by
  unfold readColumn
  split
  · exact .ok _
  · split
    · exact .ok _
    · exact .error ⟨_, rfl⟩
  · exact .error ⟨_, rfl⟩

theorem isRefusal_readRow (names : List String) (v : Value) :
    FailsWith IsRefusal (readRow names v) := by
  unfold readRow
  split
  · exact .ok _
  · split
    · exact .ok _
    · exact .error ⟨_, rfl⟩
  · exact .error ⟨_, rfl⟩

variable {fields : Fields}

theorem readElements_eq_error_iff {key : String} {fault : Fault} :
    readElements fields key = .error fault ↔ fault = .wrongKind ∧ Unlisted fields key := by
  unfold readElements Unlisted
  by_cases hgiven : (Value.field fields key).isGiven = true
  · simp only [hgiven, if_true]
    cases (Value.field fields key).elements? with
    | none => simp [eq_comm]
    | some items => simp
  · simp [hgiven]

theorem readColumns_error {fault : Fault} (h : readColumns fields = .error fault) :
    IsRefusal fault ∨ fault = .wrongKind ∧ Unlisted fields "columns" := by
  rcases cases_of_bind_error h with h | ⟨items, -, h⟩
  · exact .inr (readElements_eq_error_iff.mp h)
  · refine .inl (FailsWith.bind (FailsWith.mapM isRefusal_readColumn) (fun columns => ?_) fault h)
    split
    · exact .error ⟨_, rfl⟩
    · exact .ok _

theorem read_error {fault : Fault} (h : read (.object fields) = .error fault) :
    IsRefusal fault ∨ fault = .wrongKind ∧ Breaks fields := by
  rcases cases_of_bind_error h with h | ⟨name, hname, h⟩
  · exact .inl (isRefusal_readName fields fault h)
  rcases cases_of_bind_error h with h | ⟨columns, hcolumns, h⟩
  · refine (readColumns_error h).imp_right ?_
    rintro ⟨rfl, hunlisted⟩
    exact ⟨rfl, ⟨name, hname⟩, .inl hunlisted⟩
  rcases cases_of_bind_error h with h | ⟨items, -, h⟩
  · obtain ⟨rfl, hunlisted⟩ := readElements_eq_error_iff.mp h
    exact .inr ⟨rfl, ⟨name, hname⟩, .inr ⟨⟨columns, hcolumns⟩, hunlisted⟩⟩
  · exact .inl ((FailsWith.mapM (isRefusal_readRow _)).bind (fun _ => .ok _) fault h)

theorem read_eq_wrongKind_iff : read (.object fields) = .error .wrongKind ↔ Breaks fields := by
  constructor
  · intro h
    rcases read_error h with ⟨p, hp⟩ | ⟨-, hbreaks⟩
    · cases hp
    · exact hbreaks
  · rintro ⟨⟨name, hname⟩, hunlisted⟩
    have hread : read (.object fields) = (readName fields >>= fun name =>
      readColumns fields >>= fun columns => readElements fields "rows" >>= fun items =>
        items.mapM (readRow (columns.map (·.name))) >>= fun rows =>
          pure (TableDefinition.mk name columns rows)) := rfl
    rw [hread, hname]
    rcases hunlisted with hcolumns | ⟨⟨columns, hcolumns⟩, hrows⟩
    · have h := readElements_eq_error_iff.mpr ⟨rfl, hcolumns⟩
      have hfailed : readColumns fields = .error .wrongKind := by
        unfold readColumns
        rw [h]
        rfl
      rw [hfailed]
      rfl
    · rw [hcolumns, readElements_eq_error_iff.mpr ⟨rfl, hrows⟩]
      rfl

instance (fields : Fields) : Decidable (Breaks fields) :=
  decidable_of_iff (read (.object fields) = .error .wrongKind) read_eq_wrongKind_iff

end TableDefinition

namespace Action

/-! ### Creating the tables -/

/-- Only a definition that breaks, or a reply of the engine of the wrong shape, keeps the suggested
tables from being gone through. -/
theorem createTables_faults (definitions : List Fields) (s : Session) :
    match createTables definitions s with
    | .ok _ _ => ∀ fields ∈ definitions, ¬ TableDefinition.Breaks fields
    | .error fault _ => Misread s.connection.responder fault ∨
        fault = .wrongKind ∧ ∃ fields ∈ definitions, TableDefinition.Breaks fields := by
  induction definitions generalizing s with
  | nil => exact fun fields hmem => absurd hmem List.not_mem_nil
  | cons fields rest ih =>
    -- What holds of the rest holds of the whole, if the first definition does not break.
    have hrest : ∀ t : Session, t.connection.responder = s.connection.responder →
        ¬ TableDefinition.Breaks fields → match createTables rest t with
          | .ok _ _ => ∀ f ∈ fields :: rest, ¬ TableDefinition.Breaks f
          | .error fault _ => Misread s.connection.responder fault ∨
              fault = .wrongKind ∧ ∃ f ∈ fields :: rest, TableDefinition.Breaks f := by
      intro t hresponder hfirst
      have ht := ih t
      cases hr : createTables rest t with
      | ok tables u =>
        rw [hr] at ht
        intro f hmem
        rcases List.mem_cons.mp hmem with rfl | hmem
        · exact hfirst
        · exact ht f hmem
      | error fault u =>
        rw [hr, hresponder] at ht
        refine ht.imp_right ?_
        rintro ⟨rfl, f, hmem, hbreaks⟩
        exact ⟨rfl, f, List.mem_cons_of_mem _ hmem, hbreaks⟩
    have hread : ∀ {d : TableDefinition}, TableDefinition.read (.object fields) = .ok d →
        ¬ TableDefinition.Breaks fields := by
      intro d hd hbreaks
      rw [← TableDefinition.read_eq_wrongKind_iff, hd] at hbreaks
      cases hbreaks
    have houtcome := createTable_outcome (.object fields) s
    have hcons := createTables_cons fields rest s
    generalize createTable (.object fields) s = r at houtcome hcons
    rw [hcons]
    cases houtcome with
    | refused fault read =>
      rcases TableDefinition.read_error read with ⟨p, rfl⟩ | ⟨rfl, hbreaks⟩
      · refine hrest s rfl fun hbreaks => ?_
        rw [← TableDefinition.read_eq_wrongKind_iff, read] at hbreaks
        cases hbreaks
      · exact .inr ⟨rfl, fields, List.mem_cons_self .., hbreaks⟩
    | failed d exchanges minted fault read sent turns le blamed =>
      rcases blamed with ⟨reason, rfl⟩ | hmisread
      · exact hrest _ rfl (hread read)
      · cases fault with
        | pipeline e => exact absurd rfl (hmisread.1 e)
        | _ => exact .inl hmisread
    | made d exchanges table read sent turns id named sourced =>
      have ht := hrest { s with
        connection := s.connection.after exchanges
        tablesMinted := s.tablesMinted + 1
        store := (s.store.register table true).2 } rfl (hread read)
      dsimp only
      rw [bind_apply]
      generalize createTables rest _ = r at ht
      cases r with
      | ok tables u => exact ht
      | error fault u => exact ht

/-! ### Running the stages -/

theorem importFlow_append_faults {keepIds : Bool} {items : List Value} {s t : Session} {fault : Fault}
    (hs : s.Complete) (h : importFlow .append keepIds items s = .error fault t) :
    Misread s.connection.responder fault := by
  have hadded : FlowInvariant (Flow.screen keepIds 0 s.stagesMinted items).accepted
      fun _ _ u => u.connection.responder = s.connection.responder := by
    refine FlowInvariant.of_final (fun _ _ hu => hu) fun stage _ u hu => ?_
    exact addStage_rule (I := fun u => u.connection.responder = s.connection.responder)
      (fun _ _ hu => hu)
      (fun stage active u hu => (Materialization.responder_execute stage active u).trans hu)
      stage none hu
  rcases importFlow_flowRun .append hadded.progress rfl with
    ⟨fault', events, hforward, -⟩ | ⟨forward, hrun⟩
  · have hcomplete : ∀ stage ∈ s.store.stages ++
        (Flow.screen keepIds 0 s.stagesMinted items).accepted, stage.isComplete := by
      intro stage hstage
      rcases List.mem_append.mp hstage with hstage | hstage
      · exact hs stage hstage
      · exact Flow.isComplete_of_screened hstage
    obtain ⟨forward, hok⟩ := Graph.forwardReferences_of_isComplete hcomplete
    rw [if_neg (by decide), hok] at hforward
    cases hforward
  · rw [h] at hrun
    cases hrun with
    | broken done rest stage results fault u t split other started raised left =>
      rw [← started]
      cases hi : (u.store.stageIndex? stage.id).isSome with
      | false =>
        rw [addStage_of_new none hi] at raised
        exact Materialization.misread_of_execute raised other
      | true =>
        rw [addStage_of_taken none hi] at raised
        have hmisread := Materialization.misread_of_execute raised other
        exact hmisread

/-! ### Taking in -/

theorem takeIn_faults {suggestion : Suggestion} {apply : Bool} {s t : Session} {fault : Fault}
    (hs : s.Complete) (hconsistent : s.Consistent) (h : takeIn suggestion apply s = .error fault t) :
    Misread s.connection.responder fault ∨
      fault = .wrongKind ∧ ∃ fields ∈ suggestion.tables, TableDefinition.Breaks fields := by
  have hcreated := createTables_faults suggestion.tables s
  unfold takeIn at h
  cases hc : createTables suggestion.tables s with
  | error fault' u =>
    rw [hc] at hcreated
    rw [bind_of_error hc] at h
    cases h
    exact hcreated
  | ok created u =>
    have hadded := Session.TablesAdded.createTables hconsistent hc
    obtain ⟨exchanges, hconnection, -⟩ := hadded.sent
    rw [bind_of_ok hc, bind_of_ok (screened_apply ..)] at h
    dsimp only at h
    split at h
    · refine .inl ?_
      have hcomplete : Session.Complete { u with stagesMinted :=
          (Flow.screen false 0 u.stagesMinted suggestion.stages).minted } := by
        show ∀ stage ∈ u.store.stages, stage.isComplete
        rw [hadded.stages_eq]
        exact hs
      generalize hi : importFlow .append true _ _ = r at h
      cases r with
      | ok report v =>
        rw [bind_of_ok hi] at h
        cases h
      | error fault' v =>
        rw [bind_of_error hi] at h
        cases h
        have hmisread := importFlow_append_faults hcomplete hi
        rwa [hconnection] at hmisread
    · cases h

theorem takeIn_of_breaks {suggestion : Suggestion} {apply : Bool} {s : Session}
    (hshape : WellShaped s.connection.responder) {fields : Fields} (hmem : fields ∈ suggestion.tables)
    (hbreaks : TableDefinition.Breaks fields) :
    ∃ t, takeIn suggestion apply s = .error .wrongKind t := by
  have hcreated := createTables_faults suggestion.tables s
  unfold takeIn
  cases hc : createTables suggestion.tables s with
  | error fault u =>
    rw [hc] at hcreated
    obtain ⟨rfl, -⟩ := hcreated.resolve_left fun hmisread => hmisread.2 hshape
    exact ⟨u, bind_of_error hc⟩
  | ok created u =>
    rw [hc] at hcreated
    exact absurd hbreaks (hcreated fields hmem)

end Action

namespace Session

/-! ### Getting a suggestion -/

def Asks (s : Session) (goal : String) : Prop := s.chatEnabled = true ∧ Text.stripped goal ≠ ""

/-- The ways in which asking for a suggestion breaks off with a fault that is not reported. -/
inductive SuggestionBreaks (s : Session) (call : List Chat.Message → Except Fault Value)
    (goal : String) : Fault → Prop
  | called (fault : Fault) (asks : s.Asks goal)
      (called : call (s.store.suggestionPrompt goal) = .error fault)
      (other : fault = .wrongKind ∨ fault = .tooDeep ∨ fault = .malformedUrl) :
      SuggestionBreaks s call goal fault
  | noText (reply : Value) (asks : s.Asks goal)
      (called : call (s.store.suggestionPrompt goal) = .ok reply) (other : reply.text? = none) :
      SuggestionBreaks s call goal .missingOperation
  | nested (text : String) (asks : s.Asks goal)
      (called : call (s.store.suggestionPrompt goal) = .ok (.text text))
      (read : Suggestion.objectOfReply text = .error .tooDeep) :
      SuggestionBreaks s call goal .tooDeep
  | defined (suggestion : Suggestion) (fields : Fields)
      (asked : s.suggestion call goal = .ok suggestion) (mem : fields ∈ suggestion.tables)
      (breaks : TableDefinition.Breaks fields) : SuggestionBreaks s call goal .wrongKind

section

variable {s t : Session} {call : List Chat.Message → Except Fault Value} {goal : String} {fault : Fault}

theorem Asks.suggestion_eq (h : s.Asks goal) : s.suggestion call goal =
    (Suggestion.replyOf (call (s.store.suggestionPrompt goal)) >>= Suggestion.ofReply) := by
  unfold suggestion
  rw [if_neg (by rw [h.1]; decide), if_neg h.2]

theorem Asks.suggestion_of_reply (h : s.Asks goal) {reply : Value}
    (hcall : call (s.store.suggestionPrompt goal) = .ok reply) :
    s.suggestion call goal = Suggestion.ofReply reply := by
  rw [h.suggestion_eq, hcall]
  rfl

theorem suggestion_error (hcall : ∀ messages, FailsWith Chat.EndsCall (call messages))
    (h : s.suggestion call goal = .error fault) :
    (∃ e, fault = .pipeline e ∧ e.IsSuggestionFailure) ∨
      (∀ e, fault ≠ .pipeline e) ∧ s.SuggestionBreaks call goal fault := by
  by_cases henabled : s.chatEnabled = true
  swap
  · unfold suggestion at h
    rw [if_pos (by rw [Bool.eq_false_iff.mpr henabled]; decide)] at h
    exact .inl ⟨_, (Except.error.inj h).symm, .inl rfl⟩
  by_cases hgoal : Text.stripped goal = ""
  · unfold suggestion at h
    rw [if_neg (by rw [henabled]; decide), if_pos hgoal] at h
    exact .inl ⟨_, (Except.error.inj h).symm, .inr ⟨_, rfl⟩⟩
  have hasks : s.Asks goal := ⟨henabled, hgoal⟩
  cases hc : call (s.store.suggestionPrompt goal) with
  | error f =>
    rw [hasks.suggestion_eq, hc] at h
    by_cases hfailure : f.isCallFailure = true
    · have hrefused : Suggestion.replyOf (.error f) =
          .error (.pipeline (.suggestion (.callFailed f.message))) := if_pos hfailure
      rw [hrefused] at h
      exact .inl ⟨_, (Except.error.inj h).symm, .inr ⟨_, rfl⟩⟩
    · have hraised : Suggestion.replyOf (.error f) = .error f := if_neg hfailure
      have hother := (hcall _ f hc).resolve_left hfailure
      rw [hraised] at h
      obtain rfl := Except.error.inj h
      refine .inr ⟨?_, .called f hasks hc hother⟩
      rintro e rfl
      rcases hother with h | h | h <;> cases h
  | ok reply =>
    rw [hasks.suggestion_of_reply hc] at h
    cases reply with
    | text text =>
      cases hread : Suggestion.objectOfReply text with
      | ok fields =>
        rw [Suggestion.ofReply, hread] at h
        cases h
      | error f =>
        by_cases hdeep : f = .tooDeep
        · rw [hdeep] at hread
          rw [Suggestion.ofReply, hread] at h
          obtain rfl := Except.error.inj h
          exact .inr ⟨fun e he => (by cases he), .nested text hasks hc hread⟩
        · have hrefused : Suggestion.ofReply (.text text) =
              .error (.pipeline (.suggestion (.unusable f.message))) := by
            rw [Suggestion.ofReply, hread]
            cases f with
            | tooDeep => exact absurd rfl hdeep
            | _ => rfl
          rw [hrefused] at h
          exact .inl ⟨_, (Except.error.inj h).symm, .inr ⟨_, rfl⟩⟩
    | _ =>
      obtain rfl := Except.error.inj h
      exact .inr ⟨fun e he => (by cases he), .noText _ hasks hc rfl⟩

theorem SuggestionBreaks.suggestion_eq (h : s.SuggestionBreaks call goal fault) :
    s.suggestion call goal = .error fault ∨
      fault = .wrongKind ∧ ∃ suggestion, s.suggestion call goal = .ok suggestion ∧
        ∃ fields ∈ suggestion.tables, TableDefinition.Breaks fields := by
  cases h with
  | called _ asks called other =>
    rw [asks.suggestion_eq, called]
    rcases other with rfl | rfl | rfl <;> exact .inl rfl
  | noText reply asks called other =>
    rw [asks.suggestion_of_reply called]
    cases reply with
    | text text => cases other
    | _ => exact .inl rfl
  | nested text asks called read =>
    rw [asks.suggestion_of_reply called, Suggestion.ofReply, read]
    exact .inl rfl
  | defined suggestion fields asked mem breaks =>
    exact .inr ⟨rfl, suggestion, asked, fields, mem, breaks⟩

end

/-- Asking for a suggestion fails with an error that says so, and then nothing has happened to the
session; or it breaks off. With an engine all of whose replies have the right shape it breaks off with a
fault if and only if the call, the reply or a definition brings that fault about. -/
theorem suggest_fails_or_breaks {s : Session} (hs : s.Reachable) (settings : Settings)
    (respond : Nat → Chat.Outcome) (goal : String) (apply : Bool) :
    (∀ e t, Action.suggest (Chat.reply settings respond) goal apply s = .error (.pipeline e) t →
      e.IsSuggestionFailure ∧ t = s) ∧
    (∀ fault t, Action.suggest (Chat.reply settings respond) goal apply s = .error fault t →
      (∀ e, fault ≠ .pipeline e) → s.SuggestionBreaks (Chat.reply settings respond) goal fault ∨
        ¬ WellShaped s.connection.responder) ∧
    (∀ fault, s.SuggestionBreaks (Chat.reply settings respond) goal fault →
      WellShaped s.connection.responder →
        ∃ t, Action.suggest (Chat.reply settings respond) goal apply s = .error fault t) := by
  have hcall : ∀ messages, FailsWith Chat.EndsCall (Chat.reply settings respond messages) :=
    Chat.endsCall_reply settings respond
  generalize Chat.reply settings respond = call at hcall ⊢
  -- What any failure comes to, before the kinds of faults are told apart.
  have hfailed : ∀ fault t, Action.suggest call goal apply s = .error fault t →
      (∃ e, fault = .pipeline e ∧ e.IsSuggestionFailure ∧ t = s) ∨
        (∀ e, fault ≠ .pipeline e) ∧
          (s.SuggestionBreaks call goal fault ∨ ¬ WellShaped s.connection.responder) := by
    intro fault t h
    rw [Action.suggest_apply] at h
    cases hsuggestion : s.suggestion call goal with
    | error f =>
      rw [hsuggestion] at h
      cases h
      rcases suggestion_error hcall hsuggestion with ⟨e, he, hfailure⟩ | ⟨hne, hbreaks⟩
      · exact .inl ⟨e, he, hfailure, rfl⟩
      · exact .inr ⟨hne, .inl hbreaks⟩
    | ok suggestion =>
      rw [hsuggestion] at h
      rcases Action.takeIn_faults (complete_of_reachable hs) (consistent_of_reachable hs) h with
        hmisread | ⟨rfl, fields, hmem, hbreaks⟩
      · exact .inr ⟨hmisread.1, .inr hmisread.2⟩
      · exact .inr ⟨fun e he => (by cases he), .inl (.defined suggestion fields hsuggestion hmem hbreaks)⟩
  refine ⟨fun e t h => ?_, fun fault t h hne => ?_, fun fault hbreaks hshape => ?_⟩
  · rcases hfailed _ t h with ⟨e', he, hfailure, rfl⟩ | ⟨hne, -⟩
    · obtain rfl := Fault.pipeline.inj he
      exact ⟨hfailure, rfl⟩
    · exact absurd rfl (hne e)
  · rcases hfailed fault t h with ⟨e, rfl, -⟩ | ⟨-, hbreaks⟩
    · exact absurd rfl (hne e)
    · exact hbreaks
  · rw [Action.suggest_apply]
    rcases hbreaks.suggestion_eq with heq | ⟨rfl, suggestion, heq, fields, hmem, hdefinition⟩
    · rw [heq]
      exact ⟨s, rfl⟩
    · rw [heq]
      exact Action.takeIn_of_breaks hshape hmem hdefinition

def asking : Settings where
  appTitle := ""
  logLevel := "INFO"
  database := ":memory:"
  previewRows := 100
  chatEndpoint := "https://model"
  chatKey := "key"
  chatDeployment := "small"
  chatVersion := "1"
  chatDisabled := false
  chatTimeout := .ofDecimal false 30 0
  chatAttempts := 1

def answerBody (text : String) : Value :=
  .object [("choices", .list [.object [("message", .object [("content", .text text)])]])]

def answering (text : String) : Nat → Chat.Outcome := fun _ => .answered 200 (.value (answerBody text))

theorem reply_answering (text : String) :
    Chat.reply asking (answering text) = fun _ => .ok (.text text) := by
  have hurl : ∃ url, (Chat.Question.of asking []).url.toOption = some url ∧ url.isAbsolute = true ∧
      url.host.all (·.toNat < 0x80) = true := by
    decide +kernel
  obtain ⟨url, hurl, habsolute, hhost⟩ := hurl
  have harrival : (answering text 0).arrival = .ok (200, .value (answerBody text)) := by
    have hfinite : Fault.unlessFinite (answerBody text) = .ok (answerBody text) := if_pos rfl
    simp only [answering, Chat.Outcome.arrival, hfinite]
    rfl
  funext messages
  refine Chat.reply_of_content (ok_of_toOption hurl) hhost (by decide +kernel) (by decide) fun body => ?_
  unfold Chat.Request.content
  rw [harrival]
  show (if (!url.isAbsolute) = true then _ else _) = _
  rw [if_neg (by rw [habsolute]; decide)]
  rfl

/-- A reply with one definition that can be read and one whose columns are a number. -/
def halfDefining : String :=
  Json.render (.object [("tables", .list [
    .object [("name", .text "extra"), ("columns", .list [.text "x"])],
    .object [("name", .text "more"), ("columns", .int 5)]])])

theorem halfDefining_breaks : ∃ t,
    ordersShown.Reachable ∧ WellShaped ordersShown.connection.responder ∧
      ordersShown.SuggestionBreaks (Chat.reply asking (answering halfDefining)) "p" .wrongKind ∧
      Action.suggest (Chat.reply asking (answering halfDefining)) "p" false ordersShown =
        .error .wrongKind t := by
  have hshape : WellShaped ordersShown.connection.responder := by
    intro earlier s reply h
    have h : Except.ok Reply.none = (.ok reply : Except String Reply) := h
    obtain rfl := Except.ok.inj h
    cases s <;> first | trivial | exact fun row hrow => absurd hrow List.not_mem_nil
  have hasks : ordersShown.Asks "p" := ⟨rfl, by decide +kernel⟩
  have htables : ∃ suggestion, (Suggestion.ofReply (.text halfDefining)).toOption = some suggestion ∧
      ∃ fields ∈ suggestion.tables, TableDefinition.Breaks fields := by
    decide +kernel
  obtain ⟨suggestion, hread, fields, hmem, hdefinition⟩ := htables
  have hasked : ordersShown.suggestion (Chat.reply asking (answering halfDefining)) "p" =
      .ok suggestion := by
    rw [reply_answering, hasks.suggestion_of_reply rfl]
    exact ok_of_toOption hread
  have hbreaks := SuggestionBreaks.defined suggestion fields hasked hmem hdefinition
  obtain ⟨t, ht⟩ := (suggest_fails_or_breaks reachable_ordersShown asking (answering halfDefining)
    "p" false).2.2 _ hbreaks hshape
  exact ⟨t, reachable_ordersShown, hshape, hbreaks, ht⟩

/-- The first table has been created all the same. -/
theorem halfDefining_leaves_table : ∃ t,
    ordersShown.Reachable ∧
      Action.suggest (Chat.reply asking (answering halfDefining)) "p" false ordersShown =
        .error .wrongKind t ∧
      ordersShown.store.catalogue = [(Table.mintedId 1, "table_orders_csv")] ∧
      t.store.catalogue = [(Table.mintedId 1, "table_orders_csv"), (Table.mintedId 2, "extra")] := by
  have h : fault? (Action.suggest (fun _ => .ok (.text halfDefining)) "p" false) ordersShown =
      some .wrongKind := by
    decide +kernel
  rw [reply_answering]
  exact ⟨_, reachable_ordersShown, error_of_fault? h, by decide +kernel, by decide +kernel⟩

end Session

end StagedSql
