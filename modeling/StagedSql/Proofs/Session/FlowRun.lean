import StagedSql.Proofs.Session.Operation

/-!
# How an import ends

An import completes, stops at the first stage that fails, or breaks off with a fault that it does not
take charge of. Whatever adding one stage keeps holds of the stages run, their outcomes and the
session up to that point; only after a failure are the earlier stages put back.
-/

namespace StagedSql

open Outcome

theorem Action.forM_emit_eq {α : Type} (event : α → Flow.Event) (items : List α) (s : Session) :
    (items.forM fun a => emit (event a)) s =
      .ok () { s with events := s.events ++ items.map event } := by
  induction items generalizing s with
  | nil => simp [pure_apply]
  | cons a rest ih =>
    have hemit : emit (event a) s = .ok () { s with events := s.events ++ [event a] } := rfl
    show (emit (event a) >>= fun _ => rest.forM fun a => emit (event a)) s = _
    rw [bind_of_ok hemit, ih, List.map_cons, List.append_assoc, List.singleton_append]

def Store.putBack (s : Store) (before : Option Store) : Store := before.elim s s.restoreStages

/-- What adding the stages of a flow one after the other keeps: `I` relates the stages added so far,
their outcomes and the session. -/
structure FlowInvariant (stages : List Stage)
    (I : List Stage → List Materialization → Session → Prop) : Prop where
  reported : ∀ {done results s} events, I done results s → I done results { s with events }
  added : ∀ {done stage rest results s m t}, stages = done ++ stage :: rest → I done results s →
    Action.addStage stage none s = .ok m t → I (done ++ [stage]) (results ++ [m]) t
  refused : ∀ {done stage rest results s fault t}, stages = done ++ stage :: rest →
    I done results s → Action.addStage stage none s = .error fault t → I done results t

/-- What a flow comes to: `I` is kept as long as stages are added, and `E` is left by the one that
is not. -/
structure FlowProgress (stages : List Stage)
    (I E : List Stage → List Materialization → Session → Prop) : Prop where
  reported : ∀ {done results s} events, I done results s → I done results { s with events }
  added : ∀ {done stage rest results s m t}, stages = done ++ stage :: rest → I done results s →
    Action.addStage stage none s = .ok m t → I (done ++ [stage]) (results ++ [m]) t
  refused : ∀ {done stage rest results s fault t}, stages = done ++ stage :: rest →
    I done results s → Action.addStage stage none s = .error fault t → E done results t
  ended : ∀ {done results s} events, E done results s → E done results { s with events }

theorem FlowInvariant.progress {stages : List Stage}
    {I : List Stage → List Materialization → Session → Prop} (hI : FlowInvariant stages I) :
    FlowProgress stages I I :=
  ⟨hI.reported, hI.added, hI.refused, hI.reported⟩

/-- What adding a stage keeps, whether or not it succeeds, is kept along a flow. -/
theorem FlowInvariant.of_final {stages : List Stage} {I : Session → Prop}
    (hevents : ∀ s events, I s → I { s with events })
    (hadd : ∀ stage ∈ stages, ∀ s, I s → I (final (Action.addStage stage none) s)) :
    FlowInvariant stages fun _ _ => I where
  reported := fun events h => hevents _ events h
  added := by
    intro done stage rest _ s _ t split hs hr
    have hstage : stage ∈ stages := split ▸ List.mem_append_right done (List.mem_cons_self ..)
    exact final_of_ok hr ▸ hadd stage hstage s hs
  refused := by
    intro done stage rest _ s _ t split hs hr
    have hstage : stage ∈ stages := split ▸ List.mem_append_right done (List.mem_cons_self ..)
    exact final_of_error hr ▸ hadd stage hstage s hs

inductive FlowRun (stages : List Stage) (I E : List Stage → List Materialization → Session → Prop)
    (before : Option Store) (report : ImportReport) :
    EStateM.Result Fault Session ImportReport → Prop
  | completed (results : List Materialization) (t : Session) (kept : I stages results t) :
      FlowRun stages I E before report (.ok { report with results } t)
  | stopped (done rest : List Stage) (stage : Stage) (results : List Materialization)
      (e : PipelineError) (t : Session) (split : stages = done ++ stage :: rest)
      (left : E done results t) :
      FlowRun stages I E before report
        (.ok { report with results, failure := some (Action.failedStage stage e, e) }
          { t with store := t.store.putBack before })
  | broken (done rest : List Stage) (stage : Stage) (results : List Materialization)
      (fault : Fault) (u t : Session) (split : stages = done ++ stage :: rest)
      (other : ∀ e, fault ≠ .pipeline e) (started : I done results u)
      (raised : Action.addStage stage none u = .error fault t) (left : E done results t) :
      FlowRun stages I E before report (.error fault t)

section

variable {stages : List Stage} {I E : List Stage → List Materialization → Session → Prop}
  (hI : FlowProgress stages I E)
include hI

theorem runStages_flowRun (total : Nat) (before : Option Store) (report : ImportReport) (i : Nat)
    {done rest : List Stage} (split : stages = done ++ rest) {results : List Materialization}
    {s : Session} (hs : I done results s) :
    FlowRun stages I E before report
      (Action.runStages total before { report with results } i rest s) := by
  induction rest generalizing done results i s with
  | nil =>
    have hall : I stages results s := by
      rw [split, List.append_nil]
      exact hs
    exact .completed results _ (hI.reported _ hall)
  | cons stage rest ih =>
    have hemit : Action.emit (.materializing (Flow.Event.percent i total) stage) s = .ok ()
        { s with events := s.events ++ [.materializing (Flow.Event.percent i total) stage] } := rfl
    have hstart := hI.reported (s.events ++ [.materializing (Flow.Event.percent i total) stage]) hs
    unfold Action.runStages
    rw [bind_of_ok hemit]
    cases ha : Action.addStage stage none { s with events :=
        s.events ++ [.materializing (Flow.Event.percent i total) stage] } with
    | ok m t =>
      have hadded := hI.added split hstart ha
      have hsplit : stages = (done ++ [stage]) ++ rest := by rw [split, List.append_cons]
      rw [bind_of_ok (Action.orPipelineError_of_ok ha)]
      exact ih (i + 1) hsplit (hI.reported _ hadded)
    | error fault t =>
      have hleft := hI.refused split hstart ha
      have hcaught := Action.orPipelineError_of_error ha
      cases fault with
      | pipeline e =>
        have hfailed := hI.ended
          (t.events ++ [.failed (Flow.Event.percent i total) stage e]) hleft
        rw [bind_of_ok hcaught]
        cases before with
        | none => exact .stopped done rest stage results e _ split hfailed
        | some earlier => exact .stopped done rest stage results e _ split hfailed
      | _ =>
        rw [bind_of_error hcaught]
        exact .broken done rest stage results _ _ t split (by simp) hstart ha hleft

end

namespace Session

/-- The session in which an import runs its first stage, but for the events. -/
def flowStart (s : Session) (mode : ImportMode) (keepIds : Bool) (candidates : List Value) : Session :=
  { s with
    stagesMinted := (Flow.screen keepIds 0 s.stagesMinted candidates).minted
    store := if mode = .replace then s.store.resetStages.2 else s.store }

def flowBefore (s : Session) (mode : ImportMode) : Option Store :=
  if mode = .replace then some s.store else none

end Session

/-- The events with which an import opens: its start, then the candidates that were dropped. -/
def Flow.Event.opening (candidates : Nat) (dropped : List Flow.Dropped) : List Flow.Event :=
  .started candidates :: dropped.map .dropped

/-- An import screens its candidates and looks for forward references before it runs anything. -/
theorem Action.importFlow_eq (mode : ImportMode) (keepIds : Bool) (candidates : List Value)
    (s : Session) {screening : Flow.Screening}
    (hscreen : Flow.screen keepIds 0 s.stagesMinted candidates = screening) :
    importFlow mode keepIds candidates s =
      match Graph.forwardReferences ((if mode = .replace then [] else s.store.stages) ++
          screening.accepted) with
      | .error fault => .error fault { s with
          stagesMinted := screening.minted
          events := s.events ++ Flow.Event.opening candidates.length screening.dropped }
      | .ok forward =>
        runStages (max 1 screening.accepted.length) (s.flowBefore mode)
          ⟨mode, [], screening.dropped, forward, none⟩ 0 screening.accepted
          { s.flowStart mode keepIds candidates with
            events := s.events ++ Flow.Event.opening candidates.length screening.dropped } := by
  have hemit : emit (.started candidates.length) s = .ok ()
      { s with events := s.events ++ [.started candidates.length] } := rfl
  have hscreened : screened keepIds candidates
      { s with events := s.events ++ [.started candidates.length] } = .ok screening
      { s with
        events := s.events ++ [.started candidates.length], stagesMinted := screening.minted } := by
    simp only [screened, hscreen]
  have hopening : s.events ++ [.started candidates.length] ++ screening.dropped.map .dropped =
      s.events ++ Flow.Event.opening candidates.length screening.dropped := by
    rw [Flow.Event.opening, List.append_assoc, List.singleton_append]
  unfold importFlow
  rw [bind_of_ok hemit, bind_of_ok hscreened, bind_of_ok (forM_emit_eq _ screening.dropped _),
    bind_of_ok (store_apply _)]
  dsimp only
  rw [hopening]
  cases Graph.forwardReferences
      ((if mode = .replace then [] else s.store.stages) ++ screening.accepted) with
  | error fault => rfl
  | ok forward =>
    have hforward : ∀ t, ofExcept (.ok forward) t = .ok forward t := fun _ => rfl
    have hreset : ∀ t : Session, change (fun s => s.resetStages) t =
        .ok t.store.stages { t with store := t.store.resetStages.2 } := fun _ => rfl
    rw [bind_of_ok (hforward _)]
    unfold Session.flowBefore Session.flowStart
    rw [hscreen]
    by_cases hm : mode = .replace
    · simp only [if_pos hm]
      exact bind_of_ok (hreset _)
    · simp only [if_neg hm]

/-- An import breaks off before it runs anything, or it runs the accepted stages. -/
theorem importFlow_flowRun {I E : List Stage → List Materialization → Session → Prop}
    (mode : ImportMode) {keepIds : Bool} {candidates : List Value} {s : Session}
    (hI : FlowProgress (Flow.screen keepIds 0 s.stagesMinted candidates).accepted I E)
    (hs : I [] [] (s.flowStart mode keepIds candidates)) :
    (∃ fault events,
      Graph.forwardReferences ((if mode = .replace then [] else s.store.stages) ++
          (Flow.screen keepIds 0 s.stagesMinted candidates).accepted) = .error fault ∧
        Action.importFlow mode keepIds candidates s = .error fault { s with
          stagesMinted := (Flow.screen keepIds 0 s.stagesMinted candidates).minted, events }) ∨
    ∃ forward, FlowRun (Flow.screen keepIds 0 s.stagesMinted candidates).accepted I E
      (s.flowBefore mode)
      ⟨mode, [], (Flow.screen keepIds 0 s.stagesMinted candidates).dropped, forward, none⟩
      (Action.importFlow mode keepIds candidates s) := by
  have heq := Action.importFlow_eq mode keepIds candidates s rfl
  cases hforward : Graph.forwardReferences ((if mode = .replace then [] else s.store.stages) ++
      (Flow.screen keepIds 0 s.stagesMinted candidates).accepted) with
  | error fault =>
    rw [hforward] at heq
    exact .inl ⟨fault, _, rfl, heq⟩
  | ok forward =>
    rw [hforward] at heq
    refine .inr ⟨forward, ?_⟩
    rw [heq]
    exact runStages_flowRun hI _ _ ⟨mode, [], _, forward, none⟩ 0 rfl (hI.reported _ hs)

/-- What screening, starting over and adding the accepted stages keep is kept by an import, or up to
putting the earlier stages back. -/
theorem Action.importFlow_rule {I : Session → Prop} (hevents : ∀ s events, I s → I { s with events })
    (mode : ImportMode) (keepIds : Bool) (candidates : List Value) {s : Session}
    (hscreened : I { s with
      stagesMinted := (Flow.screen keepIds 0 s.stagesMinted candidates).minted })
    (hreset : ∀ t, I t → I { t with store := t.store.resetStages.2 })
    (hadd : ∀ stage ∈ (Flow.screen keepIds 0 s.stagesMinted candidates).accepted, ∀ t, I t →
      I (final (addStage stage none) t)) :
    I (final (importFlow mode keepIds candidates) s) ∨
      ∃ t, I t ∧ final (importFlow mode keepIds candidates) s =
        { t with store := t.store.restoreStages s.store } := by
  have hI := FlowInvariant.of_final hevents hadd
  have hstart : I (s.flowStart mode keepIds candidates) := by
    unfold Session.flowStart
    split
    · exact hreset _ hscreened
    · exact hscreened
  rcases importFlow_flowRun mode hI.progress hstart with ⟨fault, events, -, hr⟩ | ⟨forward, hrun⟩
  · rw [final_of_error hr]
    exact .inl (hevents _ events hscreened)
  · generalize hr : importFlow mode keepIds candidates s = r at hrun
    cases hrun with
    | completed results t kept =>
      rw [final_of_ok hr]
      exact .inl kept
    | broken done rest stage results fault u t split other started raised left =>
      rw [final_of_error hr]
      exact .inl left
    | stopped done rest stage results e t split left =>
      rw [final_of_ok hr]
      unfold Session.flowBefore Store.putBack
      split
      · exact .inr ⟨t, left, rfl⟩
      · exact .inl left

section

variable {I E : List Stage → List Materialization → Session → Prop} {keepIds : Bool}
  {candidates : List Value} {s t : Session} {report : ImportReport}

/-- An import that succeeds has run all accepted stages. -/
theorem importFlow_succeeded {mode : ImportMode}
    (hI : FlowProgress (Flow.screen keepIds 0 s.stagesMinted candidates).accepted I E)
    (hs : I [] [] (s.flowStart mode keepIds candidates))
    (h : Action.importFlow mode keepIds candidates s = .ok report t)
    (hsucceeded : report.succeeded = true) :
    I (Flow.screen keepIds 0 s.stagesMinted candidates).accepted report.results t ∧
      report.dropped = (Flow.screen keepIds 0 s.stagesMinted candidates).dropped := by
  rcases importFlow_flowRun mode hI hs with ⟨fault, events, -, hr⟩ | ⟨forward, hrun⟩
  · rw [h] at hr
    cases hr
  · rw [h] at hrun
    cases hrun with
    | completed results _ kept => exact ⟨kept, rfl⟩
    | stopped done rest stage results e u split left => cases hsucceeded

theorem importFlow_failed
    (hI : FlowInvariant (Flow.screen keepIds 0 s.stagesMinted candidates).accepted I)
    (hs : I [] [] (s.flowStart .replace keepIds candidates))
    (h : Action.importFlow .replace keepIds candidates s = .ok report t)
    (hfailed : report.succeeded = false) :
    ∃ done u, I done report.results u ∧ t = { u with store := u.store.restoreStages s.store } := by
  rcases importFlow_flowRun .replace hI.progress hs with ⟨fault, events, -, hr⟩ | ⟨forward, hrun⟩
  · rw [h] at hr
    cases hr
  · rw [h] at hrun
    cases hrun with
    | completed results _ kept => cases hfailed
    | stopped done rest stage results e u split left => exact ⟨done, u, left, rfl⟩

end

end StagedSql
