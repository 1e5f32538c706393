import StagedSql.Proofs.Chat.Client
import StagedSql.Proofs.Json.Unreadable

/-!
# How often a question is put

A question is put again as long as attempts come to nothing and are left. Every attempt sends the same
request, and the pause before the next one doubles. The first attempt that does not come to nothing
decides the call, else the last one. A body that is nested too deeply ends the call although nothing comes
of it.
-/

namespace StagedSql

/-! ### Bytes of an ASCII text -/

theorem Text.utf8Bytes_of_ascii {c : Char} (h : c.toNat < 0x80) : utf8Bytes c = [c.toNat] := by
  have hsize : c.utf8Size = 1 :=
    Char.utf8Size_eq_one_iff.mpr (UInt32.le_iff_toNat_le.mpr (Nat.lt_succ_iff.mp h))
  have hbyte : c.val.toUInt8.toNat = c.toNat := by
    rw [UInt32.toNat_toUInt8]
    exact Nat.mod_eq_of_lt (Nat.lt_trans h (by decide))
  rw [utf8Bytes, String.utf8EncodeChar_eq_singleton hsize, List.map_singleton, hbyte]

theorem Text.ofUtf8_toNat {s : List Char} (h : ∀ c ∈ s, c.toNat < 0x80) :
    ofUtf8 (s.map Char.toNat) = s := by
  induction s with
  | nil => rw [List.map_nil, ofUtf8]
  | cons c rest ih =>
    rw [List.forall_mem_cons] at h
    rw [List.map_cons, ofUtf8, if_pos h.1, ih h.2, Char.ofNat_toNat]

theorem Json.decoded?_of_ascii {s : List Char} (h : ∀ c ∈ s, 0 < c.toNat ∧ c.toNat < 0x80) :
    decoded? (s.flatMap Text.utf8Bytes) = some s := by
  have hbytes : s.flatMap Text.utf8Bytes = s.map Char.toNat := by
    induction s with
    | nil => rfl
    | cons c rest ih =>
      rw [List.forall_mem_cons] at h
      rw [List.flatMap_cons, Text.utf8Bytes_of_ascii h.1.2, ih h.2]
      rfl
  have hencoding : encodingOf (s.map Char.toNat) = .bytes := by
    have hpositive : ∀ b ∈ s.map Char.toNat, b ≠ 0 := by
      intro b hb
      obtain ⟨c, hc, rfl⟩ := List.mem_map.mp hb
      exact Nat.ne_of_gt (h c hc).1
    generalize s.map Char.toNat = bytes at hpositive
    unfold encodingOf
    split
    · simp only [List.forall_mem_cons] at hpositive
      simp [hpositive.1, hpositive.2.1]
    · simp only [List.forall_mem_cons] at hpositive
      simp [hpositive.1, hpositive.2.1]
    · rfl
  have hmark : s.head? ≠ some byteOrderMark := by
    intro hhead
    exact absurd (h _ (List.mem_of_mem_head? hhead)).2 (by decide)
  rw [hbytes]
  unfold decoded?
  rw [hencoding, Text.ofUtf8_toNat fun c hc => (h c hc).2]
  exact congrArg some (if_neg hmark)

namespace Chat

open StagedSql.Outcome (exists_of_bind_ok cases_of_bind_error)

/-! ### The content of an answer -/

/-- The content of the first choice in a body. -/
inductive HasContent : Value → Value → Prop
  | intro {body choice message : Fields} {choices : List Value} {content : Value}
      (choices_eq : body.lookup? "choices" = some (.list (.object choice :: choices)))
      (message_eq : choice.lookup? "message" = some (.object message))
      (content_eq : message.lookup? "content" = some content) : HasContent (.object body) content

/-- On the way to the content of a body, a key or an item is missing. -/
inductive LacksContent : Value → Prop
  | noChoices {body : Fields} (choices_eq : body.lookup? "choices" = none) :
      LacksContent (.object body)
  /-- The first item is sought under the key zero, and no object has a number as a key. -/
  | keyedChoices {body choices : Fields}
      (choices_eq : body.lookup? "choices" = some (.object choices)) : LacksContent (.object body)
  | emptyChoices {body : Fields} {choices : Value} (choices_eq : body.lookup? "choices" = some choices)
      (empty : choices = .list [] ∨ choices = .text "") : LacksContent (.object body)
  | noMessage {body choice : Fields} {choices : List Value}
      (choices_eq : body.lookup? "choices" = some (.list (.object choice :: choices)))
      (message_eq : choice.lookup? "message" = none) : LacksContent (.object body)
  | noContent {body choice message : Fields} {choices : List Value}
      (choices_eq : body.lookup? "choices" = some (.list (.object choice :: choices)))
      (message_eq : choice.lookup? "message" = some (.object message))
      (content_eq : message.lookup? "content" = none) : LacksContent (.object body)

theorem firstItem_eq_object_iff {v : Value} {fields : Fields} :
    firstItem v = .ok (.object fields) ↔ ∃ rest, v = .list (.object fields :: rest) := by
  cases v with
  | list items => cases items <;> simp [firstItem]
  | text s => cases hs : s.toList <;> simp [firstItem, hs]
  | _ => simp [firstItem]

theorem contentOf_eq_ok_iff {v content : Value} : contentOf v = .ok content ↔ HasContent v content := by
  constructor
  · intro h
    obtain ⟨choices, hbody, hrest⟩ := exists_of_bind_ok h
    obtain ⟨first, hfirst, hlast⟩ := exists_of_bind_ok hrest
    obtain ⟨inner, hinner, hcontent⟩ := exists_of_bind_ok hlast
    obtain ⟨body, rfl, hchoices⟩ := entryAt_eq_ok_iff.mp hbody
    obtain ⟨choice, rfl, hmessage⟩ := entryAt_eq_ok_iff.mp hinner
    obtain ⟨message, rfl, hfound⟩ := entryAt_eq_ok_iff.mp hcontent
    obtain ⟨rest, rfl⟩ := firstItem_eq_object_iff.mp hfirst
    exact .intro hchoices hmessage hfound
  · rintro ⟨hchoices, hmessage, hcontent⟩
    simp only [contentOf, entryAt_object, hchoices, Except.bind, bind, firstItem, hmessage, hcontent]

theorem contentOf_of_lacksContent {v : Value} (h : LacksContent v) :
    ∃ f, contentOf v = .error f ∧ f.isCallFailure = true := by
  cases h with
  | noChoices hchoices => exact ⟨.missingKey (.text "choices"), by
      simp only [contentOf, entryAt_object, hchoices, Except.bind, bind], rfl⟩
  | keyedChoices hchoices => exact ⟨.missingKey (.int 0), by
      simp only [contentOf, entryAt_object, hchoices, Except.bind, bind, firstItem], rfl⟩
  | emptyChoices hchoices hempty =>
    rcases hempty with rfl | rfl
    · exact ⟨.missingItem "list index out of range", by
        simp only [contentOf, entryAt_object, hchoices, Except.bind, bind, firstItem], rfl⟩
    · exact ⟨.missingItem "string index out of range", by
        simp [contentOf, entryAt_object, hchoices, Except.bind, bind, firstItem], rfl⟩
  | noMessage hchoices hmessage => exact ⟨.missingKey (.text "message"), by
      simp only [contentOf, entryAt_object, hchoices, Except.bind, bind, firstItem, hmessage], rfl⟩
  | noContent hchoices hmessage hcontent => exact ⟨.missingKey (.text "content"), by
      simp only [contentOf, entryAt_object, hchoices, Except.bind, bind, firstItem, hmessage,
        hcontent], rfl⟩

theorem contentOf_error {v : Value} {f : Fault} (h : contentOf v = .error f) :
    f.isCallFailure = true ∧ LacksContent v ∨ f = .wrongKind := by
  rcases cases_of_bind_error h with hbody | ⟨choices, hbody, hrest⟩
  · exact (entryAt_error hbody).imp_left fun ⟨hf, body, hv, hnone⟩ => ⟨hf, hv ▸ .noChoices hnone⟩
  obtain ⟨body, rfl, hchoices⟩ := entryAt_eq_ok_iff.mp hbody
  rcases cases_of_bind_error hrest with hfirst | ⟨first, hfirst, hlast⟩
  · refine (firstItem_error hfirst).imp_left fun ⟨hf, hempty⟩ => ⟨hf, ?_⟩
    rcases hempty with rfl | rfl | ⟨fields, rfl⟩
    · exact .emptyChoices hchoices (.inl rfl)
    · exact .emptyChoices hchoices (.inr rfl)
    · exact .keyedChoices hchoices
  rcases cases_of_bind_error hlast with hinner | ⟨inner, hinner, hcontent⟩
  · refine (entryAt_error hinner).imp_left fun ⟨hf, choice, hv, hnone⟩ => ⟨hf, ?_⟩
    obtain ⟨rest, rfl⟩ := firstItem_eq_object_iff.mp (hv ▸ hfirst)
    exact .noMessage hchoices hnone
  obtain ⟨choice, rfl, hmessage⟩ := entryAt_eq_ok_iff.mp hinner
  refine (entryAt_error hcontent).imp_left fun ⟨hf, message, hv, hnone⟩ => ⟨hf, ?_⟩
  obtain ⟨rest, rfl⟩ := firstItem_eq_object_iff.mp hfirst
  exact .noContent hchoices (hv ▸ hmessage) hnone

/-! ### Outcomes of an attempt -/

def Body.Fits : Body → Prop
  | .value v => v.interchange = v
  | .text _ => True

def IsSuccess (status : Int) : Prop := 200 ≤ status ∧ status < 300

instance (status : Int) : Decidable (IsSuccess status) := inferInstanceAs (Decidable (_ ∧ _))

/-- The outcome is an answer of success with a body that holds the content. -/
inductive Request.Yields (r : Request) : Outcome → Value → Prop
  | intro {status : Int} {body : Body} {v content : Value} (absolute : r.url.isAbsolute = true)
      (fits : body.Fits) (success : IsSuccess status) (read : body.read = .ok v)
      (holds : HasContent v content) : Yields r (.answered status body) content

/-- The outcome is no answer, no success, or an answer with a body that cannot be parsed or that lacks
the content. -/
inductive Request.ComesToNothing (r : Request) : Outcome → Prop
  | unreachable (reason : String) : ComesToNothing r (.unreachable reason)
  | timedOut (reason : String) : ComesToNothing r (.timedOut reason)
  | undelivered (status : Int) (body : Body) (unfit : ¬ body.Fits) :
      ComesToNothing r (.answered status body)
  | astray (status : Int) (body : Body) (relative : r.url.isAbsolute = false) :
      ComesToNothing r (.answered status body)
  | refused (status : Int) (body : Body) (failure : ¬ IsSuccess status) :
      ComesToNothing r (.answered status body)
  | unparsable (status : Int) (body : Body) (fault : Fault) (read : body.read = .error fault) :
      ComesToNothing r (.answered status body)
  | lacking (status : Int) (body : Body) (v : Value) (read : body.read = .ok v)
      (lacks : LacksContent v) : ComesToNothing r (.answered status body)

/-- The outcome is an answer of success with a body that has too many containers inside one another to
be parsed. -/
inductive Request.IsTooDeep (r : Request) : Outcome → Prop
  | intro {status : Int} {body : Body} (absolute : r.url.isAbsolute = true) (success : IsSuccess status)
      (read : body.read = .error .tooDeep) : IsTooDeep r (.answered status body)

theorem Request.content_of_unfit (r : Request) (status : Int) {body : Body} (h : ¬ body.Fits) :
    r.content (.answered status body) = .error (.value .notFinite) := by
  cases body with
  | value v =>
    have hfinite : Fault.unlessFinite v = .error (.value .notFinite) := if_neg h
    simp only [content, Outcome.arrival, hfinite]
    rfl
  | text s => exact absurd trivial h

theorem Request.content_of_fits (r : Request) (status : Int) {body : Body} (h : body.Fits) :
    r.content (.answered status body) =
      if !r.url.isAbsolute then .error (.value (.notAbsolute r.url.text))
      else if 200 ≤ status ∧ status < 300 then body.read >>= contentOf
      else .error (.webStatus status) := by
  cases body with
  | value v =>
    have hfinite : Fault.unlessFinite v = .ok v := if_pos h
    simp only [content, Outcome.arrival, hfinite]
    rfl
  | text s => rfl

theorem Body.read_of_ascii {s : String} (h : ∀ c ∈ s.toList, 0 < c.toNat ∧ c.toNat < 0x80) :
    (Body.text s).read = (Json.read s.toList).mapError .ofJson := by
  have hdecoded := Json.decoded?_of_ascii h
  unfold Body.read valueOfBytes
  dsimp only
  rw [hdecoded]

section

variable {r : Request} {status : Int} {body : Body} (habsolute : r.url.isAbsolute = true)
  (hfits : body.Fits) (hsuccess : IsSuccess status)
include habsolute hfits hsuccess

theorem Request.content_of_success :
    r.content (.answered status body) = body.read >>= contentOf := by
  rw [content_of_fits r status hfits, habsolute]
  exact if_pos hsuccess

theorem Request.comesToNothing_iff_of_read {v : Value} (hread : body.read = .ok v) :
    r.ComesToNothing (.answered status body) ↔ LacksContent v := by
  constructor
  · intro h
    cases h with
    | undelivered _ _ unfit => exact absurd hfits unfit
    | astray _ _ relative => exact absurd (habsolute.symm.trans relative) (by decide)
    | refused _ _ failure => exact absurd hsuccess failure
    | unparsable _ _ fault read => exact absurd (hread.symm.trans read) (by simp)
    | lacking _ _ w read lacks => exact Except.ok.inj (hread.symm.trans read) ▸ lacks
  · exact .lacking status body v hread

theorem Request.content_cases_of_read {v : Value} (hread : body.read = .ok v) :
    (∃ content, r.content (.answered status body) = .ok content ∧
        r.Yields (.answered status body) content ∧ ¬ LacksContent v) ∨
      (∃ f, r.content (.answered status body) = .error f ∧ f.isCallFailure = true ∧ LacksContent v) ∨
      r.content (.answered status body) = .error .wrongKind ∧ ¬ LacksContent v := by
  have hcontent : r.content (.answered status body) = contentOf v := by
    rw [content_of_success habsolute hfits hsuccess, hread]
    rfl
  rw [hcontent]
  cases hv : contentOf v with
  | ok content =>
    refine .inl ⟨content, rfl, .intro habsolute hfits hsuccess hread (contentOf_eq_ok_iff.mp hv), ?_⟩
    intro hlacks
    obtain ⟨f, hf, -⟩ := contentOf_of_lacksContent hlacks
    exact absurd (hv.symm.trans hf) (by simp)
  | error f =>
    rcases contentOf_error hv with ⟨hf, hlacks⟩ | rfl
    · exact .inr (.inl ⟨f, rfl, hf, hlacks⟩)
    · refine .inr (.inr ⟨rfl, fun hlacks => ?_⟩)
      obtain ⟨f, hf, hfailure⟩ := contentOf_of_lacksContent hlacks
      obtain rfl := Except.error.inj (hv.symm.trans hf)
      cases hfailure

end

/-- The outcome of an attempt is a content, or it is worth another attempt, or neither. -/
theorem Request.content_cases (r : Request) (outcome : Outcome) :
    (∃ v, r.content outcome = .ok v ∧ r.Yields outcome v ∧ ¬ r.ComesToNothing outcome) ∨
      (∃ f, r.content outcome = .error f ∧ f.isCallFailure = true ∧ r.ComesToNothing outcome ∧
        ¬ r.IsTooDeep outcome) ∨
      r.content outcome = .error .tooDeep ∧ r.IsTooDeep outcome ∨
      r.content outcome = .error .wrongKind ∧ ¬ r.ComesToNothing outcome := by
  cases outcome with
  | unreachable reason => exact .inr (.inl ⟨_, rfl, rfl, .unreachable reason, by rintro ⟨⟩⟩)
  | timedOut reason => exact .inr (.inl ⟨_, rfl, rfl, .timedOut reason, by rintro ⟨⟩⟩)
  | answered status body =>
    by_cases hfits : body.Fits
    swap
    · refine .inr (.inl ⟨_, r.content_of_unfit status hfits, rfl, .undelivered _ _ hfits, ?_⟩)
      rintro ⟨-, -, hread⟩
      cases body with
      | value v => cases hread
      | text s => exact hfits trivial
    have hcontent := r.content_of_fits status hfits
    cases habsolute : r.url.isAbsolute with
    | false =>
      rw [habsolute] at hcontent
      refine .inr (.inl ⟨_, hcontent, rfl, .astray _ _ habsolute, ?_⟩)
      rintro ⟨h, -, -⟩
      exact absurd (habsolute.symm.trans h) (by decide)
    | true =>
      by_cases hsuccess : IsSuccess status
      swap
      · rw [habsolute] at hcontent
        refine .inr (.inl ⟨_, hcontent.trans (if_neg hsuccess), rfl, .refused _ _ hsuccess, ?_⟩)
        rintro ⟨-, h, -⟩
        exact hsuccess h
      have hcontent := Request.content_of_success habsolute hfits hsuccess
      cases hread : body.read with
      | error f =>
        rw [hread] at hcontent
        rcases Body.read_error hread with hf | rfl
        · refine .inr (.inl ⟨f, hcontent, hf, .unparsable _ _ f hread, ?_⟩)
          rintro ⟨-, -, hdeep⟩
          obtain rfl := Except.error.inj (hread.symm.trans hdeep)
          cases hf
        · exact .inr (.inr (.inl ⟨hcontent, .intro habsolute hsuccess hread⟩))
      | ok v =>
        have hdeep : ¬ r.IsTooDeep (.answered status body) := by
          rintro ⟨-, -, hdeep⟩
          exact absurd (hread.symm.trans hdeep) (by simp)
        rw [Request.comesToNothing_iff_of_read habsolute hfits hsuccess hread]
        rcases Request.content_cases_of_read habsolute hfits hsuccess hread with hholds |
          ⟨f, hf, hfailure, hlacks⟩ | hkind
        · exact .inl hholds
        · exact .inr (.inl ⟨f, hf, hfailure, hlacks, hdeep⟩)
        · exact .inr (.inr (.inr hkind))

def Request.Retries (r : Request) (outcome : Outcome) : Prop :=
  r.ComesToNothing outcome ∧ ¬ r.IsTooDeep outcome

theorem Request.retries_iff (r : Request) (outcome : Outcome) :
    r.Retries outcome ↔ ∃ f, r.content outcome = .error f ∧ f.isCallFailure = true := by
  unfold Retries
  rcases r.content_cases outcome with ⟨v, hv, -, hsome⟩ | ⟨f, hf, hfailure, hnothing⟩ | ⟨hf, hdeep⟩ |
    ⟨hf, hsome⟩
  · simp [hv, hsome]
  · exact iff_of_true hnothing ⟨f, hf, hfailure⟩
  · simp [hf, hdeep, Fault.isCallFailure]
  · simp [hf, hsome, Fault.isCallFailure]

theorem Request.content_eq_ok_iff {r : Request} {outcome : Outcome} {v : Value} :
    r.content outcome = .ok v ↔ r.Yields outcome v := by
  constructor
  · intro h
    rcases r.content_cases outcome with ⟨w, hw, hyields, -⟩ | ⟨f, hf, -⟩ | ⟨hf, -⟩ | ⟨hf, -⟩
    · exact Except.ok.inj (h.symm.trans hw) ▸ hyields
    all_goals exact absurd (h.symm.trans hf) (by simp)
  · rintro ⟨habsolute, hfits, hsuccess, hread, hholds⟩
    rw [content_of_success habsolute hfits hsuccess, hread]
    exact contentOf_eq_ok_iff.mpr hholds

theorem Request.Yields.not_comesToNothing {r : Request} {outcome : Outcome} {v : Value}
    (h : r.Yields outcome v) : ¬ r.ComesToNothing outcome := by
  have hv := content_eq_ok_iff.mpr h
  rcases r.content_cases outcome with ⟨_, -, -, hsome⟩ | ⟨f, hf, -⟩ | ⟨hf, -⟩ | ⟨-, hsome⟩
  · exact hsome
  · exact absurd (hv.symm.trans hf) (by simp)
  · exact absurd (hv.symm.trans hf) (by simp)
  · exact hsome

/-! ### Calls -/

def Question.sent (q : Question) : List Request :=
  match q.request with
  | .ok r => [r]
  | .error _ => []

def pauses (n count : Nat) : List Nat := (List.range' n count).map (Nat.pow 2)

theorem attempt_eq (q : Question) (outcome : Outcome) :
    attempt q outcome = ⟨(attempt q outcome).result, 1, q.sent, []⟩ := by
  unfold attempt Question.sent
  cases q.request <;> rfl

/-- A call ends with the first attempt that is not worth another one, or with the last one. -/
theorem callFrom_eq {respond : Nat → Outcome} {q : Question} {n k left : Nat} (hk : k < left)
    (hbefore : ∀ j < k, ∃ f, (attempt q (respond (n + j))).result = .error f ∧ f.isCallFailure = true)
    (hlast : k + 1 = left ∨
      ¬ ∃ f, (attempt q (respond (n + k))).result = .error f ∧ f.isCallFailure = true) :
    callFrom respond q n left = ⟨(attempt q (respond (n + k))).result, k + 1,
      (List.replicate (k + 1) q.sent).flatten, pauses n k⟩ := by
  induction k generalizing n left with
  | zero =>
    obtain ⟨left, rfl⟩ := Nat.exists_eq_succ_of_ne_zero (Nat.ne_of_gt hk)
    have hend : callFrom respond q n (left + 1) = attempt q (respond n) := by
      unfold callFrom
      dsimp only
      split
      · rfl
      · next f hf =>
        refine if_neg fun hgoes => ?_
        rcases hlast with hlast | hlast
        · exact hgoes.2 (by omega)
        · exact hlast ⟨f, hf, hgoes.1⟩
    rw [hend, attempt_eq]
    simp [pauses]
  | succ k ih =>
    obtain ⟨left, rfl⟩ := Nat.exists_eq_succ_of_ne_zero (Nat.ne_of_gt (Nat.zero_lt_of_lt hk))
    obtain ⟨f, hf, hfailure⟩ := hbefore 0 (Nat.succ_pos k)
    have hindex : ∀ j, n + 1 + j = n + (j + 1) := fun j => by omega
    have hrest : callFrom respond q (n + 1) left = _ := ih (by omega)
      (fun j hj => by rw [hindex]; exact hbefore (j + 1) (by omega))
      (by rw [hindex]; exact hlast.imp_left (by omega))
    have hgoes : callFrom respond q n (left + 1) =
        (attempt q (respond n)).followedBy (Nat.pow 2 n) (callFrom respond q (n + 1) left) := by
      have hfirst : (attempt q (respond n)).result = .error f := hf
      conv_lhs =>
        unfold callFrom
        dsimp only
        rw [hfirst]
      exact if_pos ⟨hfailure, by omega⟩
    rw [hgoes, hrest, attempt_eq q (respond n), hindex]
    show Call.mk _ (1 + (k + 1)) _ _ = _
    rw [Nat.add_comm 1 (k + 1)]
    rfl

section

variable {q : Question}

theorem Question.sent_of_request {r : Request} (h : q.request = .ok r) : q.sent = [r] := by
  unfold sent
  rw [h]

theorem Question.sent_of_unmade {f : Fault} (h : q.request = .error f) : q.sent = [] := by
  unfold sent
  rw [h]

theorem attempt_of_request {r : Request} (h : q.request = .ok r) (outcome : Outcome) :
    (attempt q outcome).result = r.content outcome := by
  unfold attempt
  rw [h]

theorem attempt_of_unmade {f : Fault} (h : q.request = .error f) (outcome : Outcome) :
    (attempt q outcome).result = .error f := by
  unfold attempt
  rw [h]

end

theorem call_eq {respond : Nat → Outcome} {q : Question} {k attempts : Nat} (hk : k < attempts)
    (hbefore : ∀ j < k, ∃ f, (attempt q (respond j)).result = .error f ∧ f.isCallFailure = true)
    (hlast : k + 1 = attempts ∨
      ¬ ∃ f, (attempt q (respond k)).result = .error f ∧ f.isCallFailure = true) :
    call respond attempts q = ⟨(attempt q (respond k)).result, k + 1,
      (List.replicate (k + 1) q.sent).flatten, (List.range k).map (Nat.pow 2)⟩ := by
  have hcall : callFrom respond q 0 attempts = _ := callFrom_eq hk
    (by simpa only [Nat.zero_add] using hbefore) (by simpa only [Nat.zero_add] using hlast)
  rw [Nat.zero_add, pauses, ← List.range_eq_range'] at hcall
  rw [call, Int.toNat_natCast, hcall]

theorem Request.error_of_not_retries {r : Request} {outcome : Outcome} {f : Fault}
    (h : ¬ r.Retries outcome) (hf : r.content outcome = .error f) : f = .wrongKind ∨ f = .tooDeep := by
  rw [r.retries_iff] at h
  rcases r.content_cases outcome with ⟨v, hv, -⟩ | ⟨g, hg, hfailure, -⟩ | ⟨hdeep, -⟩ | ⟨hkind, -⟩
  · exact absurd (hf.symm.trans hv) (by simp)
  · exact absurd ⟨g, hg, hfailure⟩ h
  · exact .inr (Except.error.inj (hf.symm.trans hdeep))
  · exact .inl (Except.error.inj (hf.symm.trans hkind))

section

variable {respond : Nat → Outcome} {q : Question} {attempts : Nat}

section

variable {r : Request} (hr : q.request = .ok r)
include hr

theorem retries_iff_attempt (outcome : Outcome) :
    r.Retries outcome ↔ ∃ f, (attempt q outcome).result = .error f ∧ f.isCallFailure = true := by
  rw [attempt_of_request hr, r.retries_iff]

theorem flatten_sent (count : Nat) :
    (List.replicate count q.sent).flatten = List.replicate count r := by
  rw [Question.sent_of_request hr, List.flatten_replicate_singleton]

theorem call_ends {k : Nat} (hk : k < attempts) (hbefore : ∀ j < k, r.Retries (respond j))
    (hlast : ¬ r.Retries (respond k)) :
    call respond attempts q =
      ⟨r.content (respond k), k + 1, List.replicate (k + 1) r, (List.range k).map (Nat.pow 2)⟩ := by
  rw [call_eq hk (fun j hj => (retries_iff_attempt hr _).mp (hbefore j hj))
    (.inr fun h => hlast ((retries_iff_attempt hr _).mpr h)), flatten_sent hr, attempt_of_request hr]

theorem call_exhausted (hattempts : 1 ≤ attempts) (hall : ∀ j < attempts, r.Retries (respond j)) :
    call respond attempts q =
      ⟨r.content (respond (attempts - 1)), attempts, List.replicate attempts r,
        (List.range (attempts - 1)).map (Nat.pow 2)⟩ := by
  have hlast : attempts - 1 < attempts := by omega
  have hcount : attempts - 1 + 1 = attempts := by omega
  rw [call_eq hlast (fun j hj => (retries_iff_attempt hr _).mp (hall j (by omega))) (.inl hcount),
    flatten_sent hr, attempt_of_request hr, hcount]

end

theorem call_unmade (hattempts : 1 ≤ attempts) {f : Fault} (hf : q.request = .error f) :
    (call respond attempts q).result = .error f ∧ (call respond attempts q).requests = [] := by
  have hattempt := attempt_of_unmade hf
  have hsent := Question.sent_of_unmade hf
  cases hfailure : f.isCallFailure with
  | true =>
    rw [call_eq (k := attempts - 1) (by omega) (fun j _ => ⟨f, hattempt _, hfailure⟩)
      (.inl (by omega)), hsent]
    exact ⟨hattempt _, by simp⟩
  | false =>
    rw [call_eq (k := 0) hattempts (fun j hj => absurd hj (Nat.not_lt_zero j)) (.inr ?_), hsent]
    · exact ⟨hattempt _, by simp⟩
    · rintro ⟨g, hg, hgf⟩
      obtain rfl := Except.error.inj ((hattempt _).symm.trans hg)
      exact absurd (hfailure.symm.trans hgf) (by decide)

end

/-- A call puts its question up to the first attempt that is not worth another one, or as often as it
may. Each attempt sends the same request, and the pauses between attempts are the powers of two in
order. The call ends as its last attempt does: with the content of the answer, with the error of an
attempt that came to nothing, or at once with a body of an unexpected kind or nested too deeply. A
question of which no request can be made sends nothing. -/
theorem call_retries (respond : Nat → Outcome) (q : Question) {attempts : Nat}
    (hattempts : 1 ≤ attempts) :
    (∀ r, q.request = .ok r →
      (∀ k < attempts, (∀ j < k, r.Retries (respond j)) → ¬ r.Retries (respond k) →
        call respond attempts q =
            ⟨r.content (respond k), k + 1, List.replicate (k + 1) r, (List.range k).map (Nat.pow 2)⟩ ∧
          (∀ v, r.content (respond k) = .ok v ↔ r.Yields (respond k) v) ∧
          ∀ f, r.content (respond k) = .error f → f = .wrongKind ∨ f = .tooDeep) ∧
      ((∀ j < attempts, r.Retries (respond j)) →
        call respond attempts q =
            ⟨r.content (respond (attempts - 1)), attempts, List.replicate attempts r,
              (List.range (attempts - 1)).map (Nat.pow 2)⟩ ∧
          ∃ f, r.content (respond (attempts - 1)) = .error f ∧ f.isCallFailure = true)) ∧
    ∀ f, q.request = .error f →
      (call respond attempts q).result = .error f ∧ (call respond attempts q).requests = [] := by
  refine ⟨fun r hr => ⟨fun k hk hbefore hlast => ?_, fun hall => ?_⟩,
    fun f hf => call_unmade hattempts hf⟩
  · exact ⟨call_ends hr hk hbefore hlast, fun v => Request.content_eq_ok_iff,
      fun f hf => Request.error_of_not_retries hlast hf⟩
  · exact ⟨call_exhausted hr hattempts hall, (r.retries_iff _).mp (hall _ (by omega))⟩

def asked : Question where
  address := address "https://model" "small" "1"
  key := .text "key"
  timeout := .int 30
  messages := .list []
  temperature := .int 0
  maxTokens := .int 1500

theorem exists_request_asked : ∃ r, asked.request = .ok r ∧ r.url.isAbsolute = true := by
  have hrequest : (asked.request.toOption.map (·.url.isAbsolute)) = some true := by decide +kernel
  obtain ⟨r, hr, habsolute⟩ := Option.map_eq_some_iff.mp hrequest
  exact ⟨r, Outcome.ok_of_toOption hr, habsolute⟩

def greeting : Body :=
  .value (.object [("choices", .list [.object [("message", .object [("content", .text "hello")])]])])

theorem yields_greeting {r : Request} (habsolute : r.url.isAbsolute = true) :
    r.Yields (.answered 200 greeting) (.text "hello") :=
  .intro habsolute rfl (by decide) rfl (.intro rfl rfl rfl)

def brackets : Body := .text (String.ofList (List.replicate 100000 '['))

theorem read_brackets : brackets.read = .error .tooDeep := by
  have hascii : ∀ c ∈ (String.ofList (List.replicate 100000 '[')).toList, 0 < c.toNat ∧ c.toNat < 0x80 := by
    rw [String.toList_ofList]
    intro c hc
    rw [List.eq_of_mem_replicate hc]
    decide
  have hread := Json.read_brackets (n := 100000) (by decide) []
  rw [List.append_nil] at hread
  rw [brackets, Body.read_of_ascii hascii, String.toList_ofList, hread]
  rfl

def recovering : Nat → Outcome
  | 0 => .answered 500 (.text "")
  | _ => .answered 200 greeting

theorem call_recovering :
    1 ≤ 3 ∧ ∃ r, asked.request = .ok r ∧ r.Retries (recovering 0) ∧ ¬ r.Retries (recovering 1) ∧
      call recovering 3 asked = ⟨.ok (.text "hello"), 2, [r, r], [1]⟩ := by
  obtain ⟨r, hr, habsolute⟩ := exists_request_asked
  have hyields := yields_greeting habsolute
  have hfirst : r.Retries (recovering 0) := by
    refine ⟨.refused 500 (.text "") (by decide), ?_⟩
    rintro ⟨-, hsuccess, -⟩
    exact absurd hsuccess (by decide)
  have hsecond : ¬ r.Retries (recovering 1) := fun h => hyields.not_comesToNothing h.1
  have hattempts : 1 ≤ 3 := by decide
  have hcall := (((call_retries recovering asked hattempts).1 r hr).1 1 (by decide)
    (fun j hj => by rwa [Nat.lt_one_iff.mp hj]) hsecond).1
  refine ⟨hattempts, r, hr, hfirst, hsecond, ?_⟩
  rw [← Request.content_eq_ok_iff.mpr hyields]
  exact hcall

def nested : Nat → Outcome
  | 0 => .answered 200 brackets
  | _ => .answered 200 greeting

/-- A body that is nested too deeply comes to nothing, and yet ends the call. -/
theorem call_nested :
    ∃ r, asked.request = .ok r ∧ r.ComesToNothing (nested 0) ∧ ¬ r.ComesToNothing (nested 1) ∧
      r.content (nested 1) = .ok (.text "hello") ∧
      call nested 2 asked = ⟨.error .tooDeep, 1, [r], []⟩ ∧
      call nested 2 asked ≠ ⟨r.content (nested 1), 2, [r, r], [1]⟩ := by
  obtain ⟨r, hr, habsolute⟩ := exists_request_asked
  have hyields := yields_greeting habsolute
  have hdeep : r.content (.answered 200 brackets) = .error .tooDeep := by
    have hfits : brackets.Fits := trivial
    rw [Request.content_of_success habsolute hfits (by decide), read_brackets]
    rfl
  have hends : ¬ ∃ f, (attempt asked (nested 0)).result = .error f ∧ f.isCallFailure = true := by
    rintro ⟨f, hf, hfailure⟩
    obtain rfl := Except.error.inj (((attempt_of_request hr _).trans hdeep).symm.trans hf)
    cases hfailure
  have hcall : call nested 2 asked = ⟨.error .tooDeep, 1, [r], []⟩ := by
    have hfirst : call nested 2 asked = ⟨(attempt asked (nested 0)).result, 1, asked.sent ++ [], []⟩ :=
      call_eq (k := 0) Nat.zero_lt_two nofun (.inr hends)
    rw [hfirst, attempt_of_request hr, Question.sent_of_request hr]
    exact congrArg (Call.mk · 1 [r] []) hdeep
  refine ⟨r, hr, .unparsable _ _ _ read_brackets, hyields.not_comesToNothing,
    Request.content_eq_ok_iff.mpr hyields, hcall, fun h => ?_⟩
  cases congrArg Call.attempts (hcall.symm.trans h)

end Chat

end StagedSql
