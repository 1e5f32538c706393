import StagedSql.Chat.Client
import StagedSql.Proofs.Outcome

/-!
# How a call to the language model ends

A call ends with an answer or with a fault. Most faults mean that the call went wrong; the others come
from a body of an unexpected shape and from an address that cannot be read.
-/

namespace StagedSql.Chat

open StagedSql.Outcome (FailsWith)

def EndsCall (fault : Fault) : Prop :=
  fault.isCallFailure = true ∨ fault = .wrongKind ∨ fault = .tooDeep ∨ fault = .malformedUrl

/-! ### Reading an answer -/

theorem endsCall_unlessFinite (v : Value) : FailsWith EndsCall (Fault.unlessFinite v) := by
  unfold Fault.unlessFinite
  split
  · exact .ok v
  · exact .error (.inl rfl)

theorem Body.read_error {body : Body} {f : Fault} (h : body.read = .error f) :
    f.isCallFailure = true ∨ f = .tooDeep := by
  cases body with
  | value v => cases h
  | text s =>
    unfold Body.read valueOfBytes at h
    dsimp only at h
    split at h
    · cases h
      exact .inl rfl
    · next chars hchars =>
      cases hread : Json.read chars with
      | ok v =>
        rw [hread] at h
        cases h
      | error e =>
        rw [hread] at h
        cases h
        cases e with
        | malformed => exact .inl rfl
        | longNumber digits => exact .inl rfl
        | tooDeep => exact .inr rfl

theorem entryAt_object (key : String) (fields : Fields) :
    entryAt key (.object fields) =
      match fields.lookup? key with
      | some v => .ok v
      | none => .error (.missingKey (.text key)) := rfl

theorem entryAt_eq_ok_iff {key : String} {v w : Value} :
    entryAt key v = .ok w ↔ ∃ fields : Fields, v = .object fields ∧ fields.lookup? key = some w := by
  cases v with
  | object fields =>
    rw [entryAt_object]
    cases hv : Keyed.lookup? key fields <;> simp [hv]
  | _ => simp [entryAt]

theorem entryAt_error {key : String} {v : Value} {f : Fault} (h : entryAt key v = .error f) :
    f.isCallFailure = true ∧ (∃ fields : Fields, v = .object fields ∧ fields.lookup? key = none) ∨
      f = .wrongKind := by
  cases v with
  | object fields =>
    rw [entryAt_object] at h
    split at h
    · cases h
    · next hnone =>
      cases h
      exact .inl ⟨rfl, fields, rfl, hnone⟩
  | _ =>
    cases h
    exact .inr rfl

theorem firstItem_error {v : Value} {f : Fault} (h : firstItem v = .error f) :
    f.isCallFailure = true ∧ (v = .list [] ∨ v = .text "" ∨ ∃ fields : Fields, v = .object fields) ∨
      f = .wrongKind := by
  unfold firstItem at h
  split at h
  · cases h
  · cases h
    exact .inl ⟨rfl, .inl rfl⟩
  · next s =>
    split at h
    · cases h
    · next hnil =>
      cases h
      exact .inl ⟨rfl, .inr (.inl (by rw [String.toList_eq_nil_iff.mp hnil]))⟩
  · next fields =>
    cases h
    exact .inl ⟨rfl, .inr (.inr ⟨fields, rfl⟩)⟩
  · cases h
    exact .inr rfl

theorem endsCall_read (body : Body) : FailsWith EndsCall body.read := fun _ h =>
  (Body.read_error h).imp_right fun hdeep => .inr (.inl hdeep)

theorem endsCall_entryAt (key : String) (v : Value) : FailsWith EndsCall (entryAt key v) := fun _ h =>
  (entryAt_error h).imp And.left .inl

theorem endsCall_firstItem (v : Value) : FailsWith EndsCall (firstItem v) := fun _ h =>
  (firstItem_error h).imp And.left .inl

theorem endsCall_contentOf (v : Value) : FailsWith EndsCall (contentOf v) :=
  (endsCall_entryAt _ _).bind fun choices => (endsCall_firstItem choices).bind fun choice =>
    (endsCall_entryAt _ choice).bind fun message => endsCall_entryAt _ message

theorem endsCall_arrival (outcome : Outcome) : FailsWith EndsCall outcome.arrival := by
  unfold Outcome.arrival
  split
  · exact (endsCall_unlessFinite _).map _
  · exact .ok _
  · exact .error (.inl rfl)
  · exact .error (.inl rfl)

theorem endsCall_content (r : Request) (outcome : Outcome) : FailsWith EndsCall (r.content outcome) := by
  refine (endsCall_arrival outcome).bind fun arrived => ?_
  dsimp only
  split
  · exact .error (.inl rfl)
  · split
    · exact (endsCall_read arrived.2).bind endsCall_contentOf
    · exact .error (.inl rfl)

/-! ### Attempts -/

theorem endsCall_request (q : Question) : FailsWith EndsCall q.request := by
  have hurl : FailsWith EndsCall q.url := by
    unfold Question.url
    split
    · exact .ok _
    · exact .error (.inr (.inr (.inr rfl)))
  have hkey : FailsWith EndsCall (headerText q.key) := by
    unfold headerText
    split
    · split
      · exact .ok _
      · exact .error (.inl rfl)
    · exact .error (.inr (.inl rfl))
  refine hurl.bind fun url => hkey.bind fun key => (endsCall_unlessFinite _).bind fun body => ?_
  split
  · exact .ok _
  · exact .error (.inl rfl)

theorem endsCall_attempt (q : Question) (outcome : Outcome) :
    FailsWith EndsCall (attempt q outcome).result := by
  unfold attempt
  split
  · next fault h => exact .error (endsCall_request q fault h)
  · next r h => exact endsCall_content r outcome

theorem endsCall_callFrom (respond : Nat → Outcome) (q : Question) (n left : Nat) :
    FailsWith EndsCall (callFrom respond q n left).result := by
  induction left generalizing n with
  | zero => exact .ok _
  | succ left ih =>
    unfold callFrom
    dsimp only
    split
    · exact endsCall_attempt q (respond n)
    · split
      · exact ih (n + 1)
      · exact endsCall_attempt q (respond n)

/-- Whatever the settings and the answers, a call ends with a content or with one of these faults. -/
theorem endsCall_reply (s : Settings) (respond : Nat → Outcome) (messages : List Message) :
    FailsWith EndsCall (reply s respond messages) :=
  endsCall_callFrom respond (Question.of s messages) 0 s.chatAttempts.toNat

/-! ### A call that is answered -/

/-- JSON can hold every question that the settings make of messages. -/
theorem unlessFinite_body (s : Settings) (messages : List Message) :
    Fault.unlessFinite (Question.of s messages).body = .ok (Question.of s messages).body := by
  refine if_pos ?_
  have hmessages : Value.interchangeItems (messages.map Message.toValue) =
      messages.map Message.toValue := by
    rw [Value.interchangeItems_eq_map, List.map_map]
    rfl
  have htemperature : usualTemperature.interchange = usualTemperature := by decide +kernel
  simp only [Question.body, Question.of, Value.interchange, Value.interchangeFields, hmessages, htemperature, usualLength]

theorem reply_of_content {s : Settings} {respond : Nat → Outcome} {url : Url} {v : Value}
    {messages : List Message} (hurl : (Question.of s []).url = .ok url)
    (hhost : url.host.all (·.toNat < 0x80)) (hkey : headerText (.text s.chatKey) = .ok s.chatKey)
    (hattempts : 0 < s.chatAttempts)
    (hcontent : ∀ body, (Request.mk url s.chatKey body).content (respond 0) = .ok v) :
    reply s respond messages = .ok v := by
  have hrequest : (Question.of s messages).request =
      .ok ⟨url, s.chatKey, (Question.of s messages).body⟩ := by
    have hurl' : (Question.of s messages).url = .ok url := hurl
    have hkey' : headerText (Question.of s messages).key = .ok s.chatKey := hkey
    simp only [Question.request, hurl', hkey', unlessFinite_body]
    exact if_pos hhost
  obtain ⟨n, hn⟩ : ∃ n, s.chatAttempts.toNat = n + 1 := ⟨s.chatAttempts.toNat - 1, by omega⟩
  have hattempt : attempt (Question.of s messages) (respond 0) =
      ⟨.ok v, 1, [⟨url, s.chatKey, (Question.of s messages).body⟩], []⟩ := by
    unfold attempt
    rw [hrequest]
    dsimp only
    rw [hcontent]
  show (callFrom respond (Question.of s messages) 0 s.chatAttempts.toNat).result = .ok v
  rw [hn]
  unfold callFrom
  rw [hattempt]

end StagedSql.Chat
