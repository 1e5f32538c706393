import Mathlib.Data.List.TakeWhile
import StagedSql.Json.Reader
import StagedSql.Proofs.Json.Tokens
import StagedSql.Proofs.Keyed

/-!
# Reading what was written

A value without fractions is read back from its text, as long as its whole numbers are not too long
and its containers not too deep for the reader.
-/

namespace StagedSql

/-- The value holds no fractions and no whole numbers too long to be read, no object has a key twice,
and at most `depth` containers are inside one another. -/
inductive Value.Readable : Nat → Value → Prop
  | null {depth : Nat} : Readable depth .null
  | bool {depth : Nat} (b : Bool) : Readable depth (.bool b)
  | int {depth : Nat} {i : Int} (short : (Nat.toDigits 10 i.natAbs).length ≤ Text.longestWhole) :
      Readable depth (.int i)
  | text {depth : Nat} (s : String) : Readable depth (.text s)
  | list {depth : Nat} {items : List Value} (all : ∀ v ∈ items, Readable depth v) :
      Readable (depth + 1) (.list items)
  | object {depth : Nat} {fields : Fields} (distinct : fields.keys.Nodup)
      (all : ∀ f ∈ fields, Readable depth f.2) : Readable (depth + 1) (.object fields)

namespace Value

variable {depth : Nat} {items : List Value}

theorem readable_int_iff {i : Int} :
    (int i).Readable depth ↔ (Nat.toDigits 10 i.natAbs).length ≤ Text.longestWhole :=
  ⟨fun | .int short => short, .int⟩

theorem not_readable_list_zero : ¬ (list items).Readable 0 := nofun

theorem readable_list_succ_iff :
    (list items).Readable (depth + 1) ↔ ∀ v ∈ items, v.Readable depth :=
  ⟨fun | .list all => all, .list⟩

end Value

namespace Json

/-! ### Whole numbers -/

theorem head_toDigits {n : Nat} (h : 0 < n) : (Nat.toDigits 10 n).head? ≠ some '0' := by
  induction n using Nat.strongRecOn with
  | _ n ih =>
    by_cases hn : n < 10
    · have hdigit : ∀ d < 10, 0 < d → Nat.digitChar d ≠ '0' := by decide
      rw [Nat.toDigits_of_lt_base hn]
      simpa using hdigit n hn h
    · rw [Nat.toDigits_of_base_le (by decide) (by omega), List.head?_append]
      have hhead := ih (n / 10) (by omega) (by omega)
      cases hfirst : (Nat.toDigits 10 (n / 10)).head? with
      | none => exact absurd (List.head?_eq_none_iff.mp hfirst) Nat.toDigits_ne_nil
      | some c =>
        rw [hfirst] at hhead
        simpa using hhead

theorem wholeDigits_toDigits (n : Nat) : wholeDigits (Nat.toDigits 10 n) = Nat.toDigits 10 n := by
  have hdigits : ∀ c ∈ Nat.toDigits 10 n, Text.isAsciiDigit c := fun c hc =>
    Text.isAsciiDigit_of_isDigit (Nat.isDigit_of_mem_toDigits (by decide) (by decide) hc)
  unfold wholeDigits
  split
  · next hzero =>
    rcases Nat.eq_zero_or_pos n with rfl | hpos
    · rfl
    · exact absurd hzero (head_toDigits hpos)
  · exact List.takeWhile_eq_self_iff.mpr hdigits

theorem unsignedNumber_toDigits (negative : Bool) (n : Nat) :
    unsignedNumber negative (Nat.toDigits 10 n) =
      if Text.longestWhole < (Nat.toDigits 10 n).length then
        .error (.longNumber (Nat.toDigits 10 n).length)
      else .ok (.int (if negative then -Int.ofNat n else Int.ofNat n)) := by
  have hvalue : Nat.ofDigitChars 10 (Nat.toDigits 10 n) 0 = n := Nat.ofDigitChars_ten_toDigits
  unfold unsignedNumber
  simp only [wholeDigits_toDigits, List.drop_length, fraction, exponent, Nat.toDigits_ne_nil,
    if_false, hvalue]
  simp

theorem lt_length_toDigits_tenPow (n : Nat) :
    n < (Nat.toDigits 10 (Int.ofNat (Nat.pow 10 n)).natAbs).length := by
  show n < (Nat.toDigits 10 (Nat.pow 10 n)).length
  rcases Nat.eq_zero_or_pos n with rfl | hpos
  · decide
  · refine Nat.not_le.mp fun hle => ?_
    exact Nat.lt_irrefl _ ((Nat.length_toDigits_le_iff (by decide) hpos).mp hle)

theorem intChars_ne {i : Int} {s : List Char} (h : s.any fun c => c != '-' && !c.isDigit) :
    Value.intChars i ≠ s := by
  rintro rfl
  obtain ⟨c, hc, hletter⟩ := List.any_eq_true.mp h
  rcases mem_intChars hc with rfl | hdigit
  · exact absurd hletter (by decide)
  · simp [hdigit] at hletter

theorem wordValue_intChars (i : Int) :
    wordValue (Value.intChars i) =
      if Text.longestWhole < (Nat.toDigits 10 i.natAbs).length then
        .error (.longNumber (Nat.toDigits 10 i.natAbs).length)
      else .ok (.int i) := by
  have hnull : Value.intChars i ≠ "null".toList := intChars_ne (by decide)
  have htrue : Value.intChars i ≠ "true".toList := intChars_ne (by decide)
  have hfalse : Value.intChars i ≠ "false".toList := intChars_ne (by decide)
  have hnan : Value.intChars i ≠ "NaN".toList := intChars_ne (by decide)
  have hinfinity : Value.intChars i ≠ "Infinity".toList := intChars_ne (by decide)
  have hminus : Value.intChars i ≠ "-Infinity".toList := intChars_ne (by decide)
  unfold wordValue
  rw [if_neg hnull, if_neg htrue, if_neg hfalse, if_neg hnan, if_neg hinfinity, if_neg hminus]
  unfold Value.intChars
  by_cases hneg : i < 0
  · have hvalue : -Int.ofNat i.natAbs = i := by
      show -(i.natAbs : Int) = i
      rw [Int.ofNat_natAbs_of_nonpos (Int.le_of_lt hneg), Int.neg_neg]
    simp only [if_pos hneg, unsignedNumber_toDigits, if_true, hvalue]
  · have hvalue : Int.ofNat i.natAbs = i := Int.natAbs_of_nonneg (Int.not_lt.mp hneg)
    rw [if_neg hneg]
    split
    · next rest heq =>
      have hdigit := Nat.isDigit_of_mem_toDigits (b := 10) (n := i.natAbs) (c := '-') (by decide)
        (by decide) (by rw [heq]; exact List.mem_cons_self ..)
      cases hdigit
    · simp only [unsignedNumber_toDigits, Bool.false_eq_true, if_false, hvalue]

theorem wordValue_of_short {i : Int} (h : (Nat.toDigits 10 i.natAbs).length ≤ Text.longestWhole) :
    wordValue (Value.intChars i) = .ok (.int i) := by
  rw [wordValue_intChars, if_neg (Nat.not_lt.mpr h)]

theorem wordValue_of_long {i : Int} (h : Text.longestWhole < (Nat.toDigits 10 i.natAbs).length) :
    wordValue (Value.intChars i) = .error (.longNumber (Nat.toDigits 10 i.natAbs).length) := by
  rw [wordValue_intChars, if_pos h]

/-! ### The machine -/

namespace Machine

def run (m : Machine) (ts : List Token) : Except Error Machine := ts.foldlM step m

theorem run_cons {m m' : Machine} {t : Token} (h : m.step t = .ok m') (ts : List Token) :
    m.run (t :: ts) = m'.run ts := by
  unfold run
  rw [List.foldlM_cons, h]
  rfl

theorem run_cons_error {m : Machine} {t : Token} {e : Error} (h : m.step t = .error e)
    (ts : List Token) : m.run (t :: ts) = .error e := by
  unfold run
  rw [List.foldlM_cons, h]
  rfl

theorem run_singleton (m : Machine) (t : Token) : m.run [t] = m.step t := by
  unfold run
  rw [List.foldlM_cons]
  cases m.step t <;> rfl

theorem run_append {m m' : Machine} {ts : List Token} (h : m.run ts = .ok m') (ts' : List Token) :
    m.run (ts ++ ts') = m'.run ts' := by
  unfold run at h ⊢
  rw [List.foldlM_append, h]
  rfl

/-- At the place of a value the tokens come to the value, as long as `depth` more containers may be
opened. -/
def Takes (depth : Nat) (ts : List Token) (v : Value) : Prop :=
  ∀ stack : List Frame, stack.length + depth ≤ deepest →
    run ⟨stack, .value⟩ ts = deliver v stack

theorem run_items {depth : Nat} {v : Value} {rest before : List Value} {outer : List Frame}
    (h : ∀ w ∈ v :: rest, Takes depth (tokensOf w) w) (hroom : outer.length + 1 + depth ≤ deepest) :
    run ⟨.items before :: outer, .value⟩ (tokensOfItems (v :: rest) ++ [.closeList]) =
      deliver (.list (before.reverse ++ v :: rest)) outer := by
  induction rest generalizing v before with
  | nil =>
    have hv := h v (List.mem_cons_self ..) (.items before :: outer) hroom
    rw [tokensOfItems, run_append hv, run_singleton]
    simp [step, closeList]
  | cons w more ih =>
    have hv := h v (List.mem_cons_self ..) (.items before :: outer) hroom
    have hcomma : step ⟨.items (v :: before) :: outer, .commaOrClose⟩ .comma =
      .ok ⟨.items (v :: before) :: outer, .value⟩ := rfl
    rw [tokensOfItems, List.append_assoc, run_append hv, List.cons_append, run_cons hcomma,
      ih fun x hx => h x (List.mem_cons_of_mem _ hx)]
    simp

theorem run_member (before : Fields) (key : String) (outer : List Frame) (ts : List Token) :
    run ⟨.fields before :: outer, .key⟩ (.text key.toList :: .colon :: ts) =
      run ⟨.member before key :: outer, .value⟩ ts := by
  have hkey : step ⟨.fields before :: outer, .key⟩ (.text key.toList) =
      .ok ⟨.member before key :: outer, .colon⟩ := by
    simp only [step, takeKey, String.ofList_toList]
  have hcolon : step ⟨.member before key :: outer, .colon⟩ .colon =
    .ok ⟨.member before key :: outer, .value⟩ := rfl
  rw [run_cons hkey, run_cons hcolon]

theorem not_mem_keys_of_distinct {f : String × Value} {before rest : Fields}
    (h : (Keyed.keys (before ++ f :: rest)).Nodup) : f.1 ∉ before.keys := by
  simp only [Keyed.keys, List.map_append, List.map_cons, List.nodup_append] at h
  exact fun hmem => h.2.2 _ hmem _ (List.mem_cons_self ..) rfl

theorem run_fields {depth : Nat} {f : String × Value} {rest before : Fields} {outer : List Frame}
    (h : ∀ g ∈ f :: rest, Takes depth (tokensOf g.2) g.2)
    (hroom : outer.length + 1 + depth ≤ deepest)
    (hdistinct : (Keyed.keys (before ++ f :: rest)).Nodup) :
    run ⟨.fields before :: outer, .key⟩ (tokensOfFields (f :: rest) ++ [.closeObject]) =
      deliver (.object (before ++ f :: rest)) outer := by
  induction rest generalizing f before with
  | nil =>
    have hf := h f (List.mem_cons_self ..) (.member before f.1 :: outer) hroom
    have hnew := not_mem_keys_of_distinct hdistinct
    simp only [tokensOfFields, List.cons_append]
    rw [run_member, run_append hf, run_singleton, Keyed.put_of_not_mem hnew]
    rfl
  | cons g more ih =>
    have hf := h f (List.mem_cons_self ..) (.member before f.1 :: outer) hroom
    have hnew := not_mem_keys_of_distinct hdistinct
    have hsplit : before ++ f :: g :: more = (before ++ [f]) ++ g :: more := by simp
    have hcomma : step ⟨.fields (before ++ [f]) :: outer, .commaOrClose⟩ .comma =
      .ok ⟨.fields (before ++ [f]) :: outer, .key⟩ := rfl
    rw [deliver, Keyed.put_of_not_mem hnew] at hf
    simp only [tokensOfFields, List.cons_append, List.append_assoc]
    rw [run_member, run_append hf, run_cons hcomma, hsplit]
    exact ih (fun x hx => h x (List.mem_cons_of_mem _ hx)) (hsplit ▸ hdistinct)

theorem head_tokensOf (v : Value) : ∃ t ts, tokensOf v = t :: ts ∧ t ≠ .closeList := by
  cases v with
  | bool b => cases b <;> exact ⟨_, _, rfl, by simp⟩
  | _ => exact ⟨_, _, rfl, by simp⟩

theorem run_firstItem (v : Value) (rest : List Value) (ts : List Token) (stack : List Frame) :
    run ⟨stack, .valueOrClose⟩ (tokensOfItems (v :: rest) ++ ts) =
      run ⟨stack, .value⟩ (tokensOfItems (v :: rest) ++ ts) := by
  obtain ⟨t, more, hv, ht⟩ := head_tokensOf v
  have hitems : ∃ others, tokensOfItems (v :: rest) ++ ts = t :: others := by
    cases rest with
    | nil => exact ⟨_, by rw [tokensOfItems, hv, List.cons_append]⟩
    | cons w rest => exact ⟨_, by rw [tokensOfItems, hv, List.cons_append, List.cons_append]⟩
  obtain ⟨others, hothers⟩ := hitems
  rw [hothers]
  unfold run
  rw [List.foldlM_cons, List.foldlM_cons]
  simp only [step, if_neg ht]

theorem run_firstMember (f : String × Value) (rest : Fields) (ts : List Token) (stack : List Frame) :
    run ⟨stack, .keyOrClose⟩ (tokensOfFields (f :: rest) ++ ts) =
      run ⟨stack, .key⟩ (tokensOfFields (f :: rest) ++ ts) := by
  have hfields : ∃ others, tokensOfFields (f :: rest) ++ ts = .text f.1.toList :: others := by
    cases rest with
    | nil => exact ⟨_, rfl⟩
    | cons g rest => exact ⟨_, rfl⟩
  obtain ⟨others, hothers⟩ := hfields
  rw [hothers]
  unfold run
  rw [List.foldlM_cons, List.foldlM_cons]
  rfl

theorem open?_of_room {depth : Nat} {stack : List Frame} (h : stack.length + (depth + 1) ≤ deepest)
    (frame : Frame) (expected : Expected) :
    open? frame expected stack = .ok ⟨frame :: stack, expected⟩ := by
  have hlt : stack.length < deepest := by omega
  rw [open?, if_pos hlt]

theorem takes_tokensOf {depth : Nat} {v : Value} (h : v.Readable depth) :
    Takes depth (tokensOf v) v := by
  induction h with
  | null =>
    intro stack _
    exact run_singleton _ _
  | bool b =>
    intro stack _
    cases b <;> exact run_singleton _ _
  | int short =>
    intro stack _
    rw [tokensOf, run_singleton]
    show (wordValue _ >>= fun v => deliver v stack) = _
    rw [wordValue_of_short short]
    rfl
  | text s =>
    intro stack _
    rw [tokensOf, run_singleton]
    show deliver (.text (String.ofList s.toList)) stack = _
    rw [String.ofList_toList]
  | @list depth items all ih =>
    intro stack hroom
    have hopen : step ⟨stack, .value⟩ .openList = .ok ⟨.items [] :: stack, .valueOrClose⟩ :=
      open?_of_room hroom _ _
    rw [tokensOf, List.cons_append, run_cons hopen]
    cases items with
    | nil => exact run_singleton _ _
    | cons w rest =>
      rw [run_firstItem]
      exact run_items ih (by omega)
  | @object depth fields distinct all ih =>
    intro stack hroom
    have hopen : step ⟨stack, .value⟩ .openObject = .ok ⟨.fields [] :: stack, .keyOrClose⟩ :=
      open?_of_room hroom _ _
    rw [tokensOf, List.cons_append, run_cons hopen]
    cases fields with
    | nil => exact run_singleton _ _
    | cons f rest =>
      rw [run_firstMember]
      exact run_fields ih (by omega) distinct

end Machine

theorem read_eq_run (v : Value) :
    read (write v) = Machine.run Machine.start (tokensOf v) >>= Machine.result := by
  rw [read, tokens_write]
  rfl

/-- Reading the text of a value gives back the value. -/
theorem read_write {v : Value} (h : v.Readable Machine.deepest) : read (write v) = .ok v := by
  have htakes := Machine.takes_tokensOf h [] (Nat.le_of_eq (Nat.zero_add _))
  rw [read_eq_run, Machine.start, htakes]
  rfl

end Json

end StagedSql
