import StagedSql.Proofs.Json.RoundTrip
import StagedSql.Proofs.Outcome
import StagedSql.Text.Blank

/-!
# Texts that are not read

The reader takes the tokens in the order in which they are read, so what is told about the tokens at the
front of a text holds whatever stands behind them: too many containers are refused where they open, and a
text that breaks off inside a string is malformed.
-/

namespace StagedSql.Json

/-! ### Tokens of a text that goes on -/

theorem step_tokens (st : Lexing × List Token) (c : Char) :
    ∃ more, (step st c).2 = more ++ st.2 ∧
      ((step st c).1 = .failed → st.1 = .failed ∨ Token.bad ∈ more) := by
  have hidle : ∀ before, ∃ more, (stepIdle before c).2 = more ++ before ∧
      ((stepIdle before c).1 = .failed → Token.bad ∈ more) := by
    intro before
    unfold stepIdle
    split
    · exact ⟨[], rfl, nofun⟩
    split
    · exact ⟨[], rfl, nofun⟩
    split
    · exact ⟨[], rfl, nofun⟩
    split
    · next t _ => exact ⟨[t], rfl, nofun⟩
    · exact ⟨[.bad], rfl, fun _ => List.mem_singleton_self _⟩
  obtain ⟨lexing, before⟩ := st
  unfold step
  cases lexing with
  | idle =>
    obtain ⟨more, hmore, hbad⟩ := hidle before
    exact ⟨more, hmore, fun h => .inr (hbad h)⟩
  | inWord chars =>
    dsimp only
    split
    · exact ⟨[], rfl, nofun⟩
    · obtain ⟨more, hmore, hbad⟩ := hidle (.word chars.reverse :: before)
      refine ⟨more ++ [.word chars.reverse], by simp [hmore], fun h => .inr ?_⟩
      exact List.mem_append_left _ (hbad h)
  | inText units =>
    dsimp only
    split
    · exact ⟨[.text _], rfl, nofun⟩
    split
    · exact ⟨[], rfl, nofun⟩
    split
    · exact ⟨[.bad], rfl, fun _ => .inr (List.mem_singleton_self _)⟩
    · exact ⟨[], rfl, nofun⟩
  | escape units =>
    dsimp only
    split
    · exact ⟨[], rfl, nofun⟩
    split
    · exact ⟨[], rfl, nofun⟩
    · exact ⟨[.bad], rfl, fun _ => .inr (List.mem_singleton_self _)⟩
  | codeUnit units digits value =>
    dsimp only
    split
    · exact ⟨[.bad], rfl, fun _ => .inr (List.mem_singleton_self _)⟩
    split
    · exact ⟨[], rfl, nofun⟩
    · exact ⟨[], rfl, nofun⟩
  | failed => exact ⟨[], rfl, fun _ => .inl rfl⟩

theorem foldl_step_tokens (st : Lexing × List Token) (s : List Char) :
    ∃ more, (s.foldl step st).2 = more ++ st.2 ∧
      ((s.foldl step st).1 = .failed → st.1 = .failed ∨ Token.bad ∈ more) := by
  induction s generalizing st with
  | nil => exact ⟨[], rfl, .inl⟩
  | cons c rest ih =>
    obtain ⟨first, hfirst, hstep⟩ := step_tokens st c
    obtain ⟨more, hmore, hrest⟩ := ih (step st c)
    refine ⟨more ++ first, by rw [List.foldl_cons, hmore, hfirst, List.append_assoc], fun h => ?_⟩
    rcases hrest h with h | h
    · exact (hstep h).imp_right (List.mem_append_right _)
    · exact .inr (List.mem_append_left _ h)

theorem exists_finish_eq (st : Lexing × List Token) : ∃ last, finish st = st.2.reverse ++ last := by
  obtain ⟨lexing, before⟩ := st
  cases lexing with
  | idle => exact ⟨[], (List.append_nil _).symm⟩
  | failed => exact ⟨[], (List.append_nil _).symm⟩
  | _ => exact ⟨_, List.reverse_cons⟩

def lexed (s : List Char) : Lexing × List Token := s.foldl step (.idle, [])

theorem exists_tokens_append (s rest : List Char) :
    ∃ more, tokens (s ++ rest) = (lexed s).2.reverse ++ more := by
  obtain ⟨more, hmore, -⟩ := foldl_step_tokens (lexed s) rest
  obtain ⟨last, hlast⟩ := exists_finish_eq (rest.foldl step (lexed s))
  refine ⟨more.reverse ++ last, ?_⟩
  rw [tokens, List.foldl_append]
  show finish (rest.foldl step (lexed s)) = _
  rw [hlast, hmore, List.reverse_append, List.append_assoc]

theorem bad_mem_of_failed {s : List Char} (h : (lexed s).1 = .failed) : Token.bad ∈ (lexed s).2 := by
  obtain ⟨more, hmore, hbad⟩ := foldl_step_tokens (.idle, []) s
  have hmore : (lexed s).2 = more ++ [] := hmore
  rw [hmore]
  rcases hbad h with h | h
  · cases h
  · exact List.mem_append_left _ h

/-! ### The machine at a mistake -/

namespace Machine

theorem step_bad (m : Machine) : m.step .bad = .error .malformed := by
  obtain ⟨stack, expected⟩ := m
  cases expected with
  | commaOrClose => rcases stack with _ | ⟨_ | _ | _, _⟩ <;> rfl
  | key => rcases stack with _ | ⟨_ | _ | _, _⟩ <;> rfl
  | keyOrClose => rcases stack with _ | ⟨_ | _ | _, _⟩ <;> rfl
  | _ => rfl

theorem exists_run_of_append {m last : Machine} {ts ts' : List Token}
    (h : m.run (ts ++ ts') = .ok last) : ∃ m', m.run ts = .ok m' := by
  unfold run at h ⊢
  rw [List.foldlM_append] at h
  obtain ⟨m', hm', -⟩ := Outcome.exists_of_bind_ok h
  exact ⟨m', hm'⟩

theorem run_bad {m m' : Machine} {ts : List Token} (h : m.run ts = .ok m') (ts' : List Token) :
    m.run (ts ++ .bad :: ts') = .error .malformed := by
  rw [run_append h, run_cons_error m'.step_bad]

end Machine

theorem exists_run_of_read {s : List Char} {v : Value} (h : read s = .ok v) :
    ∃ m, Machine.start.run (tokens s) = .ok m := by
  obtain ⟨m, hm, -⟩ := Outcome.exists_of_bind_ok h
  exact ⟨m, hm⟩

theorem bad_not_mem_of_read {s : List Char} {v : Value} (h : read s = .ok v) :
    Token.bad ∉ tokens s := by
  intro hbad
  obtain ⟨ts, ts', hsplit⟩ := List.append_of_mem hbad
  obtain ⟨m, hm⟩ := exists_run_of_read h
  rw [hsplit] at hm
  obtain ⟨m', hm'⟩ := Machine.exists_run_of_append hm
  exact absurd (hm.symm.trans (Machine.run_bad hm' ts')) (by simp)

/-! ### Texts that break off inside a string -/

def backquote : Char := Char.ofNat 0x60

theorem inText_of_backquote {st : Lexing × List Token} (h : (step st backquote).1 ≠ .failed) :
    ∃ units, st.1 = .inText units := by
  obtain ⟨lexing, before⟩ := st
  cases lexing with
  | inText units => exact ⟨units, rfl⟩
  | _ => exact absurd rfl h

theorem escaped?_of_isBlank {c : Char} (hc : Text.isBlank c) : escaped? c = none := by
  unfold escaped?
  split
  case h_9 => rfl
  all_goals exact absurd hc (by decide)

theorem hexValue?_of_isBlank {c : Char} (hc : Text.isBlank c) : Text.hexValue? c = none := by
  have htoNat : ∀ d e : Char, d ≤ e ↔ d.toNat ≤ e.toNat := fun d e => UInt32.le_iff_toNat_le
  simp only [Text.isBlank, Text.inRanges, Text.blankRanges, List.any_cons, List.any_nil, Bool.or_eq_true,
    Bool.and_eq_true, decide_eq_true_eq, Bool.false_eq_true, or_false] at hc
  have hdigit : ¬ Text.isAsciiDigit c := by
    simp only [Text.isAsciiDigit, Bool.and_eq_true, decide_eq_true_eq, htoNat, Char.reduceToNat]
    omega
  have hsmall : ¬ ('a' ≤ c ∧ c ≤ 'f') := by
    simp only [htoNat, Char.reduceToNat]
    omega
  have hcapital : ¬ ('A' ≤ c ∧ c ≤ 'F') := by
    simp only [htoNat, Char.reduceToNat]
    omega
  unfold Text.hexValue?
  rw [if_neg hdigit, if_neg hsmall, if_neg hcapital]

theorem inText_of_blank {st : Lexing × List Token} {c : Char} (hc : Text.isBlank c)
    (h : ∃ units, (step st c).1 = .inText units) : ∃ units, st.1 = .inText units := by
  obtain ⟨units, hunits⟩ := h
  have hidle : ∀ before, (stepIdle before c).1 ≠ .inText units := by
    intro before
    unfold stepIdle
    split
    · nofun
    split
    · next hquote =>
      subst hquote
      exact absurd hc (by decide)
    split
    · nofun
    split <;> nofun
  obtain ⟨lexing, before⟩ := st
  unfold step at hunits
  cases lexing with
  | inText earlier => exact ⟨earlier, rfl⟩
  | idle => exact absurd hunits (hidle before)
  | inWord chars =>
    dsimp only at hunits
    split at hunits
    · cases hunits
    · exact absurd hunits (hidle _)
  | escape earlier =>
    simp only [escaped?_of_isBlank hc] at hunits
    split at hunits <;> cases hunits
  | codeUnit earlier digits value =>
    simp only [hexValue?_of_isBlank hc] at hunits
    cases hunits
  | failed => cases hunits

theorem inText_of_blanks {st : Lexing × List Token} {blanks : List Char}
    (hblanks : ∀ c ∈ blanks, Text.isBlank c)
    (h : ∃ units, (blanks.foldl step st).1 = .inText units) : ∃ units, st.1 = .inText units := by
  induction blanks generalizing st with
  | nil => exact h
  | cons c rest ih =>
    rw [List.forall_mem_cons] at hblanks
    exact inText_of_blank hblanks.1 (ih hblanks.2 h)

/-- A text that can be read is malformed up to a backquote, and so up to the blanks before it. -/
theorem read_before_backquote {s blanks rest : List Char} {v : Value}
    (hblanks : ∀ c ∈ blanks, Text.isBlank c) (h : read (s ++ (blanks ++ backquote :: rest)) = .ok v) :
    read s = .error .malformed := by
  have hlexed : lexed (s ++ blanks ++ [backquote]) = step (blanks.foldl step (lexed s)) backquote := by
    unfold lexed
    rw [List.foldl_append, List.foldl_append]
    rfl
  have hsplit : s ++ (blanks ++ backquote :: rest) = s ++ blanks ++ [backquote] ++ rest := by simp
  have hgoes : (lexed (s ++ blanks ++ [backquote])).1 ≠ .failed := by
    intro hfailed
    obtain ⟨more, hmore⟩ := exists_tokens_append (s ++ blanks ++ [backquote]) rest
    refine bad_not_mem_of_read h ?_
    rw [hsplit, hmore]
    exact List.mem_append_left _ (List.mem_reverse.mpr (bad_mem_of_failed hfailed))
  rw [hlexed] at hgoes
  obtain ⟨units, hunits⟩ := inText_of_blanks hblanks (inText_of_backquote hgoes)
  obtain ⟨more, hmore⟩ := exists_tokens_append s (blanks ++ backquote :: rest)
  obtain ⟨last, hlast⟩ := exists_run_of_read h
  rw [hmore] at hlast
  obtain ⟨m, hm⟩ := Machine.exists_run_of_append hlast
  have htokens : tokens s = (lexed s).2.reverse ++ [.bad] := by
    show finish (lexed s) = _
    generalize lexed s = st at hunits ⊢
    obtain ⟨lexing, before⟩ := st
    obtain rfl : lexing = .inText units := hunits
    exact List.reverse_cons
  rw [read, htokens]
  show (Machine.start.run _ >>= Machine.result) = _
  rw [Machine.run_bad hm]
  rfl

/-! ### Texts that open too many containers -/

theorem foldl_step_brackets (n : Nat) (before : List Token) :
    (List.replicate n '[').foldl step (.idle, before) =
      (.idle, List.replicate n .openList ++ before) := by
  induction n generalizing before with
  | zero => rfl
  | succ n ih =>
    rw [List.replicate_succ, List.foldl_cons]
    show (List.replicate n '[').foldl step (.idle, .openList :: before) = _
    rw [ih, List.replicate_succ', List.append_assoc]
    rfl

/-- Where a value may stand, brackets open lists as long as there is room. -/
theorem Machine.run_brackets {m : Machine} (hexpected : m.expected = .value ∨ m.expected = .valueOrClose)
    (hstack : m.stack.length ≤ deepest) {n : Nat} (hn : deepest < m.stack.length + n)
    (ts : List Token) : m.run (List.replicate n .openList ++ ts) = .error .tooDeep := by
  have hstep : m.step .openList = open? (.items []) .valueOrClose m.stack := by
    obtain ⟨stack, expected⟩ := m
    rcases hexpected with rfl | rfl <;> rfl
  induction n generalizing m with
  | zero => omega
  | succ n ih =>
    rw [List.replicate_succ, List.cons_append]
    by_cases hroom : m.stack.length < deepest
    · rw [open?, if_pos hroom] at hstep
      rw [run_cons hstep]
      refine ih (.inr rfl) hroom ?_ rfl
      simp only [List.length_cons]
      omega
    · rw [open?, if_neg hroom] at hstep
      rw [run_cons_error hstep]

theorem read_brackets {n : Nat} (h : Machine.deepest < n) (rest : List Char) :
    read (List.replicate n '[' ++ rest) = .error .tooDeep := by
  obtain ⟨more, hmore⟩ := exists_tokens_append (List.replicate n '[') rest
  have hlexed : lexed (List.replicate n '[') = (.idle, List.replicate n .openList ++ []) :=
    foldl_step_brackets n []
  rw [hlexed, List.append_nil, List.reverse_replicate] at hmore
  rw [read, hmore]
  show (Machine.start.run _ >>= Machine.result) = _
  rw [Machine.run_brackets (.inl rfl) (Nat.zero_le _) (by simpa [Machine.start] using h)]
  rfl

end StagedSql.Json
