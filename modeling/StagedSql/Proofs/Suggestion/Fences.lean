import StagedSql.Proofs.Json.Unreadable
import StagedSql.Proofs.Text.Blank
import StagedSql.Suggestion.Reply

/-!
# Replies in a code fence

A reply in a code fence is read up to the first fence mark after the one that it begins with. So a fence
around an object makes no difference as long as no string of the object holds three backquotes in a row;
an object with such a string breaks off inside of it.
-/

namespace StagedSql

namespace Text

/-! ### What stands before a mark -/

section

variable {mark s t : List Char} {d : Char}

theorem prefix_of_prefix_append_cons (hd : d ∉ mark) (h : mark <+: s ++ d :: t) : mark <+: s := by
  rcases List.prefix_or_prefix_of_prefix h (List.prefix_append s (d :: t)) with h' | ⟨more, rfl⟩
  · exact h'
  · rw [List.prefix_append_right_inj] at h
    cases more with
    | nil => simp
    | cons c more =>
      obtain ⟨rfl, -⟩ := List.cons_prefix_cons.mp h
      exact absurd (by simp) hd

theorem before_of_starts {c : Char} (h : mark <+: c :: s) : before mark (c :: s) = [] := by
  rw [before, if_pos (List.isPrefixOf_iff_prefix.mpr h)]

theorem before_of_not_starts {c : Char} (h : ¬ mark <+: c :: s) :
    before mark (c :: s) = c :: before mark s := by
  rw [before, if_neg fun hprefix => h (List.isPrefixOf_iff_prefix.mp hprefix)]

/-- A text without the mark stands before the mark as a whole, if the mark cannot begin in it. -/
theorem before_append_cons (hd : d ∉ mark) (hs : ¬ mark <:+: s) :
    before mark (s ++ d :: t) = s ++ before mark (d :: t) := by
  induction s with
  | nil => rfl
  | cons c rest ih =>
    have hfirst : ¬ mark <+: c :: (rest ++ d :: t) := fun h =>
      hs (prefix_of_prefix_append_cons (s := c :: rest) hd h).isInfix
    rw [List.cons_append, before_of_not_starts hfirst, ih fun h => hs (List.infix_cons h),
      List.cons_append]

theorem before_append (hs : mark <:+: s) (hmark : mark ≠ []) : before mark (s ++ t) = before mark s := by
  induction s with
  | nil => exact absurd (List.infix_nil.mp hs) hmark
  | cons c rest ih =>
    by_cases hfirst : mark <+: c :: rest
    · have hlong : mark <+: c :: (rest ++ t) := hfirst.trans (List.prefix_append (c :: rest) t)
      rw [List.cons_append, before_of_starts hfirst, before_of_starts hlong]
    · have hrest : mark <:+: rest := (List.infix_cons_iff.mp hs).resolve_left hfirst
      have hlong : ¬ mark <+: c :: (rest ++ t) := fun h =>
        hfirst (List.prefix_of_prefix_length_le h (List.prefix_append (c :: rest) t)
          (hrest.length_le.trans (Nat.le_succ _)))
      rw [List.cons_append, before_of_not_starts hfirst, before_of_not_starts hlong, ih hrest]

theorem exists_eq_before (hs : mark <:+: s) : ∃ rest, s = before mark s ++ (mark ++ rest) := by
  induction s with
  | nil => exact ⟨[], by simp [before, List.infix_nil.mp hs]⟩
  | cons c rest ih =>
    by_cases hfirst : mark <+: c :: rest
    · obtain ⟨more, hmore⟩ := hfirst
      refine ⟨more, ?_⟩
      rw [before_of_starts ⟨more, hmore⟩, List.nil_append, hmore]
    · obtain ⟨more, hmore⟩ := ih ((List.infix_cons_iff.mp hs).resolve_left hfirst)
      refine ⟨more, ?_⟩
      rw [before_of_not_starts hfirst, List.cons_append, ← hmore]

end

/-! ### Lower case -/

theorem lowerAfter_append_of_ascii {s : List Char} (hs : ∀ c ∈ s, c.toNat < 0x80)
    (earlier t : List Char) :
    lowerAfter earlier (s ++ t) = s.map Char.toLower ++ lowerAfter (s.reverse ++ earlier) t := by
  induction s generalizing earlier with
  | nil => rfl
  | cons c rest ih =>
    rw [List.forall_mem_cons] at hs
    have hsigma : c.toNat ≠ 0x3A3 := by omega
    rw [List.cons_append, lowerAfter, if_neg hsigma, lowerChar, if_pos hs.1, ih hs.2]
    simp

theorem ascii_of_toLower {c : Char} (h : c.toLower.toNat < 0x80) : c.toNat < 0x80 := by
  unfold Char.toLower at h
  split at h
  · next hupper =>
    have hlast : c.val.toNat ≤ 90 := UInt32.le_iff_toNat_le.mp hupper.2
    show c.val.toNat < 0x80
    omega
  · exact h

end Text

namespace Suggestion

/-! ### Fences -/

/-- A name that may follow the mark at the beginning of a fence: none, or JSON in any letter case. -/
def IsFormat (tag : String) : Prop := tag = "" ∨ tag.toList.map Char.toLower = "json".toList

def fenced (tag c : String) : String := "```" ++ tag ++ "\n" ++ c ++ "\n```"

theorem toList_fenced (tag c : String) :
    (fenced tag c).toList = fence ++ (tag.toList ++ '\n' :: (c.toList ++ '\n' :: fence)) := by
  simp [fenced, fence, String.toList_append]

theorem trim_fenced (tag c : String) : Text.trim (fenced tag c).toList = (fenced tag c).toList := by
  rw [toList_fenced]
  refine Text.trim_of_flush ⟨?_, ?_⟩
  · intro d hd
    obtain rfl : Json.backquote = d := Option.some.inj hd
    decide
  · intro d hd
    have hend : ∀ front : List Char, (front ++ fence).getLast? = some Json.backquote := fun front => by
      rw [List.getLast?_append_of_ne_nil _ (by decide)]
      decide
    have hsplit : fence ++ (tag.toList ++ '\n' :: (c.toList ++ '\n' :: fence)) =
        fence ++ tag.toList ++ '\n' :: c.toList ++ ['\n'] ++ fence := by simp
    rw [hsplit, hend] at hd
    obtain rfl : Json.backquote = d := Option.some.inj hd
    decide

section

variable {tag : String} (htag : IsFormat tag)
include htag

theorem IsFormat.plain : ∀ d ∈ tag.toList, d.toNat < 0x80 ∧ d ≠ Json.backquote := by
  rcases htag with rfl | hjson
  · simp
  · intro d hd
    have hlower : d.toLower ∈ "json".toList := hjson ▸ List.mem_map_of_mem hd
    have hletters : "json".toList.all fun e => e.toNat < 0x80 && e != Json.backquote := by decide
    have hletter := List.all_eq_true.mp hletters _ hlower
    rw [Bool.and_eq_true, decide_eq_true_eq, bne_iff_ne] at hletter
    obtain ⟨hascii, hne⟩ := hletter
    refine ⟨Text.ascii_of_toLower hascii, ?_⟩
    rintro rfl
    exact hne (by decide)

/-- Inside a fence the line with the mark and the name of the format is no part of the text. -/
theorem unfenced_fenced (c : String) :
    unfenced (fenced tag c).toList = '\n' :: Text.before fence (c.toList ++ '\n' :: fence) := by
  have hnewline : '\n' ∉ fence := by decide
  have hfirst : fence.isPrefixOf (fenced tag c).toList = true := by
    rw [toList_fenced]
    exact List.isPrefixOf_iff_prefix.mpr (List.prefix_append ..)
  have htagged : ¬ fence <:+: tag.toList := by
    intro h
    exact (htag.plain _ (h.subset (List.mem_cons_self ..))).2 rfl
  have hcontent : Text.before fence (tag.toList ++ '\n' :: (c.toList ++ '\n' :: fence)) =
      tag.toList ++ '\n' :: Text.before fence (c.toList ++ '\n' :: fence) := by
    rw [Text.before_append_cons hnewline htagged, Text.before_of_not_starts]
    intro h
    exact hnewline (by
      obtain ⟨heq, -⟩ := List.cons_prefix_cons.mp h
      exact absurd heq (by decide))
  unfold unfenced
  rw [if_pos hfirst, toList_fenced, List.drop_left, hcontent]
  generalize Text.before fence (c.toList ++ '\n' :: fence) = inner
  have hlower : Text.lowerChars (tag.toList ++ '\n' :: inner) =
      tag.toList.map Char.toLower ++ '\n' :: Text.lowerAfter ('\n' :: tag.toList.reverse) inner := by
    have hascii : ∀ d ∈ tag.toList ++ ['\n'], d.toNat < 0x80 :=
      List.forall_mem_append.mpr
        ⟨fun d hd => (htag.plain d hd).1, List.forall_mem_singleton.mpr (by decide)⟩
    have happend := Text.lowerAfter_append_of_ascii hascii [] inner
    simpa [Text.lowerChars] using happend
  dsimp only
  rw [hlower]
  rcases htag with rfl | hjson
  · rfl
  · have hlength : tag.toList.length = 4 := by
      rw [← List.length_map Char.toLower, hjson]
      rfl
    rw [hjson, if_pos (List.isPrefixOf_iff_prefix.mpr (List.prefix_append ..)), ← hlength,
      List.drop_left]

end

/-! ### The object inside -/

theorem read_of_objectOfReply {c : String} {fields : Fields}
    (hobject : (Text.trim c.toList).head? = some '\x7b') (hc : objectOfReply c = .ok fields) :
    Json.read (Text.trim c.toList) = .ok (.object fields) := by
  have hplain : unfenced (Text.trim c.toList) = Text.trim c.toList := by
    refine if_neg fun hfence => ?_
    obtain ⟨rest, hrest⟩ := List.isPrefixOf_iff_prefix.mp hfence
    rw [← hrest] at hobject
    have hfirst : Json.backquote = '\x7b' := Option.some.inj hobject
    exact absurd hfirst (by decide)
  unfold objectOfReply at hc
  rw [hplain, Text.trim_trim] at hc
  split at hc
  · next found hread =>
    cases hc
    exact hread
  · cases hc
  · cases hc

/-- A fence around the text of an object makes no difference if there is no mark of a fence in the text.
If there is one, the text breaks off there, which can only be inside a string. -/
theorem objectOfReply_fenced {c tag : String} {fields : Fields} (htag : IsFormat tag)
    (hobject : (Text.trim c.toList).head? = some '\x7b') (hc : objectOfReply c = .ok fields) :
    (objectOfReply (fenced tag c) = .ok fields ↔ ¬ fence <:+: c.toList) ∧
      (fence <:+: c.toList → objectOfReply (fenced tag c) = .error (.ofJson .malformed)) := by
  have hread := read_of_objectOfReply hobject hc
  have hinside : Text.trim (unfenced (Text.trim (fenced tag c).toList)) =
      Text.trim (Text.before fence (c.toList ++ '\n' :: fence)) := by
    rw [trim_fenced, unfenced_fenced htag, Text.trim_cons_of_isBlank (by decide)]
  have hbroken : fence <:+: c.toList → objectOfReply (fenced tag c) = .error (.ofJson .malformed) := by
    intro hfence
    obtain ⟨rest, hsplit⟩ := Text.exists_eq_before hfence
    obtain ⟨blanks, more, htrim, hblanks⟩ :=
      Text.exists_trim_append_cons (Text.before fence c.toList) (d := Json.backquote) (by decide)
        (Json.backquote :: Json.backquote :: rest)
    have hwhole : Text.trim c.toList =
        Text.trim (Text.before fence c.toList) ++ (blanks ++ Json.backquote :: more) := by
      rw [← htrim]
      exact congrArg Text.trim hsplit
    rw [hwhole] at hread
    unfold objectOfReply
    rw [hinside, Text.before_append hfence (by decide), Json.read_before_backquote hblanks hread]
  refine ⟨⟨fun hok hfence => ?_, fun hfence => ?_⟩, hbroken⟩
  · exact absurd ((hbroken hfence).symm.trans hok) (by simp)
  · have hnewline : Text.before fence ('\n' :: fence) = ['\n'] := by decide
    unfold objectOfReply
    rw [hinside, Text.before_append_cons (by decide) hfence, hnewline,
      Text.trim_append_of_isBlank _ (List.forall_mem_singleton.mpr (by decide)), hread]

def quoting : String := "\x7b\"a\": \"``json``\"\x7d"

def quotingFence : String := "\x7b\"a\": \"```\"\x7d"

theorem quoting_fenced :
    IsFormat "JSON" ∧ (Text.trim quoting.toList).head? = some '\x7b' ∧
      objectOfReply quoting = .ok [("a", .text "``json``")] ∧
      objectOfReply (fenced "JSON" quoting) = .ok [("a", .text "``json``")] := by
  have htag : IsFormat "JSON" := .inr (by decide +kernel)
  have hobject : (Text.trim quoting.toList).head? = some '\x7b' := by decide +kernel
  have hread : objectOfReply quoting = .ok [("a", .text "``json``")] :=
    Outcome.ok_of_toOption (by decide +kernel)
  exact ⟨htag, hobject, hread, (objectOfReply_fenced htag hobject hread).1.mpr (by decide +kernel)⟩

/-- The string is cut off at the mark inside of it. -/
theorem quotingFence_broken :
    IsFormat "json" ∧ (Text.trim quotingFence.toList).head? = some '\x7b' ∧
      objectOfReply quotingFence = .ok [("a", .text "```")] ∧
      objectOfReply (fenced "json" quotingFence) ≠ objectOfReply quotingFence := by
  have hread : objectOfReply quotingFence = .ok [("a", .text "```")] :=
    Outcome.ok_of_toOption (by decide +kernel)
  refine ⟨.inr (by decide +kernel), by decide +kernel, hread, fun h => ?_⟩
  have hfails : (objectOfReply (fenced "json" quotingFence)).toOption = none := by decide +kernel
  rw [h, hread] at hfails
  cases hfails

end Suggestion

end StagedSql
