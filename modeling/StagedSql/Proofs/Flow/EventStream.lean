import StagedSql.Flow.Event
import StagedSql.Proofs.Json.RoundTrip

/-!
# Reading event streams

A client reads server-sent events line by line. What it reads from a stream are the events that were
put on it, each under its type, and the mark of the end.
-/

namespace StagedSql.EventStream

/-! ### The line protocol -/

/-- The lines that are ended, where `line` holds what has been read of the first one, last character
first. A line is ended by a carriage return, a line feed or one after the other. -/
def linesFrom (line : List Char) : List Char → List (List Char)
  | [] => []
  | '\r' :: '\n' :: rest => line.reverse :: linesFrom [] rest
  | c :: rest =>
    if c = '\r' ∨ c = '\n' then line.reverse :: linesFrom [] rest else linesFrom (c :: line) rest

def lines (s : List Char) : List (List Char) := linesFrom [] s

/-- The name and the value of the field in a line. One space behind the colon is passed over. -/
def field (line : List Char) : List Char × List Char :=
  let value := (line.dropWhile (· ≠ ':')).tail
  (line.takeWhile (· ≠ ':'), if value.head? = some ' ' then value.tail else value)

/-- A message with the type that was given last, empty if none was given, and its data. -/
structure Message where
  type : String
  data : String
  deriving DecidableEq, Repr

structure Draft where
  type : List Char
  data : List (List Char)

namespace Draft

def empty : Draft := ⟨[], []⟩

/-- The draft with the field of a line. Other fields and comments are passed over. -/
def take (d : Draft) (line : List Char) : Draft :=
  let (name, value) := field line
  if name = "event".toList then { d with type := value }
  else if name = "data".toList then { d with data := d.data ++ [value] }
  else d

def messages (d : Draft) : List Message :=
  if d.data = [] then []
  else [⟨String.ofList d.type, String.ofList (['\n'].intercalate d.data)⟩]

/-- The messages that lines make up. A message without an empty line behind it is lost. -/
def read (d : Draft) : List (List Char) → List Message
  | [] => []
  | [] :: rest => d.messages ++ read empty rest
  | line :: rest => read (d.take line) rest

end Draft

def messages (stream : String) : List Message := Draft.empty.read (lines stream.toList)

example : messages "data: a\r\ndata:b\r\revent: x\n: c\n\ndata: d" = [⟨"", "a\nb"⟩] := by
  decide +kernel

/-! ### Lines -/

def OneLine (s : List Char) : Prop := ∀ c ∈ s, c ≠ '\r' ∧ c ≠ '\n'

instance (s : List Char) : Decidable (OneLine s) := List.decidableBAll _ s

theorem oneLine_append {s t : List Char} (hs : OneLine s) (ht : OneLine t) : OneLine (s ++ t) :=
  List.forall_mem_append.mpr ⟨hs, ht⟩

theorem oneLine_of_visible {s : List Char} (h : Json.Visible s) : OneLine s := by
  intro c hc
  have hvisible := h c hc
  constructor
  · rintro rfl
    exact absurd hvisible (by decide)
  · rintro rfl
    exact absurd hvisible (by decide)

theorem linesFrom_append {s : List Char} (h : OneLine s) (line rest : List Char) :
    linesFrom line (s ++ '\n' :: rest) = (line.reverse ++ s) :: lines rest := by
  induction s generalizing line with
  | nil => simp [linesFrom, lines]
  | cons c s ih =>
    obtain ⟨hreturn, hfeed⟩ := h c (List.mem_cons_self ..)
    have hnext : linesFrom line (c :: (s ++ '\n' :: rest)) =
        linesFrom (c :: line) (s ++ '\n' :: rest) := by
      rw [linesFrom]
      · rw [if_neg (not_or.mpr ⟨hreturn, hfeed⟩)]
      · rintro _ rfl
        exact absurd rfl hreturn
    rw [List.cons_append, hnext, ih fun d hd => h d (List.mem_cons_of_mem _ hd)]
    simp

theorem lines_append {s : List Char} (h : OneLine s) (rest : List Char) :
    lines (s ++ '\n' :: rest) = s :: lines rest :=
  linesFrom_append h [] rest

/-! ### Messages -/

theorem field_event (value : List Char) :
    field ("event: ".toList ++ value) = ("event".toList, value) := rfl

theorem field_data (value : List Char) :
    field ("data: ".toList ++ value) = ("data".toList, value) := rfl

theorem read_framed {type data : List Char} (htype : OneLine type) (hdata : OneLine data)
    (rest : List Char) :
    Draft.empty.read (lines (("event: ".toList ++ type) ++
        '\n' :: (("data: ".toList ++ data) ++ '\n' :: '\n' :: rest))) =
      ⟨String.ofList type, String.ofList data⟩ :: Draft.empty.read (lines rest) := by
  have hevent : OneLine ("event: ".toList ++ type) := oneLine_append (by decide) htype
  have hjson : OneLine ("data: ".toList ++ data) := oneLine_append (by decide) hdata
  have hblank : lines ('\n' :: rest) = [] :: lines rest := rfl
  have htake : Draft.empty.take ("event: ".toList ++ type) = ⟨type, []⟩ := by
    rw [Draft.take, field_event]
    rfl
  have htakeData : Draft.take ⟨type, []⟩ ("data: ".toList ++ data) = ⟨type, [data]⟩ := by
    rw [Draft.take, field_data]
    rfl
  rw [lines_append hevent, lines_append hjson, hblank]
  show Draft.read ((Draft.empty.take ("event: ".toList ++ type)).take ("data: ".toList ++ data))
    ([] :: lines rest) = _
  rw [htake, htakeData, Draft.read]
  simp [Draft.messages]

end StagedSql.EventStream

namespace StagedSql.Flow

open EventStream

namespace Event

theorem toList_streamText (type : String) (e : Event) :
    (streamText type e).toList = ("event: ".toList ++ type.toList) ++
      '\n' :: (("data: ".toList ++ Json.write e.toValue) ++ ['\n', '\n']) := by
  have hdata : "\ndata: ".toList = '\n' :: "data: ".toList := by decide
  have hend : "\n\n".toList = ['\n', '\n'] := by decide
  simp only [streamText, String.toList_append, Json.render, String.toList_ofList, hdata, hend,
    List.append_assoc, List.cons_append]

/-- The text of a stream: the events under their types, and the mark of the end. -/
def stream (items : List (String × Event)) : String :=
  String.join (items.map fun item => streamText item.1 item.2) ++ doneText

theorem messages_stream {items : List (String × Event)}
    (h : ∀ item ∈ items, OneLine item.1.toList) :
    messages (stream items) =
      items.map (fun item => ⟨item.1, Json.render item.2.toValue⟩) ++ [⟨"done", "\x7b\x7d"⟩] := by
  unfold messages stream
  rw [String.toList_append]
  induction items with
  | nil => decide +kernel
  | cons item rest ih =>
    have hjson := oneLine_of_visible (Json.visible_write item.2.toValue)
    have hfirst := read_framed (h item (List.mem_cons_self ..)) hjson
      ((String.join (rest.map fun item => streamText item.1 item.2)).toList ++ doneText.toList)
    rw [ih fun i hi => h i (List.mem_cons_of_mem _ hi)] at hfirst
    rw [List.map_cons, String.join_cons, String.toList_append, toList_streamText]
    simp only [List.append_assoc, List.cons_append, List.nil_append] at hfirst ⊢
    rw [hfirst, String.ofList_toList]
    rfl

/-! ### Records of events -/

/-- The progress and the data of the event can be read back. The record around the data is one more
container. -/
structure Readable (e : Event) : Prop where
  progress : (Nat.toDigits 10 e.progress.natAbs).length ≤ Text.longestWhole
  data : ∀ fields, e.data = some fields → (Value.object fields).Readable (Json.Machine.deepest - 1)

theorem readable_text (depth : Nat) (s : Option String) :
    (Value.ofOption Value.text s).Readable depth := by
  cases s with
  | none => exact .null
  | some s => exact .text s

theorem Readable.toValue {e : Event} (h : e.Readable) : e.toValue.Readable Json.Machine.deepest := by
  have hdata : (Value.ofOption .object e.data).Readable (Json.Machine.deepest - 1) := by
    cases hfields : e.data with
    | none => exact .null
    | some fields => exact h.data fields hfields
  show e.toValue.Readable (Json.Machine.deepest - 1 + 1)
  refine .object (by simp [Keyed.keys]) fun f hf => ?_
  simp only [List.mem_cons, List.not_mem_nil, or_false] at hf
  rcases hf with rfl | rfl | rfl | rfl | rfl
  · exact .text _
  · exact .int h.progress
  · exact readable_text _ _
  · exact hdata
  · exact readable_text _ _

theorem read_fields (e : Event) : ∃ fields, e.toValue = .object fields ∧ read fields = .good e := by
  refine ⟨_, rfl, ?_⟩
  obtain ⟨stage, progress, message, data, error⟩ := e
  cases message <;> cases data <;> cases error <;> rfl

/-- A client finds on a stream one message for every event, under its type and in order, and then the
mark of the end. What it reads in a message is the event, as long as the numbers are not too long and
the data not too deep. -/
theorem stream_decodes {items : List (String × Event)}
    (htypes : ∀ item ∈ items, OneLine item.1.toList) :
    messages (stream items) =
        items.map (fun item => ⟨item.1, Json.render item.2.toValue⟩) ++ [⟨"done", "\x7b\x7d"⟩] ∧
      (∀ item ∈ items, item.2.Readable → ∃ fields,
        Json.read (Json.render item.2.toValue).toList = .ok (.object fields) ∧
          read fields = .good item.2) ∧
      ∀ c, Json.escapeChar c = [c] ↔ c ≠ '"' ∧ c ≠ '\\' ∧ 0x20 ≤ c.toNat := by
  refine ⟨messages_stream htypes, fun item _ hreadable => ?_, Json.escapeChar_eq_self_iff⟩
  obtain ⟨fields, hvalue, hread⟩ := read_fields item.2
  refine ⟨fields, ?_, hread⟩
  rw [Json.render, String.toList_ofList, Json.read_write hreadable.toValue, hvalue]

/-- A text with an end of a line and a key that looks like a field. -/
theorem materialized_decoded :
    let e : Event := ⟨"materialized", 50, some "a\nevent: b", some [("data: x", .list [.int 2])], none⟩
    OneLine "materialized".toList ∧ e.Readable ∧
      messages (stream [("materialized", e)]) =
        [⟨"materialized", Json.render e.toValue⟩] ++ [⟨"done", "\x7b\x7d"⟩] ∧
      ∃ fields, Json.read (Json.render e.toValue).toList = .ok (.object fields) ∧
        read fields = .good e := by
  intro e
  have htype : OneLine "materialized".toList := by decide
  have hreadable : e.Readable := by
    refine ⟨by decide, ?_⟩
    rintro fields ⟨⟩
    refine .object (by decide) fun f hf => ?_
    rw [List.mem_singleton.mp hf]
    refine .list fun v hv => ?_
    rw [List.mem_singleton.mp hv]
    exact .int (by decide)
  have htypes : ∀ item ∈ [("materialized", e)], OneLine item.1.toList := by
    intro item hitem
    rw [List.mem_singleton.mp hitem]
    exact htype
  obtain ⟨hmessages, hread, -⟩ := stream_decodes htypes
  rw [List.map_cons, List.map_nil] at hmessages
  have hback := hread _ (List.mem_singleton_self _) hreadable
  exact ⟨htype, hreadable, hmessages, hback⟩

end Event

end StagedSql.Flow

namespace StagedSql.Json.Machine

variable {e : Flow.Event}

theorem run_longProgress (h : Text.longestWhole < (Nat.toDigits 10 e.progress.natAbs).length) :
    run start (tokensOf e.toValue) =
      .error (.longNumber (Nat.toDigits 10 e.progress.natAbs).length) := by
  have htokens : ∃ more, tokensOf e.toValue = .openObject :: .text "stage".toList :: .colon ::
      .text e.stage.toList :: .comma :: .text "progress".toList :: .colon ::
        .word (Value.intChars e.progress) :: more := ⟨_, rfl⟩
  have hopen : step start .openObject = .ok ⟨[.fields []], .keyOrClose⟩ := rfl
  have hkey : step ⟨[.fields []], .keyOrClose⟩ (.text "stage".toList) =
      .ok ⟨[.member [] "stage"], .colon⟩ := rfl
  have hcolon : step ⟨[.member [] "stage"], .colon⟩ .colon =
      .ok ⟨[.member [] "stage"], .value⟩ := rfl
  have hstage : step ⟨[.member [] "stage"], .value⟩ (.text e.stage.toList) =
      .ok ⟨[.fields [("stage", .text e.stage)]], .commaOrClose⟩ := by
    simp [step, takeValue, deliver, Keyed.put]
  have hcomma : step ⟨[.fields [("stage", .text e.stage)]], .commaOrClose⟩ .comma =
      .ok ⟨[.fields [("stage", .text e.stage)]], .key⟩ := rfl
  have hprogress : step ⟨[.member [("stage", .text e.stage)] "progress"], .value⟩
      (.word (Value.intChars e.progress)) =
        .error (.longNumber (Nat.toDigits 10 e.progress.natAbs).length) := by
    simp only [step, takeValue, wordValue_of_long h]
    rfl
  obtain ⟨more, htokens⟩ := htokens
  rw [htokens, run_cons hopen, run_cons hkey, run_cons hcolon, run_cons hstage, run_cons hcomma,
    run_member, run_cons_error hprogress]

end StagedSql.Json.Machine

namespace StagedSql.Flow.Event

open EventStream

theorem read_of_long {e : Event}
    (h : Text.longestWhole < (Nat.toDigits 10 e.progress.natAbs).length) :
    Json.read (Json.render e.toValue).toList =
      .error (.longNumber (Nat.toDigits 10 e.progress.natAbs).length) := by
  rw [Json.render, String.toList_ofList, Json.read_eq_run, Json.Machine.run_longProgress h]
  rfl

/-- The event is on the stream, but its record cannot be read. -/
theorem longProgress_unread :
    let e : Event := ⟨"started", .ofNat (Nat.pow 10 Text.longestWhole), none, none, none⟩
    messages (stream [("started", e)]) =
        [⟨"started", Json.render e.toValue⟩] ++ [⟨"done", "\x7b\x7d"⟩] ∧
      ∀ v, Json.read (Json.render e.toValue).toList ≠ .ok v := by
  intro e
  have htypes : ∀ item ∈ [("started", e)], OneLine item.1.toList := by
    intro item hitem
    rw [List.mem_singleton.mp hitem]
    decide
  have hmessages := messages_stream htypes
  rw [List.map_cons, List.map_nil] at hmessages
  have hlong : Text.longestWhole < (Nat.toDigits 10 e.progress.natAbs).length :=
    Json.lt_length_toDigits_tenPow Text.longestWhole
  refine ⟨hmessages, fun v hv => ?_⟩
  rw [read_of_long hlong] at hv
  cases hv

end StagedSql.Flow.Event
