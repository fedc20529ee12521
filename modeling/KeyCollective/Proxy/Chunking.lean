import KeyCollective.Proxy.Transformer

/-!
# Chunks of a stream

The buffer holds the end of the text that has no complete line yet. A round of the parser
takes the same line whether the rest of the stream has arrived or not, so where the text is
cut does not matter.
-/

namespace KeyCollective.Sse

theorem findNextNewlineIndex_lt {isFlushing : Bool} {buffer : Text} {i : Nat}
    (found : findNextNewlineIndex isFlushing buffer = some i) : i < buffer.length := by
  induction buffer generalizing i with
  | nil => cases found
  | cons unit rest ih =>
    unfold findNextNewlineIndex at found
    split_ifs at found
    · cases found
      exact Nat.zero_lt_succ _
    · cases found
      exact Nat.zero_lt_succ _
    · obtain ⟨j, later, rfl⟩ := Option.map_eq_some_iff.mp found
      exact Nat.succ_lt_succ (ih later)

/-- A line that has ended has ended whatever comes after. A CR that ends it is not the last
unit of the buffer. -/
theorem findNextNewlineIndex_append {buffer : Text} {i : Nat}
    (found : findNextNewlineIndex false buffer = some i) (later : Text) :
    findNextNewlineIndex false (buffer ++ later) = some i ∧
      (buffer[i]? = some 13 → i + 1 < buffer.length) := by
  induction buffer generalizing i with
  | nil => cases found
  | cons unit rest ih =>
    rw [List.cons_append]
    unfold findNextNewlineIndex at found ⊢
    by_cases lf : unit = 10
    · rw [if_pos lf] at found ⊢
      cases found
      exact ⟨rfl, fun cr => absurd (Option.some.inj cr) (by rw [lf]; decide)⟩
    · rw [if_neg lf] at found ⊢
      by_cases cr : unit = 13
      · rw [if_pos cr] at found ⊢
        split at found
        case isTrue => cases found
        case isFalse more =>
          cases found
          have some_rest : rest ≠ [] := fun empty => more ⟨empty, Bool.false_ne_true⟩
          have longer : ¬(rest ++ later = [] ∧ ¬false = true) := fun ⟨empty, _⟩ =>
            some_rest (List.append_eq_nil_iff.mp empty).1
          rw [if_neg longer]
          exact ⟨rfl, fun _ => Nat.succ_lt_succ (List.length_pos_of_ne_nil some_rest)⟩
      · rw [if_neg cr] at found ⊢
        obtain ⟨j, here, rfl⟩ := Option.map_eq_some_iff.mp found
        obtain ⟨same, bound⟩ := ih here
        rw [same]
        exact ⟨rfl, fun end_cr => Nat.succ_lt_succ (bound end_cr)⟩

section

variable [NumberText] [JsonParser] (options : SSEStreamTransformerOptions)

/-! ## What a line leaves alone -/

omit [NumberText] in
theorem inspectEventPayload_frame (parser : Parser) (event : SSEEvent) :
    ∃ counters metadata, inspectEventPayload parser event = { parser with counters, metadata } := by
  unfold inspectEventPayload
  cases eventPayload event with
  | none => exact ⟨parser.counters, parser.metadata, rfl⟩
  | some parsed => exact ⟨_, _, rfl⟩

theorem dispatchEvent_buffer (parser : Parser) :
    (dispatchEvent options parser).buffer = parser.buffer := by
  simp only [dispatchEvent]
  obtain ⟨counters, metadata, same⟩ := inspectEventPayload_frame
    { parser with
      current := {}
      metadata := { parser.metadata with eventCount := parser.metadata.eventCount + 1 }
      events := if options.bufferEvents ≠ some false then parser.events ++ [parser.current.event]
        else parser.events
      output := if options.enqueueEvents then parser.output ++ parser.current.event.formatted
        else parser.output } parser.current.event
  rw [same]

theorem processLine_buffer (parser : Parser) (line : Text) :
    (processLine options parser line).buffer = parser.buffer := by
  unfold processLine
  split_ifs
  · exact dispatchEvent_buffer options parser
  · rfl
  · rfl

/-- The loop of `parseBuffer` shortens the buffer. -/
theorem parseLine_decreases (isFlushing : Bool) :
    Loop.Decreases (parseLine options isFlushing) fun parser => parser.buffer.length := by
  intro parser next round
  unfold parseLine at round
  split at round
  case h_1 => cases round
  case h_2 newlineIndex found =>
    have inside := findNextNewlineIndex_lt found
    obtain rfl := Option.some.inj round
    simp only [processLine_buffer, List.length_drop]
    split <;> omega

omit [NumberText] [JsonParser] in
theorem enqueueEvents_eq : options.enqueueEvents = !options.isPassthrough := by
  unfold SSEStreamTransformerOptions.enqueueEvents SSEStreamTransformerOptions.isPassthrough
  cases options.mode.getD .passthrough <;> rfl

/-- Dispatching an event and receiving a chunk do not depend on each other: what is enqueued
is either the chunks or the events. -/
theorem dispatchEvent_receive (parser : Parser) (chunk : Text) :
    dispatchEvent options (receive options parser chunk) =
      receive options (dispatchEvent options parser) chunk := by
  simp only [dispatchEvent, inspectEventPayload, receive, enqueueEvents_eq]
  cases eventPayload parser.current.event with
  | none => cases options.isPassthrough <;> rfl
  | some parsed => cases options.isPassthrough <;> rfl

theorem processLine_receive (parser : Parser) (chunk line : Text) :
    processLine options (receive options parser chunk) line =
      receive options (processLine options parser line) chunk := by
  unfold processLine
  split_ifs with empty pending pending
  · exact dispatchEvent_receive options parser chunk
  all_goals first | rfl | contradiction

/-- Text that comes behind the buffer and that no earlier line sees. -/
structure Arrives (text : Text) (arrive : Parser → Parser) : Prop where
  moves : ∀ (parser : Parser) (rest : Text),
    arrive { parser with buffer := rest } = { arrive parser with buffer := rest ++ text }
  unseen : ∀ (parser : Parser) (line : Text),
    processLine options (arrive parser) line = arrive (processLine options parser line)

variable {options} in
/-- A line that is complete is taken whatever follows. -/
theorem Arrives.parseLine {text : Text} {arrive : Parser → Parser}
    (arrives : Arrives options text arrive) {parser next : Parser}
    (round : parseLine options false parser = some next) :
    Sse.parseLine options false (arrive parser) = some (arrive next) := by
  unfold Sse.parseLine at round ⊢
  split at round
  case h_1 => cases round
  case h_2 newlineIndex found =>
    have inside := findNextNewlineIndex_lt found
    obtain ⟨same, cr⟩ := findNextNewlineIndex_append found text
    obtain rfl := Option.some.inj round
    have buffer : (arrive parser).buffer = parser.buffer ++ text :=
      congrArg Parser.buffer (arrives.moves parser parser.buffer)
    have crlf : ((parser.buffer ++ text)[newlineIndex]? = some 13 ∧
        (parser.buffer ++ text)[newlineIndex + 1]? = some 10) ↔
        (parser.buffer[newlineIndex]? = some 13 ∧ parser.buffer[newlineIndex + 1]? = some 10) := by
      rw [List.getElem?_append_left inside]
      refine and_congr_right fun here => ?_
      rw [List.getElem?_append_left (cr here)]
    have delimiter : newlineIndex + (if parser.buffer[newlineIndex]? = some 13 ∧
        parser.buffer[newlineIndex + 1]? = some 10 then 2 else 1) ≤ parser.buffer.length := by
      split
      case isTrue both => exact cr both.1
      case isFalse => exact inside
    simp only [buffer, same, crlf, List.take_append_of_le_length inside.le,
      List.drop_append_of_le_length delimiter]
    rw [← arrives.unseen, arrives.moves parser (parser.buffer.drop _)]

variable {options} in
/-- What was parsed before a text arrived would have been parsed after it. -/
theorem Arrives.parseBuffer {text : Text} {arrive : Parser → Parser}
    (arrives : Arrives options text arrive) (parser : Parser) :
    Sse.parseBuffer options false (arrive (Sse.parseBuffer options false parser)) =
      Sse.parseBuffer options false (arrive parser) :=
  (parseLine_decreases options false).exit_change (fun _ _ round => arrives.parseLine round) parser

theorem receive_arrives (chunk : Text) : Arrives options chunk (receive options · chunk) where
  moves _ _ := rfl
  unseen parser line := processLine_receive options parser chunk line

/-! ## A stream and its cuts -/

omit [NumberText] [JsonParser] in
theorem receive_receive (parser : Parser) (chunk later : Text) :
    receive options (receive options parser chunk) later =
      receive options parser (chunk ++ later) := by
  unfold receive
  cases options.isPassthrough <;> simp

omit [NumberText] [JsonParser] in
theorem receive_nil (parser : Parser) : receive options parser [] = parser := by
  unfold receive
  cases options.isPassthrough <;> simp

/-- Chunks leave a parser that has no line to take as their text in one piece does. -/
theorem foldl_handleTransform (chunks : List Text) (transformer : SSEStreamTransformer)
    (idle : parseLine options false transformer.parser = none) :
    (chunks.foldl (handleTransform options) transformer).parser =
      parseBuffer options false (receive options transformer.parser chunks.flatten) := by
  induction chunks generalizing transformer with
  | nil =>
    rw [List.flatten_nil, receive_nil]
    exact (Loop.exit_none idle).symm
  | cons chunk rest ih =>
    have left := ((parseLine_decreases options false).exit_spec
      (receive options transformer.parser chunk)).2
    rw [List.foldl_cons, ih (handleTransform options transformer chunk) left, handleTransform,
      (receive_arrives options _).parseBuffer, receive_receive, List.flatten_cons]

theorem parser_runChunks (chunks : List Text) :
    (runChunks options chunks).parser =
      (handleFlush options ⟨parseBuffer options false (receive options {} chunks.flatten),
        chunks.length⟩).parser := by
  have folded := foldl_handleTransform options chunks {} rfl
  unfold runChunks handleFlush
  rw [folded]

/-- A text cut into chunks in two ways gives the same events, usage, metadata and output, and
the loop of `parseBuffer` ends on every buffer. -/
theorem chunking_invariant (chunks other : List Text) (cut : chunks.flatten = other.flatten) :
    (runChunks options chunks).parser = (runChunks options other).parser ∧
      ∀ isFlushing parser, ∃ rounds,
        Loop.run (parseLine options isFlushing) rounds parser =
          some (parseBuffer options isFlushing parser) := by
  constructor
  · rw [parser_runChunks, parser_runChunks, cut]
    rfl
  · intro isFlushing parser
    exact ⟨_, ((parseLine_decreases options isFlushing).exit_spec parser).1⟩

end

section

attribute [local instance] integerText noJson

/-- Two events, whole and with cuts inside a line and between CR and LF. -/
theorem chunking_invariant_cut :
    (runChunks {} [units "data: one\r\n\r\ndata: two"]).parser =
      (runChunks {} [units "data: o", [], units "ne\r", units "\n\r", units "\ndata: two"]).parser :=
  (chunking_invariant {} _ _ (by decide)).1

end

end KeyCollective.Sse
