import KeyCollective.Proxy.Chunking

/-!
# Blocks of a stream

The parser reads its text line by line, and an empty line ends a block. A block with data, a
type or an id is an event. The other blocks end without a trace only when they are empty.
-/

namespace KeyCollective.Sse

/-! ## Lines -/

/-- The lines of a text that follows `current`; an LF behind a CR ends no line. -/
def splitLines (afterCR : Bool) (current : Text) : Text → List Text
  | [] => if current = [] then [] else [current]
  | unit :: rest =>
    if unit = 10 then
      if afterCR then splitLines false [] rest else current :: splitLines false [] rest
    else if unit = 13 then current :: splitLines true [] rest
    else splitLines false (current ++ [unit]) rest

def lines (text : Text) : List Text := splitLines false [] text

theorem splitLines_afterCR (rest : Text) :
    splitLines true [] rest = lines (if rest.head? = some 10 then rest.tail else rest) := by
  cases rest with
  | nil => rfl
  | cons unit rest =>
    by_cases lf : unit = 10
    · subst lf
      rfl
    · rw [if_neg (by simpa using lf)]
      simp only [lines, splitLines, if_neg lf]

theorem findNextNewlineIndex_flush_cons (unit : UInt16) (rest : Text) :
    findNextNewlineIndex true (unit :: rest) =
      if unit = 10 ∨ unit = 13 then some 0
      else (findNextNewlineIndex true rest).map (· + 1) := by
  rw [findNextNewlineIndex]
  by_cases lf : unit = 10
  · rw [if_pos lf, if_pos (Or.inl lf)]
  · by_cases cr : unit = 13
    · rw [if_neg lf, if_pos cr, if_neg (fun edge => edge.2 rfl), if_pos (Or.inr cr)]
    · rw [if_neg lf, if_neg cr, if_neg (fun either => either.elim lf cr)]

/-- A buffer without a complete line is the end of a line. -/
theorem splitLines_none {buffer : Text} (none_left : findNextNewlineIndex true buffer = none)
    (current : Text) :
    splitLines false current buffer =
      if current ++ buffer = [] then [] else [current ++ buffer] := by
  induction buffer generalizing current with
  | nil => rw [List.append_nil]; rfl
  | cons unit rest ih =>
    rw [findNextNewlineIndex_flush_cons] at none_left
    split at none_left
    case isTrue => cases none_left
    case isFalse other =>
      obtain ⟨lf, cr⟩ := not_or.mp other
      rw [splitLines, if_neg lf, if_neg cr, ih (Option.map_eq_none_iff.mp none_left),
        List.append_assoc]
      rfl

/-- The line that a round takes, and the text behind its delimiter. -/
theorem splitLines_some {buffer : Text} {i : Nat}
    (found : findNextNewlineIndex true buffer = some i) (current : Text) :
    splitLines false current buffer = (current ++ buffer.take i) ::
      lines (buffer.drop (i + if buffer[i]? = some 13 ∧ buffer[i + 1]? = some 10 then 2 else 1)) := by
  induction buffer generalizing i current with
  | nil => cases found
  | cons unit rest ih =>
    rw [findNextNewlineIndex_flush_cons] at found
    by_cases lf : unit = 10
    · subst lf
      obtain rfl := Option.some.inj found
      rw [splitLines, if_pos rfl]
      simp [lines]
    · by_cases cr : unit = 13
      · subst cr
        obtain rfl := Option.some.inj found
        rw [splitLines, if_neg (by decide), if_pos rfl, splitLines_afterCR]
        cases rest with
        | nil => simp
        | cons next rest => by_cases crlf : next = 10 <;> simp [crlf]
      · rw [if_neg (fun either => either.elim lf cr)] at found
        obtain ⟨j, later, rfl⟩ := Option.map_eq_some_iff.mp found
        rw [splitLines, if_neg lf, if_neg cr, ih later, Nat.add_right_comm, List.drop_succ_cons]
        simp

theorem findNextNewlineIndex_flush {buffer : Text} {i : Nat}
    (found : findNextNewlineIndex false buffer = some i) :
    findNextNewlineIndex true buffer = some i := by
  induction buffer generalizing i with
  | nil => cases found
  | cons unit rest ih =>
    rw [findNextNewlineIndex_flush_cons]
    rw [findNextNewlineIndex] at found
    by_cases lf : unit = 10
    · rw [if_pos lf] at found
      rwa [if_pos (Or.inl lf)]
    · by_cases cr : unit = 13
      · rw [if_neg lf, if_pos cr] at found
        split at found
        case isTrue => cases found
        case isFalse => rwa [if_pos (Or.inr cr)]
      · rw [if_neg lf, if_neg cr] at found
        obtain ⟨j, later, rfl⟩ := Option.map_eq_some_iff.mp found
        rw [if_neg (fun either => either.elim lf cr), ih later]
        rfl

section

variable [NumberText] [JsonParser] (options : SSEStreamTransformerOptions)

/-! ## A stream as its lines -/

theorem dispatchEvent_withBuffer (parser : Parser) (buffer : Text) :
    dispatchEvent options { parser with buffer } = { dispatchEvent options parser with buffer } := by
  simp only [dispatchEvent, inspectEventPayload]
  cases eventPayload parser.current.event <;> rfl

theorem processLine_withBuffer (parser : Parser) (buffer line : Text) :
    processLine options { parser with buffer } line =
      { processLine options parser line with buffer } := by
  unfold processLine
  split_ifs
  · exact dispatchEvent_withBuffer options parser buffer
  · rfl
  · rfl

def readLines (parser : Parser) (ls : List Text) : Parser := ls.foldl (processLine options) parser

/-- The end of a stream: an unfinished event is dispatched. -/
def finish (parser : Parser) : Parser :=
  if parser.current.pending then dispatchEvent options parser else parser

/-- Flushing reads the lines of the buffer. -/
theorem parseBuffer_lines (parser : Parser) :
    (if (parseBuffer options true parser).buffer ≠ [] then
        processLine options { parseBuffer options true parser with buffer := [] }
          (parseBuffer options true parser).buffer
      else parseBuffer options true parser) =
      readLines options { parser with buffer := [] } (lines parser.buffer) := by
  induction size : parser.buffer.length using Nat.strongRecOn generalizing parser with
  | ind size ih =>
    have decreases := parseLine_decreases options true
    cases round : parseLine options true parser with
    | none =>
      have left : parseBuffer options true parser = parser := Loop.exit_none round
      have none_left : findNextNewlineIndex true parser.buffer = none := by
        unfold parseLine at round
        split at round
        case h_1 absent => exact absent
        case h_2 => cases round
      rw [left, lines, splitLines_none none_left, List.nil_append]
      by_cases empty : parser.buffer = []
      · rw [if_neg (not_not.mpr empty), if_pos empty]
        cases parser with
        | mk buffer =>
          change buffer = [] at empty
          subst empty
          rfl
      · rw [if_pos empty, if_neg empty]
        rfl
    | some next =>
      have step : parseBuffer options true parser = parseBuffer options true next :=
        decreases.exit_some round
      have lower := decreases parser next round
      rw [step, ih _ (size ▸ lower) next rfl]
      unfold parseLine at round
      split at round
      case h_1 => cases round
      case h_2 i found =>
        obtain rfl := Option.some.inj round
        have first := splitLines_some found []
        rw [List.nil_append] at first
        change lines parser.buffer = _ at first
        rw [first, processLine_buffer, readLines, readLines, List.foldl_cons]
        simp only [processLine_withBuffer]

/-- A stream is read line by line, wherever it is cut. -/
theorem runChunks_lines (chunks : List Text) :
    (runChunks options chunks).parser =
      finish options (readLines options
        { output := if options.isPassthrough then chunks.flatten else [] }
        (lines chunks.flatten)) := by
  have later : ∀ parser next, parseLine options false parser = some next →
      parseLine options true parser = some next := by
    intro parser next round
    unfold parseLine at round ⊢
    split at round
    case h_1 => cases round
    case h_2 i found =>
      rw [findNextNewlineIndex_flush found]
      exact round
  have whole := (parseLine_decreases options false).exit_exit (parseLine_decreases options true)
    later (receive options {} chunks.flatten)
  rw [parser_runChunks, handleFlush]
  have flushed := parseBuffer_lines options (receive options {} chunks.flatten)
  change parseBuffer options true (parseBuffer options false _) = parseBuffer options true _ at whole
  simp only [whole, flushed]
  rfl

/-- The events dispatched for a text. -/
def dispatched (text : Text) : List SSEEvent := (runChunks options [text]).parser.onEvent

/-- The events of the lines that follow a block, the last one perhaps unfinished. -/
def eventsOf (block : Block) : List Text → List SSEEvent
  | [] => if block.pending then [block.event] else []
  | line :: rest =>
    if line = [] then
      if block.pending then block.event :: eventsOf {} rest else eventsOf block rest
    else eventsOf (block.addLine line) rest

theorem dispatchEvent_onEvent (parser : Parser) :
    (dispatchEvent options parser).onEvent = parser.onEvent ++ [parser.current.event] ∧
      (dispatchEvent options parser).current = {} := by
  simp only [dispatchEvent, inspectEventPayload]
  cases eventPayload parser.current.event <;> exact ⟨rfl, rfl⟩

theorem onEvent_readLines (ls : List Text) (parser : Parser) :
    (finish options (readLines options parser ls)).onEvent =
      parser.onEvent ++ eventsOf parser.current ls := by
  induction ls generalizing parser with
  | nil =>
    change (finish options parser).onEvent = _
    unfold finish eventsOf
    split
    case isTrue => exact (dispatchEvent_onEvent options parser).1
    case isFalse => exact (List.append_nil _).symm
  | cons line rest ih =>
    change (finish options (readLines options (processLine options parser line) rest)).onEvent = _
    rw [ih, eventsOf]
    unfold processLine
    by_cases empty : line = []
    · rw [if_pos empty, if_pos empty]
      by_cases pending : parser.current.pending = true
      · obtain ⟨called, reset⟩ := dispatchEvent_onEvent options parser
        rw [if_pos pending, if_pos pending, called, reset, List.append_assoc]
        rfl
      · rw [if_neg pending, if_neg pending]
    · rw [if_neg empty, if_neg empty]

theorem dispatched_eq (text : Text) : dispatched options text = eventsOf {} (lines text) := by
  have flat : [text].flatten = text := by simp
  rw [dispatched, runChunks_lines, onEvent_readLines, flat]
  rfl

end

/-! ## What a block leaves behind -/

/-- The line makes its block an event. -/
def announces (line : Text) : Bool :=
  (units "data:").isPrefixOf line || line = units "data" || (units "event:").isPrefixOf line ||
    (units "id:").isPrefixOf line

/-- The block being read after one more line. -/
def nextBlock (block : Block) (line : Text) : Block :=
  if line = [] then if block.pending then {} else block else block.addLine line

def residual (ls : List Text) : Block := ls.foldl nextBlock {}

theorem announces_comment {line : Text} (colon : line.head? = some 58) : announces line = false := by
  cases line with
  | nil => cases colon
  | cons unit rest =>
    obtain rfl := Option.some.inj colon
    rfl

namespace Block

variable (block left : Block) (line : Text)

theorem rawLines_addLine : (block.addLine line).rawLines = block.rawLines ++ [line] := by
  unfold addLine readField
  split_ifs <;> first | rfl | (split <;> rfl)

/-- Reading a field makes the block pending when the line announces an event. -/
theorem pending_readField : (block.readField line).pending = (block.pending || announces line) := by
  unfold readField announces
  by_cases data : (units "data:").isPrefixOf line = true
  · rw [if_pos data]
    simp [pending, data]
  · by_cases bare : line = units "data"
    · rw [if_neg data, if_pos bare]
      simp [pending, bare]
    · by_cases event : (units "event:").isPrefixOf line = true
      · rw [if_neg data, if_neg bare, if_pos event]
        simp [pending, event]
      · by_cases id : (units "id:").isPrefixOf line = true
        · rw [if_neg data, if_neg bare, if_neg event, if_pos id]
          simp [pending, id]
        · rw [if_neg data, if_neg bare, if_neg event, if_neg id]
          simp only [data, bare, event, id, decide_false, Bool.or_false]
          split
          · split <;> rfl
          · rfl

theorem pending_addLine : (block.addLine line).pending = (block.pending || announces line) := by
  unfold addLine
  by_cases colon : line.head? = some 58
  · rw [if_pos colon, announces_comment colon, Bool.or_false]
    rfl
  · rw [if_neg colon, pending_readField]
    rfl

/-- The block with what an earlier one has left behind. -/
def leak : Block :=
  { block with
    rawLines := left.rawLines ++ block.rawLines
    retry := block.retry.or left.retry }

theorem readField_leak : (block.leak left).readField line = (block.readField line).leak left := by
  unfold readField
  split_ifs
  all_goals first | rfl | (split <;> rfl)

theorem addLine_leak : (block.leak left).addLine line = (block.addLine line).leak left := by
  have raw : { block.leak left with rawLines := (block.leak left).rawLines ++ [line] } =
      { block with rawLines := block.rawLines ++ [line] }.leak left := by
    simp only [leak, List.append_assoc]
  unfold addLine
  simp only [raw, readField_leak]
  split <;> rfl

/-- A block that is no event is all left behind. -/
theorem eq_leak (waiting : block.pending = false) : block = ({} : Block).leak block := by
  obtain ⟨dataLines, rawLines, type, id, retry⟩ := block
  simp only [pending, Bool.or_eq_false_iff] at waiting
  obtain ⟨⟨no_data, no_type⟩, no_id⟩ := waiting
  simp_all [leak]

theorem pending_leak : (block.leak left).pending = block.pending := rfl

/-- Lines put before others make the joined text longer. -/
theorem length_intercalate_append (earlier : List Text) {ls : List Text} (some_lines : ls ≠ []) :
    ([10].intercalate ls).length + earlier.length ≤ ([10].intercalate (earlier ++ ls)).length := by
  induction earlier with
  | nil => exact le_rfl
  | cons first rest ih =>
    have more : rest ++ ls ≠ [] := fun empty => some_lines (List.append_eq_nil_iff.mp empty).2
    rw [List.cons_append, List.intercalate_cons_of_ne_nil more]
    simp only [List.length_append, List.length_cons, List.length_nil]
    omega

/-- An event with more lines in its raw text is another event. -/
theorem event_leak_ne (some_left : left.rawLines ≠ []) (some_raw : block.rawLines ≠ []) :
    (block.leak left).event ≠ block.event := by
  intro same
  have raw := congrArg (fun event => event.raw.length) same
  change ([10].intercalate (left.rawLines ++ block.rawLines)).length =
    ([10].intercalate block.rawLines).length at raw
  have longer := length_intercalate_append left.rawLines some_raw
  have positive := List.length_pos_of_ne_nil some_left
  omega

/-- Nothing is read of a block before its first line. -/
def Tidy : Prop := block.rawLines = [] → block = {}

theorem tidy_empty : Tidy {} := fun _ => rfl

theorem tidy_addLine : (block.addLine line).Tidy := fun empty => by
  rw [rawLines_addLine] at empty
  exact absurd empty (List.append_ne_nil_of_right_ne_nil _ (List.cons_ne_nil _ _))

variable {block left}

theorem Tidy.rawLines_ne_nil (tidy : block.Tidy) (pending : block.pending = true) :
    block.rawLines ≠ [] := by
  intro empty
  rw [tidy empty] at pending
  cases pending

end Block

/-- What was left behind shows in the next event, and only there. -/
theorem eventsOf_leak {left : Block} (some_left : left.rawLines ≠ []) (ls : List Text)
    {block : Block} (tidy : block.Tidy) :
    eventsOf (block.leak left) ls = eventsOf block ls ↔ eventsOf block ls = [] := by
  induction ls generalizing block with
  | nil =>
    rw [eventsOf, eventsOf, Block.pending_leak]
    split
    case isTrue pending =>
      have other := block.event_leak_ne left some_left (tidy.rawLines_ne_nil pending)
      simp [other]
    case isFalse => simp
  | cons line rest ih =>
    rw [eventsOf, eventsOf, Block.pending_leak]
    by_cases empty : line = []
    · rw [if_pos empty, if_pos empty]
      split
      case isTrue pending =>
        have other := block.event_leak_ne left some_left (tidy.rawLines_ne_nil pending)
        simp [other]
      case isFalse => exact ih tidy
    · rw [if_neg empty, if_neg empty, Block.addLine_leak]
      exact ih (block.tidy_addLine line)

theorem announces_nil : announces [] = false := rfl

/-- Lines without an announcement make no event. -/
theorem eventsOf_eq_nil (ls : List Text) (block : Block) :
    eventsOf block ls = [] ↔ block.pending = false ∧ ∀ line ∈ ls, announces line = false := by
  induction ls generalizing block with
  | nil => simp [eventsOf]
  | cons line rest ih =>
    rw [eventsOf, List.forall_mem_cons]
    by_cases empty : line = []
    · rw [if_pos empty, empty]
      by_cases pending : block.pending = true
      · simp [pending]
      · rw [if_neg pending, ih]
        simp [announces_nil]
    · rw [if_neg empty, ih, Block.pending_addLine, Bool.or_eq_false_iff, and_assoc]

/-- Events of lines that leave no event unfinished do not depend on what follows. -/
theorem eventsOf_append (ls later : List Text) (block : Block)
    (done : (ls.foldl nextBlock block).pending = false) :
    eventsOf block (ls ++ later) = eventsOf block ls ++ eventsOf (ls.foldl nextBlock block) later := by
  induction ls generalizing block with
  | nil =>
    change block.pending = false at done
    rw [List.nil_append, eventsOf, done]
    rfl
  | cons line rest ih =>
    rw [List.cons_append, eventsOf, eventsOf]
    rw [List.foldl_cons] at done ⊢
    by_cases empty : line = []
    · rw [if_pos empty, if_pos empty]
      rw [nextBlock, if_pos empty] at done ⊢
      split
      case isTrue pending =>
        rw [if_pos pending] at done
        rw [ih {} done, List.cons_append]
      case isFalse waiting =>
        rw [if_neg waiting] at done
        exact ih block done
    · rw [if_neg empty, if_neg empty]
      rw [nextBlock, if_neg empty] at done ⊢
      exact ih (block.addLine line) done

/-! ## The last block of a text -/

/-- The lines of the last block that has any, last line first. -/
def lastBlock (ls : List Text) : List Text :=
  (ls.reverse.dropWhile fun line => line = []).takeWhile fun line => line ≠ []

/-- The last block that has a line is an event. -/
def lastAnnounced (ls : List Text) : Bool := (lastBlock ls).isEmpty || (lastBlock ls).any announces

/-- The lines since the last empty one, last line first. -/
def openBlock (ls : List Text) : List Text := ls.reverse.takeWhile fun line => line ≠ []

/-- What the lines so far leave behind. -/
structure Leaves (ls : List Text) : Prop where
  tidy : (residual ls).Tidy
  pending : (residual ls).pending = (openBlock ls).any announces
  raw : (residual ls).rawLines = [] ↔ openBlock ls = [] ∧ lastAnnounced ls = true

theorem residual_concat (ls : List Text) (line : Text) :
    residual (ls ++ [line]) = nextBlock (residual ls) line := by
  rw [residual, List.foldl_append]
  rfl

theorem lastBlock_of_open {ls : List Text} (unfinished : openBlock ls ≠ []) :
    lastBlock ls = openBlock ls := by
  unfold lastBlock openBlock at *
  cases reversed : ls.reverse with
  | nil => rfl
  | cons line rest =>
    rw [reversed] at unfinished
    by_cases empty : line = []
    · simp [empty] at unfinished
    · rw [List.dropWhile_cons, if_neg (by simpa using empty)]

theorem leaves (ls : List Text) : Leaves ls := by
  induction ls using List.reverseRecOn with
  | nil => exact ⟨Block.tidy_empty, rfl, by decide⟩
  | append_singleton ls line ih =>
    by_cases empty : line = []
    · have opened : openBlock (ls ++ [line]) = [] := by simp [openBlock, empty]
      have last : lastBlock (ls ++ [line]) = lastBlock ls := by simp [lastBlock, empty]
      have next : residual (ls ++ [line]) =
          if (residual ls).pending then {} else residual ls := by
        rw [residual_concat, nextBlock, if_pos empty]
      have unfinished : openBlock ls ≠ [] →
          lastAnnounced (ls ++ [line]) = (openBlock ls).any announces := by
        intro some_line
        rw [lastAnnounced, last, lastBlock_of_open some_line, List.isEmpty_eq_false_iff.mpr some_line,
          Bool.false_or]
      have read := ih.pending
      by_cases pending : (residual ls).pending = true
      · rw [if_pos pending] at next
        rw [pending] at read
        have some_line : openBlock ls ≠ [] := fun none_read => by
          rw [none_read] at read
          cases read
        have announced := unfinished some_line
        exact ⟨next ▸ Block.tidy_empty, by rw [next, opened]; rfl,
          by rw [next, opened, announced, ← read]; simp⟩
      · rw [if_neg pending] at next
        rw [Bool.eq_false_of_not_eq_true pending] at read
        refine ⟨next ▸ ih.tidy, ?_, ?_⟩
        · rw [next, opened, Bool.eq_false_of_not_eq_true pending]
          rfl
        · rw [next, opened, ih.raw]
          by_cases none_read : openBlock ls = []
          · simp only [none_read, true_and, lastAnnounced, last]
          · simp [none_read, unfinished none_read, ← read]
    · have opened : openBlock (ls ++ [line]) = line :: openBlock ls := by simp [openBlock, empty]
      have next : residual (ls ++ [line]) = (residual ls).addLine line := by
        rw [residual_concat, nextBlock, if_neg empty]
      constructor
      · rw [next]
        exact Block.tidy_addLine _ _
      · rw [next, Block.pending_addLine, ih.pending, opened, List.any_cons, Bool.or_comm]
      · rw [next, Block.rawLines_addLine, opened]
        simp

/-- A text that ends in an empty line has no unfinished event. -/
theorem residual_closed {ls : List Text} (closed : ls.getLast? = some []) :
    (residual ls).pending = false ∧ openBlock ls = [] := by
  obtain ⟨init, rfl⟩ := List.getLast?_eq_some_iff.mp closed
  have opened : openBlock (init ++ [[]]) = [] := by simp [openBlock]
  rw [(leaves _).pending, opened]
  exact ⟨rfl, rfl⟩

/-- A text cut behind its lines: an LF behind a CR of the first part ends no line. -/
theorem splitLines_append (text : Text) {afterCR : Bool} {current : Text}
    (fresh : afterCR = true → current = []) :
    ∃ full after rest, (after = true → rest = []) ∧
      ∀ later, splitLines afterCR current (text ++ later) = full ++ splitLines after rest later := by
  induction text generalizing afterCR current with
  | nil => exact ⟨[], afterCR, current, fresh, fun _ => rfl⟩
  | cons unit text ih =>
    by_cases lf : unit = 10
    · obtain ⟨full, after, rest, kept, split⟩ := @ih false [] fun _ => rfl
      cases afterCR with
      | true =>
        refine ⟨full, after, rest, kept, fun later => ?_⟩
        rw [List.cons_append, splitLines, if_pos lf, if_pos rfl, split]
      | false =>
        refine ⟨current :: full, after, rest, kept, fun later => ?_⟩
        rw [List.cons_append, splitLines, if_pos lf, if_neg Bool.false_ne_true, split,
          List.cons_append]
    · by_cases cr : unit = 13
      · obtain ⟨full, after, rest, kept, split⟩ := @ih true [] fun _ => rfl
        refine ⟨current :: full, after, rest, kept, fun later => ?_⟩
        rw [List.cons_append, splitLines, if_neg lf, if_pos cr, split, List.cons_append]
      · obtain ⟨full, after, rest, kept, split⟩ :=
          @ih false (current ++ [unit]) fun never => absurd never Bool.false_ne_true
        refine ⟨full, after, rest, kept, fun later => ?_⟩
        rw [List.cons_append, splitLines, if_neg lf, if_neg cr, split]

theorem lines_append {a : Text} (closed : (lines a).getLast? = some []) (b : Text) :
    ∃ ms, lines (a ++ b) = lines a ++ ms ∧ (lines b = ms ∨ lines b = [] :: ms) := by
  obtain ⟨full, after, rest, kept, split⟩ :=
    @splitLines_append a false [] fun never => absurd never Bool.false_ne_true
  have whole : lines a = full ++ splitLines after rest [] := by
    rw [lines, ← split [], List.append_nil]
  have ended : rest = [] := by
    by_contra unfinished
    rw [whole, splitLines, if_neg unfinished, List.getLast?_concat] at closed
    exact unfinished (Option.some.inj closed)
  subst ended
  have first : lines a = full := by
    rw [whole, splitLines, if_pos rfl, List.append_nil]
  refine ⟨splitLines after [] b, ?_, ?_⟩
  · rw [first, lines, split]
  · cases after with
    | false => exact Or.inl rfl
    | true =>
      rw [splitLines_afterCR]
      cases b with
      | nil => exact Or.inl rfl
      | cons unit b =>
        by_cases lf : unit = 10
        · subst lf
          exact Or.inr rfl
        · rw [if_neg (by simpa using lf)]
          exact Or.inl rfl

section

variable [NumberText] [JsonParser] (options : SSEStreamTransformerOptions)

/-- Two texts, the first of which ends in an empty line, have the events of each just when the
first one's last block is an event, or the second one has none. -/
theorem block_locality_iff (a b : Text) (closed : (lines a).getLast? = some []) :
    dispatched options (a ++ b) = dispatched options a ++ dispatched options b ↔
      lastAnnounced (lines a) = true ∨ ∀ line ∈ lines b, announces line = false := by
  obtain ⟨ms, split, same⟩ := lines_append closed b
  obtain ⟨done, none_open⟩ := residual_closed closed
  have raw := (leaves (lines a)).raw
  rw [none_open] at raw
  have skip : ∀ block : Block, block.pending = false →
      eventsOf block (lines b) = eventsOf block ms := by
    intro block waiting
    rcases same with same | same
    · rw [same]
    · rw [same, eventsOf, if_pos rfl, waiting]
      rfl
  have quiet :
      (∀ line ∈ lines b, announces line = false) ↔ ∀ line ∈ ms, announces line = false := by
    rcases same with same | same
    · rw [same]
    · rw [same, List.forall_mem_cons]
      simp [announces_nil]
  rw [dispatched_eq, dispatched_eq, dispatched_eq, split, eventsOf_append _ _ _ done,
    List.append_cancel_left_eq, skip {} rfl, quiet]
  change eventsOf (residual (lines a)) ms = eventsOf {} ms ↔ _
  by_cases empty : (residual (lines a)).rawLines = []
  · rw [(leaves (lines a)).tidy empty]
    simp [(raw.mp empty).2]
  · have silent : lastAnnounced (lines a) ≠ true := fun announced =>
      empty (raw.mpr ⟨rfl, announced⟩)
    rw [Block.eq_leak _ done, eventsOf_leak empty ms Block.tidy_empty, eventsOf_eq_nil,
      or_iff_right silent]
    exact and_iff_right rfl

end

section

attribute [local instance] integerText noJson

theorem block_locality_data :
    dispatched {} (units "data: x\n\n" ++ units "data: y\n\n") =
      dispatched {} (units "data: x\n\n") ++ dispatched {} (units "data: y\n\n") :=
  (block_locality_iff {} _ _ (by decide)).mpr (Or.inl (by decide))

/-- The retry value and the raw text of a block that is no event go into the next event. -/
theorem block_leaks :
    (lines (units "retry: 5\n\n")).getLast? = some [] ∧
      dispatched {} (units "retry: 5\n\n" ++ units "data: y\n\n") ≠
        dispatched {} (units "retry: 5\n\n") ++ dispatched {} (units "data: y\n\n") ∧
      (dispatched {} (units "data: y\n\n")).map (fun event => (event.retry, event.raw)) =
        [(none, units "data: y")] ∧
      (dispatched {} (units "retry: 5\n\n" ++ units "data: y\n\n")).map
        (fun event => (event.retry, event.raw)) =
          [(some (.finite 5), units "retry: 5\ndata: y")] := by
  decide +kernel

end

end KeyCollective.Sse
