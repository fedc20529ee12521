import KeyCollective.Proxy.Blocks
import KeyCollective.TextDecoder

/-!
# Chunks of bytes

A provider sends bytes, and a chunk may end inside a character. Each chunk is decoded as far
as it goes and its text joins the buffer. The client receives the chunks as they are, or the
text of the events.
-/

namespace KeyCollective.Sse

/-- A transformer of bytes. -/
structure ByteTransformer where
  decoder : TextDecoder := {}
  /-- Its output is the text that is encoded and enqueued for events. -/
  parser : Parser := {}
  chunkCount : Nat := 0
  /-- The chunks that were enqueued as they came. -/
  passed : List Bytes := []

/-- `this.buffer += text`. -/
def Parser.more (parser : Parser) (text : Text) : Parser :=
  { parser with buffer := parser.buffer ++ text }

namespace ByteTransformer

variable [NumberText] [JsonParser] (options : SSEStreamTransformerOptions)

def handleTransform (transformer : ByteTransformer) (chunk : Bytes) : ByteTransformer :=
  let (textChunk, decoder) := transformer.decoder.decodeChunk chunk
  { decoder
    chunkCount := transformer.chunkCount + 1
    passed :=
      if options.isPassthrough then transformer.passed ++ [chunk] else transformer.passed
    parser := parseBuffer options false (transformer.parser.more (textChunk.flatMap utf16)) }

/-- The end of the stream: what the decoder has kept becomes text, and is flushed. -/
def handleFlush (transformer : ByteTransformer) : ByteTransformer :=
  let remainingText := transformer.decoder.decodeRest
  let parser := transformer.parser.more (remainingText.flatMap utf16)
  { transformer with
    parser := (Sse.handleFlush options ⟨parser, transformer.chunkCount⟩).parser }

def runBytes (chunks : List Bytes) : ByteTransformer :=
  handleFlush options (chunks.foldl (handleTransform options) {})

end ByteTransformer

variable [NumberText] [JsonParser] (options : SSEStreamTransformerOptions)

/-! ## Text behind the buffer -/

omit [NumberText] [JsonParser] in
theorem Parser.more_more (parser : Parser) (text later : Text) :
    (parser.more text).more later = parser.more (text ++ later) := by
  rw [more, more, more, List.append_assoc]

theorem more_arrives (later : Text) : Arrives options later (Parser.more · later) where
  moves _ _ := rfl
  unseen parser line := by simp only [Parser.more, processLine_withBuffer, processLine_buffer]

/-- The flush takes every line that was taken before it. -/
theorem parseLine_flushing {parser next : Parser}
    (round : parseLine options false parser = some next) :
    parseLine options true parser = some next := by
  unfold parseLine at round ⊢
  split at round
  case h_1 => cases round
  case h_2 found =>
    rw [findNextNewlineIndex_flush found]
    exact round

theorem parseBuffer_flushing (parser : Parser) (later : Text) :
    parseBuffer options true ((parseBuffer options false parser).more later) =
      parseBuffer options true (parser.more later) := by
  have goes_on : ∀ p, parseBuffer options true (parseBuffer options false p) =
      parseBuffer options true p :=
    (parseLine_decreases options false).exit_exit (parseLine_decreases options true)
      fun _ _ round => parseLine_flushing options round
  rw [← goes_on, (more_arrives options later).parseBuffer, goes_on]

/-! ## What is enqueued besides the events -/

section

variable {options} (passthrough : options.isPassthrough = true)

include passthrough

theorem dispatchEvent_appends (parser : Parser) (output : Text) :
    dispatchEvent options { parser with output } = { dispatchEvent options parser with output } := by
  have quiet : options.enqueueEvents = false := by rw [enqueueEvents_eq, passthrough]; rfl
  simp only [dispatchEvent, inspectEventPayload, quiet]
  cases eventPayload parser.current.event <;> rfl

theorem processLine_output (parser : Parser) (output line : Text) :
    processLine options { parser with output } line =
      { processLine options parser line with output } := by
  unfold processLine
  split_ifs
  · exact dispatchEvent_appends passthrough parser output
  · rfl
  · rfl

/-- What was passed through is not looked at again. -/
theorem finish_readLines_output (ls : List Text) (parser : Parser) (output : Text) :
    finish options (readLines options { parser with output } ls) =
      { finish options (readLines options parser ls) with output } := by
  induction ls generalizing parser with
  | nil =>
    change finish options { parser with output } = { finish options parser with output }
    unfold finish
    split
    · exact dispatchEvent_appends passthrough parser output
    · rfl
  | cons line rest ih =>
    change finish options (readLines options (processLine options _ line) rest) = _
    rw [processLine_output passthrough, ih]
    rfl

end

/-! ## A stream of bytes and its cuts -/

namespace ByteTransformer

theorem parser_foldl (chunks : List Bytes) (transformer : ByteTransformer)
    (idle : parseLine options false transformer.parser = none) :
    (chunks.foldl (handleTransform options) transformer).parser =
      parseBuffer options false (transformer.parser.more
        ((TextDecoder.decodeChunks transformer.decoder chunks).1.flatten.flatMap utf16)) := by
  induction chunks generalizing transformer with
  | nil =>
    have same : transformer.parser.more [] = transformer.parser := by
      simp only [Parser.more, List.append_nil]
    change _ = parseBuffer options false (transformer.parser.more [])
    rw [same]
    exact (Loop.exit_none idle).symm
  | cons chunk rest ih =>
    have left := ((parseLine_decreases options false).exit_spec (transformer.parser.more
      ((transformer.decoder.decodeChunk chunk).1.flatMap utf16))).2
    rw [List.foldl_cons, ih (handleTransform options transformer chunk) left]
    simp only [handleTransform, (more_arrives options _).parseBuffer, Parser.more_more, TextDecoder.decodeChunks,
      List.flatten_cons, List.flatMap_append]

theorem decoder_foldl (chunks : List Bytes) (transformer : ByteTransformer) :
    (chunks.foldl (handleTransform options) transformer).decoder =
      (TextDecoder.decodeChunks transformer.decoder chunks).2 := by
  induction chunks generalizing transformer with
  | nil => rfl
  | cons chunk rest ih =>
    rw [List.foldl_cons, ih]
    rfl

theorem passed_foldl (chunks : List Bytes) (transformer : ByteTransformer) :
    (chunks.foldl (handleTransform options) transformer).passed =
      if options.isPassthrough then transformer.passed ++ chunks else transformer.passed := by
  induction chunks generalizing transformer with
  | nil => simp
  | cons chunk rest ih =>
    rw [List.foldl_cons, ih]
    unfold handleTransform
    cases options.isPassthrough <;> simp

/-- A stream of bytes is read as the lines of the text they decode to. -/
theorem parser_runBytes (chunks : List Bytes) :
    (runBytes options chunks).parser =
      finish options (readLines options {} (lines (units (decodeText chunks.flatten)))) := by
  have folded := parser_foldl options chunks {} rfl
  have kept := decoder_foldl options chunks {}
  have text : units (decodeText chunks.flatten) =
      (TextDecoder.decodeChunks {} chunks).1.flatten.flatMap utf16 ++
        (TextDecoder.decodeChunks {} chunks).2.decodeRest.flatMap utf16 := by
    rw [units, ← streamText_eq, streamText, List.flatMap_append]
  have flushed := parseBuffer_lines options
    ((({} : Parser).more ((TextDecoder.decodeChunks {} chunks).1.flatten.flatMap utf16)).more
      ((TextDecoder.decodeChunks {} chunks).2.decodeRest.flatMap utf16))
  rw [runBytes, handleFlush, folded, kept, text]
  simp only [Sse.handleFlush, parseBuffer_flushing, flushed]
  rfl

/-- However the bytes of a stream are cut, inside a character too, its events, usage and
metadata are those of the text they decode to, and in passthrough the client gets the chunks
unchanged and reads that text from them. -/
theorem runBytes_text (chunks : List Bytes) :
    (runBytes options chunks).parser =
        { (runChunks options [units (decodeText chunks.flatten)]).parser with
          output :=
            if options.isPassthrough then []
            else (runChunks options [units (decodeText chunks.flatten)]).parser.output } ∧
      (runBytes options chunks).passed = (if options.isPassthrough then chunks else []) ∧
      streamText chunks = (decodeText chunks.flatten).toList := by
  refine ⟨?_, ?_, streamText_eq chunks⟩
  · rw [parser_runBytes, runChunks_lines, List.flatten_singleton]
    generalize units (decodeText chunks.flatten) = text
    cases mode : options.isPassthrough with
    | true =>
      simp only [if_true]
      have received := finish_readLines_output mode (lines text) {} text
      have silent := finish_readLines_output mode (lines text) {} []
      rw [received]
      exact silent
    | false => rfl
  · rw [runBytes, handleFlush, passed_foldl]
    rfl

end ByteTransformer

end KeyCollective.Sse
