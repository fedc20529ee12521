import KeyCollective.Lib.Loop
import KeyCollective.Proxy.UsageExtractor

/-!
# SSEStreamTransformer

The parser of a provider's event stream. Its text is a list of UTF-16 code units, and what
the client receives is one text. Of the callbacks only `onEvent` is kept; the times in the
metadata are left out.
-/

namespace KeyCollective.Sse

/-- A string of the host: its code units. -/
abbrev Text := List UInt16

def utf16 (c : Char) : Text :=
  if c.toNat < 0x10000 then [c.toNat.toUInt16]
  else [(0xD800 + (c.toNat - 0x10000) / 0x400).toUInt16,
    (0xDC00 + (c.toNat - 0x10000) % 0x400).toUInt16]

/-- The code units of a string. -/
def units (s : String) : Text := s.toList.flatMap utf16

def isSpaceUnit (unit : UInt16) : Bool := isWhiteSpace (Char.ofNat unit.toNat)

def trimText (text : Text) : Text :=
  ((text.dropWhile isSpaceUnit).reverse.dropWhile isSpaceUnit).reverse

/-- `parseInt(text, 10)` of a trimmed text. -/
def parseInt (text : Text) : Number :=
  let (negative, rest) : Bool × Text :=
    match text with
    | 45 :: rest => (true, rest)
    | 43 :: rest => (false, rest)
    | _ => (false, text)
  match rest.takeWhile fun unit => 48 ≤ unit ∧ unit ≤ 57 with
  | [] => .nan
  | digits =>
    let value : Nat := digits.foldl (fun value unit => 10 * value + (unit.toNat - 48)) 0
    .ofInt (if negative then -value else value)

/-- `JSON.parse`; none when it throws. -/
class JsonParser where
  parse : Text → Option Json

/-- No text is JSON. -/
@[reducible] def noJson : JsonParser := ⟨fun _ => none⟩

structure SSEEvent where
  event : Option Text
  id : Option Text
  retry : Option Number
  data : Text
  raw : Text
deriving DecidableEq

/-- `StreamUsage`, with the numbers as the payloads gave them. -/
structure NumberUsage where
  promptTokens : Number
  completionTokens : Number
  totalTokens : Number
  cachedTokens : Option Number
  reasoningTokens : Option Number
deriving DecidableEq

structure UsageCounters where
  promptTokens : Number := .finite 0
  completionTokens : Number := .finite 0
  totalTokens : Option Number := none
  cachedTokens : Number := .finite 0
  reasoningTokens : Number := .finite 0
  hasUsage : Bool := false
  usage : Option NumberUsage := none
deriving DecidableEq

structure StreamMetadata where
  model : Option String := none
  systemFingerprint : Option String := none
  finishReason : Option String := none
  eventCount : Nat := 0
deriving DecidableEq

inductive StreamMode where
  | passthrough
  | events
deriving DecidableEq

structure SSEStreamTransformerOptions where
  mode : Option StreamMode := none
  bufferEvents : Option Bool := none
deriving DecidableEq

namespace SSEStreamTransformerOptions

variable (options : SSEStreamTransformerOptions)

def isPassthrough : Bool := options.mode.getD .passthrough = .passthrough

def enqueueEvents : Bool := options.mode.getD .passthrough = .events

end SSEStreamTransformerOptions

/-- The event being read. -/
structure Block where
  dataLines : List Text := []
  rawLines : List Text := []
  type : Option Text := none
  id : Option Text := none
  retry : Option Number := none
deriving DecidableEq

structure Parser where
  buffer : Text := []
  current : Block := {}
  counters : UsageCounters := {}
  metadata : StreamMetadata := {}
  events : List SSEEvent := []
  /-- The events `onEvent` was called with. -/
  onEvent : List SSEEvent := []
  /-- What the client has received. -/
  output : Text := []
deriving DecidableEq

/-! ## Usage and metadata -/

def applyUsageUpdate (counters : UsageCounters) (update : PartialUsage) : UsageCounters :=
  let promptTokens := update.promptTokens.getD counters.promptTokens
  let completionTokens := update.completionTokens.getD counters.completionTokens
  let cachedTokens := update.cachedTokens.getD counters.cachedTokens
  let reasoningTokens := update.reasoningTokens.getD counters.reasoningTokens
  let total := update.totalTokens.getD (promptTokens.add completionTokens)
  { promptTokens, completionTokens, cachedTokens, reasoningTokens
    totalTokens := some total
    hasUsage := true
    usage := some
      { promptTokens, completionTokens
        totalTokens := total
        cachedTokens := if cachedTokens.isPositive then some cachedTokens else none
        reasoningTokens := if reasoningTokens.isPositive then some reasoningTokens else none } }

/-- The field keeps its first value that is not empty. -/
def keepFirst (current found : Option String) : Option String :=
  if isFalsy current then found.or current else current

/-- The finish reason of the first choice, when there is one. -/
def finishReason (parsed : Json) : Option String :=
  match parsed.get "choices" with
  | some (.array (first :: _)) => (first.getString "finish_reason").filter (· ≠ "")
  | _ => none

/-- What `inspectEventPayload` does with a payload it could parse. -/
def inspectPayload (parser : Parser) (parsed : Json) : Parser :=
  { parser with
    metadata := { parser.metadata with
      model := keepFirst parser.metadata.model (parsed.getString "model")
      systemFingerprint :=
        keepFirst parser.metadata.systemFingerprint (parsed.getString "system_fingerprint")
      finishReason := (finishReason parsed).or parser.metadata.finishReason }
    counters :=
      match extractUsageFromPayload parsed with
      | some update => applyUsageUpdate parser.counters update
      | none => parser.counters }

section

variable [JsonParser]

/-- The payload of an event's data, when it looks like JSON and is. -/
def eventPayload (event : SSEEvent) : Option Json :=
  let trimmed := trimText event.data
  if trimmed = [] ∨ trimmed = units "[DONE]" ∨
      ¬(units "\x7b").isPrefixOf trimmed ∧ ¬(units "[").isPrefixOf trimmed then none
  else JsonParser.parse trimmed

def inspectEventPayload (parser : Parser) (event : SSEEvent) : Parser :=
  match eventPayload event with
  | some parsed => inspectPayload parser parsed
  | none => parser

end

/-! ## Events -/

namespace Block

variable (block : Block)

/-- Data, a type or an id has been read. -/
def pending : Bool := ¬block.dataLines.isEmpty || block.type.isSome || block.id.isSome

def event : SSEEvent where
  event := block.type
  id := block.id
  retry := block.retry
  data := [10].intercalate block.dataLines
  raw := [10].intercalate block.rawLines

/-- What follows a field's name, less one space. -/
def fieldValue (line : Text) (name : String) : Text :=
  match line.drop name.length with
  | 32 :: value => value
  | value => value

/-- The field of a line that is no comment. -/
def readField (line : Text) : Block :=
  if (units "data:").isPrefixOf line then
    { block with dataLines := block.dataLines ++ [fieldValue line "data:"] }
  else if line = units "data" then { block with dataLines := block.dataLines ++ [[]] }
  else if (units "event:").isPrefixOf line then
    { block with type := some (fieldValue line "event:") }
  else if (units "id:").isPrefixOf line then { block with id := some (fieldValue line "id:") }
  else if (units "retry:").isPrefixOf line then
    match parseInt (trimText (line.drop 6)) with
    | .nan => block
    | retry => { block with retry := some retry }
  else block

/-- A line that is not empty. A comment starts with a colon. -/
def addLine (line : Text) : Block :=
  let block := { block with rawLines := block.rawLines ++ [line] }
  if line.head? = some 58 then block else block.readField line

end Block

variable [NumberText]

namespace SSEEvent

variable (event : SSEEvent)

def fieldLine (name : String) (value : Option Text) : Text :=
  match value with
  | some value => units name ++ value ++ [10]
  | none => []

/-- The event as it is enqueued in events mode. -/
def formatted : Text :=
  fieldLine "event: " event.event ++ fieldLine "id: " event.id ++
    fieldLine "retry: " (event.retry.map fun retry => units retry.text) ++
    ((event.data.splitOn 10).flatMap fun line => fieldLine "data: " (some line)) ++ [10]

end SSEEvent

variable [JsonParser] (options : SSEStreamTransformerOptions)

def dispatchEvent (parser : Parser) : Parser :=
  let event := parser.current.event
  let parser := { parser with
    current := {}
    metadata := { parser.metadata with eventCount := parser.metadata.eventCount + 1 }
    events := if options.bufferEvents ≠ some false then parser.events ++ [event] else parser.events
    output := if options.enqueueEvents then parser.output ++ event.formatted else parser.output }
  let parser := inspectEventPayload parser event
  { parser with onEvent := parser.onEvent ++ [event] }

def processLine (parser : Parser) (line : Text) : Parser :=
  if line = [] then if parser.current.pending then dispatchEvent options parser else parser
  else { parser with current := parser.current.addLine line }

/-! ## Lines -/

/-- The first LF or CR. A CR at the end of the buffer waits for the next chunk, unless the
stream is being flushed. -/
def findNextNewlineIndex (isFlushing : Bool) : Text → Option Nat
  | [] => none
  | unit :: rest =>
    if unit = 10 then some 0
    else if unit = 13 then if rest = [] ∧ ¬isFlushing then none else some 0
    else (findNextNewlineIndex isFlushing rest).map (· + 1)

/-- One round of `parseBuffer`. -/
def parseLine (isFlushing : Bool) (parser : Parser) : Option Parser :=
  match findNextNewlineIndex isFlushing parser.buffer with
  | none => none
  | some newlineIndex =>
    let line := parser.buffer.take newlineIndex
    let isCRLF :=
      parser.buffer[newlineIndex]? = some 13 ∧ parser.buffer[newlineIndex + 1]? = some 10
    let delimiterLen := if isCRLF then 2 else 1
    let buffer := parser.buffer.drop (newlineIndex + delimiterLen)
    some (processLine options { parser with buffer } line)

def parseBuffer (isFlushing : Bool) (parser : Parser) : Parser :=
  Loop.exit (parseLine options isFlushing) (fun parser => parser.buffer.length) parser

structure SSEStreamTransformer where
  parser : Parser := {}
  chunkCount : Nat := 0
deriving DecidableEq

/-- A chunk is forwarded in passthrough mode, and buffered. -/
def receive (parser : Parser) (chunk : Text) : Parser :=
  { parser with
    output := if options.isPassthrough then parser.output ++ chunk else parser.output
    buffer := parser.buffer ++ chunk }

def handleTransform (transformer : SSEStreamTransformer) (chunk : Text) : SSEStreamTransformer where
  chunkCount := transformer.chunkCount + 1
  parser := parseBuffer options false (receive options transformer.parser chunk)

/-- The end of a stream: the rest of the buffer is a line, and an unfinished event is
dispatched. -/
def handleFlush (transformer : SSEStreamTransformer) : SSEStreamTransformer :=
  let parser := parseBuffer options true transformer.parser
  let parser :=
    if parser.buffer ≠ [] then processLine options { parser with buffer := [] } parser.buffer
    else parser
  { transformer with
    parser := if parser.current.pending then dispatchEvent options parser else parser }

/-- A stream that arrives in these chunks. -/
def runChunks (chunks : List Text) : SSEStreamTransformer :=
  handleFlush options (chunks.foldl (handleTransform options) {})

end KeyCollective.Sse
