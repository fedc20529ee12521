import KeyCollective.Crypto.Encoding
import KeyCollective.Lib.Utf8Stream

/-!
# Texts that arrive in pieces

A text decoder reads chunk after chunk. A character may be cut in two by them, and so may a
byte order mark at the start.
-/

namespace KeyCollective

/-- `new TextDecoder()` between two reads: the bytes kept, and whether the start is over. -/
structure TextDecoder where
  pending : Bytes := []
  bomSeen : Bool := false

namespace TextDecoder

variable (decoder : TextDecoder)

/-- What is put out as text. A mark is dropped at the start only. -/
def serialize (items : List (Option Char)) : List Char :=
  if decoder.bomSeen then items.map fun c => c.getD '\uFFFD'
  else dropMark (items.map fun c => c.getD '\uFFFD')

/-- `decoder.decode(chunk, { stream: true })`. -/
def decodeChunk (chunk : Bytes) : List Char × TextDecoder :=
  let (items, pending) := Utf8.feed decoder.pending chunk
  (decoder.serialize items, { pending, bomSeen := decoder.bomSeen || !items.isEmpty })

/-- `decoder.decode()`. -/
def decodeRest : List Char := decoder.serialize (Utf8.finish decoder.pending)

/-- The texts of chunks that are read one after another. -/
def decodeChunks : TextDecoder → List Bytes → List (List Char) × TextDecoder
  | decoder, [] => ([], decoder)
  | decoder, chunk :: rest =>
    let (text, next) := decoder.decodeChunk chunk
    let (texts, last) := decodeChunks next rest
    (text :: texts, last)

end TextDecoder

open TextDecoder in
/-- All the text of a stream. -/
def streamText (chunks : List Bytes) : List Char :=
  (decodeChunks {} chunks).1.flatten ++ (decodeChunks {} chunks).2.decodeRest

theorem dropMark_append {cs : List Char} (some_char : cs ≠ []) (later : List Char) :
    dropMark (cs ++ later) = dropMark cs ++ later := by
  cases cs with
  | nil => contradiction
  | cons c rest =>
    unfold dropMark
    split
    case h_1 eq =>
      obtain ⟨rfl, rfl⟩ := List.cons.inj eq
      rfl
    case h_2 other =>
      split
      case h_1 eq =>
        obtain ⟨rfl, -⟩ := List.cons.inj eq
        exact absurd rfl (other (rest ++ later))
      case h_2 => rfl

namespace TextDecoder

/-- Reading more is putting out more. -/
theorem serialize_append (decoder : TextDecoder) (items later : List (Option Char)) :
    decoder.serialize (items ++ later) =
      decoder.serialize items ++
        serialize { decoder with bomSeen := decoder.bomSeen || !items.isEmpty } later := by
  cases seen : decoder.bomSeen with
  | true => simp [serialize, seen]
  | false =>
    cases items with
    | nil => simp [serialize, seen, dropMark]
    | cons c rest =>
      simp only [serialize, seen, List.map_append]
      exact dropMark_append (by simp) _

/-- Wherever the bytes are cut, the texts and the rest make up what all of them decode to. -/
theorem decodeChunks_flatten (decoder : TextDecoder) (chunks : List Bytes) :
    (decodeChunks decoder chunks).1.flatten ++ (decodeChunks decoder chunks).2.decodeRest =
      decoder.serialize ((Utf8.feed decoder.pending chunks.flatten).1 ++
        Utf8.finish (Utf8.feed decoder.pending chunks.flatten).2) := by
  induction chunks generalizing decoder with
  | nil => rfl
  | cons chunk rest ih =>
    have later := ih (decoder.decodeChunk chunk).2
    rw [List.flatten_cons, Utf8.feed_append, List.append_assoc, serialize_append]
    simp only [decodeChunks, List.flatten_cons, List.append_assoc, later]
    rfl

end TextDecoder

theorem streamText_eq (chunks : List Bytes) :
    streamText chunks = (decodeText chunks.flatten).toList := by
  have whole := @Utf8.decode_feed [] rfl chunks.flatten
  rw [List.nil_append] at whole
  rw [streamText, TextDecoder.decodeChunks_flatten, decodeText, String.toList_ofList, whole]
  rfl

end KeyCollective
