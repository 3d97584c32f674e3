import MeshTelemetry.Document.Decoder
import MeshTelemetry.Json.Token

/-!
# MeshTelemetry.Json.Reader

Documents of JSON text. The builder takes one token after the other and keeps the containers that
are open. What it has found where the tokens stop making sense is the document of the text.

* `Json.read` — the document of a text, and whether only blanks follow it.
* `Json.decode` — reading and then decoding; whatever comes first in the text is the error.
-/

namespace MeshTelemetry
namespace Json

/-- An open container with what it holds so far, the last first. A map has just met a key. -/
inductive Frame
  | seq (items : List Document)
  | map (members : List (Option String × Document)) (key : Option String)

/-- What must come next. Inside a map the members so far are kept until the next key. -/
inductive Expected
  | value
  | firstItem
  | firstKey
  | key (members : List (Option String × Document))
  | colon (members : List (Option String × Document)) (key : Option String)
  | nextItem (items : List Document)
  | nextMember (members : List (Option String × Document))

/-- The builder, at work or at the end of the document. -/
inductive Builder
  | expecting (e : Expected) (frames : List Frame)
  | finished (document : Document) (followed : Bool)

namespace Builder

/-- Closes the frames around a document at which reading has stopped. -/
def abandon : Document → List Frame → Document
  | d, [] => d
  | d, .seq items :: frames => abandon (.seq (d :: items).reverse false) frames
  | d, .map members key :: frames => abandon (.map ((key, d) :: members).reverse false) frames

/-- The document if reading stops here. -/
def cutOff : Expected → List Frame → Document
  | .value, frames => abandon .cut frames
  | .firstItem, frames => abandon (.seq [] false) frames
  | .firstKey, frames => abandon (.map [] false) frames
  | .key members, frames => abandon (.map members.reverse false) frames
  | .colon members key, frames => abandon (.map ((key, .cut) :: members).reverse false) frames
  | .nextItem items, frames => abandon (.seq items.reverse false) frames
  | .nextMember members, frames => abandon (.map members.reverse false) frames

def place (d : Document) : List Frame → Builder
  | [] => .finished d false
  | .seq items :: frames => .expecting (.nextItem (d :: items)) frames
  | .map members key :: frames => .expecting (.nextMember ((key, d) :: members)) frames

def beginValue (t : Token) (frames : List Frame) : Builder :=
  match t with
  | .beginMap => .expecting .firstKey frames
  | .beginSeq => .expecting .firstItem frames
  | .text (some s) => place (.text s) frames
  | .text none => place .flawed frames
  | .scalar d => place d frames
  | _ => .finished (abandon .cut frames) true

/-- Takes one token in. -/
def step : Builder → Token → Builder
  | .finished d _, _ => .finished d true
  | .expecting .value frames, t => beginValue t frames
  | .expecting .firstItem frames, t =>
    match t with
    | .endSeq => place (.seq [] true) frames
    | t => beginValue t (.seq [] :: frames)
  | .expecting .firstKey frames, t =>
    match t with
    | .endMap => place (.map [] true) frames
    | .text key => .expecting (.colon [] key) frames
    | _ => .finished (cutOff .firstKey frames) true
  | .expecting (.key members) frames, t =>
    match t with
    | .text key => .expecting (.colon members key) frames
    | _ => .finished (cutOff (.key members) frames) true
  | .expecting (.colon members key) frames, t =>
    match t with
    | .colon => .expecting .value (.map members key :: frames)
    | _ => .finished (cutOff (.colon members key) frames) true
  | .expecting (.nextItem items) frames, t =>
    match t with
    | .comma => .expecting .value (.seq items :: frames)
    | .endSeq => place (.seq items.reverse true) frames
    | _ => .finished (cutOff (.nextItem items) frames) true
  | .expecting (.nextMember members) frames, t =>
    match t with
    | .comma => .expecting (.key members) frames
    | .endMap => place (.map members.reverse true) frames
    | _ => .finished (cutOff (.nextMember members) frames) true

/-- The document found, and whether nothing follows it. -/
def finish : Builder → Document × Bool
  | .finished d followed => (d, !followed)
  | .expecting e frames => (cutOff e frames, false)

end Builder

/-- The document of a text, and whether only blanks follow it. -/
def read (text : String) : Document × Bool :=
  ((tokens text.toList).foldl Builder.step (.expecting .value [])).finish

def decode (decoder : Decoder α) (text : String) : Except DecodeError α :=
  let (document, alone) := read text
  match decoder document with
  | .error e => .error e
  | .ok a => if alone then .ok a else .error .malformed

end Json
end MeshTelemetry
