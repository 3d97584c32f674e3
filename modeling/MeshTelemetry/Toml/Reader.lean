import MeshTelemetry.Document.Decoder
import MeshTelemetry.Toml.Scalar
import MeshTelemetry.Toml.Table
import MeshTelemetry.Toml.Token

/-!
# MeshTelemetry.Toml.Reader

Documents of TOML text. The builder takes one token after the other; it keeps the root table, the
path of the last header, and what is open in the current statement.

* `Toml.read?` — the document of a text, if the text is well formed.
* `Toml.decode` — reading and then decoding.
-/

namespace MeshTelemetry
namespace Toml

/-- What is open around a value: the statement that gives it to a key, an array with its items so
far, or a table in braces with its members so far. Keys and items have the last one first. -/
inductive Frame
  | statement (keys : List String)
  | array (items : List Item)
  | braces (members : Members) (keys : List String)

/-- Where a key stands: in a header, in a header of an array element, in a statement, or in a table
in braces inside of other values. -/
inductive KeyPlace
  | header
  | element
  | statement
  | braces (members : Members) (frames : List Frame)

/-- What comes next. -/
inductive Phase
  | line
  | bracket
  | key (place : KeyPlace) (keys : List String)
  | keyEnd (place : KeyPlace) (keys : List String)
  | elementEnd (keys : List String)
  | value (frames : List Frame)
  | scalar (run : List Char) (frames : List Frame)
  | dateEnd (run : List Char) (frames : List Frame)
  | item (items : List Item) (frames : List Frame)
  | nextItem (items : List Item) (frames : List Frame)
  | member (members : Members) (frames : List Frame)
  | nextMember (members : Members) (frames : List Frame)
  | lineEnd

/-- The builder between two tokens. -/
structure Builder where
  root : Members
  path : List String
  phase : Phase

namespace Builder

def initial : Builder := ⟨[], [], .line⟩

def goto (b : Builder) (phase : Phase) : Option Builder := some { b with phase }

/-- How many arrays and tables in braces may be open at once. -/
def depthLimit : Nat := 80

/-- Splits the parts of a key into the last one and those in front of it. -/
def lastKey? : List String → Option (List String × String)
  | [] => none
  | key :: before => some (before.reverse, key)

def place (b : Builder) (item : Item) : List Frame → Option Builder
  | [] => none
  | .statement keys :: _ =>
    match lastKey? keys with
    | none => none
    | some (path, key) =>
      (b.root.within (Members.assign key item path) b.path).map fun root =>
        { b with root, phase := .lineEnd }
  | .array items :: frames => b.goto (.nextItem (item :: items) frames)
  | .braces members keys :: frames =>
    match lastKey? keys with
    | none => none
    | some (path, key) =>
      match Members.assign key item path members with
      | none => none
      | some members => b.goto (.nextMember members frames)

def endHeader (b : Builder) (keys : List String)
    (opener : String → Members → Option Members) : Option Builder :=
  match lastKey? keys with
  | none => none
  | some (path, key) =>
    (b.root.within (opener key) path).map fun root =>
      { root, path := path ++ [key], phase := .lineEnd }

/-- A key may be written without quotes if it has only these characters. -/
def isBareKeyChar (c : Char) : Bool :=
  let n := c.toNat
  (48 ≤ n && n ≤ 57) || (65 ≤ n && n ≤ 90) || (97 ≤ n && n ≤ 122) || c = '_' || c = '-'

def keyPart? : Token → Option String
  | .bare run => if run.all isBareKeyChar then some (String.ofList run) else none
  | .text false s => some s
  | _ => none

/-- The first token of a value. -/
def beginValue (b : Builder) (frames : List Frame) : Token → Option Builder
  | .text _ s => b.place (.leaf (.text s)) frames
  | .bare run => b.goto (.scalar run frames)
  | .mark c =>
    if c = '.' then b.goto (.scalar ['.'] frames)
    else if frames.length > depthLimit then none
    else if c = '[' then b.goto (.item [] frames)
    else if c = '\x7b' then b.goto (.member [] frames)
    else none
  | _ => none

/-- Takes one token in that does not belong to a value without quotes. -/
def stepPhase (b : Builder) (t : Token) : Option Builder :=
  match b.phase, t with
  | .line, .blank => some b
  | .line, .newline => some b
  | .line, .mark '[' => b.goto .bracket
  | .line, t => (keyPart? t).bind fun k => b.goto (.keyEnd .statement [k])
  | .bracket, .mark '[' => b.goto (.key .element [])
  | .bracket, .blank => b.goto (.key .header [])
  | .bracket, t => (keyPart? t).bind fun k => b.goto (.keyEnd .header [k])
  | .key _ _, .blank => some b
  | .key place keys, t => (keyPart? t).bind fun k => b.goto (.keyEnd place (k :: keys))
  | .keyEnd _ _, .blank => some b
  | .keyEnd place keys, .mark '.' => b.goto (.key place keys)
  | .keyEnd .header keys, .mark ']' => b.endHeader keys Members.openTable
  | .keyEnd .element keys, .mark ']' => b.goto (.elementEnd keys)
  | .keyEnd .statement keys, .mark '=' => b.goto (.value [.statement keys])
  | .keyEnd (.braces members frames) keys, .mark '=' =>
    b.goto (.value (.braces members keys :: frames))
  | .elementEnd keys, .mark ']' => b.endHeader keys Members.openElement
  | .value _, .blank => some b
  | .value frames, t => b.beginValue frames t
  | .item _ _, .blank => some b
  | .item _ _, .newline => some b
  | .item items frames, .mark ']' => b.place (.array items.reverse) frames
  | .item items frames, t => b.beginValue (.array items :: frames) t
  | .nextItem _ _, .blank => some b
  | .nextItem _ _, .newline => some b
  | .nextItem items frames, .mark ',' => b.goto (.item items frames)
  | .nextItem items frames, .mark ']' => b.place (.array items.reverse) frames
  | .member _ _, .blank => some b
  | .member _ _, .newline => some b
  | .member members frames, .mark '\x7d' => b.place (.table .braces members) frames
  | .member members frames, t =>
    (keyPart? t).bind fun k => b.goto (.keyEnd (.braces members frames) [k])
  | .nextMember _ _, .blank => some b
  | .nextMember _ _, .newline => some b
  | .nextMember members frames, .mark ',' => b.goto (.member members frames)
  | .nextMember members frames, .mark '\x7d' => b.place (.table .braces members) frames
  | .lineEnd, .blank => some b
  | .lineEnd, .newline => b.goto .line
  | _, _ => none

/-- Ends a value without quotes. -/
def endScalar (b : Builder) (run : List Char) (frames : List Frame) : Option Builder :=
  (scalar? run).bind fun d => b.place (.leaf d) frames

def startsWithDigit : List Char → Bool
  | c :: _ => 48 ≤ c.toNat && c.toNat ≤ 57
  | [] => false

/-- Takes one token in. Points belong to the value they stand in, and so does a time behind a date
and a blank. -/
def step (b : Builder) (t : Token) : Option Builder :=
  match b.phase, t with
  | .scalar run frames, .bare more => b.goto (.scalar (run ++ more) frames)
  | .scalar run frames, .mark '.' => b.goto (.scalar (run ++ ['.']) frames)
  | .scalar run frames, .blank =>
    if isDate run then b.goto (.dateEnd run frames)
    else (b.endScalar run frames).bind fun b => b.stepPhase .blank
  | .scalar run frames, t => (b.endScalar run frames).bind fun b => b.stepPhase t
  | .dateEnd run frames, .bare more =>
    if startsWithDigit more then b.goto (.scalar (run ++ ' ' :: more) frames) else none
  | .dateEnd run frames, t => (b.endScalar run frames).bind fun b => b.stepPhase t
  | _, t => b.stepPhase t

def finish (b : Builder) : Option Members :=
  match b.phase with
  | .line => some b.root
  | .lineEnd => some b.root
  | .scalar run frames => (b.endScalar run frames).bind closed?
  | .dateEnd run frames => (b.endScalar run frames).bind closed?
  | _ => none
where
  closed? (b : Builder) : Option Members :=
    match b.phase with
    | .lineEnd => some b.root
    | _ => none

end Builder

def read? (text : String) : Option Document :=
  (((tokens text.toList).foldl (fun b t => b.bind fun b => b.step t)
    (some Builder.initial)).bind Builder.finish).map fun root => (Item.table .header root).document

/-- Decodes a text as a whole; no value is looked at before the text is known to be well formed. -/
def decode (decoder : Decoder α) (text : String) : Except DecodeError α :=
  match read? text with
  | none => .error .malformed
  | some d => decoder d

end Toml
end MeshTelemetry
