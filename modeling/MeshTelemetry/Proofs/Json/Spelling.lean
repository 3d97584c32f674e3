import MeshTelemetry.Proofs.Json.Quoted
import MeshTelemetry.Proofs.Json.Values

/-!
# MeshTelemetry.Proofs.Json.Spelling

The texts that values are written as are texts of the grammar: each is the text of a tree, which
says of every part of the value how it is spelled. They are read as these values.

* `Json.Layout`: where white space stands; `Json.tree`: a value as it is spelled in a layout.
* `Json.text_compact`, `Json.text_indented`: the texts of values are those of their trees.
* `Json.document`: a value as a reader finds it; `Json.document_tree`: it is found in the tree.
* `Json.decode_compact`, `Json.decode_indented`: a value is decoded from its texts.
-/

namespace MeshTelemetry
namespace Json

section Numbers

def Number.ofInt (z : Int) : Number := ⟨z < 0, z.natAbs, none, none⟩

theorem Number.integer?_ofInt (z : Int) : (Number.ofInt z).integer? = some z := by
  cases z with
  | ofNat n => rfl
  | negSucc n =>
    simp only [ofInt, integer?, Int.negSucc_lt_zero, decide_true, Int.natAbs_negSucc, if_true,
      if_neg n.succ_ne_zero]
    rfl

theorem Number.chars_ofInt (z : Int) : (Number.ofInt z).chars = (toString z).toList := by
  rw [toList_toString]
  cases z with
  | ofNat n => simp [ofInt, chars, head, tail]
  | negSucc n => simp [ofInt, chars, head, tail]

end Numbers

/-- Where white space stands in a text: nowhere, or so that each item and each member has a line of
its own, which begins with two blanks for each level. -/
inductive Layout
  | compact
  | lines (level : Nat)

@[simp]
theorem Blanks.chars_nil : Blanks.chars [] = [] := rfl

namespace Layout

/-- The layout of the items of a value. -/
def inner : Layout → Layout
  | .compact => .compact
  | .lines level => .lines (level + 1)

def lineBreak : Layout → Blanks
  | .compact => []
  | .lines level => .lineFeed :: List.replicate (2 * level) .space

/-- What stands in front of the value of a member. -/
def gap : Layout → Blanks
  | .compact => []
  | .lines _ => [.space]

theorem chars_lineBreak (level : Nat) :
    (lineBreak (.lines level)).chars = (newline level).toList := by
  simp [lineBreak, Blanks.chars, newline, Blank.char]

theorem chars_gap (level : Nat) : (gap (.lines level)).chars = [' '] := rfl

end Layout

mutual

/-- A value as it is spelled in a layout. -/
def tree (l : Layout) : Json → Tree
  | .null => .null
  | .bool b => .bool b
  | .int z => .number (.ofInt z)
  | .text s => .text (spelled s)
  | .list items => .list [] (itemTrees l items)
  | .object members => .object [] (memberTrees l members)

/-- Behind the last item the line is that of the closing bracket. -/
def itemTrees (l : Layout) : List Json → List (Item Tree)
  | [] => []
  | v :: rest =>
    ⟨l.inner.lineBreak, tree l.inner v, if rest.isEmpty then l.lineBreak else []⟩ ::
      itemTrees l rest

def memberTrees (l : Layout) : List (String × Json) → List (Item (List Glyph) × Item Tree)
  | [] => []
  | (k, v) :: rest =>
    (⟨l.inner.lineBreak, spelled k, []⟩,
      ⟨l.gap, tree l.inner v, if rest.isEmpty then l.lineBreak else []⟩) :: memberTrees l rest

end

mutual

theorem chars_compact : ∀ v : Json, (tree .compact v).chars = (pieces v).flatMap String.toList
  | .null => rfl
  | .bool true => rfl
  | .bool false => rfl
  | .int z => by simp [tree, Tree.chars, Number.chars_ofInt, pieces]
  | .text s => by rw [tree, Tree.chars, chars_quoted, pieces]
  | .list items => by simp [tree, Tree.chars, chars_compact_items true items, pieces]
  | .object members => by simp [tree, Tree.chars, chars_compact_members true members, pieces]

theorem chars_compact_items : ∀ (isFirst : Bool) (items : List Json),
    Tree.itemChars isFirst (itemTrees .compact items) =
      (itemPieces isFirst items).flatMap String.toList
  | _, [] => rfl
  | isFirst, v :: rest => by
    have hvalue := chars_compact v
    have hrest := chars_compact_items false rest
    cases isFirst <;>
      simp [itemTrees, Tree.itemChars, Layout.lineBreak, Layout.inner, itemPieces, hvalue, hrest]

theorem chars_compact_members : ∀ (isFirst : Bool) (members : List (String × Json)),
    Tree.memberChars isFirst (memberTrees .compact members) =
      (memberPieces isFirst members).flatMap String.toList
  | _, [] => rfl
  | isFirst, (k, v) :: rest => by
    have hvalue := chars_compact v
    have hrest := chars_compact_members false rest
    cases isFirst <;>
      simp [memberTrees, Tree.memberChars, Layout.lineBreak, Layout.inner, Layout.gap,
        memberPieces, chars_quoted, hvalue, hrest]

end

mutual

theorem chars_lines : ∀ (v : Json) (level : Nat),
    (tree (.lines level) v).chars = (indentedAt level v).toList
  | .null, _ => by rw [indentedAt]; rfl
  | .bool true, _ => by rw [indentedAt]; rfl
  | .bool false, _ => by rw [indentedAt]; rfl
  | .int z, _ => by rw [tree, Tree.chars, Number.chars_ofInt, indentedAt]
  | .text s, _ => by rw [tree, Tree.chars, chars_quotedText, indentedAt]
  | .list [], _ => by rw [indentedAt]; rfl
  | .list (v :: rest), level => by
    rw [indentedAt]
    · simp [tree, Tree.chars, chars_lines_items (v :: rest) level true]
    · rintro ⟨⟩
  | .object [], _ => by rw [indentedAt]; rfl
  | .object (member :: rest), level => by
    rw [indentedAt]
    · simp [tree, Tree.chars, chars_lines_members (member :: rest) level true]
    · rintro ⟨⟩

theorem chars_lines_items : ∀ (items : List Json) (level : Nat) (isFirst : Bool),
    Tree.itemChars isFirst (itemTrees (.lines level) items) =
      (indentedItems (level + 1) isFirst items).toList ++
        if items.isEmpty then [] else (newline level).toList
  | [], _, _ => rfl
  | v :: rest, level, isFirst => by
    have hvalue := chars_lines v (level + 1)
    have hrest := chars_lines_items rest level false
    cases hempty : rest.isEmpty with
    | true =>
      obtain rfl := List.isEmpty_iff.mp hempty
      cases isFirst <;>
        simp [itemTrees, Tree.itemChars, Layout.inner, Layout.chars_lineBreak, indentedItems, hvalue]
    | false =>
      cases isFirst <;>
        simp [itemTrees, Tree.itemChars, Layout.inner, Layout.chars_lineBreak, indentedItems, hvalue,
          hempty, hrest]

theorem chars_lines_members : ∀ (members : List (String × Json)) (level : Nat) (isFirst : Bool),
    Tree.memberChars isFirst (memberTrees (.lines level) members) =
      (indentedMembers (level + 1) isFirst members).toList ++
        if members.isEmpty then [] else (newline level).toList
  | [], _, _ => rfl
  | (k, v) :: rest, level, isFirst => by
    have hvalue := chars_lines v (level + 1)
    have hrest := chars_lines_members rest level false
    cases hempty : rest.isEmpty with
    | true =>
      obtain rfl := List.isEmpty_iff.mp hempty
      cases isFirst <;>
        simp [memberTrees, Tree.memberChars, Layout.inner, Layout.chars_lineBreak, Layout.chars_gap,
          chars_quotedText, indentedMembers, hvalue]
    | false =>
      cases isFirst <;>
        simp [memberTrees, Tree.memberChars, Layout.inner, Layout.chars_lineBreak, Layout.chars_gap,
          chars_quotedText, indentedMembers, hvalue, hempty, hrest]

end

theorem text_compact (v : Json) : Item.text ⟨[], tree .compact v, []⟩ = v.compact := by
  rw [Item.text, chars_compact, compact, ← String.toList_inj, String.toList_join]
  simp

theorem text_indented (v : Json) (after : Blanks) :
    Item.text ⟨[], tree (.lines 0) v, after⟩ = v.indented ++ String.ofList after.chars := by
  rw [Item.text, chars_lines, indented, ← String.toList_inj]
  simp

section Found

variable (l : Layout)

theorem named_memberTrees (members : List (String × Json)) :
    Tree.named (memberTrees l members) = members.map fun (k, v) => (some k, tree l.inner v) := by
  induction members with
  | nil => rfl
  | cons member members ih =>
    obtain ⟨key, v⟩ := member
    have hfirst : Tree.named (memberTrees l ((key, v) :: members)) =
        (meaning (spelled key), tree l.inner v) :: Tree.named (memberTrees l members) := rfl
    rw [hfirst, meaning_spelled, ih, List.map_cons]

@[simp]
theorem text?_tree (s : String) : (tree l (.text s)).text? = some s := by
  rw [tree, Tree.text?, meaning_spelled]

@[simp]
theorem integer?_tree (z : Int) : (tree l (.int z)).integer? = some z := by
  rw [tree, Tree.integer?, Number.integer?_ofInt]

theorem flag?_tree (b : Bool) : (tree l (.bool b)).flag? = some b := rfl

end Found

mutual

/-- A value as a document that was read to its end. -/
def document : Json → Document
  | .null => .null
  | .bool b => .bool b
  | .int z => .int z
  | .text s => .text s
  | .list items => .seq (documents items) true
  | .object members => .map (memberDocuments members) true

def documents : List Json → List Document
  | [] => []
  | v :: rest => v.document :: documents rest

def memberDocuments : List (String × Json) → List (Option String × Document)
  | [] => []
  | (k, v) :: rest => (some k, v.document) :: memberDocuments rest

end

theorem documents_map {α : Type} (f : α → Json) (list : List α) :
    documents (list.map f) = list.map fun a => (f a).document := by
  induction list with
  | nil => rfl
  | cons a list ih => rw [List.map_cons, documents, ih, List.map_cons]

theorem memberDocuments_map {α : Type} (f : α → String × Json) (list : List α) :
    memberDocuments (list.map f) = list.map fun a => (some (f a).1, (f a).2.document) := by
  induction list with
  | nil => rfl
  | cons a list ih => rw [List.map_cons, memberDocuments, ih, List.map_cons]

mutual

/-- All integers in a value are in range. -/
def Fits : Json → Prop
  | .int z => InRange z
  | .list items => ItemsFit items
  | .object members => MembersFit members
  | _ => True

def ItemsFit : List Json → Prop
  | [] => True
  | v :: rest => v.Fits ∧ ItemsFit rest

def MembersFit : List (String × Json) → Prop
  | [] => True
  | (_, v) :: rest => v.Fits ∧ MembersFit rest

end

theorem itemsFit_map {α : Type} {f : α → Json} {list : List α} (h : ∀ a ∈ list, (f a).Fits) :
    ItemsFit (list.map f) := by
  induction list with
  | nil => trivial
  | cons a list ih =>
    rw [List.forall_mem_cons] at h
    exact ⟨h.1, ih h.2⟩

theorem membersFit_map {α : Type} {f : α → String × Json} {list : List α}
    (h : ∀ a ∈ list, (f a).2.Fits) : MembersFit (list.map f) := by
  induction list with
  | nil => trivial
  | cons a list ih =>
    rw [List.forall_mem_cons] at h
    exact ⟨h.1, ih h.2⟩

mutual

/-- What is found in the tree of a value is the value, if its integers are in range. -/
theorem document_tree : ∀ (v : Json) (l : Layout), v.Fits → (tree l v).document = v.document
  | .null, _, _ => rfl
  | .bool _, _, _ => rfl
  | .int z, _, hz => by
    rw [tree, Tree.document, document]
    exact Number.numberDocument_eq_int.mpr ⟨Number.integer?_ofInt z, hz⟩
  | .text s, _, _ => by
    rw [tree, Tree.document, meaning_spelled]
    rfl
  | .list items, l, hfits => by
    rw [tree, Tree.document, documents_itemTrees items l hfits]
    rfl
  | .object members, l, hfits => by
    rw [tree, Tree.document, memberDocuments_memberTrees members l hfits]
    rfl

theorem documents_itemTrees : ∀ (items : List Json) (l : Layout), ItemsFit items →
    Tree.documents (itemTrees l items) = documents items
  | [], _, _ => rfl
  | v :: rest, l, hfits => by
    rw [itemTrees, Tree.documents, document_tree v l.inner hfits.1,
      documents_itemTrees rest l hfits.2, documents]

theorem memberDocuments_memberTrees : ∀ (members : List (String × Json)) (l : Layout),
    MembersFit members → Tree.memberDocuments (memberTrees l members) = memberDocuments members
  | [], _, _ => rfl
  | (k, v) :: rest, l, hfits => by
    rw [memberTrees, Tree.memberDocuments, meaning_spelled, document_tree v l.inner hfits.1,
      memberDocuments_memberTrees rest l hfits.2, memberDocuments]

end

theorem read_compact {v : Json} (hv : v.Fits) : read v.compact = (v.document, true) := by
  rw [← text_compact, read_text, document_tree v .compact hv]

theorem decode_compact {α : Type} {decoder : Decoder α} {v : Json} {a : α} (hv : v.Fits)
    (ha : decoder v.document = .ok a) : decode decoder v.compact = .ok a := by
  rw [← text_compact, decode_text, document_tree v .compact hv, ha]

theorem decode_indented {α : Type} {decoder : Decoder α} {v : Json} {a : α} (hv : v.Fits)
    (ha : decoder v.document = .ok a) : decode decoder v.indented = .ok a := by
  have htext := text_indented v []
  rw [Blanks.chars_nil, String.ofList_nil, String.append_empty] at htext
  rw [← htext, decode_text, document_tree v (.lines 0) hv, ha]

end Json
end MeshTelemetry
