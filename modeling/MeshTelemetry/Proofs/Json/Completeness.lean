import MeshTelemetry.Proofs.Json.Builder
import MeshTelemetry.Proofs.Json.Grammar
import MeshTelemetry.Proofs.Json.Numeral

/-!
# MeshTelemetry.Proofs.Json.Completeness

Every text of the grammar is read as what it stands for: the scanner emits the tokens of its tree,
and the builder takes these as one document with nothing behind it.

* `Json.numberDocument_eq_int`: which numbers are integers.
* `Json.Tree.scan_chars`: a tree is scanned; `Json.Tree.build_lexed`: its tokens are taken.
* `Json.read_text`: a text is read.
-/

namespace MeshTelemetry
namespace Json

theorem Blank.ends (b : Blank) : Ends b.char := by
  cases b <;> exact ⟨rfl, by decide, by decide, by decide⟩

theorem scan_whiteSpace (blanks : Blanks) (ts : List Token) :
    scan ⟨.ready, ts⟩ blanks.chars = ⟨.ready, ts⟩ := by
  induction blanks with
  | nil => rfl
  | cons b blanks ih => cases b <;> exact ih

theorem Scanner.Settled.blanks {s : Scanner} {ts : List Token} (hs : s.Settled ts)
    (blanks : Blanks) : (scan s blanks.chars).Settled ts := by
  cases blanks with
  | nil => exact hs
  | cons b blanks =>
    have hfirst : s.step b.char = ⟨.ready, ts⟩ := by
      rw [hs.step b.char b.ends]
      cases b <;> rfl
    have hscan : scan s (Blanks.chars (b :: blanks)) = ⟨.ready, ts⟩ := by
      rw [Blanks.chars, List.map_cons, scan, List.foldl_cons, hfirst]
      exact scan_whiteSpace blanks ts
    rw [hscan]
    exact settled_ready ts

section Numbers

theorem Digits.isDigit (ds : Digits) : ∀ c ∈ ds.chars, Numeral.isDigit c = true := by
  intro c hc
  obtain ⟨d, -, rfl⟩ := List.mem_map.mp hc
  exact isDigit_digitChar d.isLt

/-- Digits lead from one state to another one, in which more digits may follow. -/
theorem Digits.scan (ds : Digits) {state last : NumberState}
    (hfirst : ∀ c, Numeral.isDigit c = true → state.next? c = some last)
    (hlast : ∀ c, Numeral.isDigit c = true → last.next? c = some last)
    (read : List Char) (ts : List Token) :
    Json.scan ⟨.number state read, ts⟩ ds.chars = ⟨.number last (ds.chars.reverse ++ read), ts⟩ := by
  obtain ⟨hdigit, hdigits⟩ := List.forall_mem_cons.mp ds.isDigit
  have hrest := scan_digits hlast hdigits (Nat.digitChar ds.first.val :: read) ts
  rw [Json.scan] at hrest ⊢
  rw [chars, List.map_cons, List.foldl_cons, step_number (hfirst _ hdigit), hrest,
    List.reverse_cons, List.append_assoc, List.singleton_append]

theorem Number.scan_head (n : Number) (ts : List Token) :
    ∃ state, (state = .zero ∨ state = .whole) ∧
      scan ⟨.ready, ts⟩ n.head = ⟨.number state n.head.reverse, ts⟩ := by
  obtain ⟨negative, whole, fraction, exponent⟩ := n
  simp only [head]
  -- a zero is a number of its own, which no digit may follow
  rcases Nat.eq_zero_or_pos whole with rfl | hpos
  · have hzero : Nat.toDigits 10 0 = ['0'] := rfl
    rw [hzero]
    cases negative <;> exact ⟨.zero, .inl rfl, rfl⟩
  · refine ⟨.whole, .inr rfl, ?_⟩
    cases negative with
    | true =>
      have hscan := scan_positive hpos fun c hc => step_sign hc ts
      rw [if_pos rfl, scan_append, List.reverse_append]
      exact hscan
    | false =>
      have hfirst : ∀ c, isNonZeroDigit c = true →
          Scanner.step ⟨.ready, ts⟩ c = ⟨.number .whole [c], ts⟩ := fun c hc => begin_nonZero hc ts
      have hscan := scan_positive hpos hfirst
      rw [List.append_nil] at hscan
      exact hscan

theorem Digits.scan_point (ds : Digits) {state : NumberState}
    (hstate : state = .zero ∨ state = .whole) (read : List Char) (ts : List Token) :
    Json.scan ⟨.number state read, ts⟩ ('.' :: ds.chars) =
      ⟨.number .fraction (('.' :: ds.chars).reverse ++ read), ts⟩ := by
  have hpoint : state.next? '.' = some .point := by rcases hstate with rfl | rfl <;> rfl
  have hfirst : ∀ c, Numeral.isDigit c = true → NumberState.point.next? c = some .fraction :=
    fun _ hc => if_pos hc
  have hmore : ∀ c, Numeral.isDigit c = true → NumberState.fraction.next? c = some .fraction :=
    fun _ hc => if_pos hc
  have hdigits := ds.scan hfirst hmore ('.' :: read) ts
  rw [Json.scan] at hdigits ⊢
  rw [List.foldl_cons, step_number hpoint, hdigits, List.reverse_cons, List.append_assoc,
    List.singleton_append]

theorem Exponent.scan (e : Exponent) {state : NumberState}
    (hstate : state = .zero ∨ state = .whole ∨ state = .fraction) (read : List Char)
    (ts : List Token) :
    Json.scan ⟨.number state read, ts⟩ e.chars =
      ⟨.number .exponent (e.chars.reverse ++ read), ts⟩ := by
  obtain ⟨upper, minus, ds⟩ := e
  have hmark : state.next? (if upper then 'E' else 'e') = some .mark := by
    rcases hstate with rfl | rfl | rfl <;> cases upper <;> rfl
  have hfirst : ∀ c, Numeral.isDigit c = true → NumberState.mark.next? c = some .exponent :=
    fun _ hc => if_pos hc
  have hsigned : ∀ c, Numeral.isDigit c = true → NumberState.markSign.next? c = some .exponent :=
    fun _ hc => if_pos hc
  have hmore : ∀ c, Numeral.isDigit c = true → NumberState.exponent.next? c = some .exponent :=
    fun _ hc => if_pos hc
  simp only [chars]
  generalize (if upper then 'E' else 'e') = mark at *
  cases minus with
  | none =>
    have hdigits := ds.scan hfirst hmore (mark :: read) ts
    rw [Json.scan] at hdigits ⊢
    simp only [Option.map_none, Option.toList_none, List.nil_append, List.foldl_cons,
      step_number hmark, hdigits, List.reverse_cons, List.append_assoc, List.singleton_append]
  | some minus =>
    have hsign : NumberState.mark.next? (if minus then '-' else '+') = some .markSign := by
      cases minus <;> rfl
    simp only [Option.map_some, Option.toList_some]
    generalize (if minus then '-' else '+') = sign at *
    have hdigits := ds.scan hsigned hmore (sign :: mark :: read) ts
    rw [Json.scan] at hdigits ⊢
    simp only [List.cons_append, List.nil_append, List.foldl_cons, step_number hmark,
      step_number hsign, hdigits, List.reverse_cons, List.append_assoc]

/-- What stands behind the whole part of a number; it may end there. -/
theorem Number.scan_tail (n : Number) {state : NumberState}
    (hstate : state = .zero ∨ state = .whole) (read : List Char) (ts : List Token) :
    ∃ last : NumberState, last.mayEnd none = true ∧
      Json.scan ⟨.number state read, ts⟩ n.tail = ⟨.number last (n.tail.reverse ++ read), ts⟩ := by
  obtain ⟨negative, whole, fraction, exponent⟩ := n
  have hfraction : ∃ next : NumberState, (next = .zero ∨ next = .whole ∨ next = .fraction) ∧
      Json.scan ⟨.number state read, ts⟩ (fraction.elim [] fun ds => '.' :: ds.chars) =
        ⟨.number next ((fraction.elim [] fun ds => '.' :: ds.chars).reverse ++ read), ts⟩ := by
    cases fraction with
    | none => exact ⟨state, hstate.imp_right .inl, rfl⟩
    | some ds => exact ⟨.fraction, .inr (.inr rfl), ds.scan_point hstate read ts⟩
  obtain ⟨next, hnext, hscan⟩ := hfraction
  simp only [tail, scan_append, hscan, List.reverse_append, List.append_assoc]
  cases exponent with
  | none => exact ⟨next, by rcases hnext with rfl | rfl | rfl <;> rfl, rfl⟩
  | some e => exact ⟨.exponent, rfl, e.scan hnext _ ts⟩

theorem Number.scan (n : Number) (ts : List Token) :
    (Json.scan ⟨.ready, ts⟩ n.chars).Settled (.scalar (numberDocument n.chars) :: ts) := by
  obtain ⟨state, hstate, hhead⟩ := n.scan_head ts
  obtain ⟨last, hlast, htail⟩ := n.scan_tail hstate n.head.reverse ts
  have hscan : Json.scan ⟨.ready, ts⟩ n.chars = ⟨.number last n.chars.reverse, ts⟩ := by
    rw [chars, scan_append, hhead, htail, List.reverse_append]
  have hsettled := settled_number hlast n.chars.reverse ts
  rwa [List.reverse_reverse, ← hscan] at hsettled

theorem ofLexeme_unsigned {cs : List Char} (h : ∀ c ∈ cs.head?, Numeral.isDigit c = true) :
    Numeral.ofLexeme cs = { Numeral.ofLexeme ('-' :: cs) with negative := false } := by
  cases cs with
  | nil => rfl
  | cons c cs =>
    have hc : c ≠ '-' := by
      rintro rfl
      cases h '-' rfl
    simp [Numeral.ofLexeme, hc]

theorem ofLexeme_behind {digits : List Char}
    (hdigits : ∀ c ∈ digits, Numeral.isDigit c = true) {c : Char} (hc : Numeral.isDigit c = false)
    (rest : List Char) :
    (Numeral.ofLexeme ('-' :: (digits ++ c :: rest))).fraction ≠ none ∨
      (Numeral.ofLexeme ('-' :: (digits ++ c :: rest))).exponent ≠ none := by
  have hdrop : (digits ++ c :: rest).dropWhile Numeral.isDigit = c :: rest := by
    rw [List.dropWhile_append_of_pos hdigits, List.dropWhile_cons, hc]
    rfl
  simp only [Numeral.ofLexeme, hdrop]
  by_cases hpoint : c = '.'
  · subst hpoint
    exact .inl (Option.some_ne_none _)
  · right
    split <;> simp_all

theorem Numeral.int?_eq_none {m : Numeral} (h : m.fraction ≠ none ∨ m.exponent ≠ none) :
    m.int? = none := by
  obtain ⟨negative, whole, fraction, exponent⟩ := m
  cases fraction with
  | some _ => rfl
  | none =>
    cases exponent with
    | some _ => rfl
    | none => exact (h.elim (· rfl) (· rfl)).elim

namespace Number

variable {n : Number}

theorem tail_cases (n : Number) :
    n.fraction = none ∧ n.exponent = none ∧ n.tail = [] ∨
      n.integer? = none ∧ ∃ c rest, n.tail = c :: rest ∧ Numeral.isDigit c = false := by
  obtain ⟨negative, whole, fraction, exponent⟩ := n
  cases fraction with
  | some ds => exact .inr ⟨rfl, '.', _, rfl, rfl⟩
  | none =>
    cases exponent with
    | none => exact .inl ⟨rfl, rfl, rfl⟩
    | some e => exact .inr ⟨rfl, _, _, rfl, by cases e.upper <;> rfl⟩

theorem int?_chars {z : Int} :
    (Numeral.ofLexeme n.chars).int? = some z ↔ n.integer? = some z ∧ InRange z := by
  rcases n.tail_cases with ⟨hfraction, hexponent, htail⟩ | ⟨hinteger, c, rest, htail, hc⟩
  · have hlexeme : Numeral.ofLexeme n.chars =
        ⟨n.negative, Numeral.digitsOf (Nat.toDigits 10 n.whole), none, none⟩ := by
      rw [chars, htail, List.append_nil, head]
      cases n.negative with
      | true => exact (ofLexeme_digits n.whole).2
      | false => exact (ofLexeme_digits n.whole).1
    have hmin : Int64.minValue.toInt = -9223372036854775808 := by decide
    have hsize : UInt64.size = 18446744073709551616 := rfl
    have hshift : 1 <<< 63 = 9223372036854775808 := by decide
    simp only [hlexeme, Numeral.int?, natOfDigits_toDigits, integer?, hfraction, hexponent, InRange,
      hmin, hsize, hshift, Int.ofNat_eq_natCast]
    split
    · split <;> split <;> simp <;> omega
    · split <;> simp <;> omega
  -- what stands behind the digits is a fraction or an exponent, so that no integer is read
  · have hdigits := isDigit_toDigits n.whole
    have hparts := ofLexeme_behind hdigits hc rest
    have hnone : (Numeral.ofLexeme n.chars).int? = none := by
      rw [chars, htail, head]
      cases n.negative with
      | true => exact Numeral.int?_eq_none hparts
      | false =>
        have hfirst : ∀ d ∈ (Nat.toDigits 10 n.whole ++ c :: rest).head?,
            Numeral.isDigit d = true := by
          intro d hd
          rw [List.head?_append, List.head?_eq_some_head Nat.toDigits_ne_nil] at hd
          cases hd
          exact hdigits _ (List.head_mem _)
        refine Numeral.int?_eq_none ?_
        rw [if_neg (by decide), List.nil_append, ofLexeme_unsigned hfirst]
        exact hparts
    simp [hnone, hinteger]

theorem numberDocument_eq_int {z : Int} :
    numberDocument n.chars = .int z ↔ n.integer? = some z ∧ InRange z := by
  rw [← int?_chars, numberDocument]
  cases (Numeral.ofLexeme n.chars).int? with
  | some z => simp
  | none => cases (Numeral.ofLexeme n.chars).float? <;> simp

theorem numberDocument_cases (n : Number) :
    (∃ z, numberDocument n.chars = .int z) ∨ (∃ spelling, numberDocument n.chars = .float spelling) ∨
      numberDocument n.chars = .flawed := by
  rw [numberDocument]
  cases (Numeral.ofLexeme n.chars).int? with
  | some z => exact .inl ⟨z, rfl⟩
  | none =>
    cases (Numeral.ofLexeme n.chars).float? with
    | some f => exact .inr (.inl ⟨_, rfl⟩)
    | none => exact .inr (.inr rfl)

end Number

end Numbers

section Texts

variable (ts : List Token) (read : List Piece)

theorem hexValue?_char (d : HexDigit) : Scanner.hexValue? d.char = some d.value.val := by
  obtain ⟨value, upper⟩ := d
  revert value upper
  decide

theorem scan_glyph (g : Glyph) : scan ⟨.text read, ts⟩ g.chars = ⟨.text (g.piece :: read), ts⟩ := by
  cases g with
  | plain c h =>
    obtain ⟨hcontrol, hquote, hbackslash⟩ := h
    simp [scan, Glyph.chars, Glyph.piece, Scanner.step, Scanner.enter, hquote, hbackslash,
      Nat.not_lt.mpr hcontrol]
  | short mark c h =>
    have hall : ∀ p ∈ shortEscapes,
        scan ⟨.text read, ts⟩ ['\\', p.1] = ⟨.text (.char p.2 :: read), ts⟩ := by
      simp only [shortEscapes, List.forall_mem_cons]
      exact ⟨rfl, rfl, rfl, rfl, rfl, rfl, rfl, rfl, by simp⟩
    exact hall _ h
  | unit d₁ d₂ d₃ d₄ =>
    simp [scan, Glyph.chars, Glyph.piece, Scanner.step, Scanner.enter, hexValue?_char]

theorem scan_glyphs (glyphs : List Glyph) : ∀ read, scan ⟨.text read, ts⟩
    (glyphs.flatMap Glyph.chars) = ⟨.text ((glyphs.map Glyph.piece).reverse ++ read), ts⟩ := by
  induction glyphs with
  | nil => exact fun _ => rfl
  | cons g glyphs ih =>
    intro read
    rw [List.flatMap_cons, scan_append, scan_glyph, ih, List.map_cons, List.reverse_cons,
      List.append_assoc, List.singleton_append]

theorem scan_quotedChars (glyphs : List Glyph) :
    scan ⟨.ready, ts⟩ (quotedChars glyphs) = ⟨.ready, .text (meaning glyphs) :: ts⟩ := by
  have hopen : scan ⟨.ready, ts⟩ ['"'] = ⟨.text [], ts⟩ := rfl
  have hclose : ∀ read, scan ⟨.text read, ts⟩ ['"'] =
      ⟨.ready, .text ((Piece.join? read.reverse).map String.ofList) :: ts⟩ := fun _ => rfl
  rw [quotedChars, ← List.singleton_append, scan_append, scan_append, hopen, scan_glyphs, hclose,
    List.append_nil, List.reverse_reverse, meaning]

end Texts

namespace Tree

mutual

/-- The tokens of a tree. -/
def lexed : Tree → List Token
  | .null => [.scalar .null]
  | .bool b => [.scalar (.bool b)]
  | .number n => [.scalar (numberDocument n.chars)]
  | .text glyphs => [.text (meaning glyphs)]
  | .list _ items => .beginSeq :: (itemsLexed true items ++ [.endSeq])
  | .object _ members => .beginMap :: (membersLexed true members ++ [.endMap])

def itemsLexed : Bool → List (Item Tree) → List Token
  | _, [] => []
  | isFirst, ⟨_, v, _⟩ :: rest =>
    (if isFirst then [] else [.comma]) ++ v.lexed ++ itemsLexed false rest

def membersLexed : Bool → List (Item (List Glyph) × Item Tree) → List Token
  | _, [] => []
  | isFirst, (⟨_, name, _⟩, ⟨_, v, _⟩) :: rest =>
    (if isFirst then [] else [.comma]) ++ [.text (meaning name), .colon] ++ v.lexed ++
      membersLexed false rest

end

end Tree

namespace Scanner.Settled

variable {s : Scanner} {ts : List Token}

theorem close (hs : s.Settled ts) :
    scan s [']'] = ⟨.ready, .endSeq :: ts⟩ ∧ scan s ['\x7d'] = ⟨.ready, .endMap :: ts⟩ :=
  ⟨hs.step ']' ⟨rfl, by decide, by decide, by decide⟩,
    hs.step '\x7d' ⟨rfl, by decide, by decide, by decide⟩⟩

/-- White space and then a comma, if it is not the first, stand in front of an item or a member. -/
theorem lead (hs : s.Settled ts) {isFirst : Bool} (hfirst : isFirst = true → s = ⟨.ready, ts⟩)
    (before : Blanks) :
    scan s ((if isFirst then [] else [',']) ++ before.chars) =
      ⟨.ready, (if isFirst then [] else [.comma]) ++ ts⟩ := by
  rw [scan_append]
  cases isFirst with
  | true =>
    rw [hfirst rfl]
    exact scan_whiteSpace before ts
  | false =>
    have hcomma : scan s [','] = ⟨.ready, .comma :: ts⟩ :=
      hs.step ',' ⟨rfl, by decide, by decide, by decide⟩
    exact (congrArg (scan · _) hcomma).trans (scan_whiteSpace before _)

end Scanner.Settled

namespace Tree

mutual

/-- By recursion on the tree: it is scanned as its tokens; a number at its end is still open. -/
theorem scan_chars : ∀ (t : Tree) (ts : List Token),
    (scan ⟨.ready, ts⟩ t.chars).Settled (t.lexed.reverse ++ ts)
  | .null, ts => settled_ready (.scalar .null :: ts)
  | .bool true, ts => settled_ready (.scalar (.bool true) :: ts)
  | .bool false, ts => settled_ready (.scalar (.bool false) :: ts)
  | .number n, ts => n.scan ts
  | .text glyphs, ts => by
    rw [chars, scan_quotedChars]
    exact settled_ready (.text (meaning glyphs) :: ts)
  | .list inner items, ts => by
    have hopen : scan ⟨.ready, ts⟩ ['['] = ⟨.ready, .beginSeq :: ts⟩ := rfl
    have hitems := scan_itemChars true items (settled_ready (.beginSeq :: ts)) fun _ => rfl
    have hclose : scan (scan ⟨.ready, .beginSeq :: ts⟩ (itemChars true items)) [']'] =
        ⟨.ready, .endSeq :: ((itemsLexed true items).reverse ++ .beginSeq :: ts)⟩ := hitems.close.1
    rw [chars, ← List.singleton_append, scan_append, scan_append, scan_append, hopen,
      scan_whiteSpace, hclose]
    simpa [lexed] using
      settled_ready (.endSeq :: ((itemsLexed true items).reverse ++ .beginSeq :: ts))
  | .object inner members, ts => by
    have hopen : scan ⟨.ready, ts⟩ ['\x7b'] = ⟨.ready, .beginMap :: ts⟩ := rfl
    have hmembers := scan_memberChars true members (settled_ready (.beginMap :: ts)) fun _ => rfl
    have hclose : scan (scan ⟨.ready, .beginMap :: ts⟩ (memberChars true members)) ['\x7d'] =
        ⟨.ready, .endMap :: ((membersLexed true members).reverse ++ .beginMap :: ts)⟩ :=
      hmembers.close.2
    rw [chars, ← List.singleton_append, scan_append, scan_append, scan_append, hopen,
      scan_whiteSpace, hclose]
    simpa [lexed] using
      settled_ready (.endMap :: ((membersLexed true members).reverse ++ .beginMap :: ts))

theorem scan_itemChars : ∀ (isFirst : Bool) (items : List (Item Tree)) {s : Scanner}
    {ts : List Token}, s.Settled ts → (isFirst = true → s = ⟨.ready, ts⟩) →
      (scan s (itemChars isFirst items)).Settled ((itemsLexed isFirst items).reverse ++ ts)
  | _, [], _, _, hs, _ => hs
  | isFirst, ⟨before, v, after⟩ :: rest, s, ts, hs, hfirst => by
    have hvalue := (scan_chars v ((if isFirst then [] else [.comma]) ++ ts)).blanks after
    have hrest := scan_itemChars false rest hvalue (by rintro ⟨⟩)
    rw [itemChars, scan_append, scan_append, scan_append, hs.lead hfirst before]
    cases isFirst <;> simpa [itemsLexed] using hrest

theorem scan_memberChars : ∀ (isFirst : Bool) (members : List (Item (List Glyph) × Item Tree))
    {s : Scanner} {ts : List Token}, s.Settled ts → (isFirst = true → s = ⟨.ready, ts⟩) →
      (scan s (memberChars isFirst members)).Settled ((membersLexed isFirst members).reverse ++ ts)
  | _, [], _, _, hs, _ => hs
  | isFirst, (⟨before, name, behind⟩, ⟨before', v, after⟩) :: rest, s, ts, hs, hfirst => by
    have hcolon : ∀ ts, scan ⟨.ready, ts⟩ [':'] = ⟨.ready, .colon :: ts⟩ := fun _ => rfl
    have hvalue := (scan_chars v
      (.colon :: .text (meaning name) :: ((if isFirst then [] else [.comma]) ++ ts))).blanks after
    have hrest := scan_memberChars false rest hvalue (by rintro ⟨⟩)
    rw [memberChars, scan_append, scan_append, scan_append, scan_append, scan_append, scan_append,
      scan_append, hs.lead hfirst before, scan_quotedChars, scan_whiteSpace, hcolon, scan_whiteSpace]
    cases isFirst <;> simpa [membersLexed] using hrest

end

/-- A value in front of which a list might have ended is taken as any other. -/
theorem build_firstItem (t : Tree) (frames : List Frame) :
    build (.expecting .firstItem frames) t.lexed =
      build (.expecting .value (.seq [] :: frames)) t.lexed := by
  cases t <;> rfl

mutual

/-- By recursion on the tree: its tokens put its document into the container that is open. -/
theorem build_lexed : ∀ (t : Tree) (frames : List Frame),
    build (.expecting .value frames) t.lexed = Builder.place t.document frames
  | .null, _ => rfl
  | .bool _, _ => rfl
  | .number _, _ => rfl
  | .text glyphs, frames => by
    rw [lexed, document]
    cases meaning glyphs <;> rfl
  | .list _ [], _ => rfl
  | .list _ (⟨_, v, _⟩ :: rest), frames => by
    rw [lexed, itemsLexed, if_pos rfl, List.nil_append, List.append_assoc,
      build_beginSeq v.build_lexed (v.build_firstItem frames)]
    exact build_items rest [v.document] frames
  | .object _ [], _ => rfl
  | .object _ ((⟨_, name, _⟩, ⟨_, v, _⟩) :: rest), frames => by
    rw [lexed, membersLexed, if_pos rfl, List.nil_append, List.append_assoc, List.append_assoc]
    exact (build_beginMap v.build_lexed frames (meaning name) _).trans
      (build_members rest [(meaning name, v.document)] frames)

theorem build_items : ∀ (items : List (Item Tree)) (done : List Document) (frames : List Frame),
    build (.expecting (.nextItem done) frames) (itemsLexed false items ++ [.endSeq]) =
      Builder.place (.seq (done.reverse ++ documents items) true) frames
  | [], done, frames => by
    rw [documents, List.append_nil]
    rfl
  | ⟨_, v, _⟩ :: rest, done, frames => by
    have hrest := build_items rest (v.document :: done) frames
    rw [List.reverse_cons, List.append_assoc, List.singleton_append] at hrest
    rw [itemsLexed, if_neg (by decide), List.append_assoc, List.append_assoc]
    exact (build_nextItem v.build_lexed done frames _).trans hrest

theorem build_members : ∀ (members : List (Item (List Glyph) × Item Tree))
    (done : List (Option String × Document)) (frames : List Frame),
    build (.expecting (.nextMember done) frames) (membersLexed false members ++ [.endMap]) =
      Builder.place (.map (done.reverse ++ memberDocuments members) true) frames
  | [], done, frames => by
    rw [memberDocuments, List.append_nil]
    rfl
  | (⟨_, name, _⟩, ⟨_, v, _⟩) :: rest, done, frames => by
    have hrest := build_members rest ((meaning name, v.document) :: done) frames
    rw [List.reverse_cons, List.append_assoc, List.singleton_append] at hrest
    rw [membersLexed, if_neg (by decide), List.append_assoc, List.append_assoc, List.append_assoc]
    exact (build_nextMember v.build_lexed done frames (meaning name) _).trans hrest

end

end Tree

/-- Every text of the grammar is read as what it stands for, with nothing behind it. -/
theorem read_text (item : Item Tree) : read item.text = (item.value.document, true) := by
  refine read_tokens item.value.build_lexed ?_
  have hfinish := ((item.value.scan_chars []).blanks item.after).finish
  rw [List.append_nil, List.reverse_reverse] at hfinish
  rw [tokens, Item.text, String.toList_ofList, ← hfinish, Scanner.initial]
  rw [← scan, scan_append, scan_append, scan_whiteSpace]

theorem decode_text {α : Type} {decoder : Decoder α} (item : Item Tree) :
    decode decoder item.text = decoder item.value.document := by
  simp only [decode, read_text]
  cases decoder item.value.document <;> rfl

end Json
end MeshTelemetry
