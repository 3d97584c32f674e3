import MeshTelemetry.Toml.Text
import MeshTelemetry.Toml.Token

/-!
# MeshTelemetry.Proofs.Toml.Scanning

The tokens of written texts and keys. Whichever of the four ways of writing is taken, a text is
scanned as one token, and the scanner is then as if it had just begun.

* `Toml.Spells`: characters that are read as a text, while up to two quotes that were read may still
  turn out to close it; `Toml.Spells.scan`.
* `Toml.spells_escaped`, `Toml.spells_literal`: what is written between the quotes.
* `Toml.scan_quoted`, `Toml.scan_key`: a text and a key as a whole.
-/

namespace MeshTelemetry
namespace Toml

/-- The characters go through the scanner one after the other. -/
def scan (s : Scanner) (cs : List Char) : Scanner := cs.foldl Scanner.step s

theorem scan_append (s : Scanner) (cs cs' : List Char) :
    scan s (cs ++ cs') = scan (scan s cs) cs' := List.foldl_append

theorem scan_cons (s : Scanner) (c : Char) (cs : List Char) :
    scan s (c :: cs) = scan (s.step c) cs := rfl

theorem scan_congr {s s' : Scanner} {c : Char} (h : s.step c = s'.step c) (cs : List Char) :
    scan s (c :: cs) = scan s' (c :: cs) := congrArg (scan · cs) h

/-- The scanner is at the end of a token: a blank or a line feed finds it as if it were ready, with
these tokens, of which the last one stands first. -/
def Scanner.Settled (s : Scanner) (ts : List Token) : Prop :=
  ∀ c, c = ' ' ∨ c = '\n' → s.step c = (⟨.ready, ts⟩ : Scanner).begin c

theorem settled_ready (ts : List Token) : Scanner.Settled ⟨.ready, ts⟩ ts := fun _ _ => rfl

/-- The characters that texts stand between. -/
def IsQuote (c : Char) : Prop := c = '"' ∨ c = '\''

section Texts

variable {quote : Char} {multi : Bool}

/-- Where the scanner stands in a text. The last `k` characters, on top of those in `read`, are
quotes, which close the text if there are three of them. -/
def inText (quote : Char) (multi : Bool) (k : Nat) (read : List Char) : Mode :=
  if k = 0 then .text quote multi read else .closing quote k read

/-- Characters that are read as one character of a text and can stand anywhere in it. -/
structure Chunk (quote : Char) (multi : Bool) (c : Char) (chunk : List Char) : Prop where
  read : ∀ read ts, scan ⟨.text quote multi read, ts⟩ chunk = ⟨.text quote multi (c :: read), ts⟩
  first : ∃ d rest, chunk = d :: rest ∧ d ≠ quote ∧ d ≠ '\r' ∧ (d = '\n' → c = '\n')

/-- `Spells quote multi k cs body`: behind `k` quotes, `body` is read as `cs`. In a text of several
lines, up to two quotes in a row stand for themselves. -/
inductive Spells (quote : Char) (multi : Bool) : Nat → List Char → List Char → Prop
  | nil {k : Nat} : Spells quote multi k [] []
  | quote {k : Nat} {cs body : List Char} :
      multi = true → k < 2 → Spells quote multi (k + 1) cs body →
      Spells quote multi k (quote :: cs) (quote :: body)
  | chunk {k : Nat} {c : Char} {chunk cs body : List Char} :
      Chunk quote multi c chunk → Spells quote multi 0 cs body →
      Spells quote multi k (c :: cs) (chunk ++ body)

/-- So many quotes may have been read that close no text yet. -/
def Open (multi : Bool) (k : Nat) : Prop := k ≤ 2 ∧ (multi = false → k = 0)

/-- A character that is no quote tells that the quotes in front of it belong to the text. -/
theorem Chunk.read_inText {c : Char} {chunk : List Char} (h : Chunk quote multi c chunk) {k : Nat}
    (hk : Open multi k) (read : List Char) (ts : List Token) :
    scan ⟨inText quote multi k read, ts⟩ chunk =
      ⟨.text quote multi (c :: (List.replicate k quote ++ read)), ts⟩ := by
  rcases Nat.eq_zero_or_pos k with rfl | hpos
  · exact h.read read ts
  · obtain ⟨d, rest, rfl, hquote, -, -⟩ := h.first
    obtain rfl : multi = true := by
      cases multi with
      | true => rfl
      | false => exact absurd (hk.2 rfl) (by omega)
    have hstep : Scanner.step ⟨inText quote true k read, ts⟩ d =
        Scanner.step ⟨.text quote true (List.replicate k quote ++ read), ts⟩ d := by
      rw [inText, if_neg (by omega)]
      simp only [Scanner.step, if_neg hquote, if_pos (show k < 3 by have := hk.1; omega)]
      rfl
    rw [scan_congr hstep, h.read]

/-- By induction on the spelling. -/
theorem Spells.scan {k : Nat} {cs body : List Char} (h : Spells quote multi k cs body) :
    Open multi k → ∀ read ts, ∃ k' read', Open multi k' ∧
      List.replicate k' quote ++ read' = cs.reverse ++ (List.replicate k quote ++ read) ∧
      Toml.scan ⟨inText quote multi k read, ts⟩ body = ⟨inText quote multi k' read', ts⟩ := by
  induction h with
  | nil => exact fun hk read ts => ⟨_, read, hk, rfl, rfl⟩
  | @quote k cs body hmulti hlt hrest ih =>
    intro hk read ts
    subst hmulti
    obtain ⟨k', read', hk', hread, hscan⟩ := ih ⟨hlt, by rintro ⟨⟩⟩ read ts
    refine ⟨k', read', hk', ?_, ?_⟩
    · rw [hread, List.reverse_cons, List.append_assoc, List.singleton_append,
        List.replicate_succ, List.cons_append]
    · have hstep : Scanner.step ⟨inText quote true k read, ts⟩ quote =
          ⟨inText quote true (k + 1) read, ts⟩ := by
        rcases Nat.eq_zero_or_pos k with rfl | hpos
        · simp [inText, Scanner.step, Scanner.contents, Scanner.enter]
        · have hne : k ≠ 0 := by omega
          have hfour : k ≠ 4 := by omega
          simp [inText, Scanner.step, Scanner.enter, hne, hfour]
      rw [scan_cons, hstep, hscan]
  | @chunk k c chunk cs body hchunk hrest ih =>
    intro hk read ts
    obtain ⟨k', read', hk', hread, hscan⟩ :=
      ih ⟨by omega, fun _ => rfl⟩ (c :: (List.replicate k quote ++ read)) ts
    refine ⟨k', read', hk', ?_, ?_⟩
    · rw [hread, List.reverse_cons, List.append_assoc, List.singleton_append]
      rfl
    · rw [scan_append, hchunk.read_inText hk]
      exact hscan

/-- Three quotes close a text of several lines, which may end with up to two more. -/
theorem settled_close (hquote : IsQuote quote) {k : Nat} (hk : k ≤ 2) (read : List Char)
    (ts : List Token) :
    (scan ⟨inText quote true k read, ts⟩ [quote, quote, quote]).Settled
      (.text true (String.ofList (List.replicate k quote ++ read).reverse) :: ts) := by
  have hends : ∀ c, c = ' ' ∨ c = '\n' → c ≠ quote := by
    rintro c (rfl | rfl) <;> rcases hquote with rfl | rfl <;> decide
  have hcases : k = 0 ∨ k = 1 ∨ k = 2 := by omega
  intro c hc
  have hne : c ≠ quote := hends c hc
  rcases hcases with rfl | rfl | rfl <;>
    simp [scan, inText, Scanner.step, Scanner.contents, Scanner.enter, Scanner.emitText,
      Scanner.emit, hne, List.replicate]

theorem step_quote (hquote : IsQuote quote) (ts : List Token) :
    Scanner.step ⟨.ready, ts⟩ quote = ⟨.opening quote 1, ts⟩ := by
  rcases hquote with rfl | rfl <;> rfl

theorem IsQuote.ne_break (hquote : IsQuote quote) : quote ≠ '\n' ∧ quote ≠ '\r' := by
  rcases hquote with rfl | rfl <;> decide

theorem scan_single (hquote : IsQuote quote) {cs body : List Char}
    (h : Spells quote false 0 cs body) (ts : List Token) :
    (scan ⟨.ready, ts⟩ ([quote] ++ body ++ [quote])).Settled
      (.text false (String.ofList cs) :: ts) := by
  rw [List.append_assoc, List.singleton_append, scan_cons, step_quote hquote]
  obtain ⟨k, read, hopen, hread, hscan⟩ := h.scan ⟨by omega, fun _ => rfl⟩ [] ts
  obtain rfl : k = 0 := hopen.2 rfl
  cases h with
  | nil =>
    -- two quotes are an empty text, unless a third one follows
    intro c hc
    have hne : c ≠ quote := by
      rcases hc with rfl | rfl <;> rcases hquote with rfl | rfl <;> decide
    simp [scan, Scanner.step, Scanner.enter, Scanner.emitText, Scanner.emit, hne]
  | quote hmulti => cases hmulti
  | @chunk _ c chunk cs body hchunk hrest =>
    obtain ⟨d, rest, rfl, hne, -, -⟩ := hchunk.first
    have hstep : Scanner.step ⟨.opening quote 1, ts⟩ d =
        Scanner.step ⟨inText quote false 0 [], ts⟩ d := by
      simp only [Scanner.step, if_neg hne, inText, if_true]
      rfl
    have hclose : Scanner.step ⟨.text quote false read, ts⟩ quote =
        ⟨.ready, .text false (String.ofList read.reverse) :: ts⟩ := by
      simp [Scanner.step, Scanner.contents, Scanner.emitText, Scanner.emit]
    have hall : read = (c :: cs).reverse := by simpa using hread
    rw [List.cons_append, List.cons_append, scan_congr hstep, ← List.cons_append,
      ← List.cons_append, scan_append, hscan, inText, if_pos rfl, scan_cons, hclose, hall,
      List.reverse_reverse]
    exact settled_ready _

/-- Behind the opening quotes of several lines, the text begins. A line feed is passed over, which
is there if the text has any. -/
theorem scan_opening (hquote : IsQuote quote) {cs body : List Char}
    (h : Spells quote true 0 cs body) (ts : List Token) :
    scan ⟨.firstLine quote, ts⟩ (opening cs ++ (body ++ [quote, quote, quote])) =
      scan ⟨.text quote true [], ts⟩ (body ++ [quote, quote, quote]) := by
  by_cases hbreak : '\n' ∈ cs
  · rw [opening, if_pos (by simpa using hbreak)]
    rfl
  · have hstep : ∀ d, d ≠ '\n' → d ≠ '\r' → Scanner.step ⟨.firstLine quote, ts⟩ d =
        Scanner.step ⟨.text quote true [], ts⟩ d := by
      intro d hn hr
      simp only [Scanner.step, if_neg hn, if_neg hr]
      rfl
    have hquoted : Scanner.step ⟨.firstLine quote, ts⟩ quote =
        Scanner.step ⟨.text quote true [], ts⟩ quote :=
      hstep quote hquote.ne_break.1 hquote.ne_break.2
    rw [opening, if_neg (by simpa using hbreak), List.nil_append]
    cases h with
    | nil => exact scan_congr hquoted _
    | quote hmulti hlt hrest => exact scan_congr hquoted _
    | @chunk _ c chunk cs body hchunk hrest =>
      obtain ⟨d, rest, rfl, -, hr, hn⟩ := hchunk.first
      have hd : d ≠ '\n' := fun heq => hbreak (by simp [hn heq])
      exact scan_congr (hstep d hd hr) _

theorem scan_multi (hquote : IsQuote quote) {cs body : List Char}
    (h : Spells quote true 0 cs body) (ts : List Token) :
    (scan ⟨.ready, ts⟩
      ([quote, quote, quote] ++ opening cs ++ body ++ [quote, quote, quote])).Settled
      (.text true (String.ofList cs) :: ts) := by
  have hfirst : scan ⟨.ready, ts⟩ [quote, quote, quote] = ⟨.firstLine quote, ts⟩ := by
    rw [scan_cons, step_quote hquote]
    simp [scan, Scanner.step, Scanner.enter]
  obtain ⟨k, read, hopen, hread, hscan⟩ := h.scan ⟨by omega, fun _ => rfl⟩ [] ts
  have hclose := settled_close hquote hopen.1 read ts
  rw [hread, List.replicate_zero, List.append_nil, List.append_nil, List.reverse_reverse] at hclose
  rw [List.append_assoc, List.append_assoc, scan_append, hfirst, scan_opening hquote h, scan_append]
  exact hscan ▸ hclose

theorem chunk_plain {c : Char} (hquote : c ≠ quote) (hescape : c = '\\' → quote ≠ '"')
    (hcontrol : Scanner.isControl c = false ∨ multi = true ∧ c = '\n') :
    Chunk quote multi c [c] where
  read read ts := by
    have hbackslash : (decide (c = '\\') && decide (quote = '"')) = false := by
      simpa using hescape
    simp only [scan_cons, Scanner.step, Scanner.contents, if_neg hquote, hbackslash,
      Bool.false_eq_true, if_false]
    rcases hcontrol with hplain | ⟨rfl, rfl⟩
    · have hbreak : c ≠ '\n' := by rintro rfl; cases hplain
      have hreturn : c ≠ '\r' := by rintro rfl; cases hplain
      simp [hbreak, hreturn, hplain, Scanner.enter, scan]
    · rfl
  first := by
    refine ⟨c, [], rfl, hquote, ?_, id⟩
    rintro rfl
    rcases hcontrol with hplain | ⟨-, hbreak⟩
    · cases hplain
    · exact absurd hbreak (by decide)

theorem chunk_escape {c : Char} {rest : List Char}
    (h : ∀ read ts, scan ⟨.escape multi read, ts⟩ rest = ⟨.text '"' multi (c :: read), ts⟩) :
    Chunk '"' multi c ('\\' :: rest) where
  read read ts := (scan_cons _ _ _).trans (h read ts)
  first := ⟨'\\', rest, rfl, by decide, by decide, fun h => absurd h (by decide)⟩

theorem hexValue?_hexDigit {n : Nat} (h : n < 16) : Scanner.hexValue? (hexDigit n) = some n := by
  revert n
  decide

theorem chunk_control {c : Char} (hc : isControl c = true) :
    Chunk '"' multi c (controlEscape c) := by
  unfold controlEscape
  repeat' split
  all_goals try (next h => subst h; exact chunk_escape fun _ _ => rfl)
  -- the other controls are written by their codes
  have hlt : c.toNat < 128 := by
    simp only [isControl, Bool.or_eq_true, decide_eq_true_eq] at hc
    omega
  have hhigh := hexValue?_hexDigit (show c.toNat / 16 < 16 by omega)
  have hlow := hexValue?_hexDigit (show c.toNat % 16 < 16 by omega)
  have hzero : Scanner.hexValue? '0' = some 0 := rfl
  have hunit : c.toNat / 16 * 16 + c.toNat % 16 = c.toNat := by omega
  have hscalar : Scanner.isScalar c.toNat = true := by
    simp only [Scanner.isScalar, Bool.or_eq_true, decide_eq_true_eq]
    omega
  refine chunk_escape fun read ts => ?_
  simp [scan, Scanner.step, Scanner.codeLength?, Scanner.enter, hhigh, hlow, hzero, hunit, hscalar]

theorem spells_escaped {limit : Nat} (hlimit : limit = 0 ∨ limit = 2 ∧ multi = true)
    (cs : List Char) : ∀ k, Spells '"' multi k cs (escaped limit multi k cs) := by
  induction cs with
  | nil => exact fun _ => .nil
  | cons c cs ih =>
    intro k
    unfold escaped
    split
    · next hquote =>
      subst hquote
      split
      · next hlt =>
        obtain ⟨rfl, hmulti⟩ : limit = 2 ∧ multi = true := hlimit.resolve_left (by omega)
        exact .quote hmulti hlt (ih (k + 1))
      · exact .chunk (chunk_escape fun _ _ => rfl) (ih 0)
    · next hquote =>
      split
      · next hbackslash =>
        subst hbackslash
        exact .chunk (chunk_escape fun _ _ => rfl) (ih 0)
      · next hbackslash =>
        split
        · next hbreak =>
          obtain ⟨rfl, hmulti⟩ : c = '\n' ∧ multi = true := by simpa using hbreak
          exact .chunk (chunk_plain (by decide) (by decide) (.inr ⟨hmulti, rfl⟩)) (ih 0)
        · split
          · next hcontrol => exact .chunk (chunk_control hcontrol) (ih 0)
          · next hcontrol =>
            have hplain : Scanner.isControl c = false := by
              simp only [isControl, Bool.or_eq_true, decide_eq_true_eq, not_or] at hcontrol
              simp [Scanner.isControl, hcontrol.1, hcontrol.2]
            exact .chunk (chunk_plain hquote (absurd · hbackslash) (.inl hplain)) (ih 0)

theorem spells_literal {cs : List Char} (hplain : ∀ c ∈ cs, needsEscape c = false)
    (hbreak : multi = false → '\n' ∉ cs) :
    ∀ k, longestRun '\'' k cs ≤ (if multi then 2 else 0) → Spells '\'' multi k cs cs := by
  induction cs with
  | nil => exact fun _ _ => .nil
  | cons c cs ih =>
    rw [List.forall_mem_cons] at hplain
    intro k hrun
    have hrest := ih hplain.2 fun hmulti hmem => hbreak hmulti (List.mem_cons_of_mem c hmem)
    unfold longestRun at hrun
    split at hrun
    · next hquote =>
      subst hquote
      cases multi with
      | false => simp at hrun
      | true =>
        have hle := Nat.max_le.mp hrun
        exact .quote rfl hle.1 (hrest (k + 1) hle.2)
    · next hquote =>
      have hcontrol : Scanner.isControl c = false ∨ multi = true ∧ c = '\n' := by
        by_cases hfeed : c = '\n'
        · cases multi with
          | false => exact absurd (hfeed ▸ List.mem_cons_self) (hbreak rfl)
          | true => exact .inr ⟨rfl, hfeed⟩
        · exact .inl (by simpa [needsEscape, Scanner.isControl, hfeed] using hplain.1)
      exact .chunk (chunk_plain hquote (fun _ => by decide) hcontrol) (hrest 0 hrun)

/-- Characters between quotes that are scanned as one token. -/
structure Written (t : Token) (cs : List Char) : Prop where
  quote : ∃ quote rest, IsQuote quote ∧ cs = quote :: rest
  settled : ∀ ts, (scan ⟨.ready, ts⟩ cs).Settled (t :: ts)

theorem written_basic (cs : List Char) : Written (.text false (String.ofList cs)) (basic cs) where
  quote := ⟨'"', _, .inl rfl, rfl⟩
  settled := scan_single (.inl rfl) (spells_escaped (.inl rfl) cs 0)

theorem written_multiBasic (cs : List Char) :
    Written (.text true (String.ofList cs)) (multiBasic cs) where
  quote := ⟨'"', _, .inl rfl, rfl⟩
  settled := scan_multi (.inl rfl) (spells_escaped (.inr ⟨rfl, rfl⟩) cs 0)

theorem written_literal {cs : List Char} (hplain : ∀ c ∈ cs, needsEscape c = false)
    (hbreak : '\n' ∉ cs) (hquotes : longestRun '\'' 0 cs = 0) :
    Written (.text false (String.ofList cs)) (literal cs) where
  quote := ⟨'\'', _, .inr rfl, rfl⟩
  settled := by
    have hspells : Spells '\'' false 0 cs cs :=
      spells_literal hplain (fun _ => hbreak) 0 (Nat.le_of_eq hquotes)
    exact scan_single (.inr rfl) hspells

theorem written_multiLiteral {cs : List Char} (hplain : ∀ c ∈ cs, needsEscape c = false)
    (hquotes : longestRun '\'' 0 cs ≤ 2) :
    Written (.text true (String.ofList cs)) (multiLiteral cs) where
  quote := ⟨'\'', _, .inr rfl, rfl⟩
  settled := scan_multi (.inr rfl) (spells_literal hplain (by rintro ⟨⟩) 0 hquotes)

/-- However a text is written, it is scanned as this text. -/
theorem written_quoted (s : String) : ∃ multi, Written (.text multi s) (quoted s).toList := by
  have hself : String.ofList s.toList = s := String.ofList_toList
  have hplain : (!s.toList.any needsEscape) = true → ∀ c ∈ s.toList, needsEscape c = false := by
    simp
  have hbasic := written_basic s.toList
  have hmultiBasic := written_multiBasic s.toList
  rw [hself] at hbasic hmultiBasic
  simp only [quoted]
  split
  · exact ⟨false, by rwa [String.toList_ofList]⟩
  · split
    · next h =>
      simp only [Bool.and_eq_true, decide_eq_true_eq] at h
      have hliteral := written_literal (hplain h.1.1) (by simpa using h.2) h.1.2
      rw [hself] at hliteral
      exact ⟨false, by rwa [String.toList_ofList]⟩
    · split
      · exact ⟨true, by rwa [String.toList_ofList]⟩
      · split
        · next h =>
          simp only [Bool.and_eq_true, decide_eq_true_eq] at h
          have hmultiLiteral := written_multiLiteral (hplain h.1) h.2
          rw [hself] at hmultiLiteral
          exact ⟨true, by rwa [String.toList_ofList]⟩
        · split
          · exact ⟨true, by rwa [String.toList_ofList]⟩
          · exact ⟨false, by rwa [String.toList_ofList]⟩

end Texts

section Keys

/-- The token of a part of a key. -/
inductive IsKey (k : String) : Token → Prop
  | bare : k.toList.all isBareChar = true → IsKey k (.bare k.toList)
  | text : IsKey k (.text false k)

theorem not_isBareChar {c d : Char} (hc : isBareChar c = true) (hd : isBareChar d = false) :
    c ≠ d := by
  rintro rfl
  rw [hc] at hd
  cases hd

theorem step_bare {c : Char} (hc : isBareChar c = true) (run : List Char) (ts : List Token) :
    Scanner.step ⟨.bare run, ts⟩ c = ⟨.bare (c :: run), ts⟩ ∧
      Scanner.step ⟨.ready, ts⟩ c = ⟨.bare [c], ts⟩ := by
  have hne : ∀ d, isBareChar d = false → c ≠ d := fun d => not_isBareChar hc
  have hblank : Scanner.isBlank c = false := by
    simp [Scanner.isBlank, hne ' ' rfl, hne '\t' rfl]
  have hmark : Scanner.isMark c = false := by
    simp [Scanner.isMark, hne '.' rfl, hne '=' rfl, hne ',' rfl, hne '[' rfl, hne ']' rfl,
      hne '\x7b' rfl, hne '\x7d' rfl]
  simp [Scanner.step, Scanner.begin, Scanner.enter, hblank, hmark, hne '\n' rfl, hne '\r' rfl,
    hne '#' rfl, hne '"' rfl, hne '\'' rfl]

theorem scan_bare {cs : List Char} (h : ∀ c ∈ cs, isBareChar c = true) :
    ∀ (run : List Char) (ts : List Token),
      scan ⟨.bare run, ts⟩ cs = ⟨.bare (cs.reverse ++ run), ts⟩ := by
  induction cs with
  | nil => exact fun _ _ => rfl
  | cons c cs ih =>
    rw [List.forall_mem_cons] at h
    intro run ts
    rw [scan_cons, (step_bare h.1 run ts).1, ih h.2, List.reverse_cons, List.append_assoc,
      List.singleton_append]

theorem settled_bare (run : List Char) (ts : List Token) :
    Scanner.Settled ⟨.bare run, ts⟩ (.bare run.reverse :: ts) := by
  rintro c (rfl | rfl) <;> rfl

theorem longestRun_eq_zero {c : Char} {cs : List Char} (h : c ∉ cs) :
    ∀ k, longestRun c k cs = 0 := by
  induction cs with
  | nil => exact fun _ => rfl
  | cons d cs ih =>
    rw [List.mem_cons, not_or] at h
    intro k
    rw [longestRun, if_neg (Ne.symm h.1), ih h.2]

theorem scan_key (k : String) :
    ∃ t, IsKey k t ∧ ∀ ts, (scan ⟨.ready, ts⟩ (key k).toList).Settled (t :: ts) := by
  have hself : String.ofList k.toList = k := String.ofList_toList
  have hbasic := (written_basic k.toList).settled
  rw [hself] at hbasic
  simp only [key]
  split
  · next h =>
    simp only [Bool.and_eq_true, List.all_eq_true] at h
    refine ⟨_, .bare (List.all_eq_true.mpr h.2), fun ts => ?_⟩
    cases hcs : k.toList with
    | nil => simp [hcs] at h
    | cons c cs =>
      rw [hcs, List.forall_mem_cons] at h
      rw [scan_cons, (step_bare h.2.1 [] ts).2, scan_bare h.2.2]
      simpa using settled_bare (cs.reverse ++ [c]) ts
  · refine ⟨_, .text, ?_⟩
    split
    · rwa [String.toList_ofList]
    · split
      · next h =>
        simp only [Bool.and_eq_true, Bool.not_eq_true', List.any_eq_false, Bool.or_eq_true,
          decide_eq_true_eq, not_or, List.contains_eq_mem, decide_eq_false_iff_not] at h
        have hbreak : '\n' ∉ k.toList := fun hmem => (h.1 '\n' hmem).2 rfl
        have hliteral := (written_literal (fun c hc => by simpa using (h.1 c hc).1) hbreak
          (longestRun_eq_zero h.2 0)).settled
        rwa [String.toList_ofList, ← hself, String.toList_ofList]
      · rwa [String.toList_ofList]

end Keys

end Toml
end MeshTelemetry
