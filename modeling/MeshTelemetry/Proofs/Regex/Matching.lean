import MeshTelemetry.Proofs.Regex.Span

/-!
# MeshTelemetry.Proofs.Regex.Matching

Matching by sets of positions finds exactly the matches that an expression has.

* `Follows`: a function on sets of positions takes each set to the positions that a relation leads
  to from it.
* `rounds_follows`, `spread_testBit`: repetition, with its early ends.
* `Plan.reach_follows`: the plan of an expression follows its spans.
* `Expr.isMatch_iff`: a text is matched iff the expression spans some part of it.
-/

namespace MeshTelemetry
namespace Regex

/-- All positions of the set are at most `b`. -/
def Within (b s : Nat) : Prop := ∀ i, s.testBit i = true → i ≤ b

/-- On sets within the bound, `f` leads where the relation leads from some element. -/
def Follows (b : Nat) (f : Nat → Nat) (R : Nat → Nat → Prop) : Prop :=
  ∀ s, Within b s → ∀ j, (f s).testBit j = true ↔ ∃ i, s.testBit i = true ∧ R i j

section Sets

variable {b : Nat} {R : Nat → Nat → Prop} {f : Nat → Nat}

theorem Follows.within (hf : Follows b f R) (hR : ∀ i j, i ≤ b → R i j → j ≤ b) {s : Nat}
    (hs : Within b s) : Within b (f s) := by
  intro j hj
  obtain ⟨i, hi, hij⟩ := (hf s hs j).mp hj
  exact hR i j (hs i hi) hij

theorem rounds_of_fixed {s : Nat} (h : ∀ j, s.testBit j = true ↔ ∃ i, s.testBit i = true ∧ R i j)
    (n j : Nat) : s.testBit j = true ↔ ∃ i, s.testBit i = true ∧ Rounds R n i j := by
  induction n generalizing j with
  | zero => simp [Rounds]
  | succ n ih =>
    constructor
    · intro hj
      obtain ⟨k, hk, hkj⟩ := (ih j).mp hj
      obtain ⟨i, hi, hik⟩ := (h k).mp hk
      exact ⟨i, hi, k, hik, hkj⟩
    · rintro ⟨i, hi, k, hik, hkj⟩
      exact (ih j).mpr ⟨k, (h k).mpr ⟨i, hi, hik⟩, hkj⟩

theorem rounds_follows (hf : Follows b f R) (hR : ∀ i j, i ≤ b → R i j → j ≤ b) (n : Nat) :
    Follows b (rounds f n) (Rounds R n) := by
  induction n with
  | zero => intro s _ j; simp [rounds, Rounds]
  | succ n ih =>
    intro s hs j
    simp only [rounds]
    split
    · next hfix => exact rounds_of_fixed (fun j => by rw [← hf s hs j, hfix]) (n + 1) j
    · rw [ih (f s) (hf.within hR hs) j]
      constructor
      · rintro ⟨k, hk, hkj⟩
        obtain ⟨i, hi, hik⟩ := (hf s hs k).mp hk
        exact ⟨i, hi, k, hik, hkj⟩
      · rintro ⟨i, hi, k, hik, hkj⟩
        exact ⟨k, (hf s hs k).mpr ⟨i, hi, hik⟩, hkj⟩

theorem testBit_minus (t found j : Nat) :
    (t ^^^ (t &&& found)).testBit j = (t.testBit j && !found.testBit j) := by
  rw [Nat.testBit_xor, Nat.testBit_and]
  cases t.testBit j <;> cases found.testBit j <;> rfl

/-- The invariant of `spread`: what was found is new or has had its round. -/
structure Spreading (R : Nat → Nat → Prop) (fresh found : Nat) : Prop where
  fresh_found : ∀ i, fresh.testBit i = true → found.testBit i = true
  closed : ∀ i j, found.testBit i = true → fresh.testBit i = false → R i j →
    found.testBit j = true

/-- One round keeps the invariant. -/
theorem Spreading.step (hf : Follows b f R) {fresh found : Nat} (hw : Within b found)
    (h : Spreading R fresh found) :
    Spreading R (f fresh ^^^ (f fresh &&& found))
      (found ||| (f fresh ^^^ (f fresh &&& found))) := by
  have hround := hf fresh fun i hi => hw i (h.fresh_found i hi)
  refine ⟨fun i hi => by rw [Nat.testBit_or, hi, Bool.or_true], fun i j hi hfresh hij => ?_⟩
  rw [Nat.testBit_or, hfresh, Bool.or_false] at hi
  rw [Nat.testBit_or, testBit_minus, Bool.or_eq_true, Bool.and_eq_true, Bool.not_eq_true']
  cases hj : found.testBit j with
  | true => exact .inl rfl
  | false =>
    refine .inr ⟨?_, rfl⟩
    cases hnew : fresh.testBit i with
    | true => exact (hround j).mpr ⟨i, hnew, hij⟩
    | false => rw [h.closed i j hi hnew hij] at hj; cases hj

/-- `spread` finds what up to `count` rounds lead to, by induction on the rounds that are left. -/
theorem spread_testBit (hf : Follows b f R) (hR : ∀ i j, i ≤ b → R i j → j ≤ b) (count : Nat) :
    ∀ fresh found, Spreading R fresh found → Within b found → ∀ j,
      (spread f count fresh found).testBit j = true ↔
        ∃ i n, found.testBit i = true ∧ n ≤ count ∧ Rounds R n i j := by
  induction count with
  | zero =>
    intro fresh found _ _ j
    simp only [spread, Nat.le_zero]
    exact ⟨fun h => ⟨j, 0, h, rfl, rfl⟩, fun ⟨i, n, hi, hn, hij⟩ => by subst hn; cases hij; exact hi⟩
  | succ count ih =>
    intro fresh found h hw j
    have hround := hf fresh fun i hi => hw i (h.fresh_found i hi)
    have hbit := testBit_minus (f fresh) found
    have hstep := h.step hf hw
    -- a step from what was found ends in what is found after this round
    have hnext : ∀ i k, found.testBit i = true → R i k →
        (found ||| (f fresh ^^^ (f fresh &&& found))).testBit k = true := by
      intro i k hi hik
      refine hstep.closed i k ?_ ?_ hik
      · rw [Nat.testBit_or, hi, Bool.true_or]
      · rw [hbit, hi, Bool.not_true, Bool.and_false]
    simp only [spread]
    split
    · next hnone =>
      rw [hnone, Nat.or_zero] at hnext
      constructor
      · exact fun hj => ⟨j, 0, hj, Nat.zero_le _, rfl⟩
      · rintro ⟨i, n, hi, -, hij⟩
        induction n generalizing i with
        | zero => cases hij; exact hi
        | succ n ihn =>
          obtain ⟨k, hik, hkj⟩ := hij
          exact ihn k (hnext i k hi hik) hkj
    · have hw' : Within b (found ||| (f fresh ^^^ (f fresh &&& found))) := by
        intro i hi
        rw [Nat.testBit_or, hbit, Bool.or_eq_true, Bool.and_eq_true] at hi
        rcases hi with hi | ⟨hi, -⟩
        · exact hw i hi
        · exact hf.within hR (s := fresh) (fun k hk => hw k (h.fresh_found k hk)) i hi
      rw [ih _ _ hstep hw' j]
      constructor
      · rintro ⟨i, n, hi, hn, hij⟩
        rw [Nat.testBit_or, hbit, Bool.or_eq_true, Bool.and_eq_true] at hi
        rcases hi with hi | ⟨hi, -⟩
        · exact ⟨i, n, hi, by omega, hij⟩
        · obtain ⟨i0, hi0, hstep0⟩ := (hround i).mp hi
          exact ⟨i0, n + 1, h.fresh_found i0 hi0, by omega, i, hstep0, hij⟩
      · rintro ⟨i, n, hi, hn, hij⟩
        cases n with
        | zero =>
          cases hij
          exact ⟨j, 0, by rw [Nat.testBit_or, hi, Bool.true_or], Nat.zero_le _, rfl⟩
        | succ n =>
          obtain ⟨k, hik, hkj⟩ := hij
          exact ⟨k, n, hnext i k hi hik, by omega, hkj⟩

theorem spreading_start (s : Nat) : Spreading R s s :=
  ⟨fun _ h => h, fun _ _ h hn _ => by rw [h] at hn; cases hn⟩

end Sets

theorem testBit_bits {α : Type} (test : α → Bool) (list : List α) (i : Nat) :
    (bits test list).testBit i = (list[i]?.map test).getD false := by
  induction list generalizing i with
  | nil => simp [bits]
  | cons a rest ih =>
    cases i with
    | zero => cases h : test a <;> simp [bits, h, Nat.testBit_zero]
    | succ i =>
      have hhalf : ((if test a then 1 else 0) + 2 * bits test rest) / 2 = bits test rest := by
        split <;> omega
      rw [bits, Nat.testBit_succ, hhalf, ih]
      rfl

theorem getElem?_positions (before : Option Char) (text : List Char) (i : Nat) :
    (positions before text)[i]? =
      if i ≤ text.length then some ⟨if i = 0 then before else text[i - 1]?, text[i]?⟩ else none := by
  induction text generalizing before i with
  | nil => cases i <;> simp [positions]
  | cons c cs ih =>
    cases i with
    | zero => simp [positions]
    | succ i =>
      rw [positions, List.getElem?_cons_succ, ih]
      cases i <;> simp

theorem testBit_step (set : CharSet) (text : List Char) (s j : Nat) :
    ((Expr.set set).plan text |>.reach s).testBit j = true ↔
      ∃ i, s.testBit i = true ∧ (Expr.set set).Spans text i j := by
  simp only [Expr.plan, Plan.reach, Expr.Spans, Nat.testBit_shiftLeft, Nat.testBit_and,
    testBit_bits, Bool.and_eq_true, decide_eq_true_eq]
  constructor
  · rintro ⟨hj, hs, hset⟩
    refine ⟨j - 1, hs, by omega, ?_⟩
    cases hc : text[j - 1]? with
    | none => simp [hc] at hset
    | some c => exact ⟨c, rfl, by simpa [hc] using hset⟩
  · rintro ⟨i, hs, rfl, c, hc, hset⟩
    simp [hs, hc, hset]

theorem testBit_stay (l : Look) (text : List Char) (s j : Nat) :
    ((Expr.look l).plan text |>.reach s).testBit j = true ↔
      ∃ i, s.testBit i = true ∧ (Expr.look l).Spans text i j := by
  simp only [Expr.plan, Plan.reach, Expr.Spans, Nat.testBit_and, testBit_bits,
    getElem?_positions, Bool.and_eq_true]
  constructor
  · rintro ⟨hs, hl⟩
    split at hl
    · next hle => exact ⟨j, hs, rfl, hle, hl⟩
    · cases hl
  · rintro ⟨i, hs, rfl, hle, hl⟩
    rw [if_pos hle]
    exact ⟨hs, hl⟩

/-- Extra rounds without a limit find what any number of rounds finds, and extra rounds up to a
limit what the limit allows. -/
theorem rounds_extra {b least extra i j : Nat} {greatest : Option Nat} {R : Nat → Nat → Prop}
    (hextra : extra = match greatest with | none => b + 1 | some most => most - least)
    (hordered : ∀ m, greatest = some m → least ≤ m)
    (hR : ∀ i j, i ≤ b → R i j → j ≤ b) (hi : i ≤ b) :
    (∃ k n, Rounds R least i k ∧ n ≤ extra ∧ Rounds R n k j) ↔
      ∃ n, least ≤ n ∧ (∀ m, greatest = some m → n ≤ m) ∧ Rounds R n i j := by
  constructor
  · rintro ⟨k, n, hleast, hn, hrest⟩
    refine ⟨least + n, Nat.le_add_right _ _, ?_, rounds_add.mpr ⟨k, hleast, hrest⟩⟩
    rintro m rfl
    have := hordered m rfl
    simp only at hextra
    omega
  · rintro ⟨n, hn, hmost, hrounds⟩
    obtain ⟨more, rfl⟩ := Nat.exists_eq_add_of_le hn
    obtain ⟨k, hleast, hrest⟩ := rounds_add.mp hrounds
    cases greatest with
    | none =>
      obtain ⟨m, hm, hshort⟩ := rounds_short hR (rounds_le hR hi hleast) hrest
      exact ⟨k, m, hleast, by simp only at hextra; omega, hshort⟩
    | some most =>
      have := hmost most rfl
      exact ⟨k, more, hleast, by simp only at hextra; omega, hrest⟩

/-- The plan of an expression follows its spans, by induction on the expression. -/
theorem Plan.reach_follows {text : List Char} {e : Expr} (h : e.Ordered) :
    Follows text.length (fun s => (e.plan text).reach s) (e.Spans text) := by
  induction e with
  | empty => intro s _ j; simp [Expr.plan, Plan.reach, Expr.Spans]
  | set set => intro s _ j; exact testBit_step set text s j
  | look l => intro s _ j; exact testBit_stay l text s j
  | cat left right ihl ihr =>
    intro s hs j
    have hmid := (ihl h.1).within (fun _ _ => Expr.spans_le) hs
    simp only [Expr.plan, Plan.reach, Expr.Spans]
    rw [ihr h.2 _ hmid j]
    constructor
    · rintro ⟨k, hk, hr⟩
      obtain ⟨i, hi, hl⟩ := (ihl h.1 s hs k).mp hk
      exact ⟨i, hi, k, hl, hr⟩
    · rintro ⟨i, hi, k, hl, hr⟩
      exact ⟨k, (ihl h.1 s hs k).mpr ⟨i, hi, hl⟩, hr⟩
  | alt left right ihl ihr =>
    intro s hs j
    have hl := ihl h.1 s hs j
    have hr := ihr h.2 s hs j
    simp only [Expr.plan, Plan.reach, Expr.Spans, Nat.testBit_or, Bool.or_eq_true]
    rw [hl, hr]
    constructor
    · rintro (⟨i, hi, hij⟩ | ⟨i, hi, hij⟩)
      · exact ⟨i, hi, .inl hij⟩
      · exact ⟨i, hi, .inr hij⟩
    · rintro ⟨i, hi, hij | hij⟩
      · exact .inl ⟨i, hi, hij⟩
      · exact .inr ⟨i, hi, hij⟩
  | repetition least greatest body ih =>
    intro s hs j
    have hbody := ih h.2
    have hle : ∀ i j, i ≤ text.length → body.Spans text i j → j ≤ text.length :=
      fun _ _ => Expr.spans_le
    have hstart := rounds_follows hbody hle least
    have hwithin := hstart.within (fun _ _ => rounds_le hle) hs
    have hextra := fun i hi => rounds_extra (j := j) rfl h.1 hle (hs i hi)
    simp only [Expr.plan, Plan.reach, Expr.Spans]
    rw [spread_testBit hbody hle _ _ _ (spreading_start _) hwithin j]
    constructor
    · rintro ⟨k, n, hk, hn, hrest⟩
      obtain ⟨i, hi, hik⟩ := (hstart s hs k).mp hk
      exact ⟨i, hi, (hextra i hi).mp ⟨k, n, hik, hn, hrest⟩⟩
    · rintro ⟨i, hi, hij⟩
      obtain ⟨k, n, hik, hn, hrest⟩ := (hextra i hi).mpr hij
      exact ⟨k, n, (hstart s hs k).mpr ⟨i, hi, hik⟩, hn, hrest⟩
  | capture body ih => exact ih h

/-- A text is matched iff the expression spans some part of it. -/
theorem Expr.isMatch_iff {e : Expr} (h : e.Ordered) (text : List Char) :
    e.isMatch text = true ↔ ∃ i j, i ≤ text.length ∧ e.Spans text i j := by
  have hall : ∀ i, (1 <<< (text.length + 1) - 1).testBit i = true ↔ i ≤ text.length := by
    intro i
    rw [Nat.one_shiftLeft, Nat.testBit_two_pow_sub_one, decide_eq_true_eq, Nat.lt_succ_iff]
  have hreach := Plan.reach_follows h (1 <<< (text.length + 1) - 1) fun i hi => (hall i).mp hi
  simp only [Expr.isMatch, bne_iff_ne]
  constructor
  · intro hne
    obtain ⟨j, hj⟩ := Nat.exists_testBit_of_ne_zero hne
    obtain ⟨i, hi, hij⟩ := (hreach j).mp hj
    exact ⟨i, j, (hall i).mp hi, hij⟩
  · rintro ⟨i, j, hi, hij⟩ hzero
    have hj := (hreach j).mpr ⟨i, (hall i).mpr hi, hij⟩
    simp [hzero] at hj

end Regex
end MeshTelemetry
