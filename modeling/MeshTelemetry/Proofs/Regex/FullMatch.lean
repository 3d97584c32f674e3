import MeshTelemetry.Proofs.Regex.Matching
import MeshTelemetry.Proofs.Regex.Ordered
import MeshTelemetry.Proofs.Regex.Wrapping
import Mathlib.Control.Monad.Basic

/-!
# MeshTelemetry.Proofs.Regex.FullMatch

What the regular expressions of naming rules match.

* `Expr.whole`: an expression between the start and the end of a text.
* `compile_anchored`: a wrapped text is compiled to the expression of the text alone, `whole`.
* `compileFullMatch_spans`: a rule matches the texts that its pattern matches as a whole, unless
  the wrapped pattern is too big.
* `compileFullMatch_valid`: a rule has a valid pattern, unless the pattern closes a group that it
  never opened.
-/

namespace MeshTelemetry
namespace Regex

/-- An expression between the start and the end of a text. -/
def Expr.whole (e : Expr) : Expr :=
  .cat (.look .textStart) (.cat e (.cat (.look .textEnd) .empty))

theorem Expr.whole_spans {text : List Char} {e : Expr} :
    (∃ i j, i ≤ text.length ∧ e.whole.Spans text i j) ↔ e.Spans text 0 text.length := by
  constructor
  · rintro ⟨i, j, -, k, ⟨rfl, hi, hstart⟩, l, he, l', ⟨rfl, hl, hend⟩, rfl⟩
    have hi0 : i = 0 := by
      by_contra hne
      simp only [Look.holds, Neighbours.at, if_neg hne, Option.isNone_iff_eq_none,
        List.getElem?_eq_none_iff] at hstart
      omega
    have hl0 : l = text.length := by
      simp only [Look.holds, Neighbours.at, Option.isNone_iff_eq_none,
        List.getElem?_eq_none_iff] at hend
      omega
    subst hi0 hl0
    exact he
  · intro he
    refine ⟨0, text.length, Nat.zero_le _, 0, ⟨rfl, Nat.zero_le _, rfl⟩, text.length, he,
      text.length, ⟨rfl, Nat.le_refl _, ?_⟩, rfl⟩
    simp [Look.holds, Neighbours.at]

theorem Expr.isMatch_whole {e : Expr} (h : e.Ordered) (text : String) :
    e.whole.isMatch text.toList = true ↔ e.SpansAll text :=
  (Expr.isMatch_iff (e := e.whole) ⟨trivial, h, trivial, trivial⟩ text.toList).trans
    Expr.whole_spans

theorem ofPattern_wrapped (p : Pattern) :
    Expr.ofPattern (Pattern.wrapped p) = (Expr.ofPattern p).map Expr.whole := by
  have hflags : Flags.initial.changeAll [] = Flags.initial := rfl
  simp only [Expr.ofPattern, Pattern.wrapped, Expr.translate, Expr.translateParts, hflags]
  cases Expr.translate Flags.initial p <;> rfl

theorem depth_wrapped (p : Pattern) : (Pattern.wrapped p).depth = p.depth + 2 := by
  simp only [Pattern.wrapped, Pattern.depth, Pattern.depths]
  omega

theorem parse_ok {text : String} {p : Pattern} :
    Pattern.parse text = .ok p ↔ Pattern.tree text = .ok p ∧ p.depth ≤ Pattern.depthLimit := by
  rw [Pattern.parse_eq]
  cases Pattern.tree text with
  | error e => exact ⟨nofun, nofun⟩
  | ok q =>
    simp only [Except.bind]
    split
    · next hle =>
      constructor
      · rintro ⟨⟩
        exact ⟨rfl, hle⟩
      · rintro ⟨⟨⟩, -⟩
        rfl
    · next hle =>
      constructor
      · nofun
      · rintro ⟨⟨⟩, h⟩
        exact absurd h hle

theorem exprOf_ok {text : String} {e : Expr} :
    exprOf text = .ok e ↔ ∃ p, Pattern.parse text = .ok p ∧ Expr.ofPattern p = .ok e := by
  rw [exprOf]
  cases Pattern.parse text with
  | error e' => exact ⟨nofun, nofun⟩
  | ok p => exact ⟨fun h => ⟨p, rfl, h⟩, by rintro ⟨_, ⟨⟩, h⟩; exact h⟩

theorem exprOf_ordered {text : String} {e : Expr} (h : exprOf text = .ok e) : e.Ordered := by
  obtain ⟨p, hp, he⟩ := exprOf_ok.mp h
  rw [Expr.ofPattern] at he
  cases htranslate : Expr.translate Flags.initial p with
  | error e' => rw [htranslate] at he; cases he
  | ok r =>
    rw [htranslate] at he
    cases he
    exact Expr.translate_ordered (Pattern.parse_ordered hp) htranslate

theorem compile_ok {text : String} {r : Regex} (h : compile text = .ok r) :
    exprOf text = .ok r.expr := by
  unfold compile at h
  split at h
  · cases h
  · next e he =>
    split at h <;> cases h
    exact he

/-- A wrapped text is compiled to the expression of the text alone, between the start and the end,
unless the text closes a group that it never opened. -/
theorem compile_anchored {text : String} {r : Regex} (h : compile (anchored text) = .ok r) :
    Pattern.tree text = .error .groupUnopened ∨
      ∃ p e, Pattern.tree text = .ok p ∧ p.depth + 2 ≤ Pattern.depthLimit ∧
        Expr.ofPattern p = .ok e ∧ r.expr = e.whole := by
  obtain ⟨q, hq, he⟩ := exprOf_ok.mp (compile_ok h)
  obtain ⟨htree, hdepth⟩ := parse_ok.mp hq
  rcases Pattern.tree_wrapped htree with hopen | ⟨p, hp, rfl⟩
  · exact .inl hopen
  · right
    rw [depth_wrapped] at hdepth
    rw [ofPattern_wrapped] at he
    cases hpattern : Expr.ofPattern p with
    | error e' => rw [hpattern] at he; cases he
    | ok e =>
      rw [hpattern] at he
      exact ⟨p, e, hp, hdepth, hpattern, (Except.ok.inj he).symm⟩

theorem exprOf_of_tree {text : String} {p : Pattern} {e : Expr} (h : Pattern.tree text = .ok p)
    (hdepth : p.depth + 2 ≤ Pattern.depthLimit) (he : Expr.ofPattern p = .ok e) :
    exprOf text = .ok e :=
  exprOf_ok.mpr ⟨p, parse_ok.mpr ⟨h, by omega⟩, he⟩

theorem isMatch_anchored {r : Regex} {e : Expr} (he : e.Ordered) (hr : r.expr = e.whole)
    (s : String) : r.isMatch s = true ↔ e.SpansAll s := by
  rw [isMatch, hr]
  exact Expr.isMatch_whole he s

theorem tree_of_exprOf {text : String} {e : Expr} (h : exprOf text = .ok e) :
    ∃ p, Pattern.tree text = .ok p ∧ p.depth ≤ Pattern.depthLimit ∧ Expr.ofPattern p = .ok e := by
  obtain ⟨p, hp, he⟩ := exprOf_ok.mp h
  obtain ⟨htree, hdepth⟩ := parse_ok.mp hp
  exact ⟨p, htree, hdepth, he⟩

theorem tree_ne_unopened {text : String} {p : Pattern} (h : Pattern.tree text = .ok p) :
    Pattern.tree text ≠ .error .groupUnopened := by
  rw [h]
  nofun

theorem tree_ne_of_parse {text : String} (h : Pattern.parse text ≠ .error .groupUnopened) :
    Pattern.tree text ≠ .error .groupUnopened := by
  intro hopen
  rw [Pattern.parse_eq, hopen] at h
  exact h rfl

/-- With a line break behind it, a pattern means the same, or it is also one in the group. -/
theorem exprOf_newline {text : String} {e e' : Expr} {q : Pattern} (he : exprOf text = .ok e)
    (hq : Pattern.tree (text ++ "\n") = .ok q) (hdepth : q.depth + 2 ≤ Pattern.depthLimit)
    (he' : Expr.ofPattern q = .ok e') : e' = e ∨ exprOf (anchored text) = .ok e.whole := by
  obtain ⟨p, hp, hle, hpe⟩ := tree_of_exprOf he
  rcases Pattern.tree_newline hp with heq | ⟨hanchored, q', hq', hpq⟩
  · rw [heq] at hq
    cases hq
    rw [hpe] at he'
    exact .inl (Except.ok.inj he').symm
  · right
    rw [hq] at hq'
    cases hq'
    refine exprOf_ok.mpr ⟨Pattern.wrapped p, parse_ok.mpr ⟨hanchored, ?_⟩, ?_⟩
    · rw [depth_wrapped]
      omega
    · rw [ofPattern_wrapped, hpe]
      rfl

theorem compile_error {text : String} {e : Expr} {err : RegexError} (he : exprOf text = .ok e)
    (h : compile text = .error err) : err = .tooBig := by
  rw [compile, he] at h
  simp only at h
  split at h <;> cases h
  rfl

/-- The two ways in which a rule is compiled: from the wrapped pattern, or, if that fails, from the
wrapped pattern with a line break behind it. -/
theorem compileFullMatch_cases {pattern : String} {r : Regex}
    (h : compileFullMatch pattern = .ok r) :
    compile (anchored pattern) = .ok r ∨
      ∃ err r', compile (anchored pattern) = .error err ∧ compile pattern = .ok r' ∧
        compile (anchored (pattern ++ "\n")) = .ok r := by
  unfold compileFullMatch at h
  split at h
  · next hr => cases h; exact .inl hr
  · next err herr =>
    split at h
    · cases h
    · next r' hr' => exact .inr ⟨err, r', herr, hr', h⟩

theorem compile_anchored_spans {text : String} {r : Regex} (h : compile (anchored text) = .ok r)
    (hne : Pattern.tree text ≠ .error .groupUnopened) :
    ∃ e, exprOf text = .ok e ∧ ∀ s, r.isMatch s = true ↔ e.SpansAll s := by
  rcases compile_anchored h with hopen | ⟨p, e, hp, hdepth, hpe, hwhole⟩
  · exact absurd hopen hne
  · have he := exprOf_of_tree hp hdepth hpe
    exact ⟨e, he, isMatch_anchored (exprOf_ordered he) hwhole⟩

/-- With a line break behind it, a pattern still closes only groups that it opened. -/
theorem tree_newline_ne {text : String} {p : Pattern} (h : Pattern.tree text = .ok p) :
    Pattern.tree (text ++ "\n") ≠ .error .groupUnopened := by
  rcases Pattern.tree_newline h with heq | ⟨-, q, hq, -⟩
  · exact tree_ne_unopened heq
  · exact tree_ne_unopened hq

/-- A rule matches the texts that its pattern matches as a whole, if the pattern only closes groups
that it opened and the wrapped pattern is not too big. -/
theorem compileFullMatch_sound {pattern : String} {r : Regex}
    (h : compileFullMatch pattern = .ok r) (hne : Pattern.tree pattern ≠ .error .groupUnopened)
    (hsize : compile (anchored pattern) ≠ .error .tooBig) :
    ∃ e, exprOf pattern = .ok e ∧ ∀ s, r.isMatch s = true ↔ e.SpansAll s := by
  rcases compileFullMatch_cases h with hr | ⟨err, r', herr, hr', hr⟩
  · exact compile_anchored_spans hr hne
  · have he := compile_ok hr'
    obtain ⟨p, hp, -⟩ := tree_of_exprOf he
    rcases compile_anchored hr with hopen | ⟨q, e', hq, hdepth, hqe, hwhole⟩
    · exact absurd hopen (tree_newline_ne hp)
    · rcases exprOf_newline he hq hdepth hqe with rfl | hanchored
      · exact ⟨_, he, isMatch_anchored (exprOf_ordered he) hwhole⟩
      · -- the wrapped pattern is an expression, so that only its size can be at fault
        rw [compile_error hanchored herr] at herr
        exact absurd herr hsize

/-- A rule matches exactly the texts that its pattern matches as a whole, unless the wrapped
pattern is too big. Then it matches those that the pattern matches with a line break behind it. -/
theorem compileFullMatch_spans {pattern : String} {e : Expr} {r : Regex}
    (he : exprOf pattern = .ok e) (h : compileFullMatch pattern = .ok r) :
    (compile (anchored pattern) ≠ .error .tooBig → ∀ s, r.isMatch s = true ↔ e.SpansAll s) ∧
      (compile (anchored pattern) = .error .tooBig →
        ∃ e', exprOf (pattern ++ "\n") = .ok e' ∧ ∀ s, r.isMatch s = true ↔ e'.SpansAll s) := by
  obtain ⟨p, hp, -⟩ := tree_of_exprOf he
  constructor
  · intro hsize
    obtain ⟨e', he', hmatch⟩ := compileFullMatch_sound h (tree_ne_unopened hp) hsize
    rw [he] at he'
    cases he'
    exact hmatch
  · intro hbig
    rcases compileFullMatch_cases h with hr | ⟨err, r', -, -, hr⟩
    · rw [hr] at hbig
      cases hbig
    · exact compile_anchored_spans hr (tree_newline_ne hp)

/-- The expression of one character after the other. -/
def word (cs : List Char) : Expr := cs.foldr (fun c e => .cat (.set (CharSet.single c)) e) .empty

/-- The line break behind a comment belongs to the comment. -/
theorem compileFullMatch_spans_comment :
    exprOf "(?x)a # c" = .ok (.cat .empty (word ['a'])) ∧
      compileFullMatch "(?x)a # c" =
        .ok ⟨anchored "(?x)a # c\n", Expr.whole (.cat .empty (word ['a']))⟩ ∧
      compile (anchored "(?x)a # c") = .error (.invalid .groupUnclosed) ∧
      ∀ s, isMatch ⟨anchored "(?x)a # c\n", Expr.whole (.cat .empty (word ['a']))⟩ s = true ↔
        (Expr.cat .empty (word ['a'])).SpansAll s := by
  have he : exprOf "(?x)a # c" = .ok (.cat .empty (word ['a'])) := by decide +kernel
  have hr : compileFullMatch "(?x)a # c" =
      .ok ⟨anchored "(?x)a # c\n", Expr.whole (.cat .empty (word ['a']))⟩ := by decide +kernel
  have hanchored : compile (anchored "(?x)a # c") = .error (.invalid .groupUnclosed) := by
    decide +kernel
  exact ⟨he, hr, hanchored, (compileFullMatch_spans he hr).1 (by rw [hanchored]; nofun)⟩

/-- More than a hundred and sixty thousand letters, or none, at the start of a text. -/
def crowd : String := "(?:^(?:(?:a{1000}){163}a{828}a+)?)+"

def crowdExpr : Expr :=
  let letter := Expr.set (CharSet.single 'a')
  .repetition 1 none (.cat (.look .textStart) (.cat (.repetition 0 (some 1)
    (.cat (.repetition 163 (some 163) (.repetition 1000 (some 1000) letter))
      (.cat (.repetition 828 (some 828) letter)
        (.cat (.repetition 1 none letter) .empty)))) .empty))

/-- Two crowds are just small enough without the group. With a line break behind the second, both
branches begin alike, and there is only one crowd to compile: the rule is compiled, and it demands
the line break. -/
theorem compileFullMatch_demands_newline :
    ∃ e r, exprOf (crowd ++ "bcd|" ++ crowd) = .ok e ∧
      compileFullMatch (crowd ++ "bcd|" ++ crowd) = .ok r ∧
      e.SpansAll "" ∧ ¬ r.isMatch "" = true ∧ r.isMatch "\n" = true ∧ ¬ e.SpansAll "\n" := by
  have he : exprOf (crowd ++ "bcd|" ++ crowd) =
      .ok (.alt (.cat crowdExpr (word ['b', 'c', 'd'])) (.alt crowdExpr (.set []))) := by
    decide +kernel
  have hr : compileFullMatch (crowd ++ "bcd|" ++ crowd) =
      .ok ⟨anchored (crowd ++ "bcd|" ++ crowd ++ "\n"), Expr.whole
        (.alt (.cat crowdExpr (word ['b', 'c', 'd']))
          (.alt (.cat crowdExpr (word ['\n'])) (.set [])))⟩ := by
    decide +kernel
  have hspans := Expr.isMatch_whole (exprOf_ordered he)
  refine ⟨_, _, he, hr, (hspans "").mp (by decide +kernel), by decide +kernel, by decide +kernel,
    fun h => ?_⟩
  have hmatch := (hspans "\n").mpr h
  revert hmatch
  decide +kernel

/-- A rule has a pattern that is valid by itself, and matches whole texts only, unless the pattern
closes a group that it never opened. -/
theorem compileFullMatch_valid {pattern : String} {r : Regex}
    (h : compileFullMatch pattern = .ok r) :
    ((∃ e, exprOf pattern = .ok e) ↔ Pattern.parse pattern ≠ .error .groupUnopened) ∧
      (Pattern.parse pattern ≠ .error .groupUnopened →
        ∃ text e, (text = pattern ∨ text = pattern ++ "\n") ∧ exprOf text = .ok e ∧
          ∀ s, r.isMatch s = true ↔ e.SpansAll s) := by
  have hspans : Pattern.parse pattern ≠ .error .groupUnopened →
      ∃ text e, (text = pattern ∨ text = pattern ++ "\n") ∧ exprOf text = .ok e ∧
        ∀ s, r.isMatch s = true ↔ e.SpansAll s := by
    intro hne
    rcases compileFullMatch_cases h with hr | ⟨err, r', -, hr', hr⟩
    · obtain ⟨e, he, hmatch⟩ := compile_anchored_spans hr (tree_ne_of_parse hne)
      exact ⟨_, e, .inl rfl, he, hmatch⟩
    · obtain ⟨p, hp, -⟩ := tree_of_exprOf (compile_ok hr')
      obtain ⟨e, he, hmatch⟩ := compile_anchored_spans hr (tree_newline_ne hp)
      exact ⟨_, e, .inr rfl, he, hmatch⟩
  refine ⟨⟨?_, fun hne => ?_⟩, hspans⟩
  · rintro ⟨e, he⟩ hopen
    rw [exprOf, hopen] at he
    cases he
  · rcases compileFullMatch_cases h with hr | ⟨err, r', -, hr', -⟩
    · obtain ⟨e, he, -⟩ := compile_anchored_spans hr (tree_ne_of_parse hne)
      exact ⟨e, he⟩
    · exact ⟨r'.expr, compile_ok hr'⟩

theorem compileFullMatch_valid_choice :
    compileFullMatch "a|ab" =
        .ok ⟨anchored "a|ab", Expr.whole (.alt (.set (CharSet.single 'a'))
          (.alt (word ['a', 'b']) (.set [])))⟩ ∧
      Pattern.parse "a|ab" ≠ .error .groupUnopened ∧ ∃ e, exprOf "a|ab" = .ok e := by
  have hr : compileFullMatch "a|ab" =
      .ok ⟨anchored "a|ab", Expr.whole (.alt (.set (CharSet.single 'a'))
        (.alt (word ['a', 'b']) (.set [])))⟩ := by decide +kernel
  have he : exprOf "a|ab" = .ok (.alt (.set (CharSet.single 'a'))
      (.alt (word ['a', 'b']) (.set []))) := by decide +kernel
  exact ⟨hr, (compileFullMatch_valid hr).1.mp ⟨_, he⟩, _, he⟩

/-- The group is closed and another one opened: the rule is anchored on one side only. -/
theorem compileFullMatch_unopened :
    exprOf "a)|(?:b" = .error .groupUnopened ∧
      ∃ r, compileFullMatch "a)|(?:b" = .ok r ∧ r.isMatch "ax" = true := by
  refine ⟨by decide +kernel, ⟨anchored "a)|(?:b",
    .alt (.cat (.look .textStart) (.cat (.set (CharSet.single 'a')) .empty))
      (.alt (.cat (.set (CharSet.single 'b')) (.cat (.look .textEnd) .empty)) (.set []))⟩, ?_, ?_⟩
  · decide +kernel
  · decide +kernel

end Regex
end MeshTelemetry
