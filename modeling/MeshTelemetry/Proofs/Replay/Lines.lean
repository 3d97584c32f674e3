import MeshTelemetry.Feed
import MeshTelemetry.Metric.Codec
import MeshTelemetry.Proofs.Text.Encoding
import MeshTelemetry.Proofs.Text.Lines
import MeshTelemetry.Text.Blank
import MeshTelemetry.Text.Split

/-!
# MeshTelemetry.Proofs.Replay.Lines

Which lines a feed gives, and which records they hold. A feed is seen as the bytes that are still
to be read, whether they are pending or still in the file.

* `Feed.unread`: the bytes still to be read; `Feed.nextLine_unread`: how a line is taken from them.
* `Text.linesOf`: the lines of a text, with their line breaks; `recordsOf`: its records.
* `Feed.nextLine_lines`: the next line of a feed of text is the first one of the text.
-/

namespace MeshTelemetry

namespace Feed

/-- The bytes that are still to be read, as far as the store has them. -/
def unread (f : Feed) (s : Store) : Except IoFault Bytes := (f.refill s).map (·.pending)

theorem unread_ofBytes (bytes : Bytes) (s : Store) : (ofBytes bytes).unread s = .ok bytes := rfl

theorem unread_ofFile (loc : Location) (s : Store) : (ofFile loc).unread s = s.content loc := by
  simp only [unread, refill, ofFile]
  cases s.content loc <;> rfl

theorem unread_congr {f : Feed} {s s' : Store}
    (h : ∀ loc, f.origin = some loc → s'.content loc = s.content loc) :
    f.unread s' = f.unread s := by
  cases hf : f.origin with
  | none => simp only [unread, refill, hf]
  | some loc => simp only [unread, refill, hf, h loc hf]

theorem remaining_of_unread {f : Feed} {s : Store} {bytes : Bytes} (h : f.unread s = .ok bytes) :
    f.remaining s = bytes.length := by
  rw [unread] at h
  rw [remaining]
  cases hf : f.refill s with
  | error e => rw [hf] at h; cases h
  | ok f' => rw [hf] at h; cases h; rfl

theorem cutLine_cons (b : UInt8) (bytes : Bytes) :
    cutLine (b :: bytes) =
      if b = lineBreak then some ([b], bytes)
      else (cutLine bytes).map fun (line, rest) => (b :: line, rest) := by
  by_cases hb : b = lineBreak
  · simp [cutLine, hb]
  · simp only [cutLine, List.dropWhile_cons, List.takeWhile_cons, hb, ne_eq, not_false_eq_true,
      decide_true, if_true, if_false]
    cases bytes.dropWhile (· ≠ lineBreak) <;> rfl

theorem cutLine_append {bytes line rest : Bytes} (h : cutLine bytes = some (line, rest))
    (more : Bytes) : cutLine (bytes ++ more) = some (line, rest ++ more) := by
  induction bytes generalizing line with
  | nil => cases h
  | cons b bytes ih =>
    rw [cutLine_cons] at h
    rw [List.cons_append, cutLine_cons]
    split at h
    · next hb =>
      cases h
      rw [if_pos hb]
    · next hb =>
      obtain ⟨⟨l, r⟩, hcut, heq⟩ := Option.map_eq_some_iff.mp h
      cases heq
      rw [if_neg hb, ih hcut]
      rfl

/-- What comes first in the bytes, and what stands behind it: a line, or what has no line break. -/
def firstLine (bytes : Bytes) : Option (Bytes × Bytes) :=
  match cutLine bytes with
  | some cut => some cut
  | none => if bytes.isEmpty then none else some (bytes, [])

theorem unread_refilled {f f' : Feed} {s : Store} (h : f.refill s = .ok f') (pending : Bytes) :
    f'.origin = f.origin ∧ ({ f' with pending } : Feed).unread s = .ok pending := by
  cases hf : f.origin with
  | none =>
    simp only [refill, hf] at h
    cases h
    exact ⟨hf, by simp only [unread, refill, hf]; rfl⟩
  | some loc =>
    simp only [refill, hf] at h
    cases hc : s.content loc with
    | error e => rw [hc] at h; cases h
    | ok bytes =>
      rw [hc] at h
      cases h
      refine ⟨rfl, ?_⟩
      simp only [unread, refill, hc, List.drop_length, List.append_nil]
      rfl

/-- Taking a line from the pending bytes takes it from the unread ones. -/
theorem unread_cut {f : Feed} {s : Store} {bytes line rest : Bytes} (h : f.unread s = .ok bytes)
    (hcut : cutLine f.pending = some (line, rest)) :
    ∃ behind, cutLine bytes = some (line, behind) ∧
      ({ f with pending := rest } : Feed).unread s = .ok behind := by
  cases hf : f.origin with
  | none =>
    simp only [unread, refill, hf] at h ⊢
    cases h
    exact ⟨rest, hcut, rfl⟩
  | some loc =>
    simp only [unread, refill, hf] at h ⊢
    cases hc : s.content loc with
    | error e => rw [hc] at h; cases h
    | ok content =>
      rw [hc] at h
      cases h
      exact ⟨rest ++ content.drop f.seen, cutLine_append hcut _, rfl⟩

theorem nextLine_unread {f : Feed} {s : Store} {bytes : Bytes} (h : f.unread s = .ok bytes) :
    (firstLine bytes = none ∧ ∃ f', f.nextLine s = .ok (none, f')) ∨
      ∃ line rest f', firstLine bytes = some (line, rest) ∧ f.nextLine s = .ok (some line, f') ∧
        f'.origin = f.origin ∧ f'.unread s = .ok rest := by
  cases hp : cutLine f.pending with
  | some cut =>
    obtain ⟨line, rest⟩ := cut
    obtain ⟨behind, hcut, hunread⟩ := unread_cut h hp
    refine .inr ⟨line, behind, { f with pending := rest }, ?_, ?_, rfl, hunread⟩
    · rw [firstLine, hcut]
    · rw [nextLine, hp]
  | none =>
    cases hf : f.refill s with
    | error e => rw [unread, hf] at h; cases h
    | ok f' =>
      rw [unread, hf] at h
      cases h
      -- all bytes are pending now, and a second look finds the line or the end
      have hlater := unread_refilled hf
      cases hp' : cutLine f'.pending with
      | some cut =>
        obtain ⟨line, rest⟩ := cut
        refine .inr ⟨line, rest, { f' with pending := rest }, ?_, ?_, hlater rest⟩
        · rw [firstLine, hp']
        · simp only [nextLine, hp, hf, hp']
      | none =>
        by_cases hempty : f'.pending.isEmpty
        · refine .inl ⟨?_, f', ?_⟩
          · rw [firstLine, hp']
            exact if_pos hempty
          · simp only [nextLine, hp, hf, hp', lastLine, if_pos hempty]
        · refine .inr ⟨f'.pending, [], { f' with pending := [] }, ?_, ?_, hlater []⟩
          · rw [firstLine, hp']
            exact if_neg hempty
          · simp only [nextLine, hp, hf, hp', lastLine, if_neg hempty]

end Feed

namespace Text

theorem splitAt_cut (sep : Char) (cs : List Char) :
    splitAt sep cs =
      match cut? sep cs with
      | none => [cs]
      | some (before, behind) => before :: splitAt sep behind := by
  induction cs with
  | nil => rfl
  | cons c cs ih =>
    by_cases hc : c = sep
    · simp only [splitAt, cut?, if_pos hc]
    · simp only [splitAt, cut?, if_neg hc, ih]
      cases cut? sep cs with
      | none => rfl
      | some cut => rfl

theorem cut?_length {sep : Char} {cs before behind : List Char}
    (h : cut? sep cs = some (before, behind)) : behind.length < cs.length := by
  induction cs generalizing before with
  | nil => cases h
  | cons c cs ih =>
    simp only [cut?] at h
    split at h
    · cases h
      exact Nat.lt_succ_self _
    · obtain ⟨⟨b, r⟩, hcut, heq⟩ := Option.map_eq_some_iff.mp h
      cases heq
      exact Nat.lt_succ_of_lt (ih hcut)

/-- The lines of a text, each with the line break that ends it; the last one may have none. -/
def linesOf (cs : List Char) : List (List Char) := linesBy '\n' cs

theorem linesOf_cut (cs : List Char) :
    linesOf cs =
      match cut? '\n' cs with
      | none => if cs.isEmpty then [] else [cs]
      | some (before, behind) => (before ++ ['\n']) :: linesOf behind := by
  simp only [linesOf]
  induction cs with
  | nil => rfl
  | cons c cs ih =>
    by_cases hc : c = '\n'
    · simp [linesBy, cut?, hc]
    · simp only [linesBy, cut?, if_neg hc, ih]
      cases cut? '\n' cs with
      | none => cases cs <;> simp
      | some cut => simp

/-- A blank character at its end does not change what a line is trimmed to. -/
theorem trim_blankEnd {c : Char} (hblank : isBlank c = true) (cs : List Char) :
    trim (cs ++ [c]) = trim cs := by
  simp only [trim, trimStart, List.dropWhile_append]
  split
  · next hempty => simp [List.isEmpty_iff.mp hempty, hblank]
  · simp [trimEnd, hblank]

theorem trim_lineBreak (cs : List Char) : trim (cs ++ ['\n']) = trim cs :=
  trim_blankEnd (by decide) cs

end Text

namespace Feed

theorem cutLine_unbroken {bytes : Bytes} (h : lineBreak ∉ bytes) (more : Bytes) :
    cutLine (bytes ++ more) = (cutLine more).map fun (line, rest) => (bytes ++ line, rest) := by
  induction bytes with
  | nil => cases hc : cutLine more <;> simp [hc]
  | cons b bytes ih =>
    simp only [List.mem_cons, not_or] at h
    rw [List.cons_append, cutLine_cons, if_neg (Ne.symm h.1), ih h.2, Option.map_map]
    rfl

/-- A text is cut at its first line break where its bytes are. -/
theorem cutLine_encode (cs : List Char) :
    cutLine (Text.encode (String.ofList cs)) =
      (Text.cut? '\n' cs).map fun (before, behind) =>
        (Text.encode (String.ofList (before ++ ['\n'])), Text.encode (String.ofList behind)) := by
  simp only [Text.encode_ofList]
  induction cs with
  | nil => rfl
  | cons c cs ih =>
    by_cases hc : c = '\n'
    · subst hc
      simp only [Text.cut?, if_true, Option.map_some, List.flatMap_cons]
      rfl
    · have hbytes : lineBreak ∉ String.utf8EncodeChar c :=
        fun h => hc (Text.lineBreak_mem_encodeChar.mp h)
      rw [List.flatMap_cons, cutLine_unbroken hbytes, ih]
      simp only [Text.cut?, if_neg hc, Option.map_map]
      congr 1

end Feed

/-- The record that a line holds, if it holds one. -/
def recordOf? (line : List Char) : Option Metric :=
  let record := Text.trim line
  if record.isEmpty then none else (Metric.decode (String.ofList record)).toOption

/-- The records of a text in the order of their lines. -/
def recordsOf (text : List Char) : List Metric := (Text.splitAt '\n' text).filterMap recordOf?

theorem recordOf?_lineBreak (line : List Char) : recordOf? (line ++ ['\n']) = recordOf? line := by
  simp only [recordOf?, Text.trim_lineBreak]

theorem recordsOf_nil : recordsOf [] = [] := by
  simp [recordsOf, Text.splitAt, recordOf?, Text.trim, Text.trimStart, Text.trimEnd]

theorem recordsOf_cut (cs : List Char) :
    recordsOf cs =
      match Text.cut? '\n' cs with
      | none => (recordOf? cs).toList
      | some (before, behind) => (recordOf? before).toList ++ recordsOf behind := by
  simp only [recordsOf]
  rw [Text.splitAt_cut]
  cases Text.cut? '\n' cs with
  | none => cases h : recordOf? cs <;> simp [h]
  | some cut =>
    obtain ⟨before, behind⟩ := cut
    cases h : recordOf? before <;> simp [h]

theorem recordsOf_lines (cs : List Char) :
    recordsOf cs = (Text.linesOf cs).filterMap recordOf? := by
  rw [recordsOf_cut, Text.linesOf_cut]
  cases hcut : Text.cut? '\n' cs with
  | none =>
    cases cs with
    | nil => simp [recordOf?, Text.trim, Text.trimStart, Text.trimEnd]
    | cons c cs => cases h : recordOf? (c :: cs) <;> simp [h]
  | some cut =>
    obtain ⟨before, behind⟩ := cut
    have ih := recordsOf_lines behind
    cases h : recordOf? before <;> simp [h, recordOf?_lineBreak, ih]
termination_by cs.length
decreasing_by exact Text.cut?_length hcut

theorem recordsOf_cons {cs line rest : List Char}
    (h : Text.linesOf cs = line :: Text.linesOf rest) :
    recordsOf cs = (recordOf? line).toList ++ recordsOf rest := by
  rw [recordsOf_lines, recordsOf_lines, h]
  cases hline : recordOf? line <;> simp [hline]

namespace Feed

/-- What a feed gives of a text: its first line, and then the text behind it. -/
theorem nextLine_lines {f : Feed} {s : Store} {cs : List Char}
    (h : f.unread s = .ok (Text.encode (String.ofList cs))) :
    (cs = [] ∧ ∃ f', f.nextLine s = .ok (none, f')) ∨
      ∃ line rest f', f.nextLine s = .ok (some (Text.encode (String.ofList line)), f') ∧
        f'.origin = f.origin ∧ f'.unread s = .ok (Text.encode (String.ofList rest)) ∧
        rest.length < cs.length ∧ Text.linesOf cs = line :: Text.linesOf rest := by
  have hnext := nextLine_unread h
  rw [firstLine, cutLine_encode] at hnext
  rw [Text.linesOf_cut]
  cases hcut : Text.cut? '\n' cs with
  | some cut =>
    obtain ⟨before, behind⟩ := cut
    rw [hcut] at hnext
    rcases hnext with ⟨hnone, -⟩ | ⟨line, rest, f', hline, hf, horigin, hunread⟩
    · cases hnone
    · cases hline
      exact .inr ⟨_, behind, f', hf, horigin, hunread, Text.cut?_length hcut, rfl⟩
  | none =>
    rw [hcut] at hnext
    cases cs with
    | nil =>
      rcases hnext with ⟨-, f', hf⟩ | ⟨line, rest, f', hline, -⟩
      · exact .inl ⟨rfl, f', hf⟩
      · cases hline
    | cons c cs =>
      have hne : ¬ (Text.encode (String.ofList (c :: cs))).isEmpty := by
        rw [Text.encode_ofList, List.flatMap_cons, List.isEmpty_iff, List.append_eq_nil_iff]
        intro hnil
        have hpos := Text.length_encodeChar_pos c
        rw [hnil.1] at hpos
        cases hpos
      simp only [Option.map_none, if_neg hne] at hnext
      rcases hnext with ⟨hnone, -⟩ | ⟨line, rest, f', hline, hf, horigin, hunread⟩
      · cases hnone
      · cases hline
        exact .inr ⟨c :: cs, [], f', hf, horigin, hunread, Nat.succ_pos _, rfl⟩

end Feed
end MeshTelemetry
