import MeshTelemetry.Receiver.Buffered

/-!
# MeshTelemetry.Proofs.Receiver.Buffer

What a buffer does to the bytes that go through it: nothing. At any time the bytes that the device
took, with those that are pending behind them, are the bytes that were written, as long as the
device tells what it has taken of bytes that it refused.

* `Faithful`: a device that takes all bytes when it succeeds, and tells how many it took when it
  fails.
* `Buffered.Keeps`: the invariant of one operation.
* `Buffered.write_keeps`, `Buffered.writeAll_keeps`, `Buffered.flush_keeps`.
* `Buffered.writeAll_long`: what is pending behind bytes that are as long as the whole buffer;
  `Buffered.writeAll_dropped`: nothing, if these are refused.
-/

namespace MeshTelemetry

/-- `taken bytes s`: in state `s` the device has taken `bytes`. -/
def Faithful {σ ε : Type} (device : Device σ ε) (taken : Bytes → σ → Prop) : Prop :=
  ∀ bytes sent s, taken sent s →
    match device bytes s with
    | (.ok (), s') => taken (sent ++ bytes) s'
    | (.error (_, written), s') => taken (sent ++ bytes.take written) s'

/-- A device that never fails. -/
def Accepting {σ ε : Type} (device : Device σ ε) (taken : Bytes → σ → Prop) : Prop :=
  ∀ bytes sent s, taken sent s → (device bytes s).1 = .ok ()

namespace Buffered

variable {σ ε : Type} {device : Device σ ε} {taken : Bytes → σ → Prop}

/-- What an operation leaves: of `bytes`, everything if it succeeded and a `part` at the front if it
failed was added to the `total` of the bytes that are taken or pending. Only bytes as long as the
whole buffer are taken in part. -/
def Keeps (taken : Bytes → σ → Prop) (total bytes : Bytes) (r : Except ε Unit × Buffered × σ) :
    Prop :=
  ∃ sent part, taken sent r.2.2 ∧ sent ++ r.2.1.pending.toList = total ++ part ∧
    match r.1 with
    | .ok () => part = bytes
    | .error _ => part <+: bytes ∧ (bytes.length < capacity → part = [])

theorem flush_keeps (hd : Faithful device taken) {sent : Bytes} {s : σ} (hs : taken sent s)
    (b : Buffered) : Keeps taken (sent ++ b.pending.toList) [] (b.flush device s) := by
  unfold flush
  split
  · exact ⟨sent, [], hs, by simp, rfl⟩
  · have hdev := hd b.pending.toList sent s hs
    rcases hr : device b.pending.toList s with ⟨⟨e, written⟩ | u, s'⟩
    · rw [hr] at hdev
      refine ⟨_, [], hdev, ?_, List.nil_prefix, fun _ => rfl⟩
      simp only [List.append_assoc, List.take_append_drop, List.append_nil]
    · rw [hr] at hdev
      exact ⟨_, [], hdev, by simp [empty], rfl⟩

theorem flush_empty {b b' : Buffered} {s s' : σ} (h : b.flush device s = (.ok (), b', s')) :
    b' = empty := by
  unfold flush at h
  split at h
  · next hempty =>
    cases h
    obtain ⟨pending⟩ := b
    exact congrArg Buffered.mk (Array.isEmpty_iff.mp hempty)
  · split at h
    · cases h
    · cases h
      rfl

theorem place_keeps (hd : Faithful device taken) {sent : Bytes} {s : σ} (hs : taken sent s)
    (b : Buffered) (bytes : Bytes) (hroom : capacity ≤ bytes.length → b.pending = #[]) :
    Keeps taken (sent ++ b.pending.toList) bytes (b.place device bytes s) := by
  unfold place
  split
  · next hlong =>
    have hdev := hd bytes sent s hs
    rcases hr : device bytes s with ⟨⟨e, written⟩ | u, s'⟩
    · rw [hr] at hdev
      refine ⟨_, bytes.take written, hdev, by simp [hroom hlong], List.take_prefix _ _, fun h => ?_⟩
      exact absurd hlong (Nat.not_le_of_lt h)
    · rw [hr] at hdev
      exact ⟨_, bytes, hdev, by simp [hroom hlong], rfl⟩
  · exact ⟨sent, bytes, hs, by simp [keep], rfl⟩

theorem write_keeps (hd : Faithful device taken) {sent : Bytes} {s : σ} (hs : taken sent s)
    (b : Buffered) (bytes : Bytes) :
    Keeps taken (sent ++ b.pending.toList) bytes (b.write device bytes s) := by
  unfold write
  split
  · exact ⟨sent, bytes, hs, by simp [keep], rfl⟩
  · next hsmall =>
    split
    · have hflush := flush_keeps hd hs b
      rcases hr : b.flush device s with ⟨o, b', s'⟩
      rw [hr] at hflush
      obtain ⟨sent', part, htaken, htotal, hpart⟩ := hflush
      cases o with
      | error e =>
        obtain rfl := List.prefix_nil.mp hpart.1
        exact ⟨sent', [], htaken, htotal, List.nil_prefix, fun _ => rfl⟩
      | ok u =>
        obtain rfl : part = [] := hpart
        have hb := flush_empty hr
        subst hb
        have hplace := place_keeps hd htaken empty bytes fun _ => rfl
        simp only [htotal, List.append_nil] at hplace
        exact hplace
    · -- as long as what is spare: the bytes go past the buffer only if nothing is pending
      refine place_keeps hd hs b bytes fun hlong => ?_
      have hsize : b.pending.size = 0 := by
        rw [spare] at *
        have hcap : 0 < capacity := by decide
        omega
      exact Array.eq_empty_of_size_eq_zero hsize

/-- The pieces up to the first that fails are kept, and perhaps a part of this one. -/
theorem writeAll_keeps (hd : Faithful device taken) (pieces : List Bytes) :
    ∀ {sent : Bytes} {s : σ} (b : Buffered), taken sent s →
      ∃ kept sent', kept <+: pieces.flatten ∧ taken sent' (b.writeAll device pieces s).2.2 ∧
        sent' ++ (b.writeAll device pieces s).2.1.pending.toList =
          sent ++ b.pending.toList ++ kept ∧
        ((b.writeAll device pieces s).1 = .ok () → kept = pieces.flatten) := by
  induction pieces with
  | nil =>
    intro sent s b hs
    exact ⟨[], sent, List.nil_prefix, hs, by simp [writeAll], fun _ => rfl⟩
  | cons bytes pieces ih =>
    intro sent s b hs
    have hwrite := write_keeps hd hs b bytes
    rw [writeAll, List.flatten_cons]
    rcases hr : b.write device bytes s with ⟨o, b', s'⟩
    rw [hr] at hwrite
    obtain ⟨sent', part, htaken, htotal, hpart⟩ := hwrite
    cases o with
    | error e =>
      exact ⟨part, sent', hpart.1.trans (List.prefix_append _ _), htaken, htotal,
        fun h => by cases h⟩
    | ok u =>
      obtain rfl : part = bytes := hpart
      obtain ⟨kept, sent'', hprefix, htaken', htotal', hall⟩ := ih b' htaken
      refine ⟨part ++ kept, sent'', (List.prefix_append_right_inj part).mpr hprefix, htaken', ?_,
        fun h => by rw [hall h]⟩
      simp only at htotal
      rw [htotal', htotal, List.append_assoc]

theorem flush_accepted (ha : Accepting device taken) {sent : Bytes} {s : σ} (hs : taken sent s)
    (b : Buffered) : (b.flush device s).1 = .ok () := by
  unfold flush
  split
  · rfl
  · have hdev := ha b.pending.toList sent s hs
    rcases hr : device b.pending.toList s with ⟨o, s'⟩
    rw [hr] at hdev
    cases hdev
    rfl

theorem place_accepted (ha : Accepting device taken) {sent : Bytes} {s : σ} (hs : taken sent s)
    (b : Buffered) (bytes : Bytes) : (b.place device bytes s).1 = .ok () := by
  unfold place
  split
  · have hdev := ha bytes sent s hs
    rcases hr : device bytes s with ⟨o, s'⟩
    rw [hr] at hdev
    cases hdev
    rfl
  · rfl

theorem write_accepted (hd : Faithful device taken) (ha : Accepting device taken) {sent : Bytes}
    {s : σ} (hs : taken sent s) (b : Buffered) (bytes : Bytes) :
    (b.write device bytes s).1 = .ok () := by
  unfold write
  split
  · rfl
  · split
    · have hflush := flush_keeps hd hs b
      have hok := flush_accepted ha hs b
      rcases hr : b.flush device s with ⟨o, b', s'⟩
      rw [hr] at hflush hok
      cases hok
      obtain ⟨sent', -, htaken, -⟩ := hflush
      exact place_accepted ha htaken b' bytes
    · exact place_accepted ha hs b bytes

theorem writeAll_accepted (hd : Faithful device taken) (ha : Accepting device taken)
    (pieces : List Bytes) :
    ∀ {sent : Bytes} {s : σ} (b : Buffered), taken sent s →
      (b.writeAll device pieces s).1 = .ok () := by
  induction pieces with
  | nil => exact fun _ _ => rfl
  | cons bytes pieces ih =>
    intro sent s b hs
    have hwrite := write_keeps hd hs b bytes
    have hok := write_accepted hd ha hs b bytes
    rw [writeAll]
    rcases hr : b.write device bytes s with ⟨o, b', s'⟩
    rw [hr] at hwrite hok
    cases hok
    obtain ⟨sent', -, htaken, -⟩ := hwrite
    exact ih b' htaken

theorem write_small {b : Buffered} {bytes : Bytes} (h : bytes.length < b.spare) (s : σ) :
    b.write device bytes s = (.ok (), b.keep bytes, s) := if_pos h

theorem writeAll_small (pieces : List Bytes) (s : σ) :
    ∀ {b : Buffered}, pieces.flatten.length < b.spare →
      ∃ b', b.writeAll device pieces s = (.ok (), b', s) ∧
        b'.pending.toList = b.pending.toList ++ pieces.flatten := by
  induction pieces with
  | nil => exact fun {b} _ => ⟨b, rfl, (List.append_nil _).symm⟩
  | cons bytes pieces ih =>
    intro b h
    rw [List.flatten_cons, List.length_append] at h
    have hspare : (b.keep bytes).spare = b.spare - bytes.length := by
      rw [spare, spare, keep, ← Array.length_toList, Array.toList_appendList, List.length_append,
        Array.length_toList, Nat.sub_sub]
    obtain ⟨b', hrest, hpending⟩ := ih (b := b.keep bytes) (by omega)
    refine ⟨b', ?_, ?_⟩
    · rw [writeAll, write_small (by omega)]
      exact hrest
    · rw [hpending, List.flatten_cons, ← List.append_assoc]
      simp [keep]

theorem writeAll_append (pieces pieces' : List Bytes) :
    ∀ (b : Buffered) (s : σ), b.writeAll device (pieces ++ pieces') s =
      match b.writeAll device pieces s with
      | (.error e, b, s) => (.error e, b, s)
      | (.ok (), b, s) => b.writeAll device pieces' s := by
  induction pieces with
  | nil => exact fun _ _ => rfl
  | cons bytes pieces ih =>
    intro b s
    rw [List.cons_append, writeAll, writeAll]
    rcases b.write device bytes s with ⟨o, b', s'⟩
    cases o with
    | error e => rfl
    | ok u => exact ih b' s'

/-- Nothing is pending behind bytes that are as long as the whole buffer. -/
theorem write_long {b b' : Buffered} {bytes : Bytes} {s s' : σ} (hlong : capacity ≤ bytes.length)
    (h : b.write device bytes s = (.ok (), b', s')) : b' = empty := by
  have hplace : ∀ {b b' : Buffered} {s s' : σ}, b.place device bytes s = (.ok (), b', s') →
      b' = b := by
    intro b b' s s' h
    rw [place, if_pos hlong] at h
    split at h <;> cases h
    rfl
  have hspare : b.spare ≤ bytes.length := Nat.le_trans (Nat.sub_le _ _) hlong
  rw [write, if_neg (Nat.not_lt.mpr hspare)] at h
  split at h
  · split at h
    · cases h
    · next hflush =>
      rw [hplace h]
      exact flush_empty hflush
  · -- all of the buffer is spare
    next hle =>
    rw [hplace h]
    obtain ⟨pending⟩ := b
    have hsize : pending.size = 0 := by
      have hcapacity : 0 < capacity := by decide
      simp only [spare] at hspare hle
      omega
    exact congrArg Buffered.mk (Array.eq_empty_of_size_eq_zero hsize)

/-- What stands behind bytes as long as the whole buffer is pending by itself. -/
theorem writeAll_long {front back : List Bytes} {long : Bytes} {b b' : Buffered} {s s' : σ}
    (hlong : capacity ≤ long.length) (hback : back.flatten.length < capacity)
    (h : b.writeAll device (front ++ long :: back) s = (.ok (), b', s')) :
    b'.pending.toList = back.flatten := by
  rw [writeAll_append] at h
  split at h
  · cases h
  · rw [writeAll] at h
    split at h
    · cases h
    · next b2 s2 hwrite =>
      cases write_long hlong hwrite
      have hcollected : ∃ b3, writeAll device back empty s2 = (.ok (), b3, s2) ∧
          b3.pending.toList = [] ++ back.flatten := writeAll_small back s2 hback
      obtain ⟨b3, hsmall, hpending⟩ := hcollected
      rw [hsmall] at h
      cases h
      exact hpending

/-- What fits is collected; then bytes as long as the whole buffer send it on and are refused, and
nothing is pending. -/
theorem writeAll_dropped {front back : List Bytes} {long : Bytes} {b : Buffered} {s s1 s2 : σ}
    {e : ε} {written : Nat} (hfront : front.flatten.length < b.spare)
    (hlong : capacity ≤ long.length) (hpending : b.pending.toList ++ front.flatten ≠ [])
    (hsent : device (b.pending.toList ++ front.flatten) s = (.ok (), s1))
    (hrefused : device long s1 = (.error (e, written), s2)) :
    b.writeAll device (front ++ long :: back) s = (.error e, empty, s2) := by
  have hsmall : ∃ b1, b.writeAll device front s = (.ok (), b1, s) ∧
      b1.pending.toList = b.pending.toList ++ front.flatten := writeAll_small front s hfront
  obtain ⟨b1, hcollected, hb1⟩ := hsmall
  have hne : b1.pending ≠ #[] := fun hnil => hpending (by rw [← hb1, hnil])
  have hspare : b1.spare < long.length := by
    have hsize : 0 < b1.pending.size := Array.size_pos_iff.mpr hne
    have hcapacity : 0 < capacity := by decide
    rw [spare]
    omega
  have hflush : b1.flush device s = (.ok (), empty, s1) := by
    rw [flush, if_neg (by simpa using hne), hb1, hsent]
  have hwrite : b1.write device long s = (.error e, empty, s2) := by
    rw [write, if_neg (Nat.lt_asymm hspare), if_pos hspare, hflush]
    simp only [place, if_pos hlong, hrefused]
  rw [writeAll_append, hcollected]
  simp only [writeAll, hwrite]

end Buffered
end MeshTelemetry
