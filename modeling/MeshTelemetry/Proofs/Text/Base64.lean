import MeshTelemetry.Text.Base64
import MeshTelemetry.Text.Bytes

/-!
# MeshTelemetry.Proofs.Text.Base64

Base64 texts are read again as the bytes that they were written for.

* `Base64.decode?`: the bytes of a text; `Base64.decode?_encode`: those that it was written for.
* `Base64.dot_notMem_encode`: there is no dot in such a text.
-/

namespace MeshTelemetry
namespace Text
namespace Base64

/-- The bytes that a text stands for. The bits of its last digit that belong to no byte are zero. -/
def decode? : List Char → Option Bytes
  | [] => some []
  | [a, b, '=', '='] => do
    let a ← value? a
    let b ← value? b
    if b % 16 = 0 then some [UInt8.ofNat (a * 4 + b / 16)] else none
  | [a, b, c, '='] => do
    let a ← value? a
    let b ← value? b
    let c ← value? c
    let n := (a * 64 + b) * 64 + c
    if n % 4 = 0 then some [UInt8.ofNat (n / 1024), UInt8.ofNat (n / 4 % 256)] else none
  | a :: b :: c :: d :: rest => do
    let a ← value? a
    let b ← value? b
    let c ← value? c
    let d ← value? d
    let n := ((a * 64 + b) * 64 + c) * 64 + d
    let bytes ← decode? rest
    some (UInt8.ofNat (n / 65536) :: UInt8.ofNat (n / 256 % 256) :: UInt8.ofNat (n % 256) :: bytes)
  | _ => none

theorem digit_spec : ∀ n < 64, value? (digit n) = some n ∧ digit n ≠ '=' ∧ digit n ≠ '.' := by
  decide +kernel

theorem value?_digit {n : Nat} (h : n < 64) : value? (digit n) = some n := (digit_spec n h).1

theorem digit_ne (n : Nat) : digit n ≠ '=' ∧ digit n ≠ '.' := by
  by_cases h : n < 64
  · exact (digit_spec n h).2
  · have hlast : digit n = '/' := by
      rw [digit, if_neg (by omega), if_neg (by omega), if_neg (by omega), if_neg (by omega)]
    rw [hlast]
    decide

theorem ofNat_eq {n : Nat} {b : UInt8} (h : n = b.toNat) : UInt8.ofNat n = b := by
  rw [h, UInt8.ofNat_toNat]

theorem decode?_encode (bytes : Bytes) : decode? (encode bytes) = some bytes := by
  fun_induction encode bytes with
  | case1 => rfl
  | case2 a n =>
    have ha : a.toNat < 256 := a.toNat_lt
    have hn : n = a.toNat := rfl
    rw [decode?, value?_digit (by omega), value?_digit (by omega)]
    simp only [Option.bind_eq_bind, Option.bind_some]
    rw [if_pos (by omega), ofNat_eq (b := a) (by omega)]
  | case3 a b n =>
    have ha : a.toNat < 256 := a.toNat_lt
    have hb : b.toNat < 256 := b.toNat_lt
    have hn : n = a.toNat * 256 + b.toNat := rfl
    rw [decode?, value?_digit (by omega), value?_digit (by omega), value?_digit (by omega)]
    · simp only [Option.bind_eq_bind, Option.bind_some]
      rw [if_pos (by omega), ofNat_eq (b := a) (by omega), ofNat_eq (b := b) (by omega)]
    · exact (digit_ne _).1
  | case4 a b c rest n ih =>
    have ha : a.toNat < 256 := a.toNat_lt
    have hb : b.toNat < 256 := b.toNat_lt
    have hc : c.toNat < 256 := c.toNat_lt
    have hn : n = (a.toNat * 256 + b.toNat) * 256 + c.toNat := rfl
    rw [decode?, value?_digit (by omega), value?_digit (by omega), value?_digit (by omega),
      value?_digit (by omega), ih]
    · simp only [Option.bind_eq_bind, Option.bind_some]
      rw [ofNat_eq (b := a) (by omega), ofNat_eq (b := b) (by omega), ofNat_eq (b := c) (by omega)]
    · rintro - hpad -
      exact (digit_ne _).1 hpad
    · rintro hpad -
      exact (digit_ne _).1 hpad

theorem dot_notMem_encode (bytes : Bytes) : '.' ∉ encode bytes := by
  have hdigit : ∀ n, '.' ≠ digit n := fun n => (digit_ne n).2.symm
  fun_induction encode bytes with
  | case1 => exact List.not_mem_nil
  | case2 a n => simp [hdigit]
  | case3 a b n => simp [hdigit]
  | case4 a b c rest n ih => simp [hdigit, ih]

end Base64
end Text
end MeshTelemetry
