/-!
# MeshTelemetry.Stats.Running

Mean, variance, least and greatest value of a stream of numbers, kept up to date one value at a
time. The numbers may be of any type with the operations of `Scalar`; the program uses doubles.
-/

namespace MeshTelemetry
namespace Stats

/-- The arithmetic that running statistics need. -/
class Scalar (α : Type) extends Add α, Sub α, Mul α, Div α where
  zero : α
  ofCount : Nat → α
  least : α → α → α
  greatest : α → α → α

/-- The least of two doubles; one that is undefined does not count. -/
def floatLeast (a b : Float) : Float :=
  if a.isNaN then b else if b < a then b else a

/-- The greatest of two doubles; one that is undefined does not count. -/
def floatGreatest (a b : Float) : Float :=
  if a.isNaN then b else if b > a then b else a

instance : Scalar Float where
  zero := 0.0
  ofCount := Float.ofNat
  least := floatLeast
  greatest := floatGreatest

/-- What is known of the values so far. `squares` is the sum of the squared deviations from the
mean. -/
structure Running (α : Type) where
  count : Nat
  mean : α
  squares : α
  least : α
  greatest : α

namespace Running

variable {α : Type} [Scalar α]

def empty : Running α := ⟨0, Scalar.zero, Scalar.zero, Scalar.zero, Scalar.zero⟩

/-- Takes one value in. The mean moves by a fraction of the deviation from it; the squares grow by
the product of the deviations from the old and from the new mean. -/
def push (s : Running α) (value : α) : Running α :=
  if s.count = 0 then ⟨1, value, Scalar.zero, value, value⟩
  else
    let count := s.count + 1
    let delta := value - s.mean
    let mean := s.mean + delta / Scalar.ofCount count
    { count
      mean
      squares := s.squares + delta * (value - mean)
      least := Scalar.least s.least value
      greatest := Scalar.greatest s.greatest value }

/-- The sample variance; zero for fewer than two values. -/
def variance (s : Running α) : α :=
  if s.count < 2 then Scalar.zero else s.squares / Scalar.ofCount (s.count - 1)

end Running

def Running.deviation (s : Running Float) : Float := s.variance.sqrt

end Stats
end MeshTelemetry
