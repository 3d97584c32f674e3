import MeshTelemetry.Json.Reader

/-!
# MeshTelemetry.Proofs.Json.Builder

What the builder makes of tokens that it takes as one document, wherever it expects a value.

* `Json.build`: tokens are taken one after the other.
* `Json.build_nextItem` and its companions: they are an item of a sequence or a member of a map.
* `Json.read_tokens`: they are all that is read in a text with these tokens.
-/

namespace MeshTelemetry
namespace Json

/-- The tokens are taken one after the other. -/
def build (b : Builder) (ts : List Token) : Builder := ts.foldl Builder.step b

theorem build_append (b : Builder) (ts ts' : List Token) :
    build b (ts ++ ts') = build (build b ts) ts' := List.foldl_append

theorem build_cons (b : Builder) (t : Token) (ts : List Token) :
    build b (t :: ts) = build (b.step t) ts := rfl

section Taken

variable {ts : List Token} {d : Document}
  (h : ∀ frames, build (.expecting .value frames) ts = Builder.place d frames)
include h

/-- Tokens that are taken as a document are taken as the next item of a sequence. -/
theorem build_nextItem (done : List Document) (frames : List Frame) (rest : List Token) :
    build (.expecting (.nextItem done) frames) (.comma :: (ts ++ rest)) =
      build (.expecting (.nextItem (d :: done)) frames) rest := by
  rw [build_cons, build_append]
  exact congrArg (build · rest) (h (.seq done :: frames))

/-- They are its first item, if they are also taken where the sequence might have ended. -/
theorem build_beginSeq {frames : List Frame}
    (hfirst : build (.expecting .firstItem frames) ts =
      build (.expecting .value (.seq [] :: frames)) ts) (rest : List Token) :
    build (.expecting .value frames) (.beginSeq :: (ts ++ rest)) =
      build (.expecting (.nextItem [d]) frames) rest := by
  rw [build_cons, build_append]
  exact congrArg (build · rest) (hfirst.trans (h (.seq [] :: frames)))

theorem build_nextMember (done : List (Option String × Document)) (frames : List Frame)
    (key : Option String) (rest : List Token) :
    build (.expecting (.nextMember done) frames) (.comma :: .text key :: .colon :: (ts ++ rest)) =
      build (.expecting (.nextMember ((key, d) :: done)) frames) rest := by
  rw [build_cons, build_cons, build_cons, build_append]
  exact congrArg (build · rest) (h (.map done key :: frames))

theorem build_beginMap (frames : List Frame) (key : Option String) (rest : List Token) :
    build (.expecting .value frames) (.beginMap :: .text key :: .colon :: (ts ++ rest)) =
      build (.expecting (.nextMember [(key, d)]) frames) rest := by
  rw [build_cons, build_cons, build_cons, build_append]
  exact congrArg (build · rest) (h (.map [] key :: frames))

theorem read_tokens {text : String} (htokens : tokens text.toList = ts) :
    read text = (d, true) := by
  have hbuild : ts.foldl Builder.step (.expecting .value []) = .finished d false := h []
  rw [read, htokens, hbuild]
  rfl

end Taken

end Json
end MeshTelemetry
