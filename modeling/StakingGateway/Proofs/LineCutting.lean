import StakingGateway.Service.Lines

/-!
# Lines of the input

`splitBytes` takes one byte after the other and `texts` works on the list of all lines. Beside them
stands what lines are: `Cut` says how the bytes of an input fall into lines, and it admits exactly
one list of lines.
-/

namespace StakingGateway.Service.Lines

/-- The input consists of these lines. A line end closes every line but possibly the last, which has
bytes then. -/
inductive Cut : List UInt8 → List (List UInt8) → Prop
  | done : Cut [] []
  | last {line : List UInt8} (hfree : 10 ∉ line) (hline : line ≠ []) : Cut line [line]
  | line {line rest : List UInt8} {lines : List (List UInt8)} (hfree : 10 ∉ line)
      (hrest : Cut rest lines) : Cut (line ++ 10 :: rest) (line :: lines)

theorem splitBytes_cons_of_ne {b : UInt8} {rest : List UInt8} (h : b ≠ 10) :
    splitBytes (b :: rest) =
      (b :: (splitBytes rest).headD []) :: (splitBytes rest).tail := by
  rw [splitBytes, if_neg h]
  cases splitBytes rest <;> rfl

/-- A byte that is no line end joins the first of the lines behind it. -/
theorem Cut.cons {b : UInt8} {rest : List UInt8} {lines : List (List UInt8)} (hb : b ≠ 10)
    (h : Cut rest lines) : Cut (b :: rest) ((b :: lines.headD []) :: lines.tail) := by
  cases h with
  | done =>
      refine Cut.last ?_ (List.cons_ne_nil b [])
      simpa using Ne.symm hb
  | last hfree hline =>
      refine Cut.last ?_ (List.cons_ne_nil b rest)
      simpa [hfree] using Ne.symm hb
  | @line line _ _ hfree hrest =>
      refine @Cut.line (b :: line) _ _ ?_ hrest
      simpa [hfree] using Ne.symm hb

theorem cut_splitBytes (input : List UInt8) : Cut input (splitBytes input) := by
  induction input with
  | nil => exact Cut.done
  | cons b rest ih =>
      by_cases hend : b = 10
      · rw [hend, splitBytes, if_pos rfl]
        exact @Cut.line [] _ _ List.not_mem_nil ih
      · rw [splitBytes_cons_of_ne hend]
        exact ih.cons hend

def textsOf (lines : List (List UInt8)) : List String :=
  ((lines.map textOf?).takeWhile (·.isSome)).filterMap id

theorem texts_eq_textsOf (input : List UInt8) : texts input = textsOf (splitBytes input) := rfl

@[simp]
theorem textsOf_nil : textsOf [] = [] := rfl

theorem textsOf_cons_of_none {bytes : List UInt8} (h : textOf? bytes = none)
    (rest : List (List UInt8)) : textsOf (bytes :: rest) = [] := by
  simp [textsOf, h]

theorem textsOf_cons_of_some {bytes : List UInt8} {text : String} (h : textOf? bytes = some text)
    (rest : List (List UInt8)) : textsOf (bytes :: rest) = text :: textsOf rest := by
  simp [textsOf, h]

end StakingGateway.Service.Lines
