/-!
# Line endings

A source may end its lines with LF, with CR LF or with a lone CR. Everything
after this module sees LF only: first each CR LF pair becomes one LF, then each
CR that is left becomes an LF.
-/

namespace Chatdown.Text

/-- Each CR that an LF follows is dropped. -/
def joinPairs : List Char → List Char
  | '\r' :: '\n' :: rest => '\n' :: joinPairs rest
  | c :: rest => c :: joinPairs rest
  | [] => []

/-- Each CR becomes an LF. -/
def replaceReturns (s : List Char) : List Char :=
  s.map fun c => if c = '\r' then '\n' else c

/-- Write every line ending of a text as LF. -/
def unifyNewlines (s : List Char) : List Char :=
  replaceReturns (joinPairs s)

/-- No CR is left. -/
theorem return_not_mem_unifyNewlines (s : List Char) : '\r' ∉ unifyNewlines s := by
  intro h
  simp only [unifyNewlines, replaceReturns, List.mem_map] at h
  obtain ⟨c, _, hc⟩ := h
  split at hc
  · exact absurd hc (by decide)
  · contradiction

end Chatdown.Text
