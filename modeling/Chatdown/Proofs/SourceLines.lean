import Chatdown.Proofs.LineEndings

/-!
# One pass over line endings

Line endings are unified in two passes over the whole text: one joins CR and LF, the next one
replaces what is left of CR. This is what a single pass does that looks one character ahead,
so a text falls into the same lines after the two passes as it does under its own endings,
and a text that is unified in two parts is unified as a whole, save that a CR and an LF on
both sides of the cut come out as two endings.
-/

namespace Chatdown.Text

/-- A single pass from left to right: a CR and an LF behind it become one LF, and so does any
other CR, while all other characters are copied. -/
def scanNewlines : List Char → List Char
  | '\r' :: '\n' :: rest => '\n' :: scanNewlines rest
  | '\r' :: rest => '\n' :: scanNewlines rest
  | c :: rest => c :: scanNewlines rest
  | [] => []

/-- A text that is not an LF with something behind it does not begin with an LF. -/
theorem head?_ne_newline {s : List Char} (h : ∀ rest, s = '\n' :: rest → False) :
    s.head? ≠ some '\n' := by
  intro hhead
  obtain ⟨rest, hs⟩ := List.head?_eq_some_iff.mp hhead
  exact h rest hs

/-- The two passes do what the single pass does. -/
theorem unifyNewlines_eq_scanNewlines (s : List Char) : unifyNewlines s = scanNewlines s := by
  fun_induction scanNewlines s with
  | case1 rest ih => rw [unifyNewlines_pair, ih]
  | case2 rest hpair ih => rw [unifyNewlines_return (head?_ne_newline hpair), ih]
  | case3 c rest hpair hreturn ih => rw [unifyNewlines_cons hreturn, ih]
  | case4 => rfl

/-- Two texts that come from a cut between a CR and an LF. -/
def CutsPair (s t : List Char) : Prop :=
  s.getLast? = some '\r' ∧ t.head? = some '\n'

instance (s t : List Char) : Decidable (CutsPair s t) :=
  inferInstanceAs (Decidable (_ ∧ _))

/-- A cut between a CR and an LF remains one when more stands before it. -/
theorem CutsPair.cons {s t : List Char} (h : CutsPair s t) (c : Char) : CutsPair (c :: s) t :=
  ⟨by rw [List.getLast?_cons, h.1, Option.getD_some], h.2⟩

/-- A text that is cut at another place than between a CR and an LF can be unified in two
parts. -/
theorem unifyNewlines_append {s t : List Char} (h : ¬CutsPair s t) :
    unifyNewlines (s ++ t) = unifyNewlines s ++ unifyNewlines t := by
  fun_induction scanNewlines s with
  | case1 rest ih =>
    have hrest : ¬CutsPair rest t := fun hcut => h ((hcut.cons '\n').cons '\r')
    rw [List.cons_append, List.cons_append, unifyNewlines_pair, unifyNewlines_pair, ih hrest,
      List.cons_append]
  | case2 rest hpair ih =>
    have hrest : ¬CutsPair rest t := fun hcut => h (hcut.cons '\r')
    have hhead : rest.head? ≠ some '\n' := head?_ne_newline hpair
    -- What is behind the CR is in the second text only where the CR ends the first one.
    have happend : (rest ++ t).head? ≠ some '\n' := by
      cases rest with
      | nil => exact fun ht => h ⟨rfl, ht⟩
      | cons c tail => exact hhead
    rw [List.cons_append, unifyNewlines_return happend, unifyNewlines_return hhead, ih hrest,
      List.cons_append]
  | case3 c rest hpair hreturn ih =>
    have hrest : ¬CutsPair rest t := fun hcut => h (hcut.cons c)
    rw [List.cons_append, unifyNewlines_cons hreturn, unifyNewlines_cons hreturn, ih hrest,
      List.cons_append]
  | case4 => rfl

/-- A text that is cut between a CR and an LF has an ending on both sides of the cut, of
which one is left when it is unified as a whole. -/
theorem unifyNewlines_append_of_cutsPair {s t : List Char} (h : CutsPair s t) :
    ∃ front back, unifyNewlines s = front ++ ['\n'] ∧ unifyNewlines t = '\n' :: back ∧
      unifyNewlines (s ++ t) = front ++ '\n' :: back := by
  obtain ⟨front, rfl⟩ := List.getLast?_eq_some_iff.mp h.1
  obtain ⟨back, rfl⟩ := List.head?_eq_some_iff.mp h.2
  have hcut : ∀ rest, unifyNewlines (front ++ '\r' :: rest) =
      unifyNewlines front ++ unifyNewlines ('\r' :: rest) :=
    fun rest => unifyNewlines_append fun hcut => absurd hcut.2 (by simp)
  refine ⟨unifyNewlines front, unifyNewlines back, hcut [], unifyNewlines_cons (by decide) back, ?_⟩
  rw [List.append_assoc, List.singleton_append, hcut, unifyNewlines_pair]

/-- A text without a line ending. -/
def Unended (line : List Char) : Prop :=
  '\r' ∉ line ∧ '\n' ∉ line

/-- The lines of a text under its own endings: each of them goes on to the next line ending,
and the last one to the end of the text. A CR is an ending by itself where no LF is behind
it. -/
inductive LinesOf : List Char → List (List Char) → Prop where
  /-- A text without an ending is its only line. -/
  | last {line : List Char} (h : Unended line) : LinesOf line [line]
  /-- A line and its ending stand before the other lines. -/
  | line {line rest : List Char} {lines : List (List Char)} (ending : LineEnding)
    (h : Unended line) (hlone : ending = .cr → rest.head? ≠ some '\n')
    (hrest : LinesOf rest lines) : LinesOf (line ++ ending.chars ++ rest) (line :: lines)

/-- A line goes on to the left as long as there is no line ending. -/
theorem LinesOf.cons {c : Char} (hreturn : c ≠ '\r') (hnewline : c ≠ '\n') {s line : List Char}
    {lines : List (List Char)} (h : LinesOf s (line :: lines)) :
    LinesOf (c :: s) ((c :: line) :: lines) := by
  have hunended : ∀ {line : List Char}, Unended line → Unended (c :: line) := by
    rintro line ⟨hr, hn⟩
    exact ⟨by simp [hr, hreturn.symm], by simp [hn, hnewline.symm]⟩
  cases h with
  | last hline => exact .last (hunended hline)
  | line ending hline hlone hrest => exact .line ending (hunended hline) hlone hrest

/-- Every text has lines, and a first one among them. -/
theorem exists_linesOf (s : List Char) : ∃ line lines, LinesOf s (line :: lines) := by
  have hempty : Unended [] := ⟨List.not_mem_nil, List.not_mem_nil⟩
  fun_induction scanNewlines s with
  | case1 rest ih =>
    obtain ⟨line, lines, hrest⟩ := ih
    exact ⟨[], line :: lines, .line .crlf hempty (by simp) hrest⟩
  | case2 rest hpair ih =>
    obtain ⟨line, lines, hrest⟩ := ih
    exact ⟨[], line :: lines, .line .cr hempty (fun _ => head?_ne_newline hpair) hrest⟩
  | case3 c rest hpair hreturn ih =>
    obtain ⟨line, lines, hrest⟩ := ih
    by_cases hnewline : c = '\n'
    · subst hnewline
      exact ⟨[], line :: lines, .line .lf hempty (by simp) hrest⟩
    · exact ⟨c :: line, lines, hrest.cons hreturn hnewline⟩
  | case4 => exact ⟨[], [], .last hempty⟩

/-- A line ending becomes an LF. -/
theorem unifyNewlines_ending {ending : LineEnding} {rest : List Char}
    (hlone : ending = .cr → rest.head? ≠ some '\n') :
    unifyNewlines (ending.chars ++ rest) = '\n' :: unifyNewlines rest := by
  cases ending with
  | lf => exact unifyNewlines_cons (by decide) rest
  | crlf => exact unifyNewlines_pair rest
  | cr => exact unifyNewlines_return (hlone rfl)

/-- The lines of a text are what stands between the newlines once its endings are unified. -/
theorem LinesOf.splitOn_eq {s : List Char} {lines : List (List Char)} (h : LinesOf s lines) :
    (unifyNewlines s).splitOn '\n' = lines := by
  induction h with
  | last hline => rw [unifyNewlines_eq_self hline.1, List.splitOn_eq_singleton hline.2]
  | @line line rest lines ending hline hlone hrest ih =>
    have hcut : ¬CutsPair line (ending.chars ++ rest) :=
      fun hcut => hline.1 (List.mem_of_getLast? hcut.1)
    rw [List.append_assoc, unifyNewlines_append hcut, unifyNewlines_eq_self hline.1,
      unifyNewlines_ending hlone, List.splitOn_append_cons_self_of_not_mem hline.2, ih]

/-- What stands between the newlines of a text with unified endings are the lines of the
text, and nothing else is. -/
theorem splitOn_unifyNewlines_iff {s : List Char} {lines : List (List Char)} :
    (unifyNewlines s).splitOn '\n' = lines ↔ LinesOf s lines := by
  constructor
  · rintro rfl
    obtain ⟨line, rest, h⟩ := exists_linesOf s
    rwa [h.splitOn_eq]
  · exact LinesOf.splitOn_eq

/-- Unifying line endings is a single pass from left to right, whether or not texts without
CR are left alone. No CR remains, the pieces between newlines are the lines of the text, and
a text can be unified in parts: where a CR and an LF are cut apart, one of the two newlines
at the cut is too many, and nothing changes anywhere else. -/
theorem unifyNewlines_single_pass (s : List Char) :
    unifyNewlines s = scanNewlines s ∧
      (if '\r' ∈ s then unifyNewlines s else s) = scanNewlines s ∧
      '\r' ∉ unifyNewlines s ∧
      (∀ lines, (unifyNewlines s).splitOn '\n' = lines ↔ LinesOf s lines) ∧
      ∀ t, if CutsPair s t then
          ∃ front back, unifyNewlines s = front ++ ['\n'] ∧ unifyNewlines t = '\n' :: back ∧
            unifyNewlines (s ++ t) = front ++ '\n' :: back
        else unifyNewlines (s ++ t) = unifyNewlines s ++ unifyNewlines t := by
  refine ⟨unifyNewlines_eq_scanNewlines s, ?_, return_not_mem_unifyNewlines s,
    fun _ => splitOn_unifyNewlines_iff, fun t => ?_⟩
  · split
    · exact unifyNewlines_eq_scanNewlines s
    · rename_i hreturn
      rw [← unifyNewlines_eq_scanNewlines, unifyNewlines_eq_self hreturn]
  · split
    · rename_i hpair
      exact unifyNewlines_append_of_cutsPair hpair
    · rename_i hcut
      exact unifyNewlines_append hcut

end Chatdown.Text
