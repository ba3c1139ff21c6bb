import CyberLion.PyText

/-!
# Lines of a text

The lines that a reader keeps after stripping them.  A text that is cut between
two lines has the lines of its parts, since at most a blank line appears where a
carriage return and a line feed come apart.
-/

namespace PyLib

/-! ### Stripping -/

@[simp]
theorem strip_nil : strip [] = [] :=
  rfl

/-! ### Kept lines -/

section KeptLines

variable {keep : PyStr → Bool}

def keptLines (keep : PyStr → Bool) (text : PyStr) : List PyStr :=
  ((splitLines text).map strip).filter keep

def keptFrom (keep : PyStr → Bool) (afterReturn : Bool) (text lineReverse : PyStr) :
    List PyStr :=
  ((splitLinesAux afterReturn text lineReverse).map strip).filter keep

theorem keptFrom_afterReturn (dropped : keep [] = false) (afterReturn : Bool) (text : PyStr) :
    keptFrom keep afterReturn text [] = keptFrom keep false text [] := by
  cases afterReturn with
  | false => rfl
  | true =>
    cases text with
    | nil => rfl
    | cons c rest =>
      by_cases feed : c.val = 0x0A
      · have lineBreak : c.isLineBreak = true := by simp [CodePoint.isLineBreak, feed]
        have notReturn : (c.val == 0x0D) = false := by simp [feed]
        simp [keptFrom, splitLinesAux, feed, lineBreak, dropped]
      · simp [keptFrom, splitLinesAux, feed]

def EndsLine (text : PyStr) : Prop :=
  ∀ c ∈ text.getLast?, c.isLineBreak = true

theorem keptFrom_append (dropped : keep [] = false) {before : PyStr} (ends : EndsLine before)
    (rest : PyStr) {afterReturn : Bool} {lineReverse : PyStr}
    (fresh : afterReturn = true ∨ before = [] → lineReverse = []) :
    keptFrom keep afterReturn (before ++ rest) lineReverse =
      keptFrom keep afterReturn before lineReverse ++ keptFrom keep false rest [] := by
  induction before generalizing afterReturn lineReverse with
  | nil =>
    rw [fresh (.inr rfl), List.nil_append, keptFrom_afterReturn dropped]
    simp [keptFrom, splitLinesAux]
  | cons c before ih =>
    have endsRest : EndsLine before := by
      intro d last
      refine ends d ?_
      cases before with
      | nil => simp at last
      | cons e before => rwa [List.getLast?_cons_cons]
    have breaks : before = [] → c.isLineBreak = true := by
      rintro rfl
      exact ends c rfl
    simp only [keptFrom, List.cons_append, splitLinesAux]
    split
    · rename_i joined
      simp only [Bool.and_eq_true] at joined
      exact ih endsRest fun _ => fresh (.inl joined.1)
    split
    · have later := @ih endsRest (c.val == 0x0D) [] fun _ => rfl
      simp only [keptFrom] at later
      simp only [List.map_cons, List.filter_cons, later]
      split <;> rfl
    · rename_i solid
      refine ih endsRest fun open_ => ?_
      rcases open_ with wrong | empty
      · simp at wrong
      · exact absurd (breaks empty) solid

theorem keptLines_append (dropped : keep [] = false) {before : PyStr} (ends : EndsLine before)
    (rest : PyStr) :
    keptLines keep (before ++ rest) = keptLines keep before ++ keptLines keep rest :=
  keptFrom_append dropped ends rest (by simp)

structure IsLine (line text : PyStr) : Prop where
  noBreak : ∀ c ∈ line, c.isLineBreak = false
  closed : ∃ c : CodePoint, c.isLineBreak = true ∧ text = line ++ [c]

theorem IsLine.endsLine {line text : PyStr} (isLine : IsLine line text) : EndsLine text := by
  obtain ⟨c, lineBreak, rfl⟩ := isLine.closed
  intro d last
  rw [List.getLast?_concat, Option.mem_some] at last
  exact last ▸ lineBreak

theorem IsLine.keptLines_eq {line text : PyStr} (isLine : IsLine line text)
    (skipped : keep (strip line) = false) : keptLines keep text = [] := by
  obtain ⟨c, lineBreak, rfl⟩ := isLine.closed
  rw [keptLines, splitLines, splitLinesAux_append_of_noBreak _ _ _ isLine.noBreak]
  have alone : splitLinesAux false [c] (line.reverse ++ []) = [line] := by
    simp [splitLinesAux, lineBreak]
  rw [alone]
  simp [skipped]

/-- `AddsLines keep text other`: `other` is `text` with some lines added that the
reader skips, each of them between two lines or at the start. -/
inductive AddsLines (keep : PyStr → Bool) : PyStr → PyStr → Prop
  | refl (text : PyStr) : AddsLines keep text text
  | add {line added before after other : PyStr} (ends : EndsLine before)
      (isLine : IsLine line added) (skipped : keep (strip line) = false)
      (rest : AddsLines keep (before ++ (added ++ after)) other) :
      AddsLines keep (before ++ after) other

theorem IsLine.addsLines {line added : PyStr} (isLine : IsLine line added)
    (skipped : keep (strip line) = false) (text : PyStr) :
    AddsLines keep text (added ++ text) :=
  @AddsLines.add keep line added [] text _ (by simp [EndsLine]) isLine skipped (.refl _)

theorem AddsLines.keptLines_eq (dropped : keep [] = false) {text other : PyStr}
    (adds : AddsLines keep text other) : keptLines keep other = keptLines keep text := by
  induction adds with
  | refl text => rfl
  | @add line added before after other ends isLine skipped rest ih =>
    rw [ih, keptLines_append dropped ends, keptLines_append dropped isLine.endsLine,
      isLine.keptLines_eq skipped, List.nil_append, keptLines_append dropped ends]

end KeptLines

end PyLib
