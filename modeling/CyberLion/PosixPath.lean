import CyberLion.PyText
import Mathlib.Data.List.Infix

/-!
# POSIX paths

`PurePosixPath` on the text it is built from: its root, its component names
and its canonical text.  Two paths overlap when the components of one are a
prefix of the components of the other.
-/

namespace PyLib

namespace PosixPath

def isSlash (c : CodePoint) : Bool :=
  c == 0x2F

def root (raw : PyStr) : PyStr :=
  let slashes := (raw.takeWhile isSlash).length
  if slashes = 0 then [] else if slashes = 2 then py "//" else py "/"

def names (raw : PyStr) : List PyStr :=
  (pySplit 0x2F (raw.dropWhile isSlash)).filter fun name => name ≠ [] && name ≠ py "."

/-- `PurePosixPath(raw).parts`. -/
def parts (raw : PyStr) : List PyStr :=
  if root raw = [] then names raw else root raw :: names raw

/-- `PurePosixPath(raw).is_absolute()`. -/
def isAbsolute (raw : PyStr) : Bool :=
  root raw ≠ []

/-- `str(PurePosixPath(raw))`. -/
def canonical (raw : PyStr) : PyStr :=
  let text := root raw ++ pyJoin (py "/") (names raw)
  if text = [] then py "." else text

end PosixPath

/-- The common part of two lists, cut to the shorter one, agrees exactly when
one is a prefix of the other. -/
theorem take_min_eq_iff_prefix {α : Type} (first second : List α) :
    first.take (min first.length second.length) = second.take (min first.length second.length) ↔
      first <+: second ∨ second <+: first := by
  rcases le_total first.length second.length with shorter | longer
  · rw [min_eq_left shorter, List.take_length]
    constructor
    · intro agree
      exact .inl (List.prefix_iff_eq_take.mpr agree)
    · rintro (before | behind)
      · exact List.prefix_iff_eq_take.mp before
      · have sameLength := le_antisymm shorter behind.length_le
        have same := behind.eq_of_length sameLength.symm
        rw [same, List.take_length]
  · rw [min_eq_right longer, List.take_length]
    constructor
    · intro agree
      exact .inr (List.prefix_iff_eq_take.mpr agree.symm)
    · rintro (before | behind)
      · have sameLength := le_antisymm longer before.length_le
        have same := before.eq_of_length sameLength.symm
        rw [same, List.take_length]
      · exact (List.prefix_iff_eq_take.mp behind).symm

end PyLib
