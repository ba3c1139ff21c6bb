import CyberLion.JsonReading
import CyberLion.PyFloatRounding

/-!
# Reading back the literal of a float

Every literal that has a value is read back by the scanner, whatever stops it.
-/

namespace PyLib

namespace Json

theorem isFloatLiteral_of_unsignedOf {text : PyStr} {value : Rat}
    (valued : PyFloat.unsignedOf text = some value) {sign : PyStr}
    (isSign : sign = [] ∨ sign = py "-") : IsFloatLiteral (sign ++ text) := by
  rw [PyFloat.unsignedOf] at valued
  split at valued
  · simp at valued
  · rename_i digits after integer
    obtain ⟨rfl, numeral⟩ := isNumeral_of_scanInteger integer
    obtain ⟨fractionSplit, isFraction⟩ := @part_of_getD IsFraction after (scanFraction after)
      fun _ _ found => isFraction_of_scanFraction found
    dsimp only at valued
    generalize (scanFraction after).getD ([], after) = fraction at valued fractionSplit isFraction
    obtain ⟨exponentSplit, isExponent⟩ := @part_of_getD IsExponent fraction.2
      (scanExponent fraction.2) fun _ _ found => isExponent_of_scanExponent found
    generalize (scanExponent fraction.2).getD ([], fraction.2) = exponent
      at valued exponentSplit isExponent
    split_ifs at valued with isFloat
    refine ⟨sign, digits, fraction.1, exponent.1, ?_, isSign, numeral, isFraction, isExponent, ?_⟩
    · rw [isFloat.1, List.append_nil] at exponentSplit
      rw [fractionSplit, exponentSplit]
      simp only [List.append_assoc]
    · simpa only [Bool.and_eq_true, List.isEmpty_iff] using isFloat.2

theorem floatText_of_isFloatLiteral {hooks : Hooks} {literal : PyStr}
    (isFloat : IsFloatLiteral literal) : FloatText hooks literal := by
  obtain ⟨c, rest, shape, starts⟩ := isFloat.exists_start
  refine ⟨⟨c, rest, shape, ?_⟩, fun _ stop => scanAtom_float isFloat stop⟩
  exact starts.imp_right fun minus => .inl (congrArg Fin.val minus)

theorem floatText_of_ofLiteral {literal : PyStr} {value : PyFloat}
    (valued : PyFloat.ofLiteral literal = some value) : FloatText plainHooks literal := by
  rw [PyFloat.ofLiteral] at valued
  split_ifs at valued with isNaN isInfinity isMinus
  · subst isNaN
    exact ⟨⟨_, _, rfl, .inr (.inr (by decide))⟩, fun rest _ => rfl⟩
  · subst isInfinity
    exact ⟨⟨_, _, rfl, .inr (.inr (by decide))⟩, fun rest _ => rfl⟩
  · subst isMinus
    exact ⟨⟨_, _, rfl, .inr (.inl (by decide))⟩, fun rest _ => rfl⟩
  · split at valued
    · rename_i text stripped
      obtain ⟨number, isNumber, -⟩ := Option.map_eq_some_iff.mp valued
      rw [eq_append_of_stripWord stripped]
      exact floatText_of_isFloatLiteral (isFloatLiteral_of_unsignedOf isNumber (.inr rfl))
    · obtain ⟨number, isNumber, -⟩ := Option.map_eq_some_iff.mp valued
      exact floatText_of_isFloatLiteral (isFloatLiteral_of_unsignedOf isNumber (.inl rfl))

end Json

end PyLib
