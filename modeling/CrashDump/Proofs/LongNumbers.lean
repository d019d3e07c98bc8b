import CrashDump.Cursor.Fault

/-! # Numbers too long to write

A number of too many digits has no decimal text, and a message that would give it tells of the
limit instead.
-/
namespace CrashDump

-- Unfolding would compute a power of ten of thousands of digits.
attribute [local irreducible] Decimal.maxDigits

namespace Decimal

/-- From this number on there is no decimal text. -/
@[irreducible] def limit : Nat := Nat.pow 10 maxDigits

theorem limit_pos : 0 < limit := by
  have hp : ∀ k, 0 < Nat.pow 10 k := fun k => Nat.pow_pos (by decide)
  rw [limit]
  exact hp maxDigits

theorem text?_eq (n : Int) :
    text? n = if n.natAbs < limit then some (toString n) else none := by
  rw [text?, limit]

end Decimal

attribute [local irreducible] Decimal.text?

namespace Fault

theorem message_negativeCount (n : Int) : (negativeCount n).message =
    if n.natAbs < Decimal.limit then "Negative read size: " ++ toString n
    else Decimal.tooLong := by
  delta message
  dsimp only
  by_cases h : n.natAbs < Decimal.limit
  · rw [Decimal.text?_eq, if_pos h, if_pos h]
    rfl
  · rw [Decimal.text?_eq, if_neg h, if_neg h]

theorem tooLong_ne_negative (text : String) :
    Decimal.tooLong ≠ "Negative read size: " ++ text := by
  intro h
  have he : Decimal.tooLong.toList.head? = some 'E' := by decide +kernel
  have hn : "Negative read size: ".toList.head? = some 'N' := by decide +kernel
  have hl := congrArg (fun x => x.toList.head?) h
  simp only [he, String.toList_append, List.head?_append, hn, Option.some_or] at hl
  exact absurd hl (by decide)

end Fault

end CrashDump
