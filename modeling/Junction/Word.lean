/-!
# Sums of fixed width

Values are signed words of 64 bits and counts are unsigned ones. A sum that leaves its range is a
failure and not a smaller number: whoever adds panics, and what was to be changed stays as it was.

## Main definitions

* `Word.fits` — whether a value lies in its range
* `Word.maxCount` — the largest count
* `Word.overflowMessage` — the message of the panic

## Main results

* `fits_iff` — a number is a value if the word made from it stands for the number
-/

namespace Junction.Word

/-- Whether a number is a value: a signed word of 64 bits. -/
def fits (n : Int) : Bool := Int64.minValue.toInt ≤ n && n ≤ Int64.maxValue.toInt

/-- The largest count: an unsigned word of 64 bits. -/
def maxCount : Nat := UInt64.size - 1

/-- The message of a panic over a sum that leaves its range. -/
def overflowMessage : String := "attempt to add with overflow"

theorem fits_iff {n : Int} : fits n = true ↔ (Int64.ofInt n).toInt = n := by
  rw [fits, Bool.and_eq_true, decide_eq_true_iff, decide_eq_true_iff]
  constructor
  · rintro ⟨hmin, hmax⟩
    exact Int64.toInt_ofInt_of_le hmin (Int.lt_add_one_of_le hmax)
  · intro h
    rw [← h]
    exact ⟨Int64.minValue_le_toInt _, Int64.toInt_le _⟩

end Junction.Word
