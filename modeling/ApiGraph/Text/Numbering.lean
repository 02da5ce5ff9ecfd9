/-
# Texts as numbers

Different texts have different numbers, and a short text has a small one.  So there are
only finitely many texts that take up at most so many bytes, and `countWithin` is a bound
on how many.
-/

namespace ApiGraph
namespace Text

/-- The number of a sequence of bytes: its digits to the base 256 are the bytes, each
raised by one so that none is zero. -/
def numberOfBytes : List UInt8 → Nat
  | [] => 0
  | b :: rest => b.toNat + 1 + 256 * numberOfBytes rest

/-- Bytes are told by their number. -/
theorem numberOfBytes_injective {as bs : List UInt8} (h : numberOfBytes as = numberOfBytes bs) :
    as = bs := by
  induction as generalizing bs with
  | nil =>
    cases bs with
    | nil => rfl
    | cons b bs => simp only [numberOfBytes] at h; omega
  | cons a as ih =>
    cases bs with
    | nil => simp only [numberOfBytes] at h; omega
    | cons b bs =>
      simp only [numberOfBytes] at h
      have ha : a.toNat < 256 := a.toNat_lt
      have hb : b.toNat < 256 := b.toNat_lt
      have head : a.toNat = b.toNat := by omega
      have tail : numberOfBytes as = numberOfBytes bs := by omega
      rw [UInt8.toNat_inj.mp head, ih tail]

/-- How many texts there are of at most so many bytes, at most. -/
def countWithin (size : Nat) : Nat :=
  Nat.pow 257 size

theorem countWithin_succ (size : Nat) : countWithin (size + 1) = countWithin size * 257 :=
  rfl

theorem countWithin_mono {m n : Nat} (h : m ≤ n) : countWithin m ≤ countWithin n := by
  induction h with
  | refl => exact Nat.le_refl _
  | step _ ih => rw [countWithin_succ]; omega

/-- The number of bytes is bounded by how many there are. -/
theorem numberOfBytes_lt (bs : List UInt8) : numberOfBytes bs < countWithin bs.length := by
  induction bs with
  | nil => exact Nat.one_pos
  | cons b bs ih =>
    have hb : b.toNat < 256 := b.toNat_lt
    rw [numberOfBytes, List.length_cons, countWithin_succ]
    omega

/-- The number of a text. -/
def number (s : String) : Nat :=
  numberOfBytes s.toByteArray.data.toList

/-- A text is told by its number. -/
theorem number_injective {s t : String} (h : number s = number t) : s = t :=
  String.toByteArray_inj.mp (ByteArray.ext (Array.toList_inj.mp (numberOfBytes_injective h)))

/-- The number of a text is bounded by its size. -/
theorem number_lt (s : String) : number s < countWithin s.utf8ByteSize :=
  numberOfBytes_lt _

/-- **Finitely many.**  Different texts of at most `size` bytes are no more than
`countWithin size`: their numbers are different and below it. -/
theorem length_le_countWithin {texts : List String} {size : Nat} (distinct : texts.Nodup)
    (short : ∀ s ∈ texts, s.utf8ByteSize ≤ size) : texts.length ≤ countWithin size := by
  have numbers : (texts.map number).Nodup :=
    List.pairwise_map.mpr (distinct.imp fun differ same => differ (number_injective same))
  have below : texts.map number ⊆ List.range (countWithin size) := by
    intro n member
    obtain ⟨s, present, rfl⟩ := List.mem_map.mp member
    exact List.mem_range.mpr (Nat.lt_of_lt_of_le (number_lt s) (countWithin_mono (short s present)))
  simpa using numbers.length_le_of_subset below

end Text
end ApiGraph
