/-!
Numbers of 64 bits: positions are unsigned, literals are signed. A number that does not fit is none.
-/
namespace MiniJava.Word

def unsigned? (n : Int) : Option UInt64 :=
  if 0 ≤ n ∧ n.toNat < UInt64.size then some (UInt64.ofNat n.toNat) else none

def signed? (n : Int) : Option Int64 :=
  if Int64.minValue.toInt ≤ n ∧ n ≤ Int64.maxValue.toInt then some (Int64.ofInt n) else none

theorem unsigned?_toNat (n : UInt64) : unsigned? n.toNat = some n := by
  rw [unsigned?, if_pos ⟨Int.natCast_nonneg _, n.toNat_lt⟩, Int.toNat_natCast, UInt64.ofNat_toNat]

theorem signed?_toInt (n : Int64) : signed? n.toInt = some n := by
  rw [signed?, if_pos ⟨Int64.minValue_le_toInt n, Int64.toInt_le n⟩, Int64.ofInt_toInt]

theorem toInt_of_signed? {n : Int} {value : Int64} (h : signed? n = some value) :
    value.toInt = n := by
  unfold signed? at h
  split at h
  · rename_i hn
    cases h
    have hlow : -2 ^ 63 ≤ n := hn.1
    have hhigh : n ≤ 2 ^ 63 - 1 := hn.2
    exact Int64.toInt_ofInt_of_le hlow (Int.lt_of_le_sub_one hhigh)
  · cases h

end MiniJava.Word
