import SqlGateway.Query

/-! Windows in whole numbers. What is computed with 64 bits is here told without them. -/
namespace SqlGateway.Window

/-- The rows at positions `start` to `last` are some, and their number has 64 bits. -/
def Countable (start last : UInt64) : Prop :=
  start.toNat ≤ last.toNat ∧ last.toNat - start.toNat + 1 < UInt64.size

instance (start last : UInt64) : Decidable (Countable start last) :=
  inferInstanceAs (Decidable (_ ∧ _))

theorem toNat_sub_of_le {start last : UInt64} (h : start.toNat ≤ last.toNat) :
    (last - start).toNat = last.toNat - start.toNat :=
  UInt64.toNat_sub_of_le _ _ (UInt64.le_iff_toNat_le.mpr h)

theorem sub_eq_top_iff {start last : UInt64} (h : start.toNat ≤ last.toNat) :
    last - start = UInt64.ofNat (UInt64.size - 1) ↔
      last.toNat - start.toNat + 1 = UInt64.size := by
  have htop : (UInt64.ofNat (UInt64.size - 1)).toNat = UInt64.size - 1 := rfl
  rw [← UInt64.toNat_inj, toNat_sub_of_le h, htop, UInt64.size]
  omega

theorem ofRange?_of_countable {start last : UInt64} (h : Countable start last) :
    ofRange? start last =
      some ⟨some (UInt64.ofNat (last.toNat - start.toNat + 1)), some start⟩ := by
  obtain ⟨hle, hlt⟩ := h
  have hfull : last - start ≠ UInt64.ofNat (UInt64.size - 1) := fun heq =>
    Nat.ne_of_lt hlt ((sub_eq_top_iff hle).mp heq)
  have hcount : last - start + 1 = UInt64.ofNat (last.toNat - start.toNat + 1) := by
    rw [← toNat_sub_of_le hle, UInt64.ofNat_add, UInt64.ofNat_toNat]
    rfl
  rw [ofRange?, if_neg (UInt64.not_lt.mpr (UInt64.le_iff_toNat_le.mpr hle)), if_neg hfull, hcount]

theorem ofRange?_of_not_countable {start last : UInt64} (h : ¬ Countable start last) :
    ofRange? start last = none := by
  unfold ofRange?
  split
  · rfl
  · next hlt =>
      have hle : start.toNat ≤ last.toNat := UInt64.le_iff_toNat_le.mp (UInt64.not_lt.mp hlt)
      have hmany : ¬ last.toNat - start.toNat + 1 < UInt64.size := fun hfew => h ⟨hle, hfew⟩
      have hlast := last.toNat_lt_size
      rw [if_pos ((sub_eq_top_iff hle).mpr (by omega))]

end SqlGateway.Window
