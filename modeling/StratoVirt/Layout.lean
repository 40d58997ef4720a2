import Mathlib

/-!
# The x86_64 guest RAM layout

`LightMachine::arch_ram_ranges` (`micro_vm/mod.rs`) splits the guest's memory around the
MMIO hole `[4 GiB − 768 MiB, 4 GiB)`: the memory below the hole starts at 0, and whatever
does not fit below it resumes at 4 GiB.  `LightMachine::new` maps each range one-to-one as
a RAM region of `sys_mem`.

The ranges are `(start, size)` pairs of `u64`; the layout theorem reads them as intervals
of naturals, where nothing can wrap.
-/

namespace StratoVirt

/-! ## `u64` as naturals -/

theorem uint64_toNat_min (a b : UInt64) : (min a b).toNat = min a.toNat b.toNat := by
  have hle : a ≤ b ↔ a.toNat ≤ b.toNat := Iff.rfl
  show (if a ≤ b then a else b).toNat = _
  by_cases h : a ≤ b
  · rw [if_pos h, Nat.min_eq_left (hle.mp h)]
  · rw [if_neg h, Nat.min_eq_right (by rw [hle] at h; omega)]

theorem uint64_lt_iff_toNat_lt {a b : UInt64} : a < b ↔ a.toNat < b.toNat := Iff.rfl

/-! ## The layout -/

/-- `MEM_MAPPED_IO_SIZE` on x86_64: 768 MiB. -/
def memMappedIoSize : UInt64 := (768 : UInt64) <<< 20

/-- `MEM_MAPPED_IO_BASE` on x86_64: the MMIO hole ends at 4 GiB. -/
def memMappedIoBase : UInt64 := ((1 : UInt64) <<< 32) - memMappedIoSize

/-- `arch_ram_ranges` on x86_64: `(start, size)` of each RAM range. -/
def archRamRanges (memSize : UInt64) : List (UInt64 × UInt64) :=
  let gapStart := memMappedIoBase
  (0, min gapStart memSize) ::
    if memSize > gapStart then [(memMappedIoBase + memMappedIoSize, memSize - gapStart)] else []

theorem memMappedIoBase_toNat : memMappedIoBase.toNat = 3489660928 := rfl

theorem memMappedIoEnd_toNat : (memMappedIoBase + memMappedIoSize).toNat = 4294967296 :=
  rfl

/-- The ranges as intervals of naturals, `(start, size)`. -/
def ramIntervals (memSize : UInt64) : List (Nat × Nat) :=
  (archRamRanges memSize).map fun r => (r.1.toNat, r.2.toNat)

/-- The shape of the ranges around a hole `[g, g')`, for `n` bytes of memory. -/
def splitAround (g g' n : Nat) : List (Nat × Nat) :=
  (0, min g n) :: if g < n then [(g', n - g)] else []

/-- Over naturals the ranges are the memory split around the MMIO hole. -/
theorem ramIntervals_eq (memSize : UInt64) :
    ramIntervals memSize = splitAround memMappedIoBase.toNat
      (memMappedIoBase + memMappedIoSize).toNat memSize.toNat := by
  by_cases h : memMappedIoBase < memSize
  · simp [ramIntervals, archRamRanges, splitAround, h, ← uint64_lt_iff_toNat_lt,
      uint64_toNat_min, UInt64.toNat_sub_of_le _ _ (BitVec.le_def.mpr (Nat.le_of_lt h))]
  · simp [ramIntervals, archRamRanges, splitAround, h, ← uint64_lt_iff_toNat_lt,
      uint64_toNat_min]

/-- Splitting `n` bytes around a hole `[g, g')`: the first range starts at 0, each ends
before the next starts, none meets the hole, and the sizes add up to `n`. -/
theorem splitAround_layout {g g' n : Nat} (hg : g ≤ g') :
    (splitAround g g' n).head?.map Prod.fst = some 0 ∧
    (splitAround g g' n).Pairwise (fun a b => a.1 + a.2 ≤ b.1) ∧
    (∀ r ∈ splitAround g g' n, r.1 + r.2 ≤ g ∨ g' ≤ r.1) ∧
    ((splitAround g g' n).map Prod.snd).sum = n := by
  unfold splitAround
  split <;> simp <;> omega

/-- The RAM ranges of every memory size: the first starts at 0; each ends before the next
starts, so they are pairwise disjoint and ascending; none meets the MMIO hole
`[MEM_MAPPED_IO_BASE, MEM_MAPPED_IO_BASE + MEM_MAPPED_IO_SIZE)`; and their sizes add up to
the memory size. -/
theorem archRamRanges_layout (memSize : UInt64) :
    (ramIntervals memSize).head?.map Prod.fst = some 0 ∧
    (ramIntervals memSize).Pairwise (fun a b => a.1 + a.2 ≤ b.1) ∧
    (∀ r ∈ ramIntervals memSize, r.1 + r.2 ≤ memMappedIoBase.toNat ∨
      (memMappedIoBase + memMappedIoSize).toNat ≤ r.1) ∧
    ((ramIntervals memSize).map Prod.snd).sum = memSize.toNat := by
  rw [ramIntervals_eq]
  exact splitAround_layout (by rw [memMappedIoBase_toNat, memMappedIoEnd_toNat]; decide)

end StratoVirt
