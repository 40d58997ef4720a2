import StratoVirt.Machine.State
import Mathlib.Data.Vector.Basic

/-!
# The zero page and its E820 table

`BootParams` (`boot_loader/src/x86_64/bootparam.rs`) is the x86 zero page: a packed record
of the kernel's real-mode header, the E820 memory map and the fields around them.
`BootParams::new` zeroes it but for the header, and `add_e820_entry` writes its entry at
index `e820_entries` and counts it.

From `BootParams::new(h)`, any `k ≤ 128` calls leave `e820_entries = k`, the `k` entries in
call order at the head of the table and zeros after them, and every other field as `new`
left it (`add_e820_entries_from_new`).  `add_e820_entry` checks no capacity of its own: the
129th call panics on Rust's bounds check of `e820_table[128]`
(`add_e820_entries_overflow_panics`).

## What is transcribed and what is ours

* `RealModeKernelHeader`, `E820Entry` and `BootParams` are transcribed field by field, the
  byte arrays as vectors of their lengths; `Default` (derived for the header, `mem::zeroed`
  for `BootParams`) is the field defaults, all zero.  `new` and `add_e820_entry` are
  transcribed.
* `add_e820_entry` indexes the table before it increments the `u8` count, so the increment
  runs only below 128 and never wraps.
* `impl ByteCode for BootParams`, which writes the record to guest memory, is not
  modelled: `ByteCode::as_bytes` lives in `util`, which is not in the source.
-/

namespace StratoVirt

/-- `E820_RAM`. -/
def e820Ram : UInt32 := 1

/-- `E820_RESERVED`. -/
def e820Reserved : UInt32 := 2

/-- `RealModeKernelHeader`, `#[repr(C, packed)]`; every field defaults to 0. -/
structure RealModeKernelHeader where
  setupSects : UInt8 := 0
  rootFlags : UInt16 := 0
  syssize : UInt32 := 0
  ramSize : UInt16 := 0
  vidMode : UInt16 := 0
  rootDev : UInt16 := 0
  bootFlag : UInt16 := 0
  jump : UInt16 := 0
  header : UInt32 := 0
  version : UInt16 := 0
  realmodeSwtch : UInt32 := 0
  startSysSeg : UInt16 := 0
  kernelVersion : UInt16 := 0
  typeOfLoader : UInt8 := 0
  loadflags : UInt8 := 0
  setupMoveSize : UInt16 := 0
  code32Start : UInt32 := 0
  ramdiskImage : UInt32 := 0
  ramdiskSize : UInt32 := 0
  bootsectKludge : UInt32 := 0
  heapEndPtr : UInt16 := 0
  extLoaderVer : UInt8 := 0
  extLoaderType : UInt8 := 0
  cmdlinePtr : UInt32 := 0
  initrdAddrMax : UInt32 := 0
  kernelAlignment : UInt32 := 0
  relocatableKernel : UInt8 := 0
  minAlignment : UInt8 := 0
  xloadflags : UInt16 := 0
  cmdlineSize : UInt32 := 0
  hardwareSubarch : UInt32 := 0
  hardwareSubarchData : UInt64 := 0
  payloadOffset : UInt32 := 0
  payloadLength : UInt32 := 0
  setupData : UInt64 := 0
  prefAddress : UInt64 := 0
  initSize : UInt32 := 0
  handoverOffset : UInt32 := 0
  kernelInfoOffset : UInt32 := 0

/-- `RealModeKernelHeader::new`: the boot flag, the `HdrS` magic, an undefined loader, the
command line and the ramdisk; the rest `Default`. -/
def RealModeKernelHeader.new (cmdlinePtr cmdlineSize ramdiskImage ramdiskSize : UInt32) :
    RealModeKernelHeader :=
  { bootFlag := 0xaa55, header := 0x53726448, typeOfLoader := 0xff, cmdlinePtr, cmdlineSize,
    ramdiskImage, ramdiskSize }

/-- `E820Entry`, `#[repr(C, packed)]`; every field defaults to 0. -/
structure E820Entry where
  addr : UInt64 := 0
  size : UInt64 := 0
  type_ : UInt32 := 0
deriving DecidableEq, Repr

/-- `BootParams`, `#[repr(C, packed)]`; every field defaults to 0, as `mem::zeroed` gives
it. -/
structure BootParams where
  screenInfo : Mathlib.Vector UInt8 0x40 := .replicate _ 0
  apmBiosInfo : Mathlib.Vector UInt8 0x14 := .replicate _ 0
  pad1 : UInt32 := 0
  tbootAddr : Mathlib.Vector UInt8 0x8 := .replicate _ 0
  istInfo : Mathlib.Vector UInt8 0x10 := .replicate _ 0
  pad2 : Mathlib.Vector UInt8 0x10 := .replicate _ 0
  hd0Info : Mathlib.Vector UInt8 0x10 := .replicate _ 0
  hd1Info : Mathlib.Vector UInt8 0x10 := .replicate _ 0
  sysDescTable : Mathlib.Vector UInt8 0x10 := .replicate _ 0
  olpcOfwHeader : Mathlib.Vector UInt8 0x10 := .replicate _ 0
  extRamdiskImage : UInt32 := 0
  extRamdiskSize : UInt32 := 0
  extCmdLinePtr : UInt32 := 0
  pad3 : Mathlib.Vector UInt8 0x74 := .replicate _ 0
  edidInfo : Mathlib.Vector UInt8 0x80 := .replicate _ 0
  efiInfo : Mathlib.Vector UInt8 0x20 := .replicate _ 0
  altMemK : UInt32 := 0
  scratch : UInt32 := 0
  e820Entries : UInt8 := 0
  eddbufEntries : UInt8 := 0
  eddMbrSigBufEntries : UInt8 := 0
  kbdStatus : UInt8 := 0
  secureBoot : UInt8 := 0
  pad4 : UInt16 := 0
  sentinel : UInt8 := 0
  pad5 : UInt8 := 0
  kernelHeader : RealModeKernelHeader := {}
  pad6 : Mathlib.Vector UInt8 0x24 := .replicate _ 0
  eddMbrSigBuffer : Mathlib.Vector UInt8 0x40 := .replicate _ 0
  e820Table : Mathlib.Vector E820Entry 0x80 := .replicate _ {}
  pad8 : Mathlib.Vector UInt8 0x30 := .replicate _ 0
  eddbuf : Mathlib.Vector UInt8 0x1ec := .replicate _ 0

namespace BootParams

/-- `BootParams::default`, `mem::zeroed()`. -/
def default : BootParams := {}

/-- `BootParams::new`. -/
def new (kernelHeader : RealModeKernelHeader) : BootParams := { default with kernelHeader }

@[simp] theorem new_e820Entries (h : RealModeKernelHeader) : (new h).e820Entries = 0 := rfl

@[simp] theorem new_e820Table_toList (h : RealModeKernelHeader) :
    (new h).e820Table.toList = List.replicate 0x80 {} := rfl

/-- `BootParams::add_e820_entry`: write the entry at index `e820_entries`, which Rust checks
against the table's 128 entries, then count it in the `u8`. -/
def addE820Entry (bp : BootParams) (addr size : UInt64) (type_ : UInt32) :
    Except Panic BootParams :=
  if h : bp.e820Entries.toNat < 0x80 then
    .ok { bp with
      e820Table := bp.e820Table.set ⟨bp.e820Entries.toNat, h⟩ { addr, size, type_ }
      e820Entries := bp.e820Entries + 1 }
  else .error (.indexOutOfBounds bp.e820Entries.toNat 0x80)

/-- `add_e820_entry` calls one after the other, one per entry, stopping at a panic. -/
def addE820Entries (bp : BootParams) (entries : List E820Entry) : Except Panic BootParams :=
  entries.foldlM (fun bp e => bp.addE820Entry e.addr e.size e.type_) bp

theorem addE820Entries_cons (bp : BootParams) (e : E820Entry) (es : List E820Entry) :
    bp.addE820Entries (e :: es) =
      bp.addE820Entry e.addr e.size e.type_ >>= fun bp' => bp'.addE820Entries es := rfl

theorem addE820Entries_append (bp : BootParams) (es es' : List E820Entry) :
    bp.addE820Entries (es ++ es') = bp.addE820Entries es >>= fun bp' => bp'.addE820Entries es' :=
  List.foldlM_append _ _ _ _

/-! ## One call -/

/-- Below 128 entries, `add_e820_entry` writes the entry at the count and counts it. -/
theorem addE820Entry_of_lt {bp : BootParams} (h : bp.e820Entries.toNat < 0x80)
    (e : E820Entry) :
    bp.addE820Entry e.addr e.size e.type_ =
      .ok { bp with
        e820Table := bp.e820Table.set ⟨bp.e820Entries.toNat, h⟩ e
        e820Entries := bp.e820Entries + 1 } :=
  dif_pos h

/-- With 128 entries, `add_e820_entry` panics on the bounds check of `e820_table[128]`. -/
theorem addE820Entry_full_panics {bp : BootParams} (h : bp.e820Entries.toNat = 0x80)
    (addr size : UInt64) (type_ : UInt32) :
    bp.addE820Entry addr size type_ = .error (.indexOutOfBounds 0x80 0x80) := by
  rw [addE820Entry, dif_neg (by omega), h]

/-- The count, below 128, goes up by one without wrapping. -/
theorem toNat_succ_of_lt {n : UInt8} (h : n.toNat < 0x80) : (n + 1).toNat = n.toNat + 1 := by
  show (n.toNat + 1) % 256 = _
  exact Nat.mod_eq_of_lt (by omega)

/-- Writing `a` at index `j`, then taking the first `j + 1` elements, gives the first `j`
and `a`. -/
theorem take_succ_set {α : Type} {l : List α} {j : Nat} (hj : j < l.length) (a : α) :
    (l.set j a).take (j + 1) = l.take j ++ [a] := by
  rw [List.set_eq_take_cons_drop a hj, List.take_append_eq_append_take,
    List.take_of_length_le (by simp)]
  simp [Nat.min_eq_left (Nat.le_of_lt hj)]

/-! ## A run of calls -/

/-- From any zero page with `j` entries, `k` more calls with `j + k ≤ 128` leave
`j + k` entries: the `j` there were, the calls' entries in order, and the rest of the table
as it was; every other field is as it was. -/
theorem addE820Entries_spec :
    ∀ (es : List E820Entry) (bp : BootParams), bp.e820Entries.toNat + es.length ≤ 0x80 →
      ∃ bp', bp.addE820Entries es = .ok bp' ∧
        bp'.e820Entries.toNat = bp.e820Entries.toNat + es.length ∧
        bp'.e820Table.toList = bp.e820Table.toList.take bp.e820Entries.toNat ++ es ++
          bp.e820Table.toList.drop (bp.e820Entries.toNat + es.length) ∧
        { bp' with e820Entries := bp.e820Entries, e820Table := bp.e820Table } = bp
  | [], bp, _ => ⟨bp, rfl, rfl, by simp, rfl⟩
  | e :: es, bp, hk => by
    have hj : bp.e820Entries.toNat < 0x80 := by simp only [List.length_cons] at hk; omega
    have hcount := toNat_succ_of_lt hj
    obtain ⟨bp', hrun, hn, htable, hframe⟩ := addE820Entries_spec es
      { bp with
        e820Table := bp.e820Table.set ⟨bp.e820Entries.toNat, hj⟩ e
        e820Entries := bp.e820Entries + 1 }
      (by simp only [hcount, List.length_cons] at hk ⊢; omega)
    refine ⟨bp', ?_, ?_, ?_, ?_⟩
    · rw [addE820Entries_cons, addE820Entry_of_lt hj, except_ok_bind]
      exact hrun
    · rw [hn, hcount, List.length_cons]; omega
    · simp only [hcount, Mathlib.Vector.toList_set] at htable
      rw [htable, take_succ_set (by simpa using hj), List.drop_set, if_pos (by omega),
        List.length_cons, Nat.add_right_comm, Nat.add_assoc]
      simp
    · -- the other fields are those of the state before the first call
      exact congrArg (fun x : BootParams =>
        { x with e820Entries := bp.e820Entries, e820Table := bp.e820Table }) hframe

end BootParams

/-- From `BootParams::new(h)`, any `k ≤ 128` calls of `add_e820_entry` succeed and leave
`e820_entries = k`, the table holding the calls' entries in call order and zero entries
after them, and every other field, the kernel header `h` included, as `new` left it. -/
theorem add_e820_entries_from_new (h : RealModeKernelHeader) (es : List E820Entry)
    (hk : es.length ≤ 0x80) :
    ∃ bp, (BootParams.new h).addE820Entries es = .ok bp ∧
      bp.e820Entries.toNat = es.length ∧
      bp.e820Table.toList = es ++ List.replicate (0x80 - es.length) ({} : E820Entry) ∧
      bp.kernelHeader = h ∧
      { bp with e820Entries := 0, e820Table := BootParams.default.e820Table } = BootParams.new h := by
  obtain ⟨bp, hrun, hn, htable, hframe⟩ :=
    BootParams.addE820Entries_spec es (BootParams.new h) (by simpa using hk)
  refine ⟨bp, hrun, by simpa using hn, ?_, congrArg BootParams.kernelHeader hframe, hframe⟩
  simp only [htable, BootParams.new_e820Table_toList, BootParams.new_e820Entries, UInt8.toNat_zero,
    List.take_zero, List.nil_append, Nat.zero_add, List.drop_replicate]

/-- `add_e820_entries_from_new` on the four entries of the test of `setup_boot_params`: the
real-mode RAM, the EBDA, the BIOS marker and the RAM above 1 MiB. -/
theorem add_e820_entries_from_new_test :
    let es : List E820Entry :=
      [⟨0, 0x9fc00, e820Ram⟩, ⟨0x9fc00, 0x400, e820Reserved⟩, ⟨0xf0000, 0, e820Reserved⟩,
        ⟨0x100000, 0xff00000, e820Ram⟩]
    es.length ≤ 0x80 ∧
      ∃ bp, (BootParams.new {}).addE820Entries es = .ok bp ∧
        bp.e820Entries.toNat = es.length ∧
        bp.e820Table.toList = es ++ List.replicate (0x80 - es.length) ({} : E820Entry) ∧
        bp.kernelHeader = {} ∧
        { bp with e820Entries := 0, e820Table := BootParams.default.e820Table } =
          BootParams.new {} := by
  intro es
  exact ⟨by decide, add_e820_entries_from_new {} es (by decide)⟩

/-- `add_e820_entry` checks no capacity of its own: from `BootParams::new(h)`, a run of more
than 128 calls panics at the 129th, on Rust's bounds check of `e820_table[128]`, and never
writes past the table. -/
theorem add_e820_entries_overflow_panics (h : RealModeKernelHeader) (es : List E820Entry)
    (hk : 0x80 < es.length) :
    (BootParams.new h).addE820Entries es = .error (.indexOutOfBounds 0x80 0x80) := by
  obtain ⟨bp, hrun, hn, -, -⟩ :=
    BootParams.addE820Entries_spec (es.take 0x80) (BootParams.new h) (by simp)
  obtain ⟨e, rest, hdrop⟩ := List.exists_cons_of_ne_nil (l := es.drop 0x80) (by simp; omega)
  have hfull : bp.e820Entries.toNat = 0x80 := by simpa [Nat.min_eq_left hk.le] using hn
  rw [← List.take_append_drop 0x80 es, BootParams.addE820Entries_append, hrun, except_ok_bind,
    hdrop, BootParams.addE820Entries_cons, BootParams.addE820Entry_full_panics hfull,
    except_error_bind]

end StratoVirt
