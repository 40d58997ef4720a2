import StratoVirt.Qmp.Json

/-!
# Integers as text

Three formats of Rust's core library that the machine code uses on integers: `{}`, which
is `Json.decimal`; `{:x}`, which names the device-tree nodes of the vCPUs and of the MMIO
devices (`lowerHex`); and `usize::from_str_radix`, which reads the slot of `device_add`
(`fromStrRadix`).

`from_str_radix` accepts exactly an optional `+` and one digit of the radix or more, and
answers their value when it fits in 64 bits (`fromStrRadix_digits`).  It reads `{:x}` back
(`fromStrRadix_lowerHex`), and neither `{}` nor `{:x}` writes two numbers the same way
(`decimal_injective`, `lowerHex_injective`).

## What is transcribed and what is ours

* The three live in `core`, not in the source.  They are modelled after its
  documentation, for unsigned integers on a 64-bit target, where `usize` is `u64`.
* `{:x}` writes lowercase digits, most significant first, with no prefix; `0` is `"0"`.
* `from_str_radix` fails on an empty string, on a lone `+`, on a character that is not a
  digit of the radix (`char::to_digit`), and where `checked_mul` or `checked_add`
  overflows.  Its error kinds are not modelled: the code only asks whether it failed.
-/

namespace StratoVirt

namespace Format

open Json

/-! ## `{:x}` -/

/-- The last `fuel` hexadecimal digits of `n` at most, most significant first. -/
def hexAux : Nat → Nat → List Char
  | 0, _ => []
  | fuel + 1, n => (if n < 16 then [] else hexAux fuel (n / 16)) ++ [hexDigit (n % 16)]

/-- `format!("{:x}", n)`. -/
def lowerHex (n : Nat) : List Char := hexAux (n + 1) n

/-! ## `from_str_radix` -/

/-- `char::to_digit(radix)`, for a radix of 36 at most. -/
def toDigit (c : Char) (radix : Nat) : Option Nat :=
  let val? : Option Nat :=
    if '0' ≤ c ∧ c ≤ '9' then some (c.toNat - '0'.toNat)
    else if 'a' ≤ c ∧ c ≤ 'z' then some (c.toNat - 'a'.toNat + 10)
    else if 'A' ≤ c ∧ c ≤ 'Z' then some (c.toNat - 'A'.toNat + 10)
    else none
  val?.bind fun val => if val < radix then some val else none

/-- `u64::checked_mul` and `u64::checked_add`: the exact result, when it is below 2^64. -/
def checked (v : Nat) : Option Nat := if v < UInt64.size then some v else none

/-- One turn of `from_str_radix`'s loop: `result = result.checked_mul(radix)?`, then
`result = result.checked_add(x)?`. -/
def radixStep (radix result : Nat) (c : Char) : Option Nat := do
  let x ← toDigit c radix
  let result ← checked (result * radix)
  checked (result + x)

/-- `usize::from_str_radix(src, radix)`, `Ok` as `some`. -/
def fromStrRadix (src : List Char) (radix : Nat) : Option UInt64 :=
  match src with
  | [] => none
  | c :: r =>
    let digits := if c = '+' then r else c :: r
    if digits = [] then none else (digits.foldlM (radixStep radix) 0).map UInt64.ofNat

/-- The value of a list of digits of the radix, most significant first. -/
def digitsValue (radix : Nat) (ds : List Char) : Nat :=
  ds.foldl (fun acc c => acc * radix + (toDigit c radix).getD 0) 0

theorem digitsValue_append_singleton (radix : Nat) (ds : List Char) (c : Char) :
    digitsValue radix (ds ++ [c]) = digitsValue radix ds * radix + (toDigit c radix).getD 0 := by
  simp only [digitsValue, List.foldl_append, List.foldl_cons, List.foldl_nil]

/-- `+` is no digit. -/
theorem toDigit_plus (radix : Nat) : toDigit '+' radix = none := rfl

/-! ## What `from_str_radix` accepts -/

/-- The two checks of a turn overflow together: the product overflows only if the sum
does. -/
theorem checked_mul_add (a radix x : Nat) :
    (checked (a * radix) >>= fun r => checked (r + x)) = checked (a * radix + x) := by
  unfold checked
  by_cases h : a * radix < UInt64.size
  · rw [if_pos h]; rfl
  · rw [if_neg h, if_neg (by omega)]; rfl

theorem radixStep_of_toDigit {radix a x : Nat} {c : Char} (h : toDigit c radix = some x) :
    radixStep radix a c = checked (a * radix + x) := by
  simp only [radixStep, h, Option.pure_def, Option.bind_eq_bind, Option.some_bind]
  exact checked_mul_add a radix x

/-- Reading digits never makes the value smaller. -/
theorem le_foldl_digits {radix : Nat} (hr : 0 < radix) :
    ∀ (ds : List Char) (acc : Nat),
      acc ≤ ds.foldl (fun acc c => acc * radix + (toDigit c radix).getD 0) acc
  | [], _ => Nat.le_refl _
  | c :: ds, acc => Nat.le_trans (by nlinarith) (le_foldl_digits hr ds _)

/-- The loop of `from_str_radix` over digits of the radix: the value, if it fits. -/
theorem foldlM_radixStep {radix : Nat} (hr : 0 < radix) :
    ∀ (ds : List Char) (acc : Nat), acc < UInt64.size → (∀ c ∈ ds, (toDigit c radix).isSome) →
      ds.foldlM (radixStep radix) acc =
        checked (ds.foldl (fun acc c => acc * radix + (toDigit c radix).getD 0) acc)
  | [], acc, hacc, _ => by simp [checked, hacc]
  | c :: ds, acc, _, hds => by
    obtain ⟨x, hx⟩ := Option.isSome_iff_exists.mp (hds c (List.mem_cons_self c ds))
    have hds' : ∀ c ∈ ds, (toDigit c radix).isSome := fun c' h => hds c' (List.mem_cons_of_mem c h)
    rw [List.foldlM_cons, radixStep_of_toDigit hx, List.foldl_cons, hx, Option.getD_some]
    by_cases h : acc * radix + x < UInt64.size
    · rw [show checked (acc * radix + x) = some (acc * radix + x) from if_pos h]
      exact foldlM_radixStep hr ds _ h hds'
    · have hge := le_foldl_digits hr ds (acc * radix + x)
      rw [show checked (acc * radix + x) = none from if_neg h]
      exact (if_neg (by omega)).symm

/-- `from_str_radix` of an optional `+` and one digit of the radix or more: their value,
when it is below 2^64, and a failure otherwise. -/
theorem fromStrRadix_digits {radix : Nat} (hr : 0 < radix) {ds : List Char} (hne : ds ≠ [])
    (hds : ∀ c ∈ ds, (toDigit c radix).isSome) (plus : Bool) :
    fromStrRadix ((if plus then ['+'] else []) ++ ds) radix =
      (checked (digitsValue radix ds)).map UInt64.ofNat := by
  obtain ⟨c, r, rfl⟩ := List.exists_cons_of_ne_nil hne
  have hc : c ≠ '+' := fun h => by
    have := hds c (List.mem_cons_self c r)
    rw [h, toDigit_plus] at this
    exact absurd this Bool.false_ne_true
  cases plus <;>
    simp only [fromStrRadix, if_true, if_false, hc, List.nil_append, List.singleton_append,
      reduceCtorEq, digitsValue, foldlM_radixStep hr _ 0 (by decide) hds]

/-! ## `{:x}` read back -/

theorem toDigit_hexDigit : ∀ d < 16, toDigit (hexDigit d) 16 = some d := by
  decide

theorem hexAux_digits : ∀ (fuel n : Nat), ∀ c ∈ hexAux fuel n, ∃ d < 16, c = hexDigit d
  | 0, _ => by simp [hexAux]
  | fuel + 1, n => by
    intro c hc
    simp only [hexAux, List.mem_append, List.mem_singleton] at hc
    rcases hc with hc | rfl
    · split at hc
      · simp at hc
      · exact hexAux_digits fuel (n / 16) c hc
    · exact ⟨n % 16, Nat.mod_lt n (by omega), rfl⟩

theorem hexAux_value : ∀ {fuel n : Nat}, n < fuel → digitsValue 16 (hexAux fuel n) = n
  | 0, _, h => absurd h (Nat.not_lt_zero _)
  | fuel + 1, n, h => by
    have hd : (toDigit (hexDigit (n % 16)) 16).getD 0 = n % 16 := by
      rw [toDigit_hexDigit _ (Nat.mod_lt n (by omega)), Option.getD_some]
    rw [hexAux, digitsValue_append_singleton, hd]
    split
    · show 0 * 16 + n % 16 = n; omega
    · rw [hexAux_value (by omega)]; omega

theorem lowerHex_ne_nil (n : Nat) : lowerHex n ≠ [] := by
  simp [lowerHex, hexAux]

/-- Every character `{:x}` writes is a hexadecimal digit. -/
theorem toDigit_lowerHex {n : Nat} : ∀ c ∈ lowerHex n, (toDigit c 16).isSome := fun c hc => by
  obtain ⟨d, hd, rfl⟩ := hexAux_digits _ _ c hc
  rw [toDigit_hexDigit d hd]
  rfl

/-- `from_str_radix(&format!("{:x}", n), 16)` is `n`. -/
theorem fromStrRadix_lowerHex (n : UInt64) : fromStrRadix (lowerHex n.toNat) 16 = some n := by
  have h := fromStrRadix_digits (by decide) (lowerHex_ne_nil n.toNat) toDigit_lowerHex false
  rw [if_neg Bool.false_ne_true, List.nil_append, lowerHex, hexAux_value (Nat.lt_succ_self _),
    checked, if_pos n.toNat_lt_size] at h
  rw [lowerHex, h, Option.map_some', UInt64.toNat.inj (UInt64.toNat_ofNat_of_lt n.toNat_lt_size)]

theorem lowerHex_injective {a b : Nat} (h : lowerHex a = lowerHex b) : a = b := by
  have ha := @hexAux_value (a + 1) a (Nat.lt_succ_self a)
  have hb := @hexAux_value (b + 1) b (Nat.lt_succ_self b)
  rw [← ha, ← hb]
  exact congrArg (digitsValue 16) h

theorem decimal_injective {a b : Nat} (h : decimal a = decimal b) : a = b := by
  have ha := @decimalAux_value (a + 1) a (Nat.lt_succ_self a)
  have hb := @decimalAux_value (b + 1) b (Nat.lt_succ_self b)
  rw [← ha, ← hb]
  exact congrArg (fun ds => ds.foldl digitStep 0) h

end Format

end StratoVirt
