import Mathlib

/-!
# JSON values and their text, as serde_json writes and reads them

`serde_json::Value`, the compact writer `serde_json::to_string` and the reader
`serde_json::from_str`, as far as the QMP responses of `machine_manager/src/qmp/mod.rs`
use them.  serde_json is not in the source; its behaviour is transcribed from its
documented format.

## What is transcribed and what is ours

* Numbers are serde_json's integer numbers, an `i64` or a `u64` (`Number` carries the
  range).  A number text with a fraction or an exponent reads as an `f64`, and so does
  `-0`; floating-point numbers are not modelled, and reading one fails here.
* The writer escapes `"`, `\` and the control characters below `0x20` (`\b \t \n \f \r`
  by name, the others as `\u00xx` with lowercase hex digits), and writes every other
  character as it is.
* The reader keeps an object's members in the order of the text (`parseValue`); a
  `serde_json::Value` object is a map with sorted keys, where a later duplicate replaces an
  earlier one (`Value.toMap`).  A struct read by serde's derived `Deserialize` reads the
  members in text order instead, which is why the two are apart.
* The reader enters at most 127 levels of arrays and objects: a fresh deserializer has a
  `remaining_depth` of 128 (`recursionLimit`), counted down on every `[` and `\x7b`, and
  a count that reaches 0 is `RecursionLimitExceeded`.
-/

namespace StratoVirt

namespace Json

/-- An integer `serde_json::Number`: an `i64` or a `u64`. -/
structure Number where
  val : Int
  inRange : -2 ^ 63 ≤ val ∧ val < 2 ^ 64
deriving DecidableEq

instance : Repr Number := ⟨fun n _ => repr n.val⟩

/-- The number `v`, if it is an `i64` or a `u64`. -/
def Number.ofInt? (v : Int) : Option Number :=
  if h : -2 ^ 63 ≤ v ∧ v < 2 ^ 64 then some ⟨v, h⟩ else none

/-- `serde_json::Value`, with the members of an object in a list. -/
inductive Value where
  | null
  | bool (b : Bool)
  | number (n : Number)
  | string (s : String)
  | array (elems : List Value)
  | object (members : List (String × Value))
deriving Repr

mutual

/-- Equality of values is decidable, member by member. -/
def Value.decEq : (a b : Value) → Decidable (a = b)
  | .null, .null => isTrue rfl
  | .bool a, .bool b => if h : a = b then isTrue (h ▸ rfl) else isFalse (by intro e; cases e; exact h rfl)
  | .number a, .number b => if h : a = b then isTrue (h ▸ rfl) else isFalse (by intro e; cases e; exact h rfl)
  | .string a, .string b => if h : a = b then isTrue (h ▸ rfl) else isFalse (by intro e; cases e; exact h rfl)
  | .array a, .array b =>
    match Value.decEqList a b with
    | isTrue h => isTrue (h ▸ rfl)
    | isFalse h => isFalse (by intro e; cases e; exact h rfl)
  | .object a, .object b =>
    match Value.decEqMembers a b with
    | isTrue h => isTrue (h ▸ rfl)
    | isFalse h => isFalse (by intro e; cases e; exact h rfl)
  | .null, .bool _ | .null, .number _ | .null, .string _ | .null, .array _ | .null, .object _
  | .bool _, .null | .bool _, .number _ | .bool _, .string _ | .bool _, .array _ | .bool _, .object _
  | .number _, .null | .number _, .bool _ | .number _, .string _ | .number _, .array _
  | .number _, .object _ | .string _, .null | .string _, .bool _ | .string _, .number _
  | .string _, .array _ | .string _, .object _ | .array _, .null | .array _, .bool _
  | .array _, .number _ | .array _, .string _ | .array _, .object _ | .object _, .null
  | .object _, .bool _ | .object _, .number _ | .object _, .string _ | .object _, .array _ =>
    isFalse (by intro e; cases e)

def Value.decEqList : (a b : List Value) → Decidable (a = b)
  | [], [] => isTrue rfl
  | [], _ :: _ | _ :: _, [] => isFalse (by intro e; cases e)
  | x :: xs, y :: ys =>
    match Value.decEq x y, Value.decEqList xs ys with
    | isTrue h₁, isTrue h₂ => isTrue (h₁ ▸ h₂ ▸ rfl)
    | isFalse h₁, _ => isFalse (by intro e; cases e; exact h₁ rfl)
    | _, isFalse h₂ => isFalse (by intro e; cases e; exact h₂ rfl)

def Value.decEqMembers : (a b : List (String × Value)) → Decidable (a = b)
  | [], [] => isTrue rfl
  | [], _ :: _ | _ :: _, [] => isFalse (by intro e; cases e)
  | (k, x) :: xs, (l, y) :: ys =>
    if hk : k = l then
      match Value.decEq x y, Value.decEqMembers xs ys with
      | isTrue h₁, isTrue h₂ => isTrue (hk ▸ h₁ ▸ h₂ ▸ rfl)
      | isFalse h₁, _ => isFalse (by intro e; cases e; exact h₁ rfl)
      | _, isFalse h₂ => isFalse (by intro e; cases e; exact h₂ rfl)
    else isFalse (by intro e; cases e; exact hk rfl)

end

instance : DecidableEq Value := Value.decEq

/-! ## Writing -/

/-- The ASCII digit of `d < 10`. -/
def digitChar (d : Nat) : Char := Char.ofNat (48 + d)

/-- The last `fuel` decimal digits of `n` at most, most significant first. -/
def decimalAux : Nat → Nat → List Char
  | 0, _ => []
  | fuel + 1, n => (if n < 10 then [] else decimalAux fuel (n / 10)) ++ [digitChar (n % 10)]

/-- `n` in decimal, as `itoa` writes it. -/
def decimal (n : Nat) : List Char := decimalAux (n + 1) n

/-- A number in decimal, with a minus sign if it is negative. -/
def Number.print (n : Number) : List Char :=
  if n.val < 0 then '-' :: decimal n.val.natAbs else decimal n.val.toNat

/-- The lowercase hex digit of `d < 16`. -/
def hexDigit (d : Nat) : Char := if d < 10 then digitChar d else Char.ofNat (87 + d)

/-- serde_json's escape of one character of a string. -/
def escapeChar (c : Char) : List Char :=
  if c = '"' then ['\\', '"']
  else if c = '\\' then ['\\', '\\']
  else if c.toNat = 8 then ['\\', 'b']
  else if c = '\t' then ['\\', 't']
  else if c = '\n' then ['\\', 'n']
  else if c.toNat = 12 then ['\\', 'f']
  else if c = '\r' then ['\\', 'r']
  else if c.toNat < 0x20 then ['\\', 'u', '0', '0', hexDigit (c.toNat / 16), hexDigit (c.toNat % 16)]
  else [c]

/-- A string in quotes, escaped. -/
def printString (s : String) : List Char :=
  '"' :: (s.toList.flatMap escapeChar ++ ['"'])

mutual

/-- `serde_json::to_string` of a value, as characters: no whitespace anywhere, the members
of an object in the order of the list (the braces are written `\x7b` and `\x7d`). -/
def Value.print : Value → List Char
  | .null => ['n', 'u', 'l', 'l']
  | .bool true => ['t', 'r', 'u', 'e']
  | .bool false => ['f', 'a', 'l', 's', 'e']
  | .number n => n.print
  | .string s => printString s
  | .array [] => ['[', ']']
  | .array (v :: vs) => '[' :: (v.print ++ printElemsTail vs)
  | .object [] => ['\x7b', '\x7d']
  | .object ((k, v) :: kvs) => '\x7b' :: (printString k ++ ':' :: (v.print ++ printMembersTail kvs))

/-- The elements of an array after the first, and the closing bracket. -/
def printElemsTail : List Value → List Char
  | [] => [']']
  | v :: vs => ',' :: (v.print ++ printElemsTail vs)

/-- The members of an object after the first, and the closing brace. -/
def printMembersTail : List (String × Value) → List Char
  | [] => ['\x7d']
  | (k, v) :: kvs => ',' :: (printString k ++ ':' :: (v.print ++ printMembersTail kvs))

end

/-- `serde_json::to_string` of a value. -/
def Value.toStr (v : Value) : String := String.mk v.print

/-! ## Reading -/

/-- JSON whitespace. -/
def isWs (c : Char) : Bool := c = ' ' || c = '\n' || c = '\t' || c = '\r'

/-- Skip whitespace. -/
def skipWs : List Char → List Char
  | c :: r => if isWs c then skipWs r else c :: r
  | [] => []

/-- Whether `c` is one of `0123456789`. -/
def isDigitChar (c : Char) : Bool := 48 ≤ c.toNat && c.toNat ≤ 57

/-- Read decimal digits onto `acc`. -/
def readDigits : Nat → List Char → Nat × List Char
  | acc, c :: r => if isDigitChar c then readDigits (acc * 10 + (c.toNat - 48)) r else (acc, c :: r)
  | acc, [] => (acc, [])

/-- Whether a number text goes on as a float (or, after a leading `0`, is malformed). -/
def continuesNumber : List Char → Bool
  | c :: _ => isDigitChar c || c = '.' || c = 'e' || c = 'E'
  | [] => false

/-- serde_json's integer grammar `-?(0|[1-9][0-9]*)`, read as an `i64` or a `u64`. -/
def parseNumber (cs : List Char) : Option (Number × List Char) :=
  let (neg, cs) : Bool × List Char := match cs with
    | '-' :: r => (true, r)
    | r => (false, r)
  match cs with
  | c :: r =>
    if isDigitChar c then
      let (n, r) := if c = '0' then (0, r) else readDigits (c.toNat - 48) r
      if continuesNumber r || (neg && n = 0) then none
      else (Number.ofInt? (if neg then -(n : Int) else n)).map fun x => (x, r)
    else none
  | [] => none

/-- The value of a hex digit. -/
def hexVal (c : Char) : Option Nat :=
  if isDigitChar c then some (c.toNat - 48)
  else if 97 ≤ c.toNat ∧ c.toNat ≤ 102 then some (c.toNat - 87)
  else if 65 ≤ c.toNat ∧ c.toNat ≤ 70 then some (c.toNat - 55)
  else none

/-- Four hex digits. -/
def hex4 (a b c d : Char) : Option Nat := do
  let a ← hexVal a
  let b ← hexVal b
  let c ← hexVal c
  let d ← hexVal d
  pure (((a * 16 + b) * 16 + c) * 16 + d)

/-- The character a one-letter escape stands for. -/
def unescape : Char → Option Char
  | '"' => some '"'
  | '\\' => some '\\'
  | '/' => some '/'
  | 'b' => some (Char.ofNat 8)
  | 'f' => some (Char.ofNat 12)
  | 'n' => some '\n'
  | 'r' => some '\r'
  | 't' => some '\t'
  | _ => none

/-- A `\\u` escape after its `u`: four hex digits, and for a high surrogate a second
`\\u` escape of a low surrogate. -/
def parseHexEscape : List Char → Option (Char × List Char)
  | a :: b :: c :: d :: r =>
    match hex4 a b c d with
    | some n =>
      if n < 0xD800 ∨ 0xDFFF < n then some (Char.ofNat n, r)
      else if n < 0xDC00 then
        match r with
        | s :: t :: a :: b :: c :: d :: r =>
          if s = '\\' ∧ t = 'u' then
            match hex4 a b c d with
            | some n₂ =>
              if 0xDC00 ≤ n₂ ∧ n₂ ≤ 0xDFFF then
                some (Char.ofNat (0x10000 + (n - 0xD800) * 0x400 + (n₂ - 0xDC00)), r)
              else none
            | none => none
          else none
        | _ => none
      else none
    | none => none
  | _ => none

/-- An escape after its backslash. -/
def parseEscape : List Char → Option (Char × List Char)
  | e :: r => if e = 'u' then parseHexEscape r else (unescape e).map fun ch => (ch, r)
  | [] => none

/-- The rest of a string after its opening quote, onto the reversed characters `acc`:
escapes are decoded, and a raw control character is an error.  Each step reads at least
one character, so `fuel` is the length of the text. -/
def parseStringAux : Nat → List Char → List Char → Option (String × List Char)
  | 0, _, _ => none
  | _ + 1, _, [] => none
  | fuel + 1, acc, c :: r =>
    if c = '"' then some (String.mk acc.reverse, r)
    else if c = '\\' then
      match parseEscape r with
      | some (ch, r) => parseStringAux fuel (ch :: acc) r
      | none => none
    else if c.toNat < 0x20 then none
    else parseStringAux fuel (c :: acc) r

/-- A string after its opening quote. -/
def parseString (cs : List Char) : Option (String × List Char) :=
  parseStringAux cs.length [] cs

/-- The character `ch` after whitespace, and what follows it. -/
def token (ch : Char) (cs : List Char) : Option (List Char) :=
  match skipWs cs with
  | c :: r => if c = ch then some r else none
  | [] => none

/-- `remaining_depth` of a fresh `serde_json::Deserializer`: the levels of arrays and
objects it enters before it gives up with `RecursionLimitExceeded`. -/
def recursionLimit : Nat := 128

mutual

/-- A value, after whitespace, in text order.  `depth` is serde's `remaining_depth`: an
array or an object counts it down on entering (`check_recursion!`), and fails if that
leaves 0; `fuel` bounds the nesting and the number of elements. -/
def parseValue : Nat → Nat → List Char → Option (Value × List Char)
  | 0, _, _ => none
  | fuel + 1, depth, cs =>
    match skipWs cs with
    | [] => none
    | c :: r =>
      if c = 'n' then if r.take 3 = ['u', 'l', 'l'] then some (.null, r.drop 3) else none
      else if c = 't' then if r.take 3 = ['r', 'u', 'e'] then some (.bool true, r.drop 3) else none
      else if c = 'f' then
        if r.take 4 = ['a', 'l', 's', 'e'] then some (.bool false, r.drop 4) else none
      else if c = '"' then (parseString r).map fun x => (.string x.1, x.2)
      else if c = '[' then
        if depth - 1 = 0 then none
        else
          match token ']' r with
          | some r' => some (.array [], r')
          | none => parseElems fuel (depth - 1) [] r
      else if c = '\x7b' then
        if depth - 1 = 0 then none
        else
          match token '\x7d' r with
          | some r' => some (.object [], r')
          | none => parseMembers fuel (depth - 1) [] r
      else (parseNumber (c :: r)).map fun x => (.number x.1, x.2)

/-- The elements of an array from one on, after `acc`. -/
def parseElems : Nat → Nat → List Value → List Char → Option (Value × List Char)
  | 0, _, _, _ => none
  | fuel + 1, depth, acc, cs => do
    let (v, r) ← parseValue fuel depth cs
    match token ',' r with
    | some r' => parseElems fuel depth (acc ++ [v]) r'
    | none => (token ']' r).map fun r' => (.array (acc ++ [v]), r')

/-- The members of an object from one on, after `acc`. -/
def parseMembers : Nat → Nat → List (String × Value) → List Char → Option (Value × List Char)
  | 0, _, _, _ => none
  | fuel + 1, depth, acc, cs => do
    let (k, r) ← (token '"' cs).bind parseString
    let (v, r) ← (token ':' r).bind (parseValue fuel depth)
    match token ',' r with
    | some r' => parseMembers fuel depth (acc ++ [(k, v)]) r'
    | none => (token '\x7d' r).map fun r' => (.object (acc ++ [(k, v)]), r')

end

/-- A whole text: one value, whitespace around it, nothing else. -/
def parseText (s : String) : Option Value :=
  match parseValue (s.length + 1) recursionLimit s.toList with
  | some (v, r) => if skipWs r = [] then some v else none
  | none => none

mutual

/-- How deep arrays and objects nest in a value: the levels the reader enters. -/
def Value.depth : Value → Nat
  | .array vs => depthElems vs + 1
  | .object kvs => depthMembers kvs + 1
  | _ => 0

def depthElems : List Value → Nat
  | [] => 0
  | v :: vs => max v.depth (depthElems vs)

def depthMembers : List (String × Value) → Nat
  | [] => 0
  | (_, v) :: kvs => max v.depth (depthMembers kvs)

end

/-- The order of code points, lexicographic: `String`'s `Ord`, which compares the UTF-8
bytes, and UTF-8 keeps the order of code points. -/
def charsLt : List Char → List Char → Bool
  | [], _ :: _ => true
  | c :: cs, d :: ds => c.toNat < d.toNat || (c = d && charsLt cs ds)
  | _, [] => false

/-- The order of the keys of a `Map`. -/
def keyLt (k k' : String) : Bool := charsLt k.toList k'.toList

/-- `Map::insert`: a sorted association list, where a key already there takes the new
value. -/
def insertMember : List (String × Value) → String × Value → List (String × Value)
  | [], kv => [kv]
  | (k', v') :: kvs, (k, v) =>
    if keyLt k k' then (k, v) :: (k', v') :: kvs
    else if k = k' then (k, v) :: kvs
    else (k', v') :: insertMember kvs (k, v)

mutual

/-- The `serde_json::Value` a text-order value reads as: each object a map built by
inserting its members in order. -/
def Value.toMap : Value → Value
  | .array vs => .array (toMapList vs)
  | .object kvs => .object ((toMapMembers kvs).foldl insertMember [])
  | v => v

def toMapList : List Value → List Value
  | [] => []
  | v :: vs => v.toMap :: toMapList vs

def toMapMembers : List (String × Value) → List (String × Value)
  | [] => []
  | (k, v) :: kvs => (k, v.toMap) :: toMapMembers kvs

end

/-! ## Reading back what is written

The reader takes back every value the writer writes that nests less deep than its remaining
depth, and fails on every other one (`readsBack`), for any fuel at least the value's
`size`.  The steps are the characters of a string (`parseStringAux_escape`, one per case
of `escapeChar`), the digits of a number (`readDigits_decimal`), and, for arrays and
objects, an induction on their elements under the hypothesis that every smaller fuel reads
back every value. -/

theorem toNat_ofNat_of_lt {n : Nat} (h : n < 0xD800) : (Char.ofNat n).toNat = n := by
  simp [Char.ofNat, Char.ofNatAux, Nat.isValidChar, h, Char.toNat, UInt32.toNat]

theorem digitChar_toNat {d : Nat} (h : d < 10) : (digitChar d).toNat = 48 + d :=
  toNat_ofNat_of_lt (by omega)

theorem isDigitChar_digitChar {d : Nat} (h : d < 10) : isDigitChar (digitChar d) = true := by
  simp [isDigitChar, digitChar_toNat h]
  omega

/-- One step of `readDigits`. -/
def digitStep (acc : Nat) (c : Char) : Nat := acc * 10 + (c.toNat - 48)

/-- Reading digits up to a character that does not go on with the number. -/
theorem readDigits_append : ∀ {ds rest : List Char} {acc : Nat}, (∀ c ∈ ds, isDigitChar c = true) →
    continuesNumber rest = false → readDigits acc (ds ++ rest) = (ds.foldl digitStep acc, rest)
  | [], [], _, _, _ => rfl
  | [], c :: r, _, _, hrest => by
    simp only [continuesNumber, Bool.or_eq_false_iff] at hrest
    simp [readDigits, hrest.1.1.1]
  | d :: ds, _, _, hds, hrest => by
    simp only [List.cons_append, readDigits, hds d (List.mem_cons_self d ds), if_true,
      List.foldl_cons]
    exact readDigits_append (fun c hc => hds c (List.mem_cons_of_mem d hc)) hrest

theorem decimalAux_digits : ∀ (fuel n : Nat), ∀ c ∈ decimalAux fuel n, isDigitChar c = true
  | 0, _ => by simp [decimalAux]
  | fuel + 1, n => by
    intro c hc
    simp only [decimalAux, List.mem_append, List.mem_singleton] at hc
    rcases hc with hc | rfl
    · split at hc
      · simp at hc
      · exact decimalAux_digits fuel (n / 10) c hc
    · exact isDigitChar_digitChar (Nat.mod_lt n (by omega))

theorem decimalAux_value : ∀ {fuel n : Nat}, n < fuel → (decimalAux fuel n).foldl digitStep 0 = n
  | 0, _, h => absurd h (Nat.not_lt_zero _)
  | fuel + 1, n, h => by
    have hd : (digitChar (n % 10)).toNat - 48 = n % 10 := by
      rw [digitChar_toNat (Nat.mod_lt n (by omega))]; omega
    simp only [decimalAux, List.foldl_append, List.foldl_cons, List.foldl_nil, digitStep, hd]
    split
    · simp only [List.foldl_nil]; omega
    · rw [decimalAux_value (by omega)]; omega

/-- The first digit of a positive number is not `0`. -/
theorem decimalAux_head : ∀ {fuel n : Nat}, 0 < n → n < fuel →
    ∃ c t, decimalAux fuel n = c :: t ∧ c ≠ '0'
  | 0, _, _, h => absurd h (Nat.not_lt_zero _)
  | fuel + 1, n, hn, h => by
    simp only [decimalAux]
    split
    · refine ⟨_, _, rfl, fun e => ?_⟩
      have := congrArg Char.toNat e
      rw [digitChar_toNat (Nat.mod_lt n (by omega))] at this
      have : '0'.toNat = 48 := rfl
      omega
    · obtain ⟨c, t, ht, hc⟩ := @decimalAux_head fuel (n / 10) (by omega) (by omega)
      exact ⟨c, t ++ [digitChar (n % 10)], by rw [ht]; rfl, hc⟩

/-- Reading back the digits of `k`, after a minus sign if `neg`. -/
theorem parseNumber_decimal {neg : Bool} {k : Nat} (hk : neg = true → 0 < k) {rest : List Char}
    (hrest : continuesNumber rest = false) :
    parseNumber ((if neg then ['-'] else []) ++ decimal k ++ rest) =
      (Number.ofInt? (if neg then -(k : Int) else k)).map fun x => (x, rest) := by
  rcases Nat.eq_zero_or_pos k with rfl | hpos
  · have hneg : neg = false := by cases neg <;> simp_all
    subst hneg
    simp [parseNumber, decimal, decimalAux, hrest, show digitChar 0 = '0' from rfl,
      show isDigitChar '0' = true from rfl]
  obtain ⟨c, t, ht, hc⟩ := @decimalAux_head (k + 1) k hpos (by omega)
  have hdig := decimalAux_digits (k + 1) k
  rw [ht] at hdig
  rw [decimal, ht]
  have hcd : isDigitChar c = true := hdig c (List.mem_cons_self c t)
  have hval := @decimalAux_value (k + 1) k (by omega)
  rw [ht] at hval
  have hread := @readDigits_append t rest (c.toNat - 48)
    (fun x hx => hdig x (List.mem_cons_of_mem c hx)) hrest
  have hminus : c ≠ '-' := by rintro rfl; exact absurd hcd (by decide)
  simp only [List.foldl_cons, digitStep, Nat.zero_mul, Nat.zero_add] at hval
  cases neg <;> simp [parseNumber, hcd, hc, hminus, hread, hval, hrest, Nat.pos_iff_ne_zero.mp hpos]

theorem Number.ofInt?_val (n : Number) : Number.ofInt? n.val = some n := by
  simp only [Number.ofInt?, dif_pos n.inRange]

/-- Reading a number back. -/
theorem parseNumber_print (n : Number) {rest : List Char} (hrest : continuesNumber rest = false) :
    parseNumber (n.print ++ rest) = some (n, rest) := by
  unfold Number.print
  split
  · have h := @parseNumber_decimal true n.val.natAbs (fun _ => by omega) rest hrest
    rw [if_pos rfl, if_pos rfl, show -(n.val.natAbs : Int) = n.val by omega, Number.ofInt?_val] at h
    exact h
  · have h := @parseNumber_decimal false n.val.toNat (fun h => absurd h Bool.false_ne_true) rest hrest
    rw [if_neg Bool.false_ne_true, if_neg Bool.false_ne_true,
      show ((n.val.toNat : Nat) : Int) = n.val by omega, Number.ofInt?_val] at h
    exact h

/-! ### Strings -/

theorem hexVal_hexDigit {d : Nat} (h : d < 16) : hexVal (hexDigit d) = some d := by
  by_cases hd : d < 10
  · rw [hexDigit, if_pos hd, hexVal, if_pos (isDigitChar_digitChar hd), digitChar_toNat hd]
    congr 1
    omega
  · have hc : (Char.ofNat (87 + d)).toNat = 87 + d := toNat_ofNat_of_lt (by omega)
    have hnd : isDigitChar (Char.ofNat (87 + d)) = false := by
      rw [isDigitChar, hc]
      simp only [Bool.and_eq_false_iff, decide_eq_false_iff_not]
      omega
    rw [hexDigit, if_neg hd, hexVal, hnd, if_neg Bool.false_ne_true, hc, if_pos (by omega)]
    congr 1
    omega

/-- One character, escaped and read back: a one-letter escape, a `\u00xx` escape of a
control character, or the character itself. -/
theorem parseStringAux_escape (c : Char) (fuel : Nat) (acc r : List Char) :
    parseStringAux (fuel + 1) acc (escapeChar c ++ r) = parseStringAux fuel (c :: acc) r := by
  by_cases h₁ : c = '"'
  · subst h₁; rfl
  by_cases h₂ : c = '\\'
  · subst h₂; rfl
  by_cases h₃ : c.toNat = 8
  · rw [← Char.ofNat_toNat c, h₃]; rfl
  by_cases h₄ : c = '\t'
  · subst h₄; rfl
  by_cases h₅ : c = '\n'
  · subst h₅; rfl
  by_cases h₆ : c.toNat = 12
  · rw [← Char.ofNat_toNat c, h₆]; rfl
  by_cases h₇ : c = '\r'
  · subst h₇; rfl
  rw [escapeChar, if_neg h₁, if_neg h₂, if_neg h₃, if_neg h₄, if_neg h₅, if_neg h₆, if_neg h₇]
  by_cases h₈ : c.toNat < 0x20
  · have hx : hex4 '0' '0' (hexDigit (c.toNat / 16)) (hexDigit (c.toNat % 16)) = some c.toNat := by
      simp [hex4, hexVal_hexDigit (show c.toNat / 16 < 16 by omega),
        hexVal_hexDigit (Nat.mod_lt _ (show 16 > 0 by omega)), show hexVal '0' = some 0 from rfl]
      omega
    have he : parseEscape ('u' :: '0' :: '0' :: hexDigit (c.toNat / 16) :: hexDigit (c.toNat % 16) :: r) =
        some (c, r) := by
      simp only [parseEscape, if_true, parseHexEscape, hx,
        if_pos (Or.inl (show c.toNat < 0xD800 by omega)), Char.ofNat_toNat]
    rw [if_pos h₈]
    simp only [List.cons_append, List.nil_append]
    rw [parseStringAux, if_neg (by decide), if_pos rfl, he]
  · rw [if_neg h₈, List.singleton_append, parseStringAux, if_neg h₁, if_neg h₂, if_neg h₈]

/-- Every character is written as at least one character: were it written as none, the
reader would stop at the closing quote after it instead of reading it. -/
theorem escapeChar_ne_nil (c : Char) : escapeChar c ≠ [] := fun h => by
  have h' := parseStringAux_escape c 0 [] ['"']
  rw [h] at h'
  exact Option.noConfusion h'

theorem length_le_flatMap_escapeChar : ∀ cs : List Char, cs.length ≤ (cs.flatMap escapeChar).length
  | [] => le_refl _
  | c :: cs => by
    have h₁ := length_le_flatMap_escapeChar cs
    have h₂ := List.length_pos.mpr (escapeChar_ne_nil c)
    simp only [List.flatMap_cons, List.length_append, List.length_cons]
    omega

theorem parseStringAux_escapes : ∀ (cs : List Char) {fuel : Nat} (acc rest : List Char),
    cs.length < fuel →
    parseStringAux fuel acc (cs.flatMap escapeChar ++ '"' :: rest) =
      some (String.mk (acc.reverse ++ cs), rest)
  | _, 0, _, _, h => absurd h (Nat.not_lt_zero _)
  | [], _ + 1, acc, rest, _ => by simp [parseStringAux]
  | c :: cs, fuel + 1, acc, rest, h => by
    rw [List.flatMap_cons, List.append_assoc, parseStringAux_escape,
      parseStringAux_escapes cs (c :: acc) rest (by simp only [List.length_cons] at h; omega)]
    simp

/-- A string, escaped and read back, with whatever follows its closing quote. -/
theorem parseString_escapes (s : String) (rest : List Char) :
    parseString (s.toList.flatMap escapeChar ++ '"' :: rest) = some (s, rest) := by
  have h := length_le_flatMap_escapeChar s.toList
  rw [parseString, parseStringAux_escapes s.toList [] rest
    (by simp only [List.length_append, List.length_cons]; omega)]
  rfl

theorem printString_append (s : String) (r : List Char) :
    printString s ++ r = '"' :: (s.toList.flatMap escapeChar ++ '"' :: r) := by
  simp [printString]

/-! ### Values -/

theorem skipWs_cons {c : Char} (h : isWs c = false) (r : List Char) : skipWs (c :: r) = c :: r := by
  simp [skipWs, h]

theorem token_self {c : Char} (h : isWs c = false) (r : List Char) : token c (c :: r) = some r := by
  simp [token, skipWs_cons h]

theorem token_of_ne {c ch : Char} (h : isWs c = false) (hne : c ≠ ch) (r : List Char) :
    token ch (c :: r) = none := by
  simp [token, skipWs_cons h, hne]

theorem decimal_ne_nil (k : Nat) : decimal k ≠ [] := by
  simp [decimal, decimalAux]

/-- A number starts with a minus sign or a digit. -/
theorem Number.print_head (n : Number) : ∃ c t, n.print = c :: t ∧ (c = '-' ∨ isDigitChar c = true) := by
  unfold Number.print
  split
  · exact ⟨_, _, rfl, .inl rfl⟩
  · obtain ⟨c, t, h⟩ := List.exists_cons_of_ne_nil (decimal_ne_nil n.val.toNat)
    exact ⟨c, t, h, .inr (decimalAux_digits _ _ c (by rw [← decimal, h]; exact List.mem_cons_self c t))⟩

theorem ne_of_numberHead {c d : Char} (hc : c = '-' ∨ isDigitChar c = true) (hd : isDigitChar d = false)
    (hm : d ≠ '-') : c ≠ d := by
  rintro rfl
  rcases hc with rfl | hc
  · exact hm rfl
  · simp [hd] at hc

theorem isWs_of_numberHead {c : Char} (hc : c = '-' ∨ isDigitChar c = true) : isWs c = false := by
  simp only [isWs, Bool.or_eq_false_iff, decide_eq_false_iff_not]
  exact ⟨⟨⟨ne_of_numberHead hc rfl (by decide), ne_of_numberHead hc rfl (by decide)⟩,
    ne_of_numberHead hc rfl (by decide)⟩, ne_of_numberHead hc rfl (by decide)⟩

/-- A text that starts with a minus sign or a digit is read as a number. -/
theorem parseValue_of_numberHead {c : Char} (hc : c = '-' ∨ isDigitChar c = true)
    (fuel depth : Nat) (r : List Char) :
    parseValue (fuel + 1) depth (c :: r) = (parseNumber (c :: r)).map fun x => (.number x.1, x.2) := by
  rw [parseValue, skipWs_cons (isWs_of_numberHead hc)]
  simp only [ne_of_numberHead hc (d := 'n') rfl (by decide), ne_of_numberHead hc (d := 't') rfl (by decide),
    ne_of_numberHead hc (d := 'f') rfl (by decide), ne_of_numberHead hc (d := '"') rfl (by decide),
    ne_of_numberHead hc (d := '[') rfl (by decide), ne_of_numberHead hc (d := '\x7b') rfl (by decide),
    if_false]

/-- A value's text starts with a character that is not whitespace and does not close an
array. -/
theorem Value.print_head (v : Value) : ∃ c t, v.print = c :: t ∧ isWs c = false ∧ c ≠ ']' := by
  match v with
  | .number n =>
    obtain ⟨c, t, h, hc⟩ := n.print_head
    exact ⟨c, t, h, isWs_of_numberHead hc, ne_of_numberHead hc rfl (by decide)⟩
  | .null | .bool true | .bool false | .array [] | .array (_ :: _) | .object [] | .object (_ :: _) =>
    exact ⟨_, _, rfl, rfl, by decide⟩
  | .string _ => exact ⟨_, _, rfl, rfl, by decide⟩

mutual

/-- The fuel `parseValue` takes to read a value back. -/
def Value.size : Value → Nat
  | .array vs => sizeElems vs + 1
  | .object kvs => sizeMembers kvs + 1
  | _ => 1

def sizeElems : List Value → Nat
  | [] => 0
  | v :: vs => v.size + sizeElems vs + 1

def sizeMembers : List (String × Value) → Nat
  | [] => 0
  | (_, v) :: kvs => v.size + sizeMembers kvs + 1

end

/-- Every value of size at most `fuel` is read back from its text followed by anything that
does not go on with a number, if it nests less deep than `depth`; if not, the reader fails. -/
def ReadsBack (fuel : Nat) : Prop :=
  ∀ (v : Value) (depth : Nat) (rest : List Char), v.size ≤ fuel → 0 < depth →
    continuesNumber rest = false →
    parseValue fuel depth (v.print ++ rest) = if v.depth < depth then some (v, rest) else none

section Induction

variable {F : Nat} (ih : ∀ g < F, ReadsBack g)
include ih

theorem parseElems_print : ∀ (vs : List Value) (v : Value) (fuel depth : Nat) (acc : List Value)
    (rest : List Char), fuel ≤ F → sizeElems (v :: vs) ≤ fuel → 0 < depth →
    continuesNumber rest = false →
    parseElems fuel depth acc (v.print ++ (printElemsTail vs ++ rest)) =
      if depthElems (v :: vs) < depth then some (.array (acc ++ v :: vs), rest) else none
  | _, _, 0, _, _, _, _, hs, _, _ => by simp [sizeElems] at hs
  | [], v, g + 1, depth, acc, rest, hF, hs, hd, _ => by
    have hv := ih g (by omega) v depth (']' :: rest) (by simp only [sizeElems] at hs; omega) hd rfl
    by_cases hvd : v.depth < depth <;>
      simp only [parseElems, printElemsTail, List.singleton_append, hv, hvd, Option.bind_eq_bind,
        Option.some_bind, Option.none_bind, @token_of_ne ']' ',' rfl (by decide),
        token_self (c := ']') rfl, Option.map_some', depthElems, if_true, if_false,
        Nat.max_zero, List.append_nil]
  | w :: ws, v, g + 1, depth, acc, rest, hF, hs, hd, hrest => by
    have hv := ih g (by omega) v depth (',' :: (w.print ++ (printElemsTail ws ++ rest)))
      (by simp only [sizeElems] at hs; omega) hd rfl
    have hw := parseElems_print ws w g depth (acc ++ [v]) rest (by omega)
      (by simp only [sizeElems] at hs ⊢; omega) hd hrest
    simp only [parseElems, printElemsTail, List.cons_append, List.append_assoc, Option.bind_eq_bind,
      hv, depthElems, max_lt_iff]
    by_cases hvd : v.depth < depth
    · simp only [hvd, if_true, Option.some_bind, token_self (c := ',') rfl, hw, true_and,
        depthElems]
      simp
    · simp [hvd]

theorem parseMembers_print : ∀ (kvs : List (String × Value)) (k : String) (v : Value)
    (fuel depth : Nat) (acc : List (String × Value)) (rest : List Char), fuel ≤ F →
    sizeMembers ((k, v) :: kvs) ≤ fuel → 0 < depth → continuesNumber rest = false →
    parseMembers fuel depth acc (printString k ++ ':' :: (v.print ++ (printMembersTail kvs ++ rest))) =
      if depthMembers ((k, v) :: kvs) < depth then some (.object (acc ++ (k, v) :: kvs), rest)
      else none
  | _, _, _, 0, _, _, _, _, hs, _, _ => by simp [sizeMembers] at hs
  | [], k, v, g + 1, depth, acc, rest, hF, hs, hd, _ => by
    have hv := ih g (by omega) v depth ('\x7d' :: rest) (by simp only [sizeMembers] at hs; omega)
      hd rfl
    rw [parseMembers, printString_append]
    by_cases hvd : v.depth < depth <;>
      simp only [token_self (c := '"') rfl, Option.some_bind, parseString_escapes,
        token_self (c := ':') rfl, printMembersTail, List.singleton_append, hv, hvd,
        Option.bind_eq_bind, Option.none_bind, @token_of_ne '\x7d' ',' rfl (by decide),
        token_self (c := '\x7d') rfl, Option.map_some', depthMembers, if_true, if_false,
        Nat.max_zero]
  | (k', v') :: kvs, k, v, g + 1, depth, acc, rest, hF, hs, hd, hrest => by
    have hv := ih g (by omega) v depth
      (',' :: (printString k' ++ ':' :: (v'.print ++ (printMembersTail kvs ++ rest))))
      (by simp only [sizeMembers] at hs; omega) hd rfl
    have hw := parseMembers_print kvs k' v' g depth (acc ++ [(k, v)]) rest (by omega)
      (by simp only [sizeMembers] at hs ⊢; omega) hd hrest
    rw [parseMembers, printString_append]
    simp only [token_self (c := '"') rfl, Option.bind_eq_bind, Option.some_bind, parseString_escapes,
      token_self (c := ':') rfl, printMembersTail, List.cons_append, List.append_assoc, hv,
      depthMembers, max_lt_iff]
    by_cases hvd : v.depth < depth
    · simp only [hvd, if_true, Option.some_bind, token_self (c := ',') rfl, hw, true_and,
        depthMembers]
      simp
    · simp [hvd]

end Induction

theorem Value.size_pos (v : Value) : 0 < v.size := by
  cases v <;> simp [Value.size]

/-- An array's text: `check_recursion!`, then the empty array or its elements one level
down. -/
theorem parseValue_array (fuel depth : Nat) (r : List Char) :
    parseValue (fuel + 1) depth ('[' :: r) =
      if depth - 1 = 0 then none
      else
        match token ']' r with
        | some r' => some (.array [], r')
        | none => parseElems fuel (depth - 1) [] r := by
  rw [parseValue, skipWs_cons (c := '[') rfl]
  rfl

/-- An object's text: `check_recursion!`, then the empty object or its members one level
down. -/
theorem parseValue_object (fuel depth : Nat) (r : List Char) :
    parseValue (fuel + 1) depth ('\x7b' :: r) =
      if depth - 1 = 0 then none
      else
        match token '\x7d' r with
        | some r' => some (.object [], r')
        | none => parseMembers fuel (depth - 1) [] r := by
  rw [parseValue, skipWs_cons (c := '\x7b') rfl]
  rfl

/-- The reader takes back every value the writer writes that nests less deep than its
remaining depth, and fails on every other one, given as much fuel as the value's size. -/
theorem readsBack (fuel : Nat) : ReadsBack fuel := by
  induction fuel using Nat.strong_induction_on with
  | _ fuel ih =>
  intro v depth rest hs hd hrest
  obtain ⟨g, rfl⟩ : ∃ g, fuel = g + 1 := ⟨fuel - 1, by have := v.size_pos; omega⟩
  match v with
  | .null | .bool true | .bool false => simp only [Value.depth, hd, if_true]; rfl
  | .array [] =>
    rw [Value.print, List.cons_append, parseValue_array, List.singleton_append,
      token_self (c := ']') rfl]
    simp only [Value.depth, depthElems]
    split_ifs <;> first | rfl | omega
  | .object [] =>
    rw [Value.print, List.cons_append, parseValue_object, List.singleton_append,
      token_self (c := '\x7d') rfl]
    simp only [Value.depth, depthMembers]
    split_ifs <;> first | rfl | omega
  | .number n =>
    obtain ⟨c, t, h, hc⟩ := n.print_head
    rw [Value.print, h, List.cons_append, parseValue_of_numberHead hc, ← List.cons_append, ← h,
      parseNumber_print n hrest]
    simp only [Value.depth, hd, if_true]; rfl
  | .string s =>
    rw [Value.print, printString_append, parseValue, skipWs_cons (c := '"') rfl]
    dsimp only
    rw [if_neg (show '"' ≠ 'n' by decide), if_neg (show '"' ≠ 't' by decide),
      if_neg (show '"' ≠ 'f' by decide), if_pos rfl, parseString_escapes]
    simp only [Value.depth, hd, if_true]; rfl
  | .array (v :: vs) =>
    obtain ⟨c, t, h, hws, hne⟩ := v.print_head
    have ht : token ']' (v.print ++ (printElemsTail vs ++ rest)) = none := by
      rw [h, List.cons_append]; exact token_of_ne hws hne _
    rw [Value.print, List.cons_append, List.append_assoc, parseValue_array, ht]
    by_cases h1 : depth - 1 = 0
    · rw [if_pos h1, if_neg (by simp only [Value.depth]; omega)]
    · simp only [if_neg h1, parseElems_print ih vs v g (depth - 1) [] rest (by omega)
        (by simp only [Value.size] at hs; omega) (by omega) hrest, Value.depth, List.nil_append]
      split_ifs <;> first | rfl | omega
  | .object ((k, v) :: kvs) =>
    have ht : token '\x7d' (printString k ++ ':' :: (v.print ++ (printMembersTail kvs ++ rest))) = none := by
      rw [printString_append]; exact token_of_ne (c := '"') rfl (by decide) _
    rw [Value.print, List.cons_append, List.append_assoc, List.cons_append, List.append_assoc,
      parseValue_object, ht]
    by_cases h1 : depth - 1 = 0
    · rw [if_pos h1, if_neg (by simp only [Value.depth]; omega)]
    · simp only [if_neg h1, parseMembers_print ih kvs k v g (depth - 1) [] rest (by omega)
        (by simp only [Value.size] at hs; omega) (by omega) hrest, Value.depth, List.nil_append]
      split_ifs <;> first | rfl | omega

mutual

theorem Value.size_le_length : ∀ v : Value, v.size ≤ v.print.length
  | .null | .bool true | .bool false | .array [] | .object [] => by decide
  | .string s => by simp [Value.size, Value.print, printString]
  | .number n => by
    obtain ⟨c, t, h, -⟩ := n.print_head
    simp [Value.size, Value.print, h]
  | .array (v :: vs) => by
    have h₁ := Value.size_le_length v
    have h₂ := sizeElems_lt_length vs
    simp only [Value.size, sizeElems, Value.print, List.length_cons, List.length_append]
    omega
  | .object ((k, v) :: kvs) => by
    have h₁ := Value.size_le_length v
    have h₂ := sizeMembers_lt_length kvs
    simp only [Value.size, sizeMembers, Value.print, List.length_cons, List.length_append]
    omega

theorem sizeElems_lt_length : ∀ vs : List Value, sizeElems vs < (printElemsTail vs).length
  | [] => by decide
  | v :: vs => by
    have h₁ := Value.size_le_length v
    have h₂ := sizeElems_lt_length vs
    simp only [sizeElems, printElemsTail, List.length_cons, List.length_append]
    omega

theorem sizeMembers_lt_length : ∀ kvs : List (String × Value), sizeMembers kvs < (printMembersTail kvs).length
  | [] => by decide
  | (k, v) :: kvs => by
    have h₁ := Value.size_le_length v
    have h₂ := sizeMembers_lt_length kvs
    simp only [sizeMembers, printMembersTail, List.length_cons, List.length_append]
    omega

end

/-- A whole text written by `to_string` reads back as the value it was written from when
the value nests less than `recursionLimit` deep; otherwise reading it fails. -/
theorem parseText_toStr (v : Value) :
    parseText v.toStr = if v.depth < recursionLimit then some v else none := by
  have h := readsBack (v.print.length + 1) v recursionLimit [] (by have := v.size_le_length; omega)
    (by decide) rfl
  rw [List.append_nil] at h
  simp only [parseText, Value.toStr]
  rw [show (String.mk v.print).length = v.print.length from rfl,
    show (String.mk v.print).toList = v.print from rfl, h]
  split_ifs <;> rfl

/-! ## Values as `serde_json` holds them

A `serde_json::Value` keeps each object as a map, with its keys in ascending order
(`Value.isMap`); on such a value `Value.toMap` changes nothing (`Value.toMap_of_isMap`). -/

theorem charsLt_irrefl : ∀ cs : List Char, charsLt cs cs = false
  | [] => rfl
  | c :: cs => by simp [charsLt, charsLt_irrefl cs]

theorem charsLt_asymm : ∀ {cs ds : List Char}, charsLt cs ds = true → charsLt ds cs = false
  | [], [], h | [], _ :: _, _ | _ :: _, [], h => by simp_all [charsLt]
  | c :: cs, d :: ds, h => by
    simp only [charsLt, Bool.or_eq_true, decide_eq_true_eq, Bool.and_eq_true] at h
    simp only [charsLt, Bool.or_eq_false_iff, decide_eq_false_iff_not, Bool.and_eq_false_iff]
    rcases h with h | ⟨rfl, h⟩
    · exact ⟨by omega, .inl fun e => by subst e; omega⟩
    · exact ⟨by omega, .inr (charsLt_asymm h)⟩

theorem keyLt_asymm {k k' : String} (h : keyLt k k' = true) : keyLt k' k = false :=
  charsLt_asymm h

theorem ne_of_keyLt {k k' : String} (h : keyLt k k' = true) : k ≠ k' := by
  rintro rfl
  simp [keyLt, charsLt_irrefl] at h

mutual

/-- Whether every object in a value has its keys in ascending order, as the maps of a
`serde_json::Value` have. -/
def Value.isMap : Value → Bool
  | .array vs => isMapElems vs
  | .object kvs => decide (kvs.Pairwise fun a b => keyLt a.1 b.1) && isMapMembers kvs
  | _ => true

def isMapElems : List Value → Bool
  | [] => true
  | v :: vs => v.isMap && isMapElems vs

def isMapMembers : List (String × Value) → Bool
  | [] => true
  | (_, v) :: kvs => v.isMap && isMapMembers kvs

end

/-- A key above every key of a map goes last. -/
theorem insertMember_of_lt : ∀ {acc : List (String × Value)} {k : String} {v : Value},
    (∀ kv ∈ acc, keyLt kv.1 k = true) → insertMember acc (k, v) = acc ++ [(k, v)]
  | [], _, _, _ => rfl
  | (k', v') :: acc, k, v, h => by
    have hk := h (k', v') (List.mem_cons_self _ _)
    rw [insertMember, if_neg (by simp [keyLt_asymm hk]), if_neg (ne_of_keyLt hk).symm,
      insertMember_of_lt fun kv hkv => h kv (List.mem_cons_of_mem _ hkv)]
    rfl

/-- Inserting members with ascending keys, one after the other, appends them. -/
theorem foldl_insertMember : ∀ {kvs acc : List (String × Value)},
    (acc ++ kvs).Pairwise (fun a b => keyLt a.1 b.1) → kvs.foldl insertMember acc = acc ++ kvs
  | [], acc, _ => by simp
  | (k, v) :: kvs, acc, h => by
    have hk : ∀ kv ∈ acc, keyLt kv.1 k = true := fun kv hkv =>
      (List.pairwise_append.mp h).2.2 kv hkv (k, v) (List.mem_cons_self _ _)
    rw [List.foldl_cons, insertMember_of_lt hk, foldl_insertMember (by simpa using h)]
    simp

mutual

theorem Value.toMap_of_isMap : ∀ {v : Value}, v.isMap = true → v.toMap = v
  | .null, _ | .bool _, _ | .number _, _ | .string _, _ => rfl
  | .array vs, h => by
    rw [Value.toMap, toMapList_of_isMap (by simpa [Value.isMap] using h)]
  | .object kvs, h => by
    simp only [Value.isMap, Bool.and_eq_true, decide_eq_true_eq] at h
    rw [Value.toMap, toMapMembers_of_isMap h.2, foldl_insertMember (by simpa using h.1)]
    rfl

theorem toMapList_of_isMap : ∀ {vs : List Value}, isMapElems vs = true → toMapList vs = vs
  | [], _ => rfl
  | v :: vs, h => by
    simp only [isMapElems, Bool.and_eq_true] at h
    rw [toMapList, Value.toMap_of_isMap h.1, toMapList_of_isMap h.2]

theorem toMapMembers_of_isMap : ∀ {kvs : List (String × Value)}, isMapMembers kvs = true →
    toMapMembers kvs = kvs
  | [], _ => rfl
  | (k, v) :: kvs, h => by
    simp only [isMapMembers, Bool.and_eq_true] at h
    rw [toMapMembers, Value.toMap_of_isMap h.1, toMapMembers_of_isMap h.2]

end

end Json

end StratoVirt
