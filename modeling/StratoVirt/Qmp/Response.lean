import StratoVirt.Machine.State
import StratoVirt.Qmp.Json

/-!
# QMP responses and their text

`Response` and `ErrorMessage` (`machine_manager/src/qmp/mod.rs`): the three constructors,
`change_id`, `ErrorMessage::new`, and the text that serde's derived `Serialize` writes and
its derived `Deserialize` reads.

A response is read back from its text as it was built, with two exceptions.  A `return`
field that holds `null`: serde writes `Some(Value::Null)` as `"return":null`, and the
`Option` field reads `null` as `None` (`null_return_read_as_none`).  And a `return` value
nested 127 levels deep or more: with the response's own object that is 128 levels, and
the reader gives up (`fromStr_toStr_of_deep`).  Every other response that the three
constructors build, after any `change_id`s, reads back as it was
(`Response.fromStr_toStr_of_return`).

## What is transcribed and what is ours

* `Response`, `ErrorMessage`, the constructors, `change_id` and `ErrorMessage::new` are
  transcribed.  `ErrorMessage::new` cuts the kind out of the serialized error with byte
  offsets; the model cuts characters, which is the same on the ASCII text it cuts
  (`ErrorMessage.new_eq`).
* `QmpErrorClass` and `to_content` live in `qmp_schema`, which is not in the source.  They
  are modelled from the spec's five error kinds, each carrying its description; serde
  writes such a newtype variant as `{"Kind":"desc"}`.
* The derived `Serialize` writes the fields in declaration order and skips each `None`.
  The derived `Deserialize` reads the members of an object in text order: `null` reads as
  `None`, a missing field takes its default, an unknown one is skipped and a repeated one
  is an error.  It also accepts a struct written as an array of its fields; that form is
  not modelled.  The text is read as a `Json.Value` first, so an unknown member counts
  towards the recursion limit here; serde skips one with `ignore_value`, which does not
  count.
-/

namespace StratoVirt

namespace Qmp

open Json

/-- Modelled from the spec: `schema::QmpErrorClass`, the error kinds of §6 ("Error kinds:
`GenericError`, `CommandNotFound`, `DeviceNotActive`, `DeviceNotFound`, `KVMMissingCap`"),
each with its description. -/
inductive QmpErrorClass where
  | genericError (desc : String)
  | commandNotFound (desc : String)
  | deviceNotActive (desc : String)
  | deviceNotFound (desc : String)
  | kvmMissingCap (desc : String)
deriving DecidableEq, Repr

namespace QmpErrorClass

/-- The name of the variant, as serde writes it. -/
def name : QmpErrorClass → String
  | .genericError _ => "GenericError"
  | .commandNotFound _ => "CommandNotFound"
  | .deviceNotActive _ => "DeviceNotActive"
  | .deviceNotFound _ => "DeviceNotFound"
  | .kvmMissingCap _ => "KVMMissingCap"

/-- Modelled from the spec: `QmpErrorClass::to_content`, the description. -/
def toContent : QmpErrorClass → String
  | .genericError d | .commandNotFound d | .deviceNotActive d | .deviceNotFound d
  | .kvmMissingCap d => d

/-- serde's form of a newtype variant, `{"Name":content}`. -/
def toValue (e : QmpErrorClass) : Value := .object [(e.name, .string e.toContent)]

end QmpErrorClass

/-- `ErrorMessage`; `errorkind` is serialized as `class`. -/
structure ErrorMessage where
  errorkind : String
  desc : String
deriving DecidableEq, Repr

/-- `s[start..stop]`. -/
def slice {α : Type} (s : List α) (start stop : Nat) : Except Panic (List α) :=
  if start ≤ stop ∧ stop ≤ s.length then .ok ((s.take stop).drop start)
  else .error (.sliceOutOfRange start stop s.length)

/-- `ErrorMessage::new`: the kind is the text of `serde_json::to_string(e)` before its first
`:`, without its first two characters and its last one. -/
def ErrorMessage.new (e : QmpErrorClass) : Except Panic ErrorMessage := do
  let content := e.toContent
  let serdeStr := e.toValue.print
  let serdeVec := serdeStr.splitOn ':'
  let className ← index serdeVec 0
  let len := className.length
  let errorkind ← slice className 2 (len - 1)
  pure { errorkind := String.mk errorkind, desc := content }

/-- `ErrorMessage::new` does not panic: the kind it cuts out is the variant's name. -/
theorem ErrorMessage.new_eq (e : QmpErrorClass) :
    ErrorMessage.new e = .ok { errorkind := e.name, desc := e.toContent } := by
  cases e <;> rfl

/-- `Response`. -/
structure Response where
  return_ : Option Value
  error : Option ErrorMessage
  id : Option UInt32
deriving DecidableEq

namespace Response

/-- `Response::create_response`. -/
def createResponse (v : Value) (id : Option UInt32) : Response :=
  { return_ := some v, error := none, id }

/-- `Response::create_empty_response`: `serde_json::to_value(Empty {})` is the empty
object. -/
def createEmptyResponse : Response :=
  { return_ := some (.object []), error := none, id := none }

/-- `Response::create_error_response`. -/
def createErrorResponse (errClass : QmpErrorClass) (id : Option UInt32) : Except Panic Response := do
  let error ← ErrorMessage.new errClass
  pure { return_ := none, error := some error, id }

/-- `Response::change_id`. -/
def changeId (r : Response) (id : Option UInt32) : Response := { r with id }

/-- `create_error_response` does not fail: its error has the variant's name as its kind. -/
theorem createErrorResponse_eq (e : QmpErrorClass) (id : Option UInt32) :
    createErrorResponse e id =
      .ok { return_ := none, error := some { errorkind := e.name, desc := e.toContent }, id } := by
  rw [createErrorResponse, ErrorMessage.new_eq]
  rfl

/-! ## Writing -/

/-- A `u32` as a JSON number. -/
def u32Number (n : UInt32) : Number :=
  ⟨n.toNat, by have := n.toNat_lt_size; simp only [UInt32.size] at this; constructor <;> omega⟩

/-- The derived `Serialize` of `ErrorMessage`. -/
def errorValue (m : ErrorMessage) : Value :=
  .object [("class", .string m.errorkind), ("desc", .string m.desc)]

/-- The derived `Serialize`: the fields in declaration order, each `None` skipped. -/
def toValue (r : Response) : Value :=
  .object (r.return_.toList.map (fun v => ("return", v)) ++
    r.error.toList.map (fun m => ("error", errorValue m)) ++
    r.id.toList.map fun n => ("id", .number (u32Number n)))

/-- `serde_json::to_string(&r)`. -/
def toStr (r : Response) : String := r.toValue.toStr

/-- For every error kind and every description, whatever characters it holds,
`ErrorMessage::new` does not panic and cuts the variant's name out of serde's text, so
`create_error_response` succeeds and its response is written with that name as `class`,
the description as `desc`, and the id if there is one. -/
theorem error_response_class (e : QmpErrorClass) (id : Option UInt32) :
    ErrorMessage.new e = .ok { errorkind := e.name, desc := e.toContent } ∧
      ∃ r, createErrorResponse e id = .ok r ∧
        r.toValue = .object (("error", .object [("class", .string e.name), ("desc", .string e.toContent)]) ::
          id.toList.map fun n => ("id", .number (u32Number n))) :=
  ⟨ErrorMessage.new_eq e, _, createErrorResponse_eq e id, rfl⟩

/-! ## Reading -/

/-- An `Option` field: `null` is `None`. -/
def readOption {α : Type} (read : Value → Option α) : Value → Option (Option α)
  | .null => some none
  | v => (read v).map some

/-- A `String` field. -/
def readString : Value → Option String
  | .string s => some s
  | _ => none

/-- A `u32` field. -/
def readU32 : Value → Option UInt32
  | .number n => if 0 ≤ n.val ∧ n.val < 2 ^ 32 then some (UInt32.ofNat n.val.toNat) else none
  | _ => none

/-- A field read from its member, unless it was seen before. -/
def readField {α : Type} (read : Value → Option α) (seen : Option α) (v : Value) :
    Option (Option α) :=
  if seen.isSome then none else (read v).map some

/-- One member of an `ErrorMessage` object, onto the fields seen so far. -/
def errorField (f : Option String × Option String) (kv : String × Value) :
    Option (Option String × Option String) :=
  if kv.1 = "class" then (readField readString f.1 kv.2).map fun c => (c, f.2)
  else if kv.1 = "desc" then (readField readString f.2 kv.2).map fun d => (f.1, d)
  else some f

/-- The derived `Deserialize` of `ErrorMessage`, from an object: both fields are
required. -/
def readError : Value → Option ErrorMessage
  | .object kvs => do
    let (c, d) ← kvs.foldlM errorField (none, none)
    pure { errorkind := ← c, desc := ← d }
  | _ => none

/-- The fields of a `Response` seen so far, as the derived `visit_map` keeps them. -/
structure Fields where
  return_ : Option (Option Value)
  error : Option (Option ErrorMessage)
  id : Option (Option UInt32)

/-- One member of a `Response` object: a `return` value is read as a `serde_json::Value`. -/
def Fields.add (f : Fields) (kv : String × Value) : Option Fields :=
  if kv.1 = "return" then
    (readField (readOption fun v => some v.toMap) f.return_ kv.2).map fun x => { f with return_ := x }
  else if kv.1 = "error" then
    (readField (readOption readError) f.error kv.2).map fun x => { f with error := x }
  else if kv.1 = "id" then
    (readField (readOption readU32) f.id kv.2).map fun x => { f with id := x }
  else some f

/-- The derived `Deserialize` of `Response`, from an object: a missing field is `None`. -/
def ofValue : Value → Option Response
  | .object kvs => do
    let f ← kvs.foldlM Fields.add ⟨none, none, none⟩
    pure { return_ := f.return_.getD none, error := f.error.getD none, id := f.id.getD none }
  | _ => none

/-- `serde_json::from_str::<Response>`. -/
def fromStr (s : String) : Option Response := (parseText s).bind ofValue

/-! ## Reading back what is written -/

@[simp] theorem readOption_null {α : Type} (read : Value → Option α) :
    readOption read .null = some none := rfl

theorem readOption_errorValue (m : ErrorMessage) :
    readOption readError (errorValue m) = some (some m) := rfl

theorem readOption_u32Number (n : UInt32) :
    readOption readU32 (.number (u32Number n)) = some (some n) := by
  have := n.toNat_lt_size
  simp only [UInt32.size] at this
  simp only [readOption, readU32, u32Number, Int.toNat_ofNat]
  rw [if_pos (by constructor <;> omega)]
  exact congrArg (some ∘ some) (UInt32.toNat.inj (UInt32.toNat_ofNat_of_lt n.toNat_lt_size))

/-- A `return` value other than `null` that a `serde_json::Value` can hold reads back. -/
theorem readOption_toMap {v : Value} (hv : v ≠ .null) (hmap : v.isMap = true) :
    readOption (fun v => some v.toMap) v = some (some v) := by
  cases v <;> first | exact absurd rfl hv | simp [readOption, Value.toMap_of_isMap hmap]

/-- Each field adds nothing to the nesting of a response but the `return` value. -/
theorem toValue_depth (r : Response) :
    r.toValue.depth = max (r.return_.elim 0 Value.depth) (r.error.elim 0 fun _ => 1) + 1 := by
  obtain ⟨ret, err, id⟩ := r
  cases ret <;> cases err <;> cases id <;>
    simp [toValue, Value.depth, depthMembers, errorValue, max_comm]

/-- A response whose `return` value, if any, is not `null`, is one a `serde_json::Value`
can hold, and nests less than `recursionLimit - 1` deep, is read back from its text. -/
theorem fromStr_toStr_of_return {r : Response}
    (hr : ∀ v, r.return_ = some v → v ≠ .null ∧ v.isMap = true ∧ v.depth + 1 < recursionLimit) :
    fromStr r.toStr = some r := by
  have hd : r.toValue.depth < recursionLimit := by
    have hret : r.return_.elim 0 Value.depth + 1 < recursionLimit := by
      rcases h : r.return_ with _ | v
      · decide
      · exact (hr v h).2.2
    have herr : r.error.elim 0 (fun _ => 1) ≤ 1 := by cases r.error <;> simp
    rw [toValue_depth]
    simp only [recursionLimit] at hret ⊢
    omega
  obtain ⟨ret, err, id⟩ := r
  rw [fromStr, toStr, parseText_toStr, if_pos hd, Option.some_bind]
  cases ret with
  | none => cases err <;> cases id <;> simp [toValue, ofValue, Fields.add, readField,
      readOption_errorValue, readOption_u32Number]
  | some v =>
    obtain ⟨hv, hmap, -⟩ := hr v rfl
    cases err <;> cases id <;> simp [toValue, ofValue, Fields.add, readField, readOption_toMap hv hmap,
      readOption_errorValue, readOption_u32Number]

/-- A response whose `return` value nests `recursionLimit - 1` deep or more is not read from
its text: with the response's own object the reader runs out of depth. -/
theorem fromStr_toStr_of_deep {r : Response} {v : Value} (hr : r.return_ = some v)
    (hv : recursionLimit ≤ v.depth + 1) : fromStr r.toStr = none := by
  have hd : ¬ r.toValue.depth < recursionLimit := by
    have hle : v.depth ≤ max (r.return_.elim 0 Value.depth) (r.error.elim 0 fun _ => 1) := by
      rw [hr]; exact le_max_left _ _
    rw [toValue_depth]
    omega
  rw [fromStr, toStr, parseText_toStr, if_neg hd, Option.none_bind]

@[simp] theorem foldl_changeId_return (ids : List (Option UInt32)) (r : Response) :
    (ids.foldl changeId r).return_ = r.return_ := by
  induction ids generalizing r with
  | nil => rfl
  | cons id ids ih => exact ih _

/-- A `null` return value is read back as no return value. -/
theorem null_return_read_as_none (id : Option UInt32) :
    fromStr (createResponse .null id).toStr = some { return_ := none, error := none, id } := by
  rw [fromStr, toStr, parseText_toStr, if_pos (by rw [toValue_depth]; simp [createResponse, recursionLimit, Value.depth]), Option.some_bind]
  cases id <;> simp [createResponse, toValue, ofValue, Fields.add, readField, readOption_u32Number]

end Response

open Response

/-- Every response that the three constructors build, after any `change_id`s, is read back
from its text, as long as a `return` value is not `null` and nests less than
`recursionLimit - 1 = 127` deep; a `return` value is any value a `serde_json::Value` can hold,
and `create_error_response` does not fail.  A `return` value nested deeper is not read at
all. -/
theorem response_read_back :
    (∀ (v : Value) (id : Option UInt32) (ids : List (Option UInt32)), v ≠ .null → v.isMap = true →
      v.depth + 1 < recursionLimit →
      Response.fromStr (ids.foldl changeId (createResponse v id)).toStr =
        some (ids.foldl changeId (createResponse v id))) ∧
    (∀ ids : List (Option UInt32),
      Response.fromStr (ids.foldl changeId createEmptyResponse).toStr =
        some (ids.foldl changeId createEmptyResponse)) ∧
    (∀ (e : QmpErrorClass) (id : Option UInt32) (ids : List (Option UInt32)), ∃ r,
      createErrorResponse e id = .ok r ∧
        Response.fromStr (ids.foldl changeId r).toStr = some (ids.foldl changeId r)) ∧
    (∀ (v : Value) (id : Option UInt32) (ids : List (Option UInt32)), recursionLimit ≤ v.depth + 1 →
      Response.fromStr (ids.foldl changeId (createResponse v id)).toStr = none) := by
  refine ⟨fun v id ids hv hmap hd => fromStr_toStr_of_return ?_,
    fun ids => fromStr_toStr_of_return ?_, fun e id ids => ?_,
    fun v id ids hd => fromStr_toStr_of_deep (by simp [createResponse]) hd⟩
  · intro w h
    simp only [foldl_changeId_return, createResponse, Option.some.injEq] at h
    exact h ▸ ⟨hv, hmap, hd⟩
  · intro w h
    simp only [foldl_changeId_return, createEmptyResponse, Option.some.injEq] at h
    exact h ▸ ⟨by decide, rfl, by decide⟩
  · exact ⟨_, createErrorResponse_eq e id, fromStr_toStr_of_return (by simp)⟩

/-- `response_read_back` on the status the tests write, `{"running":true,"singlestep":false,
"status":"running"}`, with its id changed from 0 to 1. -/
theorem response_read_back_status :
    let v : Value := .object [("running", .bool true), ("singlestep", .bool false),
      ("status", .string "running")]
    v ≠ .null ∧ v.isMap = true ∧ v.depth + 1 < recursionLimit ∧
      Response.fromStr ([some 1].foldl changeId (createResponse v (some 0))).toStr =
        some ([some 1].foldl changeId (createResponse v (some 0))) :=
  ⟨by decide, by decide, by decide,
    response_read_back.1 _ _ _ (by decide) (by decide) (by decide)⟩

/-- `create_response(Value::Null, None)` is not read back from its text: its `return` field
reads as `None`. -/
theorem null_return_not_read_back :
    Response.fromStr (createResponse .null none).toStr ≠ some (createResponse .null none) := by
  rw [null_return_read_as_none]
  simp [createResponse]

end Qmp

end StratoVirt
