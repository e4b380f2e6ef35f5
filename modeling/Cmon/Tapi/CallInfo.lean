import Mathlib.Algebra.Group.Nat.Defs
import Cmon.Tapi.Call

/-!
# TAPI — the record of a call

`LINECALLINFO`, the block of memory `lineGetCallInfo` fills, with the strings in it, and what
`CTafCall::queryInfo` takes from it.

* `TafCall.queryRecord_eq`: the answer that `TafCall.queryInfo` is given is the one in the record.
* `LineCallInfoRecord.text_eq_string`: `getTapiString` does not look at the size of a string; it
  reads the one of the record when its size reaches to the zero.
* `TafCall.members_iff`: the records of which every member of the call gets its own string.
* `TafCall.name_of_called_lost`: the name of the called side is not one of them.
-/

namespace Cmon

/-! ### The block -/

/-- `LINECALLPARTYID_ADDRESS`. -/
def lineCallPartyIdAddress : UInt32 := 0x8

/-- `LINECALLPARTYID_NAME`. -/
def lineCallPartyIdName : UInt32 := 0x4

/-- A string of the record, by its place in it, and whether its flag is set. -/
structure RecordString where
  flag : Bool
  offset : UInt32
  size : UInt32
  deriving DecidableEq, Repr

/-- `LINECALLINFO`: the members `queryInfo` reads, and the bytes of the block they are in. -/
structure LineCallInfoRecord where
  dwUsedSize : UInt32
  dwCallerIDFlags : UInt32
  dwCallerIDSize : UInt32
  dwCallerIDOffset : UInt32
  dwCallerIDNameSize : UInt32
  dwCallerIDNameOffset : UInt32
  dwCalledIDFlags : UInt32
  dwCalledIDSize : UInt32
  dwCalledIDOffset : UInt32
  dwCalledIDNameSize : UInt32
  dwCalledIDNameOffset : UInt32
  bytes : List UInt8
  deriving DecidableEq, Repr

/-- The wide characters up to the first zero, when there is one in the block. -/
def wideChars : List UInt8 → Option (List UInt16)
  | lo :: hi :: bytes =>
      let c := lo.toUInt16 + 256 * hi.toUInt16
      if c = 0 then some [] else (wideChars bytes).map (c :: ·)
  | _ => none

/-- The wide characters of a string, which may be ended by a zero. -/
def stringChars : List UInt8 → List UInt16
  | lo :: hi :: bytes =>
      let c := lo.toUInt16 + 256 * hi.toUInt16
      if c = 0 then [] else c :: stringChars bytes
  | _ => []

/-- What is read up to the zero is the string, if that reaches to the zero. -/
theorem stringChars_take {bytes : List UInt8} {cs : List UInt16} (h : wideChars bytes = some cs)
    {size : Nat} (hsize : 2 * cs.length ≤ size) : stringChars (bytes.take size) = cs := by
  induction bytes using wideChars.induct generalizing cs size with
  | case1 lo hi bytes c =>
      rename_i hc
      rw [wideChars, if_pos hc] at h
      obtain rfl := Option.some.inj h
      match size with
      | 0 => rfl
      | 1 => rfl
      | size + 2 => exact if_pos hc
  | case2 lo hi bytes c hc =>
      rename_i ih
      rw [wideChars, if_neg hc, Option.map_eq_some_iff] at h
      obtain ⟨cs, hcs, rfl⟩ := h
      rw [List.length_cons] at hsize
      obtain ⟨size, rfl⟩ : ∃ n, size = n + 2 := ⟨size - 2, by omega⟩
      rw [List.take_succ_cons, List.take_succ_cons, stringChars, if_neg hc, ih hcs (by omega)]
  | case3 bytes hbytes =>
      rw [wideChars] at h
      · cases h
      · exact hbytes

namespace LineCallInfoRecord

/-- The caller's address, -/
def callerID (r : LineCallInfoRecord) : RecordString :=
  ⟨r.dwCallerIDFlags &&& lineCallPartyIdAddress ≠ 0, r.dwCallerIDOffset, r.dwCallerIDSize⟩

/-- the caller's name, -/
def callerIDName (r : LineCallInfoRecord) : RecordString :=
  ⟨r.dwCallerIDFlags &&& lineCallPartyIdName ≠ 0, r.dwCallerIDNameOffset, r.dwCallerIDNameSize⟩

/-- the called address, -/
def calledID (r : LineCallInfoRecord) : RecordString :=
  ⟨r.dwCalledIDFlags &&& lineCallPartyIdAddress ≠ 0, r.dwCalledIDOffset, r.dwCalledIDSize⟩

/-- and the called name. -/
def calledIDName (r : LineCallInfoRecord) : RecordString :=
  ⟨r.dwCalledIDFlags &&& lineCallPartyIdName ≠ 0, r.dwCalledIDNameOffset, r.dwCalledIDNameSize⟩

/-- The test of a branch: the sum is one of `DWORD`s. -/
def taken (r : LineCallInfoRecord) (str : RecordString) : Bool :=
  str.flag && str.offset + str.size ≤ r.dwUsedSize

/-- The string is in the part of the record that is used. -/
def given (r : LineCallInfoRecord) (str : RecordString) : Bool :=
  str.flag && str.offset.toNat + str.size.toNat ≤ r.dwUsedSize.toNat

/-- The sum of offset and size is too large for a `DWORD`, and what is left of it passes. -/
def wraps (r : LineCallInfoRecord) (str : RecordString) : Bool :=
  r.taken str && !r.given str

end LineCallInfoRecord

section Convert
-- `wxConvUTF8.cWC2MB`, which fails on what is no UTF-16
variable (cWC2MB : List UInt16 → Option String)

/-- `getTapiString` with `STRINGFORMAT_UNICODE`.  What it does is undefined when the string does
not end in the block or cannot be converted. -/
def getTapiString (bytes : List UInt8) (offs : UInt32) : Option String :=
  (wideChars (bytes.drop offs.toNat)).bind cWC2MB

namespace LineCallInfoRecord

/-- What `getTapiString` makes of a string of the record. -/
def text (r : LineCallInfoRecord) (str : RecordString) : Option String :=
  getTapiString cWC2MB r.bytes str.offset

/-- The string of the record: as many bytes from its offset on as its size says. -/
def string (r : LineCallInfoRecord) (str : RecordString) : Option String :=
  cWC2MB (stringChars ((r.bytes.drop str.offset.toNat).take str.size.toNat))

/-- One branch of `CTafCall::queryInfo`, for a member that is `old`. -/
def fetch (r : LineCallInfoRecord) (str : RecordString) (old : String) : Option String :=
  if r.taken str then r.text cWC2MB str else some old

/-- What a member that is `old` should be: the string that is given. -/
def member (r : LineCallInfoRecord) (str : RecordString) (old : String) : Option String :=
  if r.given str then r.string cWC2MB str else some old

end LineCallInfoRecord

/-- `CTafCall::queryInfo` with the record that `lineGetCallInfo` returned. -/
def TafCall.queryRecord (call : TafCall) (r : LineCallInfoRecord) : Option TafCall := do
  let strCallerAddress ← r.fetch cWC2MB r.callerID call.callerAddress
  let call := { call with callerAddress := strCallerAddress }
  let strCallerName ← r.fetch cWC2MB r.callerIDName call.callerName
  let call := { call with callerName := strCallerName }
  let strCalledAddress ← r.fetch cWC2MB r.calledID call.calledAddress
  let call := { call with calledAddress := strCalledAddress }
  -- the fourth branch is for the name, and writes the address
  let strCalledAddress ← r.fetch cWC2MB r.calledIDName call.calledAddress
  some { call with calledAddress := strCalledAddress }

/-! ### The answer in the record -/

namespace LineCallInfoRecord

/-- A string of the answer, where the test of its branch passes. -/
def answered (r : LineCallInfoRecord) (str : RecordString) : Option (Option String) :=
  if r.taken str then (r.text cWC2MB str).map some else some none

/-- What the record answers. -/
def answer (r : LineCallInfoRecord) : Option LineCallInfo := do
  let callerID ← r.answered cWC2MB r.callerID
  let callerIDName ← r.answered cWC2MB r.callerIDName
  let calledID ← r.answered cWC2MB r.calledID
  let calledIDName ← r.answered cWC2MB r.calledIDName
  some ⟨callerID, callerIDName, calledID, calledIDName⟩

variable {cWC2MB} {r : LineCallInfoRecord} {str : RecordString} {old : String}

theorem fetch_eq_answered :
    r.fetch cWC2MB str old = (r.answered cWC2MB str).map fun text => text.getD old := by
  rw [fetch, answered]
  split
  · rw [Option.map_map]
    exact Option.map_id'.symm
  · rfl

end LineCallInfoRecord

namespace TafCall
variable {cWC2MB} {call call' : TafCall} {r : LineCallInfoRecord}

/-- **The record is its answer.** -/
theorem queryRecord_eq : call.queryRecord cWC2MB r =
    (r.answer cWC2MB).map fun info => call.queryInfo (some info) := by
  rw [queryRecord, LineCallInfoRecord.answer]
  simp only [LineCallInfoRecord.fetch_eq_answered]
  cases r.answered cWC2MB r.callerID with
  | none => rfl
  | some callerID =>
  cases r.answered cWC2MB r.callerIDName with
  | none => rfl
  | some callerIDName =>
  cases r.answered cWC2MB r.calledID with
  | none => rfl
  | some calledID =>
  cases r.answered cWC2MB r.calledIDName with
  | none => rfl
  | some calledIDName => rfl

end TafCall

/-! ### Each member and its string -/

namespace LineCallInfoRecord
variable {cWC2MB} {r : LineCallInfoRecord} {str : RecordString} {old : String}

variable (cWC2MB) in
/-- What is read in a branch that is taken ends with a zero, is the string of the record if one is
given, and what the member was if the sum is too large. -/
def Right (r : LineCallInfoRecord) (str : RecordString) (old : String) : Prop :=
  r.taken str = true → ∃ t, r.text cWC2MB str = some t ∧
    (r.given str = true → r.string cWC2MB str = some t) ∧ (r.wraps str = true → t = old)

/-- **A string is read as it is in the record** when there is a zero, and its size reaches to it. -/
theorem text_eq_string {cs : List UInt16}
    (h : wideChars (r.bytes.drop str.offset.toNat) = some cs)
    (hsize : 2 * cs.length ≤ str.size.toNat) : r.text cWC2MB str = r.string cWC2MB str := by
  rw [text, getTapiString, h, string, stringChars_take h hsize]
  rfl

theorem taken_of_given (h : r.given str = true) : r.taken str = true := by
  simp only [given, taken, Bool.and_eq_true, decide_eq_true_eq, UInt32.le_iff_toNat_le,
    UInt32.toNat_add] at h ⊢
  have hlt := r.dwUsedSize.toNat_lt
  exact ⟨h.1, Nat.le_trans (Nat.mod_le _ _) h.2⟩

/-- What it takes for the test to pass by mistake. -/
theorem wraps_iff : r.wraps str = true ↔ str.flag = true ∧
    2 ^ 32 ≤ str.offset.toNat + str.size.toNat ∧
      str.offset.toNat + str.size.toNat ≤ r.dwUsedSize.toNat + 2 ^ 32 := by
  have ho := str.offset.toNat_lt
  have hs := str.size.toNat_lt
  have hu := r.dwUsedSize.toNat_lt
  simp only [wraps, given, taken, Bool.and_eq_true, Bool.not_eq_true', Bool.and_eq_false_iff,
    decide_eq_true_eq, decide_eq_false_iff_not, UInt32.le_iff_toNat_le, UInt32.toNat_add]
  constructor
  · rintro ⟨⟨hf, hle⟩, hor⟩
    have hgt := hor.resolve_left (by simp [hf])
    exact ⟨hf, by omega, by omega⟩
  · rintro ⟨hf, hge, hle⟩
    exact ⟨⟨hf, by omega⟩, .inr (by omega)⟩

theorem wraps_eq_false (h : r.given str = true) : r.wraps str = false := by
  rw [wraps, h, Bool.not_true, Bool.and_false]

/-- A branch that writes its own member. -/
theorem fetch_member_iff :
    (∃ t, r.fetch cWC2MB str old = some t ∧ r.member cWC2MB str old = some t) ↔
      r.Right cWC2MB str old := by
  rw [fetch, member, Right]
  cases hg : r.given str with
  | true => simp [taken_of_given hg, wraps_eq_false hg]
  | false =>
      cases ht : r.taken str with
      | true => simp [wraps, ht, hg]
      | false => simp

end LineCallInfoRecord

namespace TafCall

/-- Every member is what it should be. -/
structure Members (r : LineCallInfoRecord) (call call' : TafCall) : Prop where
  callerAddress :
    r.member cWC2MB r.callerID call.callerAddress = some call'.callerAddress
  callerName :
    r.member cWC2MB r.callerIDName call.callerName = some call'.callerName
  calledAddress :
    r.member cWC2MB r.calledID call.calledAddress = some call'.calledAddress
  calledName :
    r.member cWC2MB r.calledIDName call.calledName = some call'.calledName

/-- When the name of the called side is read, it is what its address should be, and one that is
given is what the name was. -/
def NameRight (r : LineCallInfoRecord) (call : TafCall) : Prop :=
  r.taken r.calledIDName = true → ∃ t, r.text cWC2MB r.calledIDName = some t ∧
    r.member cWC2MB r.calledID call.calledAddress = some t ∧
      (r.given r.calledIDName = true → r.string cWC2MB r.calledIDName = some call.calledName)

/-- The address of the called side is right, or is replaced by the name. -/
def AddressRight (r : LineCallInfoRecord) (call : TafCall) : Prop :=
  if r.taken r.calledIDName then r.taken r.calledID = true → r.text cWC2MB r.calledID ≠ none
  else r.Right cWC2MB r.calledID call.calledAddress

/-- The records whose strings get to their own members. -/
structure Own (r : LineCallInfoRecord) (call : TafCall) : Prop where
  callerAddress : r.Right cWC2MB r.callerID call.callerAddress
  callerName : r.Right cWC2MB r.callerIDName call.callerName
  calledAddress : AddressRight cWC2MB r call
  calledName : NameRight cWC2MB r call

variable {cWC2MB} {call call' : TafCall} {r : LineCallInfoRecord}

/-- The four branches, one after the other. -/
theorem queryRecord_some : call.queryRecord cWC2MB r = some call' ↔ ∃ a n c c',
    r.fetch cWC2MB r.callerID call.callerAddress = some a ∧
    r.fetch cWC2MB r.callerIDName call.callerName = some n ∧
    r.fetch cWC2MB r.calledID call.calledAddress = some c ∧
    r.fetch cWC2MB r.calledIDName c = some c' ∧
    call' = { call with callerAddress := a, callerName := n, calledAddress := c' } := by
  simp only [queryRecord, Option.bind_eq_bind, Option.bind_eq_some_iff, Option.some.injEq]
  constructor
  · rintro ⟨a, ha, n, hn, c, hc, c', hc', rfl⟩
    exact ⟨a, n, c, c', ha, hn, hc, hc', rfl⟩
  · rintro ⟨a, n, c, c', ha, hn, hc, hc', rfl⟩
    exact ⟨a, ha, n, hn, c, hc, c', hc', rfl⟩

/-- The two branches of the called side, which write the same member. -/
theorem called_iff : (∃ c c', r.fetch cWC2MB r.calledID call.calledAddress = some c ∧
    r.fetch cWC2MB r.calledIDName c = some c' ∧
    r.member cWC2MB r.calledID call.calledAddress = some c' ∧
    r.member cWC2MB r.calledIDName call.calledName = some call.calledName) ↔
      AddressRight cWC2MB r call ∧ NameRight cWC2MB r call := by
  rw [AddressRight, NameRight]
  cases ht : r.taken r.calledIDName with
  | false =>
      have hg : r.given r.calledIDName = false := by
        rw [← Bool.not_eq_true]
        intro hg
        rw [LineCallInfoRecord.taken_of_given hg] at ht
        cases ht
      rw [if_neg Bool.false_ne_true, ← LineCallInfoRecord.fetch_member_iff]
      simp [LineCallInfoRecord.fetch, LineCallInfoRecord.member, ht, hg]
  | true =>
      have hname : ∀ c, r.fetch cWC2MB r.calledIDName c = r.text cWC2MB r.calledIDName :=
        fun c => if_pos ht
      have hread : (∃ c, r.fetch cWC2MB r.calledID call.calledAddress = some c) ↔
          (r.taken r.calledID = true → r.text cWC2MB r.calledID ≠ none) := by
        rw [LineCallInfoRecord.fetch]
        split <;> simp [*, Option.ne_none_iff_exists']
      rw [if_pos rfl, ← hread]
      simp only [hname]
      constructor
      · rintro ⟨c, c', hc, hc', hm, hn⟩
        refine ⟨⟨c, hc⟩, fun _ => ⟨c', hc', hm, fun hg => ?_⟩⟩
        rwa [LineCallInfoRecord.member, if_pos hg] at hn
      · rintro ⟨⟨c, hc⟩, hname⟩
        obtain ⟨c', hc', hm, hn⟩ := hname trivial
        refine ⟨c, c', hc, hc', hm, ?_⟩
        rw [LineCallInfoRecord.member]
        split
        · next hg => exact hn hg
        · rfl

/-- **Each member gets its own string exactly when the record is one of those.** -/
theorem members_iff (call : TafCall) (r : LineCallInfoRecord) :
    (∃ call', call.queryRecord cWC2MB r = some call' ∧ Members cWC2MB r call call') ↔
      Own cWC2MB r call := by
  constructor
  · rintro ⟨call', hq, hm⟩
    obtain ⟨a, n, c, c', ha, hn, hc, hc', rfl⟩ := queryRecord_some.mp hq
    have hcalled := called_iff.mp ⟨c, c', hc, hc', hm.calledAddress, hm.calledName⟩
    exact ⟨LineCallInfoRecord.fetch_member_iff.mp ⟨a, ha, hm.callerAddress⟩,
      LineCallInfoRecord.fetch_member_iff.mp ⟨n, hn, hm.callerName⟩, hcalled.1, hcalled.2⟩
  · intro h
    obtain ⟨a, ha, hma⟩ := LineCallInfoRecord.fetch_member_iff.mpr h.callerAddress
    obtain ⟨n, hn, hmn⟩ := LineCallInfoRecord.fetch_member_iff.mpr h.callerName
    obtain ⟨c, c', hc, hc', hmc, hm⟩ := called_iff.mpr ⟨h.calledAddress, h.calledName⟩
    exact ⟨_, queryRecord_some.mpr ⟨a, n, c, c', ha, hn, hc, hc', rfl⟩, ⟨hma, hmn, hmc, hm⟩⟩

/-- Characters that are their own code. -/
def narrow (cs : List UInt16) : Option String :=
  some (String.ofList (cs.map fun c => Char.ofNat c.toNat))

/-- A record in which the called side has the name `B`, and no address. -/
def namedRecord : LineCallInfoRecord :=
  ⟨404, 0, 0, 0, 0, 0, lineCallPartyIdName, 0, 0, 4, 400, List.replicate 400 0 ++ [66, 0, 0, 0]⟩

/-- The name of the called side becomes its address. -/
theorem name_of_called_lost : (create 1 none).queryRecord narrow namedRecord =
      some { create 1 none with calledAddress := "B" } ∧
    ¬ ∃ call', (create 1 none).queryRecord narrow namedRecord = some call' ∧
      Members narrow namedRecord (create 1 none) call' := by
  have hq : (create 1 none).queryRecord narrow namedRecord =
      some { create 1 none with calledAddress := "B" } := by decide +kernel
  refine ⟨hq, ?_⟩
  rintro ⟨call', hq', hm⟩
  have hname := hm.calledName
  rw [← Option.some.inj (hq.symm.trans hq')] at hname
  revert hname
  decide +kernel

end TafCall
end Convert
end Cmon
