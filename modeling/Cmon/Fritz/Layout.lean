import Cmon.Fritz.Message
import Mathlib.Data.List.Basic

/-!
# Fritz — the layouts

The four messages of the box in their documented layouts.  A field is free of `;` and of line
feeds and may be empty; a call id is a decimal number in the range of an `int`.  A message is sent
as a line, `Sent.wire`, that ends with `\n` or with `\r\n`; the carriage return stays behind the
last field.

* `Message.events`: what the observers are to be told.
* `handleFritzMessage_line`: that is what `handleFritzMessage` makes of the line.
-/

namespace Cmon

/-! ### Fields -/

/-- A text that stands between two separators. -/
structure Field where
  text : List Char
  no_sep : ';' ∉ text
  no_lf : '\n' ∉ text

def Field.empty : Field := ⟨[], List.not_mem_nil, List.not_mem_nil⟩

/-- A call id as it is written: decimal digits, perhaps behind a minus sign, with a value that
an `int` can hold. -/
structure IdText where
  negative : Bool
  digits : List Char
  ne_nil : digits ≠ []
  isDigit : ∀ c ∈ digits, '0' ≤ c ∧ c ≤ '9'
  inRange : Nat.ofDigitChars 10 digits 0 < 2147483648 ∨
    negative = true ∧ Nat.ofDigitChars 10 digits 0 = 2147483648

namespace IdText

def zero : IdText := ⟨false, ['0'], by decide, by simp, by decide⟩

variable (i : IdText)

def text : List Char := if i.negative then '-' :: i.digits else i.digits

/-- The number it is. -/
def value : Int :=
  if i.negative then -(Nat.ofDigitChars 10 i.digits 0 : Int) else Nat.ofDigitChars 10 i.digits 0

theorem inInt_value : InInt i.value := by
  have h := i.inRange
  rw [InInt, value]
  split
  · omega
  · rcases h with h | ⟨hn, -⟩
    · omega
    · contradiction

theorem text_ne_nil : i.text ≠ [] := by
  rw [text]
  split
  · exact List.cons_ne_nil _ _
  · exact i.ne_nil

/-- No character below `0` but the sign, and none above `9`. -/
theorem of_mem_text {c : Char} (h : c ∈ i.text) : c = '-' ∨ '0' ≤ c ∧ c ≤ '9' := by
  rw [text] at h
  split at h
  · exact (List.mem_cons.mp h).imp id (i.isDigit c)
  · exact .inr (i.isDigit c h)

theorem sep_not_mem : ';' ∉ i.text := fun h => absurd (i.of_mem_text h) (by decide)

theorem lf_not_mem : '\n' ∉ i.text := fun h => absurd (i.of_mem_text h) (by decide)

end IdText

/-- The value of digits, read from the left. -/
theorem atoiDigits_digits {cs : List Char} (h : ∀ c ∈ cs, '0' ≤ c ∧ c ≤ '9') (n : Nat) :
    atoiDigits n cs = Nat.ofDigitChars 10 cs n := by
  induction cs generalizing n with
  | nil => rfl
  | cons c cs ih =>
      have hc := h c (.head _)
      have h0 : '0'.toNat ≤ c.toNat := hc.1
      rw [atoiDigits, if_pos hc, Nat.ofDigitChars_cons,
        ← ih (fun d hd => h d (.tail _ hd)) (10 * n + (c.toNat - '0'.toNat)), Int.natCast_add,
        Int.ofNat_sub h0]
      rfl

/-- The number in the text of a call id. -/
theorem atoiNumber_text (i : IdText) : atoiNumber (String.ofList i.text) = i.value := by
  obtain ⟨d, ds, hds⟩ := List.exists_cons_of_ne_nil i.ne_nil
  have hd : '0' ≤ d ∧ d ≤ '9' := i.isDigit d (hds ▸ .head _)
  have hval : atoiDigits 0 i.digits = Nat.ofDigitChars 10 i.digits 0 :=
    atoiDigits_digits i.isDigit 0
  have hsp : ¬ (d = ' ' ∨ '\t' ≤ d ∧ d ≤ '\r') := by
    rintro (rfl | ⟨-, h⟩)
    · exact absurd hd.1 (by decide)
    · exact absurd (Char.le_trans hd.1 h) (by decide)
  cases hn : i.negative with
  | true => simp [atoiNumber, IdText.text, IdText.value, hn, hval]
  | false =>
      have htext : (String.ofList i.text).toList.dropWhile
          (fun c => c = ' ' ∨ '\t' ≤ c ∧ c ≤ '\r') = i.digits := by
        simp only [IdText.text, hn, String.toList_ofList, Bool.false_eq_true, if_false, hds,
          List.dropWhile_cons, decide_eq_true_eq, if_neg hsp]
      rw [atoiNumber, htext, IdText.value, hn, ← hval]
      split
      · rename_i cs e
        exact absurd (i.isDigit '-' (e ▸ .head _)) (by decide)
      · rename_i cs e
        exact absurd (i.isDigit '+' (e ▸ .head _)) (by decide)
      · rfl

/-- `atoi` reads a call id. -/
theorem atoi_text (p : Platform) (i : IdText) : atoi p (String.ofList i.text) = i.value := by
  rw [atoi, atoiNumber_text, if_pos i.inInt_value]

/-! ### Messages -/

/-- A message, with the fields of its documented layout. -/
inductive Message where
  | call (date : Field) (id : IdText) (extension caller called lineName : Field)
  | ring (date : Field) (id : IdText) (caller called : Field)
  | connect (date : Field) (id : IdText) (extension number : Field)
  | disconnect (date : Field) (id : IdText) (duration : Field)

namespace Message

/-- The fields of the line.  Three of the layouts end with a separator. -/
def fields : Message → List (List Char)
  | call date id extension caller called lineName =>
      [date.text, "CALL".toList, id.text, extension.text, caller.text, called.text, lineName.text]
  | ring date id caller called =>
      [date.text, "RING".toList, id.text, caller.text, called.text, []]
  | connect date id extension number =>
      [date.text, "CONNECT".toList, id.text, extension.text, number.text, []]
  | disconnect date id duration => [date.text, "DISCONNECT".toList, id.text, duration.text, []]

theorem no_sep_no_lf (m : Message) : ∀ f ∈ m.fields, ';' ∉ f ∧ '\n' ∉ f := by
  cases m with
  | call date id extension caller called lineName =>
      simp [fields, Field.no_sep, Field.no_lf, IdText.sep_not_mem, IdText.lf_not_mem]
  | ring date id caller called | connect date id extension number =>
      simp [fields, Field.no_sep, Field.no_lf, IdText.sep_not_mem, IdText.lf_not_mem]
  | disconnect date id duration =>
      simp [fields, Field.no_sep, Field.no_lf, IdText.sep_not_mem, IdText.lf_not_mem]

/-- What an observer is told of a message: the call by its id, and at its beginning the caller and
the called number. -/
def events : Message → List CallEvent
  | call _ id _ caller called _ =>
      [.newCall fritzPluginId (unsigned id.value) .outgoing .dialing,
        .callInfo fritzPluginId (unsigned id.value)
          ⟨String.ofList called.text, String.ofList caller.text, "", ""⟩]
  | ring _ id caller called =>
      [.newCall fritzPluginId (unsigned id.value) .incoming .offering,
        .callInfo fritzPluginId (unsigned id.value)
          ⟨String.ofList called.text, String.ofList caller.text, "", ""⟩]
  | connect _ id _ _ => [.callStatus fritzPluginId (unsigned id.value) .connected]
  | disconnect _ id _ => [.callStatus fritzPluginId (unsigned id.value) .idle]

end Message

/-- A message and whether a carriage return precedes its line feed. -/
structure Sent where
  message : Message
  cr : Bool

namespace Sent

/-- The line without its line feed. -/
def line (m : Sent) : List Char :=
  [';'].intercalate m.message.fields ++ if m.cr then ['\r'] else []

def wire (m : Sent) : List Char := m.line ++ ['\n']

/-- The carriage return is the end of the last field. -/
theorem line_eq (m : Sent) {front : List (List Char)} {last : List Char}
    (h : m.message.fields = front ++ [last]) :
    m.line = [';'].intercalate (front ++ [last ++ if m.cr then ['\r'] else []]) := by
  rw [line, h]
  clear h
  induction front with
  | nil => simp
  | cons f fs ih =>
      cases fs with
      | nil => simp
      | cons g fs => simpa [List.intercalate_cons_cons] using ih

/-- The tokens of a line are the fields of the message. -/
theorem tokens_line (m : Sent) (f : List Char) (front : List (List Char)) {last : List Char}
    (h : m.message.fields = f :: front ++ [last]) :
    tokens (String.ofList m.line) =
      (f :: front ++ [last ++ if m.cr then ['\r'] else []]).map String.ofList := by
  have hsep : ∀ g ∈ f :: front ++ [last ++ if m.cr then ['\r'] else []], ';' ∉ g := by
    intro g hg
    have hf := m.message.no_sep_no_lf
    rw [h] at hf
    rcases List.mem_append.mp hg with hg | hg
    · exact (hf g (List.mem_append_left _ hg)).1
    · rw [List.mem_singleton.mp hg]
      have hlast := (hf last (List.mem_append_right _ (.head _))).1
      split <;> simp [hlast]
  have hne : String.ofList m.line ≠ "" := by
    rw [line_eq m h]
    cases front <;> simp [List.intercalate_cons_cons]
  rw [tokens, if_neg hne, String.toList_ofList, line_eq m h,
    List.splitOn_intercalate _ hsep (by simp)]

theorem lf_not_mem_intercalate {fs : List (List Char)} (h : ∀ f ∈ fs, '\n' ∉ f) :
    '\n' ∉ [';'].intercalate fs := by
  induction fs with
  | nil => exact List.not_mem_nil
  | cons f fs ih =>
      have hf := h f (.head _)
      have hfs := ih fun g hg => h g (.tail _ hg)
      cases fs with
      | nil => simpa using hf
      | cons g fs => simp [List.intercalate_cons_cons, hf, hfs]

theorem lf_not_mem_line (m : Sent) : '\n' ∉ m.line := by
  have h := lf_not_mem_intercalate fun f hf => (m.message.no_sep_no_lf f hf).2
  rw [line]
  split <;> simp [h]

end Sent

/-- **The observers are told what a line in a documented layout says.** -/
theorem handleFritzMessage_line (p : Platform) (m : Sent) :
    handleFritzMessage p (String.ofList m.line) = m.message.events := by
  obtain ⟨msg, cr⟩ := m
  cases msg with
  | call date id extension caller called lineName =>
      have ht := Sent.tokens_line ⟨.call date id extension caller called lineName, cr⟩ date.text
        [_, _, _, _, _] rfl
      simp [handleFritzMessage, ht, Message.events, onNewOutCall, atoi_text]
  | ring date id caller called =>
      have ht := Sent.tokens_line ⟨.ring date id caller called, cr⟩ date.text
        [_, _, _, _] rfl
      simp [handleFritzMessage, ht, Message.events, onNewInCall, atoi_text]
  | connect date id extension number =>
      have ht := Sent.tokens_line ⟨.connect date id extension number, cr⟩ date.text
        [_, _, _, _] rfl
      simp [handleFritzMessage, ht, Message.events, onConnect, atoi_text]
  | disconnect date id duration =>
      have ht := Sent.tokens_line ⟨.disconnect date id duration, cr⟩ date.text
        [_, _, _] rfl
      simp [handleFritzMessage, ht, Message.events, onDisconnect, atoi_text]

end Cmon
