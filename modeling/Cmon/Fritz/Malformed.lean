import Cmon.Fritz.Layout

/-!
# Fritz — lines in no documented layout

What `handleFritzMessage` asks of a line is a known command and, for each command, a number of
fields behind it.  The fields themselves go through `atoi`, which makes a number of any text: an
empty call id, or one with letters in it, is the call `0`, and which number it makes of one that
no `int` holds depends on the library.

* `handleFritzMessage_command`: the callbacks of a line with a command and its fields.
* `handleFritzMessage_eq`: and no other line leads to any.
-/

namespace Cmon

/-- The commands of the box. -/
inductive FritzCmd where
  | call | ring | connect | disconnect
  deriving DecidableEq, Repr

namespace FritzCmd

def text : FritzCmd → String
  | call => "CALL"
  | ring => "RING"
  | connect => "CONNECT"
  | disconnect => "DISCONNECT"

/-- The number of fields that are asked for. -/
def argc : FritzCmd → Nat
  | call => 4
  | ring => 3
  | connect => 1
  | disconnect => 2

/-- The callbacks, from the fields behind the command. -/
def callbacks (p : Platform) (c : FritzCmd) (args : List String) : List CallEvent :=
  let arg (i : Nat) := args.getD i ""
  match c with
  | call => onNewOutCall (atoi p (arg 0)) (arg 2) (arg 3)
  | ring => onNewInCall (atoi p (arg 0)) (arg 1) (arg 2)
  | connect => onConnect (atoi p (arg 0))
  | disconnect => onDisconnect (atoi p (arg 0)) (atoi p (arg 1))

end FritzCmd

/-- A line with the command `c` and `args` behind it, as many as the command needs. -/
def HasFields (c : FritzCmd) (args : List String) (msg : String) : Prop :=
  (∃ date, tokens msg = date :: c.text :: args) ∧ c.argc ≤ args.length

/-- The text of a decimal number. -/
def Decimal (s : String) : Prop := ∃ i : IdText, s = String.ofList i.text

/-- A line in one of the documented layouts, as far as the program reads it. -/
def Documented (msg : String) : Prop :=
  ∃ c args, HasFields c args msg ∧ Decimal (args.getD 0 "") ∧
    (c = .disconnect → Decimal (args.getD 1 ""))

/-- The first five fields are copied; no command looks further. -/
theorem getD_take_five (args : List String) {i : Nat} (hi : i < 5) :
    (args.take 5).getD i "" = args.getD i "" := by
  simp [List.getD_eq_getElem?_getD, hi]

theorem handleFritzMessage_command (p : Platform) {c : FritzCmd} {args : List String} {msg : String}
    (h : HasFields c args msg) : handleFritzMessage p msg = c.callbacks p args := by
  obtain ⟨⟨date, ht⟩, hn⟩ := h
  have hfive : c.argc ≤ 5 := by cases c <;> decide
  have hlen : c.argc ≤ (args.take 5).length := by
    rw [List.length_take]
    exact Nat.le_min.mpr ⟨hfive, hn⟩
  have harg := fun i hi => getD_take_five args (i := i) hi
  cases c with
  | call =>
      replace hlen : 4 ≤ (args.take 5).length := hlen
      simp only [handleFritzMessage, ht, FritzCmd.text, FritzCmd.callbacks, hlen, ge_iff_le,
        and_self, if_true, harg, Nat.reduceLT]
  | ring =>
      replace hlen : 3 ≤ (args.take 5).length := hlen
      simp only [handleFritzMessage, ht, FritzCmd.text, FritzCmd.callbacks, hlen, ge_iff_le,
        and_self, if_true, harg, Nat.reduceLT]
      rfl
  | connect =>
      replace hlen : 1 ≤ (args.take 5).length := hlen
      simp only [handleFritzMessage, ht, FritzCmd.text, FritzCmd.callbacks, hlen, ge_iff_le,
        and_self, if_true, harg, Nat.reduceLT]
      rfl
  | disconnect =>
      replace hlen : 2 ≤ (args.take 5).length := hlen
      simp only [handleFritzMessage, ht, FritzCmd.text, FritzCmd.callbacks, hlen, ge_iff_le,
        and_self, if_true, harg, Nat.reduceLT]
      rfl

/-- A line that leads to a callback has a command and its fields. -/
theorem hasFields_of_ne_nil {p : Platform} {msg : String} (h : handleFritzMessage p msg ≠ []) :
    ∃ c args, HasFields c args msg := by
  rw [handleFritzMessage] at h
  split at h
  · rename_i date cmd rest ht
    have hlen : (rest.take 5).length ≤ rest.length := List.length_take_le' _ _
    have mk : ∀ c : FritzCmd, cmd = c.text ∧ (rest.take 5).length ≥ c.argc →
        ∃ c args, HasFields c args msg := by
      rintro c ⟨rfl, hn⟩
      exact ⟨c, rest, ⟨date, ht⟩, Nat.le_trans hn hlen⟩
    dsimp only at h
    split at h
    · exact mk .call ‹_›
    · split at h
      · exact mk .ring ‹_›
      · split at h
        · exact mk .connect ‹_›
        · split at h
          · exact mk .disconnect ‹_›
          · exact absurd rfl h
  · exact absurd rfl h

/-- **What a line leads to.**  A line with a command and the fields it needs leads to the callbacks
of that command, whatever the fields are; every other line leads to none. -/
theorem handleFritzMessage_eq (p : Platform) (msg : String) :
    (∀ c args, HasFields c args msg → handleFritzMessage p msg = c.callbacks p args) ∧
      ((¬ ∃ c args, HasFields c args msg) → handleFritzMessage p msg = []) :=
  ⟨fun _ _ h => handleFritzMessage_command p h,
    fun h => by_contra fun hne => h (hasFields_of_ne_nil hne)⟩

/-- A line with an empty call id announces the call `0`. -/
theorem empty_id_rings :
    ¬ Documented "18.11.12 21:38:42;RING;;030123456;030654321;" ∧
      CallEvent.newCall fritzPluginId 0 .incoming .offering ∈
        handleFritzMessage utcPlatform "18.11.12 21:38:42;RING;;030123456;030654321;" := by
  have ht : tokens "18.11.12 21:38:42;RING;;030123456;030654321;" =
      ["18.11.12 21:38:42", "RING", "", "030123456", "030654321", ""] := by decide
  refine ⟨?_, by decide⟩
  rintro ⟨c, args, ⟨⟨date, htok⟩, -⟩, ⟨i, hid⟩, -⟩
  rw [ht] at htok
  obtain ⟨-, htok⟩ := List.cons_eq_cons.mp htok
  obtain ⟨-, rfl⟩ := List.cons_eq_cons.mp htok
  exact i.text_ne_nil (String.ofList_injective hid.symm)

end Cmon
