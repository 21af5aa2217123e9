/-
# Entering MALF at start-up

`set_initial_state_bits` (lines 1401-1471 of `src/modules/state.c`) enters
MALF when `BOOTSTATE` is `MALF` followed by malfunction text, in either R&D
mode, and outside R&D mode also when `USER` or `ACT_DEAD` is followed by some or
the boot state is unknown.  `parse_malf_info` cuts the text into reason,
component and details with `strtok_r`, and `enter_malf` hands the reason to
`strcmp` and the component to `strdup` without checking them for null.

`strtok_r` finds no token when only delimiters are left, so the component is
null for a text of one word (`parseMalfInfo_word`).  `MALF` followed by one
word enters MALF in either R&D mode, and `enter_malf` gets that null
component (`malf_word_reaches_enter_malf_without_component`).
-/

import Mathlib.Data.List.Basic
import Dsme.Progress

namespace Dsme

section Strtok

variable {delim : Char → Bool}

/-- A word without delimiters is one token with nothing after it. -/
theorem strtokR_word {w : List Char} (hw : w ≠ []) (hd : ∀ c ∈ w, delim c = false) :
    strtokR delim w = (some w, []) := by
  obtain ⟨c, cs, rfl⟩ := List.exists_cons_of_ne_nil hw
  have hall : ∀ x ∈ c :: cs, (!delim x) = true := fun x hx => by simp [hd x hx]
  have hkeep : (c :: cs).dropWhile delim = c :: cs := by
    simp [List.dropWhile_cons, hd c (List.mem_cons_self _ _)]
  simp only [strtokR, hkeep, List.takeWhile_eq_self_iff.2 hall, List.dropWhile_eq_nil_iff.2 hall]
  rfl

/-- A word, a delimiter and a rest: the word is the token and `*save_ptr`
points to the rest. -/
theorem strtokR_word_delim {w rest : List Char} {c : Char} (hw : w ≠ [])
    (hnd : ∀ x ∈ w, delim x = false) (hc : delim c = true) :
    strtokR delim (w ++ c :: rest) = (some w, rest) := by
  obtain ⟨a, as, rfl⟩ := List.exists_cons_of_ne_nil hw
  have hall : ∀ x ∈ a :: as, (!delim x) = true := fun x hx => by simp [hnd x hx]
  have hkeep : (a :: as ++ c :: rest).dropWhile delim = a :: as ++ c :: rest := by
    simp [List.dropWhile_cons, hnd a (List.mem_cons_self _ _)]
  simp only [strtokR, hkeep, List.takeWhile_append_of_pos hall, List.dropWhile_append_of_pos hall]
  simp [List.takeWhile_cons, List.dropWhile_cons, hc]

end Strtok

/-- With no delimiters `strtok_r` returns the rest, or null when it is empty. -/
theorem strtokR_rest (d : List Char) :
    (strtokR (fun _ => false) d).1 = if d = [] then none else some d := by
  cases d with
  | nil => rfl
  | cons a l => simp [strtokR, List.takeWhile_eq_self_iff]

/-- One word is a reason with no component and no details. -/
theorem parseMalfInfo_word {w : List Char} (hw : w ≠ []) (hsp : ' ' ∉ w) :
    parseMalfInfo w = (some w, none, none) := by
  have hd : ∀ c ∈ w, (c == ' ') = false := fun c hc => by
    simpa using fun h : c = ' ' => hsp (h ▸ hc)
  simp only [parseMalfInfo, strtokR_word hw hd]
  rfl

/-- Reason, component and details, one space apart: `parse_malf_info` cuts
them out again, the details null when they are empty. -/
theorem parseMalfInfo_fields {r c d : List Char} (hr : r ≠ []) (hrs : ' ' ∉ r) (hc : c ≠ [])
    (hcs : ' ' ∉ c) :
    parseMalfInfo (r ++ ' ' :: (c ++ ' ' :: d)) =
      (some r, some c, if d = [] then none else some d) := by
  have nd : ∀ {w : List Char}, ' ' ∉ w → ∀ x ∈ w, (x == ' ') = false := fun hw x hx => by
    simpa using fun h : x = ' ' => hw (h ▸ hx)
  simp only [parseMalfInfo, strtokR_word_delim hr (nd hrs) (beq_self_eq_true ' '),
    strtokR_word_delim hc (nd hcs) (beq_self_eq_true ' '), strtokR_rest]

/-- What `set_initial_state_bits` hands to `parse_malf_info`: the malfunction
text when it enters MALF, `none` when it does not. -/
def malfInfo (rdMode : Bool) (bootstate : List Char) : Option (List Char) :=
  let (_, p, mustMalf) := initialStateBits bootstate {}
  if p ≠ [] ∧ (mustMalf ∨ !rdMode) then some p else none

/-- The malfunction text and the decision do not depend on the state. -/
theorem initialStateBits_snd (b : List Char) (s : State) :
    (initialStateBits b s).2 = (initialStateBits b {}).2 := by
  unfold initialStateBits
  repeat' split
  all_goals rfl

/-- `set_initial_state_bits` is the bits of `initialStateBits`, then
`enter_malf` with the fields of `malfInfo` when there is one. -/
theorem setInitialStateBits_eq (rdMode : Bool) (b : List Char) (s : State) :
    setInitialStateBits rdMode b s =
      match malfInfo rdMode b with
      | some p =>
        enterMalf (parseMalfInfo p).1 (parseMalfInfo p).2.1 (parseMalfInfo p).2.2
          (initialStateBits b s).1
      | none => (initialStateBits b s).1 := by
  have h := initialStateBits_snd b s
  unfold setInitialStateBits malfInfo
  rcases hr : initialStateBits b s with ⟨s₁, p, m⟩
  rcases hr₀ : initialStateBits b {} with ⟨s₀, p₀, m₀⟩
  rw [hr, hr₀] at h
  obtain ⟨rfl, rfl⟩ := Prod.mk.inj h
  dsimp only
  split <;> rfl

/-- `BOOTSTATE` = `MALF ` followed by `w`: the text is `w`, or the default when
`w` is empty, and MALF is a must. -/
theorem initialStateBits_malf (w : List Char) (s : State) :
    initialStateBits ("MALF ".toList ++ w) s =
      (s, if w = [] then "SOFTWARE bootloader".toList else w, true) := by
  simp [initialStateBits, skipPrefix, List.isPrefixOf]

/-- `module_init` sends what `set_initial_state_bits` sent before anything else. -/
theorem moduleInit_outbox (cfg : Config) (b : Option (List Char)) (rdMode : Bool) :
    ∃ new, (moduleInit cfg b rdMode).outbox =
      (setInitialStateBits rdMode (b.getD "USER".toList) {}).outbox ++ new :=
  (Progress.changeStateIfNecessary :
    Progress _ (changeStateIfNecessary cfg (setInitialStateBits rdMode _ {}))).grows

/-- **`MALF` followed by one word reaches `enter_malf` without a component.**
For every word `w`, in either R&D mode and either build, `BOOTSTATE` =
`MALF w` makes `set_initial_state_bits` enter MALF with the text `w`.
`parse_malf_info` cuts it into the reason `w` and a null component, and
`enter_malf` calls `strdup` on that null pointer.  In the model the first
message of `module_init` is `ENTER_MALF` with no component. -/
theorem malf_word_reaches_enter_malf_without_component (w : List Char) (hw : w ≠ [])
    (hsp : ' ' ∉ w) (cfg : Config) (rdMode : Bool) :
    malfInfo rdMode ("MALF ".toList ++ w) = some w ∧
    parseMalfInfo w = (some w, none, none) ∧
    (moduleInit cfg (some ("MALF ".toList ++ w)) rdMode).outbox.head? =
      some (.broadcastInternally (.enterMalf
        (some (if w = "HARDWARE".toList then .hardware else .software)) none none)) := by
  have hinfo : malfInfo rdMode ("MALF ".toList ++ w) = some w := by
    rw [malfInfo, initialStateBits_malf]
    simp [hw]
  refine ⟨hinfo, parseMalfInfo_word hw hsp, ?_⟩
  obtain ⟨new, hn⟩ := moduleInit_outbox cfg (some ("MALF ".toList ++ w)) rdMode
  rw [hn, Option.getD_some, setInitialStateBits_eq, hinfo]
  simp only [parseMalfInfo_word hw hsp, initialStateBits_malf]
  simp [enterMalf]

theorem malf_word_reaches_enter_malf_without_component_software :
    "SOFTWARE".toList ≠ [] ∧ ' ' ∉ "SOFTWARE".toList ∧
    malfInfo false ("MALF ".toList ++ "SOFTWARE".toList) = some "SOFTWARE".toList ∧
    parseMalfInfo "SOFTWARE".toList = (some "SOFTWARE".toList, none, none) ∧
    (moduleInit (Config.plain false) (some ("MALF ".toList ++ "SOFTWARE".toList)) false).outbox.head? =
      some (.broadcastInternally (.enterMalf
        (some (if "SOFTWARE".toList = "HARDWARE".toList then .hardware else .software)) none none)) :=
  ⟨by decide, by decide, malf_word_reaches_enter_malf_without_component "SOFTWARE".toList
    (by decide) (by decide) (Config.plain false) false⟩

end Dsme
