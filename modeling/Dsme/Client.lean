/-
# State names between dsmetool and the state module

`src/util/dsmetool.c` prints the device state with its own `dsme_state_repr`
(lines 158-176) for `-g`, and hands the run level of `-t` through
`parse_runlevel` (lines 592-608) before sending it as the extra of
`DSM_MSGTYPE_TELINIT`.  The state module looks the name up again with
`state_value` (lines 231-244 of `src/modules/state.c`).  Both compare with
`strcasecmp`.

| name | `dsme_state_repr` | `parse_runlevel` | `state_value` |
| --- | --- | --- | --- |
| `SHUTDOWN`, `USER`, `ACTDEAD`, `REBOOT` | printed | accepted | the state |
| `NOT_SET`, `TEST`, `MALF`, `BOOT`, `LOCAL` | printed | refused | the state |
| anything else | never printed | refused | `NOT_SET` |

`stateValue_eq_iff` says what `state_value` makes of any string: the state
whose name it matches ignoring case, and `NOT_SET` when it matches none.
`runlevel_names_agree` joins the two programs: dsmetool prints the names of
the state module's table, `-t` accepts exactly the names of the four run-level
states, and the name it sends is looked up as the state the user named.
-/

import Dsme.Handlers

namespace Dsme

/-- `dsme_state_repr` of `dsmetool.c`; `UNKNOWN` is for values outside
`dsme_state_t`, which `DsmeState` does not have. -/
def dsmeStateRepr : DsmeState → List Char
  | .shutdown => "SHUTDOWN".toList
  | .user => "USER".toList
  | .actdead => "ACTDEAD".toList
  | .reboot => "REBOOT".toList
  | .boot => "BOOT".toList
  | .notSet => "NOT_SET".toList
  | .test => "TEST".toList
  | .malf => "MALF".toList
  | .«local» => "LOCAL".toList

/-- The table `lut` of `parse_runlevel`. -/
def runlevelNames : List (List Char) :=
  ["SHUTDOWN".toList, "USER".toList, "ACTDEAD".toList, "REBOOT".toList]

/-- `parse_runlevel`: the table's spelling of the first name `str` matches
ignoring case; `none` is the `exit(EXIT_FAILURE)` after "not a valid run level". -/
def parseRunlevel (str : List Char) : Option (List Char) :=
  runlevelNames.find? fun name => strcaseeq name str

/-- The four states `-t` can ask for. -/
def IsRunlevelState (st : DsmeState) : Prop :=
  st = .shutdown ∨ st = .user ∨ st = .actdead ∨ st = .reboot

instance : DecidablePred IsRunlevelState := fun _ => inferInstanceAs (Decidable (_ ∨ _))

theorem mem_states (st : DsmeState) : st ∈ states := by
  cases st <;> decide

/-- No two names of the table are equal ignoring case. -/
theorem stateName_toLower_inj {x y : DsmeState}
    (h : (stateName x).map Char.toLower = (stateName y).map Char.toLower) : x = y := by
  cases x <;> cases y <;> first | rfl | exact absurd h (by decide)

theorem strcaseeq_trans_inj {x y : DsmeState} {name : List Char}
    (hx : strcaseeq (stateName x) name = true) (hy : strcaseeq (stateName y) name = true) :
    x = y := by
  simp only [strcaseeq, beq_iff_eq] at hx hy
  exact stateName_toLower_inj (hx.trans hy.symm)

/-- `state_value` of a name in the table, in any case, is that state. -/
theorem stateValue_of_strcaseeq {name : List Char} {st : DsmeState}
    (h : strcaseeq (stateName st) name = true) : stateValue name = st := by
  unfold stateValue
  cases hf : states.find? (fun x => strcaseeq (stateName x) name) with
  | some y =>
    exact strcaseeq_trans_inj (List.find?_some (p := fun x => strcaseeq (stateName x) name) hf) h
  | none => exact absurd (List.find?_eq_none.1 hf st (mem_states st)) (by simpa using h)

/-- The state `state_value` returns matches the name, unless it is the
`NOT_SET` of a name that matches none. -/
theorem stateValue_matches (name : List Char) :
    strcaseeq (stateName (stateValue name)) name = true ∨
      (stateValue name = .notSet ∧ ∀ x, strcaseeq (stateName x) name = false) := by
  unfold stateValue
  cases hf : states.find? (fun x => strcaseeq (stateName x) name) with
  | some y => exact .inl (List.find?_some (p := fun x => strcaseeq (stateName x) name) hf)
  | none => exact .inr ⟨rfl, fun x => by simpa using List.find?_eq_none.1 hf x (mem_states x)⟩

/-- **What `state_value` makes of a string**: the state whose name the
string matches ignoring case, and `NOT_SET` when it matches no name. -/
theorem stateValue_eq_iff (name : List Char) (st : DsmeState) :
    stateValue name = st ↔ strcaseeq (stateName st) name = true ∨
      (st = .notSet ∧ ∀ x, strcaseeq (stateName x) name = false) := by
  refine ⟨fun h => h ▸ stateValue_matches name, fun h => ?_⟩
  rcases h with h | ⟨rfl, hno⟩
  · exact stateValue_of_strcaseeq h
  · rcases stateValue_matches name with hm | ⟨he, -⟩
    · exact absurd hm (by rw [hno]; decide)
    · exact he

theorem stateValue_stateName (st : DsmeState) : stateValue (stateName st) = st :=
  stateValue_of_strcaseeq (by simp [strcaseeq])

theorem parseRunlevel_eq_some {str name : List Char} (h : parseRunlevel str = some name) :
    ∃ st, IsRunlevelState st ∧ name = stateName st ∧ strcaseeq (stateName st) str = true := by
  have hf : runlevelNames.find? (fun name => strcaseeq name str) = some name := h
  have hmem := List.mem_of_find?_eq_some hf
  have hmatch : strcaseeq name str = true :=
    List.find?_some (p := fun name => strcaseeq name str) hf
  simp only [runlevelNames, List.mem_cons, List.mem_singleton, List.not_mem_nil, or_false] at hmem
  rcases hmem with rfl | rfl | rfl | rfl
  · exact ⟨.shutdown, .inl rfl, rfl, hmatch⟩
  · exact ⟨.user, .inr (.inl rfl), rfl, hmatch⟩
  · exact ⟨.actdead, .inr (.inr (.inl rfl)), rfl, hmatch⟩
  · exact ⟨.reboot, .inr (.inr (.inr rfl)), rfl, hmatch⟩

theorem parseRunlevel_eq_none {str : List Char} (h : parseRunlevel str = none) {st : DsmeState}
    (hst : IsRunlevelState st) : strcaseeq (stateName st) str = false := by
  have hall := List.find?_eq_none.1 h (stateName st) (by
    rcases hst with rfl | rfl | rfl | rfl <;> decide)
  simpa using hall

/-- **dsmetool and the state module agree on state names.**  `dsmetool -g`
prints the name the state module's table gives each state, and `state_value`
reads it back as that state.  For every argument, `dsmetool -t` sends a name
exactly when the argument names `SHUTDOWN`, `USER`, `ACTDEAD` or `REBOOT`
ignoring case, and `state_value` reads the name it sends as the state the
argument names. -/
theorem runlevel_names_agree :
    (∀ st, dsmeStateRepr st = stateName st ∧ stateValue (dsmeStateRepr st) = st) ∧
    ∀ str, (parseRunlevel str).map stateValue =
      if IsRunlevelState (stateValue str) then some (stateValue str) else none := by
  refine ⟨fun st => ?_, fun str => ?_⟩
  · have h : dsmeStateRepr st = stateName st := by cases st <;> rfl
    exact ⟨h, h ▸ stateValue_stateName st⟩
  cases hp : parseRunlevel str with
  | some name =>
    obtain ⟨st, hst, rfl, hm⟩ := parseRunlevel_eq_some hp
    simp [stateValue_of_strcaseeq hm, hst, stateValue_stateName]
  | none =>
    have hn : ¬IsRunlevelState (stateValue str) := fun hst => by
      rcases stateValue_matches str with hm | ⟨he, -⟩
      · exact absurd hm (by rw [parseRunlevel_eq_none hp hst]; decide)
      · rcases hst with h | h | h | h <;> rw [he] at h <;> cases h
    simp [hn]

end Dsme
