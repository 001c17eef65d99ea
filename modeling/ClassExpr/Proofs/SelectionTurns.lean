/-
Moving the selection of an open popup.

The selection moves one row at a time and goes round at either end, forward by a
remainder and backward by starting again at the last row.  Both steps turn the
list, by one row and by minus one row, and turns add up.  So a move by any number
of rows is one turn, and the keys that move the selection turn the list by as
many rows as they were pressed.
-/
import ClassExpr.Proofs.PopupCoherence

namespace ClassExpr

namespace PopupSession

/-- The selection moved on by some rows, counted round the list. -/
def turn (session : PopupSession) (delta : Int) : PopupSession :=
  if session.rows.isEmpty then session
  else { session with index := ((session.index + delta) % session.rows.length).toNat }

variable {session : PopupSession}

theorem turn_of_nil (hrows : session.rows = []) (delta : Int) : session.turn delta = session :=
  if_pos (by simp [hrows])

theorem turn_of_ne_nil (hrows : session.rows ≠ []) (delta : Int) :
    session.turn delta =
      { session with index := ((session.index + delta) % session.rows.length).toNat } :=
  if_neg (by simpa using hrows)

/-- Where there are rows the selection is at the Euclidean remainder. -/
theorem turn_index (hrows : session.rows ≠ []) (delta : Int) :
    ((session.turn delta).index : Int) = (session.index + delta) % session.rows.length := by
  have hpos : 0 < session.rows.length := List.length_pos_iff.2 hrows
  rw [turn_of_ne_nil hrows]
  exact Int.toNat_of_nonneg (Int.emod_nonneg _ (by omega))

/-- A selection at the remainder is the one that the turn leads to. -/
theorem eq_turn_of_index (hrows : session.rows ≠ []) {index : Nat} {delta : Int}
    (hindex : (index : Int) = (session.index + delta) % session.rows.length) :
    { session with index } = session.turn delta := by
  rw [turn_of_ne_nil hrows, ← hindex, Int.toNat_natCast]

theorem exists_turn_eq (session : PopupSession) (delta : Int) :
    ∃ index, session.turn delta = { session with index } := by
  by_cases hrows : session.rows = []
  · exact ⟨session.index, turn_of_nil hrows delta⟩
  · exact ⟨_, turn_of_ne_nil hrows delta⟩

/-- Turns add up. -/
theorem turn_turn (session : PopupSession) (first second : Int) :
    (session.turn first).turn second = session.turn (first + second) := by
  by_cases hrows : session.rows = []
  · rw [turn_of_nil hrows, turn_of_nil hrows, turn_of_nil hrows]
  · have hindex := turn_index hrows first
    obtain ⟨index, hfirst⟩ := session.exists_turn_eq first
    rw [hfirst] at hindex ⊢
    have hsum : (index + second) % session.rows.length =
        (session.index + (first + second)) % session.rows.length := by
      rw [hindex, Int.emod_add_emod, Int.add_assoc]
    have hsecond : PopupSession.turn { session with index } second =
        { session with index := ((index + second) % session.rows.length).toNat } :=
      @turn_of_ne_nil { session with index } hrows second
    rw [hsecond, hsum, turn_of_ne_nil hrows]

theorem InRange.turn_zero (hrange : session.InRange) : session.turn 0 = session := by
  rcases hrange with hindex | ⟨hrows, _⟩
  · have hrows : session.rows ≠ [] := List.ne_nil_of_length_pos (Nat.zero_lt_of_lt hindex)
    refine (eq_turn_of_index hrows ?_).symm
    rw [Int.add_zero, Int.emod_eq_of_lt (by omega) (by omega)]
  · exact turn_of_nil hrows 0

/-- The next row is one turn on. -/
theorem selectNext_eq_turn (session : PopupSession) : session.selectNext = session.turn 1 := by
  by_cases hrows : session.rows = []
  · rw [turn_of_nil hrows, selectNext, if_pos (by simp [hrows])]
  · rw [selectNext, if_neg (by simpa using hrows)]
    exact eq_turn_of_index hrows (by simp)

/-- The previous row is one turn back, since the list has as many rows as a
whole turn. -/
theorem InRange.selectPrevious_eq_turn (hrange : session.InRange) :
    session.selectPrevious = session.turn (-1) := by
  rcases hrange with hindex | ⟨hrows, _⟩
  · have hrows : session.rows ≠ [] := List.ne_nil_of_length_pos (Nat.zero_lt_of_lt hindex)
    rw [PopupSession.selectPrevious, if_neg (by simpa using hrows)]
    refine eq_turn_of_index hrows ?_
    by_cases hfirst : session.index = 0
    · rw [if_pos hfirst, ← Int.add_emod_right, Int.emod_eq_of_lt (by omega) (by omega)]
      omega
    · rw [if_neg hfirst, Int.emod_eq_of_lt (by omega) (by omega)]
      omega
  · rw [turn_of_nil hrows, PopupSession.selectPrevious, if_pos (by simp [hrows])]

theorem InRange.turn (hrange : session.InRange) (delta : Int) : (session.turn delta).InRange := by
  by_cases hrows : session.rows = []
  · rw [turn_of_nil hrows]
    exact hrange
  · have hpos : 0 < session.rows.length := List.length_pos_iff.2 hrows
    have hindex := turn_index hrows delta
    have hlt := Int.emod_lt_of_pos (session.index + delta) (Int.natCast_pos.2 hpos)
    obtain ⟨index, hturned⟩ := session.exists_turn_eq delta
    rw [hturned] at hindex ⊢
    refine Or.inl ?_
    dsimp only at hindex ⊢
    omega

end PopupSession

namespace Popup

/-- A popup with its list turned by some rows. -/
def turn (popup : Popup) (delta : Int) : Popup :=
  { popup with session := popup.session.map fun session => session.turn delta }

theorem turn_turn (popup : Popup) (first second : Int) :
    (popup.turn first).turn second = popup.turn (first + second) := by
  simp [turn, Function.comp_def, PopupSession.turn_turn]

namespace Coherent

variable {popup : Popup}

theorem turn (hpopup : popup.Coherent) (delta : Int) : (popup.turn delta).Coherent :=
  hpopup.mapSession (fun session => session.exists_turn_eq delta)
    fun _ hrange => hrange.turn delta

/-- What a selection does to a list in range it does to the popup. -/
theorem map_session_eq_turn (hpopup : popup.Coherent) {move : PopupSession → PopupSession}
    {delta : Int}
    (hmove : ∀ session : PopupSession, session.InRange → move session = session.turn delta) :
    { popup with session := popup.session.map move } = popup.turn delta := by
  have hsession : popup.session.map move = popup.session.map fun session => session.turn delta :=
    Option.map_congr fun session hsession => hmove session (hpopup.index_inRange session hsession)
  rw [hsession, Popup.turn]

theorem turn_zero (hpopup : popup.Coherent) : popup.turn 0 = popup := by
  have hid := hpopup.map_session_eq_turn fun _ hrange => hrange.turn_zero.symm
  rw [← hid, Option.map_id']

theorem selectNext_eq_turn (hpopup : popup.Coherent) : popup.selectNext = popup.turn 1 :=
  hpopup.map_session_eq_turn fun session _ => session.selectNext_eq_turn

theorem selectPrevious_eq_turn (hpopup : popup.Coherent) :
    popup.selectPrevious = popup.turn (-1) :=
  hpopup.map_session_eq_turn fun _ hrange => hrange.selectPrevious_eq_turn

/-- The step of a move is one turn in its direction. -/
theorem step_eq_turn (hpopup : popup.Coherent) {delta : Int} (hne : delta ≠ 0) :
    (if 0 < delta then Popup.selectNext else Popup.selectPrevious) popup =
      popup.turn delta.sign := by
  by_cases hforward : 0 < delta
  · rw [if_pos hforward, Int.sign_eq_one_of_pos hforward]
    exact hpopup.selectNext_eq_turn
  · rw [if_neg hforward, Int.sign_eq_neg_one_of_neg (by omega)]
    exact hpopup.selectPrevious_eq_turn

/-- A step that turns the list by some rows turns it by a multiple of them when
it is repeated. -/
theorem repeat_eq_turn (hpopup : popup.Coherent) {step : Popup → Popup} {delta : Int}
    (hstep : ∀ moved : Popup, moved.Coherent → step moved = moved.turn delta) (times : Nat) :
    Nat.repeat step times popup = popup.turn (times * delta) := by
  induction times with
  | zero =>
      rw [Nat.repeat, Int.natCast_zero, Int.zero_mul]
      exact hpopup.turn_zero.symm
  | succ times ih =>
      have hsum : (times : Int) * delta + delta = (times + 1 : Nat) * delta := by
        rw [Int.natCast_add, Int.natCast_one, Int.add_mul, Int.one_mul]
      rw [Nat.repeat, ih, hstep _ (hpopup.turn _), turn_turn, hsum]

end Coherent

end Popup

/-- How often a key goes down in a sequence of key events. -/
def Key.presses (key : Key) (inputs : List KeyInput) : Nat :=
  inputs.countP fun input => input.key == key && input.phase == .press

theorem Key.presses_cons (key : Key) (input : KeyInput) (rest : List KeyInput) :
    key.presses (input :: rest) = key.presses [input] + key.presses rest := by
  simp [presses, List.countP_cons, Nat.add_comm]

namespace Completer

variable {σ : Type}

/-- The popup is open, and its selection can be moved. -/
structure Offering (completer : Completer σ) : Prop where
  attached : completer.attached = true
  visible : completer.popup.visible = true
  coherent : completer.popup.Coherent

/-- A completer with the list of its popup turned by some rows. -/
def turned (completer : Completer σ) (delta : Int) : Completer σ :=
  { completer with popup := completer.popup.turn delta }

theorem turned_turned (completer : Completer σ) (first second : Int) :
    (completer.turned first).turned second = completer.turned (first + second) := by
  rw [turned, turned, turned, Popup.turn_turn]

namespace Offering

variable {completer : Completer σ}

theorem turned (hopen : completer.Offering) (delta : Int) : (completer.turned delta).Offering :=
  ⟨hopen.attached, hopen.visible, hopen.coherent.turn delta⟩

theorem turned_zero (hopen : completer.Offering) : completer.turned 0 = completer := by
  rw [Completer.turned, hopen.coherent.turn_zero]

/-- A move by any number of rows is one turn. -/
theorem moveSelection_eq (hopen : completer.Offering) (delta : Int) :
    completer.moveSelection delta =
      { completer := completer.turned delta
        outcome := if delta = 0 then .nothing else .popupUpdated } := by
  unfold moveSelection
  by_cases hzero : delta = 0
  · subst hzero
    rw [if_pos (by simp), hopen.turned_zero, if_pos rfl]
  · rw [if_neg (by simp [hopen.attached, hopen.visible, hzero]), if_neg hzero]
    dsimp only
    rw [hopen.coherent.repeat_eq_turn fun moved hmoved => hmoved.step_eq_turn hzero, Int.mul_comm,
      Int.sign_mul_natAbs, Completer.turned]

variable [Surface σ]

/-- One key event turns the list by the rows that the key stands for. -/
theorem dispatch_eq (hopen : completer.Offering) {input : KeyInput}
    (hkey : input.key = .up ∨ input.key = .down) :
    (completer.dispatch input).reaction =
      completer.moveSelection (Key.down.presses [input] - Key.up.presses [input]) := by
  obtain ⟨key, modifiers, phase⟩ := input
  have hstill : completer.moveSelection 0 = { completer } := by simp [moveSelection]
  rw [dispatch, if_neg (by simp [hopen.attached])]
  cases phase with
  | press =>
      rcases hkey with rfl | rfl
      · simp [press, KeyInput.isShortcut, hopen.visible, Key.presses]
      · simp [press, KeyInput.isShortcut, hopen.visible, Key.presses]
  | release =>
      rcases hkey with rfl | rfl
      · simpa [release, Key.presses] using hstill.symm
      · simpa [release, Key.presses] using hstill.symm

/-- A sequence of keys turns the list by the rows it moves down less those it
moves up. -/
theorem run_keys (hopen : completer.Offering) {inputs : List KeyInput}
    (hkeys : ∀ input ∈ inputs, input.key = .up ∨ input.key = .down) :
    completer.run (inputs.map fun input => .operation (.key input)) =
      completer.turned (Key.down.presses inputs - Key.up.presses inputs) := by
  induction inputs generalizing completer with
  | nil => exact hopen.turned_zero.symm
  | cons input rest ih =>
      have hfirst : completer.next (.operation (.key input)) =
          completer.turned (Key.down.presses [input] - Key.up.presses [input]) := by
        have hreaction := hopen.dispatch_eq (hkeys input List.mem_cons_self)
        rw [hopen.moveSelection_eq] at hreaction
        exact congrArg Reaction.completer hreaction
      have hrest := ih (hopen.turned (Key.down.presses [input] - Key.up.presses [input]))
        fun other hother => hkeys other (List.mem_cons_of_mem input hother)
      have hdown := Key.presses_cons .down input rest
      have hup := Key.presses_cons .up input rest
      have hsum : (Key.down.presses [input] - Key.up.presses [input] : Int) +
          (Key.down.presses rest - Key.up.presses rest) =
            Key.down.presses (input :: rest) - Key.up.presses (input :: rest) := by
        omega
      rw [List.map_cons, run, List.foldl_cons, hfirst, ← hsum, ← turned_turned]
      exact hrest

end Offering

theorem PopupInvariant.offering {settings : Settings} {owner? : Option Nat}
    {completer : Completer σ} (hinv : completer.PopupInvariant settings owner?)
    (hvisible : completer.popup.visible = true) : completer.Offering :=
  ⟨hinv.attached hvisible, hvisible, hinv.coherent⟩

variable [Surface σ]

/-- Whatever has happened to a completer with an open popup, a move of the
selection changes nothing but the index, which goes on by that many rows modulo
their number and is zero without rows.  Moves add up, and so do the keys that
move up and down, in any order. -/
theorem run_moveSelection_turns (document : σ) (checker : Checker) (source : CandidateSource)
    (settings : Settings) (events : List (Event σ)) :
    let completer := (attach document checker source settings).run events
    completer.popup.visible = true →
      ∃ session, completer.popup.session = some session ∧
        (∀ delta : Int, ∃ index : Nat,
          completer.moveSelection delta =
              { completer :=
                  { completer with
                    popup := { completer.popup with session := some { session with index } } }
                outcome := if delta = 0 then .nothing else .popupUpdated } ∧
            (session.rows = [] → index = 0) ∧
            (session.rows ≠ [] → (index : Int) = (session.index + delta) % session.rows.length)) ∧
        (∀ first second : Int,
          ((completer.moveSelection first).completer.moveSelection second).completer =
            (completer.moveSelection (first + second)).completer) ∧
        ∀ inputs : List KeyInput, (∀ input ∈ inputs, input.key = .up ∨ input.key = .down) →
          completer.run (inputs.map fun input => .operation (.key input)) =
            (completer.moveSelection
              (Key.down.presses inputs - Key.up.presses inputs)).completer := by
  intro completer hvisible
  have hinv := run_popupInvariant document checker source settings events
  have hopen : completer.Offering := hinv.offering hvisible
  obtain ⟨session, hsession⟩ :=
    Option.isSome_iff_exists.1 (hopen.coherent.session_iff.1 hvisible)
  refine ⟨session, hsession, ?_, ?_, ?_⟩
  · intro delta
    obtain ⟨index, hturn⟩ := session.exists_turn_eq delta
    have hindex : (session.turn delta).index = index := by rw [hturn]
    refine ⟨index, ?_, ?_, ?_⟩
    · rw [hopen.moveSelection_eq, turned, Popup.turn, hsession, Option.map_some, hturn]
    · intro hrows
      rcases hopen.coherent.index_inRange session hsession with hlt | ⟨_, hzero⟩
      · simp [hrows] at hlt
      · rw [← hindex, PopupSession.turn_of_nil hrows, hzero]
    · intro hrows
      rw [← hindex, PopupSession.turn_index hrows]
  · intro first second
    rw [hopen.moveSelection_eq, (hopen.turned first).moveSelection_eq, hopen.moveSelection_eq,
      turned_turned]
  · intro inputs hkeys
    rw [hopen.run_keys hkeys, hopen.moveSelection_eq]

/-- The least 64-bit number of rows from the second of three rows, and keys that
move up more often than down. -/
theorem run_moveSelection_turns_least :
    let checker : Checker := fun _ =>
      .expected { keywords := ["some".toList, "only".toList, "value".toList] }
    let source : CandidateSource := ⟨fun _ _ => [], fun entity => entity.iri⟩
    let start := attach (Buffer.ofText "hasTopping ".toList) checker source {}
    let opened := start.run [.operation .trigger, .operation (.moveSelection 1)]
    let keys : List KeyInput :=
      [{ key := .up }, { key := .up, phase := .release }, { key := .down },
       { key := .up, modifiers := { shift := true } }]
    opened.popup.visible = true ∧ opened.popup.selectedIndex? = some 1 ∧
      (opened.moveSelection (-9223372036854775808)).completer.popup.selectedIndex? = some 2 ∧
      opened.run (keys.map fun input => .operation (.key input)) =
        (opened.moveSelection (-1)).completer := by
  intro checker source
  have hturns := run_moveSelection_turns (Buffer.ofText "hasTopping ".toList) checker source {}
    [.operation .trigger, .operation (.moveSelection 1)]
  dsimp only at hturns ⊢
  obtain ⟨session, hsession, hmoved, _, hkeys⟩ := hturns (by decide)
  obtain rfl : session =
      ⟨some "hasTopping ".toList, ["some", "only", "value"].map (.keyword ·.toList), 1⟩ :=
    Option.some.inj (hsession.symm.trans (by decide))
  obtain ⟨index, hleast, _, hturned⟩ := hmoved (-9223372036854775808)
  have hremainder : (index : Int) = (1 + -9223372036854775808) % 3 := hturned (by decide)
  obtain rfl : index = 2 := by omega
  refine ⟨by decide, by decide, ?_, hkeys _ (by decide)⟩
  rw [hleast]
  rfl

end Completer

end ClassExpr
