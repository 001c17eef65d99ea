/-
Double clicks in a stream of mouse events.

The tracker remembers one press at most and still finds all pairs of the greedy
pairing: from left to right, two neighbouring presses are a pair if they are on
one cell and close in time, and a press of a pair is not paired again.  Other
events do not matter.
-/
import ClassExpr.Terminal.Clicks

namespace ClassExpr

/-- A mouse event and the time it comes at. -/
structure TimedEvent where
  event : MouseEvent
  time : Nat
  deriving DecidableEq

namespace TimedEvent

/-- Whether the left button goes down. -/
def isPress (timed : TimedEvent) : Bool :=
  timed.event.action == .downLeft

def cell (timed : TimedEvent) : Nat × Nat :=
  (timed.event.x, timed.event.y)

/-- The event as a press that waits for another one. -/
def click (timed : TimedEvent) : Click :=
  ⟨timed.event.x, timed.event.y, timed.time⟩

/-- The second event is on the cell of the first and at most `limit` later, and
it may also be earlier. -/
def Close (limit : Nat) (first second : TimedEvent) : Prop :=
  first.cell = second.cell ∧ second.time ≤ first.time + limit

instance (limit : Nat) (first second : TimedEvent) : Decidable (Close limit first second) :=
  inferInstanceAs (Decidable (_ ∧ _))

theorem pairsWith_iff {limit : Nat} {first second : TimedEvent} :
    first.click.pairsWith limit second.event.x second.event.y second.time = true ↔
      Close limit first second := by
  have htime : second.time - first.time ≤ limit ↔ second.time ≤ first.time + limit := by omega
  simp [Click.pairsWith, click, Close, cell, htime]

end TimedEvent

open TimedEvent

/-- An event with the answer of the tracker to it. -/
structure Heard where
  timed : TimedEvent
  answer : Option (Nat × Nat)
  deriving DecidableEq

/-- The events of a stream with the answers to them, from a press on that waits
for another one. -/
def heardFrom (limit : Nat) : Option Click → List TimedEvent → List Heard
  | _, [] => []
  | waiting, timed :: rest =>
    let (next, answer) := trackClickWithin limit waiting timed.event timed.time
    ⟨timed, answer⟩ :: heardFrom limit next rest

/-- The events of a stream with the answers of a new tracker. -/
def heard (limit : Nat) (stream : List TimedEvent) : List Heard :=
  heardFrom limit none stream

/-- The presses of a stream with the answers to them. -/
def heardPresses (limit : Nat) (stream : List TimedEvent) : List Heard :=
  (heard limit stream).filter fun item => item.timed.isPress

/-- The pairs of the greedy pairing of presses, by the places of the presses,
which are counted from `place` on. -/
def greedyPairs (limit : Nat) : Nat → List TimedEvent → List (Nat × Nat)
  | place, first :: second :: rest =>
    if Close limit first second then (place, place + 1) :: greedyPairs limit (place + 2) rest
    else greedyPairs limit (place + 1) (second :: rest)
  | _, [_] | _, [] => []

/-- The places that have an answer. -/
def reportedFrom (place : Nat) : List Heard → List Nat
  | [] => []
  | item :: rest =>
    if item.answer.isSome then place :: reportedFrom (place + 1) rest
    else reportedFrom (place + 1) rest

variable {limit : Nat} {waiting : Option Click} {timed first second : TimedEvent}

/-! ### One event -/

theorem trackClickWithin_of_not_isPress (hother : timed.isPress = false) :
    trackClickWithin limit waiting timed.event timed.time = (waiting, none) := by
  have haction : timed.event.action ≠ .downLeft := by simpa [isPress] using hother
  unfold trackClickWithin
  rw [if_pos haction]

theorem trackClickWithin_none (hpress : timed.isPress = true) :
    trackClickWithin limit none timed.event timed.time = (some timed.click, none) := by
  have haction : timed.event.action = .downLeft := by simpa [isPress] using hpress
  unfold trackClickWithin
  rw [if_neg (not_not_intro haction)]
  rfl

theorem trackClickWithin_some (hpress : second.isPress = true) :
    trackClickWithin limit (some first.click) second.event second.time =
      if Close limit first second then (none, some second.cell)
      else (some second.click, none) := by
  have haction : second.event.action = .downLeft := by simpa [isPress] using hpress
  unfold trackClickWithin
  rw [if_neg (not_not_intro haction)]
  dsimp only
  by_cases hclose : Close limit first second
  · rw [if_pos hclose, if_pos (pairsWith_iff.2 hclose)]
    rfl
  · rw [if_neg hclose, if_neg (mt pairsWith_iff.1 hclose)]
    rfl

/-- A press either completes a double click and is forgotten, or waits. -/
theorem trackClickWithin_press (hpress : timed.isPress = true) (waiting : Option Click) :
    trackClickWithin limit waiting timed.event timed.time = (none, some timed.cell) ∨
      trackClickWithin limit waiting timed.event timed.time = (some timed.click, none) := by
  cases waiting with
  | none => exact Or.inr (trackClickWithin_none hpress)
  | some click =>
      -- Every click is that of some press.
      have hclick := @trackClickWithin_some limit ⟨⟨.downLeft, click.x, click.y⟩, click.time⟩ timed
        hpress
      rw [TimedEvent.click] at hclick
      rw [hclick]
      split
      · exact Or.inl rfl
      · exact Or.inr rfl

/-! ### Streams -/

theorem heardFrom_cons {next : Option Click} {answer : Option (Nat × Nat)}
    (htrack : trackClickWithin limit waiting timed.event timed.time = (next, answer))
    (rest : List TimedEvent) :
    heardFrom limit waiting (timed :: rest) = ⟨timed, answer⟩ :: heardFrom limit next rest := by
  rw [heardFrom, htrack]

/-- Only presses have answers, and these name their cells. -/
theorem of_mem_heardFrom {stream : List TimedEvent} {item : Heard}
    (hitem : item ∈ heardFrom limit waiting stream) {cell : Nat × Nat}
    (hanswer : item.answer = some cell) : item.timed.isPress = true ∧ cell = item.timed.cell := by
  induction stream generalizing waiting with
  | nil => cases hitem
  | cons timed rest ih =>
      cases hpress : timed.isPress with
      | false =>
          rw [heardFrom_cons (trackClickWithin_of_not_isPress hpress)] at hitem
          rcases List.mem_cons.1 hitem with rfl | hrest
          · cases hanswer
          · exact ih hrest
      | true =>
          rcases trackClickWithin_press hpress waiting with htrack | htrack
          · rw [heardFrom_cons htrack] at hitem
            rcases List.mem_cons.1 hitem with rfl | hrest
            · exact ⟨hpress, (Option.some.inj hanswer).symm⟩
            · exact ih hrest
          · rw [heardFrom_cons htrack] at hitem
            rcases List.mem_cons.1 hitem with rfl | hrest
            · cases hanswer
            · exact ih hrest

theorem filter_heardFrom (waiting : Option Click) (stream : List TimedEvent) :
    (heardFrom limit waiting stream).filter (fun item => item.timed.isPress) =
      heardFrom limit waiting (stream.filter isPress) := by
  induction stream generalizing waiting with
  | nil => rfl
  | cons timed rest ih =>
      cases hpress : timed.isPress with
      | false =>
          rw [heardFrom_cons (trackClickWithin_of_not_isPress hpress),
            List.filter_cons_of_neg (by simp [hpress]), List.filter_cons_of_neg (by simp [hpress]),
            ih]
      | true =>
          rcases htrack : trackClickWithin limit waiting timed.event timed.time with ⟨next, answer⟩
          rw [List.filter_cons_of_pos hpress, heardFrom_cons htrack, heardFrom_cons htrack, ← ih]
          exact List.filter_cons_of_pos hpress

/-- A press has an answer exactly if it is close to the press before it and that
one had none. -/
theorem answer_of_neighbours {presses : List TimedEvent}
    (hpresses : ∀ timed ∈ presses, timed.isPress = true) {before after : List Heard}
    {left right : Heard}
    (hheard : heardFrom limit waiting presses = before ++ left :: right :: after) :
    right.answer = some right.timed.cell ↔
      left.answer = none ∧ Close limit left.timed right.timed := by
  induction presses generalizing waiting before with
  | nil => simp [heardFrom] at hheard
  | cons timed rest ih =>
      obtain ⟨hpress, hrest⟩ := List.forall_mem_cons.1 hpresses
      cases before with
      | cons item before =>
          rw [heardFrom, List.cons_append, List.cons.injEq] at hheard
          exact ih hrest hheard.2
      | nil =>
          cases rest with
          | nil => simp [heardFrom] at hheard
          | cons following rest =>
              have hfollowing := hrest following List.mem_cons_self
              rcases trackClickWithin_press hpress waiting with htrack | htrack
              · -- The first press ends a double click, so nothing waits for the second.
                rw [heardFrom_cons htrack, heardFrom_cons (trackClickWithin_none hfollowing)]
                  at hheard
                obtain ⟨rfl, rfl, _⟩ : _ ∧ _ ∧ _ := by simpa using hheard
                simp
              · rw [heardFrom_cons htrack, heardFrom, trackClickWithin_some hfollowing] at hheard
                obtain ⟨rfl, rfl, _⟩ : _ ∧ _ ∧ _ := by simpa using hheard
                by_cases hclose : Close limit timed following
                · simp [hclose]
                · simp [hclose]

/-! ### The greedy pairing -/

/-- A close second press is answered, and then everything starts anew. -/
theorem heardFrom_of_close (hfirst : first.isPress = true) (hsecond : second.isPress = true)
    (hclose : Close limit first second) (rest : List TimedEvent) :
    heardFrom limit none (first :: second :: rest) =
      ⟨first, none⟩ :: ⟨second, some second.cell⟩ :: heardFrom limit none rest := by
  have hpair := @trackClickWithin_some limit first second hsecond
  rw [if_pos hclose] at hpair
  rw [heardFrom_cons (trackClickWithin_none hfirst), heardFrom_cons hpair]

/-- A second press that is not close takes the place of the first one. -/
theorem heardFrom_of_not_close (hfirst : first.isPress = true) (hsecond : second.isPress = true)
    (hclose : ¬ Close limit first second) (rest : List TimedEvent) :
    heardFrom limit none (first :: second :: rest) =
      ⟨first, none⟩ :: heardFrom limit none (second :: rest) := by
  have hsingle := @trackClickWithin_some limit first second hsecond
  rw [if_neg hclose] at hsingle
  rw [heardFrom_cons (trackClickWithin_none hfirst), heardFrom_cons hsingle,
    heardFrom_cons (trackClickWithin_none hsecond)]

theorem reportedFrom_heardFrom (limit place : Nat) {presses : List TimedEvent}
    (hpresses : ∀ timed ∈ presses, timed.isPress = true) :
    reportedFrom place (heardFrom limit none presses) =
      (greedyPairs limit place presses).map Prod.snd := by
  fun_induction greedyPairs limit place presses with
  | case1 place first second rest hclose ih =>
      obtain ⟨hfirst, hothers⟩ := List.forall_mem_cons.1 hpresses
      obtain ⟨hsecond, hrest⟩ := List.forall_mem_cons.1 hothers
      rw [heardFrom_of_close hfirst hsecond hclose, List.map_cons, ← ih hrest]
      rfl
  | case2 place first second rest hclose ih =>
      obtain ⟨hfirst, hothers⟩ := List.forall_mem_cons.1 hpresses
      obtain ⟨hsecond, hrest⟩ := List.forall_mem_cons.1 hothers
      rw [heardFrom_of_not_close hfirst hsecond hclose, ← ih hothers]
      rfl
  | case3 place timed =>
      rw [heardFrom_cons (trackClickWithin_none (hpresses timed List.mem_cons_self))]
      rfl
  | case4 place => rfl

/-- The presses of the pairs, in their order. -/
def pairedPlaces (pairs : List (Nat × Nat)) : List Nat :=
  pairs.flatMap fun pair => [pair.1, pair.2]

theorem le_of_mem_pairedPlaces {place paired : Nat} {presses : List TimedEvent}
    (hpaired : paired ∈ pairedPlaces (greedyPairs limit place presses)) : place ≤ paired := by
  fun_induction greedyPairs limit place presses with
  | case1 place first second rest hclose ih =>
      rcases List.mem_cons.1 hpaired with rfl | hlater
      · exact Nat.le_refl _
      · rcases List.mem_cons.1 hlater with rfl | hlater
        · exact Nat.le_succ _
        · exact Nat.le_trans (Nat.le_add_right _ 2) (ih hlater)
  | case2 place first second rest hclose ih => exact Nat.le_of_succ_le (ih hpaired)
  | case3 place timed => cases hpaired
  | case4 place => cases hpaired

/-- The pairing goes on behind each pair. -/
theorem nodup_pairedPlaces (limit place : Nat) (presses : List TimedEvent) :
    (pairedPlaces (greedyPairs limit place presses)).Nodup := by
  fun_induction greedyPairs limit place presses with
  | case1 place first second rest hclose ih =>
      refine List.nodup_cons.2 ⟨?_, List.nodup_cons.2 ⟨?_, ih⟩⟩
      · intro hagain
        rcases List.mem_cons.1 hagain with hnext | hlater
        · omega
        · have hbehind := le_of_mem_pairedPlaces hlater
          omega
      · intro hlater
        have hbehind := le_of_mem_pairedPlaces hlater
        omega
  | case2 place first second rest hclose ih => exact ih
  | case3 place timed => exact List.nodup_nil
  | case4 place => exact List.nodup_nil

theorem two_mul_length_greedyPairs_le (limit place : Nat) (presses : List TimedEvent) :
    2 * (greedyPairs limit place presses).length ≤ presses.length := by
  fun_induction greedyPairs limit place presses with
  | case1 place first second rest hclose ih =>
      simp only [List.length_cons]
      omega
  | case2 place first second rest hclose ih =>
      rw [List.length_cons]
      omega
  | case3 place timed => simp
  | case4 place => simp

theorem length_reportedFrom (place : Nat) (items : List Heard) :
    (reportedFrom place items).length = (items.filter fun item => item.answer.isSome).length := by
  induction items generalizing place with
  | nil => rfl
  | cons item rest ih =>
      rw [reportedFrom]
      cases hanswer : item.answer with
      | none => simp [hanswer, ih]
      | some cell => simp [hanswer, ih]

/-- What a tracker does with a stream of events if two presses of the left
button are at most `limit` apart in a double click. -/
structure PairsGreedily (limit : Nat) (stream : List TimedEvent) : Prop where
  /-- Only presses are answered, and with their own cell. -/
  own_cell : ∀ item ∈ heard limit stream, ∀ cell, item.answer = some cell →
    item.timed.isPress = true ∧ cell = item.timed.cell
  /-- Without the other events the presses have the same answers. -/
  only_presses : heardPresses limit stream = heard limit (stream.filter isPress)
  first_press : ∀ item rest, heardPresses limit stream = item :: rest → item.answer = none
  next_press : ∀ before left right after,
    heardPresses limit stream = before ++ left :: right :: after →
      (right.answer = some right.timed.cell ↔
        left.answer = none ∧ Close limit left.timed right.timed)
  /-- The answered presses are the second ones of the greedy pairs. -/
  greedy : reportedFrom 0 (heardPresses limit stream) =
    (greedyPairs limit 0 (stream.filter isPress)).map Prod.snd
  /-- No press is in two pairs. -/
  apart : (pairedPlaces (greedyPairs limit 0 (stream.filter isPress))).Nodup
  half : 2 * ((heard limit stream).filter fun item => item.answer.isSome).length ≤
    (stream.filter isPress).length

theorem isPress_of_mem_filter {stream : List TimedEvent} :
    ∀ timed ∈ stream.filter isPress, timed.isPress = true :=
  fun _ htimed => (List.mem_filter.1 htimed).2

theorem heardPresses_eq (limit : Nat) (stream : List TimedEvent) :
    heardPresses limit stream = heardFrom limit none (stream.filter isPress) :=
  filter_heardFrom none stream

theorem reported_heardPresses (limit : Nat) (stream : List TimedEvent) :
    reportedFrom 0 (heardPresses limit stream) =
      (greedyPairs limit 0 (stream.filter isPress)).map Prod.snd := by
  rw [heardPresses_eq]
  exact reportedFrom_heardFrom limit 0 isPress_of_mem_filter

theorem answer_of_first {stream : List TimedEvent} {item : Heard} {rest : List Heard}
    (hpresses : heardPresses limit stream = item :: rest) : item.answer = none := by
  rw [heardPresses_eq] at hpresses
  cases hstream : stream.filter isPress with
  | nil =>
      rw [hstream] at hpresses
      cases hpresses
  | cons timed others =>
      have hpress := isPress_of_mem_filter timed (hstream ▸ List.mem_cons_self)
      rw [hstream, heardFrom_cons (trackClickWithin_none hpress)] at hpresses
      rw [← (List.cons.inj hpresses).1]

/-- The answered events are the answered presses. -/
theorem filter_isSome_heard (limit : Nat) (stream : List TimedEvent) :
    (heard limit stream).filter (fun item => item.answer.isSome) =
      (heardPresses limit stream).filter fun item => item.answer.isSome := by
  rw [heardPresses, List.filter_filter]
  refine List.filter_congr fun item hitem => ?_
  cases hanswer : item.answer with
  | none => rfl
  | some cell =>
      rw [(of_mem_heardFrom hitem hanswer).1]
      rfl

/-- With `ticks` ticks of the clock in a millisecond, double clicks are the pairs
of the greedy pairing of the presses, whatever else the mouse does and however
the clock goes. -/
theorem double_clicks_pair_greedily (ticks : Nat) (stream : List TimedEvent) :
    PairsGreedily (doubleClickTime * ticks) stream where
  own_cell := fun _ hitem _ hanswer => of_mem_heardFrom hitem hanswer
  only_presses := heardPresses_eq _ stream
  first_press := fun _ _ => answer_of_first
  next_press := by
    intro before left right after hpresses
    rw [heardPresses_eq] at hpresses
    exact answer_of_neighbours isPress_of_mem_filter hpresses
  greedy := reported_heardPresses _ stream
  apart := nodup_pairedPlaces _ 0 _
  half := by
    rw [filter_isSome_heard, ← length_reportedFrom 0, reported_heardPresses, List.length_map]
    exact two_mul_length_greedyPairs_le _ 0 _

/-- Three presses on one cell with a release and a drag between them, then one
on another cell and one there again after the clock was set back.  The third
press waits and is replaced by the fourth. -/
theorem double_clicks_pair_greedily_triple :
    let mouse (action : MouseAction) (x time : Nat) : TimedEvent := ⟨⟨action, x, 2⟩, time⟩
    let stream : List TimedEvent :=
      [mouse .downLeft 7 1000, mouse .upLeft 7 1010, mouse .downLeft 7 1400, mouse .dragLeft 8 1450,
        mouse .downLeft 7 1500, mouse .downLeft 8 1600, mouse .downLeft 8 20]
    (heard doubleClickTime stream).map Heard.answer =
        [none, none, some (7, 2), none, none, none, some (8, 2)] ∧
      greedyPairs doubleClickTime 0 (stream.filter isPress) = [(0, 1), (3, 4)] ∧
      PairsGreedily doubleClickTime stream := by
  intro mouse stream
  exact ⟨by decide, by decide, double_clicks_pair_greedily 1 stream⟩

end ClassExpr
