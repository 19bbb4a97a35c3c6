/-
**Sessions of the terminal.**

A session is a terminal in a world, together with the runs that the terminal has asked for and those
that have ended without its being told.  Anything may happen to it in any order: keys and text, in
every state; a run that was asked for is made, once, and the script does what it likes; the terminal
is told how a run has ended.  Whatever happens, no thing is lost or destroyed twice.

What the text field makes of its keys does not matter for that.  So all of this is shown of every
editor; the terminal itself has `Editor.line`.

Main definitions:

* `Handover.Terminal.Session`, `Handover.Terminal.Happening`, `Handover.Terminal.Session.run` —
  sessions, and what happens to them;
* `Handover.Terminal.Model.Idle`, `Handover.Terminal.Model.Busy` — a terminal that waits, and one
  that has handed its thing over;
* `Handover.Terminal.Session.Sound` — the invariant: where the one thing is that is not destroyed.

Main results:

* `Handover.Terminal.Model.Idle.updateBy` — what a terminal that waits makes of a message;
* `Handover.Terminal.Session.Sound.step`, `Handover.Terminal.Session.Sound.run` — whatever happens
  keeps the invariant;
* `Handover.Terminal.Session.things_destroyed_once` — **a terminal destroys everything that it has
  made exactly once**.
-/

import Handover.Proofs.Custody
import Handover.Terminal.Model

set_option autoImplicit false

namespace Handover.Terminal

open World (Custody)

/-! ### Sessions -/

/-- The runs that a reply asks for. -/
def Reply.deeds : Reply → List Deed
  | .start d => [d]
  | _ => []

/-- A terminal in a world, with the runs that are under way. -/
structure Session where
  world : World
  model : Model
  /-- What runs that were asked for are to be made with. -/
  asked : List Deed := []
  /-- How the runs ended of which the terminal was not told yet. -/
  ended : List (Except Failure Unit) := []

/-- What may happen in a session.  Runs are named by their place among those that are under way. -/
inductive Happening where
  | key (k : Key)
  | typed (text : String)
  | tick
  | other
  /-- A run that was asked for is made. -/
  | run (n : Nat) (c : Conduct)
  /-- The terminal is told how a run has ended. -/
  | report (n : Nat)

namespace Session

/-- Tells the terminal something. -/
def tell (s : Session) (editor : Editor) (msg : Message) : Session :=
  match (s.model.updateBy editor msg).run s.world with
  | .ok (m, r) w => { s with world := w, model := m, asked := s.asked ++ r.deeds }
  | .error _ w => { s with world := w }

/-- Makes a run that was asked for. -/
def make (s : Session) (n : Nat) (c : Conduct) : Session :=
  match s.asked[n]? with
  | none => s
  | some d =>
    match (s.model.entry.serve c d).run s.world with
    | .ok outcome w =>
      { s with world := w, asked := s.asked.eraseIdx n, ended := s.ended ++ [outcome] }
    | .error _ w => { s with world := w, asked := s.asked.eraseIdx n }

/-- Tells the terminal how a run has ended. -/
def report (s : Session) (editor : Editor) (n : Nat) : Session :=
  match s.ended[n]? with
  | none => s
  | some outcome => tell { s with ended := s.ended.eraseIdx n } editor (.finished outcome)

/-- Something happens. -/
def step (s : Session) (editor : Editor) : Happening → Session
  | .key k => s.tell editor (.key k)
  | .typed text => s.tell editor (.typed text)
  | .tick => s.tell editor .tick
  | .other => s.tell editor .other
  | .run n c => s.make n c
  | .report n => s.report editor n

/-- Some things happen in order. -/
def run (s : Session) (editor : Editor) : List Happening → Session
  | [] => s
  | x :: xs => (s.step editor x).run editor xs

end Session

/-! ### A terminal that waits -/

namespace Model

/-- The terminal waits for the user, and its thing is in hand. -/
structure Idle (w₀ : World) (m : Model) (w : World) : Prop where
  waits : m.state ≠ .running
  selected : m.selected < m.actions.length
  custody : Custody w₀ m.thing w

/-- The terminal has handed its thing over and waits for the end of the run. -/
structure Busy (m : Model) : Prop where
  running : m.state = .running
  selected : m.selected < m.actions.length
  thing : m.thing = none

/-- The terminal goes on waiting, or a fault stops it before it has done anything. -/
def Settles (w₀ w : World) (act : Act Model) : Prop :=
  (∃ m w', act.run w = .ok m w' ∧ m.Idle w₀ w') ∨ ∃ e, act.run w = .error e w

/-- The terminal goes on waiting, or it asks for a run with its thing, or a fault stops it before it
has done anything. -/
inductive Reacts (w₀ w : World) (act : Act (Model × Reply)) : Prop
  | waits {m : Model} {r : Reply} {w' : World} (hrun : act.run w = .ok (m, r) w')
      (hdeeds : r.deeds = []) (hm : m.Idle w₀ w')
  | hands {m : Model} {h : Handle} {w' : World} (hrun : act.run w = .ok (m, .start ⟨h⟩) w')
      (hm : m.Busy) (hc : Custody w₀ (some h) w')
  | fails {e : Fault} (hrun : act.run w = .error e w)

theorem Settles.reacts {w₀ w : World} {act : Act Model} (hact : Settles w₀ w act) :
    Reacts w₀ w (do return (← act, .nothing)) := by
  rcases hact with ⟨m, w', hrun, hm⟩ | ⟨e, hrun⟩
  · exact .waits (Act.run_bind_ok hrun _) rfl hm
  · exact .fails (Act.run_bind_error hrun _)

/-- With a thing in hand, that is destroyed first. -/
theorem run_renew_of_some {m : Model} {h : Handle} (hthing : m.thing = some h) {w w₁ : World}
    (hdrop : (dropHandle h).run w = .ok () w₁) (number : Int32) :
    (m.renew number).run w = (({ m with thing := none } : Model).renew number).run w₁ := by
  unfold renew
  rw [hthing]
  exact Act.run_bind_ok hdrop _

namespace Idle

variable {w₀ w : World} {m : Model} (hm : m.Idle w₀ w)
include hm

theorem inHand {hand : Option Handle} (hthing : m.thing = hand) : Custody w₀ hand w :=
  hthing ▸ hm.custody

theorem failed (text : String) : (m.failed text).Idle w₀ w := ⟨hm.waits, hm.selected, hm.custody⟩

theorem moveUp : m.moveUp.Idle w₀ w := by
  unfold Model.moveUp
  split
  · exact ⟨hm.waits, Nat.lt_of_le_of_lt (Nat.sub_le ..) hm.selected, hm.custody⟩
  · exact hm

theorem moveDown : m.moveDown.Idle w₀ w := by
  unfold Model.moveDown
  split
  · rename_i hroom
    exact ⟨hm.waits, hroom.2, hm.custody⟩
  · exact hm

theorem renew_of_none (hthing : m.thing = none) (number : Int32) :
    ∃ m' w', (m.renew number).run w = .ok m' w' ∧ m'.Idle w₀ w' := by
  have hc := hm.inHand hthing
  obtain ⟨h, w₁, hwrap, hc₁⟩ :=
    hc.wrapReference (r := { number, diagnostics := some m.entry.output }) rfl
  obtain ⟨w₂, hprint, hwritten⟩ := World.OnlyWritten.printLine m.entry.output
    ("wrapped Thing " ++ Text.address h) w₁
  refine ⟨{ m with thing := some h }, w₂, ?_, hm.waits, hm.selected, hc₁.written hwritten⟩
  unfold Model.renew
  rw [hthing]
  dsimp only
  rw [Act.run_bind_ok hwrap, Act.run_bind_ok hprint]
  rfl

/-- What is held is given up, and a new thing is in hand. -/
theorem renew (number : Int32) :
    ∃ m' w', (m.renew number).run w = .ok m' w' ∧ m'.Idle w₀ w' := by
  cases hthing : m.thing with
  | none => exact hm.renew_of_none hthing number
  | some h =>
      have hc := hm.inHand hthing
      obtain ⟨w₁, hdrop, hc₁⟩ := hc.dropHandle
      have hempty : ({ m with thing := none } : Model).Idle w₀ w₁ := ⟨hm.waits, hm.selected, hc₁⟩
      rw [run_renew_of_some hthing hdrop]
      exact hempty.renew_of_none rfl number

theorem showNumber : Settles w₀ w m.showNumber := by
  unfold Model.showNumber
  cases hthing : m.thing with
  | none => exact Or.inl ⟨_, w, rfl, hm.failed _⟩
  | some h =>
      have hc := hm.inHand hthing
      obtain ⟨n, w₁, hnumber, hc₁⟩ := hc.number
      obtain ⟨w₂, hprint, hwritten⟩ := World.OnlyWritten.printLine m.entry.output
        ("number() = " ++ toString n.toInt) w₁
      refine Or.inl ⟨m, w₂, ?_, hm.waits, hm.selected, hthing ▸ hc₁.written hwritten⟩
      simp only
      rw [← bind_assoc, Act.run_bind_ok hnumber, Act.run_bind_ok hprint]
      rfl

theorem destroy : Settles w₀ w m.destroy := by
  unfold Model.destroy
  cases hthing : m.thing with
  | none => exact Or.inl ⟨_, w, rfl, hm.failed _⟩
  | some h =>
      have hc := hm.inHand hthing
      obtain ⟨w₁, hdrop, hc₁⟩ := hc.dropHandle
      exact Or.inl ⟨_, w₁, Act.run_bind_ok hdrop _, hm.waits, hm.selected, hc₁⟩

theorem accept : Settles w₀ w m.accept := by
  unfold Model.accept
  cases integer m.field.text with
  | error e => exact Or.inl ⟨_, w, rfl, hm.failed _⟩
  | ok n =>
      obtain ⟨m', w', hrun, hm'⟩ := hm.renew n
      exact Or.inl ⟨_, w', Act.run_bind_ok hrun _, by simp, hm'.selected, hm'.custody⟩

/-- What is passed on to the field touches nothing else. -/
theorem edit (editor : Editor) (input : Input) : Settles w₀ w (m.edit editor input) := by
  unfold Model.edit
  split
  · cases editor.receive m.field input with
    | error e => exact Or.inr ⟨e, rfl⟩
    | ok field => exact Or.inl ⟨_, w, rfl, hm.waits, hm.selected, hm.custody⟩
  · exact Or.inl ⟨m, w, rfl, hm⟩

theorem hand : Reacts w₀ w (return m.hand) := by
  cases hthing : m.thing with
  | none =>
      have hrun : (return m.hand : Act _).run w =
          .ok (m.failed "no Thing, press enter on new first", .nothing) w := by
        rw [Model.hand, hthing]
        rfl
      exact .waits hrun rfl (hm.failed _)
  | some h =>
      have hc := hm.inHand hthing
      have hrun : (return m.hand : Act _).run w =
          .ok ({ m with thing := none, state := .running }, .start ⟨h⟩) w := by
        rw [Model.hand, hthing]
        rfl
      exact .hands hrun ⟨rfl, hm.selected, rfl⟩ hc

/-- The selected action. -/
theorem call (editor : Editor) : Reacts w₀ w (m.call editor) := by
  have hm' : ({ m with error := none } : Model).Idle w₀ w := ⟨hm.waits, hm.selected, hm.custody⟩
  unfold Model.call
  dsimp only
  split
  · exact .waits rfl rfl ⟨by simp [askNumber], hm.selected, hm.custody⟩
  · exact hm'.hand
  · exact hm'.showNumber.reacts
  · exact hm'.destroy.reacts
  · exact .waits rfl rfl hm'

theorem press (editor : Editor) (k : Key) : Reacts w₀ w (m.press editor k) := by
  cases k with
  | interrupt => exact .waits rfl rfl hm
  | up => exact .waits rfl rfl hm.moveUp
  | down => exact .waits rfl rfl hm.moveDown
  | pageUp => exact .waits rfl rfl hm
  | pageDown => exact .waits rfl rfl hm
  | escape => exact .waits rfl rfl ⟨by simp, hm.selected, hm.custody⟩
  | edit key => exact (hm.edit editor _).reacts
  | enter =>
      unfold Model.press
      cases hstate : m.state with
      | select => exact hm.call editor
      | number => exact hm.accept.reacts
      | running => exact absurd hstate hm.waits

theorem typed (editor : Editor) (text : String) : Reacts w₀ w (m.typed editor text) := by
  unfold Model.typed
  split
  · split
    · exact (hm.edit editor _).reacts
    · exact .waits rfl rfl hm
  · exact .waits rfl rfl hm.moveUp
  · exact .waits rfl rfl hm.moveDown
  · exact (hm.edit editor _).reacts

/-- What a terminal that waits makes of a message. -/
theorem updateBy (editor : Editor) {msg : Message} (hmsg : ∀ outcome, msg ≠ .finished outcome) :
    Reacts w₀ w (m.updateBy editor msg) := by
  cases msg with
  | key k =>
      rw [Model.updateBy, if_neg hm.waits]
      exact hm.press editor k
  | typed text =>
      rw [Model.updateBy, if_neg hm.waits]
      exact hm.typed editor text
  | finished outcome => exact absurd rfl (hmsg outcome)
  | tick => exact .waits rfl rfl hm
  | other => exact .waits rfl rfl hm

end Idle

/-- While a run is under way, nothing but its end is heard. -/
theorem Busy.run_updateBy {m : Model} (hm : m.Busy) (editor : Editor) {msg : Message}
    (hmsg : ∀ outcome, msg ≠ .finished outcome) (w : World) :
    (m.updateBy editor msg).run w = .ok (m, .nothing) w := by
  cases msg with
  | key k =>
      rw [updateBy, if_pos hm.running]
      rfl
  | typed text =>
      rw [updateBy, if_pos hm.running]
      rfl
  | finished outcome => exact absurd rfl (hmsg outcome)
  | tick => rfl
  | other => rfl

theorem idle_of_renew {w₀ w w' : World} {m m' : Model} {number : Int32} (hm : m.Idle w₀ w)
    (hrun : (m.renew number).run w = .ok m' w') : m'.Idle w₀ w' := by
  obtain ⟨m₁, w₁, hrenew, hm₁⟩ := hm.renew number
  rw [hrenew] at hrun
  cases hrun
  exact hm₁

/-- A terminal starts with a thing in hand. -/
theorem idle_of_start {e : Entry} {number : Int32} {w₀ w : World} {m : Model}
    (hkept : w₀.WellKept) (hthings : w₀.ThingsMade)
    (hstart : (start e number).run w₀ = .ok (.ok m) w) : m.Idle w₀ w := by
  unfold start at hstart
  cases himports : e.boundary.imports with
  | error f =>
      rw [himports] at hstart
      cases hstart
  | ok imports =>
      rw [himports] at hstart
      dsimp only at hstart
      obtain ⟨_, w₁, hsubscribe, hrest⟩ := Act.run_bind_eq_ok.1 hstart
      obtain ⟨m', w₂, hrenew, hreturn⟩ := Act.run_bind_eq_ok.1 hrest
      cases hsubscribe
      cases hreturn
      -- the list has the action that makes a thing, at least
      have hc := (Custody.start hkept hthings).observed (t := w₀.table.subscribe tracer) rfl
      refine idle_of_renew ?_ hrenew
      exact ⟨by simp, by simp, hc⟩

/-- Closing a terminal that has not handed its thing over leaves nothing behind. -/
theorem run_close {w₀ w : World} {m : Model} (hc : Custody w₀ m.thing w) :
    ∃ m' w', m.close.run w = .ok m' w' ∧ m'.thing = none ∧ Custody w₀ none w' := by
  unfold close
  cases hthing : m.thing with
  | none =>
      rw [hthing] at hc
      exact ⟨_, _, rfl, rfl, hc.observed rfl⟩
  | some h =>
      rw [hthing] at hc
      obtain ⟨w₁, hdrop, hc₁⟩ := hc.dropHandle
      exact ⟨_, _, Act.run_bind_ok hdrop _, rfl, hc₁.observed rfl⟩

end Model

/-! ### What happens in a session -/

namespace Session

/-- The invariant of a session: the one thing that is not destroyed is in the hand of the terminal,
or in that of the run that it has asked for; or there is none, because that run has ended. -/
inductive Sound (w₀ : World) : Session → Prop
  | idle {w : World} {m : Model} (hm : m.Idle w₀ w) : Sound w₀ { world := w, model := m }
  | asked {w : World} {m : Model} {h : Handle} (hm : m.Busy) (hc : Custody w₀ (some h) w) :
      Sound w₀ { world := w, model := m, asked := [⟨h⟩] }
  | ended {w : World} {m : Model} (outcome : Except Failure Unit) (hm : m.Busy)
      (hc : Custody w₀ none w) : Sound w₀ { world := w, model := m, ended := [outcome] }

theorem tell_of_busy {s : Session} (hs : s.model.Busy) (editor : Editor) {msg : Message}
    (hmsg : ∀ outcome, msg ≠ .finished outcome) : s.tell editor msg = s := by
  rw [tell, hs.run_updateBy editor hmsg]
  simp [Reply.deeds]

variable {w₀ : World} {s : Session}

section Happenings

variable (hs : Sound w₀ s) (editor : Editor)
include hs

/-- A message of the user. -/
theorem Sound.tell (msg : Message) (hmsg : ∀ outcome, msg ≠ .finished outcome) :
    Sound w₀ (s.tell editor msg) := by
  cases hs with
  | idle hm =>
      cases hm.updateBy editor hmsg with
      | waits hrun hdeeds hm' =>
          rw [Session.tell, hrun]
          dsimp only
          rw [hdeeds]
          exact .idle hm'
      | hands hrun hm' hc =>
          rw [Session.tell, hrun]
          exact .asked hm' hc
      | fails hrun =>
          rw [Session.tell, hrun]
          exact .idle hm
  | asked hm hc =>
      rw [tell_of_busy hm editor hmsg]
      exact .asked hm hc
  | ended outcome hm hc =>
      rw [tell_of_busy hm editor hmsg]
      exact .ended outcome hm hc

/-- A run: only one can be asked for. -/
theorem Sound.make (n : Nat) (c : Conduct) : Sound w₀ (s.make n c) := by
  cases hs with
  | idle hm => exact .idle hm
  | ended outcome hm hc => exact .ended outcome hm hc
  | @asked w m h hm hc =>
      cases n with
      | succ n => exact .asked hm hc
      | zero =>
          obtain ⟨outcome, w', hrun, hc'⟩ := hc.serve m.entry c
          have hmake : Session.make { world := w, model := m, asked := [⟨h⟩] } 0 c =
              { world := w', model := m, ended := [outcome] } := by
            simp [Session.make, hrun]
          rw [hmake]
          exact .ended outcome hm hc'

/-- The end of a run: the terminal waits again, with empty hands. -/
theorem Sound.report (n : Nat) : Sound w₀ (s.report editor n) := by
  cases hs with
  | idle hm => exact .idle hm
  | asked hm hc => exact .asked hm hc
  | ended outcome hm hc =>
      cases n with
      | succ n => exact .ended outcome hm hc
      | zero =>
          refine .idle ⟨by simp, hm.selected, ?_⟩
          rw [hm.thing]
          exact hc

/-- Whatever happens keeps the invariant. -/
theorem Sound.step (x : Happening) : Sound w₀ (s.step editor x) := by
  cases x with
  | key k => exact hs.tell editor (.key k) (by simp)
  | typed text => exact hs.tell editor (.typed text) (by simp)
  | tick => exact hs.tell editor .tick (by simp)
  | other => exact hs.tell editor .other (by simp)
  | run n c => exact hs.make n c
  | report n => exact hs.report editor n

theorem Sound.run (xs : List Happening) : Sound w₀ (s.run editor xs) := by
  induction xs generalizing s with
  | nil => exact hs
  | cons x xs ih => exact ih (hs.step editor x)

end Happenings

/-! ### Where things are -/

/-- The thing that the terminal or its run has in hand. -/
def hand (s : Session) : Option Handle := s.model.thing <|> s.asked.head?.map Deed.handle

theorem Sound.custody (hs : Sound w₀ s) : Custody w₀ s.hand s.world := by
  cases hs with
  | idle hm => simpa [hand] using hm.custody
  | asked hm hc => simpa [hand, hm.thing] using hc
  | ended outcome hm hc => simpa [hand, hm.thing] using hc

theorem Sound.selected (hs : Sound w₀ s) : s.model.selected < s.model.actions.length := by
  cases hs with
  | idle hm => exact hm.selected
  | asked hm hc => exact hm.selected
  | ended outcome hm hc => exact hm.selected

theorem Sound.empty_of_running (hs : Sound w₀ s) (hrunning : s.model.state = .running) :
    s.model.thing = none := by
  cases hs with
  | idle hm => exact absurd hrunning hm.waits
  | asked hm hc => exact hm.thing
  | ended outcome hm hc => exact hm.thing

/-- One run is under way, or none. -/
theorem Sound.runs (hs : Sound w₀ s) :
    s.asked.length + s.ended.length = if s.model.state = .running then 1 else 0 := by
  cases hs with
  | idle hm => simp [hm.waits]
  | asked hm hc => simp [hm.running]
  | ended outcome hm hc => simp [hm.running]

theorem Sound.hand_of_asked (hs : Sound w₀ s) {d : Deed} (hd : d ∈ s.asked) :
    s.hand = some d.handle := by
  cases hs with
  | idle hm => cases hd
  | asked hm hc =>
      obtain rfl := List.mem_singleton.1 hd
      simp [hand, hm.thing]
  | ended outcome hm hc => cases hd

theorem hand_eq_some {h : Handle} (hh : s.hand = some h) :
    s.model.thing = some h ∨ ⟨h⟩ ∈ s.asked := by
  unfold hand at hh
  cases hthing : s.model.thing with
  | some k => exact Or.inl (by simpa [hthing] using hh)
  | none =>
      obtain ⟨d, hd, rfl⟩ : ∃ d, s.asked.head? = some d ∧ d.handle = h := by
        simpa [hthing] using hh
      exact Or.inr (List.mem_of_mem_head? hd)

/-- After the pending run the terminal can be closed, and nothing that it has made is left. -/
theorem Sound.close (hs : Sound w₀ s) (c : Conduct) : (s.make 0 c).asked = [] ∧
    ∃ m' w', (s.make 0 c).model.close.run (s.make 0 c).world = .ok m' w' ∧ m'.thing = none ∧
      Custody w₀ none w' := by
  have hasked : (s.make 0 c).asked = [] := by
    cases hs with
    | idle hm => rfl
    | ended outcome hm hc => rfl
    | @asked w m h hm hc =>
        obtain ⟨outcome, w', hrun, -⟩ := hc.serve m.entry c
        simp [Session.make, hrun]
  have hc := (hs.make 0 c).custody
  have hhand : (s.make 0 c).hand = (s.make 0 c).model.thing := by simp [hand, hasked]
  rw [hhand] at hc
  exact ⟨hasked, Model.run_close hc⟩

/-- **A terminal destroys everything that it has made exactly once.**  Whatever keys are pressed,
whatever is typed, whatever the text field makes of it and whatever the scripts do: the selection is
in the list; the thing in hand is live and not lent; one run is under way, if any, and then the
terminal has no thing; and everything else that was made since the terminal was started is
destroyed.  Once the pending run is over and the terminal is closed, that is everything. -/
theorem things_destroyed_once {e : Entry} {number : Int32} {w₀ w₁ : World} {m : Model}
    (hreach : w₀.Reachable) (hthings : w₀.ThingsMade)
    (hstart : (Model.start e number).run w₀ = .ok (.ok m) w₁) (editor : Editor)
    (xs : List Happening) :
    let s := run { world := w₁, model := m } editor xs
    s.model.selected < s.model.actions.length ∧
    (∀ h, s.model.thing = some h →
      h ≠ 0 ∧ s.world.isLive h ∧ s.world.isLent h = false ∧ s.world.drops h = 0) ∧
    (s.model.state = .running → s.model.thing = none) ∧
    s.asked.length + s.ended.length = (if s.model.state = .running then 1 else 0) ∧
    (∀ d ∈ s.asked, s.world.isLive d.handle ∧ s.world.drops d.handle = 0 ∧
      ∃ c, (s.model.entry.main d).run s.world = (s.model.entry.serve c d).run s.world) ∧
    (∀ k, w₀.holder? k = none → (s.world.holder? k).isSome → s.model.thing ≠ some k →
      ⟨k⟩ ∉ s.asked → World.Ended w₀ k s.world) ∧
    ∀ c, (s.step editor (.run 0 c)).asked = [] ∧ ∃ m' w',
      (s.step editor (.run 0 c)).model.close.run (s.step editor (.run 0 c)).world = .ok m' w' ∧
      m'.thing = none ∧
      ∀ k, w₀.holder? k = none → (w'.holder? k).isSome → World.Ended w₀ k w' := by
  intro s
  have hs : Sound w₀ s :=
    Sound.run (.idle (Model.idle_of_start hreach.wellKept hthings hstart)) editor xs
  have hc := hs.custody
  refine ⟨hs.selected, ?_, hs.empty_of_running, hs.runs, ?_, ?_, ?_⟩
  · intro h hh
    have howned := hc.owned h (by simp [hand, hh])
    have hlive := howned.live hc.kept
    exact ⟨hc.kept.ne_zero_of_live hlive, hlive, howned.unlent, howned.drops hc.kept⟩
  · intro d hd
    have howned := hc.owned d.handle (hs.hand_of_asked hd)
    exact ⟨howned.live hc.kept, howned.drops hc.kept, s.model.entry.run_main_eq_serve d s.world⟩
  · intro k hmade hk hthing hasked
    refine hc.ended k hmade hk ?_
    intro hhand
    rcases hand_eq_some hhand with heq | hmem
    · exact hthing heq
    · exact hasked hmem
  · intro c
    obtain ⟨hasked, m', w', hclose, hthing, hc'⟩ := hs.close c
    exact ⟨hasked, m', w', hclose, hthing, fun k hmade hk => hc'.ended k hmade hk (by simp)⟩

/-- A terminal that was started in an empty world, with the world after that. -/
def first : Model × World :=
  match (Model.start {} 7).run {} with
  | .ok (.ok m) w => (m, w)
  | _ => ({ entry := {}, number := 7, actions := [] }, {})

theorem run_start_first : (Model.start {} 7).run {} = .ok (.ok first.1) first.2 := by
  have hactions : first.1.actions ≠ [] := by decide +kernel
  cases hrun : (Model.start {} 7).run {} with
  | error e w => simp [first, hrun] at hactions
  | ok r w =>
      cases r with
      | error f => simp [first, hrun] at hactions
      | ok m => simp [first, hrun]

/-- The thing is handed to a script that destroys it and tries that again; then the user makes
another thing. -/
def handedThenRenewed : List Happening :=
  [.key .down, .key .down, .key .down, .key .enter, .run 0 Entry.destroyingTwice, .report 0,
    .key .up, .key .up, .key .up, .key .enter, .typed "1", .key .enter]

/-- In the terminal itself, the first thing was destroyed once, and the second is in hand. -/
theorem things_destroyed_once_renewed :
    let s := run { world := first.2, model := first.1 } .line handedThenRenewed
    s.model.thing = some (World.handleAt 1) ∧ s.world.isLive (World.handleAt 1) ∧
      World.Ended {} (World.handleAt 0) s.world := by
  intro s
  obtain ⟨hthing, hasked, hmade⟩ : s.model.thing = some (World.handleAt 1) ∧ s.asked = [] ∧
      (s.world.holder? (World.handleAt 0)).isSome := by
    decide +kernel
  have hreach : World.Reachable {} := ⟨{}, [], ⟨rfl, rfl⟩, rfl, rfl⟩
  have hthings : World.ThingsMade {} := by
    rintro k t ⟨p, hp, -⟩
    cases hp
  obtain ⟨-, hheld, -, -, -, hended, -⟩ :=
    things_destroyed_once hreach hthings run_start_first .line handedThenRenewed
  refine ⟨hthing, (hheld _ hthing).2.1, hended _ rfl hmade ?_ ?_⟩
  · show s.model.thing ≠ _
    rw [hthing]
    decide
  · show _ ∉ s.asked
    rw [hasked]
    simp

end Session

end Handover.Terminal
