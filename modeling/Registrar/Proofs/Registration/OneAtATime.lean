import Registrar.Proofs.Registration.History
import Registrar.Registration.Desk

/-!
A desk lets in one attempt at a time.

Whoever submits attempts, whenever they do and however the attempts end, the device is left as if
the attempts that were let in had come one after the other. This is so even if an attempt is done
bit by bit, while others are submitted in between.
-/

namespace Registrar

open Registration

/-! ### Submitting and ending -/

/-- What can happen at a desk. -/
inductive Desk.Move where
  /-- someone submits an attempt -/
  | submit (who : Nat) (a : Attempt)
  /-- a running attempt ends, in whichever way the circumstances make it end -/
  | finish (i : Nat) (c : Circumstances)

namespace Desk

/-- The desk after a move. Only an attempt that is running can end. -/
def after (suite : Suite) (desk : Desk) : Move → Desk
  | .submit _ a => (desk.submit a).2
  | .finish i c =>
    if i < desk.running.length then
      (finish suite c.collaborators c.now i { desk with device := desk.device.under c }).2
    else desk

def afterAll (suite : Suite) (desk : Desk) (moves : List Move) : Desk :=
  moves.foldl (after suite) desk

/-- The attempt that a move lets in, if it does. -/
def letsIn (desk : Desk) : Move → List Attempt
  | .submit _ a =>
    match (desk.submit a).1 with
    | .working => [a]
    | .settled _ => []
  | .finish _ _ => []

def accepted (suite : Suite) : Desk → List Move → List Attempt
  | _, [] => []
  | desk, move :: moves => desk.letsIn move ++ accepted suite (desk.after suite move) moves

/-- Under what circumstances a move ends an attempt, if it does. -/
def ends (desk : Desk) : Move → List Circumstances
  | .submit _ _ => []
  | .finish i c => if i < desk.running.length then [c] else []

def endings (suite : Suite) : Desk → List Move → List Circumstances
  | _, [] => []
  | desk, move :: moves => desk.ends move ++ endings suite (desk.after suite move) moves

/-- A desk is busy with one attempt, or is free and there is none. -/
inductive Orderly : Desk → Prop
  | free (d : Device) : Orderly ⟨d, false, []⟩
  | busy (d : Device) (a : Attempt) : Orderly ⟨d, true, [a]⟩

variable {suite : Suite} {desk : Desk}

theorem device_perform (suite : Suite) (c : Circumstances) (a : Attempt) (d : Device) :
    (perform suite c.collaborators c.now a (d.under c)).2 = a.leave suite d c := by
  rw [perform, Attempt.leave, Attempt.runOn]
  cases run suite c.collaborators c.now a (d.under c) <;> rfl

theorem finish_busy (suite : Suite) (c : Circumstances) (a : Attempt) (d : Device) :
    finish suite c.collaborators c.now 0 ⟨d.under c, true, [a]⟩ =
      (some (perform suite c.collaborators c.now a (d.under c)).1, ⟨a.leave suite d c, false, []⟩) := by
  rw [← device_perform]
  rfl

theorem after_submit_free (suite : Suite) (who : Nat) (a : Attempt) (d : Device) :
    after suite ⟨d, false, []⟩ (.submit who a) = ⟨d, true, [a]⟩ := rfl

theorem after_submit_busy (suite : Suite) (who : Nat) (a b : Attempt) (d : Device) :
    after suite ⟨d, true, [b]⟩ (.submit who a) = ⟨d, true, [b]⟩ := rfl

theorem after_finish_busy (suite : Suite) (c : Circumstances) (a : Attempt) (d : Device) (i : Nat) :
    after suite ⟨d, true, [a]⟩ (.finish i c) =
      if i = 0 then ⟨a.leave suite d c, false, []⟩ else ⟨d, true, [a]⟩ := by
  rw [after]
  by_cases hi : i = 0
  · subst hi
    rw [if_pos rfl]
    exact congrArg Prod.snd (finish_busy suite c a d)
  · have hout : ¬i < [a].length := by simpa using hi
    rw [if_neg hout, if_neg hi]

theorem after_finish_free (suite : Suite) (c : Circumstances) (d : Device) (i : Nat) :
    after suite ⟨d, false, []⟩ (.finish i c) = ⟨d, false, []⟩ := by
  rw [after]
  exact if_neg (Nat.not_lt_zero i)

namespace Orderly

theorem length_running_le (h : Orderly desk) : desk.running.length ≤ 1 := by
  cases h with
  | free d => exact Nat.zero_le 1
  | busy d a => exact Nat.le_refl 1

theorem submit_of_running_ne_nil (h : Orderly desk) (a : Attempt) (hrunning : desk.running ≠ []) :
    desk.submit a = (.rejected, desk) := by
  cases h with
  | free d => exact absurd rfl hrunning
  | busy d b => rfl

theorem submit_of_running_eq_nil (h : Orderly desk) (a : Attempt) (hrunning : desk.running = []) :
    desk.submit a = (.working, ⟨desk.device, true, [a]⟩) := by
  cases h with
  | free d => rfl
  | busy d b => cases hrunning

theorem finish_of_running_eq (h : Orderly desk) {a : Attempt} (c : Circumstances)
    (hrunning : desk.running = [a]) :
    desk.after suite (.finish 0 c) = ⟨a.leave suite desk.device c, false, []⟩ := by
  cases h with
  | free d => cases hrunning
  | busy d b =>
    cases hrunning
    exact after_finish_busy suite c a d 0

end Orderly

/-! ### Any number of moves -/

theorem Orderly.after (suite : Suite) (h : Orderly desk) (move : Move) :
    Orderly (desk.after suite move) := by
  cases h with
  | free d =>
    cases move with
    | submit who a => exact .busy d a
    | finish i c =>
      rw [after_finish_free]
      exact .free d
  | busy d a =>
    cases move with
    | submit who b => exact .busy d a
    | finish i c =>
      rw [after_finish_busy]
      split
      · exact .free _
      · exact .busy d a

theorem Orderly.afterAll (suite : Suite) (h : Orderly desk) (moves : List Move) :
    Orderly (desk.afterAll suite moves) := by
  induction moves generalizing desk with
  | nil => exact h
  | cons move moves ih => exact ih (h.after suite move)

/--
The attempts that were running and those that are let in end one after the other, but for those that
still run in the end; and what they leave is what they leave when nobody else is there.
-/
theorem Orderly.exists_ended (suite : Suite) (h : Orderly desk) (moves : List Move) :
    ∃ ended, desk.running ++ desk.accepted suite moves =
        ended ++ (desk.afterAll suite moves).running ∧
      ended.length = (desk.endings suite moves).length ∧
      (desk.afterAll suite moves).device =
        desk.device.having suite (ended.zipWith .register (desk.endings suite moves)) := by
  induction moves generalizing desk with
  | nil => exact ⟨[], List.append_nil _, rfl, rfl⟩
  | cons move moves ih =>
    obtain ⟨ended, hended, hlength, hdevice⟩ := ih (h.after suite move)
    rw [accepted, endings, Desk.afterAll, List.foldl_cons]
    cases h with
    | free d =>
      cases move with
      | submit who a => exact ⟨ended, hended, hlength, hdevice⟩
      | finish i c =>
        have hends : ends ⟨d, false, []⟩ (.finish i c) = [] := by
          rw [ends]
          exact if_neg (Nat.not_lt_zero i)
        rw [after_finish_free] at hended hlength hdevice ⊢
        rw [hends]
        exact ⟨ended, hended, hlength, hdevice⟩
    | busy d a =>
      cases move with
      | submit who b => exact ⟨ended, hended, hlength, hdevice⟩
      | finish i c =>
        rw [after_finish_busy] at hended hlength hdevice ⊢
        by_cases hi : i = 0
        · -- The attempt that ends is the first one.
          subst hi
          exact ⟨a :: ended, congrArg (a :: ·) hended, congrArg (· + 1) hlength, hdevice⟩
        · have hends : ends ⟨d, true, [a]⟩ (.finish i c) = [] := if_neg (by simpa using hi)
          rw [if_neg hi] at hended hlength hdevice ⊢
          rw [hends]
          exact ⟨ended, hended, hlength, hdevice⟩

end Desk

/-! ### Attempts that are done bit by bit -/

/-- A desk whose attempts are being worked on: for each of them, what is left to be done. -/
structure Workroom where
  device : Device
  busy : Bool := false
  left : List (Act Stop Response) := []

namespace Workroom

/--
A room comes to its state from an empty one, where some attempts are let in. At any time someone may
be turned away, or a part of what is left of any attempt may be done.
-/
inductive Course (suite : Suite) (d : Device) : List Deed → Workroom → Prop
  | opened : Course suite d [] { device := d }
  | turnedAway {taken : List Deed} {w : Workroom} (a : Attempt) :
    Course suite d taken w → w.busy = true → Course suite d taken w
  | letIn {taken : List Deed} {w : Workroom} (a : Attempt) (c : Circumstances) :
    Course suite d taken w → w.busy = false →
      Course suite d (taken ++ [.register a c])
        { device := w.device.under c
          busy := true
          left := w.left ++ [run suite c.collaborators c.now a] }
  | works {taken : List Deed} {w : Workroom} {α : Type} {x : Act Stop α}
      {f : α → Act Stop Response} {i : Nat} {b : α} {d' : Device} :
    Course suite d taken w → w.left[i]? = some (x >>= f) → x w.device = .ok b d' →
      Course suite d taken { w with device := d', left := w.left.set i (f b) }
  | finish {taken : List Deed} {w : Workroom} {x : Act Stop Response} {i : Nat} :
    Course suite d taken w → w.left[i]? = some x →
      Course suite d taken
        { device := endOf (x w.device), busy := false, left := w.left.eraseIdx i }

/--
A room is as it is when attempts are made as a whole and one after the other: what is left of the
last one comes to what all of it comes to on the device that it found.
-/
inductive InTurn (suite : Suite) (d : Device) : List Deed → Workroom → Prop
  | free (taken : List Deed) : InTurn suite d taken ⟨d.having suite taken, false, []⟩
  | busy {before : List Deed} {a : Attempt} {c : Circumstances} {x : Act Stop Response}
      {d' : Device} : x d' = a.runOn suite (d.having suite before) c →
    InTurn suite d (before ++ [.register a c]) ⟨d', true, [x]⟩

variable {suite : Suite} {d : Device} {taken : List Deed} {w : Workroom}

theorem eq_of_getElem?_singleton {α : Type} {a b : α} {i : Nat} (h : [a][i]? = some b) :
    i = 0 ∧ a = b := by
  cases i with
  | zero => exact ⟨rfl, Option.some.inj h⟩
  | succ i => cases h

theorem having_concat (before : List Deed) (a : Attempt) (c : Circumstances) :
    d.having suite (before ++ [.register a c]) = a.leave suite (d.having suite before) c :=
  List.foldl_append

theorem InTurn.works {α : Type} {x : Act Stop α} {f : α → Act Stop Response} {i : Nat} {b : α}
    {d' : Device} (h : InTurn suite d taken w) (hleft : w.left[i]? = some (x >>= f))
    (hx : x w.device = .ok b d') :
    InTurn suite d taken { w with device := d', left := w.left.set i (f b) } := by
  cases h with
  | free => cases hleft
  | busy hrun =>
    obtain ⟨rfl, rfl⟩ := eq_of_getElem?_singleton hleft
    refine .busy ?_
    rw [← hrun, act_bind_eq, hx]

theorem InTurn.finish {x : Act Stop Response} {i : Nat} (h : InTurn suite d taken w)
    (hleft : w.left[i]? = some x) :
    InTurn suite d taken ⟨endOf (x w.device), false, w.left.eraseIdx i⟩ := by
  cases h with
  | free => cases hleft
  | @busy before a c y d' hrun =>
    obtain ⟨rfl, rfl⟩ := eq_of_getElem?_singleton hleft
    have hend : endOf (y d') = d.having suite (before ++ [.register a c]) := by
      rw [having_concat, Attempt.leave, hrun]
    rw [hend]
    exact .free _

theorem Course.inTurn (h : Course suite d taken w) : InTurn suite d taken w := by
  induction h with
  | opened => exact .free []
  | turnedAway a _ _ ih => exact ih
  | letIn a c _ hfree ih =>
    cases ih with
    | free taken => exact .busy rfl
    | busy _ => cases hfree
  | works _ hleft hx ih => exact ih.works hleft hx
  | finish _ hleft ih => exact ih.finish hleft

end Workroom

/-! ### One at a time -/

/--
Whatever was submitted to a desk and however attempts ended, at most one is running. While it is,
others are told so and nothing changes; when none is, the next one is let in. The attempts ended in
the order in which they were let in, and left the device as if each had been made alone; and this is
so too if they are done bit by bit.
-/
theorem one_at_a_time (suite : Suite) (d : Device) (moves : List Desk.Move) :
    let desk := Desk.afterAll suite { device := d } moves
    desk.running.length ≤ 1 ∧
    (∀ a, desk.running ≠ [] → (desk.submit a).2 = desk ∧
      ∀ outcome, ((desk.submit a).1.poll outcome).1 = some (.error .inProgress)) ∧
    (∀ a, desk.running = [] → (desk.submit a).1 = .working ∧ (desk.submit a).2.running = [a] ∧
      ∀ outcome, ((desk.submit a).1.poll outcome).1 = outcome) ∧
    (∀ a c, desk.running = [a] →
      desk.after suite (.finish 0 c) = { device := a.leave suite desk.device c }) ∧
    (∃ ended, Desk.accepted suite { device := d } moves = ended ++ desk.running ∧
      ended.length = (Desk.endings suite { device := d } moves).length ∧
      desk.device = d.having suite
        (ended.zipWith .register (Desk.endings suite { device := d } moves))) ∧
    ∀ taken w, Workroom.Course suite d taken w → Workroom.InTurn suite d taken w := by
  intro desk
  have horderly : desk.Orderly := (Desk.Orderly.free d).afterAll suite moves
  have hended := (Desk.Orderly.free d).exists_ended suite moves
  refine ⟨horderly.length_running_le, fun a hrunning => ?_, fun a hrunning => ?_,
    fun a c => horderly.finish_of_running_eq c, hended, fun taken w hcourse => hcourse.inTurn⟩
  · rw [horderly.submit_of_running_ne_nil a hrunning]
    exact ⟨rfl, fun outcome => rfl⟩
  · rw [horderly.submit_of_running_eq_nil a hrunning]
    exact ⟨rfl, rfl, fun outcome => rfl⟩

namespace Sample

/-- A collaborator brings the attempt down, once everything is stored. -/
def panicking : Circumstances := ⟨fun _ => .panics "no connection", 0, [], []⟩

/-- Someone is turned away, and is let in after the attempt before has been brought down. -/
def contested : List Desk.Move :=
  [.submit 0 attempt, .submit 1 other, .finish 0 panicking, .submit 1 other, .finish 0 calm]

end Sample

theorem one_at_a_time_contested :
    Desk.accepted Suite.standard { device := .fresh Sample.entropy } Sample.contested =
        [Sample.attempt, Sample.other] ∧
      (Desk.afterAll Suite.standard { device := .fresh Sample.entropy } Sample.contested).device =
        (Device.fresh Sample.entropy).having Suite.standard
          [.register Sample.attempt Sample.panicking, .register Sample.other Sample.calm] := by
  have hrunning : (Desk.afterAll Suite.standard { device := .fresh Sample.entropy }
      Sample.contested).running = [] := by
    simp only [Desk.afterAll, Sample.contested, List.foldl_cons, List.foldl_nil,
      Desk.after_submit_free, Desk.after_submit_busy, Desk.after_finish_busy, if_true]
  have haccepted : Desk.accepted Suite.standard { device := .fresh Sample.entropy }
      Sample.contested = [Sample.attempt, Sample.other] := by
    simp only [Sample.contested, Desk.accepted, Desk.letsIn, Desk.submit,
      Desk.after_submit_free, Desk.after_submit_busy, Desk.after_finish_busy, if_true]
    rfl
  have hendings : Desk.endings Suite.standard { device := .fresh Sample.entropy }
      Sample.contested = [Sample.panicking, Sample.calm] := by
    simp only [Sample.contested, Desk.endings, Desk.ends,
      Desk.after_submit_free, Desk.after_submit_busy, Desk.after_finish_busy, if_true]
    rfl
  obtain ⟨-, -, -, -, ⟨ended, hended, -, hdevice⟩, -⟩ :=
    one_at_a_time Suite.standard (.fresh Sample.entropy) Sample.contested
  rw [hrunning, List.append_nil, haccepted] at hended
  rw [hendings, ← hended] at hdevice
  exact ⟨haccepted, hdevice⟩

end Registrar
