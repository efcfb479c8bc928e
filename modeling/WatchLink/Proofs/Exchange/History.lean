import WatchLink.Exchange.Script

/-!
# Histories of an exchange

A dispatch does two things before any tap is told, and whatever the taps do about it comes after
that: operations of their own, dispatches included, whose taps are told before the first dispatch
goes on. So what happens to an exchange is a list of acts, in the order in which they begin, and a
dispatch that is nested in another one only stands later in the list. Nothing is assumed here about
who makes an act. Which acts the taps of a script make is said in the module on records.
-/

namespace WatchLink

set_option autoImplicit false

namespace Exchange

/-- One indivisible part of what happens to an exchange. -/
inductive Act where
  /-- A step begins. Of a dispatch, this is all that comes before the taps. -/
  | step (step : Step)
  | note (index : Nat) (line : Note)
  deriving DecidableEq, Repr

structure Entry where
  found : Run
  act : Act
  answer : Answer

namespace Run

/-- The answer to an act, and the run after it. An exchange that was given up answers nothing. -/
def act (run : Run) : Act → Answer × Run
  | .step step => run.begin step
  | .note index line =>
      if run.givenUp then (.gone, run)
      else (.receipt .done, run.setExchange (run.desk.exchange.note index line))

def after (run : Run) : List Act → Run
  | [] => run
  | act :: later => (run.act act).2.after later

def history (run : Run) : List Act → List Entry
  | [] => []
  | act :: later =>
      { found := run, act, answer := (run.act act).1 } :: (run.act act).2.history later

theorem after_append (run : Run) (front back : List Act) :
    run.after (front ++ back) = (run.after front).after back := by
  induction front generalizing run with
  | nil => rfl
  | cons act later ih => exact ih (run.act act).2

theorem history_append (run : Run) (front back : List Act) :
    run.history (front ++ back) = run.history front ++ (run.after front).history back := by
  induction front generalizing run with
  | nil => rfl
  | cons act later ih => exact congrArg (List.cons _) (ih (run.act act).2)

theorem take_history (run : Run) (acts : List Act) (place : Nat) :
    (run.history acts).take place = run.history (acts.take place) := by
  induction acts generalizing run place with
  | nil => simp [history]
  | cons act later ih =>
      cases place with
      | zero => rfl
      | succ place => exact congrArg (List.cons _) (ih (run.act act).2 place)

end Run

theorem split_snoc {Item : Type} {history front back : List Item} {last entry : Item}
    (split : history ++ [last] = front ++ entry :: back) :
    (∃ earlier, back = earlier ++ [last] ∧ history = front ++ entry :: earlier) ∨
      (back = [] ∧ entry = last ∧ front = history) := by
  rcases List.eq_nil_or_concat back with empty | ⟨earlier, final, concat⟩
  · subst empty
    obtain ⟨before, same⟩ := List.append_inj' split rfl
    cases same
    exact .inr ⟨rfl, rfl, before.symm⟩
  · rw [List.concat_eq_append] at concat
    subst concat
    have regrouped : history ++ [last] = (front ++ entry :: earlier) ++ [final] := by
      simpa using split
    obtain ⟨before, same⟩ := List.append_inj' regrouped rfl
    cases same
    exact .inl ⟨earlier, rfl, before⟩

end Exchange

end WatchLink
