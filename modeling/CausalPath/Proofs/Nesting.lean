import CausalPath.Context
import Mathlib.Data.List.Basic

/-!
# Nested handlers

The handlers on a CPU nest: each leaves after those that have entered since. Calls that nest so
leave a stack as it was. An exit pops one frame, whatever its kind is, so when the exit of a nested
handler is lost each later exit pops the frame of a handler further in than its own. The outermost
handler stays on the stack then, under all that comes later.
-/

namespace CausalPath

namespace ContextStack

/-! ## § 1. Calls of a stack -/

/-- What a stack is told of a handler. -/
inductive Call
  | enter (c : Context)
  | leave (kind : ContextKind)
  deriving DecidableEq, Repr

def Call.apply (s : ContextStack) : Call → ContextStack
  | .enter c => s.push c
  | .leave kind => (s.leave kind).2

/-- The stack after some calls. -/
def after (s : ContextStack) (calls : List Call) : ContextStack := calls.foldl Call.apply s

/-- Calls that nest: every handler leaves as what it entered as, after the handlers nested in it. -/
inductive Nested : List Call → Prop
  | nil : Nested []
  | handler (c : Context) {inner rest : List Call} (hinner : Nested inner) (hrest : Nested rest) :
    Nested (.enter c :: (inner ++ .leave c.kind :: rest))

variable {s : ContextStack} {calls front back : List Call} {a c : Context} {k : ContextKind}

theorem after_append (s : ContextStack) (front back : List Call) :
    s.after (front ++ back) = (s.after front).after back :=
  List.foldl_append

theorem after_enter (s : ContextStack) (c : Context) (calls : List Call) :
    s.after (.enter c :: calls) = (s.push c).after calls := rfl

theorem after_leave (s : ContextStack) (k : ContextKind) (calls : List Call) :
    s.after (.leave k :: calls) = after ⟨s.frames.tail⟩ calls := by
  have hpop : (s.leave k).2 = ⟨s.frames.tail⟩ := congrArg Prod.snd (s.leave_frame k)
  rw [← hpop]
  rfl

/-- Nested calls leave a stack as it was. -/
theorem Nested.after_eq (h : Nested calls) : ∀ s : ContextStack, s.after calls = s := by
  induction h with
  | nil =>
    intro s
    rfl
  | handler c _ _ ihinner ihrest =>
    intro s
    rw [after_enter, after_append, ihinner, after_leave, ihrest]
    rfl

/-- In the middle of nested calls, the handlers under way lie on what was there before, and the rest
of the calls takes as many frames away. -/
theorem Nested.split (h : Nested calls) : ∀ {front back : List Call}, calls = front ++ back →
    ∃ opened : List Context, (∀ s : ContextStack, (s.after front).frames = opened ++ s.frames) ∧
      ∀ s : ContextStack, (s.after back).frames = s.frames.drop opened.length := by
  induction h with
  | nil =>
    intro front back hsplit
    obtain ⟨rfl, rfl⟩ := List.append_eq_nil_iff.1 hsplit.symm
    exact ⟨[], fun s => rfl, fun s => rfl⟩
  | @handler c inner rest hinner hrest ihinner ihrest =>
    intro front back hsplit
    rcases List.cons_eq_append_iff.1 hsplit with ⟨rfl, rfl⟩ | ⟨front', rfl, hbody⟩
    · refine ⟨[], fun s => rfl, fun s => ?_⟩
      rw [(Nested.handler c hinner hrest).after_eq]
      rfl
    rcases List.append_eq_append_iff.1 hbody with ⟨front, rfl, hexit⟩ | ⟨left, rfl, rfl⟩
    · rcases List.cons_eq_append_iff.1 hexit with ⟨rfl, rfl⟩ | ⟨front, rfl, hafter⟩
      · -- only the handler itself is under way
        refine ⟨[c], fun s => ?_, fun s => ?_⟩
        · rw [List.append_nil, after_enter, hinner.after_eq]
          rfl
        · rw [after_leave, hrest.after_eq]
          exact List.drop_one.symm
      · -- the handler has left
        obtain ⟨opened, hfront, hback⟩ := ihrest hafter
        refine ⟨opened, fun s => ?_, hback⟩
        rw [after_enter, after_append, hinner.after_eq, after_leave]
        exact hfront s
    · -- a handler inside is under way too
      obtain ⟨opened, hfront, hback⟩ := ihinner rfl
      refine ⟨opened ++ [c], fun s => ?_, fun s => ?_⟩
      · rw [after_enter, hfront, List.append_assoc]
        rfl
      · rw [after_append, after_leave, hrest.after_eq, hback, List.tail_drop, List.length_append]
        rfl

/-! ## § 2. Lost exits -/

/-- Nested calls without one of their exits leave one frame more. -/
theorem Nested.after_lost (h : Nested (front ++ .leave k :: back)) :
    ∃ c, ∀ s : ContextStack, s.after (front ++ back) = s.push c := by
  obtain ⟨opened, hfront, -⟩ := h.split rfl
  obtain ⟨opened', hfront', hback⟩ := h.split
    (show front ++ .leave k :: back = (front ++ [.leave k]) ++ back by simp)
  -- the exit pops one of the frames that the calls before it leave
  have hpop : ∀ s : ContextStack, opened' ++ s.frames = (opened ++ s.frames).tail := by
    intro s
    rw [← hfront', after_append, after_leave, hfront]
    rfl
  obtain rfl : opened' = opened.tail := by simpa [empty] using hpop empty
  obtain ⟨inner, c, rfl⟩ : ∃ inner c, opened = inner ++ [c] := by
    rcases List.eq_nil_or_concat opened with rfl | ⟨inner, c, rfl⟩
    · exact absurd (hpop (empty.push .idle)) (by simp [push])
    · exact ⟨inner, c, by simp⟩
  refine ⟨c, fun s => ?_⟩
  have hframes : (s.after (front ++ back)).frames = c :: s.frames := by
    rw [after_append, hback, hfront]
    simp
  cases hs : s.after (front ++ back)
  rw [hs] at hframes
  exact congrArg _ hframes

/-- The exit of a handler nested in another is lost. When the outer one, which entered on an empty
stack, has left, the stack is not empty, as it would be if the exit had not been lost: the outer
handler is still on it. It stays there, under all that comes later: whatever handlers nest after, at
any time the stack is the one that it would be with this frame under it. -/
theorem outermost_stays_after_loss {before later : List Call} (hbefore : Nested before)
    (hbody : Nested (front ++ .leave k :: back)) (hlater : Nested later) :
    let whole := before ++ .enter a :: ((front ++ .leave k :: back) ++ [.leave a.kind])
    let lost := before ++ .enter a :: ((front ++ back) ++ [.leave a.kind])
    empty.after whole = empty ∧ empty.after lost = ⟨[a]⟩ ∧
      ∀ soFar, soFar <+: later →
        (empty.after (lost ++ soFar)).frames = (empty.after (whole ++ soFar)).frames ++ [a] := by
  intro whole lost
  have hwhole : empty.after whole = empty := by
    rw [after_append, hbefore.after_eq, after_enter, after_append, hbody.after_eq]
    rfl
  have hlost : empty.after lost = ⟨[a]⟩ := by
    obtain ⟨c, hc⟩ := hbody.after_lost
    rw [after_append, hbefore.after_eq, after_enter, after_append, hc]
    rfl
  refine ⟨hwhole, hlost, ?_⟩
  rintro soFar ⟨rest, rfl⟩
  obtain ⟨opened, hopened, -⟩ := hlater.split rfl
  rw [after_append empty lost, after_append empty whole, hwhole, hlost, hopened, hopened,
    List.append_assoc]
  rfl

/-- A soft interrupt nested in an interrupt loses its exit. The interrupt lies under the timer that
comes next. -/
theorem outermost_stays_after_loss_of_softIrq :
    let irq : Context := ⟨.irq, 1, some 0, none⟩
    let softIrq : Context := ⟨.softIrq, 2, some SoftIrq.timer, none⟩
    let timer : Context := ⟨.hrTimer, 3, none, none⟩
    let lost : List Call := [.enter irq, .enter softIrq, .leave .irq]
    empty.after lost = ⟨[irq]⟩ ∧
      (empty.after (lost ++ [.enter timer])).frames = [timer, irq] ∧
      (empty.after (lost ++ [.enter timer, .leave .hrTimer])).peek = irq := by
  intro irq softIrq timer lost
  have hbody : Nested ([.enter softIrq] ++ .leave .softIrq :: []) := .handler softIrq .nil .nil
  have hlater : Nested [.enter timer, .leave .hrTimer] := .handler timer .nil .nil
  obtain ⟨-, hlost, hmore⟩ := outermost_stays_after_loss (a := irq) .nil hbody hlater
  refine ⟨hlost, hmore [.enter timer] ⟨[.leave .hrTimer], rfl⟩, ?_⟩
  exact congrArg (fun frames => (ContextStack.mk frames).peek) (hmore _ List.prefix_rfl)

/-- The outermost handler's exit does not put a lost exit right. -/
theorem not_all_losses_heal :
    ¬ ∀ (before front back : List Call) (a : Context) (k : ContextKind), Nested before →
      Nested (front ++ .leave k :: back) →
        empty.after (before ++ .enter a :: ((front ++ back) ++ [.leave a.kind])) =
          empty.after
            (before ++ .enter a :: ((front ++ .leave k :: back) ++ [.leave a.kind])) := by
  intro hall
  have hbody : Nested ([.enter ⟨.softIrq, 2, none, none⟩] ++ .leave .softIrq :: []) :=
    .handler _ .nil .nil
  exact absurd (hall [] _ [] ⟨.irq, 1, none, none⟩ _ .nil hbody) (by decide)

end ContextStack

end CausalPath
