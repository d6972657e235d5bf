import Mathlib.Data.List.Induction
import KeyValueServer.Proofs.InTurn
import KeyValueServer.ShutdownSignal

/-!
# Wakes are neither lost nor invented

A loop has to be woken at one moment: when the signal is raised and the loop is registered,
whichever of the two comes last. A look at the events takes a wake away, so the answer to a look is
about what was done since the look before.

What a signal holds is an account of what was done with it, whatever the order. So the answer to a
look is decided by the history alone, and the wake that a loop has to get is there until it looks.
-/

namespace KeyValueServer.ShutdownSignal

/-- What is done with a signal. -/
inductive Call where
  | register (loop : Nat)
  | trigger
  | poll (loop : Nat)
  deriving DecidableEq, Repr

/-- What a call changes. -/
def perform (signal : ShutdownSignal) : Call → ShutdownSignal
  | .register loop => signal.register loop
  | .trigger => signal.trigger.2
  | .poll loop => (signal.poll loop).2

/-- The signal after the calls, in order. -/
def after (calls : List Call) : ShutdownSignal := calls.foldl perform initial

/-- Whether a call wakes a loop, where `earlier` was done before it: the signal is raised for the
first time and the loop is registered already, or the loop registers with a signal that was raised
already. -/
def Wakes (loop : Nat) (earlier : List Call) (call : Call) : Prop :=
  (call = .trigger ∧ .trigger ∉ earlier ∧ .register loop ∈ earlier) ∨
    (call = .register loop ∧ .trigger ∈ earlier)

/-- Whether a loop was woken and has not looked since. -/
def HasWake (loop : Nat) (calls : List Call) : Prop :=
  ∃ earlier call later,
    calls = earlier ++ call :: later ∧ Wakes loop earlier call ∧ .poll loop ∉ later

variable {signal : ShutdownSignal} {loop : Nat} {calls : List Call} {call : Call}

/-- One more call is done after the others. -/
theorem after_concat (calls : List Call) (call : Call) :
    after (calls ++ [call]) = (after calls).perform call := by
  rw [after, List.foldl_append]
  rfl

/-- A loop is not woken before anything was done. -/
theorem not_hasWake_nil (loop : Nat) : ¬ HasWake loop [] := by
  rintro ⟨earlier, call, later, split, _⟩
  exact List.append_ne_nil_of_right_ne_nil earlier (List.cons_ne_nil call later) split.symm

/-- After one more call a loop has a wake if this call woke it, or if it had one and the call is no
look of its own. -/
theorem hasWake_concat :
    HasWake loop (calls ++ [call]) ↔
      Wakes loop calls call ∨ (HasWake loop calls ∧ call ≠ .poll loop) := by
  constructor
  · rintro ⟨earlier, waking, later, split, wakes, unseen⟩
    obtain ⟨rfl, rfl, rfl⟩ | ⟨shorter, rfl, rfl⟩ := history_concat_iff.mp split
    · exact .inl wakes
    · rw [List.mem_append, not_or, List.mem_singleton] at unseen
      exact .inr ⟨⟨earlier, waking, shorter, rfl, wakes, unseen.1⟩, fun look => unseen.2 look.symm⟩
  · rintro (wakes | ⟨⟨earlier, waking, later, rfl, wakes, unseen⟩, noLook⟩)
    · exact ⟨calls, call, [], rfl, wakes, List.not_mem_nil⟩
    · refine ⟨earlier, waking, later ++ [call], history_concat_iff.mpr (.inr ⟨later, rfl, rfl⟩),
        wakes, ?_⟩
      · rw [List.mem_append, not_or, List.mem_singleton]
        exact ⟨unseen, fun look => noLook look.symm⟩

/-- Whoever is in the list or among those that are woken is woken afterwards. -/
theorem mem_foldl_wake (loops woken : List Nat) :
    loop ∈ loops.foldl wake woken ↔ loop ∈ loops ∨ loop ∈ woken := by
  induction loops generalizing woken with
  | nil => simp
  | cons first loops inductionHypothesis =>
    rw [List.foldl_cons, inductionHypothesis, wake, List.mem_insert_iff, List.mem_cons]
    tauto

/-- What a signal holds after the calls: whether it was raised, who registered, and who has a
wake. -/
structure Recalls (signal : ShutdownSignal) (calls : List Call) : Prop where
  raised : signal.triggered = true ↔ .trigger ∈ calls
  registered : ∀ loop, loop ∈ signal.registered ↔ .register loop ∈ calls
  woken : ∀ loop, loop ∈ signal.woken ↔ HasWake loop calls

/-- A signal holds nothing before anything was done. -/
theorem recalls_initial : Recalls initial [] where
  raised := by simp [initial]
  registered loop := by simp [initial]
  woken loop := by simp [initial, not_hasWake_nil]

namespace Recalls

/-- A loop that registers is registered, and has a wake if the signal was raised. -/
theorem register (recalls : Recalls signal calls) (loop : Nat) :
    Recalls (signal.register loop) (calls ++ [.register loop]) where
  raised := by simp [ShutdownSignal.register, recalls.raised]
  registered other := by
    simp [ShutdownSignal.register, recalls.registered, or_comm]
  woken other := by
    have raised := recalls.raised
    have woken := recalls.woken other
    rw [hasWake_concat, ← woken]
    simp only [ShutdownSignal.register, Wakes, wake]
    cases up : signal.triggered with
    | false =>
      have unraised : .trigger ∉ calls := by simpa [up] using raised
      simp [unraised]
    | true =>
      have before : .trigger ∈ calls := raised.mp up
      simp [before, List.mem_insert_iff, eq_comm]

/-- A signal that is raised for the first time wakes all that are registered. -/
theorem trigger (recalls : Recalls signal calls) :
    Recalls signal.trigger.2 (calls ++ [.trigger]) := by
  have raised := recalls.raised
  cases up : signal.triggered with
  | true =>
    have before : .trigger ∈ calls := raised.mp up
    have same : signal.trigger.2 = signal := by simp [ShutdownSignal.trigger, up]
    rw [same]
    constructor
    · simp [up]
    · intro loop
      simp [recalls.registered]
    · intro loop
      simp [hasWake_concat, Wakes, before, recalls.woken]
  | false =>
    have unraised : .trigger ∉ calls := by simpa [up] using raised
    constructor
    · simp [ShutdownSignal.trigger, up]
    · intro loop
      simp [ShutdownSignal.trigger, up, recalls.registered]
    · intro loop
      simp [ShutdownSignal.trigger, up, mem_foldl_wake, hasWake_concat, Wakes, unraised,
        recalls.registered, recalls.woken]

/-- A look takes the wake of its own loop away. -/
theorem poll (recalls : Recalls signal calls) (loop : Nat) :
    Recalls (signal.poll loop).2 (calls ++ [.poll loop]) where
  raised := by simp [ShutdownSignal.poll, recalls.raised]
  registered other := by simp [ShutdownSignal.poll, recalls.registered]
  woken other := by
    rw [hasWake_concat, ← recalls.woken]
    have apart : Call.poll loop ≠ .poll other ↔ other ≠ loop := by simp [eq_comm]
    simp [ShutdownSignal.poll, Wakes, apart]

/-- Every call is recalled. -/
theorem perform (recalls : Recalls signal calls) (call : Call) :
    Recalls (signal.perform call) (calls ++ [call]) := by
  cases call with
  | register loop => exact recalls.register loop
  | trigger => exact recalls.trigger
  | poll loop => exact recalls.poll loop

end Recalls

/-- A signal is an account of all that was done with it. -/
theorem recalls_after (calls : List Call) : Recalls (after calls) calls := by
  induction calls using List.reverseRecOn with
  | nil => exact recalls_initial
  | append_singleton calls call inductionHypothesis =>
    rw [after_concat]
    exact inductionHypothesis.perform call

/-- A look answers whether the loop has a wake. -/
theorem poll_after_iff : ((after calls).poll loop).1 = true ↔ HasWake loop calls := by
  rw [← (recalls_after calls).woken loop]
  exact List.contains_iff_mem

/-- Raising the signal answers whether it was not raised before. -/
theorem trigger_after_iff : (after calls).trigger.1 = true ↔ .trigger ∉ calls := by
  rw [← (recalls_after calls).raised]
  cases up : (after calls).triggered <;> simp [ShutdownSignal.trigger, up]

/-- A loop that is registered with a signal that was raised has a wake, or had one when it
looked. -/
theorem hasWake_or_had (registered : .register loop ∈ calls) (raised : .trigger ∈ calls) :
    HasWake loop calls ∨
      ∃ earlier later, calls = earlier ++ .poll loop :: later ∧ HasWake loop earlier := by
  induction calls using List.reverseRecOn with
  | nil => exact absurd raised List.not_mem_nil
  | append_singleton calls call inductionHypothesis =>
    rw [List.mem_append, List.mem_singleton] at registered raised
    by_cases before : .register loop ∈ calls ∧ .trigger ∈ calls
    · obtain has | ⟨earlier, later, rfl, had⟩ := inductionHypothesis before.1 before.2
      · by_cases look : call = .poll loop
        · subst look
          exact .inr ⟨calls, [], rfl, has⟩
        · exact .inl (hasWake_concat.mpr (.inr ⟨has, look⟩))
      · exact .inr ⟨earlier, later ++ [call], history_concat_iff.mpr (.inr ⟨later, rfl, rfl⟩), had⟩
    · -- The call is the later one of the two, so it is the one that wakes the loop.
      refine .inl (hasWake_concat.mpr (.inl ?_))
      obtain registered | rfl := registered
      · have unraised : .trigger ∉ calls := fun member => before ⟨registered, member⟩
        obtain rfl := raised.resolve_left unraised |>.symm
        exact .inl ⟨rfl, unraised, registered⟩
      · exact .inr ⟨rfl, raised.resolve_right nofun⟩

/-- Whatever is done with a signal in whatever order, it is raised by the first call that raises it
and stays so, which this call alone is told. A look is answered with a wake exactly when the loop
was woken since its look before. So no loop is woken before the signal is raised, and a loop that is
registered with a signal that was raised finds its wake at the next look, unless it has found one
already. -/
theorem no_wake_is_lost (calls : List Call) :
    ((after calls).triggered = true ↔ .trigger ∈ calls) ∧
      ((after calls).trigger.1 = true ↔ .trigger ∉ calls) ∧
      (∀ loop, ((after calls).poll loop).1 = true ↔ HasWake loop calls) ∧
      (∀ loop, ((after calls).poll loop).1 = true → .trigger ∈ calls) ∧
      ∀ loop, .register loop ∈ calls → .trigger ∈ calls →
        (∀ earlier later, calls = earlier ++ .poll loop :: later →
          ((after earlier).poll loop).1 = false) →
        ((after calls).poll loop).1 = true := by
  refine ⟨(recalls_after calls).raised, trigger_after_iff, fun loop => poll_after_iff, ?_, ?_⟩
  · intro loop woken
    obtain ⟨earlier, call, later, rfl, wakes, _⟩ := poll_after_iff.mp woken
    obtain ⟨rfl, _⟩ | ⟨_, raised⟩ := wakes
    · exact List.mem_append_right _ List.mem_cons_self
    · exact List.mem_append_left _ raised
  · intro loop registered raised unseen
    obtain has | ⟨earlier, later, split, had⟩ := hasWake_or_had registered raised
    · exact poll_after_iff.mpr has
    · have seen := poll_after_iff.mpr had
      rw [unseen earlier later split] at seen
      cases seen

/-- A loop that looks between its registration and the signal finds its wake behind the signal, and
one that looks between the signal and its registrations finds it behind these, one wake for both. -/
theorem both_orders_wake :
    ((after [.register 0, .poll 0, .trigger, .poll 1, .register 1, .register 1]).poll 0).1 = true ∧
      ((after [.register 0, .poll 0, .trigger, .poll 1, .register 1, .register 1]).poll 1).1 =
        true ∧
      ((after [.register 0, .poll 0, .trigger, .poll 1, .register 1, .register 1,
        .poll 1]).poll 1).1 = false := by
  obtain ⟨_, _, _, _, finds⟩ :=
    no_wake_is_lost [.register 0, .poll 0, .trigger, .poll 1, .register 1, .register 1]
  refine ⟨finds 0 (by decide) (by decide) ?_, finds 1 (by decide) (by decide) ?_, by decide⟩
  · intro earlier later split
    obtain ⟨rfl, _⟩ : earlier = [.register 0] ∧
        later = [.trigger, .poll 1, .register 1, .register 1] := by
      simpa [List.cons_eq_append_iff] using split
    decide
  · intro earlier later split
    obtain ⟨rfl, _⟩ : earlier = [.register 0, .poll 0, .trigger] ∧
        later = [.register 1, .register 1] := by
      simpa [List.cons_eq_append_iff] using split
    decide

end KeyValueServer.ShutdownSignal
