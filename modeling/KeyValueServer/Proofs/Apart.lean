import KeyValueServer.Proofs.InTurn

/-!
# Operations that do not notice each other

An operation reads a state, answers and leaves another state. Two operations are apart if the
answer of neither depends on whether the other was done before, and both orders lead to the same
state. What is built from operations that are apart from a third one is apart from it.

A machine serves several clients by turns. If what one asks is apart from what the others ask, its
answers are those that it would have had alone.
-/

namespace KeyValueServer

variable {State First Second Third Answer Client Input Output : Type}

/-- Each of two operations answers the same before and behind the other, and the order in which
they are done is not seen in the state. -/
structure Apart (first : State → First × State) (second : State → Second × State) : Prop where
  answer : ∀ state, (first (second state).2).1 = (first state).1
  answerToo : ∀ state, (second (first state).2).1 = (second state).1
  after : ∀ state, (second (first state).2).2 = (first (second state).2).2

namespace Apart

variable {first : State → First × State} {second : State → Second × State}
  {third : State → Third × State}

/-- It does not matter which operation is named first. -/
theorem symm (apart : Apart first second) : Apart second first :=
  ⟨apart.answerToo, apart.answer, fun state => (apart.after state).symm⟩

/-- An answer can be put in other words. -/
theorem map (apart : Apart first second) (say : First → Answer) :
    Apart (fun state => (say (first state).1, (first state).2)) second :=
  ⟨fun state => congrArg say (apart.answer state), apart.answerToo, apart.after⟩

/-- An operation that does nothing to the state and always answers the same is apart from all. -/
theorem constant (answer : First) : Apart (fun state : State => (answer, state)) second :=
  ⟨fun _ => rfl, fun _ => rfl, fun _ => rfl⟩

/-- Two operations that are apart from a third one are apart from it when one is done behind the
other and their answers are combined. -/
theorem andThen (apart : Apart first third) (apartToo : Apart second third)
    (combine : First → Second → Answer) :
    Apart (fun state => (combine (first state).1 (second (first state).2).1,
      (second (first state).2).2)) third where
  answer state := by
    dsimp only
    rw [apart.answer, ← apart.after, apartToo.answer]
  answerToo state := (apartToo.answerToo _).trans (apart.answerToo state)
  after state := by
    dsimp only
    rw [apartToo.after, apart.after]

end Apart

variable {step : State → Input → Output × State}

/-- A step that is apart from all others is not noticed in their answers if it is taken first. -/
theorem inTurn_apart {early : Input} {inputs : List Input}
    (apart : ∀ input ∈ inputs, Apart (step · early) (step · input)) (state : State) :
    (inTurn step (step state early).2 inputs).1 = (inTurn step state inputs).1 := by
  induction inputs generalizing state with
  | nil => rfl
  | cons input inputs inductionHypothesis =>
    obtain ⟨_, answer, after⟩ := apart input List.mem_cons_self
    have others := inductionHypothesis
      (fun other isOther => apart other (List.mem_cons_of_mem input isOther)) (step state input).2
    simp only [inTurn]
    rw [answer, after, others]

variable [DecidableEq Client] (client : Client)

/-- What a client asks in the course of a schedule. -/
def inputsOf (schedule : List (Client × Input)) : List Input :=
  (schedule.filter fun turn => turn.1 = client).map Prod.snd

/-- What a client is told in the course of a schedule, if these are the answers to all. -/
def answersTo (schedule : List (Client × Input)) (answers : List Output) : List Output :=
  ((schedule.zip answers).filter fun turn => turn.1.1 = client).map Prod.snd

/-- If the steps of different clients are apart, each client is told what it is told alone. -/
theorem answersTo_inTurn (schedule : List (Client × Input))
    (apart : ∀ turn ∈ schedule, ∀ other ∈ schedule, turn.1 ≠ other.1 →
      Apart (step · turn.2) (step · other.2)) (state : State) :
    answersTo client schedule (inTurn step state (schedule.map Prod.snd)).1 =
      (inTurn step state (inputsOf client schedule)).1 := by
  induction schedule generalizing state with
  | nil => rfl
  | cons turn schedule inductionHypothesis =>
    have others := inductionHypothesis (fun other isOther another isAnother =>
      apart other (List.mem_cons_of_mem turn isOther) another
        (List.mem_cons_of_mem turn isAnother)) (step state turn.2).2
    simp only [answersTo, inputsOf] at others ⊢
    by_cases own : turn.1 = client
    · simp [own, inTurn, others]
    · -- The turn belongs to somebody else, so all that the client asks is apart from it.
      have unnoticed : ∀ input ∈ (schedule.filter fun turn => turn.1 = client).map Prod.snd,
          Apart (step · turn.2) (step · input) := by
        intro input asked
        obtain ⟨other, isOther, rfl⟩ := List.mem_map.mp asked
        obtain ⟨isTurn, asks⟩ := List.mem_filter.mp isOther
        refine apart turn List.mem_cons_self other (List.mem_cons_of_mem turn isTurn) ?_
        rw [of_decide_eq_true asks]
        exact own
      rw [inTurn_apart unnoticed state] at others
      simp [own, inTurn, others]

end KeyValueServer
