/-!
# Steps one behind the other

A component that is asked one thing after the other goes through its states and gives an answer to
each. Two components whose steps agree give the same answers, whatever they are asked; this is how
one of them is shown to be an account of the other. What was done so far is a history, and something
that is done last stands behind all else in it.
-/

namespace KeyValueServer

variable {State Other Input Output : Type}

/-- Takes steps one behind the other: the answers of all, and the state behind the last. -/
def inTurn (step : State → Input → Output × State) (state : State) :
    List Input → List Output × State
  | [] => ([], state)
  | input :: inputs =>
    let (answer, next) := step state input
    let (answers, last) := inTurn step next inputs
    (answer :: answers, last)

/-- Where related states give the same answer at every step, and their next states are related,
they give the same answers in every run. -/
theorem inTurn_agree (step : State → Input → Output × State)
    (stepToo : Other → Input → Output × Other) (Related : State → Other → Prop)
    (agree : ∀ state other input, Related state other →
      (step state input).1 = (stepToo other input).1 ∧
        Related (step state input).2 (stepToo other input).2)
    (state : State) (other : Other) (related : Related state other) (inputs : List Input) :
    (inTurn step state inputs).1 = (inTurn stepToo other inputs).1 ∧
      Related (inTurn step state inputs).2 (inTurn stepToo other inputs).2 := by
  induction inputs generalizing state other with
  | nil => exact ⟨rfl, related⟩
  | cons input inputs inductionHypothesis =>
    obtain ⟨answer, next⟩ := agree state other input related
    obtain ⟨answers, last⟩ := inductionHypothesis _ _ next
    exact ⟨List.cons_eq_cons.mpr ⟨answer, answers⟩, last⟩

/-- Something in a history is what was done last, or stands in front of it. -/
theorem history_concat_iff {Event : Type} {history earlier later : List Event}
    {last event : Event} :
    history ++ [last] = earlier ++ event :: later ↔
      (later = [] ∧ history = earlier ∧ last = event) ∨
        ∃ shorter, later = shorter ++ [last] ∧ history = earlier ++ event :: shorter := by
  constructor
  · intro split
    obtain rfl | ⟨shorter, final, rfl⟩ := List.eq_nil_or_concat later
    · obtain ⟨same, ends⟩ := List.append_inj' split rfl
      exact .inl ⟨rfl, same, List.head_eq_of_cons_eq ends⟩
    · rw [List.concat_eq_append, ← List.cons_append, ← List.append_assoc] at split
      obtain ⟨same, ends⟩ := List.append_inj' split rfl
      obtain rfl := List.head_eq_of_cons_eq ends
      exact .inr ⟨shorter, List.concat_eq_append, same⟩
  · rintro (⟨rfl, rfl, rfl⟩ | ⟨shorter, rfl, rfl⟩)
    · rfl
    · rw [List.append_assoc, List.cons_append]

end KeyValueServer
