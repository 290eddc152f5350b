import Metacard.Proofs.Client.Failing
/-!
# Sessions

A session is a list of errands that a client runs one after the other. What is left of it is the
client and, for each call, what was asked of which client and what came of it.
-/

set_option autoImplicit false

namespace Metacard

variable {σ : Type}

def Failure.kindOf? {α : Type} : Except Failure α → Option String
  | .ok _ => none
  | .error failure => some failure.kind

@[simp]
theorem Failure.kindOf?_map {α β : Type} (f : α → β) (outcome : Except Failure α) :
    kindOf? (outcome.map f) = kindOf? outcome := by
  cases outcome <;> rfl

/-- A call that was made: the client is that before the call. -/
structure Made (σ : Type) where
  errand : Errand
  client : Client σ
  outcome : Except Failure Answer

/-- Runs errands one after the other, whether they succeed or fail. -/
def Errand.performAll (deployment : Deployment σ) :
    List Errand → Client σ → List (Made σ) × Client σ
  | [], client => ([], client)
  | errand :: rest, client =>
      let (outcome, next) := errand.perform deployment client
      let (made, last) := performAll deployment rest next
      (⟨errand, client, outcome⟩ :: made, last)

namespace Errand

theorem outcome_of_mem_performAll {deployment : Deployment σ} {errands : List Errand} :
    ∀ {client : Client σ}, ∀ call ∈ (performAll deployment errands client).1,
      call.outcome = (call.errand.perform deployment call.client).1 := by
  induction errands with
  | nil => exact fun _ member => nomatch member
  | cons errand rest inductionHypothesis =>
    intro client call member
    rcases List.mem_cons.1 member with rfl | member
    · rfl
    · exact inductionHypothesis call member

end Errand

end Metacard
