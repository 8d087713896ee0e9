import Overseer.Proofs.Program.Parting
import Overseer.Proofs.Session.Closing

set_option autoImplicit false

namespace Overseer.Session

variable {σ : Type}

-- The flag stands beside the collaborators and is raised by the number of calls of some kind so far, so a
-- request at the n-th call of the kind is seen by every look from then on, and for n = 0 by every look.
def heed (answer : (c : Call) → σ → Answer c × σ) (kind : Call → Bool) (raised : Nat → Bool) :
    (c : Call) → σ × Nat → Answer c × (σ × Nat)
  | .stopRequested, x => (raised x.2, x.1, x.2 + (kind .stopRequested).toNat)
  | c, x => ((answer c x.1).1, (answer c x.1).2, x.2 + (kind c).toNat)

def isFailure : Exchange → Bool
  | ⟨.attempt, .ok .failure⟩ => true
  | _ => false

def failureCount (h : History) : Nat := h.countP isFailure

theorem failure_count_append (a b : History) : failureCount (a ++ b) = failureCount a + failureCount b :=
  List.countP_append

theorem failure_count_failing (s : Session) (a b : Phase) :
    failureCount (failing s ++ recorded s.failed ++ [moved s.id a b]) = 1 := rfl

end Overseer.Session
