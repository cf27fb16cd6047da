import Covenant.Proofs.Demo.Bank.Deal
import Covenant.Proofs.Session.Launch

/-!
# Banks are safe

In a process that checks, every account of a bank satisfies the invariant after every deal, and no
deal ends with the violation of an invariant or of a postcondition (`bank_stays_sound`). It does not
matter that the invariant of the recipient of a transfer is never checked, nor that a batch that
stops midway leaves without an exit check: the preconditions are enough.
-/

namespace Covenant

namespace Bank

open Act

variable {m : Machine}

/-- After any number of deals every account of a bank is sound, and the next deal ends with a result
or with a fault that is neither the violation of an invariant nor that of a postcondition. -/
theorem bank_stays_sound (ready : m.Ready .checked) (deals : List Deal) :
    (∀ r ∈ ((Bank.mk m []).afterAll deals).accounts,
      ∃ h : Holding, h.At ((Bank.mk m []).afterAll deals).machine r ∧ h.Sound) ∧
    ∀ next : Deal, EndsWell (((Bank.mk m []).afterAll deals).perform next
      ((Bank.mk m []).afterAll deals).machine) := by
  have orderly := (orderly_empty ready).afterAll deals
  constructor
  · intro r mem
    exact ⟨_, orderly.held r mem, orderly.sound rfl r mem⟩
  · intro next
    exact (orderly.deal next).ended

/-- After a transfer between two accounts and a batch that stops at its second amount, a transfer
of an account to itself ends well. -/
theorem bank_stays_sound_two :
    EndsWell (((Bank.mk Session.Launch.usualMachine []).afterAll
        [.opening 1, .opening 2, .deposit 0 100, .transfer 0 1 30,
          .depositBatch 1 [5, 60000]]).perform (.transfer 1 1 20)
      ((Bank.mk Session.Launch.usualMachine []).afterAll
        [.opening 1, .opening 2, .deposit 0 100, .transfer 0 1 30,
          .depositBatch 1 [5, 60000]]).machine) :=
  (bank_stays_sound Session.Launch.ready_usual
    [.opening 1, .opening 2, .deposit 0 100, .transfer 0 1 30, .depositBatch 1 [5, 60000]]).2
    (.transfer 1 1 20)

end Bank

end Covenant
