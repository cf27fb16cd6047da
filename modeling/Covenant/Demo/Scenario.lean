import Covenant.Demo.Queue

/-!
Scripted runs of the two demos. Each gives the lines that it reports.
-/

namespace Covenant.Act

/-- A new object of an initial class, started by `start`. -/
def make (k : Known) (start : Value → Act Unit) : Act Value := do
  let self ← allocValue (.object (.known k) [])
  start self
  return self

/-- The first line of a report: what is run, and whether contracts are in force. -/
def headline (title : String) : Act String := do
  return title ++ " (contracts active: " ++
    truthText ((← read Machine.active) == .checked) ++ ")"

/-- The queue scenario. -/
def queueDemo (call : Caller) : Act (List String) := do
  let title ← headline "Bounded queue"
  let q ← make .queue fun self => Queue.start call self (.int 3)
  let _ ← Queue.enqueue call q (.int 10)
  let _ ← Queue.enqueue call q (.int 20)
  let first ← shown call (← Queue.dequeue call q)
  let second ← shown call (← Queue.dequeue call q)
  let left ← length call q
  return [title, "Dequeued: " ++ first, "Dequeued: " ++ second, "Remaining: " ++ toString left]

/-- The balance of an account as it is shown. -/
def shownBalance (call : Caller) (account : Value) : Act String := do
  shown call (← field call account "balance")

/-- Runs a batch that goes over the limit; the line that says where it stopped, if it did. -/
def stoppedBatch (call : Caller) (account : Value) (amounts : List Int) :
    Act (List String) := do
  let batch ← allocValue (.list (amounts.map .int))
  match ← attempt (Account.depositBatch call account [batch] []) with
  | .ok _ => return []
  | .error e =>
    if (← faultClassOf e).isA .dailyLimitExceeded then
      return ["Batch stopped: " ++ (← shown call (.ref e))]
    else rethrow e

/-- The bank scenario. -/
def bankDemo (call : Caller) : Act (List String) := do
  let title ← headline "Banking system"
  let first ← make .account fun self => Account.start call self (.int 12345)
  let second ← make .account fun self => Account.start call self (.int 67890)
  let _ ← Account.deposit call first [.int 1000] []
  let _ ← Account.deposit call second [.int 500] []
  let opened ← shownBalance call first
  let openedOther ← shownBalance call second
  let _ ← Account.transfer call first second (.int 250)
  let moved ← shownBalance call first
  let movedOther ← shownBalance call second
  let _ ← Account.withdraw call first (.int 100)
  let left ← shownBalance call first
  let stopped ← stoppedBatch call second [100, 200, 75000, 300]
  let kept ← shownBalance call second
  return [title, "Account 1 balance: " ++ opened, "Account 2 balance: " ++ openedOther,
      "After transfer - Account 1: " ++ moved ++ ", Account 2: " ++ movedOther,
      "After withdrawal - Account 1: " ++ left] ++ stopped ++
    ["After partial batch - Account 2: " ++ kept]

end Covenant.Act
