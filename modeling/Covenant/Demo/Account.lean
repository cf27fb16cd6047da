import Covenant.Contract.Active
import Covenant.Contract.Method
import Covenant.Object.Arithmetic
import Covenant.Object.Assignment
import Covenant.Snapshot

/-!
Bank accounts: preconditions on every operation, postconditions that tie the balance to the state
before it, a limit whose excess is an ordinary fault, and a batch operation that keeps what it had
done before it failed.

A transfer checks the invariant of the sender only. A batch is run error-tolerantly.
-/

namespace Covenant.Act

/-- The greatest amount of a withdrawal, a transfer or an element of a batch. -/
def dailyLimit : Int := 50000

/-- The greatest amount of a single deposit. -/
def depositLimit : Int := 1000000

/-- A field of an object, or else the attribute of that name. -/
def field (call : Caller) (v : Value) (name : String) : Act Value := do
  match v with
  | .ref r =>
    match ← load r with
    | .object _ fields | .snapshot fields =>
      match fields.get? name with
      | some x => return x
      | none => getAttribute call v name
    | _ => getAttribute call v name
  | _ => getAttribute call v name

/-- Adds to a field. -/
def addToField (call : Caller) (v : Value) (name : String) (amount : Value) : Act Unit := do
  setAttribute call v name (← arithmeticInPlace call .add (← field call v name) amount)

/-- Subtracts from a field. -/
def subtractFromField (call : Caller) (v : Value) (name : String) (amount : Value) :
    Act Unit := do
  setAttribute call v name (← arithmeticInPlace call .sub (← field call v name) amount)

/-- A validator that accepts what is greater than zero. -/
def newPositive : Act Value :=
  allocValue (.object (.known .positive) [])

namespace Account

/-- The signature of an operation of accounts. -/
def signature (name : String) (parameters : List String) : Signature :=
  .exactly ("BankAccount." ++ name) (("self" :: parameters).map Parameter.needed)

/-- The message about an amount above a limit. -/
def limitMessage (call : Caller) (amount limit : Value) : Act String := do
  let amount ← shown call amount
  return "Amount " ++ amount ++ " exceeds the daily limit of " ++ (← shown call limit)

/-- The quoted form of an account. -/
def text (call : Caller) (self : Value) : Act String := do
  let number ← shown call (← field call self "account_number")
  let balance ← shown call (← field call self "balance")
  let active ← shown call (← field call self "is_active")
  return "BankAccount(account_number=" ++ number ++ ", balance=" ++ balance ++ ", is_active=" ++
    active ++ ")"

/-- Raises the fault of an amount above a limit. -/
def failLimit (call : Caller) (amount limit : Value) : Act Unit := do
  let message ← limitMessage call amount limit
  raise (← alloc (.fault (.fresh (.known (.fault .dailyLimitExceeded)) [.text message]
    [("amount", amount), ("limit", limit)])))

/-- Refuses an amount above the daily limit. -/
def limitDaily (call : Caller) (amount : Value) : Act Unit := do
  if ← holds call .gt amount (.int dailyLimit) then failLimit call amount (.int dailyLimit)
  else pure ()

/-- Opens an account with a number. -/
def start (call : Caller) (self number : Value) : Act Unit := do
  assertValue call .pre number (← newPositive) "Account number must be positive"
  setAttribute call self "account_number" number
  setAttribute call self "balance" (.int 0)
  setAttribute call self "is_active" (.bool true)
  setAttribute call self "transaction_count" (.int 0)

/-- The invariant: the number is positive, the balance is not negative, and an account that is not
active is empty. -/
def invariant (call : Caller) (self : Value) : Act Value := do
  assertThat call .pre (← compare call .gt (← field call self "account_number") (.int 0))
    "Account number must be positive"
  assertThat call .pre (← compare call .ge (← field call self "balance") (.int 0))
    "Balance must not be negative"
  let active ← field call self "is_active"
  let sound ←
    if ← truth call active then pure active
    else do compare call .eq (← field call self "balance") (.int 0)
  assertContext call .pre sound "self.is_active or self.balance == 0"
  return .null

/-- The snapshot of balance and number of transactions. -/
def stateSnapshot (call : Caller) (self : Value) : Act Value := do
  let balance ← field call self "balance"
  newSnapshot [("balance", balance), ("tx_count", ← field call self "transaction_count")]

/-- The body of a deposit. -/
def depositBody (call : Caller) (self old amount : Value) : Act Value := do
  assertThat call .pre (← field call self "is_active") "Account must be active for deposits"
  assertValue call .pre amount (← newPositive) "Deposit amount must be positive"
  assertContext call .pre (← compare call .le amount (.int depositLimit)) "amount <= DEPOSIT_LIMIT"
  addToField call self "balance" amount
  addToField call self "transaction_count" (.int 1)
  let balance ← field call self "balance"
  assertThat call .post
    (← compare call .eq balance (← arithmetic call .add (← field call old "balance") amount))
    "Balance calculation error"
  let count ← field call self "transaction_count"
  assertContext call .post
    (← compare call .eq count (← arithmetic call .add (← field call old "tx_count") (.int 1)))
    "self.transaction_count == old.tx_count + 1"
  return .null

/-- Deposits an amount. -/
def deposit (call : Caller) (self : Value) (args : List Value) (named : Fields) : Act Value := do
  let take : Function := fun args named => do
    let a ← matched (.exactly "BankAccount.<lambda>" [.needed "self", .needed "amount"]) args named
    stateSnapshot call (a.value 0)
  let method : Function := fun args named => do
    let a ← matched (signature "deposit" ["old", "amount"]) args named
    depositBody call (a.value 0) (a.value 1) (a.value 2)
  callMethod call (← read Machine.active) method (some take) (.member (.mode .strict)) self args
    named

/-- The body of a withdrawal. -/
def withdrawBody (call : Caller) (amount old self : Value) : Act Value := do
  assertThat call .pre (← field call self "is_active") "Cannot withdraw from inactive account"
  assertValue call .pre amount (← newPositive) "Withdrawal amount must be positive"
  let covered ← compare call .le amount (← field call self "balance")
  assertFormatted call .pre covered "Insufficient funds: requested \x7b\x7d, available \x7b\x7d"
    [amount, ← field call self "balance"]
  limitDaily call amount
  subtractFromField call self "balance" amount
  addToField call self "transaction_count" (.int 1)
  let balance ← field call self "balance"
  let same ← compare call .eq balance (← arithmetic call .sub (← field call old "balance") amount)
  let expected ← arithmetic call .sub (← field call old "balance") amount
  assertFormatted call .post same
    "Withdrawal calculation error: expected \x7b\x7d, got \x7b\x7d"
    [expected, ← field call self "balance"]
  return .null

/-- Withdraws an amount. -/
def withdraw (call : Caller) (self amount : Value) : Act Value := do
  let old ← stateSnapshot call self
  let _ ← runActive call self old (withdrawBody call amount)
  return .null

/-- The body of a transfer. -/
def transferBody (call : Caller) (recipient amount old self : Value) : Act Value := do
  assertThat call .pre (← field call self "is_active") "Sender account must be active"
  assertThat call .pre (← field call recipient "is_active") "Recipient account must be active"
  assertThat call .pre (.bool (!self.same recipient)) "Cannot transfer to the same account"
  assertValue call .pre amount (← newPositive) "Transfer amount must be positive"
  let covered ← compare call .ge (← field call self "balance") amount
  assertFormatted call .pre covered
    "Insufficient funds for transfer: need \x7b\x7d, have \x7b\x7d"
    [amount, ← field call self "balance"]
  limitDaily call amount
  subtractFromField call self "balance" amount
  addToField call self "transaction_count" (.int 1)
  addToField call recipient "balance" amount
  addToField call recipient "transaction_count" (.int 1)
  let total : Act Value := do
    arithmetic call .add (← field call self "balance") (← field call recipient "balance")
  let before : Act Value := do
    arithmetic call .add (← field call old "from_balance") (← field call old "to_balance")
  let now ← total
  let same ← compare call .eq now (← before)
  let earlier ← before
  assertFormatted call .post same
    "Balance conservation failed: before=\x7b\x7d, after=\x7b\x7d" [earlier, ← total]
  assertThat call .post (← compare call .ge (← field call recipient "balance") (.int 0))
    "Recipient balance must not be negative"
  return .null

/-- Transfers an amount to another account. -/
def transfer (call : Caller) (self recipient amount : Value) : Act Value := do
  let sender ← field call self "balance"
  let old ← newSnapshot [("from_balance", sender), ("to_balance", ← field call recipient "balance")]
  let _ ← runActive call self old (transferBody call recipient amount)
  return .null

/-- The body of closing. -/
def closeBody (call : Caller) (self : Value) : Act Value := do
  let empty ← compare call .eq (← field call self "balance") (.int 0)
  assertContext call .pre empty "self.balance == 0"
  setAttribute call self "is_active" (.bool false)
  assertContext call .post (.bool (!(← truth call (← field call self "is_active"))))
    "not self.is_active"
  return .null

/-- Closes an account, which has to be empty. -/
def close (call : Caller) (self : Value) (args : List Value) (named : Fields) : Act Value := do
  let method : Function := fun args named => do
    let a ← matched (signature "close" ["old"]) args named
    closeBody call (a.value 0)
  callMethod call (← read Machine.active) method none (.member (.mode .strict)) self args named

/-- Deposits one element of a batch; gives the sum of those applied so far. -/
def applyOne (call : Caller) (self applied amount : Value) : Act Value := do
  assertValue call .pre amount (← newPositive) "Deposit amount must be positive"
  limitDaily call amount
  addToField call self "balance" amount
  addToField call self "transaction_count" (.int 1)
  arithmeticInPlace call .add applied amount

/-- Deposits the elements of a batch one after the other, up to the first bad one; gives the sum of
those applied. -/
def applyBatch (call : Caller) (self : Value) : (applied : Value) → List Value → Act Value
  | applied, [] => return applied
  | applied, amount :: rest => do
    let applied ← applyOne call self applied amount
    applyBatch call self applied rest

/-- Deposits the items of a value one after the other. Those of an object are asked for one by
one. -/
def applyItems (call : Caller) (self amounts : Value) : Act Value := do
  match ← presentItems? amounts with
  | some present => applyBatch call self (.int 0) present
  | none =>
    through call amounts (.int 0) fun applied amount => do
      return .more (← applyOne call self applied amount)

/-- The body of a batch. -/
def batchBody (call : Caller) (self old amounts : Value) : Act Value := do
  assertThat call .pre (← field call self "is_active") "Account must be active for deposits"
  let applied ← applyItems call self amounts
  let balance ← field call self "balance"
  assertThat call .post
    (← compare call .eq balance (← arithmetic call .add (← field call old "balance") applied))
    "Batch total mismatch"
  return applied

/-- Deposits a batch. -/
def depositBatch (call : Caller) (self : Value) (args : List Value) (named : Fields) :
    Act Value := do
  let take : Function := fun args named => do
    let a ← matched (.exactly "BankAccount.<lambda>" [.needed "self", .needed "amounts"]) args named
    newSnapshot [("balance", ← field call (a.value 0) "balance")]
  let method : Function := fun args named => do
    let a ← matched (signature "deposit_batch" ["old", "amounts"]) args named
    batchBody call (a.value 0) (a.value 1) (a.value 2)
  callMethod call (← read Machine.active) method (some take) (.member (.mode .errorTolerant)) self
    args named

end Account

end Covenant.Act
