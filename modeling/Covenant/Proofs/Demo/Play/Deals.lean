import Covenant.Proofs.Demo.Play.Scene

/-!
# Deals are played

Every deal with the accounts of a scene is played as on the stage (`Shows.deal`). The operations of
one account share an argument: the account is found at its position on the scene exactly if it is on
the stage, and what the operation comes to on what it holds is what is set at that position
(`Shows.operate`). A transfer may go from an account to itself, which on the stage pays and then
receives at one position. A batch is what it came to before it stopped.
-/

namespace Covenant

namespace Bank

open Act

variable {p : Profile} {b : Bank} {n : Machine} {i j : Nat} {r s : Ref} {h : Holding}

/-- Accounts at two positions are two accounts. -/
theorem Orderly.position_eq (orderly : b.Orderly p) (at_i : b.accounts[i]? = some r)
    (at_j : b.accounts[j]? = some r) : i = j := by
  obtain ⟨lt, -⟩ := List.getElem?_eq_some_iff.1 at_i
  exact (List.getElem?_inj lt orderly.apart).1 (at_i.trans at_j.symm)

/-- Where one account has been written to, what the accounts hold has changed at its position. -/
theorem Orderly.map_holding_set (orderly : b.Orderly p) (at_i : b.accounts[i]? = some r)
    (grew : b.machine.Grows [r] n) (here : h.At n r) :
    b.accounts.map n.holding = (b.accounts.map b.machine.holding).set i h := by
  refine List.ext_getElem? fun j => ?_
  obtain ⟨lt, -⟩ := List.getElem?_eq_some_iff.1 at_i
  rw [List.getElem?_map, List.getElem?_set, List.length_map, if_pos lt, List.getElem?_map]
  by_cases same : i = j
  · subst same
    rw [if_pos rfl, at_i]
    exact congrArg some here.holding
  rw [if_neg same]
  cases at_j : b.accounts[j]? with
  | none => rfl
  | some t =>
    have other : t ∉ [r] := by
      intro mem
      rw [List.mem_singleton.1 mem] at at_j
      exact same (orderly.position_eq at_i at_j)
    have held := orderly.held t (List.mem_of_getElem? at_j)
    exact congrArg some (held.grows grew other).holding

/-- After a transfer, what the accounts hold has changed at the positions of the two sides, which
may be one. -/
theorem Orderly.map_holding_moved {a : Int} (orderly : b.Orderly p)
    (at_i : b.accounts[i]? = some r) (at_j : b.accounts[j]? = some s)
    (grew : b.machine.Grows [r, s] n)
    (moved : Moved (b.machine.holding r) (b.machine.holding s) a r s n) :
    b.accounts.map n.holding =
      ((b.accounts.map b.machine.holding).modify i (·.pay a)).modify j (·.receive a) := by
  refine List.ext_getElem? fun k => ?_
  rw [List.getElem?_map, List.getElem?_modify, List.getElem?_modify, List.getElem?_map]
  cases at_k : b.accounts[k]? with
  | none => rfl
  | some t =>
    refine congrArg some ?_
    unfold Moved at moved
    by_cases mine : i = k
    · subst mine
      obtain rfl := Option.some.inj (at_i.symm.trans at_k)
      by_cases yours : j = i
      · subst yours
        obtain rfl := Option.some.inj (at_i.symm.trans at_j)
        rw [if_pos rfl] at moved
        simp only [if_true]
        exact moved.holding
      · have apart : r ≠ s := fun same => yours (orderly.position_eq (same ▸ at_j) at_i)
        rw [if_neg apart] at moved
        simp only [yours, if_true, if_false]
        exact moved.1.holding
    · by_cases yours : j = k
      · subst yours
        obtain rfl := Option.some.inj (at_j.symm.trans at_k)
        have apart : r ≠ s := fun same => mine (orderly.position_eq at_i (same ▸ at_j))
        rw [if_neg apart] at moved
        simp only [mine, if_true, if_false]
        exact moved.2.holding
      · have other : t ∉ [r, s] := by
          intro mem
          simp only [List.mem_cons, List.not_mem_nil, or_false] at mem
          rcases mem with rfl | rfl
          · exact mine (orderly.position_eq at_i at_k)
          · exact yours (orderly.position_eq at_j at_k)
        simp only [mine, yours, if_false]
        exact ((orderly.held t (List.mem_of_getElem? at_k)).grows grew other).holding

end Bank

namespace Scene

open Act

variable {p : Profile} {s : Scene} {st : Stage} {d : Deal} {i : Nat}

/-- A deal that changes nothing where it fails is a move that does so. -/
theorem play_deal {calculation : Except Fault (List Holding × Item)}
    (settles : d.settle p st.accounts = caught st.accounts calculation) :
    st.play p (.deal d) = caught st (calculation >>= fun r =>
      .ok ({ st with accounts := r.1 }, r.2)) := by
  unfold Stage.play
  simp only [settles]
  cases calculation <;> rfl

/-- What a batch of an account on the stage comes to, be it done or stopped. -/
theorem play_depositBatch {h : Holding} (at_i : st.accounts[i]? = some h) (amounts : List Int) :
    st.play p (.deal (.depositBatch i amounts)) =
      ({ st with accounts := st.accounts.set i (h.batch p amounts).1 },
        (h.batch p amounts).2.map (.value <| .int ·)) := by
  simp only [Stage.play, Deal.settle, at_i]

namespace Shows

/-- An account is found on the scene exactly if it is on the stage. -/
theorem account_agrees (shows : s.Shows p st) (i : Nat) :
    Agrees s.machine [] (s.bank.account i s.machine) (find st.accounts i) fun h v n =>
      n = s.machine ∧ ∃ r, v = .ref r ∧ s.bank.accounts[i]? = some r ∧
        h = s.machine.holding r := by
  unfold find
  rw [← shows.accounts, List.getElem?_map]
  cases at_i : s.bank.accounts[i]? with
  | some r =>
    exact .of_done (Bank.account_of_some at_i _) (.refl _ _) ⟨rfl, r, rfl, rfl, rfl⟩
  | none =>
    exact .of_raised (Bank.account_of_none at_i shows.orderly.ready.free) (.push [] _ _)
      (Machine.cell_push_size _ _)

/-- A deal that opens no account is played if the run agrees with what it comes to on the stage. -/
theorem deal_of_agrees {calculation : Except Fault (List Holding × Item)} (shows : s.Shows p st)
    (operates : (Move.deal d).constructs = false)
    (settles : d.settle p st.accounts = caught st.accounts calculation)
    (agrees : Agrees s.machine s.bank.accounts (s.bank.perform d s.machine) calculation
      fun r v n => v = .null ∧ r.2 = .value .null ∧ s.bank.accounts.map n.holding = r.1) :
    Played p s st (.deal d) := by
  refine .of_operation s.bank.accounts shows operates (play_deal settles) (agrees.ran.mapped ?_)
  rintro ⟨held, x⟩ _ n - grew ⟨ran, rfl, rfl, holdings⟩
  have bank : s.bank.after d = ⟨n, s.bank.accounts⟩ :=
    congrArg Scene.bank (after_of_operation operates ran)
  exact ⟨rfl, shows.dealt grew (bank ▸ shows.orderly.after d) holdings (List.prefix_refl _)⟩

/-- An operation of one account is played if the run agrees with the calculation on what the account
holds. -/
theorem operate {name : String} {args : List Value} {calculation : Holding → Except Fault Holding}
    (shows : s.Shows p st) (operates : (Move.deal d).constructs = false)
    (settles : d.settle p st.accounts =
      caught st.accounts (Holding.operate st.accounts i calculation))
    (performs : s.bank.perform d = s.bank.account i >>= fun v => Session.operate v name args [])
    (agrees : ∀ r, s.bank.accounts[i]? = some r →
      Agrees s.machine [r] (Session.operate (.ref r) name args [] s.machine)
        (calculation (s.machine.holding r)) fun after v n => v = .null ∧ after.At n r) :
    Played p s st (.deal d) := by
  refine shows.deal_of_agrees operates settles ?_
  rw [performs]
  refine (shows.account_agrees i).bind ?_
  rintro _ _ _ - - ⟨rfl, r, rfl, at_i, rfl⟩
  refine ((agrees r at_i).mapped ?_).widen
    (List.cons_subset.2 ⟨List.mem_of_getElem? at_i, List.nil_subset _⟩)
  rintro after _ n - grew ⟨rfl, here⟩
  refine ⟨rfl, rfl, ?_⟩
  rw [← shows.accounts]
  exact shows.orderly.map_holding_set at_i grew here

theorem deposit (shows : s.Shows p st) (i : Nat) (amount : Int) :
    Played p s st (.deal (.deposit i amount)) :=
  shows.operate rfl rfl rfl fun _ at_i =>
    have ⟨here, sound⟩ := shows.orderly.at at_i
    operate_deposit_agrees shows.orderly.ready here sound amount

theorem withdraw (shows : s.Shows p st) (i : Nat) (amount : Int) :
    Played p s st (.deal (.withdraw i amount)) :=
  shows.operate rfl rfl rfl fun _ at_i =>
    have ⟨here, sound⟩ := shows.orderly.at at_i
    operate_withdraw_agrees shows.orderly.ready here sound amount

theorem close (shows : s.Shows p st) (i : Nat) : Played p s st (.deal (.close i)) :=
  shows.operate rfl rfl rfl fun _ at_i =>
    have ⟨here, sound⟩ := shows.orderly.at at_i
    operate_close_agrees shows.orderly.ready here sound

theorem transfer (shows : s.Shows p st) (i j : Nat) (amount : Int) :
    Played p s st (.deal (.transfer i j amount)) := by
  refine shows.deal_of_agrees rfl rfl ?_
  refine (shows.account_agrees i).bind ?_
  rintro _ _ _ - - ⟨rfl, r, rfl, at_i, rfl⟩
  refine (shows.account_agrees j).bind ?_
  rintro _ _ _ - - ⟨rfl, t, rfl, at_j, rfl⟩
  obtain ⟨here, sound⟩ := shows.orderly.at at_i
  obtain ⟨recipient, other⟩ := shows.orderly.at at_j
  have same : decide (r = t) = decide (i = j) := by
    refine decide_eq_decide.2 ⟨?_, ?_⟩
    · rintro rfl
      exact shows.orderly.position_eq at_i at_j
    · rintro rfl
      exact Option.some.inj (at_i.symm.trans at_j)
  have ran := operate_transfer_agrees shows.orderly.ready here recipient
    (fun checked => ⟨sound checked, other checked⟩) amount
  rw [same] at ran
  refine (ran.mapped ?_).widen (List.cons_subset.2 ⟨List.mem_of_getElem? at_i,
    List.cons_subset.2 ⟨List.mem_of_getElem? at_j, List.nil_subset _⟩⟩)
  rintro _ _ n - grew ⟨rfl, moved⟩
  refine ⟨rfl, rfl, ?_⟩
  rw [← shows.accounts]
  exact shows.orderly.map_holding_moved at_i at_j grew moved

/-- A batch of no account fails. -/
theorem depositBatch_of_none (shows : s.Shows p st) (at_i : s.bank.accounts[i]? = none)
    (amounts : List Int) : Played p s st (.deal (.depositBatch i amounts)) := by
  have settles : Deal.settle p st.accounts (.depositBatch i amounts) =
      caught st.accounts (.error (noObject i)) := by
    simp only [Deal.settle, ← shows.accounts, List.getElem?_map, at_i]
    rfl
  exact shows.deal_of_agrees rfl settles (.of_raised
    (bind_of_raised (Bank.account_of_none at_i shows.orderly.ready.free) _) (.push [] _ _)
    (Machine.cell_push_size _ _))

/-- A batch leaves the account as it came to, be it done or stopped. -/
theorem depositBatch (shows : s.Shows p st) (i : Nat) (amounts : List Int) :
    Played p s st (.deal (.depositBatch i amounts)) := by
  cases at_i : s.bank.accounts[i]? with
  | none => exact shows.depositBatch_of_none at_i amounts
  | some r =>
    -- the list with the amounts is made before the account is asked to take them
    obtain ⟨here, sound⟩ := shows.orderly.at at_i
    have made := Machine.Grows.push [] s.machine (.list (amounts.map .int))
    obtain ⟨n, grows, left, ended⟩ := operate_depositBatch_stopped (shows.orderly.ready.grows made)
      (here.kept made) sound (by simp) (Machine.cell_push_size _ _)
    have grew : s.machine.Grows [r] n := made.weaken.trans grows
    have starts : s.perform (.deal (.depositBatch i amounts)) s.machine =
        Session.operate (.ref r) "deposit_batch" [.ref s.machine.heap.size] []
          (s.machine.push (.list (amounts.map .int))) :=
      bind_of_done (Bank.account_of_some at_i _) _
    have holder : st.accounts[i]? = some (s.machine.holding r) := by
      rw [← shows.accounts, List.getElem?_map, at_i]
      rfl
    have played := play_depositBatch (p := p) holder amounts
    have shown {o : Outcome Value}
        (ran : s.perform (.deal (.depositBatch i amounts)) s.machine = (o, n)) :
        (s.after (.deal (.depositBatch i amounts))).Shows p
          (st.play p (.deal (.depositBatch i amounts))).1 := by
      have scene := after_of_operation rfl ran
      have bank : s.bank.after (.depositBatch i amounts) = ⟨n, s.bank.accounts⟩ :=
        congrArg Scene.bank scene
      have written : [r] ⊆ s.bank.accounts :=
        List.cons_subset.2 ⟨List.mem_of_getElem? at_i, List.nil_subset _⟩
      rw [played, scene, ← shows.accounts]
      exact shows.dealt (grew.mono written) (bank ▸ shows.orderly.after _)
        (shows.orderly.map_holding_set at_i grew left) (List.prefix_refl _)
    cases result : ((s.machine.holding r).batch p amounts).2 with
    | ok total =>
      rw [result] at ended
      have ran := starts.trans ended
      refine .of_eq shows ran grew ?_ (shown ran)
      rw [played, result]
      exact ⟨.int total, congrArg Prod.fst ran, rfl⟩
    | error f =>
      rw [result] at ended
      obtain ⟨e, raised, cell⟩ := ended
      have ran := starts.trans raised
      refine .of_eq shows ran grew ?_ (shown ran)
      rw [played, result]
      exact ⟨e, congrArg Prod.fst ran, after_machine ran ▸ cell⟩

/-- Opening an account adds one that holds nothing yet. -/
theorem opening (shows : s.Shows p st) (number : Int) :
    Played p s st (.deal (.opening number)) := by
  refine .of_agrees shows (play_deal rfl) (Agrees.mapped (Agrees.mapped
    (makeAccount_agrees shows.orderly.ready number).ran ?_) fun _ _ _ _ _ => id)
  rintro h _ n - grew ⟨ran, rfl, here⟩
  have ended : s.bank.outcome (.opening number) = .done (.ref s.machine.heap.size) :=
    congrArg Prod.fst ran
  have accounts : (s.bank.after (.opening number)).accounts =
      s.bank.accounts ++ [s.machine.heap.size] := by
    simp only [Bank.after, ended]
  have machine : (s.bank.after (.opening number)).machine = n := congrArg Prod.snd ran
  have bank : s.bank.after (.opening number) = ⟨n, s.bank.accounts ++ [s.machine.heap.size]⟩ := by
    rw [← machine, ← accounts]
  have scene : s.after (.deal (.opening number)) =
      ⟨⟨n, s.bank.accounts ++ [s.machine.heap.size]⟩, s.queues⟩ :=
    congrArg (Scene.mk · s.queues) bank
  rw [scene]
  constructor
  · rw [← shows.accounts, List.length_map]
    exact congrArg (Option.map Value.ref) List.getElem?_concat_length
  · refine shows.dealt grew.weaken (bank ▸ shows.orderly.after _) ?_ (List.prefix_append _ _)
    rw [List.map_append, (shows.accounts_kept grew fun _ _ => List.not_mem_nil).2]
    exact congrArg (st.accounts ++ [·]) here.holding

/-- Every deal is played as on the stage. -/
theorem deal (shows : s.Shows p st) (d : Deal) : Played p s st (.deal d) := by
  cases d with
  | opening number => exact shows.opening number
  | deposit i amount => exact shows.deposit i amount
  | withdraw i amount => exact shows.withdraw i amount
  | transfer i j amount => exact shows.transfer i j amount
  | close i => exact shows.close i
  | depositBatch i amounts => exact shows.depositBatch i amounts

end Shows

end Scene

end Covenant
