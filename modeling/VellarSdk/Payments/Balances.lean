import VellarSdk.Async.Together
import VellarSdk.Js.Number

/-!
# Balances

Reading the balances of many tokens at once. Every token is asked for by itself, and the
answers come in any order. The plain read returns what was answered for each token, or
fails with the first failure. The batch reports each failure in the place of its token,
and has a bound on its size.

A reader can fail with any value at all, which need not be an error. The batch reports a
value that is none by its text, and there are values without one. That is the one way in
which a batch fails as a whole.

## Main definitions

* `getBalances`, `fetchBalancesBatch`: Reading many balances.
* `batchItem`: What the batch reports of one token.

## Theorems

* `balances_reported`: The plain read, for every order of answers.
* `batch_reported`: The batch, likewise.
-/

namespace VellarSdk

namespace Payments

open Js Async

/-- What can be thrown: an error, or any other value. -/
inductive Thrown where
  | error (message : JsString)
  | native (e : NativeError)
  | batchBalanceSize (maxSize requested : Nat)
  | value (v : JsValue)

structure TokenInfo where
  symbol : JsString
  contractId : JsString
  decimals : JsNum

structure TokenBalance extends TokenInfo where
  amount : Int

inductive BatchBalanceResult where
  | success (contractId : JsString) (amount : Int)
  | failure (contractId : JsString) (error : JsString)
  deriving DecidableEq

/-- What a reader is asked. -/
inductive ReaderOp where
  | getTokenBalance (tokenContractId holder : JsString)

@[reducible] def ReaderOp.Ret : ReaderOp → Type
  | .getTokenBalance _ _ => Int

abbrev ReaderEvent := Event ReaderOp ReaderOp.Ret Thrown

/-- The reader answers everything. -/
def readerHandler : Handler ReaderOp ReaderOp.Ret Thrown Unit :=
  awaitAll

def maxBatchBalanceSize : Nat := 32

/-- The message of a `BatchBalanceSizeError`. -/
def batchSizeMessage (maxSize requested : Nat) : JsString :=
  js "batch balance request exceeds max size of " ++ natToString maxSize ++ js ", got " ++
    natToString requested

/-- `err instanceof Error ? err.message : String(err)`, where the engine has its texts. -/
def errorText (engineText : NativeError → JsString) : Thrown → Except Thrown JsString
  | .error message => .ok message
  | .native e => .ok (engineText e)
  | .batchBalanceSize maxSize requested => .ok (batchSizeMessage maxSize requested)
  | .value v => v.toStr.mapError .native

/-- What the plain read makes of one answer. -/
def balanceItem (token : TokenInfo) : Except Thrown Int → Except Thrown TokenBalance
  | .ok amount => .ok { token with amount := amount }
  | .error err => .error err

/-- What the batch makes of one. -/
def batchItem (engineText : NativeError → JsString) (contractId : JsString) :
    Except Thrown Int → Except Thrown BatchBalanceResult
  | .ok amount => .ok (.success contractId amount)
  | .error err => (errorText engineText err).map (.failure contractId)

/-- One token of the plain read. -/
def balanceBody (holder : JsString) : TokenInfo → Task ReaderOp ReaderOp.Ret Thrown TokenBalance :=
  oneCall (fun token => .getTokenBalance token.contractId holder) balanceItem

/-- One token of the batch. -/
def batchBody (engineText : NativeError → JsString) (holder : JsString) :
    JsString → Task ReaderOp ReaderOp.Ret Thrown BatchBalanceResult :=
  oneCall (fun contractId => .getTokenBalance contractId holder) (batchItem engineText)

abbrev Balances := Together TokenInfo ReaderOp ReaderOp.Ret Thrown Unit TokenBalance

abbrev Batch := Together JsString ReaderOp ReaderOp.Ret Thrown Unit BatchBalanceResult

/-- `Promise.all` of the reads of all tokens. -/
def getBalances (holder : JsString) (tokens : List TokenInfo) : Balances :=
  startTogether (balanceBody holder) () tokens

/-- Likewise for a batch, unless there are too many. -/
def fetchBalancesBatch (engineText : NativeError → JsString) (holder : JsString)
    (tokens : List JsString) : Except Thrown Batch :=
  if tokens.length > maxBatchBalanceSize then
    .error (.batchBalanceSize maxBatchBalanceSize tokens.length)
  else .ok (startTogether (batchBody engineText holder) () tokens)

/-- What a batch is going to be, as answers come in. -/
def batchMachine (engineText : NativeError → JsString) (holder : JsString) :=
  together readerHandler (batchBody engineText holder)

def balancesMachine (holder : JsString) :=
  together readerHandler (balanceBody holder)

/-- In whatever order the reader answers: a list of balances has for each token, in its
    place, the amount that was answered for it, and a failure is that of some token. -/
theorem balances_reported (holder : JsString) (tokens : List TokenInfo)
    (es : List (PoolEvent TokenInfo ReaderOp ReaderOp.Ret Thrown)) (g : Balances)
    (hrun : (balancesMachine holder).run (getBalances holder tokens) es = some g) :
    (∀ balances, g.settled = some (.ok balances) → balances.length = tokens.length ∧
      ∀ i token balance, tokens[i]? = some token → balances[i]? = some balance →
        balance.toTokenInfo = token ∧
        own i g.pool.log = [⟨.getTokenBalance token.contractId holder, .ok balance.amount⟩]) ∧
    (∀ err, g.settled = some (.error err) → ∃ i token, tokens[i]? = some token ∧
      own i g.pool.log = [⟨.getTokenBalance token.contractId holder, .error err⟩]) ∧
    (g.settled = none → ∃ i token, tokens[i]? = some token ∧ own i g.pool.log = []) := by
  -- All that is said of one call is that of `Promise.all` over its reads.
  have hreported := oneCall_settled hrun
  refine ⟨fun balances h => ?_, fun err h => ?_, fun h => ?_⟩
  · rw [h] at hreported
    refine ⟨hreported.1, fun i token balance htoken hbalance => ?_⟩
    obtain ⟨r, hown, hitem⟩ := hreported.2 i token balance htoken hbalance
    cases r with
    | error e => exact absurd hitem (by simp only [balanceItem, reduceCtorEq, not_false_eq_true])
    | ok amount =>
        injection hitem with hitem
        subst hitem
        exact ⟨rfl, hown⟩
  · rw [h] at hreported
    obtain ⟨i, token, r, htoken, hown, hitem⟩ := hreported
    cases r with
    | ok amount => exact absurd hitem (by simp only [balanceItem, reduceCtorEq, not_false_eq_true])
    | error e =>
        injection hitem with hitem
        subst hitem
        exact ⟨i, token, htoken, hown⟩
  · rw [h] at hreported
    exact hreported

/-- A batch within its bound, in whatever order the reader answers: once every token is
    answered there is a result, which has for each token, in its place, what was answered
    for it, and the batch fails only with a value that has no text. -/
theorem batch_reported (engineText : NativeError → JsString) (holder : JsString)
    (tokens : List JsString) (batch g : Batch)
    (es : List (PoolEvent JsString ReaderOp ReaderOp.Ret Thrown))
    (hbatch : fetchBalancesBatch engineText holder tokens = .ok batch)
    (hrun : (batchMachine engineText holder).run batch es = some g) :
    (∀ results, g.settled = some (.ok results) → results.length = tokens.length ∧
      ∀ i contractId result, tokens[i]? = some contractId → results[i]? = some result →
        ∃ answer, own i g.pool.log = [⟨.getTokenBalance contractId holder, answer⟩] ∧
          ((∃ amount, answer = .ok amount ∧ result = .success contractId amount) ∨
            ∃ err text, answer = .error err ∧ errorText engineText err = .ok text ∧
              result = .failure contractId text)) ∧
    (∀ err, g.settled = some (.error err) → ∃ i contractId v e, tokens[i]? = some contractId ∧
      own i g.pool.log = [⟨.getTokenBalance contractId holder, .error (.value v)⟩] ∧
      v.toStr = .error e ∧ err = .native e) ∧
    (g.settled = none → ∃ i contractId, tokens[i]? = some contractId ∧
      own i g.pool.log = []) := by
  unfold fetchBalancesBatch at hbatch
  split at hbatch
  · exact absurd hbatch (by simp only [reduceCtorEq, not_false_eq_true])
  injection hbatch with hbatch
  subst hbatch
  have hreported := oneCall_settled hrun
  refine ⟨fun results h => ?_, fun err h => ?_, fun h => ?_⟩
  · rw [h] at hreported
    refine ⟨hreported.1, fun i contractId result htoken hresult => ?_⟩
    obtain ⟨answer, hown, hitem⟩ := hreported.2 i contractId result htoken hresult
    refine ⟨answer, hown, ?_⟩
    cases answer with
    | ok amount => exact .inl ⟨amount, rfl, (Except.ok.inj hitem).symm⟩
    | error err =>
        cases htext : errorText engineText err with
        | ok text =>
            rw [batchItem, htext] at hitem
            exact .inr ⟨err, text, rfl, htext, (Except.ok.inj hitem).symm⟩
        | error e =>
            rw [batchItem, htext] at hitem
            exact absurd hitem (by simp only [Except.map, reduceCtorEq, not_false_eq_true])
  · rw [h] at hreported
    obtain ⟨i, contractId, answer, htoken, hown, hitem⟩ := hreported
    cases answer with
    | ok amount => exact absurd hitem (by simp only [batchItem, reduceCtorEq, not_false_eq_true])
    | error thrown =>
        -- Errors have a message, so what has no text is another value.
        cases thrown with
        | value v =>
            cases htext : v.toStr with
            | ok text =>
                simp only [batchItem, errorText, htext, Except.mapError, Except.map,
                  reduceCtorEq] at hitem
            | error e =>
                simp only [batchItem, errorText, htext, Except.mapError, Except.map,
                  Except.error.injEq] at hitem
                exact ⟨i, contractId, v, e, htoken, hown, htext, hitem.symm⟩
        | _ => exact absurd hitem (by
            simp only [batchItem, errorText, Except.map, reduceCtorEq, not_false_eq_true])
  · rw [h] at hreported
    exact hreported

/-- A reader whose node is down for one of the tokens. -/
def sampleReader : (o : ReaderOp) → Except Thrown o.Ret
  | .getTokenBalance contractId _ => if contractId = js "CBAD" then .error (.error "rpc down")
      else .ok 9

/-- Two tokens, the second of which is answered first. -/
theorem batch_reported_sample : ∃ batch g results,
    fetchBalancesBatch (fun _ => []) "CHOLDER" [js "CGOOD", js "CBAD"] = .ok batch ∧
    (batchMachine (fun _ => []) "CHOLDER").run batch
      [.reply 1 sampleReader, .reply 0 sampleReader] = some g ∧
    g.settled = some (.ok results) ∧ results.length = 2 ∧
    results[1]? = some (.failure "CBAD" "rpc down") := by
  obtain ⟨batch, hbatch⟩ : ∃ batch,
      fetchBalancesBatch (fun _ => []) "CHOLDER" [js "CGOOD", js "CBAD"] = .ok batch := ⟨_, rfl⟩
  have hstart := hbatch
  injection hstart with hstart
  obtain ⟨g, hrun⟩ : ∃ g, (batchMachine (fun _ => []) "CHOLDER").run batch
      [.reply 1 sampleReader, .reply 0 sampleReader] = some g := ⟨_, by rw [← hstart]; rfl⟩
  have hsettled : g.settled =
      some (.ok [.success "CGOOD" 9, .failure "CBAD" "rpc down"]) := by
    have hg := hrun
    rw [← hstart] at hg
    rw [← Option.some.inj hg]
    rfl
  exact ⟨batch, g, _, hbatch, hrun, hsettled,
    ((batch_reported _ _ _ batch g _ hbatch hrun).1 _ hsettled).1, rfl⟩

/-- The plain read of the same tokens fails with that failure. Two others are read, in the
    other order. -/
theorem balances_reported_sample :
    (∃ g err i token, (balancesMachine "CHOLDER").run
      (getBalances "CHOLDER" [⟨"XLM", "CGOOD", JsNum.ofNat 7⟩, ⟨"USDC", "CBAD", JsNum.ofNat 7⟩])
      [.reply 1 sampleReader] = some g ∧ g.settled = some (.error err) ∧
      own i g.pool.log = [⟨.getTokenBalance token "CHOLDER", .error err⟩]) ∧
    ∃ g balances balance, (balancesMachine "CHOLDER").run
      (getBalances "CHOLDER" [⟨"XLM", "CGOOD", JsNum.ofNat 7⟩, ⟨"EURC", "CEUR", JsNum.ofNat 7⟩])
      [.reply 1 sampleReader, .reply 0 sampleReader] = some g ∧
      g.settled = some (.ok balances) ∧ balances.length = 2 ∧ balances[1]? = some balance ∧
      balance.toTokenInfo = ⟨"EURC", "CEUR", JsNum.ofNat 7⟩ ∧
      own 1 g.pool.log = [⟨.getTokenBalance "CEUR" "CHOLDER", .ok balance.amount⟩] := by
  constructor
  · -- The second token's read fails, and its failure is the call's.
    obtain ⟨g, hrun⟩ : ∃ g, (balancesMachine "CHOLDER").run
        (getBalances "CHOLDER" [⟨"XLM", "CGOOD", JsNum.ofNat 7⟩, ⟨"USDC", "CBAD", JsNum.ofNat 7⟩])
        [.reply 1 sampleReader] = some g := ⟨_, rfl⟩
    have hsettled : g.settled = some (.error (.error "rpc down")) := by
      rw [← Option.some.inj hrun]
      rfl
    obtain ⟨i, token, -, hown⟩ := (balances_reported _ _ _ g hrun).2.1 _ hsettled
    exact ⟨g, _, i, token.contractId, hrun, hsettled, hown⟩
  · obtain ⟨g, hrun⟩ : ∃ g, (balancesMachine "CHOLDER").run
        (getBalances "CHOLDER" [⟨"XLM", "CGOOD", JsNum.ofNat 7⟩, ⟨"EURC", "CEUR", JsNum.ofNat 7⟩])
        [.reply 1 sampleReader, .reply 0 sampleReader] = some g := ⟨_, rfl⟩
    have hsettled : g.settled = some (.ok [⟨⟨"XLM", "CGOOD", JsNum.ofNat 7⟩, 9⟩,
        ⟨⟨"EURC", "CEUR", JsNum.ofNat 7⟩, 9⟩]) := by
      rw [← Option.some.inj hrun]
      rfl
    obtain ⟨hlength, hread⟩ := (balances_reported _ _ _ g hrun).1 _ hsettled
    obtain ⟨hsame, hown⟩ := hread 1 _ _ rfl rfl
    exact ⟨g, _, _, hrun, hsettled, hlength, rfl, hsame, hown⟩

end Payments

end VellarSdk
