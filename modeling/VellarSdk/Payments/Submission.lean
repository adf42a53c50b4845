import VellarSdk.Async.Metering
import VellarSdk.Async.Task
import VellarSdk.Js.Text

/-!
# Limited Submission

A client of the RPC that may be given a rate limit, kept by a token bucket: full at
first, it is refilled for the time that went by whenever it is asked for a token, and
never over its size. A transaction is sent in the turn that took the token, before
anything is awaited, so that calls that overlap are limited like those that do not.

A token is taken before the transaction is read, so one that cannot be read costs a
token and is not sent. That is the only way there are fewer transactions than
tokens.

## Main definitions

* `TokenBucket`, `TokenBucket.tryConsume`: The bucket.
* `bucketCalls`, `admitted`: Its calls, and when they are let through.
* `submitTransaction`: The body of a submission.
* `Submitter`, `submissions`, `sent`: Overlapping submissions, and when they are
  sent.

## Theorems

* `bucketCalls_metered`, `submissions_metered`: Both keep to the meter of the bucket.
* `token_bucket_limits`: What is let through in a window.
-/

namespace VellarSdk

namespace Payments

open Js Async

structure TokenBucket where
  capacity : ℚ
  refillPerMs : ℚ
  tokens : ℚ
  lastRefill : ℚ

namespace TokenBucket

/-- `new TokenBucket(capacity, refillPerMs, now)`. -/
def create (capacity refillPerMs now : ℚ) : TokenBucket :=
  ⟨capacity, refillPerMs, capacity, now⟩

def refill (b : TokenBucket) (t : ℚ) : TokenBucket :=
  let elapsed := t - b.lastRefill
  { b with
    tokens := min b.capacity (b.tokens + elapsed * b.refillPerMs)
    lastRefill := t }

/-- Consumes one token when allowed. -/
def tryConsume (b : TokenBucket) (now : ℚ) : Bool × TokenBucket :=
  let b := b.refill now
  if 1 ≤ b.tokens then (true, { b with tokens := b.tokens - 1 }) else (false, b)

end TokenBucket

/-- Calls of a bucket, at their times. -/
def bucketCalls : Machine TokenBucket ℚ where
  step b now := some (b.tryConsume now).2

/-- The time of a call that is let through. -/
def admits (b : TokenBucket) (now : ℚ) : Option ℚ :=
  if (b.tryConsume now).1 then some now else none

/-- When calls are let through. -/
def admitted (b : TokenBucket) (nows : List ℚ) : List ℚ :=
  bucketCalls.times admits b nows

/-- How many of the times are in a window. -/
def countIn (lo hi : ℚ) (times : List ℚ) : Nat :=
  times.countP (fun t => decide (lo ≤ t ∧ t ≤ hi))

/-- The errors of a submission: the rate limit, a transaction that cannot be read, an
    answer that says so, and what the RPC's client throws. -/
inductive SubmitError where
  | rateLimit (message : JsString)
  | unreadable
  | plain (message : JsString)
  | foreign
  deriving DecidableEq

/-- `new RateLimitError()`. -/
def rateLimitError : SubmitError :=
  .rateLimit "RPC submission rate limit exceeded"

/-- What the RPC answers, with the text of its error's XDR. -/
structure SendResponse where
  status : JsString
  errorResult : Option JsString
  hash : Option JsString

/-- The calls of a submission. -/
inductive SubmitOp (Tx : Type) where
  | tryConsume
  | sendTransaction (tx : Tx)

@[reducible] def SubmitOp.Result {Tx : Type} : SubmitOp Tx → Type
  | .tryConsume => Bool
  | .sendTransaction _ => SendResponse

/-- A body that submits. -/
abbrev Submit (Tx : Type) (α : Type) :=
  Task (SubmitOp Tx) SubmitOp.Result SubmitError α

/-- What a limiter has, and the time. -/
structure Limiter where
  bucket : Option TokenBucket
  now : ℚ

/-- The limiter answers at once, and the RPC is awaited. -/
def submitHandler {Tx : Type} : Handler (SubmitOp Tx) SubmitOp.Result SubmitError Limiter where
  exec
    | .tryConsume => some (fun l => match l.bucket with
      | some b => (.ok (b.tryConsume l.now).1, { l with bucket := some (b.tryConsume l.now).2 })
      -- Without a rate limit nothing is asked.
      | none => (.ok true, l))
    | .sendTransaction _ => none

/-- The hash of a transaction that was accepted. -/
def submittedHash (res : SendResponse) : Except SubmitError JsString :=
  if res.status = js "ERROR" then
    .error (.plain (res.errorResult.getD (js "sendTransaction failed")))
  else match res.hash with
    | some (u :: hash) => .ok (u :: hash)
    | _ => .error (.plain (js "sendTransaction returned no hash"))

section Submission

variable {Tx : Type} (fromXdr : JsString → Except SubmitError Tx)

def submitTransaction (signedXdr : JsString) : Submit Tx JsString := do
  let allowed ← Task.perform SubmitOp.tryConsume
  if !allowed then throw rateLimitError
  else do
    let tx ← (fromXdr signedXdr : Except SubmitError Tx)
    let res ← Task.perform (SubmitOp.sendTransaction tx)
    (submittedHash res : Except SubmitError JsString)

/-- A client, with the submissions under way. -/
structure Submitter (Tx : Type) where
  limiter : Limiter
  inFlight : List (Submit Tx JsString) := []

/-- `options.rateLimit`. -/
structure RpcRateLimitOptions where
  bucketSize : ℚ
  refillRate : ℚ

/-- `createRpcTxSubmitter(options)`, at a time. -/
def createRpcTxSubmitter (Tx : Type) (rateLimit : Option RpcRateLimitOptions) (now : ℚ) :
    Submitter Tx :=
  { limiter :=
    { bucket := rateLimit.map (fun o => .create o.bucketSize (o.refillRate / 1000) now)
      now := now } }

/-- What can happen to a client: a call, or an answer of the RPC to one. -/
inductive SubmitAction (Tx : Type) where
  | submit (signedXdr : JsString) (now : ℚ)
  | answer (i : Nat) (reply : (o : SubmitOp Tx) → Except SubmitError o.Result)

/-- What a call does in its first turn. -/
def Submitter.start (s : Submitter Tx) (signedXdr : JsString) (now : ℚ) :
    Submit Tx JsString × Limiter :=
  (submitTransaction fromXdr signedXdr).advance submitHandler { s.limiter with now := now }

/-- Overlapping submissions. -/
def submissions : Machine (Submitter Tx) (SubmitAction Tx) where
  step s a := match a with
    | .submit signedXdr now =>
        let started := s.start fromXdr signedXdr now
        some { limiter := started.2, inFlight := s.inFlight ++ [started.1] }
    | .answer i reply => match s.inFlight[i]? with
      | some (.call o k) =>
          let resumed := (k (reply o)).advance submitHandler s.limiter
          some { limiter := resumed.2, inFlight := s.inFlight.set i resumed.1 }
      | _ => none

/-- Is a transaction on its way to the RPC? -/
def sends : Submit Tx JsString → Bool
  | .call (.sendTransaction _) _ => true
  | _ => false

/-- The time of a step that sends a transaction. -/
def sendsAt (s : Submitter Tx) : SubmitAction Tx → Option ℚ
  | .submit signedXdr now => if sends (s.start fromXdr signedXdr now).1 then some now else none
  | .answer i reply => match s.inFlight[i]? with
    | some (.call o k) =>
        if sends ((k (reply o)).advance submitHandler s.limiter).1 then some s.limiter.now else none
    | _ => none

/-- When transactions are sent. -/
def sent (s : Submitter Tx) (actions : List (SubmitAction Tx)) : List ℚ :=
  (submissions fromXdr).times (sendsAt fromXdr) s actions

end Submission

/-- A bucket of a size and a rate is never over its size, or below zero. -/
structure Filled (capacity rate : ℚ) (b : TokenBucket) : Prop where
  sized : b.capacity = capacity
  rated : b.refillPerMs = rate
  nonneg : 0 ≤ b.tokens
  le : b.tokens ≤ capacity

section Bucket

variable {capacity rate now : ℚ} {b : TokenBucket}

theorem filled_create (hcapacity : 0 ≤ capacity) (rate now : ℚ) :
    Filled capacity rate (.create capacity rate now) :=
  ⟨rfl, rfl, hcapacity, le_rfl⟩

theorem lastRefill_tryConsume (b : TokenBucket) (now : ℚ) :
    (b.tryConsume now).2.lastRefill = now := by
  rw [TokenBucket.tryConsume]
  split <;> rfl

/-- What is left after a call, and what it took, is what the bucket was refilled to. -/
theorem tokens_tryConsume (b : TokenBucket) (now : ℚ) :
    (b.tryConsume now).2.tokens + Machine.cost (admits b now) = (b.refill now).tokens := by
  rw [admits, TokenBucket.tryConsume]
  by_cases h : 1 ≤ (b.refill now).tokens
  · rw [if_pos h, if_pos rfl, Machine.cost, sub_add_cancel]
  · rw [if_neg h, if_neg Bool.false_ne_true, Machine.cost, add_zero]

theorem nonneg_tryConsume (h : 0 ≤ (b.refill now).tokens) : 0 ≤ (b.tryConsume now).2.tokens := by
  rw [TokenBucket.tryConsume]
  by_cases hone : 1 ≤ (b.refill now).tokens
  · rw [if_pos hone]
    exact sub_nonneg.mpr hone
  · rw [if_neg hone]
    exact h

theorem params_tryConsume (b : TokenBucket) (now : ℚ) :
    (b.tryConsume now).2.capacity = b.capacity ∧
      (b.tryConsume now).2.refillPerMs = b.refillPerMs := by
  rw [TokenBucket.tryConsume]
  split <;> exact ⟨rfl, rfl⟩

/-- The bucket after the time that went by is not over its size, and not below zero. -/
theorem Filled.refill (h : Filled capacity rate b) (hrate : 0 ≤ rate) (hnow : b.lastRefill ≤ now) :
    0 ≤ (b.refill now).tokens ∧ (b.refill now).tokens ≤ capacity ∧
      (b.refill now).tokens ≤ b.tokens + (now - b.lastRefill) * rate := by
  have hearned : 0 ≤ b.tokens + (now - b.lastRefill) * rate :=
    add_nonneg h.nonneg (mul_nonneg (sub_nonneg.mpr hnow) hrate)
  have htokens : (b.refill now).tokens =
      min capacity (b.tokens + (now - b.lastRefill) * rate) := by
    rw [← h.sized, ← h.rated]
    rfl
  rw [htokens]
  exact ⟨le_min (h.nonneg.trans h.le) hearned, min_le_left _ _, min_le_right _ _⟩

/-- A call keeps the bucket filled. -/
theorem Filled.tryConsume (h : Filled capacity rate b) (hrate : 0 ≤ rate)
    (hnow : b.lastRefill ≤ now) : Filled capacity rate (b.tryConsume now).2 := by
  obtain ⟨hnonneg, hle, -⟩ := h.refill hrate hnow
  obtain ⟨hcapacity, hper⟩ := params_tryConsume b now
  have hcost : (0 : ℚ) ≤ Machine.cost (admits b now) := by
    cases admits b now with
    | none => exact le_rfl
    | some t => exact zero_le_one
  refine ⟨hcapacity.trans h.sized, hper.trans h.rated, nonneg_tryConsume hnonneg, ?_⟩
  calc (b.tryConsume now).2.tokens
      ≤ (b.tryConsume now).2.tokens + Machine.cost (admits b now) := le_add_of_nonneg_right hcost
    _ = (b.refill now).tokens := tokens_tryConsume b now
    _ ≤ capacity := hle

/-- The calls of a bucket are not before its last one. -/
def NotBefore (b : TokenBucket) (now : ℚ) : Prop :=
  b.lastRefill ≤ now

/-- A bucket is a meter. -/
theorem bucketCalls_metered (hrate : 0 ≤ rate) :
    bucketCalls.Metered NotBefore (Filled capacity rate) capacity rate TokenBucket.lastRefill
      TokenBucket.tokens admits where
  nonneg _ h := h.nonneg
  good b now b' h hnow hstep := by
    obtain rfl := Option.some.inj hstep
    exact h.tryConsume hrate hnow
  forward b now b' _ hnow hstep := by
    obtain rfl := Option.some.inj hstep
    exact (lastRefill_tryConsume b now).symm ▸ hnow
  spent b now b' t _ _ hstep hspent := by
    obtain rfl := Option.some.inj hstep
    rw [admits] at hspent
    split at hspent
    · exact (Option.some.inj hspent).symm.trans (lastRefill_tryConsume b now).symm
    · exact absurd hspent (by simp only [reduceCtorEq, not_false_eq_true])
  capped b now b' h hnow hstep := by
    obtain rfl := Option.some.inj hstep
    rw [tokens_tryConsume]
    exact (h.refill hrate hnow).2.1
  earned b now b' h hnow hstep := by
    obtain rfl := Option.some.inj hstep
    rw [tokens_tryConsume, lastRefill_tryConsume]
    exact (h.refill hrate hnow).2.2

/-- Calls at times that do not go back. -/
theorem runWhere_of_pairwise {nows : List ℚ} (h : (b.lastRefill :: nows).Pairwise (· ≤ ·)) :
    bucketCalls.RunWhere NotBefore b nows := by
  induction nows generalizing b with
  | nil => trivial
  | cons now nows ih =>
      obtain ⟨hfirst, hrest⟩ := List.pairwise_cons.mp h
      refine Machine.runWhere_cons rfl (hfirst now (List.mem_cons_self ..)) (ih ?_)
      rw [lastRefill_tryConsume]
      exact hrest

end Bucket

section Client

variable {Tx : Type} {fromXdr : JsString → Except SubmitError Tx} {l : Limiter}
  {capacity rate : ℚ}

/-- A body that only waits for the answer of the RPC, or has ended. -/
inductive AtMostAnswered : Submit Tx JsString → Prop where
  | done (r : Except SubmitError JsString) : AtMostAnswered (.done r)
  | waiting (tx : Tx) (f : Except SubmitError SendResponse → Except SubmitError JsString) :
      AtMostAnswered (.call (.sendTransaction tx) (fun r => .done (f r)))

/-- What is left of a submission that was let through. -/
theorem atMostAnswered_send (fromXdr : JsString → Except SubmitError Tx) (signedXdr : JsString) :
    AtMostAnswered ((liftM (fromXdr signedXdr) : Submit Tx Tx) >>= fun tx =>
      Task.perform (SubmitOp.sendTransaction tx) >>= fun res =>
        (liftM (submittedHash res) : Submit Tx JsString)) := by
  cases hread : fromXdr signedXdr with
  | error e => exact .done (.error e)
  | ok tx =>
      have hcontinue : ∀ r : Except SubmitError SendResponse,
          ((.done r : Submit Tx SendResponse) >>= fun res =>
            (liftM (submittedHash res) : Submit Tx JsString)) = .done (r.bind submittedHash) := by
        intro r
        cases r <;> rfl
      have hcall : (Task.perform (SubmitOp.sendTransaction tx) >>= fun res =>
          (liftM (submittedHash res) : Submit Tx JsString)) =
          .call (.sendTransaction tx) (fun r => .done (r.bind submittedHash)) :=
        congrArg (Task.call (SubmitOp.sendTransaction tx)) (funext hcontinue)
      exact hcall ▸ .waiting tx _

/-- The RPC is awaited. -/
theorem advance_of_atMostAnswered {t : Submit Tx JsString} (h : AtMostAnswered t) (l : Limiter) :
    t.advance submitHandler l = (t, l) := by
  cases h <;> rfl

/-- A call asks the limiter, and goes on to send when it was let through. -/
theorem start_limited (fromXdr : JsString → Except SubmitError Tx) (signedXdr : JsString)
    (b : TokenBucket) (now : ℚ) :
    ∃ t, (submitTransaction fromXdr signedXdr).advance submitHandler ⟨some b, now⟩ =
        (t, ⟨some (b.tryConsume now).2, now⟩) ∧
      AtMostAnswered t ∧ (sends t = true → (b.tryConsume now).1 = true) := by
  have hexec : (submitTransaction fromXdr signedXdr).advance submitHandler ⟨some b, now⟩ =
      (if (!(b.tryConsume now).1) = true then (.done (.error rateLimitError) : Submit Tx JsString)
        else (liftM (fromXdr signedXdr) : Submit Tx Tx) >>= fun tx =>
          Task.perform (SubmitOp.sendTransaction tx) >>= fun res =>
            (liftM (submittedHash res) : Submit Tx JsString)).advance submitHandler
        ⟨some (b.tryConsume now).2, now⟩ := rfl
  rw [hexec]
  cases hallowed : (b.tryConsume now).1 with
  | false => exact ⟨_, rfl, .done _, fun h => absurd h Bool.false_ne_true⟩
  | true =>
      have hrest := atMostAnswered_send fromXdr signedXdr
      exact ⟨_, advance_of_atMostAnswered hrest _, hrest, fun _ => rfl⟩

/-- A limited client: its bucket is filled, and was last asked when the clock was last
    read. -/
structure Limited (capacity rate : ℚ) (s : Submitter Tx) : Prop where
  bucket : ∃ b, s.limiter.bucket = some b ∧ Filled capacity rate b ∧
    b.lastRefill = s.limiter.now
  answered : ∀ t ∈ s.inFlight, AtMostAnswered t

/-- What is left in the bucket of a client. -/
def Submitter.level (s : Submitter Tx) : ℚ :=
  (s.limiter.bucket.map TokenBucket.tokens).getD 0

/-- A call is not before the last one. -/
def CalledAfter (s : Submitter Tx) (a : SubmitAction Tx) : Prop :=
  ∀ signedXdr now, a = .submit signedXdr now → s.limiter.now ≤ now

/-- An answer ends what was waiting for it. -/
theorem answer_step (fromXdr : JsString → Except SubmitError Tx) {s : Submitter Tx} {i : Nat}
    (reply : (o : SubmitOp Tx) → Except SubmitError o.Result)
    (hanswered : ∀ t ∈ s.inFlight, AtMostAnswered t) :
    ((submissions fromXdr).step s (.answer i reply) = none ∨
      ∃ r, (submissions fromXdr).step s (.answer i reply) =
        some { s with inFlight := s.inFlight.set i (.done r) }) ∧
      sendsAt fromXdr s (.answer i reply) = none := by
  cases hget : s.inFlight[i]? with
  | none =>
      refine ⟨.inl ?_, ?_⟩
      · simp only [submissions, hget]
      · simp only [sendsAt, hget]
  | some t =>
      cases hanswered t (List.mem_of_getElem? hget) with
      | done r =>
          refine ⟨.inl ?_, ?_⟩
          · simp only [submissions, hget]
          · simp only [sendsAt, hget]
      | waiting tx f =>
          refine ⟨.inr ⟨f (reply (.sendTransaction tx)), ?_⟩, ?_⟩
          · simp only [submissions, hget, Task.advance]
          · simp only [sendsAt, hget, Task.advance, sends, Bool.false_eq_true, if_false]

/-- A call, as one of the bucket. -/
theorem submit_step (fromXdr : JsString → Except SubmitError Tx) {s : Submitter Tx}
    {b : TokenBucket} (hb : s.limiter.bucket = some b) (signedXdr : JsString) (now : ℚ) :
    ∃ t, (submissions fromXdr).step s (.submit signedXdr now) =
        some ⟨⟨some (b.tryConsume now).2, now⟩, s.inFlight ++ [t]⟩ ∧ AtMostAnswered t ∧
      (Machine.cost (sendsAt fromXdr s (.submit signedXdr now)) : ℚ) ≤
        Machine.cost (admits b now) := by
  obtain ⟨t, hadvance, hanswered, hsends⟩ := start_limited fromXdr signedXdr b now
  have hstart : s.start fromXdr signedXdr now = (t, ⟨some (b.tryConsume now).2, now⟩) := by
    have hlimiter : { s.limiter with now := now } = (⟨some b, now⟩ : Limiter) := by rw [← hb]
    rw [Submitter.start, hlimiter, hadvance]
  refine ⟨t, ?_, hanswered, ?_⟩
  · simp only [submissions, hstart]
  · rw [sendsAt, hstart]
    cases hsent : sends t with
    | false =>
        rw [if_neg Bool.false_ne_true, Machine.cost]
        cases admits b now with
        | none => exact le_rfl
        | some t => exact zero_le_one
    | true => rw [if_pos rfl, admits, hsends hsent, if_pos rfl]

/-- A step of a limited client keeps it so, and is paid for out of its bucket. -/
theorem limited_step {s s' : Submitter Tx} {a : SubmitAction Tx} (hrate : 0 ≤ rate)
    (h : Limited capacity rate s) (hafter : CalledAfter s a)
    (hstep : (submissions fromXdr).step s a = some s') :
    Limited capacity rate s' ∧ s.limiter.now ≤ s'.limiter.now ∧
      (∀ t, sendsAt fromXdr s a = some t → t = s'.limiter.now) ∧
      s'.level + Machine.cost (sendsAt fromXdr s a) ≤ capacity ∧
      s'.level + Machine.cost (sendsAt fromXdr s a) ≤
        s.level + (s'.limiter.now - s.limiter.now) * rate := by
  obtain ⟨⟨b, hb, hfilled, hlast⟩, hanswered⟩ := h
  have hlevel : s.level = b.tokens := by
    rw [Submitter.level, hb]
    rfl
  cases a with
  | submit signedXdr now =>
      -- The bucket is refilled for the time gone by, and then pays for the call.
      have hnow : b.lastRefill ≤ now := hlast ▸ hafter signedXdr now rfl
      obtain ⟨t, hsubmit, hrest, hcost⟩ := submit_step fromXdr hb signedXdr now
      rw [hsubmit] at hstep
      obtain rfl := Option.some.inj hstep
      obtain ⟨-, hcap, hearned⟩ := hfilled.refill hrate hnow
      have hpaid : (b.tryConsume now).2.tokens +
          Machine.cost (sendsAt fromXdr s (.submit signedXdr now)) ≤ (b.refill now).tokens := by
        rw [← tokens_tryConsume b now]
        exact add_le_add le_rfl hcost
      refine ⟨⟨⟨_, rfl, hfilled.tryConsume hrate hnow, lastRefill_tryConsume b now⟩, ?_⟩,
        hlast ▸ hnow, ?_, hpaid.trans hcap, ?_⟩
      · rw [List.forall_mem_append, List.forall_mem_singleton]
        exact ⟨hanswered, hrest⟩
      · intro t ht
        rw [sendsAt] at ht
        split at ht
        · exact (Option.some.inj ht).symm
        · exact absurd ht (by simp only [reduceCtorEq, not_false_eq_true])
      · rw [hlevel, ← hlast]
        exact hpaid.trans hearned
  | answer i reply =>
      -- An answer sends nothing more and leaves the bucket as it is.
      obtain ⟨hnone | ⟨r, hanswer⟩, hsends⟩ := answer_step fromXdr reply hanswered
      · rw [hnone] at hstep
        exact absurd hstep (by simp only [reduceCtorEq, not_false_eq_true])
      · rw [hanswer] at hstep
        obtain rfl := Option.some.inj hstep
        rw [hsends, Machine.cost, add_zero, sub_self, zero_mul, add_zero]
        refine ⟨⟨⟨b, hb, hfilled, hlast⟩, fun t ht => ?_⟩, le_rfl, nofun, ?_, le_rfl⟩
        · rcases List.mem_or_eq_of_mem_set ht with ht | rfl
          · exact hanswered t ht
          · exact .done r
        · exact hlevel.trans_le hfilled.le

/-- A client with a rate limit is a meter too. -/
theorem submissions_metered (hrate : 0 ≤ rate) :
    (submissions fromXdr).Metered CalledAfter (Limited capacity rate) capacity rate
      (fun s => s.limiter.now) Submitter.level (sendsAt fromXdr) where
  nonneg s h := by
    obtain ⟨b, hb, hfilled, -⟩ := h.bucket
    rw [Submitter.level, hb]
    exact hfilled.nonneg
  good _ _ _ h hafter hstep := (limited_step hrate h hafter hstep).1
  forward _ _ _ h hafter hstep := (limited_step hrate h hafter hstep).2.1
  spent _ _ _ t h hafter hstep := (limited_step hrate h hafter hstep).2.2.1 t
  capped _ _ _ h hafter hstep := (limited_step hrate h hafter hstep).2.2.2.1
  earned _ _ _ h hafter hstep := (limited_step hrate h hafter hstep).2.2.2.2

theorem limited_create (Tx : Type) {o : RpcRateLimitOptions} (hsize : 0 ≤ o.bucketSize)
    (now : ℚ) : Limited o.bucketSize (o.refillRate / 1000) (createRpcTxSubmitter Tx (some o) now) :=
  ⟨⟨_, rfl, filled_create hsize _ now, rfl⟩, nofun⟩

end Client

/-- A bucket is never over its size nor below zero, and in a window lets through no more
    than its size and what is refilled in it. A client with a rate limit sends no more
    than that. -/
theorem token_bucket_limits :
    (∀ (capacity rate start : ℚ) (nows : List ℚ), 0 ≤ capacity → 0 ≤ rate →
      (start :: nows).Pairwise (· ≤ ·) →
        bucketCalls.Always (fun b => 0 ≤ b.tokens ∧ b.tokens ≤ capacity)
          (.create capacity rate start) nows ∧
        ∀ lo hi, lo ≤ hi → (countIn lo hi (admitted (.create capacity rate start) nows) : ℚ) ≤
          capacity + (hi - lo) * rate) ∧
    ∀ (Tx : Type) (fromXdr : JsString → Except SubmitError Tx) (o : RpcRateLimitOptions)
      (start : ℚ) (actions : List (SubmitAction Tx)), 0 ≤ o.bucketSize → 0 ≤ o.refillRate →
      (submissions fromXdr).RunWhere CalledAfter (createRpcTxSubmitter Tx (some o) start) actions →
        ∀ lo hi, lo ≤ hi →
          (countIn lo hi (sent fromXdr (createRpcTxSubmitter Tx (some o) start) actions) : ℚ) ≤
            o.bucketSize + (hi - lo) * (o.refillRate / 1000) := by
  refine ⟨?_, ?_⟩
  · intro capacity rate start nows hcapacity hrate hnows
    -- Both halves are of one metered machine: the bucket alone, and the submitter with it.
    have hmeter : bucketCalls.Metered NotBefore (Filled capacity rate) capacity rate
        TokenBucket.lastRefill TokenBucket.tokens admits := bucketCalls_metered hrate
    have hfilled := filled_create hcapacity rate start
    have hwhere := runWhere_of_pairwise (b := .create capacity rate start) hnows
    refine ⟨?_, fun lo hi hle => ?_⟩
    · intro before after b hsplit hrun
      have hkept := Machine.always_of_runWhere hmeter.good hfilled hwhere before after b hsplit hrun
      exact ⟨hkept.nonneg, hkept.le⟩
    · exact Machine.window_le hmeter hrate hcapacity hfilled hwhere hle
        (fun t => decide_eq_true_iff)
  · intro Tx fromXdr o start actions hsize hrate hwhere lo hi hle
    have hrate' : 0 ≤ o.refillRate / 1000 := div_nonneg hrate (by norm_num)
    exact Machine.window_le (submissions_metered hrate') hrate' hsize
      (limited_create Tx hsize start) hwhere hle (fun t => decide_eq_true_iff)

/-- Two tokens, and one more after half a second. -/
theorem token_bucket_limits_burst :
    (countIn 0 500 (admitted (.create 2 (2 / 1000) 0) [0, 0, 0, 500, 500]) : ℚ) ≤
        2 + (500 - 0) * (2 / 1000) ∧
      (countIn 0 0 (sent (fun xdr => .ok xdr) (createRpcTxSubmitter JsString (some ⟨2, 2⟩) 0)
        [.submit [] 0]) : ℚ) ≤ 2 + (0 - 0) * (2 / 1000) :=
  ⟨(token_bucket_limits.1 2 (2 / 1000) 0 [0, 0, 0, 500, 500] (by norm_num) (by norm_num)
      (by norm_num [List.pairwise_cons])).2 0 500 (by norm_num),
    token_bucket_limits.2 JsString (fun xdr => .ok xdr) ⟨2, 2⟩ 0 [.submit [] 0] (by norm_num)
      (by norm_num) ⟨fun _ _ h => by cases h; exact le_rfl, fun _ _ => trivial⟩
      0 0 le_rfl⟩

/-- The bound is met. -/
example : countIn 0 500 (admitted (.create 2 (2 / 1000) 0) [0, 0, 0, 500, 500]) = 3 := by
  decide +kernel

end Payments

end VellarSdk
