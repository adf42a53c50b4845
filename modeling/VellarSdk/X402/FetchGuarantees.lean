import VellarSdk.X402.Fetch

/-!
# What the Client Signs

What a seller and an RPC can make the client sign. The client's two entry points
share the builder and differ in what they check before it.

A fetch signs for one option of the challenge it received: eligible, cheapest,
within the maximum, let through by the budget rules, and only an entry that is
that transfer. It signs on its own network, because only options on it are
eligible. `createPayment` has no such check, and there the requirement decides.

## Main definitions

* `networkPassphrase`: The passphrase of a network.
* `NamesNetwork`: A requirement for a network.
* `requestsOf`: The requests of a run.
* `SignsCleared`: What a fetch may sign.

## Theorems

* `passphrase_iff`: Which requirements lead to which passphrase.
* `signs_on_own_network`: When the passphrase is that of the client's network.
* `fetch_signs_cleared`: What a fetch signs and sends.
-/

namespace VellarSdk

namespace X402

open Js Stellar Async

/-- The passphrase of a network. -/
def networkPassphrase : Network → JsString
  | .testnet => "Test SDF Network ; September 2015"
  | .mainnet => "Public Global Stellar Network ; September 2015"

/-- The requirement names the network, by its CAIP-2 id. -/
def NamesNetwork (requirements : JsValue) (network : Network) : Prop :=
  (requirements.field "network").toStr = .ok (caip2ByNetwork network)

/-- A known requirement leads to the passphrase of a network exactly when it
    names that network. -/
theorem passphrase_iff {requirements net : JsValue}
    (hnet : tableLookup networks (requirements.field "network") = .ok net) (network : Network) :
    net.field "passphrase" = .str (networkPassphrase network) ↔
      NamesNetwork requirements network := by
  rcases bind_eq_ok.mp hnet with ⟨name, hname, hlookup⟩
  rw [NamesNetwork, hname, Except.ok.injEq]
  injection hlookup with hlookup
  -- The table has two names, and what it inherits has no passphrase.
  by_cases htestnet : name = js "stellar:testnet"
  · have hpassphrase : net.field "passphrase" = .str (networkPassphrase .testnet) := by
      rw [← hlookup, htestnet]
      rfl
    rw [hpassphrase, htestnet, JsValue.str.injEq]
    cases network <;> decide +kernel
  by_cases hpubnet : name = js "stellar:pubnet"
  · have hpassphrase : net.field "passphrase" = .str (networkPassphrase .mainnet) := by
      rw [← hlookup, hpubnet]
      rfl
    rw [hpassphrase, hpubnet, JsValue.str.injEq]
    cases network <;> decide +kernel
  have hmissing : networks.lookup name = none := by
    simp only [networks, List.lookup_cons, beq_eq_false_iff_ne.mpr htestnet,
      beq_eq_false_iff_ne.mpr hpubnet, List.lookup_nil]
  have hnone : net.field "passphrase" = .undefined := by
    rw [← hlookup, hmissing]
    by_cases hinherited : objectPrototypeKeys.contains name = true
    · simp only [hinherited, if_true]
      rfl
    · simp only [hinherited, Bool.false_eq_true, if_false]
      rfl
  rw [hnone]
  refine iff_of_false (by simp only [reduceCtorEq, not_false_eq_true]) (fun h => ?_)
  cases network with
  | testnet => exact htestnet h
  | mainnet => exact hpubnet h

/-- An option that was chosen from a challenge: it is eligible, its amount is
    within the maximum, and no eligible option is cheaper. -/
structure ChosenFrom (d : X402ClientDeps) (opts : X402PayOptions) (first : Response)
    (requirements : JsValue) (decoded : JsValue) (options : List JsValue) (amount : Int) :
    Prop where
  decoded_eq : decodePaymentRequired d.parse first = .ok decoded
  accepts : decoded.field "accepts" = .arr options
  offered : requirements ∈ options
  eligible : Eligible opts.allowedAssets (caip2ByNetwork d.network) requirements
  parsed : parseAmount (requirements.field "amount") = .ok amount
  affordable : amount ≤ opts.maxAmount
  minimal : ∀ a ∈ options, Eligible opts.allowedAssets (caip2ByNetwork d.network) a →
    ∃ m, parseAmount (a.field "amount") = .ok m ∧ amount ≤ m

theorem challengedFor_spec {d : X402ClientDeps} {opts : X402PayOptions} {first : Response}
    {requirements : JsValue} (h : challengedFor d opts first = .ok requirements) :
    ∃ decoded options amount, ChosenFrom d opts first requirements decoded options amount := by
  rcases bind_eq_ok.mp h with ⟨decoded, hdecoded, h⟩
  rcases bind_eq_ok.mp h with ⟨chosen, hchosen, hret⟩
  rw [← Except.ok.inj hret]
  rcases selectRequirements_spec hchosen with
    ⟨options, amount, hoptions, hmem, heligible, hparsed, hle, hmin⟩
  have hoffered : chosen.1 ∈ options :=
    List.mem_iff_getElem?.mpr ⟨chosen.2, (mem_zipIdx_iff options chosen).mp hmem⟩
  exact ⟨decoded, options, amount, hdecoded, acceptsOf_eq_ok hoptions hoffered, hoffered,
    heligible, hparsed, hle, hmin⟩

/-- Where the calls of `createPayment` stand: they are the builder's. -/
theorem createPayment_sat (d : ClientDeps) (requirements : JsValue) (opts : X402PayOptions) :
    Sat buildHandler (fun tr _ o => BuildStage d requirements tr o) (fun _ _ _ => True)
      (createPayment d requirements opts) [] () := by
  refine sat_lift_bind (fun _ _ => ?_) (fun _ _ => trivial)
  refine (sat_bind _ _ _ _).mpr ?_
  refine (buildSignedPayment_sat d requirements).imp (fun _ _ _ h => h) (fun tr s r _ => ?_)
  cases r <;> trivial

/-- A network that no table knows is refused at once. -/
theorem buildSignedPayment_unknown (d : ClientDeps) {requirements net : JsValue}
    (hnet : tableLookup networks (requirements.field "network") = .ok net)
    (hunknown : net.truthy = false) :
    ∃ e, buildSignedPayment d requirements = .done (.error e) := by
  unfold buildSignedPayment
  cases hnetwork : (liftM (requirements.prop "network") : Except JsError JsValue) with
  | error e => exact ⟨e, rfl⟩
  | ok network =>
      rcases JsValue.prop_eq_ok (liftM_eq_ok.mp hnetwork) with ⟨-, rfl⟩
      rw [Task.lift_ok_bind rfl, Task.lift_ok_bind (liftM_eq_ok.mpr hnet), hunknown,
        if_pos Bool.not_false]
      cases (liftM (requirements.field "network").toStr : Except JsError JsString) with
      | error e => exact ⟨e, rfl⟩
      | ok name => exact ⟨_, rfl⟩

theorem createPayment_unknown (d : ClientDeps) {requirements net : JsValue}
    (opts : X402PayOptions)
    (hnet : tableLookup networks (requirements.field "network") = .ok net)
    (hunknown : net.truthy = false) :
    ∃ e, createPayment d requirements opts = .done (.error e) := by
  unfold createPayment
  rcases buildSignedPayment_unknown d hnet hunknown with ⟨e, he⟩
  cases assertPayOptions requirements opts with
  | error e' => exact ⟨e', rfl⟩
  | ok _ =>
      rw [he]
      exact ⟨e, rfl⟩

/-- Whatever the seller, the RPC and the caller do: a fetch signs on the
    client's own network, for a requirement that names it, and `createPayment`
    does so exactly where the requirement it was given names that network. A
    network that no table knows is refused before any call is made. -/
theorem signs_on_own_network (d : X402ClientDeps) :
    (∀ url init tr entryXdr passphrase expirationLedger k,
      Run fetchHandler (x402Fetch d url init) () tr
        (.call (.client (.signAuthEntry entryXdr passphrase expirationLedger)) k) () →
      passphrase = .str (networkPassphrase d.network) ∧
        ∃ first requirements, first.status = 402 ∧
          challengedFor d init.toX402PayOptions first = .ok requirements ∧
          NamesNetwork requirements d.network) ∧
    (∀ requirements opts tr entryXdr passphrase expirationLedger k,
      Run buildHandler (createPayment d.toClientDeps requirements opts) () tr
        (.call (.signAuthEntry entryXdr passphrase expirationLedger) k) () →
      (passphrase = .str (networkPassphrase d.network) ↔
        NamesNetwork requirements d.network)) ∧
    ∀ requirements opts tr t net, tableLookup networks (requirements.field "network") = .ok net →
      net.truthy = false →
      Run buildHandler (createPayment d.toClientDeps requirements opts) () tr t () →
      tr = [] ∧ ∃ e, t = .done (.error e) := by
  refine ⟨?_, ?_, ?_⟩
  · intro url init tr entryXdr passphrase expirationLedger k hrun
    rcases (x402Fetch_sat d url init).at_call hrun with hstage | ⟨hop, -⟩
    swap
    · exact absurd hop (by simp only [reduceCtorEq, not_false_eq_true])
    rcases hstage with ⟨first, requirements, building, hstatus, hchosen, -, amount, time, reads,
      -, hsigns⟩
    rcases hsigns.passphrase with ⟨net, hnet, -, rfl⟩
    rcases challengedFor_spec hchosen with ⟨decoded, options, n, hcleared⟩
    -- The selection asks for the client's own network, which the direct path does not.
    have hnames : NamesNetwork requirements d.network := by
      rw [NamesNetwork, hcleared.eligible.network]
      rfl
    exact ⟨(passphrase_iff hnet d.network).mpr hnames, first, requirements, hstatus, hchosen,
      hnames⟩
  · intro requirements opts tr entryXdr passphrase expirationLedger k hrun
    rcases (createPayment_sat d.toClientDeps requirements opts).at_call hrun with
      ⟨amount, time, reads, -, hsigns⟩
    rcases hsigns.passphrase with ⟨net, hnet, -, rfl⟩
    exact passphrase_iff hnet d.network
  · intro requirements opts tr t net hnet hunknown hrun
    -- An unknown network ends the call before it has begun.
    rcases createPayment_unknown d.toClientDeps opts hnet hunknown with ⟨e, he⟩
    rw [he] at hrun
    rcases run_done hrun with ⟨rfl, rfl, -⟩
    exact ⟨rfl, e, rfl⟩

/-- An expiration that leaves three ledgers, and no more than the ceiling unless
    that is less. -/
def WithinWindow (ceiling : Option JsNum) (latest : Nat) (expirationLedger : JsNum) : Prop :=
  (JsNum.ofNat (latest + 3)).le expirationLedger = true ∧
    expirationLedger.le (((ceiling.getD (JsNum.ofNat 58)).max (JsNum.ofNat 3)).add latest) = true

/-- A timeout that is a number, or is not there. -/
def PlainTimeout (v : JsValue) : Prop :=
  v.nullish = true ∨ ∃ n, v = .num n

/-- For such a timeout the expiration is within its window, unless the ceiling
    is no number, and then neither is the expiration. -/
theorem expirationOffsetFor_window {v : JsValue} {ceiling : Option JsNum} {offset : JsNum}
    (hv : PlainTimeout v) (h : expirationOffsetFor v ceiling = .ok offset) (latest : Nat) :
    (ceiling ≠ some none → WithinWindow ceiling latest (offset.add latest)) ∧
      (ceiling = some none → offset.add latest = none) := by
  -- A plain timeout counts as a number of seconds.
  have hseconds : ∃ n, (v.orElse (.num 120)).toNumber = .ok (some n) := by
    rcases hv with hv | ⟨n, rfl⟩
    · rw [JsValue.orElse, if_pos hv]
      exact ⟨_, rfl⟩
    · exact ⟨n, rfl⟩
  rcases hseconds with ⟨n, hn⟩
  rw [expirationOffsetFor, hn] at h
  have hwindow : ∃ w, ((JsNum.div (some n) 5).ceil.add (-2)) = some w := by
    cases n <;> exact ⟨_, rfl⟩
  rcases hwindow with ⟨w, hw⟩
  -- The ledgers this makes, less the margin, are brought between the two bounds.
  have hoffset : offset = (JsNum.min (some w) (ceiling.getD (JsNum.ofNat 58))).max
      (JsNum.ofNat 3) := by
    rw [← Except.ok.inj h, hw]
  constructor
  · intro hnumber
    have hlimit : ∃ limit, ceiling.getD (JsNum.ofNat 58) = some limit := by
      cases ceiling with
      | none => exact ⟨_, rfl⟩
      | some c => cases c with
        | none => exact absurd rfl hnumber
        | some limit => exact ⟨limit, rfl⟩
    rcases hlimit with ⟨limit, hlimit⟩
    rw [hlimit] at hoffset
    rcases JsNum.le_clamp w limit (.finite (3 : Nat)) with ⟨u, hu, hlow, hhigh⟩
    change _ = some u at hu
    rw [← hu] at hlow hhigh
    rw [hoffset, WithinWindow, hlimit]
    refine ⟨?_, JsNum.le_add hhigh latest⟩
    have hsum : (JsNum.ofNat 3).add latest = JsNum.ofNat (latest + 3) := by
      rw [JsNum.ofNat, JsNum.add, JsNum.ofNat, Nat.add_comm, Nat.cast_add]
    rw [← hsum]
    exact JsNum.le_add hlow latest
  · intro hnan
    rw [hoffset, hnan]
    rfl

/-- The requests of a run. -/
def requestsOf (tr : List FetchEvent) : List RequestInit :=
  tr.filterMap (fun e => match e.op with
    | .request _ sent => some sent
    | _ => none)

/-- The request a fetch is waiting for. -/
def pendingRequest {α : Type} (t : Fetch α) : List RequestInit :=
  match t.pending with
  | some (.request _ sent) => [sent]
  | _ => []

theorem requestsOf_append (tr tr' : List FetchEvent) :
    requestsOf (tr ++ tr') = requestsOf tr ++ requestsOf tr' :=
  List.filterMap_append

/-- The builder sends no requests. -/
theorem requestsOf_openedTrace (url : JsString) (init : X402FetchInit) (first : Response)
    (building : List BuildEvent) :
    requestsOf (openedTrace url init first building) = [baseInit init] := by
  have hbuilding : requestsOf (building.map ofBuildEvent) = [] := by
    rw [requestsOf, List.filterMap_map, List.filterMap_eq_nil_iff]
    intro e _
    rfl
  change baseInit init :: requestsOf (building.map ofBuildEvent) = _
  rw [hbuilding]

/-- A fetch sends the caller's request as it is, and then at most one more, with
    the payment. -/
theorem fetch_requests {d : X402ClientDeps} {url : JsString} {init : X402FetchInit}
    {tr : List FetchEvent} {t : Fetch X402Response}
    (hrun : Run fetchHandler (x402Fetch d url init) () tr t ()) :
    ∃ header, requestsOf tr ++ pendingRequest t <+: [baseInit init, paidInit init header] := by
  -- A request is the first, or it comes after the builder and so after one other.
  have hstage : ∀ tr url' sent, FetchStage d url init tr (.request url' sent) →
      ∃ header, requestsOf tr ++ [sent] <+: [baseInit init, paidInit init header] := by
    intro tr url' sent h
    rcases h.2 with ⟨rfl, rfl⟩ | ⟨o, header, -, rfl, rfl⟩
    · exact ⟨[], by simp only [requestsOf, List.filterMap_nil, List.nil_append]
                    exact ⟨_, rfl⟩⟩
    · rw [requestsOf_openedTrace]
      exact ⟨header, List.prefix_rfl⟩
  have hsat := x402Fetch_sat d url init
  have hsent : ∃ header, requestsOf tr <+: [baseInit init, paidInit init header] := by
    refine hsat.trace_invariant
      (I := fun tr => ∃ header, requestsOf tr <+: [baseInit init, paidInit init header])
      ?_ ⟨[], List.nil_prefix⟩ hrun
    intro tr s op r hI hop
    rw [requestsOf_append]
    cases op with
    | request url' sent => exact hstage tr url' sent hop
    | client op => rwa [show requestsOf [⟨.client op, r⟩] = [] from rfl, List.append_nil]
    | trackerRecord rule amount =>
        rwa [show requestsOf [⟨.trackerRecord rule amount, r⟩] = [] from rfl, List.append_nil]
  cases t with
  | done r => rwa [show pendingRequest (.done r) = [] from rfl, List.append_nil]
  | call op k =>
      cases op with
      | request url' sent => exact hstage tr url' sent (hsat.at_call hrun)
      | client op =>
          rwa [show pendingRequest (.call (.client op) k) = [] from rfl, List.append_nil]
      | trackerRecord rule amount =>
          rwa [show pendingRequest (.call (.trackerRecord rule amount) k) = [] from rfl,
            List.append_nil]

/-- Whatever the seller and the RPC do: what a fetch has the wallet sign is a
    checked entry for one option of the challenge it received, chosen and
    admitted, for a time within its window. Of its requests only the last one
    carries the payment, and there is at most one such unless the caller's own
    headers carry one already. -/
theorem fetch_signs_cleared (d : X402ClientDeps) (url : JsString) (init : X402FetchInit) :
    (∀ tr entryXdr passphrase expirationLedger k,
      Run fetchHandler (x402Fetch d url init) () tr
        (.call (.client (.signAuthEntry entryXdr passphrase expirationLedger)) k) () →
      ∃ first decoded options r amount time reads,
        tr.head? = some ⟨.request url (baseInit init), .ok first⟩ ∧ first.status = 402 ∧
        ChosenFrom d init.toX402PayOptions first r decoded options amount ∧
        (⟨.client .now, .ok time⟩ : FetchEvent) ∈ tr ∧
        BudgetAdmits d.budgetAttributes d.hasTracker (budgetRequest r amount time) reads ∧
        (∀ read ∈ reads, (⟨.client (.trackerSpent read.1), .ok read.2⟩ : FetchEvent) ∈ tr) ∧
        (∃ args built entry, (⟨.client (.build args), .ok (some built)⟩ : FetchEvent) ∈ tr ∧
          entry ∈ built.auth.getD [] ∧
          assertAuthEntryInvocation d.sdk entry (transferOf r d.signerAddress amount) = .ok () ∧
          d.sdk.entryToXdr entry = .ok entryXdr) ∧
        (PlainTimeout (r.field "maxTimeoutSeconds") → ∃ latest,
          (⟨.client .getLatestLedger, .ok latest⟩ : FetchEvent) ∈ tr ∧
          (d.expirationCeiling ≠ some none →
            WithinWindow d.expirationCeiling latest expirationLedger) ∧
          (d.expirationCeiling = some none → expirationLedger = none))) ∧
    ∀ tr t, Run fetchHandler (x402Fetch d url init) () tr t () →
      (∃ header, requestsOf tr ++ pendingRequest t <+: [baseInit init, paidInit init header]) ∧
      ((baseInit init).carriesPayment = false →
        ((requestsOf tr ++ pendingRequest t).filter RequestInit.carriesPayment).length ≤ 1) := by
  constructor
  · intro tr entryXdr passphrase expirationLedger k hrun
    rcases (x402Fetch_sat d url init).at_call hrun with hstage | ⟨hop, -⟩
    swap
    · exact absurd hop (by simp only [reduceCtorEq, not_false_eq_true])
    rcases hstage with ⟨first, r, building, hstatus, hchosen, rfl, amount, time, reads,
      hadmission, hsigns⟩
    rcases challengedFor_spec hchosen with ⟨decoded, options, amount', hfrom⟩
    have hsame : amount' = amount := by
      have hparsed := hfrom.parsed
      rw [hadmission.parsed] at hparsed
      exact (Except.ok.inj hparsed).symm
    subst hsame
    -- Every call of the builder is one of the fetch.
    have hmem : ∀ e ∈ building, ofBuildEvent e ∈ openedTrace url init first building :=
      fun e he => List.mem_cons_of_mem _ (List.mem_map_of_mem he)
    rcases hadmission.trace with ⟨rest, hbuilding, -⟩
    rcases hsigns.entry with ⟨args, built, entry, hbuilt, hentry, hassert, hxdr⟩
    rcases hsigns.expiration with ⟨latest, offset, hledger, hoffset, rfl⟩
    refine ⟨first, decoded, options, r, amount', time, reads, rfl, hstatus, hfrom, ?_,
      hadmission.admits, fun read hread => ?_,
      ⟨args, built, entry, hmem _ hbuilt, hentry, hassert, hxdr⟩, fun htimeout =>
      ⟨latest, hmem _ hledger, expirationOffsetFor_window htimeout hoffset latest⟩⟩
    · refine hmem (clockEvent time) ?_
      rw [hbuilding]
      exact List.mem_cons_self
    · refine hmem (readEvent read) ?_
      rw [hbuilding]
      exact List.mem_cons_of_mem _ (List.mem_append_left _ (List.mem_map_of_mem hread))
  · intro tr t hrun
    rcases fetch_requests hrun with ⟨header, hsent⟩
    refine ⟨⟨header, hsent⟩, fun hplain => ?_⟩
    have hle := (hsent.filter RequestInit.carriesPayment).length_le
    rw [List.filter_cons_of_neg (by rw [hplain]; exact Bool.false_ne_true)] at hle
    exact le_trans hle (List.length_filter_le _ _)

section Sample

/-- A challenge for 100 base units. -/
def fetchChallengeText : JsString :=
  js "\x7b\"accepts\":[\x7b\"scheme\":\"exact\"," ++ js "\"network\":\"stellar:testnet\"," ++
    js "\"asset\":\"" ++ sampleAddress 0 ++ js "\",\"payTo\":\"" ++ sampleAddress 2 ++
    js "\",\"amount\":\"100\"," ++ js "\"extra\":\x7b" ++
    js "\"areFeesSponsored\":true\x7d\x7d]\x7d"

/-- An option of 100 base units on a network. -/
def fetchOption (caip2 : JsString) : JsValue :=
  .obj [(js "scheme", js "exact"), (js "network", caip2), (js "asset", sampleAddress 0),
    (js "payTo", sampleAddress 2), (js "amount", js "100"),
    (js "extra", .obj [(js "areFeesSponsored", .bool true)])]

/-- `JSON.parse` on the challenge. -/
def fetchParse : JsonParse := fun text =>
  if text = fetchChallengeText then
    .ok (.obj [(js "accepts", .arr [fetchOption "stellar:testnet"])])
  else .error "Unexpected token"

/-- A wallet on the test network, with a ceiling on its signatures. -/
def fetchDeps (ceiling : Option JsNum) : X402ClientDeps :=
  { sdk := sampleSdk, signerAddress := sampleAddress 1, budgetAttributes := []
    hasTracker := false, expirationCeiling := ceiling, network := .testnet, parse := fetchParse }

/-- A caller who pays up to 500 base units, with headers of its own. -/
def fetchInit (headers : Option HeaderRecord) : X402FetchInit :=
  { maxAmount := 500, allowedAssets := none, method := none, headers := headers, body := none }

/-- The challenge as a response. -/
def fetchFirst : Response :=
  { status := 402
    headers := [(js "payment-required", btoa (TextEncoder.encode fetchChallengeText))] }

/-- An RPC that simulates the transfer, a wallet that returns what it is given,
    and a server that asks for the payment. -/
def fetchAnswer (time : Int) (res : Response) : (o : FetchOp) → Except JsError o.Ret
  | .client .now => .ok time
  | .client (.trackerSpent _) => .ok 0
  | .client (.build _) => .ok (some ⟨some [sampleEntryOf 7], fun _ => js "AAAA"⟩)
  | .client .getLatestLedger => .ok 1000
  | .client (.signAuthEntry entryXdr _ _) => .ok entryXdr
  | .client (.simulate _) => .ok .missing
  | .request _ _ => .ok res
  | .trackerRecord _ _ => .ok ()

/-- The first `n` replies of a fetch. -/
def fetchRun (ceiling : Option JsNum) (headers : Option HeaderRecord) (n : Nat) :=
  (x402Fetch (fetchDeps ceiling) "https://a" (fetchInit headers)).replay fetchHandler
    (List.replicate n (fetchAnswer 0 fetchFirst)) ()

theorem fetchRun_run (ceiling : Option JsNum) (headers : Option HeaderRecord) (n : Nat) :
    Run fetchHandler (x402Fetch (fetchDeps ceiling) "https://a" (fetchInit headers)) ()
      (fetchRun ceiling headers n).1 (fetchRun ceiling headers n).2.1 () :=
  run_replay _ _ _ _

/-- The payment for an option on some network, up to the signature. -/
def paymentRun (caip2 : JsString) :=
  (createPayment (fetchDeps none).toClientDeps (fetchOption caip2) ⟨500, none⟩).replay
    buildHandler (List.replicate 3 (fun o => fetchAnswer 0 fetchFirst (.client o))) ()

/-- Is this a request to sign on these terms? -/
def asksToSign (passphrase : JsString) (expirationLedger : JsNum) : Option ClientOp → Bool
  | some (.signAuthEntry _ p e) => p.strictEq (.str passphrase) && decide (e = expirationLedger)
  | _ => false

/-- The builder's call among those of a fetch. -/
def FetchOp.client? : FetchOp → Option ClientOp
  | .client op => some op
  | _ => none

theorem asksToSign_eq {passphrase : JsString} {expirationLedger : JsNum} {op : Option ClientOp}
    (h : asksToSign passphrase expirationLedger op = true) :
    ∃ entryXdr, op = some (.signAuthEntry entryXdr (.str passphrase) expirationLedger) := by
  unfold asksToSign at h
  split at h
  · next entryXdr p e =>
      rw [Bool.and_eq_true, JsValue.strictEq_iff_of_str, decide_eq_true_eq] at h
      rw [h.1, h.2]
      exact ⟨entryXdr, rfl⟩
  · exact absurd h Bool.false_ne_true

/-- A fetch that got as far as a signature. -/
theorem fetchRun_signs {ceiling : Option JsNum} {headers : Option HeaderRecord}
    {passphrase : JsString} {expirationLedger : JsNum}
    (h : asksToSign passphrase expirationLedger
      ((fetchRun ceiling headers 4).2.1.pending.bind FetchOp.client?) = true) :
    ∃ entryXdr k, Run fetchHandler (x402Fetch (fetchDeps ceiling) "https://a" (fetchInit headers))
      () (fetchRun ceiling headers 4).1
      (.call (.client (.signAuthEntry entryXdr (.str passphrase) expirationLedger)) k) () := by
  rcases asksToSign_eq h with ⟨entryXdr, hop⟩
  rcases Option.bind_eq_some_iff.mp hop with ⟨op, hpending, hclient⟩
  cases op with
  | client op =>
      injection hclient with hclient
      subst hclient
      exact ⟨entryXdr, run_replay_call _ _ _ hpending⟩
  | _ => exact absurd hclient (by simp only [FetchOp.client?, reduceCtorEq, not_false_eq_true])

/-- A payment that got as far as a signature. -/
theorem paymentRun_signs {caip2 passphrase : JsString} {expirationLedger : JsNum}
    (h : asksToSign passphrase expirationLedger (paymentRun caip2).2.1.pending = true) :
    ∃ entryXdr k, Run buildHandler
      (createPayment (fetchDeps none).toClientDeps (fetchOption caip2) ⟨500, none⟩) ()
      (paymentRun caip2).1 (.call (.signAuthEntry entryXdr (.str passphrase) expirationLedger) k)
      () := by
  rcases asksToSign_eq h with ⟨entryXdr, hop⟩
  exact ⟨entryXdr, run_replay_call _ _ _ hop⟩

/-- A fetch and a payment on the client's own network. -/
theorem signs_on_own_network_sample :
    (∃ tr entryXdr expirationLedger k,
      Run fetchHandler (x402Fetch (fetchDeps none) "https://a" (fetchInit none)) () tr
        (.call (.client (.signAuthEntry entryXdr (.str (networkPassphrase .testnet))
          expirationLedger)) k) () ∧
      ∃ first requirements, first.status = 402 ∧
        challengedFor (fetchDeps none) (fetchInit none).toX402PayOptions first =
          .ok requirements ∧ NamesNetwork requirements .testnet) ∧
    (∃ tr entryXdr expirationLedger k,
      Run buildHandler (createPayment (fetchDeps none).toClientDeps
        (fetchOption "stellar:testnet") ⟨500, none⟩) () tr
        (.call (.signAuthEntry entryXdr (.str (networkPassphrase .testnet)) expirationLedger) k)
        () ∧ NamesNetwork (fetchOption "stellar:testnet") .testnet) ∧
    ∃ e, createPayment (fetchDeps none).toClientDeps (fetchOption "stellar:futurenet")
      ⟨500, none⟩ = .done (.error e) := by
  -- Both paths reach a signature, and the third has no network to sign on.
  have hfetch : asksToSign (networkPassphrase .testnet) (JsNum.ofNat 1022)
    ((fetchRun none none 4).2.1.pending.bind FetchOp.client?) = true := by decide +kernel
  have hpayment : asksToSign (networkPassphrase .testnet) (JsNum.ofNat 1022)
    (paymentRun "stellar:testnet").2.1.pending = true := by decide +kernel
  rcases fetchRun_signs hfetch with ⟨entryXdr, k, hrun⟩
  rcases paymentRun_signs hpayment with ⟨entryXdr', k', hrun'⟩
  have hown := signs_on_own_network (fetchDeps none)
  refine ⟨⟨_, entryXdr, _, k, hrun, (hown.1 _ _ _ _ _ _ _ hrun).2⟩,
    ⟨_, entryXdr', _, k', hrun', (hown.2.1 _ _ _ _ _ _ _ hrun').mp rfl⟩, ?_⟩
  have hunknown : tableLookup networks ((fetchOption "stellar:futurenet").field "network") =
    .ok .undefined := rfl
  rcases hown.2.2 _ ⟨500, none⟩ [] _ _ hunknown rfl (Run.refl _ _) with ⟨-, e, he⟩
  exact ⟨e, he⟩

/-- A requirement for the public network is signed for by a client on the test
    network, with the passphrase of the public one. -/
theorem createPayment_signs_other_network : ¬ ∀ (d : X402ClientDeps) (requirements : JsValue)
    (opts : X402PayOptions) (tr : List BuildEvent) (entryXdr : JsString) (passphrase : JsValue)
    (expirationLedger : JsNum) (k : Except JsError JsString → Build SignedPayment),
    Run buildHandler (createPayment d.toClientDeps requirements opts) () tr
      (.call (.signAuthEntry entryXdr passphrase expirationLedger) k) () →
    passphrase = .str (networkPassphrase d.network) := by
  intro hall
  have hpayment : asksToSign (networkPassphrase .mainnet) (JsNum.ofNat 1022)
    (paymentRun "stellar:pubnet").2.1.pending = true := by decide +kernel
  rcases paymentRun_signs hpayment with ⟨entryXdr, k, hrun⟩
  have hown := hall (fetchDeps none) _ _ _ _ _ _ _ hrun
  rw [JsValue.str.injEq] at hown
  exact absurd hown (by decide +kernel)

/-- Does the challenge offer one option, without a timeout? -/
def offersPlain : Except JsError JsValue → Bool
  | .ok decoded => match decoded.field "accepts" with
    | .arr [option] => (option.field "maxTimeoutSeconds").nullish
    | _ => false
  | .error _ => false

/-- The option of the sample challenge has no timeout. -/
theorem fetchFirst_plain {ceiling : Option JsNum} {headers : Option HeaderRecord} {n : Nat}
    {first : Response} {r decoded : JsValue} {options : List JsValue} {amount : Int}
    (hfirst : (fetchRun ceiling headers (n + 1)).1.head? =
      some ⟨.request "https://a" (baseInit (fetchInit headers)), .ok first⟩)
    (hfrom : ChosenFrom (fetchDeps ceiling) (fetchInit headers).toX402PayOptions first r decoded
      options amount) : PlainTimeout (r.field "maxTimeoutSeconds") := by
  have hsame : first = fetchFirst := by
    injection hfirst with hfirst
    injection hfirst with _ hreply
    injection hreply with hreply
    exact hreply.symm
  have hplain : offersPlain (decodePaymentRequired fetchParse fetchFirst) = true := by
    decide +kernel
  have hdecoded : decodePaymentRequired fetchParse fetchFirst = .ok decoded := by
    rw [← hsame]
    exact hfrom.decoded_eq
  rw [hdecoded, offersPlain, hfrom.accepts] at hplain
  split at hplain
  · next option hoption =>
      have hmem := hfrom.offered
      rw [JsValue.arr.inj hoption, List.mem_singleton] at hmem
      rw [hmem]
      exact .inl hplain
  · exact absurd hplain Bool.false_ne_true

/-- A fetch signs for the option of the challenge, within the window. -/
theorem fetch_signs_cleared_sample : ∃ tr entryXdr passphrase expirationLedger k first r latest,
    Run fetchHandler (x402Fetch (fetchDeps none) "https://a" (fetchInit none)) () tr
      (.call (.client (.signAuthEntry entryXdr passphrase expirationLedger)) k) () ∧
    tr.head? = some ⟨.request "https://a" (baseInit (fetchInit none)), .ok first⟩ ∧
    Eligible none "stellar:testnet" r ∧ WithinWindow none latest expirationLedger ∧
    (requestsOf tr).length ≤ 2 ∧
    ((requestsOf tr).filter RequestInit.carriesPayment).length ≤ 1 := by
  have hfetch : asksToSign (networkPassphrase .testnet) (JsNum.ofNat 1022)
    ((fetchRun none none 4).2.1.pending.bind FetchOp.client?) = true := by decide +kernel
  rcases fetchRun_signs hfetch with ⟨entryXdr, k, hrun⟩
  have hcleared := fetch_signs_cleared (fetchDeps none) "https://a" (fetchInit none)
  rcases hcleared.1 _ _ _ _ _ hrun with
    ⟨first, decoded, options, r, amount, time, reads, hfirst, -, hfrom, -, -, -, -, htimeout⟩
  rcases htimeout (fetchFirst_plain hfirst hfrom) with ⟨latest, -, hwithin, -⟩
  rcases hcleared.2 _ _ hrun with ⟨⟨header, hsent⟩, hcarries⟩
  have hnone : pendingRequest (.call (.client (.signAuthEntry entryXdr
    (.str (networkPassphrase .testnet)) (JsNum.ofNat 1022))) k) = [] := rfl
  rw [hnone, List.append_nil] at hsent hcarries
  exact ⟨_, entryXdr, _, _, k, first, r, latest, hrun, hfirst, hfrom.eligible,
    hwithin (by simp only [fetchDeps, ne_eq, reduceCtorEq, not_false_eq_true]),
    hsent.length_le, hcarries rfl⟩

/-- A caller's own `PAYMENT-SIGNATURE` goes out with both requests, and under a
    ceiling that is no number the expiration is none either. -/
theorem fetch_sends_callers_header :
    (¬ ∀ (d : X402ClientDeps) (url : JsString) (init : X402FetchInit) (tr : List FetchEvent)
      (t : Fetch X402Response), Run fetchHandler (x402Fetch d url init) () tr t () →
      ((requestsOf tr ++ pendingRequest t).filter RequestInit.carriesPayment).length ≤ 1) ∧
    ¬ ∀ (d : X402ClientDeps) (url : JsString) (init : X402FetchInit) (tr : List FetchEvent)
      (entryXdr : JsString) (passphrase : JsValue) (expirationLedger : JsNum)
      (k : Except JsError JsString → Fetch X402Response),
      Run fetchHandler (x402Fetch d url init) () tr
        (.call (.client (.signAuthEntry entryXdr passphrase expirationLedger)) k) () →
      ∃ first decoded options r amount,
        tr.head? = some ⟨.request url (baseInit init), .ok first⟩ ∧
        ChosenFrom d init.toX402PayOptions first r decoded options amount ∧
        (PlainTimeout (r.field "maxTimeoutSeconds") → ∃ latest,
          (⟨.client .getLatestLedger, .ok latest⟩ : FetchEvent) ∈ tr ∧
          WithinWindow d.expirationCeiling latest expirationLedger) := by
  constructor
  · intro hall
    -- The header is in the caller's own request, so it is sent twice.
    have htwo : ((requestsOf (fetchRun none (some [(js "PAYMENT-SIGNATURE", js "x")]) 6).1 ++
      pendingRequest (fetchRun none (some [(js "PAYMENT-SIGNATURE", js "x")]) 6).2.1).filter
      RequestInit.carriesPayment).length = 2 := by decide +kernel
    have hone := hall _ _ _ _ _ (fetchRun_run none (some [(js "PAYMENT-SIGNATURE", js "x")]) 6)
    exact absurd (le_of_eq_of_le htwo.symm hone) (by decide)
  · intro hall
    -- A ceiling of `NaN` makes the expiration one, and that is in no window.
    have hfetch : asksToSign (networkPassphrase .testnet) none
      ((fetchRun (some none) none 4).2.1.pending.bind FetchOp.client?) = true := by decide +kernel
    rcases fetchRun_signs hfetch with ⟨entryXdr, k, hrun⟩
    rcases hall _ _ _ _ _ _ _ _ hrun with
      ⟨first, decoded, options, r, amount, hfirst, hfrom, htimeout⟩
    rcases htimeout (fetchFirst_plain hfirst hfrom) with ⟨latest, -, hlow, -⟩
    exact absurd hlow (by simp only [JsNum.le, Option.isSome_none, Bool.and_false, Bool.false_and,
      Bool.false_eq_true, not_false_eq_true])

end Sample

end X402

end VellarSdk
