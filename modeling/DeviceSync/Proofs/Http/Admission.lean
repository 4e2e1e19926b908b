import DeviceSync.Proofs.Http.Caller

/-!
# Admission without Refill

If no tokens come back, the limit is a plain count: a caller is refused from the moment on at which
it has asked as often as a full bucket has tokens. The main statement says so of any run of an API,
however many callers there are.

Buckets are given up while an API runs, and a caller whose bucket was given up starts with a full
one. That is harmless because only full buckets are given up. What counts is therefore not the
bucket of a caller but its stock, which a caller without a bucket has as well.
-/

namespace DeviceSync.Http

/-! ## The limiter -/

namespace RateLimiter

/-- What a caller has left, whether a bucket is kept for it or not. -/
def stock (l : RateLimiter) (key : RateKey) : Nat :=
  (l.buckets[key]?.map (·.parts)).getD l.fullParts

theorem stock_insert (l : RateLimiter) (key other : RateKey) (b : Bucket) :
    stock { l with buckets := l.buckets.insert key b } other =
      if key = other then b.parts else l.stock other := by
  simp only [stock, Std.HashMap.getElem?_insert, beq_iff_eq]
  split <;> rfl

/-- A limiter without refill that has charged some callers: every caller has one token less for each
time it was charged. -/
structure Spent (burst : Nat) (charged : List RateKey) (l : RateLimiter) : Prop where
  capacity : l.capacity = burst
  rate : l.rate = 0
  stock : ∀ key, l.stock key = (burst - charged.count key) * partsPerToken

namespace Spent

variable {burst : Nat} {charged : List RateKey} {l : RateLimiter} {key : RateKey}

theorem new (burst : Nat) : Spent burst [] (.new burst 0) where
  capacity := rfl
  rate := rfl
  stock key := by simp [RateLimiter.stock, RateLimiter.new, fullParts]

theorem parts_eq (h : Spent burst charged l) {b : Bucket} (hb : l.buckets[key]? = some b) :
    b.parts = (burst - charged.count key) * partsPerToken := by
  rw [← h.stock key, RateLimiter.stock, hb]
  rfl

/-- Without refill only time goes by. -/
theorem refill_eq (h : Spent burst charged l) {b : Bucket}
    (hb : b.parts = (burst - charged.count key) * partsPerToken) (now : Instant) :
    l.refill b now = ⟨b.parts, now⟩ := by
  have hle : b.parts ≤ l.fullParts := by
    rw [hb, fullParts, h.capacity]
    exact Nat.mul_le_mul_right _ (Nat.sub_le ..)
  rw [refill, h.rate, Nat.mul_zero, Nat.add_zero, Nat.min_eq_left hle]

/-- Giving up full buckets takes nothing from anyone and gives nothing to anyone. -/
theorem stock_prune (h : Spent burst charged l) (key : RateKey) (now : Instant) :
    (l.prune now).stock key = l.stock key := by
  have hfull : (l.prune now).fullParts = l.fullParts := rfl
  rw [RateLimiter.stock, RateLimiter.stock, hfull, prune, Std.HashMap.getElem?_filter',
    Std.HashMap.getElem?_map]
  cases hb : l.buckets[key]? with
  | none => rfl
  | some b =>
    have hparts := h.parts_eq hb
    rw [Option.map_some, h.refill_eq hparts]
    by_cases hlt : b.parts < l.fullParts
    · simp [Option.filter, hlt]
    · have heq : b.parts = l.fullParts := by
        apply Nat.le_antisymm _ (Nat.le_of_not_lt hlt)
        rw [hparts, fullParts, h.capacity]
        exact Nat.mul_le_mul_right _ (Nat.sub_le ..)
      simp [Option.filter, heq]

theorem makeRoom (h : Spent burst charged l) (key : RateKey) (now : Instant) :
    Spent burst charged (l.makeRoom key now) := by
  unfold RateLimiter.makeRoom
  split
  · exact ⟨h.capacity, h.rate, fun other ↦ (h.stock_prune other now).trans (h.stock other)⟩
  · exact h

/-- The bucket of a caller holds its stock. -/
theorem bucket_eq (h : Spent burst charged l) (key : RateKey) (now : Instant) :
    l.bucket key now = ⟨(burst - charged.count key) * partsPerToken, now⟩ := by
  have hparts : (l.buckets[key]?.getD (l.fullBucket now)).parts =
      (burst - charged.count key) * partsPerToken := by
    rw [← h.stock key, RateLimiter.stock]
    cases l.buckets[key]? <;> rfl
  rw [bucket, h.refill_eq hparts, hparts]

/-- The limiter after a caller was left with some tokens. -/
theorem insert (h : Spent burst charged l) {tokens : Nat} (now : Instant)
    (htokens : tokens = burst - (charged ++ [key]).count key) :
    Spent burst (charged ++ [key])
      { l with buckets := l.buckets.insert key ⟨tokens * partsPerToken, now⟩ } where
  capacity := h.capacity
  rate := h.rate
  stock other := by
    rw [stock_insert]
    split
    next heq => rw [← heq, htokens]
    next hne => rw [h.stock, List.count_append, List.count_singleton, beq_false_of_ne hne]; rfl

/-- A caller is admitted as long as it was charged less often than a full bucket has tokens, and is
charged once more either way. -/
theorem acquire (h : Spent burst charged l) (key : RateKey) (now : Instant) :
    ((l.acquire key now).2 = true ↔ charged.count key < burst) ∧
      Spent burst (charged ++ [key]) (l.acquire key now).1 := by
  have hroom := h.makeRoom key now
  have hcount : (charged ++ [key]).count key = charged.count key + 1 := by
    rw [List.count_append, List.count_singleton_self]
  unfold RateLimiter.acquire
  dsimp only
  rw [hroom.bucket_eq]
  dsimp only
  by_cases hlt : charged.count key < burst
  · have htokens : burst - charged.count key = burst - (charged ++ [key]).count key + 1 := by
      omega
    have hparts : partsPerToken ≤ (burst - charged.count key) * partsPerToken :=
      Nat.le_mul_of_pos_left _ (Nat.sub_pos_of_lt hlt)
    rw [if_pos hparts, htokens, Nat.add_mul, Nat.one_mul, Nat.add_sub_cancel]
    exact ⟨iff_of_true rfl hlt, hroom.insert now rfl⟩
  · have hnone : burst - charged.count key = 0 := Nat.sub_eq_zero_of_le (Nat.le_of_not_lt hlt)
    have htokens : 0 = burst - (charged ++ [key]).count key := by omega
    rw [hnone, Nat.zero_mul, if_neg (by decide)]
    have hinsert := hroom.insert now htokens
    rw [Nat.zero_mul] at hinsert
    exact ⟨iff_of_false Bool.false_ne_true hlt, hinsert⟩

end Spent

end RateLimiter

/-! ## Requests -/

/-- What can happen to an API. -/
inductive Event where
  | request (r : Request) (time : Instant)
  | rotate (secret : Credential.Secret)

/-- A request, with the clock at which it is answered and the API that it meets. -/
structure Exchange where
  api : Api
  request : Request
  time : Instant

namespace Exchange

/-- The API after the request. -/
def after (e : Exchange) : Api :=
  (e.api.handle e.request e.time).1

def response (e : Exchange) : Response :=
  (e.api.handle e.request e.time).2

/-- The caller that is charged for the request, if it gets as far as the limit: it does not declare
too much, and it is for a limited route. -/
def charged? (e : Exchange) : Option RateKey :=
  if e.api.isTooLarge e.request then none
  else
    ((Route.ofPath? e.request.path).filter Route.isLimited).map fun _ ↦
      rateKey e.api.service.issuer e.request e.time

/-- The same request at the same time, if nobody had been charged yet. -/
def unburdened (e : Exchange) (burst : Nat) : Exchange :=
  { e with api := { e.api with limiter := .new burst 0 } }

end Exchange

/-! ### Routes and the limit -/

section Status

theorem statusOf_ne (e : ServiceError) : statusOf e ≠ 429 := by
  cases e <;> simp [statusOf]

theorem status_ofResult_ne {α : Type} (c : Codec α) (result : Except ServiceError α) :
    (Response.ofResult c result).status ≠ 429 := by
  cases result with
  | ok x => simp [Response.ofResult, Response.json]
  | error e => exact statusOf_ne e

theorem status_call_ne {α β : Type} (s : Service) (c : Codec β)
    (arguments : Except ServiceError α) (run : α → Reply β) :
    (Api.call s c arguments run).2.status ≠ 429 := by
  cases arguments with
  | error e => exact statusOf_ne e
  | ok x => exact status_ofResult_ne c (run x).2

variable {s : Service} {maxBody : Nat} {route : Route} {method : String} {r : Request}
  {now : Instant}

theorem status_answer?_ne {answer : Service × Response}
    (h : Api.answer? s maxBody route method r now = some answer) : answer.2.status ≠ 429 := by
  unfold Api.answer? at h
  split at h
  all_goals cases h
  case h_7 => by_cases hup : s.isUp <;> simp [hup, Response.json]
  case h_8 => simp [Response.text]
  case h_9 => apply status_ofResult_ne
  all_goals apply status_call_ne

/-- A request that gets to its route is not answered as if it had been refused. -/
theorem status_dispatch_ne (a : Api) : (a.dispatch route r now).2.status ≠ 429 := by
  unfold Api.dispatch
  dsimp only
  split
  next h => exact status_answer?_ne h
  next => simp [Response.bare]

end Status

namespace Api

variable {a : Api} {r : Request} {route : Route} {now : Instant}

/-- A route takes no notice of the limiter. -/
theorem dispatch_with_limiter (a : Api) (l : RateLimiter) (route : Route) (r : Request)
    (now : Instant) :
    dispatch { a with limiter := l } route r now =
      ({ (a.dispatch route r now).1 with limiter := l }, (a.dispatch route r now).2) := by
  unfold dispatch
  dsimp only
  split <;> rfl

theorem serve_of_limited (hroute : Route.ofPath? r.path = some route)
    (hlimited : route.isLimited = true) :
    a.serve r now =
      let charge := a.limiter.acquire (rateKey a.service.issuer r now) now
      if charge.2 = true then
        ({ (a.dispatch route r now).1 with limiter := charge.1 }, (a.dispatch route r now).2)
      else ({ a with limiter := charge.1 }, .rateLimited) := by
  unfold serve
  rw [hroute]
  dsimp only
  rw [if_pos hlimited]
  split
  · exact dispatch_with_limiter ..
  · rfl

theorem limiter_serve_of_unlimited
    (hroute : ∀ route, Route.ofPath? r.path = some route → route.isLimited = false) :
    (a.serve r now).1.limiter = a.limiter := by
  unfold serve
  cases hpath : Route.ofPath? r.path with
  | none => rfl
  | some route =>
    dsimp only
    rw [hroute route hpath]
    exact limiter_dispatch a route

theorem handle_of_not_tooLarge (hsize : a.isTooLarge r = false) :
    (a.handle r now).1 = (a.serve r now).1 ∧
      (a.handle r now).2 = if wantsHead r then { (a.serve r now).2 with body := "" }
        else (a.serve r now).2 := by
  unfold handle
  rw [hsize]
  exact ⟨rfl, rfl⟩

end Api

namespace Exchange

variable {e : Exchange} {key : RateKey}

theorem of_charged?_eq_some (h : e.charged? = some key) :
    e.api.isTooLarge e.request = false ∧
      ∃ route, Route.ofPath? e.request.path = some route ∧ route.isLimited = true ∧
        key = rateKey e.api.service.issuer e.request e.time := by
  unfold charged? at h
  split at h
  next => cases h
  next hsize =>
    obtain ⟨route, hroute, hkey⟩ := Option.map_eq_some_iff.1 h
    obtain ⟨hroute, hlimited⟩ := Option.filter_eq_some_iff.1 hroute
    exact ⟨Bool.eq_false_iff.2 hsize, route, hroute, hlimited, hkey.symm⟩

/-- A request that is charged to nobody does not touch the limiter. -/
theorem limiter_of_charged?_eq_none (h : e.charged? = none) :
    e.after.limiter = e.api.limiter := by
  unfold after
  cases hsize : e.api.isTooLarge e.request with
  | true =>
    unfold Api.handle
    rw [hsize]
    rfl
  | false =>
    rw [(Api.handle_of_not_tooLarge hsize).1]
    apply Api.limiter_serve_of_unlimited
    intro route hroute
    rw [charged?, hsize, hroute] at h
    simpa using h

/-- A request that is charged is answered by its route or refused, as the limiter says. The route
answers in the same way whatever the limiter is. -/
theorem exists_routed (h : e.charged? = some key) :
    ∃ routed : Api × Response, routed.2.status ≠ 429 ∧
      ∀ l, (l.acquire key e.time).2 = true →
        let e' := { e with api := { e.api with limiter := l } }
        e'.after = { routed.1 with limiter := (l.acquire key e.time).1 } ∧
          e'.response = routed.2 := by
  obtain ⟨hsize, route, hroute, hlimited, rfl⟩ := of_charged?_eq_some h
  let answer := (e.api.dispatch route e.request e.time).2
  refine ⟨((e.api.dispatch route e.request e.time).1,
    if Api.wantsHead e.request then { answer with body := "" } else answer), ?_, ?_⟩
  · have hstatus : answer.status ≠ 429 := status_dispatch_ne e.api
    dsimp only
    split
    · exact hstatus
    · exact hstatus
  · intro l hadmitted e'
    have hsize' : e'.api.isTooLarge e'.request = false := hsize
    have hserve : e'.api.serve e'.request e'.time =
        ({ (e.api.dispatch route e.request e.time).1 with
            limiter := (l.acquire (rateKey e.api.service.issuer e.request e.time) e.time).1 },
          answer) := by
      rw [Api.serve_of_limited hroute hlimited]
      dsimp only
      rw [if_pos hadmitted, Api.dispatch_with_limiter]
    obtain ⟨hafter, hresponse⟩ := Api.handle_of_not_tooLarge hsize'
    rw [hserve] at hafter hresponse
    exact ⟨hafter, hresponse⟩

theorem refused (h : e.charged? = some key)
    (hrefused : (e.api.limiter.acquire key e.time).2 = false) :
    e.after = { e.api with limiter := (e.api.limiter.acquire key e.time).1 } ∧
      e.response.status = 429 := by
  obtain ⟨hsize, route, hroute, hlimited, rfl⟩ := of_charged?_eq_some h
  have hserve : e.api.serve e.request e.time =
      ({ e.api with
          limiter := (e.api.limiter.acquire
            (rateKey e.api.service.issuer e.request e.time) e.time).1 },
        .rateLimited) := by
    rw [Api.serve_of_limited hroute hlimited]
    dsimp only
    rw [if_neg (Bool.eq_false_iff.1 hrefused)]
  obtain ⟨hafter, hresponse⟩ := Api.handle_of_not_tooLarge hsize
  rw [hserve] at hafter hresponse
  refine ⟨hafter, ?_⟩
  rw [response, hresponse]
  split <;> rfl

theorem limiter_of_charged?_eq_some (h : e.charged? = some key) :
    e.after.limiter = (e.api.limiter.acquire key e.time).1 := by
  cases hadmitted : (e.api.limiter.acquire key e.time).2 with
  | true =>
    obtain ⟨routed, -, hrouted⟩ := exists_routed h
    exact congrArg Api.limiter (hrouted e.api.limiter hadmitted).1
  | false => exact congrArg Api.limiter (refused h hadmitted).1

end Exchange

/-! ## Runs -/

/-- The requests of a run, each with the API that it met. -/
def Api.exchanges (a : Api) : List Event → List Exchange
  | [] => []
  | .request r time :: events =>
    let e : Exchange := ⟨a, r, time⟩
    e :: e.after.exchanges events
  | .rotate secret :: events =>
    { a with service := a.service.rotate secret }.exchanges events

/-- The callers that some requests are charged to. -/
def charges (exchanges : List Exchange) : List RateKey :=
  exchanges.filterMap Exchange.charged?

/-- Every request of a run meets a limiter that has charged the requests before it. -/
theorem RateLimiter.Spent.exchanges {burst : Nat} {charged : List RateKey} {a : Api}
    (h : Spent burst charged a.limiter) {events : List Event} {k : Nat} {e : Exchange}
    (hk : (a.exchanges events)[k]? = some e) :
    Spent burst (charged ++ charges ((a.exchanges events).take k)) e.api.limiter := by
  induction events generalizing a charged k with
  | nil => exact nomatch hk
  | cons event events ih =>
    cases event with
    | rotate secret => exact ih (a := { a with service := a.service.rotate secret }) h hk
    | request r time =>
      cases k with
      | zero =>
        obtain rfl := Option.some.inj hk
        simpa [charges] using h
      | succ k =>
        let first : Exchange := ⟨a, r, time⟩
        have hfirst : Spent burst (charged ++ first.charged?.toList) first.after.limiter := by
          cases hcharged : first.charged? with
          | none =>
            rw [Exchange.limiter_of_charged?_eq_none hcharged, Option.toList_none, List.append_nil]
            exact h
          | some key =>
            rw [Exchange.limiter_of_charged?_eq_some hcharged]
            exact (h.acquire key time).2
        have hrest := ih hfirst hk
        rw [List.append_assoc] at hrest
        have hcharges : charges ((a.exchanges (.request r time :: events)).take (k + 1)) =
            first.charged?.toList ++ charges ((first.after.exchanges events).take k) := by
          rw [Api.exchanges, List.take_succ_cons, charges, charges]
          cases hcharged : first.charged? with
          | none => rw [List.filterMap_cons_none hcharged]; rfl
          | some key => rw [List.filterMap_cons_some hcharged]; rfl
        rwa [hcharges]

/-- Without refill a request is refused if and only if its caller was charged before as often as a
full bucket has tokens, whoever else was charged in the meantime. A refused request leaves the
service as it was. One that is not refused is answered as if nobody had been charged yet. -/
theorem refused_iff (settings : Settings) (hrefill : settings.refillRate = 0) (service : Service)
    (events : List Event) (k : Nat) (e : Exchange) (key : RateKey) :
    let exchanges := (Api.new settings service).exchanges events
    exchanges[k]? = some e → e.charged? = some key →
      (e.response.status = 429 ↔ settings.burst ≤ (charges (exchanges.take k)).count key) ∧
      (e.response.status = 429 → e.after.service = e.api.service) ∧
      (e.response.status ≠ 429 →
        e.response = (e.unburdened settings.burst).response ∧
          e.after.service = (e.unburdened settings.burst).after.service) := by
  intro exchanges hk hcharged
  have hspent : RateLimiter.Spent settings.burst (charges (exchanges.take k)) e.api.limiter := by
    have hstart : RateLimiter.Spent settings.burst [] (Api.new settings service).limiter := by
      rw [Api.new, hrefill]
      exact .new settings.burst
    exact hstart.exchanges hk
  obtain ⟨routed, hstatus, hrouted⟩ := Exchange.exists_routed hcharged
  have hadmitted := (hspent.acquire key e.time).1
  by_cases hlt : (charges (exchanges.take k)).count key < settings.burst
  · obtain ⟨hafter, hresponse⟩ := hrouted e.api.limiter (hadmitted.2 hlt)
    have hne : e.response.status ≠ 429 := by
      rw [hresponse]
      exact hstatus
    have hfresh : ((RateLimiter.new settings.burst 0).acquire key e.time).2 = true :=
      ((RateLimiter.Spent.new settings.burst).acquire key e.time).1.2 (Nat.zero_lt_of_lt hlt)
    obtain ⟨hafter', hresponse'⟩ := hrouted _ hfresh
    refine ⟨iff_of_false hne (Nat.not_le_of_lt hlt), fun h ↦ absurd h hne, fun _ ↦ ⟨?_, ?_⟩⟩
    · exact hresponse.trans hresponse'.symm
    · exact (congrArg Api.service hafter).trans (congrArg Api.service hafter').symm
  · have hrefused := Bool.eq_false_iff.2 (mt hadmitted.1 hlt)
    obtain ⟨hafter, hresponse⟩ := Exchange.refused hcharged hrefused
    refine ⟨iff_of_true hresponse (Nat.le_of_not_lt hlt), fun _ ↦ ?_, fun h ↦ absurd hresponse h⟩
    rw [hafter]

/-- A caller at no known address that asks twice where everybody may ask once. -/
theorem refused_iff_second :
    let settings := { Settings.standard "localhost" with burst := 1, refillRate := 0 }
    let secret : Credential.Secret := ⟨.replicate 32 0, by decide⟩
    let issuer : Credential.Issuer := .new settings.issuer
      (Service.lifetimeOf settings.accessSeconds) (Service.lifetimeOf settings.refreshSeconds) secret
    let service := Service.assemble settings issuer (Service.backendOf settings [])
    let r : Request := ⟨"GET", "/v1/status", [], "", none⟩
    let first : Exchange := ⟨.new settings service, r, .epoch⟩
    let second : Exchange := ⟨first.after, r, .epoch⟩
    let exchanges := (Api.new settings service).exchanges [.request r .epoch, .request r .epoch]
    settings.refillRate = 0 ∧ exchanges[1]? = some second ∧ second.charged? = some .anonymous ∧
      settings.burst ≤ (charges (exchanges.take 1)).count .anonymous ∧
      second.response.status = 429 ∧ second.after.service = second.api.service := by
  intro settings secret issuer service r first second exchanges
  have hsecond : exchanges[1]? = some second := rfl
  have hcharged : second.charged? = some .anonymous := by decide
  have hcount : settings.burst ≤ (charges (exchanges.take 1)).count .anonymous := by decide
  obtain ⟨hiff, hservice, -⟩ := refused_iff settings rfl service
    [.request r .epoch, .request r .epoch] 1 second .anonymous hsecond hcharged
  have hrefused := hiff.2 hcount
  exact ⟨rfl, hsecond, hcharged, hcount, hrefused, hservice hrefused⟩

end DeviceSync.Http
