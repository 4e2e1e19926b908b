import DeviceSync.Proofs.Http.Admission
import DeviceSync.Proofs.Service.Message
import DeviceSync.Proofs.Service.Readable
import Mathlib.Data.String.Basic

/-!
# Answers That Clients Can Read

A device that syncs may be told of any value that was ever stored and of any conflict that is held
for it. All of these were read from requests, by readers that give up at a certain depth, and the
answer is for the same kind of reader. The values of updates are no deeper in an answer than they
were in a request, but those of conflicts are one level deeper. So a value can be stored that
nobody can be told of once it is in a conflict.
-/

namespace DeviceSync

/-! ## Bodies -/

theorem Text.length_le_utf8ByteSize (s : String) : s.length ≤ s.utf8ByteSize := by
  rw [← String.utf8Len_toList, ← String.length_toList]
  induction s.toList with
  | nil => exact Nat.zero_le _
  | cons c cs ih =>
    rw [String.utf8Len_cons, List.length_cons]
    exact Nat.add_le_add ih c.utf8Size_pos

namespace Http

variable {s : Service} {maxBody : Nat} {route : Route} {method : String} {r : Request}
  {now : Instant}

theorem readBody_eq_ok_iff {α : Type} {c : Codec α} {x : α} :
    readBody c maxBody r = .ok x ↔
      (r.header? "content-type").any MediaType.isJson = true ∧
        r.body.utf8ByteSize ≤ readableLength maxBody r ∧ c.ofText r.body = .ok x := by
  unfold readBody
  by_cases htype : (r.header? "content-type").any MediaType.isJson = true
  · by_cases hsize : readableLength maxBody r < r.body.utf8ByteSize
    · simp [htype, hsize, Nat.not_le_of_lt hsize]
    · cases hread : c.ofText r.body <;> simp [htype, hsize, Nat.le_of_not_lt hsize]
  · simp [htype]

/-- What is known of a batch that was in the body of a request. -/
theorem received_of_readBody {q : SyncRequest}
    (h : readBody SyncRequest.codec maxBody r = .ok q) :
    q.diffs.length < twoTo 64 ∧ ∀ d ∈ q.diffs, d.Received := by
  obtain ⟨-, hsize, hread⟩ := readBody_eq_ok_iff.1 h
  obtain ⟨hlength, hreceived⟩ := SyncRequest.received_of_ofText hread
  refine ⟨?_, hreceived⟩
  calc q.diffs.length
    _ ≤ r.body.length := hlength
    _ ≤ r.body.utf8ByteSize := Text.length_le_utf8ByteSize _
    _ ≤ maxReadable := Nat.le_trans hsize (Nat.min_le_left ..)
    _ < twoTo 64 := by decide

/-! ## Routes as calls -/

/-- The status of a failure is never that of a success. -/
theorem statusOf_ne_ok (e : ServiceError) : statusOf e ≠ 200 := by
  cases e <;> simp [statusOf]

namespace Api

theorem fst_call {α β : Type} (c : Codec β) (arguments : Except ServiceError α)
    (run : α → Reply β) :
    (call s c arguments run).1 = s ∨
      ∃ x, arguments = .ok x ∧ (call s c arguments run).1 = (run x).1 := by
  cases arguments with
  | error e => exact .inl rfl
  | ok x => exact .inr ⟨x, rfl, rfl⟩

/-- A call succeeds with what it was made with, and is answered by what it came to. -/
theorem exists_of_status_call {α β : Type} {c : Codec β} {arguments : Except ServiceError α}
    {run : α → Reply β} (h : (call s c arguments run).2.status = 200) :
    ∃ x y, arguments = .ok x ∧ (run x).2 = .ok y ∧ (call s c arguments run).2 = .json 200 c y := by
  cases arguments with
  | error e => exact absurd h (statusOf_ne_ok e)
  | ok x =>
    change (Response.ofResult c (run x).2).status = 200 at h
    cases hrun : (run x).2 with
    | error e =>
      rw [hrun] at h
      exact absurd h (statusOf_ne_ok e)
    | ok y => exact ⟨x, y, rfl, hrun, congrArg (Response.ofResult c) hrun⟩

theorem withBearer_eq_ok_iff {α : Type} {read : Except ServiceError α} {token : String} {x : α} :
    withBearer r read = .ok (token, x) ↔ r.bearer = .ok token ∧ read = .ok x := by
  unfold withBearer
  cases r.bearer <;> cases read <;> simp [bind, Except.bind, pure, Except.pure]

/-- A route leaves the service alone or makes a call with what it has read. -/
theorem fst_answer? {answer : Service × Response}
    (h : answer? s maxBody route method r now = some answer) :
    answer.1 = s ∨ ∃ request, answer.1 = (s.step ⟨request, now⟩).1 ∧
      ∀ token q, request = .sync token q → readBody SyncRequest.codec maxBody r = .ok q := by
  unfold answer? at h
  split at h
  all_goals cases h
  case h_1 =>
    refine (fst_call ..).imp_right fun ⟨x, _, hrun⟩ ↦ ⟨.authenticate x, hrun, nofun⟩
  case h_2 =>
    refine (fst_call ..).imp_right fun ⟨x, _, hrun⟩ ↦ ⟨.refresh x, hrun, nofun⟩
  case h_3 =>
    refine (fst_call ..).imp_right fun ⟨(token, e), _, hrun⟩ ↦ ⟨.upload token e, hrun, nofun⟩
  case h_4 =>
    refine (fst_call ..).imp_right fun ⟨(token, q), _, hrun⟩ ↦ ⟨.download token q, hrun, nofun⟩
  case h_5 =>
    refine (fst_call ..).imp_right fun ⟨(token, q), hread, hrun⟩ ↦ ⟨.sync token q, hrun, ?_⟩
    rintro _ _ ⟨rfl, rfl⟩
    exact (withBearer_eq_ok_iff.1 hread).2
  case h_6 =>
    refine (fst_call ..).imp_right fun ⟨token, _, hrun⟩ ↦ ⟨.status token, hrun, nofun⟩
  all_goals exact .inl rfl

/-- A route keeps the profiles made of what was read from requests. -/
theorem fed_dispatch {a : Api} (h : a.service.Fed) : (a.dispatch route r now).1.service.Fed := by
  unfold dispatch
  dsimp only
  split
  next service response hanswer =>
    rcases fst_answer? hanswer with rfl | ⟨request, rfl, hread⟩
    · exact h
    · exact h.step fun token q hrequest ↦ (received_of_readBody (hread token q hrequest)).2
  next => exact h

theorem fed_serve {a : Api} (h : a.service.Fed) : (a.serve r now).1.service.Fed := by
  unfold serve
  split
  next => exact h
  next =>
    split
    next =>
      dsimp only
      split
      · exact fed_dispatch h
      · exact h
    next => exact fed_dispatch h

theorem fed_handle {a : Api} (h : a.service.Fed) : (a.handle r now).1.service.Fed := by
  unfold handle
  dsimp only
  split
  · exact h
  · exact fed_serve h

theorem fed_start {settings : Settings} {fresh : Credential.Secret} {a : Api}
    (h : start settings fresh = .ok a) : a.service.Fed := by
  obtain ⟨service, hservice, ha⟩ := bind_eq_ok_iff.1 h
  obtain ⟨issuer, -, hs⟩ := bind_eq_ok_iff.1 hservice
  cases ha
  cases hs
  exact .assemble settings issuer

/-- Every request of a run meets profiles that are made of what was read from requests. -/
theorem fed_exchanges {a : Api} (h : a.service.Fed) {events : List Event} {e : Exchange}
    (he : e ∈ a.exchanges events) : e.api.service.Fed := by
  induction events generalizing a with
  | nil => cases he
  | cons event events ih =>
    cases event with
    | rotate secret => exact ih (a := { a with service := a.service.rotate secret }) ⟨h.1, h.2⟩ he
    | request r time =>
      rcases List.mem_cons.1 he with rfl | he
      · exact h
      · exact ih (fed_handle h) he

/-- The route of syncing succeeds for a batch that the service merges, and for no other. -/
theorem exists_response_of_answer? {answer : Service × Response}
    (h : answer? s maxBody .sync method r now = some answer) (hstatus : answer.2.status = 200) :
    method = "POST" ∧ ∃ token q response, r.bearer = .ok token ∧
      readBody SyncRequest.codec maxBody r = .ok q ∧ (s.sync token q now).2 = .ok response ∧
      answer.2 = .json 200 SyncResponse.codec response := by
  unfold answer? at h
  split at h
  case h_5 =>
    obtain rfl := Option.some.inj h
    obtain ⟨⟨token, q⟩, response, hread, hsync, hresponse⟩ := exists_of_status_call hstatus
    obtain ⟨hbearer, hread⟩ := withBearer_eq_ok_iff.1 hread
    exact ⟨rfl, token, q, response, hbearer, hread, hsync, hresponse⟩
  all_goals contradiction

theorem status_handle (a : Api) :
    (a.handle r now).2.status =
      if a.isTooLarge r then 413 else (a.serve r now).2.status := by
  unfold handle
  cases a.isTooLarge r <;> cases wantsHead r <;> rfl

/-- A request to a limited route is only successful if it is not too long, gets past the limit and
finds that the route has its method. -/
theorem exists_answer_of_handle {a : Api} (hroute : Route.ofPath? r.path = some route)
    (hlimited : route.isLimited = true) (h : (a.handle r now).2.status = 200) :
    ∃ answer,
      answer? a.service a.maxBody route (if r.method = "HEAD" then "GET" else r.method) r now =
          some answer ∧ answer.2.status = 200 ∧
        (wantsHead r = false → (a.handle r now).2 = answer.2) := by
  rw [status_handle] at h
  split at h
  next => exact absurd h (by decide)
  next hsize =>
    have hresponse : (a.handle r now).2 = _ :=
      (handle_of_not_tooLarge (Bool.eq_false_iff.2 hsize)).2
    rw [serve_of_limited hroute hlimited] at hresponse h
    dsimp only at hresponse h
    split at h
    next hadmitted =>
      rw [if_pos hadmitted] at hresponse
      unfold dispatch at hresponse h
      dsimp only at hresponse h
      split at h
      next service response hanswer =>
        refine ⟨(service, response), hanswer, h, fun hhead ↦ ?_⟩
        rw [hresponse, hanswer, hhead]
        rfl
      next => exact absurd (show (405 : Nat) = 200 from h) (by decide)
    next => exact absurd (show (429 : Nat) = 200 from h) (by decide)

end Api

namespace Exchange

variable {e : Exchange}

/-- A device that syncs with success has sent a batch that was merged. -/
theorem exists_response (hpath : e.request.path = Route.sync.path)
    (hstatus : e.response.status = 200) :
    ∃ token q response, e.request.bearer = .ok token ∧
      readBody SyncRequest.codec e.api.maxBody e.request = .ok q ∧
      (e.api.service.sync token q e.time).2 = .ok response ∧
      e.response = .json 200 SyncResponse.codec response := by
  have hroute : Route.ofPath? e.request.path = some .sync := by
    rw [hpath]
    decide
  obtain ⟨answer, hanswer, hstatus, hwhole⟩ :=
    Api.exists_answer_of_handle hroute rfl hstatus
  obtain ⟨hmethod, token, q, response, hbearer, hread, hsync, hresponse⟩ :=
    Api.exists_response_of_answer? hanswer hstatus
  have hhead : Api.wantsHead e.request = false := by
    have hne : e.request.method ≠ "HEAD" := by
      intro heq
      rw [if_pos heq] at hmethod
      exact absurd hmethod (by decide)
    rw [Api.wantsHead, decide_eq_false hne, Bool.false_and]
  exact ⟨token, q, response, hbearer, hread, hsync, (hwhole hhead).trans hresponse⟩

end Exchange

/-- A batch in good order gets its answer. -/
theorem Api.handle_sync {a : Api} {token : String} {q : SyncRequest} {response : SyncResponse}
    (hroute : Route.ofPath? r.path = some .sync) (hmethod : r.method = "POST")
    (hsize : a.isTooLarge r = false)
    (hadmitted : (a.limiter.acquire (rateKey a.service.issuer r now) now).2 = true)
    (hbearer : r.bearer = .ok token) (hread : readBody SyncRequest.codec a.maxBody r = .ok q)
    (hresponse : (a.service.sync token q now).2 = .ok response) :
    (a.handle r now).2 = .json 200 SyncResponse.codec response := by
  have hhead : r.method ≠ "HEAD" := by
    rw [hmethod]
    decide
  have hcall : (call a.service SyncResponse.codec
      (withBearer r (readBody SyncRequest.codec a.maxBody r)) fun x ↦
        a.service.sync x.1 x.2 now).2 = .json 200 SyncResponse.codec response := by
    rw [withBearer_eq_ok_iff.2 ⟨hbearer, hread⟩]
    exact congrArg (Response.ofResult SyncResponse.codec) hresponse
  have hwants : wantsHead r = false := by
    rw [wantsHead, decide_eq_false hhead, Bool.false_and]
  rw [(handle_of_not_tooLarge hsize).2, hwants, serve_of_limited hroute rfl]
  dsimp only
  rw [if_pos hadmitted, dispatch, if_neg hhead, hmethod]
  exact hcall

section FirstRequest

open Credential (Claims Issuer Secret Token.sign)
open Profile (Diff Engine)

/-- A request of a device that hands in a batch. -/
def Request.sync (secret : Secret) (c : Claims) (body : String) : Request where
  method := "POST"
  target := "/v1/profiles/sync"
  headers := [("Authorization", "Bearer " ++ Token.sign secret c),
    ("Content-Type", "application/json")]
  body
  peer := none

namespace Request

variable {secret : Secret} {c : Claims} {body : String}

theorem route_sync : Route.ofPath? (Request.sync secret c body).path = some .sync := by
  unfold path pathAndQuery
  dsimp only [Request.sync]
  decide

theorem bearer_sync : (Request.sync secret c body).bearer = .ok (Token.sign secret c) :=
  bearer_of_sign (.inl rfl) rfl

theorem declaredLength?_sync : declaredLength? (Request.sync secret c body) = none := by
  have hauth : Text.asciiLower "Authorization" ≠ "content-length" := by decide
  have htype : Text.asciiLower "Content-Type" ≠ "content-length" := by decide
  have hheader : (Request.sync secret c body).header? "content-length" = none := by
    simp [header?, Request.sync, hauth, htype]
  rw [declaredLength?, hheader, Option.bind_none]

theorem header?_sync :
    (Request.sync secret c body).header? "content-type" = some "application/json" := by
  have hauth : Text.asciiLower "Authorization" ≠ "content-type" := by decide
  have htype : Text.asciiLower "Content-Type" = "content-type" := by decide
  have hreadable : "application/json".toList.all isReadable = true := by decide
  simp only [header?, Request.sync, List.find?_cons, htype, decide_eq_false hauth, decide_true,
    Option.bind_some, if_pos hreadable]

theorem readBody_sync {q : SyncRequest} (hread : SyncRequest.codec.ofText body = .ok q)
    (hbody : body.utf8ByteSize ≤ min maxReadable maxBody) :
    readBody SyncRequest.codec maxBody (Request.sync secret c body) = .ok q := by
  refine readBody_eq_ok_iff.2 ⟨?_, ?_, hread⟩
  · rw [header?_sync]
    decide
  · rw [readableLength, declaredLength?_sync, Option.getD_none, Nat.min_self]
    exact hbody

end Request

/-- The first request to an API: a device hands in a batch. -/
theorem Api.handle_first {settings : Settings} (hrefill : settings.refillRate = 0)
    (hburst : 0 < settings.burst) {issuer : Issuer} {secret : Secret} {c : Claims}
    (hvalidate : issuer.validate (Token.sign secret c) .access now = .ok c) {q : SyncRequest}
    (hown : Service.foreignDevice? c.device q.diffs = none) {body : String}
    (hread : SyncRequest.codec.ofText body = .ok q)
    (hbody : body.utf8ByteSize ≤ min maxReadable settings.maxBody) :
    let service := Service.assemble settings issuer (Service.backendOf settings [])
    ((Api.new settings service).handle (.sync secret c body) now).2 =
      .json 200 SyncResponse.codec
        (Service.syncResponse (service.engine.sync c.user c.device q.diffs now).2) := by
  intro service
  let r := Request.sync secret c body
  have hsize : (Api.new settings service).isTooLarge r = false := by
    rw [Api.isTooLarge, Request.declaredLength?_sync, Option.any_none]
  have hadmitted : ((RateLimiter.new settings.burst settings.refillRate).acquire
      (rateKey issuer r now) now).2 = true := by
    rw [hrefill]
    exact ((RateLimiter.Spent.new settings.burst).acquire _ now).1.2 hburst
  exact Api.handle_sync Request.route_sync rfl hsize hadmitted Request.bearer_sync
    (Request.readBody_sync hread hbody) (Service.sync_eq_ok_iff.2 ⟨c, hvalidate, hown, rfl⟩)

/-! ### Values in arrays in arrays -/

namespace Nested

/-- Nothing inside a number of arrays. -/
def value : Nat → Json
  | 0 => .null
  | n + 1 => .array [value n]

theorem depth_value (n : Nat) : (value n).depth = n := by
  induction n with
  | zero => rfl
  | succ n ih =>
    change max (value n).depth 0 + 1 = n + 1
    rw [ih, Nat.max_zero]

theorem plain_value (n : Nat) : (value n).Plain := by
  induction n with
  | zero => exact ⟨trivial, trivial⟩
  | succ n ih => exact ⟨⟨ih.1, trivial⟩, ⟨ih.2, trivial⟩⟩

/-- Two diffs of one field from its first version, with the same value. The second one is late. -/
def batch (n : Nat) : SyncRequest :=
  let d : Diff := ⟨"dns_settings", 0, value n, "", .epoch⟩
  ⟨[d, d]⟩

theorem ofText_batch {n : Nat} (hn : n ≤ Diff.room) :
    SyncRequest.codec.ofText (SyncRequest.codec.toText (batch n)) = .ok (batch n) := by
  have hdiffs : ∀ d ∈ (batch n).diffs, d = ⟨"dns_settings", 0, value n, "", .epoch⟩ := by
    simp [batch]
  have hfits : (batch n).Fits := fun d hd ↦ hdiffs d hd ▸ ⟨twoTo_pos 64, plain_value n⟩
  refine hfits.carries.ofText_toText (SyncRequest.depth_encode_le_iff.2 fun d hd ↦ ?_)
  rw [hdiffs d hd, depth_value]
  exact hn

theorem utf8ByteSize_toText {α : Type} (c : Codec α) (x : α) :
    (c.toText x).utf8ByteSize = String.utf8Len (c.encode x).write := by
  rw [Codec.toText, Json.compact, String.utf8ByteSize_ofList]

def settings : Settings :=
  { Settings.standard "localhost" with refillRate := 0 }

def secret : Secret := ⟨.replicate 32 0, by decide⟩

def service : Service :=
  .assemble settings (.new settings.issuer (Service.lifetimeOf settings.accessSeconds)
    (Service.lifetimeOf settings.refreshSeconds) secret) (Service.backendOf settings [])

def claims : Claims :=
  ⟨"a", "a", Credential.userOf "a", .access, settings.issuer, 0, 3600⟩

theorem validate_claims :
    service.issuer.validate (Token.sign secret claims) .access .epoch = .ok claims :=
  Issuer.validate_sign_of_mem (c := claims) List.mem_cons_self ⟨by decide, by decide⟩
    ⟨by decide, rfl⟩ ⟨rfl, rfl⟩ (by decide)

/-- The device sends the batch before anything else is asked. -/
def exchange (n : Nat) : Exchange :=
  ⟨.new settings service, .sync secret claims (SyncRequest.codec.toText (batch n)), .epoch⟩

def outcome (n : Nat) : Profile.Outcome :=
  (service.engine.sync claims.user claims.device (batch n).diffs .epoch).2

theorem response_exchange {n : Nat} (hn : n ≤ Diff.room)
    (hbody : (SyncRequest.codec.toText (batch n)).utf8ByteSize ≤ 1024 * 1024) :
    (exchange n).response = .json 200 SyncResponse.codec (Service.syncResponse (outcome n)) := by
  have hown : Service.foreignDevice? claims.device (batch n).diffs = none := rfl
  rw [Exchange.response]
  exact Api.handle_first rfl (by decide) validate_claims hown (ofText_batch hn) hbody

end Nested

end FirstRequest

/-! ## Runs -/

/-- A successful answer to a device that syncs can be read again exactly if each value in its
conflicts leaves a level free: a value has three levels around it in a request and in an update,
but four in a conflict. -/
theorem sync_readable_iff {settings : Settings} {fresh : Credential.Secret} {a : Api}
    (hstart : Api.start settings fresh = .ok a) {events : List Event} {k : Nat} {e : Exchange}
    (he : (a.exchanges events)[k]? = some e) (hpath : e.request.path = "/v1/profiles/sync")
    (hstatus : e.response.status = 200) :
    ∃ token claims q, e.request.bearer = .ok token ∧
      e.api.service.issuer.validate token .access e.time = .ok claims ∧
      SyncRequest.codec.ofText e.request.body = .ok q ∧
      let o := (e.api.service.engine.sync claims.user claims.device q.diffs e.time).2
      e.response = .json 200 SyncResponse.codec (Service.syncResponse o) ∧
        (o.syncPoint < twoTo 64 →
          ((∃ x, SyncResponse.codec.ofText e.response.body = .ok x) ↔
            ∀ c ∈ o.conflicts, c.winner.value.depth + 4 ≤ Json.Document.maxDepth ∧
              c.loser.value.depth + 4 ≤ Json.Document.maxDepth)) := by
  obtain ⟨token, q, response, hbearer, hread, hsync, hresponse⟩ :=
    Exchange.exists_response hpath hstatus
  obtain ⟨hlength, hreceived⟩ := received_of_readBody hread
  obtain ⟨claims, hclaims, -, rfl⟩ := Service.sync_eq_ok_iff.1 hsync
  have hfed : e.api.service.Fed :=
    Api.fed_exchanges (Api.fed_start hstart) (List.mem_of_getElem? he)
  refine ⟨token, claims, q, hbearer, hclaims, (readBody_eq_ok_iff.1 hread).2.2, hresponse, ?_⟩
  intro hsyncPoint
  have htells := (hfed.engine.sync (fun device _ ↦ .stamp device) claims.user claims.device
    hreceived e.time).2
  rw [hresponse]
  exact SyncResponse.exists_ofText_iff htells hlength hsyncPoint

section Nested

open Nested
open Profile (Diff Engine)

/-- A value that is one level below the deepest that is accepted gets into a conflict, and the
answer can be read. -/
theorem sync_readable_iff_nested :
    let e := exchange 123
    Api.start settings secret = .ok e.api ∧
      (e.api.exchanges [.request e.request .epoch])[0]? = some e ∧
      e.request.path = "/v1/profiles/sync" ∧ e.response.status = 200 ∧
      ∃ x, SyncResponse.codec.ofText e.response.body = .ok x := by
  intro e
  have hstart : Api.start settings secret = .ok e.api := rfl
  have he : (e.api.exchanges [.request e.request .epoch])[0]? = some e := rfl
  have hpath : e.request.path = "/v1/profiles/sync" := by decide
  have hstatus : e.response.status = 200 :=
    congrArg Response.status (response_exchange (by decide)
      (by rw [utf8ByteSize_toText]; decide +kernel))
  obtain ⟨token, c, q, hbearer, hclaims, hread, -, hiff⟩ :=
    sync_readable_iff hstart he hpath hstatus
  obtain rfl := Except.ok.inj (hbearer.symm.trans Request.bearer_sync)
  obtain rfl := Except.ok.inj (hclaims.symm.trans validate_claims)
  obtain rfl := Except.ok.inj (hread.symm.trans (ofText_batch (by decide)))
  exact ⟨hstart, he, hpath, hstatus, (hiff (by decide +kernel)).2 (by decide +kernel)⟩

/-- The deepest value that is accepted gets into a conflict, and nobody can read the answer. -/
theorem sync_unreadable_nested :
    let e := exchange 124
    Api.start settings secret = .ok e.api ∧
      (e.api.exchanges [.request e.request .epoch])[0]? = some e ∧
      e.request.path = "/v1/profiles/sync" ∧ e.response.status = 200 ∧
      ¬∃ x, SyncResponse.codec.ofText e.response.body = .ok x := by
  intro e
  have hread := ofText_batch (n := 124) (by decide)
  have hresponse : e.response =
      .json 200 SyncResponse.codec (Service.syncResponse (outcome 124)) :=
    response_exchange (by decide) (by rw [utf8ByteSize_toText]; decide +kernel)
  have htells : (outcome 124).TellsOf Diff.Received 2 :=
    ((Engine.madeOf_new _ _).sync (fun device _ ↦ .stamp device) claims.user claims.device
      (SyncRequest.received_of_ofText hread).2 .epoch).2
  refine ⟨rfl, rfl, by decide, congrArg Response.status hresponse, ?_⟩
  rw [hresponse]
  refine mt (SyncResponse.exists_ofText_iff htells (by decide) (by decide +kernel)).1 ?_
  decide +kernel

end Nested

end Http

end DeviceSync
