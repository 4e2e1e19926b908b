import DeviceSync.Proofs.Service.Page
import DeviceSync.Proofs.Service.Reachable
import Mathlib.Algebra.Order.Floor.Div
import Mathlib.Data.List.Chain

/-!
# Traversals of a Window

A device downloads its manifests page by page, and a page tells where the next one begins as an
offset in a window that does not stand still: uploads append to its end and push out its beginning.
The main statement says what a device gets that goes from page to page while other calls happen in
between. It is done after a number of pages that the retention bounds, it never gets an envelope
twice or out of order, and it misses no more than was pushed out meanwhile. If nothing was, the
pages are the window as it stands at the last of them.

What carries the argument is that an envelope which leaves the window moves all others forward by
one place, so the offset of the next page passes over at most one envelope for each that has left.
If the device and all uploads are let in, the pages follow from what is uploaded alone.

A device that names no time asks for what was created after the epoch, and an envelope may claim any
time. What it gets is therefore not always all that its log holds.
-/

namespace DeviceSync

open Manifest (Envelope Log Store)

/-! ## Windows that move -/

/-- If a list lost its beginning and grew at its end, what stands behind a place before and what
stands behind it after differ by what is passed over, and that is no more than was lost. -/
theorem exists_passed {α : Type} {gone before arrived after : List α} {offset : Nat}
    (h : gone ++ after = before ++ arrived) (hoffset : offset ≤ before.length) :
    ∃ passed, before.drop offset ++ arrived = passed ++ after.drop offset ∧
      passed.length ≤ gone.length := by
  refine ⟨((gone ++ after).drop offset).take gone.length, ?_, List.length_take_le ..⟩
  have hafter : after.drop offset = ((gone ++ after).drop offset).drop gone.length := by
    rw [List.drop_drop, Nat.add_comm, ← List.drop_drop, List.drop_left]
  rw [hafter, List.take_append_drop, h, List.drop_append_of_le_length hoffset]

/-- A log loses its beginning as it grows. -/
theorem Manifest.Log.exists_evicted (retention : Nat) (es arrived : List Envelope)
    (since : Instant) :
    ∃ gone, gone ++ (ofArrivals retention (es ++ arrived)).after since =
      (ofArrivals retention es).after since ++ arrived.filter (since < ·.createdAt) := by
  have hsuffix : (es ++ arrived).rtake retention <:+ es.rtake retention ++ arrived := by
    rw [← rtake_rtake_append]
    exact rtake_suffix ..
  obtain ⟨gone, hgone⟩ := hsuffix
  refine ⟨gone.filter (since < ·.createdAt), ?_⟩
  rw [after, after, ofArrivals, ofArrivals, ← List.filter_append, hgone, List.filter_append]

/-! ## How many pages there are -/

theorem ceilDiv_pos {size items : Nat} (hsize : 0 < size) (hitems : 0 < items) :
    0 < items ⌈/⌉ size := by
  rw [Nat.ceilDiv_eq_add_pred_div]
  exact Nat.div_pos (by omega) hsize

/-- One page less is to come for every page that was not the last. -/
theorem ceilDiv_sub_add {size items offset : Nat} (hsize : 0 < size)
    (hlt : offset + size < items) :
    (items - (offset + size)) ⌈/⌉ size + 1 = (items - offset) ⌈/⌉ size := by
  rw [Nat.ceilDiv_eq_add_pred_div, Nat.ceilDiv_eq_add_pred_div, ← Nat.add_div_right _ hsize]
  congr 1
  omega

namespace Service

/-! ## Traversals -/

/-- One page request of a device: what happens before it, and the credential and the clock with
which it is made. -/
structure Turn where
  before : List Call
  token : String
  time : Instant

/-- A page that was handed out. -/
structure Visit where
  /-- What has come into the window since the request before. -/
  arrived : List Envelope
  /-- The window when the page is asked for. -/
  window : List Envelope
  page : DownloadResponse

/-- A device asks for page after page, until a page says that there are no more, a request is made
without a good credential of the device or fails, or the device has no more turns. -/
def browse (device : String) (since : Option Instant) (s : Service) (pageToken : Option String) :
    List Turn → List Visit
  | [] => []
  | turn :: turns =>
    let t := s.run turn.before
    if t.issuer.bearer? turn.token .access turn.time = some device then
      match t.download turn.token ⟨since, pageToken⟩ turn.time with
      | (_, .error _) => []
      | (u, .ok page) =>
        ⟨(s.arrivals device turn.before).filter (since.getD .epoch < ·.createdAt),
            t.backend.store.manifests device (since.getD .epoch), page⟩ ::
          if page.more then browse device since u page.nextToken turns else []
    else []

/-- Pages go on from a window of which `rest` has not been gone through yet. Between two requests
the window loses its beginning and gains what arrives. What has not been gone through then goes on
with what the page passes over, which is no more than the window lost, then the page, and then what
is left for the pages after it. -/
inductive Proceeds : (window rest : List Envelope) → List Visit → Prop where
  | done {window rest : List Envelope} : Proceeds window rest []
  | next {window rest gone passed left : List Envelope} {v : Visit} {visits : List Visit}
      (hwindow : gone ++ v.window = window ++ v.arrived)
      (hrest : rest ++ v.arrived = passed ++ (v.page.manifests ++ left))
      (hpassed : passed.length ≤ gone.length)
      (hplace : v.page.manifests ++ left <:+ v.window)
      (hmore : v.page.more = true ↔ left ≠ [])
      (hvisits : Proceeds v.window left visits) : Proceeds window rest (v :: visits)

namespace Proceeds

variable {window rest left : List Envelope} {v last : Visit} {visits : List Visit}

/-- No envelope is handed out twice, and none before one that arrived earlier. -/
theorem sublist (h : Proceeds window rest visits) :
    (visits.flatMap (·.page.manifests)).Sublist (rest ++ visits.flatMap (·.arrived)) := by
  induction h with
  | done => exact List.nil_sublist _
  | @next window rest gone passed left v visits hwindow hrest hpassed hplace hmore hvisits ih =>
    rw [List.flatMap_cons, List.flatMap_cons, ← List.append_assoc, hrest, List.append_assoc,
      List.append_assoc]
    exact List.sublist_append_of_sublist_right (List.Sublist.append_left ih _)

/-- As long as the window loses nothing, the pages take all that was left and all that arrives. -/
theorem flatMap_eq_of_kept (h : Proceeds v.window left visits)
    (hkept : List.IsChain (fun v w ↦ w.window = v.window ++ w.arrived) (v :: visits))
    (hmore : v.page.more = true ↔ left ≠ []) (hlast : (v :: visits).getLast? = some last)
    (hend : last.page.more = false) :
    visits.flatMap (·.page.manifests) = left ++ visits.flatMap (·.arrived) ∧
      last.window = v.window ++ visits.flatMap (·.arrived) := by
  induction visits generalizing v left with
  | nil =>
    obtain rfl : v = last := by simpa using hlast
    have hleft : left = [] := by simpa [hend] using hmore
    simp [hleft]
  | cons w visits ih =>
    cases h with
    | @next _ _ gone passed left' _ _ hwindow hrest hpassed hplace hmore' hvisits =>
      obtain ⟨hstep, hkept⟩ := List.isChain_cons_cons.1 hkept
      rw [List.getLast?_cons_cons] at hlast
      obtain ⟨hpages, hwindows⟩ := ih hvisits hkept hmore' hlast
      have hgone : gone = [] := by simpa [← hstep] using hwindow
      have hpassed : passed = [] := by simpa [hgone] using hpassed
      rw [hpassed, List.nil_append] at hrest
      constructor
      · rw [List.flatMap_cons, List.flatMap_cons, hpages, ← List.append_assoc, ← hrest,
          List.append_assoc]
      · rw [hwindows, hstep, List.flatMap_cons, List.append_assoc]

/-- If the window loses nothing from the first page on, the pages are the last window. -/
theorem flatMap_eq_window (h : Proceeds window window visits)
    (hkept : List.IsChain (fun v w ↦ w.window = v.window ++ w.arrived) visits)
    (hlast : visits.getLast? = some last) (hend : last.page.more = false) :
    visits.flatMap (·.page.manifests) = last.window := by
  cases h with
  | done => simp at hlast
  | @next _ _ gone passed left v visits hwindow hrest hpassed hplace hmore hvisits =>
    obtain ⟨hpages, hwindows⟩ := hvisits.flatMap_eq_of_kept hkept hmore hlast hend
    -- The first page begins where its window begins: there is no room before it.
    have hfirst : v.page.manifests ++ left = v.window := by
      apply hplace.eq_of_length_le
      have hlength := congrArg List.length (hwindow.trans hrest)
      simp only [List.length_append] at hlength ⊢
      omega
    rw [List.flatMap_cons, hpages, ← List.append_assoc, hfirst, hwindows]

end Proceeds

/-! ## One page -/

section OnePage

variable {settings : Settings} {s : Service} {device : String} {since : Option Instant}
  {pageToken : Option String} {offset : Nat}

/-- What the page request of a turn gets, at a given offset. -/
def visitAt (s : Service) (device : String) (since : Option Instant) (offset : Nat) (turn : Turn) :
    Visit :=
  let window := (s.run turn.before).backend.store.manifests device (since.getD .epoch)
  ⟨(s.arrivals device turn.before).filter (since.getD .epoch < ·.createdAt), window,
    downloadResponse (.ofList (s.run turn.before).pageSize offset window) turn.time⟩

/-- The service after the page request of a turn. -/
def afterTurn (s : Service) (turn : Turn) : Service :=
  { s.run turn.before with books := countDownload (s.run turn.before).books }

theorem Sound.afterTurn (h : Sound settings s) (turn : Turn) : Sound settings (s.afterTurn turn) :=
  { h.run turn.before with }

theorem issuer_afterTurn (s : Service) (turn : Turn) : (s.afterTurn turn).issuer = s.issuer :=
  issuer_run s turn.before

theorem browse_cons (h : Sound settings s) (hoffset : offsetOf? pageToken = some offset)
    (turn : Turn) (turns : List Turn) :
    s.browse device since pageToken (turn :: turns) =
      if s.issuer.bearer? turn.token .access turn.time = some device then
        s.visitAt device since offset turn ::
          if (s.visitAt device since offset turn).page.more then
            (s.afterTurn turn).browse device since
              (s.visitAt device since offset turn).page.nextToken turns
          else []
      else [] := by
  rw [browse, issuer_run]
  split
  next hbearer =>
    rw [← issuer_run s turn.before] at hbearer
    rw [download_eq (h.run turn.before).down hbearer hoffset]
    rfl
  next => rfl

theorem length_window_le (h : Sound settings s) (turn : Turn) :
    (s.visitAt device since offset turn).window.length ≤ max settings.retention 1 :=
  (List.length_filter_le ..).trans ((h.run turn.before).length_log_le device)

theorem length_window_lt (h : Sound settings s) (hretention : settings.retention < twoTo 64)
    (turn : Turn) : (s.visitAt device since offset turn).window.length < twoTo 64 :=
  (length_window_le h turn).trans_lt (max_lt hretention (by decide))

theorem isPage_visitAt (h : Sound settings s) (hretention : settings.retention < twoTo 64)
    (turn : Turn) :
    IsPage (s.visitAt device since offset turn).window (max settings.pageSize 1) offset
      (s.visitAt device since offset turn).page := by
  rw [← (h.run turn.before).pageSize]
  exact isPage_downloadResponse (length_window_lt h hretention turn) ..

/-- The next page begins within the retention. -/
theorem offset_add_lt (h : Sound settings s) (hretention : settings.retention < twoTo 64)
    {turn : Turn} (hmore : (s.visitAt device since offset turn).page.more = true) :
    offset + max settings.pageSize 1 < max settings.retention 1 :=
  ((isPage_visitAt h hretention turn).more.1 hmore).trans_le (length_window_le h turn)

/-- The token of the next page is read as where it begins. -/
theorem offsetOf?_nextToken (h : Sound settings s) (hretention : settings.retention < twoTo 64)
    {turn : Turn} (hmore : (s.visitAt device since offset turn).page.more = true) :
    offsetOf? (s.visitAt device since offset turn).page.nextToken =
      some (offset + max settings.pageSize 1) := by
  have hpage : IsPage _ _ _ (s.visitAt device since offset turn).page :=
    isPage_visitAt h hretention turn
  obtain ⟨next, hnext⟩ := Option.isSome_iff_exists.1 (hpage.isSome_nextToken.trans hmore)
  rw [hnext]
  exact hpage.offset?_nextToken next hnext

theorem Sound.exists_evicted (h : Sound settings s) (device : String) (since : Instant)
    (calls : List Call) :
    ∃ gone, gone ++ (s.run calls).backend.store.manifests device since =
      s.backend.store.manifests device since ++
        (s.arrivals device calls).filter (since < ·.createdAt) := by
  obtain ⟨es, hlog⟩ := h.log device
  rw [Store.manifests, Store.manifests, h.log_run hlog calls, hlog]
  exact Log.exists_evicted ..

end OnePage

/-! ## Whole traversals -/

section Whole

variable {settings : Settings} {s : Service} {device : String} {since : Option Instant}
  {pageToken : Option String} {offset : Nat}

theorem proceeds_browse (h : Sound settings s) (hretention : settings.retention < twoTo 64)
    (hoffset : offsetOf? pageToken = some offset)
    (hle : offset ≤ (s.backend.store.manifests device (since.getD .epoch)).length)
    (turns : List Turn) :
    Proceeds (s.backend.store.manifests device (since.getD .epoch))
      ((s.backend.store.manifests device (since.getD .epoch)).drop offset)
      (s.browse device since pageToken turns) := by
  -- Service, token and offset go on with the turns; that the offset is in the window is kept.
  induction turns generalizing s pageToken offset with
  | nil => exact .done
  | cons turn turns ih =>
    rw [browse_cons h hoffset]
    split
    next hbearer =>
      obtain ⟨gone, hgone⟩ := h.exists_evicted device (since.getD .epoch) turn.before
      obtain ⟨passed, hrest, hpassed⟩ := exists_passed hgone hle
      have hpage : (s.visitAt device since offset turn).page.manifests ++
          (s.visitAt device since offset turn).window.drop (offset + max settings.pageSize 1) =
            (s.visitAt device since offset turn).window.drop offset := by
        rw [(isPage_visitAt h hretention turn).manifests_eq_take, ← List.drop_drop]
        exact List.take_append_drop ..
      apply Proceeds.next hgone (hrest.trans (congrArg (passed ++ ·) hpage.symm)) hpassed
      · rw [hpage]
        exact List.drop_suffix ..
      · rw [(isPage_visitAt h hretention turn).more, Ne, List.drop_eq_nil_iff, Nat.not_le]
      · split
        next hmore =>
          exact ih (h.afterTurn turn) (offsetOf?_nextToken h hretention hmore)
            (Nat.le_of_lt ((isPage_visitAt h hretention turn).more.1 hmore))
        next => exact .done
    next => exact .done

theorem length_browse_le (h : Sound settings s) (hretention : settings.retention < twoTo 64)
    (hoffset : offsetOf? pageToken = some offset) (hlt : offset < max settings.retention 1)
    (turns : List Turn) :
    (s.browse device since pageToken turns).length ≤
      (max settings.retention 1 - offset) ⌈/⌉ max settings.pageSize 1 := by
  have hsize : 0 < max settings.pageSize 1 := lt_max_of_lt_right Nat.one_pos
  induction turns generalizing s pageToken offset with
  | nil => exact Nat.zero_le _
  | cons turn turns ih =>
    rw [browse_cons h hoffset]
    split
    next hbearer =>
      rw [List.length_cons]
      split
      next hmore =>
        have hnext := offset_add_lt h hretention hmore
        rw [← ceilDiv_sub_add hsize hnext]
        exact Nat.succ_le_succ
          (ih (h.afterTurn turn) (offsetOf?_nextToken h hretention hmore) hnext)
      next => exact ceilDiv_pos hsize (Nat.sub_pos_of_lt hlt)
    next => exact Nat.zero_le _

/-- A device with a good credential for every request, and with enough turns, gets to the end. -/
theorem exists_last_page (h : Sound settings s) (hretention : settings.retention < twoTo 64)
    (hoffset : offsetOf? pageToken = some offset) (hlt : offset < max settings.retention 1)
    {turns : List Turn}
    (hbearer : ∀ turn ∈ turns, s.issuer.bearer? turn.token .access turn.time = some device)
    (hturns : (max settings.retention 1 - offset) ⌈/⌉ max settings.pageSize 1 ≤ turns.length) :
    ∃ last, (s.browse device since pageToken turns).getLast? = some last ∧
      last.page.more = false := by
  have hsize : 0 < max settings.pageSize 1 := lt_max_of_lt_right Nat.one_pos
  induction turns generalizing s pageToken offset with
  | nil => exact absurd hturns (Nat.not_le.2 (ceilDiv_pos hsize (Nat.sub_pos_of_lt hlt)))
  | cons turn turns ih =>
    rw [browse_cons h hoffset, if_pos (hbearer turn List.mem_cons_self)]
    split
    next hmore =>
      have hnext := offset_add_lt h hretention hmore
      have hbearer' : ∀ next ∈ turns, (s.afterTurn turn).issuer.bearer? next.token .access
          next.time = some device := by
        intro next hmem
        rw [issuer_afterTurn]
        exact hbearer next (.tail _ hmem)
      rw [← ceilDiv_sub_add hsize hnext] at hturns
      obtain ⟨last, hlast, hend⟩ := ih (h.afterTurn turn) (offsetOf?_nextToken h hretention hmore)
        hnext hbearer' (Nat.le_of_succ_le_succ hturns)
      exact ⟨last, by rw [List.getLast?_cons, hlast, Option.getD_some], hend⟩
    next hend => exact ⟨_, rfl, by simpa using hend⟩

/-- The visits of a device that is let in at every turn, if every upload is stored. They follow from
what has arrived for the device at all, the offset and what is uploaded before each turn. -/
def visitsOf (settings : Settings) (device : String) (since : Instant) (es : List Envelope)
    (offset : Nat) : List Turn → List Visit
  | [] => []
  | turn :: turns =>
    let arrived := turn.before.filterMap (·.request.envelope? device)
    let window := (Log.ofArrivals (max settings.retention 1) (es ++ arrived)).after since
    let page := downloadResponse (.ofList (max settings.pageSize 1) offset window) turn.time
    ⟨arrived.filter (since < ·.createdAt), window, page⟩ ::
      if page.more then
        visitsOf settings device since (es ++ arrived) (offset + max settings.pageSize 1) turns
      else []

theorem browse_eq_visitsOf (h : Sound settings s) (hretention : settings.retention < twoTo 64)
    {es : List Envelope}
    (hlog : s.backend.store.log device = .ofArrivals (max settings.retention 1) es)
    (hoffset : offsetOf? pageToken = some offset) {turns : List Turn}
    (hbearer : ∀ turn ∈ turns, s.issuer.bearer? turn.token .access turn.time = some device)
    (hadmits : ∀ turn ∈ turns, ∀ c ∈ turn.before, s.Admits c) :
    s.browse device since pageToken turns =
      visitsOf settings device (since.getD .epoch) es offset turns := by
  induction turns generalizing s pageToken offset es with
  | nil => rfl
  | cons turn turns ih =>
    have harrived := h.arrivals_eq_filterMap device (hadmits turn List.mem_cons_self)
    have hlog' := h.log_run hlog turn.before
    rw [harrived] at hlog'
    have hrest (hmore : (s.visitAt device since offset turn).page.more = true) :=
      ih (h.afterTurn turn) hlog' (offsetOf?_nextToken h hretention hmore)
        (fun next hmem ↦ by
          rw [issuer_afterTurn]
          exact hbearer next (.tail _ hmem))
        (fun next hmem c hc ↦ h.admits_run (hadmits next (.tail _ hmem) c hc) turn.before)
    rw [browse_cons h hoffset, if_pos (hbearer turn List.mem_cons_self)]
    rw [visitAt, Store.manifests, hlog', harrived, (h.run turn.before).pageSize] at hrest ⊢
    exact congrArg _ (ite_congr rfl hrest fun _ ↦ rfl)

/-- A device that goes through its manifests, with any calls between the page requests, is done
after no more pages than the retention fills, and gets there if its credential stays good. It gets
no envelope twice and none out of order, and from page to page it passes over no more envelopes
than left the window in between. If none left, the pages are the window as it is at the last of
them. The retention is a word of 64 bits. -/
theorem browse_proceeds (hs : Reachable settings s) (hretention : settings.retention < twoTo 64)
    (device : String) (since : Option Instant) (turns : List Turn) :
    let visits := s.browse device since none turns
    let window := s.backend.store.manifests device (since.getD .epoch)
    let most := max settings.retention 1 ⌈/⌉ max settings.pageSize 1
    visits.length ≤ most ∧
      ((∀ turn ∈ turns, s.issuer.bearer? turn.token .access turn.time = some device) →
        most ≤ turns.length →
        ∃ last, visits.getLast? = some last ∧ last.page.more = false) ∧
      Proceeds window window visits ∧
      (visits.flatMap (·.page.manifests)).Sublist (window ++ visits.flatMap (·.arrived)) ∧
      ∀ last, visits.getLast? = some last → last.page.more = false →
        visits.IsChain (fun v w ↦ w.window = v.window ++ w.arrived) →
        visits.flatMap (·.page.manifests) = last.window := by
  intro visits window most
  have hlt : 0 < max settings.retention 1 := lt_max_of_lt_right Nat.one_pos
  have hproceeds : Proceeds window window visits :=
    proceeds_browse hs.sound hretention rfl (Nat.zero_le _) turns
  refine ⟨length_browse_le hs.sound hretention rfl hlt turns, fun hbearer hturns ↦
    exists_last_page hs.sound hretention rfl hlt hbearer hturns, hproceeds, hproceeds.sublist, ?_⟩
  intro last hlast hend hkept
  exact hproceeds.flatMap_eq_window hkept hlast hend

/-- Four envelopes a device and two a page. Three envelopes are stored, and the device asks for a
page. One more is stored before the second page, and the pages are the window. Or two more are
stored: the first envelope leaves the window, and the second page passes over the third envelope. -/
theorem browse_proceeds_evicting :
    let settings := { Settings.standard "localhost" with retention := 4, pageSize := 2 }
    let secret : Credential.Secret := ⟨.replicate 32 0, by decide⟩
    let issuer : Credential.Issuer := .new settings.issuer (lifetimeOf settings.accessSeconds)
      (lifetimeOf settings.refreshSeconds) secret
    let token := Credential.Token.sign secret firstClaims
    let e (n : UInt8) : Envelope := ⟨"a", [n], "00", ⟨1, 0, by decide⟩⟩
    let upload (n : UInt8) : Call := ⟨.upload token (e n), .epoch⟩
    let fresh := assemble settings issuer (backendOf settings [])
    let s := fresh.run [upload 1, upload 2, upload 3]
    let window := s.backend.store.manifests "a" .epoch
    let growing : List Turn := [⟨[], token, .epoch⟩, ⟨[upload 4], token, .epoch⟩]
    let evicting : List Turn := [⟨[], token, .epoch⟩, ⟨[upload 4, upload 5], token, .epoch⟩]
    let grown := s.browse "a" none none growing
    let evicted := s.browse "a" none none evicting
    Reachable settings s ∧ settings.retention < twoTo 64 ∧ window = [e 1, e 2, e 3] ∧
      (∀ turn ∈ evicting, s.issuer.bearer? turn.token .access turn.time = some "a") ∧
      4 ⌈/⌉ 2 ≤ evicting.length ∧
      evicted.map (·.window) = [[e 1, e 2, e 3], [e 2, e 3, e 4, e 5]] ∧
      evicted.map (·.page.manifests) = [[e 1, e 2], [e 4, e 5]] ∧
      evicted.length ≤ 4 ⌈/⌉ 2 ∧
      (∃ last, evicted.getLast? = some last ∧ last.page.more = false) ∧
      Proceeds window window evicted ∧
      (evicted.flatMap (·.page.manifests)).Sublist (window ++ evicted.flatMap (·.arrived)) ∧
      grown.map (·.window) = [[e 1, e 2, e 3], [e 1, e 2, e 3, e 4]] ∧
      ∃ last, grown.getLast? = some last ∧ last.page.more = false ∧
        grown.IsChain (fun v w ↦ w.window = v.window ++ w.arrived) ∧
        grown.flatMap (·.page.manifests) = last.window := by
  intro settings secret issuer token e upload fresh s window growing evicting grown evicted
  have hfresh : Reachable settings fresh := @Reachable.start settings secret fresh rfl
  have hs : Reachable settings s := hfresh.run _
  have hretention : settings.retention < twoTo 64 := by decide
  have haccess : fresh.issuer.bearer? token .access .epoch = some "a" :=
    bearer?_firstClaims List.mem_cons_self rfl
  have hissuer : s.issuer = fresh.issuer := issuer_run fresh _
  have hgrowing : ∀ turn ∈ growing,
      s.issuer.bearer? turn.token .access turn.time = some "a" := by
    rw [hissuer]
    simp [growing, haccess]
  have hevicting : ∀ turn ∈ evicting,
      s.issuer.bearer? turn.token .access turn.time = some "a" := by
    rw [hissuer]
    simp [evicting, haccess]
  have hadmits (n : UInt8) : fresh.Admits (upload n) := by
    have hdigest : Manifest.DigestForm.ofText "00" = .ok .bare := by decide
    have hsize : ∀ limit ∈ fresh.backend.store.limit, 1 ≤ limit := by decide
    exact ⟨haccess, ⟨_, hdigest⟩, hsize⟩
  have hadmits' (n : UInt8) : s.Admits (upload n) := hfresh.sound.admits_run (hadmits n) _
  have hlog : s.backend.store.log "a" =
      .ofArrivals (max settings.retention 1) [e 1, e 2, e 3] := by
    -- The run stays folded: to open it is to compute the signatures.
    have hrun : s = fresh.run [upload 1, upload 2, upload 3] := rfl
    rw [hrun, log_run_assemble (by simp [fresh, hadmits])]
    rfl
  have hgrown : grown = visitsOf settings "a" .epoch [e 1, e 2, e 3] 0 growing :=
    browse_eq_visitsOf hs.sound hretention hlog rfl hgrowing (by simp [growing, hadmits'])
  have hevicted : evicted = visitsOf settings "a" .epoch [e 1, e 2, e 3] 0 evicting :=
    browse_eq_visitsOf hs.sound hretention hlog rfl hevicting (by simp [evicting, hadmits'])
  have hwindow : window = [e 1, e 2, e 3] := congrArg (·.after .epoch) hlog
  obtain ⟨hmost, hend, hproceeds, hsublist, -⟩ := browse_proceeds hs hretention "a" none evicting
  obtain ⟨-, hgrownEnd, -, -, hkept⟩ := browse_proceeds hs hretention "a" none growing
  have hchain : grown.IsChain (fun v w ↦ w.window = v.window ++ w.arrived) := by
    rw [hgrown]
    exact List.isChain_pair.2 rfl
  obtain ⟨last, hlast, hdone⟩ := hgrownEnd hgrowing (by decide)
  refine ⟨hs, hretention, hwindow, hevicting, by decide, ?_, ?_, hmost,
    hend hevicting (by decide), hproceeds, hsublist, ?_, last, hlast, hdone, hchain,
    hkept last hlast hdone hchain⟩
  · rw [hevicted]
    rfl
  · rw [hevicted]
    rfl
  · rw [hgrown]
    rfl

end Whole

/-! ## Undisturbed traversals -/

section Undisturbed

variable {settings : Settings} {s : Service} {device : String} {since : Option Instant}

/-- Whether a request would add an envelope to the log of a device. -/
def Request.Uploads (device : String) : Request → Prop
  | .upload _ e => e.device = device
  | _ => False

/-- Calls that upload nothing for a device bring nothing into its log. -/
theorem arrivals_eq_nil {calls : List Call}
    (hcalls : ∀ c ∈ calls, ¬c.request.Uploads device) : s.arrivals device calls = [] := by
  induction calls generalizing s with
  | nil => rfl
  | cons c calls ih =>
    have hnone : stored? device (c, (s.step c).2) = none := by
      rw [Option.eq_none_iff_forall_ne_some]
      intro e hstored
      obtain ⟨⟨token, hrequest⟩, -, hdevice⟩ := of_stored?_eq_some hstored
      apply hcalls c List.mem_cons_self
      rw [hrequest]
      exact hdevice
    rw [arrivals, trace, List.filterMap_cons_none hnone]
    exact ih fun c hmem ↦ hcalls c (.tail _ hmem)

theorem Sound.manifests_run (h : Sound settings s) (since : Instant) {calls : List Call}
    (hcalls : ∀ c ∈ calls, ¬c.request.Uploads device) :
    (s.run calls).backend.store.manifests device since =
      s.backend.store.manifests device since := by
  obtain ⟨es, hlog⟩ := h.log device
  rw [Store.manifests, Store.manifests, h.log_run hlog calls, hlog, arrivals_eq_nil hcalls,
    List.append_nil]

/-- Pages that are asked for without uploads in between are all pages of one window. -/
theorem window_eq_of_mem_browse (h : Sound settings s) (hretention : settings.retention < twoTo 64)
    {pageToken : Option String} {offset : Nat} (hoffset : offsetOf? pageToken = some offset)
    {turns : List Turn} (hquiet : ∀ turn ∈ turns, ∀ c ∈ turn.before, ¬c.request.Uploads device)
    {v : Visit} (hv : v ∈ s.browse device since pageToken turns) :
    v.arrived = [] ∧ v.window = s.backend.store.manifests device (since.getD .epoch) := by
  induction turns generalizing s pageToken offset with
  | nil => exact nomatch hv
  | cons turn turns ih =>
    have hwindow := h.manifests_run (since.getD .epoch) (hquiet turn List.mem_cons_self)
    have harrived : s.arrivals device turn.before = [] :=
      arrivals_eq_nil (hquiet turn List.mem_cons_self)
    rw [browse_cons h hoffset] at hv
    split at hv
    next hbearer =>
      rcases List.mem_cons.1 hv with rfl | hlater
      · exact ⟨by simp [visitAt, harrived], hwindow⟩
      · split at hlater
        next hmore =>
          have hrest := ih (h.afterTurn turn) (offsetOf?_nextToken h hretention hmore)
            (fun turn hmem ↦ hquiet turn (.tail _ hmem)) hlater
          exact ⟨hrest.1, hrest.2.trans hwindow⟩
        next => exact nomatch hlater
    next => exact nomatch hv

/-- The pages of an undisturbed traversal that got to the end are the window. -/
theorem flatMap_browse_eq_manifests (h : Sound settings s)
    (hretention : settings.retention < twoTo 64) {turns : List Turn}
    (hquiet : ∀ turn ∈ turns, ∀ c ∈ turn.before, ¬c.request.Uploads device) {last : Visit}
    (hlast : (s.browse device since none turns).getLast? = some last)
    (hend : last.page.more = false) :
    (s.browse device since none turns).flatMap (·.page.manifests) =
      s.backend.store.manifests device (since.getD .epoch) := by
  have hone : ∀ v ∈ s.browse device since none turns,
      v.arrived = [] ∧ v.window = s.backend.store.manifests device (since.getD .epoch) :=
    fun v hv ↦ window_eq_of_mem_browse h hretention rfl hquiet hv
  have hproceeds : Proceeds (s.backend.store.manifests device (since.getD .epoch))
      (s.backend.store.manifests device (since.getD .epoch)) (s.browse device since none turns) :=
    proceeds_browse h hretention rfl (Nat.zero_le _) turns
  have hkept : List.IsChain (fun v w ↦ w.window = v.window ++ w.arrived)
      (s.browse device since none turns) := by
    apply List.Pairwise.isChain
    apply List.pairwise_of_forall_mem_list
    intro v hv w hw
    simp [hone v hv, hone w hw]
  rw [hproceeds.flatMap_eq_window hkept hlast hend]
  exact (hone last (List.mem_of_getLast? hlast)).2

/-- A device that asks for its manifests from the epoch on and uploads nothing in between gets, in
order, those that were created after the epoch. That is all that its log holds if and only if none
in it claims to have been created earlier. The retention is a word of 64 bits. -/
theorem browse_from_epoch (hs : Reachable settings s) (hretention : settings.retention < twoTo 64)
    (device : String) (turns : List Turn)
    (hquiet : ∀ turn ∈ turns, ∀ c ∈ turn.before, ¬c.request.Uploads device) :
    let visits := s.browse device none none turns
    let kept := (s.backend.store.log device).entries
    ((∀ turn ∈ turns, s.issuer.bearer? turn.token .access turn.time = some device) →
        max settings.retention 1 ⌈/⌉ max settings.pageSize 1 ≤ turns.length →
        ∃ last, visits.getLast? = some last ∧ last.page.more = false) ∧
      ∀ last, visits.getLast? = some last → last.page.more = false →
        visits.flatMap (·.page.manifests) = kept.filter (.epoch < ·.createdAt) ∧
          (visits.flatMap (·.page.manifests) = kept ↔ ∀ e ∈ kept, .epoch < e.createdAt) := by
  intro visits kept
  have hlt : 0 < max settings.retention 1 := lt_max_of_lt_right Nat.one_pos
  refine ⟨fun hbearer hturns ↦ exists_last_page hs.sound hretention rfl hlt hbearer hturns, ?_⟩
  intro last hlast hend
  have hpages : visits.flatMap (·.page.manifests) = kept.filter (.epoch < ·.createdAt) :=
    flatMap_browse_eq_manifests hs.sound hretention hquiet hlast hend
  rw [hpages, List.filter_eq_self]
  simp

/-- Three envelopes are stored, and the first claims to have been created at the epoch. The pages
show the other two, while another device registers and uploads. -/
theorem browse_from_epoch_early :
    let settings := { Settings.standard "localhost" with retention := 3, pageSize := 1 }
    let secret : Credential.Secret := ⟨.replicate 32 0, by decide⟩
    let issuer : Credential.Issuer := .new settings.issuer (lifetimeOf settings.accessSeconds)
      (lifetimeOf settings.refreshSeconds) secret
    let token := Credential.Token.sign secret firstClaims
    let other := Credential.Token.sign secret
      ⟨"b", "b", Credential.userOf "b", .access, Credential.Issuer.defaultName, 0, 3600⟩
    let early : Envelope := ⟨"a", [0], "00", .epoch⟩
    let e (n : UInt8) : Envelope := ⟨"a", [n], "00", ⟨1, 0, by decide⟩⟩
    let f : Envelope := ⟨"b", [3], "00", ⟨1, 0, by decide⟩⟩
    let upload (e : Envelope) : Call := ⟨.upload token e, .epoch⟩
    let fresh := assemble settings issuer (backendOf settings [])
    let s := fresh.run [upload early, upload (e 1), upload (e 2)]
    let turns : List Turn := [⟨[], token, .epoch⟩,
      ⟨[⟨.authenticate ⟨"b", "no key"⟩, .epoch⟩, ⟨.upload other f, .epoch⟩], token, .epoch⟩,
      ⟨[⟨.status token, .epoch⟩], token, .epoch⟩]
    let visits := s.browse "a" none none turns
    let kept := (s.backend.store.log "a").entries
    Reachable settings s ∧ settings.retention < twoTo 64 ∧
      (∀ turn ∈ turns, ∀ c ∈ turn.before, ¬c.request.Uploads "a") ∧
      (∀ turn ∈ turns, s.issuer.bearer? turn.token .access turn.time = some "a") ∧
      max settings.retention 1 ⌈/⌉ max settings.pageSize 1 ≤ turns.length ∧
      kept = [early, e 1, e 2] ∧ visits.map (·.page.manifests) = [[e 1], [e 2]] ∧
      ∃ last, visits.getLast? = some last ∧ last.page.more = false ∧
        visits.flatMap (·.page.manifests) = kept.filter (.epoch < ·.createdAt) ∧
        (visits.flatMap (·.page.manifests) = kept ↔ ∀ e ∈ kept, .epoch < e.createdAt) := by
  intro settings secret issuer token other early e f upload fresh s turns visits kept
  have hfresh : Reachable settings fresh := @Reachable.start settings secret fresh rfl
  have hs : Reachable settings s := hfresh.run _
  have hretention : settings.retention < twoTo 64 := by decide
  have hquiet : ∀ turn ∈ turns, ∀ c ∈ turn.before, ¬c.request.Uploads "a" := by
    simp [turns, Request.Uploads, f]
  have haccess : fresh.issuer.bearer? token .access .epoch = some "a" :=
    bearer?_firstClaims List.mem_cons_self rfl
  have hother : fresh.issuer.bearer? other .access .epoch = some "b" :=
    bearer?_sign_epoch List.mem_cons_self rfl "b"
  have hissuer : s.issuer = fresh.issuer := issuer_run fresh _
  have hbearer : ∀ turn ∈ turns, s.issuer.bearer? turn.token .access turn.time = some "a" := by
    rw [hissuer]
    simp [turns, haccess]
  have hdigest : Manifest.DigestForm.ofText "00" = .ok .bare := by decide
  have hsize : ∀ limit ∈ fresh.backend.store.limit, 1 ≤ limit := by decide
  have hearly : fresh.Admits (upload early) := ⟨haccess, ⟨_, hdigest⟩, hsize⟩
  have hlater (n : UInt8) : fresh.Admits (upload (e n)) := ⟨haccess, ⟨_, hdigest⟩, hsize⟩
  have hf : fresh.Admits ⟨.upload other f, .epoch⟩ := ⟨hother, ⟨_, hdigest⟩, hsize⟩
  have hlog : s.backend.store.log "a" =
      .ofArrivals (max settings.retention 1) [early, e 1, e 2] := by
    have hrun : s = fresh.run [upload early, upload (e 1), upload (e 2)] := rfl
    rw [hrun, log_run_assemble (by simp [fresh, hearly, hlater])]
    rfl
  have hvisits : visits = visitsOf settings "a" .epoch [early, e 1, e 2] 0 turns := by
    apply browse_eq_visitsOf hs.sound hretention hlog rfl hbearer
    have hauthenticate : s.Admits ⟨.authenticate ⟨"b", "no key"⟩, .epoch⟩ := trivial
    have hupload : s.Admits ⟨.upload other f, .epoch⟩ := hfresh.sound.admits_run hf _
    have hstatus : s.Admits ⟨.status token, .epoch⟩ := trivial
    simp [turns, hauthenticate, hupload, hstatus]
  obtain ⟨hend, hpages⟩ := browse_from_epoch hs hretention "a" turns hquiet
  obtain ⟨last, hlast, hdone⟩ := hend hbearer (by decide)
  refine ⟨hs, hretention, hquiet, hbearer, by decide, ?_, ?_, last, hlast, hdone,
    hpages last hlast hdone⟩
  · exact congrArg Log.entries hlog
  · rw [hvisits]
    rfl

/-- An envelope that claims to have been created at the epoch is accepted and kept, and the pages
do not show it. -/
theorem browse_from_epoch_misses :
    let settings := Settings.standard "localhost"
    let secret : Credential.Secret := ⟨.replicate 32 0, by decide⟩
    let issuer : Credential.Issuer := .new settings.issuer (lifetimeOf settings.accessSeconds)
      (lifetimeOf settings.refreshSeconds) secret
    let token := "eyJ0eXAiOiJKV1QiLCJhbGciOiJIUzI1NiJ9." ++
      "eyJzdWIiOiJhIiwiZGV2aWNlX2lkIjoiYSIsInVzZXJfaWQiOiJ5cGVCRXNvYnZjcjZ3akd6bWlQY1RRPT0iLCJ" ++
      "raW5kIjoiYWNjZXNzIiwiaXNzIjoiYmlmcm9zdC1zeW5jIiwiaWF0IjowLCJleHAiOjM2MDB9." ++
      "HS_WqvS43fzKM-6h-DV1G7EcON1JPDq8l8f6JsRKyz8"
    let e : Envelope := ⟨"a", [1], "00", .epoch⟩
    let s := assemble settings issuer (backendOf settings [])
    let u := (s.step ⟨.upload token e, .epoch⟩).1
    let visits := u.browse "a" none none [⟨[], token, .epoch⟩]
    Reachable settings u ∧ (u.backend.store.log "a").entries = [e] ∧
      (∃ last, visits.getLast? = some last ∧ last.page.more = false) ∧
      visits.flatMap (·.page.manifests) = [] := by
  intro settings secret issuer token e s u visits
  have hs : Reachable settings s := @Reachable.start settings secret s rfl
  have hu : Reachable settings u := hs.step _
  have htoken : token = Credential.Token.sign secret firstClaims := by decide +kernel
  have haccess : s.issuer.bearer? token .access .epoch = some "a" := by
    rw [htoken]
    exact bearer?_firstClaims List.mem_cons_self rfl
  have hdigest : Manifest.DigestForm.ofText e.digest = .ok .bare := by decide
  have hadmits : s.Admits ⟨.upload token e, .epoch⟩ := ⟨haccess, ⟨_, hdigest⟩, by decide⟩
  have hlog : (u.backend.store.log "a").entries = [e] := by
    rw [(effect_step s rfl _).log "a", stored?_step rfl hadmits]
    rfl
  have hbearer : u.issuer.bearer? token .access .epoch = some "a" := by
    rw [issuer_step]
    exact haccess
  obtain ⟨last, hlast, hend⟩ : ∃ last, visits.getLast? = some last ∧ last.page.more = false :=
    exists_last_page hu.sound (by decide) rfl (by decide) (List.forall_mem_singleton.2 hbearer)
      (by decide)
  refine ⟨hu, hlog, ⟨last, hlast, hend⟩, ?_⟩
  rw [flatMap_browse_eq_manifests hu.sound (by decide) (by simp) hlast hend, Store.manifests,
    Manifest.Log.after, hlog]
  rfl

end Undisturbed

end Service

end DeviceSync
