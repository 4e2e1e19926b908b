import DeviceSync.Proofs.Bytes.Base64
import DeviceSync.Proofs.Service.Effect
import DeviceSync.Proofs.Text.Decimal

/-!
# Pages of a Window

A page token comes back from a client, who may send any text instead. The main statement says what
a download makes of it. A text that does not name a place is refused, and a place may be any word of
64 bits. From there the device gets what the window holds, up to a page full, which is nothing if
the place is behind the end.

The service adds words and cuts a list between two places. In a window that has a length at all
neither goes wrong: the sum is capped only where it is behind the end anyway, and the two places are
out of order only where there is nothing to hand out.
-/

namespace DeviceSync

open Credential (Issuer)
open Manifest (Envelope)

namespace Page

variable {α : Type} {text : String} {n size offset : Nat} {xs : List α}

/-! ## Tokens -/

/-- A text is a token of a place: its number in base64, maybe with zeros and a plus sign in front.
The place is a word of 64 bits. -/
def Names (text : String) (n : Nat) : Prop :=
  n < twoTo 64 ∧ ∃ sign zeros, (sign = [] ∨ sign = ['+']) ∧
    text = Base64.urlSafeBare.text
      (Text.octets (String.ofList (sign ++ List.replicate zeros '0' ++ Text.digits n)))

theorem offset?_eq_some_iff : offset? text = some n ↔ Names text n := by
  have hread (bytes : List UInt8) : Base64.urlSafeBare.ofText? text = some bytes ↔
      text = Base64.urlSafeBare.text bytes := Base64.distinct_urlSafeBare.ofText?_eq_some_iff
  simp only [offset?, Option.bind_eq_bind, Option.bind_eq_some_iff, hread,
    Text.unsigned?_eq_some_iff]
  constructor
  · rintro ⟨bytes, rfl, s, hs, hn, sign, zeros, hsign, hcs⟩
    refine ⟨hn, sign, zeros, hsign, ?_⟩
    rw [← hcs, String.ofList_toList, Text.octets_of_ofOctets? hs]
  · rintro ⟨hn, sign, zeros, hsign, htext⟩
    exact ⟨_, htext, _, Text.ofOctets?_octets _, hn, sign, zeros, hsign, String.toList_ofList⟩

theorem names_token (h : n < twoTo 64) : Names (token n) n :=
  ⟨h, [], 0, .inl rfl, rfl⟩

theorem offset?_token (h : n < twoTo 64) : offset? (token n) = some n :=
  offset?_eq_some_iff.2 (names_token h)

/-! ## Cutting -/

theorem min_cappedSum (h : xs.length < twoTo 64) :
    min (cappedSum offset size) xs.length = min (offset + size) xs.length := by
  rw [cappedSum]
  omega

theorem items_ofList (h : xs.length < twoTo 64) :
    (ofList size offset xs).items = xs.extract offset (min (offset + size) xs.length) := by
  have hitems : (ofList size offset xs).items =
      (between? offset (min (offset + size) xs.length) xs).getD [] := by
    rw [ofList, min_cappedSum h]
  rw [hitems, between?, List.extract_eq_take_drop]
  split
  next hplaces => rw [Option.getD_some, List.drop_take]
  next hplaces =>
    have hbehind : xs.length ≤ offset := by omega
    rw [Option.getD_none, List.drop_of_length_le hbehind, List.take_nil]

theorem next_ofList (h : xs.length < twoTo 64) :
    (ofList size offset xs).next =
      if offset + size < xs.length then some (offset + size) else none := by
  have hnext : (ofList size offset xs).next =
      if min (offset + size) xs.length < xs.length then some (min (offset + size) xs.length)
      else none := by
    rw [ofList, min_cappedSum h]
  rw [hnext]
  rcases Nat.lt_or_ge (offset + size) xs.length with hlt | hge
  · rw [Nat.min_eq_left hlt.le]
  · rw [Nat.min_eq_right hge, if_neg (Nat.lt_irrefl _), if_neg (Nat.not_lt.2 hge)]

end Page

namespace Service

variable {s : Service} {device token : String} {since : Option Instant} {now : Instant}
  {window : List Envelope} {offset : Nat}

/-! ## One download -/

theorem download_of_bearer? (hbearer : s.issuer.bearer? token .access now = some device)
    (pageToken : Option String) :
    s.download token ⟨since, pageToken⟩ now =
      match offsetOf? pageToken with
      | none => s.fail device (.badRequest "invalid page token") now
      | some offset =>
        match s.backend.manifests device (since.getD .epoch) with
        | .error problem => s.fail device (.ofStore problem) now
        | .ok window =>
          ({ s with books := countDownload s.books },
            .ok (downloadResponse (.ofList s.pageSize offset window) now)) := by
  obtain ⟨claims, hclaims, rfl, -⟩ := Issuer.exists_validate_of_bearer? hbearer
  exact withAccess_of_validate hclaims _

theorem download_eq (hup : s.backend.down = [])
    (hbearer : s.issuer.bearer? token .access now = some device) {pageToken : Option String}
    (hoffset : offsetOf? pageToken = some offset) :
    s.download token ⟨since, pageToken⟩ now =
      ({ s with books := countDownload s.books },
        .ok (downloadResponse (.ofList s.pageSize offset
          (s.backend.store.manifests device (since.getD .epoch))) now)) := by
  rw [download_of_bearer? hbearer, hoffset, Manifest.Backend.manifests_eq_ok hup]

/-- A page of a window: what stands there from a place on, up to `size` envelopes, and a token for
the place behind these if the window goes on there. -/
structure IsPage (window : List Envelope) (size offset : Nat) (page : DownloadResponse) : Prop where
  manifests : page.manifests = window.extract offset (min (offset + size) window.length)
  behind : window.length ≤ offset → page.manifests = []
  more : page.more = true ↔ offset + size < window.length
  isSome_nextToken : page.nextToken.isSome = page.more
  offset?_nextToken : ∀ next ∈ page.nextToken, Page.offset? next = some (offset + size)

theorem IsPage.manifests_eq_take {size : Nat} {page : DownloadResponse}
    (h : IsPage window size offset page) : page.manifests = (window.drop offset).take size := by
  rw [h.manifests, List.extract_eq_take_drop, List.take_eq_take_iff, List.length_drop]
  omega

theorem isPage_downloadResponse (h : window.length < twoTo 64) (size offset : Nat) :
    IsPage window size offset (downloadResponse (.ofList size offset window) now) := by
  have hitems : (downloadResponse (.ofList size offset window) now).manifests =
      window.extract offset (min (offset + size) window.length) := Page.items_ofList h
  have hnext : (downloadResponse (.ofList size offset window) now).nextToken =
      (if offset + size < window.length then some (offset + size) else none).map Page.token :=
    congrArg (Option.map Page.token) (Page.next_ofList h)
  constructor
  · exact hitems
  · intro hbehind
    rw [hitems, List.extract_eq_take_drop, List.drop_of_length_le hbehind, List.take_nil]
  · rw [downloadResponse, Page.next_ofList h]
    simp
  · exact Option.isSome_map
  · intro next hmem
    rw [hnext] at hmem
    split at hmem
    next hlt =>
      cases hmem
      exact Page.offset?_token (hlt.trans h)
    next => exact nomatch hmem

/-- A device that is let in may send any text as a page token. It is told that the request is bad
exactly when the text names no place. Every other text names one, which is a word of 64 bits, and
the device gets the page of its window that begins there, also if the window ends before. -/
theorem download_page (hbearer : s.issuer.bearer? token .access now = some device)
    (hwindow : s.backend.manifests device (since.getD .epoch) = .ok window)
    (hlength : window.length < twoTo 64) (text : String) :
    ((s.download token ⟨since, some text⟩ now).2 = .error (.badRequest "invalid page token") ↔
        ∀ offset, ¬Page.Names text offset) ∧
      ∀ offset, Page.Names text offset →
        ∃ page, (s.download token ⟨since, some text⟩ now).2 = .ok page ∧
          IsPage window s.pageSize offset page := by
  have hgood {offset : Nat} (hnames : Page.Names text offset) :
      (s.download token ⟨since, some text⟩ now).2 =
        .ok (downloadResponse (.ofList s.pageSize offset window) now) := by
    rw [download_of_bearer? hbearer, offsetOf?, Page.offset?_eq_some_iff.2 hnames, hwindow]
  refine ⟨⟨?_, ?_⟩, fun offset hnames ↦ ⟨_, hgood hnames, isPage_downloadResponse hlength ..⟩⟩
  · intro hbad offset hnames
    rw [hgood hnames] at hbad
    exact nomatch hbad
  · intro hnone
    have hoffset : Page.offset? text = none :=
      Option.eq_none_iff_forall_ne_some.2 fun offset h ↦ hnone offset (Page.offset?_eq_some_iff.1 h)
    rw [download_of_bearer? hbearer, offsetOf?, hoffset]
    rfl

/-- Three envelopes, two a page. The first token says `+01`, the second says `+0` and then the
greatest word. -/
theorem download_page_greatest :
    let settings := { Settings.standard "localhost" with pageSize := 2 }
    let secret : Credential.Secret := ⟨.replicate 32 0, by decide⟩
    let issuer : Issuer := .new Issuer.defaultName Issuer.defaultAccessLifetime
      Issuer.defaultRefreshLifetime secret
    let token := Credential.Token.sign secret firstClaims
    let e : Envelope := ⟨"a", [1], "00", ⟨1, 0, by decide⟩⟩
    let backend := backendOf settings []
    let store := ((backend.store.append "a" e).append "a" e).append "a" e
    let s := assemble settings issuer { backend with store }
    s.issuer.bearer? token .access .epoch = some "a" ∧
      s.backend.manifests "a" .epoch = .ok [e, e, e] ∧
      Page.Names "KzAx" 1 ∧ Page.Names "KzAxODQ0Njc0NDA3MzcwOTU1MTYxNQ" (twoTo 64 - 1) ∧
      (∃ page, (s.download token ⟨none, some "KzAx"⟩ .epoch).2 = .ok page ∧
        IsPage [e, e, e] 2 1 page) ∧
      ∃ page, (s.download token ⟨none, some "KzAxODQ0Njc0NDA3MzcwOTU1MTYxNQ"⟩ .epoch).2 =
          .ok page ∧ IsPage [e, e, e] 2 (twoTo 64 - 1) page := by
  intro settings secret issuer token e backend store s
  have hbearer : s.issuer.bearer? token .access .epoch = some "a" :=
    bearer?_firstClaims List.mem_cons_self rfl
  have hwindow : s.backend.manifests "a" (Option.getD none .epoch) = .ok [e, e, e] := rfl
  have hone : Page.Names "KzAx" 1 := Page.offset?_eq_some_iff.1 (by decide +kernel)
  have hgreatest : Page.Names "KzAxODQ0Njc0NDA3MzcwOTU1MTYxNQ" (twoTo 64 - 1) :=
    Page.offset?_eq_some_iff.1 (by decide +kernel)
  exact ⟨hbearer, hwindow, hone, hgreatest,
    (download_page hbearer hwindow (by decide) "KzAx").2 1 hone,
    (download_page hbearer hwindow (by decide) "KzAxODQ0Njc0NDA3MzcwOTU1MTYxNQ").2 _ hgreatest⟩

end Service

end DeviceSync
