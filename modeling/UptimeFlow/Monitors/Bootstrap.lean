import UptimeFlow.Monitors.Registrations
import UptimeFlow.Past

/-!
# UptimeFlow.Monitors.Bootstrap

What gets into the cached bootstrap table.

A check that finds no fresh table asks the registry for one, and what the answer
is turned into is cached for a day.  An answer that cannot be turned into
anything raises and leaves the cache alone; but a 404, or an answer without a
list of services, is turned into an empty table, and an entry that is not a pair
of lists into whatever it holds.  As long as the registry gives none of these, the
cache only ever holds tables it published (`cached_along`).
-/

namespace UptimeFlow.Monitors

open Security (Node Net RequestError Sending SingleResponse WebUrl request follow
  fetchJson readJson rdapFetch maxRedirects)
open Monitoring (Instant)
open JsonText (Value)
open Runs

/-! ## answers -/

section
variable (node : Node) (allow : Bool) (net : Net)

/-- The response behind the redirects, and where it came from. -/
def finalResponse : Nat → WebUrl → Sending (WebUrl × SingleResponse)
  | 0, url => do
      let res ← request node allow net "https:" url
      match res.redirect with
      | none => pure (url, res)
      | some _ =>
          Eff.raise (.node none
            ("RDAP request to " ++ url.hostname ++ " exceeded the redirect limit."))
  | redirectsLeft + 1, url => do
      let res ← request node allow net "https:" url
      match res.redirect with
      | none => pure (url, res)
      | some location => do
          let next ← Eff.ofExcept (follow node allow location url)
          finalResponse redirectsLeft next

/-- What is fetched is what the response behind the redirects says. -/
theorem fetchJson_eq (redirectsLeft : Nat) (url : WebUrl) :
    fetchJson node allow net redirectsLeft url =
      finalResponse node allow net redirectsLeft url >>= fun answer =>
        Eff.ofExcept (readJson answer.1 answer.2) := by
  induction redirectsLeft generalizing url with
  | zero =>
      rw [fetchJson, finalResponse, Eff.bind_assoc]
      congr 1
      funext res
      cases res.redirect <;> rfl
  | succ redirectsLeft ih =>
      rw [fetchJson, finalResponse, Eff.bind_assoc]
      congr 1
      funext res
      cases res.redirect with
      | none => rfl
      | some location =>
          dsimp only
          rw [Eff.bind_assoc]
          congr 1
          funext next
          exact ih next

end

/-! ## what answers say -/

/-- An entry as the registry publishes it: the suffixes, and the servers. -/
def Registry.value (registry : Registry) : Value :=
  .array [.array (registry.tlds.map stringValue), .array (registry.servers.map stringValue)]

/-- The answer is successful and well formed, and `table` is what it publishes. -/
structure Publishes (res : SingleResponse) (table : List Registry) : Prop where
  success : 200 ≤ res.statusCode ∧ res.statusCode < 300
  body : ∃ v, JsonText.parse res.body.toList = some v ∧
    v.get "services".toList = some (.array (table.map Registry.value))

/-- A value that can be destructured as a list. -/
def Iterable : Value → Prop
  | .array _ | .string _ => True
  | .null | .bool _ | .number _ | .object _ => False

/-- The answer cannot be turned into a table: an error status, no JSON, services that are no list,
or an entry that is none. -/
def Unreadable (res : SingleResponse) : Prop :=
  res.statusCode ≠ 404 ∧ (400 ≤ res.statusCode ∨ JsonText.parse res.body.toList = none ∨
    ∃ v services, JsonText.parse res.body.toList = some v ∧
      v.get "services".toList = some services ∧ services ≠ .null ∧
      ∀ items, services = .array items → ∃ item ∈ items, ¬ Iterable item)

/-- What is cached of an answer, if it is. -/
def tableOf (url : WebUrl) (res : SingleResponse) : Except RequestError (List BootstrapEntry) :=
  readJson url res >>= bootstrapEntries

theorem destructure_error_iff {v : Value} : (∃ e, destructure v = .error e) ↔ ¬ Iterable v := by
  cases v <;> simp [destructure, Iterable]

theorem destructureAll_error_iff {vs : List Value} :
    (∃ e, destructureAll vs = .error e) ↔ ∃ v ∈ vs, ¬ Iterable v := by
  induction vs with
  | nil => simp [destructureAll]
  | cons v vs ih =>
      rw [List.exists_mem_cons_iff, ← ih, ← destructure_error_iff, destructureAll]
      cases destructure v with
      | error e => simp [Bind.bind, Except.bind]
      | ok entry =>
          cases destructureAll vs <;> simp [Bind.bind, Except.bind, pure, Except.pure]

theorem destructureAll_values (table : List Registry) :
    destructureAll (table.map Registry.value) = .ok (table.map Registry.entry) := by
  induction table with
  | nil => rfl
  | cons registry table ih =>
      rw [List.map_cons, destructureAll, ih]
      rfl

theorem tableOf_publishes {res : SingleResponse} {table : List Registry}
    (h : Publishes res table) (url : WebUrl) :
    tableOf url res = .ok (table.map Registry.entry) := by
  obtain ⟨v, hparse, hservices⟩ := h.body
  have hstatus := h.success
  unfold tableOf readJson
  rw [if_neg (by omega), if_neg (by omega), hparse]
  change bootstrapEntries v = _
  unfold bootstrapEntries
  rw [hservices]
  exact destructureAll_values table

theorem bootstrapEntries_error_iff {v : Value} : (∃ e, bootstrapEntries v = .error e) ↔
    ∃ services, v.get "services".toList = some services ∧ services ≠ .null ∧
      ∀ items, services = .array items → ∃ item ∈ items, ¬ Iterable item := by
  unfold bootstrapEntries
  cases v.get "services".toList with
  | none => simp
  | some services =>
      cases services with
      | array items => simp [destructureAll_error_iff]
      | null => simp
      | _ => simp

theorem tableOf_error_iff (url : WebUrl) (res : SingleResponse) :
    (∃ e, tableOf url res = .error e) ↔ Unreadable res := by
  unfold tableOf readJson Unreadable
  split_ifs with hmissing hfailed
  · change (∃ e, (Except.ok [] : Except RequestError (List BootstrapEntry)) = .error e) ↔ _
    simp [hmissing]
  · simp [hmissing, hfailed, Bind.bind, Except.bind]
  · cases hparse : JsonText.parse res.body.toList with
    | none => simp [hmissing, Bind.bind, Except.bind]
    | some v =>
        change (∃ e, bootstrapEntries v = .error e) ↔ _
        rw [bootstrapEntries_error_iff]
        simp [hmissing, hfailed]

/-! ## one check -/

section
variable {ν : Type} (js : Host ν) (node : Node) (allow : Bool) (encodeURIComponent : String → String)
  (newDate : Value → Option Instant)

/-- A check, as a step of what outlives it. -/
def checkStep (s : RdapState) (check : DomainCheck) : RdapState :=
  ((domainProbe js node allow encodeURIComponent newDate check).run s).2

/-- The answer of the registry, if it is asked for the table. -/
def bootstrapAnswer (s : RdapState) (check : DomainCheck) :
    Except RequestError (WebUrl × SingleResponse) :=
  match Security.validateUrl node allow ianaBootstrapUrl with
  | .error e => .error (.ssrf e)
  | .ok url => ((finalResponse node allow check.net maxRedirects url).run s.log).1

/-- The check has a host, and finds no fresh table. -/
def Loads (s : RdapState) (check : DomainCheck) : Prop :=
  check.normalizedHost js ≠ "" ∧ freshEntries s.bootstrapCache check.readAt = none

/-- The check asks the registry, which answers `res`. -/
def Answers (s : RdapState) (check : DomainCheck) (res : SingleResponse) : Prop :=
  Loads js s check ∧ ∃ url, bootstrapAnswer node allow s check = .ok (url, res)

/-- The cache is as it was, or holds what a successful, well-formed answer publishes. -/
def Genuine (s : RdapState) (check : DomainCheck) : Prop :=
  (checkStep js node allow encodeURIComponent newDate s check).bootstrapCache = s.bootstrapCache ∨
    ∃ res table, Answers js node allow s check res ∧ Publishes res table ∧
      (checkStep js node allow encodeURIComponent newDate s check).bootstrapCache =
        some ⟨check.writtenAt, table.map Registry.entry⟩

/-- The answer, if there is one, is successful and well formed, or cannot be turned into a table. -/
def Sound (s : RdapState) (check : DomainCheck) : Prop :=
  ∀ res, Answers js node allow s check res → (∃ table, Publishes res table) ∨ Unreadable res

theorem fetchBootstrap_run (s : RdapState) (check : DomainCheck) :
    ((fetchBootstrap node allow check).run s.log).1 =
      bootstrapAnswer node allow s check >>= fun answer => readJson answer.1 answer.2 := by
  unfold fetchBootstrap rdapFetch bootstrapAnswer
  cases Security.validateUrl node allow ianaBootstrapUrl with
  | error e => rfl
  | ok url =>
      change ((fetchJson node allow check.net maxRedirects url).run s.log).1 =
        ((finalResponse node allow check.net maxRedirects url).run s.log).1 >>= _
      rw [fetchJson_eq, Eff.bind_run]
      rcases (finalResponse node allow check.net maxRedirects url).run s.log with ⟨e | answer, log⟩
      · rfl
      · rfl

/-- What is behind the load leaves the cache alone. -/
theorem frames_sending {α : Type} (x : Sending α) :
    Eff.Frames RdapState.bootstrapCache (sending x) := fun _ => rfl

theorem frames_ofExcept {α : Type} (r : Except RequestError α) :
    Eff.Frames RdapState.bootstrapCache (Eff.ofExcept r : Probing α) := fun _ => rfl

theorem frames_queryServer (check : DomainCheck) (host : String) (server : Value) :
    Eff.Frames RdapState.bootstrapCache
      (queryServer node allow encodeURIComponent check host server) := by
  cases server with
  | string server =>
      refine (frames_sending _).bind fun rdap => ?_
      cases rdap <;> exact .pure _
  | _ => exact fun _ => rfl

theorem frames_lookUp (check : DomainCheck) (host : String) (entries : List BootstrapEntry) :
    Eff.Frames RdapState.bootstrapCache
      (lookUp js node allow encodeURIComponent newDate check host entries) := by
  refine (frames_ofExcept _).bind fun servers => (frames_ofExcept _).bind fun servers => ?_
  split
  · exact .pure _
  · refine Eff.Frames.bind ?_ fun rdap => frames_ofExcept _
    exact .firstOf (frames_queryServer node allow encodeURIComponent check host) _ _

theorem checkStep_cache {s : RdapState} {check : DomainCheck}
    (hhost : check.normalizedHost js ≠ "") :
    (checkStep js node allow encodeURIComponent newDate s check).bootstrapCache =
      ((loadBootstrap node allow check).run s).2.bootstrapCache := by
  unfold checkStep domainProbe
  rw [if_neg hhost, Eff.view_rescue RdapState.bootstrapCache fun e => Eff.Frames.pure _]
  exact Eff.view_bind RdapState.bootstrapCache
    (fun entries => frames_lookUp js node allow encodeURIComponent newDate check _ entries) s

theorem loadBootstrap_fresh {s : RdapState} {check : DomainCheck} {entries : List BootstrapEntry}
    (h : freshEntries s.bootstrapCache check.readAt = some entries) :
    (loadBootstrap node allow check).run s = (.ok entries, s) := by
  unfold loadBootstrap
  have hread : (Eff.read fun s : RdapState => freshEntries s.bootstrapCache check.readAt :
      Probing (Option (List BootstrapEntry))).run s = (.ok (some entries), s) := by
    rw [Eff.read_run, h]
  rw [Eff.bind_run_of_ok hread]
  rfl

theorem loadBootstrap_stale {s : RdapState} {check : DomainCheck}
    (h : freshEntries s.bootstrapCache check.readAt = none) :
    (loadBootstrap node allow check).run s = (sending (fetchBootstrap node allow check) >>= fun raw =>
      Eff.ofExcept (bootstrapEntries raw) >>= fun entries =>
        cacheEntries check entries >>= fun _ => pure entries).run s := by
  unfold loadBootstrap
  have hread : (Eff.read fun s : RdapState => freshEntries s.bootstrapCache check.readAt :
      Probing (Option (List BootstrapEntry))).run s = (.ok none, s) := by
    rw [Eff.read_run, h]
  rw [Eff.bind_run_of_ok hread]

/-- A check that asks for no table leaves the cache as it is. -/
theorem checkStep_cached {s : RdapState} {check : DomainCheck} (h : ¬ Loads js s check) :
    (checkStep js node allow encodeURIComponent newDate s check).bootstrapCache =
      s.bootstrapCache := by
  by_cases hhost : check.normalizedHost js = ""
  · unfold checkStep domainProbe
    rw [if_pos hhost]
    rfl
  · rw [checkStep_cache js node allow encodeURIComponent newDate hhost]
    cases hfresh : freshEntries s.bootstrapCache check.readAt with
    | none => exact absurd ⟨hhost, hfresh⟩ h
    | some entries => rw [loadBootstrap_fresh node allow hfresh]

/-- One that does caches what the answer is turned into, if it is. -/
theorem checkStep_loads {s : RdapState} {check : DomainCheck} (h : Loads js s check) :
    (checkStep js node allow encodeURIComponent newDate s check).bootstrapCache =
      match bootstrapAnswer node allow s check >>= fun answer => tableOf answer.1 answer.2 with
      | .error _ => s.bootstrapCache
      | .ok entries => some ⟨check.writtenAt, entries⟩ := by
  rw [checkStep_cache js node allow encodeURIComponent newDate h.1]
  have hfetch : (bootstrapAnswer node allow s check >>= fun answer => tableOf answer.1 answer.2) =
      ((fetchBootstrap node allow check).run s.log).1 >>= bootstrapEntries := by
    rw [fetchBootstrap_run]
    cases bootstrapAnswer node allow s check <;> rfl
  rw [hfetch, loadBootstrap_stale node allow h.2, Eff.bind_run]
  cases hrun : (fetchBootstrap node allow check).run s.log with
  | mk r log =>
      have hsending : (sending (fetchBootstrap node allow check)).run s = (r, { s with log }) := by
        unfold sending
        dsimp only
        rw [hrun]
      rw [hsending]
      cases r with
      | error e => rfl
      | ok raw =>
          change ((Eff.ofExcept (bootstrapEntries raw) >>= _).run { s with log }).2.bootstrapCache =
            match bootstrapEntries raw with
            | .error _ => s.bootstrapCache
            | .ok entries => some ⟨check.writtenAt, entries⟩
          rw [Eff.bind_run]
          unfold Eff.ofExcept
          cases bootstrapEntries raw <;> rfl

theorem sub_lt_bootstrapCacheMs {a b : Int} (h : a ≤ b) : a - b < bootstrapCacheMs := by
  unfold bootstrapCacheMs
  omega

/-- What is found too old was fetched before. -/
theorem fetchedAt_lt {cache : Option BootstrapCache} {now : Instant} {c : BootstrapCache}
    (h : freshEntries cache now = none) (hc : cache = some c) : c.fetchedAt < now := by
  subst hc
  unfold freshEntries at h
  rw [Option.map_eq_none_iff, Option.filter_some, ite_eq_right_iff] at h
  by_contra hle
  cases h (decide_eq_true (sub_lt_bootstrapCacheMs (not_lt.1 hle)))

/-- The cache is replaced only by what was published if the answer is sound. -/
theorem genuine_of_sound {s : RdapState} {check : DomainCheck} (h : Sound js node allow s check) :
    Genuine js node allow encodeURIComponent newDate s check := by
  by_cases hloads : Loads js s check
  · have hcache := checkStep_loads js node allow encodeURIComponent newDate hloads
    cases hanswer : bootstrapAnswer node allow s check with
    | error e =>
        rw [hanswer] at hcache
        exact .inl hcache
    | ok answer =>
        obtain ⟨url, res⟩ := answer
        rw [hanswer] at hcache
        change _ = match tableOf url res with
          | .error _ => s.bootstrapCache
          | .ok entries => some ⟨check.writtenAt, entries⟩ at hcache
        rcases h res ⟨hloads, url, hanswer⟩ with ⟨table, hpublishes⟩ | hunreadable
        · rw [tableOf_publishes hpublishes] at hcache
          exact .inr ⟨res, table, ⟨hloads, url, hanswer⟩, hpublishes, hcache⟩
        · obtain ⟨e, he⟩ := (tableOf_error_iff url res).2 hunreadable
          rw [he] at hcache
          exact .inl hcache
  · exact .inl (checkStep_cached js node allow encodeURIComponent newDate hloads)

/-- If it is not, it is replaced by something else, as long as the clock does not run back. -/
theorem sound_of_genuine {s : RdapState} {check : DomainCheck}
    (hclock : check.readAt ≤ check.writtenAt)
    (h : Genuine js node allow encodeURIComponent newDate s check) : Sound js node allow s check := by
  rintro res ⟨hloads, url, hanswer⟩
  by_contra hnot
  rw [not_or] at hnot
  have hcache := checkStep_loads js node allow encodeURIComponent newDate hloads
  rw [hanswer] at hcache
  change _ = match tableOf url res with
    | .error _ => s.bootstrapCache
    | .ok entries => some ⟨check.writtenAt, entries⟩ at hcache
  cases htable : tableOf url res with
  | error e => exact hnot.2 ((tableOf_error_iff url res).1 ⟨e, htable⟩)
  | ok entries =>
      rw [htable] at hcache
      dsimp only at hcache
      rcases h with hkept | ⟨res', table, ⟨_, url', hanswer'⟩, hpublishes, _⟩
      · rw [hcache] at hkept
        have hlt := fetchedAt_lt hloads.2 hkept.symm
        exact absurd hlt (not_lt.2 hclock)
      · rw [hanswer] at hanswer'
        cases hanswer'
        exact hnot.1 ⟨table, hpublishes⟩

/-! ## runs -/

/-- The cached table was published, in answer to one of the checks. -/
def Published (checks : List DomainCheck) (c : BootstrapCache) : Prop :=
  ∃ before check after res table, checks = before ++ check :: after ∧
    Answers js node allow (run (checkStep js node allow encodeURIComponent newDate) {} before)
      check res ∧
    Publishes res table ∧ c = ⟨check.writtenAt, table.map Registry.entry⟩

theorem published_concat {checks : List DomainCheck} {check : DomainCheck} {c : BootstrapCache}
    (h : Published js node allow encodeURIComponent newDate checks c) :
    Published js node allow encodeURIComponent newDate (checks ++ [check]) c := by
  obtain ⟨before, first, after, res, table, rfl, hanswers, hpublishes, hc⟩ := h
  exact ⟨before, first, after ++ [check], res, table, by simp, hanswers, hpublishes, hc⟩

/-- What is cached after a run in which the cache is only ever replaced by what was published. -/
theorem published_of_along {checks : List DomainCheck}
    (h : Along (checkStep js node allow encodeURIComponent newDate)
      (Genuine js node allow encodeURIComponent newDate) {} checks) :
    ∀ c, (run (checkStep js node allow encodeURIComponent newDate) {} checks).bootstrapCache =
      some c → Published js node allow encodeURIComponent newDate checks c := by
  induction checks using List.reverseRecOn with
  | nil =>
      intro c hc
      cases hc
  | append_singleton checks check ih =>
      intro c hc
      obtain ⟨hbefore, hlast⟩ := (Past.along_concat checks check).1 h
      rw [Past.run_concat] at hc
      rcases hlast with hkept | ⟨res, table, hanswers, hpublishes, hcache⟩
      · rw [hkept] at hc
        exact published_concat js node allow encodeURIComponent newDate (ih hbefore c hc)
      · rw [hcache] at hc
        cases hc
        exact ⟨checks, check, [], res, table, rfl, hanswers, hpublishes, rfl⟩

/-- **The cached table**: in a run of checks whose answers are sound it is replaced only by what a
successful, well-formed answer publishes, and so only ever holds such a table; and a check whose
answer is not sound replaces it by something else. -/
theorem cached_along :
    (∀ checks, Along (checkStep js node allow encodeURIComponent newDate)
        (Sound js node allow) {} checks →
      Along (checkStep js node allow encodeURIComponent newDate)
        (Genuine js node allow encodeURIComponent newDate) {} checks ∧
      ∀ c, (run (checkStep js node allow encodeURIComponent newDate) {} checks).bootstrapCache =
        some c → Published js node allow encodeURIComponent newDate checks c) ∧
    ∀ s check, check.readAt ≤ check.writtenAt →
      (Genuine js node allow encodeURIComponent newDate s check ↔ Sound js node allow s check) := by
  refine ⟨fun checks h => ?_, fun s check hclock => ⟨?_, ?_⟩⟩
  · have hgenuine := Along.of_inv (I := fun _ => True) (fun _ _ _ _ => trivial)
      (fun _ _ _ => genuine_of_sound js node allow encodeURIComponent newDate) trivial h
    exact ⟨hgenuine, published_of_along js node allow encodeURIComponent newDate hgenuine⟩
  · exact sound_of_genuine js node allow encodeURIComponent newDate hclock
  · exact genuine_of_sound js node allow encodeURIComponent newDate

end

/-- A check to which the registry answers as given. -/
def answeredCheck (res : SingleResponse) : DomainCheck where
  host := some "acme.com"
  now := 0
  readAt := 0
  writtenAt := 0
  net := answering fun _ => .ok res
  responseMs := 5

/-- The registry knows of no such file: from now on no domain has a server, for a day. -/
theorem not_genuine_missing :
    (checkStep plainHost webNode false id (fun _ => none) {}
        (answeredCheck (responded 404 ""))).bootstrapCache = some ⟨0, []⟩ ∧
      ¬ Genuine plainHost webNode false id (fun _ => none) {} (answeredCheck (responded 404 "")) := by
  have hloads : Loads plainHost {} (answeredCheck (responded 404 "")) := ⟨by decide +kernel, rfl⟩
  have hres : (bootstrapAnswer webNode false {} (answeredCheck (responded 404 ""))).toOption.map
      (·.2) = some (responded 404 "") := by decide +kernel
  obtain ⟨url, hanswer⟩ : ∃ url, bootstrapAnswer webNode false {} (answeredCheck (responded 404 "")) =
      .ok (url, responded 404 "") := by
    cases h : bootstrapAnswer webNode false {} (answeredCheck (responded 404 "")) with
    | error e =>
        rw [h] at hres
        cases hres
    | ok answer =>
        rw [h] at hres
        exact ⟨answer.1, by rw [← Option.some.inj hres]⟩
  have hcache := checkStep_loads plainHost webNode false id (fun _ => none) hloads
  rw [hanswer] at hcache
  refine ⟨hcache, fun h => ?_⟩
  have hsound := sound_of_genuine plainHost webNode false id (fun _ => none) (le_refl _) h
  rcases hsound _ ⟨hloads, url, hanswer⟩ with ⟨table, hpublishes⟩ | hunreadable
  · exact absurd hpublishes.success (by decide)
  · exact hunreadable.1 rfl

end UptimeFlow.Monitors
